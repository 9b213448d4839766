import Mathlib.Data.Bool.Basic
import OverlaySheet.Proofs.Sheet.Token

/-! Blanks around an equals sign: which of them a sign takes away, and which part tokens. -/

namespace OverlaySheet

namespace Text

/-- A text in which every character is a blank of ASCII. -/
def AsciiBlank (text : Text) : Prop :=
  ∀ c ∈ text, isAsciiBlank c = true

instance (text : Text) : Decidable (AsciiBlank text) :=
  List.decidableBAll (fun c => isAsciiBlank c = true) text

/-- The blanks that a text starts with. -/
def blanksBefore (text : Text) : Text :=
  text.takeWhile isBlank

/-- The blanks that a text ends with. -/
def blanksBehind (text : Text) : Text :=
  (text.reverse.takeWhile isBlank).reverse

/-- Two texts are blanks of ASCII together when each of them is. -/
@[simp] theorem asciiBlank_append_iff {left right : Text} :
    AsciiBlank (left ++ right) ↔ AsciiBlank left ∧ AsciiBlank right :=
  List.forall_mem_append

/-- Blanks in front of a text are in front of those that it starts with. -/
theorem blanksBefore_append {blanks : Text} (blank : Blank blanks) (text : Text) :
    blanksBefore (blanks ++ text) = blanks ++ blanksBefore text :=
  List.takeWhile_append_of_pos blank

/-- Blanks behind a text are behind those that it ends with. -/
theorem blanksBehind_append {blanks : Text} (blank : Blank blanks) (text : Text) :
    blanksBehind (text ++ blanks) = blanksBehind text ++ blanks := by
  -- Read backwards, the new blanks come before the old ones.
  have turned : ∀ c ∈ blanks.reverse, isBlank c = true := fun c member =>
    blank c (List.mem_reverse.1 member)
  rw [blanksBehind, List.reverse_append, List.takeWhile_append_of_pos turned,
    List.reverse_append, List.reverse_reverse, blanksBehind]

/-- A text is one of blanks, or it has a last character that is none, and blanks behind it. -/
theorem blank_or_endsSolid (text : Text) :
    Blank text ∨ ∃ front, EndsSolid front ∧ text = front ++ blanksBehind text := by
  obtain ⟨blanks, blank, whole, none | ends⟩ := trimEnd_split text
  · rw [none, List.nil_append] at whole
    exact .inl (whole ▸ blank)
  · refine .inr ⟨text.trimEnd, ends, ?_⟩
    -- The scan from behind passes over the blanks and stops at the solid character.
    obtain ⟨front, last, solidFront, solid⟩ := ends
    have behind : blanksBehind text = blanks := by
      rw [whole, blanksBehind_append blank, solidFront, blanksBehind]
      simp [solid]
    rw [behind]
    exact whole

/-- A text is one of blanks, or it has a first character that is none, and blanks before it. -/
theorem blank_or_opensSolid (text : Text) :
    Blank text ∨ ∃ back, OpensSolid back ∧ text = blanksBefore text ++ back := by
  have whole : blanksBefore text ++ text.trimStart = text := List.takeWhile_append_dropWhile
  cases rest : text.trimStart with
  | nil =>
    rw [rest, List.append_nil] at whole
    -- Nothing is left behind the blanks in front.
    exact .inl (whole ▸ fun c member => List.mem_takeWhile_imp member)
  | cons first others =>
    have head := List.head?_dropWhile_not isBlank text
    rw [← trimStart, rest] at head
    exact .inr ⟨first :: others, ⟨first, others, rfl, by simpa using head⟩, (rest ▸ whole).symm⟩

end Text

namespace Token

open Text (AsciiBlank Blank EndsSolid OpensSolid blanksBefore blanksBehind isBlank isAsciiBlank)

/--
The tokens of two texts that meet, from the tokens of each.

When the texts are glued, the last token of the first and the first of the second are one.
-/
def meetAt (glued : Bool) (left right : List Text) : List Text :=
  match left.getLast?, right with
  | some last, first :: after =>
    if glued then left.dropLast ++ (last ++ first) :: after else left ++ right
  | _, _ => left ++ right

/-- Without tokens on the left, those on the right stay as they are. -/
@[simp] theorem meetAt_nil_left (glued : Bool) (right : List Text) :
    meetAt glued [] right = right := by
  cases right <;> rfl

/-- Without tokens on the right, those on the left stay as they are. -/
@[simp] theorem meetAt_nil_right (glued : Bool) (left : List Text) :
    meetAt glued left [] = left := by
  cases last : left.getLast? <;> simp [meetAt, last]

/-- Apart, all tokens stay as they are. -/
@[simp] theorem meetAt_apart (left right : List Text) :
    meetAt false left right = left ++ right := by
  cases last : left.getLast? <;> cases right <;> simp [meetAt, last]

/-- Glued, the two tokens that meet become one. -/
@[simp] theorem meetAt_glued (before : List Text) (last first : Text) (after : List Text) :
    meetAt true (before ++ [last]) (first :: after) = before ++ (last ++ first) :: after := by
  simp [meetAt]

/-- Glue between tokens takes one away, and nothing else changes their number. -/
theorem length_meetAt {left right : List Text} (leftTokens : left ≠ []) (rightTokens : right ≠ [])
    (glued : Bool) :
    (meetAt glued left right).length + glued.toNat = left.length + right.length := by
  -- Glued, the last token on the left and the first on the right become one.
  cases glued with
  | false => simp
  | true =>
    obtain ⟨first, after, rfl⟩ := List.exists_cons_of_ne_nil rightTokens
    rw [← List.dropLast_concat_getLast leftTokens, meetAt_glued]
    simp
    omega

/-- Tokens meet in tokens, if there are any. -/
theorem meetAt_ne_nil {left : List Text} (leftTokens : left ≠ []) (glued : Bool)
    (right : List Text) : meetAt glued left right ≠ [] := by
  cases right with
  | nil => rwa [meetAt_nil_right]
  | cons first after =>
    -- At most one token goes, and there are two at least.
    have length := length_meetAt leftTokens (List.cons_ne_nil first after) glued
    have positive := List.length_pos_iff.2 leftTokens
    intro none
    rw [none, List.length_nil, List.length_cons] at length
    cases glued <;> simp at length
    omega

/-- A text has no token exactly when it holds blanks alone. -/
theorem split_eq_nil_iff {text : Text} : split text = [] ↔ Blank text := by
  rcases Text.blank_or_endsSolid text with blank | ⟨front, ends, whole⟩
  · have none := split_blanks_append blank []
    rw [List.append_nil] at none
    exact iff_of_true (none.trans rfl) blank
  · have blanks : Blank (blanksBehind text) := fun c member =>
      List.mem_takeWhile_imp (List.mem_reverse.1 member)
    refine iff_of_false ?_ fun blank => ?_
    · -- A text that ends with a solid character has the token that holds it.
      rw [whole, split_append_blanks ends blanks]
      exact split_ne_nil ends
    · -- The last solid character would be a blank.
      obtain ⟨inner, last, rfl, solid⟩ := ends
      have isBlankLast := blank last (by rw [whole]; simp)
      simp [solid] at isBlankLast

/-- Blanks behind a text add no token. -/
theorem split_append_blank (text : Text) {blanks : Text} (blank : Blank blanks) :
    split (text ++ blanks) = split text := by
  rcases Text.blank_or_endsSolid text with none | ⟨front, ends, whole⟩
  · rw [split_eq_nil_iff.2 none, split_eq_nil_iff]
    exact List.forall_mem_append.2 ⟨none, blank⟩
  · have behind : Blank (blanksBehind text) := fun c member =>
      List.mem_takeWhile_imp (List.mem_reverse.1 member)
    -- The blanks that were there and the new ones are all behind the last solid character.
    rw [whole, List.append_assoc, split_append_blanks ends behind,
      split_append_blanks ends (List.forall_mem_append.2 ⟨behind, blank⟩)]

/-- Behind a sign, the blanks of ASCII go, up to the first other character. -/
theorem tightenAfter_sign_blanks {blanks : Text} (ascii : AsciiBlank blanks) (rest : Text) :
    tightenAfter true (blanks ++ rest) = tightenAfter true rest := by
  induction blanks with
  | nil => rfl
  -- The sign has been passed, so each blank of ASCII is dropped and the state stays the same.
  | cons c blanks ih =>
    obtain ⟨here, there⟩ := List.forall_mem_cons.1 ascii
    rw [List.cons_append, tightenAfter, if_neg (ne_equals_of_isAsciiBlank here), if_pos here,
      if_pos (by simp), ih there]

/-- Behind a sign, another blank than those of ASCII stays, and some blank comes first. -/
theorem head?_tightenAfter_sign {blanks : Text} (blank : Blank blanks)
    (notAscii : ¬ AsciiBlank blanks) (rest : Text) :
    (tightenAfter true (blanks ++ rest)).head?.all isBlank = true := by
  induction blanks with
  | nil => exact absurd (List.forall_mem_nil _) notAscii
  | cons c blanks ih =>
    obtain ⟨here, there⟩ := List.forall_mem_cons.1 blank
    by_cases ascii : isAsciiBlank c = true
    · -- This one goes, so the other blank is further behind.
      have later : ¬ AsciiBlank blanks := fun all => notAscii (List.forall_mem_cons.2 ⟨ascii, all⟩)
      rw [List.cons_append, tightenAfter, if_neg (ne_equals_of_isAsciiBlank ascii), if_pos ascii,
        if_pos (by simp)]
      exact ih there later
    · rw [List.cons_append, tightenAfter_cons (by simpa using ascii)]
      simpa using here

/-- Before a sign, blanks of ASCII go, whatever stands before them. -/
theorem tightenAfter_blanks_sign {blanks : Text} (ascii : AsciiBlank blanks) (equalsBefore : Bool)
    (rest : Text) :
    tightenAfter equalsBefore (blanks ++ '=' :: rest) = '=' :: tightenAfter true rest := by
  induction blanks with
  | nil => exact tightenAfter_cons (by decide) equalsBefore rest
  | cons c blanks ih =>
    obtain ⟨here, there⟩ := List.forall_mem_cons.1 ascii
    -- The run of blanks ends at the sign.
    have stop : ((blanks ++ '=' :: rest).dropWhile isAsciiBlank).head? = some '=' := by
      rw [List.dropWhile_append_of_pos there, List.dropWhile_cons]
      rfl
    rw [List.cons_append, tightenAfter, if_neg (ne_equals_of_isAsciiBlank here), if_pos here,
      if_pos (by simp [stop]), ih there]

/-- Before a sign, blanks of which one is beyond ASCII leave at least one blank. -/
theorem tightenAfter_mixed_sign {blanks : Text} (blank : Blank blanks)
    (notAscii : ¬ AsciiBlank blanks) (equalsBefore : Bool) (rest : Text) :
    ∃ kept, kept ≠ [] ∧ Blank kept ∧
      tightenAfter equalsBefore (blanks ++ '=' :: rest) =
        kept ++ '=' :: tightenAfter true rest := by
  induction blanks generalizing equalsBefore with
  | nil => exact absurd (List.forall_mem_nil _) notAscii
  | cons c blanks ih =>
    obtain ⟨here, there⟩ := List.forall_mem_cons.1 blank
    by_cases ascii : isAsciiBlank c = true
    · -- The other blank is further behind, and this one stays or goes.
      have later : ¬ AsciiBlank blanks := fun all => notAscii (List.forall_mem_cons.2 ⟨ascii, all⟩)
      rw [List.cons_append, tightenAfter, if_neg (ne_equals_of_isAsciiBlank ascii), if_pos ascii]
      split
      · exact ih there later equalsBefore
      · obtain ⟨kept, _, blankKept, known⟩ := ih there later false
        exact ⟨c :: kept, List.cons_ne_nil c kept, List.forall_mem_cons.2 ⟨here, blankKept⟩,
          by rw [known, List.cons_append]⟩
    · -- This one is beyond ASCII, so it stays, and those behind it may all go.
      have solid : isAsciiBlank c = false := by simpa using ascii
      rw [List.cons_append, tightenAfter_cons solid]
      by_cases others : AsciiBlank blanks
      · exact ⟨[c], List.cons_ne_nil c [], List.forall_mem_singleton.2 here,
          by rw [tightenAfter_blanks_sign others, List.singleton_append]⟩
      · obtain ⟨kept, _, blankKept, known⟩ := ih there others (c == '=')
        exact ⟨c :: kept, List.cons_ne_nil c kept, List.forall_mem_cons.2 ⟨here, blankKept⟩,
          by rw [known, List.cons_append]⟩

/-- A sign and the tokens behind it meet glued when only blanks of ASCII are between them. -/
theorem split_cons_equals (right : Text) :
    split ('=' :: right) =
      meetAt (decide (AsciiBlank (blanksBefore right))) [['=']] (split right) := by
  have tightened : tighten ('=' :: right) = '=' :: tightenAfter true right :=
    tightenAfter_cons (by decide) false right
  rw [split, tightened, ← words_tightenAfter true right]
  rcases Text.blank_or_opensSolid right with blank | ⟨back, opens, whole⟩
  · -- Behind the sign no token comes, and blanks at most.
    -- Tightening only leaves characters out, so no token can come from blanks.
    have kept : ∀ c ∈ tightenAfter true right, isBlank c = true := fun c member =>
      blank c ((tightenAfter_sublist _ _).subset member)
    have noToken : Text.words (tightenAfter true right) = [] := Text.words_eq_nil_iff.2 kept
    rw [noToken, meetAt_nil_right, ← List.singleton_append, Text.words_append_blanks kept]
    rfl
  · by_cases ascii : AsciiBlank (blanksBefore right)
    · -- The blanks go, and the character behind them joins the sign.
      obtain ⟨first, rest, rfl, solid⟩ := opens
      have joined : tightenAfter true right = first :: tightenAfter (first == '=') rest := by
        rw [whole, tightenAfter_sign_blanks ascii,
          tightenAfter_cons (Text.isAsciiBlank_of_not_isBlank solid)]
      obtain ⟨word, others, found, _⟩ := Text.words_of_opensSolid
        (show OpensSolid (tightenAfter true right) from ⟨first, _, joined, solid⟩)
      rw [Text.words_cons_longer isBlank_equals (by simp [joined, solid]), found,
        decide_eq_true ascii]
      exact (meetAt_glued [] ['='] word others).symm
    · -- One blank of the gap is kept, and with it the sign is a token of its own.
      have gap : (tightenAfter true right).head?.all isBlank = true := by
        rw [whole]
        exact head?_tightenAfter_sign (fun c member => List.mem_takeWhile_imp member) ascii back
      rw [Text.words_cons_single isBlank_equals gap, decide_eq_false ascii, meetAt_apart]
      rfl

/-- The tokens before a sign meet it glued when only blanks of ASCII are between them. -/
theorem split_append_equals (left right : Text) :
    split (left ++ '=' :: right) =
      meetAt (decide (AsciiBlank (blanksBehind left))) (split left) (split ('=' :: right)) := by
  rcases Text.blank_or_endsSolid left with blank | ⟨front, ends, whole⟩
  · -- Blanks in front of the sign make no token, so there is nothing to glue.
    rw [split_blanks_append blank, split_eq_nil_iff.2 blank, meetAt_nil_left]
  · have behind : Blank (blanksBehind left) := fun c member =>
      List.mem_takeWhile_imp (List.mem_reverse.1 member)
    have opens : OpensSolid (tighten ('=' :: right)) :=
      (tighten_opensSolid ⟨'=', right, rfl, isBlank_equals⟩).1
    have signed : tighten ('=' :: right) = '=' :: tightenAfter true right :=
      tightenAfter_cons (by decide) false right
    generalize blanksBehind left = blanks at whole behind ⊢
    subst whole
    rw [split_append_blanks ends behind]
    -- Tightening passes the last solid character, and then come the blanks before the sign.
    obtain ⟨inner, c, rfl, solid⟩ := ends
    obtain ⟨tight, known⟩ :=
      tightenAfter_append inner (Text.isAsciiBlank_of_not_isBlank solid) false
    have front : tighten (inner ++ [c]) = tight ++ [c] := known []
    have all : tighten (inner ++ [c] ++ blanks ++ '=' :: right) =
        tight ++ [c] ++ tightenAfter (c == '=') (blanks ++ '=' :: right) := by
      simpa [tighten] using known (blanks ++ '=' :: right)
    rw [split, all]
    by_cases ascii : AsciiBlank blanks
    · -- All blanks before the sign are dropped, and the words on both sides of them grow together.
      obtain ⟨before, last, first, after, frontWords, signWords, joined, _⟩ :=
        Text.words_append_glue (show EndsSolid (tight ++ [c]) from ⟨tight, c, rfl, solid⟩) opens
      rw [tightenAfter_blanks_sign ascii, ← signed, joined, decide_eq_true ascii, split, front,
        frontWords, split, signWords, meetAt_glued]
    · -- The blanks that are left still part the two sides.
      obtain ⟨kept, nonempty, blankKept, known⟩ :=
        tightenAfter_mixed_sign behind ascii (c == '=') right
      have gap : (kept ++ tighten ('=' :: right)).head?.all isBlank = true := by
        obtain ⟨e, others, rfl⟩ := List.exists_cons_of_ne_nil nonempty
        simpa using blankKept e (by simp)
      rw [known, ← signed, Text.words_append_cut gap, Text.words_blanks_append blankKept,
        decide_eq_false ascii, meetAt_apart, split, front, split]

/-- With less glue on either side of some tokens, more tokens come out, if there are any to glue. -/
theorem meetAt_meetAt_eq_iff {left middle right : List Text} (tokens : middle ≠ [])
    {lessLeft moreLeft lessRight moreRight : Bool} (onLeft : lessLeft ≤ moreLeft)
    (onRight : lessRight ≤ moreRight) :
    meetAt lessLeft left (meetAt lessRight middle right) =
        meetAt moreLeft left (meetAt moreRight middle right) ↔
      (left = [] ∨ lessLeft = moreLeft) ∧ (right = [] ∨ lessRight = moreRight) := by
  have countLeft : lessLeft.toNat ≤ moreLeft.toNat := Bool.toNat_le_toNat onLeft
  have countRight : lessRight.toNat ≤ moreRight.toNat := Bool.toNat_le_toNat onRight
  have alike : ∀ first second : Bool, first.toNat = second.toNat → first = second := by decide
  constructor
  · intro same
    -- The numbers of tokens are the same only when neither side has less glue.
    have numbers := congrArg List.length same
    have nonempty := fun glued => meetAt_ne_nil tokens glued right
    by_cases noLeft : left = []
    · subst noLeft
      refine ⟨.inl rfl, ?_⟩
      by_cases noRight : right = []
      · exact .inl noRight
      · have less := length_meetAt tokens noRight lessRight
        have more := length_meetAt tokens noRight moreRight
        rw [meetAt_nil_left, meetAt_nil_left] at numbers
        exact .inr (alike _ _ (by omega))
    · have less := length_meetAt noLeft (nonempty lessRight) lessLeft
      have more := length_meetAt noLeft (nonempty moreRight) moreLeft
      by_cases noRight : right = []
      · subst noRight
        rw [meetAt_nil_right] at less
        rw [meetAt_nil_right] at more
        rw [meetAt_nil_right, meetAt_nil_right] at numbers
        exact ⟨.inr (alike _ _ (by omega)), .inl rfl⟩
      · have lessInner := length_meetAt tokens noRight lessRight
        have moreInner := length_meetAt tokens noRight moreRight
        exact ⟨.inr (alike _ _ (by omega)), .inr (alike _ _ (by omega))⟩
  · -- The other way round, a side without tokens or with the same glue makes no difference.
    rintro ⟨noneOrLeft, noneOrRight⟩
    have inner : meetAt lessRight middle right = meetAt moreRight middle right := by
      rcases noneOrRight with rfl | rfl
      · rw [meetAt_nil_right, meetAt_nil_right]
      · rfl
    rw [inner]
    rcases noneOrLeft with rfl | rfl
    · rw [meetAt_nil_left, meetAt_nil_left]
    · rfl

/--
More blanks between a text and a sign make no difference, if some blanks are there already.

The new ones are of ASCII, or the text has no token that they could part from the sign, or a blank
beyond ASCII parts them already.
-/
def Slack (text already more : Text) : Prop :=
  Blank text ∨ AsciiBlank more ∨ ¬ AsciiBlank already

/-- That is, the text has no token, or more blanks are of ASCII exactly when those there are. -/
theorem slack_iff {text already more : Text} :
    Slack text already more ↔
      split text = [] ∨ (AsciiBlank already ∧ AsciiBlank more ↔ AsciiBlank already) := by
  rw [Slack, split_eq_nil_iff]
  -- Blanks that were all of ASCII part nothing, and then only the new ones may.
  refine or_congr_right ?_
  by_cases ascii : AsciiBlank already
  · simp [ascii]
  · simp [ascii]

/--
Exactly when blanks around an equals sign do not count.

Blanks of ASCII never do.
Another blank parts the token next to it from the sign, unless such a blank was there before.
-/
theorem split_padded_sign_iff (left right : Text) {before after : Text} (blankBefore : Blank before)
    (blankAfter : Blank after) :
    split (left ++ before ++ '=' :: (after ++ right)) = split (left ++ '=' :: right) ↔
      Slack left (blanksBehind left) before ∧ Slack right (blanksBefore right) after := by
  -- Both texts have the same tokens around the sign, and they may be glued in other ways.
  have padded : split (left ++ before ++ '=' :: (after ++ right)) =
      meetAt (decide (AsciiBlank (blanksBehind left ++ before))) (split left)
        (meetAt (decide (AsciiBlank (after ++ blanksBefore right))) [['=']] (split right)) := by
    rw [split_append_equals, split_cons_equals, split_append_blank left blankBefore,
      split_blanks_append blankAfter, Text.blanksBehind_append blankBefore,
      Text.blanksBefore_append blankAfter]
  rw [padded, split_append_equals, split_cons_equals, meetAt_meetAt_eq_iff (List.cons_ne_nil _ _),
    slack_iff, slack_iff, decide_eq_decide, decide_eq_decide, Text.asciiBlank_append_iff,
    Text.asciiBlank_append_iff, and_comm (a := AsciiBlank after)]
  -- More blanks never glue what was apart.
  · rw [Bool.le_iff_imp, decide_eq_true_iff, decide_eq_true_iff]
    exact fun both => (Text.asciiBlank_append_iff.1 both).1
  · rw [Bool.le_iff_imp, decide_eq_true_iff, decide_eq_true_iff]
    exact fun both => (Text.asciiBlank_append_iff.1 both).2

/-- A no-break space behind the sign makes a difference when a token follows it. -/
theorem split_padded_sign_iff_no_break :
    Blank ['\u00a0'] ∧
      split "k =\u00a0".toList = split "k=".toList ∧
      split "k=\u00a0v".toList ≠ split "k=v".toList := by
  have blank : Blank ['\u00a0'] := by decide
  refine ⟨blank, ?_, fun same => ?_⟩
  · -- At the end of the text the blank parts nothing.
    exact (@split_padded_sign_iff ['k'] [] [' '] ['\u00a0'] (by decide) blank).2
      ⟨.inr (.inl (by decide)), .inl (by decide)⟩
  · -- Between the sign and a token the blank parts the two, against both of the reasons.
    have slack := ((@split_padded_sign_iff ['k'] ['v'] [] ['\u00a0'] (by decide) blank).1 same).2
    exact absurd slack (by unfold Slack; decide)

/-- It is not so that no blanks around an equals sign count. -/
theorem sign_blanks_may_count :
    ¬ ∀ left right before after : Text, Blank before → Blank after →
      split (left ++ before ++ '=' :: (after ++ right)) = split (left ++ '=' :: right) := by
  intro never
  -- One text is enough: a no-break space is a blank, and not one of ASCII.
  have same := never ['k'] ['v'] [] ['\u00a0'] (by decide) (by decide)
  exact absurd same (by decide)

end Token

end OverlaySheet
