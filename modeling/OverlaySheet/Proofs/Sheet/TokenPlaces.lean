import Mathlib.Data.List.Chain
import Mathlib.Data.List.DropRight
import OverlaySheet.Proofs.Sheet.Inline
import OverlaySheet.Proofs.Sheet.SignGap

/-! Places of tokens: which characters of a text are in one token, told by the gap between them. -/

namespace OverlaySheet.Token

open Text (AsciiBlank Blank EndsSolid OpensSolid Solid isBlank isAsciiBlank)

/-- What signs next to a gap leave of it: its blanks of ASCII go from an end where a sign stands. -/
def gapLeft (signBefore signBehind : Bool) (gap : Text) : Text :=
  -- The sign in front takes its blanks first, which may be all there are.
  let behindSign := if signBefore then gap.dropWhile isAsciiBlank else gap
  if signBehind then behindSign.rdropWhile isAsciiBlank else behindSign

/-- The character at a place among those of all tokens is in one token with the next character. -/
def Together (tokens : List Text) (place : Nat) : Prop :=
  ∃ before token after, tokens = before ++ token :: after ∧
    before.flatten.length ≤ place ∧ place + 1 < before.flatten.length + token.length

section Gaps

variable {gap : Text} {signBehind : Bool}

/-- Taking blanks of ASCII from the end of a gap stops at the latest behind another character. -/
theorem rdropWhile_cons_of_not_ascii {c : Char} (other : isAsciiBlank c = false) :
    (c :: gap).rdropWhile isAsciiBlank = c :: gap.rdropWhile isAsciiBlank := by
  -- From the end, the character is reached only behind the whole gap, and there it stays.
  rw [List.rdropWhile, List.rdropWhile, List.reverse_cons, List.dropWhile_append]
  split
  · next none => simp [List.isEmpty_iff.1 none, other]
  · simp

/-- It does not reach the front of a gap that is not of ASCII alone. -/
theorem rdropWhile_cons_of_mixed {c : Char} (mixed : ¬ AsciiBlank gap) :
    (c :: gap).rdropWhile isAsciiBlank = c :: gap.rdropWhile isAsciiBlank := by
  -- Something is left of the gap, and the blank in front of it is not reached.
  have some : gap.rdropWhile isAsciiBlank ≠ [] := fun none =>
    mixed (List.rdropWhile_eq_nil_iff.1 none)
  have some' : gap.reverse.dropWhile isAsciiBlank ≠ [] := fun none =>
    some (by rw [List.rdropWhile, none, List.reverse_nil])
  rw [List.rdropWhile, List.rdropWhile, List.reverse_cons, List.dropWhile_append,
    if_neg (by simpa using some')]
  simp

/-- Behind a sign, a blank of ASCII goes. -/
theorem gapLeft_sign_cons {c : Char} (ascii : isAsciiBlank c = true) :
    gapLeft true signBehind (c :: gap) = gapLeft true signBehind gap := by
  simp [gapLeft, ascii]

/-- Another character stays, and it hides the sign before it. -/
theorem gapLeft_cons_of_not_ascii {c : Char} (other : isAsciiBlank c = false) (signBefore : Bool) :
    gapLeft signBefore signBehind (c :: gap) = c :: gapLeft false signBehind gap := by
  -- Nothing is taken from the front, where this character stands.
  have stays : (c :: gap).dropWhile isAsciiBlank = c :: gap := by simp [other]
  cases signBehind with
  | false => cases signBefore <;> simp [gapLeft, stays]
  | true => cases signBefore <;> simp [gapLeft, stays, rdropWhile_cons_of_not_ascii other]

/-- Without a sign before it, the front of a gap stays unless blanks of ASCII go up to a sign. -/
theorem gapLeft_cons_of_stays {c : Char} (stays : ¬ (AsciiBlank gap ∧ signBehind = true)) :
    gapLeft false signBehind (c :: gap) = c :: gapLeft false signBehind gap := by
  cases signBehind with
  | false => rfl
  | true =>
    -- With a sign behind it, the gap is not of ASCII alone, or else it would go up to the sign.
    have mixed : ¬ AsciiBlank gap := fun ascii => stays ⟨ascii, rfl⟩
    simp [gapLeft, rdropWhile_cons_of_mixed mixed]

/-- A gap of ASCII goes as a whole when there is a sign at one of its ends. -/
theorem gapLeft_of_ascii (ascii : AsciiBlank gap) {signBefore : Bool}
    (sign : signBefore = true ∨ signBehind = true) : gapLeft signBefore signBehind gap = [] := by
  have fromFront : gap.dropWhile isAsciiBlank = [] := List.dropWhile_eq_nil_iff.2 ascii
  have fromEnd : gap.rdropWhile isAsciiBlank = [] := List.rdropWhile_eq_nil_iff.2 ascii
  -- From the end with the sign everything is taken away.
  rcases sign with rfl | rfl
  · cases signBehind <;> simp [gapLeft, fromFront]
  · cases signBefore <;> simp [gapLeft, fromFront, fromEnd]

/-- What is left of blanks are blanks. -/
theorem blank_gapLeft (blank : Blank gap) (signBefore signBehind : Bool) :
    Blank (gapLeft signBefore signBehind gap) := by
  -- Blanks are taken from the front or from the end and never added.
  have fewer : (gapLeft signBefore signBehind gap).Sublist gap := by
    rw [gapLeft]
    split <;> split
    · exact (List.rdropWhile_prefix _ _).sublist.trans (List.dropWhile_sublist _)
    · exact (List.rdropWhile_prefix _ _).sublist
    · exact List.dropWhile_sublist _
    · exact List.Sublist.refl _
  exact fun c member => blank c (fewer.subset member)

/-- The run of ASCII blanks that a gap starts with ends at a sign when they are the whole gap. -/
theorem head?_dropWhile_gap (blank : Blank gap) {next : Char} (solid : isBlank next = false)
    (rest : Text) :
    ((gap ++ next :: rest).dropWhile isAsciiBlank).head? = some '=' ↔
      AsciiBlank gap ∧ next = '=' := by
  -- The next character is solid, so it is no blank of ASCII and ends the run at the latest.
  have other : isAsciiBlank next = false := Text.isAsciiBlank_of_not_isBlank solid
  by_cases ascii : AsciiBlank gap
  · rw [List.dropWhile_append_of_pos ascii]
    simp [other, ascii]
  · -- The run ends at a blank beyond ASCII, which is no sign.
    refine iff_of_false (fun found => ?_) fun parts => ascii parts.1
    have stops : gap.dropWhile isAsciiBlank ≠ [] := fun none =>
      ascii (List.dropWhile_eq_nil_iff.1 none)
    rw [List.dropWhile_append, if_neg (by simpa using stops),
      List.head?_append_of_ne_nil _ stops] at found
    have isSign := blank '=' ((List.dropWhile_sublist _).subset (List.mem_of_head? found))
    rw [isBlank_equals] at isSign
    cases isSign

/-- Tightening leaves of a gap what the signs next to it leave. -/
theorem tightenAfter_gap (blank : Blank gap) {next : Char} (solid : isBlank next = false)
    (rest : Text) (signBefore : Bool) :
    tightenAfter signBefore (gap ++ next :: rest) =
      gapLeft signBefore (next == '=') gap ++ tighten (next :: rest) := by
  induction gap generalizing signBefore with
  -- The gap is empty, so the next character follows and is kept, as it is solid.
  | nil =>
    have other : isAsciiBlank next = false := Text.isAsciiBlank_of_not_isBlank solid
    have nothing : gapLeft signBefore (next == '=') [] = [] := by simp [gapLeft]
    rw [nothing, List.nil_append, List.nil_append, tighten, tightenAfter_cons other,
      tightenAfter_cons other]
  | cons c gap ih =>
    obtain ⟨here, there⟩ := List.forall_mem_cons.1 blank
    by_cases ascii : isAsciiBlank c = true
    · rw [List.cons_append, tightenAfter, if_neg (ne_equals_of_isAsciiBlank ascii), if_pos ascii]
      cases signBefore with
      | true => rw [if_pos (by simp), ih there, gapLeft_sign_cons ascii]
      | false =>
        -- Without a sign before it, the blank goes with a run of them that ends at a sign.
        by_cases goes : AsciiBlank gap ∧ next = '='
        · have signed : (next == '=') = true := by simpa using goes.2
          have whole : AsciiBlank (c :: gap) := List.forall_mem_cons.2 ⟨ascii, goes.1⟩
          rw [if_pos (by simpa using (head?_dropWhile_gap there solid rest).2 goes), ih there,
            gapLeft_of_ascii goes.1 (.inr signed), gapLeft_of_ascii whole (.inr signed)]
        · rw [if_neg (by simpa using mt (head?_dropWhile_gap there solid rest).1 goes), ih there,
            gapLeft_cons_of_stays (by simpa using goes), List.cons_append]
    · -- A blank beyond ASCII stays, and behind it no sign is near.
      have other : isAsciiBlank c = false := by simpa using ascii
      have unsigned : (c == '=') = false := by
        refine beq_eq_false_iff_ne.2 fun sign => ?_
        rw [sign, isBlank_equals] at here
        cases here
      rw [List.cons_append, tightenAfter_cons other, unsigned, ih there,
        gapLeft_cons_of_not_ascii other, List.cons_append]

end Gaps

section Places

variable {left right : List Text} {place : Nat}

/-- Where one row of tokens ends and another begins, two characters are not in one token. -/
theorem not_together_append (ends : left.flatten.length = place + 1) :
    ¬ Together (left ++ right) place := by
  intro together
  obtain ⟨before, token, after, split, least, greatest⟩ := together
  -- The token is in one of the two rows, so it ends before the second or starts behind the first.
  rcases List.append_eq_append_iff.1 split with ⟨middle, rfl, _⟩ | ⟨middle, rfl, other⟩
  · rw [List.flatten_append, List.length_append] at least
    omega
  · rw [List.flatten_append, List.length_append] at ends
    cases middle with
    | nil =>
      rw [List.flatten_nil, List.length_nil] at ends
      omega
    | cons first middle =>
      obtain ⟨rfl, _⟩ := List.cons.inj other
      rw [List.flatten_cons, List.length_append] at ends
      omega

/-- Two rows of tokens have their characters at the meeting in one token when they are glued. -/
theorem together_meetAt_iff (leftTokens : left ≠ []) (rightTokens : right ≠ [])
    (nonempty : ∀ token ∈ left ++ right, token ≠ []) (ends : left.flatten.length = place + 1)
    (glued : Bool) : Together (meetAt glued left right) place ↔ glued = true := by
  cases glued with
  -- Apart, a token ends exactly at the place.
  | false =>
    rw [meetAt_apart]
    exact iff_of_false (not_together_append ends) (by decide)
  | true =>
    refine iff_of_true ?_ rfl
    obtain ⟨first, after, rfl⟩ := List.exists_cons_of_ne_nil rightTokens
    have last := List.length_pos_iff.2
      (nonempty _ (List.mem_append_left _ (List.getLast_mem leftTokens)))
    have next := List.length_pos_iff.2 (nonempty first (by simp))
    -- The token that is glued holds the last character of one row and the first of the other.
    rw [← List.dropLast_concat_getLast leftTokens] at ends ⊢
    rw [List.flatten_append, List.length_append, List.flatten_singleton] at ends
    rw [meetAt_glued]
    refine ⟨_, _, _, rfl, by omega, ?_⟩
    rw [List.length_append]
    omega

end Places

section Splitting

variable {front gap back : Text} {c d : Char}

/-- The tokens on both sides of a gap meet glued when the signs next to it leave nothing of it. -/
theorem split_across_gap (solidBefore : isBlank c = false) (blank : Blank gap)
    (solidBehind : isBlank d = false) :
    split (front ++ c :: (gap ++ d :: back)) =
      meetAt (decide (gapLeft (c == '=') (d == '=') gap = [])) (split (front ++ [c]))
        (split (d :: back)) := by
  -- Tightening passes the text up to the solid character, and the gap behind it comes next.
  obtain ⟨tight, known⟩ :=
    tightenAfter_append front (Text.isAsciiBlank_of_not_isBlank solidBefore) false
  have whole : tighten (front ++ [c]) = tight ++ [c] := known []
  have all : tighten (front ++ c :: (gap ++ d :: back)) =
      (tight ++ [c]) ++ (gapLeft (c == '=') (d == '=') gap ++ tighten (d :: back)) := by
    have kept := known (gap ++ d :: back)
    rw [tightenAfter_gap blank solidBehind] at kept
    simpa [tighten] using kept
  have leftEnd : EndsSolid (tight ++ [c]) := ⟨tight, c, rfl, solidBefore⟩
  have rightStart : OpensSolid (tighten (d :: back)) :=
    (tighten_opensSolid ⟨d, back, rfl, solidBehind⟩).1
  have keptBlank := blank_gapLeft blank (c == '=') (d == '=')
  rw [split, all, split, whole, split]
  cases kept : gapLeft (c == '=') (d == '=') gap with
  -- Nothing parts the words, so the last on the left and the first on the right are one.
  | nil =>
    obtain ⟨before, last, first, after, leftWords, rightWords, joined, _⟩ :=
      Text.words_append_glue leftEnd rightStart
    rw [List.nil_append, joined, leftWords, rightWords, decide_eq_true rfl, meetAt_glued]
  -- Some blank is left, and the words part there.
  | cons e others =>
    rw [kept] at keptBlank
    have parts : (e :: others ++ tighten (d :: back)).head?.all isBlank = true := by
      simpa using keptBlank e (List.mem_cons_self ..)
    rw [Text.words_append_cut parts, Text.words_blanks_append keptBlank,
      decide_eq_false (List.cons_ne_nil e others), meetAt_apart]

/-- Two characters with a gap between them are in one token when nothing is left of the gap. -/
theorem together_split_iff (solidBefore : isBlank c = false) (blank : Blank gap)
    (solidBehind : isBlank d = false) :
    Together (split (front ++ c :: (gap ++ d :: back)))
        (front.filter fun e => !isBlank e).length ↔
      gapLeft (c == '=') (d == '=') gap = [] := by
  -- The character before the gap is the last one of the tokens on the left.
  have ends : (split (front ++ [c])).flatten.length =
      (front.filter fun e => !isBlank e).length + 1 := by
    rw [flatten_split, List.filter_append]
    simp [solidBefore]
  have nonempty : ∀ token ∈ split (front ++ [c]) ++ split (d :: back), token ≠ [] := by
    intro token member
    rcases List.mem_append.1 member with before | behind
    · exact (mem_split before).1
    · exact (mem_split behind).1
  have leftTokens : split (front ++ [c]) ≠ [] := split_ne_nil ⟨front, c, rfl, solidBefore⟩
  have rightTokens : split (d :: back) ≠ [] := fun none => by
    have blankBehind := split_eq_nil_iff.1 none d (List.mem_cons_self ..)
    rw [solidBehind] at blankBehind
    cases blankBehind
  rw [split_across_gap solidBefore blank solidBehind,
    together_meetAt_iff leftTokens rightTokens nonempty ends, decide_eq_true_iff]

end Splitting

/-- Between two neighbouring tokens there is a gap of which the signs next to it leave something. -/
theorem exists_gap_of_neighbours {text left right : Text} {before after : List Text}
    (neighbours : split text = before ++ left :: right :: after) :
    ∃ front c gap d back, text = front ++ c :: (gap ++ d :: back) ∧ Blank gap ∧
      left.getLast? = some c ∧ right.head? = some d ∧ gapLeft (c == '=') (d == '=') gap ≠ [] := by
  have leftNonempty := (mem_split (show left ∈ split text by rw [neighbours]; simp)).1
  have rightNonempty := (mem_split (show right ∈ split text by rw [neighbours]; simp)).1
  obtain ⟨d, behind, rfl⟩ := List.exists_cons_of_ne_nil rightNonempty
  obtain ⟨inner, c, rfl⟩ : ∃ inner c, left = inner ++ [c] :=
    ⟨_, _, (List.dropLast_concat_getLast leftNonempty).symm⟩
  -- The characters of the tokens are those of the text, with gaps between them.
  have characters : (text.filter fun e => !isBlank e) =
      (before.flatten ++ inner) ++ c :: d :: (behind ++ after.flatten) := by
    rw [← flatten_split, neighbours]
    simp
  obtain ⟨front, others, rfl, inFront, rest⟩ := List.filter_eq_append_iff.1 characters
  obtain ⟨blanks, rest, rfl, noneBefore, solidBefore, further⟩ := List.filter_eq_cons_iff.1 rest
  obtain ⟨gap, back, rfl, noneBetween, solidBehind, _⟩ := List.filter_eq_cons_iff.1 further
  have blank : Blank gap := fun e member => by simpa using noneBetween e member
  have nothing : blanks.filter (fun e => !isBlank e) = [] := List.filter_eq_nil_iff.2 noneBefore
  refine ⟨front ++ blanks, c, gap, d, back, by simp, blank, by simp, rfl, fun none => ?_⟩
  -- With nothing left, the two characters would be in one token, and a token ends between them.
  have together : Together (split ((front ++ blanks) ++ c :: (gap ++ d :: back)))
      ((front ++ blanks).filter fun e => !isBlank e).length :=
    (together_split_iff (by simpa using solidBefore) blank (by simpa using solidBehind)).2 none
  have place : ((front ++ blanks).filter fun e => !isBlank e).length =
      (before.flatten ++ inner).length := by
    rw [List.filter_append, inFront, nothing, List.append_nil]
  have tokens : split (front ++ blanks ++ c :: (gap ++ d :: back)) =
      (before ++ [inner ++ [c]]) ++ (d :: behind) :: after := by
    simpa using neighbours
  have ends : (before ++ [inner ++ [c]]).flatten.length = (before.flatten ++ inner).length + 1 := by
    simp only [List.flatten_append, List.flatten_singleton, List.length_append,
      List.length_singleton]
    omega
  rw [place, tokens] at together
  exact not_together_append ends together

/-- The tokens of a text whose blanks are of ASCII are kept apart when they are joined. -/
theorem separate_split {text : Text}
    (ascii : ∀ c ∈ text, isBlank c = true → isAsciiBlank c = true) : Separate (split text) := by
  -- Solid are the tokens themselves, and neighbours are looked at two by two.
  refine ⟨fun token member => (mem_split member).2, ?_⟩
  rw [List.isChain_iff_forall_rel_of_append_cons_cons]
  intro left right before after neighbours
  obtain ⟨front, c, gap, d, back, rfl, blank, last, first, kept⟩ :=
    exists_gap_of_neighbours neighbours
  have asciiGap : AsciiBlank gap := fun e member => ascii e (by simp [member]) (blank e member)
  -- A sign at either end would take the whole gap.
  rw [last, first]
  constructor
  · intro sign
    exact kept (gapLeft_of_ascii asciiGap (.inl (by simpa using sign)))
  · intro sign
    exact kept (gapLeft_of_ascii asciiGap (.inr (by simpa using sign)))

/--
How a text falls into tokens.

Each token has characters and no blank, and together they have the characters of the text.
Two neighbours among these are in one token when signs next to the gap between them leave nothing
of it.
So only blanks have no token, and the tokens of a text with ASCII blanks come back when joined.
-/
theorem tokens_part_at_gaps (text : Text) :
    (∀ token ∈ split text, token ≠ [] ∧ Solid token) ∧
    (split text).flatten = text.filter (fun c => !isBlank c) ∧
    (∀ front c gap d back, text = front ++ c :: (gap ++ d :: back) → isBlank c = false →
      Blank gap → isBlank d = false →
        (Together (split text) (front.filter fun e => !isBlank e).length ↔
          gapLeft (c == '=') (d == '=') gap = [])) ∧
    (split text = [] ↔ Blank text) ∧
    ((∀ c ∈ text, isBlank c = true → isAsciiBlank c = true) →
      split (Text.joinWords (split text)) = split text) := by
  refine ⟨fun token => mem_split, flatten_split text, ?_, split_eq_nil_iff, fun ascii => ?_⟩
  · -- The place in the tokens counts the solid characters in front of the gap.
    rintro front c gap d back rfl solidBefore blank solidBehind
    exact together_split_iff solidBefore blank solidBehind
  · -- Joining puts one space where the gaps were, and it parts the same tokens.
    have trimmed : ∀ token ∈ split text, Text.Trimmed token := fun token member =>
      (mem_split member).2.trimmed (mem_split member).1
    exact (split_joinWords_eq_iff trimmed).2 (separate_split ascii)

/-- A sign takes the space before it, and behind it only what is in front of a no-break space. -/
theorem tokens_part_at_gaps_no_break :
    Together (split "k = \u00a0v".toList) 0 ∧ ¬ Together (split "k = \u00a0v".toList) 1 ∧
      split (Text.joinWords (split "a b\t= c".toList)) = split "a b\t= c".toList := by
  -- The text is cut at the sign, once with the gap before it and once with the gap behind it.
  have places := (tokens_part_at_gaps "k = \u00a0v".toList).2.2.1
  have atSign := places [] 'k' [' '] '=' [' ', '\u00a0', 'v'] (by decide) (by decide) (by decide)
    (by decide)
  have behindSign := places ['k', ' '] '=' [' ', '\u00a0'] 'v' [] (by decide) (by decide)
    (by decide) (by decide)
  refine ⟨atSign.2 (by decide), fun together => ?_, ?_⟩
  · exact absurd (behindSign.1 together) (by decide)
  · have ascii : ("a b\t= c".toList.all fun c => !isBlank c || isAsciiBlank c) = true := by decide
    refine (tokens_part_at_gaps "a b\t= c".toList).2.2.2.2 fun c member blank => ?_
    simpa [blank] using List.all_eq_true.1 ascii c member

end OverlaySheet.Token
