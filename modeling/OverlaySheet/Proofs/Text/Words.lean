import OverlaySheet.Text

/-! Words of a text: what they are made of, and how they meet where two texts are joined. -/

namespace OverlaySheet.Text

/-- A text that starts with a character that is no blank. -/
def OpensSolid (text : Text) : Prop :=
  ∃ first rest, text = first :: rest ∧ isBlank first = false

/-- A text that ends with a character that is no blank. -/
def EndsSolid (text : Text) : Prop :=
  ∃ front last, text = front ++ [last] ∧ isBlank last = false

/-- A text that is not empty and neither starts nor ends with a blank. -/
def Trimmed (text : Text) : Prop :=
  OpensSolid text ∧ EndsSolid text

/-- A text in which no character is a blank. -/
def Solid (text : Text) : Prop :=
  ∀ c ∈ text, isBlank c = false

instance (text : Text) : Decidable (Solid text) :=
  List.decidableBAll (fun c => isBlank c = false) text

/-- A text in which every character is a blank. -/
def Blank (text : Text) : Prop :=
  ∀ c ∈ text, isBlank c = true

instance (text : Text) : Decidable (Blank text) :=
  List.decidableBAll (fun c => isBlank c = true) text

/-- Every blank of ASCII is a blank of Unicode. -/
theorem isBlank_of_isAsciiBlank {c : Char} (ascii : isAsciiBlank c = true) :
    isBlank c = true := by
  -- The six of them are covered by the first two ranges of the table.
  simp only [isAsciiBlank, Bool.or_eq_true, Bool.and_eq_true, decide_eq_true_eq,
    beq_iff_eq] at ascii
  simp only [isBlank, blankRanges, List.any_cons, Bool.or_eq_true, Bool.and_eq_true,
    decide_eq_true_eq]
  rcases ascii with control | rfl
  · -- The control characters are a range of both tables.
    exact Or.inl (by omega)
  · -- The space is a range of its own.
    exact Or.inr (Or.inl (by decide))

/-- What is no blank of Unicode is no blank of ASCII. -/
theorem isAsciiBlank_of_not_isBlank {c : Char} (solid : isBlank c = false) :
    isAsciiBlank c = false := by
  -- Blanks of ASCII are among the blanks.
  cases ascii : isAsciiBlank c with
  | false => rfl
  | true => simp [isBlank_of_isAsciiBlank ascii] at solid

/-- A text that starts solid is not empty. -/
theorem OpensSolid.ne_nil {text : Text} (opens : OpensSolid text) : text ≠ [] := by
  -- Its first character is there.
  obtain ⟨first, rest, rfl, _⟩ := opens
  simp

/-- A text that ends solid is not empty. -/
theorem EndsSolid.ne_nil {text : Text} (ends : EndsSolid text) : text ≠ [] := by
  -- Its last character is there.
  obtain ⟨front, last, rfl, _⟩ := ends
  simp

/-- A solid text that is not empty is trimmed. -/
theorem Solid.trimmed {text : Text} (solid : Solid text) (nonempty : text ≠ []) :
    Trimmed text := by
  constructor
  · -- The first character is one of the text, so it is no blank.
    obtain ⟨first, rest, rfl⟩ := List.exists_cons_of_ne_nil nonempty
    exact ⟨first, rest, rfl, solid first (by simp)⟩
  · -- So is the last one, which is there because the text is not empty.
    exact ⟨text.dropLast, text.getLast nonempty, (List.dropLast_concat_getLast nonempty).symm,
      solid _ (List.getLast_mem nonempty)⟩

/-- A text that ends in a solid one ends solid. -/
theorem EndsSolid.append {back : Text} (ends : EndsSolid back) (front : Text) :
    EndsSolid (front ++ back) := by
  -- The last character of the whole is the one of its end.
  obtain ⟨inner, last, rfl, solid⟩ := ends
  exact ⟨front ++ inner, last, by simp, solid⟩

/-- A text that starts with a solid one starts solid. -/
theorem OpensSolid.append {front : Text} (opens : OpensSolid front) (back : Text) :
    OpensSolid (front ++ back) := by
  -- The first character of the whole is the one of its front.
  obtain ⟨first, rest, rfl, solid⟩ := opens
  exact ⟨first, rest ++ back, rfl, solid⟩

/-- A blank in front of a text adds no word. -/
theorem words_cons_blank {c : Char} (blank : isBlank c = true) (rest : Text) :
    words (c :: rest) = words rest := by
  simp [words, blank]

/-- Blanks in front of a text add no word. -/
theorem words_blanks_append {blanks : Text} (all : ∀ c ∈ blanks, isBlank c = true)
    (rest : Text) : words (blanks ++ rest) = words rest := by
  induction blanks with
  | nil => rfl
  -- The first blank closes a word that has not begun.
  | cons c blanks ih =>
    obtain ⟨here, there⟩ := List.forall_mem_cons.1 all
    rw [List.cons_append, words_cons_blank here, ih there]

/-- A character that is no blank, before a blank or the end, is a word of its own. -/
theorem words_cons_single {c : Char} {rest : Text} (solid : isBlank c = false)
    (ends : rest.head?.all isBlank = true) : words (c :: rest) = [c] :: words rest := by
  simp [words, solid, ends]

/-- A character that is no blank, before another such one, belongs to the first word. -/
theorem words_cons_longer {c : Char} {rest : Text} (solid : isBlank c = false)
    (goesOn : rest.head?.all isBlank = false) :
    words (c :: rest) = consFirst c (words rest) := by
  simp [words, solid, goesOn]

/-- A text that starts solid has a first word, which starts with the same character. -/
theorem words_of_opensSolid {text : Text} (opens : OpensSolid text) :
    ∃ word others, words text = word :: others ∧ word.head? = text.head? := by
  obtain ⟨first, rest, rfl, solid⟩ := opens
  by_cases ends : rest.head?.all isBlank = true
  · -- The character is a word alone.
    exact ⟨[first], words rest, words_cons_single solid ends, rfl⟩
  · -- The word goes on, whatever the words of the rest are.
    rw [words_cons_longer solid (by simpa using ends)]
    cases words rest with
    | nil => exact ⟨[first], [], rfl, rfl⟩
    | cons word others => exact ⟨first :: word, others, rfl, rfl⟩

/-- The characters of the words are those of the text that are no blanks, in order. -/
@[simp] theorem flatten_words (text : Text) :
    (words text).flatten = text.filter fun c => !isBlank c := by
  -- One more character in front of the first word is one more in front of all of them.
  have flatten_consFirst : ∀ (c : Char) (list : List Text),
      (consFirst c list).flatten = c :: list.flatten := by
    rintro c (_ | ⟨first, rest⟩) <;> rfl
  fun_induction words text with
  | case1 => rfl
  | case2 c rest blank ih => simp [blank, ih]
  | case3 c rest solid ends ih => simp [solid, ih]
  | case4 c rest solid goesOn ih => simp [solid, ih, flatten_consFirst]

/-- A word is not empty, and none of its characters is a blank. -/
theorem mem_words {text word : Text} (member : word ∈ words text) :
    word ≠ [] ∧ Solid word := by
  fun_induction words text generalizing word with
  | case1 => simp at member
  | case2 c rest blank ih => exact ih member
  | case3 c rest solid ends ih =>
    -- The new word is one character long, and the others are known.
    rcases List.mem_cons.1 member with rfl | later
    · exact ⟨by simp, by simpa [Solid] using solid⟩
    · exact ih later
  | case4 c rest solid goesOn ih =>
    -- Only the first word has changed, by one more character in front.
    have solid : isBlank c = false := by simpa using solid
    cases list : words rest with
    | nil =>
      simp only [list, consFirst, List.mem_singleton] at member
      subst member
      exact ⟨by simp, by simpa [Solid] using solid⟩
    | cons first others =>
      simp only [list, consFirst, List.mem_cons] at member
      rcases member with rfl | later
      · have known : first ≠ [] ∧ Solid first := ih (by simp [list])
        exact ⟨by simp, List.forall_mem_cons.2 ⟨solid, known.2⟩⟩
      · exact ih (by simp [list, later])

/-- A solid text that is not empty is one word. -/
theorem words_of_solid {word : Text} (nonempty : word ≠ []) (solid : Solid word) :
    words word = [word] := by
  induction word with
  | nil => exact absurd rfl nonempty
  | cons c rest ih =>
    obtain ⟨here, there⟩ := List.forall_mem_cons.1 solid
    cases rest with
    | nil => exact words_cons_single here rfl
    | cons next others =>
      -- A solid character follows, so the word goes on.
      have nextSolid : isBlank next = false := there next (by simp)
      rw [words_cons_longer here (by simp [nextSolid]), ih (by simp) there, consFirst]

/-- A text without words holds only blanks. -/
theorem words_eq_nil_iff {text : Text} : words text = [] ↔ ∀ c ∈ text, isBlank c = true := by
  constructor
  · intro none c member
    -- The words hold every character that is no blank, so there is none.
    have empty := flatten_words text
    rw [none, List.flatten_nil] at empty
    simpa using List.filter_eq_nil_iff.1 empty.symm c member
  · -- Blanks in front of nothing add nothing.
    intro all
    simpa [words] using words_blanks_append all []

/-- A text that ends solid has words. -/
theorem words_ne_nil_of_endsSolid {text : Text} (ends : EndsSolid text) : words text ≠ [] := by
  obtain ⟨front, last, rfl, solid⟩ := ends
  intro none
  -- Without words even the last character would be a blank.
  have blank := words_eq_nil_iff.1 none last (by simp)
  simp [solid] at blank

/-- Where a text starts with a blank or is empty, putting it behind another one joins no words. -/
theorem words_append_cut {left right : Text} (gap : right.head?.all isBlank = true) :
    words (left ++ right) = words left ++ words right := by
  induction left with
  | nil => rfl
  | cons c left ih =>
    cases blank : isBlank c with
    -- A blank is part of no word on either side.
    | true => rw [List.cons_append, words_cons_blank blank, words_cons_blank blank, ih]
    | false =>
      cases left with
      | nil =>
        -- The word ends with the left text, since a gap follows.
        rw [List.singleton_append, words_cons_single blank gap, words_cons_single blank rfl]
        rfl
      | cons next left =>
        cases nextBlank : isBlank next with
        | true =>
          -- The word ends at the next blank of the left text.
          rw [List.cons_append, words_cons_single blank (by simp [nextBlank]), ih,
            words_cons_single blank (by simp [nextBlank]), List.cons_append]
        | false =>
          -- The next character starts a word of the left text, which takes this one in front.
          obtain ⟨word, others, found, _⟩ :=
            words_of_opensSolid (show OpensSolid (next :: left) from ⟨next, left, rfl, nextBlank⟩)
          rw [List.cons_append, words_cons_longer blank (by simp [nextBlank]), ih,
            words_cons_longer blank (by simp [nextBlank]), found]
          rfl

/--
Where two texts meet without a blank between them, the words on both sides become one.

All other words stay what they are.
-/
theorem words_append_glue {left right : Text} (leftEnd : EndsSolid left)
    (rightStart : OpensSolid right) :
    ∃ before last first after, words left = before ++ [last] ∧ words right = first :: after ∧
      words (left ++ right) = before ++ (last ++ first) :: after ∧
      last.getLast? = left.getLast? ∧ first.head? = right.head? := by
  obtain ⟨first, after, rightWords, sameHead⟩ := words_of_opensSolid rightStart
  have goesOn : right.head?.all isBlank = false := by
    obtain ⟨c, rest, rfl, solid⟩ := rightStart
    simpa using solid
  obtain ⟨front, c, rfl, solid⟩ := leftEnd
  induction front with
  | nil =>
    -- One character in front of the right text is one more character of its first word.
    refine ⟨[], [c], first, after, words_cons_single solid rfl, rightWords, ?_, rfl, sameHead⟩
    simp [words_cons_longer solid goesOn, rightWords, consFirst]
  | cons d front ih =>
    -- A character further left leaves the place where the texts meet as it is.
    obtain ⟨before, last, _, _, leftWords, sameWords, joined, sameLast, _⟩ := ih
    rw [rightWords] at sameWords
    obtain ⟨rfl, rfl⟩ := List.cons.inj sameWords
    have lastOf : (d :: front ++ [c]).getLast? = some c := List.getLast?_concat
    have lastWas : last.getLast? = some c := by simpa using sameLast
    have lastNonempty : last ≠ [] := by rintro rfl; simp at lastWas
    -- The head of what follows is the same with the right text and without it.
    have sameNext : (front ++ [c] ++ right).head?.all isBlank
        = (front ++ [c]).head?.all isBlank := by
      cases front <;> simp
    cases blank : isBlank d with
    | true =>
      -- A blank adds no word.
      refine ⟨before, last, first, after, ?_, rightWords, ?_, by rw [lastOf, lastWas], sameHead⟩
      · rw [List.cons_append, words_cons_blank blank, leftWords]
      · rw [List.cons_append, List.cons_append, words_cons_blank blank, joined]
    | false =>
      cases next : (front ++ [c]).head?.all isBlank with
      | true =>
        -- A character before a blank is a word of its own.
        refine ⟨[d] :: before, last, first, after, ?_, rightWords, ?_,
          by rw [lastOf, lastWas], sameHead⟩
        · rw [List.cons_append, words_cons_single blank next, leftWords, List.cons_append]
        · rw [List.cons_append, List.cons_append,
            words_cons_single blank (sameNext.trans next), joined, List.cons_append]
      | false =>
        -- The first word of the left text grows, and it may be the one that is glued.
        cases before with
        | nil =>
          refine ⟨[], d :: last, first, after, ?_, rightWords, ?_, ?_, sameHead⟩
          · rw [List.cons_append, words_cons_longer blank next, leftWords]
            rfl
          · rw [List.cons_append, List.cons_append,
              words_cons_longer blank (sameNext.trans next), joined]
            rfl
          · rw [lastOf, List.getLast?_cons, lastWas]
            rfl
        | cons word before =>
          refine ⟨(d :: word) :: before, last, first, after, ?_, rightWords, ?_,
            by rw [lastOf, lastWas], sameHead⟩
          · rw [List.cons_append, words_cons_longer blank next, leftWords]
            rfl
          · rw [List.cons_append, List.cons_append,
              words_cons_longer blank (sameNext.trans next), joined]
            rfl

/-- Blanks behind a text add no word. -/
theorem words_append_blanks {blanks : Text} (all : ∀ c ∈ blanks, isBlank c = true)
    (front : Text) : words (front ++ blanks) = words front := by
  have gap : blanks.head?.all isBlank = true := by
    cases blanks with
    | nil => rfl
    | cons c rest => simpa using all c (by simp)
  -- Blanks start with a blank, so they join no words, and have none.
  rw [words_append_cut gap, words_eq_nil_iff.2 all, List.append_nil]

end OverlaySheet.Text
