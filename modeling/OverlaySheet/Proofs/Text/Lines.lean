import OverlaySheet.Text

/-! Lines: how newlines cut a text or bytes into them, and how they are written below each other. -/

namespace OverlaySheet

section Cut

variable {α : Type} [DecidableEq α] {newline carriageReturn : α}

/-- A line without the one carriage return at its end. -/
def chomp (carriageReturn : α) (line : List α) : List α :=
  if line.getLast? = some carriageReturn then line.dropLast else line

/-- A carriage return at the end goes, and nothing else. -/
theorem chomp_cases (carriageReturn : α) (line : List α) :
    line = chomp carriageReturn line ∨ line = chomp carriageReturn line ++ [carriageReturn] := by
  -- The test looks at the last character, so there are two cases.
  unfold chomp
  split
  · next last =>
    obtain ⟨front, rfl⟩ := List.getLast?_eq_some_iff.1 last
    exact Or.inr (by simp)
  · exact Or.inl rfl

/-- What a newline ends is a line without the carriage return before the newline. -/
theorem splitLines_append {line : List α} (without : newline ∉ line) (rest : List α) :
    splitLines newline carriageReturn (line ++ newline :: rest) =
      chomp carriageReturn line :: splitLines newline carriageReturn rest := by
  induction line with
  | nil => simp [splitLines, chomp]
  | cons x line ih =>
    obtain ⟨noNewline, withoutLater⟩ := not_or.1 (mt List.mem_cons.2 without)
    rw [List.cons_append, splitLines, if_neg (Ne.symm noNewline), ih withoutLater]
    cases line with
    | nil =>
      -- The last character goes when it is a carriage return.
      by_cases isReturn : x = carriageReturn
      · simp [isReturn, chomp]
      · simp [isReturn, chomp, Text.consFirst]
    | cons next line =>
      -- No newline is directly behind the character, so it stays.
      have kept : next ≠ newline := fun same => withoutLater (by simp [same])
      simp only [List.cons_append, List.head?_cons, Option.some.injEq, kept, and_false, if_false,
        Text.consFirst, chomp, List.getLast?_cons_cons]
      split
      · rfl
      · rfl

/-- What no newline ends is a line of its own unless it is empty. -/
theorem splitLines_of_not_mem {line : List α} (without : newline ∉ line) :
    splitLines newline carriageReturn line = if line = [] then [] else [line] := by
  induction line with
  | nil => rfl
  | cons x line ih =>
    -- A carriage return at the front is dropped before a newline only, and there is none.
    obtain ⟨noNewline, withoutLater⟩ := not_or.1 (mt List.mem_cons.2 without)
    have kept : ¬ (x = carriageReturn ∧ line.head? = some newline) := fun ⟨_, behind⟩ =>
      withoutLater (List.mem_of_head? behind)
    rw [splitLines, if_neg (Ne.symm noNewline), if_neg kept, ih withoutLater]
    cases line <;> simp [Text.consFirst]

/-- A list is one line, or a line that a newline ends and a shorter list behind it. -/
theorem newlineRec {motive : List α → Prop} (newline : α)
    (last : ∀ line, newline ∉ line → motive line)
    (ended : ∀ line rest, newline ∉ line → motive rest → motive (line ++ newline :: rest))
    (list : List α) : motive list := by
  -- The rest behind a newline is shorter than the list, whatever it holds.
  induction length : list.length using Nat.strongRecOn generalizing list with
  | _ n ih =>
    by_cases member : newline ∈ list
    · obtain ⟨line, rest, rfl, without⟩ := List.eq_append_cons_of_mem member
      exact ended line rest without (ih rest.length (by simp at length; omega) rest rfl)
    · exact last list member

end Cut

namespace Text

/-- The text of lines, each ended by a newline. -/
def unlines (lines : List Text) : Text :=
  lines.flatMap (· ++ ['\n'])

/-- A line holds no newline, and no carriage return at its end that would go with the newline. -/
def IsLine (line : Text) : Prop :=
  '\n' ∉ line ∧ line.getLast? ≠ some '\r'

/-- A line that a newline ends is the first line of a text. -/
theorem lines_append {line : Text} (isLine : IsLine line) (rest : Text) :
    Text.lines (line ++ '\n' :: rest) = line :: Text.lines rest := by
  -- The newline ends the line, and no carriage return is there to go with it.
  obtain ⟨noNewline, noReturn⟩ := isLine
  rw [Text.lines, splitLines_append noNewline, chomp, if_neg noReturn]
  rfl

/-- Lines below each other are read back one by one. -/
theorem lines_unlines {lines : List Text} (areLines : ∀ line ∈ lines, IsLine line) :
    Text.lines (unlines lines) = lines := by
  induction lines with
  | nil => rfl
  -- The first line ends at its own newline, and the others are below it.
  | cons line rest ih =>
    obtain ⟨isLine, others⟩ := List.forall_mem_cons.1 areLines
    calc Text.lines (unlines (line :: rest))
        = Text.lines (line ++ '\n' :: unlines rest) := by simp [unlines]
      _ = line :: rest := by rw [lines_append isLine, ih others]

end Text

end OverlaySheet
