import OverlaySheet.Proofs.Json.Reading

/-! Values are read back from their JSON, be it on one line or indented. -/

namespace OverlaySheet.Json

/-- The characters that blanks, lists, tables, strings and words start with, and a bracket. -/
def otherOpenings : Text :=
  [' ', '\n', '\t', '\r', '[', ']', '\x7b', '"', 't', 'f', 'n']

/-- A whole number starts with a character of its own. -/
theorem exists_opening_writeInt (n : Int) :
    ∃ c others, writeInt n = c :: others ∧ c ∉ otherOpenings := by
  -- A number below zero has a minus sign, and the others start with a digit.
  by_cases negative : n < 0
  · exact ⟨'-', _, if_pos negative, by decide⟩
  · obtain ⟨c, others, written⟩ : ∃ c others, Nat.toDigits 10 n.natAbs = c :: others :=
      List.exists_cons_of_ne_nil Nat.toDigits_ne_nil
    have member : c ∈ Nat.toDigits 10 n.natAbs := by
      rw [written]
      exact List.mem_cons_self
    have digit := Nat.isDigit_of_mem_toDigits (by decide) (by decide) member
    -- None of the other openings is a digit.
    have noDigits : (otherOpenings.any Char.isDigit) = false := by decide
    refine ⟨c, others, by rw [writeInt, if_neg negative, written], fun other => ?_⟩
    exact List.any_eq_false.1 noDigits c other digit

/-- A text does not start with a word that starts with another character. -/
theorem takeWord?_of_ne {first c : Char} (other : first ≠ c) (word : Text) (v : Value)
    (rest : Text) : takeWord? (first :: word) v (c :: rest) = none := by
  simp [takeWord?, List.isPrefixOf?, other]

/-- The digits of a whole number are read as that number. -/
theorem readsAs_writeInt {n : Int} (fits : fitsWord n = true) :
    ReadsAs (writeInt n) (.integer n) := by
  obtain ⟨c, others, written, own⟩ := exists_opening_writeInt n
  -- A word is told by its first letter, and this number does not start with one.
  have noWord : ∀ first ∈ otherOpenings, ∀ word v rest,
      takeWord? (first :: word) v (c :: rest) = none := by
    intro first member word v rest
    refine takeWord?_of_ne (fun same => own ?_) word v rest
    rwa [← same]
  -- Without a word in front, the digits are taken as a number.
  have number : ∀ rest, EndsValue rest →
      takePlain? .used (c :: (others ++ rest)) = some (.integer n, rest) := by
    intro rest ends
    have taken := takeNumber?_writeInt fits ends
    rw [written, List.cons_append] at taken
    rw [takePlain?, noWord 't' (by decide), noWord 'f' (by decide), noWord 'n' (by decide), taken]
    rfl
  -- All that the reader tells apart by a first character is ruled out by that of the number.
  simp only [otherOpenings, List.mem_cons, not_or] at own
  rw [written]
  exact readsAs_plain (by simp [isBlank, own]) (by simp [own]) (by simp [own]) rfl number

/-- Items on one line are read as the items of a list. -/
theorem readsItems_compactItems {list : List Value} (nonempty : list ≠ [])
    (each : ∀ item ∈ list, ReadsAs (compact item) item) : ReadsItems (compactItems list) list := by
  -- Behind the last item there is no comma, and behind every other there is one.
  induction list with
  | nil => exact absurd rfl nonempty
  | cons item others ih =>
    obtain ⟨here, there⟩ := List.forall_mem_cons.1 each
    cases others with
    | nil => simpa [compactItems] using here.lastItem (List.forall_mem_nil _ : Blanks [])
    | cons second others =>
      have written : compactItems (item :: second :: others) =
          compact item ++ ',' :: compactItems (second :: others) := by simp [compactItems]
      rw [written]
      exact here.item (ih (List.cons_ne_nil _ _) there)

/-- Fields on one line are read as the fields of a table. -/
theorem readsFields_compactFields {list : List (String × Value)} (nonempty : list ≠ [])
    (each : ∀ field ∈ list, ReadsAs (compact field.2) field.2) :
    ReadsFields (compactFields list) list := by
  have noBlanks : Blanks [] := List.forall_mem_nil _
  -- As for items, a comma stands behind every field but the last.
  induction list with
  | nil => exact absurd rfl nonempty
  | cons field others ih =>
    obtain ⟨name, v⟩ := field
    obtain ⟨here, there⟩ := List.forall_mem_cons.1 each
    cases others with
    | nil => simpa [compactFields] using here.lastField noBlanks name noBlanks
    | cons second others =>
      have written : compactFields ((name, v) :: second :: others) =
          [] ++ quote name.toList ++
            ':' :: (compact v ++ ',' :: compactFields (second :: others)) := by
        simp [compactFields]
      rw [written]
      exact here.field noBlanks name (ih (List.cons_ne_nil _ _) there)

/-- A value on one line is read as that value. -/
theorem readsAs_compact {v : Value} (simple : v.Simple) : ReadsAs (compact v) v := by
  -- The induction is on what the value is made of; lists and tables ask for what is inside.
  induction simple with
  | null =>
    refine readsAs_plain (by decide) (by decide) (by decide) rfl fun rest _ => ?_
    simp [takePlain?, takeWord?, List.isPrefixOf?]
  | bool b =>
    cases b with
    | true =>
      refine readsAs_plain (by decide) (by decide) (by decide) rfl fun rest _ => ?_
      simp [takePlain?, takeWord?, List.isPrefixOf?]
    | false =>
      refine readsAs_plain (by decide) (by decide) (by decide) rfl fun rest _ => ?_
      simp [takePlain?, takeWord?, List.isPrefixOf?]
  | integer fits => exact readsAs_writeInt fits
  | string s => exact readsAs_quote s
  -- Empty brackets are read on their own, for a list with items ends behind one of them.
  | @array list inner ih =>
    cases list with
    | nil => exact readsAs_emptyArray
    | cons item others => exact (readsItems_compactItems (List.cons_ne_nil _ _) ih).array
  | @table list ascending inner ih =>
    cases list with
    | nil => exact readsAs_emptyTable
    | cons field others => exact (readsFields_compactFields (List.cons_ne_nil _ _) ih).table

/-- A new line with the spaces in front of the next one is blank. -/
theorem blanks_newLine (depth : Nat) : Blanks (newLine depth) := by
  intro c member
  -- The newline comes first, and all the others are spaces.
  rcases List.mem_cons.1 member with rfl | space
  · decide
  · rw [List.eq_of_mem_replicate space]
    decide

/-- Items on lines of their own are read as the items of a list. -/
theorem readsItems_prettyItems {list : List Value} (nonempty : list ≠ []) (depth : Nat)
    (each : ∀ item ∈ list, ReadsAs (pretty (depth + 1) item) item) :
    ReadsItems (prettyItems (depth + 1) list ++ newLine depth) list := by
  -- Each item has its own line with blanks in front, and the last is followed by a new line.
  induction list with
  | nil => exact absurd rfl nonempty
  | cons item others ih =>
    obtain ⟨here, there⟩ := List.forall_mem_cons.1 each
    have indented := here.blanks_append (blanks_newLine (depth + 1))
    cases others with
    | nil => simpa [prettyItems] using indented.lastItem (blanks_newLine depth)
    | cons second others =>
      simpa [prettyItems] using indented.item (ih (List.cons_ne_nil _ _) there)

/-- Fields on lines of their own are read as the fields of a table. -/
theorem readsFields_prettyFields {list : List (String × Value)} (nonempty : list ≠ [])
    (depth : Nat) (each : ∀ field ∈ list, ReadsAs (pretty (depth + 1) field.2) field.2) :
    ReadsFields (prettyFields (depth + 1) list ++ newLine depth) list := by
  have space : Blanks [' '] := List.forall_mem_singleton.2 (by decide)
  -- Blanks are also between the colon and the value here.
  induction list with
  | nil => exact absurd rfl nonempty
  | cons field others ih =>
    obtain ⟨name, v⟩ := field
    obtain ⟨here, there⟩ := List.forall_mem_cons.1 each
    have spaced := here.blanks_append space
    have indented := blanks_newLine (depth + 1)
    cases others with
    | nil => simpa [prettyFields] using spaced.lastField indented name (blanks_newLine depth)
    | cons second others =>
      simpa [prettyFields] using spaced.field indented name (ih (List.cons_ne_nil _ _) there)

/-- An indented value is read as that value. -/
theorem readsAs_pretty {v : Value} (simple : v.Simple) (depth : Nat) :
    ReadsAs (pretty depth v) v := by
  -- What has no brackets is written as it is on one line.
  induction simple generalizing depth with
  | null => exact readsAs_compact .null
  | bool b => exact readsAs_compact (.bool b)
  | integer fits => exact readsAs_writeInt fits
  | string s => exact readsAs_quote s
  | @array list inner ih =>
    cases list with
    | nil => exact readsAs_emptyArray
    | cons item others =>
      have inside := readsItems_prettyItems (List.cons_ne_nil item others) depth fun next member =>
        ih next member (depth + 1)
      simpa [pretty] using inside.array
  | @table list ascending inner ih =>
    cases list with
    | nil => exact readsAs_emptyTable
    | cons field others =>
      have inside := readsFields_prettyFields (List.cons_ne_nil field others) depth
        fun next member => ih next member (depth + 1)
      simpa [pretty] using inside.table

/-- A table in either form is its fields between braces. -/
theorem exists_readsFields {list : List (String × Value)} (nonempty : list ≠ [])
    (simple : ∀ field ∈ list, field.2.Simple) {text : Text}
    (written : text = compact (.table list) ∨ text = pretty 0 (.table list)) :
    ∃ inside, text = '\x7b' :: inside ++ ['\x7d'] ∧ ReadsFields inside list := by
  -- On one line nothing is between the braces but the fields, and on several there are new lines.
  rcases written with rfl | rfl
  · refine ⟨compactFields list, by rw [compact], ?_⟩
    exact readsFields_compactFields nonempty fun field member =>
      readsAs_compact (simple field member)
  · obtain ⟨field, others, rfl⟩ := List.exists_cons_of_ne_nil nonempty
    refine ⟨prettyFields 1 (field :: others) ++ newLine 0, by simp [pretty], ?_⟩
    exact readsFields_prettyFields nonempty 0 fun field member =>
      readsAs_pretty (simple field member) 1

end OverlaySheet.Json
