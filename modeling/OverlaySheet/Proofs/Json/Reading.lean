import OverlaySheet.Proofs.Json.Numeral
import OverlaySheet.Proofs.Json.Quoting
import OverlaySheet.Proofs.Value.Simple

/-! What JSON texts are read as, from words and numbers up to lists and tables in each other. -/

namespace OverlaySheet.Json

open Value (itemsDepth fieldsDepth)

/-- Blanks may stand behind a value, and behind them what may stand there without them. -/
theorem EndsValue.blanks_append {gap rest : Text} (blanks : Blanks gap) (ends : EndsValue rest) :
    EndsValue (gap ++ rest) := by
  -- Without blanks nothing changes, and otherwise the first of them stands behind the value.
  cases gap with
  | nil => exact ends
  | cons c others =>
    intro d first
    obtain rfl := Option.some.inj first
    have blank : isBlank c = true := blanks c List.mem_cons_self
    simp only [isBlank, Bool.or_eq_true, beq_iff_eq] at blank
    -- Each of the four blanks is among the characters that may stand there.
    rcases blank with ((rfl | rfl) | rfl) | rfl <;> decide

/-- A comma or a closing bracket may stand behind a value. -/
theorem endsValue_cons {c : Char} (ending : c ∈ endings) (rest : Text) : EndsValue (c :: rest) := by
  intro d first
  rwa [← Option.some.inj first]

/-- What closes a list or a table is found behind a value and blanks, and no comma is. -/
theorem Blanks.closing {gap : Text} (blanks : Blanks gap) {c : Char} (ending : c ∈ endings)
    (solid : isBlank c = false) (noComma : c ≠ ',') (rest : Text) :
    EndsValue (gap ++ c :: rest) ∧ after? ',' (gap ++ c :: rest) = none ∧
      after? c (gap ++ c :: rest) = some rest := by
  -- Blanks are skipped before a character is looked for, so they may be left out.
  rw [after?_blanks _ blanks, after?_blanks _ blanks]
  exact ⟨.blanks_append blanks (endsValue_cons ending rest), after?_of_ne rest solid noComma,
    after?_self rest solid⟩

/-- Blanks in front of a value are skipped. -/
theorem value_blanks {gap : Text} (blanks : Blanks gap) (care : Care) (fuel room : Nat)
    (text : Text) : value care fuel room (gap ++ text) = value care fuel room text := by
  -- Every way to begin a value skips blanks first.
  cases fuel with
  | zero => rfl
  | succ fuel =>
    simp only [value, after?_blanks _ blanks, takeString?_blanks care blanks,
      skipBlanks_blanks blanks]

/-! What a text is read as, from the words and numbers in it up to its lists and tables. -/

/--
A text is read as a value where there is room for its brackets, and else it is refused.

It needs no more steps than it has characters, and it closes no list.
-/
structure ReadsAs (text : Text) (v : Value) : Prop where
  opens : ∀ rest, after? ']' (text ++ rest) = none
  taken : ∀ (fuel room : Nat) (rest : Text), text.length < fuel → EndsValue rest →
    value .used fuel room (text ++ rest) = if v.depth ≤ room then some (v, rest) else none

/-- A text is read as the items of a list in front of its closing bracket. -/
structure ReadsItems (text : Text) (list : List Value) : Prop where
  opens : ∀ rest, after? ']' (text ++ rest) = none
  taken : ∀ (fuel room : Nat) (rest : Text), text.length + 1 < fuel →
    items .used fuel room (text ++ ']' :: rest) =
      if itemsDepth list ≤ room then some (list, rest) else none

/--
A reader of fields takes a name that it knows and a value, and then it looks for a comma.

For the value it has as many steps as are left to it, or as many as there are characters.
-/
def TakesFields (known : String → Bool) (room : Nat)
    (read : Nat → Text → Option (List (String × Value) × Text)) : Prop :=
  ∀ (fuel : Nat) (text : Text) (name : String) (rest : Text),
    takeName? .used text = some (name, rest) → known name = true →
      ∃ enough, min fuel (rest.length + 1) ≤ enough ∧ read (fuel + 1) text =
        match value .used enough room rest with
        | none => none
        | some (field, rest) =>
          match after? ',' rest with
          | some rest => (read fuel rest).map fun (list, rest) => ((name, field) :: list, rest)
          | none => (after? '\x7d' rest).map fun rest => ([(name, field)], rest)

/-- A text is read as the fields of a table in front of its closing brace, by any reader. -/
structure ReadsFields (text : Text) (list : List (String × Value)) : Prop where
  opens : ∀ rest, after? '\x7d' (text ++ rest) = none
  taken : ∀ {known : String → Bool} {room : Nat}
    {read : Nat → Text → Option (List (String × Value) × Text)}, TakesFields known room read →
    (∀ field ∈ list, known field.1 = true) →
    ∀ (fuel : Nat) (rest : Text), text.length + 1 < fuel →
      read fuel (text ++ '\x7d' :: rest) =
        if fieldsDepth list ≤ room then some (list, rest) else none

section Rules

variable {text gap behind : Text} {v : Value}

/-- Blanks may stand in front of a value. -/
theorem ReadsAs.blanks_append (blanks : Blanks gap) (readsAs : ReadsAs text v) :
    ReadsAs (gap ++ text) v where
  opens rest := by
    -- In front of the value, only blanks are new.
    rw [List.append_assoc, after?_blanks _ blanks]
    exact readsAs.opens rest
  taken fuel room rest enough ends := by
    rw [List.length_append] at enough
    rw [List.append_assoc, value_blanks blanks]
    exact readsAs.taken fuel room rest (by omega) ends

/-- A text that opens neither brackets nor quotes is read as the word or number it is. -/
theorem readsAs_plain {c : Char} {others : Text} (solid : isBlank c = false)
    (noBracket : c ≠ '[' ∧ c ≠ ']' ∧ c ≠ '\x7b') (noQuote : c ≠ '"') (atomic : v.depth = 0)
    (plain : ∀ rest, EndsValue rest → takePlain? .used (c :: (others ++ rest)) = some (v, rest)) :
    ReadsAs (c :: others) v where
  opens rest := after?_of_ne (others ++ rest) solid noBracket.2.1
  taken fuel room rest enough ends := by
    -- None of the three openings is found, so the reader takes a plain value.
    obtain ⟨noList, _, noTable⟩ := noBracket
    cases fuel with
    | zero => cases enough
    | succ fuel =>
      rw [List.cons_append, atomic, if_pos (Nat.zero_le room), ← plain rest ends]
      simp [value, after?_of_ne _ solid noList, after?_of_ne _ solid noTable,
        after?_of_ne _ solid noQuote, skipBlanks, solid]

/-- A text in quotes is read as a string. -/
theorem readsAs_quote (s : String) : ReadsAs (quote s.toList) (.string s) where
  opens rest := by
    rw [quote_append]
    -- A quote is no closing bracket.
    exact after?_of_ne _ (by decide) (by decide)
  taken fuel room rest enough ends := by
    cases fuel with
    | zero => cases enough
    | succ fuel =>
      -- Neither bracket stands in front, so the quotes are what the reader finds.
      have noList : after? '[' (quote s.toList ++ rest) = none := by
        rw [quote_append]
        exact after?_of_ne _ (by decide) (by decide)
      have noTable : after? '\x7b' (quote s.toList ++ rest) = none := by
        rw [quote_append]
        exact after?_of_ne _ (by decide) (by decide)
      have opened : after? '"' (quote s.toList ++ rest) =
          some (s.toList.flatMap writeChar ++ '"' :: rest) := by
        rw [quote_append]
        exact after?_self _ (by decide)
      simp [value, noList, noTable, opened, takeString?_quote, Value.depth]

/-- A value is the last item of a list when nothing but blanks is behind it. -/
theorem ReadsAs.lastItem (readsAs : ReadsAs text v) (blanks : Blanks gap) :
    ReadsItems (text ++ gap) [v] where
  opens rest := by
    rw [List.append_assoc]
    exact readsAs.opens _
  taken fuel room rest enough := by
    cases fuel with
    | zero => cases enough
    | succ fuel =>
      rw [List.length_append] at enough
      -- Behind the item there is no comma, and so the list ends with it.
      obtain ⟨ends, noMore, closed⟩ :=
        blanks.closing (show ']' ∈ endings by decide) (by decide) (by decide) rest
      rw [List.append_assoc, items, readsAs.taken fuel room _ (by omega) ends, itemsDepth,
        itemsDepth, Nat.max_zero]
      -- One item nests as deep as the list has room for, or it does not.
      by_cases fits : v.depth ≤ room
      · simp [fits, noMore, closed]
      · simp [fits]

/-- A value is one more item of a list when a comma and the others are behind it. -/
theorem ReadsAs.item (readsAs : ReadsAs text v) {others : List Value}
    (more : ReadsItems behind others) : ReadsItems (text ++ ',' :: behind) (v :: others) where
  opens rest := by
    rw [List.append_assoc]
    exact readsAs.opens _
  taken fuel room rest enough := by
    cases fuel with
    | zero => cases enough
    | succ fuel =>
      rw [List.length_append, List.length_cons] at enough
      -- The comma takes one step, and the others have the steps that are left.
      have ends : EndsValue (',' :: (behind ++ ']' :: rest)) := endsValue_cons (by decide) _
      have comma : after? ',' (',' :: (behind ++ ']' :: rest)) = some (behind ++ ']' :: rest) :=
        after?_self _ (by decide)
      have further := more.taken fuel room rest (by omega)
      rw [List.append_assoc, List.cons_append, items, readsAs.taken fuel room _ (by omega) ends,
        itemsDepth]
      -- Items that nest too deep are refused one by one, and a list where one of them does.
      by_cases fits : v.depth ≤ room
      · by_cases othersFit : itemsDepth others ≤ room
        · simp [fits, comma, further, othersFit]
        · simp [fits, comma, further, othersFit]
      · simp [fits]

/-- Brackets with nothing between them are read as a list without items. -/
theorem readsAs_emptyArray : ReadsAs ['[', ']'] (.array []) where
  opens rest := after?_of_ne (']' :: rest) (by decide) (by decide)
  taken fuel room rest enough ends := by
    cases fuel with
    | zero => cases enough
    | succ fuel =>
      -- The opening bracket takes one level, so without room the empty list is refused as well.
      have opened : after? '[' ('[' :: ']' :: rest) = some (']' :: rest) :=
        after?_self _ (by decide)
      have closed : after? ']' (']' :: rest) = some rest := after?_self rest (by decide)
      cases room <;> simp [value, opened, closed, Value.depth, itemsDepth]

/-- Items between brackets are read as a list. -/
theorem ReadsItems.array {list : List Value} (readsItems : ReadsItems text list) :
    ReadsAs ('[' :: text ++ [']']) (.array list) where
  opens rest := after?_of_ne _ (by decide) (by decide)
  taken fuel room rest enough ends := by
    cases fuel with
    | zero => cases enough
    | succ fuel =>
      simp only [List.cons_append, List.length_cons, List.length_append, List.length_nil] at enough
      have opened : after? '[' ('[' :: (text ++ ']' :: rest)) = some (text ++ ']' :: rest) :=
        after?_self _ (by decide)
      -- The list is not empty, and its items have one level of room less.
      have inside := readsItems.opens (']' :: rest)
      rw [List.cons_append, List.cons_append, List.append_assoc, List.singleton_append, value,
        opened, Value.depth]
      cases room with
      | zero => simp
      | succ room =>
        have further := readsItems.taken fuel room rest (by omega)
        by_cases fits : itemsDepth list ≤ room
        · simp [inside, further, fits]
        · simp [inside, further, fits]

/-- Where the name of a field is next, no table is closed. -/
theorem after?_brace_name {before : Text} (blanks : Blanks before) (name : String) (rest : Text) :
    after? '\x7d' (before ++ quote name.toList ++ rest) = none := by
  -- A quote is next behind the blanks, and it is no brace.
  rw [List.append_assoc, after?_blanks _ blanks, quote_append]
  exact after?_of_ne _ (by decide) (by decide)

/-- A value under a name is the last field when nothing but blanks is behind it. -/
theorem ReadsAs.lastField {before : Text} (blanksBefore : Blanks before) (name : String)
    (readsAs : ReadsAs text v) (blanks : Blanks gap) :
    ReadsFields (before ++ quote name.toList ++ ':' :: (text ++ gap)) [(name, v)] where
  opens rest := by
    rw [List.append_assoc]
    exact after?_brace_name blanksBefore name _
  taken {known room read} takes named fuel rest enough := by
    cases fuel with
    | zero => cases enough
    | succ fuel =>
      simp only [List.length_append, List.length_cons] at enough
      -- Behind the value there is no comma, and so the table ends with it.
      obtain ⟨ends, noMore, closed⟩ :=
        blanks.closing (show '\x7d' ∈ endings by decide) (by decide) (by decide) rest
      have called : takeName? .used (before ++ quote name.toList ++ ':' :: (text ++ gap) ++
          '\x7d' :: rest) = some (name, text ++ (gap ++ '\x7d' :: rest)) := by
        simpa using takeName?_quote blanksBefore name (text ++ (gap ++ '\x7d' :: rest))
      obtain ⟨steps, sufficient, step⟩ := takes fuel _ name _ called (named _ List.mem_cons_self)
      rw [List.length_append] at sufficient
      rw [step, readsAs.taken steps room _ (by omega) ends, fieldsDepth, fieldsDepth, Nat.max_zero]
      -- There is no other field, so the depth of this one decides.
      by_cases fits : v.depth ≤ room
      · simp [fits, noMore, closed]
      · simp [fits]

/-- A value under a name is one more field when a comma and the others are behind it. -/
theorem ReadsAs.field {before : Text} (blanksBefore : Blanks before) (name : String)
    (readsAs : ReadsAs text v) {others : List (String × Value)}
    (more : ReadsFields behind others) :
    ReadsFields (before ++ quote name.toList ++ ':' :: (text ++ ',' :: behind))
      ((name, v) :: others) where
  opens rest := by
    rw [List.append_assoc]
    exact after?_brace_name blanksBefore name _
  taken {known room read} takes named fuel rest enough := by
    cases fuel with
    | zero => cases enough
    | succ fuel =>
      simp only [List.length_append, List.length_cons] at enough
      obtain ⟨here, there⟩ := List.forall_mem_cons.1 named
      have ends : EndsValue (',' :: (behind ++ '\x7d' :: rest)) := endsValue_cons (by decide) _
      have comma : after? ',' (',' :: (behind ++ '\x7d' :: rest)) =
          some (behind ++ '\x7d' :: rest) := after?_self _ (by decide)
      have further := more.taken takes there fuel rest (by omega)
      have called : takeName? .used (before ++ quote name.toList ++
          ':' :: (text ++ ',' :: behind) ++ '\x7d' :: rest) =
            some (name, text ++ ',' :: (behind ++ '\x7d' :: rest)) := by
        simpa using takeName?_quote blanksBefore name (text ++ ',' :: (behind ++ '\x7d' :: rest))
      -- Whichever number of steps the reader has for the value, the value needs no more.
      obtain ⟨steps, sufficient, step⟩ := takes fuel _ name _ called here
      rw [List.length_append] at sufficient
      rw [step, readsAs.taken steps room _ (by omega) ends, fieldsDepth]
      -- The table fits where this field and all the others do.
      by_cases fits : v.depth ≤ room
      · by_cases othersFit : fieldsDepth others ≤ room
        · simp [fits, comma, further, othersFit]
        · simp [fits, comma, further, othersFit]
      · simp [fits]

/-- The fields of a value are taken with the steps that are left. -/
theorem takesFields_fields (room : Nat) :
    TakesFields (fun _ => true) room fun fuel => fields .used fuel room := by
  intro fuel text name rest called _
  -- Each step of the reader leaves one step less, and the value gets all of them.
  refine ⟨fuel, Nat.min_le_left .., ?_⟩
  show fields .used (fuel + 1) room text = _
  rw [fields]
  generalize takeName? .used text = taken at called
  subst called
  rfl

/-- The known fields of a top object are taken with steps for the rest of the text. -/
theorem takesFields_topFields (known : String → Bool) :
    TakesFields known (maxDepth - 1) (topFields known) := by
  intro fuel text name rest called isKnown
  refine ⟨rest.length + 1, Nat.min_le_right .., ?_⟩
  -- Under a known name the value is read as one that is used.
  have read : topField known name rest = value .used (rest.length + 1) (maxDepth - 1) rest :=
    if_pos isKnown
  rw [topFields, ← read]
  generalize takeName? .used text = taken at called
  subst called
  rfl

/-- Braces with nothing between them are read as a table without fields. -/
theorem readsAs_emptyTable : ReadsAs ['\x7b', '\x7d'] (.table []) where
  opens rest := after?_of_ne ('\x7d' :: rest) (by decide) (by decide)
  taken fuel room rest enough ends := by
    cases fuel with
    | zero => cases enough
    | succ fuel =>
      -- A brace opens no list, and it takes one level as a bracket does.
      have noList : after? '[' ('\x7b' :: '\x7d' :: rest) = none :=
        after?_of_ne _ (by decide) (by decide)
      have opened : after? '\x7b' ('\x7b' :: '\x7d' :: rest) = some ('\x7d' :: rest) :=
        after?_self _ (by decide)
      have closed : after? '\x7d' ('\x7d' :: rest) = some rest := after?_self rest (by decide)
      cases room <;> simp [value, noList, opened, closed, Value.depth, fieldsDepth]

/-- Fields between braces are read as a table. -/
theorem ReadsFields.table {list : List (String × Value)} (readsFields : ReadsFields text list) :
    ReadsAs ('\x7b' :: text ++ ['\x7d']) (.table list) where
  opens rest := after?_of_ne _ (by decide) (by decide)
  taken fuel room rest enough ends := by
    cases fuel with
    | zero => cases enough
    | succ fuel =>
      simp only [List.cons_append, List.length_cons, List.length_append, List.length_nil] at enough
      have noList : after? '[' ('\x7b' :: (text ++ '\x7d' :: rest)) = none :=
        after?_of_ne _ (by decide) (by decide)
      have opened : after? '\x7b' ('\x7b' :: (text ++ '\x7d' :: rest)) =
          some (text ++ '\x7d' :: rest) := after?_self _ (by decide)
      -- The table is not empty, and its fields have one level of room less.
      have inside := readsFields.opens ('\x7d' :: rest)
      rw [List.cons_append, List.cons_append, List.append_assoc, List.singleton_append, value,
        noList, opened, Value.depth]
      cases room with
      | zero => simp
      | succ room =>
        have further := readsFields.taken (takesFields_fields room) (by simp) fuel rest (by omega)
        by_cases fits : fieldsDepth list ≤ room
        · simp [inside, further, fits]
        · simp [inside, further, fits]

/-- A top object of known fields is read as what is between its braces. -/
theorem ReadsFields.readRecord?_eq {list : List (String × Value)}
    (readsFields : ReadsFields text list) {known : String → Bool}
    (named : ∀ field ∈ list, known field.1 = true) :
    readRecord? known ('\x7b' :: text ++ ['\x7d']) =
      if fieldsDepth list ≤ maxDepth - 1 then some list else none := by
  have opened : after? '\x7b' ('\x7b' :: (text ++ ['\x7d'])) = some (text ++ ['\x7d']) :=
    after?_self _ (by decide)
  -- The braces of the top object are one level, which is taken off the room beforehand.
  have further := readsFields.taken (takesFields_topFields known) named
    ((text ++ ['\x7d']).length + 1) [] (by simp)
  rw [List.cons_append, readRecord?, opened]
  simp only [readsFields.opens, further]
  by_cases fits : fieldsDepth list ≤ maxDepth - 1
  · simp [fits, whole?, skipBlanks]
  · simp [fits, whole?]

/-- What starts with a brace is read as a table, if it is read at all. -/
theorem exists_table_of_readWritten? (read : readWritten? ('\x7b' :: text) = some v) :
    ∃ list, v = .table list := by
  -- Both ways to go on behind the brace end in a table, with fields or without.
  have noList : after? '[' ('\x7b' :: text) = none := after?_of_ne text (by decide) (by decide)
  have opened : after? '\x7b' ('\x7b' :: text) = some text := after?_self text (by decide)
  rw [readWritten?, List.length_cons, value, noList, opened, maxDepth] at read
  cases closed : after? '\x7d' text with
  | some behind =>
    simp only [closed, whole?, Option.ite_none_right_eq_some, Option.some.injEq] at read
    exact ⟨[], read.2.symm⟩
  | none =>
    cases inside : fields .used (text.length + 1) 126 text with
    | none => simp [closed, inside, whole?] at read
    | some taken =>
      simp only [closed, inside, whole?, Option.map_some, Option.ite_none_right_eq_some,
        Option.some.injEq] at read
      exact ⟨taken.1, read.2.symm⟩

end Rules

end OverlaySheet.Json
