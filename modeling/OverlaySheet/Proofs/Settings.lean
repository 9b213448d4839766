import OverlaySheet.Proofs.Value.Stack
import OverlaySheet.Settings.Active

/-! Settings in tables: what is written is read again, and which layer a setting comes from. -/

namespace OverlaySheet

open Entries (find?)
open Value (Keyed)

namespace Settings

/-- A table of settings laid over anything keeps each of its values that is no table. -/
theorem exists_fields_overAny {top : Table} (ascending : top.Ascending) (below : Option Value) :
    ∃ fields, (Value.table top).overAny below = .table fields ∧
      ∀ name value, find? name top = some value → value.isTable = false →
        find? name fields = some value := by
  have keeps : ∀ base : Table, ∀ name value, find? name top = some value →
      value.isTable = false → find? name (Table.over base top) = some value := by
    -- A value that is no table is put in place of what lies below, under its own name.
    intro base name value found noTable
    rw [Table.find?_over base ascending, found]
    exact congrArg some (Value.overAny_of_not_isTable noTable _)
  -- Only a table below is merged, and anything else is hidden.
  cases below with
  | none => exact ⟨top, rfl, fun name value found _ => found⟩
  | some below =>
    cases below with
    | table base => exact ⟨Table.over base top, by simp [Value.overAny, Value.over], keeps base⟩
    | null | bool | number | string | array =>
      exact ⟨top, by simp [Value.overAny, Value.over], fun name value found _ => found⟩

/-- What is found under the four names of a written grammar. -/
theorem find?_grammarFields (grammar : Grammar) :
    let fields := Entries.ofList (grammarFields grammar)
    find? "variable_marker" fields = some (.string grammar.variableMarker) ∧
      find? "title_marker" fields = some (.string grammar.titleMarker) ∧
      find? "comment_marker" fields = some (.string grammar.commentMarker) ∧
      find? "duplicate_arguments" fields = some (.string grammar.duplicates.name) := by
  -- The last field with a name is found, and the four names differ.
  simp [Entries.ofList, grammarFields, Entries.find?_insert]

/-- A written grammar is keyed, for its values are strings. -/
theorem keyed_grammarFields (grammar : Grammar) :
    Keyed (.table (Entries.ofList (grammarFields grammar))) := by
  -- The fields are put in place one after the other, which leaves them with distinct names.
  refine Value.keyed_ofList ?_
  simp only [grammarFields, List.forall_mem_cons, List.not_mem_nil, false_implies, implies_true,
    and_true]
  exact ⟨.single rfl, .single rfl, .single rfl, .single rfl⟩

/-- A grammar is read from what it is written as, whatever lies below. -/
@[simp] theorem grammar?_overAny (grammar : Grammar) (below : Option Value) :
    grammar? ((Value.table (Entries.ofList (grammarFields grammar))).overAny below) =
      some grammar := by
  obtain ⟨fields, same, keeps⟩ :=
    exists_fields_overAny (keyed_grammarFields grammar).ascending below
  -- Each of the four values is a string, so each is found again.
  obtain ⟨references, title, comment, duplicates⟩ := find?_grammarFields grammar
  replace references := keeps _ _ references rfl
  replace title := keeps _ _ title rfl
  replace comment := keeps _ _ comment rfl
  replace duplicates := keeps _ _ duplicates rfl
  have word : word? DuplicateRule.all DuplicateRule.name (.string grammar.duplicates.name) =
      some grammar.duplicates := by
    cases grammar.duplicates with
    | lastWins => rfl
    | reject => rfl
  simp [same, grammar?, group?, fieldOr, references, title, comment, duplicates, string?, word]

/-- A format is read from what it is written as, whatever lies below. -/
@[simp] theorem format?_overAny (format : OutputFormat) (below : Option Value) :
    format? ((Value.table [("format", .string format.name)]).overAny below) = some format := by
  -- There is one field, so the order is that of a single entry.
  have ascending : Entries.Ascending [("format", Value.string format.name)] :=
    List.pairwise_singleton _ _
  obtain ⟨fields, same, keeps⟩ := exists_fields_overAny ascending below
  have found := keeps "format" (.string format.name) rfl rfl
  -- Every format is told by its name.
  have word : word? OutputFormat.all OutputFormat.name (.string format.name) = some format := by
    cases format with
    | json => rfl
    | human => rfl
  simp [same, format?, group?, fieldOr, found, word]

/-- The table of settings has its two names in order. -/
theorem ascending_toTable (settings : Settings) : Entries.Ascending settings.toTable := by
  -- There are two names to compare.
  simp only [Entries.Ascending, toTable, List.pairwise_cons, List.mem_singleton, forall_eq,
    List.not_mem_nil, false_implies, implies_true, List.Pairwise.nil, and_true]
  decide

/-- Written settings are keyed. -/
theorem keyed_toTable (settings : Settings) : Keyed (.table settings.toTable) := by
  -- The first group is a grammar, and the second has a single word in it.
  refine .table settings.ascending_toTable (List.forall_mem_cons.2
    ⟨keyed_grammarFields settings.grammar, List.forall_mem_singleton.2 ?_⟩)
  exact .table (List.pairwise_singleton _ _) (List.forall_mem_singleton.2 (.single rfl))

/-- Settings laid over any table are read as they were. -/
theorem ofTable?_over_toTable (below : Table) (settings : Settings) :
    ofTable? (Table.over below settings.toTable) = some settings := by
  -- Each group is laid over what the table below has under its name, if it has anything.
  have grammar : find? "grammar" (Table.over below settings.toTable) =
      some ((Value.table (Entries.ofList (grammarFields settings.grammar))).overAny
        (find? "grammar" below)) := by
    rw [Table.find?_over below settings.ascending_toTable]
    rfl
  have output : find? "output" (Table.over below settings.toTable) =
      some ((Value.table [("format", .string settings.format.name)]).overAny
        (find? "output" below)) := by
    rw [Table.find?_over below settings.ascending_toTable]
    rfl
  -- Both groups are read whatever lies below them.
  simp [ofTable?, fieldOr, grammar, output]

/-- Settings are read from what they are written as. -/
@[simp] theorem ofTable?_toTable (settings : Settings) :
    ofTable? settings.toTable = some settings := by
  -- Without anything below, the settings lie over a table without fields.
  rw [← Table.nil_over settings.keyed_toTable]
  exact ofTable?_over_toTable [] settings

end Settings

end OverlaySheet
