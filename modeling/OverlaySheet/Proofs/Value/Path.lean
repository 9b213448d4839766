import OverlaySheet.Proofs.Entries
import OverlaySheet.Value

/-! Paths of names through tables: where they lead, and where a table says nothing. -/

namespace OverlaySheet

namespace Value

/-- Whether a value is a table. -/
def isTable : Value → Bool
  | .table _ => true
  | _ => false

/-- A value is a table when it has fields. -/
theorem isTable_iff {value : Value} : value.isTable = true ↔ ∃ fields, value = .table fields := by
  -- Only a table has any fields.
  cases value with
  | table fields => simp [isTable]
  | null | bool | number | string | array => simp [isTable]

/-- Every table that a path leads to has its names in ascending order, each of them once. -/
inductive Keyed : Value → Prop where
  | table {fields : Table} (ascending : fields.Ascending)
      (inner : ∀ pair ∈ fields, Keyed pair.2) : Keyed (.table fields)
  | single {value : Value} (noTable : value.isTable = false) : Keyed value

/-- The names of a keyed table ascend. -/
theorem Keyed.ascending {fields : Table} (keyed : Keyed (.table fields)) : fields.Ascending := by
  -- The other way to be keyed is for values that are no table.
  cases keyed with
  | table ascending => exact ascending
  | single noTable => cases noTable

/-- The value under a name of a keyed table is keyed. -/
theorem Keyed.of_find? {fields : Table} (keyed : Keyed (.table fields)) {name : String}
    {value : Value} (found : Entries.find? name fields = some value) : value.Keyed := by
  -- A value that is found is the one of some field.
  cases keyed with
  | table _ inner => exact inner _ (Entries.mem_of_find? found)
  | single noTable => cases noTable

/-- A table without fields is keyed. -/
theorem keyed_nil : Keyed (.table []) :=
  .table List.Pairwise.nil (List.forall_mem_nil _)

/-- A keyed table with a keyed value put under a name is keyed. -/
theorem Keyed.insert {fields : Table} (keyed : Keyed (.table fields)) (name : String)
    {value : Value} (valueKeyed : value.Keyed) :
    Keyed (.table (Entries.insert name value fields)) := by
  cases keyed with
  | table ascending inner =>
    -- A field of the result is the one that was put in, or it was there before.
    refine .table (ascending.insert name value) fun pair member => ?_
    rcases Entries.mem_insert member with rfl | before
    · exact valueKeyed
    · exact inner pair before
  | single noTable => cases noTable

/-- Keyed values that are put under names one after the other make a keyed table. -/
theorem keyed_ofList {pairs : List (String × Value)} (keyed : ∀ pair ∈ pairs, pair.2.Keyed) :
    Keyed (.table (Entries.ofList pairs)) := by
  -- Each insertion keeps a table keyed, from whatever table it starts.
  have general : ∀ fields : Table, Keyed (.table fields) → Keyed (.table (pairs.foldl
      (fun entries pair => Entries.insert pair.1 pair.2 entries) fields)) := by
    induction pairs with
    | nil => exact fun fields fieldsKeyed => fieldsKeyed
    | cons pair pairs ih =>
      obtain ⟨here, others⟩ := List.forall_mem_cons.1 keyed
      exact fun fields fieldsKeyed => ih others _ (fieldsKeyed.insert pair.1 here)
  exact general [] keyed_nil

/-- What a path of names leads to, going from table to table. -/
def follow? : List String → Value → Option Value
  | [], value => some value
  | name :: path, .table fields => (Entries.find? name fields).bind (follow? path)
  | _ :: _, _ => none

/-- A path in two parts leads from where the first part leads. -/
theorem follow?_append (front back : List String) (value : Value) :
    value.follow? (front ++ back) = (value.follow? front).bind (follow? back) := by
  induction front generalizing value with
  | nil => rfl
  | cons name front ih =>
    -- From anything but a table, neither path leads on.
    cases value with
    | table fields =>
      rw [List.cons_append, follow?, follow?, Option.bind_assoc]
      exact congrArg _ (funext ih)
    | null | bool | number | string | array => rfl

/-- No path goes on from a value that is no table. -/
theorem follow?_of_not_isTable {value : Value} (noTable : value.isTable = false)
    {path : List String} (more : path ≠ []) : value.follow? path = none := by
  -- A path that goes on asks for a name, and only a table has names.
  obtain ⟨name, rest, rfl⟩ := List.exists_cons_of_ne_nil more
  cases value with
  | table fields => cases noTable
  | null | bool | number | string | array => rfl

/-- What a path from a keyed value leads to is keyed. -/
theorem Keyed.of_follow? {value found : Value} {path : List String} (keyed : value.Keyed)
    (reached : value.follow? path = some found) : found.Keyed := by
  -- The induction is on the path, and each step goes to a field of a keyed table.
  induction path generalizing value with
  | nil =>
    obtain rfl := Option.some.inj reached
    exact keyed
  | cons name path ih =>
    cases value with
    | table fields =>
      obtain ⟨inner, here, further⟩ := Option.bind_eq_some_iff.1 reached
      exact ih (keyed.of_find? here) further
    | null | bool | number | string | array => cases reached

/-- A value says nothing about a path: nothing is there, and on the way there are only tables. -/
structure LeavesOpen (path : List String) (value : Value) : Prop where
  absent : value.follow? path = none
  onTheWay : ∀ front back, path = front ++ back → back ≠ [] → ∀ found,
    value.follow? front = some found → found.isTable = true

/-- No value says nothing about itself. -/
theorem not_leavesOpen_nil (value : Value) : ¬ value.LeavesOpen [] :=
  fun leavesOpen => nomatch leavesOpen.absent

/-- A table says nothing about a path when what it has under the first name says nothing. -/
theorem leavesOpen_table_iff {fields : Table} {name : String} {path : List String} :
    LeavesOpen (name :: path) (.table fields) ↔
      ∀ inner, Entries.find? name fields = some inner → inner.LeavesOpen path := by
  constructor
  · intro leavesOpen inner found
    refine ⟨by simpa [follow?, found] using leavesOpen.absent,
      fun front back split more value reached => ?_⟩
    -- A way from the inner value is a way from the table with the name in front.
    exact leavesOpen.onTheWay (name :: front) back (by simp [split]) more value
      (by simpa [follow?, found] using reached)
  · -- The way begins at a table, and behind its first name the inner value decides.
    intro inside
    constructor
    · cases found : Entries.find? name fields with
      | none => simp [follow?, found]
      | some inner => simpa [follow?, found] using (inside inner found).absent
    · intro front back split more value reached
      cases front with
      | nil =>
        obtain rfl := Option.some.inj reached
        rfl
      | cons first front =>
        obtain ⟨rfl, rest⟩ := List.cons.inj split
        obtain ⟨inner, found, further⟩ := Option.bind_eq_some_iff.1 reached
        exact (inside inner found).onTheWay front back rest more value further

/-- Where nothing is at a path that is not left open, a value on the way is no table. -/
theorem exists_blocked {value : Value} {path : List String} (absent : value.follow? path = none)
    (decides : ¬ value.LeavesOpen path) : ∃ front back, path = front ++ back ∧ back ≠ [] ∧
      ∃ found, value.follow? front = some found ∧ found.isTable = false := by
  -- If every value on the way were a table, the path would be left open.
  refine Classical.byContradiction fun free => decides ⟨absent, ?_⟩
  intro front back split more found reached
  cases tabled : found.isTable with
  | true => rfl
  | false => exact absurd ⟨front, back, split, more, found, reached, tabled⟩ free

/-- Only tables say nothing about a path that goes on. -/
theorem LeavesOpen.exists_table {value : Value} {name : String} {path : List String}
    (leavesOpen : value.LeavesOpen (name :: path)) : ∃ fields, value = .table fields :=
  isTable_iff.1 (leavesOpen.onTheWay [] (name :: path) rfl (by simp) value rfl)

end Value

end OverlaySheet
