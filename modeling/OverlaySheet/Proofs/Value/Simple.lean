import OverlaySheet.Json.Numeral
import OverlaySheet.Proofs.Entries

/-! Values without fractions: what they are made of, and how deep they nest. -/

namespace OverlaySheet.Value

/--
A value is made of null, booleans, whole numbers and strings, in lists and tables of any depth.

A whole number has 64 bits, with or without a sign.
A table is entries, so its names are distinct and their order is always the same.
-/
inductive Simple : Value → Prop where
  | null : Simple .null
  | bool (b : Bool) : Simple (.bool b)
  | integer {n : Int} (fits : Json.fitsWord n = true) : Simple (.integer n)
  | string (s : String) : Simple (.string s)
  | array {items : List Value} (inner : ∀ item ∈ items, Simple item) : Simple (.array items)
  | table {fields : Table} (ascending : fields.Ascending)
      (inner : ∀ field ∈ fields, Simple field.2) : Simple (.table fields)

/-- Each item of a list is looked at on its own. -/
theorem keyedItems_eq_map (items : List Value) : keyedItems items = items.map keyed := by
  -- The items are treated one after the other, and none of them looks at the others.
  induction items with
  | nil => rfl
  | cons item items ih => rw [keyedItems, ih, List.map_cons]

/-- Each field of a table is looked at on its own. -/
theorem keyedFields_eq_map (fields : List (String × Value)) :
    keyedFields fields = Entries.mapEntries keyed fields := by
  induction fields with
  | nil => rfl
  -- A field keeps its name, and its value is treated like an item.
  | cons field fields ih =>
    rw [keyedFields, ih]
    rfl

/-- A value whose tables are entries already stays as it is. -/
theorem Simple.keyed_eq {value : Value} (simple : value.Simple) : value.keyed = value := by
  -- The induction is on the value: what is inside stays, and the fields are in order already.
  induction simple with
  | null | bool | integer | string => rfl
  | @array items inner ih =>
    rw [keyed, keyedItems_eq_map, List.map_congr_left ih, List.map_id']
  | @table fields ascending inner ih =>
    have same : Entries.mapEntries keyed fields = fields := by
      have each : ∀ field ∈ fields, (field.1, field.2.keyed) = field := by
        intro field member
        rw [ih field member]
      rw [Entries.mapEntries, List.map_congr_left each, List.map_id']
    rw [keyed, keyedFields_eq_map, same, ascending.ofList_eq]

/-- Items whose tables are entries already stay as they are. -/
theorem Simple.keyedItems_eq {items : List Value} (simple : ∀ item ∈ items, item.Simple) :
    keyedItems items = items := by
  -- Each of the items stays as it is.
  have each : ∀ item ∈ items, item.keyed = item := fun item member => (simple item member).keyed_eq
  rw [keyedItems_eq_map, List.map_congr_left each, List.map_id']

mutual

/-- How deep the brackets of a value nest. -/
def depth : Value → Nat
  | .array items => itemsDepth items + 1
  | .table fields => fieldsDepth fields + 1
  | _ => 0

/-- How deep the brackets of the deepest item nest. -/
def itemsDepth : List Value → Nat
  | [] => 0
  | item :: rest => max item.depth (itemsDepth rest)

/-- How deep the brackets of the deepest field nest. -/
def fieldsDepth : List (String × Value) → Nat
  | [] => 0
  | (_, value) :: rest => max value.depth (fieldsDepth rest)

end

/-- All items fit where the deepest one does. -/
theorem itemsDepth_le_iff {items : List Value} {room : Nat} :
    itemsDepth items ≤ room ↔ ∀ item ∈ items, item.depth ≤ room := by
  -- The depth of the items is the greatest of theirs, so it fits when each of them does.
  induction items with
  | nil => simp [itemsDepth]
  | cons item items ih => rw [itemsDepth, Nat.max_le, ih, List.forall_mem_cons]

end OverlaySheet.Value
