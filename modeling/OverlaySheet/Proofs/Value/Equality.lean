import OverlaySheet.Value

/-! Equality of values is decided along their structure, so that tables can be compared. -/

namespace OverlaySheet.Value

mutual

/-- Whether two values are the same. -/
def same : Value → Value → Bool
  | .null, .null => true
  | .bool left, .bool right => left == right
  | .number left, .number right => left == right
  | .string left, .string right => left == right
  | .array left, .array right => sameItems left right
  | .table left, .table right => sameFields left right
  | _, _ => false

/-- Whether two lists have the same items in the same order. -/
def sameItems : List Value → List Value → Bool
  | [], [] => true
  | left :: lefts, right :: rights => left.same right && sameItems lefts rights
  | _, _ => false

/-- Whether two lists have the same names for the same values, in the same order. -/
def sameFields : List (String × Value) → List (String × Value) → Bool
  | [], [] => true
  | (name, left) :: lefts, (other, right) :: rights =>
    name == other && left.same right && sameFields lefts rights
  | _, _ => false

end

mutual

/-- Values that are the same are equal. -/
theorem same_iff (left right : Value) : left.same right = true ↔ left = right := by
  -- Values of different sorts are never the same, and the others are compared by their parts.
  cases left with
  | null | bool | number | string => cases right <;> simp [same]
  | array items =>
    cases right with
    | array others => simp [same, sameItems_iff items others]
    | null | bool | number | string | table => simp [same]
  | table fields =>
    cases right with
    | table others => simp [same, sameFields_iff fields others]
    | null | bool | number | string | array => simp [same]

/-- So are their items. -/
theorem sameItems_iff (lefts rights : List Value) :
    sameItems lefts rights = true ↔ lefts = rights := by
  -- The items are compared in pairs, and the longer list has one without a partner.
  cases lefts with
  | nil => cases rights <;> simp [sameItems]
  | cons left lefts =>
    cases rights with
    | nil => simp [sameItems]
    | cons right rights => simp [sameItems, same_iff left right, sameItems_iff lefts rights]

/-- So are their fields. -/
theorem sameFields_iff (lefts rights : List (String × Value)) :
    sameFields lefts rights = true ↔ lefts = rights := by
  cases lefts with
  | nil => cases rights <;> simp [sameFields]
  | cons left lefts =>
    -- A field is its name and its value, and both are compared before the others are.
    obtain ⟨name, value⟩ := left
    cases rights with
    | nil => simp [sameFields]
    | cons right rights =>
      obtain ⟨other, found⟩ := right
      simp [sameFields, same_iff value found, sameFields_iff lefts rights, and_assoc]

end

instance : DecidableEq Value := fun left right => decidable_of_iff _ (same_iff left right)

end OverlaySheet.Value
