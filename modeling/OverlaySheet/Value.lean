import OverlaySheet.Entries
import OverlaySheet.Number.Binary

/-! Dynamic values: what JSON and settings files hold, and what errors carry as arguments. -/

namespace OverlaySheet

/-- A number is whole, or of one of the two binary formats. -/
inductive Number where
  | integer (n : Int)
  | single (x : Single)
  | double (x : Double)
deriving DecidableEq

/-- The least whole number of 64 bits with a sign. -/
abbrev Number.leastSigned : Int := -9223372036854775808

/-- The greatest whole number of 64 bits with a sign. -/
abbrev Number.greatestSigned : Int := 9223372036854775807

/-- The greatest whole number of 64 bits without a sign. -/
abbrev Number.greatestUnsigned : Int := 18446744073709551615

/-- A dynamic value. -/
inductive Value where
  | null
  | bool (b : Bool)
  | number (n : Number)
  | string (s : String)
  | array (items : List Value)
  | table (fields : List (String × Value))

/-- Named values. -/
abbrev Table := Entries Value

namespace Value

/-- A whole number as a value. -/
def integer (n : Int) : Value :=
  .number (.integer n)

/-- A list of strings as a value. -/
def strings (items : List String) : Value :=
  .array (items.map .string)

/-- A string, or null for none. -/
def ofString? (text : Option String) : Value :=
  (text.map .string).getD .null

/-- A number of 32 bits; what is not finite has no written form and becomes null. -/
def ofSingle (x : Single) : Value :=
  if x.isFinite then .number (.single x) else .null

/-- A number of 64 bits; what is not finite has no written form and becomes null. -/
def ofDouble (x : Double) : Value :=
  if x.isFinite then .number (.double x) else .null

mutual

/-- The value whose tables are entries: of fields with one name, the last stays. -/
def keyed : Value → Value
  | .array items => .array (keyedItems items)
  | .table fields => .table (Entries.ofList (keyedFields fields))
  | value => value

/-- Each item with its tables as entries. -/
def keyedItems : List Value → List Value
  | [] => []
  | item :: rest => item.keyed :: keyedItems rest

/-- Each field with the tables in it as entries, all fields being kept. -/
def keyedFields : List (String × Value) → List (String × Value)
  | [] => []
  | (name, value) :: rest => (name, value.keyed) :: keyedFields rest

end

mutual

/-- The value as data: fields in ascending order of their names, fractions as 64 bits. -/
def toData : Value → Value
  | .number (.single x) => .number (.double (x.convert .double))
  | .array items => .array (itemsToData items)
  | .table fields => .table (fieldsToData fields)
  | value => value

/-- Each item as data. -/
def itemsToData : List Value → List Value
  | [] => []
  | item :: rest => item.toData :: itemsToData rest

/-- Each field as data, put in its place. -/
def fieldsToData : List (String × Value) → List (String × Value)
  | [] => []
  | (name, value) :: rest => Entries.insert name value.toData (fieldsToData rest)

end

end Value

end OverlaySheet
