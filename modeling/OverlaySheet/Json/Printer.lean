import OverlaySheet.Number.Shortest
import OverlaySheet.Value

/-! Values written as JSON, on one line or indented. -/

namespace OverlaySheet.Json

/-- Numbers of 32 bits are written out from a millionth to below ten million million. -/
def singleStyle : NumberStyle := ⟨.even, some (-6, 12), true⟩

/-- Numbers of 64 bits are written out from a hundred thousandth to below ten to the sixteenth. -/
def doubleStyle : NumberStyle := ⟨.even, some (-5, 15), true⟩

/-- The text of a whole number. -/
def writeInt (n : Int) : Text :=
  if n < 0 then '-' :: Nat.toDigits 10 n.natAbs else Nat.toDigits 10 n.natAbs

/-- The text of a number. -/
def writeNumber : Number → Text
  | .integer n => writeInt n
  | .single x => singleStyle.write x
  | .double x => doubleStyle.write x

/-- A control character without a short escape is written as its code in four hex digits. -/
def hexEscape (c : Char) : Text :=
  ['\\', 'u', '0', '0', Nat.digitChar (c.toNat / 16), Nat.digitChar (c.toNat % 16)]

/-- A character inside quotes: quotes, backslashes and control characters are escaped. -/
def writeChar (c : Char) : Text :=
  if c = '"' then ['\\', '"']
  else if c = '\\' then ['\\', '\\']
  else if c = '\n' then ['\\', 'n']
  else if c = '\r' then ['\\', 'r']
  else if c = '\t' then ['\\', 't']
  else if c = '\x08' then ['\\', 'b']
  else if c = '\x0c' then ['\\', 'f']
  else if c.toNat < 0x20 then hexEscape c
  else [c]

/-- A text in quotes. -/
def quote (text : Text) : Text :=
  '"' :: text.flatMap writeChar ++ ['"']

mutual

/-- A value on one line without spaces. -/
def compact : Value → Text
  | .null => ['n', 'u', 'l', 'l']
  | .bool true => ['t', 'r', 'u', 'e']
  | .bool false => ['f', 'a', 'l', 's', 'e']
  | .number n => writeNumber n
  | .string s => quote s.toList
  | .array items => '[' :: compactItems items ++ [']']
  | .table fields => '\x7b' :: compactFields fields ++ ['\x7d']

/-- Items with commas between them. -/
def compactItems : List Value → Text
  | [] => []
  | [item] => compact item
  | item :: rest => compact item ++ ',' :: compactItems rest

/-- Fields with commas between them. -/
def compactFields : List (String × Value) → Text
  | [] => []
  | [(name, value)] => quote name.toList ++ ':' :: compact value
  | (name, value) :: rest => quote name.toList ++ ':' :: compact value ++ ',' :: compactFields rest

end

/-- A new line with two spaces for each level of depth. -/
def newLine (depth : Nat) : Text :=
  '\n' :: List.replicate (2 * depth) ' '

mutual

/-- A value over several lines, each level two spaces further in; what is empty stays closed. -/
def pretty (depth : Nat) : Value → Text
  | .array [] => ['[', ']']
  | .array items => '[' :: prettyItems (depth + 1) items ++ newLine depth ++ [']']
  | .table [] => ['\x7b', '\x7d']
  | .table fields => '\x7b' :: prettyFields (depth + 1) fields ++ newLine depth ++ ['\x7d']
  | value => compact value

/-- Items on lines of their own. -/
def prettyItems (depth : Nat) : List Value → Text
  | [] => []
  | [item] => newLine depth ++ pretty depth item
  | item :: rest => newLine depth ++ pretty depth item ++ ',' :: prettyItems depth rest

/-- Fields on lines of their own. -/
def prettyFields (depth : Nat) : List (String × Value) → Text
  | [] => []
  | [(name, value)] => newLine depth ++ quote name.toList ++ ':' :: ' ' :: pretty depth value
  | (name, value) :: rest =>
    newLine depth ++ quote name.toList ++ ':' :: ' ' :: pretty depth value
      ++ ',' :: prettyFields depth rest

end

end OverlaySheet.Json
