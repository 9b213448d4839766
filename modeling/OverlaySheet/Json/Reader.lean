import OverlaySheet.Json.Numeral
import OverlaySheet.Number.Hex

/-! Values read from JSON text. -/

namespace OverlaySheet.Json

/--
How closely a value is looked at.

A value that is used must be representable and its nesting is bounded.
A value that is skipped only has to follow the grammar.
-/
inductive Care where
  | used
  | skipped
deriving DecidableEq

/-- The four blanks of JSON. -/
def isBlank (c : Char) : Bool :=
  c == ' ' || c == '\n' || c == '\t' || c == '\r'

/-- The text after its leading blanks. -/
def skipBlanks (text : Text) : Text :=
  text.dropWhile isBlank

/-- The characters that a backslash and one letter stand for. -/
def shortEscape? (c : Char) : Option Char :=
  if c = '"' ∨ c = '\\' ∨ c = '/' then some c
  else if c = 'n' then some '\n'
  else if c = 'r' then some '\r'
  else if c = 't' then some '\t'
  else if c = 'b' then some '\x08'
  else if c = 'f' then some '\x0c'
  else none

/-- A code unit that opens a pair. -/
def isHighSurrogate (unit : Nat) : Bool :=
  0xD800 ≤ unit && unit ≤ 0xDBFF

/-- A code unit that closes a pair. -/
def isLowSurrogate (unit : Nat) : Bool :=
  0xDC00 ≤ unit && unit ≤ 0xDFFF

/-- The character that a pair of code units stands for. -/
def pairedChar (high low : Nat) : Char :=
  Char.ofNat (0x10000 + (high - 0xD800) * 0x400 + (low - 0xDC00))

/-- Puts a character in front of what was read. -/
def pushChar (c : Char) (read : Option (Text × Text)) : Option (Text × Text) :=
  read.map fun (text, rest) => (c :: text, rest)

/-- What stands for a code unit without its partner in a text that is skipped. -/
def replacement : Char := '\uFFFD'

/-- The text up to the closing quote, with escapes resolved, and what follows the quote. -/
def stringBody (care : Care) : Text → Option (Text × Text)
  | [] => none
  | c :: rest =>
    if c = '"' then some ([], rest)
    else if c = '\\' then
      match rest with
      | [] => none
      | escape :: rest =>
        if escape = 'u' then
          match rest with
          | h₁ :: h₂ :: h₃ :: h₄ :: rest =>
            match Hex.value? [h₁, h₂, h₃, h₄] with
            | none => none
            | some unit =>
              if care = .skipped then pushChar replacement (stringBody care rest)
              else if isHighSurrogate unit then
                -- A high unit counts only together with the low unit right after it.
                match rest with
                | '\\' :: 'u' :: l₁ :: l₂ :: l₃ :: l₄ :: rest =>
                  match Hex.value? [l₁, l₂, l₃, l₄] with
                  | none => none
                  | some low =>
                    if isLowSurrogate low then pushChar (pairedChar unit low) (stringBody care rest)
                    else none
                | _ => none
              else if isLowSurrogate unit then none
              else pushChar (Char.ofNat unit) (stringBody care rest)
          | _ => none
        else
          match shortEscape? escape with
          | some c => pushChar c (stringBody care rest)
          | none => none
    else if c.toNat < 0x20 then none
    else pushChar c (stringBody care rest)

/-- A number as a value, unless it is beyond all finite numbers. -/
def numberValue? (care : Care) : Number → Option Value
  | .double x => if x.isFinite then some (.number (.double x))
    else if care = .skipped then some .null else none
  | n => some (.number n)

/-- The rest of a text behind a fixed word. -/
def takeWord? (word : Text) (value : Value) (text : Text) : Option (Value × Text) :=
  (word.isPrefixOf? text).map fun rest => (value, rest)

/-- What follows a character that is next but for blanks. -/
def after? (c : Char) (text : Text) : Option Text :=
  match skipBlanks text with
  | [] => none
  | next :: rest => if next = c then some rest else none

/-- A string, from its opening quote on. -/
def takeString? (care : Care) (text : Text) : Option (String × Text) :=
  match after? '"' text with
  | none => none
  | some rest => (stringBody care rest).map fun (string, rest) => (String.ofList string, rest)

/-- The name of a field and the colon behind it. -/
def takeName? (care : Care) (text : Text) : Option (String × Text) :=
  match takeString? care text with
  | none => none
  | some (name, rest) => (after? ':' rest).map fun rest => (name, rest)

/-- A word or a number. -/
def takePlain? (care : Care) (text : Text) : Option (Value × Text) :=
  takeWord? ['t', 'r', 'u', 'e'] (.bool true) text
    <|> takeWord? ['f', 'a', 'l', 's', 'e'] (.bool false) text
    <|> takeWord? ['n', 'u', 'l', 'l'] .null text
    <|> (takeNumber? text).bind fun (n, rest) =>
      (numberValue? care n).map fun value => (value, rest)

mutual

/--
A value as it is written, repeated fields included, and what follows it.

The fuel bounds the steps, of which a text never needs more than it has characters.
The room bounds how deep brackets may still nest.
-/
def value (care : Care) (fuel room : Nat) (text : Text) : Option (Value × Text) :=
  match fuel with
  | 0 => none
  | fuel + 1 =>
    match after? '[' text with
    | some rest =>
      match room with
      | 0 => none
      | room + 1 =>
        match after? ']' rest with
        | some rest => some (.array [], rest)
        | none => (items care fuel room rest).map fun (list, rest) => (.array list, rest)
    | none =>
      match after? '\x7b' text with
      | some rest =>
        match room with
        | 0 => none
        | room + 1 =>
          match after? '\x7d' rest with
          | some rest => some (.table [], rest)
          | none => (fields care fuel room rest).map fun (list, rest) => (.table list, rest)
      | none =>
        match after? '"' text with
        | some _ => (takeString? care text).map fun (string, rest) => (.string string, rest)
        | none => takePlain? care (skipBlanks text)

/-- The items of a list up to its closing bracket, of which there is at least one. -/
def items (care : Care) (fuel room : Nat) (text : Text) : Option (List Value × Text) :=
  match fuel with
  | 0 => none
  | fuel + 1 =>
    match value care fuel room text with
    | none => none
    | some (item, rest) =>
      match after? ',' rest with
      | some rest => (items care fuel room rest).map fun (list, rest) => (item :: list, rest)
      | none => (after? ']' rest).map fun rest => ([item], rest)

/-- The fields of an object up to its closing brace, of which there is at least one. -/
def fields (care : Care) (fuel room : Nat) (text : Text) :
    Option (List (String × Value) × Text) :=
  match fuel with
  | 0 => none
  | fuel + 1 =>
    match takeName? care text with
    | none => none
    | some (name, rest) =>
      match value care fuel room rest with
      | none => none
      | some (field, rest) =>
        match after? ',' rest with
        | some rest =>
          (fields care fuel room rest).map fun (list, rest) => ((name, field) :: list, rest)
        | none => (after? '\x7d' rest).map fun rest => ([(name, field)], rest)

end

/-- How deep the brackets of a used value may nest. -/
def maxDepth : Nat := 127

/-- What was read, if nothing but blanks follows it. -/
def whole? {α : Type} (read : Option (α × Text)) : Option α :=
  match read with
  | none => none
  | some (result, rest) => if (skipBlanks rest).isEmpty then some result else none

/-- The one value that a whole text holds, with the fields of its objects as they are written. -/
def readWritten? (text : Text) : Option Value :=
  whole? (value .used (text.length + 1) maxDepth text)

/-- The one value that a whole text holds; of fields with one name, the last counts. -/
def read? (text : Text) : Option Value :=
  (readWritten? text).map Value.keyed

/-- A field of a top object, whose value is looked at only under a known name. -/
def topField (known : String → Bool) (name : String) (text : Text) : Option (Value × Text) :=
  if known name then value .used (text.length + 1) (maxDepth - 1) text
  else value .skipped (text.length + 1) text.length text

/-- The fields of a top object up to its closing brace, in order. -/
def topFields (known : String → Bool) (fuel : Nat) (text : Text) :
    Option (List (String × Value) × Text) :=
  match fuel with
  | 0 => none
  | fuel + 1 =>
    match takeName? .used text with
    | none => none
    | some (name, rest) =>
      match topField known name rest with
      | none => none
      | some (field, rest) =>
        match after? ',' rest with
        | some rest =>
          (topFields known fuel rest).map fun (list, rest) => ((name, field) :: list, rest)
        | none => (after? '\x7d' rest).map fun rest => ([(name, field)], rest)

/-- The fields of the one object that a whole text holds, repetitions included. -/
def readRecord? (known : String → Bool) (text : Text) : Option (List (String × Value)) :=
  match after? '\x7b' text with
  | none => none
  | some rest =>
    match after? '\x7d' rest with
    | some rest => whole? (some ([], rest))
    | none => whole? (topFields known (rest.length + 1) rest)

end OverlaySheet.Json
