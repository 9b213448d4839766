import OverlaySheet.Number.Decimal
import OverlaySheet.Number.Hex
import OverlaySheet.Value

/-! The parts of TOML text: blanks, comments, strings, plain values and keys. -/

namespace OverlaySheet.Toml

/-- The two blanks that may stand within a line. -/
def isBlank (c : Char) : Bool :=
  c == ' ' || c == '\t'

/-- The text after its leading blanks. -/
def skipBlanks (text : Text) : Text :=
  text.dropWhile isBlank

/-- Characters of comments and of strings on one line; controls other than the tab are barred. -/
def isPlain (c : Char) : Bool :=
  c == '\t' || (0x20 ≤ c.toNat && c.toNat != 0x7F)

/-- What follows a newline, which may have a carriage return in front. -/
def afterNewline? : Text → Option Text
  | '\n' :: rest => some rest
  | '\r' :: '\n' :: rest => some rest
  | _ => none

/-- What follows the blanks and the comment at the end of a line, the newline included. -/
def endLine? (text : Text) : Option Text :=
  let text := match skipBlanks text with
    | '#' :: rest => rest.dropWhile isPlain
    | rest => rest
  if text.isEmpty then some [] else afterNewline? text

/-- What follows blanks, comments and newlines; the flag tells that a comment is going on. -/
def skipLines (inComment : Bool) : Text → Option Text
  | [] => some []
  | c :: rest =>
    if c = '\n' then skipLines false rest
    else if c = '\r' then if rest.head? = some '\n' then skipLines false rest else none
    else if inComment then if isPlain c then skipLines true rest else none
    else if isBlank c then skipLines false rest
    else if c = '#' then skipLines true rest
    else some (c :: rest)

/-- The character with a code that is written in hex digits, unless it is no character. -/
def charOfHex? (digits : Text) : Option Char :=
  (Hex.value? digits).bind fun code =>
    if code < 0xD800 ∨ (0xDFFF < code ∧ code < 0x110000) then some (Char.ofNat code) else none

/-- A character by its code in as many hex digits as asked for. -/
def takeCode? (count : Nat) (text : Text) : Option (Char × Text) :=
  if text.length < count then none
  else (charOfHex? (text.take count)).map fun c => (c, text.drop count)

/-- The character that an escape stands for, read behind its backslash. -/
def takeEscape? : Text → Option (Char × Text)
  | [] => none
  | c :: rest =>
    if c = 'u' then takeCode? 4 rest
    else if c = 'U' then takeCode? 8 rest
    else if c = 'n' then some ('\n', rest)
    else if c = 't' then some ('\t', rest)
    else if c = 'r' then some ('\r', rest)
    else if c = 'b' then some ('\x08', rest)
    else if c = 'f' then some ('\x0c', rest)
    else if c = '"' ∨ c = '\\' then some (c, rest)
    else none

/-- Puts text in front of what was read. -/
def pushText (text : Text) (read : Option (Text × Text)) : Option (Text × Text) :=
  read.map fun (more, rest) => (text ++ more, rest)

/-- A string on one line up to its closing quote, with escapes if the quote is double. -/
def quotedBody (quote : Char) (fuel : Nat) (text : Text) : Option (Text × Text) :=
  match fuel, text with
  | fuel + 1, c :: rest =>
    if c = quote then some ([], rest)
    else if c = '\\' ∧ quote = '"' then
      (takeEscape? rest).bind fun (c, rest) => pushText [c] (quotedBody quote fuel rest)
    else if isPlain c then pushText [c] (quotedBody quote fuel rest)
    else none
  | _, _ => none

/-- The text after its leading blanks and newlines; a carriage return alone is no newline. -/
def skipBlankLines : Text → Text
  | [] => []
  | c :: rest =>
    if isBlank c ∨ c = '\n' then skipBlankLines rest
    else if c = '\r' ∧ rest.head? = some '\n' then skipBlankLines rest
    else c :: rest

/-- What follows a backslash that ends a line: the first character of no blank and no newline. -/
def afterLineEscape? (rest : Text) : Option Text :=
  (afterNewline? (skipBlanks rest)).map skipBlankLines

/-- How many quotes a text starts with, counted up to five. -/
def leadingQuotes (quote : Char) (text : Text) : Nat :=
  ((text.take 5).takeWhile (· == quote)).length

/-- A string over several lines up to its three closing quotes, before which two more may stand. -/
def linesBody (quote : Char) (fuel : Nat) (text : Text) : Option (Text × Text) :=
  match fuel, text with
  | fuel + 1, c :: rest =>
    let quotes := leadingQuotes quote (c :: rest)
    if 3 ≤ quotes then
      some (List.replicate (quotes - 3) quote, (c :: rest).drop quotes)
    else if c = '\\' ∧ quote = '"' then
      match afterLineEscape? rest with
      | some rest => linesBody quote fuel rest
      | none => (takeEscape? rest).bind fun (c, rest) => pushText [c] (linesBody quote fuel rest)
    else if c = '\r' then
      if rest.head? = some '\n' then linesBody quote fuel rest else none
    else if isPlain c ∨ c = '\n' then pushText [c] (linesBody quote fuel rest)
    else none
  | _, _ => none

/-- A string, read from its opening quote on. -/
def takeString? : Text → Option (Text × Text)
  | [] => none
  | quote :: rest =>
    if quote ≠ '"' ∧ quote ≠ '\'' then none
    else if rest.take 2 = [quote, quote] then
      -- A newline right behind the three quotes is not part of the string.
      let body := rest.drop 2
      linesBody quote (body.length + 1) ((afterNewline? body).getD body)
    else quotedBody quote (rest.length + 1) rest

/-- Characters of keys without quotes. -/
def isKeyChar (c : Char) : Bool :=
  c.isAlphanum || c == '_' || c == '-'

/-- One part of a key, bare or a string on one line. -/
def takeKeyPart? (text : Text) : Option (String × Text) :=
  match text with
  | '"' :: rest =>
    (quotedBody '"' (rest.length + 1) rest).map fun (key, rest) => (String.ofList key, rest)
  | '\'' :: rest =>
    (quotedBody '\'' (rest.length + 1) rest).map fun (key, rest) => (String.ofList key, rest)
  | _ =>
    let key := text.takeWhile isKeyChar
    if key.isEmpty then none else some (String.ofList key, text.dropWhile isKeyChar)

/-- Parts of a key between points, as many as there is fuel for, and what follows them. -/
def takeKeyParts? (fuel : Nat) (text : Text) : Option (List String × Text) :=
  match fuel with
  | 0 => none
  | fuel + 1 =>
    (takeKeyPart? (skipBlanks text)).bind fun (part, rest) =>
      match skipBlanks rest with
      | '.' :: rest => (takeKeyParts? fuel rest).map fun (parts, rest) => (part :: parts, rest)
      | rest => some ([part], rest)

/-- How deep brackets may nest, and how many parts a key may have. -/
def maxDepth : Nat := 79

/-- The parts of a key between points, and what follows the key and the blanks behind it. -/
def takeKey? (text : Text) : Option (List String × Text) :=
  takeKeyParts? maxDepth text

/-- Digits of a class with single underscores between them, as the digits alone. -/
def digits? (isDigit : Char → Bool) (text : Text) : Option Text :=
  let apart := text.splitOnP (· == '_')
  if apart.all fun run => !run.isEmpty && run.all isDigit then some (apart.flatMap id) else none

/-- Whether a whole number fits into 64 bits with a sign. -/
def wholeValue? (n : Int) : Option Value :=
  if Number.leastSigned ≤ n ∧ n ≤ Number.greatestSigned then some (.integer n) else none

/-- The number that digits of a small base denote. -/
def ofBase (base : Nat) (digits : Text) : Int :=
  digits.foldl (fun n c => base * n + (c.toNat - '0'.toNat)) 0

/-- Decimal digits without a needless zero in front. -/
def takeWhole? (text : Text) : Option Text :=
  (digits? Char.isDigit text).filter fun digits => digits.length == 1 || digits.head? != some '0'

/-- A whole number in decimal digits with an optional sign. -/
def integer? (text : Text) : Option Value :=
  let (negative, rest) := Decimal.takeSign text
  (takeWhole? rest).bind fun digits =>
    let n : Int := Decimal.digitsValue digits
    wholeValue? (if negative then -n else n)

/-- A whole number in hex, octal or binary digits. -/
def based? : Text → Option Value
  | '0' :: 'x' :: rest =>
    ((digits? (fun c => (Hex.digit? c).isSome) rest).bind Hex.value?).bind fun n => wholeValue? n
  | '0' :: 'o' :: rest =>
    (digits? (fun c => '0' ≤ c && c ≤ '7') rest).bind fun ds => wholeValue? (ofBase 8 ds)
  | '0' :: 'b' :: rest =>
    (digits? (fun c => c == '0' || c == '1') rest).bind fun ds => wholeValue? (ofBase 2 ds)
  | _ => none

/-- The power of ten behind the letter `e` in either case. -/
def exponent? : Text → Option Int
  | [] => some 0
  | c :: rest =>
    if c = 'e' ∨ c = 'E' then
      let (negative, rest) := Decimal.takeSign rest
      (digits? Char.isDigit rest).map fun digits =>
        let n : Int := Decimal.digitsValue digits
        if negative then -n else n
    else none

/-- What may end the whole part or the fraction of a number. -/
def isFloatMark (c : Char) : Bool :=
  c == '.' || c == 'e' || c == 'E'

/-- The whole part of a number, its fraction if it has one, and its power of ten. -/
def splitFloat (text : Text) : Text × Option Text × Text :=
  let whole := text.takeWhile fun c => !isFloatMark c
  match text.dropWhile fun c => !isFloatMark c with
  | '.' :: rest =>
    (whole, some (rest.takeWhile fun c => !isFloatMark c), rest.dropWhile fun c => !isFloatMark c)
  | rest => (whole, none, rest)

/-- A number of 64 bits; beyond the greatest there is none, and beyond the least it becomes null. -/
def floatValue? (x : Double) : Option Value :=
  if x = .infinite false then none else some (.ofDouble x)

/-- A number with a point, a power of ten or both. -/
def float? (text : Text) : Option Value := do
  let (negative, rest) := Decimal.takeSign text
  let (whole, fraction, power) := splitFloat rest
  if fraction.isNone && power.isEmpty then none
  else
    let whole ← takeWhole? whole
    let fraction ← digits? Char.isDigit (fraction.getD ['0'])
    let exponent ← exponent? power
    floatValue? (.ofDecimal .double (.ofDigits negative whole fraction exponent))

/-- The numbers that have names are not finite, and there is no value for them but null. -/
def special? (text : Text) : Option Value :=
  let (_, rest) := Decimal.takeSign text
  if rest = ['i', 'n', 'f'] ∨ rest = ['n', 'a', 'n'] then some .null else none

/-- A value without quotes and brackets. -/
def plainValue? (text : Text) : Option Value :=
  if text = ['t', 'r', 'u', 'e'] then some (.bool true)
  else if text = ['f', 'a', 'l', 's', 'e'] then some (.bool false)
  else integer? text <|> based? text <|> float? text <|> special? text

/-- Characters of values without quotes and brackets. -/
def isPlainValueChar (c : Char) : Bool :=
  c.isAlphanum || c == '_' || c == '+' || c == '-' || c == '.'

/-- A value without quotes and brackets, and what follows it. -/
def takePlain? (text : Text) : Option (Value × Text) :=
  (plainValue? (text.takeWhile isPlainValueChar)).map fun value =>
    (value, text.dropWhile isPlainValueChar)

end OverlaySheet.Toml
