/-! Text as a list of characters: blanks, trimming, words, markers and cuts. -/

namespace OverlaySheet

/-- Text is the list of its characters, so that scanning it is recursion on the data. -/
abbrev Text := List Char

namespace Text

/-- The ranges of code points that Unicode gives the property White_Space. -/
def blankRanges : List (Nat × Nat) :=
  [(0x09, 0x0D), (0x20, 0x20), (0x85, 0x85), (0xA0, 0xA0), (0x1680, 0x1680), (0x2000, 0x200A),
    (0x2028, 0x2029), (0x202F, 0x202F), (0x205F, 0x205F), (0x3000, 0x3000)]

/-- A blank is any white space of Unicode; it ends words, indents lines and is trimmed away. -/
def isBlank (c : Char) : Bool :=
  blankRanges.any fun range => range.1 ≤ c.toNat && c.toNat ≤ range.2

/-- The six blanks of ASCII, which alone may pad an equals sign. -/
def isAsciiBlank (c : Char) : Bool :=
  (9 ≤ c.toNat && c.toNat ≤ 13) || c == ' '

/-- The text without the blanks it starts with. -/
def trimStart (text : Text) : Text :=
  text.dropWhile isBlank

/-- The text without the blanks it ends with. -/
def trimEnd (text : Text) : Text :=
  (text.reverse.dropWhile isBlank).reverse

/-- The text without the blanks at either end. -/
def trim (text : Text) : Text :=
  text.trimStart.trimEnd

/-- Puts one more element on the front of the first list, which is created when there is none. -/
def consFirst {α : Type} (x : α) : List (List α) → List (List α)
  | [] => [[x]]
  | first :: rest => (x :: first) :: rest

/-- The maximal runs of characters that are not blanks, in order. -/
def words : Text → List Text
  | [] => []
  | c :: rest =>
    if isBlank c then words rest
    -- The word ends here when a blank or nothing follows.
    else if rest.head?.all isBlank then [c] :: words rest
    else consFirst c (words rest)

/-- The words written in a row with one space between neighbours. -/
def joinWords : List Text → Text
  | [] => []
  | [word] => word
  | word :: rest => word ++ ' ' :: joinWords rest

/-- What follows the marker, when the text starts with it; an empty marker marks nothing. -/
def after? (marker text : Text) : Option Text :=
  if marker.isEmpty then none else marker.isPrefixOf? text

/-- The text before the first occurrence of a character, and the text after it if it occurs. -/
def cut (separator : Char) : Text → Text × Option Text
  | [] => ([], none)
  | c :: rest =>
    if c = separator then ([], some rest)
    else ((c :: (cut separator rest).1), (cut separator rest).2)

/-- Letter for letter equality that does not tell the two cases of an ASCII letter apart. -/
def sameIgnoringCase (left right : Text) : Bool :=
  left.map Char.toLower == right.map Char.toLower

end Text

/--
The lines of a text or of a byte string.

A line ends at a newline and loses one carriage return right before it.
What follows the last newline is a line of its own unless it is empty.
-/
def splitLines {α : Type} [DecidableEq α] (newline carriageReturn : α) : List α → List (List α)
  | [] => []
  | x :: rest =>
    if x = newline then [] :: splitLines newline carriageReturn rest
    -- A return directly before the newline belongs to the line's end.
    else if x = carriageReturn ∧ rest.head? = some newline then
      splitLines newline carriageReturn rest
    else Text.consFirst x (splitLines newline carriageReturn rest)

/-- The lines of a text. -/
def Text.lines (text : Text) : List Text :=
  splitLines '\n' '\r' text

end OverlaySheet
