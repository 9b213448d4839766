import OverlaySheet.Text
import OverlaySheet.Text.Shapeless

/-! Text in quotes for people to read, where every character can be told. -/

namespace OverlaySheet.Text.Quoted

/-- A character by its code in lower-case hex digits between braces. -/
def codeEscape (c : Char) : Text :=
  '\\' :: 'u' :: '\x7b' :: Nat.toDigits 16 c.toNat ++ ['\x7d']

/-- A character inside quotes: as it is, after a backslash, or by its code. -/
def writeChar (c : Char) : Text :=
  if c = '\x00' then ['\\', '0']
  else if c = '\t' then ['\\', 't']
  else if c = '\r' then ['\\', 'r']
  else if c = '\n' then ['\\', 'n']
  else if c = '"' ∨ c = '\\' then ['\\', c]
  else if isShapeless c then codeEscape c
  else [c]

/-- A text in quotes. -/
def quote (text : Text) : Text :=
  '"' :: text.flatMap writeChar ++ ['"']

end OverlaySheet.Text.Quoted
