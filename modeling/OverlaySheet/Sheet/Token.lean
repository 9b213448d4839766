import OverlaySheet.Block
import OverlaySheet.Text

/-! Tokens: the words of a line, where blanks around an equals sign do not count. -/

namespace OverlaySheet.Token

/-- Drops the ASCII blanks next to an equals sign, which may stand directly before the text. -/
def tightenAfter (equalsBefore : Bool) : Text → Text
  | [] => []
  | c :: rest =>
    if c = '=' then '=' :: tightenAfter true rest
    else if Text.isAsciiBlank c then
      -- A run of blanks goes when the sign stands on either side of it.
      if equalsBefore || (rest.dropWhile Text.isAsciiBlank).head? == some '=' then
        tightenAfter equalsBefore rest
      else c :: tightenAfter false rest
    else c :: tightenAfter false rest

/-- The text without the ASCII blanks next to equals signs. -/
def tighten (text : Text) : Text :=
  tightenAfter false text

/-- The tokens of a text. -/
def split (text : Text) : List Text :=
  Text.words (tighten text)

/-- Whether a token has a value half. -/
def hasValue (token : Text) : Bool :=
  token.contains '='

/-- Whether the first token of a text has a value half. -/
def leadsWithValue (text : Text) : Bool :=
  (split text).head?.any hasValue

/-- A token as an argument: the key before the first equals sign and the value after it. -/
def toArgument (token : Text) : Except Fault Argument :=
  let (key, value) := Text.cut '=' token
  if key.isEmpty then
    .error (.malformedLayer s!"argument '{String.ofList token}' has an empty key")
  else .ok ⟨String.ofList key, value.map String.ofList⟩

end OverlaySheet.Token
