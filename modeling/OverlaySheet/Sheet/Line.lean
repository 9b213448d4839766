import OverlaySheet.Sheet.Grammar
import OverlaySheet.Text

/-! Lines of a sheet, told apart by their markers. -/

namespace OverlaySheet

/-- What a line is, whatever surrounds it. -/
inductive Line where
  | blank
  | comment
  /-- A variable declaration, without its marker. -/
  | declaration (text : Text)
  /-- A title, without its marker and the blanks around it. -/
  | title (text : Text)
  /-- Any other line, without the blanks around it. -/
  | content (text : Text) (indented : Bool)
deriving DecidableEq

namespace Line

/-- A line as a declaration, when it opens with the variable marker. -/
def declaration? (grammar : Grammar) (text : Text) : Option Line :=
  (Text.after? grammar.variableMarker.toList text).map .declaration

/-- A line as a title, when it opens with the title marker. -/
def title? (grammar : Grammar) (text : Text) : Option Line :=
  (Text.after? grammar.titleMarker.toList text).map fun rest => .title rest.trim

/-- A line as a title or a declaration, the longer of the two markers being tried first. -/
def marked? (grammar : Grammar) (text : Text) : Option Line :=
  if grammar.variableMarker.length ≤ grammar.titleMarker.length then
    title? grammar text <|> declaration? grammar text
  else declaration? grammar text <|> title? grammar text

/-- Whether a line starts with a blank. -/
def isIndented (raw : Text) : Bool :=
  raw.head?.any Text.isBlank

/-- What a line of text is; comments may be indented, while declarations and titles may not. -/
def ofText (grammar : Grammar) (raw : Text) : Line :=
  let text := raw.trim
  if text.isEmpty then .blank
  -- Comments come first, so a title marker that begins with theirs is never seen.
  else if (Text.after? grammar.commentMarker.toList text).isSome then .comment
  else if isIndented raw then .content text true
  else (marked? grammar text).getD (.content text false)

end Line

end OverlaySheet
