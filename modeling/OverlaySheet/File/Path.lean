import OverlaySheet.Text

/-! Paths of files, as the pieces between their slashes. -/

namespace OverlaySheet.Path

/-- The pieces of a path between its slashes, of which there is at least one. -/
def pieces : Text → List Text
  | [] => [[]]
  | c :: rest => if c = '/' then [] :: pieces rest else Text.consFirst c (pieces rest)

/-- Whether a piece behind another one leads nowhere else: it is empty or a point. -/
def staysThere (piece : Text) : Bool :=
  piece.isEmpty || piece == ['.']

/-- Whether a path is a name in the working directory, with nothing behind it that leads on. -/
def isName (name path : String) : Bool :=
  match pieces path.toList with
  | [] => false
  | first :: rest => first == name.toList && rest.all staysThere

end OverlaySheet.Path
