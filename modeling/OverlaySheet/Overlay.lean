import OverlaySheet.Value

/-! Overlays: layers that belong together, under a title if they have one. -/

namespace OverlaySheet

/-- An overlay. -/
structure Overlay (Layer : Type) where
  title : Option String := none
  layers : List Layer := []
deriving DecidableEq

namespace Overlay

variable {Layer : Type}

/-- The overlay with one more layer on top. -/
def push (overlay : Overlay Layer) (layer : Layer) : Overlay Layer :=
  { overlay with layers := overlay.layers ++ [layer] }

/-- Puts a layer into the last overlay; when there is none, one without a title begins. -/
def pushLast (layer : Layer) : List (Overlay Layer) → List (Overlay Layer)
  | [] => [Overlay.push {} layer]
  | [last] => [last.push layer]
  | overlay :: rest => overlay :: pushLast layer rest

/-- An overlay as a table, where a title that is not there is left out. -/
def toValue (layerValue : Layer → Value) (overlay : Overlay Layer) : Value :=
  let title := overlay.title.map fun title => ("title", Value.string title)
  .table (title.toList ++ [("layers", .array (overlay.layers.map layerValue))])

end Overlay

end OverlaySheet
