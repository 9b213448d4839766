import OverlaySheet.Layer.Color
import OverlaySheet.Layer.Dimension
import OverlaySheet.Value

/-! The built-in layers as plain data; to draw them is up to hosts. -/

namespace OverlaySheet

/-- The edge of a view that a layer is measured from. -/
inductive Edge where
  | left
  | top
  | right
  | bottom
deriving DecidableEq

namespace Edge

/-- Every edge, clockwise from the left. -/
def all : List Edge := [left, top, right, bottom]

/-- The word for an edge. -/
def name : Edge → String
  | left => "left"
  | top => "top"
  | right => "right"
  | bottom => "bottom"

/-- The edge that a word names. -/
def ofName? (word : String) : Option Edge :=
  all.find? fun edge => edge.name = word

end Edge

/-- The way that grid lines run. -/
inductive Axis where
  | horizontal
  | vertical
deriving DecidableEq

namespace Axis

/-- Both ways. -/
def all : List Axis := [horizontal, vertical]

/-- The word for a way. -/
def name : Axis → String
  | horizontal => "horizontal"
  | vertical => "vertical"

end Axis

/-- The corner of a view that a label stands in. -/
inductive Corner where
  | topLeft
  | topRight
  | bottomLeft
  | bottomRight
deriving DecidableEq

namespace Corner

/-- Every corner, row by row. -/
def all : List Corner := [topLeft, topRight, bottomLeft, bottomRight]

/-- The word for a corner. -/
def name : Corner → String
  | topLeft => "top-left"
  | topRight => "top-right"
  | bottomLeft => "bottom-left"
  | bottomRight => "bottom-right"

/-- The corner that a word names. -/
def ofName? (word : String) : Option Corner :=
  all.find? fun corner => corner.name = word

end Corner

/-- One line at a distance from an edge. -/
structure Guide where
  edge : Edge
  distance : Dimension
  thickness : Dimension
  color : Color
  /-- The line lies outside of the mark instead of inside. -/
  alignOutside : Bool
deriving DecidableEq

/-- Evenly spaced lines. -/
structure GridLines where
  axis : Axis
  step : Dimension
  thickness : Dimension
  color : Color
  offset : Dimension
  /-- How many lines there are at most. -/
  limit : Option Nat
deriving DecidableEq

/-- A line to which content is aligned. -/
structure Keyline where
  edge : Edge
  distance : Dimension
  thickness : Dimension
  color : Color
deriving DecidableEq

/-- A colour all over the view. -/
structure Fill where
  color : Color
deriving DecidableEq

/-- A label that tells the size of the view. -/
structure DimensionsLabel where
  corner : Corner
  textSize : Dimension
  color : Color
deriving DecidableEq

/-- A layer of one of the built-in types. -/
inductive Layer where
  | guide (guide : Guide)
  | gridLines (grid : GridLines)
  | keyline (keyline : Keyline)
  | fill (fill : Fill)
  | dimensionsLabel (label : DimensionsLabel)
deriving DecidableEq

/-- A length as a table of its number and unit. -/
def Dimension.toValue (dimension : Dimension) : Value :=
  .table [("value", .ofSingle dimension.value), ("unit", .string dimension.unit.name)]

/-- A colour as its text. -/
def Color.toValue (color : Color) : Value :=
  .string (String.ofList color.write)

namespace Layer

/-- The name of the type that a layer is declared with. -/
def typeName : Layer → String
  | guide _ => "guide"
  | gridLines _ => "grid-lines"
  | keyline _ => "keyline"
  | fill _ => "fill"
  | dimensionsLabel _ => "dimensions-label"

/-- The properties of a layer by name, in the order in which they are written. -/
def properties : Layer → List (String × Value)
  | guide g =>
    [("gravity", .string g.edge.name), ("distance", g.distance.toValue),
      ("thickness", g.thickness.toValue), ("color", g.color.toValue),
      ("align_outside", .bool g.alignOutside)]
  | gridLines g =>
    [("direction", .string g.axis.name), ("step", g.step.toValue),
      ("thickness", g.thickness.toValue), ("color", g.color.toValue),
      ("offset", g.offset.toValue)]
      ++ (g.limit.map fun limit => ("limit", Value.integer limit)).toList
  | keyline k =>
    [("from", .string k.edge.name), ("distance", k.distance.toValue),
      ("thickness", k.thickness.toValue), ("color", k.color.toValue)]
  | fill f => [("color", f.color.toValue)]
  | dimensionsLabel l =>
    [("corner", .string l.corner.name), ("text_size", l.textSize.toValue),
      ("color", l.color.toValue)]

/-- A layer as a table that opens with its type. -/
def toValue (layer : Layer) : Value :=
  .table (("type", .string layer.typeName) :: layer.properties)

end Layer

end OverlaySheet
