import OverlaySheet.Layer
import OverlaySheet.Registry

/-! The builders of the built-in layers. -/

namespace OverlaySheet.Layer

/-- The colour of lines that name none. -/
def defaultLineColor : Color := ⟨0x60FF0000⟩

/-- The colour of labels that name none. -/
def defaultLabelColor : Color := ⟨0xFF000000⟩

/-- The thickness of lines that give none. -/
def defaultThickness : Dimension := .ofNat 1 .px

/-- The size of labels that give none. -/
def defaultTextSize : Dimension := .ofNat 12 .sp

/-- No length at all. -/
def noLength : Dimension := .ofNat 0 .px

/-- A reading of an argument as a builder's result. -/
def tagged {α : Type} (result : Except Fault α) : Except Failure α :=
  result.mapError .tagged

/-- The length that a value denotes. -/
def readDimension (value : String) : Except Failure Dimension :=
  match Dimension.read? value with
  | some dimension => .ok dimension
  | none => .error (.untagged (Dimension.invalidMessage value))

/-- The colour that a value denotes. -/
def readColor (value : String) : Except Failure Color :=
  match Color.read? value with
  | some color => .ok color
  | none => .error (.untagged (Color.invalidMessage value))

/-- What a value denotes, or a default when the key is not given; a flag has the wrong type. -/
def valueD {α : Type} (read : String → Except Failure α) (expected sample : String)
    (block : Block) (key : String) (default : α) : Except Failure α :=
  match block.find? key with
  | none => .ok default
  | some ⟨_, some value⟩ => read value
  | some ⟨_, none⟩ => .error (.tagged (block.wrongArgument key expected sample))

/-- The length under a key, or a default. -/
def dimensionD : Block → String → Dimension → Except Failure Dimension :=
  valueD readDimension "dimension" "8dp"

/-- The colour under a key, or a default. -/
def colorD : Block → String → Color → Except Failure Color :=
  valueD readColor "color" "#FF4081"

/-- The length under a key that must have one. -/
def expectDimension (block : Block) (key sample : String) : Except Failure Dimension :=
  match block.value? key with
  | some value => readDimension value
  | none => .error (.tagged (block.wrongArgument key "dimension" sample))

/-- The length above zero under a key that must have one. -/
def expectPositiveDimension (block : Block) (key sample : String) :
    Except Failure Dimension := do
  match block.value? key with
  | none => .error (.tagged (block.nonPositiveArgument key sample))
  | some value =>
    let dimension ← readDimension value
    if dimension.isPositive then .ok dimension
    else .error (.tagged (block.nonPositiveArgument key sample))

/-- The edge of a guide: the value of a key or, without that key, the one edge that is given. -/
def expectEdge (block : Block) (key : String) : Except Fault Edge :=
  if block.has key then block.expectChoice key Edge.all Edge.name
  else
    let fault := fun actual =>
      Fault.unlistedArgument block.layerType key actual (Edge.all.map Edge.name)
    -- An edge counts as given with a value, too.
    match Edge.all.filter fun edge => block.has edge.name with
    | [edge] => .ok edge
    | [] => .error (fault none)
    | several => .error (fault (some (",".intercalate (several.map Edge.name))))

/-- The greatest limit; limits have 32 bits without a sign. -/
def maxLimit : Int := 4294967295

/-- How many lines a grid has at most, when it says so. -/
def readLimit (block : Block) : Except Fault (Option Nat) :=
  if block.has "limit" then do
    let limit ← block.expectPositiveInt "limit" "4"
    -- A limit that is too great is told as one that is not positive.
    if limit ≤ maxLimit then .ok (some limit.toNat)
    else .error (block.nonPositiveArgument "limit" "4")
  else .ok none

/-- Builds a guide. -/
def buildGuide (block : Block) : Except Failure Layer := do
  let edge ← tagged (expectEdge block "gravity")
  let distance ← dimensionD block "distance" noLength
  let thickness ← dimensionD block "thickness" defaultThickness
  let color ← colorD block "color" defaultLineColor
  let alignOutside ← tagged (block.switch "outside")
  return .guide { edge, distance, thickness, color, alignOutside }

/-- Builds grid lines. -/
def buildGridLines (block : Block) : Except Failure Layer := do
  let axis ← tagged (block.expectChoice "direction" Axis.all Axis.name)
  let limit ← tagged (readLimit block)
  let step ← expectPositiveDimension block "step" "8dp"
  let thickness ← dimensionD block "thickness" defaultThickness
  let color ← colorD block "color" defaultLineColor
  let offset ← dimensionD block "offset" noLength
  return .gridLines { axis, step, thickness, color, offset, limit }

/-- Builds a keyline. -/
def buildKeyline (block : Block) : Except Failure Layer := do
  let edge ← tagged (block.expectChoice "from" Edge.all Edge.name)
  let distance ← expectDimension block "distance" "16dp"
  let thickness ← dimensionD block "thickness" defaultThickness
  let color ← colorD block "color" defaultLineColor
  return .keyline { edge, distance, thickness, color }

/-- Builds a fill. -/
def buildFill (block : Block) : Except Failure Layer := do
  let value ← tagged (block.expectString "color" "color")
  let color ← readColor value
  return .fill { color }

/-- The size of a label's text. -/
def readTextSize (block : Block) : Except Failure Dimension :=
  -- A flag has no length to be read, so it is told as one that is not positive.
  if block.has "text-size" then expectPositiveDimension block "text-size" "12sp"
  else .ok defaultTextSize

/-- Builds a label of the view's size. -/
def buildDimensionsLabel (block : Block) : Except Failure Layer := do
  let corner ← tagged (block.choiceD "gravity" Corner.all Corner.name .bottomRight)
  let textSize ← readTextSize block
  let color ← colorD block "color" defaultLabelColor
  return .dimensionsLabel { corner, textSize, color }

/-- The built-in types in ascending order, each with its builder. -/
def standard : List (String × Builder Layer) :=
  [("dimensions-label", buildDimensionsLabel), ("fill", buildFill),
    ("grid-lines", buildGridLines), ("guide", buildGuide), ("keyline", buildKeyline)]

/-- The names of the built-in types in ascending order. -/
def standardTypes : List String :=
  standard.map Prod.fst

/-- The registry that knows the built-in types and no others. -/
def standardRegistry : Registry (Builder Layer) :=
  standard.foldl (fun registry entry => registry.register entry.1 entry.2) .empty

end OverlaySheet.Layer
