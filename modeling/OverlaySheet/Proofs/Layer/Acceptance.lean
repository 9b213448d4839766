import OverlaySheet.Proofs.Layer.Readings

/-! Acceptance of built-in layers: a layer says what was read, and the first refusal is told. -/

namespace OverlaySheet

open Layer

/-- Grid lines are as a block says. -/
structure GridLines.ReadFrom (grid : GridLines) (block : Block) : Prop where
  axis : block.Gives "direction" grid.axis.name
  limit : block.Lacks "limit" ∧ grid.limit = none ∨ ∃ n, HasLimit block n ∧ grid.limit = some n
  step : Reads Dimension.read? block "step" grid.step
  positive : grid.step.value.AboveZero
  thickness : ReadsOr Dimension.read? block "thickness" defaultThickness grid.thickness
  color : ReadsOr Color.read? block "color" defaultLineColor grid.color
  offset : ReadsOr Dimension.read? block "offset" noLength grid.offset

/-- A keyline is as a block says. -/
structure Keyline.ReadFrom (keyline : Keyline) (block : Block) : Prop where
  edge : block.Gives "from" keyline.edge.name
  distance : Reads Dimension.read? block "distance" keyline.distance
  thickness : ReadsOr Dimension.read? block "thickness" defaultThickness keyline.thickness
  color : ReadsOr Color.read? block "color" defaultLineColor keyline.color

/-- A fill is as a block says. -/
structure Fill.ReadFrom (fill : Fill) (block : Block) : Prop where
  color : Reads Color.read? block "color" fill.color

/-- A label is as a block says. -/
structure DimensionsLabel.ReadFrom (label : DimensionsLabel) (block : Block) : Prop where
  corner : block.Lacks "gravity" ∧ label.corner = .bottomRight ∨
    block.Gives "gravity" label.corner.name
  textSize : block.Lacks "text-size" ∧ label.textSize = defaultTextSize ∨
    Reads Dimension.read? block "text-size" label.textSize ∧ label.textSize.value.AboveZero
  color : ReadsOr Color.read? block "color" defaultLabelColor label.color

namespace Layer

variable {block : Block} {layer : Layer}

/-- A length with a default is refused when its key is given without a length as its value. -/
def NotLength (block : Block) (key : String) : Refusal :=
  IfGiven block key
    (Unread Dimension.read? Dimension.invalidMessage (block.wrongArgument key "dimension" "8dp")
      block key)

/-- A colour with a default is refused when its key is given without a colour as its value. -/
def NotColor (block : Block) (key : String) : Refusal :=
  IfGiven block key
    (Unread Color.read? Color.invalidMessage (block.wrongArgument key "color" "#FF4081") block key)

/-- Why grid lines are refused, in the order in which their arguments are read. -/
def gridLinesRefusals (block : Block) : List Refusal :=
  -- The limit is looked at before the step, though it may be left out.
  [NotAmong (Axis.all.map Axis.name) block "direction", IfGiven block "limit" (NotLimit block),
    NotPositive "8dp" block "step", NotLength block "thickness", NotColor block "color",
    NotLength block "offset"]

/-- Why a keyline is refused. -/
def keylineRefusals (block : Block) : List Refusal :=
  [NotAmong (Edge.all.map Edge.name) block "from",
    Unread Dimension.read? Dimension.invalidMessage
      (block.wrongArgument "distance" "dimension" "16dp") block "distance",
    NotLength block "thickness", NotColor block "color"]

/-- Why a fill is refused. -/
def fillRefusals (block : Block) : List Refusal :=
  [Unread Color.read? Color.invalidMessage (.missingArgument block.layerType "color" "color")
    block "color"]

/-- Why a label is refused. -/
def dimensionsLabelRefusals (block : Block) : List Refusal :=
  [IfGiven block "gravity" (NotAmong (Corner.all.map Corner.name) block "gravity"),
    IfGiven block "text-size" (NotPositive "12sp" block "text-size"), NotColor block "color"]

/-- Grid lines are built when they can be read from the block. -/
theorem buildGridLines_eq_ok_iff :
    buildGridLines block = .ok layer ↔ ∃ grid, layer = .gridLines grid ∧ grid.ReadFrom block := by
  simp only [buildGridLines, bind_eq_ok_iff, pure_eq_ok_iff, tagged, mapError_eq_ok_iff, dimensionD,
    colorD, expectChoice_eq_ok_iff names_axis, readLimit_eq_ok_iff,
    expectPositiveDimension_eq_ok_iff, valueD_eq_ok_iff decodes_dimension,
    valueD_eq_ok_iff decodes_color]
  -- Each reading is one field of what is read, and the step has two.
  -- Which readings there are is read off the builder.
  constructor
  · intro parts
    obtain ⟨axis, axisRead, limit, limitRead, step, stepRead, thickness, thicknessRead, color,
      colorRead, offset, offsetRead, rfl⟩ := parts
    exact ⟨_, rfl, axisRead, limitRead, stepRead.1, stepRead.2, thicknessRead, colorRead,
      offsetRead⟩
  · intro parts
    obtain ⟨grid, rfl, readFrom⟩ := parts
    exact ⟨_, readFrom.axis, _, readFrom.limit, _, ⟨readFrom.step, readFrom.positive⟩, _,
      readFrom.thickness, _, readFrom.color, _, readFrom.offset, rfl⟩

/-- Otherwise the first argument that is refused has the failure. -/
theorem failsBy_buildGridLines :
    FailsBy (buildGridLines block) (FirstRefusal (gridLinesRefusals block)) := by
  -- One argument after the other is read, and nothing fails behind the last.
  refine (failsBy_expectChoice names_axis).bind fun axis => ?_
  refine failsBy_readLimit.bind fun limit => ?_
  refine failsBy_expectPositiveDimension.bind fun step => ?_
  refine (failsBy_valueD decodes_dimension).bind fun thickness => ?_
  refine (failsBy_valueD decodes_color).bind fun color => ?_
  refine (failsBy_valueD decodes_dimension).bind fun offset => ?_
  exact failsBy_pure _

/-- A keyline is built when it can be read from the block. -/
theorem buildKeyline_eq_ok_iff :
    buildKeyline block = .ok layer ↔
      ∃ keyline, layer = .keyline keyline ∧ keyline.ReadFrom block := by
  simp only [buildKeyline, bind_eq_ok_iff, pure_eq_ok_iff, tagged, mapError_eq_ok_iff, dimensionD,
    colorD, expectChoice_eq_ok_iff names_edge, expectDimension_eq_ok_iff,
    valueD_eq_ok_iff decodes_dimension, valueD_eq_ok_iff decodes_color]
  -- The distance has no default, unlike that of a guide.
  constructor
  · intro parts
    obtain ⟨edge, edgeRead, distance, distanceRead, thickness, thicknessRead, color, colorRead,
      rfl⟩ := parts
    exact ⟨_, rfl, edgeRead, distanceRead, thicknessRead, colorRead⟩
  · intro parts
    obtain ⟨keyline, rfl, readFrom⟩ := parts
    exact ⟨_, readFrom.edge, _, readFrom.distance, _, readFrom.thickness, _, readFrom.color, rfl⟩

/-- Otherwise the first argument that is refused has the failure. -/
theorem failsBy_buildKeyline :
    FailsBy (buildKeyline block) (FirstRefusal (keylineRefusals block)) := by
  -- The edge comes first, then the distance, and then what may be left out.
  refine (failsBy_expectChoice names_edge).bind fun edge => ?_
  refine failsBy_expectDimension.bind fun distance => ?_
  refine (failsBy_valueD decodes_dimension).bind fun thickness => ?_
  refine (failsBy_valueD decodes_color).bind fun color => ?_
  exact failsBy_pure _

/-- The value of a fill's colour is expected and read, and then the fill is there. -/
theorem buildFill_eq_bind (block : Block) :
    buildFill block = (tagged (block.expectString "color" "color") >>= readColor) >>= fun color =>
      pure (.fill { color }) := by
  -- Two steps are taken as one, which is refused as a whole.
  rw [bind_assoc]
  rfl

/-- A fill is built when it can be read from the block. -/
theorem buildFill_eq_ok_iff :
    buildFill block = .ok layer ↔ ∃ fill, layer = .fill fill ∧ fill.ReadFrom block := by
  -- There is one reading only.
  rw [buildFill_eq_bind, bind_eq_ok_iff]
  simp only [expectColor_eq_ok_iff, pure_eq_ok_iff]
  constructor
  · intro parts
    obtain ⟨color, colorRead, rfl⟩ := parts
    exact ⟨⟨color⟩, rfl, ⟨colorRead⟩⟩
  · intro parts
    obtain ⟨fill, rfl, readFrom⟩ := parts
    exact ⟨fill.color, readFrom.color, rfl⟩

/-- Otherwise its colour is refused. -/
theorem failsBy_buildFill : FailsBy (buildFill block) (FirstRefusal (fillRefusals block)) := by
  -- Nothing is read behind the colour.
  rw [buildFill_eq_bind]
  refine failsBy_expectColor.bind fun color => ?_
  exact failsBy_pure _

/-- A label is built when it can be read from the block. -/
theorem buildDimensionsLabel_eq_ok_iff :
    buildDimensionsLabel block = .ok layer ↔
      ∃ label, layer = .dimensionsLabel label ∧ label.ReadFrom block := by
  simp only [buildDimensionsLabel, bind_eq_ok_iff, pure_eq_ok_iff, tagged, mapError_eq_ok_iff,
    colorD, choiceD_eq_ok_iff names_corner, readTextSize_eq_ok_iff, valueD_eq_ok_iff decodes_color]
  -- A label has a default for each of its arguments.
  constructor
  · intro parts
    obtain ⟨corner, cornerRead, textSize, textSizeRead, color, colorRead, rfl⟩ := parts
    exact ⟨_, rfl, cornerRead, textSizeRead, colorRead⟩
  · intro parts
    obtain ⟨label, rfl, readFrom⟩ := parts
    exact ⟨_, readFrom.corner, _, readFrom.textSize, _, readFrom.color, rfl⟩

/-- Otherwise the first argument that is refused has the failure. -/
theorem failsBy_buildDimensionsLabel :
    FailsBy (buildDimensionsLabel block) (FirstRefusal (dimensionsLabelRefusals block)) := by
  -- So nothing is refused unless its key is given.
  refine (failsBy_choiceD names_corner).bind fun corner => ?_
  refine failsBy_readTextSize.bind fun textSize => ?_
  refine (failsBy_valueD decodes_color).bind fun color => ?_
  exact failsBy_pure _

/--
Which layers are built of a block, and with which failures the others are refused.

Each argument that is given is the layer's, each that is not has its default, and a failure is that
of the first argument that is refused.
A choice by its word never needs a fallback.
-/
theorem built_iff_read_or_first_refusal (block : Block) :
    ((∀ layer, buildGridLines block = .ok layer ↔
        ∃ grid, layer = .gridLines grid ∧ grid.ReadFrom block) ∧
      ∀ failure, buildGridLines block = .error failure ↔
        FirstRefusal (gridLinesRefusals block) failure) ∧
    ((∀ layer, buildKeyline block = .ok layer ↔
        ∃ keyline, layer = .keyline keyline ∧ keyline.ReadFrom block) ∧
      ∀ failure, buildKeyline block = .error failure ↔
        FirstRefusal (keylineRefusals block) failure) ∧
    ((∀ layer, buildFill block = .ok layer ↔
        ∃ fill, layer = .fill fill ∧ fill.ReadFrom block) ∧
      ∀ failure, buildFill block = .error failure ↔
        FirstRefusal (fillRefusals block) failure) ∧
    ((∀ layer, buildDimensionsLabel block = .ok layer ↔
        ∃ label, layer = .dimensionsLabel label ∧ label.ReadFrom block) ∧
      ∀ failure, buildDimensionsLabel block = .error failure ↔
        FirstRefusal (dimensionsLabelRefusals block) failure) ∧
    ∀ (α : Type) key (choices : List α) name fallback,
      chooseByWord block key choices name fallback = block.expectChoice key choices name := by
  -- One pair for each builder: what it takes to succeed, and what it fails with.
  refine ⟨⟨fun _ => buildGridLines_eq_ok_iff, failsBy_buildGridLines⟩,
    ⟨fun _ => buildKeyline_eq_ok_iff, failsBy_buildKeyline⟩,
    ⟨fun _ => buildFill_eq_ok_iff, failsBy_buildFill⟩,
    ⟨fun _ => buildDimensionsLabel_eq_ok_iff, failsBy_buildDimensionsLabel⟩, ?_⟩
  intro α key choices name fallback
  exact chooseByWord_eq block key choices name fallback

end Layer

end OverlaySheet
