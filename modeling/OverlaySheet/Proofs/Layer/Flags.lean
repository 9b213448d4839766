import OverlaySheet.Proofs.Layer.Shadowing
import OverlaySheet.Proofs.Outcome

/-! Flags in the place of values: what a builder says of a flag for an argument that has a value. -/

namespace OverlaySheet

namespace Block

variable {block : Block} {argument : Argument} {key : String}

/-- One more argument counts for its own key, and for no other. -/
@[simp] theorem find?_push (block : Block) (argument : Argument) (key : String) :
    (block.push argument).find? key =
      if argument.key = key then some argument else block.find? key := by
  -- The search runs from behind, so it comes to the new argument first.
  rw [find?, find?, push, List.reverse_append, List.reverse_singleton, List.singleton_append,
    List.find?_cons]
  by_cases same : argument.key = key
  · simp [same]
  · simp [same]

/-- A flag counts for its key. -/
theorem find?_push_flag : (block.push ⟨key, none⟩).find? key = some ⟨key, none⟩ := by
  simp

/-- For all other keys the block is as it was before. -/
theorem alikeAt_push (different : argument.key ≠ key) :
    (block.push argument).AlikeAt block key where
  layerType := rfl
  find?_eq := by simp [different]

end Block

namespace Layer

variable {block : Block} {key sample : String} {layer : Layer}

/-- The lengths and colours that the layers of a type may leave out. -/
def optionalKeys (layerType : String) : List String :=
  match layerType with
  | "dimensions-label" => ["text-size", "color"]
  | "grid-lines" => ["thickness", "color", "offset"]
  | "guide" => ["distance", "thickness", "color"]
  | "keyline" => ["thickness", "color"]
  | _ => []

/-- What is said of a flag in the place of such a value; a text size is said not to be positive. -/
def flagFault (block : Block) (key : String) : Fault :=
  if key = "text-size" then block.nonPositiveArgument key "12sp"
  else if key = "color" then block.wrongArgument key "color" "#FF4081"
  else block.wrongArgument key "dimension" "8dp"

/-- A flag is a value of the wrong type. -/
theorem valueD_flag {α : Type} {read : String → Except Failure α} {expected : String}
    {default : α} :
    valueD read expected sample (block.push ⟨key, none⟩) key default =
      .error (.tagged (block.wrongArgument key expected sample)) := by
  -- The flag shadows all that the block has under this key.
  rw [valueD, Block.find?_push_flag]
  rfl

/-- So a flag is no length. -/
@[simp] theorem dimensionD_flag {default : Dimension} :
    dimensionD (block.push ⟨key, none⟩) key default =
      .error (.tagged (block.wrongArgument key "dimension" "8dp")) :=
  valueD_flag

/-- Nor is it a colour. -/
@[simp] theorem colorD_flag {default : Color} :
    colorD (block.push ⟨key, none⟩) key default =
      .error (.tagged (block.wrongArgument key "color" "#FF4081")) :=
  valueD_flag

/-- Nor is it a size of text, though for another reason. -/
@[simp] theorem readTextSize_flag :
    readTextSize (block.push ⟨"text-size", none⟩) =
      .error (.tagged (block.nonPositiveArgument "text-size" "12sp")) := by
  -- The key is given, so a length above zero is asked for, and there is no value that has one.
  rw [readTextSize, Block.has, expectPositiveDimension, Block.value?, Block.find?_push_flag]
  rfl

/-- Other lengths are what they were before. -/
theorem dimensionD_push_flag {other : String} {default : Dimension} (different : key ≠ other) :
    dimensionD (block.push ⟨key, none⟩) other default = dimensionD block other default :=
  dimensionD_eq (Block.alikeAt_push different) default

/-- So are other colours. -/
theorem colorD_push_flag {other : String} {default : Color} (different : key ≠ other) :
    colorD (block.push ⟨key, none⟩) other default = colorD block other default :=
  colorD_eq (Block.alikeAt_push different) default

/-- A guide is refused for the flag. -/
theorem buildGuide_flag (accepted : buildGuide block = .ok layer)
    (listed : key ∈ optionalKeys "guide") :
    buildGuide (block.push ⟨key, none⟩) = .error (.tagged (flagFault block key)) := by
  -- The builder was successful, so each of its steps was.
  simp only [buildGuide, bind_eq_ok_iff, tagged, mapError_eq_ok_iff] at accepted
  obtain ⟨_, edgeRead, _, distanceRead, _, thicknessRead, _⟩ := accepted
  have apart : ∀ other ∈ optionalKeys "guide",
      other ≠ "gravity" ∧ ∀ edge ∈ Edge.all, other ≠ edge.name := by decide
  obtain ⟨noGravity, noEdge⟩ := apart key listed
  -- The edge is read first, and a flag for one of these keys is no edge.
  rw [buildGuide, expectEdge_eq (Block.alikeAt_push noGravity) fun edge member =>
    Block.alikeAt_push (noEdge edge member), edgeRead]
  simp only [optionalKeys, List.mem_cons, List.not_mem_nil, or_false] at listed
  -- The keys are listed in the order in which they are read, so those before have their values.
  rcases listed with rfl | rfl | rfl
  · rw [dimensionD_flag]
    rfl
  · simp (disch := decide) only [dimensionD_push_flag, distanceRead, dimensionD_flag]
    rfl
  · simp (disch := decide) only [dimensionD_push_flag, distanceRead, thicknessRead, colorD_flag]
    rfl

/-- Grid lines are refused for the flag. -/
theorem buildGridLines_flag (accepted : buildGridLines block = .ok layer)
    (listed : key ∈ optionalKeys "grid-lines") :
    buildGridLines (block.push ⟨key, none⟩) = .error (.tagged (flagFault block key)) := by
  -- Three steps come before the first length that may be left out, and they were successful.
  simp only [buildGridLines, bind_eq_ok_iff, tagged, mapError_eq_ok_iff] at accepted
  obtain ⟨_, axisRead, _, limitRead, _, stepRead, _, thicknessRead, _, colorRead, _⟩ := accepted
  have apart : ∀ other ∈ optionalKeys "grid-lines",
      other ≠ "direction" ∧ other ≠ "limit" ∧ other ≠ "step" := by decide
  obtain ⟨noDirection, noLimit, noStep⟩ := apart key listed
  -- What must be there is read first, and the limit as well.
  rw [buildGridLines, (Block.alikeAt_push noDirection).expectChoice_eq, axisRead,
    readLimit_eq (Block.alikeAt_push noLimit), limitRead,
    expectPositiveDimension_eq (Block.alikeAt_push noStep), stepRead]
  simp only [optionalKeys, List.mem_cons, List.not_mem_nil, or_false] at listed
  rcases listed with rfl | rfl | rfl
  · rw [dimensionD_flag]
    rfl
  · simp (disch := decide) only [dimensionD_push_flag, thicknessRead, colorD_flag]
    rfl
  · simp (disch := decide) only [dimensionD_push_flag, thicknessRead, colorD_push_flag,
      colorRead, dimensionD_flag]
    rfl

/-- A keyline is refused for the flag. -/
theorem buildKeyline_flag (accepted : buildKeyline block = .ok layer)
    (listed : key ∈ optionalKeys "keyline") :
    buildKeyline (block.push ⟨key, none⟩) = .error (.tagged (flagFault block key)) := by
  -- The steps in front of the flag succeed as they did before.
  simp only [buildKeyline, bind_eq_ok_iff, tagged, mapError_eq_ok_iff] at accepted
  obtain ⟨_, edgeRead, _, distanceRead, _, thicknessRead, _⟩ := accepted
  have apart : ∀ other ∈ optionalKeys "keyline", other ≠ "from" ∧ other ≠ "distance" := by decide
  obtain ⟨noFrom, noDistance⟩ := apart key listed
  -- The edge and the distance must be there, and they are read first.
  rw [buildKeyline, (Block.alikeAt_push noFrom).expectChoice_eq, edgeRead,
    expectDimension_eq (Block.alikeAt_push noDistance), distanceRead]
  simp only [optionalKeys, List.mem_cons, List.not_mem_nil, or_false] at listed
  rcases listed with rfl | rfl
  · rw [dimensionD_flag]
    rfl
  · simp (disch := decide) only [dimensionD_push_flag, thicknessRead, colorD_flag]
    rfl

/-- A label is refused for the flag. -/
theorem buildDimensionsLabel_flag (accepted : buildDimensionsLabel block = .ok layer)
    (listed : key ∈ optionalKeys "dimensions-label") :
    buildDimensionsLabel (block.push ⟨key, none⟩) = .error (.tagged (flagFault block key)) := by
  -- Only the corner is read in front of what may be a flag.
  simp only [buildDimensionsLabel, bind_eq_ok_iff, tagged, mapError_eq_ok_iff] at accepted
  obtain ⟨_, cornerRead, _, textSizeRead, _⟩ := accepted
  have apart : ∀ other ∈ optionalKeys "dimensions-label", other ≠ "gravity" := by decide
  -- The corner is read first, and neither key is its.
  rw [buildDimensionsLabel, (Block.alikeAt_push (apart key listed)).choiceD_eq, cornerRead]
  simp only [optionalKeys, List.mem_cons, List.not_mem_nil, or_false] at listed
  rcases listed with rfl | rfl
  · rw [readTextSize_flag]
    rfl
  · have different : "color" ≠ "text-size" := by decide
    rw [readTextSize_eq (Block.alikeAt_push different), textSizeRead, colorD_flag]
    rfl

/-- The fault is about the key, and it is a wrong type for all keys but one. -/
theorem flagFault_about (block : Block) (key : String) :
    (flagFault block key).kind =
        (if key = "text-size" then .argumentNotPositive else .argumentWrongType) ∧
      (flagFault block key).args.take 2 = [.string block.layerType, .string key] := by
  unfold flagFault
  -- Each of the three faults cites the type of the layer first, and then the key.
  split
  · exact ⟨rfl, rfl⟩
  · split
    · exact ⟨rfl, rfl⟩
    · exact ⟨rfl, rfl⟩

/--
A flag in the place of a length or colour that may be left out is refused.

The fault is about that argument, and says that it is of the wrong type; only the size of a label's
text is said not to be positive.
-/
theorem flag_of_optional_value_refused {name : String} {builder : Builder Layer}
    (known : (name, builder) ∈ standard) (accepted : builder block = .ok layer)
    (listed : key ∈ optionalKeys name) :
    builder (block.push ⟨key, none⟩) = .error (.tagged (flagFault block key)) ∧
      (flagFault block key).kind =
        (if key = "text-size" then .argumentNotPositive else .argumentWrongType) ∧
      (flagFault block key).args.take 2 = [.string block.layerType, .string key] := by
  refine ⟨?_, flagFault_about block key⟩
  -- There are five builders, four of which have such arguments.
  simp only [standard, List.mem_cons, List.not_mem_nil, or_false, Prod.mk.injEq] at known
  rcases known with ⟨rfl, rfl⟩ | ⟨rfl, rfl⟩ | ⟨rfl, rfl⟩ | ⟨rfl, rfl⟩ | ⟨rfl, rfl⟩
  · exact buildDimensionsLabel_flag accepted listed
  · -- A fill has no argument that may be left out.
    simp [optionalKeys] at listed
  · exact buildGridLines_flag accepted listed
  · exact buildGuide_flag accepted listed
  · exact buildKeyline_flag accepted listed

section Sample

/-- A label with a value for each of its keys. -/
def writtenLabel : Block :=
  ⟨"dimensions-label",
    [⟨"gravity", some "top-left"⟩, ⟨"text-size", some "14sp"⟩, ⟨"color", some "red"⟩]⟩

/-- A flag hides the value before it, and it is refused, though not with the same kind of fault. -/
theorem flag_of_optional_value_refused_label :
    ("dimensions-label", buildDimensionsLabel) ∈ standard ∧
      buildDimensionsLabel writtenLabel =
        .ok (.dimensionsLabel ⟨.topLeft, .ofNat 14 .sp, ⟨0xFFFF0000⟩⟩) ∧
      "color" ∈ optionalKeys "dimensions-label" ∧
      buildDimensionsLabel (writtenLabel.push ⟨"color", none⟩) =
        .error (.tagged (.wrongArgument "dimensions-label" "color" "color" "#FF4081")) ∧
      "text-size" ∈ optionalKeys "dimensions-label" ∧
      buildDimensionsLabel (writtenLabel.push ⟨"text-size", none⟩) =
        .error (.tagged (.nonPositiveArgument "dimensions-label" "text-size" "12sp")) := by
  -- The block is accepted as it is, so all that changes is the flag behind it.
  have known : ("dimensions-label", buildDimensionsLabel) ∈ standard := by simp [standard]
  have built : buildDimensionsLabel writtenLabel =
      .ok (.dimensionsLabel ⟨.topLeft, .ofNat 14 .sp, ⟨0xFFFF0000⟩⟩) := by rfl
  have colorListed : "color" ∈ optionalKeys "dimensions-label" := by decide
  have textSizeListed : "text-size" ∈ optionalKeys "dimensions-label" := by decide
  exact ⟨known, built, colorListed, (flag_of_optional_value_refused known built colorListed).1,
    textSizeListed, (flag_of_optional_value_refused known built textSizeListed).1⟩

/-- A label that is all defaults. -/
def plainLabel : Block := ⟨"dimensions-label", []⟩

/-- The fault is not always that of a wrong type. -/
theorem flag_not_always_of_wrong_type :
    ¬ ∀ name builder block layer key, (name, builder) ∈ standard → builder block = .ok layer →
      key ∈ optionalKeys name → ∃ fault : Fault,
        builder (block.push ⟨key, none⟩) = .error (.tagged fault) ∧
          fault.kind = .argumentWrongType := by
  -- A plain label is accepted, so its flag would have to be of the wrong type.
  intro always
  obtain ⟨fault, refused, kind⟩ := always "dimensions-label" buildDimensionsLabel plainLabel _
    "text-size" (by simp [standard]) rfl (by decide)
  -- The size of text is said not to be positive instead.
  have said : buildDimensionsLabel (plainLabel.push ⟨"text-size", none⟩) =
      .error (.tagged (.nonPositiveArgument "dimensions-label" "text-size" "12sp")) := by rfl
  obtain rfl : fault = .nonPositiveArgument "dimensions-label" "text-size" "12sp" :=
    Cause.tagged.inj (Except.error.inj (refused.symm.trans said))
  cases kind

end Sample

end Layer

end OverlaySheet
