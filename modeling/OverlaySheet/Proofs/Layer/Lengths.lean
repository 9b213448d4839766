import OverlaySheet.Proofs.Layer.Dimension
import OverlaySheet.Proofs.Layer.Edge

/-! Lengths of built layers: where they come from, and when all of them have a written number. -/

namespace OverlaySheet

namespace Value

/-- A value is another one or stands somewhere in it. -/
inductive Holds (part : Value) : Value → Prop where
  | self : Holds part part
  | item {items : List Value} {item : Value} : item ∈ items → Holds part item →
      Holds part (.array items)
  | field {fields : List (String × Value)} {field : String × Value} : field ∈ fields →
      Holds part field.2 → Holds part (.table fields)

/-- A table holds null when one of its fields does. -/
theorem holds_null_table {fields : List (String × Value)} :
    Holds .null (.table fields) ↔ ∃ field ∈ fields, Holds .null field.2 := by
  constructor
  · -- A table is not null itself, so null stands in a field.
    rintro (_ | _ | ⟨member, holds⟩)
    exact ⟨_, member, holds⟩
  · rintro ⟨field, member, holds⟩
    exact .field member holds

/-- A word is not null. -/
@[simp] theorem not_holds_null_string (text : String) : ¬ Holds .null (.string text) := nofun

/-- Nor is a switch. -/
@[simp] theorem not_holds_null_bool (b : Bool) : ¬ Holds .null (.bool b) := nofun

/-- Nor is a number. -/
@[simp] theorem not_holds_null_number (n : Number) : ¬ Holds .null (.number n) := nofun

end Value

/-- A length has a null in it when it is not finite. -/
@[simp] theorem Dimension.holds_null_toValue (dimension : Dimension) :
    Value.Holds .null dimension.toValue ↔ dimension.value.isFinite = false := by
  rw [toValue, Value.holds_null_table, Value.ofSingle]
  cases finite : dimension.value.isFinite with
  | true =>
    -- A finite number and the name of its unit are no null.
    simp
  | false => simp [Value.Holds.self]

namespace Layer

/-- The lengths that a layer carries. -/
def lengths : Layer → List Dimension
  | guide g => [g.distance, g.thickness]
  | gridLines g => [g.step, g.thickness, g.offset]
  | keyline k => [k.distance, k.thickness]
  | fill _ => []
  | dimensionsLabel l => [l.textSize]

/-- The lengths that must be above zero: the step of a grid and the size of a label's text. -/
def positiveLengths : Layer → List Dimension
  | gridLines g => [g.step]
  | dimensionsLabel l => [l.textSize]
  | _ => []

/-- A layer has a null in it when one of its lengths is not finite. -/
theorem holds_null_toValue (layer : Layer) :
    Value.Holds .null layer.toValue ↔
      ∃ dimension ∈ layer.lengths, dimension.value.isFinite = false := by
  -- Its fields are looked at one by one, and only lengths can have a null in them.
  rw [toValue, Value.holds_null_table]
  cases layer with
  | gridLines g =>
    obtain ⟨axis, step, thickness, color, offset, limit⟩ := g
    -- A limit is a whole number, and without one the field is left out.
    cases limit <;>
      simp [properties, lengths, Color.toValue, Value.integer]
  | guide g | keyline g | fill g | dimensionsLabel g =>
    simp [properties, lengths, Color.toValue]

/-- A length is a default, or it is read from what a key of the block has as its value. -/
inductive Given (block : Block) : Dimension → Prop where
  | default {dimension : Dimension} :
      dimension ∈ [defaultThickness, defaultTextSize, noLength] → Given block dimension
  | value {key value : String} {dimension : Dimension} : block.value? key = some value →
      Dimension.read? value = some dimension → Given block dimension

variable {block : Block} {key : String} {dimension : Dimension}

/-- A length that is read is given by a key. -/
theorem given_of_reads (reads : Reads Dimension.read? block key dimension) :
    Given block dimension := by
  -- The reading names the value from which the length comes.
  obtain ⟨_, gives, read⟩ := reads
  exact .value (Block.value?_eq_some_iff.2 gives) read

/-- A length with a default is given by a key, or it is the default. -/
theorem given_of_readsOr {default : Dimension}
    (isDefault : default ∈ [defaultThickness, defaultTextSize, noLength])
    (reads : ReadsOr Dimension.read? block key default dimension) : Given block dimension := by
  -- Without the key it is the default, and with it the key's value.
  rcases reads with ⟨_, rfl⟩ | reads
  · exact .default isDefault
  · exact given_of_reads reads

/-- All lengths of a layer are given, and those that must be above zero are. -/
structure Measured (block : Block) (layer : Layer) : Prop where
  given : ∀ dimension ∈ layer.lengths, Given block dimension
  positive : ∀ dimension ∈ layer.positiveLengths, dimension.value.AboveZero

variable {layer : Layer}

/-- The lengths of a guide are given. -/
theorem measured_of_buildGuide (built : buildGuide block = .ok layer) : Measured block layer := by
  obtain ⟨guide, rfl, readFrom⟩ := buildGuide_eq_ok_iff.1 built
  -- A guide has no length that must be above zero.
  refine ⟨?_, List.forall_mem_nil _⟩
  exact List.forall_mem_cons.2 ⟨given_of_readsOr (by simp) readFrom.distance,
    List.forall_mem_singleton.2 (given_of_readsOr (by simp) readFrom.thickness)⟩

/-- The lengths of grid lines are given, and the step is above zero. -/
theorem measured_of_buildGridLines (built : buildGridLines block = .ok layer) :
    Measured block layer := by
  obtain ⟨grid, rfl, readFrom⟩ := buildGridLines_eq_ok_iff.1 built
  -- Of the three lengths, only the step has no default.
  refine ⟨?_, List.forall_mem_singleton.2 readFrom.positive⟩
  exact List.forall_mem_cons.2 ⟨given_of_reads readFrom.step, List.forall_mem_cons.2
    ⟨given_of_readsOr (by simp) readFrom.thickness,
      List.forall_mem_singleton.2 (given_of_readsOr (by simp) readFrom.offset)⟩⟩

/-- The lengths of a keyline are given. -/
theorem measured_of_buildKeyline (built : buildKeyline block = .ok layer) :
    Measured block layer := by
  obtain ⟨keyline, rfl, readFrom⟩ := buildKeyline_eq_ok_iff.1 built
  -- A distance must be there, and a thickness may be left out.
  refine ⟨?_, List.forall_mem_nil _⟩
  exact List.forall_mem_cons.2 ⟨given_of_reads readFrom.distance,
    List.forall_mem_singleton.2 (given_of_readsOr (by simp) readFrom.thickness)⟩

/-- A fill has no lengths. -/
theorem measured_of_buildFill (built : buildFill block = .ok layer) : Measured block layer := by
  -- There is nothing to measure.
  obtain ⟨fill, rfl, _⟩ := buildFill_eq_ok_iff.1 built
  exact ⟨List.forall_mem_nil _, List.forall_mem_nil _⟩

/-- The size of a label's text is given and above zero. -/
theorem measured_of_buildDimensionsLabel (built : buildDimensionsLabel block = .ok layer) :
    Measured block layer := by
  obtain ⟨label, rfl, readFrom⟩ := buildDimensionsLabel_eq_ok_iff.1 built
  -- The default is above zero as well.
  rcases readFrom.textSize with ⟨_, isDefault⟩ | ⟨reads, positive⟩
  · refine ⟨List.forall_mem_singleton.2 ?_, List.forall_mem_singleton.2 ?_⟩
    · exact .default (by simp [isDefault])
    · rw [isDefault]
      decide
  · exact ⟨List.forall_mem_singleton.2 (given_of_reads reads),
      List.forall_mem_singleton.2 positive⟩

/-- The lengths of every layer that is built are given, and above zero where they must be. -/
theorem measured_of_built {name : String} {builder : Builder Layer}
    (known : (name, builder) ∈ standard) (built : builder block = .ok layer) :
    Measured block layer := by
  -- The builders are those of the standard registry, one lemma for each.
  simp only [standard, List.mem_cons, List.not_mem_nil, or_false, Prod.mk.injEq] at known
  rcases known with ⟨-, rfl⟩ | ⟨-, rfl⟩ | ⟨-, rfl⟩ | ⟨-, rfl⟩ | ⟨-, rfl⟩
  · exact measured_of_buildDimensionsLabel built
  · exact measured_of_buildFill built
  · exact measured_of_buildGridLines built
  · exact measured_of_buildGuide built
  · exact measured_of_buildKeyline built

/-- A default is finite. -/
theorem isFinite_default (isDefault : dimension ∈ [defaultThickness, defaultTextSize, noLength]) :
    dimension.value.isFinite = true := by
  simp only [List.mem_cons, List.not_mem_nil, or_false] at isDefault
  -- There are three defaults, and each of them is computed.
  rcases isDefault with rfl | rfl | rfl <;> decide

/--
Lengths are never undefined, and finite exactly below what 32 bits round to infinity.

A finite length is read again from what is written of it, and an infinite one is not.
A length of a built layer that is not finite stands as the value of a key, steps and sizes of text
are above zero, and the layer holds null exactly when one of its lengths is not finite.
-/
theorem lengths_finite_or_beyond_ceiling (text : String) (block : Block) :
    (∀ dimension, Dimension.read? text = some dimension →
      ∃ negative whole fraction,
        Dimension.IsWritten (Text.trim text.toList) negative whole fraction dimension.unit ∧
        (dimension.value.isFinite = true ↔
          (Decimal.ofDigits negative whole fraction 0).magnitude < (2 ^ 25 - 1) * 2 ^ 103) ∧
        dimension.value ≠ .notANumber ∧
        Dimension.read? (String.ofList dimension.write) =
          if dimension.value.isFinite then some dimension else none) ∧
    ∀ name builder layer, (name, builder) ∈ standard → builder block = .ok layer →
      (∀ dimension ∈ layer.lengths, dimension.value ≠ .notANumber ∧
        (dimension.value.isFinite = false →
          ∃ key value, block.value? key = some value ∧ Dimension.read? value = some dimension)) ∧
      (∀ dimension ∈ layer.positiveLengths, dimension.value.AboveZero) ∧
      (Value.Holds .null layer.toValue ↔
        ∃ dimension ∈ layer.lengths, dimension.value.isFinite = false) := by
  refine ⟨fun dimension => Dimension.read?_outcomes, ?_⟩
  intro name builder layer known built
  have measured := measured_of_built known built
  refine ⟨fun dimension member => ?_, measured.positive, holds_null_toValue layer⟩
  cases measured.given dimension member with
  | default isDefault =>
    -- Only a length that was read can be without a number.
    have finite := isFinite_default isDefault
    refine ⟨?_, fun infinite => ?_⟩
    · rintro undefined
      rw [undefined] at finite
      cases finite
    · cases finite.symm.trans infinite
  -- What is read is a number or infinite.
  | value found read =>
    obtain ⟨_, _, _, _, _, defined, _⟩ := Dimension.read?_outcomes read
    exact ⟨defined, fun _ => ⟨_, _, found, read⟩⟩

section Sample

/-- A length with forty-one digits. -/
def greatLength : Dimension := ⟨.infinite false, .dp⟩

/-- How it is written. -/
def greatText : String := "10000000000000000000000000000000000000000dp"

/-- A block of grid lines with such a step. -/
def greatBlock : Block :=
  ⟨"grid-lines", [⟨"direction", some "horizontal"⟩, ⟨"step", some greatText⟩]⟩

/-- The grid lines that are built of it. -/
def greatGrid : GridLines :=
  ⟨.horizontal, greatLength, defaultThickness, defaultLineColor, noLength, none⟩

/-- A length that is written in another way is read again, and a grid may hold null as its step. -/
theorem lengths_finite_or_beyond_ceiling_step :
    Dimension.read? "-01.50dip" = some ⟨.finite true 12582912 (-23), .dp⟩ ∧
      Dimension.read? "-1.5dp" = some ⟨.finite true 12582912 (-23), .dp⟩ ∧
      buildGridLines greatBlock = .ok (.gridLines greatGrid) ∧
      greatLength.value.AboveZero ∧ Value.Holds .null (Layer.gridLines greatGrid).toValue := by
  have read : Dimension.read? "-01.50dip" = some ⟨.finite true 12582912 (-23), .dp⟩ := by decide
  have built : buildGridLines greatBlock = .ok (.gridLines greatGrid) := by rfl
  -- The length is written with fewer digits, and under the unit's own name.
  obtain ⟨_, _, _, _, _, _, again⟩ :=
    (lengths_finite_or_beyond_ceiling "-01.50dip" greatBlock).1 _ read
  have written : Dimension.write ⟨.finite true 12582912 (-23), .dp⟩ = "-1.5dp".toList := by decide
  -- The step is infinite, and the grid is built all the same.
  have known : ("grid-lines", buildGridLines) ∈ standard := by simp [standard]
  obtain ⟨_, positive, holds⟩ :=
    (lengths_finite_or_beyond_ceiling greatText greatBlock).2 _ _ _ known built
  refine ⟨read, ?_, built, positive greatLength (by simp [positiveLengths, greatGrid]),
    holds.2 ⟨greatLength, by simp [lengths, greatGrid], rfl⟩⟩
  rw [written, String.ofList_toList] at again
  exact again

/-- A length is not always finite. -/
theorem read?_not_always_finite :
    ¬ ∀ text dimension, Dimension.read? text = some dimension →
      dimension.value.isFinite = true := by
  intro always
  -- Forty-one digits are beyond the ceiling.
  exact absurd (always greatText greatLength (by decide)) (by decide)

end Sample

end Layer

end OverlaySheet
