import OverlaySheet.Overlay
import OverlaySheet.Proofs.Sheet.Arguments
import OverlaySheet.Proofs.Sheet.Line
import OverlaySheet.Proofs.Sheet.Scope
import OverlaySheet.Proofs.Text.Lines

/-! Overlays of blocks written as the text of a sheet, and how each line of it is read. -/

namespace OverlaySheet

open Text (Solid EndsSolid Trimmed isBlank)

/-- An argument as it is written: its key, and its value behind an equals sign if it has one. -/
def Argument.write (argument : Argument) : Text :=
  match argument.value with
  | none => argument.key.toList
  | some value => argument.key.toList ++ '=' :: value.toList

/-- A block as it is written: its type, its arguments behind an indent, and an empty line. -/
def Block.write (indent : Text) (block : Block) : List Text :=
  block.layerType.toList ::
    (block.arguments.map (fun argument => indent ++ argument.write) ++ [[]])

namespace Overlay

/-- An overlay as it is written: its title behind the marker if it has one, and its blocks. -/
def write (indent : Text) (overlay : Overlay Block) : List Text :=
  (overlay.title.map fun title => '#' :: ' ' :: title.toList).toList ++
    overlay.layers.flatMap (Block.write indent)

/-- Overlays as they are written below each other. -/
def writeAll (indent : Text) (overlays : List (Overlay Block)) : Text :=
  Text.unlines (overlays.flatMap (write indent))

end Overlay

/-- A text that may stand for a type or a key: it has no blank and no equals sign. -/
structure Text.IsWord (text : Text) : Prop where
  nonempty : text ≠ []
  solid : Solid text
  plain : '=' ∉ text

/-- A text that indents a line: it has blanks alone, and no newline among them. -/
structure Text.IsIndent (text : Text) : Prop where
  nonempty : text ≠ []
  blank : ∀ c ∈ text, isBlank c = true
  oneLine : '\n' ∉ text

/-- A text that ends solid and holds no newline is a line. -/
theorem Text.EndsSolid.isLine {text : Text} (ends : EndsSolid text) (oneLine : '\n' ∉ text) :
    IsLine text := by
  refine ⟨oneLine, ?_⟩
  -- A carriage return is a blank, so the last character is none.
  obtain ⟨front, last, rfl, solid⟩ := ends
  intro isReturn
  have same : last = '\r' := by simpa using isReturn
  subst same
  cases solid

/-- A text without a blank is a line. -/
theorem Text.Solid.isLine {text : Text} (solid : Solid text) : IsLine text := by
  -- Neither of the two characters that would break the line is solid.
  refine ⟨fun newline => ?_, fun isReturn => ?_⟩
  · cases solid '\n' newline
  · cases solid '\r' (List.mem_of_getLast? isReturn)

/--
An argument that can be written.

A key opens with no marker of variables or comments, and a value has no blank and is no reference.
-/
structure Argument.Writable (argument : Argument) : Prop where
  key : Text.IsWord argument.key.toList
  noReference : ¬ ['@'] <+: argument.key.toList
  noComment : ¬ ['/', '/'] <+: argument.key.toList
  value : ∀ value, argument.value = some value → Solid value.toList ∧ ¬ ['@'] <+: value.toList

/-- A block that can be written: its type opens with no marker. -/
structure Block.Writable (block : Block) : Prop where
  layerType : Text.IsWord block.layerType.toList
  noReference : ¬ ['@'] <+: block.layerType.toList
  noTitle : ¬ ['#'] <+: block.layerType.toList
  noComment : ¬ ['/', '/'] <+: block.layerType.toList
  arguments : ∀ argument ∈ block.arguments, argument.Writable

/-- An overlay that can be written: a title is one line with no blanks around it. -/
structure Overlay.Writable (overlay : Overlay Block) : Prop where
  title : ∀ title, overlay.title = some title → Trimmed title.toList ∧ '\n' ∉ title.toList
  layers : ∀ block ∈ overlay.layers, block.Writable

/-- Overlays that can be written: only the first may have no title, and then it has a block. -/
structure Overlay.AllWritable (overlays : List (Overlay Block)) : Prop where
  each : ∀ overlay ∈ overlays, overlay.Writable
  titled : ∀ overlay ∈ overlays.tail, overlay.title ≠ none
  first : ∀ overlay, overlays.head? = some overlay → overlay.title = none → overlay.layers ≠ []

namespace Argument

variable {argument : Argument}

/-- The first equals sign of a written argument stands behind its key. -/
theorem Writable.cut_write (writable : argument.Writable) :
    Text.cut '=' argument.write = (argument.key.toList, argument.value.map String.toList) := by
  unfold write
  -- No sign is in the key, so the first one is the one that was written.
  cases argument.value with
  | none => exact Text.cut_of_not_mem writable.key.plain
  | some value => exact Text.cut_append writable.key.plain value.toList

/-- A written argument is read as that argument. -/
theorem Writable.argument_write (writable : argument.Writable) :
    Token.argument argument.write = argument := by
  simp [Token.argument, writable.cut_write, Function.comp_def]

/-- A written argument has a key. -/
theorem Writable.hasKey_write (writable : argument.Writable) : Token.HasKey argument.write := by
  -- Writing puts the key in front of the sign, or it is all that is written.
  rw [Token.HasKey, writable.cut_write]
  exact writable.key.nonempty

/-- A written argument is one word with no blank. -/
theorem Writable.solid_write (writable : argument.Writable) :
    argument.write ≠ [] ∧ Solid argument.write := by
  have nonempty := writable.key.nonempty
  have solid := writable.key.solid
  unfold write
  cases given : argument.value with
  | none => exact ⟨nonempty, solid⟩
  | some value =>
    refine ⟨by simp, fun c member => ?_⟩
    -- A character is one of the key, the sign, or one of the value.
    rcases List.mem_append.1 member with inKey | behind
    · exact solid c inKey
    · rcases List.mem_cons.1 behind with rfl | inValue
      · exact Token.isBlank_equals
      · exact (writable.value value given).1 c inValue

/-- A marker without equals signs opens a written argument only when it opens the key. -/
theorem not_opens_write {marker : Text} (plain : '=' ∉ marker)
    (unmarked : ¬ marker <+: argument.key.toList) : ¬ marker <+: argument.write := by
  unfold write
  cases argument.value with
  | none => exact unmarked
  | some value =>
    intro opens
    rcases Text.prefix_append_cases opens with inKey | ⟨c, more, longer, next⟩
    · exact unmarked inKey
    · -- A longer marker would have to take the equals sign in.
      have sign : '=' = c := by simpa using next
      subst sign
      exact plain (by simp [longer])

/-- A written argument refers to no variable. -/
theorem Writable.settled_write (writable : argument.Writable) :
    Scope.Settled ['@'] argument.write := by
  constructor
  · exact Text.after?_eq_none_iff.2 fun _ =>
      not_opens_write (by decide) writable.noReference
  · -- The half of the written argument is the value that was given.
    intro half found
    rw [writable.cut_write] at found
    obtain ⟨value, given, rfl⟩ := Option.map_eq_some_iff.1 found
    exact Text.after?_eq_none_iff.2 fun _ => (writable.value value given).2

end Argument

namespace Line

/-- A written title is read as that title. -/
theorem ofText_title {title : Text} (trimmed : Trimmed title) :
    ofText {} ('#' :: ' ' :: title) = .title title := by
  have whole : Trimmed ('#' :: ' ' :: title) :=
    ⟨⟨'#', _, rfl, by decide⟩, trimmed.2.append ['#', ' ']⟩
  have uncommented : Text.after? "//".toList ('#' :: ' ' :: title) = none := rfl
  have marked : Text.after? "#".toList ('#' :: ' ' :: title) = some (' ' :: title) := rfl
  -- The space behind the marker is trimmed away, and the title itself is not.
  have inner : Text.trim (' ' :: title) = title :=
    @Text.trim_blanks_append [' '] title (List.forall_mem_singleton.2 (by decide)) trimmed
  simp only [ofText, Text.trim_of_trimmed whole, List.isEmpty_cons, Bool.false_eq_true, if_false,
    uncommented, Option.isSome_none, isIndented, List.head?_cons, Option.any_some,
    show isBlank '#' = false from by decide, marked?, title?, marked, Option.map_some, inner]
  rfl

/-- A written type is read as content at the margin. -/
theorem ofText_header {block : Block} (writable : block.Writable) :
    ofText {} block.layerType.toList = .content block.layerType.toList false := by
  have trimmed : Trimmed block.layerType.toList :=
    writable.layerType.solid.trimmed writable.layerType.nonempty
  refine ofText_eq_content_iff.2 ⟨Text.trim_of_trimmed trimmed, writable.layerType.nonempty,
    Text.after?_eq_none_iff.2 fun _ => writable.noComment, isIndented_of_opensSolid trimmed.1,
    fun _ => ?_⟩
  -- Neither of the other two markers is in front of the type.
  exact marked?_eq_none_iff.2 ⟨Text.after?_eq_none_iff.2 fun _ => writable.noReference,
    Text.after?_eq_none_iff.2 fun _ => writable.noTitle⟩

/-- A written argument behind an indent is read as indented content. -/
theorem ofText_argument {indent : Text} (isIndent : indent.IsIndent) {argument : Argument}
    (writable : argument.Writable) :
    ofText {} (indent ++ argument.write) = .content argument.write true := by
  obtain ⟨nonempty, solid⟩ := writable.solid_write
  refine ofText_eq_content_iff.2
    ⟨Text.trim_blanks_append isIndent.blank (solid.trimmed nonempty), nonempty,
      Text.after?_eq_none_iff.2 fun _ => Argument.not_opens_write (by decide) writable.noComment,
      ?_, by simp⟩
  -- The indent starts with a blank, so the line is indented.
  obtain ⟨c, rest, rfl⟩ := List.exists_cons_of_ne_nil isIndent.nonempty
  simp [isIndented, isIndent.blank c (by simp)]

end Line

/-- Each line of a written block is a line. -/
theorem Block.Writable.isLine_write {indent : Text} (isIndent : indent.IsIndent) {block : Block}
    (writable : block.Writable) : ∀ line ∈ block.write indent, Text.IsLine line := by
  intro line member
  rcases List.mem_cons.1 member with rfl | behind
  · -- The header is the type alone, which is a word.
    exact writable.layerType.solid.isLine
  · rcases List.mem_append.1 behind with inArguments | empty
    · obtain ⟨argument, inBlock, rfl⟩ := List.mem_map.1 inArguments
      obtain ⟨nonempty, solid⟩ := (writable.arguments argument inBlock).solid_write
      -- The line ends as the argument does, which is no carriage return.
      have ends : EndsSolid (indent ++ argument.write) := (solid.trimmed nonempty).2.append indent
      refine ends.isLine fun newline => ?_
      rcases List.mem_append.1 newline with inIndent | inArgument
      · exact isIndent.oneLine inIndent
      · exact solid.isLine.1 inArgument
    · obtain rfl := List.mem_singleton.1 empty
      exact ⟨by simp, by simp⟩

/-- Each line of a written overlay is a line. -/
theorem Overlay.Writable.isLine_write {indent : Text} (isIndent : indent.IsIndent)
    {overlay : Overlay Block} (writable : overlay.Writable) :
    ∀ line ∈ overlay.write indent, Text.IsLine line := by
  intro line member
  rcases List.mem_append.1 member with inTitle | inBlocks
  · -- A title is written behind its marker and a space, on one line.
    obtain ⟨title, given, rfl⟩ := Option.map_eq_some_iff.1 (Option.mem_toList.1 inTitle)
    obtain ⟨trimmed, oneLine⟩ := writable.title title given
    exact (trimmed.2.append ['#', ' ']).isLine (by simpa using oneLine)
  · obtain ⟨block, inLayers, inBlock⟩ := List.mem_flatMap.1 inBlocks
    exact (writable.layers block inLayers).isLine_write isIndent line inBlock

end OverlaySheet
