import OverlaySheet.Proofs.Registry
import OverlaySheet.Proofs.Sheet.Refinement
import OverlaySheet.Proofs.Sheet.Writing

/-! Inflating a written sheet gives back the overlays that it was written from. -/

namespace OverlaySheet

open Text (isBlank)

/-- The paragraph that a written block makes. -/
def Block.paragraph (block : Block) : Paragraph where
  header := block.layerType.toList
  body := block.arguments.map fun argument => .content argument.write true

/-- The items that a written overlay makes: its title if it has one, and its paragraphs. -/
def Overlay.items (overlay : Overlay Block) : List Item :=
  (overlay.title.map fun title => .title title.toList).toList ++
    overlay.layers.map fun block => .paragraph block.paragraph

/-- The items of written overlays are titles and the paragraphs of their blocks. -/
theorem Overlay.mem_items {overlays : List (Overlay Block)} {item : Item}
    (member : item ∈ overlays.flatMap Overlay.items) :
    (∃ text, item = .title text) ∨ ∃ block : Block, item = .paragraph block.paragraph := by
  obtain ⟨overlay, _, inOverlay⟩ := List.mem_flatMap.1 member
  -- Each overlay has a title at most, and behind it the paragraphs of its blocks.
  rcases List.mem_append.1 inOverlay with inTitle | inBlocks
  · obtain ⟨title, _, rfl⟩ := Option.map_eq_some_iff.1 (Option.mem_toList.1 inTitle)
    exact Or.inl ⟨_, rfl⟩
  · obtain ⟨block, _, rfl⟩ := List.mem_map.1 inBlocks
    exact Or.inr ⟨block, rfl⟩

/-- The readable lines of two texts below each other are those of one and then of the other. -/
@[simp] theorem Line.readable_append (grammar : Grammar) (above below : List Text) :
    readable grammar (above ++ below) = readable grammar above ++ readable grammar below := by
  simp [readable]

/-- The readable lines of a written block are its header, its arguments and the empty line. -/
theorem Block.Writable.readable_write {indent : Text} (isIndent : indent.IsIndent) {block : Block}
    (writable : block.Writable) :
    Line.readable {} (block.write indent) =
      .content block.layerType.toList false :: (block.paragraph.body ++ [.blank]) := by
  -- Each argument stands on an indented line of its own, which is content.
  have arguments :
      Line.readable {} (block.arguments.map (fun argument => indent ++ argument.write)) =
        block.paragraph.body := by
    have texts : ∀ argument ∈ block.arguments,
        Line.ofText {} (indent ++ argument.write) = .content argument.write true :=
      fun argument member => Line.ofText_argument isIndent (writable.arguments argument member)
    rw [Line.readable, List.map_map, Block.paragraph]
    rw [List.map_congr_left (g := fun argument => .content argument.write true) texts]
    simp
  have ending : Line.readable {} [[]] = [.blank] := by decide
  rw [Block.write, Line.readable_cons, Line.ofText_header writable, Line.readable_append,
    arguments, ending]
  rfl

/-- The lines of a written block become its paragraph, whatever comes below. -/
theorem Block.Writable.ofLines_write {indent : Text} (isIndent : indent.IsIndent) {block : Block}
    (writable : block.Writable) (below : List Line) :
    Item.ofLines (Line.readable {} (block.write indent) ++ below) =
      .paragraph block.paragraph :: Item.ofLines below := by
  -- The type is one token without a sign, so the line is a header.
  have header : Token.leadsWithValue block.layerType.toList = false := by
    have plain := writable.layerType.plain
    simp [Token.leadsWithValue, Token.split_of_solid writable.layerType.nonempty
      writable.layerType.solid, Token.hasValue, plain]
  -- No line of the body is blank, so the paragraph reaches to the empty line behind it.
  have inside : ∀ line ∈ block.paragraph.body, decide (line ≠ .blank) = true := by
    intro line member
    obtain ⟨argument, _, rfl⟩ := List.mem_map.1 member
    rfl
  rw [writable.readable_write isIndent, List.cons_append, Item.ofLines, header, List.append_assoc,
    List.takeWhile_append_of_pos inside, List.dropWhile_append_of_pos inside]
  simp [Item.ofLines, Block.paragraph]

/-- The lines of a written overlay become its items, whatever comes below. -/
theorem Overlay.Writable.ofLines_write {indent : Text} (isIndent : indent.IsIndent)
    {overlay : Overlay Block} (writable : overlay.Writable) (below : List Line) :
    Item.ofLines (Line.readable {} (overlay.write indent) ++ below) =
      overlay.items ++ Item.ofLines below := by
  -- The blocks follow each other, and each ends with its own empty line.
  have blocks : ∀ layers : List Block, (∀ block ∈ layers, block.Writable) →
      Item.ofLines (Line.readable {} (layers.flatMap (Block.write indent)) ++ below) =
        layers.map (fun block => Item.paragraph block.paragraph) ++ Item.ofLines below := by
    intro layers each
    induction layers with
    | nil => rfl
    | cons block rest ih =>
      obtain ⟨here, later⟩ := List.forall_mem_cons.1 each
      rw [List.flatMap_cons, Line.readable_append, List.append_assoc,
        here.ofLines_write isIndent, ih later]
      rfl
  rw [Overlay.write, Line.readable_append, List.append_assoc, Overlay.items]
  cases given : overlay.title with
  | none => exact blocks overlay.layers writable.layers
  | some title =>
    have line : Line.readable {} ['#' :: ' ' :: title.toList] = [.title title.toList] := by
      rw [Line.readable_cons, Line.ofText_title (writable.title title given).1]
      rfl
    rw [Option.map_some, Option.map_some, Option.toList_some, Option.toList_some, line,
      List.singleton_append, Item.ofLines, blocks overlay.layers writable.layers]
    rfl

/-- The lines of written overlays become the items of all of them. -/
theorem Overlay.ofLines_writeAll {indent : Text} (isIndent : indent.IsIndent)
    {overlays : List (Overlay Block)} (writable : ∀ overlay ∈ overlays, overlay.Writable) :
    Item.ofLines (Line.readable {} (overlays.flatMap (Overlay.write indent))) =
      overlays.flatMap Overlay.items := by
  -- The lines of the first overlay end where those of the second begin.
  induction overlays with
  | nil => simp [Line.readable, Item.ofLines]
  | cons overlay rest ih =>
    obtain ⟨here, later⟩ := List.forall_mem_cons.1 writable
    rw [List.flatMap_cons, Line.readable_append, here.ofLines_write isIndent, ih later,
      List.flatMap_cons]

/-- The chapter that a written overlay makes. -/
def Overlay.chapter (overlay : Overlay Block) : Chapter where
  title := overlay.title
  paragraphs := overlay.layers.map Block.paragraph

namespace Chapter

/-- Paragraphs in front lead, and add nothing to the chapters that titles begin. -/
theorem leading_and_titled_append (layers : List Block) (items : List Item) :
    leading (layers.map (fun block => .paragraph block.paragraph) ++ items) =
        layers.map Block.paragraph ++ leading items ∧
      titled (layers.map (fun block => .paragraph block.paragraph) ++ items) = titled items := by
  -- Each block in front makes a paragraph, and a paragraph opens no chapter.
  induction layers with
  | nil => exact ⟨rfl, rfl⟩
  | cons block rest ih => exact ⟨congrArg _ ih.1, ih.2⟩

/-- A title that is not empty is kept. -/
theorem titleOf_toList {title : String} (nonempty : title.toList ≠ []) :
    titleOf title.toList = some title := by
  simp only [titleOf, List.isEmpty_iff, nonempty, if_false, String.ofList_toList]

/-- The items of overlays that all have titles make the chapters of these overlays. -/
theorem leading_and_titled_items {overlays : List (Overlay Block)}
    (writable : ∀ overlay ∈ overlays, overlay.Writable)
    (haveTitles : ∀ overlay ∈ overlays, overlay.title ≠ none) :
    leading (overlays.flatMap Overlay.items) = [] ∧
      titled (overlays.flatMap Overlay.items) = overlays.map Overlay.chapter := by
  induction overlays with
  | nil => exact ⟨rfl, rfl⟩
  | cons overlay rest ih =>
    obtain ⟨here, later⟩ := List.forall_mem_cons.1 writable
    obtain ⟨hasTitle, others⟩ := List.forall_mem_cons.1 haveTitles
    obtain ⟨title, given⟩ := Option.ne_none_iff_exists'.1 hasTitle
    obtain ⟨leads, continues⟩ := ih later others
    -- The title is not empty, so reading it gives it back.
    have nonempty := (here.title title given).1.1.ne_nil
    obtain ⟨leadsHere, continuesHere⟩ :=
      leading_and_titled_append overlay.layers (rest.flatMap Overlay.items)
    simp only [List.flatMap_cons, Overlay.items, given, Option.map_some, Option.toList_some,
      List.cons_append, List.nil_append, leading, titled, leadsHere, leads, continuesHere,
      continues, titleOf_toList nonempty, List.append_nil, List.map_cons, Overlay.chapter, true_and]

/-- The items of writable overlays make the chapters of these overlays. -/
theorem ofItems_items {overlays : List (Overlay Block)}
    (writable : Overlay.AllWritable overlays) :
    ofItems (overlays.flatMap Overlay.items) = overlays.map Overlay.chapter := by
  cases overlays with
  | nil => rfl
  | cons overlay rest =>
    obtain ⟨here, later⟩ := List.forall_mem_cons.1 writable.each
    have haveTitles : ∀ other ∈ rest, other.title ≠ none := writable.titled
    obtain ⟨leads, continues⟩ := leading_and_titled_items later haveTitles
    cases given : overlay.title with
    | none =>
      -- Without a title, the blocks of the first overlay lead the sheet.
      obtain ⟨block, blocks, nonempty⟩ :=
        List.exists_cons_of_ne_nil (writable.first overlay rfl given)
      obtain ⟨leadsHere, continuesHere⟩ :=
        leading_and_titled_append overlay.layers (rest.flatMap Overlay.items)
      simp only [ofItems, List.flatMap_cons, Overlay.items, given, Option.map_none,
        Option.toList_none, List.nil_append, leadsHere, leads, List.append_nil, continuesHere,
        continues, List.map_cons, Overlay.chapter]
      simp [nonempty]
    | some title =>
      -- With a title on the first overlay, nothing leads the sheet.
      have haveAll : ∀ other ∈ overlay :: rest, other.title ≠ none :=
        List.forall_mem_cons.2 ⟨by simp [given], haveTitles⟩
      obtain ⟨leadsAll, titledAll⟩ := leading_and_titled_items writable.each haveAll
      rw [ofItems, leadsAll, titledAll]
      rfl

end Chapter

/-- The tokens of the paragraph are the type and the arguments, each as it was written. -/
theorem Block.Writable.tokens_paragraph {block : Block} (writable : block.Writable) :
    block.paragraph.tokens = block.layerType.toList :: block.arguments.map Argument.write := by
  have arguments : block.paragraph.body.flatMap Line.tokens =
      block.arguments.map Argument.write := by
    rw [Block.paragraph, List.flatMap_map, ← List.flatMap_pure_eq_map]
    refine List.flatMap_congr fun argument member => ?_
    -- A written argument is one word, and so one token.
    obtain ⟨nonempty, solid⟩ := (writable.arguments argument member).solid_write
    exact Token.split_of_solid nonempty solid
  rw [Paragraph.tokens, arguments, Block.paragraph,
    Token.split_of_solid writable.layerType.nonempty writable.layerType.solid]
  rfl

/-- No token of the paragraph is a reference, as a whole or in its value half. -/
theorem Block.Writable.settled_paragraph {block : Block} (writable : block.Writable) :
    ∀ token ∈ block.paragraph.tokens, Scope.Settled ['@'] token := by
  rw [writable.tokens_paragraph]
  refine List.forall_mem_cons.2 ⟨?_, ?_⟩
  · -- The type has no equals sign, and so no value half.
    exact Scope.settled_of_plain (Text.after?_eq_none_iff.2 fun _ => writable.noReference)
      writable.layerType.plain
  · intro token member
    obtain ⟨argument, inBlock, rfl⟩ := List.mem_map.1 member
    exact (writable.arguments argument inBlock).settled_write

/-- The written arguments are read as the arguments of the block. -/
theorem Block.Writable.arguments_write {block : Block} (writable : block.Writable) :
    (block.arguments.map Argument.write).map Token.argument = block.arguments := by
  rw [List.map_map]
  -- Every argument is writable, so each of them comes back from its own text.
  exact (List.map_congr_left fun argument member =>
    (writable.arguments argument member).argument_write).trans (List.map_id _)

namespace Dialect

/-- A dialect that records blocks of a type builds each writable one of them from its paragraph. -/
theorem builds_paragraph {dialect : Dialect Block} (grammar : dialect.grammar = {})
    {block : Block} (writable : block.Writable)
    (records : dialect.registry.find? block.layerType = some .ok) :
    dialect.Builds dialect.start.scope block.paragraph block := by
  have marker : dialect.start.scope.marker = ['@'] := by
    rw [start, grammar]
    rfl
  refine ⟨block.layerType.toList, block.arguments.map Argument.write, .ok, ?_,
    writable.layerType.plain, ?_, ?_, ?_, ?_⟩
  · -- No token is a reference, so expanding changes none of them.
    rw [Scope.expandAll_of_settled (marker ▸ writable.settled_paragraph),
      writable.tokens_paragraph]
  · rwa [String.ofList_toList]
  · intro token member
    obtain ⟨argument, inBlock, rfl⟩ := List.mem_map.1 member
    exact (writable.arguments argument inBlock).hasKey_write
  · -- The default rule lets keys repeat.
    simp [grammar]
  · rw [writable.arguments_write, String.ofList_toList]

/--
Inflating what was written gives the overlays back.

The dialect has the default markers and records the blocks of every type that is used.
-/
theorem inflate_writeAll {registry : Registry (Builder Block)} {indent : Text}
    {overlays : List (Overlay Block)} (isIndent : indent.IsIndent)
    (writable : Overlay.AllWritable overlays)
    (records : ∀ overlay ∈ overlays, ∀ block ∈ overlay.layers,
      registry.find? block.layerType = some .ok) :
    Dialect.inflate { registry } (Overlay.writeAll indent overlays) = .ok overlays := by
  -- The newlines of the text are those that end the written lines.
  have areLines : ∀ line ∈ overlays.flatMap (Overlay.write indent), Text.IsLine line := by
    intro line member
    obtain ⟨overlay, inOverlays, inOverlay⟩ := List.mem_flatMap.1 member
    exact (writable.each overlay inOverlays).isLine_write isIndent line inOverlay
  have items := Overlay.ofLines_writeAll isIndent writable.each
  rw [inflate, Overlay.writeAll, Text.lines_unlines areLines, inflateLines_eq_finish, start,
    finish_preamble_eq_ok_iff Scope.Reachable.empty, items]
  -- Nothing that is written declares a variable, so the scope stays as it was.
  have without : ∀ item ∈ overlays.flatMap Overlay.items, item.isDeclaration = false := by
    intro item member
    rcases Overlay.mem_items member with ⟨text, rfl⟩ | ⟨block, rfl⟩
    · rfl
    · rfl
  refine ⟨_, Scope.declareAll_of_no_declaration without,
    List.pairwise_of_forall_mem_list fun _ _ item member _ => without item member,
    composes_nil_iff.2 ⟨?_, ?_⟩⟩
  · -- Each line behind a header is an indented argument.
    intro paragraph member line inBody
    rcases Overlay.mem_items member with ⟨text, same⟩ | ⟨block, same⟩
    · cases same
    · obtain rfl := Item.paragraph.inj same
      obtain ⟨argument, _, rfl⟩ := List.mem_map.1 inBody
      exact Or.inl rfl
  · -- The chapters are those of the overlays, and each paragraph is that of its block.
    rw [Chapter.ofItems_items writable, List.forall₂_map_left_iff, List.forall₂_same]
    intro overlay inOverlays
    refine ⟨rfl, ?_⟩
    rw [Overlay.chapter, List.forall₂_map_left_iff, List.forall₂_same]
    intro block inLayers
    exact @builds_paragraph { registry } rfl block
      ((writable.each overlay inOverlays).layers block inLayers)
      (records overlay inOverlays block inLayers)

/-- Blocks with an awkward value, a flag and a repeated key come back, and so does a bare title. -/
theorem inflate_writeAll_two_overlays :
    Dialect.inflate { registry := Registry.empty.register "fill" .ok }
        "fill\n  color==a//#@\n  on\n  on=\n\n# Next\n".toList =
      .ok [{ layers := [⟨"fill", [⟨"color", some "=a//#@"⟩, ⟨"on", none⟩, ⟨"on", some ""⟩]⟩] },
        { title := some "Next" }] := by
  have fill : Block.Writable
      ⟨"fill", [⟨"color", some "=a//#@"⟩, ⟨"on", none⟩, ⟨"on", some ""⟩]⟩ := by
    refine ⟨⟨by decide, by decide, by decide⟩, by decide, by decide, by decide, ?_⟩
    intro argument member
    simp only [List.mem_cons, List.not_mem_nil, or_false] at member
    rcases member with rfl | rfl | rfl
    -- A key, and a value if there is one, hold no blank, and the line does not start with a marker.
    all_goals
      refine ⟨⟨by decide, by decide, by decide⟩, by decide, by decide, ?_⟩
      simp
    all_goals decide
  have writable : Overlay.AllWritable
      [{ layers := [⟨"fill", [⟨"color", some "=a//#@"⟩, ⟨"on", none⟩, ⟨"on", some ""⟩]⟩] },
        { title := some "Next" }] := by
    refine ⟨List.forall_mem_cons.2 ⟨⟨by simp, by simpa using fill⟩,
      -- The second overlay has a title and no blocks.
      List.forall_mem_singleton.2 ⟨?_, by simp⟩⟩, by simp, by simp⟩
    intro title given
    obtain rfl := Option.some.inj given
    exact ⟨Text.Solid.trimmed (by decide) (by decide), by decide⟩
  have blank : ∀ c ∈ [' ', ' '], isBlank c = true :=
    List.forall_mem_cons.2 ⟨by decide, List.forall_mem_singleton.2 (by decide)⟩
  exact inflate_writeAll (show Text.IsIndent [' ', ' '] from ⟨by decide, blank, by decide⟩)
    writable (by simp)

end Dialect

end OverlaySheet
