import OverlaySheet.Proofs.Layer.Acceptance

/-! Guides: the edge is the value of its key, or the one edge that is given without that key. -/

namespace OverlaySheet

namespace Layer

variable {block : Block} {key : String} {edge : Edge}

/-- An edge is the value of a key or, without the key, the only edge that is given by its name. -/
def EdgeOf (block : Block) (key : String) (edge : Edge) : Prop :=
  -- An edge that is given with a value is given as well.
  block.Gives key edge.name ∨
    block.Lacks key ∧ ∀ other : Edge, ¬ block.Lacks other.name ↔ other = edge

/-- An edge is the value of a key or, without the key, the only edge whose name is a flag. -/
def FlaggedEdge (block : Block) (key : String) (edge : Edge) : Prop :=
  block.Gives key edge.name ∨
    block.Lacks key ∧ ∀ other : Edge, block.Flags other.name ↔ other = edge

/-- The edges that a block gives by their names, whether as flags or with values. -/
def givenEdges (block : Block) : List Edge :=
  Edge.all.filter fun edge => block.has edge.name

/-- What is said to stand in the place of an edge: the key's value, or all edges that are given. -/
def statedEdge (block : Block) (key : String) : Option String :=
  if block.has key then block.value? key
  else match givenEdges block with
    | [] => none
    | edges => some (",".intercalate (edges.map Edge.name))

/-- The fault of a block without an edge, or with too many. -/
def edgeFault (block : Block) (key : String) : Fault :=
  .unlistedArgument block.layerType key (statedEdge block key) (Edge.all.map Edge.name)

/--
The edge of a guide in two steps.

First a word is accepted, and then the edge is looked up that it names, with a fallback for words
that name none.
-/
def expectEdgeByWord (block : Block) (key : String) (fallback : Edge) : Except Fault Edge :=
  if block.has key then chooseByWord block key Edge.all Edge.name fallback
  else
    let fault := fun actual =>
      Fault.unlistedArgument block.layerType key actual (Edge.all.map Edge.name)
    match (Edge.all.map Edge.name).filter block.has with
    | [word] => .ok ((Edge.ofName? word).getD fallback)
    | [] => .error (fault none)
    | several => .error (fault (some (",".intercalate several)))

/-- An edge is given by its name when the name is not lacking. -/
@[simp] theorem mem_givenEdges_iff : edge ∈ givenEdges block ↔ ¬ block.Lacks edge.name := by
  -- Every edge is among those that are tried.
  rw [givenEdges, List.mem_filter, Block.has_iff]
  exact and_iff_right (names_edge.complete edge)

/-- No edge is listed twice. -/
theorem nodup_givenEdges (block : Block) : (givenEdges block).Nodup := by
  -- They are picked from all edges, which differ from each other.
  have all : Edge.all.Nodup := by decide
  exact List.Pairwise.filter _ all

/-- One edge is given alone when its name is not lacking and those of all others are. -/
theorem givenEdges_eq_singleton_iff :
    givenEdges block = [edge] ↔ ∀ other : Edge, ¬ block.Lacks other.name ↔ other = edge := by
  simp only [← mem_givenEdges_iff]
  constructor
  · intro alone other
    rw [alone, List.mem_singleton]
  · intro alone
    -- Lists without repeats that have one and the same member only are the same.
    rw [← List.perm_singleton, List.perm_ext_iff_of_nodup (nodup_givenEdges block) (by simp)]
    intro other
    rw [alone, List.mem_singleton]

/-- With its key, an edge is a choice like any other. -/
theorem expectEdge_of_given (given : ¬ block.Lacks key) :
    expectEdge block key = block.expectChoice key Edge.all Edge.name :=
  if_pos (Block.has_iff.2 given)

/-- Without its key, an edge is the only one that is given. -/
theorem expectEdge_of_lacks (lacks : block.Lacks key) :
    expectEdge block key =
      match givenEdges block with
      | [edge] => .ok edge
      | _ => .error (edgeFault block key) := by
  have absent : ¬ block.has key = true := by simpa [Block.has_iff] using lacks
  rw [expectEdge, if_neg absent, edgeFault, statedEdge, if_neg absent, ← givenEdges]
  -- No edge is given, or one, or several.
  rcases givenEdges block with _ | ⟨edge, _ | ⟨other, edges⟩⟩
  · rfl
  · rfl
  · rfl

/-- An edge is read as said. -/
theorem expectEdge_eq_ok_iff : expectEdge block key = .ok edge ↔ EdgeOf block key edge := by
  rw [EdgeOf, ← givenEdges_eq_singleton_iff]
  -- The names of edges matter only without the key, and its value only with it.
  by_cases lacks : block.Lacks key
  · have ungiven : ¬ block.Gives key edge.name := fun gives => gives.not_lacks lacks
    rw [expectEdge_of_lacks lacks]
    simp only [lacks, ungiven, true_and, false_or]
    -- There may be one edge or another number of them.
    split
    · next other given => simp [given]
    · next several =>
      constructor
      · intro read
        cases read
      · intro alone
        exact absurd alone (several edge)
  · -- With the key, its value alone is looked at.
    rw [expectEdge_of_given lacks, expectChoice_eq_ok_iff names_edge]
    simp [lacks]

/-- It fails with one fault only. -/
theorem eq_of_expectEdge_eq_error {own : Fault} (failed : expectEdge block key = .error own) :
    own = edgeFault block key := by
  -- The fault is the same whether the key is there or not, though what it states differs.
  by_cases lacks : block.Lacks key
  · rw [expectEdge_of_lacks lacks] at failed
    split at failed
    · cases failed
    · exact (Except.error.inj failed).symm
  · rw [expectEdge_of_given lacks] at failed
    rw [edgeFault, statedEdge, if_pos (Block.has_iff.2 lacks)]
    exact Block.eq_of_orFault_eq_error failed

/-- It fails when no edge is given as said. -/
theorem expectEdge_eq_error_iff {fault : Fault} :
    expectEdge block key = .error fault ↔
      (∀ edge, ¬ EdgeOf block key edge) ∧ fault = edgeFault block key := by
  simp only [← expectEdge_eq_ok_iff]
  -- A reading that is no success is the one failure that there is.
  cases outcome : expectEdge block key with
  | ok edge => simp
  | error own =>
    obtain rfl := eq_of_expectEdge_eq_error outcome
    simp [eq_comm]

/-- No edge is given as said, for which there is a fault. -/
def NotEdge (block : Block) (key : String) : Refusal := fun failure =>
  (∀ edge, ¬ EdgeOf block key edge) ∧ failure = .tagged (edgeFault block key)

/-- With that fault it is refused. -/
theorem failsBy_expectEdge : FailsBy (tagged (expectEdge block key)) (NotEdge block key) := by
  intro failure
  rw [tagged, mapError_eq_error_iff, NotEdge]
  constructor
  · -- The fault is the only one of the step, so the failure is its tagged form.
    intro parts
    obtain ⟨_, failed, rfl⟩ := parts
    obtain ⟨none, rfl⟩ := expectEdge_eq_error_iff.1 failed
    exact ⟨none, rfl⟩
  · intro parts
    obtain ⟨none, rfl⟩ := parts
    exact ⟨_, expectEdge_eq_error_iff.2 ⟨none, rfl⟩, rfl⟩

/-- The name of an edge names it. -/
@[simp] theorem ofName?_name (edge : Edge) : Edge.ofName? edge.name = some edge :=
  names_edge.find?_eq_some_iff.2 rfl

/-- No word that is accepted needs the fallback. -/
theorem expectEdgeByWord_eq (block : Block) (key : String) (fallback : Edge) :
    expectEdgeByWord block key fallback = expectEdge block key := by
  -- The words that are tried are the names of the edges.
  have words : (Edge.all.map Edge.name).filter block.has = (givenEdges block).map Edge.name := by
    rw [List.filter_map]
    rfl
  rw [expectEdgeByWord, expectEdge, chooseByWord_eq, words, ← givenEdges]
  congr 1
  -- A fallback is asked for only when there is one word, and that one is a name.
  rcases givenEdges block with _ | ⟨edge, _ | ⟨other, edges⟩⟩
  · rfl
  · simp
  · rfl

/-- As long as no edge has a value, to be given is to be a flag. -/
theorem edgeOf_iff_flaggedEdge
    (valueless : ∀ (other : Edge) value, ¬ block.Gives other.name value) :
    EdgeOf block key edge ↔ FlaggedEdge block key edge := by
  -- Of the three ways to treat a name, one is ruled out for all edges.
  have flags (other : Edge) : ¬ block.Lacks other.name ↔ block.Flags other.name := by
    rw [Block.lacks_iff, Block.flags_iff]
    rcases Block.find?_cases block other.name with lacks | flags | ⟨value, gives⟩
    · simp [lacks]
    · simp [flags]
    · exact absurd (Block.gives_iff.2 gives) (valueless other value)
  simp only [EdgeOf, FlaggedEdge, flags]

end Layer

/-- A guide is as a block says. -/
structure Guide.ReadFrom (guide : Guide) (block : Block) : Prop where
  edge : Layer.EdgeOf block "gravity" guide.edge
  distance : Layer.ReadsOr Dimension.read? block "distance" Layer.noLength guide.distance
  thickness : Layer.ReadsOr Dimension.read? block "thickness" Layer.defaultThickness guide.thickness
  color : Layer.ReadsOr Color.read? block "color" Layer.defaultLineColor guide.color
  alignOutside : Layer.Switched block "outside" guide.alignOutside

namespace Layer

variable {block : Block} {layer : Layer}

/-- Why a guide is refused, in the order in which its arguments are read. -/
def guideRefusals (block : Block) : List Refusal :=
  [NotEdge block "gravity", NotLength block "distance", NotLength block "thickness",
    NotColor block "color", NotSwitch block "outside"]

/-- A guide is built when it can be read from the block. -/
theorem buildGuide_eq_ok_iff :
    buildGuide block = .ok layer ↔ ∃ guide, layer = .guide guide ∧ guide.ReadFrom block := by
  simp only [buildGuide, bind_eq_ok_iff, pure_eq_ok_iff, tagged, mapError_eq_ok_iff, dimensionD,
    colorD, expectEdge_eq_ok_iff, valueD_eq_ok_iff decodes_dimension,
    valueD_eq_ok_iff decodes_color, switch_eq_ok_iff]
  -- Each reading is one field of what is read.
  constructor
  · intro parts
    obtain ⟨edge, isEdge, distance, distanceRead, thickness, thicknessRead, color, colorRead,
      alignOutside, switched, rfl⟩ := parts
    exact ⟨_, rfl, isEdge, distanceRead, thicknessRead, colorRead, switched⟩
  · intro parts
    obtain ⟨guide, rfl, readFrom⟩ := parts
    exact ⟨_, readFrom.edge, _, readFrom.distance, _, readFrom.thickness, _, readFrom.color, _,
      readFrom.alignOutside, rfl⟩

/-- Otherwise the first argument that is refused has the failure. -/
theorem failsBy_buildGuide :
    FailsBy (buildGuide block) (FirstRefusal (guideRefusals block)) := by
  -- One argument after the other is read, the switch last.
  refine failsBy_expectEdge.bind fun edge => ?_
  refine (failsBy_valueD decodes_dimension).bind fun distance => ?_
  refine (failsBy_valueD decodes_dimension).bind fun thickness => ?_
  refine (failsBy_valueD decodes_color).bind fun color => ?_
  refine failsBy_switch.bind fun alignOutside => ?_
  exact failsBy_pure _

/-- The edge is the first thing that a guide is refused for. -/
theorem buildGuide_of_no_edge (none : ∀ edge, ¬ EdgeOf block "gravity" edge) :
    buildGuide block = .error (.tagged (edgeFault block "gravity")) := by
  -- Nothing is read before the edge, so no other refusal can come first.
  apply (failsBy_buildGuide _).2
  exact firstRefusal_cons.2 (.inl ⟨none, rfl⟩)

/--
The edge of a guide is the value of its key or, without the key, the only edge that is given.

An edge is given by its name alone, be it a flag or not, so the rule for flags holds as long as no
edge has a value.
In all other cases there is a fault, with which the guide is refused, and no word that is accepted
needs a fallback.
-/
theorem guide_edge_given_or_alone (block : Block) :
    (∀ edge, expectEdge block "gravity" = .ok edge ↔ EdgeOf block "gravity" edge) ∧
    (∀ fault, expectEdge block "gravity" = .error fault ↔
      (∀ edge, ¬ EdgeOf block "gravity" edge) ∧ fault = edgeFault block "gravity") ∧
    (∀ fallback, expectEdgeByWord block "gravity" fallback = expectEdge block "gravity") ∧
    (∀ layer, buildGuide block = .ok layer ↔
      ∃ guide, layer = .guide guide ∧ guide.ReadFrom block) ∧
    ((∀ edge, ¬ EdgeOf block "gravity" edge) →
      buildGuide block = .error (.tagged (edgeFault block "gravity"))) ∧
    ((∀ (other : Edge) value, ¬ block.Gives other.name value) →
      ∀ edge, EdgeOf block "gravity" edge ↔ FlaggedEdge block "gravity" edge) := by
  -- Each part is a lemma of its own; the last one is about blocks in which all edges are flags.
  refine ⟨fun _ => expectEdge_eq_ok_iff, fun _ => expectEdge_eq_error_iff,
    expectEdgeByWord_eq block "gravity", fun _ => buildGuide_eq_ok_iff, buildGuide_of_no_edge, ?_⟩
  intro valueless edge
  exact edgeOf_iff_flaggedEdge valueless

section Sample

/-- A block in which one edge is a flag and another one has a value. -/
def mixedEdges : Block :=
  ⟨"guide", [⟨"left", none⟩, ⟨"top", some "2dp"⟩]⟩

/-- A block in which the value of an edge is shadowed by a flag. -/
def shadowedEdge : Block :=
  ⟨"guide", [⟨"left", some "2dp"⟩, ⟨"left", none⟩]⟩

/-- An edge that ends up as a flag is given, and two edges are too many. -/
theorem guide_edge_given_or_alone_shadowed :
    expectEdge shadowedEdge "gravity" = .ok .left ∧
      buildGuide mixedEdges = .error (.tagged
        (.unlistedArgument "guide" "gravity" (some "left,top")
          ["left", "top", "right", "bottom"])) := by
  constructor
  · obtain ⟨read, _, _, _, _, byFlags⟩ := guide_edge_given_or_alone shadowedEdge
    rw [read, byFlags]
    · -- The flag for the left edge is the only one, and the key is not there.
      refine .inr ⟨by simp [Block.Lacks, shadowedEdge], fun other => ?_⟩
      rw [Block.flags_iff]
      cases other <;> decide
    · intro other value
      rw [Block.gives_iff]
      cases other <;> simp [shadowedEdge, Block.find?, Edge.name]
  · -- The reading fails, and so no edge is given as said.
    obtain ⟨_, faults, _, _, refused, _⟩ := guide_edge_given_or_alone mixedEdges
    have failed : expectEdge mixedEdges "gravity" = .error (edgeFault mixedEdges "gravity") := by
      rfl
    rw [refused ((faults _).1 failed).1]
    rfl

/-- An edge that is the only flag is not always read. -/
theorem expectEdge_not_always_flagged :
    ¬ ∀ block edge, expectEdge block "gravity" = .ok edge ↔ FlaggedEdge block "gravity" edge := by
  intro always
  -- The left edge is the only flag, for the top edge has a value.
  have flagged : FlaggedEdge mixedEdges "gravity" .left := by
    refine .inr ⟨by simp [Block.Lacks, mixedEdges], fun other => ?_⟩
    rw [Block.flags_iff]
    cases other <;> decide
  have read := (always mixedEdges .left).2 flagged
  -- The value of the top edge counts, so there are two of them.
  have failed : expectEdge mixedEdges "gravity" = .error (edgeFault mixedEdges "gravity") := by rfl
  cases failed.symm.trans read

end Sample

end Layer

end OverlaySheet
