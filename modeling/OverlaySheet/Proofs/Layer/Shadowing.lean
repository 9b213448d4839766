import OverlaySheet.Layer.Builders
import OverlaySheet.Proofs.Last

/-! Builders see the last argument of each key, and neither their order nor what is shadowed. -/

namespace OverlaySheet

namespace Block

/-- Two blocks of one type in which the same argument is the last one with each key. -/
structure Alike (first second : Block) : Prop where
  layerType : first.layerType = second.layerType
  last : ∀ key argument, IsLast (fun other => other.key = key) first.arguments argument ↔
    IsLast (fun other => other.key = key) second.arguments argument

/-- The argument that counts for a key is the last one with the key. -/
theorem find?_eq_some_iff {block : Block} {key : String} {argument : Argument} :
    block.find? key = some argument ↔
      IsLast (fun other => other.key = key) block.arguments argument := by
  -- The search runs from behind, so it stops at the last argument with the key.
  rw [find?, find?_reverse_eq_some_iff]
  simp only [decide_eq_true_eq]

/-- Blocks are alike when they have one type and find the same argument for each key. -/
theorem alike_iff {first second : Block} : first.Alike second ↔
    first.layerType = second.layerType ∧ ∀ key, first.find? key = second.find? key := by
  -- Searches find the same when they stop at the same arguments.
  constructor
  · intro alike
    refine ⟨alike.layerType, fun key => Option.ext fun argument => ?_⟩
    rw [find?_eq_some_iff, find?_eq_some_iff]
    exact alike.last key argument
  · rintro ⟨layerType, same⟩
    refine ⟨layerType, fun key argument => ?_⟩
    rw [← find?_eq_some_iff, ← find?_eq_some_iff, same]

/-- Blocks that are like a third are alike. -/
theorem Alike.trans {first second third : Block} (left : first.Alike second)
    (right : second.Alike third) : first.Alike third where
  layerType := left.layerType.trans right.layerType
  last key argument := (left.last key argument).trans (right.last key argument)

/-- Two neighbours with different keys may change places. -/
theorem alike_swap {layerType : String} {before after : List Argument} {left right : Argument}
    (different : left.key ≠ right.key) :
    (Block.mk layerType (before ++ left :: right :: after)).Alike
      ⟨layerType, before ++ right :: left :: after⟩ := by
  refine alike_iff.2 ⟨rfl, fun key => ?_⟩
  simp only [find?, List.reverse_append, List.reverse_cons, List.append_assoc,
    List.singleton_append, List.find?_append, List.find?_cons]
  -- The key is at most that of one of the two, and the search finds it at either place.
  by_cases isLeft : left.key = key
  · simp [isLeft, isLeft ▸ different.symm]
  · simp [isLeft]

/-- An argument may go when one with its key comes after it. -/
theorem alike_shadowed {layerType : String} {before after : List Argument} {shadowed : Argument}
    (later : ∃ argument ∈ after, argument.key = shadowed.key) :
    (Block.mk layerType (before ++ shadowed :: after)).Alike ⟨layerType, before ++ after⟩ := by
  refine alike_iff.2 ⟨rfl, fun key => ?_⟩
  simp only [find?, List.reverse_append, List.reverse_cons, List.append_assoc,
    List.singleton_append, List.find?_append, List.find?_cons]
  -- A search for its key does not come as far as to the argument.
  by_cases same : shadowed.key = key
  · obtain ⟨argument, member, sameKey⟩ := later
    have found : (after.reverse.find? fun other => other.key = key).isSome := by
      rw [List.find?_isSome]
      exact ⟨argument, List.mem_reverse.2 member, by simp [sameKey, same]⟩
    obtain ⟨last, found⟩ := Option.isSome_iff_exists.1 found
    simp [found]
  · simp [same]

/-- Two blocks of one type in which the same argument counts for a key. -/
structure AlikeAt (first second : Block) (key : String) : Prop where
  layerType : first.layerType = second.layerType
  find?_eq : first.find? key = second.find? key

/-- Blocks that are alike are alike at each key. -/
theorem Alike.atKey {first second : Block} (alike : first.Alike second) (key : String) :
    first.AlikeAt second key :=
  ⟨alike.layerType, (alike_iff.1 alike).2 key⟩

namespace AlikeAt

variable {first second : Block} {key : String} (alike : first.AlikeAt second key)

include alike

/-- The key is given in both. -/
theorem has_eq : first.has key = second.has key := by
  rw [has, has, alike.find?_eq]

/-- It has the same value. -/
theorem value?_eq : first.value? key = second.value? key := by
  rw [value?, value?, alike.find?_eq]

/-- Complaints about the argument's type are the same. -/
theorem wrongArgument_eq (expected sample : String) :
    first.wrongArgument key expected sample = second.wrongArgument key expected sample := by
  -- The complaint is about the type and the key, and cites no argument.
  rw [wrongArgument, wrongArgument, alike.layerType]

/-- Complaints about an argument that is not above zero are the same. -/
theorem nonPositiveArgument_eq (sample : String) :
    first.nonPositiveArgument key sample = second.nonPositiveArgument key sample := by
  rw [nonPositiveArgument, nonPositiveArgument, alike.layerType]

/-- A value that must be there is the same, or missing with the same complaint. -/
theorem expectString_eq (expected : String) :
    first.expectString key expected = second.expectString key expected := by
  -- The complaint cites the type, which is part of being alike.
  rw [expectString, expectString, alike.value?_eq, alike.layerType]

/-- A whole number above zero is the same. -/
theorem expectPositiveInt_eq (sample : String) :
    first.expectPositiveInt key sample = second.expectPositiveInt key sample := by
  simp only [expectPositiveInt, int?, alike.value?_eq, alike.nonPositiveArgument_eq]

/-- The same choice is named. -/
theorem expectChoice_eq {α : Type} (choices : List α) (name : α → String) :
    first.expectChoice key choices name = second.expectChoice key choices name := by
  -- The value that is no choice is cited, and it is the same one.
  simp only [expectChoice, alike.value?_eq, alike.layerType]

/-- The same choice is named or left to the default. -/
theorem choiceD_eq {α : Type} (choices : List α) (name : α → String) (default : α) :
    first.choiceD key choices name default = second.choiceD key choices name default := by
  rw [choiceD, choiceD, alike.has_eq, alike.expectChoice_eq]

/-- A switch is the same way. -/
theorem switch_eq : first.switch key = second.switch key := by
  -- Whether a flag, a word or neither is given depends on the argument that is found.
  simp only [switch, badSwitch, alike.find?_eq, alike.layerType]

end AlikeAt

end Block

namespace Layer

section Readings

variable {first second : Block} {key : String}

/-- Arguments with a default are read alike. -/
theorem valueD_eq (alike : first.AlikeAt second key) {α : Type}
    (read : String → Except Failure α) (expected sample : String) (default : α) :
    valueD read expected sample first key default =
      valueD read expected sample second key default := by
  -- The three cases are told apart by the argument that is found.
  simp only [valueD, alike.find?_eq, alike.wrongArgument_eq]

/-- So are lengths with a default. -/
theorem dimensionD_eq (alike : first.AlikeAt second key) (default : Dimension) :
    dimensionD first key default = dimensionD second key default :=
  valueD_eq alike _ _ _ _

/-- So are colours with a default. -/
theorem colorD_eq (alike : first.AlikeAt second key) (default : Color) :
    colorD first key default = colorD second key default :=
  valueD_eq alike _ _ _ _

/-- Lengths that must be there are read alike. -/
theorem expectDimension_eq (alike : first.AlikeAt second key) (sample : String) :
    expectDimension first key sample = expectDimension second key sample := by
  simp only [expectDimension, alike.value?_eq, alike.wrongArgument_eq]

/-- Lengths above zero are read alike. -/
theorem expectPositiveDimension_eq (alike : first.AlikeAt second key) (sample : String) :
    expectPositiveDimension first key sample = expectPositiveDimension second key sample := by
  simp only [expectPositiveDimension, alike.value?_eq, alike.nonPositiveArgument_eq]

/-- The same edge is given, or the same edges are listed in the complaint. -/
theorem expectEdge_eq (alike : first.AlikeAt second key)
    (edges : ∀ edge ∈ Edge.all, first.AlikeAt second edge.name) :
    expectEdge first key = expectEdge second key := by
  -- Edges are asked for one by one, in the order of all edges and not in that of the block.
  have given : (Edge.all.filter fun edge => first.has edge.name) =
      Edge.all.filter fun edge => second.has edge.name :=
    List.filter_congr fun edge member => (edges edge member).has_eq
  simp only [expectEdge, alike.has_eq, alike.expectChoice_eq, alike.layerType, given]

/-- The same limit is read. -/
theorem readLimit_eq (alike : first.AlikeAt second "limit") :
    readLimit first = readLimit second := by
  -- A limit may be missing, no number above zero, or too great, and each is seen in its value.
  simp only [readLimit, alike.has_eq, alike.expectPositiveInt_eq, alike.nonPositiveArgument_eq]

/-- The same size of text is read. -/
theorem readTextSize_eq (alike : first.AlikeAt second "text-size") :
    readTextSize first = readTextSize second := by
  rw [readTextSize, readTextSize, alike.has_eq, expectPositiveDimension_eq alike]

variable (alike : first.Alike second)

include alike

/-- Guides are built alike. -/
theorem buildGuide_eq : buildGuide first = buildGuide second := by
  -- All readings are the same one by one, so the first that fails is the same as well.
  simp only [buildGuide, dimensionD_eq (alike.atKey _), colorD_eq (alike.atKey _),
    expectEdge_eq (alike.atKey _) fun _ _ => alike.atKey _, (alike.atKey _).switch_eq]

/-- Grid lines are built alike. -/
theorem buildGridLines_eq : buildGridLines first = buildGridLines second := by
  -- All that the builder reads depends on what its keys find, which is the same.
  simp only [buildGridLines, dimensionD_eq (alike.atKey _), colorD_eq (alike.atKey _),
    (alike.atKey _).expectChoice_eq, readLimit_eq (alike.atKey _),
    expectPositiveDimension_eq (alike.atKey _)]

/-- Keylines are built alike. -/
theorem buildKeyline_eq : buildKeyline first = buildKeyline second := by
  -- The distance must be there, but this too is told by what its key finds.
  simp only [buildKeyline, dimensionD_eq (alike.atKey _), colorD_eq (alike.atKey _),
    (alike.atKey _).expectChoice_eq, expectDimension_eq (alike.atKey _)]

/-- Fills are built alike. -/
theorem buildFill_eq : buildFill first = buildFill second := by
  simp only [buildFill, (alike.atKey _).expectString_eq]

/-- Labels are built alike. -/
theorem buildDimensionsLabel_eq : buildDimensionsLabel first = buildDimensionsLabel second := by
  -- A choice with a default is told by what its key finds as well.
  simp only [buildDimensionsLabel, colorD_eq (alike.atKey _), (alike.atKey _).choiceD_eq,
    readTextSize_eq (alike.atKey _)]

end Readings

/-- Blocks that are alike are built into the same layer, or refused with the same failure. -/
theorem builder_eq_of_alike {name : String} {builder : Builder Layer} {first second : Block}
    (known : (name, builder) ∈ standard) (alike : first.Alike second) :
    builder first = builder second := by
  -- There are five builders, and each of them has been compared on the two blocks.
  simp only [standard, List.mem_cons, List.not_mem_nil, or_false, Prod.mk.injEq] at known
  rcases known with ⟨-, rfl⟩ | ⟨-, rfl⟩ | ⟨-, rfl⟩ | ⟨-, rfl⟩ | ⟨-, rfl⟩
  · exact buildDimensionsLabel_eq alike
  · exact buildFill_eq alike
  · exact buildGridLines_eq alike
  · exact buildGuide_eq alike
  · exact buildKeyline_eq alike

/-- Two edges are too many for a guide, and the complaint lists them in one order. -/
theorem builder_eq_of_alike_edges :
    ("guide", buildGuide) ∈ standard ∧
      Block.Alike ⟨"guide", [⟨"right", none⟩, ⟨"left", some "2dp"⟩, ⟨"left", none⟩]⟩
        ⟨"guide", [⟨"left", none⟩, ⟨"right", none⟩]⟩ ∧
      buildGuide ⟨"guide", [⟨"right", none⟩, ⟨"left", some "2dp"⟩, ⟨"left", none⟩]⟩ =
        buildGuide ⟨"guide", [⟨"left", none⟩, ⟨"right", none⟩]⟩ := by
  have known : ("guide", buildGuide) ∈ standard := by simp [standard]
  -- The left edge with a value is shadowed, and the other two arguments change places.
  have fewer : Block.Alike
      ⟨"guide", [⟨"right", none⟩] ++ ⟨"left", some "2dp"⟩ :: [⟨"left", none⟩]⟩
      ⟨"guide", [⟨"right", none⟩] ++ [⟨"left", none⟩]⟩ :=
    Block.alike_shadowed ⟨_, List.mem_singleton_self _, rfl⟩
  have swapped : Block.Alike
      ⟨"guide", [] ++ ⟨"right", none⟩ :: ⟨"left", none⟩ :: []⟩
      ⟨"guide", [] ++ ⟨"left", none⟩ :: ⟨"right", none⟩ :: []⟩ :=
    Block.alike_swap (by decide)
  -- Being alike is transitive, so the two changes may be made one after the other.
  exact ⟨known, fewer.trans swapped, builder_eq_of_alike known (fewer.trans swapped)⟩

end Layer

end OverlaySheet
