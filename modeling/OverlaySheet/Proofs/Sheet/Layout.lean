import OverlaySheet.Proofs.Sheet.Progress
import OverlaySheet.Proofs.Sheet.Refinement

/-! Layout of a block: its arguments may stand behind the type or on a line of their own. -/

namespace OverlaySheet

open Text (Solid Blank EndsSolid OpensSolid isBlank)

/-- No marker holds a blank. -/
structure Grammar.SolidMarkers (grammar : Grammar) : Prop where
  variableMarker : Solid grammar.variableMarker.toList
  titleMarker : Solid grammar.titleMarker.toList
  commentMarker : Solid grammar.commentMarker.toList

/-- A header at the margin and a text that may stand behind it or on a line of its own. -/
structure Line.Breakable (grammar : Grammar) (front back : Text) : Prop where
  margin : isIndented front = false
  header : (ofText grammar front).isHeader = true
  /-- No equals sign stands next to the break. -/
  apartBefore : front.trim.getLast? ≠ some '='
  apartBehind : back.trim.head? ≠ some '='
  nonblank : back.trim ≠ []
  uncommented : Text.after? grammar.commentMarker.toList back.trim = none

namespace Line

variable {grammar : Grammar} {front back : Text}

/-- A text without a marker in front of it has none with a gap and more behind it. -/
theorem marked?_append_gap (markers : grammar.SolidMarkers) {left right : Text}
    (unmarked : marked? grammar left = none) (gap : right.head?.all isBlank = true) :
    marked? grammar (left ++ right) = none := by
  -- Being unmarked is about two markers, and neither of them can reach into the gap.
  obtain ⟨noVariable, noTitle⟩ := marked?_eq_none_iff.1 unmarked
  exact marked?_eq_none_iff.2 ⟨Text.after?_append_gap markers.variableMarker noVariable gap,
    Text.after?_append_gap markers.titleMarker noTitle gap⟩

/-- The first of two texts is a header by its own text. -/
theorem Breakable.ofText_front (breakable : Breakable grammar front back) :
    ofText grammar front = .content front.trim false ∧
      Token.leadsWithValue front.trim = false := by
  have header := breakable.header
  cases line : ofText grammar front with
  | blank | comment | declaration | title => simp [line, isHeader] at header
  -- At the margin and without a marker, the line is content that declares nothing.
  | content text indented =>
    obtain ⟨rfl, _, _, rfl, _⟩ := ofText_eq_content_iff.1 line
    simpa [line, isHeader, breakable.margin] using header

/-- On a line of its own, the second text goes on with a block. -/
theorem Breakable.ofText_back (breakable : Breakable grammar front back) {indent : Text}
    (blank : Blank indent) (nonempty : indent ≠ []) :
    ofText grammar (indent ++ back) = .content back.trim true := by
  -- The indent is trimmed away together with the blanks around the text.
  have trimmed : (indent ++ back).trim = back.trim := by
    obtain ⟨before, behind, blankBefore, blankBehind, whole, empty | trimmed⟩ :=
      Text.trim_split back
    · exact absurd empty breakable.nonblank
    · have blankFront : Blank (indent ++ before) := List.forall_mem_append.2 ⟨blank, blankBefore⟩
      calc (indent ++ back).trim
        _ = (indent ++ before ++ back.trim ++ behind).trim := by
          rw [List.append_assoc indent, List.append_assoc indent, ← whole]
        _ = back.trim := Text.trim_between blankFront trimmed blankBehind
  -- The first character of the line is now a blank of the indent.
  have indented : isIndented (indent ++ back) = true := by
    obtain ⟨c, rest, rfl⟩ := List.exists_cons_of_ne_nil nonempty
    simpa [isIndented] using blank c (by simp)
  exact ofText_eq_content_iff.2
    ⟨trimmed, breakable.nonblank, breakable.uncommented, indented, by simp⟩

/-- On one line, the two texts are a header with the tokens of both. -/
theorem Breakable.ofText_joined (breakable : Breakable grammar front back)
    (markers : grammar.SolidMarkers) :
    ∃ text, ofText grammar (front ++ ' ' :: back) = .content text false ∧
      Token.split text = Token.split front.trim ++ Token.split back.trim ∧
      Token.leadsWithValue text = false := by
  obtain ⟨line, leads⟩ := breakable.ofText_front
  obtain ⟨_, nonempty, uncommented, _, unmarked⟩ := ofText_eq_content_iff.1 line
  obtain ⟨beforeFront, behindFront, blankBefore, blankMiddle, wholeFront, empty | trimmedFront⟩ :=
    Text.trim_split front
  · exact absurd empty nonempty
  obtain ⟨beforeBack, behindBack, blankBetween, blankBehind, wholeBack, empty | trimmedBack⟩ :=
    Text.trim_split back
  · exact absurd empty breakable.nonblank
  -- The gap between the two texts is all blanks next to the break.
  let gap : Text := behindFront ++ ' ' :: beforeBack
  have blankGap : Blank gap := List.forall_mem_append.2
    ⟨blankMiddle, List.forall_mem_cons.2 ⟨by decide, blankBetween⟩⟩
  have gapNonempty : gap ≠ [] := by simp [gap]
  have opensGap : (gap ++ back.trim).head?.all isBlank = true := by
    obtain ⟨c, rest, same⟩ := List.exists_cons_of_ne_nil gapNonempty
    rw [same]
    simpa using blankGap c (by simp [same])
  have tokens : Token.split (front.trim ++ gap ++ back.trim) =
      Token.split front.trim ++ Token.split back.trim :=
    Token.split_append_gap trimmedFront.2 blankGap gapNonempty trimmedBack.1
      breakable.apartBefore breakable.apartBehind
  refine ⟨front.trim ++ gap ++ back.trim, ofText_eq_content_iff.2 ⟨?_, ?_, ?_, ?_, ?_⟩, tokens, ?_⟩
  · -- What the line trims to is the first text, the gap and the second text.
    calc (front ++ ' ' :: back).trim
      _ = (beforeFront ++ (front.trim ++ gap ++ back.trim) ++ behindBack).trim := by
        conv_lhs => rw [wholeFront, wholeBack]
        simp [gap]
      _ = front.trim ++ gap ++ back.trim :=
        Text.trim_between blankBefore
          ⟨by simpa using trimmedFront.1.append (gap ++ back.trim), trimmedBack.2.append _⟩
          blankBehind
  · simp [nonempty]
  · rw [List.append_assoc]
    exact Text.after?_append_gap markers.commentMarker uncommented opensGap
  · -- The first character of the line is that of the first text.
    obtain ⟨c, rest, rfl⟩ : ∃ c rest, front = c :: rest := by
      refine List.exists_cons_of_ne_nil ?_
      rintro rfl
      exact nonempty rfl
    simpa [isIndented] using breakable.margin
  · intro _
    rw [List.append_assoc]
    exact marked?_append_gap markers (unmarked rfl) opensGap
  · -- The first token is that of the first text.
    obtain ⟨token, rest, first⟩ := List.exists_cons_of_ne_nil (Token.split_ne_nil trimmedFront.2)
    rw [Token.leadsWithValue, first] at leads
    rw [Token.leadsWithValue, tokens, first]
    exact leads

end Line

namespace Dialect

variable {Layer : Type} {dialect : Dialect Layer}

/-- A block that begins with some tokens and goes on with others begins with all of them. -/
theorem beginBlock_append_eq_ok_iff {number : Nat} {first second : List Text}
    {current : OpenBlock Layer} (nonempty : first ≠ []) :
    dialect.beginBlock number (first ++ second) = .ok current ↔
      ∃ begun block, dialect.beginBlock number first = .ok begun ∧
        Block.pushTokens dialect.grammar.duplicates begun.block second = .ok block ∧
        current = { begun with block } := by
  -- The type of the layer is the first of the tokens, and all others are pushed.
  obtain ⟨layerType, arguments, rfl⟩ := List.exists_cons_of_ne_nil nonempty
  simp only [List.cons_append, beginBlock_eq_ok_iff, List.cons.injEq]
  constructor
  · intro succeeded
    obtain ⟨_, _, builder, block, ⟨rfl, rfl⟩, plain, registered, pushed, rfl⟩ := succeeded
    -- All arguments are pushed in one go, and the fold is cut where the second text begins.
    obtain ⟨middle, pushedFirst, pushedSecond⟩ := Block.pushTokens_append_eq_ok_iff.1 pushed
    exact ⟨{ header := number, builder, block := middle }, block,
      ⟨_, _, builder, middle, ⟨rfl, rfl⟩, plain, registered, pushedFirst, rfl⟩, pushedSecond, rfl⟩
  · intro parts
    obtain ⟨_, block, ⟨_, _, builder, middle, ⟨rfl, rfl⟩, plain, registered, pushedFirst, rfl⟩,
      pushedSecond, rfl⟩ := parts
    exact ⟨_, _, builder, block, ⟨rfl, rfl⟩, plain, registered,
      Block.pushTokens_append_eq_ok_iff.2 ⟨middle, pushedFirst, pushedSecond⟩, rfl⟩

/-- A header with the tokens of two texts is a header of the first that the second extends. -/
theorem readHeader_append_eq_ok_iff {number : Nat} {text front back : Text} {run next : Run Layer}
    (anchored : run.scope.Anchored) (nonempty : Token.split front ≠ [])
    (tokens : Token.split text = Token.split front ++ Token.split back) :
    dialect.readHeader number text run = .ok next ↔
      ∃ middle current, dialect.readHeader number front run = .ok middle ∧
        middle.phase = .inBlock current ∧ dialect.extendBlock back current middle = .ok next := by
  -- Expansion works token by token, so it is cut at the same place.
  simp only [readHeader_eq_ok_iff, extendBlock_eq_ok_iff, tokens, Scope.expandAll_append_eq_ok_iff]
  constructor
  · intro succeeded
    obtain ⟨_, current, ⟨first, second, expandedFront, expandedBack, rfl⟩, begun, rfl⟩ := succeeded
    -- The values of variables hold tokens, so the first text has some for the type.
    obtain ⟨opened, block, begunFront, pushed, rfl⟩ :=
      (beginBlock_append_eq_ok_iff (anchored.expandAll_ne_nil nonempty expandedFront)).1 begun
    exact ⟨{ run with phase := .inBlock opened }, opened, ⟨first, opened, expandedFront, begunFront,
      rfl⟩, rfl, second, block, expandedBack, pushed, rfl⟩
  · intro parts
    obtain ⟨_, current, ⟨first, opened, expandedFront, begunFront, rfl⟩, phase, second, block,
      expandedBack, pushed, rfl⟩ := parts
    obtain rfl := Phase.inBlock.inj phase
    have begun := (beginBlock_append_eq_ok_iff (anchored.expandAll_ne_nil nonempty expandedFront)).2
      ⟨opened, block, begunFront, pushed, rfl⟩
    exact ⟨first ++ second, { opened with block },
      ⟨first, second, expandedFront, expandedBack, rfl⟩, begun, rfl⟩

/-- Inside a block, the numbers of the lines to come make no difference to the overlays. -/
theorem finish_inBlock_renumber {scope : Scope} {current : OpenBlock Layer}
    {overlays result : List (Overlay Layer)} {lines : List Text} (anchored : scope.Anchored)
    (number other : Nat) :
    dialect.finish number { scope, phase := .inBlock current, overlays } lines = .ok result ↔
      dialect.finish other { scope, phase := .inBlock current, overlays } lines = .ok result := by
  -- What a block becomes is told by the lines that follow and not by their numbers.
  have agrees : dialect.AgreesInBlock scope lines result :=
    (agreesBetween_and_agreesInBlock anchored lines).2
  exact (agrees number current overlays).trans (agrees other current overlays).symm

/-- Where no block is open, a header that declares nothing is read as one. -/
theorem step_header {run : Run Layer} (closed : run.Closed) {text : Text}
    (leads : Token.leadsWithValue text = false) (number : Nat) :
    dialect.step number run (.content text false) = dialect.readHeader number text run := by
  -- Both phases without an open block look at the first token in the same way.
  obtain ⟨scope, phase, overlays⟩ := run
  cases phase with
  | inBlock current => exact absurd rfl (closed current)
  | preamble | between => simp [step, leads]

/-- Inside a block, a header is refused. -/
theorem step_header_inBlock {run : Run Layer} {current : OpenBlock Layer}
    (opened : run.phase = .inBlock current) {text : Text}
    (leads : Token.leadsWithValue text = false) (number : Nat) :
    dialect.step number run (.content text false) = .error (.malformedList text) := by
  simp [step, opened, leads]

/-- An indented line goes on with the block that is open. -/
theorem step_indented {run : Run Layer} {current : OpenBlock Layer}
    (opened : run.phase = .inBlock current) (text : Text) (number : Nat) :
    dialect.step number run (.content text true) = dialect.extendBlock text current run := by
  simp [step, opened]

/-- From any reachable run on, a header may be broken in two. -/
theorem finish_broken_header {front back indent : Text} {run : Run Layer}
    (markers : dialect.grammar.SolidMarkers)
    (breakable : Line.Breakable dialect.grammar front back) (blank : Blank indent)
    (nonempty : indent ≠ []) (anchored : run.scope.Anchored) (number : Nat) (after : List Text)
    (overlays : List (Overlay Layer)) :
    dialect.finish number run ((front ++ ' ' :: back) :: after) = .ok overlays ↔
      dialect.finish number run (front :: (indent ++ back) :: after) = .ok overlays := by
  obtain ⟨lineFront, leadsFront⟩ := breakable.ofText_front
  have lineBack := breakable.ofText_back blank nonempty
  obtain ⟨text, lineJoined, tokens, leads⟩ := breakable.ofText_joined markers
  have hasTokens : Token.split front.trim ≠ [] := Line.split_ne_nil_of_content lineFront
  -- The first line of each sheet is read, and the two are compared behind it.
  simp only [finish_cons_eq_ok_iff, lineFront, lineBack, lineJoined]
  by_cases closed : run.Closed
  · simp only [step_header closed leads, step_header closed leadsFront,
      readHeader_append_eq_ok_iff anchored hasTokens tokens]
    -- The lines behind have other numbers, which make no difference inside the block.
    have same {middle next : Run Layer} {current : OpenBlock Layer}
        (begun : dialect.readHeader number front.trim run = .ok middle)
        (extended : dialect.extendBlock back.trim current middle = .ok next) :
        dialect.finish (number + 1) next after = .ok overlays ↔
          dialect.finish (number + 1 + 1) next after = .ok overlays := by
      obtain ⟨_, _, _, _, rfl⟩ := readHeader_eq_ok_iff.1 begun
      obtain ⟨_, _, _, _, rfl⟩ := extendBlock_eq_ok_iff.1 extended
      exact finish_inBlock_renumber anchored _ _
    constructor
    · intro succeeded
      obtain ⟨next, ⟨middle, current, begun, opened, extended⟩, finished⟩ := succeeded
      refine ⟨middle, begun, next, ?_, (same begun extended).1 finished⟩
      rw [step_indented opened]
      exact extended
    · intro parts
      obtain ⟨middle, begun, next, stepped, finished⟩ := parts
      obtain ⟨tokens, current, _, _, opened⟩ := readHeader_eq_ok_iff.1 begun
      have opened : middle.phase = .inBlock current := congrArg Run.phase opened
      rw [step_indented opened] at stepped
      exact ⟨next, ⟨middle, current, begun, opened, stepped⟩, (same begun stepped).2 finished⟩
  · -- Inside a block, both are refused at the first line.
    obtain ⟨current, opened⟩ : ∃ current, run.phase = .inBlock current := by
      simpa [Run.Closed] using closed
    simp [step_header_inBlock opened leads, step_header_inBlock opened leadsFront]

/--
A header line may be broken in two, the second of which is indented.

The first part must be a header by itself, and no equals sign may stand next to the break.
The second part must not begin as a comment.
-/
theorem inflateLines_broken_header {front back indent : Text}
    (markers : dialect.grammar.SolidMarkers)
    (breakable : Line.Breakable dialect.grammar front back) (blank : Blank indent)
    (nonempty : indent ≠ []) (before after : List Text) (overlays : List (Overlay Layer)) :
    dialect.inflateLines (before ++ (front ++ ' ' :: back) :: after) = .ok overlays ↔
      dialect.inflateLines (before ++ front :: (indent ++ back) :: after) = .ok overlays := by
  rw [inflateLines_eq_finish, inflateLines_eq_finish]
  cases read : dialect.readLines 0 dialect.start before with
  | error fault =>
    -- A line in front fails, in both sheets.
    rw [finish_append_of_error read, finish_append_of_error read]
  | ok run =>
    rw [finish_append_of_ok read, finish_append_of_ok read]
    exact finish_broken_header markers breakable blank nonempty
      (reachable_of_readLines read).anchored _ after overlays

/-- An argument with a reference may stand on a line of its own behind a tab. -/
theorem inflateLines_broken_header_tab :
    Line.Breakable {} "fill left".toList "edge = @side".toList ∧
    Dialect.inflateLines { registry := Registry.empty.register "fill" .ok }
        ["@side=top".toList, "fill left".toList, ['\t'] ++ "edge = @side".toList] =
      .ok [{ layers := [⟨"fill", [⟨"left", none⟩, ⟨"edge", some "top"⟩]⟩] }] := by
  -- The theorem is used from the line that holds both texts to the two lines.
  have joined : Dialect.inflateLines { registry := Registry.empty.register "fill" .ok }
      ["@side=top".toList, "fill left".toList ++ ' ' :: "edge = @side".toList] =
        .ok [{ layers := [⟨"fill", [⟨"left", none⟩, ⟨"edge", some "top"⟩]⟩] }] := rfl
  have breakable : Line.Breakable {} "fill left".toList "edge = @side".toList :=
    ⟨rfl, rfl, by decide, by decide, by decide, rfl⟩
  have markers : Grammar.SolidMarkers {} := ⟨by decide, by decide, by decide⟩
  have tab : Blank ['\t'] := by decide
  exact ⟨breakable, (inflateLines_broken_header markers breakable tab (by simp)
    ["@side=top".toList] [] _).1 joined⟩

end Dialect

end OverlaySheet
