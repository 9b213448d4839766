import OverlaySheet.Proofs.Sheet.Progress
import OverlaySheet.Proofs.Sheet.Refinement

/-! Sheets one after the other: a titled sheet adds its overlays behind those of another one. -/

namespace OverlaySheet

/-- Whether a line is read over: a blank one or a comment. -/
def Line.isVoid : Line → Bool
  | .blank | .comment => true
  | .declaration _ | .title _ | .content _ _ => false

/-- The first of some lines that is not read over. -/
def Line.first? (grammar : Grammar) (lines : List Text) : Option Line :=
  (lines.map (Line.ofText grammar)).find? fun line => !line.isVoid

/-- Lines the first of which is a title make items the first of which is that title. -/
theorem Item.ofLines_of_title {grammar : Grammar} {lines : List Text} {title : Text}
    (first : Line.first? grammar lines = some (.title title)) :
    ∃ rest, ofLines (Line.readable grammar lines) = .title title :: rest := by
  induction lines with
  | nil => cases first
  | cons raw rest ih =>
    rw [Line.first?, List.map_cons, List.find?_cons] at first
    rw [Line.readable_cons]
    -- Blank lines and comments make no item, and any other line is the first one.
    cases line : Line.ofText grammar raw with
    | comment =>
      rw [line] at first
      simpa using ih first
    | blank =>
      rw [line] at first
      simpa [ofLines] using ih first
    | title text =>
      rw [line] at first
      obtain rfl : text = title := by simpa [Line.isVoid] using first
      exact ⟨ofLines (Line.readable grammar rest), by simp [ofLines]⟩
    | declaration text => simp [line, Line.isVoid] at first
    | content text indented => simp [line, Line.isVoid] at first

namespace Scope

/-- Where no variable is declared, tokens can be expanded only when none of them refers to one. -/
theorem settled_of_unbound {scope : Scope} (unbound : scope.bindings = [])
    {tokens result : List Text} (expanded : scope.expandAll tokens = .ok result) :
    ∀ token ∈ tokens, Settled scope.marker token := by
  -- A scope without bindings knows no name.
  have nothing : ∀ name, scope.find? name = none := by
    intro name
    rw [find?, unbound]
    rfl
  induction tokens generalizing result with
  | nil => exact List.forall_mem_nil _
  | cons token rest ih =>
    obtain ⟨here, after, expandedHere, expandedRest, _⟩ := expandAll_cons_eq_ok_iff.1 expanded
    -- Substitution looks up a name in all cases but the one of a settled token.
    refine List.forall_mem_cons.2 ⟨?_, ih expandedRest⟩
    rcases expand_cases expandedHere with
      ⟨name, value, _, found, _⟩ | ⟨_, _, name, value, _, _, _, _, found, _⟩ | ⟨settled, _⟩
    · cases (nothing name).symm.trans found
    · cases (nothing name).symm.trans found
    · exact settled

/-- What tokens become without any variable they become with any variables. -/
theorem expandAll_of_unbound {scope other : Scope} (unbound : scope.bindings = [])
    (marker : other.marker = scope.marker) {tokens result : List Text}
    (expanded : scope.expandAll tokens = .ok result) : other.expandAll tokens = .ok result := by
  have settled := settled_of_unbound unbound expanded
  -- Tokens that refer to nothing stay as they are, on both sides.
  rw [expandAll_of_settled settled] at expanded
  rw [← expanded]
  exact expandAll_of_settled (marker ▸ settled)

end Scope

namespace Dialect

variable {Layer : Type} {dialect : Dialect Layer}

/-- A paragraph that describes a layer without any variable does so with any variables. -/
theorem Builds.of_unbound {scope other : Scope} (unbound : scope.bindings = [])
    (marker : other.marker = scope.marker) {paragraph : Paragraph} {layer : Layer}
    (builds : dialect.Builds scope paragraph layer) : dialect.Builds other paragraph layer := by
  -- Only the tokens of the header ask for the scope, and they do not change here.
  obtain ⟨layerType, arguments, builder, expanded, others⟩ := builds
  exact ⟨layerType, arguments, builder, Scope.expandAll_of_unbound unbound marker expanded, others⟩

/-- A chapter that describes an overlay without any variable does so with any variables. -/
theorem Renders.of_unbound {scope other : Scope} (unbound : scope.bindings = [])
    (marker : other.marker = scope.marker) {chapter : Chapter} {overlay : Overlay Layer}
    (renders : dialect.Renders scope chapter overlay) : dialect.Renders other chapter overlay :=
  ⟨renders.1, renders.2.imp fun _ _ builds => builds.of_unbound unbound marker⟩

/-- Items behind a title add the same overlays to any others, whatever the variables are. -/
theorem Composes.append {scope other : Scope} (unbound : scope.bindings = [])
    (marker : other.marker = scope.marker) {title : Text} {rest : List Item}
    {result : List (Overlay Layer)} (overlays : List (Overlay Layer))
    (composes : dialect.Composes scope [] (.title title :: rest) result) :
    dialect.Composes other overlays (.title title :: rest) (overlays ++ result) := by
  obtain ⟨continues, layers, others, built, rendered, result_eq⟩ := composes_iff.1 composes
  -- The title comes first, so no layer goes into an overlay that was there before it.
  obtain rfl := List.forall₂_nil_left_iff.1 built
  refine composes_iff.2 ⟨continues, [], others, .nil,
    rendered.imp fun _ _ renders => renders.of_unbound unbound marker, ?_⟩
  rw [result_eq]
  rfl

/-- No line of a sheet declares a variable, neither with the marker nor without it. -/
def DeclaresNothing (dialect : Dialect Layer) (lines : List Text) : Prop :=
  ∀ item ∈ Item.ofLines (Line.readable dialect.grammar lines), item.isDeclaration = false

/-- What the items of a sheet add to overlays, under some variables. -/
def Adds (dialect : Dialect Layer) (scope : Scope) (overlays : List (Overlay Layer))
    (lines : List Text) (result : List (Overlay Layer)) : Prop :=
  dialect.Composes scope overlays (Item.ofLines (Line.readable dialect.grammar lines)) result

/-- A sheet that declares nothing adds its overlays to none at all, without any variable. -/
theorem adds_of_inflateLines {lines : List Text} {overlays : List (Overlay Layer)}
    (inflated : dialect.inflateLines lines = .ok overlays)
    (without : dialect.DeclaresNothing lines) :
    dialect.Adds dialect.start.scope [] lines overlays := by
  rw [inflateLines_eq_finish, start, finish_preamble_eq_ok_iff .empty] at inflated
  obtain ⟨final, declared, _, composes⟩ := inflated
  -- Without declarations, the variables stay as they were at the start.
  rw [Scope.declareAll_of_no_declaration without] at declared
  obtain rfl := Except.ok.inj declared
  exact composes

/-- Where no block is open, lines that declare nothing are read as what they add. -/
theorem finish_of_adds {run : Run Layer} (closed : run.Closed)
    (reachable : Scope.Reachable dialect.grammar.variableMarker.toList run.scope)
    {lines : List Text} {result : List (Overlay Layer)} (without : dialect.DeclaresNothing lines)
    (adds : dialect.Adds run.scope run.overlays lines result) (number : Nat) :
    dialect.finish number run lines = .ok result := by
  -- What stands before the first block allows declarations, so the two phases are proved apart.
  obtain ⟨scope, phase, overlays⟩ := run
  cases phase with
  | inBlock current => exact absurd rfl (closed current)
  | preamble =>
    exact (finish_preamble_eq_ok_iff reachable lines).2
      ⟨scope, Scope.declareAll_of_no_declaration without,
        List.pairwise_of_forall_mem_list fun _ _ item member _ => without item member, adds⟩
  | between =>
    exact ((agreesBetween_and_agreesInBlock reachable.anchored lines).1 number overlays).2
      ⟨without, adds⟩

/-- Behind a sheet and a blank line no block is open, and all of its overlays are there. -/
theorem readLines_append_gap {lines : List Text} {overlays : List (Overlay Layer)}
    (inflated : dialect.inflateLines lines = .ok overlays) {gap : Text} (blank : gap.Blank) :
    ∃ run, dialect.readLines 0 dialect.start (lines ++ [gap]) = .ok run ∧ run.Closed ∧
      run.overlays = overlays := by
  obtain ⟨last, read, completed⟩ := bind_eq_ok_iff.1 inflated
  -- The first sheet has come to its end, where its open block was closed in any case.
  obtain ⟨run, ended, same⟩ := bind_eq_ok_iff.1 completed
  refine ⟨run, readLines_snoc_eq_ok_iff.2 ⟨last, read, ?_⟩, closed_of_endBlock ended,
    Except.ok.inj same⟩
  -- A blank line closes a block in the same way as the end of the sheet.
  rw [Line.ofText_of_blank blank]
  exact ended

/--
A titled sheet behind another one adds its overlays.

The second sheet opens with a title and declares no variable.
What the first one leaves behind, an open block, variables or overlays, makes no difference to it.
-/
theorem inflateLines_append_titled {first second : List Text}
    {overlays others : List (Overlay Layer)} {title gap : Text}
    (inflatedFirst : dialect.inflateLines first = .ok overlays)
    (inflatedSecond : dialect.inflateLines second = .ok others)
    (titled : Line.first? dialect.grammar second = some (.title title))
    (without : dialect.DeclaresNothing second) (blank : gap.Blank) :
    dialect.inflateLines (first ++ gap :: second) = .ok (overlays ++ others) := by
  -- The run stands behind the gap, with all overlays of the first sheet and no open block.
  obtain ⟨run, read, closed, rfl⟩ := readLines_append_gap inflatedFirst blank
  have reachable := reachable_of_readLines read
  have adds := adds_of_inflateLines inflatedSecond without
  obtain ⟨rest, items⟩ := Item.ofLines_of_title titled
  -- The second sheet goes on from this run, and it is read there as what it adds.
  rw [List.append_cons, inflateLines_eq_finish, finish_append_of_ok read]
  refine finish_of_adds closed reachable without ?_ _
  rw [Adds, items] at adds ⊢
  exact adds.append rfl reachable.marker_eq run.overlays

/-- A variable and a block that is still open in the first sheet do not reach the second one. -/
theorem inflateLines_append_titled_open_block :
    Dialect.inflateLines { registry := Registry.empty.register "fill" .ok }
        ["@side=left".toList, "fill @side".toList, [], "// next".toList, "# Grid".toList,
          "fill side".toList] =
      .ok [{ layers := [⟨"fill", [⟨"left", none⟩]⟩] },
        { title := some "Grid", layers := [⟨"fill", [⟨"side", none⟩]⟩] }] := by
  have first : Dialect.inflateLines { registry := Registry.empty.register "fill" .ok }
      ["@side=left".toList, "fill @side".toList] =
        .ok [{ layers := [⟨"fill", [⟨"left", none⟩]⟩] }] := rfl
  have second : Dialect.inflateLines { registry := Registry.empty.register "fill" .ok }
      ["// next".toList, "# Grid".toList, "fill side".toList] =
        .ok [{ title := some "Grid", layers := [⟨"fill", [⟨"side", none⟩]⟩] }] := rfl
  -- The theorem asks for the first line that counts, and for no declaration among the items.
  have titled : Line.first? {} ["// next".toList, "# Grid".toList, "fill side".toList] =
      some (.title "Grid".toList) := rfl
  have readable : Line.readable {} ["// next".toList, "# Grid".toList, "fill side".toList] =
      [.title "Grid".toList, .content "fill side".toList false] := rfl
  have without : Dialect.DeclaresNothing { registry := Registry.empty.register "fill" .ok }
      ["// next".toList, "# Grid".toList, "fill side".toList] := by
    have header : (!false && Token.leadsWithValue "fill side".toList) = false := rfl
    intro item member
    rw [readable, Item.ofLines, Item.ofLines, header] at member
    simp only [Bool.false_eq_true, if_false, List.takeWhile_nil, List.dropWhile_nil, Item.ofLines,
      List.mem_cons, List.not_mem_nil, or_false] at member
    rcases member with rfl | rfl
    · rfl
    · rfl
  exact inflateLines_append_titled first second titled without (by decide)

end Dialect

end OverlaySheet
