import OverlaySheet.Proofs.Sheet.Refinement
import OverlaySheet.Proofs.Sheet.Verbatim

/-! Declarations that nothing refers to: with one more of them, a sheet describes the same. -/

namespace OverlaySheet

open Text (Solid)

/-- The front of a text without blanks has none. -/
theorem Text.Solid.of_prefix {front text : Text} (solid : Solid text) (opens : front <+: text) :
    Solid front := fun c member => solid c (opens.subset member)

/-- The tokens of a paragraph have no blanks in them. -/
theorem Paragraph.solid_of_mem_tokens {paragraph : Paragraph} {token : Text}
    (member : token ∈ paragraph.tokens) : Solid token := by
  -- Each token comes from a line of content, and no token that was split off holds a blank.
  rcases List.mem_append.1 member with inHeader | inBody
  · exact (Token.mem_split inHeader).2
  · obtain ⟨line, _, inLine⟩ := List.mem_flatMap.1 inBody
    cases line with
    | content text indented => exact (Token.mem_split inLine).2
    | blank | comment | declaration text | title text => cases inLine

namespace Scope

/--
A scope keeps another one: all that tokens refer to with success has the same value in it.

With a blank in the marker, no token refers to anything, and the values may be any.
-/
structure Keeps (new old : Scope) : Prop where
  marker : new.marker = old.marker
  found : Solid old.marker → ∀ name value, old.find? name = some value →
    new.find? name = some value

variable {old new : Scope}

/-- A name that was not declared can be, and all others keep their values. -/
theorem keeps_bind {name : Text} (unknown : old.find? name = none) (value : Text) :
    (old.bind name value).Keeps old := by
  -- Only the new name has another value, and it had none before.
  refine ⟨rfl, fun _ other kept found => ?_⟩
  have differs : other ≠ name := by
    rintro rfl
    cases unknown.symm.trans found
  rw [find?_bind, if_neg differs, found]

namespace Keeps

variable (keeps : new.Keeps old)

include keeps

/-- A name to which a text without blanks refers has its value in both scopes. -/
theorem find?_of_reference {text name value : Text} (solid : Solid text)
    (refers : old.reference? text = some name) (found : old.find? name = some value) :
    new.reference? text = some name ∧ new.find? name = some value := by
  -- The marker is the same in both scopes, and in front of a solid text it is solid itself.
  obtain ⟨nonempty, rfl⟩ := Text.after?_eq_some_iff.1 refers
  have markerSolid : Solid old.marker := solid.of_prefix ⟨name, rfl⟩
  refine ⟨?_, keeps.found markerSolid name value found⟩
  rw [reference?, keeps.marker]
  exact refers

/-- A token that can be expanded becomes the same in a scope that keeps this one. -/
theorem expand {token : Text} {tokens : List Text} (solid : Solid token)
    (expanded : old.expand token = .ok tokens) : new.expand token = .ok tokens := by
  rcases expand_cases expanded with ⟨name, value, refers, found, rfl⟩ |
    ⟨key, half, name, value, plain, rfl, unmarked, refers, found, rfl⟩ | ⟨settled, rfl⟩
  · -- The token is a reference as a whole.
    obtain ⟨refersNew, foundNew⟩ := keeps.find?_of_reference solid refers found
    exact expand_reference refersNew foundNew
  · -- Its value is one, and a half of a token has no blank either.
    have halfSolid : Solid half := fun c member => solid c (by simp [member])
    obtain ⟨refersNew, foundNew⟩ := keeps.find?_of_reference halfSolid refers found
    refine expand_half plain ?_ refersNew foundNew
    rwa [reference?, keeps.marker]
  · exact expand_of_settled (keeps.marker ▸ settled)

/-- So does a row of tokens. -/
theorem expandAll {tokens result : List Text} (solid : ∀ token ∈ tokens, Solid token)
    (expanded : old.expandAll tokens = .ok result) : new.expandAll tokens = .ok result := by
  -- Every token is solid, so the expansion of one is the same, and the others follow.
  induction tokens generalizing result with
  | nil => exact expanded
  | cons token rest ih =>
    obtain ⟨here, there⟩ := List.forall_mem_cons.1 solid
    obtain ⟨first, others, expandedHere, expandedRest, rfl⟩ :=
      expandAll_cons_eq_ok_iff.1 expanded
    exact expandAll_cons_eq_ok_iff.2
      ⟨first, others, keeps.expand here expandedHere, ih there expandedRest, rfl⟩

end Keeps

/-- No token without blanks is opened by a marker that has one. -/
theorem settled_of_marker_not_solid {marker token : Text} (gap : ¬ Solid marker)
    (solid : Solid token) : Settled marker token := by
  have unopened : ∀ text, Solid text → Text.after? marker text = none := by
    intro text solidText
    exact Text.after?_eq_none_iff.2 fun _ opens => gap (solidText.of_prefix opens)
  -- Neither the token nor its value half starts with such a marker.
  refine ⟨unopened token solid, fun value found => ?_⟩
  rcases Text.cut_cases '=' token with ⟨key, half, _, rfl, cut⟩ | ⟨_, cut⟩
  · rw [cut] at found
    obtain rfl := Option.some.inj found
    exact unopened half fun c member => solid c (by simp [member])
  · rw [cut] at found
    cases found

/-- With such a marker any value can be resolved. -/
theorem resolve_of_marker_not_solid {scope : Scope} (gap : ¬ Solid scope.marker) (value : Text) :
    ∃ stored, scope.resolve value = .ok stored := by
  -- No token of the value is a reference, so expanding them fails nowhere.
  have expanded : scope.expandAll (Token.split value) = .ok (Token.split value) :=
    expandAll_of_settled fun token member =>
      settled_of_marker_not_solid gap (Token.mem_split member).2
  cases known : (scope.reference? value).bind scope.find? with
  | some stored => exact ⟨stored, by simp [resolve, known]⟩
  | none =>
    refine ⟨value, ?_⟩
    simp [resolve, known, resolveTokens, expanded, Bind.bind, Except.bind, Pure.pure, Except.pure]

/--
A value that refers to one name can be resolved by its tokens only if the name is declared.

A name has no blank, so that the value is a single token.
-/
theorem not_resolveTokens_of_unknown {scope : Scope} (solid : Solid scope.marker)
    {value name stored : Text} (isName : Declaration.IsName name)
    (refers : scope.reference? value = some name) (unknown : scope.find? name = none) :
    scope.resolveTokens value ≠ .ok stored := by
  -- The value is the marker and the name, and it is split into itself.
  obtain ⟨nonempty, rfl⟩ := Text.after?_eq_some_iff.1 refers
  have whole : Solid (scope.marker ++ name) := List.forall_mem_append.2 ⟨solid, isName.solid⟩
  have single : Token.split (scope.marker ++ name) = [scope.marker ++ name] :=
    Token.split_of_solid (by simp [nonempty]) whole
  simp [resolveTokens, single, expandAll, expand, refers, fetch, unknown, Except.map, Bind.bind,
    Except.bind]

namespace Keeps

variable (keeps : new.Keeps old)

include keeps

/-- A value is resolved by its tokens as it was. -/
theorem resolveTokens {value stored : Text} (resolved : old.resolveTokens value = .ok stored) :
    new.resolveTokens value = .ok stored := by
  -- The tokens expand to the same, and the choice of what is stored looks at nothing else.
  obtain ⟨result, expanded, chosen⟩ := bind_eq_ok_iff.1 resolved
  have same := keeps.expandAll (fun token member => (Token.mem_split member).2) expanded
  exact bind_eq_ok_iff.2 ⟨result, same, chosen⟩

/-- A value that can be resolved still can be, to the same unless nothing can refer to it. -/
theorem resolve (anchored : new.Anchored) {value stored : Text}
    (resolved : old.resolve value = .ok stored) :
    ∃ kept, new.resolve value = .ok kept ∧ (Solid old.marker → kept = stored) := by
  by_cases solid : Solid old.marker
  · refine ⟨stored, ?_, fun _ => rfl⟩
    have sameReference : new.reference? value = old.reference? value := by
      rw [reference?, keeps.marker, reference?]
    rw [Scope.resolve, sameReference]
    rw [Scope.resolve] at resolved
    cases known : (old.reference? value).bind old.find? with
    | some found =>
      -- The value is a reference, and what it names keeps its value.
      obtain ⟨name, refers, isFound⟩ := Option.bind_eq_some_iff.1 known
      rw [known] at resolved
      rw [refers, Option.bind_some, keeps.found solid name found isFound]
      exact resolved
    | none =>
      rw [known] at resolved
      -- If the value were a reference to a name that is new, its only token would have failed.
      have unknown : (old.reference? value).bind new.find? = none := by
        by_contra isKnown
        obtain ⟨found, isFound⟩ := Option.ne_none_iff_exists'.1 isKnown
        obtain ⟨name, refers, foundNew⟩ := Option.bind_eq_some_iff.1 isFound
        rw [refers, Option.bind_some] at known
        exact not_resolveTokens_of_unknown solid (anchored name found foundNew).1 refers known
          resolved
      rw [unknown]
      exact keeps.resolveTokens resolved
  · -- Whatever is stored now, no token can refer to it.
    obtain ⟨kept, resolvedNew⟩ := resolve_of_marker_not_solid (keeps.marker ▸ solid) value
    exact ⟨kept, resolvedNew, fun isSolid => absurd isSolid solid⟩

/-- The same declaration can be carried out in both scopes, and the one still keeps the other. -/
theorem declareAs (anchored : new.Anchored) {next : Scope} {written other text : Text}
    (declared : old.declareAs written text = .ok next) :
    ∃ kept, new.declareAs other text = .ok kept ∧ kept.Keeps next := by
  obtain ⟨declaration, stored, read, resolved, rfl⟩ := declareAs_eq_ok_iff.1 declared
  obtain ⟨storedNew, resolvedNew, same⟩ := keeps.resolve anchored resolved
  refine ⟨_, declareAs_eq_ok_iff.2 ⟨declaration, storedNew, read, resolvedNew, rfl⟩, keeps.marker,
    fun solid name value found => ?_⟩
  -- The declared name has the same value in both, and any other name has the value it had.
  rw [find?_bind] at found ⊢
  obtain rfl := same solid
  split at found
  · next isName => rw [if_pos isName, found]
  · next differs => rw [if_neg differs, keeps.found solid name value found]

/-- So can a row of declarations. -/
theorem declareAll {marker : Text} (reachable : Reachable marker new) {items : List Item}
    {final : Scope} (declared : old.declareAll items = .ok final) :
    ∃ kept, new.declareAll items = .ok kept ∧ kept.Keeps final := by
  induction items generalizing old new with
  | nil =>
    -- Nothing is declared, so both scopes are as they were.
    obtain rfl := Except.ok.inj declared
    exact ⟨new, rfl, keeps⟩
  | cons item rest ih =>
    cases item with
    | title text => exact ih keeps reachable declared
    | paragraph paragraph => exact ih keeps reachable declared
    | declaration marked text =>
      -- Both scopes carry out the declaration, and the one goes on keeping the other.
      obtain ⟨next, declaredHere, others⟩ := declareAll_declaration_eq_ok_iff.1 declared
      simp only [declareAll_declaration_eq_ok_iff]
      cases marked with
      | true =>
        obtain ⟨kept, declaredNew, keepsNext⟩ := keeps.declareAs reachable.anchored declaredHere
        obtain ⟨last, declaredRest, keepsLast⟩ :=
          ih keepsNext (reachable.declare declaredNew) others
        exact ⟨last, ⟨kept, declaredNew, declaredRest⟩, keepsLast⟩
      | false =>
        obtain ⟨kept, declaredNew, keepsNext⟩ := keeps.declareAs reachable.anchored declaredHere
        obtain ⟨last, declaredRest, keepsLast⟩ :=
          ih keepsNext (reachable.declareBare declaredNew) others
        exact ⟨last, ⟨kept, declaredNew, declaredRest⟩, keepsLast⟩

end Keeps

end Scope

namespace Dialect

variable {Layer : Type} {dialect : Dialect Layer} {old new : Scope}

/-- A paragraph describes the same layer in a scope that keeps this one. -/
theorem Builds.keeps {paragraph : Paragraph} {layer : Layer}
    (builds : dialect.Builds old paragraph layer) (keeps : new.Keeps old) :
    dialect.Builds new paragraph layer := by
  -- Only the tokens of the paragraph are expanded, so the rest of the description stays.
  obtain ⟨layerType, arguments, builder, expanded, others⟩ := builds
  have same := keeps.expandAll (fun _ => Paragraph.solid_of_mem_tokens) expanded
  exact ⟨layerType, arguments, builder, same, others⟩

/-- Items make the same of overlays. -/
theorem Composes.keeps {overlays result : List (Overlay Layer)} {items : List Item}
    (composes : dialect.Composes old overlays items result) (keeps : new.Keeps old) :
    dialect.Composes new overlays items result := by
  -- A declaration and a title use no scope, and a paragraph is described by its solid tokens.
  induction items generalizing overlays with
  | nil => exact composes
  | cons item rest ih =>
    cases item with
    | declaration marked text => exact ih composes
    | title text => exact ih composes
    | paragraph paragraph =>
      obtain ⟨continues, layer, builds, others⟩ := composes
      exact ⟨continues, layer, builds.keeps keeps, ih others⟩

/-- So they do with their declarations, before the first block. -/
theorem Begins.keeps {marker : Text} {overlays result : List (Overlay Layer)} {items : List Item}
    (begins : dialect.Begins old overlays items result) (reachable : Scope.Reachable marker new)
    (keeps : new.Keeps old) : dialect.Begins new overlays items result := by
  -- The declarations come first, and the items are composed in the scope behind them.
  obtain ⟨final, declared, first, composes⟩ := begins
  obtain ⟨kept, declaredNew, keepsFinal⟩ := keeps.declareAll reachable declared
  exact ⟨kept, declaredNew, first, composes.keeps keepsFinal⟩

/-- Before the first block, a run in a scope that keeps another's comes to the same overlays. -/
theorem finish_of_keeps {marker : Text} {old new : Run Layer} {number other : Nat}
    {lines : List Text} {overlays : List (Overlay Layer)}
    (finished : dialect.finish number old lines = .ok overlays)
    (oldReachable : Scope.Reachable marker old.scope)
    (newReachable : Scope.Reachable marker new.scope)
    (oldPreamble : old.phase = .preamble) (newPreamble : new.phase = .preamble)
    (sameOverlays : new.overlays = old.overlays) (keeps : new.scope.Keeps old.scope) :
    dialect.finish other new lines = .ok overlays := by
  obtain ⟨oldScope, _, overlaysSoFar⟩ := old
  obtain ⟨newScope, _, _⟩ := new
  obtain rfl := oldPreamble
  obtain rfl := newPreamble
  obtain rfl := sameOverlays
  -- Both runs stand before their first block, where they do what the items describe.
  rw [finish_preamble_eq_ok_iff oldReachable] at finished
  exact (finish_preamble_eq_ok_iff newReachable lines).2 (finished.keeps newReachable keeps)

/--
One more declaration makes no difference when nothing refers to it.

It stands behind the marker and before the first block, its value can be resolved there, and no line
before it declares its name.
As the lines behind it do without the declaration, none of them refers to it.
-/
theorem inflateLines_spare_declaration {before after : List Text} {raw text : Text}
    {declaration : Declaration} {overlays : List (Overlay Layer)}
    (inflated : dialect.inflateLines (before ++ after) = .ok overlays)
    (notHeaded : ¬ dialect.Headed before)
    (marked : Line.ofText dialect.grammar raw = .declaration text)
    (read : Declaration.read? text = some declaration)
    (resolves : ∀ run, dialect.readLines 0 dialect.start before = .ok run →
      ∃ stored, run.scope.resolve declaration.value = .ok stored)
    (unused : ∀ earlier ∈ before, ∀ other,
      (Line.ofText dialect.grammar earlier).declared? = some other →
        other.name ≠ declaration.name) :
    dialect.inflateLines (before ++ raw :: after) = .ok overlays := by
  cases readBefore : dialect.readLines 0 dialect.start before with
  | error fault =>
    -- Without the declaration the lines before it have been read.
    rw [inflateLines_eq_finish, finish_append_of_error readBefore] at inflated
    cases inflated
  | ok run =>
    rw [inflateLines_eq_finish, finish_append_of_ok readBefore] at inflated ⊢
    have preamble := (preamble_iff_not_headed readBefore).2 notHeaded
    have reachable := reachable_of_readLines readBefore
    obtain ⟨stored, resolved⟩ := resolves run readBefore
    have declared : run.scope.declare text = .ok (run.scope.bind declaration.name stored) :=
      Scope.declareAs_eq_ok_iff.2 ⟨declaration, stored, read, resolved, rfl⟩
    have stepped : dialect.step (0 + before.length) run (Line.ofText dialect.grammar raw) =
        .ok { run with scope := run.scope.bind declaration.name stored } := by
      rw [marked, step, preamble, declared]
      rfl
    have unknown : run.scope.find? declaration.name = none :=
      find?_of_readLines readBefore unused
    -- The declaration adds one name, and the lines behind it have done without.
    refine finish_cons_eq_ok_iff.2 ⟨_, stepped, ?_⟩
    exact finish_of_keeps inflated reachable (reachable.declare declared) preamble preamble rfl
      (Scope.keeps_bind unknown stored)

/-- A declaration between two others, which refers to the first of them. -/
theorem inflateLines_spare_declaration_between :
    let before := ["@a=1".toList]
    let after := ["@c=@a  2".toList, "# Grid".toList, "fill k=@c".toList]
    (echoing "@" "fill").inflateLines (before ++ after) =
        .ok [{ title := some "Grid", layers := [⟨"fill", [⟨"k", some "1 2"⟩]⟩] }] ∧
      (echoing "@" "fill").inflateLines (before ++ "@b = x @a".toList :: after) =
        .ok [{ title := some "Grid", layers := [⟨"fill", [⟨"k", some "1 2"⟩]⟩] }] := by
  intro before after
  -- The theorem needs the sheet without the line, and the value of the line in the scope before it.
  have inflated : (echoing "@" "fill").inflateLines (before ++ after) =
      .ok [{ title := some "Grid", layers := [⟨"fill", [⟨"k", some "1 2"⟩]⟩] }] := rfl
  have readBefore : (echoing "@" "fill").readLines 0 (echoing "@" "fill").start before =
      .ok { scope := ⟨['@'], [("a".toList, "1".toList)]⟩ } := rfl
  have notHeaded : ¬ (echoing "@" "fill").Headed before :=
    (preamble_iff_not_headed readBefore).1 rfl
  have marked : Line.ofText (echoing "@" "fill").grammar "@b = x @a".toList =
      .declaration "b = x @a".toList := by decide
  have read : Declaration.read? "b = x @a".toList = some ⟨['b'], "x @a".toList⟩ := by decide
  have resolves : ∀ run, (echoing "@" "fill").readLines 0 (echoing "@" "fill").start before =
      .ok run → ∃ stored, run.scope.resolve "x @a".toList = .ok stored := by
    intro run readTo
    obtain rfl := Except.ok.inj (readBefore.symm.trans readTo)
    exact ⟨"x 1".toList, rfl⟩
  have unused : ∀ earlier ∈ before, ∀ other,
      (Line.ofText (echoing "@" "fill").grammar earlier).declared? = some other →
        other.name ≠ ['b'] :=
    List.forall_mem_singleton.2 fun other found => Option.some.inj found ▸ by decide
  exact ⟨inflated, inflateLines_spare_declaration inflated notHeaded marked read resolves unused⟩

end Dialect

end OverlaySheet
