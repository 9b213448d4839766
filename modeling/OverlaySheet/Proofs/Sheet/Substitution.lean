import Mathlib.Data.List.Forall2
import OverlaySheet.Proofs.Sheet.Attribution

/-! References: what each token of a line stands for, and where replacing them fails. -/

namespace OverlaySheet

namespace Scope

/-- A token refers to a name: as a whole or, if it does not start with the marker, by its value. -/
inductive Refers (marker : Text) : Text → Text → Prop where
  | whole (name : Text) : Refers marker (marker ++ name) name
  | half {key name : Text} : '=' ∉ key → ¬ marker <+: key ++ '=' :: (marker ++ name) →
      Refers marker (key ++ '=' :: (marker ++ name)) name

/-- What a token stands for: the tokens of a value, one token with a value, or itself. -/
inductive StandsFor (scope : Scope) : Text → List Text → Prop where
  | whole {name value : Text} : scope.find? name = some value →
      StandsFor scope (scope.marker ++ name) (Token.split value)
  | half {key name value : Text} : '=' ∉ key →
      ¬ scope.marker <+: key ++ '=' :: (scope.marker ++ name) → scope.find? name = some value →
      StandsFor scope (key ++ '=' :: (scope.marker ++ name)) [key ++ '=' :: value]
  | plain {token : Text} : (∀ name, ¬ Refers scope.marker token name) →
      StandsFor scope token [token]

/-- All that a token refers to is declared. -/
def Covers (scope : Scope) (token : Text) : Prop :=
  ∀ name, Refers scope.marker token name → ∃ value, scope.find? name = some value

/-- A name is not declared, and it is referred to before any other such name. -/
def FirstUndeclared (scope : Scope) (tokens : List Text) (name : Text) : Prop :=
  ∃ front token behind, tokens = front ++ token :: behind ∧
    (∀ earlier ∈ front, scope.Covers earlier) ∧ Refers scope.marker token name ∧
    scope.find? name = none

variable {scope : Scope} {token name : Text} {tokens : List Text}

/-- A reference at the front of a token hides any other in its value. -/
theorem refers_whole_iff {named : Text} (refers : scope.reference? token = some named) :
    Refers scope.marker token name ↔ name = named := by
  obtain ⟨_, rfl⟩ := Text.after?_eq_some_iff.1 refers
  constructor
  · -- The reference could have been read as a value half only without a marker in front.
    generalize whole : scope.marker ++ named = token
    intro isReference
    cases isReference with
    | whole => exact (List.append_cancel_left whole).symm
    | half _ unopened => exact absurd ⟨named, whole⟩ unopened
  · rintro rfl
    exact .whole name

/-- Without one at the front, a token with a value refers to what its value names. -/
theorem refers_half_iff (nonempty : scope.marker ≠ []) {key half : Text} (plain : '=' ∉ key)
    (unmarked : scope.reference? (key ++ '=' :: half) = none) :
    Refers scope.marker (key ++ '=' :: half) name ↔ scope.reference? half = some name := by
  have unopened := Text.after?_eq_none_iff.1 unmarked nonempty
  constructor
  · generalize whole : key ++ '=' :: half = token at unopened
    intro isReference
    cases isReference with
    | whole => exact absurd ⟨name, rfl⟩ unopened
    | @half otherKey _ otherPlain _ =>
      -- The first sign is at one place only.
      have cut := congrArg (Text.cut '=') whole
      rw [Text.cut_append plain, Text.cut_append otherPlain] at cut
      obtain ⟨_, same⟩ := Prod.mk.inj cut
      exact Text.after?_eq_some_iff.2 ⟨nonempty, Option.some.inj same⟩
  · -- The key holds no sign, so what follows the first sign is this half.
    intro refers
    obtain ⟨_, rfl⟩ := Text.after?_eq_some_iff.1 refers
    exact .half plain unopened

/-- A token with neither a marker in front nor a value refers to nothing. -/
theorem not_refers_of_plain (nonempty : scope.marker ≠ []) (plain : '=' ∉ token)
    (unmarked : scope.reference? token = none) : ¬ Refers scope.marker token name := by
  -- The one form has the marker in front, and the other has a sign.
  intro isReference
  cases isReference with
  | whole =>
    exact Text.after?_eq_none_iff.1 unmarked nonempty ⟨name, rfl⟩
  | half => simp at plain

/--
Everything that expanding one token can come to, whether or not it succeeds.

All that the token refers to is declared, or it refers to one name, which is not.
-/
theorem expand_outcomes (nonempty : scope.marker ≠ []) (token : Text) :
    (∃ tokens, scope.expand token = .ok tokens ∧ scope.StandsFor token tokens ∧
      scope.Covers token) ∨
    ∃ name, scope.expand token = .error (.undeclared name) ∧
      (∀ other, Refers scope.marker token other ↔ other = name) ∧ scope.find? name = none := by
  cases refers : scope.reference? token with
  | some name =>
    -- The token is a reference as a whole, and its value does not matter.
    have named : ∀ other, Refers scope.marker token other ↔ other = name := fun other =>
      refers_whole_iff refers
    cases found : scope.find? name with
    | none =>
      exact .inr ⟨name, by simp [expand, refers, fetch, found, Except.map], named, found⟩
    | some value =>
      refine .inl ⟨Token.split value, expand_reference refers found, ?_, fun other isReference =>
        ⟨value, (named other).1 isReference ▸ found⟩⟩
      obtain ⟨_, rfl⟩ := Text.after?_eq_some_iff.1 refers
      exact .whole found
  | none =>
    -- Without a marker in front, only what follows the first sign can still refer.
    have unopened := Text.after?_eq_none_iff.1 refers nonempty
    rcases Text.cut_cases '=' token with ⟨key, half, plain, rfl, cut⟩ | ⟨plain, _⟩
    · have named : ∀ other, Refers scope.marker (key ++ '=' :: half) other ↔
          scope.reference? half = some other := fun other => refers_half_iff nonempty plain refers
      cases halfRefers : scope.reference? half with
      | none =>
        -- Neither the front nor the value is a reference.
        have nothing : ∀ other, ¬ Refers scope.marker (key ++ '=' :: half) other := by
          intro other isReference
          cases halfRefers.symm.trans ((named other).1 isReference)
        have expanded : scope.expand (key ++ '=' :: half) = .ok [key ++ '=' :: half] := by
          simp [expand, refers, cut, halfRefers]
        exact .inl ⟨_, expanded, .plain nothing, fun other isReference =>
          absurd isReference (nothing other)⟩
      | some name =>
        have alone : ∀ other, Refers scope.marker (key ++ '=' :: half) other ↔ other = name := by
          intro other
          rw [named, halfRefers, Option.some.injEq, eq_comm]
        cases found : scope.find? name with
        | none =>
          exact .inr ⟨name, by simp [expand, refers, cut, halfRefers, fetch, found, Except.map],
            alone, found⟩
        | some value =>
          refine .inl ⟨_, expand_half plain refers halfRefers found, ?_, fun other isReference =>
            ⟨value, (alone other).1 isReference ▸ found⟩⟩
          obtain ⟨_, rfl⟩ := Text.after?_eq_some_iff.1 halfRefers
          exact .half plain unopened found
    · -- A token without a sign is a flag, and it stays as it is.
      have nothing : ∀ other, ¬ Refers scope.marker token other := fun other =>
        not_refers_of_plain nonempty plain refers
      exact .inl ⟨[token], expand_of_settled (settled_of_plain refers plain), .plain nothing,
        fun other isReference => absurd isReference (nothing other)⟩

/-- What a token stands for is what it is expanded to. -/
theorem expand_of_standsFor (nonempty : scope.marker ≠ [])
    (standsFor : scope.StandsFor token tokens) : scope.expand token = .ok tokens := by
  -- Each way of standing for tokens is one of the branches that expansion goes through.
  cases standsFor with
  | whole found => exact expand_reference (Text.after?_eq_some_iff.2 ⟨nonempty, rfl⟩) found
  | half plain unopened found =>
    exact expand_half plain (Text.after?_eq_none_iff.2 fun _ => unopened)
      (Text.after?_eq_some_iff.2 ⟨nonempty, rfl⟩) found
  | plain nothing =>
    -- A token that refers to nothing cannot fail, and it stands for itself alone.
    rcases expand_outcomes nonempty token with ⟨_, expanded, standsFor, _⟩ | ⟨name, _, alone, _⟩
    · cases standsFor with
      | @whole name => exact absurd (.whole name) (nothing name)
      | @half _ name _ plain unopened => exact absurd (.half plain unopened) (nothing name)
      | plain => exact expanded
    · exact absurd ((alone name).2 rfl) (nothing name)

/-- A token is expanded to what it stands for, if all that it refers to is declared. -/
theorem expand_eq_ok_iff (nonempty : scope.marker ≠ []) :
    scope.expand token = .ok tokens ↔ scope.StandsFor token tokens := by
  refine ⟨fun expanded => ?_, expand_of_standsFor nonempty⟩
  -- Expansion comes out in one of two ways, and the other one is a failure.
  rcases expand_outcomes nonempty token with ⟨result, same, standsFor, _⟩ | ⟨_, failed, _⟩
  · obtain rfl := Except.ok.inj (expanded.symm.trans same)
    exact standsFor
  · cases expanded.symm.trans failed

/-- A row of tokens is expanded to what they stand for, one after the other. -/
theorem expandAll_eq_ok_iff (nonempty : scope.marker ≠ []) {result : List Text} :
    scope.expandAll tokens = .ok result ↔
      ∃ parts, List.Forall₂ scope.StandsFor tokens parts ∧ result = parts.flatten := by
  -- Each token has its own part, and the parts are put one behind the other.
  induction tokens generalizing result with
  | nil =>
    simp only [expandAll, Except.ok.injEq, List.forall₂_nil_left_iff, exists_eq_left,
      List.flatten_nil, @eq_comm _ result]
  | cons token rest ih =>
    rw [expandAll_cons_eq_ok_iff]
    constructor
    · rintro ⟨here, after, expanded, expandedRest, rfl⟩
      obtain ⟨parts, stand, rfl⟩ := ih.1 expandedRest
      exact ⟨here :: parts, .cons ((expand_eq_ok_iff nonempty).1 expanded) stand, rfl⟩
    · rintro ⟨parts, stand, rfl⟩
      obtain ⟨here, others, standsFor, standOthers, rfl⟩ := List.forall₂_cons_left_iff.1 stand
      exact ⟨here, others.flatten, (expand_eq_ok_iff nonempty).2 standsFor,
        ih.2 ⟨others, standOthers, rfl⟩, rfl⟩

/-- Behind tokens that can be expanded, the first one that cannot be decides. -/
theorem expandAll_append_of_error {front : List Text} {fault : Fault}
    (expanded : ∃ done, scope.expandAll front = .ok done)
    (failed : scope.expand token = .error fault) (behind : List Text) :
    scope.expandAll (front ++ token :: behind) = .error fault := by
  obtain ⟨done, expanded⟩ := expanded
  -- The tokens in front are passed one by one, as each of them is expanded.
  induction front generalizing done with
  | nil =>
    rw [List.nil_append, expandAll]
    exact bind_eq_error_iff.2 (.inl failed)
  | cons first front ih =>
    obtain ⟨here, others, expandedHere, expandedRest, _⟩ := expandAll_cons_eq_ok_iff.1 expanded
    rw [List.cons_append, expandAll]
    exact bind_eq_error_iff.2
      (.inr ⟨here, expandedHere, bind_eq_error_iff.2 (.inl (ih others expandedRest))⟩)

/-- A token is expanded when all that it refers to is declared. -/
theorem Covers.expand (covers : scope.Covers token) (nonempty : scope.marker ≠ []) :
    ∃ tokens, scope.expand token = .ok tokens := by
  -- If it failed, it would be for a name that is not declared.
  rcases expand_outcomes nonempty token with ⟨tokens, expanded, _⟩ | ⟨name, _, alone, unknown⟩
  · exact ⟨tokens, expanded⟩
  · obtain ⟨value, found⟩ := covers name ((alone name).2 rfl)
    cases unknown.symm.trans found

/-- So is a row of tokens, if this holds of each of them. -/
theorem expandAll_of_covers (nonempty : scope.marker ≠ [])
    (covers : ∀ token ∈ tokens, scope.Covers token) :
    ∃ result, scope.expandAll tokens = .ok result := by
  -- No token fails, so the first one is expanded and then the others.
  induction tokens with
  | nil => exact ⟨[], rfl⟩
  | cons token rest ih =>
    obtain ⟨coversHere, coversRest⟩ := List.forall_mem_cons.1 covers
    obtain ⟨here, expanded⟩ := coversHere.expand nonempty
    obtain ⟨after, expandedRest⟩ := ih coversRest
    exact ⟨here ++ after, expandAll_cons_eq_ok_iff.2 ⟨here, after, expanded, expandedRest, rfl⟩⟩

/-- If not all that some tokens refer to is declared, there is a first name that is not. -/
theorem exists_firstUndeclared (nonempty : scope.marker ≠ [])
    (uncovered : ¬ ∀ token ∈ tokens, scope.Covers token) :
    ∃ name, scope.FirstUndeclared tokens name := by
  induction tokens with
  | nil => exact absurd (List.forall_mem_nil _) uncovered
  | cons token rest ih =>
    rcases expand_outcomes nonempty token with ⟨_, _, _, covers⟩ | ⟨name, _, alone, unknown⟩
    · -- The first token is no problem, so one of the others is.
      have later : ¬ ∀ other ∈ rest, scope.Covers other := fun all =>
        uncovered (List.forall_mem_cons.2 ⟨covers, all⟩)
      obtain ⟨name, front, undeclared, behind, rfl, coversFront, known⟩ := ih later
      exact ⟨name, token :: front, undeclared, behind, rfl,
        List.forall_mem_cons.2 ⟨covers, coversFront⟩, known⟩
    · exact ⟨name, [], token, rest, rfl, List.forall_mem_nil _, (alone name).2 rfl, unknown⟩

/-- Expanding fails with the first name that is not declared. -/
theorem FirstUndeclared.expandAll_eq (first : scope.FirstUndeclared tokens name)
    (nonempty : scope.marker ≠ []) : scope.expandAll tokens = .error (.undeclared name) := by
  obtain ⟨front, token, behind, rfl, covers, refers, unknown⟩ := first
  refine expandAll_append_of_error (expandAll_of_covers nonempty covers) ?_ behind
  -- The token refers to no other name than this one.
  rcases expand_outcomes nonempty token with ⟨_, _, _, covered⟩ | ⟨other, failed, alone, _⟩
  · obtain ⟨value, found⟩ := covered name refers
    cases unknown.symm.trans found
  · rwa [(alone name).1 refers]

/-- Tokens can be expanded exactly when all that they refer to is declared. -/
theorem expandAll_succeeds_iff (nonempty : scope.marker ≠ []) :
    (∃ result, scope.expandAll tokens = .ok result) ↔ ∀ token ∈ tokens, scope.Covers token := by
  refine ⟨fun succeeded => ?_, expandAll_of_covers nonempty⟩
  -- Were a token not covered, there would be a first undeclared name, and its fault would come out.
  by_contra uncovered
  obtain ⟨result, expanded⟩ := succeeded
  obtain ⟨name, first⟩ := exists_firstUndeclared nonempty uncovered
  cases expanded.symm.trans (first.expandAll_eq nonempty)

/-- Expanding fails exactly with the first name that is not declared. -/
theorem expandAll_eq_error_iff (nonempty : scope.marker ≠ []) {fault : Fault} :
    scope.expandAll tokens = .error fault ↔
      ∃ name, scope.FirstUndeclared tokens name ∧ fault = .undeclared name := by
  constructor
  · -- Success is excluded, so there is a first undeclared name, and it decides the fault.
    intro failed
    have uncovered : ¬ ∀ token ∈ tokens, scope.Covers token := by
      intro covers
      obtain ⟨result, expanded⟩ := expandAll_of_covers nonempty covers
      cases failed.symm.trans expanded
    obtain ⟨name, first⟩ := exists_firstUndeclared nonempty uncovered
    exact ⟨name, first, Except.error.inj (failed.symm.trans (first.expandAll_eq nonempty))⟩
  · rintro ⟨name, first, rfl⟩
    exact first.expandAll_eq nonempty

end Scope

/-- A line gives tokens to a block: a header where none is open, or a further line of one. -/
inductive Run.GivesTokens {Layer : Type} (run : Run Layer) : Line → Text → Prop where
  | header {text : Text} {indented : Bool} : run.Closed →
      (Line.content text indented).isHeader = true → GivesTokens run (.content text indented) text
  | further {text : Text} {indented : Bool} {current : OpenBlock Layer} :
      run.phase = .inBlock current → (indented || Token.leadsWithValue text) = true →
      GivesTokens run (.content text indented) text

namespace Dialect

variable {Layer : Type} {dialect : Dialect Layer}

/-- A line that gives tokens fails as soon as they cannot be expanded, whatever else is wrong. -/
theorem step_of_expandAll_error {run : Run Layer} {line : Line} {text : Text} {fault : Fault}
    (gives : run.GivesTokens line text)
    (failed : run.scope.expandAll (Token.split text) = .error fault) (number : Nat) :
    dialect.step number run line = .error fault := by
  obtain ⟨scope, phase, overlays⟩ := run
  have noHeader : ∀ run : Run Layer, run.scope = scope →
      dialect.readHeader number text run = .error fault := by
    rintro run rfl
    exact bind_eq_error_iff.2 (.inl failed)
  cases gives with
  | @header _ indented closed header =>
    have notBare : (!indented && Token.leadsWithValue text) = false := by
      cases indented with
      | true => rfl
      | false => simpa [Line.isHeader] using header
    cases phase with
    | inBlock current => exact absurd rfl (closed current)
    | preamble | between =>
      -- The tokens are replaced before the type is looked up.
      simp only [step, notBare, Bool.false_eq_true, if_false]
      exact noHeader _ rfl
  | further opened goesOn =>
    obtain rfl : phase = _ := opened
    simp only [step, goesOn, if_true]
    exact bind_eq_error_iff.2 (.inl failed)

/-- A sheet fails at the first line that gives tokens with an undeclared name in them. -/
theorem inflateLines_of_firstUndeclared {before : List Text} {raw text : Text} {run : Run Layer}
    {name : Text} (marked : dialect.grammar.variableMarker ≠ "")
    (read : dialect.readLines 0 dialect.start before = .ok run)
    (gives : run.GivesTokens (Line.ofText dialect.grammar raw) text)
    (first : run.scope.FirstUndeclared (Token.split text) name) (after : List Text) :
    dialect.inflateLines (before ++ raw :: after) =
      .error { Fault.undeclared name with line := some before.length } := by
  -- The marker in scope is the one of the grammar, and it is not empty.
  have nonempty : run.scope.marker ≠ [] := by
    rw [(reachable_of_readLines read).marker_eq]
    simpa using marked
  have stepped : dialect.step before.length run (Line.ofText dialect.grammar raw) =
      .error (.undeclared name) :=
    step_of_expandAll_error gives (first.expandAll_eq nonempty) before.length
  refine inflateLines_of_readLine_error read ?_ after
  rw [readLine, stepped]
  rfl

/--
Tokens are replaced exactly when all references in them are declared, and else the first is cited.

A reference stands for the tokens of its value or, behind a key, for its value as it is, and every
other token stands for itself.
A line whose tokens go to a block fails with the first undeclared name, at its own number, whatever
its type, its arguments and the lines behind it are.
-/
theorem expandAll_or_firstUndeclared :
    (∀ scope : Scope, scope.marker ≠ [] → ∀ tokens : List Text,
      ((∃ result, scope.expandAll tokens = .ok result) ↔ ∀ token ∈ tokens, scope.Covers token) ∧
      (∀ fault, scope.expandAll tokens = .error fault ↔
        ∃ name, scope.FirstUndeclared tokens name ∧ fault = .undeclared name) ∧
      ∀ result, scope.expandAll tokens = .ok result ↔
        ∃ parts, List.Forall₂ scope.StandsFor tokens parts ∧ result = parts.flatten) ∧
    ∀ {Layer : Type} (dialect : Dialect Layer) (before : List Text) (raw text : Text)
      (run : Run Layer), dialect.grammar.variableMarker ≠ "" →
      dialect.readLines 0 dialect.start before = .ok run →
      run.GivesTokens (Line.ofText dialect.grammar raw) text →
      (∃ token ∈ Token.split text, ¬ run.scope.Covers token) →
      ∃ name, run.scope.FirstUndeclared (Token.split text) name ∧ ∀ after : List Text,
        dialect.inflateLines (before ++ raw :: after) =
          .error { Fault.undeclared name with line := some before.length } := by
  constructor
  · intro scope nonempty tokens
    exact ⟨Scope.expandAll_succeeds_iff nonempty,
      fun _ => Scope.expandAll_eq_error_iff nonempty,
      fun _ => Scope.expandAll_eq_ok_iff nonempty⟩
  · -- The tokens of the line are not all covered, so there is a first name to be cited.
    intro Layer dialect before raw text run marked read gives uncovered
    have nonempty : run.scope.marker ≠ [] := by
      rw [(reachable_of_readLines read).marker_eq]
      simpa using marked
    obtain ⟨token, member, notCovered⟩ := uncovered
    obtain ⟨name, first⟩ := Scope.exists_firstUndeclared nonempty fun covers =>
      notCovered (covers token member)
    exact ⟨name, first, inflateLines_of_firstUndeclared marked read gives first⟩

section Sample

/-- A dialect that knows no type. -/
def typeless : Dialect Unit where
  registry := .empty

/-- A run of it behind a declaration and a title. -/
def titled : Run Unit where
  scope := ⟨['@'], [(['a'], ['1'])]⟩
  overlays := [{ title := some "Grid" }]

/-- A value of two words is two tokens or one, and an unknown type is not noticed before a name. -/
theorem expandAll_or_firstUndeclared_unknown_type :
    Scope.expandAll ⟨['@'], [(['a'], "x y".toList)]⟩ ["@a".toList, "k=@a".toList, "k@a".toList] =
        .ok ["x".toList, "y".toList, "k=x y".toList, "k@a".toList] ∧
      typeless.inflateLines
          (["@a=1", "# Grid", "  unknown k@a =@a k=@b @c", "again"].map String.toList) =
        .error { Fault.undeclared ['b'] with line := some 2 } := by
  constructor
  · have found : Scope.find? ⟨['@'], [(['a'], "x y".toList)]⟩ ['a'] = some "x y".toList := rfl
    have nothing : ∀ name, ¬ Scope.Refers ['@'] "k@a".toList name := fun name =>
      @Scope.not_refers_of_plain ⟨['@'], []⟩ "k@a".toList name (by decide) (by decide) (by decide)
    -- A reference, a reference behind a key, and a word that holds the marker further behind.
    exact ((expandAll_or_firstUndeclared.1 _ (by decide) _).2.2 _).2 ⟨_, .cons (.whole found)
      (.cons (@Scope.StandsFor.half _ ['k'] ['a'] _ (by decide) (by decide) found)
        (.cons (.plain nothing) .nil)), rfl⟩
  · have read : typeless.readLines 0 typeless.start (["@a=1", "# Grid"].map String.toList) =
        .ok titled := rfl
    have gives : titled.GivesTokens (Line.ofText {} "  unknown k@a =@a k=@b @c".toList)
        "unknown k@a =@a k=@b @c".toList := .header nofun rfl
    have uncovered : ¬ titled.scope.Covers "k=@b".toList := by
      intro covers
      obtain ⟨value, found⟩ :=
        covers ['b'] (@Scope.Refers.half ['@'] ['k'] ['b'] (by decide) (by decide))
      cases found
    obtain ⟨name, first, failed⟩ := expandAll_or_firstUndeclared.2 typeless _ _ _ titled
      (by decide) read gives ⟨"k=@b".toList, by decide, uncovered⟩
    -- The first name that is not declared is the one that expanding the tokens fails with.
    have cited : Fault.undeclared name = .undeclared ['b'] :=
      Except.error.inj ((first.expandAll_eq (by decide)).symm.trans rfl)
    rw [cited] at failed
    exact failed ["again".toList]

end Sample

end Dialect

end OverlaySheet
