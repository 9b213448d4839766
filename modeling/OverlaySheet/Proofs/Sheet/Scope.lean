import OverlaySheet.Proofs.Outcome
import OverlaySheet.Proofs.Sheet.Declaration

/-! Variables in scope: what expanding and declaring can do, and what reachable scopes keep. -/

namespace OverlaySheet

open Text (EndsSolid Trimmed)

namespace Scope

/-- A token that no marker opens, neither at its start nor in its value half. -/
def Settled (marker token : Text) : Prop :=
  Text.after? marker token = none ∧ ∀ value, (Text.cut '=' token).2 = some value →
    Text.after? marker value = none

/-- A token that no marker opens is settled when it has no value half. -/
theorem settled_of_plain {marker token : Text} (unopened : Text.after? marker token = none)
    (plain : '=' ∉ token) : Settled marker token := by
  -- Without a sign the token has no value half at all.
  refine ⟨unopened, fun value found => ?_⟩
  rw [Text.cut_of_not_mem plain] at found
  cases found

/-- What is found after a declaration is the new value under its name, else what was there. -/
@[simp] theorem find?_bind (scope : Scope) (name value other : Text) :
    (scope.bind name value).find? other =
      if other = name then some value else scope.find? other := by
  -- The newest binding stands in front and hides the older ones of the name.
  by_cases same : other = name
  · simp [find?, bind, same]
  · have differs : (other == name) = false := by simpa using same
    simp [find?, bind, List.lookup_cons, same, differs]

/-- A reference to a variable becomes the tokens of its value. -/
theorem expand_reference {scope : Scope} {token name value : Text}
    (refers : scope.reference? token = some name) (found : scope.find? name = some value) :
    scope.expand token = .ok (Token.split value) := by
  simp [expand, refers, fetch, found, Except.map]

/-- A reference in the value half of a token becomes its value in the same token. -/
theorem expand_half {scope : Scope} {key half name value : Text} (plain : '=' ∉ key)
    (unmarked : scope.reference? (key ++ '=' :: half) = none)
    (refers : scope.reference? half = some name) (found : scope.find? name = some value) :
    scope.expand (key ++ '=' :: half) = .ok [key ++ '=' :: value] := by
  simp [expand, unmarked, Text.cut_append plain, refers, fetch, found, Except.map]

/-- A settled token stays what it is. -/
theorem expand_of_settled {scope : Scope} {token : Text} (settled : Settled scope.marker token) :
    scope.expand token = .ok [token] := by
  have unmarked : scope.reference? token = none := settled.1
  -- Neither the token nor its value half refers to anything.
  have half : (Text.cut '=' token).2.bind scope.reference? = none := by
    cases cut : (Text.cut '=' token).2 with
    | none => rfl
    | some value => exact settled.2 value cut
  simp [expand, unmarked, half]

/--
Everything that expanding one token can do.

It names a variable, or its value half does, or it is settled.
-/
theorem expand_cases {scope : Scope} {token : Text} {tokens : List Text}
    (expanded : scope.expand token = .ok tokens) :
    (∃ name value, scope.reference? token = some name ∧ scope.find? name = some value ∧
      tokens = Token.split value) ∨
    (∃ key half name value, '=' ∉ key ∧ token = key ++ '=' :: half ∧
      scope.reference? token = none ∧ scope.reference? half = some name ∧
      scope.find? name = some value ∧ tokens = [key ++ '=' :: value]) ∨
    (Settled scope.marker token ∧ tokens = [token]) := by
  cases refers : scope.reference? token with
  | some name =>
    -- The token is a reference as a whole.
    cases found : scope.find? name with
    | none => simp [expand, refers, fetch, found, Except.map] at expanded
    | some value =>
      rw [expand_reference refers found] at expanded
      exact Or.inl ⟨name, value, rfl, found, (Except.ok.inj expanded).symm⟩
  | none =>
    rcases Text.cut_cases '=' token with ⟨key, half, plain, rfl, cut⟩ | ⟨plain, _⟩
    · -- The token has a value half, which may be a reference.
      cases halfRefers : scope.reference? half with
      | some name =>
        cases found : scope.find? name with
        | none => simp [expand, refers, cut, halfRefers, fetch, found, Except.map] at expanded
        | some value =>
          rw [expand_half plain refers halfRefers found] at expanded
          exact Or.inr (Or.inl ⟨key, half, name, value, plain, rfl, rfl, halfRefers, found,
            (Except.ok.inj expanded).symm⟩)
      | none =>
        have settled : Settled scope.marker (key ++ '=' :: half) := by
          refine ⟨refers, fun value found => ?_⟩
          rw [cut] at found
          exact Option.some.inj found ▸ halfRefers
        rw [expand_of_settled settled] at expanded
        exact Or.inr (Or.inr ⟨settled, (Except.ok.inj expanded).symm⟩)
    · -- Without a value half there is nothing more to refer with.
      have settled : Settled scope.marker token := settled_of_plain refers plain
      rw [expand_of_settled settled] at expanded
      exact Or.inr (Or.inr ⟨settled, (Except.ok.inj expanded).symm⟩)

/-- A row of tokens is expanded token by token. -/
theorem expandAll_cons_eq_ok_iff {scope : Scope} {token : Text} {rest tokens : List Text} :
    scope.expandAll (token :: rest) = .ok tokens ↔
      ∃ here after, scope.expand token = .ok here ∧ scope.expandAll rest = .ok after ∧
        tokens = here ++ after := by
  -- Expansion goes from the left, and the first fault ends it.
  simp only [expandAll, bind_eq_ok_iff, pure_eq_ok_iff]
  constructor
  · intro succeeded
    obtain ⟨here, expanded, after, expandedRest, rfl⟩ := succeeded
    exact ⟨here, after, expanded, expandedRest, rfl⟩
  · intro parts
    obtain ⟨here, after, expanded, expandedRest, rfl⟩ := parts
    exact ⟨here, expanded, after, expandedRest, rfl⟩

/-- Two rows of tokens one after the other are expanded one after the other. -/
theorem expandAll_append_eq_ok_iff {scope : Scope} {left right tokens : List Text} :
    scope.expandAll (left ++ right) = .ok tokens ↔
      ∃ first second, scope.expandAll left = .ok first ∧ scope.expandAll right = .ok second ∧
        tokens = first ++ second := by
  -- The left row is taken apart token by token, until the right one is all there is.
  induction left generalizing tokens with
  | nil => simp [expandAll]
  | cons token left ih =>
    rw [List.cons_append, expandAll_cons_eq_ok_iff]
    constructor
    · intro succeeded
      obtain ⟨here, after, expanded, rest, rfl⟩ := succeeded
      -- The first token belongs to the left row, whose others come before the right one.
      obtain ⟨first, second, leftOk, rightOk, rfl⟩ := ih.1 rest
      exact ⟨here ++ first, second, expandAll_cons_eq_ok_iff.2 ⟨here, first, expanded, leftOk, rfl⟩,
        rightOk, by simp⟩
    · intro parts
      obtain ⟨first, second, leftOk, rightOk, rfl⟩ := parts
      obtain ⟨here, after, expanded, rest, rfl⟩ := expandAll_cons_eq_ok_iff.1 leftOk
      exact ⟨here, after ++ second, expanded, ih.2 ⟨after, second, rest, rightOk, rfl⟩, by simp⟩

/-- What holds of all that each token becomes holds of all that a row of tokens becomes. -/
theorem forall_mem_expandAll {scope : Scope} {holds : Text → Prop} {tokens result : List Text}
    (each : ∀ token ∈ tokens, ∀ here, scope.expand token = .ok here → ∀ word ∈ here, holds word)
    (expanded : scope.expandAll tokens = .ok result) : ∀ word ∈ result, holds word := by
  induction tokens generalizing result with
  | nil =>
    obtain rfl := Except.ok.inj expanded
    simp
  | cons token rest ih =>
    obtain ⟨here, after, expandedHere, expandedRest, rfl⟩ := expandAll_cons_eq_ok_iff.1 expanded
    obtain ⟨first, others⟩ := List.forall_mem_cons.1 each
    intro word member
    -- A word comes from the first token or from a later one.
    rcases List.mem_append.1 member with now | later
    · exact first here expandedHere word now
    · exact ih others expandedRest word later

/-- Settled tokens stay what they are. -/
theorem expandAll_of_settled {scope : Scope} {tokens : List Text}
    (settled : ∀ token ∈ tokens, Settled scope.marker token) :
    scope.expandAll tokens = .ok tokens := by
  -- Each settled token is expanded to itself alone.
  induction tokens with
  | nil => rfl
  | cons token rest ih =>
    obtain ⟨here, there⟩ := List.forall_mem_cons.1 settled
    exact expandAll_cons_eq_ok_iff.2 ⟨[token], rest, expand_of_settled here, ih there, rfl⟩

/--
Everything that resolving a declared value can do.

A reference to a variable takes over its stored value.
Otherwise the value is stored as it is, or as its expanded tokens joined again.
-/
theorem resolve_cases {scope : Scope} {value stored : Text}
    (resolved : scope.resolve value = .ok stored) :
    (∃ name, scope.reference? value = some name ∧ scope.find? name = some stored) ∨
    ((∀ name, scope.reference? value = some name → scope.find? name = none) ∧
      ∃ tokens, scope.expandAll (Token.split value) = .ok tokens ∧
        (tokens = Token.split value ∧ stored = value ∨
          tokens ≠ Token.split value ∧ stored = Text.joinWords tokens)) := by
  unfold resolve at resolved
  cases refers : (scope.reference? value).bind scope.find? with
  | some found =>
    rw [refers] at resolved
    -- The value is a reference, and what it names is declared.
    obtain ⟨name, isReference, isFound⟩ := Option.bind_eq_some_iff.1 refers
    exact Or.inl ⟨name, isReference, Except.ok.inj resolved ▸ isFound⟩
  | none =>
    rw [refers] at resolved
    refine Or.inr ⟨fun name isReference => ?_, ?_⟩
    · rw [isReference] at refers
      exact refers
    · -- Any other value is resolved token by token.
      simp only [resolveTokens, bind_eq_ok_iff, pure_eq_ok_iff] at resolved
      obtain ⟨tokens, expanded, chosen⟩ := resolved
      refine ⟨tokens, expanded, ?_⟩
      by_cases same : tokens = Token.split value
      · exact Or.inl ⟨same, by rw [← chosen, if_pos same]⟩
      · exact Or.inr ⟨same, by rw [← chosen, if_neg same]⟩

/-- A value that refers to nothing is stored as it stands. -/
theorem resolve_of_settled {scope : Scope} {value : Text}
    (unopened : Text.after? scope.marker value = none)
    (settled : ∀ token ∈ Token.split value, Settled scope.marker token) :
    scope.resolve value = .ok value := by
  have expanded : scope.expandAll (Token.split value) = .ok (Token.split value) :=
    expandAll_of_settled settled
  -- The tokens stay what they are, so the value is not made of them anew.
  simp [resolve, reference?, unopened, resolveTokens, expanded, Bind.bind, Except.bind,
    Pure.pure, Except.pure]

/-- A declaration that is carried out is well formed, and its resolved value is bound. -/
theorem declareAs_eq_ok_iff {scope next : Scope} {written text : Text} :
    scope.declareAs written text = .ok next ↔
      ∃ declaration stored, Declaration.read? text = some declaration ∧
        scope.resolve declaration.value = .ok stored ∧
        next = scope.bind declaration.name stored := by
  -- The text is read first, then the value is resolved, and only then is anything bound.
  unfold declareAs
  cases read : Declaration.read? text with
  | none => simp
  | some declaration =>
    simp only [bind_eq_ok_iff, pure_eq_ok_iff, Option.some.injEq]
    constructor
    · intro succeeded
      obtain ⟨stored, resolved, rfl⟩ := succeeded
      exact ⟨declaration, stored, rfl, resolved, rfl⟩
    · intro parts
      obtain ⟨_, stored, rfl, resolved, rfl⟩ := parts
      exact ⟨stored, resolved, rfl⟩

/-- The scopes that declarations make out of the empty one. -/
inductive Reachable (marker : Text) : Scope → Prop where
  | empty : Reachable marker { marker }
  | declare {scope next : Scope} {text : Text} : Reachable marker scope →
      scope.declare text = .ok next → Reachable marker next
  | declareBare {scope next : Scope} {text : Text} : Reachable marker scope →
      scope.declareBare text = .ok next → Reachable marker next

/-- A declaration, marked or not, leads from one reachable scope to another. -/
theorem Reachable.rec_declareAs {marker : Text} {motive : Scope → Prop}
    (empty : motive { marker })
    (step : ∀ {scope : Scope} {declaration : Declaration} {text stored : Text},
      Reachable marker scope → motive scope → Declaration.read? text = some declaration →
      scope.resolve declaration.value = .ok stored →
      motive (scope.bind declaration.name stored))
    {scope : Scope} (reachable : Reachable marker scope) : motive scope := by
  -- The two spellings bind the same, so they need one step and not two.
  induction reachable with
  | empty => exact empty
  | declare before declared ih =>
    obtain ⟨declaration, stored, read, resolved, rfl⟩ := declareAs_eq_ok_iff.1 declared
    exact step before ih read resolved
  | declareBare before declared ih =>
    obtain ⟨declaration, stored, read, resolved, rfl⟩ := declareAs_eq_ok_iff.1 declared
    exact step before ih read resolved

/-- Declarations never change the marker. -/
theorem Reachable.marker_eq {marker : Text} {scope : Scope}
    (reachable : Reachable marker scope) : scope.marker = marker :=
  reachable.rec_declareAs (motive := fun scope => scope.marker = marker) rfl
    fun _ same _ _ => same

/-- Every name is one that can be declared, and every value ends with no blank. -/
def Anchored (scope : Scope) : Prop :=
  ∀ name value, scope.find? name = some value → Declaration.IsName name ∧ EndsSolid value

/-- Expanded tokens are trimmed, even those that took over a value with blanks inside. -/
theorem Anchored.expandAll_trimmed {scope : Scope} (anchored : scope.Anchored) {text : Text}
    {expanded : List Text} (ok : scope.expandAll (Token.split text) = .ok expanded) :
    ∀ word ∈ expanded, Trimmed word := by
  refine forall_mem_expandAll (fun token member here expandedHere word inHere => ?_) ok
  -- A token comes from a value, or takes one over behind its key, or is left as it was.
  rcases expand_cases expandedHere with
    ⟨name, value, _, _, rfl⟩ | ⟨key, half, name, value, _, rfl, _, _, found, rfl⟩ | ⟨_, rfl⟩
  · obtain ⟨nonempty, solid⟩ := Token.mem_split inHere
    exact solid.trimmed nonempty
  · obtain rfl := List.mem_singleton.1 inHere
    constructor
    · -- The token starts with its key, or with the sign when the key is empty.
      cases key with
      | nil => exact ⟨'=', value, rfl, Token.isBlank_equals⟩
      | cons c key => exact ⟨c, _, rfl, (Token.mem_split member).2 c (by simp)⟩
    · have ends := (anchored name value found).2
      simpa using ends.append (key ++ ['='])
  · obtain rfl := List.mem_singleton.1 inHere
    obtain ⟨nonempty, solid⟩ := Token.mem_split member
    exact solid.trimmed nonempty

/-- No token vanishes when the values in scope hold tokens. -/
theorem Anchored.expandAll_ne_nil {scope : Scope} (anchored : scope.Anchored)
    {tokens result : List Text} (nonempty : tokens ≠ [])
    (expanded : scope.expandAll tokens = .ok result) : result ≠ [] := by
  obtain ⟨token, rest, rfl⟩ := List.exists_cons_of_ne_nil nonempty
  -- One token is enough, so the others are not looked at.
  obtain ⟨here, after, expandedHere, _, rfl⟩ := expandAll_cons_eq_ok_iff.1 expanded
  suffices here ≠ [] by simp [this]
  rcases expand_cases expandedHere with
    ⟨name, value, _, found, rfl⟩ | ⟨key, half, name, value, _, _, _, _, _, rfl⟩ | ⟨_, rfl⟩
  · exact Token.split_ne_nil (anchored name value found).2
  · simp
  · simp

/-- Resolving keeps the end of a value solid. -/
theorem Anchored.resolve_endsSolid {scope : Scope} (anchored : scope.Anchored)
    {value stored : Text} (ends : EndsSolid value) (resolved : scope.resolve value = .ok stored) :
    EndsSolid stored := by
  -- The value is the one of a name, or the value itself, or it is joined from tokens.
  rcases resolve_cases resolved with
    ⟨name, _, found⟩ | ⟨_, tokens, expanded, ⟨_, rfl⟩ | ⟨_, rfl⟩⟩
  · exact (anchored name stored found).2
  · exact ends
  · exact Text.joinWords_endsSolid
      (anchored.expandAll_ne_nil (Token.split_ne_nil ends) expanded)
      fun word member => (anchored.expandAll_trimmed expanded word member).2

/-- Every reachable scope is anchored. -/
theorem Reachable.anchored {marker : Text} {scope : Scope}
    (reachable : Reachable marker scope) : scope.Anchored := by
  -- Each declaration has a name and a resolved value, and the other bindings were anchored before.
  refine reachable.rec_declareAs (motive := Anchored) ?_ ?_
  · intro name value found
    simp [find?] at found
  · intro scope declaration text stored _ anchored read resolved name value found
    obtain ⟨isName, ends⟩ := Declaration.read?_eq_some read
    rw [find?_bind] at found
    split at found
    · next same =>
      obtain rfl := Option.some.inj found
      exact ⟨same ▸ isName, anchored.resolve_endsSolid ends resolved⟩
    · exact anchored name value found

end Scope

end OverlaySheet
