import OverlaySheet.Proofs.Sheet.Scope

/-! No stored value and no expansion holds a reference that is still to be replaced. -/

namespace OverlaySheet.Scope

open Text (OpensSolid EndsSolid Solid Trimmed isBlank)

/-- A marker that has neither a blank nor an equals sign, as the empty one has not. -/
def PlainMarker (marker : Text) : Prop :=
  ∀ c ∈ marker, isBlank c = false ∧ c ≠ '='

/-- The default marker is plain. -/
theorem plainMarker_default : PlainMarker ['@'] := by
  -- The marker is one character, which is neither a blank nor the sign.
  simp only [PlainMarker, List.forall_mem_singleton]
  exact ⟨by decide, by decide⟩

variable {marker : Text}

/-- A marker does not open what only an equals sign joins to a text that it does not open. -/
theorem PlainMarker.after?_append (plain : PlainMarker marker) {left right : Text}
    (sign : left.getLast? = some '=' ∨ right.head? = some '=')
    (apart : Text.after? marker left = none) : Text.after? marker (left ++ right) = none := by
  rw [Text.after?_eq_none_iff] at apart ⊢
  intro nonempty opens
  rcases Text.prefix_append_cases opens with within | ⟨c, more, rfl, next⟩
  · exact apart nonempty within
  · -- A marker that goes on into the right text holds the sign between the two.
    rcases sign with before | behind
    · exact (plain '=' (by simp [List.mem_of_getLast? before])).2 rfl
    · obtain rfl := Option.some.inj (next.symm.trans behind)
      exact (plain '=' (by simp)).2 rfl

/-- Two settled tokens that an equals sign glues together are a settled token. -/
theorem Settled.glue (plain : PlainMarker marker) {left right : Text}
    (leftSettled : Settled marker left) (rightSettled : Settled marker right)
    (sign : left.getLast? = some '=' ∨ right.head? = some '=') :
    Settled marker (left ++ right) := by
  refine ⟨plain.after?_append sign leftSettled.1, fun value found => ?_⟩
  rcases Text.cut_cases '=' left with ⟨key, half, without, rfl, cut⟩ | ⟨without, _⟩
  · -- The value half of the left token goes on with the right token.
    rw [List.append_assoc, List.cons_append, Text.cut_append without] at found
    obtain rfl := Option.some.inj found
    have halfApart := leftSettled.2 half (by rw [cut])
    cases half with
    | nil => exact rightSettled.1
    | cons c half =>
      refine plain.after?_append (sign.imp_left fun last => ?_) halfApart
      simpa [List.getLast?_append, List.getLast?_cons_cons] using last
  · -- Without a sign on the left, the right token is an empty key and its value half.
    rcases sign with before | behind
    · exact absurd (List.mem_of_getLast? before) without
    · cases right with
      | nil => simp at behind
      | cons c right =>
        obtain rfl : c = '=' := by simpa using behind
        rw [Text.cut_append without] at found
        obtain rfl := Option.some.inj found
        exact rightSettled.2 right (by simp [Text.cut])

/-- Where settled tokens meet, the tokens of the whole are settled. -/
theorem Settled.meet (plain : PlainMarker marker) {left right joined : List Text}
    (meet : Token.Meet left right joined) (leftSettled : ∀ token ∈ left, Settled marker token)
    (rightSettled : ∀ token ∈ right, Settled marker token) :
    ∀ token ∈ joined, Settled marker token := by
  intro token member
  cases meet with
  -- Tokens that stay apart are settled on their own side.
  | apart =>
    rcases List.mem_append.1 member with inLeft | inRight
    · exact leftSettled token inLeft
    · exact rightSettled token inRight
  | @glued before after last first leftForm rightForm sign =>
    subst leftForm rightForm
    rcases List.mem_append.1 member with early | inRest
    · exact leftSettled token (by simp [early])
    · -- Only the glued token is new.
      rcases List.mem_cons.1 inRest with rfl | late
      · exact Settled.glue plain (leftSettled last (by simp)) (rightSettled first (by simp)) sign
      · exact rightSettled token (by simp [late])

/-- A key before an equals sign is settled when the token that it comes from was not opened. -/
theorem settled_key {key half : Text} (without : '=' ∉ key)
    (unopened : Text.after? marker (key ++ '=' :: half) = none) :
    Settled marker (key ++ ['=']) := by
  constructor
  · -- What opens the key would open the token that goes on behind it.
    rw [Text.after?_eq_none_iff] at unopened ⊢
    intro nonempty opens
    exact unopened nonempty (opens.trans ⟨half, by simp⟩)
  · -- The value half is empty, and no marker opens nothing.
    intro value found
    rw [Text.cut_append without] at found
    obtain rfl := Option.some.inj found
    rw [Text.after?_eq_none_iff]
    intro nonempty opens
    exact nonempty (List.prefix_nil.1 opens)

/-- Every stored value is unopened, and all its tokens are settled. -/
def Closed (scope : Scope) : Prop :=
  ∀ name value, scope.find? name = some value →
    Text.after? scope.marker value = none ∧
      ∀ token ∈ Token.split value, Settled scope.marker token

/-- In a closed scope, all that tokens expand to is settled. -/
theorem Closed.expandAll_settled {scope : Scope} (closed : scope.Closed)
    (plain : PlainMarker scope.marker) {tokens expanded : List Text}
    (ok : scope.expandAll tokens = .ok expanded) :
    ∀ token ∈ expanded, Settled scope.marker token := by
  refine forall_mem_expandAll (fun token _ here expandedHere word inHere => ?_) ok
  rcases expand_cases expandedHere with
    ⟨name, value, _, found, rfl⟩ | ⟨key, half, name, value, without, rfl, unmarked, _, found, rfl⟩ |
      ⟨settled, rfl⟩
  · -- The tokens of a stored value are settled because the scope is closed.
    exact (closed name value found).2 word inHere
  · -- The key opens no reference, and the value that took the place of its half opens none.
    obtain rfl := List.mem_singleton.1 inHere
    refine ⟨?_, fun newHalf cut => ?_⟩
    · have front := (settled_key without unmarked).1
      have whole : Text.after? scope.marker ((key ++ ['=']) ++ value) = none :=
        plain.after?_append (Or.inl (by simp)) front
      simpa using whole
    · rw [Text.cut_append without] at cut
      exact Option.some.inj cut ▸ (closed name value found).1
  · obtain rfl := List.mem_singleton.1 inHere
    exact settled

/-- In a closed scope, splitting an expanded token again gives settled tokens. -/
theorem Closed.expandAll_split_settled {scope : Scope} (closed : scope.Closed)
    (plain : PlainMarker scope.marker) {text : Text} {expanded : List Text}
    (ok : scope.expandAll (Token.split text) = .ok expanded) :
    ∀ word ∈ expanded, ∀ token ∈ Token.split word, Settled scope.marker token := by
  refine forall_mem_expandAll (fun token member here expandedHere word inHere => ?_) ok
  -- A token that is split again is the only token in it.
  have alone : ∀ {source : Text}, word ∈ Token.split source → Token.split word = [word] :=
    fun inSplit => Token.split_of_solid (Token.mem_split inSplit).1 (Token.mem_split inSplit).2
  rcases expand_cases expandedHere with
    ⟨name, value, _, found, rfl⟩ | ⟨key, half, name, value, without, rfl, unmarked, _, found, rfl⟩ |
      ⟨settled, rfl⟩
  · rw [alone inHere]
    simpa using (closed name value found).2 word inHere
  · -- The key and the value that took the place of its half meet at the equals sign.
    obtain rfl := List.mem_singleton.1 inHere
    have solid : Solid (key ++ ['=']) := by
      intro c inKey
      have inToken : c ∈ key ++ '=' :: half := by
        rcases List.mem_append.1 inKey with front | sign
        · exact List.mem_append_left _ front
        · simp [List.mem_singleton.1 sign]
      exact (Token.mem_split member).2 c inToken
    have keyToken : Token.split (key ++ ['=']) = [key ++ ['=']] :=
      Token.split_of_solid (by simp) solid
    refine Settled.meet plain (Token.meet_equals key value) ?_ (closed name value found).2
    rw [keyToken]
    simpa using settled_key without unmarked
  · obtain rfl := List.mem_singleton.1 inHere
    rw [alone member]
    simpa using settled

/-- Joining words whose tokens are settled makes a text whose tokens are settled. -/
theorem joinWords_settled (plain : PlainMarker marker) {list : List Text}
    (trimmed : ∀ word ∈ list, Trimmed word)
    (settled : ∀ word ∈ list, ∀ token ∈ Token.split word, Settled marker token) :
    ∀ token ∈ Token.split (Text.joinWords list), Settled marker token := by
  -- The induction takes the words from the left, so the first space is the one to look at.
  induction list with
  | nil =>
    intro token member
    exact absurd member List.not_mem_nil
  | cons word rest ih =>
    obtain ⟨trimmedHere, trimmedRest⟩ := List.forall_mem_cons.1 trimmed
    obtain ⟨settledHere, settledRest⟩ := List.forall_mem_cons.1 settled
    cases rest with
    | nil => exact settledHere
    | cons next others =>
      -- The first word and all others meet at one space.
      have opens : OpensSolid (Text.joinWords (next :: others)) :=
        Text.joinWords_opensSolid (trimmedRest next (by simp)).1
      exact Settled.meet plain (Token.meet_space trimmedHere.2 opens) settledHere
        (ih trimmedRest settledRest)

/-- A plain marker that opens a text opens the first of its tokens. -/
theorem PlainMarker.after?_eq_none (plain : PlainMarker marker) {text : Text}
    (settled : ∀ token ∈ Token.split text, Settled marker token) :
    Text.after? marker text = none := by
  rw [Text.after?_eq_none_iff]
  rintro nonempty ⟨rest, rfl⟩
  -- The marker would open the first token as well, which is settled.
  obtain ⟨token, others, tokens, opens⟩ := Token.split_opens nonempty plain rest
  have unopened := (settled token (by simp [tokens])).1
  exact Text.after?_eq_none_iff.1 unopened nonempty opens

/-- A resolved value is unopened and its tokens are settled, so one more keeps a scope closed. -/
theorem Closed.resolve {scope : Scope} (closed : scope.Closed) (anchored : scope.Anchored)
    (plain : PlainMarker scope.marker) {value stored : Text}
    (resolved : scope.resolve value = .ok stored) :
    Text.after? scope.marker stored = none ∧
      ∀ token ∈ Token.split stored, Settled scope.marker token := by
  rcases resolve_cases resolved with ⟨name, _, found⟩ | ⟨_, expanded, ok, kept | rejoined⟩
  · -- A reference takes over a value that is already known to be closed.
    exact closed name stored found
  · -- Where nothing changed, the expanded tokens are those of the value itself.
    obtain ⟨same, rfl⟩ := kept
    have settled : ∀ token ∈ Token.split stored, Settled scope.marker token :=
      same ▸ closed.expandAll_settled plain ok
    exact ⟨plain.after?_eq_none settled, settled⟩
  · -- The joined text has the expanded tokens, or some that are glued from them.
    obtain ⟨_, rfl⟩ := rejoined
    have settled := joinWords_settled plain (anchored.expandAll_trimmed ok)
      (closed.expandAll_split_settled plain ok)
    exact ⟨plain.after?_eq_none settled, settled⟩

/-- Every reachable scope with a plain marker is closed. -/
theorem Reachable.closed (plain : PlainMarker marker) {scope : Scope}
    (reachable : Reachable marker scope) : scope.Closed := by
  refine reachable.rec_declareAs (motive := Closed) ?_ ?_
  · intro name value found
    simp [find?] at found
  · intro scope declaration text stored before closed _ resolved name value found
    have plainHere : PlainMarker scope.marker := before.marker_eq ▸ plain
    rw [find?_bind] at found
    split at found
    · -- The new value is closed because it was resolved.
      obtain rfl := Option.some.inj found
      exact closed.resolve before.anchored plainHere resolved
    · exact closed name value found

/--
Expanding never leaves a reference, whatever was declared before.

A stored value does not start with the marker, and its tokens expand to themselves.
So does every row of tokens that has been expanded once.
-/
theorem expandAll_leaves_no_reference (plain : PlainMarker marker) {scope : Scope}
    (reachable : Reachable marker scope) :
    (∀ name value, scope.find? name = some value →
      (marker ≠ [] → ¬ marker <+: value) ∧
        scope.expandAll (Token.split value) = .ok (Token.split value)) ∧
    ∀ tokens expanded, scope.expandAll tokens = .ok expanded →
      scope.expandAll expanded = .ok expanded := by
  have sameMarker : scope.marker = marker := reachable.marker_eq
  have closed : scope.Closed := reachable.closed plain
  constructor
  · -- A stored value has settled tokens, which expand to themselves.
    intro name value found
    obtain ⟨unopened, settled⟩ := closed name value found
    rw [sameMarker] at unopened
    exact ⟨Text.after?_eq_none_iff.1 unopened, expandAll_of_settled settled⟩
  · -- So has whatever tokens expand to, since the scope is closed.
    intro tokens expanded ok
    exact expandAll_of_settled (closed.expandAll_settled (sameMarker ▸ plain) ok)

/-- A half that took over two words, before one more word, leaves no reference either. -/
theorem expandAll_leaves_no_reference_half :
    PlainMarker ['@'] ∧
      Reachable ['@'] { marker := ['@'], bindings :=
        [("n".toList, "k=x y z".toList), ("a".toList, "x y".toList)] } ∧
      ({ marker := ['@'], bindings :=
        [("n".toList, "k=x y z".toList), ("a".toList, "x y".toList)] } : Scope).expandAll
          (Token.split "k=x y z".toList) = .ok (Token.split "k=x y z".toList) := by
  -- The first variable has a value of two words, and the second one takes it over.
  have one : Reachable ['@'] { marker := ['@'], bindings := [("a".toList, "x y".toList)] } :=
    .declare .empty (show Scope.declare _ "a=x y".toList = .ok _ from rfl)
  have two : Reachable ['@'] { marker := ['@'], bindings :=
      [("n".toList, "k=x y z".toList), ("a".toList, "x y".toList)] } :=
    .declareBare one (show Scope.declareBare _ "n = k =@a z".toList = .ok _ from rfl)
  exact ⟨plainMarker_default, two,
    ((expandAll_leaves_no_reference plainMarker_default two).1 "n".toList _ rfl).2⟩

end OverlaySheet.Scope
