import OverlaySheet.Proofs.Sheet.Settled

/-! When a variable expands to the tokens that its declared text has where it stands on a line. -/

namespace OverlaySheet

open Text (OpensSolid EndsSolid Solid Trimmed isBlank)

/-- Tokens that joining keeps apart: none has a blank, and no two neighbours meet at a sign. -/
structure Token.Separate (tokens : List Text) : Prop where
  solid : ∀ token ∈ tokens, Solid token
  unsigned : tokens.IsChain fun left right =>
    left.getLast? ≠ some '=' ∧ right.head? ≠ some '='

/-- Joined words start as the first of them does. -/
theorem Text.head?_joinWords {word : Text} (rest : List Text) (opens : OpensSolid word) :
    (Text.joinWords (word :: rest)).head? = word.head? := by
  obtain ⟨c, tail, rfl, _⟩ := opens
  -- Whatever comes behind the first word, the joined text starts with its first character.
  cases rest <;> rfl

namespace Token

/-- Joining words without blanks makes no more tokens than there are words. -/
theorem length_split_joinWords_le {list : List Text} (trimmed : ∀ word ∈ list, Trimmed word)
    (solid : ∀ word ∈ list, Solid word) :
    (split (Text.joinWords list)).length ≤ list.length := by
  induction list with
  | nil => exact Nat.le_refl 0
  | cons word rest ih =>
    obtain ⟨trimmedHere, trimmedRest⟩ := List.forall_mem_cons.1 trimmed
    obtain ⟨solidHere, solidRest⟩ := List.forall_mem_cons.1 solid
    have alone : split word = [word] := split_of_solid trimmedHere.1.ne_nil solidHere
    cases rest with
    | nil => simp [Text.joinWords, alone]
    | cons next others =>
      have shorter := ih trimmedRest solidRest
      have opens : OpensSolid (Text.joinWords (next :: others)) :=
        Text.joinWords_opensSolid (trimmedRest next (by simp)).1
      have meet := meet_space trimmedHere.2 opens
      -- One more word adds one token at the most, and none where it is glued.
      rw [alone] at meet
      simp only [List.length_cons] at shorter ⊢
      rw [Text.joinWords_cons (by simp)]
      generalize split (word ++ ' ' :: Text.joinWords (next :: others)) = joined at meet ⊢
      cases meet with
      -- Nothing is glued, so the tokens on both sides add up.
      | apart =>
        simp only [List.length_append, List.length_singleton]
        omega
      -- One token on each side is used up by the glued one.
      | @glued before after last first form rightForm _ =>
        have lengths := congrArg List.length form
        rw [rightForm, List.length_cons] at shorter
        simp only [List.length_append, List.length_cons] at lengths ⊢
        omega

/-- Splitting joined words gives them back exactly when they were separate. -/
theorem split_joinWords_eq_iff {list : List Text} (trimmed : ∀ word ∈ list, Trimmed word) :
    split (Text.joinWords list) = list ↔ Separate list := by
  constructor
  · intro same
    -- Tokens never hold a blank.
    have solid : ∀ word ∈ list, Solid word := by
      intro word member
      rw [← same] at member
      exact (mem_split member).2
    -- The induction compares the first word, since a blank between two words parts them unless a
    -- sign is near.
    refine ⟨solid, ?_⟩
    induction list with
    | nil => exact .nil
    | cons word rest ih =>
      obtain ⟨trimmedHere, trimmedRest⟩ := List.forall_mem_cons.1 trimmed
      obtain ⟨solidHere, solidRest⟩ := List.forall_mem_cons.1 solid
      cases rest with
      | nil => exact .singleton word
      | cons next others =>
        have opens : OpensSolid (Text.joinWords (next :: others)) :=
          Text.joinWords_opensSolid (trimmedRest next (by simp)).1
        have sameHead := Text.head?_joinWords others (trimmedRest next (by simp)).1
        have alone : split word = [word] := split_of_solid trimmedHere.1.ne_nil solidHere
        rw [Text.joinWords_cons (by simp)] at same
        by_cases sign : word.getLast? = some '=' ∨ next.head? = some '='
        · -- A glued token would leave fewer tokens than there are words.
          obtain ⟨before, last, first, after, leftTokens, rightTokens, joined, _⟩ :=
            split_append_glued trimmedHere.2 opens (sameHead ▸ sign)
          have fewer := length_split_joinWords_le trimmedRest solidRest
          rw [alone] at leftTokens
          have lengthsLeft := congrArg List.length leftTokens
          have lengthsJoined := congrArg List.length (joined.symm.trans same)
          rw [rightTokens] at fewer
          simp only [List.length_append, List.length_cons, List.length_nil] at *
          omega
        · -- Without a sign at the space, the first word is the first token.
          obtain ⟨noneBefore, noneAfter⟩ := not_or.1 sign
          have apart := split_append_apart trimmedHere.2 opens noneBefore (sameHead ▸ noneAfter)
          rw [apart, alone] at same
          have sameRest := (List.cons.inj same).2
          exact .cons_cons ⟨noneBefore, noneAfter⟩ (ih trimmedRest sameRest solidRest)
  · -- Separate words are given back one by one, each as the first token of what is left.
    intro separate
    obtain ⟨solid, unsigned⟩ := separate
    induction list with
    | nil => rfl
    | cons word rest ih =>
      obtain ⟨trimmedHere, trimmedRest⟩ := List.forall_mem_cons.1 trimmed
      obtain ⟨solidHere, solidRest⟩ := List.forall_mem_cons.1 solid
      have alone : split word = [word] := split_of_solid trimmedHere.1.ne_nil solidHere
      cases rest with
      | nil => exact alone
      | cons next others =>
        obtain ⟨⟨noneBefore, noneAfter⟩, later⟩ := List.isChain_cons_cons.1 unsigned
        have opens : OpensSolid (Text.joinWords (next :: others)) :=
          Text.joinWords_opensSolid (trimmedRest next (by simp)).1
        have sameHead := Text.head?_joinWords others (trimmedRest next (by simp)).1
        rw [Text.joinWords_cons (by simp),
          split_append_apart trimmedHere.2 opens noneBefore (sameHead ▸ noneAfter), alone,
          ih trimmedRest solidRest later, List.singleton_append]

end Token

namespace Scope

/-- The characters of joined words are those of the words, spaces apart. -/
@[simp] theorem filter_joinWords (list : List Text) :
    (Text.joinWords list).filter (fun c => !isBlank c) =
      list.flatten.filter fun c => !isBlank c := by
  have space : isBlank ' ' = true := by decide
  induction list with
  | nil => rfl
  | cons word rest ih =>
    cases rest with
    | nil => simp [Text.joinWords]
    | cons next others =>
      -- The space is the only character that joining adds, and the filter takes it away.
      rw [Text.joinWords_cons (by simp), List.filter_append, List.filter_cons, ih]
      simp [space]

/-- A reference with nothing else in it is one token. -/
theorem split_reference {marker name : Text} (plain : PlainMarker marker) (nonempty : marker ≠ [])
    (isName : Declaration.IsName name) : Token.split (marker ++ name) = [marker ++ name] := by
  -- A reference holds no blank, as neither the marker nor a name does.
  refine Token.split_of_solid (by simp [nonempty]) fun c member => ?_
  rcases List.mem_append.1 member with inMarker | inName
  · exact (plain c inMarker).1
  · exact isName.solid c inName

/--
A declared text is stored with the tokens that it has on a line, up to where they are joined.

It is joined unless it is itself a reference or expanding leaves it as it is.
-/
theorem Reachable.resolve_inline {marker : Text} (plain : PlainMarker marker) {scope : Scope}
    (reachable : Reachable marker scope) {value stored : Text}
    (resolved : scope.resolve value = .ok stored) :
    ∃ inline, scope.expandAll (Token.split value) = .ok inline ∧
      ((∃ name, value = marker ++ name ∧ scope.find? name = some stored) ∨
        inline = Token.split value ∧ stored = value ∨ stored = Text.joinWords inline) ∧
      (Token.split stored = inline ↔
        (∃ name, value = marker ++ name ∧ scope.find? name = some stored) ∨
          inline = Token.split value ∨ Token.Separate inline) ∧
      (Token.split stored).flatten = inline.flatten.filter fun c => !isBlank c := by
  have sameMarker : scope.marker = marker := reachable.marker_eq
  rcases resolve_cases resolved with ⟨name, refers, found⟩ | ⟨unfound, inline, ok, kept | rejoined⟩
  · -- The value is one reference token, which expands to the tokens of what it names.
    obtain ⟨nonempty, rfl⟩ := Text.after?_eq_some_iff.1 refers
    have isName := (reachable.anchored name stored found).1
    have expanded : scope.expand (scope.marker ++ name) = .ok (Token.split stored) :=
      expand_reference refers found
    have isReference : ∃ other, scope.marker ++ name = marker ++ other ∧
        scope.find? other = some stored := ⟨name, by rw [sameMarker], found⟩
    refine ⟨Token.split stored, ?_, .inl isReference, iff_of_true rfl (.inl isReference),
      (Token.filter_flatten_split stored).symm⟩
    rw [split_reference (sameMarker ▸ plain) nonempty isName]
    exact expandAll_cons_eq_ok_iff.2 ⟨Token.split stored, [], expanded, rfl, by simp⟩
  · -- Nothing was replaced, so the text is stored as it was written.
    obtain ⟨rfl, rfl⟩ := kept
    exact ⟨Token.split stored, ok, .inr (.inl ⟨rfl, rfl⟩), iff_of_true rfl (.inr (.inl rfl)),
      (Token.filter_flatten_split stored).symm⟩
  · obtain ⟨changed, rfl⟩ := rejoined
    refine ⟨inline, ok, .inr (.inr rfl), ?_, by rw [Token.flatten_split, filter_joinWords]⟩
    -- Tokens that are joined come back exactly when they are separate.
    rw [Token.split_joinWords_eq_iff (reachable.anchored.expandAll_trimmed ok)]
    constructor
    · exact fun separate => Or.inr (Or.inr separate)
    · rintro (⟨name, rfl, found⟩ | same | separate)
      · -- A reference to a declared variable is not joined.
        by_cases nonempty : marker = []
        · subst nonempty
          have unmarked : ∀ token, scope.reference? token = none := fun token => by
            simp [reference?, sameMarker, Text.after?]
          refine absurd (Except.ok.inj (ok.symm.trans (expandAll_of_settled ?_))) changed
          exact fun token _ => ⟨unmarked token, fun half _ => unmarked half⟩
        · have refers : scope.reference? (marker ++ name) = some name :=
            Text.after?_eq_some_iff.2 ⟨sameMarker ▸ nonempty, by rw [sameMarker]⟩
          simp [unfound name refers] at found
      · exact absurd same changed
      · exact separate

/-- A token with a reference in its value half stands for one token, whatever it refers to. -/
theorem Reachable.expandAll_half {scope : Scope} (reachable : Reachable ['@'] scope)
    {key name held : Text} (solidKey : Solid key) (without : '=' ∉ key)
    (unmarked : key.head? ≠ some '@') (found : scope.find? name = some held) :
    Token.split (key ++ '=' :: '@' :: name) = [key ++ '=' :: '@' :: name] ∧
      scope.expandAll [key ++ '=' :: '@' :: name] = .ok [key ++ '=' :: held] := by
  have sameMarker : scope.marker = ['@'] := reachable.marker_eq
  have isName := (reachable.anchored name held found).1
  constructor
  · -- Neither the key nor the name has a blank.
    refine Token.split_of_solid (by simp) fun c member => ?_
    simp only [List.mem_append, List.mem_cons] at member
    rcases member with inKey | rfl | rfl | inName
    · exact solidKey c inKey
    · exact Token.isBlank_equals
    · decide
    · exact isName.solid c inName
  · -- The key does not start with the marker, so the token is no reference as a whole.
    have unopened : scope.reference? (key ++ '=' :: '@' :: name) = none := by
      rw [reference?, sameMarker, Text.after?_eq_none_iff]
      rintro _ ⟨rest, form⟩
      cases key with
      | nil => simp at form
      | cons c key => exact unmarked (by simpa using (List.cons.inj form).1.symm)
    have refers : scope.reference? ('@' :: name) = some name :=
      Text.after?_eq_some_iff.2 ⟨by simp [sameMarker], by simp [sameMarker]⟩
    exact expandAll_cons_eq_ok_iff.2
      ⟨_, [], expand_half without unopened refers found, rfl, by simp⟩

/--
When a variable stands for what its declared text stands for on a line.

What is stored is the value that a reference has, or the text as it was written, or the expanded
tokens joined with single spaces.
Both stand for the same unless tokens are joined and one of them has a blank, or two meet at a sign.
The characters that are no blanks are the same in every case.
A reference in a value half stays one argument exactly when its value has no blank.
-/
theorem declared_tokens_eq_inline_iff {scope next : Scope} (reachable : Reachable ['@'] scope)
    {name text : Text} (isName : Declaration.IsName name)
    (declared : scope.declare (name ++ '=' :: text) = .ok next) :
    ∃ value stored inline, Declaration.read? (name ++ '=' :: text) = some ⟨name, value⟩ ∧
      next.find? name = some stored ∧ scope.expandAll (Token.split text) = .ok inline ∧
      ((∃ referred, value = '@' :: referred ∧ scope.find? referred = some stored) ∨
        inline = Token.split text ∧ stored = value ∨ stored = Text.joinWords inline) ∧
      (Token.split stored = inline ↔
        (∃ referred, value = '@' :: referred ∧ scope.find? referred = some stored) ∨
          inline = Token.split text ∨ Token.Separate inline) ∧
      (Token.split stored).flatten = inline.flatten.filter (fun c => !isBlank c) ∧
      ∀ key referred held, Solid key → '=' ∉ key → key.head? ≠ some '@' →
        scope.find? referred = some held → text = key ++ '=' :: '@' :: referred →
        inline = [key ++ '=' :: held] ∧ (Token.split stored = inline ↔ Solid held) := by
  obtain ⟨⟨readName, value⟩, stored, read, resolved, rfl⟩ := declareAs_eq_ok_iff.1 declared
  obtain ⟨sameName, sameTokens⟩ := Declaration.read?_name_equals isName read
  dsimp only at sameName sameTokens resolved
  subst sameName
  obtain ⟨inline, expanded, kinds, same, characters⟩ :=
    reachable.resolve_inline plainMarker_default resolved
  rw [sameTokens] at expanded kinds same
  refine ⟨value, stored, inline, read, by simp, expanded, kinds, same, characters, ?_⟩
  rintro key referred held solidKey without unmarked found rfl
  -- A half on its own is one token, whatever its value is.
  obtain ⟨alone, half⟩ := reachable.expandAll_half solidKey without unmarked found
  rw [alone] at expanded same sameTokens
  obtain rfl := Except.ok.inj (expanded.symm.trans half)
  refine ⟨rfl, same.trans ?_⟩
  constructor
  · rintro (⟨other, isReference, _⟩ | unchanged | separate)
    · -- A value that is a reference as a whole starts with the marker, and so would the key.
      obtain ⟨token, others, tokens, rest, form⟩ :=
        Token.split_opens (by simp) plainMarker_default other
      rw [isReference, tokens] at sameTokens
      obtain rfl := (List.cons.inj sameTokens).1
      cases key with
      | nil => simp at form
      | cons c key => exact absurd (by simpa using (List.cons.inj form).1.symm) unmarked
    · -- A stored value does not start with the marker, so it is not the reference itself.
      have unopened := (reachable.closed plainMarker_default referred held found).1
      rw [reachable.marker_eq, Text.after?_eq_none_iff] at unopened
      have isReference : held = '@' :: referred := by simpa using unchanged
      exact absurd ⟨referred, isReference.symm⟩ (unopened (by simp))
    · -- A separate token has no blank, and the value is a part of it.
      intro c member
      exact separate.solid _ (List.mem_singleton_self _) c (by simp [member])
  · -- One token without a blank is separate.
    intro solidHeld
    refine Or.inr (Or.inr ⟨?_, .singleton _⟩)
    simp only [List.forall_mem_singleton]
    intro c member
    simp only [List.mem_append, List.mem_cons] at member
    rcases member with inKey | rfl | inHeld
    · exact solidKey c inKey
    · exact Token.isBlank_equals
    · exact solidHeld c inHeld

/-- A scope with one value, which has two words. -/
theorem reachable_two_words :
    Reachable ['@'] { marker := ['@'], bindings := [("a".toList, "x y".toList)] } :=
  .declare .empty (show ({ marker := ['@'] } : Scope).declare "a=x y".toList = .ok _ from rfl)

/-- A value half that refers to two words is one argument on a line, but two through a variable. -/
theorem declared_tokens_eq_inline_iff_two_words :
    ∃ next stored inline,
      ({ marker := ['@'], bindings := [("a".toList, "x y".toList)] } : Scope).declare
        "n=k=@a".toList = .ok next ∧
      next.find? "n".toList = some stored ∧ inline = ["k=x y".toList] ∧
      (Token.split stored = inline ↔ Solid "x y".toList) := by
  have isName : Declaration.IsName "n".toList := by decide
  -- The variable is undeclared until the line is read, and its value is the half that it refers to.
  obtain ⟨value, stored, inline, _, found, _, _, _, _, half⟩ :=
    declared_tokens_eq_inline_iff reachable_two_words isName
      (show Scope.declare _ ("n".toList ++ '=' :: "k=@a".toList) = .ok _ from rfl)
  -- The half is no single word, so the two readings differ.
  obtain ⟨single, same⟩ := half "k".toList "a".toList "x y".toList (by decide) (by decide)
    (by decide) (by rfl) (by rfl)
  exact ⟨_, stored, inline, rfl, found, single, same⟩

/-- It is false that a variable always stands for what its declared text stands for on a line. -/
theorem declared_tokens_not_always_inline :
    ¬ ∀ (scope next : Scope) (name text : Text), Reachable ['@'] scope →
      Declaration.IsName name → scope.declare (name ++ '=' :: text) = .ok next →
      ∃ stored inline, next.find? name = some stored ∧
        scope.expandAll (Token.split text) = .ok inline ∧ Token.split stored = inline := by
  intro always
  obtain ⟨stored, inline, found, ok, same⟩ :=
    always _ _ "n".toList "k=@a".toList reachable_two_words (by decide) rfl
  -- The stored text is split at its space, while the token on the line holds it.
  obtain rfl : "k=x y".toList = stored := Option.some.inj found
  obtain rfl : ["k=x y".toList] = inline := Except.ok.inj ok
  exact absurd same (by decide)

end Scope

end OverlaySheet
