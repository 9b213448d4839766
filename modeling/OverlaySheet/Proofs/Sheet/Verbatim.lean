import OverlaySheet.Proofs.Sheet.Reference
import OverlaySheet.Proofs.Sheet.Settled

/-! Values of variables come to a block character for character. -/

namespace OverlaySheet

open Text (IsWord Solid Trimmed)

/-- An argument has nothing in front of its first equals sign. -/
def Fault.emptyKey (token : Text) : Fault :=
  .malformedLayer s!"argument '{String.ofList token}' has an empty key"

/-- A token without a key is no argument. -/
theorem Token.toArgument_of_not_hasKey {token : Text} (noKey : ¬ HasKey token) :
    toArgument token = .error (.emptyKey token) := by
  -- An empty key is refused before a value is looked for.
  rw [HasKey, not_not] at noKey
  simp only [toArgument, noKey, List.isEmpty_nil, if_true, Fault.emptyKey]

/-- Of some tokens the first one without a key is refused. -/
theorem Block.pushTokens_emptyKey {front behind : List Text} {token : Text}
    (haveKeys : ∀ before ∈ front, Token.HasKey before) (noKey : ¬ Token.HasKey token)
    (block : Block) :
    pushTokens .lastWins block (front ++ token :: behind) = .error (.emptyKey token) := by
  induction front generalizing block with
  | nil =>
    rw [List.nil_append, pushTokens_cons, pushToken, Token.toArgument_of_not_hasKey noKey]
    rfl
  | cons first front ih =>
    obtain ⟨hasKey, others⟩ := List.forall_mem_cons.1 haveKeys
    -- The first token has a key, so it is pushed, and the others come next.
    have pushed : pushToken .lastWins block first = .ok (block.push (Token.argument first)) :=
      pushToken_eq_ok_iff.2 ⟨hasKey, by simp, rfl⟩
    rw [List.cons_append, pushTokens_cons, pushed]
    exact ih others _

/-- A word, a sign and a value make a block of one argument, whatever the value holds. -/
theorem Block.pushTokens_half {key : Text} (isWord : IsWord key) (value : Text)
    (layerType : String) :
    pushTokens .lastWins { layerType } [key ++ '=' :: value] =
      .ok ⟨layerType, [⟨String.ofList key, some (String.ofList value)⟩]⟩ := by
  -- No sign is in the key, so the first one is the one behind it.
  have cut : Text.cut '=' (key ++ '=' :: value) = (key, some value) :=
    Text.cut_append isWord.plain value
  have hasKey : Token.HasKey (key ++ '=' :: value) := by
    rw [Token.HasKey, cut]
    exact isWord.nonempty
  refine pushTokens_lastWins_eq_ok_iff.2 ⟨List.forall_mem_singleton.2 hasKey, ?_⟩
  simp [Token.argument, cut]

/-- The declaration that a line carries out where it stands before the first block. -/
def Line.declared? : Line → Option Declaration
  | .declaration text | .content text false => Declaration.read? text
  | _ => none

/--
A text that can be declared as it stands.

It is one line without blanks around it, and none of its tokens refers to anything.
-/
structure Text.IsVerbatim (value : Text) : Prop where
  trimmed : Trimmed value
  oneLine : '\n' ∉ value
  settled : ∀ token ∈ Token.split value, Scope.Settled ['@'] token

/-- A word that is a header when it stands alone at the margin. -/
structure Text.IsHeader (layerType : Text) : Prop where
  atMargin : Line.ofText {} layerType = .content layerType false
  single : Token.split layerType = [layerType]
  plain : '=' ∉ layerType

/-- A declaration as it is written with some blanks before and after its equals sign. -/
def Declaration.spaced (declaration : Declaration) (before after : Text) : Text :=
  declaration.name ++ (before ++ '=' :: (after ++ declaration.value))

section Declared

variable {declaration : Declaration} {before after : Text}

/-- A verbatim value that is declared with ASCII blanks around the sign is read as it stands. -/
theorem Declaration.read?_spaced (isName : IsName declaration.name)
    (verbatim : declaration.value.IsVerbatim)
    (blankBefore : ∀ c ∈ before, Text.isAsciiBlank c = true)
    (blankAfter : ∀ c ∈ after, Text.isAsciiBlank c = true) :
    read? (declaration.spaced before after) = some declaration :=
  read?_eq_some_iff.2
    (written_of_trimmed isName verbatim.trimmed verbatim.oneLine blankBefore blankAfter)

/-- Behind the marker such a line is a declaration. -/
theorem Line.ofText_spaced (verbatim : declaration.value.IsVerbatim) :
    ofText {} ('@' :: declaration.spaced before after) =
      .declaration (declaration.spaced before after) := by
  -- The line starts with the marker and ends with the value, and both ends are solid.
  have trimmed : Trimmed ('@' :: declaration.spaced before after) := by
    refine ⟨⟨'@', _, rfl, by decide⟩, ?_⟩
    have whole := verbatim.trimmed.2.append ('@' :: (declaration.name ++ (before ++ '=' :: after)))
    simpa [Declaration.spaced] using whole
  refine ofText_declaration Grammar.marked_default trimmed fun name differ opens => ?_
  -- The other two markers start with other characters.
  cases name with
  | declaration => exact differ rfl
  | title =>
    have first := (List.cons_prefix_cons.1 (show ['#'] <+: _ from opens)).1
    exact absurd first (by decide)
  | comment =>
    have first := (List.cons_prefix_cons.1 (show ['/', '/'] <+: _ from opens)).1
    exact absurd first (by decide)

/-- A verbatim value is stored as it stands, whatever has been declared. -/
theorem Scope.resolve_verbatim {scope : Scope} (marker : scope.marker = ['@']) {value : Text}
    (verbatim : value.IsVerbatim) : scope.resolve value = .ok value := by
  -- No token of the value refers, so the value as a whole does not.
  refine resolve_of_settled ?_ (marker.symm ▸ verbatim.settled)
  rw [marker]
  exact plainMarker_default.after?_eq_none verbatim.settled

end Declared

namespace Text.IsHeader

variable {layerType token : Text} (isHeader : layerType.IsHeader)

include isHeader

/-- A type has no blank, since it is one token. -/
theorem solid : layerType ≠ [] ∧ Solid layerType := by
  -- The type is a token of itself.
  have member : layerType ∈ Token.split layerType := by simp [isHeader.single]
  exact Token.mem_split member

/-- No marker opens a type, or the line of it alone would not be content. -/
theorem unopened (name : MarkerName) : ¬ Grammar.Opens {} name layerType := by
  -- The line of the type alone was content, and so the tests for markers have failed on it.
  obtain ⟨_, _, uncommented, _, atMargin⟩ := Line.ofText_eq_content_iff.1 isHeader.atMargin
  obtain ⟨undeclared, untitled⟩ := Line.marked?_eq_none_iff.1 (atMargin rfl)
  rw [← Grammar.marked_default.after?_eq_none_iff]
  cases name with
  | declaration => exact undeclared
  | title => exact untitled
  | comment => exact uncommented

/-- A type refers to nothing. -/
theorem settled : Scope.Settled ['@'] layerType :=
  Scope.settled_of_plain
    ((Grammar.marked_default.after?_eq_none_iff .declaration _).2 (isHeader.unopened _))
    isHeader.plain

/-- A type and a word behind it are two tokens when the word does not start with a sign. -/
theorem split_behind (nonempty : token ≠ []) (solid : Solid token)
    (unsigned : token.head? ≠ some '=') :
    Token.split (layerType ++ ' ' :: token) = [layerType, token] := by
  -- A sign at the end of the type would be a value in it.
  have noneBefore : layerType.getLast? ≠ some '=' := fun last =>
    isHeader.plain (List.mem_of_getLast? last)
  exact Token.split_pair isHeader.solid.1 isHeader.solid.2 nonempty solid noneBefore unsigned

end Text.IsHeader

/-- The overlays of a run behind one more block, with which the lines end. -/
def Run.endWith {Layer : Type} (run : Run Layer) (current : OpenBlock Layer) :
    Except Fault (List (Overlay Layer)) :=
  current.build.map fun layer => Overlay.pushLast layer run.overlays

namespace Dialect

variable {Layer : Type} {dialect : Dialect Layer} {run last : Run Layer} {number : Nat}

/-- Before the first block, a verbatim value is declared. -/
theorem readLine_spaced (standard : dialect.grammar = {}) (marker : run.scope.marker = ['@'])
    (preamble : run.phase = .preamble) {declaration : Declaration} {before after : Text}
    (isName : Declaration.IsName declaration.name) (verbatim : declaration.value.IsVerbatim)
    (blankBefore : ∀ c ∈ before, Text.isAsciiBlank c = true)
    (blankAfter : ∀ c ∈ after, Text.isAsciiBlank c = true) :
    dialect.readLine number run ('@' :: declaration.spaced before after) =
      .ok { run with scope := run.scope.bind declaration.name declaration.value } := by
  -- The text is well formed, its value is settled, and so both are bound as they stand.
  have declared : run.scope.declare (declaration.spaced before after) =
      .ok (run.scope.bind declaration.name declaration.value) :=
    Scope.declareAs_eq_ok_iff.2 ⟨declaration, declaration.value,
      Declaration.read?_spaced isName verbatim blankBefore blankAfter,
      Scope.resolve_verbatim marker verbatim, rfl⟩
  rw [readLine, standard, Line.ofText_spaced verbatim, step, preamble, declared]
  rfl

/-- A line that does not declare a name leaves its value as it is. -/
theorem find?_of_step {next : Run Layer} {line : Line} {name : Text}
    (stepped : dialect.step number run line = .ok next)
    (others : ∀ other, line.declared? = some other → other.name ≠ name) :
    next.scope.find? name = run.scope.find? name := by
  -- A declaration binds the name that it is read with, which is another one.
  have kept : ∀ written text, line.declared? = Declaration.read? text →
      run.scope.declareAs written text = .ok next.scope →
      next.scope.find? name = run.scope.find? name := by
    intro written text same declared
    obtain ⟨declaration, stored, read, _, bound⟩ := Scope.declareAs_eq_ok_iff.1 declared
    have differs := others declaration (same.trans read)
    rw [bound, Scope.find?_bind, if_neg differs.symm]
  rcases scope_of_step stepped with same | ⟨text, rfl, declared⟩ | ⟨text, rfl, declared⟩
  · rw [same]
  · exact kept _ text rfl declared
  · exact kept _ text rfl declared

/-- So do all lines of which none declares the name. -/
theorem find?_of_readLines {lines : List Text} {name : Text}
    (read : dialect.readLines number run lines = .ok last)
    (others : ∀ raw ∈ lines, ∀ other, (Line.ofText dialect.grammar raw).declared? = some other →
      other.name ≠ name) :
    last.scope.find? name = run.scope.find? name := by
  induction lines generalizing number run with
  | nil =>
    obtain rfl := Except.ok.inj read
    rfl
  | cons raw rest ih =>
    obtain ⟨here, there⟩ := List.forall_mem_cons.1 others
    obtain ⟨next, readHere, readRest⟩ := bind_eq_ok_iff.1 read
    -- The later lines keep what the first one has kept.
    rw [ih readRest there, find?_of_step (mapError_eq_ok_iff.1 readHere) here]

/-- In the default grammar references open with the default marker, whatever has been read. -/
theorem marker_of_readLines (standard : dialect.grammar = {}) {lines : List Text}
    (read : dialect.readLines 0 dialect.start lines = .ok last) : last.scope.marker = ['@'] := by
  -- Reading lines keeps the marker with which a run starts.
  have kept := (reachable_of_readLines read).marker_eq
  rwa [standard] at kept

/-- A run with an open block ends with the layer of that block. -/
theorem complete_inBlock (run : Run Layer) (current : OpenBlock Layer) :
    complete { run with phase := .inBlock current } = run.endWith current := by
  -- The builder decides, and the same layer or fault comes out of both.
  simp only [complete, endBlock, Run.endWith]
  cases current.build with
  | error fault => rfl
  | ok layer => rfl

section Header

variable {layerType token : Text} {tokens : List Text} {builder : Builder Layer}

/-- A registered type begins a block with the tokens behind it, if they can be pushed. -/
theorem beginBlock_of_registered (plain : '=' ∉ layerType)
    (registered : dialect.registry.find? (String.ofList layerType) = some builder) :
    dialect.beginBlock number (layerType :: tokens) =
      (Block.pushTokens dialect.grammar.duplicates { layerType := String.ofList layerType }
        tokens).map fun block => ⟨number, builder, block⟩ := by
  have noValue : Token.hasValue layerType = false := by simpa [Token.hasValue] using plain
  simp only [beginBlock, noValue, Bool.false_eq_true, if_false, registered]
  -- What is left is to push the tokens, which succeeds or fails on both sides.
  cases Block.pushTokens dialect.grammar.duplicates { layerType := String.ofList layerType }
    tokens with
  | error fault => rfl
  | ok block => rfl

/-- A last line of a type and a word begins the last block with what the word stands for. -/
theorem finish_header (standard : dialect.grammar = {}) (marker : run.scope.marker = ['@'])
    (preamble : run.phase = .preamble) (isHeader : layerType.IsHeader)
    (registered : dialect.registry.find? (String.ofList layerType) = some builder)
    (nonempty : token ≠ []) (solid : Solid token) (unsigned : token.head? ≠ some '=')
    (expanded : run.scope.expand token = .ok tokens) :
    dialect.finish number run [layerType ++ ' ' :: token] =
      ((Block.pushTokens .lastWins { layerType := String.ofList layerType } tokens).mapError
        (·.located number)).bind fun block => run.endWith ⟨number, builder, block⟩ := by
  have split := isHeader.split_behind nonempty solid unsigned
  have noValue : Token.leadsWithValue (layerType ++ ' ' :: token) = false := by
    simpa [Token.leadsWithValue, split, Token.hasValue] using isHeader.plain
  -- The type stands for itself, and the word for its tokens.
  have both : run.scope.expandAll [layerType, token] = .ok (layerType :: tokens) := by
    refine Scope.expandAll_cons_eq_ok_iff.2 ⟨[layerType], tokens,
      Scope.expand_of_settled (marker.symm ▸ isHeader.settled), ?_, rfl⟩
    exact Scope.expandAll_cons_eq_ok_iff.2 ⟨tokens, [], expanded, rfl, (List.append_nil _).symm⟩
  -- The line is a header, and what the tokens make is the outcome of the run.
  have begun := @beginBlock_of_registered _ dialect number _ tokens _ isHeader.plain registered
  rw [standard] at begun
  have content := Line.ofText_pair Grammar.marked_default isHeader.solid.1 isHeader.solid.2
    nonempty solid isHeader.unopened
  rw [finish, readLines, readLine, standard, content, step, preamble]
  simp only [noValue, Bool.not_false, Bool.and_false, Bool.false_eq_true, if_false, readHeader,
    split, both, begun, Bind.bind, Except.bind]
  cases Block.pushTokens .lastWins { layerType := String.ofList layerType } tokens with
  | error fault => rfl
  | ok block => exact complete_inBlock run ⟨number, builder, block⟩

/-- So does a header behind lines that leave the run before its first block. -/
theorem inflateLines_header (standard : dialect.grammar = {}) (isHeader : layerType.IsHeader)
    (registered : dialect.registry.find? (String.ofList layerType) = some builder)
    {lines : List Text} (read : dialect.readLines 0 dialect.start lines = .ok last)
    (preamble : last.phase = .preamble) (nonempty : token ≠ []) (solid : Solid token)
    (unsigned : token.head? ≠ some '=') (expanded : last.scope.expand token = .ok tokens) :
    dialect.inflateLines (lines ++ [layerType ++ ' ' :: token]) =
      ((Block.pushTokens .lastWins { layerType := String.ofList layerType } tokens).mapError
        (·.located lines.length)).bind fun block =>
          last.endWith ⟨lines.length, builder, block⟩ := by
  -- The lines in front are read first, and the header is the last of all lines.
  rw [inflateLines_eq_finish, finish_append_of_ok read, Nat.zero_add]
  exact finish_header standard (marker_of_readLines standard read) preamble isHeader registered
    nonempty solid unsigned expanded

end Header

/--
Behind some lines, the last block of a type gets the value of a variable character for character.

As the value half of an argument the value stays in one piece.
As a word of its own it becomes an argument for each of its tokens, unless one of them has no key.
-/
structure Delivers (dialect : Dialect Layer) (lines : List Text) (last : Run Layer)
    (builder : Builder Layer) (layerType : Text) (declaration : Declaration) : Prop where
  half : ∀ key, IsWord key → ¬ ['@'] <+: key →
    dialect.inflateLines
        (lines ++ [layerType ++ ' ' :: (key ++ '=' :: '@' :: declaration.name)]) =
      last.endWith ⟨lines.length, builder, ⟨String.ofList layerType,
        [⟨String.ofList key, some (String.ofList declaration.value)⟩]⟩⟩
  word : (∀ token ∈ Token.split declaration.value, Token.HasKey token) →
    dialect.inflateLines (lines ++ [layerType ++ ' ' :: '@' :: declaration.name]) =
      last.endWith ⟨lines.length, builder, ⟨String.ofList layerType,
        (Token.split declaration.value).map Token.argument⟩⟩
  keyless : ∀ front token behind, Token.split declaration.value = front ++ token :: behind →
    (∀ earlier ∈ front, Token.HasKey earlier) → ¬ Token.HasKey token →
      dialect.inflateLines (lines ++ [layerType ++ ' ' :: '@' :: declaration.name]) =
        .error ((Fault.emptyKey token).located lines.length)

section Delivery

variable {declaration : Declaration} {layerType : Text} {builder : Builder Layer}
  (standard : dialect.grammar = {}) (isName : Declaration.IsName declaration.name)
  (isHeader : layerType.IsHeader)
  (registered : dialect.registry.find? (String.ofList layerType) = some builder)

include standard isName isHeader registered

/-- What is found for a name behind some lines is delivered. -/
theorem delivers_of_find? {lines : List Text}
    (read : dialect.readLines 0 dialect.start lines = .ok last) (preamble : last.phase = .preamble)
    (found : last.scope.find? declaration.name = some declaration.value) :
    dialect.Delivers lines last builder layerType declaration := by
  -- Reading the lines has kept the marker, so a name behind it is a reference.
  have marker := marker_of_readLines standard read
  have refers : last.scope.reference? ('@' :: declaration.name) = some declaration.name := by
    rw [Scope.reference?, marker]
    rfl
  have solid : Solid ('@' :: declaration.name) := List.forall_mem_cons.2 ⟨by decide, isName.solid⟩
  -- A header with the reference alone gets the tokens of the value.
  have whole := inflateLines_header standard isHeader registered read preamble (by simp) solid
    (by simp) (Scope.expand_reference refers found)
  constructor
  · intro key isWord unopened
    obtain ⟨c, rest, same⟩ := List.exists_cons_of_ne_nil isWord.nonempty
    -- The key starts with neither the marker nor a sign.
    have unsigned : (key ++ '=' :: '@' :: declaration.name).head? ≠ some '=' := by
      intro sign
      have first : c = '=' := by simpa [same] using sign
      exact isWord.plain (by simp [same, first])
    have unmarked : last.scope.reference? (key ++ '=' :: '@' :: declaration.name) = none := by
      rw [Scope.reference?, marker]
      refine Text.after?_eq_none_iff.2 fun _ opens => unopened ?_
      simpa [same] using opens
    have solidToken : Solid (key ++ '=' :: '@' :: declaration.name) := by
      intro d member
      rcases List.mem_append.1 member with inKey | behind
      · exact isWord.solid d inKey
      · rcases List.mem_cons.1 behind with rfl | inReference
        · exact Token.isBlank_equals
        · exact solid d inReference
    rw [inflateLines_header standard isHeader registered read preamble (by simp) solidToken
      unsigned (Scope.expand_half isWord.plain unmarked refers found),
      Block.pushTokens_half isWord]
    rfl
  · -- The value as a word is cut into its tokens, and each of them makes an argument.
    intro haveKeys
    rw [whole, Block.pushTokens_lastWins_eq_ok_iff.2 ⟨haveKeys, rfl⟩]
    rfl
  · -- A token without a key ends the pushing with its own fault.
    intro front token behind split haveKeys noKey
    rw [whole, split, Block.pushTokens_emptyKey haveKeys noKey]
    rfl

/--
The value of a variable comes to the block behind it character for character.

It is the value of the last declaration of its name, which may stand between others.
-/
theorem inflateLines_verbatim (verbatim : declaration.value.IsVerbatim)
    {gapBefore gapBehind : Text} (blankBefore : ∀ c ∈ gapBefore, Text.isAsciiBlank c = true)
    (blankBehind : ∀ c ∈ gapBehind, Text.isAsciiBlank c = true)
    {before : List Text} (readBefore : dialect.readLines 0 dialect.start before = .ok run)
    (preamble : run.phase = .preamble) :
    ∃ next, dialect.readLine before.length run
        ('@' :: declaration.spaced gapBefore gapBehind) = .ok next ∧ next.phase = .preamble ∧
      ∀ after last, dialect.readLines (before.length + 1) next after = .ok last →
        last.phase = .preamble →
        (∀ raw ∈ after, ∀ other, (Line.ofText {} raw).declared? = some other →
          other.name ≠ declaration.name) →
        dialect.Delivers (before ++ ('@' :: declaration.spaced gapBefore gapBehind) :: after) last
          builder layerType declaration := by
  have marker := marker_of_readLines standard readBefore
  have readHere : dialect.readLine before.length run
      ('@' :: declaration.spaced gapBefore gapBehind) =
        .ok { run with scope := run.scope.bind declaration.name declaration.value } :=
    readLine_spaced standard marker preamble isName verbatim blankBefore blankBehind
  refine ⟨_, readHere, preamble, fun after last readAfter preambleLast others => ?_⟩
  have read : dialect.readLines 0 dialect.start
      (before ++ ('@' :: declaration.spaced gapBefore gapBehind) :: after) = .ok last := by
    rw [readLines_append_of_ok readBefore, Nat.zero_add, readLines_cons_of_ok readHere, readAfter]
  refine delivers_of_find? standard isName isHeader registered read preambleLast ?_
  -- No line behind the declaration takes the name, so it still has the value.
  rw [find?_of_readLines readAfter (standard ▸ others), Scope.find?_bind, if_pos rfl]

end Delivery

/-- A value with a sign between spaces keeps them, though its name was declared before. -/
theorem inflateLines_verbatim_sign :
    let sheet := fun header => ["@n=1", "@n \t= a = b  c", "@m=@n", header].map String.toList
    (echoing "@" "fill").inflateLines (sheet "fill k=@n") =
        .ok [{ layers := [⟨"fill", [⟨"k", some "a = b  c"⟩]⟩] }] ∧
      (echoing "@" "fill").inflateLines (sheet "fill @n") =
        .ok [{ layers := [⟨"fill", [⟨"a", some "b"⟩, ⟨"c", none⟩]⟩] }] := by
  -- The value has a sign between spaces and then two spaces, all of which are to be kept.
  intro sheet
  have tokens : Token.split "a = b  c".toList = ["a=b".toList, "c".toList] := by decide
  have verbatim : Text.IsVerbatim
      (⟨"n".toList, "a = b  c".toList⟩ : Declaration).value := by
    refine ⟨⟨⟨'a', _, rfl, by decide⟩, ⟨"a = b  ".toList, 'c', rfl, by decide⟩⟩, by decide, ?_⟩
    simp only [tokens, List.forall_mem_cons]
    exact ⟨⟨by decide, fun value found => Option.some.inj found ▸ by decide⟩,
      Scope.settled_of_plain (by decide) (by decide), List.forall_mem_nil _⟩
  have isHeader : Text.IsHeader "fill".toList := ⟨by decide, by decide, by decide⟩
  -- The lines before and behind the declaration are read as they stand.
  have readBefore : (echoing "@" "fill").readLines 0 (echoing "@" "fill").start ["@n=1".toList] =
      .ok { scope := ⟨['@'], [("n".toList, "1".toList)]⟩ } := rfl
  have blankBefore : ∀ c ∈ [' ', '\t'], Text.isAsciiBlank c = true :=
    List.forall_mem_cons.2 ⟨rfl, List.forall_mem_singleton.2 rfl⟩
  have blankBehind : ∀ c ∈ [' '], Text.isAsciiBlank c = true := List.forall_mem_singleton.2 rfl
  obtain ⟨next, readHere, _, delivers⟩ := inflateLines_verbatim rfl (by decide) isHeader rfl
    verbatim blankBefore blankBehind readBefore rfl
  obtain rfl : { scope := ⟨['@'], [("n".toList, "a = b  c".toList), ("n".toList, "1".toList)]⟩ } =
    next := Except.ok.inj (readHere.symm.trans rfl).symm
  have others : ∀ raw ∈ ["@m=@n".toList], ∀ other,
      (Line.ofText {} raw).declared? = some other → other.name ≠ "n".toList :=
    List.forall_mem_singleton.2 fun other found => Option.some.inj found ▸ by decide
  have haveKeys : ∀ token ∈ Token.split "a = b  c".toList, Token.HasKey token := by
    simp only [tokens, List.forall_mem_cons]
    exact ⟨List.cons_ne_nil _ _, List.cons_ne_nil _ _, List.forall_mem_nil _⟩
  have delivered := delivers ["@m=@n".toList] _ rfl rfl others
  exact ⟨delivered.half "k".toList ⟨by decide, by decide, by decide⟩ (by decide),
    delivered.word haveKeys⟩

end Dialect

end OverlaySheet
