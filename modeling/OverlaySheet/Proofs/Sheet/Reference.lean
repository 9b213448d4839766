import OverlaySheet.Proofs.Sheet.DuplicateRules
import OverlaySheet.Proofs.Sheet.Marker
import OverlaySheet.Proofs.Sheet.Writing

/-! References in every accepted grammar: a block gets the word that its argument refers to. -/

namespace OverlaySheet

open Text (Solid IsWord)

/-- A text of ASCII letters and digits. -/
def Text.IsAlphanumeric (text : Text) : Prop :=
  ∀ c ∈ text, c.isAlphanum = true

instance (text : Text) : Decidable text.IsAlphanumeric :=
  List.decidableBAll (fun c : Char => c.isAlphanum = true) text

/-- Letters and digits make a word. -/
theorem Text.IsAlphanumeric.isWord {text : Text} (alphanumeric : text.IsAlphanumeric)
    (nonempty : text ≠ []) : IsWord text := by
  have plain : ∀ c ∈ text, Text.isBlank c = false ∧ c ≠ '=' := by
    intro c member
    -- Letters and digits are characters of names.
    exact Declaration.isNameChar_plain (by simp [Declaration.isNameChar, alphanumeric c member])
  exact ⟨nonempty, fun c member => (plain c member).1, fun sign => (plain '=' sign).2 rfl⟩

namespace Grammar

/-- What opens declarations and references: the marker of variables. -/
def opener (grammar : Grammar) : Text :=
  grammar.variableMarker.toList

/-- A line that declares a word, and a header whose only argument refers to it. -/
def referring (grammar : Grammar) (name word layerType : Text) : List Text :=
  [grammar.opener ++ (name ++ '=' :: word), layerType ++ ' ' :: (grammar.opener ++ name)]

/--
A name, a word and a type that no marker gets in the way of.

The word and the type have letters and digits alone, and neither opens with a marker.
The declaration opens with the marker of variables and with no other.
-/
structure Referable (grammar : Grammar) (name word layerType : Text) : Prop where
  isName : Declaration.IsName name
  given : word ≠ []
  wordPlain : word.IsAlphanumeric
  typePlain : layerType.IsAlphanumeric
  wordApart : ∀ marker, ¬ grammar.Opens marker word
  typeApart : ∀ marker, ¬ grammar.Opens marker layerType
  lineApart : ∀ marker, marker ≠ .declaration →
    ¬ grammar.Opens marker (grammar.opener ++ (name ++ '=' :: word))

/-- What is asked of every marker is asked of the three that there are. -/
instance (holds : MarkerName → Prop) [DecidablePred holds] : Decidable (∀ marker, holds marker) :=
  decidable_of_iff (holds .declaration ∧ holds .title ∧ holds .comment)
    ⟨fun ⟨declaration, title, comment⟩ marker => by cases marker <;> assumption,
      fun all => ⟨all .declaration, all .title, all .comment⟩⟩

instance (grammar : Grammar) (name word layerType : Text) :
    Decidable (grammar.Referable name word layerType) :=
  decidable_of_iff (Declaration.IsName name ∧ word ≠ [] ∧ word.IsAlphanumeric ∧
      layerType.IsAlphanumeric ∧ (∀ marker, ¬ grammar.Opens marker word) ∧
      (∀ marker, ¬ grammar.Opens marker layerType) ∧
      ∀ marker, marker ≠ .declaration →
        ¬ grammar.Opens marker (grammar.opener ++ (name ++ '=' :: word)))
    ⟨fun ⟨isName, given, wordPlain, typePlain, wordApart, typeApart, lineApart⟩ =>
        ⟨isName, given, wordPlain, typePlain, wordApart, typeApart, lineApart⟩,
      fun fits => ⟨fits.isName, fits.given, fits.wordPlain, fits.typePlain, fits.wordApart,
        fits.typeApart, fits.lineApart⟩⟩

end Grammar

/-- A name, an equals sign and a word are written as a declaration. -/
theorem Declaration.written_word {name word : Text} (isName : IsName name) (isWord : IsWord word) :
    Written (name ++ '=' :: word) ⟨name, word⟩ := by
  -- A newline is a blank, and the word has none.
  have oneLine : '\n' ∉ word := fun newline =>
    absurd (isWord.solid '\n' newline) (by decide)
  have written := @written_of_trimmed ⟨name, word⟩ isName (isWord.solid.trimmed isWord.nonempty)
    oneLine [] [] (List.forall_mem_nil _) (List.forall_mem_nil _)
  exact written

namespace Scope

/-- A word that opens with no marker is declared as it is. -/
theorem declare_word {scope : Scope} {name word : Text} (isName : Declaration.IsName name)
    (isWord : IsWord word) (apart : Text.after? scope.marker word = none) :
    scope.declare (name ++ '=' :: word) = .ok (scope.bind name word) := by
  have single : Token.split word = [word] := Token.split_of_solid isWord.nonempty isWord.solid
  -- The word is its only token, which refers to nothing.
  have resolved : scope.resolve word = .ok word := by
    refine resolve_of_settled apart ?_
    rw [single]
    exact List.forall_mem_singleton.2 (settled_of_plain apart isWord.plain)
  have read := Declaration.read?_eq_some_iff.2 (Declaration.written_word isName isWord)
  exact declareAs_eq_ok_iff.2 ⟨_, word, read, resolved, rfl⟩

end Scope

namespace Grammar

/-- The marker of variables in an accepted grammar is not empty and has no blank. -/
theorem Marked.opener_solid {grammar : Grammar} (marked : grammar.Marked) :
    grammar.opener ≠ [] ∧ Solid grammar.opener :=
  ⟨marked.nonempty .declaration, marked.solid .declaration⟩

namespace Referable

variable {grammar : Grammar} {name word layerType : Text}
  (fits : grammar.Referable name word layerType)

include fits

/-- The word that is declared is one. -/
theorem isWord : IsWord word :=
  fits.wordPlain.isWord fits.given

/-- A type that is not empty is a word. -/
theorem typeIsWord (typed : layerType ≠ []) : IsWord layerType :=
  fits.typePlain.isWord typed

/-- The name is not empty and has no blank. -/
theorem name_solid : name ≠ [] ∧ Solid name := by
  -- A name starts with a letter or an underscore, so there is something of it.
  refine ⟨?_, fits.isName.solid⟩
  rintro rfl
  exact absurd fits.isName.1 (by decide)

variable (marked : grammar.Marked)

include marked

/-- A reference has no blank. -/
theorem reference_solid : Solid (grammar.opener ++ name) := by
  -- A character of it belongs to the marker or to the name.
  intro c member
  exact (List.mem_append.1 member).elim (marked.opener_solid.2 c) (fits.name_solid.2 c)

/-- A reference has nothing to trim. -/
theorem reference_trimmed : Text.Trimmed (grammar.opener ++ name) :=
  (fits.reference_solid marked).trimmed (by simp [marked.opener_solid.1])

/-- A reference is one token. -/
theorem split_reference : Token.split (grammar.opener ++ name) = [grammar.opener ++ name] :=
  Token.split_of_solid (fits.reference_trimmed marked).1.ne_nil (fits.reference_solid marked)

/-- The first line is a declaration. -/
theorem ofText_declaration : Line.ofText grammar (grammar.opener ++ (name ++ '=' :: word)) =
    .declaration (name ++ '=' :: word) := by
  -- The line starts with the marker and ends with the word, neither of which has a blank.
  have isWord := fits.isWord
  have trimmed : Text.Trimmed (grammar.opener ++ (name ++ '=' :: word)) := by
    refine ⟨(marked.opener_solid.2.trimmed marked.opener_solid.1).1.append _, ?_⟩
    have ends := (isWord.solid.trimmed isWord.nonempty).2.append
      (grammar.opener ++ (name ++ ['=']))
    simpa using ends
  exact Line.ofText_declaration marked trimmed fits.lineApart

/-- Behind a type, the second line is content at the margin. -/
theorem ofText_header (typed : layerType ≠ []) :
    Line.ofText grammar (layerType ++ ' ' :: (grammar.opener ++ name)) =
      .content (layerType ++ ' ' :: (grammar.opener ++ name)) false := by
  -- The type and the reference are two words with a single blank between them.
  exact Line.ofText_pair marked typed (fits.typeIsWord typed).solid
    (fits.reference_trimmed marked).1.ne_nil (fits.reference_solid marked) fits.typeApart

/-- Without a type, the second line is indented. -/
theorem ofText_indented : Line.ofText grammar (' ' :: (grammar.opener ++ name)) =
    .content (grammar.opener ++ name) true := by
  have trimmed := fits.reference_trimmed marked
  have space : Text.Blank [' '] := by decide
  have trim_eq : Text.trim (' ' :: (grammar.opener ++ name)) = grammar.opener ++ name :=
    Text.trim_blanks_append space trimmed
  -- What is in front of the reference is in front of the declaration.
  have notComment : ¬ grammar.Opens .comment (grammar.opener ++ name) := by
    intro opens
    refine fits.lineApart .comment (by decide) (opens.trans ⟨'=' :: word, ?_⟩)
    rw [List.append_assoc]
  exact Line.ofText_eq_content_iff.2 ⟨trim_eq, trimmed.1.ne_nil,
    (marked.after?_eq_none_iff .comment _).2 notComment, rfl, nofun⟩

/-- A marker that does not start with an equals sign keeps the reference apart from the type. -/
theorem split_header (typed : layerType ≠ []) (unsigned : grammar.opener.head? ≠ some '=') :
    Token.split (layerType ++ ' ' :: (grammar.opener ++ name)) =
      [layerType, grammar.opener ++ name] := by
  have isWord := fits.typeIsWord typed
  -- No equals sign is next to the space, neither at the end of the type nor behind it.
  have noneBefore : layerType.getLast? ≠ some '=' := fun last =>
    isWord.plain (List.mem_of_getLast? last)
  have noneAfter : (grammar.opener ++ name).head? ≠ some '=' := by
    rwa [List.head?_append_of_ne_nil _ marked.opener_solid.1]
  exact Token.split_pair typed isWord.solid (fits.reference_trimmed marked).1.ne_nil
    (fits.reference_solid marked) noneBefore noneAfter

/-- A marker that starts with an equals sign makes the reference a value half of the type. -/
theorem leads_header (typed : layerType ≠ []) (signed : grammar.opener.head? = some '=') :
    Token.leadsWithValue (layerType ++ ' ' :: (grammar.opener ++ name)) = true := by
  have isWord := fits.typeIsWord typed
  have reference := fits.reference_trimmed marked
  have signedReference : (grammar.opener ++ name).head? = some '=' := by
    rwa [List.head?_append_of_ne_nil _ marked.opener_solid.1]
  obtain ⟨before, last, first, after, typeTokens, _, joined, sign⟩ :=
    Token.split_append_glued (isWord.solid.trimmed typed).2 reference.1 (.inr signedReference)
  rw [Token.split_of_solid typed isWord.solid] at typeTokens
  -- The type is the only token before the gap, so it is the one that is glued.
  have alone : [] ++ [layerType] = before ++ [last] := typeTokens
  obtain ⟨rfl, same⟩ := List.append_inj' alone rfl
  obtain rfl := List.singleton_inj.1 same
  have valued : '=' ∈ layerType ++ first := by
    rcases sign with last | head
    · exact List.mem_append_left _ (List.mem_of_getLast? last)
    · exact List.mem_append_right _ (List.mem_of_head? head)
  simpa [Token.leadsWithValue, joined, Token.hasValue] using valued

end Referable

end Grammar

namespace Dialect

open Grammar (Referable)

section Runs

variable {Layer : Type} {dialect : Dialect Layer} {name word layerType : Text}

/-- The run behind a declaration on the first line. -/
def declaring (dialect : Dialect Layer) (name word : Text) : Run Layer where
  scope := dialect.start.scope.bind name word

/-- The block of a type whose only argument is a word. -/
def wordBlock (word layerType : Text) : Block where
  layerType := String.ofList layerType
  arguments := [⟨String.ofList word, none⟩]

/-- A type and a word begin the block of the type with the word. -/
theorem beginBlock_word {builder : Builder Layer}
    (fits : Referable dialect.grammar name word layerType) (typed : layerType ≠ [])
    (registered : dialect.registry.find? (String.ofList layerType) = some builder) (number : Nat) :
    dialect.beginBlock number [layerType, word] =
      .ok ⟨number, builder, wordBlock word layerType⟩ := by
  have isWord := fits.isWord
  -- Without an equals sign the whole word is a key, and it has no value.
  have uncut : Text.cut '=' word = (word, none) := Text.cut_of_not_mem isWord.plain
  have hasKey : Token.HasKey word := by
    rw [Token.HasKey, uncut]
    exact isWord.nonempty
  have argument : Token.argument word = ⟨String.ofList word, none⟩ := by
    simp [Token.argument, uncut]
  have pushed : Block.pushTokens dialect.grammar.duplicates
      { layerType := String.ofList layerType } [word] = .ok (wordBlock word layerType) := by
    refine Block.pushTokens_eq_ok_iff.2 ⟨by simpa using hasKey, fun _ => ?_, ?_⟩
    · -- The word is the first argument, so no rule can refuse it.
      simp [Block.has, Block.find?]
    · simp [wordBlock, argument]
  exact beginBlock_eq_ok_iff.2 ⟨layerType, [word], builder, _, rfl,
    (fits.typeIsWord typed).plain, registered, pushed, rfl⟩

variable (marked : dialect.grammar.Marked) (fits : Referable dialect.grammar name word layerType)

include marked fits

/-- Neither the word nor a type refers to anything, since no marker opens them. -/
theorem settled_of_referable : Scope.Settled dialect.grammar.opener word ∧
    (layerType ≠ [] → Scope.Settled dialect.grammar.opener layerType) := by
  -- A text is settled when the marker does not open it and it holds no sign.
  constructor
  · exact Scope.settled_of_plain
      ((marked.after?_eq_none_iff .declaration word).2 (fits.wordApart .declaration))
      fits.isWord.plain
  · intro typed
    exact Scope.settled_of_plain
      ((marked.after?_eq_none_iff .declaration layerType).2 (fits.typeApart .declaration))
      (fits.typeIsWord typed).plain

/-- The declaration is carried out. -/
theorem readLines_declaration :
    dialect.readLines 0 dialect.start [dialect.grammar.opener ++ (name ++ '=' :: word)] =
      .ok (dialect.declaring name word) := by
  have declared : dialect.start.scope.declare (name ++ '=' :: word) =
      .ok (dialect.start.scope.bind name word) :=
    Scope.declare_word fits.isName fits.isWord (settled_of_referable marked fits).1.1
  -- No block has begun before the first line, so variables may be declared there.
  rw [readLines, readLine, fits.ofText_declaration marked, step]
  simp only [start] at declared ⊢
  rw [declared]
  rfl

/-- The reference stands for the word. -/
theorem expand_reference_word :
    (dialect.declaring name word).scope.expand (dialect.grammar.opener ++ name) = .ok [word] := by
  have refers : (dialect.declaring name word).scope.reference? (dialect.grammar.opener ++ name) =
      some name := Text.after?_eq_some_iff.2 ⟨marked.opener_solid.1, rfl⟩
  have found : (dialect.declaring name word).scope.find? name = some word := by
    rw [declaring, Scope.find?_bind, if_pos rfl]
  -- The stored word is a single token again.
  have isWord := fits.isWord
  rw [Scope.expand_reference refers found, Token.split_of_solid isWord.nonempty isWord.solid]

/-- A block of lines that open with the declaration is given behind the second of them. -/
theorem given_cases {header : Text} {block : Block}
    (given : dialect.Given [dialect.grammar.opener ++ (name ++ '=' :: word), header] block) :
    ∃ next current, dialect.step 1 (dialect.declaring name word)
        (Line.ofText dialect.grammar header) = .ok next ∧
      next.phase = .inBlock current ∧ current.block = block := by
  obtain ⟨before, after, run, current, split, read, opened, same, _⟩ := given
  have declared := readLines_declaration marked fits
  -- Before the first line and behind it, no block is open.
  rcases before with _ | ⟨first, _ | ⟨second, others⟩⟩
  · obtain rfl := Except.ok.inj read
    cases opened
  · obtain ⟨rfl, _⟩ := List.cons.inj split
    obtain rfl := Except.ok.inj (declared.symm.trans read)
    cases opened
  · obtain ⟨rfl, rest⟩ := List.cons.inj split
    obtain ⟨rfl, noMore⟩ := List.cons.inj rest
    obtain ⟨rfl, rfl⟩ := List.append_eq_nil_iff.1 noMore.symm
    obtain ⟨middle, readFirst, stepped⟩ := readLines_snoc_eq_ok_iff.1
      (show dialect.readLines 0 dialect.start ([_] ++ [header]) = .ok run from read)
    obtain rfl := Except.ok.inj (declared.symm.trans readFirst)
    exact ⟨run, current, stepped, opened, same⟩

/-- The header opens the block of its type with the word. -/
theorem readLines_referring {builder : Builder Layer} (typed : layerType ≠ [])
    (unsigned : dialect.grammar.opener.head? ≠ some '=')
    (registered : dialect.registry.find? (String.ofList layerType) = some builder) :
    dialect.readLines 0 dialect.start (dialect.grammar.referring name word layerType) =
      .ok { dialect.declaring name word with
        phase := .inBlock ⟨1, builder, wordBlock word layerType⟩ } := by
  refine readLines_snoc_eq_ok_iff.2
    ⟨dialect.declaring name word, readLines_declaration marked fits, ?_⟩
  -- Of the two tokens, the type stays what it is, and the reference becomes the word.
  have tokens := fits.split_header marked typed unsigned
  have plain : '=' ∉ layerType := (fits.typeIsWord typed).plain
  have noValue : Token.leadsWithValue (layerType ++ ' ' :: (dialect.grammar.opener ++ name)) =
      false := by simpa [Token.leadsWithValue, tokens, Token.hasValue] using plain
  have expanded : (dialect.declaring name word).scope.expandAll
      [layerType, dialect.grammar.opener ++ name] = .ok [layerType, word] := by
    refine Scope.expandAll_cons_eq_ok_iff.2 ⟨[layerType], [word],
      Scope.expand_of_settled ((settled_of_referable marked fits).2 typed), ?_, rfl⟩
    exact Scope.expandAll_cons_eq_ok_iff.2
      ⟨[word], [], expand_reference_word marked fits, rfl, rfl⟩
  have header : dialect.readHeader 1 (layerType ++ ' ' :: (dialect.grammar.opener ++ name))
      (dialect.declaring name word) = .ok { dialect.declaring name word with
        phase := .inBlock ⟨1, builder, wordBlock word layerType⟩ } := by
    refine readHeader_eq_ok_iff.2 ⟨[layerType, word], _, ?_,
      beginBlock_word fits typed registered 1, rfl⟩
    rw [tokens, expanded]
  -- The first token is a type, so the line declares nothing.
  rw [fits.ofText_header marked typed]
  simpa [step, declaring, noValue] using header

/-- Where the marker starts with an equals sign, the second line declares another variable. -/
theorem not_given_of_signed (typed : layerType ≠ [])
    (signed : dialect.grammar.opener.head? = some '=') (block : Block) :
    ¬ dialect.Given (dialect.grammar.referring name word layerType) block := by
  intro given
  obtain ⟨next, current, stepped, opened, _⟩ := given_cases marked fits given
  -- The glued token has a value half, so the line is no header.
  have leads := fits.leads_header marked typed signed
  rw [fits.ofText_header marked typed] at stepped
  simp only [step, declaring, leads, Bool.not_false, Bool.true_and, if_true] at stepped
  -- A declaration leaves the run before its first block.
  obtain ⟨scope, _, same⟩ := bind_eq_ok_iff.1 stepped
  obtain rfl := pure_eq_ok_iff.1 same
  cases opened

/-- Without a type, the word is taken for one, and there is no argument. -/
theorem arguments_of_untyped {block : Block}
    (given : dialect.Given (dialect.grammar.referring name word []) block) :
    block.arguments = [] := by
  obtain ⟨next, current, stepped, opened, rfl⟩ := given_cases marked fits given
  -- The reference stands alone on an indented line, so it is the header.
  rw [List.nil_append, fits.ofText_indented marked] at stepped
  have header : dialect.readHeader 1 (dialect.grammar.opener ++ name)
      (dialect.declaring name word) = .ok next := by
    simpa [step, declaring] using stepped
  obtain ⟨tokens, opening, expanded, begun, rfl⟩ := readHeader_eq_ok_iff.1 header
  have onlyWord : (dialect.declaring name word).scope.expandAll
      [dialect.grammar.opener ++ name] = .ok [word] :=
    Scope.expandAll_cons_eq_ok_iff.2 ⟨[word], [], expand_reference_word marked fits, rfl, rfl⟩
  rw [fits.split_reference marked, onlyWord] at expanded
  -- The block begins with the word as its type, and no token is left for its arguments.
  obtain rfl := Except.ok.inj expanded
  obtain ⟨first, others, _, made, same, _, _, pushed, rfl⟩ := beginBlock_eq_ok_iff.1 begun
  obtain ⟨rfl, rfl⟩ := List.cons.inj same
  obtain rfl := Except.ok.inj pushed
  obtain rfl := Phase.inBlock.inj opened
  rfl

end Runs

section Reference

variable {Layer : Type} {dialect : Dialect Layer} {name word layerType : Text}
  {builder : Builder Layer}

/--
A block gets the word that its only argument refers to, in every accepted grammar.

It does so exactly when it has a type and the marker does not start with an equals sign, which
would make the reference a value half of the type.
Then its builder makes the only layer of the sheet of the word, or fails at the header.
-/
theorem inflateLines_referring (accepted : dialect.grammar.error? = none)
    (fits : Referable dialect.grammar name word layerType)
    (registered : dialect.registry.find? (String.ofList layerType) = some builder) :
    (dialect.Given (dialect.grammar.referring name word layerType) (wordBlock word layerType) ↔
      layerType ≠ [] ∧ dialect.grammar.opener.head? ≠ some '=') ∧
    (layerType ≠ [] → dialect.grammar.opener.head? ≠ some '=' →
      dialect.inflateLines (dialect.grammar.referring name word layerType) =
        (OpenBlock.build ⟨1, builder, wordBlock word layerType⟩).map fun layer =>
          [{ layers := [layer] }]) := by
  have marked := Grammar.marked_of_error?_eq_none accepted
  refine ⟨⟨fun given => ⟨?_, fun signed => ?_⟩, fun ⟨typed, unsigned⟩ => ?_⟩,
    fun typed unsigned => ?_⟩
  · rintro rfl
    -- Without a type the block that is given has no argument.
    cases arguments_of_untyped marked fits given
  · by_cases typed : layerType = []
    · subst typed
      cases arguments_of_untyped marked fits given
    · exact not_given_of_signed marked fits typed signed _ given
  · exact ⟨_, [], _, _, (List.append_nil _).symm,
      readLines_referring marked fits typed unsigned registered, rfl, rfl, nofun⟩
  · rw [inflateLines, readLines_referring marked fits typed unsigned registered]
    -- What is left is to end the block, which is built behind the last line.
    simp only [Bind.bind, Except.bind, complete, endBlock]
    cases OpenBlock.build ⟨1, builder, wordBlock word layerType⟩ with
    | ok layer => rfl
    | error fault => rfl

/-- A dialect with a marker for variables whose only type is given its blocks as layers. -/
def echoing (variableMarker layerType : String) : Dialect Block where
  grammar := { variableMarker }
  registry := Registry.empty.register layerType .ok

/-- A marker may well end with an equals sign. -/
theorem inflateLines_referring_sign_behind :
    (echoing "v=" "fill").grammar.error? = none ∧
      Referable (echoing "v=" "fill").grammar "n".toList "7".toList "fill".toList ∧
      (echoing "v=" "fill").registry.find? "fill" = some .ok ∧
      (echoing "v=" "fill").Given ["v=n=7".toList, "fill v=n".toList] ⟨"fill", [⟨"7", none⟩]⟩ ∧
      (echoing "v=" "fill").inflateLines ["v=n=7".toList, "fill v=n".toList] =
        .ok [{ layers := [⟨"fill", [⟨"7", none⟩]⟩] }] := by
  have accepted : (echoing "v=" "fill").grammar.error? = none := by decide
  have fits : Referable (echoing "v=" "fill").grammar "n".toList "7".toList "fill".toList := by
    decide
  have registered : (echoing "v=" "fill").registry.find? "fill" = some .ok := rfl
  -- The word and the marker are given, and their conditions are decided.
  obtain ⟨given, inflated⟩ := inflateLines_referring accepted fits registered
  exact ⟨accepted, fits, registered, given.2 ⟨by decide, by decide⟩,
    inflated (by decide) (by decide)⟩

/-- Neither condition may be left out: the one on the marker, and that there is a type. -/
theorem referring_not_always_given :
    (¬ ∀ (dialect : Dialect Block) (name word layerType : Text) (builder : Builder Block),
      dialect.grammar.error? = none → Referable dialect.grammar name word layerType →
      dialect.registry.find? (String.ofList layerType) = some builder → layerType ≠ [] →
      dialect.Given (dialect.grammar.referring name word layerType) (wordBlock word layerType)) ∧
    ¬ ∀ (dialect : Dialect Block) (name word layerType : Text) (builder : Builder Block),
      dialect.grammar.error? = none → Referable dialect.grammar name word layerType →
      dialect.registry.find? (String.ofList layerType) = some builder →
      dialect.grammar.opener.head? ≠ some '=' →
      dialect.Given (dialect.grammar.referring name word layerType) (wordBlock word layerType) := by
  constructor
  · intro always
    have accepted : (echoing "=" "t").grammar.error? = none := by decide
    have fits : Referable (echoing "=" "t").grammar "n".toList "w".toList "t".toList := by
      decide
    have given := always (echoing "=" "t") _ _ _ .ok accepted fits rfl (by decide)
    -- The second line is read as the declaration of a variable.
    exact not_given_of_signed (Grammar.marked_of_error?_eq_none accepted) fits (by decide) rfl _
      given
  · intro always
    have accepted : (echoing "@" "").grammar.error? = none := by decide
    have fits : Referable (echoing "@" "").grammar "n".toList "w".toList [] := by
      decide
    have given := always (echoing "@" "") _ _ _ .ok accepted fits rfl (by decide)
    -- The second line starts with a blank, and the word is taken for the type.
    cases arguments_of_untyped (Grammar.marked_of_error?_eq_none accepted) fits given

end Reference

end Dialect

end OverlaySheet
