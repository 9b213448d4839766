import OverlaySheet.Proofs.Sheet.Arguments
import OverlaySheet.Proofs.Sheet.Progress

/-! Keys given twice: what the rule that refuses them makes of lines that the other rule reads. -/

namespace OverlaySheet

/-- An argument has a key that its block has already. -/
def Fault.repeatedArgument (layerType key : String) : Fault :=
  .malformedLayer s!"duplicate argument '{key}' for layer '{layerType}'"

namespace Block

variable {block result : Block} {tokens : List Text}

/-- No two arguments have the same key. -/
def Distinct (block : Block) : Prop :=
  (block.arguments.map Argument.key).Nodup

/-- Behind some old arguments, an argument has the key of one that comes before it. -/
def RepeatsBehind (old : List Argument) (block : Block) (argument : Argument) : Prop :=
  ∃ earlier later, block.arguments = earlier ++ argument :: later ∧ old <+: earlier ∧
    argument.key ∈ earlier.map Argument.key

/-- Where an argument repeats a key, the keys are not distinct. -/
theorem RepeatsBehind.not_distinct {old : List Argument} {argument : Argument}
    (repeats : block.RepeatsBehind old argument) : ¬ block.Distinct := by
  obtain ⟨earlier, later, arguments, _, member⟩ := repeats
  intro distinct
  -- The repeated key stands in both halves of the arguments, which would have to be disjoint.
  rw [Distinct, arguments, List.map_append, List.map_cons, List.nodup_append] at distinct
  exact distinct.2.2 argument.key member argument.key (by simp) rfl

/-- Distinct keys stay so when arguments at the end are left out. -/
theorem Distinct.of_prefix {longer : Block} (distinct : longer.Distinct)
    (front : block.arguments <+: longer.arguments) : block.Distinct :=
  (front.sublist.map Argument.key).nodup distinct

/-- One more argument with a new key leaves the keys distinct. -/
theorem Distinct.push (distinct : block.Distinct) {argument : Argument}
    (new : block.has argument.key = false) : (block.push argument).Distinct := by
  -- The test of the block is the membership of the key among those of its arguments.
  rw [has_eq_any] at new
  have unlike : argument.key ∉ block.arguments.map Argument.key := by
    simpa using new
  simpa [Distinct, Block.push, List.nodup_append] using ⟨distinct, by simpa using unlike⟩

/-- Where keys may repeat, every row of tokens with keys can be pushed. -/
theorem pushTokens_lastWins_eq_ok_iff :
    pushTokens .lastWins block tokens = .ok result ↔
      (∀ token ∈ tokens, Token.HasKey token) ∧
        result = { block with arguments := block.arguments ++ tokens.map Token.argument } := by
  simp [pushTokens_eq_ok_iff]

/-- Tokens that the strict rule pushes are pushed by the lenient one to the same block. -/
theorem pushTokens_lenient (pushed : pushTokens .reject block tokens = .ok result) :
    pushTokens .lastWins block tokens = .ok result := by
  -- The strict rule asks for more than the lenient one and makes the same block.
  obtain ⟨haveKeys, _, same⟩ := pushTokens_eq_ok_iff.1 pushed
  exact pushTokens_lastWins_eq_ok_iff.2 ⟨haveKeys, same⟩

/-- A row of tokens is pushed token by token. -/
theorem pushTokens_cons (rule : DuplicateRule) (block : Block) (token : Text) (rest : List Text) :
    pushTokens rule block (token :: rest) =
      pushToken rule block token >>= fun middle => pushTokens rule middle rest := by
  -- The fold pushes the first token before the others.
  rw [pushTokens, List.foldlM_cons]
  rfl

/-- A token whose key the block has already is refused where keys may not repeat. -/
theorem pushToken_of_has {token : Text} (hasKey : Token.HasKey token)
    (given : block.has (Token.argument token).key = true) :
    pushToken .reject block token =
      .error (.repeatedArgument block.layerType (Token.argument token).key) := by
  -- The token is an argument, so the test of the rule is the next to be made.
  rw [pushToken, Token.toArgument_eq_ok_iff.2 ⟨hasKey, rfl⟩]
  exact if_pos ⟨rfl, given⟩

/-- Tokens that the lenient rule pushes are pushed, or one of them is refused for its key. -/
theorem pushTokens_reject_cases (distinct : block.Distinct)
    (pushed : pushTokens .lastWins block tokens = .ok result) :
    (result.Distinct ∧ pushTokens .reject block tokens = .ok result) ∨
      ∃ argument, result.RepeatsBehind block.arguments argument ∧
        pushTokens .reject block tokens =
          .error (.repeatedArgument result.layerType argument.key) := by
  -- The induction is on the tokens, for a block of distinct keys that grows by each new one.
  induction tokens generalizing block with
  | nil =>
    obtain rfl := Except.ok.inj pushed
    exact .inl ⟨distinct, rfl⟩
  | cons token rest ih =>
    rw [pushTokens_cons] at pushed ⊢
    obtain ⟨middle, pushedFirst, pushedRest⟩ := bind_eq_ok_iff.1 pushed
    obtain ⟨hasKey, _, rfl⟩ := pushToken_eq_ok_iff.1 pushedFirst
    cases given : block.has (Token.argument token).key with
    | true =>
      -- The first token is refused, whatever the others are.
      obtain ⟨_, rfl⟩ := pushTokens_lastWins_eq_ok_iff.1 pushedRest
      refine .inr ⟨Token.argument token, ⟨block.arguments, rest.map Token.argument, ?_,
        List.prefix_refl _, ?_⟩, ?_⟩
      · simp [Block.push]
      · simpa [has_eq_any] using given
      · rw [pushToken_of_has hasKey given]
        rfl
    | false =>
      have done : pushToken .reject block token = .ok (block.push (Token.argument token)) :=
        pushToken_eq_ok_iff.2 ⟨hasKey, fun _ => given, rfl⟩
      rw [done]
      rcases ih (distinct.push given) pushedRest with
        same | ⟨argument, ⟨earlier, later, arguments, front, member⟩, refused⟩
      · exact .inl same
      · -- What the first token is behind, the later one is behind too.
        have old : block.arguments <+: earlier := (List.prefix_append _ _).trans front
        exact .inr ⟨argument, ⟨earlier, later, arguments, old, member⟩, refused⟩

end Block

/-- The arguments of the block that is open, if there is one. -/
def Run.arguments {Layer : Type} (run : Run Layer) : List Argument :=
  match run.phase with
  | .inBlock current => current.block.arguments
  | .preamble | .between => []

/-- The block that is open, if there is one, has distinct keys. -/
def Run.Distinct {Layer : Type} (run : Run Layer) : Prop :=
  ∀ current, run.phase = .inBlock current → current.block.Distinct

/-- Without an open block there are no arguments. -/
theorem Run.arguments_of_closed {Layer : Type} {run : Run Layer} (closed : run.Closed) :
    run.arguments = [] := by
  -- Only an open block has any.
  unfold arguments
  split
  · next current opened => exact absurd opened (closed current)
  · rfl
  · rfl

namespace Dialect

variable {Layer : Type} {dialect : Dialect Layer}

/-- The dialect with another rule for keys that are given twice. -/
def ruled (dialect : Dialect Layer) (rule : DuplicateRule) : Dialect Layer :=
  { dialect with grammar := { dialect.grammar with duplicates := rule } }

/--
What the strict rule makes of a line that leads from one run to another under the lenient rule.

It reads the line in the same way, or refuses an argument that the line adds.
-/
inductive Strictly (run next : Run Layer) : Except Fault (Run Layer) → Prop where
  | same (distinct : next.Distinct) : Strictly run next (.ok next)
  | refused {current : OpenBlock Layer} {argument : Argument}
      (opened : next.phase = .inBlock current)
      (repeated : current.block.RepeatsBehind run.arguments argument) :
      Strictly run next (.error (.repeatedArgument current.block.layerType argument.key))

/-- A block is refused with an argument of it. -/
theorem beginBlock_of_refused {number : Nat} {layerType : Text} {arguments : List Text}
    {builder : Builder Layer} {fault : Fault} (plain : '=' ∉ layerType)
    (found : dialect.registry.find? (String.ofList layerType) = some builder)
    (refused : Block.pushTokens dialect.grammar.duplicates
      { layerType := String.ofList layerType } arguments = .error fault) :
    dialect.beginBlock number (layerType :: arguments) = .error fault := by
  -- The type and the builder are found, so what fails is the pushing.
  have hasValue : Token.hasValue layerType = false := by simpa [Token.hasValue] using plain
  simp only [beginBlock, hasValue, found, refused]
  rfl

/-- A header line under the strict rule. -/
theorem readHeader_strict {number : Nat} {text : Text} {run next : Run Layer}
    (closed : run.Closed)
    (read : (dialect.ruled .lastWins).readHeader number text run = .ok next) :
    Strictly run next ((dialect.ruled .reject).readHeader number text run) := by
  obtain ⟨tokens, current, expanded, begun, rfl⟩ := readHeader_eq_ok_iff.1 read
  obtain ⟨layerType, arguments, builder, block, rfl, plain, found, pushed, rfl⟩ :=
    beginBlock_eq_ok_iff.1 begun
  have empty : Block.Distinct { layerType := String.ofList layerType } := List.nodup_nil
  -- All but the arguments is the same under both rules.
  rcases Block.pushTokens_reject_cases empty pushed with ⟨distinct, done⟩ | ⟨argument, repeated, no⟩
  · have same : (dialect.ruled .reject).readHeader number text run =
        .ok { run with phase := .inBlock { header := number, builder, block } } :=
      readHeader_eq_ok_iff.2 ⟨_, _, expanded, beginBlock_eq_ok_iff.2
        ⟨layerType, arguments, builder, block, rfl, plain, found, done, rfl⟩, rfl⟩
    rw [same]
    refine .same fun current opened => ?_
    obtain rfl := Phase.inBlock.inj opened
    exact distinct
  · have refused : (dialect.ruled .reject).readHeader number text run =
        .error (.repeatedArgument block.layerType argument.key) :=
      bind_eq_error_iff.2 (.inr ⟨_, expanded,
        bind_eq_error_iff.2 (.inl (beginBlock_of_refused plain found no))⟩)
    rw [refused]
    have repeatedBehind : block.RepeatsBehind run.arguments argument := by
      rw [Run.arguments_of_closed closed]
      exact repeated
    exact @Strictly.refused _ _ _ { header := number, builder, block } _ rfl repeatedBehind

/-- A further line of a block under the strict rule. -/
theorem extendBlock_strict {text : Text} {run next : Run Layer} {current : OpenBlock Layer}
    (opened : run.phase = .inBlock current) (distinct : run.Distinct)
    (read : (dialect.ruled .lastWins).extendBlock text current run = .ok next) :
    Strictly run next ((dialect.ruled .reject).extendBlock text current run) := by
  -- The arguments that the line adds come behind those that the block has.
  obtain ⟨tokens, block, expanded, pushed, rfl⟩ := extendBlock_eq_ok_iff.1 read
  have old : run.arguments = current.block.arguments := by simp [Run.arguments, opened]
  rcases Block.pushTokens_reject_cases (distinct current opened) pushed with
    ⟨distinctNext, done⟩ | ⟨argument, repeated, no⟩
  · have same : (dialect.ruled .reject).extendBlock text current run =
        .ok { run with phase := .inBlock { current with block } } :=
      extendBlock_eq_ok_iff.2 ⟨tokens, block, expanded, done, rfl⟩
    rw [same]
    refine .same fun next openedNext => ?_
    obtain rfl := Phase.inBlock.inj openedNext
    exact distinctNext
  · have refused : (dialect.ruled .reject).extendBlock text current run =
        .error (.repeatedArgument block.layerType argument.key) :=
      bind_eq_error_iff.2 (.inr ⟨_, expanded, bind_eq_error_iff.2 (.inl no)⟩)
    rw [refused]
    exact @Strictly.refused _ _ _ { current with block } _ rfl (old ▸ repeated)

/-- What a line has to do with the rule. -/
inductive Asks (dialect : Dialect Layer) (number : Nat) (run : Run Layer) (line : Line) : Prop where
  /-- The line adds no argument to a block. -/
  | nothing (same : ∀ rule, (dialect.ruled rule).step number run line =
        dialect.step number run line)
      (quiet : ∀ next, dialect.step number run line = .ok next →
        next.phase = run.phase ∨ next.Closed) : Asks dialect number run line
  | header {text : Text} (closed : run.Closed)
      (reads : ∀ rule, (dialect.ruled rule).step number run line =
        (dialect.ruled rule).readHeader number text run) : Asks dialect number run line
  | extension {text : Text} {current : OpenBlock Layer} (opened : run.phase = .inBlock current)
      (reads : ∀ rule, (dialect.ruled rule).step number run line =
        (dialect.ruled rule).extendBlock text current run) : Asks dialect number run line

/-- Headers and further lines of a block ask the rule, and no other line does. -/
theorem step_asks_cases (dialect : Dialect Layer) (number : Nat) (run : Run Layer) (line : Line) :
    Asks dialect number run line := by
  obtain ⟨scope, phase, overlays⟩ := run
  cases line with
  -- A comment leaves the run as it is, and the end of a block leaves none open.
  | comment =>
    refine .nothing (fun _ => rfl) fun next stepped => .inl ?_
    obtain rfl := Except.ok.inj stepped
    rfl
  | blank => exact .nothing (fun _ => rfl) fun next stepped => .inr (closed_of_endBlock stepped)
  | declaration text =>
    refine .nothing (fun _ => rfl) fun next stepped => ?_
    cases phase with
    | preamble =>
      obtain ⟨found, _, same⟩ := bind_eq_ok_iff.1 stepped
      obtain rfl := pure_eq_ok_iff.1 same
      exact .inl rfl
    | inBlock | between => cases stepped
  | title text =>
    refine .nothing (fun _ => rfl) fun next stepped => ?_
    cases phase with
    | inBlock => cases stepped
    | preamble | between =>
      obtain rfl := Except.ok.inj stepped
      exact .inl rfl
  | content text indented =>
    -- At the margin, a first token with a value tells a declaration from a header.
    cases phase with
    | preamble =>
      cases declares : !indented && Token.leadsWithValue text with
      | true =>
        refine .nothing (fun _ => by simp only [step, declares, if_true]) fun next stepped => ?_
        simp only [step, declares, if_true] at stepped
        obtain ⟨found, _, same⟩ := bind_eq_ok_iff.1 stepped
        obtain rfl := pure_eq_ok_iff.1 same
        exact .inl rfl
      | false =>
        exact .header (fun _ opened => by cases opened) fun _ => by simp only [step, declares]; rfl
    | between =>
      cases declares : !indented && Token.leadsWithValue text with
      | true =>
        refine .nothing (fun _ => by simp only [step, declares, if_true]) fun next stepped => ?_
        simp only [step, declares, if_true] at stepped
        cases stepped
      | false =>
        exact .header (fun _ opened => by cases opened) fun _ => by simp only [step, declares]; rfl
    | inBlock current =>
      cases continues : indented || Token.leadsWithValue text with
      | true => exact .extension rfl fun _ => by simp only [step, continues]; rfl
      | false =>
        refine .nothing (fun _ => by simp only [step, continues]; rfl) fun next stepped => ?_
        simp only [step, continues] at stepped
        cases stepped

/-- A line that the lenient rule reads, under the strict rule. -/
theorem step_strict {number : Nat} {run next : Run Layer} {line : Line} (distinct : run.Distinct)
    (stepped : (dialect.ruled .lastWins).step number run line = .ok next) :
    Strictly run next ((dialect.ruled .reject).step number run line) := by
  -- Only headers and further lines can be told apart by the rules.
  cases step_asks_cases dialect number run line with
  | nothing same quiet =>
    rw [same] at stepped
    rw [same, stepped]
    refine .same fun current opened => ?_
    rcases quiet next stepped with samePhase | closed
    · exact distinct current (samePhase ▸ opened)
    · exact absurd opened (closed current)
  | header closed reads =>
    rw [reads] at stepped ⊢
    exact readHeader_strict closed stepped
  | extension opened reads =>
    rw [reads] at stepped ⊢
    exact extendBlock_strict opened distinct stepped

/-- A line that the strict rule reads is read by the lenient one in the same way. -/
theorem step_lenient {number : Nat} {run next : Run Layer} {line : Line}
    (stepped : (dialect.ruled .reject).step number run line = .ok next) :
    (dialect.ruled .lastWins).step number run line = .ok next := by
  -- The strict rule makes one more test than the lenient one, and the line has passed it.
  cases step_asks_cases dialect number run line with
  | nothing same _ =>
    rw [same] at stepped ⊢
    exact stepped
  | header closed reads =>
    rw [reads] at stepped ⊢
    obtain ⟨tokens, current, expanded, begun, same⟩ := readHeader_eq_ok_iff.1 stepped
    obtain ⟨layerType, arguments, builder, block, split, plain, found, pushed, made⟩ :=
      beginBlock_eq_ok_iff.1 begun
    exact readHeader_eq_ok_iff.2 ⟨tokens, current, expanded, beginBlock_eq_ok_iff.2
      ⟨layerType, arguments, builder, block, split, plain, found, Block.pushTokens_lenient pushed,
        made⟩, same⟩
  | extension opened reads =>
    rw [reads] at stepped ⊢
    obtain ⟨tokens, block, expanded, pushed, same⟩ := extendBlock_eq_ok_iff.1 stepped
    exact extendBlock_eq_ok_iff.2
      ⟨tokens, block, expanded, Block.pushTokens_lenient pushed, same⟩

end Dialect

end OverlaySheet
