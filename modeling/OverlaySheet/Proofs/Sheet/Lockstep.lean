import OverlaySheet.Proofs.Sheet.Chapters
import OverlaySheet.Proofs.Sheet.Line
import OverlaySheet.Proofs.Sheet.Progress
import OverlaySheet.Proofs.Sheet.Registers

/-! Runs in registers stay in step: they are the runs over lines, and no test of theirs fails. -/

namespace OverlaySheet

/-- A step that makes no test fails with its fault alone, before other steps come. -/
@[simp] theorem Exit.ofStep_error_bind {Value Result : Type} (fault : Fault)
    (second : Value → Except Exit Result) :
    (Exit.ofStep (.error fault) >>= second) = .error { fault } :=
  rfl

/-- A step that makes no test hands its value on. -/
@[simp] theorem Exit.ofStep_ok_bind {Value Result : Type} (value : Value)
    (second : Value → Except Exit Result) : (Exit.ofStep (.ok value) >>= second) = second value :=
  rfl

/-- What was just bound is found, so the test of a declaration never fails. -/
theorem Scope.declareTested_eq (scope : Scope) (written text : Text) :
    scope.declareTested written text = Exit.ofStep (scope.declareAs written text) := by
  -- The two differ only behind the binding, where the registers look the variable up again.
  unfold declareTested declareAs
  cases Declaration.read? text with
  | none => rfl
  | some declaration =>
    cases resolved : scope.resolve declaration.value with
    | error fault =>
      simp only [resolved, Exit.ofStep_error_bind]
      rfl
    | ok value =>
      have found : (scope.bind declaration.name value).find? declaration.name = some value := by
        rw [find?_bind, if_pos rfl]
      simp only [resolved, Exit.ofStep_ok_bind, found]
      rfl

namespace Registers

variable {Layer : Type} {dialect : Dialect Layer} {registers : Registers Layer}

/-- A layer is put into the last overlay, or into a new one, and never lost. -/
theorem stack_eq_pushLast (layer : Layer) (overlays : List (Overlay Layer)) :
    stack layer overlays = Overlay.pushLast layer overlays := by
  -- Only the last overlay matters, so the list is taken apart at its end.
  cases overlays using List.reverseRecOn with
  | nil => rfl
  | append_singleton earlier last => simp [stack, Overlay.pushLast_append]

/-- The layers of overlays, from the first to the last. -/
def layers (overlays : List (Overlay Layer)) : List Layer :=
  overlays.flatMap (·.layers)

/-- Stacking a layer adds it behind all that were there. -/
@[simp] theorem layers_stack (layer : Layer) (overlays : List (Overlay Layer)) :
    layers (stack layer overlays) = layers overlays ++ [layer] := by
  -- A new overlay holds the layer alone, and an old one gets it at its end.
  cases overlays using List.reverseRecOn with
  | nil => rfl
  | append_singleton earlier last => simp [stack, layers, Overlay.push]

/-- A step of the registers ends as a step of a run does, and no test of the registers fails. -/
inductive Agrees (dialect : Dialect Layer) :
    Except Exit (Registers Layer) → Except Fault (Run Layer) → Prop where
  | ok {next : Registers Layer} (inStep : next.InStep dialect) :
      Agrees dialect (.ok next) (.ok next.toRun)
  | error (fault : Fault) : Agrees dialect (.error { fault }) (.error fault)

namespace Agrees

variable {machine : Except Exit (Registers Layer)} {run : Except Fault (Run Layer)}

/-- What agrees is the same, as far as a run tells it. -/
theorem map_eq (agrees : Agrees dialect machine run) :
    (machine.map toRun).mapError Exit.fault = run := by
  -- Agreement has one case for success and one for failure, and in both the results are equal.
  cases agrees with
  | ok inStep => rfl
  | error fault => rfl

/-- A fault that gets a line gets the same on both sides. -/
theorem located (agrees : Agrees dialect machine run) (number : Nat) :
    Agrees dialect (machine.mapError (·.located number)) (run.mapError (·.located number)) := by
  -- Success has no line to tell, so only a fault is placed.
  cases agrees with
  | ok inStep => exact .ok inStep
  | error fault => exact .error (fault.located number)

/-- A step in front that makes no test is the same on both sides. -/
theorem bind_ofStep {Value : Type} {step : Except Fault Value}
    {machine : Value → Except Exit (Registers Layer)} {run : Value → Except Fault (Run Layer)}
    (after : ∀ value, step = .ok value → Agrees dialect (machine value) (run value)) :
    Agrees dialect (Exit.ofStep step >>= machine) (step >>= run) := by
  -- The step is common to both, so either it fails there and here, or both go on with its value.
  cases step with
  | error fault => exact .error fault
  | ok value => exact after value rfl

end Agrees

/-- The registers at the start are in step. -/
theorem inStep_start : (start dialect).InStep dialect :=
  ⟨rfl, .empty⟩

/-- The registers at the start tell the start of a run. -/
@[simp] theorem toRun_start : (start dialect).toRun = dialect.start :=
  rfl

/-- Registers in step hold a block at the stages for that. -/
theorem InStep.exists_current (inStep : registers.InStep dialect)
    (opened : registers.stage.isOpen = true) : ∃ current, registers.current = some current :=
  Option.isSome_iff_exists.1 (inStep.isSome_eq.trans opened)

/-- Registers in step hold no block at the other stages. -/
theorem InStep.current_eq_none (inStep : registers.InStep dialect)
    (closed : registers.stage.isOpen = false) : registers.current = none := by
  simpa using inStep.isSome_eq.trans closed

/-- A declaration binds a variable, and the rest stays in step. -/
theorem declare_agrees (inStep : registers.InStep dialect) {written text : Text}
    (reaches : ∀ scope, registers.scope.declareAs written text = .ok scope →
      Scope.Reachable dialect.grammar.variableMarker.toList scope) :
    Agrees dialect
      (do let scope ← registers.scope.declareTested written text; return { registers with scope })
      (do let scope ← registers.scope.declareAs written text
          return { registers.toRun with scope }) := by
  -- The test never fails, so the declaration is the same step in both.
  rw [Scope.declareTested_eq]
  refine .bind_ofStep fun scope declared => ?_
  have same : ({ registers.toRun with scope } : Run Layer) = { registers with scope }.toRun := by
    simp [toRun]
  rw [same]
  exact .ok ⟨inStep.isSome_eq, reaches scope declared⟩

/-- A header line always has a token for the layer type, and the block that it opens is held. -/
theorem openBlock_agrees (inStep : registers.InStep dialect) {text : Text}
    (nonempty : Token.split text ≠ []) (number : Nat) :
    Agrees dialect
      (do let opened ← registers.openBlock dialect number text
          return { opened with stage := .inHeader })
      (dialect.readHeader number text registers.toRun) := by
  unfold openBlock Dialect.readHeader
  rw [bind_assoc]
  refine .bind_ofStep fun tokens expanded => ?_
  -- The values of variables hold tokens, so expanding has left some.
  cases tokens with
  | nil => exact absurd rfl (inStep.reachable.anchored.expandAll_ne_nil nonempty expanded)
  | cons token rest =>
    simp only [bind_assoc]
    refine .bind_ofStep fun current begun => ?_
    exact .ok ⟨rfl, inStep.reachable⟩

/-- A further line always finds the block that it goes on with. -/
theorem continueBlock_agrees (inStep : registers.InStep dialect) {current : OpenBlock Layer}
    (opened : registers.current = some current) (text : Text) :
    Agrees dialect
      (do let extended ← registers.continueBlock dialect text
          return { extended with stage := .inBody })
      (dialect.extendBlock text current registers.toRun) := by
  -- Both expand the tokens first and push them afterwards.
  unfold continueBlock Dialect.extendBlock
  rw [bind_assoc]
  refine .bind_ofStep fun tokens _ => ?_
  simp only [opened, bind_assoc]
  refine .bind_ofStep fun block _ => ?_
  exact .ok ⟨rfl, inStep.reachable⟩

/-- The end of a block stacks its layer and lets go of the block. -/
theorem closeBlock_agrees (inStep : registers.InStep dialect) {current : OpenBlock Layer}
    (opened : registers.current = some current) :
    Agrees dialect
      (do let closed ← registers.closeBlock; return { closed with stage := .between })
      (Dialect.endBlock registers.toRun) := by
  -- The run that the registers stand for is inside this block.
  have phase : registers.toRun.phase = .inBlock current := by simp [toRun, opened]
  simp only [closeBlock, Dialect.endBlock, opened, phase, bind_assoc]
  refine .bind_ofStep fun layer _ => ?_
  rw [stack_eq_pushLast]
  exact .ok ⟨rfl, inStep.reachable⟩

/-- A line does to registers in step what it does to a run, as content always holds a token. -/
theorem apply_agrees (inStep : registers.InStep dialect) (number : Nat) {line : Line}
    (nonempty : ∀ text indented, line = .content text indented → Token.split text ≠ []) :
    Agrees dialect (registers.apply dialect number line)
      (dialect.step number registers.toRun line) := by
  obtain ⟨stage, scope, current, overlays⟩ := registers
  -- The stage tells whether there is a block, and so the phase.
  cases line with
  | comment => exact .ok inStep
  | blank =>
    cases stage with
    | beforeBlocks | between =>
      obtain rfl : current = none := inStep.current_eq_none rfl
      exact .ok inStep
    | inHeader | inBody =>
      obtain ⟨block, rfl⟩ := inStep.exists_current rfl
      exact closeBlock_agrees inStep rfl
  | declaration text =>
    cases stage with
    | beforeBlocks =>
      obtain rfl : current = none := inStep.current_eq_none rfl
      exact declare_agrees inStep fun scope declared => .declare inStep.reachable declared
    | between =>
      obtain rfl : current = none := inStep.current_eq_none rfl
      exact .error .unexpectedVariable
    | inHeader | inBody =>
      obtain ⟨block, rfl⟩ := inStep.exists_current rfl
      exact .error .unexpectedVariable
  | title text =>
    cases stage with
    | beforeBlocks | between =>
      obtain rfl : current = none := inStep.current_eq_none rfl
      exact .ok ⟨rfl, inStep.reachable⟩
    | inHeader | inBody =>
      obtain ⟨block, rfl⟩ := inStep.exists_current rfl
      exact .error .unexpectedTitle
  | content text indented =>
    have tokens := nonempty text indented rfl
    cases stage with
    | beforeBlocks =>
      obtain rfl : current = none := inStep.current_eq_none rfl
      simp only [apply, Dialect.step, toRun]
      -- At the margin, content is a declaration or a header by its first token.
      split
      · exact declare_agrees inStep fun scope declared => .declareBare inStep.reachable declared
      · exact openBlock_agrees inStep tokens number
    | between =>
      obtain rfl : current = none := inStep.current_eq_none rfl
      simp only [apply, Dialect.step, toRun]
      split
      · exact .error .unexpectedVariable
      · exact openBlock_agrees inStep tokens number
    | inHeader | inBody =>
      obtain ⟨block, rfl⟩ := inStep.exists_current rfl
      simp only [apply, Dialect.step, toRun]
      -- An indented line goes on with the block, and any other is refused.
      split
      · exact continueBlock_agrees inStep rfl text
      · exact .error (.malformedList text)

/-- A line of text is fed as a run reads it. -/
theorem feed_agrees (inStep : registers.InStep dialect) (number : Nat) (raw : Text) :
    Agrees dialect (registers.feed dialect number raw)
      (dialect.readLine number registers.toRun raw) :=
  (apply_agrees inStep number fun _ _ line => Line.split_ne_nil_of_content line).located number

/-- Lines are fed as a run reads them. -/
theorem feedAll_agrees (inStep : registers.InStep dialect) (number : Nat) (lines : List Text) :
    Agrees dialect (registers.feedAll dialect number lines)
      (dialect.readLines number registers.toRun lines) := by
  induction lines generalizing registers number with
  | nil => exact .ok inStep
  | cons raw rest ih =>
    unfold feedAll Dialect.readLines
    -- The first line ends both, or the others are fed to registers in step.
    generalize registers.feed dialect number raw = machine,
      dialect.readLine number registers.toRun raw = run, feed_agrees inStep number raw = first
    cases first with
    | error fault => exact .error fault
    | ok nextInStep => exact ih nextInStep (number + 1)

/-- The end of the lines is the same for registers and runs, and makes no test that fails. -/
theorem finish_eq (registers : Registers Layer) :
    registers.finish = Exit.ofStep (Dialect.complete registers.toRun) := by
  obtain ⟨stage, scope, current, overlays⟩ := registers
  cases current with
  | none => cases stage <;> rfl
  | some current =>
    -- A block that is still open is built at the end, and nothing else can fail there.
    simp only [finish, closeBlock, Dialect.complete, Dialect.endBlock, toRun]
    cases current.build with
    | error fault => rfl
    | ok layer =>
      simp only [Exit.ofStep_ok_bind, stack_eq_pushLast]
      rfl

/-- Inflating by registers is inflating, and no test of the registers fails. -/
theorem inflate_eq (lines : List Text) :
    inflate dialect lines = Exit.ofStep (dialect.inflateLines lines) := by
  unfold inflate Dialect.inflateLines
  -- The lines are fed in step, and what is left is the end of the lines.
  have agrees : Agrees dialect ((start dialect).feedAll dialect 0 lines)
      (dialect.readLines 0 dialect.start lines) := feedAll_agrees inStep_start 0 lines
  generalize (start dialect).feedAll dialect 0 lines = machine,
    dialect.readLines 0 dialect.start lines = run at agrees
  cases agrees with
  | error fault => rfl
  | @ok next inStep => exact finish_eq next

/-- Registers that have been fed tell the state of the run, and they are in step. -/
theorem readLines_of_feedAll (inStep : registers.InStep dialect) {number : Nat}
    {lines : List Text} {later : Registers Layer}
    (fed : registers.feedAll dialect number lines = .ok later) :
    dialect.readLines number registers.toRun lines = .ok later.toRun ∧ later.InStep dialect := by
  -- Agreement is stated for the outcomes, and registers come out of one case only.
  have agrees := feedAll_agrees inStep number lines
  rw [fed] at agrees
  generalize dialect.readLines number registers.toRun lines = run at agrees
  cases agrees with
  | ok laterInStep => exact ⟨rfl, laterInStep⟩

/-- For registers in step, the first stage is the first phase. -/
theorem InStep.stage_eq_iff (inStep : registers.InStep dialect) :
    registers.stage = .beforeBlocks ↔ registers.toRun.phase = .preamble := by
  obtain ⟨stage, scope, current, overlays⟩ := registers
  -- Two of the stages have no block and two have one, so the first of them is told by the phase.
  cases stage with
  | beforeBlocks | between =>
    obtain rfl : current = none := inStep.current_eq_none rfl
    simp [toRun]
  | inHeader | inBody =>
    obtain ⟨block, rfl⟩ := inStep.exists_current rfl
    simp [toRun]

/-- What holds of the registers whenever some lines have been fed. -/
structure Kept (dialect : Dialect Layer) (lines : List Text) (registers : Registers Layer) :
    Prop where
  /-- A block is held exactly at the stages for that. -/
  current_iff : registers.current.isSome = true ↔
    registers.stage = .inHeader ∨ registers.stage = .inBody
  /-- The first stage lasts exactly until a line is accepted as a header. -/
  beforeBlocks_iff : registers.stage = .beforeBlocks ↔ ¬ dialect.Headed lines
  /-- Further lines never lead back to the first stage. -/
  left_for_good : registers.stage ≠ .beforeBlocks → ∀ more later,
    registers.feedAll dialect lines.length more = .ok later → later.stage ≠ .beforeBlocks
  /-- Every value of a variable holds a token. -/
  value_holds_token : ∀ name value, registers.scope.find? name = some value →
    Token.split value ≠ []
  /-- A layer that is built at the end of the block comes behind all others. -/
  layer_kept : ∀ current layer, registers.current = some current →
    current.builder current.block = .ok layer → ∃ closed, registers.closeBlock = .ok closed ∧
      layers closed.overlays = layers registers.overlays ++ [layer]

/-- Registers that have been fed from the start are kept in step. -/
theorem kept_of_feedAll {lines : List Text}
    (fed : (start dialect).feedAll dialect 0 lines = .ok registers) :
    Kept dialect lines registers := by
  obtain ⟨read, inStep⟩ := readLines_of_feedAll inStep_start fed
  rw [toRun_start] at read
  refine ⟨?_, ?_, fun left more later fedMore => ?_, fun name value found => ?_,
    fun current layer opened built => ?_⟩
  · -- A block is open in two of the four stages.
    rw [inStep.isSome_eq]
    cases registers.stage <;> simp [Stage.isOpen]
  · -- The first stage lasts as long as no header has been read.
    rw [inStep.stage_eq_iff]
    exact Dialect.preamble_iff_not_headed read
  · -- The header that ended the first stage is still among the lines.
    obtain ⟨readMore, laterInStep⟩ := readLines_of_feedAll inStep fedMore
    have readAll : dialect.readLines 0 dialect.start (lines ++ more) = .ok later.toRun := by
      rw [Dialect.readLines_append_of_ok read, Nat.zero_add, readMore]
    rw [Ne, inStep.stage_eq_iff, Dialect.preamble_iff_not_headed read, not_not] at left
    rw [Ne, laterInStep.stage_eq_iff, Dialect.preamble_iff_not_headed readAll, not_not]
    exact left.append more
  · -- A value was split into tokens when it was declared, and it had one at least.
    exact Token.split_ne_nil (inStep.reachable.anchored name value found).2
  · have made : current.build = .ok layer := by simp [OpenBlock.build, built]
    refine ⟨{ registers with current := none, overlays := stack layer registers.overlays }, ?_,
      layers_stack layer registers.overlays⟩
    simp only [closeBlock, opened, made, Exit.ofStep_ok_bind]
    rfl

/--
A run in registers is the run over the lines, whatever its grammar and its builders are.

No test that it makes of its registers ever fails, and while it lasts the registers are in step.
-/
theorem inflate_keeps_registers (dialect : Dialect Layer) (lines : List Text) :
    (inflate dialect lines).mapError Exit.fault = dialect.inflateLines lines ∧
      (∀ exit, inflate dialect lines = .error exit → exit.guard = none) ∧
      (((start dialect).feedAll dialect 0 lines).map toRun).mapError Exit.fault =
        dialect.readLines 0 dialect.start lines ∧
      ∀ registers, (start dialect).feedAll dialect 0 lines = .ok registers →
        Kept dialect lines registers := by
  refine ⟨?_, fun exit failed => ?_, (feedAll_agrees inStep_start 0 lines).map_eq, fun registers =>
    kept_of_feedAll⟩
  · -- Equality has been shown already, and a fault is not changed on its way out.
    rw [inflate_eq]
    cases dialect.inflateLines lines with
    | ok overlays => rfl
    | error fault => rfl
  · -- An exit that was made from a fault carries no test.
    rw [inflate_eq] at failed
    obtain ⟨fault, _, rfl⟩ := mapError_eq_error_iff.1 failed
    rfl

/-- Behind a declaration and a header that refers to it, the registers hold a block. -/
theorem inflate_keeps_registers_header :
    ∃ registers : Registers Unit,
      (start { registry := Registry.empty.register "fill" fun _ => .ok () }).feedAll
        { registry := Registry.empty.register "fill" fun _ => .ok () } 0
        ["@side=left".toList, "fill @side".toList] = .ok registers ∧
      registers.stage = .inHeader ∧ registers.current.isSome = true := by
  -- The two lines are fed in turn, and the second of them opens the block.
  have fed : ∃ registers : Registers Unit,
      (start { registry := Registry.empty.register "fill" fun _ => .ok () }).feedAll
        { registry := Registry.empty.register "fill" fun _ => .ok () } 0
        ["@side=left".toList, "fill @side".toList] = .ok registers ∧
      registers.stage = .inHeader := ⟨_, rfl, rfl⟩
  obtain ⟨registers, fed, stage⟩ := fed
  have kept := (inflate_keeps_registers _ _).2.2.2 registers fed
  exact ⟨registers, fed, stage, kept.current_iff.2 (.inl stage)⟩

end Registers

end OverlaySheet
