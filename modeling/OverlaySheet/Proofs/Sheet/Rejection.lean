import OverlaySheet.Proofs.Outcome
import OverlaySheet.Sheet.Run

/-! Rejected lines: the parser's own faults have no line, and those of builders get a header's. -/

namespace OverlaySheet

/-- Whatever a step fails with has no line yet. -/
def Unplaced {Value : Type} (step : Except Fault Value) : Prop :=
  ∀ fault, step = .error fault → fault.line = none

namespace Unplaced

variable {Value Result : Type}

/-- Success is no fault. -/
theorem ok {value : Value} : Unplaced (.ok value) :=
  FailsOnly.ok

/-- A fault without a line has none. -/
theorem error {fault : Fault} (without : fault.line = none) :
    Unplaced (.error fault : Except Fault Value) :=
  FailsOnly.error without

/-- A chain of steps fails where one of them does. -/
theorem bind {first : Except Fault Value} {second : Value → Except Fault Result}
    (here : Unplaced first) (after : ∀ value, Unplaced (second value)) :
    Unplaced (first >>= second) :=
  FailsOnly.bind here after

/-- A fold fails where one of its steps does. -/
theorem foldlM {change : Result → Value → Except Fault Result}
    (step : ∀ result value, Unplaced (change result value)) (values : List Value)
    (result : Result) : Unplaced (values.foldlM change result) := by
  -- The result changes from step to step, so the induction is for any of them.
  induction values generalizing result with
  | nil => exact ok
  | cons value rest ih => exact bind (step result value) ih

end Unplaced

/-- A token that is no argument is refused without a line. -/
theorem Token.toArgument_unplaced (token : Text) : Unplaced (Token.toArgument token) := by
  -- The token is cut at its sign, and only an empty key is refused.
  unfold toArgument
  split
  split
  · exact .error rfl
  · exact .ok

/-- Tokens that cannot be pushed are refused without a line. -/
theorem Block.pushTokens_unplaced (rule : DuplicateRule) (block : Block) (tokens : List Text) :
    Unplaced (pushTokens rule block tokens) := by
  refine Unplaced.foldlM (fun block token => ?_) tokens block
  -- A token fails to be read, or its key repeats.
  refine (Token.toArgument_unplaced token).bind fun argument => ?_
  split
  · exact .error rfl
  · exact .ok

namespace Scope

/-- A fault is that of a reference to a name that is not declared. -/
def Misses (scope : Scope) (fault : Fault) : Prop :=
  ∃ name, scope.find? name = none ∧ fault = .undeclared name

/-- A missing name is told without a line. -/
theorem Misses.line_eq {scope : Scope} {fault : Fault} (misses : scope.Misses fault) :
    fault.line = none := by
  -- Such a fault is made from the name alone.
  obtain ⟨_, _, rfl⟩ := misses
  rfl

/-- A name is refused when it is not declared. -/
theorem fetch_failsOnly (scope : Scope) (name : Text) :
    FailsOnly scope.Misses (scope.fetch name) := by
  unfold fetch
  -- The name is looked up, and there is one way for that to fail.
  split
  · exact .ok
  · next unknown => exact .error ⟨name, unknown, rfl⟩

/-- A token is refused for the name that it refers to. -/
theorem expand_failsOnly (scope : Scope) (token : Text) :
    FailsOnly scope.Misses (scope.expand token) := by
  unfold expand
  -- The token refers as a whole, or its value half does, or it stays as it is.
  split
  · exact (scope.fetch_failsOnly _).map
  · split
    split
    · exact (scope.fetch_failsOnly _).map
    · exact .ok

/-- Tokens are refused for the first of them that is. -/
theorem expandAll_failsOnly (scope : Scope) (tokens : List Text) :
    FailsOnly scope.Misses (scope.expandAll tokens) := by
  -- The first token is expanded before the others, and an empty list cannot fail.
  induction tokens with
  | nil => exact .ok
  | cons token rest ih => exact (scope.expand_failsOnly token).bind fun _ => ih.bind fun _ => .ok

/-- A declared value is refused for a name that it refers to. -/
theorem resolve_failsOnly (scope : Scope) (value : Text) :
    FailsOnly scope.Misses (scope.resolve value) := by
  unfold resolve
  -- Only a value that refers to something is expanded.
  split
  · exact .ok
  · exact (scope.expandAll_failsOnly _).bind fun _ => .ok

/-- Tokens are refused without a line. -/
theorem expandAll_unplaced (scope : Scope) (tokens : List Text) :
    Unplaced (scope.expandAll tokens) :=
  (scope.expandAll_failsOnly tokens).mono fun _ => Misses.line_eq

/-- A declaration is refused for its form or for a name that its value refers to. -/
theorem declareAs_failsOnly (scope : Scope) (written text : Text) :
    FailsOnly (fun fault => fault = .malformedVariable written ∨ scope.Misses fault)
      (scope.declareAs written text) := by
  unfold declareAs
  -- The form is read first, and with it the value can be resolved.
  split
  · exact .error (.inl rfl)
  · exact ((scope.resolve_failsOnly _).mono fun _ => .inr).bind fun _ => .ok

/-- Either way, it is refused without a line. -/
theorem declareAs_unplaced (scope : Scope) (written text : Text) :
    Unplaced (scope.declareAs written text) := by
  refine (scope.declareAs_failsOnly written text).mono fun fault own => ?_
  -- Neither of the two kinds of fault knows a line.
  rcases own with rfl | misses
  · rfl
  · exact misses.line_eq

end Scope

namespace Dialect

variable {Layer : Type} {dialect : Dialect Layer}

/-- A block is refused for its type or for an argument. -/
theorem beginBlock_unplaced (number : Nat) (tokens : List Text) :
    Unplaced (dialect.beginBlock number tokens) := by
  -- The type is looked at first, then the builder is looked up, and then the arguments are pushed.
  cases tokens with
  | nil => exact .error rfl
  | cons token arguments =>
    simp only [beginBlock]
    split
    · exact .error rfl
    · cases dialect.registry.find? (String.ofList token) with
      | none => exact .error rfl
      | some builder => exact (Block.pushTokens_unplaced _ _ arguments).bind fun _ => .ok

/-- A header line is refused for a reference or for the block that it begins. -/
theorem readHeader_unplaced (number : Nat) (text : Text) (run : Run Layer) :
    Unplaced (dialect.readHeader number text run) :=
  (run.scope.expandAll_unplaced _).bind fun tokens =>
    (beginBlock_unplaced number tokens).bind fun _ => .ok

/-- A further line of a block is refused for a reference or for an argument. -/
theorem extendBlock_unplaced (text : Text) (current : OpenBlock Layer) (run : Run Layer) :
    Unplaced (dialect.extendBlock text current run) :=
  (run.scope.expandAll_unplaced _).bind fun tokens =>
    (Block.pushTokens_unplaced _ _ tokens).bind fun _ => .ok

/-- A line that is not blank ends no block, so no builder is asked and the fault has no line. -/
theorem step_unplaced {line : Line} (notBlank : line ≠ .blank) (number : Nat) (run : Run Layer) :
    Unplaced (dialect.step number run line) := by
  cases line with
  | blank => exact absurd rfl notBlank
  | comment => exact .ok
  | declaration text =>
    simp only [step]
    split
    · exact (run.scope.declareAs_unplaced _ text).bind fun _ => .ok
    · exact .error rfl
  | title text =>
    simp only [step]
    split
    · exact .error rfl
    · exact .ok
  | content text indented =>
    simp only [step]
    split
    · -- Before the first block, the line is a declaration or a header.
      split
      · exact (run.scope.declareAs_unplaced _ text).bind fun _ => .ok
      · exact readHeader_unplaced number text run
    · -- Between blocks, declarations come too late.
      split
      · exact .error rfl
      · exact readHeader_unplaced number text run
    · -- Inside a block, the line must go on with it.
      split
      · exact extendBlock_unplaced text _ run
      · exact .error rfl

end Dialect

/--
The fault that a builder's failure is, for a block with a header on a line.

A fault of the error model keeps all that it says, and its line if it has one.
Any other failure becomes the cause of a fault without arguments.
-/
def Failure.placed (header : Nat) : Failure → Fault
  | .tagged own => { own with line := some (own.line.getD header) }
  | .untagged text =>
    { kind := .layerFailed, line := some header, cause := some (.untagged text), args := [] }

/-- Where a failure is taken for a fault, it gets the line of the header. -/
theorem Failure.located_toFault (failure : Failure) (header : Nat) :
    failure.toFault.located header = failure.placed header := by
  cases failure with
  | untagged text => rfl
  | tagged own =>
    -- The line stays when there is one.
    cases known : own.line <;> simp [Failure.toFault, Fault.located, Failure.placed, known]

/-- Every placed failure has a line. -/
theorem Failure.exists_placed_line (failure : Failure) (header : Nat) :
    ∃ line, (failure.placed header).line = some line := by
  -- A fault that tells no line of its own gets the one of the header.
  cases failure with
  | untagged text => exact ⟨header, rfl⟩
  | tagged own => exact ⟨own.line.getD header, rfl⟩

/-- A fault that has a line already stays as it is. -/
theorem Fault.located_of_line {fault : Fault} {line : Nat} (placed : fault.line = some line)
    (number : Nat) : fault.located number = fault := by
  cases fault with
  | mk kind own detail cause args =>
    -- The line is the only part that could change.
    obtain rfl : own = some line := placed
    rfl

namespace Dialect

variable {Layer : Type}

/-- The end of a block fails exactly when its builder does. -/
theorem endBlock_eq_error_iff {run : Run Layer} {fault : Fault} :
    endBlock run = .error fault ↔
      ∃ current failure, run.phase = .inBlock current ∧
        current.builder current.block = .error failure ∧
        fault = failure.placed current.header := by
  cases opened : run.phase with
  | preamble => simp [endBlock, opened]
  | between => simp [endBlock, opened]
  | inBlock current =>
    -- The builder is only called for a block that is open.
    cases built : current.builder current.block with
    | ok layer => simp [endBlock, opened, OpenBlock.build, built, Functor.map, Except.map]
    | error failure =>
      simp [endBlock, opened, OpenBlock.build, built, Failure.located_toFault, Functor.map,
        Except.map, @eq_comm _ fault]

end Dialect

end OverlaySheet
