import OverlaySheet.Proofs.Sheet.Attribution

/-! Lines under other numbers: a run does the same, and only the lines that it remembers change. -/

namespace OverlaySheet

/-- The fault with its line under another number, if it has one. -/
def Fault.moved (place : Nat → Nat) (fault : Fault) : Fault :=
  { fault with line := fault.line.map place }

/-- The block with its header under another number. -/
def OpenBlock.moved {Layer : Type} (place : Nat → Nat) (current : OpenBlock Layer) :
    OpenBlock Layer :=
  { current with header := place current.header }

/-- The phase with the header of the open block under another number. -/
def Phase.moved {Layer : Type} (place : Nat → Nat) : Phase Layer → Phase Layer
  | .inBlock current => .inBlock (current.moved place)
  | .preamble => .preamble
  | .between => .between

/-- The run with the header of the open block under another number. -/
def Run.moved {Layer : Type} (place : Nat → Nat) (run : Run Layer) : Run Layer :=
  { run with phase := run.phase.moved place }

/-- A fault without a line is the same under all numbers. -/
theorem Fault.moved_of_line {fault : Fault} (without : fault.line = none) (place : Nat → Nat) :
    fault.moved place = fault := by
  -- Moving acts on the line alone, and there is none.
  cases fault with
  | mk kind own detail cause args =>
    obtain rfl : own = none := without
    rfl

/-- A fault gets the other number of the line that it would have got. -/
@[simp] theorem Fault.moved_located (fault : Fault) (place : Nat → Nat) (number : Nat) :
    (fault.located number).moved place = (fault.moved place).located (place number) := by
  cases known : fault.line <;> simp [Fault.moved, Fault.located, known]

/-- The failure of a builder that tells no line is placed at the other number of the header. -/
theorem Failure.moved_placed {failure : Failure}
    (without : ∀ own, failure = .tagged own → own.line = none) (place : Nat → Nat)
    (header : Nat) : (failure.placed header).moved place = failure.placed (place header) := by
  -- Text gets the line of the header, and so does a fault without a line.
  cases failure with
  | untagged text => rfl
  | tagged own => simp [Failure.placed, Fault.moved, without own rfl]

/-- A run that has no block open has none under other numbers either. -/
theorem Run.closed_moved {Layer : Type} {run : Run Layer} (closed : run.Closed)
    (place : Nat → Nat) : (run.moved place).Closed := by
  obtain ⟨scope, phase, overlays⟩ := run
  -- Moving a run changes the line of its header and never the phase.
  cases phase with
  | inBlock current => exact absurd rfl (closed current)
  | preamble | between => nofun

namespace Dialect

variable {Layer : Type} {dialect : Dialect Layer} {place : Nat → Nat}

/-- The outcome of a step with all lines under other numbers. -/
def moveOutcome (place : Nat → Nat) (outcome : Except Fault (Run Layer)) :
    Except Fault (Run Layer) :=
  (outcome.map (·.moved place)).mapError (·.moved place)

/-- The block that tokens begin under another number. -/
theorem beginBlock_moved (place : Nat → Nat) (number : Nat) (tokens : List Text) :
    dialect.beginBlock (place number) tokens =
      (dialect.beginBlock number tokens).map (·.moved place) := by
  cases tokens with
  | nil => rfl
  | cons token arguments =>
    simp only [beginBlock]
    split
    · rfl
    · cases dialect.registry.find? (String.ofList token) with
      | none => rfl
      | some builder =>
        -- The arguments are the same, whatever the number of the header.
        cases Block.pushTokens dialect.grammar.duplicates { layerType := String.ofList token }
          arguments <;> rfl

/-- A header line under another number. -/
theorem readHeader_moved (place : Nat → Nat) (number : Nat) (text : Text) (run : Run Layer) :
    dialect.readHeader (place number) text (run.moved place) =
      (dialect.readHeader number text run).map (·.moved place) := by
  -- The tokens are expanded in a scope that moving does not touch.
  have same : (run.moved place).scope = run.scope := rfl
  simp only [readHeader, same]
  cases run.scope.expandAll (Token.split text) with
  | error fault => rfl
  | ok tokens =>
    simp only [Bind.bind, Except.bind, beginBlock_moved]
    cases dialect.beginBlock number tokens <;> rfl

/-- A further line of a block with its header under another number. -/
theorem extendBlock_moved (place : Nat → Nat) (text : Text) (current : OpenBlock Layer)
    (run : Run Layer) :
    dialect.extendBlock text (current.moved place) (run.moved place) =
      (dialect.extendBlock text current run).map (·.moved place) := by
  -- Neither the scope nor the arguments of the block hold a number.
  have same : (run.moved place).scope = run.scope := rfl
  simp only [extendBlock, same]
  cases run.scope.expandAll (Token.split text) with
  | error fault => rfl
  | ok tokens =>
    have sameBlock : (current.moved place).block = current.block := rfl
    simp only [Bind.bind, Except.bind, sameBlock]
    cases Block.pushTokens dialect.grammar.duplicates current.block tokens <;> rfl

/-- A declaration does not depend on numbers. -/
theorem declared_moved (place : Nat → Nat) (run : Run Layer) (declared : Except Fault Scope) :
    (do let scope ← declared; return { run.moved place with scope }) =
      (do let scope ← declared; return { run with scope } : Except Fault (Run Layer)).map
        (·.moved place) := by
  cases declared <;> rfl

/-- A line that is not blank does the same under another number. -/
theorem step_moved {line : Line} (notBlank : line ≠ .blank) (place : Nat → Nat) (number : Nat)
    (run : Run Layer) :
    dialect.step (place number) (run.moved place) line =
      (dialect.step number run line).map (·.moved place) := by
  obtain ⟨scope, phase, overlays⟩ := run
  cases line with
  -- A blank line is left out, as it ends a block and may fail with the line of the header.
  | blank => exact absurd rfl notBlank
  | comment => rfl
  | declaration text =>
    cases phase with
    | preamble => exact declared_moved place _ (scope.declare text)
    | inBlock | between => rfl
  | title text => cases phase <;> rfl
  | content text indented =>
    cases phase with
    | preamble =>
      simp only [step, Run.moved, Phase.moved]
      split
      · exact declared_moved place { scope, phase := .preamble, overlays } (scope.declareBare text)
      · exact readHeader_moved place number text { scope, phase := .preamble, overlays }
    | between =>
      simp only [step, Run.moved, Phase.moved]
      split
      · rfl
      · exact readHeader_moved place number text { scope, phase := .between, overlays }
    | inBlock current =>
      simp only [step, Run.moved, Phase.moved]
      split
      · exact extendBlock_moved place text current { scope, phase := .inBlock current, overlays }
      · rfl

/-- The builder of the block that a run has open, if there is one, tells no lines. -/
def BuildsLineless (run : Run Layer) : Prop :=
  ∀ current, run.phase = .inBlock current →
    ∀ own, current.builder current.block = .error (.tagged own) → own.line = none

/-- The end of a block under other numbers. -/
theorem endBlock_moved {run : Run Layer} (lineless : BuildsLineless run) (place : Nat → Nat) :
    endBlock (run.moved place) = moveOutcome place (endBlock run) := by
  obtain ⟨scope, phase, overlays⟩ := run
  cases phase with
  -- Without a block there is nothing to build.
  | preamble | between => rfl
  | inBlock current =>
    have sameBuilder : (current.moved place).builder = current.builder := rfl
    have sameBlock : (current.moved place).block = current.block := rfl
    simp only [endBlock, Run.moved, Phase.moved, OpenBlock.build, sameBuilder, sameBlock]
    cases built : current.builder current.block with
    | ok layer => rfl
    | error failure =>
      -- The fault has the line of the header, because the builder told none.
      have without : ∀ own, failure = .tagged own → own.line = none := by
        rintro own rfl
        exact lineless current rfl own built
      have placed := Failure.moved_placed without place current.header
      simp only [Failure.located_toFault]
      exact congrArg Except.error placed.symm

/-- A line is read under another number as under its own. -/
theorem readLine_moved {run : Run Layer} (lineless : BuildsLineless run) (place : Nat → Nat)
    (number : Nat) (raw : Text) :
    dialect.readLine (place number) (run.moved place) raw =
      moveOutcome place (dialect.readLine number run raw) := by
  simp only [readLine]
  have stepped : dialect.step (place number) (run.moved place) (Line.ofText dialect.grammar raw) =
      moveOutcome place (dialect.step number run (Line.ofText dialect.grammar raw)) := by
    -- A blank line may fail with the line of a header, and any other fails without a line.
    by_cases blank : Line.ofText dialect.grammar raw = .blank
    · rw [blank]
      exact endBlock_moved lineless place
    · rw [step_moved blank]
      have unplaced : Unplaced (dialect.step number run (Line.ofText dialect.grammar raw)) :=
        step_unplaced blank number run
      cases outcome : dialect.step number run (Line.ofText dialect.grammar raw) with
      | ok next => rfl
      | error fault =>
        -- A fault of the parser has no line that could move.
        exact congrArg Except.error (Fault.moved_of_line (unplaced fault outcome) place).symm
  rw [stepped]
  cases dialect.step number run (Line.ofText dialect.grammar raw) with
  | ok next => rfl
  | error fault => exact congrArg Except.error (Fault.moved_located fault place number).symm

/-- The end of all lines under other numbers. -/
theorem complete_moved {run : Run Layer} (lineless : BuildsLineless run) (place : Nat → Nat) :
    complete (run.moved place) = (complete run).mapError (·.moved place) := by
  simp only [complete, endBlock_moved lineless]
  -- The overlays of the last run hold no numbers.
  cases endBlock run <;> rfl

/-- A run from the start has a builder of the registry. -/
theorem Lineless.buildsLineless (lineless : dialect.Lineless) {lines : List Text}
    {run : Run Layer} (read : dialect.readLines 0 dialect.start lines = .ok run) :
    BuildsLineless run := by
  -- The block was begun by a header, and that asked the registry.
  intro current opened own built
  obtain ⟨name, found⟩ := (began_of_readLines read opened).registered
  exact lineless name current.builder current.block own found built

end Dialect

end OverlaySheet
