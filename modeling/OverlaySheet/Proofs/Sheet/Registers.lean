import OverlaySheet.Proofs.Sheet.Chapters
import OverlaySheet.Proofs.Sheet.Line
import OverlaySheet.Proofs.Sheet.Progress

/-! Runs in registers: the stage and the open block are kept apart, and they stay in step. -/

namespace OverlaySheet

/-- Where a run stands, whether or not it holds an open block. -/
inductive Stage where
  /-- No block has begun. -/
  | beforeBlocks
  /-- The header of a block has been read. -/
  | inHeader
  /-- A further line of a block has been read. -/
  | inBody
  /-- The last block has ended. -/
  | between
deriving DecidableEq

/-- Whether a block is open at a stage. -/
def Stage.isOpen : Stage → Bool
  | inHeader | inBody => true
  | beforeBlocks | between => false

/-- What a run remembers, in registers that nothing but its own steps keeps in step. -/
structure Registers (Layer : Type) where
  stage : Stage := .beforeBlocks
  scope : Scope
  current : Option (OpenBlock Layer) := none
  overlays : List (Overlay Layer) := []

/-- The tests that a run makes of its own registers. -/
inductive Guard where
  /-- A header has a token left for the layer type. -/
  | layerType
  /-- A further line finds the block that it goes on with. -/
  | openBlock
  /-- A variable that has just been bound is found. -/
  | boundVariable

/-- Why a run stops: a fault, and the test of the registers that failed if it was one. -/
structure Exit where
  fault : Fault
  guard : Option Guard := none

namespace Exit

/-- A step that makes no test of the registers. -/
def ofStep {Value : Type} (step : Except Fault Value) : Except Exit Value :=
  step.mapError fun fault => { fault }

/-- The exit at a line, unless its fault has a line already. -/
def located (exit : Exit) (line : Nat) : Exit :=
  { exit with fault := exit.fault.located line }

end Exit

/-- Carries out a declaration and looks up what it has bound. -/
def Scope.declareTested (scope : Scope) (written text : Text) : Except Exit Scope :=
  match Declaration.read? text with
  | none => .error { fault := .malformedVariable written }
  | some declaration => do
    let value ← Exit.ofStep (scope.resolve declaration.value)
    let next := scope.bind declaration.name value
    match next.find? declaration.name with
    | some _ => return next
    | none => .error { fault := .malformedVariable written, guard := some .boundVariable }

namespace Registers

variable {Layer : Type}

/-- The registers before the first line. -/
def start (dialect : Dialect Layer) : Registers Layer where
  scope := { marker := dialect.grammar.variableMarker.toList }

/-- Opens the block that a header line begins. -/
def openBlock (dialect : Dialect Layer) (number : Nat) (text : Text)
    (registers : Registers Layer) : Except Exit (Registers Layer) := do
  let tokens ← Exit.ofStep (registers.scope.expandAll (Token.split text))
  match tokens with
  | [] => .error { fault := .malformedLayer "missing layer type", guard := some .layerType }
  | tokens =>
    let current ← Exit.ofStep (dialect.beginBlock number tokens)
    return { registers with current := some current }

/-- Extends the open block by a further line. -/
def continueBlock (dialect : Dialect Layer) (text : Text) (registers : Registers Layer) :
    Except Exit (Registers Layer) := do
  let tokens ← Exit.ofStep (registers.scope.expandAll (Token.split text))
  match registers.current with
  | none =>
    .error { fault := .malformedLayer "arguments without a header", guard := some .openBlock }
  | some current =>
    let block ← Exit.ofStep (Block.pushTokens dialect.grammar.duplicates current.block tokens)
    return { registers with current := some { current with block } }

/-- Puts a layer into the last overlay of some, after an overlay is made sure of. -/
def stack (layer : Layer) (overlays : List (Overlay Layer)) : List (Overlay Layer) :=
  let overlays := if overlays.isEmpty then [{}] else overlays
  match overlays.getLast? with
  | some last => overlays.dropLast ++ [last.push layer]
  -- Without an overlay the layer would be lost.
  | none => overlays

/-- Takes the open block, if there is one, and stacks its layer. -/
def closeBlock (registers : Registers Layer) : Except Exit (Registers Layer) :=
  match registers.current with
  | none => .ok registers
  | some current => do
    let layer ← Exit.ofStep current.build
    return { registers with current := none, overlays := stack layer registers.overlays }

/-- The registers after one more line. -/
def apply (dialect : Dialect Layer) (number : Nat) (registers : Registers Layer) :
    Line → Except Exit (Registers Layer)
  | .comment => .ok registers
  | .blank =>
    match registers.stage with
    | .inHeader | .inBody => do
      let closed ← registers.closeBlock
      return { closed with stage := .between }
    | .beforeBlocks | .between => .ok registers
  | .declaration text =>
    match registers.stage with
    | .beforeBlocks => do
      let scope ← registers.scope.declareTested (registers.scope.marker ++ text) text
      return { registers with scope }
    | _ => .error { fault := .unexpectedVariable }
  | .title text =>
    match registers.stage with
    | .inHeader | .inBody => .error { fault := .unexpectedTitle }
    | .beforeBlocks | .between =>
      let title := if text.isEmpty then none else some (String.ofList text)
      .ok { registers with overlays := registers.overlays ++ [{ title }] }
  | .content text indented =>
    let declares := !indented && Token.leadsWithValue text
    match registers.stage with
    | .beforeBlocks =>
      if declares then do
        let scope ← registers.scope.declareTested text text
        return { registers with scope }
      else do
        let opened ← registers.openBlock dialect number text
        return { opened with stage := .inHeader }
    | .between =>
      if declares then .error { fault := .unexpectedVariable }
      else do
        let opened ← registers.openBlock dialect number text
        return { opened with stage := .inHeader }
    | .inHeader | .inBody =>
      if indented || Token.leadsWithValue text then do
        let extended ← registers.continueBlock dialect text
        return { extended with stage := .inBody }
      else .error { fault := .malformedList text }

/-- The registers after one more line of text; a fault without a line gets this one. -/
def feed (dialect : Dialect Layer) (number : Nat) (registers : Registers Layer) (raw : Text) :
    Except Exit (Registers Layer) :=
  (registers.apply dialect number (Line.ofText dialect.grammar raw)).mapError (·.located number)

/-- The registers after all of some lines, the first of which has the given number. -/
def feedAll (dialect : Dialect Layer) (number : Nat) (registers : Registers Layer) :
    List Text → Except Exit (Registers Layer)
  | [] => .ok registers
  | raw :: rest => do
    let next ← registers.feed dialect number raw
    next.feedAll dialect (number + 1) rest

/-- The overlays behind the last line, which ends the open block. -/
def finish (registers : Registers Layer) : Except Exit (List (Overlay Layer)) := do
  let closed ← registers.closeBlock
  return closed.overlays

/-- The overlays that lines describe. -/
def inflate (dialect : Dialect Layer) (lines : List Text) :
    Except Exit (List (Overlay Layer)) := do
  let last ← (start dialect).feedAll dialect 0 lines
  last.finish

/-- The registers as the state of a run, where an open block decides the phase. -/
def toRun (registers : Registers Layer) : Run Layer where
  scope := registers.scope
  phase := match registers.current, registers.stage with
    | some current, _ => .inBlock current
    | none, .beforeBlocks => .preamble
    | none, _ => .between
  overlays := registers.overlays

/-- A block is open exactly at the stages for that, and the variables come from declarations. -/
structure InStep (dialect : Dialect Layer) (registers : Registers Layer) : Prop where
  isSome_eq : registers.current.isSome = registers.stage.isOpen
  reachable : Scope.Reachable dialect.grammar.variableMarker.toList registers.scope

end Registers

end OverlaySheet
