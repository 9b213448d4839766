import OverlaySheet.Overlay
import OverlaySheet.Registry
import OverlaySheet.Sheet.Line
import OverlaySheet.Sheet.Scope

/-! A run over the lines of a sheet, one line at a time. -/

namespace OverlaySheet

/-- A dialect of sheets: its grammar, and the builders of the layer types that it knows. -/
structure Dialect (Layer : Type) where
  grammar : Grammar := {}
  registry : Registry (Builder Layer)

/-- A block whose header has been read and whose layer is not built yet. -/
structure OpenBlock (Layer : Type) where
  /-- The line of the header. -/
  header : Nat
  builder : Builder Layer
  block : Block

/-- Where a run stands. -/
inductive Phase (Layer : Type) where
  /-- No block has begun, so variables may still be declared. -/
  | preamble
  /-- The last lines belong to a block. -/
  | inBlock (current : OpenBlock Layer)
  /-- The last block has ended. -/
  | between

/-- The state of a run. -/
structure Run (Layer : Type) where
  scope : Scope
  phase : Phase Layer := .preamble
  overlays : List (Overlay Layer) := []

namespace Block

/-- The block with a token as one more argument; the rule says whether its key may repeat. -/
def pushToken (rule : DuplicateRule) (block : Block) (token : Text) : Except Fault Block := do
  let argument ← Token.toArgument token
  if rule = .reject ∧ block.has argument.key then
    .error (.malformedLayer
      s!"duplicate argument '{argument.key}' for layer '{block.layerType}'")
  else return block.push argument

/-- The block with tokens as further arguments. -/
def pushTokens (rule : DuplicateRule) (block : Block) (tokens : List Text) : Except Fault Block :=
  tokens.foldlM (pushToken rule) block

end Block

namespace OpenBlock

variable {Layer : Type}

/-- The layer of a block that ends; a fault without a line gets that of the header. -/
def build (current : OpenBlock Layer) : Except Fault Layer :=
  match current.builder current.block with
  | .ok layer => .ok layer
  | .error failure => .error (failure.toFault.located current.header)

end OpenBlock

namespace Dialect

variable {Layer : Type}

/-- The run before the first line. -/
def start (dialect : Dialect Layer) : Run Layer where
  scope := { marker := dialect.grammar.variableMarker.toList }

/-- The block that tokens begin: a registered type, then arguments. -/
def beginBlock (dialect : Dialect Layer) (number : Nat) :
    List Text → Except Fault (OpenBlock Layer)
  | [] => .error (.malformedLayer "missing layer type")
  | token :: arguments => do
    let layerType := String.ofList token
    -- What follows a reference may have a value as well, so the expanded token is looked at.
    if Token.hasValue token then
      .error (.malformedLayer s!"expected a layer type before '{layerType}'")
    else match dialect.registry.find? layerType with
      | none => .error (dialect.registry.unknown layerType)
      | some builder =>
        let block ← Block.pushTokens dialect.grammar.duplicates { layerType } arguments
        return { header := number, builder, block }

/-- The run after a header line. -/
def readHeader (dialect : Dialect Layer) (number : Nat) (text : Text) (run : Run Layer) :
    Except Fault (Run Layer) := do
  let tokens ← run.scope.expandAll (Token.split text)
  let current ← dialect.beginBlock number tokens
  return { run with phase := .inBlock current }

/-- The run after a line that goes on with a block. -/
def extendBlock (dialect : Dialect Layer) (text : Text) (current : OpenBlock Layer)
    (run : Run Layer) : Except Fault (Run Layer) := do
  let tokens ← run.scope.expandAll (Token.split text)
  let block ← Block.pushTokens dialect.grammar.duplicates current.block tokens
  return { run with phase := .inBlock { current with block } }

/-- The run after the end of a block, if there is one to end. -/
def endBlock (run : Run Layer) : Except Fault (Run Layer) :=
  match run.phase with
  | .inBlock current => do
    let layer ← current.build
    return { run with phase := .between, overlays := Overlay.pushLast layer run.overlays }
  | _ => .ok run

/-- The run after a title, which begins an overlay; an empty title is none. -/
def beginOverlay (title : Text) (run : Run Layer) : Run Layer :=
  let title := if title.isEmpty then none else some (String.ofList title)
  { run with overlays := run.overlays ++ [{ title }] }

/-- The run after one more line. -/
def step (dialect : Dialect Layer) (number : Nat) (run : Run Layer) :
    Line → Except Fault (Run Layer)
  | .comment => .ok run
  | .blank => endBlock run
  | .declaration text =>
    match run.phase with
    | .preamble => do
      let scope ← run.scope.declare text
      return { run with scope }
    | _ => .error .unexpectedVariable
  | .title text =>
    match run.phase with
    | .inBlock _ => .error .unexpectedTitle
    | _ => .ok (beginOverlay text run)
  | .content text indented =>
    -- At the margin, a first token with a value is no layer type.
    let declares := !indented && Token.leadsWithValue text
    match run.phase with
    | .preamble =>
      if declares then do
        let scope ← run.scope.declareBare text
        return { run with scope }
      else dialect.readHeader number text run
    | .between =>
      if declares then .error .unexpectedVariable else dialect.readHeader number text run
    | .inBlock current =>
      -- A value in front goes on with the block at the margin too.
      if indented || Token.leadsWithValue text then dialect.extendBlock text current run
      else .error (.malformedList text)

/-- The run after one more line of text; a fault without a line gets this one. -/
def readLine (dialect : Dialect Layer) (number : Nat) (run : Run Layer) (raw : Text) :
    Except Fault (Run Layer) :=
  (dialect.step number run (Line.ofText dialect.grammar raw)).mapError (·.located number)

/-- The run after all of some lines, the first of which has the given number. -/
def readLines (dialect : Dialect Layer) (number : Nat) (run : Run Layer) :
    List Text → Except Fault (Run Layer)
  | [] => .ok run
  | raw :: rest => do
    let next ← dialect.readLine number run raw
    dialect.readLines (number + 1) next rest

/-- The overlays of a run that has read its last line, which ends the open block. -/
def complete (run : Run Layer) : Except Fault (List (Overlay Layer)) := do
  -- Open blocks end with the last line as they do at a blank one.
  let closed ← endBlock run
  return closed.overlays

/-- The overlays that lines describe. -/
def inflateLines (dialect : Dialect Layer) (lines : List Text) :
    Except Fault (List (Overlay Layer)) := do
  let run ← dialect.readLines 0 dialect.start lines
  complete run

/-- The overlays that a text describes. -/
def inflate (dialect : Dialect Layer) (text : Text) : Except Fault (List (Overlay Layer)) :=
  dialect.inflateLines text.lines

end Dialect

end OverlaySheet
