import OverlaySheet.Fault.Kind
import OverlaySheet.Json.Printer

/-! Faults: what inflating a sheet can fail with, and how a fault is worded. -/

namespace OverlaySheet

/-- What lies under a failure: an error known by its text alone, or one of the error model. -/
inductive Cause (Tagged : Type) where
  | untagged (text : String)
  | tagged (error : Tagged)

/--
A failure of inflating a sheet.

Hosts word it by its kind and arguments; the line counts from zero.
The detail, when given, takes the place of the wording that follows from the kind.
-/
structure Fault where
  kind : Fault.Kind
  line : Option Nat := none
  detail : Option String := none
  cause : Option (Cause Fault) := none
  args : List Value := []

/-- What a layer builder fails with. -/
abbrev Failure := Cause Fault

namespace Fault

/-- A text as an argument. -/
def textArg (text : Text) : Value :=
  .string (String.ofList text)

/-- A line continues a block that it does not belong to. -/
def malformedList (line : Text) : Fault :=
  { kind := .malformedList, args := [textArg line] }

/-- A declaration is not a name, an equals sign and a value. -/
def malformedVariable (declaration : Text) : Fault :=
  { kind := .malformedVariable, args := [textArg declaration] }

/-- A variable is declared after the first block began. -/
def unexpectedVariable : Fault :=
  { kind := .unexpectedVariable }

/-- A reference names no declared variable. -/
def undeclared (name : Text) : Fault :=
  { kind := .variableNotFound, args := [textArg name] }

/-- A title stands inside a block. -/
def unexpectedTitle : Fault :=
  { kind := .unexpectedTitle }

/-- A block has a type that no builder is registered for. -/
def unknownLayerType (layerType : String) (known : List String) : Fault :=
  { kind := .unknownLayerType, args := [.string layerType, .strings known] }

/-- A block is not written as a type followed by arguments. -/
def malformedLayer (detail : String) : Fault :=
  { kind := .malformedLayer, detail := some detail }

/-- A builder failed for a reason outside of the error model. -/
def layerFailed (cause : Failure) : Fault :=
  { kind := .layerFailed, cause := some cause }

/-- An argument that is needed is not there. -/
def missingArgument (layerType argument expected : String) : Fault :=
  { kind := .argumentMissing, args := [.string layerType, .string argument, .string expected] }

/-- An argument is not one of the accepted words. -/
def unlistedArgument (layerType argument : String) (actual : Option String)
    (accepted : List String) : Fault :=
  { kind := .argumentNotOneOf
    args := [.string layerType, .string argument, .ofString? actual, .strings accepted] }

/-- An argument is not a positive number. -/
def nonPositiveArgument (layerType argument sample : String) : Fault :=
  { kind := .argumentNotPositive, args := [.string layerType, .string argument, .string sample] }

/-- An argument is not of the type it must have. -/
def wrongArgument (layerType argument expected sample : String) : Fault :=
  { kind := .argumentWrongType
    args := [.string layerType, .string argument, .string expected, .string sample] }

/-- The fault at a line, unless it has a line already. -/
def located (fault : Fault) (line : Nat) : Fault :=
  { fault with line := fault.line <|> some line }

/-- How many numbers hosts tell lines apart by: those of 64 bits. -/
def lineModulus : Nat := 18446744073709551616

/--
The line as hosts see it, where minus one says that there is none.

Hosts take the 64 bits to have a sign, so the upper half of all lines becomes negative.
-/
def lineNumber (fault : Fault) : Int :=
  match fault.line with
  | some line => Int.bmod line lineModulus
  | none => -1

/-- An item of a list in the wording: a string as it is, all else as JSON. -/
def itemText : Value → String
  | .string s => s
  | value => String.ofList (Json.compact value)

/-- An argument in the wording. -/
def argText : Option Value → String
  | some (.string s) => s
  | some (.array items) => ", ".intercalate (items.map itemText)
  | some .null | none => "<none>"
  | some value => String.ofList (Json.compact value)

/-- The wording that follows from a kind and the arguments. -/
def wording (kind : Kind) (args : List Value) : String :=
  let first := argText args[0]?
  let second := argText args[1]?
  let third := argText args[2]?
  let fourth := argText args[3]?
  match kind with
  | .generic => "inflation failed"
  | .malformedList =>
    s!"malformed list syntax at '{first}': blocks must be separated by a blank line"
  | .malformedVariable => s!"malformed variable declaration '{first}'"
  | .unexpectedVariable => "variables must be declared before the first layer"
  | .variableNotFound => s!"variable '{first}' is not declared"
  | .unexpectedTitle => "title must follow a blank line or start the config"
  | .unknownLayerType => s!"unknown layer type '{first}' (known types: {second})"
  | .malformedLayer => "malformed layer declaration"
  | .layerFailed => "failed to inflate layer"
  | .argumentMissing => s!"layer '{first}' requires argument '{second}' of type {third}"
  | .argumentNotOneOf =>
    s!"layer '{first}' argument '{second}' is '{third}', expected one of: {fourth}"
  | .argumentNotPositive =>
    s!"layer '{first}' requires a positive argument '{second}', e.g. {third}"
  | .argumentWrongType =>
    s!"layer '{first}' requires argument '{second}' of type {third}, e.g. {fourth}"

/-- The wording without the cause: where, what kind, and what happened. -/
def headline (kind : Kind) (line : Option Nat) (detail : Option String) (args : List Value) :
    String :=
  -- A line that is not known is left out, together with its colon.
  let place := match line with
    | some line => s!"line {line}: "
    | none => ""
  let body := detail.getD (wording kind args)
  s!"{place}{kind.name}: {body}"

/-- The full wording, with the cause in parentheses behind. -/
def message : Fault → String
  | ⟨kind, line, detail, none, args⟩ => headline kind line detail args
  | ⟨kind, line, detail, some (.untagged text), args⟩ =>
    headline kind line detail args ++ " (" ++ text ++ ")"
  | ⟨kind, line, detail, some (.tagged fault), args⟩ =>
    headline kind line detail args ++ " (" ++ fault.message ++ ")"

/-- The wordings of the cause, of the cause of the cause, and so on. -/
def sources : Fault → List String
  | ⟨_, _, _, none, _⟩ => []
  | ⟨_, _, _, some (.untagged text), _⟩ => [text]
  | ⟨_, _, _, some (.tagged fault), _⟩ => fault.message :: fault.sources

/-- The wording of the cause. -/
def causeMessage (fault : Fault) : Option String :=
  fault.sources.head?

end Fault

/-- The wording of a builder's failure. -/
def Failure.message : Failure → String
  | .untagged text => text
  | .tagged fault => fault.message

/-- A failure as a fault: one of the error model stays what it is, any other becomes a cause. -/
def Failure.toFault : Failure → Fault
  | .untagged text => .layerFailed (.untagged text)
  | .tagged fault => fault

end OverlaySheet
