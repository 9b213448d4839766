import OverlaySheet.Command.Arguments
import OverlaySheet.Fault.Report
import OverlaySheet.File.Path
import OverlaySheet.Layer.Builders
import OverlaySheet.Settings.Active
import OverlaySheet.Sheet.Source

/-! The command: what it answers, given its arguments and the contents of files. -/

namespace OverlaySheet.Command

/-- What a command leaves behind: an exit code and the text on both streams. -/
structure Answer where
  exit : Nat
  output : String := ""
  errors : String := ""
deriving DecidableEq

/-- Where a command reads from. -/
structure Surroundings where
  file : String → FileContent
  input : Bytes

/-- A line of output, and success. -/
def printed (text : String) : Answer :=
  { exit := 0, output := text ++ "\n" }

/-- A line of errors, and failure. -/
def failed (text : String) : Answer :=
  { exit := 1, errors := text ++ "\n" }

/-- The markers on the command line as a table of overrides. -/
def overrides (invocation : Invocation) : Table :=
  let named := fun (name : String) (marker : Option String) =>
    (marker.map fun marker => (name, Value.string marker)).toList
  let grammar := named "title_marker" invocation.titleMarker
    ++ named "variable_marker" invocation.variableMarker
  if grammar.isEmpty then [] else [("grammar", .table grammar)]

/-- The settings in effect for a command. -/
def settings (surroundings : Surroundings) (invocation : Invocation) :
    Except SettingsError ActiveSettings :=
  let path := invocation.settingsPath
  ActiveSettings.build (some (path, surroundings.file path)) (overrides invocation)

/-- Whether a path stands for the standard input, which a hyphen does. -/
def isInput (path : String) : Bool :=
  Path.isName "-" path

/-- The source at a path, or why it cannot be opened. -/
def openSource (surroundings : Surroundings) (path : String) : Except String Source :=
  if isInput path then .ok (.ofBytes surroundings.input)
  else match surroundings.file path with
    | .bytes content => .ok (.ofBytes content)
    -- A directory can be opened, but not read.
    | .directory => .ok { lines := [], failure := some FileFailure.isDirectory.message }
    | .refused failure => .error s!"Error reading {path}: {failure.message}"

/-- A layer as a line for people: its type, then its properties by name. -/
def layerLine (layer : Layer) : String :=
  let properties := Value.fieldsToData layer.properties
  let texts := properties.map fun property =>
    property.1 ++ "=" ++ String.ofList (Json.compact property.2)
  s!"  {layer.typeName} " ++ " ".intercalate texts

/-- An overlay as lines for people: its place, title and size, then its layers. -/
def overlayLines (index : Nat) (overlay : Overlay Layer) : List String :=
  let title := overlay.title.getD "(untitled)"
  s!"Overlay {index + 1}: {title} ({overlay.layers.length} layers)"
    :: overlay.layers.map layerLine

/-- Overlays as text for people. -/
def humanText (overlays : List (Overlay Layer)) : String :=
  if overlays.isEmpty then "No overlays."
  else "\n".intercalate (overlays.zipIdx.flatMap fun (overlay, index) => overlayLines index overlay)

/-- A value as indented JSON. -/
def jsonText (value : Value) : String :=
  String.ofList (Json.pretty 0 value)

/-- Prints overlays. -/
def printOverlays (human : Bool) (overlays : List (Overlay Layer)) : Answer :=
  if human then printed (humanText overlays)
  else printed (jsonText (.array (overlays.map (Overlay.toValue Layer.toValue))))

/-- Tells people or programs about a fault. -/
def printFault (human : Bool) (fault : Fault) : Answer :=
  if human then failed s!"Inflation failed: {fault.message}"
  else { printed (jsonText fault.report.toValue) with exit := 1 }

/-- Tells that a sheet is good, and how much is in it. -/
def printCount (path : String) (overlays : List (Overlay Layer)) : Answer :=
  let layers := (overlays.flatMap (·.layers)).length
  printed s!"OK: {overlays.length} overlay(s), {layers} layer(s) in {path}"

/-- Inflates the sheet at a path and hands the result on. -/
def withSheet (surroundings : Surroundings) (active : ActiveSettings) (path : String)
    (report : Except Fault (List (Overlay Layer)) → Answer) : Answer :=
  match openSource surroundings path with
  | .error reason => failed reason
  | .ok source =>
    let dialect : Dialect Layer :=
      { grammar := active.settings.grammar, registry := Layer.standardRegistry }
    report (dialect.inflateSource source)

/-- Carries out an action under settings. -/
def perform (surroundings : Surroundings) (active : ActiveSettings) : Action → Answer
  | .inflate path human =>
    let human := human || active.settings.format = .human
    withSheet surroundings active path fun
      | .ok overlays => printOverlays human overlays
      | .error fault => printFault human fault
  | .check path =>
    withSheet surroundings active path fun
      | .ok overlays => printCount path overlays
      | .error fault => failed s!"{path}: {fault.message}"
  | .types => printed ("\n".intercalate Layer.standardRegistry.names)
  | .config => printed (jsonText active.toValue)

/-- Carries out a well-formed command; the list of types needs no settings. -/
def carryOut (surroundings : Surroundings) (invocation : Invocation) : Answer :=
  if invocation.action = .types then
    perform surroundings { settings := {}, sources := [] } .types
  else match settings surroundings invocation with
    | .error error => failed s!"Error loading config: {error.message}"
    | .ok active => perform surroundings active invocation.action

/-- A short account of the command line. -/
def helpText : String :=
  "Inflate declarative overlay configs into typed layers\n\n"
    ++ "Usage: rhythm [OPTIONS] <COMMAND>\n\nCommands: inflate, check, types, config"

/-- What is left behind when nothing is carried out. -/
def stopped : Stop → Answer
  | .usage => { exit := 2 }
  | .version => printed "rhythm 0.1.0"
  | .help => printed helpText

/-- The answer to a command line. -/
def answer (surroundings : Surroundings) (arguments : List String) : Answer :=
  match parse arguments with
  | .ok invocation => carryOut surroundings invocation
  | .error stop => stopped stop

/-- The path of the sheet that an action reads. -/
def Action.sheet? : Action → Option String
  | .inflate sheet _ | .check sheet => some sheet
  | .types | .config => none

/-- The paths of the files that a command reads, the standard input apart. -/
def Invocation.files (invocation : Invocation) : List String :=
  let sheet := invocation.action.sheet?.toList.filter fun sheet => !isInput sheet
  if invocation.action = .types then [] else invocation.settingsPath :: sheet

/-- Whether a command reads the standard input. -/
def Invocation.readsInput (invocation : Invocation) : Bool :=
  invocation.action.sheet?.any isInput

end OverlaySheet.Command
