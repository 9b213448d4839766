import OverlaySheet.File
import OverlaySheet.Hash.Sha256
import OverlaySheet.Number.Hex
import OverlaySheet.Settings
import OverlaySheet.Toml
import OverlaySheet.Value.Stack

/-! The settings in effect: defaults, a file and overrides laid over each other, then checked. -/

namespace OverlaySheet

/-- A source of settings. -/
inductive SettingsSource where
  | builtin
  | file (path digest : String)
  | commandLine
deriving DecidableEq

/-- The three markers, by the names of their settings. -/
inductive MarkerName where
  | declaration
  | title
  | comment
deriving DecidableEq

namespace MarkerName

/-- The name of a marker's setting. -/
def settingName : MarkerName → String
  | declaration => "grammar.variable_marker"
  | title => "grammar.title_marker"
  | comment => "grammar.comment_marker"

/-- The marker itself. -/
def marker (grammar : Grammar) : MarkerName → String
  | declaration => grammar.variableMarker
  | title => grammar.titleMarker
  | comment => grammar.commentMarker

/-- Every marker, in the order in which they are checked. -/
def all : List MarkerName :=
  [declaration, title, comment]

/-- Every two different markers, in the order in which they are compared. -/
def pairs : List (MarkerName × MarkerName) :=
  [(declaration, title), (declaration, comment), (title, comment)]

end MarkerName

/-- Why there are no settings. -/
inductive SettingsError where
  | unreadable (failure : FileFailure)
  | notUtf8 (invalid : Utf8.Invalid)
  | notToml
  | notSettings
  | emptyMarker (name : MarkerName)
  | blankInMarker (name : MarkerName)
  | sameMarker (name other : MarkerName) (marker : String)
deriving DecidableEq

/-- Which stage of taking in settings failed. -/
inductive SettingsError.Stage where
  | reading
  | parsing
  | validation
deriving DecidableEq

namespace SettingsError

/-- The stage that an error belongs to. -/
def stage : SettingsError → Stage
  | unreadable _ => .reading
  | notUtf8 _ | notToml | notSettings => .parsing
  | emptyMarker _ | blankInMarker _ | sameMarker .. => .validation

/-- The wording of an error behind the name of its stage. -/
def reason : SettingsError → String
  | unreadable failure => failure.message
  | notUtf8 invalid => s!"Invalid UTF-8: {invalid.message}"
  | notToml => "TOML parse error"
  | notSettings => "invalid configuration"
  | emptyMarker name => s!"{name.settingName} must not be empty"
  | blankInMarker name => s!"{name.settingName} must not contain whitespace"
  | sameMarker name other marker =>
    s!"{name.settingName} and {other.settingName} must differ (both '{marker}')"

/-- The wording of an error. -/
def message (error : SettingsError) : String :=
  match error.stage with
  | .reading => s!"IO error: {error.reason}"
  | .parsing => s!"Parse error: {error.reason}"
  | .validation => s!"Validation error: {error.reason}"

end SettingsError

namespace Grammar

/-- What is wrong with one marker: it is empty or holds a blank. -/
def markerError? (grammar : Grammar) (name : MarkerName) : Option SettingsError :=
  let marker := name.marker grammar
  if marker.isEmpty then some (.emptyMarker name)
  else if marker.toList.any Text.isBlank then some (.blankInMarker name)
  else none

/-- What is wrong with two markers: they are the same. -/
def clash? (grammar : Grammar) (pair : MarkerName × MarkerName) : Option SettingsError :=
  if pair.1.marker grammar = pair.2.marker grammar then
    some (.sameMarker pair.1 pair.2 (pair.1.marker grammar))
  else none

/-- The first thing that is wrong with the markers of a grammar. -/
def error? (grammar : Grammar) : Option SettingsError :=
  MarkerName.all.findSome? (markerError? grammar)
    <|> MarkerName.pairs.findSome? (clash? grammar)

end Grammar

/-- Settings in effect, with their sources from the weakest to the strongest. -/
structure ActiveSettings where
  settings : Settings
  sources : List SettingsSource
deriving DecidableEq

namespace ActiveSettings

/-- The table in a settings file. -/
def parseFile (content : Bytes) : Except SettingsError Table :=
  match Utf8.decode content with
  | .error invalid => .error (.notUtf8 invalid)
  | .ok text =>
    match Toml.read? text with
    | some table => .ok table
    | none => .error .notToml

/-- The digest of a file in hex digits. -/
def digest (content : Bytes) : String :=
  String.ofList (Hex.writeBytes (Sha256.digest content))

/-- The layer of a settings file, where a file that does not exist adds none. -/
def fileLayer (path : String) : FileContent → Except SettingsError (List (Table × SettingsSource))
  -- A missing file is as good as none, and any other failure is told.
  | .refused failure => if failure.isAbsence then .ok [] else .error (.unreadable failure)
  | .directory => .error (.unreadable .isDirectory)
  | .bytes content => do
    let table ← parseFile content
    return [(table, .file path (digest content))]

/-- The layer of overrides, where an empty table adds none. -/
def overrideLayer (overrides : Table) : List (Table × SettingsSource) :=
  if overrides.isEmpty then [] else [(overrides, .commandLine)]

/-- The settings in merged layers, if they are settings and their markers are good. -/
def check (table : Table) : Except SettingsError Settings :=
  match Settings.ofTable? table with
  | none => .error .notSettings
  | some settings =>
    match settings.grammar.error? with
    | some error => .error error
    | none => .ok settings

/-- The settings in effect with a file, if a path is given, and with overrides. -/
def build (file : Option (String × FileContent)) (overrides : Table) :
    Except SettingsError ActiveSettings := do
  let fromFile ← match file with
    | none => .ok []
    | some (path, content) => fileLayer path content
  let defaults := (Settings.toTable {}, SettingsSource.builtin)
  -- Later layers lie over the earlier ones.
  let layers := defaults :: fromFile ++ overrideLayer overrides
  let settings ← check (Table.stack (layers.map (·.1)))
  return { settings, sources := layers.map (·.2) }

/-- A source as a table. -/
def sourceValue : SettingsSource → Value
  | .builtin => .table [("origin", .string "builtin")]
  | .file path digest =>
    .table [("origin", .string "file"), ("path", .string path), ("digest", .string digest)]
  | .commandLine => .table [("origin", .string "cli")]

/-- Settings in effect as a table. -/
def toValue (active : ActiveSettings) : Value :=
  .table [("config", .table active.settings.toFields),
    ("sources", .array (active.sources.map sourceValue))]

end ActiveSettings

end OverlaySheet
