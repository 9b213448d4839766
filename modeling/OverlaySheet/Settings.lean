import OverlaySheet.Sheet.Grammar
import OverlaySheet.Value

/-! Settings: the grammar and the form of output, as tables and read from tables. -/

namespace OverlaySheet

/-- How overlays are printed. -/
inductive OutputFormat where
  | json
  | human
deriving DecidableEq

/-- The word for a format. -/
def OutputFormat.name : OutputFormat → String
  | json => "json"
  | human => "human"

/-- Every format. -/
def OutputFormat.all : List OutputFormat :=
  [.json, .human]

/-- All settings, each with its default. -/
structure Settings where
  grammar : Grammar := {}
  format : OutputFormat := .json
deriving DecidableEq

namespace Settings

/-- The names of the grammar's settings, in order. -/
def grammarNames : List String :=
  ["variable_marker", "title_marker", "comment_marker", "duplicate_arguments"]

/-- The names of the output's settings, in order. -/
def outputNames : List String :=
  ["format"]

/-- The fields of a group of settings, given by name or, in a list, by position. -/
def group? (names : List String) : Value → Option Table
  | .table fields => some fields
  | .array items => if items.length ≤ names.length then some (names.zip items) else none
  | _ => none

/-- A field read in a given way, or its default when it is not there. -/
def fieldOr {α : Type} (read : Value → Option α) (default : α) (name : String) (fields : Table) :
    Option α :=
  match Entries.find? name fields with
  | some value => read value
  | none => some default

/-- A setting that is a string. -/
def string? : Value → Option String
  | .string s => some s
  | _ => none

/-- A setting that is one of some words, or a table that holds nothing under that word. -/
def word? {α : Type} (choices : List α) (name : α → String) (value : Value) : Option α :=
  match value with
  | .string word => choices.find? fun choice => name choice = word
  | .table [(word, .table [])] => choices.find? fun choice => name choice = word
  | .table [(word, .array [])] => choices.find? fun choice => name choice = word
  | _ => none

/-- The grammar in a group of settings. -/
def grammar? (value : Value) : Option Grammar := do
  let fields ← group? grammarNames value
  let default : Grammar := {}
  let variableMarker ← fieldOr string? default.variableMarker "variable_marker" fields
  let titleMarker ← fieldOr string? default.titleMarker "title_marker" fields
  let commentMarker ← fieldOr string? default.commentMarker "comment_marker" fields
  let duplicates ←
    fieldOr (word? DuplicateRule.all DuplicateRule.name) default.duplicates "duplicate_arguments"
      fields
  some { variableMarker, titleMarker, commentMarker, duplicates }

/-- The format in a group of settings. -/
def format? (value : Value) : Option OutputFormat := do
  let fields ← group? outputNames value
  fieldOr (word? OutputFormat.all OutputFormat.name) .json "format" fields

/-- The settings in a table; names that mean nothing do not count. -/
def ofTable? (fields : Table) : Option Settings := do
  let grammar ← fieldOr grammar? {} "grammar" fields
  let format ← fieldOr format? .json "output" fields
  some { grammar, format }

/-- A group of settings by name, in the order in which it is written. -/
def grammarFields (grammar : Grammar) : List (String × Value) :=
  [("variable_marker", .string grammar.variableMarker),
    ("title_marker", .string grammar.titleMarker),
    ("comment_marker", .string grammar.commentMarker),
    ("duplicate_arguments", .string grammar.duplicates.name)]

/-- Settings by group, in the order in which they are written. -/
def toFields (settings : Settings) : List (String × Value) :=
  [("grammar", .table (grammarFields settings.grammar)),
    ("output", .table [("format", .string settings.format.name)])]

/-- Settings as a table, whose names are in ascending order. -/
def toTable (settings : Settings) : Table :=
  [("grammar", .table (Entries.ofList (grammarFields settings.grammar))),
    ("output", .table [("format", .string settings.format.name)])]

end Settings

end OverlaySheet
