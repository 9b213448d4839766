import OverlaySheet.Text

/-! Command lines: options, operands and what they ask for. -/

namespace OverlaySheet.Command

/-- An option. -/
inductive Flag where
  | verbose
  | variableMarker
  | titleMarker
  | config
  | human
  | version
  | help
deriving DecidableEq

namespace Flag

/-- Every option. -/
def all : List Flag :=
  [verbose, variableMarker, titleMarker, config, human, version, help]

/-- The name of an option behind two hyphens. -/
def long : Flag → String
  | verbose => "verbose"
  | variableMarker => "variable-marker"
  | titleMarker => "title-marker"
  | config => "config"
  | human => "human"
  | version => "version"
  | help => "help"

/-- The letter of an option behind one hyphen. -/
def short? : Flag → Option Char
  | verbose => some 'v'
  | config => some 'c'
  | version => some 'V'
  | help => some 'h'
  | _ => none

/-- Whether an option takes a value. -/
def takesValue : Flag → Bool
  | variableMarker | titleMarker | config => true
  | _ => false

end Flag

/-- What the command is to do, or the place in front of the word that says so. -/
inductive Place where
  | top
  | inflate
  | check
  | types
  | config
deriving DecidableEq

namespace Place

/-- The word for what is to be done. -/
def ofWord? : String → Option Place
  | "inflate" => some inflate
  | "check" => some check
  | "types" => some types
  | "config" => some config
  | _ => none

/-- Which options may stand at a place; markers, help and talk are for everywhere. -/
def allows : Place → Flag → Bool
  | _, .verbose | _, .variableMarker | _, .titleMarker | _, .help => true
  | place, .config => place = inflate || place = check || place = config
  | place, .human => place = inflate
  | place, .version => place = top

/-- How many operands a place takes. -/
def operandCount : Place → Nat
  | inflate | check => 1
  | _ => 0

end Place

/-- Why a command line is not carried out. -/
inductive Stop where
  | usage
  | version
  | help
deriving DecidableEq

/-- The options and operands given at one place. -/
structure Given where
  switches : List Flag := []
  values : List (Flag × String) := []
  operands : List String := []

namespace Given

/-- The value of an option. -/
def value? (given : Given) (flag : Flag) : Option String :=
  given.values.lookup flag

/-- Notes an option without a value, which may be given once. -/
def addSwitch (given : Given) (flag : Flag) : Except Stop Given :=
  match flag with
  | .version => .error .version
  | .help => .error .help
  | _ =>
    if given.switches.contains flag then .error .usage
    else .ok { given with switches := flag :: given.switches }

/-- Notes the value of an option, which may be given once; a path is not empty. -/
def addValue (given : Given) (flag : Flag) (value : String) : Except Stop Given :=
  if (given.value? flag).isSome then .error .usage
  else if flag = .config ∧ value.isEmpty then .error .usage
  else .ok { given with values := (flag, value) :: given.values }

/-- Notes an operand, which is a path and not empty. -/
def addOperand (place : Place) (given : Given) (operand : String) : Except Stop Given :=
  if operand.isEmpty ∨ place.operandCount ≤ given.operands.length then .error .usage
  else .ok { given with operands := given.operands ++ [operand] }

end Given

/-- The option at a place that has a property. -/
def findFlag (place : Place) (matching : Flag → Bool) : Except Stop Flag :=
  match Flag.all.find? fun flag => place.allows flag && matching flag with
  | some flag => .ok flag
  | none => .error .usage

/-- Reads a long option; the flag in the result waits for a value that follows. -/
def takeLong (place : Place) (body : Text) (given : Given) :
    Except Stop (Given × Option Flag) := do
  let (name, value) := Text.cut '=' body
  let flag ← findFlag place fun flag => flag.long.toList == name
  match flag.takesValue, value with
  | true, some value => return (← given.addValue flag (String.ofList value), none)
  | true, none => return (given, some flag)
  | false, none => return (← given.addSwitch flag, none)
  | false, some _ => .error .usage

/-- Reads letters behind one hyphen, where the rest behind an option with a value is its value. -/
def takeLetters (place : Place) (given : Given) : Text → Except Stop (Given × Option Flag)
  | [] => .ok (given, none)
  | letter :: rest => do
    let flag ← findFlag place fun flag => flag.short? == some letter
    if flag.takesValue then
      match rest with
      | [] => return (given, some flag)
      | '=' :: value => return (← given.addValue flag (String.ofList value), none)
      | value => return (← given.addValue flag (String.ofList value), none)
    else takeLetters place (← given.addSwitch flag) rest

/-- Whether an argument is an option and no value, of which a lone hyphen is one. -/
def isOption (argument : String) : Bool :=
  argument.startsWith "-" && argument != "-"

/-- Reads an option. -/
def takeOption (place : Place) (given : Given) (argument : String) :
    Except Stop (Given × Option Flag) :=
  match argument.toList with
  | '-' :: '-' :: body => takeLong place body given
  | '-' :: letters => takeLetters place given letters
  | _ => .error .usage

/-- Whether help can be given: on everything, or on one word. -/
def isTopic : List String → Bool
  | [] => true
  | [word] => word == "help" || (Place.ofWord? word).isSome
  | _ => false

/--
Reads arguments up to the word that says what to do, or else to the end.

An option may be waiting for its value, which is then the next argument.
-/
def scan (place : Place) (waiting : Option Flag) (given : Given) :
    List String → Except Stop (Given × Option (Place × List String))
  | [] => if waiting.isSome then .error .usage else .ok (given, none)
  | argument :: rest =>
    match waiting with
    | some flag =>
      if isOption argument then .error .usage
      else do scan place none (← given.addValue flag argument) rest
    | none =>
      if argument = "--" then do
        -- Whatever follows two hyphens is an operand.
        return (← rest.foldlM (Given.addOperand place) given, none)
      else if isOption argument then do
        let (given, waiting) ← takeOption place given argument
        scan place waiting given rest
      else if place = .top then
        match Place.ofWord? argument with
        | some next => .ok (given, some (next, rest))
        | none => .error (if argument = "help" && isTopic rest then .help else .usage)
      else do scan place none (← given.addOperand place argument) rest

/-- What is to be done. -/
inductive Action where
  | inflate (sheet : String) (human : Bool)
  | check (sheet : String)
  | types
  | config
deriving DecidableEq

/-- A command that is well formed. -/
structure Invocation where
  action : Action
  /-- The path of the settings file. -/
  settingsPath : String
  variableMarker : Option String
  titleMarker : Option String
deriving DecidableEq

/-- The path of the settings file when none is given. -/
def defaultSettingsPath : String := "rhythm.toml"

/-- The action at a place with its operands. -/
def action? (place : Place) (given : Given) : Option Action :=
  match place, given.operands with
  | .inflate, [sheet] => some (.inflate sheet (given.switches.contains .human))
  | .check, [sheet] => some (.check sheet)
  | .types, [] => some .types
  | .config, [] => some .config
  | _, _ => none

/-- What a command line asks for; an option behind the word outweighs the same one in front. -/
def parse (arguments : List String) : Except Stop Invocation := do
  let (before, next) ← scan .top none {} arguments
  match next with
  | none => .error .usage
  | some (place, rest) =>
    let (given, _) ← scan place none {} rest
    match action? place given with
    | none => .error .usage
    | some action =>
      let value? := fun flag => given.value? flag <|> before.value? flag
      return {
        action
        settingsPath := (given.value? .config).getD defaultSettingsPath
        variableMarker := value? .variableMarker
        titleMarker := value? .titleMarker }

end OverlaySheet.Command
