import OverlaySheet.Fault
import OverlaySheet.Number.Decimal

/-! Blocks: a layer type with its arguments, and the typed readings of an argument. -/

namespace OverlaySheet

/-- An argument is a key with a value, or a key alone, which is a flag. -/
structure Argument where
  key : String
  value : Option String
deriving DecidableEq

/-- What a sheet says about one layer: its type and its arguments in order. -/
structure Block where
  layerType : String
  arguments : List Argument := []
deriving DecidableEq

namespace Block

/-- The block with one more argument; a key may occur many times. -/
def push (block : Block) (argument : Argument) : Block :=
  { block with arguments := block.arguments ++ [argument] }

/-- The last argument with a key, which is the one that counts. -/
def find? (block : Block) (key : String) : Option Argument :=
  block.arguments.reverse.find? fun argument => argument.key = key

/-- Whether a key is given, as a flag or with a value. -/
def has (block : Block) (key : String) : Bool :=
  (block.find? key).isSome

/-- The value of a key; a flag has none. -/
def value? (block : Block) (key : String) : Option String :=
  (block.find? key).bind (·.value)

/-- Whether a key is given more than once. -/
def repeats (block : Block) (key : String) : Bool :=
  1 < (block.arguments.filter fun argument => argument.key = key).length

/-- The fault of an argument that is not of the type it must have. -/
def wrongArgument (block : Block) (key expected sample : String) : Fault :=
  .wrongArgument block.layerType key expected sample

/-- The fault of an argument that is not a positive number. -/
def nonPositiveArgument (block : Block) (key sample : String) : Fault :=
  .nonPositiveArgument block.layerType key sample

/-- An optional result, or the fault that its absence is. -/
def orFault {α : Type} (result : Option α) (fault : Fault) : Except Fault α :=
  match result with
  | some x => .ok x
  | none => .error fault

/-- The value of a key that must have one. -/
def expectString (block : Block) (key expected : String) : Except Fault String :=
  orFault (block.value? key) (.missingArgument block.layerType key expected)

/-- The value of a key, or a default when the key is not given; a flag is no string. -/
def stringD (block : Block) (key default : String) : Except Fault String :=
  match block.find? key with
  | none => .ok default
  | some argument => orFault argument.value (block.wrongArgument key "string" default)

/-- Whether a whole number fits into 64 bits with a sign. -/
def fitsWord (n : Int) : Bool :=
  Number.leastSigned ≤ n && n ≤ Number.greatestSigned

/-- The whole number that a value denotes, blanks around it apart. -/
def readInt? (value : String) : Option Int :=
  (Decimal.readInt? (Text.trim value.toList)).filter fitsWord

/-- The finite number that a value denotes, blanks around it apart. -/
def readDouble? (value : String) : Option Double :=
  ((Decimal.read? (Text.trim value.toList)).map (Binary.ofDecimal .double)).filter Binary.isFinite

/-- The whole number under a key. -/
def int? (block : Block) (key : String) : Option Int :=
  (block.value? key).bind readInt?

/-- The finite number under a key. -/
def double? (block : Block) (key : String) : Option Double :=
  (block.value? key).bind readDouble?

/-- The whole number under a key that must have one. -/
def expectInt (block : Block) (key sample : String) : Except Fault Int :=
  orFault (block.int? key) (block.wrongArgument key "integer" sample)

/-- The whole number above zero under a key that must have one. -/
def expectPositiveInt (block : Block) (key sample : String) : Except Fault Int :=
  orFault ((block.int? key).filter (0 < ·)) (block.nonPositiveArgument key sample)

/-- The whole number under a key, or a default when the key is not given. -/
def intD (block : Block) (key : String) (default : Int) (sample : String) : Except Fault Int :=
  if block.has key then block.expectInt key sample else .ok default

/-- The finite number under a key that must have one. -/
def expectFloat (block : Block) (key sample : String) : Except Fault Double :=
  orFault (block.double? key) (block.wrongArgument key "float" sample)

/-- The finite number above zero under a key that must have one. -/
def expectPositiveFloat (block : Block) (key sample : String) : Except Fault Double :=
  orFault ((block.double? key).filter Binary.isPositive) (block.nonPositiveArgument key sample)

/-- The finite number under a key, or a default when the key is not given. -/
def floatD (block : Block) (key : String) (default : Double) (sample : String) :
    Except Fault Double :=
  if block.has key then block.expectFloat key sample else .ok default

/-- The choice whose name is the value of a key that must name one. -/
def expectChoice {α : Type} (block : Block) (key : String) (choices : List α)
    (name : α → String) : Except Fault α :=
  let actual := block.value? key
  orFault (actual.bind fun value => choices.find? fun choice => name choice = value)
    (.unlistedArgument block.layerType key actual (choices.map name))

/-- The choice that the value of a key names, or a default when the key is not given. -/
def choiceD {α : Type} (block : Block) (key : String) (choices : List α) (name : α → String)
    (default : α) : Except Fault α :=
  if block.has key then block.expectChoice key choices name else .ok default

/-- The fault of a switch that is neither on nor off. -/
def badSwitch (block : Block) (key value : String) : Fault :=
  { kind := .layerFailed
    detail := some s!"invalid boolean for layer '{block.layerType}'"
    cause := some (.untagged s!"argument '{key}' expects true or false, got '{value}'") }

/-- A switch is off when absent and on as a flag; as a value it is a word in any case. -/
def switch (block : Block) (key : String) : Except Fault Bool :=
  match block.find? key with
  | none => .ok false
  | some ⟨_, none⟩ => .ok true
  | some ⟨_, some value⟩ =>
    if Text.sameIgnoringCase value.toList "true".toList then .ok true
    else if Text.sameIgnoringCase value.toList "false".toList then .ok false
    else .error (block.badSwitch key value)

end Block

end OverlaySheet
