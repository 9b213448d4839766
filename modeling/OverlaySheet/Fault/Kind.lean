import OverlaySheet.Value

/-! The kinds of faults, with the codes and names under which hosts know them. -/

namespace OverlaySheet.Fault

/-- What kind of thing went wrong; hosts choose their words by the codes and names. -/
inductive Kind where
  | generic
  | malformedList
  | malformedVariable
  | unexpectedVariable
  | variableNotFound
  | unexpectedTitle
  | unknownLayerType
  | malformedLayer
  | layerFailed
  | argumentMissing
  | argumentNotOneOf
  | argumentNotPositive
  | argumentWrongType
deriving DecidableEq

namespace Kind

/-- Every kind, in the order of the codes. -/
def all : List Kind :=
  [generic, malformedList, malformedVariable, unexpectedVariable, variableNotFound,
    unexpectedTitle, unknownLayerType, malformedLayer, layerFailed, argumentMissing,
    argumentNotOneOf, argumentNotPositive, argumentWrongType]

/-- The code of a kind; codes seven to nine are not in use. -/
def code : Kind → Int
  | generic => 0
  | malformedList => 1
  | malformedVariable => 2
  | unexpectedVariable => 3
  | variableNotFound => 4
  | unexpectedTitle => 5
  | unknownLayerType => 6
  | malformedLayer => 10
  | layerFailed => 11
  | argumentMissing => 12
  | argumentNotOneOf => 13
  | argumentNotPositive => 14
  | argumentWrongType => 15

/-- The name of a kind. -/
def name : Kind → String
  | generic => "GENERIC"
  | malformedList => "MALFORMED_LIST_SYNTAX"
  | malformedVariable => "MALFORMED_VARIABLE_SYNTAX"
  | unexpectedVariable => "UNEXPECTED_VARIABLE_DECLARATION"
  | variableNotFound => "VARIABLE_NOT_FOUND"
  | unexpectedTitle => "UNEXPECTED_TITLE_DECLARATION"
  | unknownLayerType => "UNKNOWN_LAYER_TYPE"
  | malformedLayer => "MALFORMED_LAYER_DECLARATION"
  | layerFailed => "INFLATING_LAYER_GENERIC"
  | argumentMissing => "ARGUMENT_MISSING"
  | argumentNotOneOf => "ARGUMENT_MISSING_OR_NOT_ONE_OF"
  | argumentNotPositive => "ARGUMENT_MISSING_OR_NOT_POSITIVE"
  | argumentWrongType => "ARGUMENT_MISSING_OR_NOT_EXPECTED_TYPE"

/-- The kind with a code. -/
def ofCode? (code : Int) : Option Kind :=
  all.find? fun kind => kind.code = code

/-- The kind with a name, exactly as it is written. -/
def ofName? (name : String) : Option Kind :=
  all.find? fun kind => kind.name = name

/-- A kind in data is its name, or a table with one field that holds null under that name. -/
def ofValue? : Value → Option Kind
  | .string name => ofName? name
  | .table [(name, .null)] => ofName? name
  | _ => none

end Kind

end OverlaySheet.Fault
