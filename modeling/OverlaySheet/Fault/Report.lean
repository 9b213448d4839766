import OverlaySheet.Fault
import OverlaySheet.Json.Reader

/-! Reports: the form in which faults are handed to hosts, written as and read from JSON. -/

namespace OverlaySheet

/-- A fault as plain data, with its wordings spelled out. -/
structure Report where
  code : Int
  kind : Fault.Kind
  line : Option Nat
  message : String
  args : List Value
  cause : Option String

/-- The report on a fault. -/
def Fault.report (fault : Fault) : Report where
  code := fault.kind.code
  kind := fault.kind
  line := fault.line
  message := fault.message
  args := fault.args
  cause := fault.causeMessage

namespace Report

/-- A report as a table; a line or a cause that is not there is left out. -/
def toValue (report : Report) : Value :=
  let line := match report.line with
    | some line => [("line", Value.integer line)]
    | none => []
  let cause := match report.cause with
    | some cause => [("cause", Value.string cause)]
    | none => []
  .table ([("code", .integer report.code), ("kind", .string report.kind.name)] ++ line
    ++ [("message", .string report.message), ("args", .array report.args)] ++ cause)

/-- The names of the fields, in the order in which they are written. -/
def fieldNames : List String :=
  ["code", "kind", "line", "message", "args", "cause"]

/-- A code is a whole number of 32 bits. -/
def code? : Value → Option Int
  | .number (.integer n) => if -2147483648 ≤ n ∧ n ≤ 2147483647 then some n else none
  | _ => none

/-- A line is null or a whole number of 64 bits that is not negative. -/
def line? : Value → Option (Option Nat)
  | .null => some none
  | .number (.integer n) =>
    if 0 ≤ n ∧ n ≤ Number.greatestUnsigned then some (some n.toNat) else none
  | _ => none

/-- A message is a string. -/
def message? : Value → Option String
  | .string s => some s
  | _ => none

/-- The arguments are a list, and of fields with one name in them the last counts. -/
def args? : Value → Option (List Value)
  | .array items => some (Value.keyedItems items)
  | _ => none

/-- A cause is null or a string. -/
def cause? : Value → Option (Option String)
  | .null => some none
  | .string s => some (some s)
  | _ => none

/-- The report whose six fields hold values as they are written. -/
def ofValues? (code kind line message args cause : Value) : Option Report := do
  let code ← code? code
  let kind ← Fault.Kind.ofValue? kind
  let line ← line? line
  let message ← message? message
  let args ← args? args
  let cause ← cause? cause
  some { code, kind, line, message, args, cause }

/-- Whether no name of a report occurs twice. -/
def namesOnce (fields : List (String × Value)) : Bool :=
  fieldNames.all fun name => (fields.filter fun field => field.1 = name).length ≤ 1

/-- The report in named fields; unknown fields do not count and absent ones may be optional. -/
def ofFields? (fields : List (String × Value)) : Option Report := do
  if namesOnce fields then
    let field := fun name => Entries.find? name fields
    ofValues? (← field "code") (← field "kind") ((field "line").getD .null)
      (← field "message") (← field "args") ((field "cause").getD .null)
  else none

/-- Reads a report, which is an object or the list of the six values in order. -/
def read? (text : Text) : Option Report :=
  match Json.readRecord? fieldNames.contains text with
  | some fields => ofFields? fields
  | none =>
    match Json.readWritten? text with
    | some (.array [code, kind, line, message, args, cause]) =>
      ofValues? code kind line message args cause
    | _ => none

end Report

end OverlaySheet
