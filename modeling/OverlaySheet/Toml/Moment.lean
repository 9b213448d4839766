import OverlaySheet.Number.Decimal
import OverlaySheet.Value

/-! Dates and times in TOML text. -/

namespace OverlaySheet.Toml

/-- A number of exactly so many digits that lies between two bounds, and what follows it. -/
def takeBounded? (count least greatest : Nat) (text : Text) : Option (Nat × Text) :=
  let digits := text.take count
  let n := Decimal.digitsValue digits
  if digits.length = count ∧ Decimal.isDigits digits ∧ least ≤ n ∧ n ≤ greatest then
    some (n, text.drop count)
  else none

/-- What follows one of some marks. -/
def afterMark? (marks : List Char) : Text → Option Text
  | [] => none
  | c :: rest => if marks.contains c then some rest else none

/-- Whether a year has a day more than others. -/
def isLeapYear (year : Nat) : Bool :=
  year % 4 == 0 && (year % 100 != 0 || year % 400 == 0)

/-- How many days a month has. -/
def daysIn (year month : Nat) : Nat :=
  if month = 2 then if isLeapYear year then 29 else 28
  else if [4, 6, 9, 11].contains month then 30
  else 31

/-- What follows a year, a month and a day between hyphens. -/
def afterDate? (text : Text) : Option Text := do
  let (year, text) ← takeBounded? 4 0 9999 text
  let text ← afterMark? ['-'] text
  let (month, text) ← takeBounded? 2 1 12 text
  let text ← afterMark? ['-'] text
  let (_, text) ← takeBounded? 2 1 (daysIn year month) text
  some text

/-- What follows an hour and a minute. -/
def afterMinute? (text : Text) : Option Text := do
  let (_, text) ← takeBounded? 2 0 23 text
  let text ← afterMark? [':'] text
  let (_, text) ← takeBounded? 2 0 59 text
  some text

/-- What follows an hour, a minute and a second; a minute may have one second more. -/
def afterSecond? (text : Text) : Option Text := do
  let text ← afterMinute? text
  let text ← afterMark? [':'] text
  let (_, text) ← takeBounded? 2 0 60 text
  some text

/-- A date as it is written. -/
def takeDate? (text : Text) : Option (Text × Text) :=
  (afterDate? text).map fun rest => (text.take 10, rest)

/-- Parts of a second to the nanosecond, without closing zeros and without a needless point. -/
def writeParts (digits : Text) : Text :=
  let kept := ((digits.take 9).reverse.dropWhile (· == '0')).reverse
  if kept.isEmpty then [] else '.' :: kept

/-- The parts of a second behind a point, which are nothing when no digit stands there. -/
def takeParts (text : Text) : Text × Text :=
  match text with
  | '.' :: rest =>
    let (digits, rest) := Decimal.spanDigits rest
    if digits.isEmpty then ([], text) else (writeParts digits, rest)
  | _ => ([], text)

/-- A time of day. -/
def takeTime? (text : Text) : Option (Text × Text) :=
  (afterSecond? text).map fun rest =>
    let (parts, rest) := takeParts rest
    (text.take 8 ++ parts, rest)

/-- A shift from universal time, where no shift has the sign of a shift ahead. -/
def takeShift? : Text → Option (Text × Text)
  | [] => none
  | c :: rest =>
    if c = 'Z' ∨ c = 'z' then some (['Z'], rest)
    else if c = '+' ∨ c = '-' then
      (afterMinute? rest).map fun behind =>
        let shift := rest.take 5
        let sign := if shift = ['0', '0', ':', '0', '0'] then '+' else c
        (sign :: shift, behind)
    else none

/-- A date, a time of day or both, and the shift that both may have. -/
def takeMomentText? (text : Text) : Option (Text × Text) :=
  match takeDate? text with
  | none => takeTime? text
  | some (date, rest) =>
    match (afterMark? ['T', 't', ' '] rest).bind takeTime? with
    | none => some (date, rest)
    | some (time, rest) =>
      let (shift, rest) := (takeShift? rest).getD ([], rest)
      some (date ++ 'T' :: time ++ shift, rest)

/-- A moment as a value, which is the string that it is written as in one form. -/
def takeMoment? (text : Text) : Option (Value × Text) :=
  (takeMomentText? text).map fun (moment, rest) => (.string (String.ofList moment), rest)

end OverlaySheet.Toml
