/-! The settings of the sheet language: its markers and its rule for repeated arguments. -/

namespace OverlaySheet

/-- What becomes of a key that a block gives twice. -/
inductive DuplicateRule where
  /-- Both stay, and the last one counts. -/
  | lastWins
  /-- The block is malformed. -/
  | reject
deriving DecidableEq

/-- The word for a rule. -/
def DuplicateRule.name : DuplicateRule → String
  | lastWins => "last_wins"
  | reject => "reject"

/-- Every rule. -/
def DuplicateRule.all : List DuplicateRule :=
  [.lastWins, .reject]

/-- The markers that tell kinds of lines apart, and the rule for repeated arguments. -/
structure Grammar where
  /-- Opens declarations of variables and references to them. -/
  variableMarker : String := "@"
  /-- Opens titles. -/
  titleMarker : String := "#"
  /-- Opens comments. -/
  commentMarker : String := "//"
  duplicates : DuplicateRule := .lastWins
deriving DecidableEq

end OverlaySheet
