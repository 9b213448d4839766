import OverlaySheet.Sheet.Token

/-! The variables in scope: how they are declared and how references to them are replaced. -/

namespace OverlaySheet

/-- A declaration: a name and the text of its value. -/
structure Declaration where
  name : Text
  value : Text
deriving DecidableEq

namespace Declaration

/-- Names start with a letter or an underscore. -/
def isNameStart (c : Char) : Bool :=
  c.isAlpha || c == '_'

/-- Names go on with letters, digits, underscores, points and hyphens. -/
def isNameChar (c : Char) : Bool :=
  c.isAlphanum || c == '_' || c == '.' || c == '-'

/--
Reads a name, an equals sign between ASCII blanks, and a value that has no newline.

The value goes on to the last character that is not blank, and it is not empty.
-/
def read? (text : Text) : Option Declaration :=
  -- The end of the whole text is trimmed first, so no value ends with a blank.
  let text := text.trimEnd
  let name := text.takeWhile isNameChar
  match (text.dropWhile isNameChar).dropWhile Text.isAsciiBlank with
  | '=' :: rest =>
    let value := rest.dropWhile Text.isAsciiBlank
    -- A digit may go on with a name, so the first character is looked at here.
    if name.head?.any isNameStart && !value.isEmpty && !value.contains '\n' then
      some ⟨name, value⟩
    else none
  | _ => none

end Declaration

/-- The variables declared so far, and the marker that opens references. -/
structure Scope where
  marker : Text
  /-- Names with their values, the latest first. -/
  bindings : List (Text × Text) := []
deriving DecidableEq

namespace Scope

/-- The value of a name. -/
def find? (scope : Scope) (name : Text) : Option Text :=
  scope.bindings.lookup name

/-- The name that a text refers to, when it opens with the marker. -/
def reference? (scope : Scope) (text : Text) : Option Text :=
  Text.after? scope.marker text

/-- The value of a name that must be declared. -/
def fetch (scope : Scope) (name : Text) : Except Fault Text :=
  match scope.find? name with
  | some value => .ok value
  | none => .error (.undeclared name)

/--
The tokens that stand for one token.

A reference becomes the tokens of its value.
A reference after the first equals sign becomes its value as it is, so the token stays one.
-/
def expand (scope : Scope) (token : Text) : Except Fault (List Text) :=
  match scope.reference? token with
  | some name => (scope.fetch name).map Token.split
  | none =>
    -- Only the first sign counts, and a later one belongs to the value.
    let (key, value) := Text.cut '=' token
    match value.bind scope.reference? with
    | some name => (scope.fetch name).map fun value => [key ++ '=' :: value]
    | none => .ok [token]

/-- The tokens with every reference replaced, from left to right. -/
def expandAll (scope : Scope) : List Text → Except Fault (List Text)
  | [] => .ok []
  | token :: rest => do
    let here ← scope.expand token
    let after ← scope.expandAll rest
    return here ++ after

/-- A declared value with the references in its tokens replaced; without any it stays as it is. -/
def resolveTokens (scope : Scope) (value : Text) : Except Fault Text := do
  let tokens := Token.split value
  let resolved ← scope.expandAll tokens
  -- Joining would lose the blanks of a value in which nothing is replaced.
  return if resolved = tokens then value else Text.joinWords resolved

/-- A declared value as it is stored; a reference to a variable takes that one's value as it is. -/
def resolve (scope : Scope) (value : Text) : Except Fault Text :=
  match (scope.reference? value).bind scope.find? with
  | some stored => .ok stored
  | none => scope.resolveTokens value

/-- The scope with one more value, which hides an earlier one of the same name. -/
def bind (scope : Scope) (name value : Text) : Scope :=
  { scope with bindings := (name, value) :: scope.bindings }

/-- Carries out a declaration, which a fault cites in the way it was written. -/
def declareAs (scope : Scope) (written text : Text) : Except Fault Scope :=
  match Declaration.read? text with
  | none => .error (.malformedVariable written)
  | some declaration => do
    let value ← scope.resolve declaration.value
    return scope.bind declaration.name value

/-- Carries out a declaration that stood behind the marker. -/
def declare (scope : Scope) (text : Text) : Except Fault Scope :=
  scope.declareAs (scope.marker ++ text) text

/-- Carries out a declaration that stood without a marker. -/
def declareBare (scope : Scope) (text : Text) : Except Fault Scope :=
  scope.declareAs text text

end Scope

end OverlaySheet
