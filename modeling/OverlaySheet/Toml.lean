import OverlaySheet.Toml.Moment
import OverlaySheet.Toml.Scan
import OverlaySheet.Toml.Tree

/-! Settings files: tables read from TOML text. -/

namespace OverlaySheet.Toml

mutual

/--
A value and what follows it.

The fuel bounds the steps, of which a text never needs more than it has characters.
The room bounds how deep brackets may still nest.
-/
def value (fuel room : Nat) (text : Text) : Option (Value × Text) :=
  match fuel, text with
  | fuel + 1, c :: rest =>
    if c = '"' ∨ c = '\'' then
      (takeString? text).map fun (string, rest) => (.string (String.ofList string), rest)
    else if c = '[' then
      -- Each bracket takes some of the room for those inside.
      match room with
      | 0 => none
      | room + 1 => (items fuel room rest).map fun (list, rest) => (.array list, rest)
    else if c = '\x7b' then
      match room, skipBlanks rest with
      | 0, _ => none
      | _, '\x7d' :: rest => some (.table [], rest)
      | room + 1, rest =>
        (fields fuel room [] rest).map fun (nodes, rest) => (.table (nodesToFields nodes), rest)
    else
      -- A date begins like a number, so it is tried first.
      takeMoment? (c :: rest) <|> takePlain? (c :: rest)
  | _, _ => none

/-- The items of a list up to its closing bracket; the last one may have a comma behind it. -/
def items (fuel room : Nat) (text : Text) : Option (List Value × Text) :=
  match fuel, skipLines false text with
  | fuel + 1, some (c :: rest) =>
    if c = ']' then some ([], rest)
    else (value fuel room (c :: rest)).bind fun (item, rest) =>
      match skipLines false rest with
      | some (',' :: rest) => (items fuel room rest).map fun (list, rest) => (item :: list, rest)
      | some (']' :: rest) => some ([item], rest)
      | _ => none
  | _, _ => none

/-- The fields of a table on one line up to its closing brace, of which there is at least one. -/
def fields (fuel room : Nat) (nodes : Nodes) (text : Text) : Option (Nodes × Text) :=
  match fuel with
  | 0 => none
  | fuel + 1 =>
    (takeKey? text).bind fun (key, rest) =>
      match rest with
      | '=' :: rest =>
        (value fuel room (skipBlanks rest)).bind fun (field, rest) =>
          (addValue key field .header nodes).bind fun nodes =>
            match skipBlanks rest with
            | ',' :: rest => fields fuel room nodes rest
            | '\x7d' :: rest => some (nodes, rest)
            | _ => none
      | _ => none

end

/-- A file while it is read: its tables, and the path of the table that lines add to. -/
structure Document where
  nodes : Nodes := []
  current : List String := []

/-- Adds a value to the current table. -/
def Document.add (document : Document) (key : List String) (value : Value) : Option Document :=
  (within .implied (addValue key value) .header document.current document.nodes).map fun nodes =>
    { document with nodes }

/-- Reads a header up to its closing brackets and opens its table. -/
def Document.readHeader (document : Document) (brackets : Text)
    (openAt : List String → Nodes → Option Nodes) (text : Text) : Option (Document × Text) :=
  (takeKey? text).bind fun (key, rest) =>
    (brackets.isPrefixOf? rest).bind fun rest =>
      (openAt key document.nodes).map fun nodes => ({ nodes, current := key }, rest)

/-- Reads a key, an equals sign and a value. -/
def Document.readField (document : Document) (text : Text) : Option (Document × Text) :=
  (takeKey? text).bind fun (key, rest) =>
    match rest with
    | '=' :: rest =>
      (value (rest.length + 1) maxDepth (skipBlanks rest)).bind fun (field, rest) =>
        (document.add key field).map fun document => (document, rest)
    | _ => none

/-- Reads what a line holds apart from blanks and a comment. -/
def Document.readLine (document : Document) (text : Text) : Option (Document × Text) :=
  match skipBlanks text with
  | '[' :: '[' :: rest => document.readHeader [']', ']'] openListed rest
  | '[' :: rest => document.readHeader [']'] openTable rest
  | [] => some (document, [])
  | c :: rest =>
    if c = '#' ∨ c = '\n' ∨ c = '\r' then some (document, c :: rest)
    else document.readField (c :: rest)

/-- Reads line after line. -/
def Document.readLines (fuel : Nat) (document : Document) (text : Text) : Option Document :=
  match fuel with
  | 0 => none
  | fuel + 1 =>
    if text.isEmpty then some document
    else
      (document.readLine text).bind fun (document, rest) =>
        (endLine? rest).bind fun rest => document.readLines fuel rest

/-- The table that a text holds; a mark of the byte order in front does not count. -/
def read? (text : Text) : Option Table :=
  let text := match text with
    | '\uFEFF' :: rest => rest
    | _ => text
  (Document.readLines (text.length + 1) {} text).map fun document => nodesToFields document.nodes

end OverlaySheet.Toml
