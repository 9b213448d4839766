import Mathlib.Data.List.Forall2
import OverlaySheet.Proofs.Sheet.Arguments
import OverlaySheet.Proofs.Sheet.Run
import OverlaySheet.Proofs.Sheet.Scope

/-! A sheet read as a whole: declarations first, then titles and the paragraphs under them. -/

namespace OverlaySheet

namespace Line

/-- The lines of a sheet that are no comments. -/
def readable (grammar : Grammar) (lines : List Text) : List Line :=
  (lines.map (ofText grammar)).filter (· ≠ .comment)

/-- The tokens that a line adds to a paragraph. -/
def tokens : Line → List Text
  | .content text _ => Token.split text
  | _ => []

/-- Whether a line may stand in a paragraph behind its header. -/
def Continues : Line → Prop
  | .declaration _ | .title _ => False
  | .content text indented => indented = true ∨ Token.leadsWithValue text = true
  | .blank | .comment => True

end Line

/-- A header line with the lines behind it, up to the next blank line. -/
structure Paragraph where
  header : Text
  body : List Line

/-- The tokens of a paragraph, those of its header first. -/
def Paragraph.tokens (paragraph : Paragraph) : List Text :=
  Token.split paragraph.header ++ paragraph.body.flatMap Line.tokens

/-- What a sheet consists of. -/
inductive Item where
  /-- A declaration, with the marker or without it. -/
  | declaration (marked : Bool) (text : Text)
  | title (text : Text)
  | paragraph (paragraph : Paragraph)

namespace Item

/-- The items of lines, where a paragraph takes all lines up to the next blank one. -/
def ofLines : List Line → List Item
  | [] => []
  | .blank :: rest | .comment :: rest => ofLines rest
  | .declaration text :: rest => .declaration true text :: ofLines rest
  | .title text :: rest => .title text :: ofLines rest
  | .content text indented :: rest =>
    -- At the margin, a first token with a value is no layer type.
    if !indented && Token.leadsWithValue text then .declaration false text :: ofLines rest
    else .paragraph ⟨text, rest.takeWhile (· ≠ .blank)⟩ :: ofLines (rest.dropWhile (· ≠ .blank))
termination_by lines => lines.length
decreasing_by
  all_goals simp only [List.length_cons]
  all_goals first | omega | exact Nat.lt_succ_of_le (List.length_dropWhile_le _ _)

/-- Whether an item declares a variable. -/
def isDeclaration : Item → Bool
  | .declaration _ _ => true
  | _ => false

/-- Whether an item is a paragraph. -/
def isParagraph : Item → Bool
  | .paragraph _ => true
  | _ => false

end Item

/-- Carries out the declarations among items, in order. -/
def Scope.declareAll (scope : Scope) : List Item → Except Fault Scope
  | [] => .ok scope
  | .declaration marked text :: rest => do
    let next ← if marked then scope.declare text else scope.declareBare text
    next.declareAll rest
  | _ :: rest => scope.declareAll rest

/-- Paragraphs in a row, under a title if they have one. -/
structure Chapter where
  title : Option String
  paragraphs : List Paragraph

namespace Chapter

/-- The title that a title line gives; an empty one is none. -/
def titleOf (text : Text) : Option String :=
  if text.isEmpty then none else some (String.ofList text)

/-- The paragraphs before the first title. -/
def leading : List Item → List Paragraph
  | .paragraph paragraph :: rest => paragraph :: leading rest
  | .declaration _ _ :: rest => leading rest
  | .title _ :: _ | [] => []

/-- The chapters that titles begin, each up to the next title. -/
def titled : List Item → List Chapter
  | .title text :: rest => { title := titleOf text, paragraphs := leading rest } :: titled rest
  | _ :: rest => titled rest
  | [] => []

/-- The chapters of items, where paragraphs before the first title are a chapter without one. -/
def ofItems (items : List Item) : List Chapter :=
  if (leading items).isEmpty then titled items
  else { title := none, paragraphs := leading items } :: titled items

end Chapter

namespace Dialect

variable {Layer : Type}

/--
A paragraph describes a layer.

Its expanded tokens are a registered type without a value and arguments with keys.
Where the grammar says so the keys differ, and the builder makes the layer of all of them.
-/
def Builds (dialect : Dialect Layer) (scope : Scope) (paragraph : Paragraph) (layer : Layer) :
    Prop :=
  ∃ layerType arguments builder,
    scope.expandAll paragraph.tokens = .ok (layerType :: arguments) ∧ '=' ∉ layerType ∧
    dialect.registry.find? (String.ofList layerType) = some builder ∧
    (∀ token ∈ arguments, Token.HasKey token) ∧
    (dialect.grammar.duplicates = .reject →
      (arguments.map fun token => (Token.argument token).key).Nodup) ∧
    builder { layerType := String.ofList layerType, arguments := arguments.map Token.argument } =
      .ok layer

/-- A chapter describes an overlay: the same title, and a layer for each paragraph. -/
def Renders (dialect : Dialect Layer) (scope : Scope) (chapter : Chapter)
    (overlay : Overlay Layer) : Prop :=
  overlay.title = chapter.title ∧
    List.Forall₂ (dialect.Builds scope) chapter.paragraphs overlay.layers

/-- Items describe overlays under the variables that all of their declarations make. -/
structure Reading (dialect : Dialect Layer) (items : List Item) (scope : Scope)
    (overlays : List (Overlay Layer)) : Prop where
  /-- The declarations succeed one after the other. -/
  declared : dialect.start.scope.declareAll items = .ok scope
  /-- No declaration comes after a paragraph. -/
  declarationsFirst : items.Pairwise fun earlier later =>
    earlier.isParagraph = true → later.isDeclaration = false
  /-- No marked declaration stands inside a paragraph. -/
  declarationsOutside : ∀ paragraph, .paragraph paragraph ∈ items →
    ∀ text, .declaration text ∉ paragraph.body
  /-- No title stands inside a paragraph. -/
  titlesOutside : ∀ paragraph, .paragraph paragraph ∈ items →
    ∀ text, .title text ∉ paragraph.body
  /-- A further line of a paragraph is indented or its first token has a value. -/
  continued : ∀ paragraph, .paragraph paragraph ∈ items →
    ∀ text, .content text false ∈ paragraph.body → Token.leadsWithValue text = true
  /-- Each chapter describes its overlay. -/
  rendered : List.Forall₂ (dialect.Renders scope) (Chapter.ofItems items) overlays

end Dialect

end OverlaySheet
