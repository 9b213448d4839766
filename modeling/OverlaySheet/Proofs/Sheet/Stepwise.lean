import OverlaySheet.Proofs.Sheet.Chapters

/-! What a sheet describes, unfolded one line at a time. -/

namespace OverlaySheet

namespace Line

/-- A comment is not among the readable lines, and any other line is. -/
theorem readable_cons (grammar : Grammar) (raw : Text) (rest : List Text) :
    readable grammar (raw :: rest) =
      if ofText grammar raw = .comment then readable grammar rest
      else ofText grammar raw :: readable grammar rest := by
  -- A filter keeps a line or leaves it out, and the lines behind are filtered in any case.
  by_cases comment : ofText grammar raw = .comment
  · simp [readable, comment]
  · simp [readable, comment]

end Line

/-- A declaration among items is carried out before those behind it. -/
theorem Scope.declareAll_declaration_eq_ok_iff {scope final : Scope} {marked : Bool} {text : Text}
    {rest : List Item} :
    scope.declareAll (.declaration marked text :: rest) = .ok final ↔
      ∃ next, (if marked then scope.declare text else scope.declareBare text) = .ok next ∧
        next.declareAll rest = .ok final := by
  -- With the marker or without it, the declaration is the first step of a chain.
  cases marked <;> exact bind_eq_ok_iff

/-- Items without a declaration leave the scope as it is. -/
theorem Scope.declareAll_of_no_declaration {scope : Scope} {items : List Item}
    (without : ∀ item ∈ items, item.isDeclaration = false) :
    scope.declareAll items = .ok scope := by
  induction items with
  | nil => rfl
  | cons item rest ih =>
    have others := ih fun other member => without other (List.mem_cons_of_mem _ member)
    cases item with
    | declaration marked text =>
      -- A declaration is what there is none of.
      have impossible := without _ (List.mem_cons_self ..)
      simp [Item.isDeclaration] at impossible
    | title text => exact others
    | paragraph paragraph => exact others

namespace Dialect

variable {Layer : Type} {dialect : Dialect Layer}

/-- Further lines of a paragraph complete an open block to a layer. -/
def Completes (dialect : Dialect Layer) (scope : Scope) (current : OpenBlock Layer)
    (body : List Line) (layer : Layer) : Prop :=
  ∃ tokens block, scope.expandAll (body.flatMap Line.tokens) = .ok tokens ∧
    Block.pushTokens dialect.grammar.duplicates current.block tokens = .ok block ∧
    current.builder block = .ok layer

/-- Without further lines, the layer is that of the block as it stands. -/
@[simp] theorem completes_nil {scope : Scope} {current : OpenBlock Layer} {layer : Layer} :
    dialect.Completes scope current [] layer ↔ current.builder current.block = .ok layer := by
  simp [Completes, Scope.expandAll, Block.pushTokens]

/-- A further line extends the block by its tokens before the others extend it by theirs. -/
theorem completes_cons {scope : Scope} {current : OpenBlock Layer} {line : Line}
    {body : List Line} {layer : Layer} :
    dialect.Completes scope current (line :: body) layer ↔
      ∃ tokens block, scope.expandAll line.tokens = .ok tokens ∧
        Block.pushTokens dialect.grammar.duplicates current.block tokens = .ok block ∧
        dialect.Completes scope { current with block } body layer := by
  simp only [Completes, List.flatMap_cons, Scope.expandAll_append_eq_ok_iff]
  constructor
  · intro holds
    obtain ⟨_, whole, ⟨first, second, here, later, joined⟩, pushed, built⟩ := holds
    subst joined
    -- The tokens of all lines are pushed as one row, which parts behind the first line.
    obtain ⟨block, pushedHere, pushedLater⟩ := Block.pushTokens_append_eq_ok_iff.1 pushed
    exact ⟨first, block, here, pushedHere, second, whole, later, pushedLater, built⟩
  · intro parts
    obtain ⟨first, block, here, pushedHere, second, whole, later, pushedLater, built⟩ := parts
    exact ⟨first ++ second, whole, ⟨first, second, here, later, rfl⟩,
      Block.pushTokens_append_eq_ok_iff.2 ⟨block, pushedHere, pushedLater⟩, built⟩

/-- A paragraph describes a layer when its header opens a block that its body completes to it. -/
theorem builds_iff {scope : Scope} (anchored : scope.Anchored) {number : Nat} {text : Text}
    (nonempty : Token.split text ≠ []) {body : List Line} {layer : Layer} :
    dialect.Builds scope ⟨text, body⟩ layer ↔
      ∃ tokens current, scope.expandAll (Token.split text) = .ok tokens ∧
        dialect.beginBlock number tokens = .ok current ∧
        dialect.Completes scope current body layer := by
  simp only [Builds, Paragraph.tokens, Scope.expandAll_append_eq_ok_iff, beginBlock_eq_ok_iff]
  constructor
  · intro holds
    obtain ⟨layerType, arguments, builder, ⟨first, second, here, later, joined⟩, plain, registered,
      keys, distinct, built⟩ := holds
    -- The header alone has a token left, so the type is the first of the header's.
    obtain ⟨token, more, rfl⟩ :=
      List.exists_cons_of_ne_nil (anchored.expandAll_ne_nil nonempty here)
    obtain ⟨rfl, rfl⟩ := List.cons.inj joined
    -- The block starts without arguments, so keys that differ are all that the rule asks for.
    have pushed : Block.pushTokens dialect.grammar.duplicates
        { layerType := String.ofList layerType } (more ++ second) =
          .ok ⟨String.ofList layerType, (more ++ second).map Token.argument⟩ :=
      Block.pushTokens_eq_ok_iff.2 ⟨keys, fun reject => ⟨distinct reject, by
        simp [Block.has_eq_any]⟩, rfl⟩
    obtain ⟨block, pushedHere, pushedLater⟩ := Block.pushTokens_append_eq_ok_iff.1 pushed
    exact ⟨layerType :: more, { header := number, builder, block }, here,
      ⟨layerType, more, builder, block, rfl, plain, registered, pushedHere, rfl⟩,
      second, _, later, pushedLater, built⟩
  · intro parts
    obtain ⟨first, current, here, ⟨layerType, more, builder, block, joined, plain, registered,
      pushedHere, opened⟩, second, whole, later, pushedLater, built⟩ := parts
    subst joined opened
    -- The rows of the header and of the body are pushed as one.
    have pushed := Block.pushTokens_append_eq_ok_iff.2 ⟨block, pushedHere, pushedLater⟩
    obtain ⟨keys, distinct, rfl⟩ := Block.pushTokens_eq_ok_iff.1 pushed
    exact ⟨layerType, more ++ second, builder, ⟨_, second, here, later, rfl⟩, plain, registered,
      keys, fun reject => (distinct reject).1, by simpa using built⟩

/-- What lines add to overlays between two blocks. -/
def Proceeds (dialect : Dialect Layer) (scope : Scope) (overlays : List (Overlay Layer))
    (lines : List Line) (result : List (Overlay Layer)) : Prop :=
  (∀ item ∈ Item.ofLines lines, item.isDeclaration = false) ∧
    dialect.Composes scope overlays (Item.ofLines lines) result

/-- What lines add to overlays inside a block, the lines of which come first. -/
def Resumes (dialect : Dialect Layer) (scope : Scope) (current : OpenBlock Layer)
    (overlays : List (Overlay Layer)) (lines : List Line) (result : List (Overlay Layer)) : Prop :=
  (∀ line ∈ lines.takeWhile (· ≠ .blank), line.Continues) ∧
    ∃ layer, dialect.Completes scope current (lines.takeWhile (· ≠ .blank)) layer ∧
      dialect.Proceeds scope (Overlay.pushLast layer overlays) (lines.dropWhile (· ≠ .blank)) result

section Steps

variable {scope : Scope} {current : OpenBlock Layer} {overlays result : List (Overlay Layer)}
  {lines rest : List Line} {text : Text} {indented : Bool}

/-- No lines add nothing. -/
@[simp] theorem proceeds_nil : dialect.Proceeds scope overlays [] result ↔ overlays = result := by
  simp [Proceeds, Item.ofLines, Composes]

/-- A blank line between blocks adds nothing. -/
@[simp] theorem proceeds_blank :
    dialect.Proceeds scope overlays (.blank :: rest) result ↔
      dialect.Proceeds scope overlays rest result := by
  simp [Proceeds, Item.ofLines]

/-- A title begins an overlay. -/
theorem proceeds_title :
    dialect.Proceeds scope overlays (.title text :: rest) result ↔
      dialect.Proceeds scope (overlays ++ [{ title := Chapter.titleOf text }]) rest result := by
  simp [Proceeds, Item.ofLines, Composes, Item.isDeclaration]

/-- Behind a block there are no declarations. -/
theorem not_proceeds_declaration :
    ¬ dialect.Proceeds scope overlays (.declaration text :: rest) result := by
  simp [Proceeds, Item.ofLines, Item.isDeclaration]

/-- Behind a block there are no declarations without the marker either. -/
theorem not_proceeds_bare (declares : (!indented && Token.leadsWithValue text) = true) :
    ¬ dialect.Proceeds scope overlays (.content text indented :: rest) result := by
  simp [Proceeds, Item.ofLines, declares, Item.isDeclaration]

/-- A header opens a block, whose lines come next. -/
theorem proceeds_header (anchored : scope.Anchored) {number : Nat}
    (nonempty : Token.split text ≠ [])
    (declares : (!indented && Token.leadsWithValue text) = false) :
    dialect.Proceeds scope overlays (.content text indented :: rest) result ↔
      ∃ tokens current, scope.expandAll (Token.split text) = .ok tokens ∧
        dialect.beginBlock number tokens = .ok current ∧
        dialect.Resumes scope current overlays rest result := by
  simp only [Proceeds, Item.ofLines, declares, Bool.false_eq_true, if_false, Resumes, Composes,
    List.forall_mem_cons, Item.isDeclaration, true_and,
    @builds_iff _ _ _ anchored number _ nonempty]
  -- What a header begins is a paragraph, whose layer is completed by the lines behind it.
  constructor
  · intro holds
    obtain ⟨later, continues, layer, ⟨tokens, current, expanded, begun, completed⟩, composed⟩ :=
      holds
    exact ⟨tokens, current, expanded, begun, continues, layer, completed, later, composed⟩
  · intro parts
    obtain ⟨tokens, current, expanded, begun, continues, layer, completed, later, composed⟩ := parts
    exact ⟨later, continues, layer, ⟨tokens, current, expanded, begun, completed⟩, composed⟩

/-- At the end of the lines, an open block becomes a layer. -/
@[simp] theorem resumes_nil :
    dialect.Resumes scope current overlays [] result ↔
      ∃ layer, current.builder current.block = .ok layer ∧
        Overlay.pushLast layer overlays = result := by
  simp [Resumes]

/-- At a blank line, an open block becomes a layer. -/
theorem resumes_blank :
    dialect.Resumes scope current overlays (.blank :: rest) result ↔
      ∃ layer, current.builder current.block = .ok layer ∧
        dialect.Proceeds scope (Overlay.pushLast layer overlays) rest result := by
  simp [Resumes]

/-- A block has no declaration inside. -/
theorem not_resumes_declaration :
    ¬ dialect.Resumes scope current overlays (.declaration text :: rest) result := by
  simp [Resumes, Line.Continues]

/-- A block has no title inside. -/
theorem not_resumes_title :
    ¬ dialect.Resumes scope current overlays (.title text :: rest) result := by
  simp [Resumes, Line.Continues]

/-- A further line of content must go on with the block, and extends it by its tokens. -/
theorem resumes_content :
    dialect.Resumes scope current overlays (.content text indented :: rest) result ↔
      (indented = true ∨ Token.leadsWithValue text = true) ∧
        ∃ tokens block, scope.expandAll (Token.split text) = .ok tokens ∧
          Block.pushTokens dialect.grammar.duplicates current.block tokens = .ok block ∧
          dialect.Resumes scope { current with block } overlays rest result := by
  -- Only a blank line would end the paragraph here.
  have kept : ∀ line : Line, line = .content text indented → (decide (line ≠ .blank)) = true := by
    rintro _ rfl
    rfl
  simp only [Resumes, List.takeWhile_cons, List.dropWhile_cons, kept _ rfl, if_true,
    List.forall_mem_cons, Line.Continues, completes_cons, Line.tokens]
  -- The conditions on the paragraph are those on its first line and those on the others.
  constructor
  · intro holds
    obtain ⟨⟨continues, others⟩, layer, ⟨tokens, block, expanded, pushed, completed⟩, proceeds⟩ :=
      holds
    exact ⟨continues, tokens, block, expanded, pushed, others, layer, completed, proceeds⟩
  · intro parts
    obtain ⟨continues, tokens, block, expanded, pushed, others, layer, completed, proceeds⟩ := parts
    exact ⟨⟨continues, others⟩, layer, ⟨tokens, block, expanded, pushed, completed⟩, proceeds⟩

end Steps

/--
Items before the first block describe overlays.

They do so under the scope that their declarations make, none of which comes after a paragraph.
-/
def Begins (dialect : Dialect Layer) (scope : Scope) (overlays : List (Overlay Layer))
    (items : List Item) (result : List (Overlay Layer)) : Prop :=
  ∃ final, scope.declareAll items = .ok final ∧
    (items.Pairwise fun earlier later =>
      earlier.isParagraph = true → later.isDeclaration = false) ∧
    dialect.Composes final overlays items result

section Beginnings

variable {scope : Scope} {overlays result : List (Overlay Layer)} {rest : List Item} {text : Text}

/-- No items add nothing. -/
@[simp] theorem begins_nil : dialect.Begins scope overlays [] result ↔ overlays = result := by
  simp [Begins, Scope.declareAll, Composes]

/-- A title begins an overlay. -/
theorem begins_title :
    dialect.Begins scope overlays (.title text :: rest) result ↔
      dialect.Begins scope (overlays ++ [{ title := Chapter.titleOf text }]) rest result := by
  simp [Begins, Scope.declareAll, Composes, Item.isParagraph]

/-- A declaration must succeed, and the other items come under the scope that it makes. -/
theorem begins_declaration {marked : Bool} :
    dialect.Begins scope overlays (.declaration marked text :: rest) result ↔
      ∃ next, (if marked then scope.declare text else scope.declareBare text) = .ok next ∧
        dialect.Begins next overlays rest result := by
  simp only [Begins, Scope.declareAll_declaration_eq_ok_iff, List.pairwise_cons, Item.isParagraph,
    Composes]
  constructor
  · intro holds
    obtain ⟨final, ⟨next, declared, others⟩, ⟨_, first⟩, composed⟩ := holds
    exact ⟨next, declared, final, others, first, composed⟩
  · intro parts
    obtain ⟨next, declared, final, others, first, composed⟩ := parts
    -- A declaration is no paragraph, so it forbids nothing behind it.
    exact ⟨final, ⟨next, declared, others⟩, ⟨by simp, first⟩, composed⟩

/-- From the first paragraph on, no declaration may come and the scope is final. -/
theorem begins_paragraph {paragraph : Paragraph} :
    dialect.Begins scope overlays (.paragraph paragraph :: rest) result ↔
      (∀ item ∈ Item.paragraph paragraph :: rest, item.isDeclaration = false) ∧
        dialect.Composes scope overlays (.paragraph paragraph :: rest) result := by
  constructor
  · intro holds
    obtain ⟨final, declared, first, composed⟩ := holds
    -- What comes behind the paragraph is no declaration, and neither is the paragraph.
    have without : ∀ item ∈ Item.paragraph paragraph :: rest, item.isDeclaration = false :=
      List.forall_mem_cons.2
        ⟨rfl, fun item member => (List.pairwise_cons.1 first).1 item member rfl⟩
    rw [Scope.declareAll_of_no_declaration without] at declared
    obtain rfl := Except.ok.inj declared
    exact ⟨without, composed⟩
  · -- Without declarations the scope is final at once.
    intro parts
    obtain ⟨without, composed⟩ := parts
    exact ⟨scope, Scope.declareAll_of_no_declaration without,
      List.pairwise_of_forall_mem_list fun _ _ item member _ => without item member, composed⟩

end Beginnings

end Dialect

end OverlaySheet
