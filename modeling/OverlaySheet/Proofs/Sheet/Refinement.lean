import OverlaySheet.Proofs.Sheet.Line
import OverlaySheet.Proofs.Sheet.Stepwise

/-! A run over lines succeeds exactly when the sheet has a reading, and with what it describes. -/

namespace OverlaySheet.Dialect

variable {Layer : Type} {dialect : Dialect Layer}

/-- A run between blocks adds what some lines describe. -/
def AgreesBetween (dialect : Dialect Layer) (scope : Scope) (lines : List Text)
    (result : List (Overlay Layer)) : Prop :=
  ∀ number overlays,
    dialect.finish number { scope, phase := .between, overlays } lines = .ok result ↔
      dialect.Proceeds scope overlays (Line.readable dialect.grammar lines) result

/-- A run inside a block adds what some lines describe, the first of which go on with the block. -/
def AgreesInBlock (dialect : Dialect Layer) (scope : Scope) (lines : List Text)
    (result : List (Overlay Layer)) : Prop :=
  ∀ number current overlays,
    dialect.finish number { scope, phase := .inBlock current, overlays } lines = .ok result ↔
      dialect.Resumes scope current overlays (Line.readable dialect.grammar lines) result

section Agreement

variable {scope : Scope} {raw text : Text} {indented : Bool} {rest : List Text}
  {result : List (Overlay Layer)}

/-- Between blocks the end of the lines changes nothing. -/
theorem agreesBetween_nil : dialect.AgreesBetween scope [] result := by
  -- No line is left, and outside a block the run completes with its overlays.
  intro number overlays
  rw [finish_nil_eq_ok_iff, Line.readable, List.map_nil, List.filter_nil, proceeds_nil]
  simp [endBlock]

/-- Inside a block the end of the lines ends the block. -/
theorem agreesInBlock_nil : dialect.AgreesInBlock scope [] result := by
  intro number current overlays
  rw [finish_nil_eq_ok_iff, Line.readable, List.map_nil, List.filter_nil, resumes_nil]
  simp only [endBlock_inBlock_eq_ok_iff]
  constructor
  · -- The layer that is built is the last one in the overlays.
    intro holds
    obtain ⟨closed, ⟨layer, built, ended⟩, same⟩ := holds
    subst ended
    exact ⟨layer, built, same⟩
  · intro parts
    obtain ⟨layer, built, same⟩ := parts
    exact ⟨_, ⟨layer, built, rfl⟩, same⟩

/-- From a header line on, the run is inside the block that the header opens. -/
theorem header_finish_iff (anchored : scope.Anchored) (nonempty : Token.split text ≠ [])
    (declares : (!indented && Token.leadsWithValue text) = false)
    (inBlock : dialect.AgreesInBlock scope rest result) {number : Nat} {phase : Phase Layer}
    {overlays : List (Overlay Layer)} :
    (∃ next, dialect.readHeader number text { scope, phase, overlays } = .ok next ∧
      dialect.finish (number + 1) next rest = .ok result) ↔
      dialect.Proceeds scope overlays
        (.content text indented :: Line.readable dialect.grammar rest) result := by
  rw [@proceeds_header _ _ _ _ _ _ _ _ anchored number nonempty declares]
  simp only [readHeader_eq_ok_iff]
  -- The block is the same on both sides, and the lines behind are read inside of it.
  constructor
  · intro holds
    obtain ⟨next, ⟨tokens, current, expanded, begun, opened⟩, finished⟩ := holds
    subst opened
    exact ⟨tokens, current, expanded, begun, (inBlock _ _ _).1 finished⟩
  · intro parts
    obtain ⟨tokens, current, expanded, begun, resumes⟩ := parts
    exact ⟨_, ⟨tokens, current, expanded, begun, rfl⟩, (inBlock _ _ _).2 resumes⟩

/-- Between blocks one more line at the front is read as what it describes. -/
theorem agreesBetween_cons (anchored : scope.Anchored)
    (between : dialect.AgreesBetween scope rest result)
    (inBlock : dialect.AgreesInBlock scope rest result) :
    dialect.AgreesBetween scope (raw :: rest) result := by
  intro number overlays
  rw [finish_cons_eq_ok_iff, Line.readable_cons]
  cases line : Line.ofText dialect.grammar raw with
  | comment => simp [step, between _ _]
  | blank => simp [step, endBlock, between _ _]
  | title text => simp [step, beginOverlay, between _ _, proceeds_title, Chapter.titleOf]
  | declaration text =>
    -- Both sides refuse a declaration behind the first block.
    simp [step, not_proceeds_declaration]
  | content text indented =>
    simp only [reduceCtorEq, if_false, step]
    -- A first token with a value would declare, which is too late here.
    cases declares : !indented && Token.leadsWithValue text with
    | true => simp [not_proceeds_bare declares]
    | false => exact header_finish_iff anchored (Line.split_ne_nil_of_content line) declares inBlock

/-- Inside a block one more line at the front is read as what it describes. -/
theorem agreesInBlock_cons (between : dialect.AgreesBetween scope rest result)
    (inBlock : dialect.AgreesInBlock scope rest result) :
    dialect.AgreesInBlock scope (raw :: rest) result := by
  intro number current overlays
  -- A blank line ends the block, content goes on with it, and other lines are refused.
  rw [finish_cons_eq_ok_iff, Line.readable_cons]
  cases line : Line.ofText dialect.grammar raw with
  | comment => simp [step, inBlock _ _ _]
  | declaration text => simp [step, not_resumes_declaration]
  | title text => simp [step, not_resumes_title]
  | blank =>
    -- The blank line ends the block, and what follows stands between blocks.
    simp only [reduceCtorEq, if_false, step, endBlock_inBlock_eq_ok_iff, resumes_blank]
    constructor
    · intro holds
      obtain ⟨next, ⟨layer, built, ended⟩, finished⟩ := holds
      subst ended
      exact ⟨layer, built, (between _ _).1 finished⟩
    · intro parts
      obtain ⟨layer, built, proceeds⟩ := parts
      exact ⟨_, ⟨layer, built, rfl⟩, (between _ _).2 proceeds⟩
  | content text indented =>
    simp only [reduceCtorEq, if_false, step, resumes_content]
    -- Content goes on with a block if it is indented or starts with a value.
    by_cases continues : indented = true ∨ Token.leadsWithValue text = true
    · simp only [Bool.or_eq_true, continues, if_true, true_and, extendBlock_eq_ok_iff]
      constructor
      · intro holds
        obtain ⟨next, ⟨tokens, block, expanded, pushed, extended⟩, finished⟩ := holds
        subst extended
        exact ⟨tokens, block, expanded, pushed, (inBlock _ _ _).1 finished⟩
      · intro parts
        obtain ⟨tokens, block, expanded, pushed, resumes⟩ := parts
        exact ⟨_, ⟨tokens, block, expanded, pushed, rfl⟩, (inBlock _ _ _).2 resumes⟩
    · -- The line would be a second header, which the step and the paragraph both refuse.
      simp [continues]

/-- A run past the first header adds what the lines left describe. -/
theorem agreesBetween_and_agreesInBlock (anchored : scope.Anchored) (lines : List Text) :
    dialect.AgreesBetween scope lines result ∧ dialect.AgreesInBlock scope lines result := by
  -- The two go together, because headers lead into blocks and blank lines lead out of them.
  induction lines with
  | nil => exact ⟨agreesBetween_nil, agreesInBlock_nil⟩
  | cons raw rest ih =>
    obtain ⟨between, inBlock⟩ := ih
    exact ⟨agreesBetween_cons anchored between inBlock, agreesInBlock_cons between inBlock⟩

end Agreement

/-- A run before the first block carries out declarations and then adds what the items describe. -/
theorem finish_preamble_eq_ok_iff {scope : Scope} {marker : Text}
    (reachable : Scope.Reachable marker scope) {number : Nat}
    {overlays result : List (Overlay Layer)} (lines : List Text) :
    dialect.finish number { scope, phase := .preamble, overlays } lines = .ok result ↔
      dialect.Begins scope overlays (Item.ofLines (Line.readable dialect.grammar lines))
        result := by
  -- The induction is on the lines, since a declaration changes the scope for those behind it.
  induction lines generalizing scope number overlays with
  | nil =>
    rw [finish_nil_eq_ok_iff, Line.readable, List.map_nil, List.filter_nil, Item.ofLines,
      begins_nil]
    simp [endBlock]
  | cons raw rest ih =>
    rw [finish_cons_eq_ok_iff, Line.readable_cons]
    cases line : Line.ofText dialect.grammar raw with
    -- Comments and blank lines leave the run and its items as they are.
    | comment => simp [step, ih reachable]
    | blank => simp [step, endBlock, ih reachable, Item.ofLines]
    | title text =>
      simp [step, beginOverlay, ih reachable, Item.ofLines, begins_title, Chapter.titleOf]
    | declaration text =>
      -- The scope grows in the run and among the items alike, and stays reachable.
      simp only [reduceCtorEq, if_false, step, Item.ofLines, begins_declaration, if_true,
        bind_eq_ok_iff, pure_eq_ok_iff]
      constructor
      · intro holds
        obtain ⟨next, ⟨declared, found, same⟩, finished⟩ := holds
        subst same
        exact ⟨declared, found, (ih (reachable.declare found)).1 finished⟩
      · intro parts
        obtain ⟨declared, found, begins⟩ := parts
        exact ⟨_, ⟨declared, found, rfl⟩, (ih (reachable.declare found)).2 begins⟩
    | content text indented =>
      simp only [reduceCtorEq, if_false, step, Item.ofLines]
      cases declares : !indented && Token.leadsWithValue text with
      | true =>
        -- The line declares a variable without the marker.
        simp only [if_true, begins_declaration, Bool.false_eq_true, if_false, bind_eq_ok_iff,
          pure_eq_ok_iff]
        constructor
        · intro holds
          obtain ⟨next, ⟨declared, found, same⟩, finished⟩ := holds
          subst same
          exact ⟨declared, found, (ih (reachable.declareBare found)).1 finished⟩
        · intro parts
          obtain ⟨declared, found, begins⟩ := parts
          exact ⟨_, ⟨declared, found, rfl⟩, (ih (reachable.declareBare found)).2 begins⟩
      | false =>
        -- The first header ends the declarations, so the scope is final from here on.
        have inBlock : dialect.AgreesInBlock scope rest result :=
          (agreesBetween_and_agreesInBlock reachable.anchored rest).2
        simp only [Bool.false_eq_true, if_false]
        rw [header_finish_iff reachable.anchored (Line.split_ne_nil_of_content line) declares
          inBlock, begins_paragraph]
        simp [Proceeds, Item.ofLines, declares]

/-- The lines of a paragraph continue it when no marked line and no bare content is among them. -/
theorem forall_continues_iff {items : List Item} :
    (∀ paragraph, .paragraph paragraph ∈ items → ∀ line ∈ paragraph.body, line.Continues) ↔
      (∀ paragraph, .paragraph paragraph ∈ items → ∀ text, .declaration text ∉ paragraph.body) ∧
      (∀ paragraph, .paragraph paragraph ∈ items → ∀ text, .title text ∉ paragraph.body) ∧
      (∀ paragraph, .paragraph paragraph ∈ items → ∀ text, .content text false ∈ paragraph.body →
        Token.leadsWithValue text = true) := by
  -- The four kinds of line are sorted out by what a paragraph may go on with.
  constructor
  · intro continues
    refine ⟨fun paragraph member text inside => ?_, fun paragraph member text inside => ?_,
      fun paragraph member text inside => ?_⟩
    · exact continues paragraph member _ inside
    · exact continues paragraph member _ inside
    · -- A line at the margin is not indented, so its first token has a value.
      rcases continues paragraph member _ inside with indented | leads
      · cases indented
      · exact leads
  · -- A line of content continues a paragraph by its indent or by its first token.
    intro ⟨declarations, titles, margins⟩ paragraph member line inside
    cases line with
    | blank => trivial
    | comment => trivial
    | declaration text => exact declarations paragraph member text inside
    | title text => exact titles paragraph member text inside
    | content text indented =>
      cases indented with
      | true => exact Or.inl rfl
      | false => exact Or.inr (margins paragraph member text inside)

/--
Inflating lines one at a time is reading the sheet as a whole.

The machine gives overlays exactly when some scope makes them a reading of the items.
-/
theorem inflateLines_eq_ok_iff_reading (dialect : Dialect Layer) (lines : List Text)
    (overlays : List (Overlay Layer)) :
    dialect.inflateLines lines = .ok overlays ↔
      ∃ scope,
        dialect.Reading (Item.ofLines (Line.readable dialect.grammar lines)) scope overlays := by
  -- The run starts in the preamble with the empty scope and no overlays.
  rw [inflateLines_eq_finish, start, finish_preamble_eq_ok_iff Scope.Reachable.empty]
  simp only [Begins, composes_nil_iff, forall_continues_iff]
  constructor
  · intro holds
    obtain ⟨scope, declared, first, ⟨declarations, titles, continued⟩, rendered⟩ := holds
    exact ⟨scope, declared, first, declarations, titles, continued, rendered⟩
  · intro parts
    obtain ⟨scope, reading⟩ := parts
    exact ⟨scope, reading.declared, reading.declarationsFirst, ⟨reading.declarationsOutside,
      reading.titlesOutside, reading.continued⟩, reading.rendered⟩

end OverlaySheet.Dialect
