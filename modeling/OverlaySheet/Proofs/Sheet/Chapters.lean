import OverlaySheet.Proofs.Sheet.Reading

/-! Overlays grown item by item, and the chapters that they turn out to describe. -/

namespace OverlaySheet

namespace Overlay

variable {Layer : Type}

/-- Puts layers into the last overlay, one after the other. -/
def pushAll (layers : List Layer) (overlays : List (Overlay Layer)) : List (Overlay Layer) :=
  layers.foldl (fun overlays layer => pushLast layer overlays) overlays

/-- A layer goes into the last overlay and leaves those before it alone. -/
theorem pushLast_append (layer : Layer) (overlays : List (Overlay Layer)) (last : Overlay Layer) :
    pushLast layer (overlays ++ [last]) = overlays ++ [last.push layer] := by
  induction overlays with
  | nil => rfl
  | cons overlay rest ih =>
    -- The layer passes over an overlay that others follow.
    obtain ⟨next, others, cons⟩ : ∃ next others, rest ++ [last] = next :: others :=
      List.exists_cons_of_ne_nil (by simp)
    rw [List.cons_append, cons, pushLast, ← cons, ih, List.cons_append]
    simp

/-- Layers go into the last overlay and leave those before it alone. -/
theorem pushAll_append (layers : List Layer) (overlays : List (Overlay Layer))
    (last : Overlay Layer) :
    pushAll layers (overlays ++ [last]) =
      overlays ++ [{ last with layers := last.layers ++ layers }] := by
  -- Only the last overlay changes on the way, so the induction is for any such overlay.
  induction layers generalizing last with
  | nil => simp [pushAll]
  | cons layer rest ih =>
    -- The first layer is pushed, and the others go behind it into the same overlay.
    calc pushAll (layer :: rest) (overlays ++ [last])
        = pushAll rest (overlays ++ [last.push layer]) := by
          rw [pushAll, List.foldl_cons, pushLast_append, pushAll]
      _ = overlays ++ [{ last with layers := last.layers ++ layer :: rest }] := by
          rw [ih (last.push layer)]
          simp [push]

/-- The first layers of a sheet without a title so far begin an overlay. -/
theorem pushAll_nil {layers : List Layer} (nonempty : layers ≠ []) :
    pushAll layers [] = [{ title := none, layers }] := by
  obtain ⟨layer, rest, rfl⟩ := List.exists_cons_of_ne_nil nonempty
  -- The first layer begins the overlay, and the others go into it.
  exact pushAll_append rest [] (Overlay.push {} layer)

end Overlay

namespace Dialect

variable {Layer : Type} {dialect : Dialect Layer}

/--
Items turn overlays into others, one item after the other.

Declarations change no overlay, titles begin one, and a paragraph puts its layer into the last.
-/
def Composes (dialect : Dialect Layer) (scope : Scope) (overlays : List (Overlay Layer)) :
    List Item → List (Overlay Layer) → Prop
  | [], result => overlays = result
  | .declaration _ _ :: rest, result => dialect.Composes scope overlays rest result
  | .title text :: rest, result =>
    dialect.Composes scope (overlays ++ [{ title := Chapter.titleOf text }]) rest result
  | .paragraph paragraph :: rest, result =>
    (∀ line ∈ paragraph.body, line.Continues) ∧ ∃ layer, dialect.Builds scope paragraph layer ∧
      dialect.Composes scope (Overlay.pushLast layer overlays) rest result

/--
What items compose is told by their chapters.

The layers before the first title go into the overlays at hand, and each title adds an overlay.
-/
theorem composes_iff {scope : Scope} {overlays result : List (Overlay Layer)} {items : List Item} :
    dialect.Composes scope overlays items result ↔
      (∀ paragraph, .paragraph paragraph ∈ items → ∀ line ∈ paragraph.body, line.Continues) ∧
        ∃ layers others, List.Forall₂ (dialect.Builds scope) (Chapter.leading items) layers ∧
          List.Forall₂ (dialect.Renders scope) (Chapter.titled items) others ∧
          result = Overlay.pushAll layers overlays ++ others := by
  induction items generalizing overlays with
  | nil => simp [Composes, Chapter.leading, Chapter.titled, Overlay.pushAll, eq_comm]
  | cons item rest ih =>
    cases item with
    | declaration marked text =>
      -- A declaration belongs to no chapter.
      simpa [Composes, Chapter.leading, Chapter.titled] using ih
    | title text =>
      simp only [Composes, ih, List.mem_cons, reduceCtorEq, false_or, Chapter.leading,
        Chapter.titled, List.forall₂_nil_left_iff]
      refine and_congr_right fun _ => ?_
      constructor
      · -- What the later paragraphs add to the new overlay is its chapter.
        intro composed
        obtain ⟨layers, others, built, rendered, result_eq⟩ := composed
        refine ⟨[], { title := Chapter.titleOf text, layers } :: others, rfl,
          List.Forall₂.cons ⟨rfl, built⟩ rendered, ?_⟩
        rw [result_eq, Overlay.pushAll_append]
        simp [Overlay.pushAll]
      · -- An empty chapter leads, so the layers at hand stay as they are.
        intro described
        obtain ⟨_, _, empty, rendered, result_eq⟩ := described
        subst empty
        cases rendered with
        | @cons _ overlay _ others here later =>
          obtain ⟨title, layers⟩ := overlay
          obtain ⟨sameTitle, built⟩ := here
          refine ⟨layers, others, built, later, ?_⟩
          obtain rfl : title = Chapter.titleOf text := sameTitle
          rw [result_eq, Overlay.pushAll_append]
          simp [Overlay.pushAll]
    | paragraph paragraph =>
      simp only [Composes, ih, List.mem_cons, Item.paragraph.injEq, Chapter.leading,
        Chapter.titled]
      -- Both ways the first layer is the one of this paragraph, and the rest is the same statement.
      constructor
      · intro composed
        obtain ⟨continues, layer, built, others, layers, overlays', builtLater, rendered, result_eq⟩
          := composed
        refine ⟨?_, layer :: layers, overlays', List.Forall₂.cons built builtLater, rendered,
          result_eq⟩
        intro other member
        -- The paragraph is the first one or a later one.
        rcases member with rfl | later
        · exact continues
        · exact others other later
      · intro described
        obtain ⟨continues, all, others, built, rendered, result_eq⟩ := described
        cases built with
        | @cons _ layer _ layers here later =>
          exact ⟨continues paragraph (Or.inl rfl), layer, here,
            fun other member => continues other (Or.inr member), layers, others, later, rendered,
            result_eq⟩

/-- From no overlays at all, the chapters of the items are all that comes out. -/
theorem composes_nil_iff {scope : Scope} {result : List (Overlay Layer)} {items : List Item} :
    dialect.Composes scope [] items result ↔
      (∀ paragraph, .paragraph paragraph ∈ items → ∀ line ∈ paragraph.body, line.Continues) ∧
        List.Forall₂ (dialect.Renders scope) (Chapter.ofItems items) result := by
  rw [composes_iff]
  -- The bodies are the same on both sides, so only the layers and their chapters are compared.
  refine and_congr_right fun _ => ?_
  cases leading : Chapter.leading items with
  | nil =>
    -- Without a paragraph before it, the first title begins the first overlay.
    simp [Chapter.ofItems, leading, Overlay.pushAll]
  | cons paragraph paragraphs =>
    simp only [Chapter.ofItems, leading, List.isEmpty_cons, Bool.false_eq_true, if_false]
    constructor
    · intro composed
      obtain ⟨layers, others, built, rendered, result_eq⟩ := composed
      -- There is a paragraph for each layer, so there is a layer too.
      have nonempty : layers ≠ [] :=
        List.ne_nil_of_length_pos (by simp [← built.length_eq])
      rw [result_eq, Overlay.pushAll_nil nonempty]
      exact List.Forall₂.cons ⟨rfl, built⟩ rendered
    · -- The overlay without a title is the one into which the first layers went.
      intro rendered
      cases rendered with
      | @cons _ overlay _ others here later =>
        obtain ⟨title, layers⟩ := overlay
        obtain ⟨untitled, built⟩ := here
        have nonempty : layers ≠ [] :=
          List.ne_nil_of_length_pos (by simp [← List.Forall₂.length_eq built])
        refine ⟨layers, others, built, later, ?_⟩
        obtain rfl : title = none := untitled
        rw [Overlay.pushAll_nil nonempty]
        rfl

end Dialect

end OverlaySheet
