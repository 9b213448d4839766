import OverlaySheet.Proofs.Text.Pieces
import OverlaySheet.Proofs.Sheet.Token
import OverlaySheet.Sheet.Line

/-! Lines: which texts are read as which kind of line. -/

namespace OverlaySheet.Line

open Text (EndsSolid)

variable {grammar : Grammar}

/-- A text of blanks is a blank line. -/
theorem ofText_of_blank {raw : Text} (blank : raw.Blank) : ofText grammar raw = .blank := by
  -- Nothing is left of the line once it is trimmed.
  have start : raw.trimStart = [] := by
    simpa [Text.trimStart, Text.Blank] using blank
  simp [ofText, Text.trim, start, Text.trimEnd]

/-- A line that starts with another character than a blank is at the margin. -/
theorem isIndented_of_opensSolid {raw : Text} (opens : Text.OpensSolid raw) :
    isIndented raw = false := by
  -- The margin is told by the first character alone.
  obtain ⟨first, rest, rfl, solid⟩ := opens
  simp [isIndented, solid]

/-- What follows a marker makes a declaration or a title, and no other line. -/
theorem marked?_eq_some {text : Text} {line : Line} (marked : marked? grammar text = some line) :
    (∃ rest, Text.after? grammar.variableMarker.toList text = some rest ∧
      line = .declaration rest) ∨
    ∃ rest, Text.after? grammar.titleMarker.toList text = some rest ∧
      line = .title rest.trim := by
  have either : title? grammar text = some line ∨ declaration? grammar text = some line := by
    -- The order in which the markers are tried does not matter here.
    simp only [marked?, Option.orElse_eq_orElse, Option.orElse_eq_or] at marked
    split at marked
    · exact (Option.or_eq_some_iff.1 marked).imp_right And.right
    · exact (Option.or_eq_some_iff.1 marked).symm.imp_left And.right
  rcases either with title | declaration
  · obtain ⟨rest, found, rfl⟩ := Option.map_eq_some_iff.1 title
    exact Or.inr ⟨rest, found, rfl⟩
  · obtain ⟨rest, found, rfl⟩ := Option.map_eq_some_iff.1 declaration
    exact Or.inl ⟨rest, found, rfl⟩

/-- A text with neither of the two markers is not marked. -/
theorem marked?_eq_none_iff {text : Text} :
    marked? grammar text = none ↔ Text.after? grammar.variableMarker.toList text = none ∧
      Text.after? grammar.titleMarker.toList text = none := by
  unfold marked?
  -- In either order both markers are tried before giving up.
  split
  · simp [title?, declaration?, and_comm]
  · simp [title?, declaration?]

/--
A line is content when its text has no comment marker, and at the margin no marker at all.

The text is the line without the blanks around it, of which something must be left.
-/
theorem ofText_eq_content_iff {raw text : Text} {indented : Bool} :
    ofText grammar raw = .content text indented ↔
      raw.trim = text ∧ text ≠ [] ∧ Text.after? grammar.commentMarker.toList text = none ∧
        isIndented raw = indented ∧ (indented = false → marked? grammar text = none) := by
  -- The conditions are taken in the order in which the line is tested.
  by_cases empty : raw.trim = []
  · simp only [ofText, empty, List.isEmpty_nil, if_true]
    constructor
    · intro line
      cases line
    · intro conditions
      obtain ⟨rfl, nonempty, _⟩ := conditions
      exact absurd rfl nonempty
  have nonempty : raw.trim.isEmpty = false := by simpa using empty
  -- A comment is recognised before anything else.
  cases comment : Text.after? grammar.commentMarker.toList raw.trim with
  | some rest =>
    simp only [ofText, nonempty, Bool.false_eq_true, if_false, comment, Option.isSome_some, if_true]
    constructor
    · intro line
      cases line
    · intro conditions
      obtain ⟨rfl, _, uncommented, _⟩ := conditions
      rw [comment] at uncommented
      cases uncommented
  | none =>
    simp only [ofText, nonempty, Bool.false_eq_true, if_false, comment, Option.isSome_none]
    -- An indented line is content whatever marker it has.
    cases margin : isIndented raw with
    | true =>
      simp only [if_true, Line.content.injEq]
      constructor
      · intro line
        obtain ⟨rfl, rfl⟩ := line
        exact ⟨rfl, empty, comment, rfl, by simp⟩
      · intro conditions
        obtain ⟨rfl, _, _, rfl, _⟩ := conditions
        exact ⟨rfl, rfl⟩
    | false =>
      simp only [Bool.false_eq_true, if_false]
      -- At the margin the other two markers count.
      cases marked : marked? grammar raw.trim with
      | none =>
        simp only [Option.getD_none, Line.content.injEq]
        constructor
        · intro line
          obtain ⟨rfl, rfl⟩ := line
          exact ⟨rfl, empty, comment, rfl, fun _ => marked⟩
        · intro conditions
          obtain ⟨rfl, _, _, rfl, _⟩ := conditions
          exact ⟨rfl, rfl⟩
      | some line =>
        -- A marked line at the margin is a title or a declaration.
        simp only [Option.getD_some]
        constructor
        · rintro rfl
          rcases marked?_eq_some marked with ⟨rest, _, same⟩ | ⟨rest, _, same⟩
          · cases same
          · cases same
        · intro conditions
          obtain ⟨rfl, _, _, rfl, unmarked⟩ := conditions
          rw [unmarked rfl] at marked
          cases marked

/-- A line of content has a token. -/
theorem split_ne_nil_of_content {raw text : Text} {indented : Bool}
    (line : ofText grammar raw = .content text indented) : Token.split text ≠ [] := by
  obtain ⟨rfl, nonempty, _⟩ := ofText_eq_content_iff.1 line
  -- The text of the line was trimmed and is not empty, so it ends solid.
  rcases Text.trim_eq_nil_or_endsSolid raw with empty | ends
  · exact absurd empty nonempty
  · exact Token.split_ne_nil ends

end OverlaySheet.Line
