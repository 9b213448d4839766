import OverlaySheet.Text

/-! Patterns of character classes, and a search for a match that takes all it can and backtracks. -/

namespace OverlaySheet

/-- Whether a character is in one of some ranges. -/
def Text.inRanges (ranges : List (Char × Char)) (c : Char) : Bool :=
  ranges.any fun range => range.1 ≤ c && c ≤ range.2

/-- A range from a character to itself holds that one alone. -/
theorem Text.within_self (c d : Char) : (decide (d ≤ c) && decide (c ≤ d)) = (c == d) := by
  rw [Bool.eq_iff_iff, Bool.and_eq_true, decide_eq_true_iff, decide_eq_true_iff, beq_iff_eq]
  constructor
  · -- A character that is neither below nor above the other is the other.
    rintro ⟨above, below⟩
    exact Char.le_antisymm below above
  · rintro rfl
    exact ⟨Char.le_refl c, Char.le_refl c⟩

/-- A piece of a pattern: one character of a class, or any number of them. -/
inductive Piece where
  | one (allows : Char → Bool)
  | many (allows : Char → Bool)

/-- A pattern is a row of pieces. -/
abbrev Pattern := List Piece

namespace Pattern

/-- A text matches a pattern as a whole, with a part of the text for each piece. -/
inductive Matches : Pattern → List Text → Text → Prop where
  | nil : Matches [] [] []
  | one {allows : Char → Bool} {pattern : Pattern} {parts : List Text} {back : Text} (c : Char) :
      allows c = true → Matches pattern parts back →
      Matches (.one allows :: pattern) ([c] :: parts) (c :: back)
  | many {allows : Char → Bool} {pattern : Pattern} {parts : List Text} {back : Text}
      (run : Text) : (∀ c ∈ run, allows c = true) → Matches pattern parts back →
      Matches (.many allows :: pattern) (run :: parts) (run ++ back)

/-- The ways to take characters of a class off the front of a text, the longest run first. -/
def runs (allows : Char → Bool) : Text → List (Text × Text)
  | [] => [([], [])]
  | c :: rest =>
    if allows c then
      (runs allows rest).map (fun (run, back) => (c :: run, back)) ++ [([], c :: rest)]
    else [([], c :: rest)]

/--
The parts of the first match of a pattern with a whole text, if there is one.

A run takes as much as it can, and it gives back one character after the other while the pieces
behind it find no match.
-/
def search : Pattern → Text → Option (List Text)
  | [], text => if text.isEmpty then some [] else none
  | .one _ :: _, [] => none
  | .one allows :: pattern, c :: back =>
    if allows c then (search pattern back).map ([c] :: ·) else none
  | .many allows :: pattern, text =>
    (runs allows text).findSome? fun (run, back) => (search pattern back).map (run :: ·)

section Runs

variable {allows : Char → Bool} {run back : Text}

/-- A run that is taken off a text is of the class, and the rest stays. -/
theorem eq_append_of_mem_runs {text : Text} (member : (run, back) ∈ runs allows text) :
    text = run ++ back ∧ ∀ c ∈ run, allows c = true := by
  induction text generalizing run with
  | nil =>
    obtain ⟨rfl, rfl⟩ : run = [] ∧ back = [] := by simpa [runs] using member
    exact ⟨rfl, List.forall_mem_nil _⟩
  | cons c rest ih =>
    -- Taking nothing is always one of the ways.
    have nothing : (run, back) = ([], c :: rest) →
        c :: rest = run ++ back ∧ ∀ e ∈ run, allows e = true := by
      intro same
      obtain ⟨rfl, rfl⟩ := Prod.mk.inj same
      exact ⟨rfl, List.forall_mem_nil _⟩
    rw [runs] at member
    split at member
    · next allowed =>
      -- Either the run goes on behind this character, or it ends in front of it.
      rcases List.mem_append.1 member with longer | last
      · obtain ⟨⟨shorter, behind⟩, inRest, same⟩ := List.mem_map.1 longer
        obtain ⟨rfl, rfl⟩ := Prod.mk.inj same
        obtain ⟨rfl, all⟩ := ih inRest
        exact ⟨rfl, List.forall_mem_cons.2 ⟨allowed, all⟩⟩
      · exact nothing (List.mem_singleton.1 last)
    · exact nothing (List.mem_singleton.1 member)

/-- Where a run cannot go on, it is the first that is taken. -/
theorem exists_runs_eq (all : ∀ c ∈ run, allows c = true)
    (stops : back.head?.any allows = false) :
    ∃ shorter, runs allows (run ++ back) = (run, back) :: shorter := by
  -- The induction follows the run, whose longest way comes first at every character.
  induction run with
  | nil =>
    cases back with
    | nil => exact ⟨[], rfl⟩
    | cons c back =>
      have refused : allows c = false := by simpa using stops
      exact ⟨[], by simp [runs, refused]⟩
  | cons c run ih =>
    obtain ⟨here, there⟩ := List.forall_mem_cons.1 all
    obtain ⟨shorter, longest⟩ := ih there
    exact ⟨_, by rw [List.cons_append, runs, if_pos here, longest, List.map_cons, List.cons_append]⟩

end Runs

variable {pattern : Pattern} {text : Text} {parts : List Text} {allows : Char → Bool}

/-- What is found is a match. -/
theorem matches_of_search (found : pattern.search text = some parts) :
    pattern.Matches parts text := by
  -- Each piece takes its part from the front of the text, and the others match what is behind.
  induction pattern generalizing text parts with
  | nil =>
    cases text with
    | nil =>
      obtain rfl := Option.some.inj found
      exact .nil
    | cons c back => cases found
  | cons piece pattern ih =>
    cases piece with
    | one allows =>
      cases text with
      | nil => cases found
      | cons c back =>
        rw [search] at found
        split at found
        · next allowed =>
          obtain ⟨others, foundBehind, rfl⟩ := Option.map_eq_some_iff.1 found
          exact .one c allowed (ih foundBehind)
        · cases found
    | many allows =>
      rw [search] at found
      obtain ⟨⟨run, back⟩, member, continued⟩ := List.exists_of_findSome?_eq_some found
      obtain ⟨others, foundBehind, rfl⟩ := Option.map_eq_some_iff.1 continued
      obtain ⟨rfl, all⟩ := eq_append_of_mem_runs member
      exact .many run all (ih foundBehind)

/-- A character of its class is taken by a piece for one. -/
theorem search_one {c : Char} (allowed : allows c = true)
    (found : pattern.search text = some parts) :
    search (.one allows :: pattern) (c :: text) = some ([c] :: parts) := by
  rw [search, if_pos allowed, found, Option.map_some]

/-- A whole run is taken by a piece for many, when the search goes on well behind it. -/
theorem search_many {run : Text} (all : ∀ c ∈ run, allows c = true)
    (stops : text.head?.any allows = false) (found : pattern.search text = some parts) :
    search (.many allows :: pattern) (run ++ text) = some (run :: parts) := by
  -- The longest run is tried first, and the search succeeds there at once.
  obtain ⟨shorter, longest⟩ := exists_runs_eq all stops
  simp only [search, longest, List.findSome?_cons, found, Option.map_some]

end Pattern

end OverlaySheet
