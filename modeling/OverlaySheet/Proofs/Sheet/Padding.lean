import Mathlib.Algebra.GroupWithZero.Nat
import OverlaySheet.Proofs.Sheet.Line
import OverlaySheet.Proofs.Sheet.Renumbering

/-! Lines that may be inserted into a sheet: they change nothing but the numbers of lines. -/

namespace OverlaySheet

namespace Dialect

variable {Layer : Type} {dialect : Dialect Layer}

/-- No block is open behind some lines. -/
def ClosedBehind (dialect : Dialect Layer) (before : List Text) : Prop :=
  ∀ run, dialect.readLines 0 dialect.start before = .ok run → run.Closed

/-- A line that may be inserted behind some lines: a comment, or blanks where no block is open. -/
def Idle (dialect : Dialect Layer) (before : List Text) (raw : Text) : Prop :=
  Line.ofText dialect.grammar raw = .comment ∨ raw.Blank ∧ dialect.ClosedBehind before

/-- Lines that may be inserted leave the run as it is, under any numbers. -/
theorem readLines_idle {before : List Text} {run : Run Layer}
    (read : dialect.readLines 0 dialect.start before = .ok run) {inserted : List Text}
    (idle : ∀ raw ∈ inserted, dialect.Idle before raw) (place : Nat → Nat) (number : Nat) :
    dialect.readLines number (run.moved place) inserted = .ok (run.moved place) := by
  induction inserted generalizing number with
  | nil => rfl
  | cons raw rest ih =>
    obtain ⟨here, there⟩ := List.forall_mem_cons.1 idle
    have same : dialect.readLine number (run.moved place) raw = .ok (run.moved place) := by
      rw [readLine]
      -- A comment is idle anywhere, and a blank line where it has no block to end.
      rcases here with comment | ⟨blank, closed⟩
      · rw [comment]
        rfl
      · rw [Line.ofText_of_blank blank, step,
          endBlock_of_closed (Run.closed_moved (closed run read) place)]
        rfl
    rw [readLines, same]
    exact ih there (number + 1)

/-- A blank line at the end does what the end of the lines does. -/
theorem inflateLines_append_blank {raw : Text} (blank : raw.Blank) (lines : List Text) :
    dialect.inflateLines (lines ++ [raw]) = dialect.inflateLines lines := by
  unfold inflateLines
  rw [readLines_append]
  cases dialect.readLines 0 dialect.start lines with
  | error fault => rfl
  | ok run =>
    -- The block that is still open is ended by the blank line, or else by the end.
    simp only [Bind.bind, Except.bind, readLines, readLine, Line.ofText_of_blank blank, step]
    cases ended : endBlock run with
    | ok closed =>
      have again : endBlock closed = .ok closed := endBlock_of_closed (closed_of_endBlock ended)
      simp [Except.mapError, complete, again, ended]
    | error fault =>
      -- The fault has the line of the header, and the number of the blank line is not taken.
      obtain ⟨current, failure, _, _, rfl⟩ := endBlock_eq_error_iff.1 ended
      obtain ⟨line, known⟩ := failure.exists_placed_line current.header
      simp [Except.mapError, complete, ended, Fault.located_of_line known, Bind.bind, Except.bind]

/-- Every fault that a sheet fails with has a line. -/
theorem exists_line_of_inflateLines_eq_error {lines : List Text} {fault : Fault}
    (failed : dialect.inflateLines lines = .error fault) : ∃ line, fault.line = some line := by
  rcases bind_eq_error_iff.1 failed with unread | ⟨run, _, unfinished⟩
  · -- The line that is not read is told, unless there is one already.
    obtain ⟨before, raw, after, run, _, _, wrong⟩ := readLines_eq_error_iff.1 unread
    obtain ⟨own, _, rfl⟩ := mapError_eq_error_iff.1 wrong
    cases known : own.line <;> simp [Fault.located, known]
  · rcases bind_eq_error_iff.1 unfinished with ended | ⟨_, _, impossible⟩
    · obtain ⟨current, failure, _, _, rfl⟩ := endBlock_eq_error_iff.1 ended
      exact failure.exists_placed_line current.header
    · cases impossible

end Dialect

/-- Lines of a sheet with what is inserted before each of them, and behind them all. -/
structure Padding where
  pieces : List (List Text × Text)
  tail : List Text

namespace Padding

/-- The lines without what is inserted. -/
def bare (pieces : List (List Text × Text)) : List Text :=
  pieces.map Prod.snd

/-- The lines with what is inserted before each of them. -/
def filled (pieces : List (List Text × Text)) : List Text :=
  pieces.flatMap fun piece => piece.1 ++ [piece.2]

/-- The sheet before the insertion. -/
def lines (padding : Padding) : List Text :=
  bare padding.pieces

/-- The sheet after the insertion. -/
def padded (padding : Padding) : List Text :=
  filled padding.pieces ++ padding.tail

/-- How many lines are inserted before the line with a number. -/
def inserted (padding : Padding) (number : Nat) : Nat :=
  ((padding.pieces.take (number + 1)).map fun piece => piece.1.length).sum

/-- The number of a line after the insertion. -/
def place (padding : Padding) (number : Nat) : Nat :=
  number + padding.inserted number

/-- Each inserted line may be inserted where it is. -/
structure Permitted {Layer : Type} (dialect : Dialect Layer) (padding : Padding) : Prop where
  before : ∀ front piece back, padding.pieces = front ++ piece :: back →
    ∀ raw ∈ piece.1, dialect.Idle (bare front) raw
  behind : ∀ raw ∈ padding.tail, dialect.Idle padding.lines raw

/-- Lines with insertions are as many as the lines and the insertions together. -/
@[simp] theorem length_filled (pieces : List (List Text × Text)) :
    (filled pieces).length = pieces.length + (pieces.map fun piece => piece.1.length).sum := by
  -- Each line comes with those that are inserted before it.
  induction pieces with
  | nil => rfl
  | cons piece rest ih =>
    simp only [filled, List.flatMap_cons, List.length_append, List.length_cons, List.length_nil,
      List.map_cons, List.sum_cons] at ih ⊢
    omega

/-- The place of a line is behind all lines with insertions before it, and its own insertion. -/
theorem place_eq {padding : Padding} {front back : List (List Text × Text)}
    {piece : List Text × Text} (split : padding.pieces = front ++ piece :: back) :
    padding.place front.length = (filled front).length + piece.1.length := by
  -- The insertions that count are those up to the line itself.
  have upTo : padding.pieces.take (front.length + 1) = front ++ [piece] := by
    rw [split, List.append_cons]
    exact List.take_left' (by simp)
  rw [length_filled, place, inserted, upTo]
  simp
  omega

end Padding

namespace Dialect

variable {Layer : Type} {dialect : Dialect Layer} {padding : Padding}

/-- Lines with insertions are read as the lines alone, with all numbers moved. -/
theorem readLines_filled (permitted : padding.Permitted dialect) (lineless : dialect.Lineless)
    {front back : List (List Text × Text)} (split : padding.pieces = front ++ back)
    {run : Run Layer} (read : dialect.readLines 0 dialect.start (Padding.bare front) = .ok run) :
    dialect.readLines (Padding.filled front).length (run.moved padding.place)
        (Padding.filled back) =
      moveOutcome padding.place (dialect.readLines front.length run (Padding.bare back)) := by
  -- The induction is on the lines that are left, for any run that the lines before them give.
  induction back generalizing front run with
  | nil => rfl
  | cons piece back ih =>
    -- The inserted lines change nothing, and behind them the line has its other number.
    have skipped := readLines_idle read (permitted.before front piece back split) padding.place
      (Padding.filled front).length
    have moved : dialect.readLine (padding.place front.length) (run.moved padding.place) piece.2 =
        moveOutcome padding.place (dialect.readLine front.length run piece.2) :=
      readLine_moved (lineless.buildsLineless read) padding.place front.length piece.2
    rw [Padding.place_eq split] at moved
    have filled : Padding.filled (piece :: back) =
        piece.1 ++ piece.2 :: Padding.filled back := by simp [Padding.filled]
    have bare : Padding.bare (piece :: back) = piece.2 :: Padding.bare back := rfl
    rw [filled, bare, readLines_append_of_ok skipped]
    cases outcome : dialect.readLine front.length run piece.2 with
    | error fault =>
      rw [outcome] at moved
      rw [readLines_cons_of_error outcome, readLines_cons_of_error moved]
      rfl
    | ok next =>
      rw [outcome] at moved
      rw [readLines_cons_of_ok outcome, readLines_cons_of_ok moved]
      -- The line is read in the sheet alone too, so the other lines come behind it.
      have readNext : dialect.readLines 0 dialect.start (Padding.bare (front ++ [piece])) =
          .ok next := by
        have last : Padding.bare (front ++ [piece]) = Padding.bare front ++ [piece.2] := by
          simp [Padding.bare]
        have count : (Padding.bare front).length = front.length := by simp [Padding.bare]
        rw [last]
        refine readLines_snoc_eq_ok_iff.2 ⟨run, read, ?_⟩
        rw [count]
        exact mapError_eq_ok_iff.1 outcome
      have numbered : (Padding.filled (front ++ [piece])).length =
          (Padding.filled front).length + piece.1.length + 1 := by
        simp [Padding.filled]
        omega
      have later := ih (by simpa using split) readNext
      rwa [numbered, List.length_append, List.length_singleton] at later

/-- A sheet with insertions is inflated as the sheet alone, with the lines of faults moved. -/
theorem inflateLines_padded_eq (permitted : padding.Permitted dialect)
    (lineless : dialect.Lineless) :
    dialect.inflateLines padding.padded =
      (dialect.inflateLines padding.lines).mapError (·.moved padding.place) := by
  -- The run at the start holds no line, so it is the same under all numbers.
  have read : dialect.readLines 0 dialect.start (Padding.filled padding.pieces) =
      moveOutcome padding.place (dialect.readLines 0 dialect.start padding.lines) :=
    readLines_filled permitted lineless (List.nil_append padding.pieces).symm rfl
  rw [inflateLines, inflateLines, Padding.padded, readLines_append, read]
  cases outcome : dialect.readLines 0 dialect.start padding.lines with
  | error fault => rfl
  | ok run =>
    -- Behind all lines, the insertion leaves the run as it is, and then the run ends.
    have skipped := readLines_idle outcome permitted.behind padding.place
      (0 + (Padding.filled padding.pieces).length)
    have ended := complete_moved (lineless.buildsLineless outcome) padding.place
    calc (dialect.readLines (0 + (Padding.filled padding.pieces).length)
            (run.moved padding.place) padding.tail >>= complete)
        _ = complete (run.moved padding.place) := by rw [skipped]; rfl
        _ = (complete run).mapError (·.moved padding.place) := ended

/--
Comments anywhere and blank lines where no block is open change nothing but the lines of faults.

The same overlays come out, or a fault that differs in its line alone, which is moved by the lines
inserted before it.
A blank line at the end changes nothing at all.
-/
theorem inflateLines_padded (permitted : padding.Permitted dialect) (lineless : dialect.Lineless) :
    (∀ overlays, dialect.inflateLines padding.padded = .ok overlays ↔
      dialect.inflateLines padding.lines = .ok overlays) ∧
    (∀ fault, dialect.inflateLines padding.lines = .error fault →
      ∃ line, fault.line = some line ∧ dialect.inflateLines padding.padded =
        .error { fault with line := some (line + padding.inserted line) }) ∧
    ∀ (lines : List Text) (raw : Text), raw.Blank →
      dialect.inflateLines (lines ++ [raw]) = dialect.inflateLines lines := by
  -- Success is not touched by moving, and a fault has a line that is.
  have moved := inflateLines_padded_eq permitted lineless
  refine ⟨fun overlays => ?_, fun fault failed => ?_, fun lines raw blank =>
    inflateLines_append_blank blank lines⟩
  · rw [moved]
    exact mapError_eq_ok_iff
  · obtain ⟨line, known⟩ := exists_line_of_inflateLines_eq_error failed
    refine ⟨line, known, ?_⟩
    rw [moved, failed]
    simp [Except.mapError, Fault.moved, known, Padding.place]

section Sample

/-- A dialect whose only type cannot be built, for a reason that is told without a line. -/
def refusing : Dialect Unit where
  registry := Registry.empty.register "fill" fun _ => .error (.untagged "no")

/-- A title and a block, with comments and blank lines around the title and inside the block. -/
def noted : Padding where
  pieces := [(["// note".toList, []], "# Grid".toList), ([" ".toList], "fill left".toList),
    ([" // more".toList], "  right=1".toList)]
  tail := ["//".toList]

/-- The only builder tells no line. -/
theorem lineless_refusing : refusing.Lineless := by
  -- The registry has one name, so any builder found is the one that refuses.
  intro name builder block own found failed
  have known : refusing.registry.find? name =
      if "fill" = name then some fun _ => .error (.untagged "no") else none := rfl
  rw [known] at found
  split at found
  · obtain rfl := Option.some.inj found
    cases failed
  · cases found

/-- Behind no lines, and behind the title alone, no block is open. -/
theorem closedBehind_refusing (lines : List Text) (short : lines = [] ∨ lines = ["# Grid".toList]) :
    refusing.ClosedBehind lines := by
  -- The lines are few enough to be read by computation, and no content is among them.
  intro run read
  rcases short with rfl | rfl
  · obtain rfl := Except.ok.inj read
    nofun
  · obtain rfl := Except.ok.inj read
    nofun

/-- All that is inserted may be. -/
theorem permitted_noted : noted.Permitted refusing := by
  constructor
  · intro front piece back split raw member
    -- The pieces are taken one after the other.
    rcases front with _ | ⟨first, _ | ⟨second, _ | ⟨third, others⟩⟩⟩
    · -- Before the title stand a comment and a blank line.
      obtain ⟨rfl, _⟩ := List.cons.inj split
      rcases List.mem_cons.1 member with rfl | member
      · exact .inl rfl
      · obtain rfl := List.mem_singleton.1 member
        exact .inr ⟨by decide, closedBehind_refusing _ (.inl rfl)⟩
    · -- Behind the title stands a blank line, and no block is open there yet.
      obtain ⟨rfl, others⟩ := List.cons.inj split
      obtain ⟨rfl, _⟩ := List.cons.inj others
      obtain rfl := List.mem_singleton.1 member
      exact .inr ⟨by decide, closedBehind_refusing _ (.inr rfl)⟩
    · -- The last insertion is a comment before the second content line.
      obtain ⟨rfl, others⟩ := List.cons.inj split
      obtain ⟨rfl, last⟩ := List.cons.inj others
      obtain ⟨rfl, _⟩ := List.cons.inj last
      obtain rfl := List.mem_singleton.1 member
      exact .inl rfl
    · simp [noted] at split
  · intro raw member
    obtain rfl := List.mem_singleton.1 member
    exact .inl rfl

/-- The fault of a block moves with its header, behind all that is inserted before it. -/
theorem inflateLines_padded_header :
    noted.Permitted refusing ∧ refusing.Lineless ∧
      refusing.inflateLines noted.lines =
        .error { kind := .layerFailed, line := some 1, cause := some (.untagged "no") } ∧
      refusing.inflateLines noted.padded =
        .error { kind := .layerFailed, line := some 4, cause := some (.untagged "no") } := by
  have failed : refusing.inflateLines noted.lines =
      .error { kind := .layerFailed, line := some 1, cause := some (.untagged "no") } := rfl
  -- Three lines are inserted before the header, which was the second line of the sheet.
  obtain ⟨line, known, moved⟩ :=
    (inflateLines_padded permitted_noted lineless_refusing).2.1 _ failed
  obtain rfl := Option.some.inj known
  exact ⟨permitted_noted, lineless_refusing, failed, moved⟩

end Sample

end Dialect

end OverlaySheet
