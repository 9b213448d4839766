import Mathlib.Data.List.Induction
import OverlaySheet.Proofs.Sheet.Run
import OverlaySheet.Proofs.Sheet.Scope

/-! How a run goes on: what a line does to the phase, and which lines have been headers. -/

namespace OverlaySheet

/-- Whether a line is a header where no block is open: content that declares nothing. -/
def Line.isHeader : Line → Bool
  | .content text indented => indented || !Token.leadsWithValue text
  | _ => false

/-- No block of a run is open. -/
def Run.Closed {Layer : Type} (run : Run Layer) : Prop :=
  ∀ current, run.phase ≠ .inBlock current

namespace Dialect

variable {Layer : Type} {dialect : Dialect Layer}

/-- Reading lines in two goes is reading them in one. -/
theorem readLines_append (number : Nat) (run : Run Layer) (before after : List Text) :
    dialect.readLines number run (before ++ after) =
      dialect.readLines number run before >>= fun middle =>
        dialect.readLines (number + before.length) middle after := by
  induction before generalizing number run with
  | nil => rfl
  | cons raw rest ih =>
    simp only [List.cons_append, readLines, bind_assoc, ih, List.length_cons]
    -- The lines behind the first are counted from the number after its own.
    have shifted : number + 1 + rest.length = number + (rest.length + 1) := by omega
    simp only [shifted]

/-- Lines in front that are read leave the others to the run that comes out of them. -/
theorem readLines_append_of_ok {number : Nat} {run middle : Run Layer} {before : List Text}
    (read : dialect.readLines number run before = .ok middle) (after : List Text) :
    dialect.readLines number run (before ++ after) =
      dialect.readLines (number + before.length) middle after := by
  -- Reading goes on from the run in between.
  rw [readLines_append, read]
  rfl

/-- Lines in front that are read leave the others, and the end, to the run that comes out. -/
theorem finish_append_of_ok {number : Nat} {run middle : Run Layer} {before : List Text}
    (read : dialect.readLines number run before = .ok middle) (after : List Text) :
    dialect.finish number run (before ++ after) =
      dialect.finish (number + before.length) middle after := by
  -- The end is that of the lines behind, whose run is the same.
  rw [finish, readLines_append_of_ok read]
  rfl

/-- Lines in front that are not read leave nothing to do. -/
theorem finish_append_of_error {number : Nat} {run : Run Layer} {before : List Text}
    {fault : Fault} (wrong : dialect.readLines number run before = .error fault)
    (after : List Text) : dialect.finish number run (before ++ after) = .error fault := by
  -- The first fault ends everything.
  rw [finish, readLines_append, wrong]
  rfl

/-- A line that is read leaves the others to the run that comes out of it. -/
theorem readLines_cons_of_ok {number : Nat} {run next : Run Layer} {raw : Text}
    (read : dialect.readLine number run raw = .ok next) (rest : List Text) :
    dialect.readLines number run (raw :: rest) = dialect.readLines (number + 1) next rest := by
  -- One step is taken, and the number goes up with it.
  rw [readLines, read]
  rfl

/-- A line that is not read leaves nothing to do. -/
theorem readLines_cons_of_error {number : Nat} {run : Run Layer} {raw : Text} {fault : Fault}
    (wrong : dialect.readLine number run raw = .error fault) (rest : List Text) :
    dialect.readLines number run (raw :: rest) = .error fault := by
  rw [readLines, wrong]
  rfl

/-- Reading fails exactly when it fails at some line in front of which all lines are read. -/
theorem readLines_eq_error_iff {number : Nat} {run : Run Layer} {lines : List Text}
    {fault : Fault} :
    dialect.readLines number run lines = .error fault ↔
      ∃ before raw after middle, lines = before ++ raw :: after ∧
        dialect.readLines number run before = .ok middle ∧
        dialect.readLine (number + before.length) middle raw = .error fault := by
  constructor
  · intro failed
    -- The induction is on the lines: the first of them is wrong, or it is read and another one is.
    induction lines generalizing number run with
    | nil => cases failed
    | cons first rest ih =>
      rcases bind_eq_error_iff.1 failed with wrong | ⟨next, read, failedLater⟩
      · exact ⟨[], first, rest, run, rfl, rfl, wrong⟩
      · -- The wrong line is among the others, and the first is one more in front of it.
        obtain ⟨before, raw, after, middle, rfl, others, wrong⟩ := ih failedLater
        refine ⟨first :: before, raw, after, middle, rfl, ?_, ?_⟩
        · exact bind_eq_ok_iff.2 ⟨next, read, others⟩
        · rwa [List.length_cons, Nat.add_comm before.length, ← Nat.add_assoc]
  · intro parts
    obtain ⟨before, raw, after, middle, rfl, read, wrong⟩ := parts
    -- The other way round, the run in front of the wrong line is given.
    rw [readLines_append_of_ok read]
    exact bind_eq_error_iff.2 (.inl wrong)

/-- What a line that is read does to the phase of a run. -/
inductive Advance (dialect : Dialect Layer) (number : Nat) (run next : Run Layer) :
    Line → Prop where
  /-- No block begins, goes on or ends. -/
  | stays {line : Line} (plain : line.isHeader = false) (closed : line = .blank → run.Closed)
      (same : next.phase = run.phase) : Advance dialect number run next line
  /-- A header opens a block, which has the line of the header. -/
  | opens {text : Text} {indented : Bool} {current : OpenBlock Layer}
      (header : (Line.content text indented).isHeader = true) (closed : run.Closed)
      (read : dialect.readHeader number text run = .ok next)
      (opened : next.phase = .inBlock current) (placed : current.header = number) :
      Advance dialect number run next (.content text indented)
  /-- A further line extends the block. -/
  | goesOn {text : Text} {indented : Bool} {old : OpenBlock Layer} {block : Block}
      (opened : run.phase = .inBlock old) (extended : next.phase = .inBlock { old with block }) :
      Advance dialect number run next (.content text indented)
  /-- A blank line ends the block. -/
  | closes {old : OpenBlock Layer} (opened : run.phase = .inBlock old)
      (ended : next.phase = .between) : Advance dialect number run next .blank

/-- A header line leaves the block that it opens, which has its line. -/
theorem Advance.of_readHeader {number : Nat} {run next : Run Layer} {text : Text}
    {indented : Bool} (header : (Line.content text indented).isHeader = true)
    (closed : run.Closed) (read : dialect.readHeader number text run = .ok next) :
    Advance dialect number run next (.content text indented) := by
  -- The line of the header is written into the block when it begins.
  obtain ⟨tokens, current, _, begun, same⟩ := readHeader_eq_ok_iff.1 read
  obtain ⟨_, _, _, _, _, _, _, _, made⟩ := beginBlock_eq_ok_iff.1 begun
  exact .opens header closed read (congrArg Run.phase same) (congrArg OpenBlock.header made)

/-- A declaration leaves the phase as it is. -/
theorem Advance.of_declared {number : Nat} {run next : Run Layer} {line : Line}
    {declared : Except Fault Scope} (plain : line.isHeader = false) (closed : run.Closed)
    (ok : (do let scope ← declared; return { run with scope }) = Except.ok next) :
    Advance dialect number run next line := by
  -- Only the scope of the run is replaced.
  obtain ⟨scope, _, same⟩ := bind_eq_ok_iff.1 ok
  obtain rfl := pure_eq_ok_iff.1 same
  exact .stays plain (fun _ => closed) rfl

/-- Everything that a line can do to the phase. -/
theorem advance_of_step {number : Nat} {run next : Run Layer} {line : Line}
    (stepped : dialect.step number run line = .ok next) : Advance dialect number run next line := by
  -- Each kind of line meets three phases, and faults leave nothing to show.
  obtain ⟨scope, phase, overlays⟩ := run
  cases line with
  | comment =>
    obtain rfl := Except.ok.inj stepped
    exact .stays rfl nofun rfl
  | blank =>
    cases phase with
    | inBlock old =>
      obtain ⟨layer, _, rfl⟩ := endBlock_inBlock_eq_ok_iff.1 stepped
      exact .closes rfl rfl
    | preamble | between =>
      obtain rfl := Except.ok.inj stepped
      exact .stays rfl (fun _ => nofun) rfl
  | declaration text =>
    cases phase with
    | preamble => exact .of_declared rfl nofun stepped
    | inBlock | between => cases stepped
  | title text =>
    cases phase with
    | inBlock => cases stepped
    | preamble | between =>
      obtain rfl := Except.ok.inj stepped
      exact .stays rfl nofun rfl
  | content text indented =>
    -- At the margin, a first token with a value tells a declaration from a header.
    have header_eq : (Line.content text indented).isHeader =
        !(!indented && Token.leadsWithValue text) := by simp [Line.isHeader]
    cases phase with
    | preamble =>
      simp only [step] at stepped
      split at stepped
      · next declares => exact .of_declared (by simp [header_eq, declares]) nofun stepped
      · next declares => exact .of_readHeader (by simp [header_eq, declares]) nofun stepped
    | between =>
      simp only [step] at stepped
      split at stepped
      · cases stepped
      · next declares => exact .of_readHeader (by simp [header_eq, declares]) nofun stepped
    | inBlock old =>
      simp only [step] at stepped
      split at stepped
      · obtain ⟨tokens, block, _, _, rfl⟩ := extendBlock_eq_ok_iff.1 stepped
        exact .goesOn rfl rfl
      · cases stepped

/-- Where no block is open there is none to end. -/
theorem endBlock_of_closed {run : Run Layer} (closed : run.Closed) : endBlock run = .ok run := by
  unfold endBlock
  -- The phase is compared, and one with a block is excluded.
  split
  · next current opened => exact absurd opened (closed current)
  · rfl

/-- Behind the end of a block no block is open. -/
theorem closed_of_endBlock {run closed : Run Layer} (ended : endBlock run = .ok closed) :
    closed.Closed := by
  -- Either the block is built, and then there is none, or there was none before.
  obtain ⟨scope, phase, overlays⟩ := run
  cases phase with
  | inBlock current =>
    obtain ⟨layer, _, rfl⟩ := endBlock_inBlock_eq_ok_iff.1 ended
    nofun
  | preamble | between =>
    obtain rfl := Except.ok.inj ended
    nofun

/-- A line leaves the variables as they are, or it declares one with its text. -/
theorem scope_of_step {number : Nat} {run next : Run Layer} {line : Line}
    (stepped : dialect.step number run line = .ok next) :
    next.scope = run.scope ∨
      (∃ text, line = .declaration text ∧ run.scope.declare text = .ok next.scope) ∨
      ∃ text, line = .content text false ∧ run.scope.declareBare text = .ok next.scope := by
  -- Only a declaration at the margin touches the scope, and it comes in two spellings.
  obtain ⟨scope, phase, overlays⟩ := run
  cases line with
  | comment =>
    obtain rfl := Except.ok.inj stepped
    exact .inl rfl
  | blank =>
    cases phase with
    | inBlock old =>
      obtain ⟨layer, _, rfl⟩ := endBlock_inBlock_eq_ok_iff.1 stepped
      exact .inl rfl
    | preamble | between =>
      obtain rfl := Except.ok.inj stepped
      exact .inl rfl
  | declaration text =>
    cases phase with
    | preamble =>
      obtain ⟨found, declared, same⟩ := bind_eq_ok_iff.1 stepped
      obtain rfl := pure_eq_ok_iff.1 same
      exact .inr (.inl ⟨text, rfl, declared⟩)
    | inBlock | between => cases stepped
  | title text =>
    cases phase with
    | inBlock => cases stepped
    | preamble | between =>
      obtain rfl := Except.ok.inj stepped
      exact .inl rfl
  | content text indented =>
    cases phase with
    | preamble =>
      simp only [step] at stepped
      split at stepped
      · next declares =>
        obtain ⟨found, declared, same⟩ := bind_eq_ok_iff.1 stepped
        obtain rfl := pure_eq_ok_iff.1 same
        -- Only at the margin does content declare anything.
        obtain rfl : indented = false := by
          simpa using ((Bool.and_eq_true _ _).mp declares).1
        exact .inr (.inr ⟨text, rfl, declared⟩)
      · -- A header, and a further line of a block, leave the scope alone.
        obtain ⟨_, _, _, _, rfl⟩ := readHeader_eq_ok_iff.1 stepped
        exact .inl rfl
    | between =>
      simp only [step] at stepped
      split at stepped
      · cases stepped
      · obtain ⟨_, _, _, _, rfl⟩ := readHeader_eq_ok_iff.1 stepped
        exact .inl rfl
    | inBlock old =>
      simp only [step] at stepped
      split at stepped
      · obtain ⟨_, _, _, _, rfl⟩ := extendBlock_eq_ok_iff.1 stepped
        exact .inl rfl
      · cases stepped

/-- Some lines leave no block open, and a line behind them opens one as its header. -/
def Opens (dialect : Dialect Layer) (before : List Text) (raw : Text)
    (opened : OpenBlock Layer) : Prop :=
  ∃ text indented earlier next, Line.ofText dialect.grammar raw = .content text indented ∧
    (Line.content text indented).isHeader = true ∧
    dialect.readLines 0 dialect.start before = .ok earlier ∧ earlier.Closed ∧
    dialect.readHeader before.length text earlier = .ok next ∧ next.phase = .inBlock opened

/-- What opens a block is a header. -/
theorem Opens.isHeader {before : List Text} {raw : Text} {opened : OpenBlock Layer}
    (opens : dialect.Opens before raw opened) :
    (Line.ofText dialect.grammar raw).isHeader = true := by
  obtain ⟨text, indented, earlier, next, line, header, _⟩ := opens
  rwa [line]

/-- One of some lines has been accepted as a header. -/
def Headed (dialect : Dialect Layer) (lines : List Text) : Prop :=
  ∃ before raw after opened, lines = before ++ raw :: after ∧ dialect.Opens before raw opened

/-- A header stays one, whatever lines come behind. -/
theorem Headed.append {lines : List Text} (headed : dialect.Headed lines) (more : List Text) :
    dialect.Headed (lines ++ more) := by
  -- The lines that come behind are more lines behind the header.
  obtain ⟨before, raw, after, opened, rfl, opens⟩ := headed
  exact ⟨before, raw, after ++ more, opened, by simp, opens⟩

/-- Among lines and one more, the last is a header or one of the others is. -/
theorem headed_snoc_iff {lines : List Text} {raw : Text} :
    dialect.Headed (lines ++ [raw]) ↔
      dialect.Headed lines ∨ ∃ opened, dialect.Opens lines raw opened := by
  constructor
  · -- The header is the last line exactly when nothing stands behind it.
    intro headed
    obtain ⟨before, header, after, opened, same, opens⟩ := headed
    cases after using List.reverseRecOn with
    | nil =>
      obtain ⟨rfl, last⟩ := List.append_inj' same rfl
      obtain rfl := List.cons.inj last |>.1
      exact .inr ⟨opened, opens⟩
    | append_singleton after last =>
      rw [← List.cons_append, ← List.append_assoc] at same
      obtain ⟨rfl, _⟩ := List.append_inj' same rfl
      exact .inl ⟨before, header, after, opened, rfl, opens⟩
  · intro either
    rcases either with headed | ⟨opened, opens⟩
    · exact headed.append [raw]
    · exact ⟨lines, raw, [], opened, rfl, opens⟩

/-- The last of some lines is read by a step from the run behind the others. -/
theorem readLines_snoc_eq_ok_iff {before : List Text} {raw : Text} {run : Run Layer} :
    dialect.readLines 0 dialect.start (before ++ [raw]) = .ok run ↔
      ∃ middle, dialect.readLines 0 dialect.start before = .ok middle ∧
        dialect.step before.length middle (Line.ofText dialect.grammar raw) = .ok run := by
  -- One line is read by one step, whose fault would be told with its number.
  rw [readLines_append, bind_eq_ok_iff]
  simp only [Nat.zero_add, readLines, bind_eq_ok_iff, readLine, mapError_eq_ok_iff,
    Except.ok.injEq, exists_eq_right]

/-- The variables of a run come from declarations alone. -/
theorem reachable_of_readLines {lines : List Text} {run : Run Layer}
    (read : dialect.readLines 0 dialect.start lines = .ok run) :
    Scope.Reachable dialect.grammar.variableMarker.toList run.scope := by
  -- Each line declares at most one variable, so one step is enough.
  induction lines using List.reverseRecOn generalizing run with
  | nil =>
    obtain rfl := Except.ok.inj read
    exact .empty
  | append_singleton before raw ih =>
    obtain ⟨middle, readBefore, stepped⟩ := readLines_snoc_eq_ok_iff.1 read
    have reachable := ih readBefore
    rcases scope_of_step stepped with same | ⟨text, _, declared⟩ | ⟨text, _, declared⟩
    · exact same ▸ reachable
    · exact reachable.declare declared
    · exact reachable.declareBare declared

/-- A run is before its first block exactly as long as no line has been a header. -/
theorem preamble_iff_not_headed {lines : List Text} {run : Run Layer}
    (read : dialect.readLines 0 dialect.start lines = .ok run) :
    run.phase = .preamble ↔ ¬ dialect.Headed lines := by
  -- The phase changes with the first header and never changes back, as the last line shows.
  induction lines using List.reverseRecOn generalizing run with
  | nil =>
    obtain rfl := Except.ok.inj read
    simp [start, Headed]
  | append_singleton before raw ih =>
    obtain ⟨middle, readBefore, stepped⟩ := readLines_snoc_eq_ok_iff.1 read
    rw [headed_snoc_iff, not_or, ← ih readBefore]
    generalize line : Line.ofText dialect.grammar raw = kind at stepped
    cases advance_of_step stepped with
    | stays plain _ same =>
      -- The line is no header, so nothing changes on either side.
      have noHeader : ¬ ∃ opened, dialect.Opens before raw opened := by
        rintro ⟨opened, opens⟩
        exact absurd opens.isHeader (by simp [line, plain])
      rw [same, and_iff_left noHeader]
    | opens header closed begun opened =>
      have isHeader : ∃ opened, dialect.Opens before raw opened :=
        ⟨_, _, _, middle, run, line, header, readBefore, closed, begun, opened⟩
      exact iff_of_false (by simp [opened]) fun both => both.2 isHeader
    | goesOn wasOpen extended => simp [wasOpen, extended]
    | closes wasOpen ended => simp [wasOpen, ended]

end Dialect

end OverlaySheet
