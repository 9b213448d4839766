import OverlaySheet.Proofs.Sheet.Progress
import OverlaySheet.Proofs.Sheet.Rejection

/-! Where a sheet fails: at its first wrong line, or at the header of a block that is not built. -/

namespace OverlaySheet.Dialect

variable {Layer : Type} {dialect : Dialect Layer}

/-- What a failing line makes of a sheet does not depend on the lines behind it. -/
theorem inflateLines_of_readLine_error {before : List Text} {raw : Text} {run : Run Layer}
    {fault : Fault} (read : dialect.readLines 0 dialect.start before = .ok run)
    (wrong : dialect.readLine before.length run raw = .error fault) (after : List Text) :
    dialect.inflateLines (before ++ raw :: after) = .error fault := by
  -- Reading fails at the line of this number, whatever lines come behind it.
  refine bind_eq_error_iff.2 (.inl (readLines_eq_error_iff.2 ?_))
  exact ⟨before, raw, after, run, rfl, read, by rwa [Nat.zero_add]⟩

section Blocks

/-- A block has the line and the builder that a header among some lines gave it, and still lasts. -/
def Began (dialect : Dialect Layer) (lines : List Text) (current : OpenBlock Layer) : Prop :=
  ∃ before raw after opened, lines = before ++ raw :: after ∧ dialect.Opens before raw opened ∧
    current.header = before.length ∧ current.builder = opened.builder ∧
    ∀ later ∈ after, Line.ofText dialect.grammar later ≠ .blank

/-- A block begins on one of the lines. -/
theorem Began.header_lt {lines : List Text} {current : OpenBlock Layer}
    (began : dialect.Began lines current) : current.header < lines.length := by
  -- The header stands at the end of the lines before it.
  obtain ⟨before, raw, after, opened, rfl, _, header, _⟩ := began
  rw [header, List.length_append, List.length_cons]
  omega

/-- The builder of a block is registered. -/
theorem Began.registered {lines : List Text} {current : OpenBlock Layer}
    (began : dialect.Began lines current) :
    ∃ name, dialect.registry.find? name = some current.builder := by
  obtain ⟨before, raw, after, opened, _, opens, _, builder, _⟩ := began
  -- A block is open only behind its header, which asked the registry for the builder.
  obtain ⟨text, indented, earlier, next, _, _, _, _, read, phase⟩ := opens
  obtain ⟨tokens, made, _, begun, rfl⟩ := readHeader_eq_ok_iff.1 read
  obtain rfl := Phase.inBlock.inj phase
  obtain ⟨layerType, _, registered, _, _, _, found, _, rfl⟩ := beginBlock_eq_ok_iff.1 begun
  exact ⟨String.ofList layerType, builder ▸ found⟩

/-- A further line of a block keeps it open. -/
theorem Began.snoc {lines : List Text} {old current : OpenBlock Layer} {raw : Text}
    (began : dialect.Began lines old) (header : current.header = old.header)
    (builder : current.builder = old.builder)
    (notBlank : Line.ofText dialect.grammar raw ≠ .blank) :
    dialect.Began (lines ++ [raw]) current := by
  -- The line that opened the block stays the same, and one more line stands behind it.
  obtain ⟨before, first, after, opened, rfl, opens, header_eq, builder_eq, lasts⟩ := began
  refine ⟨before, first, after ++ [raw], opened, by simp, opens, header.trans header_eq,
    builder.trans builder_eq, ?_⟩
  intro later member
  rcases List.mem_append.1 member with behind | last
  · exact lasts later behind
  · obtain rfl := List.mem_singleton.1 last
    exact notBlank

/-- A block that stands open behind some lines has begun among them. -/
theorem began_of_readLines {lines : List Text} {run : Run Layer} {current : OpenBlock Layer}
    (read : dialect.readLines 0 dialect.start lines = .ok run)
    (opened : run.phase = .inBlock current) : dialect.Began lines current := by
  induction lines using List.reverseRecOn generalizing run current with
  | nil =>
    -- Before the first line no block is open.
    obtain rfl := Except.ok.inj read
    cases opened
  | append_singleton before raw ih =>
    obtain ⟨middle, readBefore, stepped⟩ := readLines_snoc_eq_ok_iff.1 read
    generalize line : Line.ofText dialect.grammar raw = kind at stepped
    cases advance_of_step stepped with
    | stays _ closed same =>
      rw [same] at opened
      refine (ih readBefore opened).snoc rfl rfl fun blank => ?_
      -- A blank line would have ended the block.
      exact closed (line.symm.trans blank) current opened
    | opens header closed begun phase number =>
      obtain rfl := Phase.inBlock.inj (phase.symm.trans opened)
      exact ⟨before, raw, [], _, rfl, ⟨_, _, middle, run, line, header, readBefore, closed, begun,
        phase⟩, number, rfl, List.forall_mem_nil _⟩
    | goesOn wasOpen extended =>
      obtain rfl := Phase.inBlock.inj (extended.symm.trans opened)
      exact (ih readBefore wasOpen).snoc rfl rfl (by simp [line])
    | closes _ ended => cases ended.symm.trans opened

end Blocks

section Failures

/-- A line is itself rejected, by a fault that has no line of its own and gets this one. -/
def Rejects (dialect : Dialect Layer) (lines : List Text) (number : Nat) (run : Run Layer)
    (fault : Fault) : Prop :=
  ∃ raw own, lines[number]? = some raw ∧ Line.ofText dialect.grammar raw ≠ .blank ∧
    dialect.step number run (Line.ofText dialect.grammar raw) = .error own ∧ own.line = none ∧
    fault = { own with line := some number }

/-- A block that ends at a blank line or behind all lines is not built, as its builder fails. -/
structure FailsToBuild (dialect : Dialect Layer) (lines : List Text) (number : Nat)
    (run : Run Layer) (current : OpenBlock Layer) (fault : Fault) : Prop where
  /-- There is no line to end the block, or it is blank. -/
  ends : ∀ raw, lines[number]? = some raw → Line.ofText dialect.grammar raw = .blank
  opened : run.phase = .inBlock current
  began : dialect.Began (lines.take number) current
  /-- The fault is what the builder says, at the header unless it tells a line. -/
  fails : ∃ failure, current.builder current.block = .error failure ∧
    fault = failure.placed current.header

/-- No builder that is registered fails with a line of its own. -/
def Lineless (dialect : Dialect Layer) : Prop :=
  ∀ name builder block own, dialect.registry.find? name = some builder →
    builder block = .error (.tagged own) → own.line = none

variable {lines : List Text} {number : Nat} {run : Run Layer} {fault : Fault}
  {current : OpenBlock Layer}

/-- The end of an open block can fail only where its builder does. -/
theorem failsToBuild_of_endBlock
    (read : dialect.readLines 0 dialect.start (lines.take number) = .ok run)
    (ends : ∀ raw, lines[number]? = some raw → Line.ofText dialect.grammar raw = .blank)
    (failed : endBlock run = .error fault) :
    ∃ current, dialect.FailsToBuild lines number run current fault := by
  -- The block that was open is recalled by the run, and the line that opened it by the lines.
  obtain ⟨current, failure, opened, built, placed⟩ := endBlock_eq_error_iff.1 failed
  exact ⟨current, ends, opened, began_of_readLines read opened, failure, built, placed⟩

/-- The header of a block that is not built comes before the line that ends the block. -/
theorem FailsToBuild.header_lt (fails : dialect.FailsToBuild lines number run current fault) :
    current.header < number ∧ current.header < lines.length := by
  -- Only the lines that were read count, and they are those in front of the failing one.
  have among := fails.began.header_lt
  rw [List.length_take] at among
  omega

/-- When builders tell no lines, the fault of a block that is not built is at its header. -/
theorem FailsToBuild.line_eq (fails : dialect.FailsToBuild lines number run current fault)
    (lineless : dialect.Lineless) : fault.line = some current.header := by
  -- A fault without a line is placed at the header, and text that is no fault has none.
  obtain ⟨failure, built, rfl⟩ := fails.fails
  cases failure with
  | untagged text => rfl
  | tagged own =>
    obtain ⟨name, found⟩ := fails.began.registered
    have without : own.line = none := lineless name _ _ own found built
    simp [Failure.placed, without]

/-- A fault that a builder gave a line is told as it is. -/
theorem FailsToBuild.eq_of_line (fails : dialect.FailsToBuild lines number run current fault)
    {own : Fault} (built : current.builder current.block = .error (.tagged own)) {line : Nat}
    (known : own.line = some line) : fault = own := by
  -- Placing a fault anew does nothing when it knows its line.
  obtain ⟨failure, failed, rfl⟩ := fails.fails
  obtain rfl := Except.error.inj (built.symm.trans failed)
  rw [← Failure.located_toFault]
  exact Fault.located_of_line known current.header

/-- A line that ends a block does so because it is blank, which no parser rejects. -/
theorem Rejects.not_failsToBuild (rejects : dialect.Rejects lines number run fault) :
    ¬ dialect.FailsToBuild lines number run current fault := by
  -- The one asks for a blank line there, and the other for one that is not blank.
  intro fails
  obtain ⟨raw, own, found, notBlank, _⟩ := rejects
  exact notBlank (fails.ends raw found)

/-- A sheet that fails does so at a line that is rejected or at the end of a block. -/
theorem exists_failure (failed : dialect.inflateLines lines = .error fault) :
    ∃ number run, number ≤ lines.length ∧
      dialect.readLines 0 dialect.start (lines.take number) = .ok run ∧
      (dialect.Rejects lines number run fault ∨
        ∃ current, dialect.FailsToBuild lines number run current fault) ∧
      ∀ raw, lines[number]? = some raw → dialect.readLine number run raw = .error fault := by
  rcases bind_eq_error_iff.1 failed with unread | ⟨run, read, unfinished⟩
  · -- Some line fails, and all lines in front of it are read.
    obtain ⟨before, raw, after, run, rfl, read, wrong⟩ := readLines_eq_error_iff.1 unread
    rw [Nat.zero_add] at wrong
    have found : (before ++ raw :: after)[before.length]? = some raw := by simp
    have readBefore : dialect.readLines 0 dialect.start
        ((before ++ raw :: after).take before.length) = .ok run := by rwa [List.take_left]
    refine ⟨before.length, run, by simp, readBefore, ?_, fun other same => ?_⟩
    · obtain ⟨own, stepped, rfl⟩ := mapError_eq_error_iff.1 wrong
      by_cases blank : Line.ofText dialect.grammar raw = .blank
      · -- At a blank line, only the end of a block can fail.
        rw [blank] at stepped
        have ends : ∀ other, (before ++ raw :: after)[before.length]? = some other →
            Line.ofText dialect.grammar other = .blank := by
          intro other same
          rwa [← Option.some.inj (found.symm.trans same)]
        obtain ⟨current, fails⟩ := failsToBuild_of_endBlock readBefore ends stepped
        obtain ⟨failure, _, placed⟩ := fails.fails
        obtain ⟨line, known⟩ := failure.exists_placed_line current.header
        -- The line that the header gave stays.
        rw [Fault.located_of_line (placed ▸ known)]
        exact .inr ⟨current, fails⟩
      · have without : own.line = none := step_unplaced blank _ run own stepped
        exact .inl ⟨raw, own, found, blank, stepped, without, by simp [Fault.located, without]⟩
    · rwa [← Option.some.inj (found.symm.trans same)]
  · -- All lines are read, and the block that is open behind them fails.
    have whole : lines.take lines.length = lines := List.take_length
    have none : lines[lines.length]? = none := by simp
    rcases bind_eq_error_iff.1 unfinished with endFails | ⟨_, _, impossible⟩
    · refine ⟨lines.length, run, Nat.le_refl _, by rwa [whole], .inr ?_, by simp⟩
      exact failsToBuild_of_endBlock (by rwa [whole]) (by simp) endFails
    · cases impossible

/--
Where a sheet fails and with which fault.

All lines before some place are accepted.
Either the line there is itself rejected, and the fault has that line, or the block that ends there
is not built, and the fault is what its builder said, at its header unless it tells a line.
When builders tell no lines, the fault always has one of the lines.
Lines behind the one that fails make no difference.
-/
theorem inflateLines_error_attributed (failed : dialect.inflateLines lines = .error fault) :
    ∃ number run, number ≤ lines.length ∧
      dialect.readLines 0 dialect.start (lines.take number) = .ok run ∧
      Xor (dialect.Rejects lines number run fault)
        (∃ current, dialect.FailsToBuild lines number run current fault ∧
          current.header < number ∧ (dialect.Lineless → fault.line = some current.header) ∧
          ∀ own line, current.builder current.block = .error (.tagged own) →
            own.line = some line → fault = own) ∧
      (∃ line, fault.line = some line ∧ (dialect.Lineless → line < lines.length)) ∧
      (number < lines.length → ∀ others : List Text,
        others.take (number + 1) = lines.take (number + 1) →
          dialect.inflateLines others = .error fault) := by
  obtain ⟨number, run, atMost, read, cause, wrong⟩ := exists_failure failed
  refine ⟨number, run, atMost, read, ?_, ?_, fun within others agree => ?_⟩
  · -- A line that is rejected is not blank, and one that ends a block is.
    rcases cause with rejects | ⟨current, fails⟩
    · exact .inl ⟨rejects, fun ⟨_, fails, _⟩ => rejects.not_failsToBuild fails⟩
    · exact .inr ⟨⟨current, fails, fails.header_lt.1, fails.line_eq,
        fun _ _ built known => fails.eq_of_line built known⟩, fun rejects =>
          rejects.not_failsToBuild fails⟩
  · rcases cause with ⟨raw, own, found, _, _, _, rfl⟩ | ⟨current, fails⟩
    · obtain ⟨within, _⟩ := List.getElem?_eq_some_iff.1 found
      exact ⟨number, rfl, fun _ => within⟩
    · obtain ⟨failure, _, placed⟩ := fails.fails
      obtain ⟨line, known⟩ := failure.exists_placed_line current.header
      have known : fault.line = some line := placed ▸ known
      refine ⟨line, known, fun lineless => ?_⟩
      -- Without a line from the builder, the line is that of the header.
      obtain rfl := Option.some.inj (known.symm.trans (fails.line_eq lineless))
      exact fails.header_lt.2
  · -- The other lines start with the same ones, up to the one that fails.
    have split : others = lines.take number ++ lines[number] :: others.drop (number + 1) :=
      calc others
        _ = others.take (number + 1) ++ others.drop (number + 1) :=
          (List.take_append_drop _ _).symm
        _ = lines.take number ++ [lines[number]] ++ others.drop (number + 1) := by
          rw [agree, List.take_append_getElem within]
        _ = lines.take number ++ lines[number] :: others.drop (number + 1) :=
          (List.append_cons ..).symm
    have length : (lines.take number).length = number := by simp; omega
    rw [split]
    refine inflateLines_of_readLine_error read ?_ _
    rw [length]
    exact wrong _ (List.getElem?_eq_getElem within)

/-- A block that ends at a blank line and is not built fails at its header, not at that line. -/
theorem inflateLines_error_attributed_header :
    Dialect.inflateLines
        { registry := Registry.empty.register "fill" fun _ => .error (.untagged "no") }
        ["# Grid".toList, "fill left".toList, [], "fill".toList] =
      (.error { kind := .layerFailed, line := some 1, cause := some (.untagged "no") } :
        Except Fault (List (Overlay Unit))) ∧
    ∃ (number : Nat) (run : Run Unit) (current : OpenBlock Unit),
      Dialect.FailsToBuild
        { registry := Registry.empty.register "fill" fun _ => .error (.untagged "no") }
        ["# Grid".toList, "fill left".toList, [], "fill".toList] number run current
        { kind := .layerFailed, line := some 1, cause := some (.untagged "no") } ∧
      current.header < number := by
  have failed : Dialect.inflateLines
      { registry := Registry.empty.register "fill" fun _ => .error (.untagged "no") }
      ["# Grid".toList, "fill left".toList, [], "fill".toList] =
    (.error { kind := .layerFailed, line := some 1, cause := some (.untagged "no") } :
      Except Fault (List (Overlay Unit))) := rfl
  refine ⟨failed, ?_⟩
  -- The general theorem leaves two cases, and the first of them would name another line.
  obtain ⟨number, run, _, read, cause, _⟩ := inflateLines_error_attributed failed
  rcases cause with ⟨rejects, _⟩ | ⟨⟨current, fails, earlier, _⟩, _⟩
  · -- The line of the fault is that of the header, which the parser takes.
    obtain ⟨raw, own, found, _, stepped, _, same⟩ := rejects
    obtain rfl : 1 = number := Option.some.inj (congrArg Fault.line same)
    obtain rfl := Except.ok.inj read
    obtain rfl := Option.some.inj found
    cases stepped
  · exact ⟨number, run, current, fails, earlier⟩

end Failures

end OverlaySheet.Dialect
