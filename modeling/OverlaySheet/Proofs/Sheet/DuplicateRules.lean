import OverlaySheet.Proofs.Sheet.Repeats

/-! The two rules for keys given twice differ on sheets that give a key twice, and only there. -/

namespace OverlaySheet.Dialect

variable {Layer : Type} {dialect : Dialect Layer}

/-- A block is given to its builder where a blank line or the end of the lines ends it. -/
def Given (dialect : Dialect Layer) (lines : List Text) (block : Block) : Prop :=
  ∃ before after run current, lines = before ++ after ∧
    dialect.readLines 0 dialect.start before = .ok run ∧ run.phase = .inBlock current ∧
    current.block = block ∧
    ∀ raw, after.head? = some raw → Line.ofText dialect.grammar raw = .blank

/-- Behind some lines, a line adds an argument to a block of a type that has its key already. -/
def Repeats (dialect : Dialect Layer) (before : List Text) (raw : Text) (layerType : String)
    (argument : Argument) : Prop :=
  ∃ run next current, dialect.readLines 0 dialect.start before = .ok run ∧
    dialect.readLine before.length run raw = .ok next ∧ next.phase = .inBlock current ∧
    current.block.layerType = layerType ∧ current.block.RepeatsBehind run.arguments argument

/-- No line adds an argument to a block that has its key already. -/
def Unrepeated (dialect : Dialect Layer) (lines : List Text) : Prop :=
  ∀ before raw after, lines = before ++ raw :: after →
    ∀ layerType argument, ¬ dialect.Repeats before raw layerType argument

/-- Among lines and one more, no line repeats a key when none of them does and the last does not. -/
theorem Unrepeated.snoc {lines : List Text} {raw : Text} (unrepeated : dialect.Unrepeated lines)
    (last : ∀ layerType argument, ¬ dialect.Repeats lines raw layerType argument) :
    dialect.Unrepeated (lines ++ [raw]) := by
  intro before other after split
  -- The line is the last one, or it is among those that come before.
  cases after using List.reverseRecOn with
  | nil =>
    obtain ⟨rfl, same⟩ := List.append_inj' split rfl
    obtain rfl := List.singleton_inj.1 same
    exact last
  | append_singleton after final =>
    rw [← List.cons_append, ← List.append_assoc] at split
    obtain ⟨rfl, _⟩ := List.append_inj' split rfl
    exact unrepeated before other after rfl

/-- The run behind a line with distinct keys tells that the line repeats none. -/
theorem not_repeats_of_distinct {before : List Text} {raw : Text} {run next : Run Layer}
    (read : dialect.readLines 0 dialect.start before = .ok run)
    (readNext : dialect.readLine before.length run raw = .ok next) (distinct : next.Distinct)
    (layerType : String) (argument : Argument) :
    ¬ dialect.Repeats before raw layerType argument := by
  rintro ⟨other, last, current, sameRun, sameNext, opened, _, repeated⟩
  -- Both runs go through the same lines, so the open block is the same one.
  obtain rfl := Except.ok.inj (read.symm.trans sameRun)
  obtain rfl := Except.ok.inj (readNext.symm.trans sameNext)
  exact repeated.not_distinct (distinct current opened)

/-- Where a block is open and stays so, its arguments stay in front of those that come. -/
theorem step_inBlock {number : Nat} {run next : Run Layer} {current : OpenBlock Layer} {line : Line}
    (opened : run.phase = .inBlock current) (notBlank : line ≠ .blank)
    (stepped : dialect.step number run line = .ok next) :
    ∃ block, next.phase = .inBlock { current with block } ∧
      current.block.arguments <+: block.arguments := by
  -- Only a line of content or a comment leaves the block open.
  cases line with
  | blank => exact absurd rfl notBlank
  | comment =>
    obtain rfl := Except.ok.inj stepped
    exact ⟨current.block, opened, List.prefix_refl _⟩
  | declaration text =>
    simp only [step, opened] at stepped
    cases stepped
  | title text =>
    simp only [step, opened] at stepped
    cases stepped
  | content text indented =>
    simp only [step, opened] at stepped
    split at stepped
    · -- The new arguments come at the end.
      obtain ⟨tokens, block, _, pushed, rfl⟩ := extendBlock_eq_ok_iff.1 stepped
      obtain ⟨_, _, rfl⟩ := Block.pushTokens_eq_ok_iff.1 pushed
      exact ⟨_, rfl, List.prefix_append _ _⟩
    · cases stepped

/-- In a sheet that is inflated, a block that is open somewhere is given to its builder. -/
theorem exists_given {before after : List Text} {run : Run Layer} {current : OpenBlock Layer}
    {overlays : List (Overlay Layer)} (read : dialect.readLines 0 dialect.start before = .ok run)
    (opened : run.phase = .inBlock current)
    (finished : dialect.finish before.length run after = .ok overlays) :
    ∃ block, dialect.Given (before ++ after) block ∧
      current.block.arguments <+: block.arguments := by
  -- Line by line, the block that is open moves on until a blank line or the end is there.
  induction after generalizing before run current with
  | nil =>
    exact ⟨current.block, ⟨before, [], run, current, rfl, read, opened, rfl, nofun⟩,
      List.prefix_refl _⟩
  | cons raw rest ih =>
    obtain ⟨next, stepped, finishedRest⟩ := finish_cons_eq_ok_iff.1 finished
    by_cases blank : Line.ofText dialect.grammar raw = .blank
    · -- The blank line ends the block as it is.
      refine ⟨current.block, ⟨before, raw :: rest, run, current, rfl, read, opened, rfl, ?_⟩,
        List.prefix_refl _⟩
      intro first same
      exact Option.some.inj same ▸ blank
    · obtain ⟨block, openedNext, front⟩ := step_inBlock opened blank stepped
      have readNext : dialect.readLines 0 dialect.start (before ++ [raw]) = .ok next :=
        readLines_snoc_eq_ok_iff.2 ⟨run, read, stepped⟩
      have length : (before ++ [raw]).length = before.length + 1 := by simp
      rw [← length] at finishedRest
      obtain ⟨last, given, frontLast⟩ := ih readNext openedNext finishedRest
      rw [List.append_cons]
      exact ⟨last, given, front.trans frontLast⟩

section Rules

variable {lines : List Text} {run : Run Layer} {overlays : List (Overlay Layer)}

/-- A fault is the refusal of the first line that adds an argument with a key given before. -/
def RefusesFirst (dialect : Dialect Layer) (lines : List Text) (fault : Fault) : Prop :=
  ∃ before raw after layerType argument, lines = before ++ raw :: after ∧
    (dialect.ruled .lastWins).Repeats before raw layerType argument ∧
    (dialect.ruled .lastWins).Unrepeated before ∧
    fault = { Fault.repeatedArgument layerType argument.key with line := some before.length }

/-- Lines that the lenient rule reads are read by the strict rule up to the first repeated key. -/
theorem readLines_strict
    (read : (dialect.ruled .lastWins).readLines 0 (dialect.ruled .lastWins).start lines =
      .ok run) :
    ((dialect.ruled .reject).readLines 0 (dialect.ruled .reject).start lines = .ok run ∧
        run.Distinct ∧ (dialect.ruled .lastWins).Unrepeated lines) ∨
      ∃ fault, (dialect.ruled .reject).readLines 0 (dialect.ruled .reject).start lines =
        .error fault ∧ dialect.RefusesFirst lines fault := by
  -- The last line is taken off, because the fault tells how many lines come before the wrong one.
  induction lines using List.reverseRecOn generalizing run with
  | nil =>
    obtain rfl := Except.ok.inj read
    exact .inl ⟨rfl, nofun, fun before raw after split => by simp at split⟩
  | append_singleton before raw ih =>
    obtain ⟨middle, readBefore, stepped⟩ := readLines_snoc_eq_ok_iff.1 read
    rcases ih readBefore with ⟨strictBefore, distinct, unrepeated⟩ |
      ⟨fault, failed, front, other, back, layerType, argument, rfl, first⟩
    · -- Both rules have come to the same run, and the last line decides.
      have outcome := step_strict distinct stepped
      generalize strictStep : (dialect.ruled .reject).step before.length middle
        (Line.ofText (dialect.ruled .lastWins).grammar raw) = result at outcome
      cases outcome with
      | same distinctNext =>
        exact .inl ⟨readLines_snoc_eq_ok_iff.2 ⟨middle, strictBefore, strictStep⟩, distinctNext,
          unrepeated.snoc (not_repeats_of_distinct readBefore (mapError_eq_ok_iff.2 stepped)
            distinctNext)⟩
      | @refused current argument opened repeated =>
        have wrong : (dialect.ruled .reject).readLine (0 + before.length) middle raw =
            .error { Fault.repeatedArgument current.block.layerType argument.key with
              line := some before.length } := by
          rw [Nat.zero_add]
          exact mapError_eq_error_iff.2 ⟨_, strictStep, rfl⟩
        exact .inr ⟨_, readLines_eq_error_iff.2 ⟨before, raw, [], middle, rfl, strictBefore, wrong⟩,
          before, raw, [], current.block.layerType, argument, rfl, ⟨middle, run, current,
            readBefore, mapError_eq_ok_iff.2 stepped, opened, rfl, repeated⟩, unrepeated, rfl⟩
    · -- A line in front has been refused already.
      refine .inr ⟨fault, ?_, front, other, back ++ [raw], layerType, argument, by simp, first⟩
      rw [readLines_append, failed]
      rfl

/-- Lines that the strict rule reads are read by the lenient rule, and the keys are distinct. -/
theorem readLines_lenient
    (read : (dialect.ruled .reject).readLines 0 (dialect.ruled .reject).start lines = .ok run) :
    (dialect.ruled .lastWins).readLines 0 (dialect.ruled .lastWins).start lines = .ok run ∧
      run.Distinct := by
  have lenient : (dialect.ruled .lastWins).readLines 0 (dialect.ruled .lastWins).start lines =
      .ok run := by
    -- The induction removes the last line, as each step is lenient with the run before it.
    induction lines using List.reverseRecOn generalizing run with
    | nil => exact read
    | append_singleton before raw ih =>
      obtain ⟨middle, readBefore, stepped⟩ := readLines_snoc_eq_ok_iff.1 read
      exact readLines_snoc_eq_ok_iff.2 ⟨middle, ih readBefore, step_lenient stepped⟩
  -- The strict rule has not failed on these lines, so every key was new.
  rcases readLines_strict lenient with ⟨_, distinct, _⟩ | ⟨fault, failed, _⟩
  · exact ⟨lenient, distinct⟩
  · cases read.symm.trans failed

/-- What the strict rule inflates the lenient rule inflates, and every block has distinct keys. -/
theorem inflateLines_lenient
    (inflated : (dialect.ruled .reject).inflateLines lines = .ok overlays) :
    (dialect.ruled .lastWins).inflateLines lines = .ok overlays ∧
      (∀ block, (dialect.ruled .reject).Given lines block → block.Distinct) ∧
      ∀ block, (dialect.ruled .lastWins).Given lines block → block.Distinct := by
  obtain ⟨run, read, completed⟩ := bind_eq_ok_iff.1 inflated
  refine ⟨bind_eq_ok_iff.2 ⟨run, (readLines_lenient read).1, completed⟩, ?_, ?_⟩
  · rintro _ ⟨before, after, last, current, _, readBefore, opened, rfl, _⟩
    exact (readLines_lenient readBefore).2 current opened
  · rintro _ ⟨before, after, last, current, rfl, readBefore, opened, rfl, _⟩
    -- The strict rule comes to the same run in front of the block's end.
    rw [readLines_append] at read
    obtain ⟨middle, strictBefore, _⟩ := bind_eq_ok_iff.1 read
    obtain ⟨lenientBefore, distinct⟩ := readLines_lenient strictBefore
    obtain rfl := Except.ok.inj (readBefore.symm.trans lenientBefore)
    exact distinct current opened

/-- In a sheet that the lenient rule inflates, a repeated key ends up in a block that is given. -/
theorem RefusesFirst.exists_given {fault : Fault} (refuses : dialect.RefusesFirst lines fault)
    (inflated : (dialect.ruled .lastWins).inflateLines lines = .ok overlays) :
    ∃ block, (dialect.ruled .lastWins).Given lines block ∧ ¬ block.Distinct := by
  obtain ⟨before, raw, after, layerType, argument, rfl, repeats, _⟩ := refuses
  obtain ⟨run, next, current, read, readNext, opened, _, repeated⟩ := repeats
  -- Behind the refused line its block is open, and from there it is given to a builder.
  have readBoth : (dialect.ruled .lastWins).readLines 0 (dialect.ruled .lastWins).start
      (before ++ [raw]) = .ok next :=
    readLines_snoc_eq_ok_iff.2 ⟨run, read, mapError_eq_ok_iff.1 readNext⟩
  rw [List.append_cons, inflateLines_eq_finish, finish_append_of_ok readBoth, Nat.zero_add]
    at inflated
  obtain ⟨block, given, front⟩ := Dialect.exists_given readBoth opened inflated
  rw [List.append_cons]
  exact ⟨block, given, fun distinct => repeated.not_distinct (distinct.of_prefix front)⟩

/--
The rule for keys given twice matters for sheets that give a key twice, and only for these.

What the strict rule inflates the lenient one inflates to the same, and then every block that a
builder gets has distinct keys.
The other way round, distinct keys are enough.
Where the lenient rule inflates a sheet with a key given twice, the strict rule refuses the first
line with an argument whose key its block has already.
-/
theorem inflateLines_ruled (dialect : Dialect Layer) (lines : List Text) :
    (∀ overlays, (dialect.ruled .reject).inflateLines lines = .ok overlays →
      (dialect.ruled .lastWins).inflateLines lines = .ok overlays ∧
        (∀ block, (dialect.ruled .reject).Given lines block → block.Distinct) ∧
        ∀ block, (dialect.ruled .lastWins).Given lines block → block.Distinct) ∧
    (∀ overlays, (dialect.ruled .lastWins).inflateLines lines = .ok overlays →
      (∀ block, (dialect.ruled .lastWins).Given lines block → block.Distinct) →
        (dialect.ruled .reject).inflateLines lines = .ok overlays) ∧
    ∀ overlays block, (dialect.ruled .lastWins).inflateLines lines = .ok overlays →
      (dialect.ruled .lastWins).Given lines block → ¬ block.Distinct →
        ∃ fault, (dialect.ruled .reject).inflateLines lines = .error fault ∧
          fault.kind = .malformedLayer ∧ dialect.RefusesFirst lines fault := by
  refine ⟨fun overlays => inflateLines_lenient, fun overlays inflated distinct => ?_,
    fun overlays block inflated given repeated => ?_⟩
  · -- Had the strict rule refused a line, its block would be given with the repeated key.
    obtain ⟨run, read, completed⟩ := bind_eq_ok_iff.1 inflated
    rcases readLines_strict read with ⟨strictRead, _⟩ | ⟨fault, _, refuses⟩
    · exact bind_eq_ok_iff.2 ⟨run, strictRead, completed⟩
    · obtain ⟨block, given, repeated⟩ := refuses.exists_given inflated
      exact absurd (distinct block given) repeated
  · obtain ⟨run, read, completed⟩ := bind_eq_ok_iff.1 inflated
    rcases readLines_strict read with ⟨strictRead, _⟩ | ⟨fault, failed, refuses⟩
    · -- Without a refusal, the keys of the block would be distinct.
      have strict := bind_eq_ok_iff.2 ⟨run, strictRead, completed⟩
      exact absurd ((inflateLines_lenient strict).2.2 block given) repeated
    · -- The fault of the first refused line is the one of the sheet.
      refine ⟨fault, bind_eq_error_iff.2 (.inl failed), ?_, refuses⟩
      obtain ⟨_, _, _, _, _, _, _, _, rfl⟩ := refuses
      rfl

end Rules

/-- The key of a header comes again, with another value, on the indented line below it. -/
theorem inflateLines_ruled_second_line :
    Dialect.inflateLines { registry := Registry.empty.register "fill" .ok }
        ["fill side=left".toList, " side=top".toList] =
      .ok [{ layers := [⟨"fill", [⟨"side", some "left"⟩, ⟨"side", some "top"⟩]⟩] }] ∧
    Dialect.Given { registry := Registry.empty.register "fill" .ok }
        ["fill side=left".toList, " side=top".toList]
        ⟨"fill", [⟨"side", some "left"⟩, ⟨"side", some "top"⟩]⟩ ∧
    ∃ fault, Dialect.inflateLines
        { registry := Registry.empty.register "fill" .ok, grammar := { duplicates := .reject } }
        ["fill side=left".toList, " side=top".toList] = .error fault ∧
      fault.kind = .malformedLayer := by
  have inflated : Dialect.inflateLines { registry := Registry.empty.register "fill" .ok }
      ["fill side=left".toList, " side=top".toList] =
        .ok [{ layers := [⟨"fill", [⟨"side", some "left"⟩, ⟨"side", some "top"⟩]⟩] }] := rfl
  -- The one block of the sheet goes to its builder at the end, with both arguments.
  have given : Dialect.Given { registry := Registry.empty.register "fill" .ok }
      ["fill side=left".toList, " side=top".toList]
      ⟨"fill", [⟨"side", some "left"⟩, ⟨"side", some "top"⟩]⟩ :=
    ⟨_, [], _, _, (List.append_nil _).symm, rfl, rfl, rfl, nofun⟩
  have repeated : ¬ Block.Distinct
      ⟨"fill", [⟨"side", some "left"⟩, ⟨"side", some "top"⟩]⟩ := by
    simp [Block.Distinct]
  obtain ⟨fault, failed, kind, _⟩ := (inflateLines_ruled
    { registry := Registry.empty.register "fill" .ok } _).2.2 _ _ inflated given repeated
  exact ⟨inflated, given, fault, failed, kind⟩

end OverlaySheet.Dialect
