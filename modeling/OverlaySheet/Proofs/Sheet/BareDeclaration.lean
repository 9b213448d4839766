import OverlaySheet.Proofs.Sheet.Attribution
import OverlaySheet.Proofs.Sheet.Marker
import OverlaySheet.Proofs.Sheet.Padding

/-! Declarations without a marker: they do what the same declarations do behind the marker. -/

namespace OverlaySheet

open Text (OpensSolid)

namespace Line

/-- Any text behind the default marker is a declaration. -/
theorem ofText_marked (raw : Text) : ofText {} ('@' :: raw) = .declaration raw.trimEnd := by
  have opens : OpensSolid ('@' :: raw) := ⟨'@', raw, rfl, by decide⟩
  have trimmed : Text.trim ('@' :: raw) = '@' :: raw.trimEnd := by
    rw [Text.trim_of_opensSolid opens]
    exact Text.trimEnd_append_cons [] (by decide) raw
  -- The other two markers start with other characters, so they are not in front of the line.
  have alone : ∀ other, Grammar.Opens {} other (Text.trim ('@' :: raw)) →
      other = .declaration := by
    intro other inFront
    rw [trimmed] at inFront
    cases other with
    | declaration => rfl
    | title | comment => simp [Grammar.Opens, MarkerName.marker] at inFront
  have longest : Grammar.Longest {} .declaration (Text.trim ('@' :: raw)) raw.trimEnd :=
    ⟨trimmed, fun other differ inFront => absurd (alone other inFront) differ⟩
  have notComment : ¬ Grammar.Opens {} .comment (Text.trim ('@' :: raw)) := fun inFront =>
    absurd (alone .comment inFront) (by decide)
  rw [ofText_of_longest (Grammar.marked_of_error?_eq_none (by decide))
    (isIndented_of_opensSolid opens) longest, if_neg notComment]
  rfl

/-- A line at the margin behind no default marker, whose first token has a value half. -/
structure Bare (raw : Text) : Prop where
  margin : isIndented raw = false
  noVariable : ¬ ['@'] <+: raw
  noTitle : ¬ ['#'] <+: raw
  noComment : ¬ ['/', '/'] <+: raw
  leads : Token.leadsWithValue raw = true

namespace Bare

variable {raw : Text} (bare : Bare raw)

include bare

/-- The line starts with a character that is no blank. -/
theorem opensSolid : OpensSolid raw := by
  cases raw with
  | nil =>
    -- A line of nothing has no first token.
    exact absurd bare.leads (by decide)
  | cons c rest => exact ⟨c, rest, rfl, by simpa [isIndented] using bare.margin⟩

/-- There is nothing to trim in front. -/
theorem trim_eq : raw.trim = raw.trimEnd :=
  Text.trim_of_opensSolid bare.opensSolid

/-- What is left of the line leads with a value, as the line does. -/
theorem leads_trimEnd : Token.leadsWithValue raw.trimEnd = true := by
  -- The first token is the same, because blanks at the end hold none.
  have leads := bare.leads
  rwa [Token.leadsWithValue, ← Token.split_trim, bare.trim_eq] at leads

/-- Without a marker the line is content. -/
theorem ofText_eq : ofText {} raw = .content raw.trimEnd false := by
  -- Nothing would be left of a blank line, which has no token.
  have nonempty : raw.trimEnd ≠ [] := by
    intro empty
    have leads := bare.leads_trimEnd
    rw [empty] at leads
    exact absurd leads (by decide)
  have unmarked : marked? {} raw.trimEnd = none := by
    rw [marked?_eq_none_iff, Text.after?_eq_none_iff, Text.after?_eq_none_iff]
    -- Trimming keeps the front of the line, so no marker has come to stand there.
    exact ⟨fun _ opens => bare.noVariable (Text.prefix_of_prefix_trimEnd opens),
      fun _ opens => bare.noTitle (Text.prefix_of_prefix_trimEnd opens)⟩
  have noComment : Text.after? ['/', '/'] raw.trimEnd = none :=
    Text.after?_eq_none_iff.2 fun _ opens =>
      bare.noComment (Text.prefix_of_prefix_trimEnd opens)
  exact ofText_eq_content_iff.2 ⟨bare.trim_eq, nonempty, noComment, bare.margin,
    fun _ => unmarked⟩

end Bare

end Line

namespace Scope

variable {scope : Scope} {text : Text}

/-- A well-formed declaration does the same with the marker and without it. -/
theorem declare_eq_declareBare {declaration : Declaration}
    (read : Declaration.read? text = some declaration) :
    scope.declare text = scope.declareBare text := by
  -- The two differ in what a fault cites, and no fault cites a well-formed declaration.
  simp [declare, declareBare, declareAs, read]

/-- A malformed declaration is cited with the marker that stands before it. -/
theorem declare_of_malformed (scope : Scope) (malformed : Declaration.read? text = none) :
    scope.declare text = .error (.malformedVariable (scope.marker ++ text)) ∧
      scope.declareBare text = .error (.malformedVariable text) := by
  simp [declare, declareBare, declareAs, malformed]

end Scope

namespace Dialect

variable {Layer : Type} {dialect : Dialect Layer} {before after : List Text} {raw : Text}

/-- All of some lines are read, so that a line behind them is reached. -/
def Reaches (dialect : Dialect Layer) (before : List Text) : Prop :=
  ∃ run, dialect.readLines 0 dialect.start before = .ok run

/-- Two lines that are read alike may take each other's place. -/
theorem inflateLines_eq_of_readLine_eq {run : Run Layer} {first second : Text}
    (read : dialect.readLines 0 dialect.start before = .ok run)
    (alike : dialect.readLine before.length run first = dialect.readLine before.length run second) :
    dialect.inflateLines (before ++ first :: after) =
      dialect.inflateLines (before ++ second :: after) := by
  rw [inflateLines_eq_finish, inflateLines_eq_finish, finish_append_of_ok read,
    finish_append_of_ok read, Nat.zero_add]
  -- Behind the line, both runs are where the line has left them.
  simp only [finish, readLines, alike]

section Step

variable {run : Run Layer} {text : Text}

/-- Before the first block, both forms declare the variable. -/
theorem step_declares_of_preamble (dialect : Dialect Layer) (number : Nat)
    (leads : Token.leadsWithValue text = true)
    (preamble : run.phase = .preamble) :
    dialect.step number run (.declaration text) =
        (do let scope ← run.scope.declare text; return { run with scope }) ∧
      dialect.step number run (.content text false) =
        (do let scope ← run.scope.declareBare text; return { run with scope }) := by
  -- Content at the margin that leads with a value is no header.
  simp [step, preamble, leads]

/-- Between blocks, both forms come too late. -/
theorem step_declares_of_between (dialect : Dialect Layer) (number : Nat)
    (leads : Token.leadsWithValue text = true)
    (between : run.phase = .between) :
    dialect.step number run (.declaration text) = .error .unexpectedVariable ∧
      dialect.step number run (.content text false) = .error .unexpectedVariable := by
  simp [step, between, leads]

end Step

/-- Between blocks a header has come before. -/
theorem between_iff_headed {run : Run Layer}
    (read : dialect.readLines 0 dialect.start before = .ok run) (closed : run.Closed) :
    run.phase = .between ↔ dialect.Headed before := by
  have preamble := preamble_iff_not_headed read
  -- There are only two phases in which no block is open.
  cases phase : run.phase with
  | preamble =>
    rw [phase] at preamble
    exact iff_of_false (by simp) (preamble.1 rfl)
  | between =>
    rw [phase] at preamble
    exact iff_of_true rfl (not_not.1 fun notHeaded => by simpa using preamble.2 notHeaded)
  | inBlock current => exact absurd phase (closed current)

section Default

variable (grammar : dialect.grammar = {}) (bare : Line.Bare raw)

include grammar bare

/-- How the two forms are read: as the declaration of a text and as content that leads with it. -/
theorem readLine_forms (number : Nat) (run : Run Layer) :
    dialect.readLine number run ('@' :: raw) =
        (dialect.step number run (.declaration raw.trimEnd)).mapError (·.located number) ∧
      dialect.readLine number run raw =
        (dialect.step number run (.content raw.trimEnd false)).mapError (·.located number) := by
  -- The marker is taken away with the blanks at the end, and then the two texts are the same.
  rw [readLine, readLine, grammar, Line.ofText_marked, bare.ofText_eq]
  exact ⟨rfl, rfl⟩

/-- After the first header, both forms fail where they stand. -/
theorem inflateLines_forms_of_headed (reaches : dialect.Reaches before)
    (closed : dialect.ClosedBehind before) (headed : dialect.Headed before) (after : List Text) :
    dialect.inflateLines (before ++ ('@' :: raw) :: after) =
        .error { Fault.unexpectedVariable with line := some before.length } ∧
      dialect.inflateLines (before ++ raw :: after) =
        .error { Fault.unexpectedVariable with line := some before.length } := by
  obtain ⟨run, read⟩ := reaches
  -- The line is wrong whatever it declares, so nothing behind it is read.
  have between := (between_iff_headed read (closed run read)).2 headed
  obtain ⟨marked, unmarked⟩ :=
    dialect.step_declares_of_between before.length bare.leads_trimEnd between
  obtain ⟨markedForm, bareForm⟩ := readLine_forms grammar bare before.length run
  -- The fault is the one of the parser, so it is the same whether the marker stands there or not.
  constructor
  · refine inflateLines_of_readLine_error read ?_ after
    rw [markedForm, marked]
    rfl
  · refine inflateLines_of_readLine_error read ?_ after
    rw [bareForm, unmarked]
    rfl

/-- Before the first header, both forms of a malformed declaration are cited as they stand. -/
theorem inflateLines_forms_of_malformed (reaches : dialect.Reaches before)
    (notHeaded : ¬ dialect.Headed before)
    (malformed : ¬ ∃ declaration, Declaration.Written raw declaration) (after : List Text) :
    dialect.inflateLines (before ++ ('@' :: raw) :: after) =
        .error { Fault.malformedVariable ('@' :: raw.trimEnd) with line := some before.length } ∧
      dialect.inflateLines (before ++ raw :: after) =
        .error { Fault.malformedVariable raw.trimEnd with line := some before.length } := by
  obtain ⟨run, read⟩ := reaches
  have preamble := (preamble_iff_not_headed read).2 notHeaded
  -- The marker that a fault cites is that of the grammar.
  have marker : run.scope.marker = ['@'] := by
    rw [(reachable_of_readLines read).marker_eq, grammar]
    rfl
  obtain ⟨marked, unmarked⟩ :=
    dialect.step_declares_of_preamble before.length bare.leads_trimEnd preamble
  have unread : Declaration.read? raw.trimEnd = none := by
    rw [Declaration.read?_trimEnd, Declaration.read?_eq_none_iff]
    exact malformed
  obtain ⟨markedFault, bareFault⟩ := run.scope.declare_of_malformed unread
  obtain ⟨markedForm, bareForm⟩ := readLine_forms grammar bare before.length run
  -- Only the text in the fault differs, as each form is cited without the blanks behind it.
  constructor
  · refine inflateLines_of_readLine_error read ?_ after
    rw [markedForm, marked, markedFault, marker]
    rfl
  · refine inflateLines_of_readLine_error read ?_ after
    rw [bareForm, unmarked, bareFault]
    rfl

/-- Before the first header, both forms of a well-formed declaration are read alike. -/
theorem inflateLines_forms_of_written (reaches : dialect.Reaches before)
    (notHeaded : ¬ dialect.Headed before) {declaration : Declaration}
    (written : Declaration.Written raw declaration) (after : List Text) :
    dialect.inflateLines (before ++ ('@' :: raw) :: after) =
      dialect.inflateLines (before ++ raw :: after) := by
  obtain ⟨run, read⟩ := reaches
  have preamble := (preamble_iff_not_headed read).2 notHeaded
  -- Both forms carry out the same declaration, and the rest of the lines is the same.
  have known : Declaration.read? raw.trimEnd = some declaration := by
    rw [Declaration.read?_trimEnd]
    exact Declaration.read?_eq_some_iff.2 written
  obtain ⟨marked, unmarked⟩ :=
    dialect.step_declares_of_preamble before.length bare.leads_trimEnd preamble
  obtain ⟨markedForm, bareForm⟩ := readLine_forms grammar bare before.length run
  refine inflateLines_eq_of_readLine_eq read ?_
  rw [markedForm, bareForm, marked, unmarked, Scope.declare_eq_declareBare known]

/--
Where no block is open, a declaration does the same behind the marker and without it.

Only a malformed one before the first header is told apart, by the text that the fault cites.
After the first header, both forms are refused in the same way.
-/
theorem inflateLines_marked_and_bare (closed : dialect.ClosedBehind before) (after : List Text) :
    ((dialect.Reaches before → ¬ dialect.Headed before →
        ∃ declaration, Declaration.Written raw declaration) →
      dialect.inflateLines (before ++ ('@' :: raw) :: after) =
        dialect.inflateLines (before ++ raw :: after)) ∧
    (dialect.Reaches before → ¬ dialect.Headed before →
      (¬ ∃ declaration, Declaration.Written raw declaration) →
      dialect.inflateLines (before ++ ('@' :: raw) :: after) =
          .error { Fault.malformedVariable ('@' :: raw.trimEnd) with line := some before.length } ∧
        dialect.inflateLines (before ++ raw :: after) =
          .error { Fault.malformedVariable raw.trimEnd with line := some before.length }) ∧
    (dialect.Reaches before → dialect.Headed before →
      dialect.inflateLines (before ++ ('@' :: raw) :: after) =
          .error { Fault.unexpectedVariable with line := some before.length } ∧
        dialect.inflateLines (before ++ raw :: after) =
          .error { Fault.unexpectedVariable with line := some before.length }) := by
  refine ⟨fun wellFormed => ?_, fun reaches notHeaded malformed =>
    inflateLines_forms_of_malformed grammar bare reaches notHeaded malformed after,
    fun reaches headed => inflateLines_forms_of_headed grammar bare reaches closed headed after⟩
  cases outcome : dialect.readLines 0 dialect.start before with
  | error fault =>
    -- The line is not reached, so its form does not matter.
    rw [inflateLines_eq_finish, inflateLines_eq_finish, finish_append_of_error outcome,
      finish_append_of_error outcome]
  | ok run =>
    have reaches : dialect.Reaches before := ⟨run, outcome⟩
    by_cases headed : dialect.Headed before
    · -- Both forms are refused in the same way.
      obtain ⟨marked, unmarked⟩ :=
        inflateLines_forms_of_headed grammar bare reaches closed headed after
      rw [marked, unmarked]
    · -- Both forms declare the same name and the same value.
      obtain ⟨declaration, written⟩ := wellFormed reaches headed
      exact inflateLines_forms_of_written grammar bare reaches headed written after

end Default

/-- A dialect with the default markers whose only type is given its blocks as layers. -/
def plain : Dialect Block where
  registry := Registry.empty.register "fill" .ok

/-- A side that is declared bare, with blanks around its sign, and then referred to. -/
theorem inflateLines_marked_and_bare_side :
    plain.grammar = {} ∧ Line.Bare "side = top ".toList ∧ plain.ClosedBehind ["# Grid".toList] ∧
      Declaration.Written "side = top ".toList ⟨"side".toList, "top".toList⟩ ∧
      plain.inflateLines ["# Grid".toList, "@side = top ".toList, "fill edge=@side".toList] =
        plain.inflateLines ["# Grid".toList, "side = top ".toList, "fill edge=@side".toList] ∧
      plain.inflateLines ["# Grid".toList, "side = top ".toList, "fill edge=@side".toList] =
        .ok [{ title := some "Grid", layers := [⟨"fill", [⟨"edge", some "top"⟩]⟩] }] := by
  have bare : Line.Bare "side = top ".toList :=
    ⟨by decide, by decide, by decide, by decide, by decide⟩
  -- Behind a title alone no block is open.
  have closed : plain.ClosedBehind ["# Grid".toList] := by
    intro run read
    obtain rfl := Except.ok.inj read
    nofun
  have written : Declaration.Written "side = top ".toList ⟨"side".toList, "top".toList⟩ :=
    Declaration.read?_eq_some_iff.1 (by decide)
  have default : plain.grammar = {} := rfl
  have same := (inflateLines_marked_and_bare default bare closed ["fill edge=@side".toList]).1
    fun _ _ => ⟨_, written⟩
  exact ⟨default, bare, closed, written, same, rfl⟩

end Dialect

end OverlaySheet
