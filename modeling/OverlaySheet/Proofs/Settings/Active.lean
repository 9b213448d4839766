import OverlaySheet.Proofs.Outcome
import OverlaySheet.Proofs.Settings
import OverlaySheet.Proofs.Settings.Precedence
import OverlaySheet.Proofs.Sheet.Marker
import OverlaySheet.Proofs.Toml
import OverlaySheet.Proofs.Value.Equality

/-! The settings in effect: which layer gives each of them, and when there are none. -/

namespace OverlaySheet

open Value (Keyed)

namespace Grammar

variable {grammar : Grammar}

/-- What is wrong with a grammar is found when it is validated. -/
theorem stage_of_error?_eq {error : SettingsError} (found : grammar.error? = some error) :
    error.stage = .validation := by
  simp only [error?, Option.orElse_eq_orElse, Option.orElse_eq_or, Option.or_eq_some_iff] at found
  -- Either one marker is faulty in itself, or two of them are the same.
  rcases found with single | ⟨_, double⟩
  · obtain ⟨name, _, here⟩ := List.exists_of_findSome?_eq_some single
    simp only [markerError?] at here
    split at here
    · -- An empty marker is found before one that holds a blank.
      obtain rfl := Option.some.inj here
      rfl
    split at here
    · obtain rfl := Option.some.inj here
      rfl
    · cases here
  · obtain ⟨pair, _, here⟩ := List.exists_of_findSome?_eq_some double
    rw [clash?] at here
    split at here
    · obtain rfl := Option.some.inj here
      rfl
    · cases here

end Grammar

namespace ActiveSettings

/-- The table of a settings file, which is empty when there is no such file. -/
def fileTable : Option (String × FileContent) → Except SettingsError Table
  | none => .ok []
  | some (_, .refused failure) => if failure.isAbsence then .ok [] else .error (.unreadable failure)
  | some (_, .directory) => .error (.unreadable .isDirectory)
  | some (_, .bytes content) => parseFile content

/-- The source that a settings file adds when there is one. -/
def fileSources : Option (String × FileContent) → List SettingsSource
  | some (path, .bytes content) => [.file path (digest content)]
  | _ => []

/-- The source that overrides add when there are any. -/
def overrideSources (overrides : Table) : List SettingsSource :=
  if overrides.isEmpty then [] else [.commandLine]

/-- The defaults, the table of a file and overrides laid over each other. -/
def merged (table overrides : Table) : Table :=
  Table.stack [Settings.toTable {}, table, overrides]

/-- Overrides that are left out for being empty would not change the layers below. -/
theorem stack_overrideLayer (layers : List (Table × SettingsSource)) (overrides : Table) :
    Table.stack ((layers ++ overrideLayer overrides).map (·.1)) =
      Table.over (Table.stack (layers.map (·.1))) overrides := by
  -- Without overrides no layer is added, and merging an empty table changes nothing.
  cases overrides with
  | nil => simp [overrideLayer, Table.over]
  | cons pair rest => simp [overrideLayer]

/-- The sources of the layers end with the one of the overrides. -/
theorem sources_overrideLayer (layers : List (Table × SettingsSource)) (overrides : Table) :
    (layers ++ overrideLayer overrides).map (·.2) =
      layers.map (·.2) ++ overrideSources overrides := by
  -- The source is left out under the same test as the layer.
  cases overrides with
  | nil => simp [overrideLayer, overrideSources]
  | cons pair rest => simp [overrideLayer, overrideSources]

/-- The settings in effect are those of the three layers, of which an absent one is empty. -/
theorem build_eq (file : Option (String × FileContent)) (overrides : Table) :
    build file overrides = (fileTable file).bind fun table =>
      (check (merged table overrides)).map fun settings =>
        ⟨settings, .builtin :: fileSources file ++ overrideSources overrides⟩ := by
  have absent : merged [] overrides =
      Table.over (Table.stack [Settings.toTable {}]) overrides := by
    -- A file that is not there counts as one without fields, which changes nothing below it.
    simp only [merged, Table.stack, List.foldl_cons, List.foldl_nil, Table.over]
  unfold build
  simp only [stack_overrideLayer, sources_overrideLayer]
  -- A file adds a layer in the same cases in which it adds a source.
  rcases file with _ | ⟨path, failure | _ | content⟩
  · simp only [fileTable, Except.bind, absent]
    rfl
  · simp only [fileTable, fileLayer]
    split
    · simp only [Except.bind, absent]
      rfl
    · rfl
  · rfl
  · simp only [fileTable, fileLayer]
    -- A file that is there is decoded once, and a failure is the outcome of the whole.
    cases parseFile content with
    | error failure => rfl
    | ok table => rfl

/-- Layers are accepted when they hold settings whose markers can be told apart. -/
theorem check_eq_ok_iff {table : Table} {settings : Settings} :
    check table = .ok settings ↔
      Settings.ofTable? table = some settings ∧ settings.grammar.Marked := by
  rw [check, ← Grammar.error?_eq_none_iff]
  cases Settings.ofTable? table with
  | none => simp
  | some decoded =>
    simp only [Option.some.injEq]
    -- Layers that can be read are refused for their markers alone.
    cases faulty : decoded.grammar.error? with
    | some error =>
      refine iff_of_false (fun accepted => nomatch accepted) ?_
      rintro ⟨rfl, sound⟩
      exact nomatch faulty.symm.trans sound
    | none =>
      simp only [Except.ok.injEq, iff_self_and]
      rintro rfl
      exact faulty

/-- The settings in effect are read from the merged layers, and their sources are those there. -/
theorem build_eq_ok_iff {file : Option (String × FileContent)} {overrides : Table}
    {active : ActiveSettings} :
    build file overrides = .ok active ↔ ∃ table, fileTable file = .ok table ∧
      Settings.ofTable? (merged table overrides) = some active.settings ∧
      active.settings.grammar.Marked ∧
      active.sources = .builtin :: fileSources file ++ overrideSources overrides := by
  rw [build_eq]
  -- The file decides first: after it only the check of the merged layers is left.
  cases fileTable file with
  | error failure => simp [Except.bind]
  | ok table =>
    obtain ⟨settings, sources⟩ := active
    simp only [Except.bind, Except.ok.injEq, exists_eq_left']
    constructor
    · intro built
      obtain ⟨checked, accepted, same⟩ := map_eq_ok_iff.1 built
      obtain ⟨rfl, rfl⟩ := mk.inj same
      obtain ⟨decoded, marked⟩ := check_eq_ok_iff.1 accepted
      exact ⟨decoded, marked, rfl⟩
    · rintro ⟨decoded, marked, rfl⟩
      exact map_eq_ok_iff.2 ⟨settings, check_eq_ok_iff.2 ⟨decoded, marked⟩, rfl⟩

/-- The merged layers are the file and the overrides laid over the defaults. -/
theorem merged_eq_foldl (table overrides : Table) :
    merged table overrides = [table, overrides].foldl Table.over (Settings.toTable {}) := by
  simp [merged, Table.stack, Table.nil_over (Settings.keyed_toTable {})]

/-- Written settings are grouped. -/
theorem grouped_toTable (settings : Settings) : Table.Grouped settings.toTable := by
  simp [Table.Grouped, Settings.toTable, Entries.find?, Value.isTable]

section Layers

variable {table overrides : Table}

/-- Merged layers keep their groups. -/
theorem grouped_merged (tableKeyed : Keyed (.table table)) (tableGrouped : table.Grouped)
    (overridesKeyed : Keyed (.table overrides)) (overridesGrouped : overrides.Grouped) :
    Table.Grouped (merged table overrides) := by
  rw [merged_eq_foldl]
  -- The merge goes upwards through three layers, and each step keeps the groups of the two tables.
  exact ((grouped_toTable {}).over tableKeyed.ascending tableGrouped).over
    overridesKeyed.ascending overridesGrouped

/-- A setting that is read from the merged layers is the one that the strongest layer gives. -/
theorem chosen_of_reads_merged {α : Type} {setting : Setting α} {x : α} (steady : setting.Steady)
    (inGroup : setting.group ∈ ["grammar", "output"])
    (default : setting.Reads (Settings.toTable {}) (setting.get {}))
    (tableKeyed : Keyed (.table table)) (tableGrouped : table.Grouped)
    (overridesKeyed : Keyed (.table overrides)) (overridesGrouped : overrides.Grouped)
    (reads : setting.Reads (merged table overrides) x) :
    setting.chosen [overrides, table] = some x := by
  -- The defaults are the base of the other two layers, and they give the setting its default.
  rw [merged_eq_foldl] at reads
  refine Setting.chosen_of_reads steady ?_ ?_ (fun x fallback => fallback.unique default) reads
  · exact List.forall_mem_cons.2 ⟨tableKeyed, List.forall_mem_singleton.2 overridesKeyed⟩
  · exact List.forall_mem_cons.2 ⟨tableGrouped _ inGroup,
      List.forall_mem_singleton.2 (overridesGrouped _ inGroup)⟩

/-- Settings that are read from the merged layers are those that the strongest layers give. -/
theorem chosen_of_ofTable?_merged {settings : Settings} (tableKeyed : Keyed (.table table))
    (tableGrouped : table.Grouped) (overridesKeyed : Keyed (.table overrides))
    (overridesGrouped : overrides.Grouped)
    (decoded : Settings.ofTable? (merged table overrides) = some settings) :
    (∀ name, (Setting.marker name).chosen [overrides, table] =
      some (name.marker settings.grammar)) ∧
      Setting.duplicates.chosen [overrides, table] = some settings.grammar.duplicates ∧
      Setting.format.chosen [overrides, table] = some settings.format := by
  -- The defaults are settings too, so the same lemma reads them from their own table.
  obtain ⟨defaultMarkers, defaultDuplicates, defaultFormat⟩ :=
    Setting.reads_of_ofTable? (grouped_toTable {}) (Settings.ofTable?_toTable {})
  obtain ⟨markers, duplicates, format⟩ := Setting.reads_of_ofTable?
    (grouped_merged tableKeyed tableGrouped overridesKeyed overridesGrouped) decoded
  refine ⟨fun name => ?_, ?_, ?_⟩
  · exact chosen_of_reads_merged (Setting.steady_marker name) List.mem_cons_self
      (defaultMarkers name) tableKeyed tableGrouped overridesKeyed overridesGrouped (markers name)
  · exact chosen_of_reads_merged Setting.steady_duplicates List.mem_cons_self
      defaultDuplicates tableKeyed tableGrouped overridesKeyed overridesGrouped duplicates
  · exact chosen_of_reads_merged Setting.steady_format (by decide)
      defaultFormat tableKeyed tableGrouped overridesKeyed overridesGrouped format

end Layers

/-- The table of a file has each name once, as deep as a path leads. -/
theorem keyed_of_fileTable {file : Option (String × FileContent)} {table : Table}
    (found : fileTable file = .ok table) : Keyed (.table table) := by
  -- Only a file that is read as text gives a table with fields.
  rcases file with _ | ⟨path, failure | _ | content⟩
  · obtain rfl := Except.ok.inj found
    exact Value.keyed_nil
  · simp only [fileTable] at found
    split at found
    · obtain rfl := Except.ok.inj found
      exact Value.keyed_nil
    · cases found
  · cases found
  · simp only [fileTable, parseFile] at found
    split at found
    · cases found
    · split at found
      · next read =>
        obtain rfl := Except.ok.inj found
        -- Reading itself refuses a name that is written twice in one table.
        exact Toml.read?_keyed read
      · cases found

/-- When there are settings, only their markers can be wrong, and that is found at the end. -/
theorem build_eq_error_iff {file : Option (String × FileContent)} {table overrides : Table}
    {settings : Settings} (found : fileTable file = .ok table)
    (decoded : Settings.ofTable? (merged table overrides) = some settings)
    {error : SettingsError} :
    build file overrides = .error error ↔ settings.grammar.error? = some error := by
  rw [build_eq, found, Except.bind, check, decoded]
  -- Decoding has succeeded, so the check is the one of the markers.
  cases faulty : settings.grammar.error? with
  | none => simp [faulty, Except.map]
  | some fault => simp [faulty, Except.map]

/--
Each setting comes from the overrides, or else from the file, or else from the defaults.

A marker is given by any value in its place.
The rule for repeated arguments and the form of output are given by any value but a table without
fields, which leaves what lies below it as it is.
-/
theorem build_by_layers {file : Option (String × FileContent)} {overrides : Table}
    (overridesKeyed : Keyed (.table overrides)) (overridesGrouped : overrides.Grouped)
    (fileGrouped : ∀ table, fileTable file = .ok table → table.Grouped) :
    (∀ active, build file overrides = .ok active →
      (∃ table, fileTable file = .ok table ∧
        (∀ name, (Setting.marker name).chosen [overrides, table] =
          some (name.marker active.settings.grammar)) ∧
        Setting.duplicates.chosen [overrides, table] = some active.settings.grammar.duplicates ∧
        Setting.format.chosen [overrides, table] = some active.settings.format) ∧
      active.settings.grammar.Marked ∧
      active.sources = .builtin :: fileSources file ++ overrideSources overrides) ∧
    ∀ table settings, fileTable file = .ok table →
      Settings.ofTable? (merged table overrides) = some settings →
        ((∃ error, build file overrides = .error error) ↔ ¬ settings.grammar.Marked) ∧
          ∀ error, build file overrides = .error error → error.stage = .validation := by
  refine ⟨fun active built => ?_, fun table settings found decoded => ⟨?_, fun error failed => ?_⟩⟩
  · obtain ⟨table, found, decoded, marked, sources⟩ := build_eq_ok_iff.1 built
    exact ⟨⟨table, found, chosen_of_ofTable?_merged (keyed_of_fileTable found)
      (fileGrouped table found) overridesKeyed overridesGrouped decoded⟩, marked, sources⟩
  · -- A failure is the presence of a wrong marker, and soundness its absence.
    simp only [build_eq_error_iff found decoded, ← Grammar.error?_eq_none_iff]
    exact Option.ne_none_iff_exists'.symm
  · -- Whatever the wrong marker is, it is reported as one of the same stage.
    exact Grammar.stage_of_error?_eq ((build_eq_error_iff found decoded).1 failed)

/-- One marker in a group of its own is keyed and grouped. -/
theorem keyed_and_grouped_marker (name marker : String) :
    Keyed (.table [("grammar", .table [(name, .string marker)])]) ∧
      Table.Grouped [("grammar", .table [(name, .string marker)])] := by
  -- Both hold one field, whose name cannot stand twice.
  constructor
  · refine .table (List.pairwise_singleton _ _) (List.forall_mem_singleton.2 ?_)
    exact .table (List.pairwise_singleton _ _) (List.forall_mem_singleton.2 (.single rfl))
  · simp [Table.Grouped, Entries.find?, Value.isTable]

/-- A file gives the title marker and overrides give the comment marker, which must differ. -/
theorem build_by_layers_two_markers :
    let file := some ("rhythm.toml", FileContent.bytes "grammar.title_marker = '##'".toUTF8.toList)
    let table := [("grammar", Value.table [("title_marker", .string "##")])]
    let overrides := fun marker => [("grammar", Value.table [("comment_marker", .string marker)])]
    build file (overrides "%") = .ok
        ⟨{ grammar := { titleMarker := "##", commentMarker := "%" } },
          .builtin :: fileSources file ++ [.commandLine]⟩ ∧
      (Setting.marker .title).chosen [overrides "%", table] = some "##" ∧
      (Setting.marker .comment).chosen [overrides "%", table] = some "%" ∧
      ∃ error, build file (overrides "##") = .error error := by
  intro file table overrides
  have found : fileTable file = .ok table := by decide +kernel
  have fileGrouped : ∀ other, fileTable file = .ok other → other.Grouped := by
    intro other alsoFound
    obtain rfl := Except.ok.inj (found.symm.trans alsoFound)
    exact (keyed_and_grouped_marker "title_marker" "##").2
  have decoded : ∀ marker, Settings.ofTable? (merged table (overrides marker)) =
      some { grammar := { titleMarker := "##", commentMarker := marker } } := by
    intro marker
    rfl
  have built : build file (overrides "%") = .ok
      ⟨{ grammar := { titleMarker := "##", commentMarker := "%" } },
        .builtin :: fileSources file ++ [.commandLine]⟩ := by
    refine build_eq_ok_iff.2 ⟨table, found, decoded "%", Grammar.error?_eq_none_iff.1 ?_, rfl⟩
    decide
  have layered := fun marker => build_by_layers
    (keyed_and_grouped_marker "comment_marker" marker).1
    (keyed_and_grouped_marker "comment_marker" marker).2 fileGrouped
  -- The file and the overrides decode to one table, which the theorem speaks of.
  obtain ⟨other, alsoFound, markers, _⟩ := ((layered "%").1 _ built).1
  obtain rfl := Except.ok.inj (found.symm.trans alsoFound)
  refine ⟨built, markers .title, markers .comment, ?_⟩
  -- The file alone and the overrides alone are sound, but together they are not.
  refine (((layered "##").2 table _ found (decoded "##")).1).2 fun marked => ?_
  exact marked.distinct .title .comment (by decide) rfl

/-- A table without fields stands in the place of the format and yet leaves it to the file. -/
theorem build_not_by_place :
    ¬ ∀ (file : Option (String × FileContent)) (table overrides : Table) (active : ActiveSettings),
      Keyed (.table overrides) → overrides.Grouped →
      (∀ table, fileTable file = .ok table → table.Grouped) → fileTable file = .ok table →
      build file overrides = .ok active →
      { Setting.format with counts := fun _ => true }.chosen [overrides, table] =
        some active.settings.format := by
  intro always
  -- The file asks for the human form, and the overrides put an empty table in its place.
  have found : fileTable (some ("rhythm.toml", .bytes "[output.format.human]\n".toUTF8.toList)) =
      .ok [("output", .table [("format", .table [("human", .table [])])])] := by decide +kernel
  have decoded : Settings.ofTable? (merged
      [("output", .table [("format", .table [("human", .table [])])])]
      [("output", .table [("format", .table [])])]) = some { format := .human } := by decide +kernel
  have keyed : Keyed (.table [("output", .table [("format", .table [])])]) :=
    .table (by decide) (List.forall_mem_singleton.2
      (.table (by decide) (List.forall_mem_singleton.2 Value.keyed_nil)))
  have grouped : Table.Grouped [("output", .table [("format", .table [])])] := by
    simp [Table.Grouped, Entries.find?, Value.isTable]
  have fileGrouped : Table.Grouped
      [("output", .table [("format", .table [("human", .table [])])])] := by
    simp [Table.Grouped, Entries.find?, Value.isTable]
  have built : build _ _ = .ok ⟨{ format := .human }, _⟩ :=
    build_eq_ok_iff.2 ⟨_, found, decoded, Grammar.marked_default, rfl⟩
  have read := always _ _ _ _ keyed grouped
    (fun other same => Except.ok.inj (found.symm.trans same) ▸ fileGrouped) found built
  -- No format is read from a table without fields.
  cases read

/--
Overrides that are complete settings decide alone, whatever lies below them.

This needs no assumption about the table of the file, which may not be settings at all.
-/
theorem complete_overrides_decide (settings : Settings) :
    (∀ table, Settings.ofTable? (merged table settings.toTable) = some settings) ∧
    Settings.ofTable? settings.toTable = some settings ∧
    ∀ file table, fileTable file = .ok table →
      (build file settings.toTable =
          .ok ⟨settings, .builtin :: fileSources file ++ [.commandLine]⟩ ↔
        settings.grammar.Marked) := by
  -- Reading a merge over complete settings meets only their fields, as each of them is there.
  have decided : ∀ table, Settings.ofTable? (merged table settings.toTable) = some settings := by
    intro table
    rw [merged_eq_foldl]
    exact Settings.ofTable?_over_toTable _ settings
  refine ⟨decided, settings.ofTable?_toTable, fun file table found => ?_⟩
  -- What is left of success is the soundness of the markers.
  rw [build_eq_ok_iff]
  constructor
  · rintro ⟨_, _, _, marked, _⟩
    exact marked
  · intro marked
    exact ⟨table, found, decided table, marked, rfl⟩

/-- Complete overrides are obeyed over a file in which a group is no table. -/
theorem complete_overrides_decide_over_number :
    let settings : Settings :=
      { grammar := { commentMarker := "%", duplicates := .reject }, format := .human }
    let file := some ("rhythm.toml", FileContent.bytes "grammar = 1".toUTF8.toList)
    settings.grammar.Marked ∧ Settings.ofTable? [("grammar", .integer 1)] = none ∧
      build file settings.toTable =
        .ok ⟨settings, .builtin :: fileSources file ++ [.commandLine]⟩ := by
  intro settings file
  -- The group is a number in this file, so the file on its own is not settings.
  have found : fileTable file = .ok [("grammar", .integer 1)] := by decide +kernel
  have marked : settings.grammar.Marked := Grammar.error?_eq_none_iff.1 (by decide)
  exact ⟨marked, rfl, ((complete_overrides_decide settings).2.2 file _ found).2 marked⟩

end ActiveSettings

end OverlaySheet
