import Mathlib.Data.List.Induction
import OverlaySheet.Proofs.Value.Stack
import OverlaySheet.Settings.Active

/-! Layers of settings: each setting comes from the strongest layer that gives it. -/

namespace OverlaySheet

open Entries (find?)
open Value (Keyed isTable_iff)

/-- Whether a value is more than a table without fields. -/
def Value.isFilled : Value → Bool
  | .table [] => false
  | _ => true

/-- One setting: where it stands in a table of settings, and how it is read from what is there. -/
structure Setting (α : Type) where
  group : String
  name : String
  /-- Which values count as given; what does not count leaves the setting to weaker layers. -/
  counts : Value → Bool
  read : Value → Option α
  get : Settings → α

namespace Setting

/-- A marker, which any value gives that stands in its place. -/
def marker (name : MarkerName) : Setting String where
  group := "grammar"
  name := match name with
    | .declaration => "variable_marker"
    | .title => "title_marker"
    | .comment => "comment_marker"
  counts _ := true
  read := Settings.string?
  get settings := name.marker settings.grammar

/-- The rule for repeated arguments, which a table without fields does not give. -/
def duplicates : Setting DuplicateRule where
  group := "grammar"
  name := "duplicate_arguments"
  counts := Value.isFilled
  read := Settings.word? DuplicateRule.all DuplicateRule.name
  get settings := settings.grammar.duplicates

/-- The form of output, which a table without fields does not give. -/
def format : Setting OutputFormat where
  group := "output"
  name := "format"
  counts := Value.isFilled
  read := Settings.word? OutputFormat.all OutputFormat.name
  get settings := settings.format

variable {α : Type}

/-- What a table has in the place of a setting. -/
def at? (setting : Setting α) (table : Table) : Option Value :=
  (Value.table table).follow? [setting.group, setting.name]

/-- The setting as the first of some tables gives it that does, or else its default. -/
def chosen (setting : Setting α) (tables : List Table) : Option α :=
  match tables.findSome? fun table => (setting.at? table).filter setting.counts with
  | some value => setting.read value
  | none => some (setting.get {})

/-- A setting is read from a table, or it has its default where the table has nothing for it. -/
def Reads (setting : Setting α) (table : Table) (x : α) : Prop :=
  match setting.at? table with
  | some value => setting.read value = some x
  | none => x = setting.get {}

/--
A value that counts decides alone what is read, whatever lies below it.

From one that does not count nothing is read but what lies below.
-/
def Steady (setting : Setting α) : Prop :=
  ∀ (top : Value) (below : Option Value) (x : α), top.Keyed →
    setting.read (top.overAny below) = some x →
      (setting.counts top = true ∧ setting.read top = some x) ∨
        (setting.counts top = false ∧ ∃ lower, below = some lower ∧ setting.read lower = some x)

end Setting

/-- Both groups of settings are tables where a table has them. -/
def Table.Grouped (table : Table) : Prop :=
  ∀ group ∈ ["grammar", "output"], ∀ value, find? group table = some value → value.isTable = true

/-- Tables with groups have groups when one lies over the other. -/
theorem Table.Grouped.over {base top : Table} (baseGrouped : base.Grouped)
    (ascending : top.Ascending) (topGrouped : top.Grouped) :
    Table.Grouped (Table.over base top) := by
  intro group member value found
  -- What the result holds under a name is decided by what the upper table holds there.
  rw [Table.find?_over base ascending] at found
  split at found
  · exact baseGrouped group member value found
  · next upper there =>
    obtain rfl := Option.some.inj found
    rw [Value.isTable_overAny]
    exact topGrouped group member upper there

namespace Setting

/-- A setting is read from a table as one value at most. -/
theorem Reads.unique {α : Type} {setting : Setting α} {table : Table} {x y : α}
    (first : setting.Reads table x) (second : setting.Reads table y) : x = y := by
  -- The place is the same for both readings, so they start from the same value, or from none.
  cases there : setting.at? table with
  | none =>
    simp only [Reads, there] at first second
    exact first.trans second.symm
  | some value =>
    simp only [Reads, there] at first second
    exact Option.some.inj (first.symm.trans second)

section Layers

variable {α : Type} {setting : Setting α} {base top : Table} {x : α}

/-- Where a table with groups has nothing for a setting, it says nothing about its place. -/
theorem leavesOpen_of_at? (grouped : ∀ value, find? setting.group top = some value →
    value.isTable = true) (absent : setting.at? top = none) :
    Table.LeavesOpen top [setting.group, setting.name] := by
  refine Value.leavesOpen_table_iff.2 fun inner found => ?_
  obtain ⟨fields, rfl⟩ := isTable_iff.1 (grouped inner found)
  refine Value.leavesOpen_table_iff.2 fun value there => ?_
  -- A value under both names would be what the table has for the setting.
  simp [at?, Value.follow?, found, there] at absent

/-- What is read from two layers comes from the upper one if that counts, else from the lower. -/
theorem reads_over (steady : setting.Steady) (keyed : Keyed (.table top))
    (grouped : ∀ value, find? setting.group top = some value → value.isTable = true)
    (reads : setting.Reads (Table.over base top) x) :
    (∃ value, (setting.at? top).filter setting.counts = some value ∧
      setting.read value = some x) ∨
    ((setting.at? top).filter setting.counts = none ∧ setting.Reads base x) := by
  -- The upper layer says nothing about the place of the setting, or its value is merged there.
  cases given : setting.at? top with
  | none =>
    have same : setting.at? (Table.over base top) = setting.at? base :=
      Table.follow?_over_of_leavesOpen keyed (leavesOpen_of_at? grouped given)
    exact .inr ⟨rfl, by simpa [Reads, same] using reads⟩
  | some value =>
    have merged : setting.at? (Table.over base top) = some (value.overAny (setting.at? base)) := by
      have there := Value.follow?_over_of_follow? (.table base) keyed given
      rwa [Value.over] at there
    rw [Reads, merged] at reads
    rcases steady value _ x (keyed.of_follow? given) reads with
      ⟨counts, read⟩ | ⟨skips, lower, below, read⟩
    · exact .inl ⟨value, by simp [counts], read⟩
    · exact .inr ⟨by simp [skips], by simpa [Reads, below] using read⟩

/-- What is read from layers over the defaults is what the strongest of them gives. -/
theorem chosen_of_reads (steady : setting.Steady) {layers : List Table}
    (keyed : ∀ layer ∈ layers, Keyed (.table layer))
    (grouped : ∀ layer ∈ layers, ∀ value, find? setting.group layer = some value →
      value.isTable = true)
    (fallback : ∀ x, setting.Reads base x → x = setting.get {})
    (reads : setting.Reads (layers.foldl Table.over base) x) :
    setting.chosen layers.reverse = some x := by
  -- The induction takes layers from the top, where a value hides those of the layers below.
  induction layers using List.reverseRecOn generalizing x with
  | nil => exact congrArg some (fallback x reads).symm
  | append_singleton layers top ih =>
    obtain ⟨keyedOthers, keyedTop⟩ := List.forall_mem_append.1 keyed
    obtain ⟨groupedOthers, groupedTop⟩ := List.forall_mem_append.1 grouped
    have member := List.mem_singleton_self top
    rw [List.foldl_concat] at reads
    rw [chosen, List.reverse_concat, List.findSome?_cons]
    -- The layer on top is asked first.
    rcases reads_over steady (keyedTop top member) (groupedTop top member) reads with
      ⟨value, given, read⟩ | ⟨absent, further⟩
    · rw [given]
      exact read
    · rw [absent]
      exact ih keyedOthers groupedOthers further

end Layers

/-- A marker is read from a string, which hides all that lies below it. -/
theorem steady_marker (name : MarkerName) : (marker name).Steady := by
  intro top below text _ read
  refine .inl ⟨rfl, ?_⟩
  cases tabled : top.isTable with
  | false => rwa [Value.overAny_of_not_isTable tabled] at read
  | true =>
    -- A table over anything is a table, and no string is read from it.
    obtain ⟨fields, same⟩ := isTable_iff.1 ((Value.isTable_overAny top below).trans tabled)
    rw [same] at read
    cases read

/-- A word is read from a table when nothing is what the table holds under that word. -/
theorem word?_table_eq_some_iff {α : Type} {choices : List α} {name : α → String} {fields : Table}
    {x : α} : Settings.word? choices name (.table fields) = some x ↔
      ∃ word value, fields = [(word, value)] ∧ (value = .table [] ∨ value = .array []) ∧
        choices.find? (fun choice => name choice = word) = some x := by
  constructor
  · intro read
    -- Only two shapes of the value under the word count as nothing, each in its own case.
    unfold Settings.word? at read
    split at read
    · next other => cases other
    · next word same =>
      obtain rfl := Value.table.inj same
      exact ⟨word, _, rfl, .inl rfl, read⟩
    · next word same =>
      obtain rfl := Value.table.inj same
      exact ⟨word, _, rfl, .inr rfl, read⟩
    · cases read
  · rintro ⟨word, value, rfl, rfl | rfl, found⟩
    · exact found
    · exact found

/-- What is nothing over anything was nothing before. -/
theorem nothing_of_overAny {top : Value} {below : Option Value} (keyed : top.Keyed)
    (nothing : top.overAny below = .table [] ∨ top.overAny below = .array []) :
    top = .table [] ∨ top = .array [] := by
  -- Only a table changes when it is laid over something.
  cases tabled : top.isTable with
  | false => rwa [Value.overAny_of_not_isTable tabled] at nothing
  | true =>
    obtain ⟨fields, rfl⟩ := isTable_iff.1 tabled
    have stillTable := (Value.isTable_overAny (.table fields) below).trans tabled
    rcases nothing with empty | list
    · -- Laid over a table or alone, fields would not be lost.
      refine .inl (congrArg Value.table ?_)
      cases below with
      | none => exact Value.table.inj empty
      | some below =>
        cases below with
        | table base =>
          have merged : Table.over base fields = [] := by
            simpa [Value.overAny, Value.over] using empty
          exact Table.eq_nil_of_over_eq_nil keyed.ascending merged
        | null | bool | number | string | array =>
          simpa [Value.overAny, Value.over] using empty
    · -- A table never turns into a list.
      rw [list] at stillTable
      cases stillTable

/-- A word is read alike from a value with fields and from it over anything. -/
theorem word?_steady {α : Type} {choices : List α} {name : α → String} {top : Value}
    {below : Option Value} {x : α} (keyed : top.Keyed)
    (read : Settings.word? choices name (top.overAny below) = some x) :
    (top.isFilled = true ∧ Settings.word? choices name top = some x) ∨
      (top.isFilled = false ∧
        ∃ lower, below = some lower ∧ Settings.word? choices name lower = some x) := by
  cases tabled : top.isTable with
  -- Anything but a table hides what lies below it, so the word is its own.
  | false =>
    rw [Value.overAny_of_not_isTable tabled] at read
    refine .inl ⟨?_, read⟩
    cases top with
    | table fields => cases tabled
    | null | bool | number | string | array => rfl
  | true =>
    obtain ⟨fields, rfl⟩ := isTable_iff.1 tabled
    cases below with
    | none =>
      -- Without a lower value, the table must be filled for a word to be read from it.
      cases fields with
      | nil => cases read
      | cons pair rest => exact .inl ⟨rfl, read⟩
    | some below =>
      cases tabledBelow : below.isTable with
      | false =>
        -- The lower value is hidden.
        rw [Value.overAny, Option.map_some, Option.getD_some,
          Value.over_table_of_not_isTable tabledBelow] at read
        cases fields with
        | nil => cases read
        | cons pair rest => exact .inl ⟨rfl, read⟩
      | true =>
        obtain ⟨base, rfl⟩ := isTable_iff.1 tabledBelow
        rw [Value.overAny, Option.map_some, Option.getD_some, Value.over] at read
        -- Without fields the upper table adds nothing, so the lower one is read.
        cases fields with
        | nil =>
          rw [Table.over] at read
          exact .inr ⟨rfl, _, rfl, read⟩
        | cons pair rest =>
          -- The merged table has one field, so it is the one of the upper table.
          obtain ⟨word, value, single, nothing, found⟩ := word?_table_eq_some_iff.1 read
          obtain ⟨inner, only, merged⟩ :=
            Table.exists_of_over_eq_singleton keyed.ascending (by simp) single
          obtain ⟨rfl, rfl⟩ := List.cons.inj only
          have here : find? word [(word, inner)] = some inner := by simp [find?]
          subst merged
          exact .inl ⟨rfl, word?_table_eq_some_iff.2
            ⟨word, inner, rfl, nothing_of_overAny (keyed.of_find? here) nothing, found⟩⟩

/-- The rule for repeated arguments is read from its own layer. -/
theorem steady_duplicates : duplicates.Steady :=
  fun _ _ _ keyed read => word?_steady keyed read

/-- The form of output is read from its own layer. -/
theorem steady_format : format.Steady :=
  fun _ _ _ keyed read => word?_steady keyed read

section Decoding

variable {α : Type} {table : Table} {settings : Settings}

/-- A field is read where it is there, and it has its default where it is not. -/
theorem fieldOr_eq_some_iff {read : Value → Option α} {default x : α} {name : String} :
    Settings.fieldOr read default name table = some x ↔
      (∃ value, find? name table = some value ∧ read value = some x) ∨
        (find? name table = none ∧ default = x) := by
  -- The default counts only where the table has no such field.
  rw [Settings.fieldOr]
  cases find? name table with
  | none => simp
  | some value => simp

/-- A setting is read from a table when it is read from its group, or there is no such group. -/
theorem reads_of_group {setting : Setting α} {x : α}
    (grouped : ∀ value, find? setting.group table = some value → value.isTable = true)
    (inside : ∀ fields, find? setting.group table = some (.table fields) →
      Settings.fieldOr setting.read (setting.get {}) setting.name fields = some x)
    (missing : find? setting.group table = none → setting.get {} = x) : setting.Reads table x := by
  -- In a group that is there, the field of the setting is read or has its default.
  cases found : find? setting.group table with
  | none =>
    have absent : setting.at? table = none := by simp [at?, Value.follow?, found]
    simp [Reads, absent, missing found]
  | some group =>
    obtain ⟨fields, rfl⟩ := isTable_iff.1 (grouped group found)
    have same : setting.at? table = find? setting.name fields := by
      simp [at?, Value.follow?, found]
    rcases fieldOr_eq_some_iff.1 (inside fields found) with ⟨value, there, read⟩ | ⟨absent, rfl⟩
    · simp [Reads, same, there, read]
    · simp [Reads, same, absent]

/-- All settings in a table are read from their places. -/
theorem reads_of_ofTable? (grouped : table.Grouped)
    (decoded : Settings.ofTable? table = some settings) :
    (∀ name, (marker name).Reads table (name.marker settings.grammar)) ∧
      duplicates.Reads table settings.grammar.duplicates ∧
      format.Reads table settings.format := by
  -- Decoding goes through the two groups in turn, and the settings are what came of both.
  simp only [Settings.ofTable?, Option.bind_eq_bind, Option.bind_eq_some_iff,
    Option.some.injEq] at decoded
  obtain ⟨grammar, grammarRead, format, formatRead, rfl⟩ := decoded
  have grammarGrouped := grouped "grammar" (by simp)
  have outputGrouped := grouped "output" (by simp)
  -- Without a group, all settings in it have their defaults.
  have noGrammar : find? "grammar" table = none → {} = grammar := by
    intro missing
    rcases fieldOr_eq_some_iff.1 grammarRead with ⟨value, found, _⟩ | ⟨_, same⟩
    · exact nomatch missing.symm.trans found
    · exact same
  have noOutput : find? "output" table = none → OutputFormat.json = format := by
    intro missing
    rcases fieldOr_eq_some_iff.1 formatRead with ⟨value, found, _⟩ | ⟨_, same⟩
    · exact nomatch missing.symm.trans found
    · exact same
  -- In a group, each of its settings is read or has its default.
  have inGrammar : ∀ fields, find? "grammar" table = some (.table fields) →
      (∀ name, Settings.fieldOr Settings.string? (name.marker {}) (marker name).name fields =
        some (name.marker grammar)) ∧
      Settings.fieldOr duplicates.read (duplicates.get {}) duplicates.name fields =
        some grammar.duplicates := by
    intro fields found
    have read : Settings.grammar? (.table fields) = some grammar := by
      simpa [Settings.fieldOr, found] using grammarRead
    simp only [Settings.grammar?, Settings.group?, Option.bind_eq_bind, Option.bind_some,
      Option.bind_eq_some_iff, Option.some.injEq] at read
    obtain ⟨opening, openingRead, title, titleRead, comment, commentRead, rule, ruleRead, rfl⟩ :=
      read
    refine ⟨fun name => ?_, ruleRead⟩
    cases name with
    | declaration => exact openingRead
    | title => exact titleRead
    | comment => exact commentRead
  have inOutput : ∀ fields, find? "output" table = some (.table fields) →
      Settings.fieldOr Setting.format.read .json "format" fields = some format := by
    intro fields found
    have read : Settings.format? (.table fields) = some format := by
      simpa [Settings.fieldOr, found] using formatRead
    exact read
  refine ⟨fun name => ?_, ?_, ?_⟩
  · refine reads_of_group grammarGrouped (fun fields found => (inGrammar fields found).1 name) ?_
    exact fun missing => congrArg (fun grammar => name.marker grammar) (noGrammar missing)
  · refine reads_of_group grammarGrouped (fun fields found => (inGrammar fields found).2) ?_
    exact fun missing => congrArg Grammar.duplicates (noGrammar missing)
  · -- The form of output is the only setting in its group.
    exact reads_of_group outputGrouped inOutput noOutput

end Decoding

end Setting

end OverlaySheet
