import Mathlib.Data.List.Induction
import OverlaySheet.Proofs.Last
import OverlaySheet.Proofs.Value.Path
import OverlaySheet.Value.Stack

/-! Tables laid over each other: what stands at each path, and what leaves a table as it is. -/

namespace OverlaySheet

open Entries (find?)

namespace Value

/-- A value over what lies below it, if anything does. -/
def overAny (below : Option Value) (top : Value) : Value :=
  (below.map fun value => value.over top).getD top

/-- A value that is no table hides whatever lies below it. -/
theorem over_of_not_isTable {top : Value} (noTable : top.isTable = false) (below : Value) :
    below.over top = top := by
  -- Only two tables are merged, and here the upper value is none.
  cases top with
  | table fields => cases noTable
  | null | bool | number | string | array => simp [Value.over]

/-- A value that is no table is laid over anything or nothing without a change. -/
theorem overAny_of_not_isTable {top : Value} (noTable : top.isTable = false)
    (below : Option Value) : top.overAny below = top := by
  -- Over nothing any value stays as it is.
  cases below with
  | none => rfl
  | some below => exact over_of_not_isTable noTable below

/-- What lies over anything is a table exactly when it was one before. -/
@[simp] theorem isTable_overAny (top : Value) (below : Option Value) :
    (top.overAny below).isTable = top.isTable := by
  cases tabled : top.isTable with
  | false => rw [overAny_of_not_isTable tabled, tabled]
  | true =>
    obtain ⟨fields, rfl⟩ := isTable_iff.1 tabled
    cases below with
    | none => exact tabled
    | some below =>
      -- A table stays one, whether it is merged or hides what lies below.
      cases below with
      | table base => simp [overAny, Value.over, isTable]
      | null | bool | number | string | array => simp [overAny, Value.over, isTable]

/-- A table hides a value below it that is no table. -/
theorem over_table_of_not_isTable {below : Value} (noTable : below.isTable = false)
    (fields : Table) : below.over (.table fields) = .table fields := by
  -- The lower value is none, so nothing is merged.
  cases below with
  | table base => cases noTable
  | null | bool | number | string | array => simp [Value.over]

end Value

open Value

namespace Table

/-- One field of the upper table is laid over what the lower one has under its name. -/
theorem over_cons (base : Table) (name : String) (value : Value) (rest : Table) :
    Table.over base ((name, value) :: rest) =
      Table.over (Entries.insert name (value.overAny (find? name base)) base) rest := by
  rw [Table.over]
  -- The field is put in as it is, or laid over the one that is there.
  cases find? name base with
  | none => rfl
  | some below => rfl

/-- Under each name the upper value lies over the lower one, which stays where there is none. -/
theorem find?_over (base : Table) {overlay : Table} (ascending : overlay.Ascending)
    (name : String) : find? name (Table.over base overlay) =
      match find? name overlay with
      | none => find? name base
      | some top => some (top.overAny (find? name base)) := by
  -- The fields go into the base one by one, so the base of the induction must vary.
  induction overlay generalizing base with
  | nil => simp [Table.over, find?]
  | cons pair rest ih =>
    obtain ⟨here, value⟩ := pair
    obtain ⟨above, tail⟩ := List.pairwise_cons.1 ascending
    rw [over_cons, ih _ tail, Entries.find?_insert, find?]
    by_cases same : here = name
    · -- The name comes once, so no later field is laid over this one.
      subst same
      rw [Entries.find?_eq_none_of_below above]
      simp
    · simp [same]

/-- A table that is laid over another one leaves nothing only when it has nothing. -/
theorem eq_nil_of_over_eq_nil {base overlay : Table} (ascending : overlay.Ascending)
    (merged : Table.over base overlay = []) : overlay = [] := by
  -- The first field of the upper table would be found in the result.
  cases overlay with
  | nil => rfl
  | cons pair rest =>
    have found := find?_over base ascending pair.1
    simp [merged, find?] at found

/-- A table with fields that leaves one field has one, and it is laid over the one below. -/
theorem exists_of_over_eq_singleton {base overlay : Table} {name : String} {value : Value}
    (ascending : overlay.Ascending) (nonempty : overlay ≠ [])
    (merged : Table.over base overlay = [(name, value)]) :
    ∃ inner, overlay = [(name, inner)] ∧ inner.overAny (find? name base) = value := by
  -- Each field of the upper table is found in the merged one, so it has the only name there.
  have named : ∀ pair ∈ overlay, pair.1 = name := by
    intro pair member
    obtain ⟨entry, found⟩ := Entries.mem_names_iff.1 (List.mem_map_of_mem (f := Prod.fst) member)
    have there := find?_over base ascending pair.1
    rw [merged, found, find?] at there
    split at there
    · next same => exact same.symm
    · cases there
  obtain ⟨⟨here, inner⟩, rest, rfl⟩ := List.exists_cons_of_ne_nil nonempty
  obtain ⟨first, others⟩ := List.forall_mem_cons.1 named
  obtain ⟨above, _⟩ := List.pairwise_cons.1 ascending
  simp only at first
  subst first
  cases rest with
  | nil =>
    refine ⟨inner, rfl, ?_⟩
    have there := find?_over base ascending here
    simpa [merged, find?, eq_comm] using there
  | cons next rest =>
    -- A second field would come behind the first under the same name.
    have later := above next List.mem_cons_self
    rw [others next List.mem_cons_self] at later
    exact absurd later (String.lt_irrefl _)

/-- Names stay in ascending order when a table is laid over them. -/
theorem ascending_over {base : Table} (ascending : base.Ascending) (overlay : Table) :
    Entries.Ascending (Table.over base overlay) := by
  -- Each field is put in at its place, so the order is kept field by field.
  induction overlay generalizing base with
  | nil => simpa [Table.over] using ascending
  | cons pair rest ih =>
    rw [over_cons]
    exact ih (ascending.insert pair.1 _)

end Table

namespace Value

/-- Where the upper value says nothing, the lower one is what a path leads through. -/
theorem follow?_over_of_leavesOpen {below top : Value} {path : List String} (keyed : top.Keyed)
    (leavesOpen : top.LeavesOpen path) : (below.over top).follow? path = below.follow? path := by
  induction path generalizing below top with
  | nil => exact absurd leavesOpen (not_leavesOpen_nil top)
  | cons name path ih =>
    obtain ⟨fields, rfl⟩ := leavesOpen.exists_table
    have inside := leavesOpen_table_iff.1 leavesOpen
    cases tabled : below.isTable with
    | false =>
      -- Neither of the two has anything there.
      rw [over_table_of_not_isTable tabled, leavesOpen.absent]
      cases below with
      | table base => cases tabled
      | null | bool | number | string | array => rfl
    | true =>
      obtain ⟨base, rfl⟩ := isTable_iff.1 tabled
      rw [Value.over, follow?, follow?, Table.find?_over _ keyed.ascending]
      cases found : find? name fields with
      | none => rfl
      | some inner =>
        -- The inner value says nothing of the rest of the path.
        have innerOpen := inside inner found
        cases foundBelow : find? name base with
        | none => simpa [overAny] using innerOpen.absent
        | some lower => simpa [overAny] using ih (keyed.of_find? found) innerOpen

/-- Where the upper value has something, it lies there over what the lower one has at the path. -/
theorem follow?_over_of_follow? (below : Value) {top found : Value} {path : List String}
    (keyed : top.Keyed) (reached : top.follow? path = some found) :
    (below.over top).follow? path = some (found.overAny (below.follow? path)) := by
  induction path generalizing below top with
  | nil =>
    obtain rfl := Option.some.inj reached
    rfl
  -- A path that goes on meets a table in the upper value, and a table or a hiding place below.
  | cons name path ih =>
    cases tabled : top.isTable with
    | false =>
      -- A path goes on through tables alone.
      cases top with
      | table fields => cases tabled
      | null | bool | number | string | array => cases reached
    | true =>
      obtain ⟨fields, rfl⟩ := isTable_iff.1 tabled
      obtain ⟨inner, here, further⟩ := Option.bind_eq_some_iff.1 reached
      cases tabledBelow : below.isTable with
      | false =>
        -- What lies below is hidden, and no path goes on from it.
        rw [over_table_of_not_isTable tabledBelow, reached]
        cases below with
        | table base => cases tabledBelow
        | null | bool | number | string | array => rfl
      | true =>
        obtain ⟨base, rfl⟩ := isTable_iff.1 tabledBelow
        rw [Value.over, follow?, Table.find?_over _ keyed.ascending, here, follow?]
        cases find? name base with
        | none => exact further
        | some lower => exact ih lower (keyed.of_find? here) further

/-- What stands at a path, where tables are not told from each other. -/
def face (value : Value) : Value :=
  if value.isTable then .table [] else value

/-- All tables have one face. -/
theorem face_of_isTable {value : Value} (tabled : value.isTable = true) :
    value.face = .table [] := by
  rw [face, if_pos tabled]

/-- A value that is no table is its own face. -/
theorem face_of_not_isTable {value : Value} (noTable : value.isTable = false) :
    value.face = value := by
  -- A face differs from its value for tables alone.
  rw [face, noTable]
  rfl

/-- What lies below a value does not change its face. -/
@[simp] theorem face_overAny (top : Value) (below : Option Value) :
    (top.overAny below).face = top.face := by
  -- Whether the value is a table does not change, and then neither does its face.
  cases tabled : top.isTable with
  | false => rw [overAny_of_not_isTable tabled]
  | true => rw [face_of_isTable tabled, face_of_isTable ((isTable_overAny top below).trans tabled)]

/-- Where the upper value says something, it decides what stands at a path. -/
theorem face_follow?_over {below top : Value} {path : List String} (keyed : top.Keyed)
    (decides : ¬ top.LeavesOpen path) :
    ((below.over top).follow? path).map face = (top.follow? path).map face := by
  cases reached : top.follow? path with
  | some found =>
    rw [follow?_over_of_follow? below keyed reached]
    exact congrArg some (face_overAny found _)
  | none =>
    -- A value that is no table stands in the way, and it hides whatever is below.
    obtain ⟨front, back, rfl, more, found, before, noTable⟩ := exists_blocked reached decides
    rw [follow?_append, follow?_over_of_follow? below keyed before]
    simp [overAny_of_not_isTable noTable, follow?_of_not_isTable noTable more]

/-- A keyed value laid over itself is what it was. -/
theorem Keyed.over_self {value : Value} (keyed : value.Keyed) : value.over value = value := by
  induction keyed with
  | single noTable => exact over_of_not_isTable noTable _
  | @table fields ascending inner ih =>
    rw [Value.over]
    refine congrArg Value.table
      ((Table.ascending_over ascending fields).ext ascending fun name => ?_)
    -- Under each name the same value comes twice.
    rw [Table.find?_over _ ascending]
    cases found : find? name fields with
    | none => rfl
    | some value => exact congrArg some (ih _ (Entries.mem_of_find? found))

end Value

namespace Table

/-- A keyed table laid over nothing is what it was. -/
theorem nil_over {overlay : Table} (keyed : Keyed (.table overlay)) :
    Table.over [] overlay = overlay := by
  -- Both tables ascend, so they are the same when they have the same under each name.
  refine (ascending_over List.Pairwise.nil overlay).ext keyed.ascending fun name => ?_
  rw [find?_over [] keyed.ascending]
  cases find? name overlay with
  | none => rfl
  | some value => rfl

/-- One more layer is laid over all that were there before. -/
@[simp] theorem stack_concat (layers : List Table) (top : Table) :
    stack (layers ++ [top]) = Table.over (stack layers) top :=
  List.foldl_concat ..

/-- A table has a value that is no table at the end of a path. -/
def HasLeaf (table : Table) (path : List String) (value : Value) : Prop :=
  value.isTable = false ∧ (Value.table table).follow? path = some value

/-- A table has a table at the end of a path. -/
def HasTable (table : Table) (path : List String) : Prop :=
  ∃ fields, (Value.table table).follow? path = some (.table fields)

/-- A table has nothing at a path, and on the way there it has no value that is no table. -/
def LeavesOpen (table : Table) (path : List String) : Prop :=
  Value.LeavesOpen path (.table table)

variable {base overlay : Table} {path : List String} {value : Value}

/-- A value that is no table is what stands at its path. -/
theorem hasLeaf_iff_face : HasLeaf base path value ↔
    value.isTable = false ∧ ((Value.table base).follow? path).map face = some value := by
  refine and_congr_right fun noTable => ?_
  rw [Option.map_eq_some_iff]
  -- A value that is its own face can be read off the face again.
  constructor
  · intro found
    exact ⟨value, found, face_of_not_isTable noTable⟩
  · rintro ⟨found, reached, same⟩
    cases tabled : found.isTable with
    | false => rwa [← same, face_of_not_isTable tabled]
    | true =>
      -- The face of a table is a table, which the value is not.
      rw [face_of_isTable tabled] at same
      subst same
      cases noTable

/-- Every table at a path is a table that stands there. -/
theorem hasTable_iff_face : HasTable base path ↔
    ((Value.table base).follow? path).map face = some (.table []) := by
  rw [Option.map_eq_some_iff]
  constructor
  · -- A face without fields is the one of every table, whatever its fields are.
    rintro ⟨fields, reached⟩
    exact ⟨.table fields, reached, face_of_isTable rfl⟩
  · rintro ⟨found, reached, same⟩
    cases tabled : found.isTable with
    | true =>
      obtain ⟨fields, rfl⟩ := isTable_iff.1 tabled
      exact ⟨fields, reached⟩
    | false =>
      -- Any other value is its own face.
      rw [face_of_not_isTable tabled] at same
      subst same
      cases tabled

/-- A table that says nothing about a path has no leaf there. -/
theorem HasLeaf.not_leavesOpen (leaf : HasLeaf base path value) : ¬ LeavesOpen base path :=
  fun leavesOpen => nomatch leaf.2.symm.trans leavesOpen.absent

/-- A table that says nothing about a path has no table there. -/
theorem HasTable.not_leavesOpen (tabled : HasTable base path) : ¬ LeavesOpen base path := by
  -- Being open means that nothing is at the path.
  obtain ⟨fields, found⟩ := tabled
  exact fun leavesOpen => nomatch found.symm.trans leavesOpen.absent

/-- What a path leads to is not changed by a table that says nothing about it. -/
theorem follow?_over_of_leavesOpen (keyed : Keyed (.table overlay))
    (leavesOpen : LeavesOpen overlay path) :
    (Value.table (Table.over base overlay)).follow? path = (Value.table base).follow? path := by
  rw [← Value.over]
  exact Value.follow?_over_of_leavesOpen keyed leavesOpen

/-- What stands at a path is decided by a table that says something about it. -/
theorem face_follow?_over (keyed : Keyed (.table overlay))
    (decides : ¬ LeavesOpen overlay path) :
    ((Value.table (Table.over base overlay)).follow? path).map face =
      ((Value.table overlay).follow? path).map face := by
  rw [← Value.over]
  exact Value.face_follow?_over keyed decides

/-- A leaf of the merged table is one of the upper table, or one that the upper table left open. -/
theorem hasLeaf_over_iff (keyed : Keyed (.table overlay)) :
    HasLeaf (Table.over base overlay) path value ↔
      HasLeaf overlay path value ∨ HasLeaf base path value ∧ LeavesOpen overlay path := by
  -- Either the upper table decides the path or it leaves it open, and then one side falls away.
  by_cases leavesOpen : LeavesOpen overlay path
  · have noLeaf : ¬ HasLeaf overlay path value := fun leaf => leaf.not_leavesOpen leavesOpen
    simp only [noLeaf, leavesOpen, and_true, false_or]
    rw [HasLeaf, follow?_over_of_leavesOpen keyed leavesOpen, HasLeaf]
  · simp only [leavesOpen, and_false, or_false]
    rw [hasLeaf_iff_face, hasLeaf_iff_face, face_follow?_over keyed leavesOpen]

/-- A table in the merged table is in the upper table, or the upper table left it open. -/
theorem hasTable_over_iff (keyed : Keyed (.table overlay)) :
    HasTable (Table.over base overlay) path ↔
      HasTable overlay path ∨ HasTable base path ∧ LeavesOpen overlay path := by
  -- As for leaves, one side falls away in each of the two cases.
  by_cases leavesOpen : LeavesOpen overlay path
  · have noTable : ¬ HasTable overlay path := fun tabled => tabled.not_leavesOpen leavesOpen
    simp only [noTable, leavesOpen, and_true, false_or]
    rw [HasTable, follow?_over_of_leavesOpen keyed leavesOpen, HasTable]
  · simp only [leavesOpen, and_false, or_false]
    rw [hasTable_iff_face, hasTable_iff_face, face_follow?_over keyed leavesOpen]

/--
What holds at a path of a stack is settled by its last layer that says something about the path.

The property must be kept from below where the upper table says nothing, and come from it else.
-/
theorem stack_iff (holds : Table → Prop) {layers : List Table}
    (keyed : ∀ layer ∈ layers, Keyed (.table layer)) (nothing : ¬ holds [])
    (decides : ∀ table, holds table → ¬ LeavesOpen table path)
    (step : ∀ base top, Keyed (.table top) →
      (holds (Table.over base top) ↔ holds top ∨ holds base ∧ LeavesOpen top path)) :
    holds (stack layers) ↔
      ∃ top, IsLast (fun layer => ¬ LeavesOpen layer path) layers top ∧ holds top := by
  -- A stack grows at its top, so the induction ends with the last layer.
  induction layers using List.reverseRecOn with
  | nil =>
    -- Without a layer there is nothing at all.
    refine iff_of_false nothing ?_
    rintro ⟨top, ⟨_, before, after, none, _⟩, _⟩
    simp at none
  | append_singleton layers top ih =>
    obtain ⟨others, topKeyed⟩ := List.forall_mem_append.1 keyed
    rw [stack_concat, step _ _ (topKeyed top (List.mem_singleton_self top)), ih others]
    simp only [isLast_concat_iff, not_not]
    constructor
    · rintro (here | ⟨⟨lower, isLast, there⟩, leavesOpen⟩)
      · exact ⟨top, .inl ⟨decides top here, rfl⟩, here⟩
      · exact ⟨lower, .inr ⟨leavesOpen, isLast⟩, there⟩
    · rintro ⟨lower, ⟨_, rfl⟩ | ⟨leavesOpen, isLast⟩, there⟩
      · exact .inl there
      · exact .inr ⟨⟨lower, isLast, there⟩, leavesOpen⟩

/--
Tables are merged path by path.

At each path stands what the upper table has there, be it a table or another value.
Where the upper table has nothing at a path, and no value on the way that is no table, the lower
one's stays.
So a table laid over itself or over nothing is what it was, as it is under nothing, and of several
layers the last one that says something about a path decides what stands there.
-/
theorem over_and_stack_at_path {layers : List Table} (baseKeyed : Keyed (.table base))
    (overlayKeyed : Keyed (.table overlay)) (layersKeyed : ∀ layer ∈ layers, Keyed (.table layer)) :
    (∀ path,
      (∀ value, HasLeaf (Table.over base overlay) path value ↔
        HasLeaf overlay path value ∨ HasLeaf base path value ∧ LeavesOpen overlay path) ∧
      (HasTable (Table.over base overlay) path ↔
        HasTable overlay path ∨ HasTable base path ∧ LeavesOpen overlay path)) ∧
    (Table.over base base = base ∧ Table.over base [] = base ∧ Table.over [] base = base) ∧
    stack (layers ++ [overlay]) = Table.over (stack layers) overlay ∧
    ∀ path, path ≠ [] →
      (∀ value, HasLeaf (stack layers) path value ↔
        ∃ top, IsLast (fun layer => ¬ LeavesOpen layer path) layers top ∧
          HasLeaf top path value) ∧
      (HasTable (stack layers) path ↔
        ∃ top, IsLast (fun layer => ¬ LeavesOpen layer path) layers top ∧ HasTable top path) := by
  refine ⟨fun path => ⟨fun value => hasLeaf_over_iff overlayKeyed, hasTable_over_iff overlayKeyed⟩,
    ⟨?_, by rw [Table.over], nil_over baseKeyed⟩, stack_concat layers overlay, fun path more => ?_⟩
  · -- Laid over itself, a value stays, and so do the fields of a table.
    have same := baseKeyed.over_self
    rw [Value.over] at same
    exact Value.table.inj same
  · -- Without a layer, a path that goes on leads to nothing.
    have nothing : (Value.table []).follow? path = none := by
      obtain ⟨name, rest, rfl⟩ := List.exists_cons_of_ne_nil more
      rfl
    refine ⟨fun value => ?_, ?_⟩
    · exact stack_iff (fun table => HasLeaf table path value) layersKeyed
        (fun leaf => nomatch nothing.symm.trans leaf.2) (fun table leaf => leaf.not_leavesOpen)
        fun base top topKeyed => hasLeaf_over_iff topKeyed
    · refine stack_iff (fun table => HasTable table path) layersKeyed ?_
        (fun table tabled => tabled.not_leavesOpen)
        fun base top topKeyed => hasTable_over_iff topKeyed
      rintro ⟨fields, found⟩
      exact nomatch nothing.symm.trans found

/-- Of two tables under one name, each field of the lower one that the upper one lacks stays. -/
theorem over_and_stack_at_path_one_inside :
    Keyed (.table [("a", .table [("x", .integer 1), ("y", .integer 2)])]) ∧
      Keyed (.table [("a", .table [("x", .table [])])]) ∧
      HasLeaf (Table.over [("a", .table [("x", .integer 1), ("y", .integer 2)])]
        [("a", .table [("x", .table [])])]) ["a", "y"] (.integer 2) ∧
      HasTable (stack [[("a", .table [("x", .integer 1), ("y", .integer 2)])],
        [("a", .table [("x", .table [])])]]) ["a", "x"] := by
  have lowerKeyed : Keyed (.table [("a", .table [("x", .integer 1), ("y", .integer 2)])]) := by
    refine .table (by decide) (List.forall_mem_singleton.2 (.table (by decide) ?_))
    exact List.forall_mem_cons.2 ⟨.single rfl, List.forall_mem_singleton.2 (.single rfl)⟩
  have upperKeyed : Keyed (.table [("a", .table [("x", .table [])])]) :=
    .table (by decide) (List.forall_mem_singleton.2
      (.table (by decide) (List.forall_mem_singleton.2 keyed_nil)))
  have bothKeyed : ∀ layer ∈ [[("a", .table [("x", .integer 1), ("y", .integer 2)])],
      [("a", .table [("x", .table [])])]], Keyed (.table layer) := by
    intro layer member
    rcases List.mem_pair.1 member with rfl | rfl
    · exact lowerKeyed
    · exact upperKeyed
  obtain ⟨atPath, _, _, stacked⟩ := over_and_stack_at_path lowerKeyed upperKeyed bothKeyed
  -- The upper table is the last layer to decide the one path, and it is silent on the other.
  have silent : LeavesOpen [("a", .table [("x", .table [])])] ["a", "y"] := by
    refine leavesOpen_table_iff.2 fun inner found => ?_
    obtain rfl := Option.some.inj found
    exact leavesOpen_table_iff.2 fun inner found => nomatch found
  have here : HasTable [("a", .table [("x", .table [])])] ["a", "x"] := ⟨[], rfl⟩
  refine ⟨lowerKeyed, upperKeyed, ((atPath _).1 _).2 (.inr ⟨⟨rfl, rfl⟩, silent⟩),
    (stacked _ (by simp)).2.2 ⟨_, ⟨here.not_leavesOpen, [_], [], rfl, by simp⟩, here⟩⟩

end Table

end OverlaySheet
