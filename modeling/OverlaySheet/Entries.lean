/-! Entries under distinct names, kept in ascending order of their names. -/

namespace OverlaySheet

/-- Named entries. -/
abbrev Entries (α : Type) := List (String × α)

namespace Entries

variable {α : Type}

/-- The entry with a name. -/
def find? (name : String) : Entries α → Option α
  | [] => none
  | (here, entry) :: rest => if here = name then some entry else find? name rest

/-- Puts an entry under a name, in place of an earlier one. -/
def insert (name : String) (entry : α) : Entries α → Entries α
  | [] => [(name, entry)]
  | (here, old) :: rest =>
    if name < here then (name, entry) :: (here, old) :: rest
    else if name = here then (name, entry) :: rest
    else (here, old) :: insert name entry rest

/-- Puts an entry under a name, and gives the earlier one that it takes the place of. -/
def exchange (name : String) (entry : α) : Entries α → Option α × Entries α
  | [] => (none, [(name, entry)])
  | (here, old) :: rest =>
    if name < here then (none, (name, entry) :: (here, old) :: rest)
    else if name = here then (some old, (name, entry) :: rest)
    else
      -- The place of the name is further behind.
      let (replaced, others) := exchange name entry rest
      (replaced, (here, old) :: others)

/-- The names in use, in order. -/
def names (entries : Entries α) : List String :=
  entries.map Prod.fst

/-- Entries given in any order, where the last one with a name stays. -/
def ofList (pairs : List (String × α)) : Entries α :=
  pairs.foldl (fun entries pair => insert pair.1 pair.2 entries) []

/-- The same names with every entry changed by a function. -/
def mapEntries {β : Type} (change : α → β) (entries : Entries α) : Entries β :=
  entries.map fun pair => (pair.1, change pair.2)

/-- Every name is below all that come after it, so no name occurs twice. -/
def Ascending (entries : Entries α) : Prop :=
  entries.Pairwise fun earlier later => earlier.1 < later.1

/-- A bound below the new name and below all others stays below every name. -/
theorem below_insert {bound name : String} {entry : α} {entries : Entries α}
    (belowName : bound < name) (belowAll : ∀ pair ∈ entries, bound < pair.1) :
    ∀ pair ∈ insert name entry entries, bound < pair.1 := by
  -- The new name is put in front, in the place of an old one, or further behind.
  fun_induction insert name entry entries with
  | case1 => simpa using belowName
  | case2 here old rest _ =>
    exact List.forall_mem_cons.2 ⟨belowName, belowAll⟩
  | case3 old rest _ =>
    exact List.forall_mem_cons.2 ⟨belowName, (List.forall_mem_cons.1 belowAll).2⟩
  -- Behind a lower name the insertion goes on, and the bound is below what is still to come.
  | case4 here old rest _ _ ih =>
    obtain ⟨belowHere, belowRest⟩ := List.forall_mem_cons.1 belowAll
    exact List.forall_mem_cons.2 ⟨belowHere, ih belowRest⟩

/-- A name that is neither below another one nor equal to it is above it. -/
theorem above_of_not_below {name here : String} (notBelow : ¬ name < here)
    (different : name ≠ here) : here < name := by
  -- The order of strings is total, so one of the two directions holds.
  refine Decidable.byContradiction fun notAbove => different ?_
  exact String.le_antisymm (String.not_lt.1 notAbove) (String.not_lt.1 notBelow)

/-- An insertion keeps the names in ascending order. -/
theorem Ascending.insert {entries : Entries α} (ascending : Ascending entries) (name : String)
    (entry : α) : Ascending (Entries.insert name entry entries) := by
  fun_induction Entries.insert name entry entries with
  | case1 => exact List.pairwise_singleton _ _
  | case2 here old rest before =>
    -- The new name stands in front of all others.
    obtain ⟨above, _⟩ := List.pairwise_cons.1 ascending
    have aboveRest : ∀ pair ∈ rest, name < pair.1 := fun pair member =>
      String.lt_trans before (above pair member)
    exact List.pairwise_cons.2 ⟨List.forall_mem_cons.2 ⟨before, aboveRest⟩, ascending⟩
  | case3 old rest _ =>
    -- The name was there already and stays in its place.
    exact List.pairwise_cons.2 (List.pairwise_cons.1 ascending)
  | case4 here old rest notBelow different ih =>
    -- The name belongs further behind.
    obtain ⟨above, tail⟩ := List.pairwise_cons.1 ascending
    exact List.pairwise_cons.2
      ⟨below_insert (above_of_not_below notBelow different) above, ih tail⟩

/-- A change of the entries alone keeps the names in ascending order. -/
theorem Ascending.mapEntries {β : Type} {entries : Entries α} (ascending : Ascending entries)
    (change : α → β) : Ascending (Entries.mapEntries change entries) :=
  List.Pairwise.map _ (fun _ _ below => below) ascending

/-- What is found after an insertion is the inserted entry under its name, else as before. -/
theorem find?_insert (name other : String) (entry : α) (entries : Entries α) :
    find? other (insert name entry entries) =
      if name = other then some entry else find? other entries := by
  fun_induction insert name entry entries with
  | case1 => rfl
  | case2 => rfl
  | case3 old rest _ =>
    -- The old entry has the same name, so it is found under no other.
    unfold find?
    split <;> rfl
  | case4 here old rest _ different ih =>
    simp only [find?, ih]
    -- The head is not the inserted name, so one of the two tests fails.
    split <;> split <;> simp_all

/-- A name that is below all others is not found. -/
theorem find?_eq_none_of_below {name : String} {entries : Entries α}
    (below : ∀ pair ∈ entries, name < pair.1) : find? name entries = none := by
  induction entries with
  | nil => rfl
  | cons pair rest ih =>
    obtain ⟨here, there⟩ := List.forall_mem_cons.1 below
    -- The name at the head is above the one that is looked for, so it is another one.
    have different : pair.1 ≠ name := fun same => String.lt_irrefl _ (same ▸ here)
    simp [find?, different, ih there]

/-- An exchange leaves the entries that an insertion leaves. -/
@[simp] theorem exchange_snd (name : String) (entry : α) (entries : Entries α) :
    (exchange name entry entries).2 = insert name entry entries := by
  -- Both functions compare the same names in the same order, so one case analysis serves both.
  fun_induction insert name entry entries with
  | case1 => rfl
  | case2 here old rest before => simp [exchange, before]
  | case3 old rest notBelow => simp [exchange]
  | case4 here old rest notBelow different ih => simp [exchange, notBelow, different, ih]

/-- An exchange gives the entry that was found under the name before. -/
theorem Ascending.exchange_fst {entries : Entries α} (ascending : Ascending entries)
    (name : String) (entry : α) : (exchange name entry entries).1 = find? name entries := by
  -- The cases are those of the insertion, as the exchange follows it step by step.
  fun_induction Entries.insert name entry entries with
  | case1 => rfl
  | case2 here old rest before =>
    -- The search stops in front of names that are all above the one that is looked for.
    obtain ⟨above, _⟩ := List.pairwise_cons.1 ascending
    have below : ∀ pair ∈ (here, old) :: rest, name < pair.1 :=
      List.forall_mem_cons.2 ⟨before, fun pair member => String.lt_trans before (above pair member)⟩
    rw [find?_eq_none_of_below below]
    simp [exchange, before]
  | case3 old rest notBelow => simp [exchange, find?]
  -- The head has another name, so both go on behind it.
  | case4 here old rest notBelow different ih =>
    obtain ⟨_, tail⟩ := List.pairwise_cons.1 ascending
    simp [exchange, find?, notBelow, different, Ne.symm different, ih tail]

end Entries

end OverlaySheet
