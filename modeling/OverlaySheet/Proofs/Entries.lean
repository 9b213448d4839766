import OverlaySheet.Entries

/-! Named entries: what is found among them, and what tells two of them apart. -/

namespace OverlaySheet

namespace Entries

variable {α : Type}

instance (entries : Entries α) : Decidable entries.Ascending :=
  inferInstanceAs (Decidable (List.Pairwise (fun earlier later => earlier.1 < later.1) entries))

/-- What is found under a name is one of the entries. -/
theorem mem_of_find? {name : String} {entry : α} {entries : Entries α}
    (found : find? name entries = some entry) : (name, entry) ∈ entries := by
  -- The search stops at the first entry with the name, or it goes on behind it.
  induction entries with
  | nil => cases found
  | cons pair rest ih =>
    obtain ⟨here, first⟩ := pair
    rw [find?] at found
    split at found
    · next same =>
      obtain rfl := Option.some.inj found
      exact same ▸ List.mem_cons_self
    · exact List.mem_cons_of_mem _ (ih found)

/-- What is among the entries after an insertion was put there by it or was there before. -/
theorem mem_insert {name : String} {entry : α} {entries : Entries α} {pair : String × α}
    (member : pair ∈ insert name entry entries) : pair = (name, entry) ∨ pair ∈ entries := by
  -- Where the name is put in or replaced, only the head is new; behind a lower name it stays.
  fun_induction insert name entry entries with
  | case1 => exact .inl (List.mem_singleton.1 member)
  | case2 => exact List.mem_cons.1 member
  | case3 old rest _ => exact (List.mem_cons.1 member).imp_right (List.mem_cons_of_mem _)
  | case4 here old rest _ _ ih =>
    rcases List.mem_cons.1 member with rfl | further
    · exact .inr List.mem_cons_self
    · exact (ih further).imp_right (List.mem_cons_of_mem _)

/-- The names in use are those under which something is found. -/
theorem mem_names_iff {name : String} {entries : Entries α} :
    name ∈ names entries ↔ ∃ entry, find? name entries = some entry := by
  -- The search goes through the names in the order in which they stand.
  induction entries with
  | nil => simp [names, find?]
  | cons pair rest ih =>
    obtain ⟨here, first⟩ := pair
    -- The name is the one at the head, or it is looked for among the others.
    by_cases same : here = name
    · simp [names, find?, same]
    · have further : name ∈ names ((here, first) :: rest) ↔ name ∈ names rest := by
        simp [names, Ne.symm same]
      rw [further, ih, find?, if_neg same]

/-- An entry whose name is above all others is put at the end. -/
theorem insert_of_above {name : String} {entry : α} {entries : Entries α}
    (above : ∀ pair ∈ entries, pair.1 < name) :
    insert name entry entries = entries ++ [(name, entry)] := by
  -- No comparison stops the insertion before the end of the list.
  induction entries with
  | nil => rfl
  | cons pair rest ih =>
    obtain ⟨here, others⟩ := List.forall_mem_cons.1 above
    -- A name that is above another one is neither below it nor the same.
    have notBelow : ¬ name < pair.1 := String.lt_asymm here
    have different : name ≠ pair.1 := fun same => String.lt_irrefl _ (same ▸ here)
    rw [insert, if_neg notBelow, if_neg different, ih others]
    rfl

/-- Entries that are given in ascending order stay as they are. -/
theorem Ascending.ofList_eq {entries : Entries α} (ascending : Ascending entries) :
    ofList entries = entries := by
  -- Each entry is above all that were put in place before it.
  have general : ∀ front behind : Entries α, Ascending (front ++ behind) →
      behind.foldl (fun entries pair => Entries.insert pair.1 pair.2 entries) front =
        front ++ behind := by
    intro front behind
    induction behind generalizing front with
    | nil => simp
    | cons pair behind ih =>
      intro inOrder
      have above : ∀ earlier ∈ front, earlier.1 < pair.1 := fun earlier member =>
        (List.pairwise_append.1 inOrder).2.2 earlier member pair List.mem_cons_self
      rw [List.foldl_cons, insert_of_above above, ih _ (by simpa using inOrder)]
      simp
  exact general [] entries ascending

/-- Entries in ascending order are told by what they have under each name. -/
theorem Ascending.ext {left right : Entries α} (ascendingLeft : Ascending left)
    (ascendingRight : Ascending right) (same : ∀ name, find? name left = find? name right) :
    left = right := by
  -- The two lists are compared from the front, where each has its lowest name.
  induction left generalizing right with
  | nil =>
    cases right with
    | nil => rfl
    -- Under the lowest name of the list that has one, the other list has nothing.
    | cons pair rest => simpa [find?] using same pair.1
  | cons pair left ih =>
    obtain ⟨here, first⟩ := pair
    obtain ⟨above, tailLeft⟩ := List.pairwise_cons.1 ascendingLeft
    cases right with
    | nil => simpa [find?] using same here
    | cons pair right =>
      obtain ⟨there, second⟩ := pair
      obtain ⟨aboveOther, tailRight⟩ := List.pairwise_cons.1 ascendingRight
      -- The lower one of two different first names would be missing on the other side.
      have names : here = there := by
        refine Decidable.byContradiction fun different => ?_
        rcases Decidable.em (here < there) with lower | notLower
        · have missing : find? here ((there, second) :: right) = none :=
            find?_eq_none_of_below (List.forall_mem_cons.2 ⟨lower, fun pair member =>
              String.lt_trans lower (aboveOther pair member)⟩)
          rw [← same here] at missing
          simp [find?] at missing
        · have lower : there < here := above_of_not_below notLower different
          have missing : find? there ((here, first) :: left) = none :=
            find?_eq_none_of_below (List.forall_mem_cons.2 ⟨lower, fun pair member =>
              String.lt_trans lower (above pair member)⟩)
          rw [same there] at missing
          simp [find?] at missing
      subst names
      -- With the same first name, what is found under it is the first entry on both sides.
      have entries : first = second := by simpa [find?] using same here
      -- Behind the head neither side has its name again, and under other names they agree.
      have others : ∀ name, find? name left = find? name right := by
        intro name
        by_cases head : here = name
        · rw [← head, find?_eq_none_of_below above, find?_eq_none_of_below aboveOther]
        · simpa [find?, head] using same name
      rw [entries, ih tailLeft tailRight others]

end Entries

end OverlaySheet
