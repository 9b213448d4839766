import Mathlib.Data.List.Basic

/-! The last item of a list with a property, which is what a search from behind finds. -/

namespace OverlaySheet

variable {α : Type}

/-- An item has a property, and none of those behind it has. -/
def IsLast (holds : α → Prop) (items : List α) (item : α) : Prop :=
  -- The item stands somewhere in the list, which gives the place to look behind.
  holds item ∧ ∃ before after, items = before ++ item :: after ∧ ∀ later ∈ after, ¬ holds later

/-- A search from behind finds the last item with the property, if there is any. -/
theorem find?_reverse_eq_some_iff {test : α → Bool} {items : List α} {item : α} :
    items.reverse.find? test = some item ↔ IsLast (fun other => test other = true) items item := by
  rw [List.find?_eq_some_iff_append, IsLast]
  -- What the search passes over before it stops is what stands behind the item.
  refine and_congr_right fun _ => ⟨?_, ?_⟩
  · -- From behind, the rest of the list comes in the reversed order.
    rintro ⟨passed, left, split, none⟩
    refine ⟨left.reverse, passed.reverse, ?_, fun later member => ?_⟩
    · simpa using congrArg List.reverse split
    · simpa using none later (List.mem_reverse.1 member)
  · rintro ⟨before, after, rfl, none⟩
    refine ⟨after.reverse, before.reverse, by simp, fun later member => ?_⟩
    simpa using none later (List.mem_reverse.1 member)

/-- Behind other items, one more is the last with a property, or it has not got the property. -/
theorem isLast_concat_iff {holds : α → Prop} {items : List α} {last item : α} :
    IsLast holds (items ++ [last]) item ↔
      holds last ∧ item = last ∨ ¬ holds last ∧ IsLast holds items item := by
  constructor
  · rintro ⟨here, before, after, split, none⟩
    -- The item is the one at the end, or that one stands behind it.
    rcases List.eq_nil_or_concat after with rfl | ⟨middle, final, rfl⟩
    · obtain ⟨rfl, same⟩ := List.append_inj' split rfl
      obtain rfl := List.singleton_inj.1 same
      exact .inl ⟨here, rfl⟩
    · rw [List.concat_eq_append, ← List.cons_append, ← List.append_assoc] at split
      obtain ⟨rfl, same⟩ := List.append_inj' split rfl
      obtain rfl := List.singleton_inj.1 same
      exact .inr ⟨none last (by simp), here, before, middle, rfl,
        fun later member => none later (by simp [member])⟩
  · -- An item that is not the end is the last with the property when the end has not got it.
    rintro (⟨here, rfl⟩ | ⟨notLast, here, before, after, rfl, none⟩)
    · exact ⟨here, items, [], rfl, List.forall_mem_nil _⟩
    · refine ⟨here, before, after ++ [last], by simp, fun later member => ?_⟩
      rcases List.mem_append.1 member with inside | final
      · exact none later inside
      · exact List.mem_singleton.1 final ▸ notLast

/-- An item with a property has one that is the last such, which may be itself. -/
theorem IsLast.exists_of_mem {holds : α → Prop} [DecidablePred holds] {items : List α} {item : α}
    (member : item ∈ items) (here : holds item) : ∃ last, IsLast holds items last := by
  -- A search from behind does not run out of items.
  have found : (items.reverse.find? fun other => decide (holds other)).isSome := by
    rw [List.find?_isSome]
    exact ⟨item, List.mem_reverse.2 member, by simpa using here⟩
  obtain ⟨last, isLast⟩ := Option.isSome_iff_exists.1 found
  exact ⟨last, by simpa using find?_reverse_eq_some_iff.1 isLast⟩

end OverlaySheet
