import OverlaySheet.Layer.Builders
import OverlaySheet.Proofs.Layer.Shadowing
import OverlaySheet.Proofs.Outcome

/-! Refusals of arguments: how a block treats a key, and by which failures readings fail. -/

namespace OverlaySheet

namespace Block

/-- The last argument with a key has a value. -/
def Gives (block : Block) (key value : String) : Prop :=
  -- Earlier arguments with the key do not count.
  IsLast (fun argument => argument.key = key) block.arguments ⟨key, some value⟩

/-- The last argument with a key is a bare flag. -/
def Flags (block : Block) (key : String) : Prop :=
  IsLast (fun argument => argument.key = key) block.arguments ⟨key, none⟩

/-- No argument has a key. -/
def Lacks (block : Block) (key : String) : Prop :=
  ∀ argument ∈ block.arguments, argument.key ≠ key

variable {block : Block} {key : String}

/-- A value is given when the argument that counts has it. -/
theorem gives_iff {value : String} :
    block.Gives key value ↔ block.find? key = some ⟨key, some value⟩ :=
  find?_eq_some_iff.symm

/-- A key is a flag when the argument that counts is one. -/
theorem flags_iff : block.Flags key ↔ block.find? key = some ⟨key, none⟩ :=
  find?_eq_some_iff.symm

/-- A key is not given when no argument counts. -/
theorem lacks_iff : block.Lacks key ↔ block.find? key = none := by
  simp [Lacks, find?]

/-- There are three ways in which a block treats a key. -/
theorem find?_cases (block : Block) (key : String) :
    block.find? key = none ∨ block.find? key = some ⟨key, none⟩ ∨
      ∃ value, block.find? key = some ⟨key, some value⟩ := by
  cases found : block.find? key with
  | none => exact .inl rfl
  | some argument =>
    obtain ⟨own, value⟩ := argument
    -- The argument that is found has the key.
    obtain rfl : own = key := (find?_eq_some_iff.1 found).1
    cases value with
    | none => exact .inr (.inl rfl)
    | some value => exact .inr (.inr ⟨value, rfl⟩)

/-- The value of a key is the one that is given. -/
@[simp] theorem value?_eq_some_iff {value : String} :
    block.value? key = some value ↔ block.Gives key value := by
  rw [gives_iff, value?]
  -- A flag is found for its key, but it has no value to pass on.
  rcases find?_cases block key with lacks | flags | ⟨_, gives⟩
  · simp [lacks]
  · simp [flags]
  · simp [gives]

/-- A key is given when it is not lacking. -/
theorem has_iff : block.has key = true ↔ ¬ block.Lacks key := by
  rw [has, Option.isSome_iff_ne_none, ne_eq, lacks_iff]

/-- What is done for a key that is given is done exactly when it is not lacking. -/
theorem ite_has_eq_iff {α : Type} {reading other outcome : α} :
    (if block.has key then reading else other) = outcome ↔
      block.Lacks key ∧ outcome = other ∨ ¬ block.Lacks key ∧ outcome = reading := by
  -- Without the key the other outcome is taken, and with it the reading.
  by_cases lacks : block.Lacks key
  · rw [if_neg (by simpa [has_iff] using lacks)]
    simp [lacks, @eq_comm _ outcome]
  · rw [if_pos (has_iff.2 lacks)]
    simp [lacks, @eq_comm _ outcome]

/-- A key with a value is given. -/
theorem Gives.not_lacks {value : String} (gives : block.Gives key value) : ¬ block.Lacks key := by
  -- The argument that has the value is found under the key.
  rw [lacks_iff, gives_iff.1 gives]
  exact nofun

/-- A result that is needed is there, or the fault is the one for its absence. -/
@[simp] theorem orFault_eq_ok_iff {α : Type} {result : Option α} {fault : Fault} {x : α} :
    orFault result fault = .ok x ↔ result = some x := by
  cases result <;> simp [orFault]

/-- There is no other fault. -/
theorem eq_of_orFault_eq_error {α : Type} {result : Option α} {fault own : Fault}
    (failed : orFault result fault = .error own) : own = fault := by
  -- With a result there is no fault at all.
  cases result with
  | none => exact (Except.error.inj failed).symm
  | some x => cases failed

end Block

namespace Layer

/-- Failures of one sort: those with which an argument is refused. -/
abbrev Refusal := Failure → Prop

/-- A step fails with the failures of a refusal and with no others. -/
def FailsBy {α : Type} (step : Except Failure α) (refusal : Refusal) : Prop :=
  ∀ failure, step = .error failure ↔ refusal failure

/-- The first of several refusals that has a failure at all has this one. -/
def FirstRefusal (refusals : List Refusal) : Refusal := fun failure =>
  -- What is refused later does not matter, and what comes before must not be refused.
  ∃ before refusal after, refusals = before ++ refusal :: after ∧
    (∀ earlier ∈ before, ∀ other, ¬ earlier other) ∧ refusal failure

/-- The first refusal has the failure, or it has none and a later one has it. -/
theorem firstRefusal_cons {refusal : Refusal} {rest : List Refusal} {failure : Failure} :
    FirstRefusal (refusal :: rest) failure ↔
      refusal failure ∨ (∀ other, ¬ refusal other) ∧ FirstRefusal rest failure := by
  constructor
  · intro first
    obtain ⟨before, own, after, split, unrefused, refused⟩ := first
    -- The refusal that has the failure is the head of the list or stands behind it.
    cases before with
    | nil =>
      obtain ⟨rfl, _⟩ := List.cons.inj split
      exact .inl refused
    | cons earlier before =>
      obtain ⟨rfl, rfl⟩ := List.cons.inj split
      obtain ⟨unrefused, others⟩ := List.forall_mem_cons.1 unrefused
      exact .inr ⟨unrefused, before, own, after, rfl, others, refused⟩
  · intro cases
    -- If it does not come first, then all in front of it have no failure.
    rcases cases with refused | ⟨unrefused, before, own, after, split, others, refused⟩
    · exact ⟨[], refusal, rest, rfl, List.forall_mem_nil _, refused⟩
    · refine ⟨refusal :: before, own, after, by rw [split]; rfl, ?_, refused⟩
      exact List.forall_mem_cons.2 ⟨unrefused, others⟩

/-- To return a value fails by no refusal. -/
theorem failsBy_pure {α : Type} (x : α) :
    FailsBy (pure x : Except Failure α) (FirstRefusal []) := by
  intro failure
  constructor
  · intro failed
    cases failed
  · intro first
    -- Among no refusals there is no first.
    obtain ⟨before, _, _, split, _⟩ := first
    simp at split

/-- Readings in a row fail by the first of their refusals. -/
theorem FailsBy.bind {α β : Type} {step : Except Failure α} {next : α → Except Failure β}
    {refusal : Refusal} {rest : List Refusal} (first : FailsBy step refusal)
    (later : ∀ x, FailsBy (next x) (FirstRefusal rest)) :
    FailsBy (step >>= next) (FirstRefusal (refusal :: rest)) := by
  intro failure
  rw [bind_eq_error_iff, firstRefusal_cons, first failure]
  -- The later steps are reached exactly when the first step is not refused.
  refine or_congr_right ?_
  constructor
  · intro parts
    obtain ⟨x, succeeded, failed⟩ := parts
    refine ⟨fun other refused => ?_, (later x failure).1 failed⟩
    -- A step that succeeds does not fail.
    cases succeeded.symm.trans ((first other).2 refused)
  · intro parts
    obtain ⟨unrefused, failed⟩ := parts
    cases outcome : step with
    | error other => exact absurd ((first other).1 outcome) (unrefused other)
    | ok x => exact ⟨x, rfl, (later x failure).2 failed⟩

/-- Where a key may be left out, a refusal is one for keys that are given. -/
def IfGiven (block : Block) (key : String) (refusal : Refusal) : Refusal := fun failure =>
  ¬ block.Lacks key ∧ refusal failure

section Optional

variable {α Error : Type} {block : Block} {key : String} {default x : α}

/-- A reading for keys that are given has the default as its result without the key. -/
theorem ifGiven_eq_ok_iff {step : Except Error α} :
    (if block.has key then step else .ok default) = .ok x ↔
      block.Lacks key ∧ x = default ∨ ¬ block.Lacks key ∧ step = .ok x := by
  -- A result is an outcome without a fault.
  rw [Block.ite_has_eq_iff, Except.ok.injEq, @eq_comm _ _ step]

/-- Its fault is a failure as that of the reading. -/
theorem tagged_ifGiven {step : Except Fault α} :
    tagged (if block.has key then step else .ok default) =
      if block.has key then tagged step else .ok default := by
  -- The default is no failure, so there is nothing to tag.
  split
  · rfl
  · rfl

/-- It is refused as before, but only when the key is given. -/
theorem FailsBy.ifGiven {step : Except Failure α} {refusal : Refusal}
    (fails : FailsBy step refusal) :
    FailsBy (if block.has key then step else .ok default) (IfGiven block key refusal) := by
  intro failure
  -- Without the key the default is taken, which is no failure.
  rw [IfGiven, ← fails failure, Block.ite_has_eq_iff, @eq_comm _ _ step]
  simp

end Optional

end Layer

end OverlaySheet
