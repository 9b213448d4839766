import Mathlib.Data.List.Induction
import OverlaySheet.Layer.Builders
import OverlaySheet.Proofs.Entries
import OverlaySheet.Proofs.Last
import OverlaySheet.Proofs.Text.ByteOrder

/-! Registries after any changes: what they find, replace and build, and how a change is undone. -/

namespace OverlaySheet

namespace Registry

variable {Entry : Type} {registry : Registry Entry} {name : String} {entry : Entry}

/-- Registries that find the same under each name are the same. -/
theorem ext_find? {other : Registry Entry} (same : ∀ name, registry.find? name = other.find? name) :
    registry = other := by
  obtain ⟨entries, ascending⟩ := registry
  obtain ⟨others, ascendingOthers⟩ := other
  -- The order of the names is part of the type, so the entries leave nothing else to differ in.
  obtain rfl : entries = others := ascending.ext ascendingOthers same
  rfl

/-- Behind a registration its entry is found under its name, and else what was found before. -/
@[simp] theorem find?_register (other : String) :
    (registry.register name entry).find? other =
      if name = other then some entry else registry.find? other :=
  Entries.find?_insert name other entry registry.entries

/-- An exchange leaves the registry that a registration leaves. -/
@[simp] theorem exchange_snd : (registry.exchange name entry).2 = registry.register name entry := by
  -- Two registries with the same entries are the same.
  simp only [exchange, register, Registry.mk.injEq]
  exact Entries.exchange_snd name entry registry.entries

/-- An exchange gives what was registered under the name before. -/
@[simp] theorem exchange_fst : (registry.exchange name entry).1 = registry.find? name :=
  -- In ascending order, the place of the insertion is also where the search ends.
  registry.ascending.exchange_fst name entry

/-- A name is registered when something is found under it. -/
theorem mem_names_iff : name ∈ registry.names ↔ ∃ entry, registry.find? name = some entry :=
  Entries.mem_names_iff

/-- A name is given as registered when it is among the names. -/
theorem has_iff : registry.has name = true ↔ name ∈ registry.names := by
  -- Both say that something is found under the name.
  rw [mem_names_iff, has, Option.isSome_iff_exists]

/-- There are as many names as entries. -/
@[simp] theorem size_eq : registry.size = registry.names.length := by
  simp [size, names, Entries.names]

/-- The bytes of each name are below those of all names that come after it. -/
theorem names_pairwise : registry.names.Pairwise fun earlier later =>
    Utf8.encode earlier.toList < Utf8.encode later.toList := by
  -- Names are kept in the order of their characters, which is that of their bytes.
  refine List.Pairwise.map _ (fun earlier later below => ?_) registry.ascending
  exact Utf8.encode_lt_encode (String.lt_iff.1 below)

/-- What an exchange replaced puts the registry back when it is registered again. -/
theorem exchange_exchange {replaced : Entry}
    (outcome : (registry.exchange name entry).1 = some replaced) :
    (registry.exchange name entry).2.exchange name replaced = (some entry, registry) := by
  -- What an exchange gives is what was found, so the second one gives the first entry.
  rw [exchange_fst] at outcome
  refine Prod.ext ?_ (ext_find? fun other => ?_)
  · rw [exchange_fst, exchange_snd, find?_register, if_pos rfl]
  · -- Under its own name the old entry is back, and no other name was touched.
    rw [exchange_snd, exchange_snd, find?_register, find?_register]
    split
    · next same => rw [← same, outcome]
    · rfl

end Registry

/-- One change of a registry. -/
inductive Registration (Entry : Type) where
  /-- An entry is put under a name. -/
  | single (name : String) (entry : Entry)
  /-- Several entries are put under their names, as the built-in builders are. -/
  | group (entries : List (String × Entry))

namespace Registration

variable {Entry : Type}

/-- What is put under which names, in order. -/
def entries : Registration Entry → List (String × Entry)
  | single name entry => [(name, entry)]
  | group entries => entries

/-- The registry after a change. -/
def apply (registry : Registry Entry) : Registration Entry → Registry Entry
  | single name entry => (registry.exchange name entry).2
  | group entries => entries.foldl (fun registry pair => registry.register pair.1 pair.2) registry

/-- The registration of all built-in builders. -/
def standard : Registration (Builder Layer) :=
  group Layer.standard

/-- What some changes put under which names, in order. -/
def allEntries (history : List (Registration Entry)) : List (String × Entry) :=
  history.flatMap entries

end Registration

namespace Registry

open Registration (allEntries)

section History

variable {Entry : Type} {history : List (Registration Entry)} {name : String}

/-- The registry after some changes of the empty one. -/
def ofHistory (history : List (Registration Entry)) : Registry Entry :=
  history.foldl Registration.apply .empty

/-- After changes the registry is what the registrations make that they consist of. -/
theorem ofHistory_eq : ofHistory history =
    (allEntries history).foldl (fun registry pair => registry.register pair.1 pair.2) .empty := by
  -- One fold over the changes and one inside each of them are one fold over all registrations.
  rw [ofHistory, allEntries, List.foldl_flatMap]
  congr 1
  funext registry registration
  -- A single registration is a group of one.
  cases registration with
  | single name entry => exact exchange_snd
  | group entries => rfl

/-- The registry of the built-in types is what their registration makes of the empty one. -/
example : ofHistory [.standard] = Layer.standardRegistry := rfl

/-- What is found after changes is the last of all entries that they put under the name. -/
theorem find?_ofHistory : (ofHistory history).find? name =
    ((allEntries history).reverse.find? fun pair => pair.1 = name).map Prod.snd := by
  rw [ofHistory_eq]
  -- The entry that is registered last decides, or leaves the decision to those before it.
  induction allEntries history using List.reverseRecOn with
  | nil => rfl
  | append_singleton pairs pair ih =>
    rw [List.foldl_concat, find?_register, ih, List.reverse_concat, List.find?_cons]
    by_cases same : pair.1 = name
    · simp [same]
    · simp [same]

/-- An entry is found after changes exactly when it is the last one put under the name. -/
theorem find?_ofHistory_eq_some_iff {entry : Entry} :
    (ofHistory history).find? name = some entry ↔
      IsLast (fun pair => pair.1 = name) (allEntries history) (name, entry) := by
  -- The search from behind gives a pair, of which the entry alone is kept.
  rw [find?_ofHistory, Option.map_eq_some_iff]
  constructor
  · rintro ⟨⟨here, found⟩, last, rfl⟩
    have isLast := find?_reverse_eq_some_iff.1 last
    -- The pair that is found has the name that was looked for.
    obtain rfl : here = name := by simpa using isLast.1
    simpa using isLast
  · intro last
    exact ⟨(name, entry), find?_reverse_eq_some_iff.2 (by simpa using last), rfl⟩

/-- The names after changes are those that any of them put an entry under. -/
theorem mem_names_ofHistory_iff :
    name ∈ (ofHistory history).names ↔ ∃ entry, (name, entry) ∈ allEntries history := by
  rw [mem_names_iff]
  constructor
  · -- An entry that is found was put there by one of the changes.
    rintro ⟨entry, found⟩
    obtain ⟨_, before, after, split, _⟩ := find?_ofHistory_eq_some_iff.1 found
    exact ⟨entry, by rw [split]; simp⟩
  · rintro ⟨entry, member⟩
    -- Of the entries under the name there is a last one.
    have some : ∃ last, IsLast (fun pair => pair.1 = name) (allEntries history) last :=
      IsLast.exists_of_mem member rfl
    obtain ⟨⟨here, last⟩, isLast⟩ := some
    obtain rfl : here = name := isLast.1
    exact ⟨last, find?_ofHistory_eq_some_iff.2 isLast⟩

end History

section Builders

variable {Layer : Type} {registry : Registry (Builder Layer)} {name : String}

/-- A block of a registered type is left to the builder. -/
theorem build_of_find? {builder : Builder Layer} (found : registry.find? name = some builder)
    (block : Block) : registry.build name block = builder block := by
  simp [build, found]

/-- A block of a type that is not registered is refused with the names that are. -/
theorem build_of_not_mem (missing : name ∉ registry.names) (block : Block) :
    registry.build name block = .error (.tagged (.unknownLayerType name registry.names)) := by
  -- A name that is not listed is not found either, which is all that building asks for.
  have notFound : registry.find? name = none := by
    rw [Option.eq_none_iff_forall_ne_some]
    exact fun builder found => missing (mem_names_iff.2 ⟨builder, found⟩)
  simp [build, notFound, unknown]

/--
What a registry does after some changes.

Under each name it has the entry that was registered there last, and it has no other names.
-/
structure Records (history : List (Registration (Builder Layer)))
    (registry : Registry (Builder Layer)) : Prop where
  /-- The names ascend by their bytes, so that none comes twice. -/
  ascending : registry.names.Pairwise fun earlier later =>
    Utf8.encode earlier.toList < Utf8.encode later.toList
  names : ∀ name, name ∈ registry.names ↔ ∃ builder, (name, builder) ∈ allEntries history
  size : registry.size = registry.names.length
  has : ∀ name, registry.has name = true ↔ name ∈ registry.names
  find : ∀ name builder, registry.find? name = some builder ↔
    IsLast (fun pair => pair.1 = name) (allEntries history) (name, builder)
  /-- A further registration gives the builder that was registered last, if the name is not new. -/
  replaces : ∀ name builder replaced, (registry.exchange name builder).1 = some replaced ↔
    IsLast (fun pair => pair.1 = name) (allEntries history) (name, replaced)
  replacesNone : ∀ name builder, (registry.exchange name builder).1 = none ↔
    ∀ earlier, (name, earlier) ∉ allEntries history
  /-- A further registration changes its own name alone. -/
  keeps : ∀ name builder other, other ≠ name →
    (registry.exchange name builder).2.find? other = registry.find? other
  /-- The builder that was replaced brings the registry back. -/
  restores : ∀ name builder replaced, (registry.exchange name builder).1 = some replaced →
    (registry.exchange name builder).2.exchange name replaced = (some builder, registry)
  builds : ∀ name builder block,
    IsLast (fun pair => pair.1 = name) (allEntries history) (name, builder) →
      registry.build name block = builder block
  /-- A type that was never registered is refused with all names that were. -/
  refuses : ∀ name block, (∀ builder, (name, builder) ∉ allEntries history) →
    ∃ fault, registry.build name block = .error (.tagged fault) ∧ fault.kind = .unknownLayerType ∧
      fault.args = [.string name, .strings registry.names] ∧ name ∉ registry.names

/-- After any changes, a registry finds, replaces and builds by what was registered last. -/
theorem records_ofHistory (history : List (Registration (Builder Layer))) :
    (ofHistory history).Records history where
  ascending := names_pairwise
  names _ := mem_names_ofHistory_iff
  size := size_eq
  has _ := has_iff
  find _ _ := find?_ofHistory_eq_some_iff
  replaces name builder replaced := by
    -- An exchange tells what was found before, which is the last entry under the name.
    rw [exchange_fst]
    exact find?_ofHistory_eq_some_iff
  replacesNone name builder := by
    -- Nothing is found before the exchange when no change has used the name.
    rw [exchange_fst, Option.eq_none_iff_forall_ne_some, ← not_exists, ← not_exists,
      ← mem_names_iff, mem_names_ofHistory_iff]
  keeps name builder other different := by
    -- Under another name, the exchange does not change what is found.
    rw [exchange_snd, find?_register, if_neg (Ne.symm different)]
  restores _ _ _ := exchange_exchange
  builds name builder block last := build_of_find? (find?_ofHistory_eq_some_iff.2 last) block
  refuses name block never := by
    -- The name was never used, so it is not among those that the fault lists.
    have missing : name ∉ (ofHistory history).names := by
      rw [mem_names_ofHistory_iff, not_exists]
      exact never
    exact ⟨_, build_of_not_mem missing block, rfl, rfl, missing⟩

end Builders

end Registry

end OverlaySheet
