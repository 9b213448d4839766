import OverlaySheet.Block
import OverlaySheet.Entries
import OverlaySheet.Text.Quoted

/-! Registries: which builder makes the layers of a type. -/

namespace OverlaySheet

/-- A builder makes a layer of the arguments of a block, or fails. -/
abbrev Builder (Layer : Type) := Block → Except Failure Layer

/-- What is registered under the names of layer types, in ascending order of the names. -/
structure Registry (Entry : Type) where
  entries : Entries Entry
  ascending : entries.Ascending

namespace Registry

variable {Entry : Type}

/-- The registry that knows no type. -/
def empty : Registry Entry :=
  ⟨[], List.Pairwise.nil⟩

/-- What is registered under a name. -/
def find? (registry : Registry Entry) (name : String) : Option Entry :=
  Entries.find? name registry.entries

/-- Whether something is registered under a name. -/
def has (registry : Registry Entry) (name : String) : Bool :=
  (registry.find? name).isSome

/-- The registry with an entry under a name, in place of an earlier one. -/
def register (registry : Registry Entry) (name : String) (entry : Entry) : Registry Entry :=
  ⟨Entries.insert name entry registry.entries, registry.ascending.insert name entry⟩

/-- Registers an entry under a name, and gives the earlier one that it takes the place of. -/
def exchange (registry : Registry Entry) (name : String) (entry : Entry) :
    Option Entry × Registry Entry :=
  let outcome := Entries.exchange name entry registry.entries
  have kept : outcome.2.Ascending :=
    Entries.exchange_snd name entry registry.entries ▸ registry.ascending.insert name entry
  (outcome.1, ⟨outcome.2, kept⟩)

/-- The registered names in ascending order. -/
def names (registry : Registry Entry) : List String :=
  Entries.names registry.entries

/-- How many names are registered. -/
def size (registry : Registry Entry) : Nat :=
  registry.entries.length

/-- The registry with every entry changed by a function. -/
def map {Other : Type} (change : Entry → Other) (registry : Registry Entry) : Registry Other :=
  ⟨Entries.mapEntries change registry.entries, registry.ascending.mapEntries change⟩

/-- The fault of a type that nothing is registered for. -/
def unknown (registry : Registry Entry) (name : String) : Fault :=
  .unknownLayerType name registry.names

/-- Makes the layer of a block with the builder registered under a name. -/
def build {Layer : Type} (registry : Registry (Builder Layer)) (name : String) (block : Block) :
    Except Failure Layer :=
  match registry.find? name with
  | some builder => builder block
  | none => .error (.tagged (registry.unknown name))

/-- The registry as its maintainers see it: the known names in quotes. -/
def wording (registry : Registry Entry) : String :=
  let names := registry.names.map fun name => String.ofList (Text.Quoted.quote name.toList)
  "LayerRegistry \x7b types: [" ++ ", ".intercalate names ++ "] \x7d"

end Registry

end OverlaySheet
