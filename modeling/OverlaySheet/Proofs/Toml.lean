import OverlaySheet.Proofs.Value.Path
import OverlaySheet.Toml

/-! Tables read from TOML text have each name once, at every depth that a path leads to. -/

namespace OverlaySheet.Toml

/-- Every table in a node has its names in ascending order, lists of tables apart. -/
inductive Node.Keyed : Node → Prop where
  | value {value : Value} (keyed : value.Keyed) : Keyed (.value value)
  | table {origin : Origin} {fields : Nodes} (ascending : fields.Ascending)
      (inner : ∀ pair ∈ fields, Keyed pair.2) : Keyed (.table origin fields)
  | tables {items : List Nodes} : Keyed (.tables items)

/-- The names of some nodes ascend, and each node is keyed. -/
structure Nodes.Keyed (nodes : Nodes) : Prop where
  ascending : nodes.Ascending
  inner : ∀ pair ∈ nodes, pair.2.Keyed

/-- No nodes are keyed. -/
theorem Nodes.keyed_nil : Nodes.Keyed [] :=
  ⟨List.Pairwise.nil, List.forall_mem_nil _⟩

namespace Nodes.Keyed

variable {nodes : Nodes} {name : String}

/-- A keyed node that is put under a name keeps nodes keyed. -/
theorem insert (keyed : Nodes.Keyed nodes) (name : String) {node : Node} (nodeKeyed : node.Keyed) :
    Nodes.Keyed (Entries.insert name node nodes) := by
  refine ⟨keyed.ascending.insert name node, fun pair member => ?_⟩
  -- A node of the result is the one that was put in, or it was there before.
  rcases Entries.mem_insert member with rfl | before
  · exact nodeKeyed
  · exact keyed.inner pair before

/-- The fields of a table among keyed nodes are keyed. -/
theorem of_find? (keyed : Nodes.Keyed nodes) {origin : Origin} {fields : Nodes}
    (found : Entries.find? name nodes = some (.table origin fields)) : Nodes.Keyed fields := by
  -- A keyed table was made with keyed fields.
  cases keyed.inner _ (Entries.mem_of_find? found) with
  | table ascending inner => exact ⟨ascending, inner⟩

/-- Keyed nodes make a keyed node. -/
theorem toNode (keyed : Nodes.Keyed nodes) (origin : Origin) : Node.Keyed (.table origin nodes) :=
  .table keyed.ascending keyed.inner

end Nodes.Keyed

/-- Named nodes become named values one by one. -/
theorem nodesToFields_eq (nodes : Nodes) :
    nodesToFields nodes = Entries.mapEntries Node.toValue nodes := by
  induction nodes with
  | nil => rfl
  -- Each node becomes a value under its own name.
  | cons pair rest ih =>
    obtain ⟨name, node⟩ := pair
    rw [nodesToFields, ih]
    rfl

/-- The value of a keyed node is keyed. -/
theorem Node.Keyed.toValue {node : Node} (keyed : node.Keyed) : node.toValue.Keyed := by
  induction keyed with
  -- The three kinds of node become a value as it is, a list and a table.
  | value keyed => rwa [Node.toValue]
  | tables =>
    rw [Node.toValue]
    exact .single rfl
  | @table origin fields ascending inner ih =>
    rw [Node.toValue, nodesToFields_eq]
    refine .table (ascending.mapEntries _) fun pair member => ?_
    obtain ⟨field, isField, rfl⟩ := List.mem_map.1 member
    exact ih field isField

/-- Keyed nodes become a keyed table. -/
theorem Nodes.Keyed.toTable {nodes : Nodes} (keyed : Nodes.Keyed nodes) :
    Value.Keyed (.table (nodesToFields nodes)) := by
  -- The nodes are the fields of a table, and a keyed table becomes a keyed value.
  have whole := (keyed.toNode .header).toValue
  rwa [Node.toValue] at whole

section Changes

variable {nodes result : Nodes} {key path : List String} {origin made : Origin}

/-- A change at the end of a path keeps nodes keyed when the change itself does. -/
theorem within_keyed {change : Origin → Nodes → Option Nodes}
    (keeps : ∀ {here : Origin} {nodes result : Nodes}, Nodes.Keyed nodes →
      change here nodes = some result → Nodes.Keyed result)
    (keyed : Nodes.Keyed nodes) (changed : within made change origin path nodes = some result) :
    Nodes.Keyed result := by
  induction path generalizing origin nodes result with
  | nil => exact keeps keyed changed
  | cons name path ih =>
    rw [within] at changed
    -- What is under the name decides how the path goes on.
    split at changed
    · obtain ⟨inner, further, rfl⟩ := Option.map_eq_some_iff.1 changed
      exact keyed.insert name ((ih Nodes.keyed_nil further).toNode made)
    · cases changed
    · next here fields found =>
      split at changed
      · cases changed
      · obtain ⟨inner, further, rfl⟩ := Option.map_eq_some_iff.1 changed
        exact keyed.insert name ((ih (keyed.of_find? found) further).toNode here)
    · obtain ⟨last, _, rfl⟩ := Option.map_eq_some_iff.1 changed
      exact keyed.insert name .tables

/-- A new name keeps nodes keyed. -/
theorem addNew_keyed {name : String} {node : Node} (keyed : Nodes.Keyed nodes)
    (nodeKeyed : node.Keyed) (added : addNew name node nodes = some result) :
    Nodes.Keyed result := by
  -- A name that is there already is refused.
  rw [addNew] at added
  split at added
  · cases added
  · obtain rfl := Option.some.inj added
    exact keyed.insert name nodeKeyed

/-- A keyed value under a new key keeps nodes keyed. -/
theorem addValue_keyed {value : Value} (keyed : Nodes.Keyed nodes) (valueKeyed : value.Keyed)
    (added : addValue key value origin nodes = some result) : Nodes.Keyed result := by
  -- The value is put at the end of its path, where its name has to be new.
  refine within_keyed (fun {here nodes result} keyed changed => ?_) keyed added
  split at changed
  · cases changed
  · exact addNew_keyed keyed (.value valueKeyed) changed

/-- A header of a table keeps nodes keyed. -/
theorem openTable_keyed (keyed : Nodes.Keyed nodes) (opened : openTable key nodes = some result) :
    Nodes.Keyed result := by
  refine within_keyed (fun {here nodes result} keyed changed => ?_) keyed opened
  split at changed
  · obtain rfl := Option.some.inj changed
    exact keyed.insert _ (Nodes.keyed_nil.toNode .header)
  · next inner found =>
    -- A table that was made on the way to another one gets its own header.
    obtain rfl := Option.some.inj changed
    exact keyed.insert _ ((keyed.of_find? found).toNode .header)
  · cases changed

/-- A header of a table in a list keeps nodes keyed. -/
theorem openListed_keyed (keyed : Nodes.Keyed nodes) (opened : openListed key nodes = some result) :
    Nodes.Keyed result := by
  -- A list of tables is begun or goes on, and it is kept as one node without fields.
  refine within_keyed (fun {here nodes result} keyed changed => ?_) keyed opened
  split at changed
  · obtain rfl := Option.some.inj changed
    exact keyed.insert _ .tables
  · obtain rfl := Option.some.inj changed
    exact keyed.insert _ .tables
  · cases changed

end Changes

section Values

variable {text rest : Text} {value : Value}

/-- A whole number in range is no table. -/
theorem wholeValue?_single {n : Int} (read : wholeValue? n = some value) :
    value.isTable = false := by
  -- Only a number that fits into a value of the table is given.
  rw [wholeValue?] at read
  split at read
  · obtain rfl := Option.some.inj read
    rfl
  · cases read

/-- A whole number in decimal digits is no table. -/
theorem integer?_single (read : integer? text = some value) : value.isTable = false := by
  -- The digits are read first, and what they make is a whole number.
  simp only [integer?, Option.bind_eq_some_iff] at read
  obtain ⟨_, _, read⟩ := read
  exact wholeValue?_single read

/-- A number with a point or a power of ten is no table. -/
theorem float?_single (read : float? text = some value) : value.isTable = false := by
  -- The number is read in four steps, of which the last makes the value.
  simp only [float?, Option.bind_eq_bind] at read
  split at read
  · cases read
  · simp only [Option.bind_eq_some_iff] at read
    obtain ⟨_, _, _, _, _, _, read⟩ := read
    rw [floatValue?] at read
    split at read
    · cases read
    · obtain rfl := Option.some.inj read
      -- A number is given as such or as null.
      rw [Value.ofDouble]
      split
      · rfl
      · rfl

/-- A number that has a name is no table. -/
theorem special?_single (read : special? text = some value) : value.isTable = false := by
  simp only [special?] at read
  -- The names are those of the infinities and of what is no number.
  split at read
  · obtain rfl := Option.some.inj read
    rfl
  · cases read

/-- A number in another base is no table. -/
theorem based?_single (read : based? text = some value) : value.isTable = false := by
  -- There are three other bases, and each makes a whole number.
  rw [based?.eq_def] at read
  split at read
  · obtain ⟨_, _, read⟩ := Option.bind_eq_some_iff.1 read
    exact wholeValue?_single read
  · obtain ⟨_, _, read⟩ := Option.bind_eq_some_iff.1 read
    exact wholeValue?_single read
  · obtain ⟨_, _, read⟩ := Option.bind_eq_some_iff.1 read
    exact wholeValue?_single read
  · cases read

/-- A value without quotes and brackets is no table. -/
theorem plainValue?_single (read : plainValue? text = some value) : value.isTable = false := by
  rw [plainValue?] at read
  -- The two words for truth come first.
  split at read
  · obtain rfl := Option.some.inj read
    rfl
  split at read
  · obtain rfl := Option.some.inj read
    rfl
  -- What is neither of the two words is a number in one of four forms.
  simp only [Option.orElse_eq_orElse, Option.orElse_eq_or, Option.or_eq_some_iff] at read
  rcases read with integer | ⟨_, based | ⟨_, float | ⟨_, special⟩⟩⟩
  · exact integer?_single integer
  · exact based?_single based
  · exact float?_single float
  · exact special?_single special

end Values

/-- Values are keyed, and fields keep nodes keyed, whatever bounds their reading. -/
theorem value_keyed_and_fields_keyed (fuel : Nat) :
    (∀ {room : Nat} {text rest : Text} {read : Value},
      value fuel room text = some (read, rest) → read.Keyed) ∧
    ∀ {room : Nat} {nodes result : Nodes} {text rest : Text}, Nodes.Keyed nodes →
      fields fuel room nodes text = some (result, rest) → Nodes.Keyed result := by
  -- A value may hold fields and each field a value, so both are proved in one induction.
  induction fuel with
  | zero =>
    constructor
    · intro room text rest value read
      simp [Toml.value] at read
    · intro room nodes result text rest keyed read
      simp [fields] at read
  | succ fuel ih =>
    obtain ⟨valueKeyed, fieldsKeyed⟩ := ih
    constructor
    · intro room text rest value read
      cases text with
      | nil => simp [Toml.value] at read
      | cons c text =>
        rw [Toml.value.eq_def] at read
        simp only at read
        split at read
        · -- A string.
          obtain ⟨_, _, same⟩ := Option.map_eq_some_iff.1 read
          obtain ⟨rfl, _⟩ := Prod.mk.inj same
          exact .single rfl
        split at read
        · -- A list.
          split at read
          · cases read
          · obtain ⟨_, _, same⟩ := Option.map_eq_some_iff.1 read
            obtain ⟨rfl, _⟩ := Prod.mk.inj same
            exact .single rfl
        split at read
        · -- A table on one line.
          split at read
          · cases read
          · obtain ⟨rfl, _⟩ := Prod.mk.inj (Option.some.inj read)
            exact Value.keyed_nil
          · obtain ⟨_, further, same⟩ := Option.map_eq_some_iff.1 read
            obtain ⟨rfl, _⟩ := Prod.mk.inj same
            exact (fieldsKeyed Nodes.keyed_nil further).toTable
        · -- A moment or a value without quotes.
          simp only [Option.orElse_eq_orElse, Option.orElse_eq_or, Option.or_eq_some_iff] at read
          rcases read with moment | ⟨_, plain⟩
          · obtain ⟨_, _, same⟩ := Option.map_eq_some_iff.1 moment
            obtain ⟨rfl, _⟩ := Prod.mk.inj same
            exact .single rfl
          · obtain ⟨_, found, same⟩ := Option.map_eq_some_iff.1 plain
            obtain ⟨rfl, _⟩ := Prod.mk.inj same
            exact .single (plainValue?_single found)
    · intro room nodes result text rest keyed read
      rw [fields] at read
      obtain ⟨⟨key, behindKey⟩, _, read⟩ := Option.bind_eq_some_iff.1 read
      simp only at read
      split at read
      · obtain ⟨⟨field, behindField⟩, fieldRead, read⟩ := Option.bind_eq_some_iff.1 read
        obtain ⟨more, added, read⟩ := Option.bind_eq_some_iff.1 read
        have moreKeyed := addValue_keyed keyed (valueKeyed fieldRead) added
        -- Behind the value, the table goes on or ends.
        simp only at read
        split at read
        · exact fieldsKeyed moreKeyed read
        · obtain ⟨rfl, _⟩ := Prod.mk.inj (Option.some.inj read)
          exact moreKeyed
        · cases read
      · cases read

namespace Document

variable {document next : Document} {text rest : Text}

/-- A value that is added to the current table keeps the document keyed. -/
theorem add_keyed {key : List String} {value : Value} (keyed : Nodes.Keyed document.nodes)
    (valueKeyed : value.Keyed) (added : document.add key value = some next) :
    Nodes.Keyed next.nodes := by
  obtain ⟨nodes, changed, rfl⟩ := Option.map_eq_some_iff.1 added
  -- The document changes only in its nodes.
  exact within_keyed (fun keyed changed => addValue_keyed keyed valueKeyed changed) keyed changed

/-- A header keeps the document keyed when opening its table does. -/
theorem readHeader_keyed {brackets : Text} {openAt : List String → Nodes → Option Nodes}
    (keeps : ∀ {key : List String} {nodes result : Nodes}, Nodes.Keyed nodes →
      openAt key nodes = some result → Nodes.Keyed result)
    (keyed : Nodes.Keyed document.nodes)
    (read : document.readHeader brackets openAt text = some (next, rest)) :
    Nodes.Keyed next.nodes := by
  -- The key and the brackets are read first, and only then is the table opened.
  obtain ⟨⟨key, behindKey⟩, _, read⟩ := Option.bind_eq_some_iff.1 read
  obtain ⟨behindBrackets, _, read⟩ := Option.bind_eq_some_iff.1 read
  obtain ⟨nodes, opened, same⟩ := Option.map_eq_some_iff.1 read
  obtain ⟨rfl, _⟩ := Prod.mk.inj same
  exact keeps keyed opened

/-- A field keeps the document keyed. -/
theorem readField_keyed (keyed : Nodes.Keyed document.nodes)
    (read : document.readField text = some (next, rest)) : Nodes.Keyed next.nodes := by
  -- Behind the key stands the sign, and behind the sign a value that is keyed.
  obtain ⟨⟨key, behindKey⟩, _, read⟩ := Option.bind_eq_some_iff.1 read
  simp only at read
  split at read
  · obtain ⟨⟨field, behindField⟩, fieldRead, read⟩ := Option.bind_eq_some_iff.1 read
    obtain ⟨changed, added, same⟩ := Option.map_eq_some_iff.1 read
    obtain ⟨rfl, _⟩ := Prod.mk.inj same
    exact add_keyed keyed ((value_keyed_and_fields_keyed _).1 fieldRead) added
  · cases read

/-- Each line keeps the document keyed. -/
theorem readLine_keyed (keyed : Nodes.Keyed document.nodes)
    (read : document.readLine text = some (next, rest)) : Nodes.Keyed next.nodes := by
  rw [readLine] at read
  -- A line is one of two headers, or it is empty, or it is a field.
  split at read
  · exact readHeader_keyed openListed_keyed keyed read
  · exact readHeader_keyed openTable_keyed keyed read
  · obtain ⟨rfl, _⟩ := Prod.mk.inj (Option.some.inj read)
    exact keyed
  · split at read
    · obtain ⟨rfl, _⟩ := Prod.mk.inj (Option.some.inj read)
      exact keyed
    · exact readField_keyed keyed read

/-- So do all lines. -/
theorem readLines_keyed {fuel : Nat} (keyed : Nodes.Keyed document.nodes)
    (read : document.readLines fuel text = some next) : Nodes.Keyed next.nodes := by
  -- The induction is on the fuel, of which each line takes one.
  induction fuel generalizing document text with
  | zero => simp [readLines] at read
  | succ fuel ih =>
    rw [readLines] at read
    split at read
    · obtain rfl := Option.some.inj read
      exact keyed
    · obtain ⟨⟨middle, behindLine⟩, line, read⟩ := Option.bind_eq_some_iff.1 read
      obtain ⟨others, _, read⟩ := Option.bind_eq_some_iff.1 read
      exact ih (readLine_keyed keyed line) read

end Document

/-- A table that is read from text is keyed. -/
theorem read?_keyed {text : Text} {table : Table} (read : read? text = some table) :
    Value.Keyed (.table table) := by
  -- A document begins without nodes, and they become the table.
  obtain ⟨document, lines, rfl⟩ := Option.map_eq_some_iff.1 read
  exact (Document.readLines_keyed Nodes.keyed_nil lines).toTable

end OverlaySheet.Toml
