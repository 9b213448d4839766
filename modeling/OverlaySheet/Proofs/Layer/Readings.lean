import OverlaySheet.Proofs.Layer.Dimension
import OverlaySheet.Proofs.Layer.Refusals
import OverlaySheet.Proofs.Number.Integer
import OverlaySheet.Proofs.Text.Pieces

/-! Readings of arguments: what each of them gives, and why it is refused. -/

namespace OverlaySheet.Layer

open Text (sameIgnoringCase trim)

section Values

variable {α : Type} {block : Block} {key : String}

/-- The value of a key denotes something. -/
def Reads (read? : String → Option α) (block : Block) (key : String) (x : α) : Prop :=
  ∃ value, block.Gives key value ∧ read? value = some x

/-- A key with such a value is given. -/
theorem Reads.not_lacks {read? : String → Option α} {x : α} (reads : Reads read? block key x) :
    ¬ block.Lacks key := by
  -- What is read is the value of the key.
  obtain ⟨_, gives, _⟩ := reads
  exact gives.not_lacks

/-- The value of a key denotes something, or the key is not given and this is the default. -/
def ReadsOr (read? : String → Option α) (block : Block) (key : String) (default x : α) : Prop :=
  block.Lacks key ∧ x = default ∨ Reads read? block key x

/-- A key has no value, for which there is a fault, or one that denotes nothing. -/
def Unread (read? : String → Option α) (complaint : String → String) (missing : Fault)
    (block : Block) (key : String) : Refusal := fun failure =>
  (∀ value, ¬ block.Gives key value) ∧ failure = .tagged missing ∨
    ∃ value, block.Gives key value ∧ read? value = none ∧ failure = .untagged (complaint value)

/-- A reader of values gives what they denote, and it complains of those that denote nothing. -/
structure Decodes (read : String → Except Failure α) (read? : String → Option α)
    (complaint : String → String) : Prop where
  ok_iff : ∀ value x, read value = .ok x ↔ read? value = some x
  error_iff : ∀ value failure,
    read value = .error failure ↔ read? value = none ∧ failure = .untagged (complaint value)

/-- Lengths are read in this way. -/
theorem decodes_dimension : Decodes readDimension Dimension.read? Dimension.invalidMessage where
  ok_iff value dimension := by
    -- A reader fails exactly where the text denotes nothing, and it cites the text.
    unfold readDimension
    cases Dimension.read? value <;> simp
  error_iff value failure := by
    unfold readDimension
    cases Dimension.read? value <;> simp [eq_comm]

/-- So are colours. -/
theorem decodes_color : Decodes readColor Color.read? Color.invalidMessage where
  ok_iff value color := by
    -- The same holds of colours, with their own wording.
    unfold readColor
    cases Color.read? value <;> simp
  error_iff value failure := by
    unfold readColor
    cases Color.read? value <;> simp [eq_comm]

variable {read : String → Except Failure α} {read? : String → Option α}
  {complaint : String → String} {expected sample : String} {default x : α}

/-- A value with a default is what the key's value denotes, or the default without the key. -/
theorem valueD_eq_ok_iff (decodes : Decodes read read? complaint) :
    valueD read expected sample block key default = .ok x ↔
      ReadsOr read? block key default x := by
  -- Both sides depend on the argument that is found, and there are three sorts of it.
  simp only [ReadsOr, Reads, Block.lacks_iff, Block.gives_iff, valueD]
  rcases Block.find?_cases block key with lacks | flags | ⟨value, gives⟩
  · simp [lacks, eq_comm]
  · simp [flags]
  · simp [gives, decodes.ok_iff]

/-- It is refused as a flag of the wrong type, or because its value denotes nothing. -/
theorem failsBy_valueD (decodes : Decodes read read? complaint) :
    FailsBy (valueD read expected sample block key default)
      (IfGiven block key
        (Unread read? complaint (block.wrongArgument key expected sample) block key)) := by
  intro failure
  -- Only a flag has the wrong type, and only a value can be complained of.
  simp only [IfGiven, Unread, Block.lacks_iff, Block.gives_iff, valueD]
  rcases Block.find?_cases block key with lacks | flags | ⟨value, gives⟩
  · simp [lacks]
  · simp [flags, eq_comm]
  · simp [gives, decodes.error_iff]

/-- A length that must be there is what the key's value denotes. -/
theorem expectDimension_eq_ok_iff {dimension : Dimension} :
    expectDimension block key sample = .ok dimension ↔
      Reads Dimension.read? block key dimension := by
  -- A flag is no better than no argument here, since neither has a value.
  simp only [Reads, ← Block.value?_eq_some_iff, expectDimension]
  cases block.value? key with
  | none => simp
  | some value => simp [decodes_dimension.ok_iff]

/-- It is refused as of the wrong type without a value, or because the value denotes nothing. -/
theorem failsBy_expectDimension :
    FailsBy (expectDimension block key sample)
      (Unread Dimension.read? Dimension.invalidMessage
        (block.wrongArgument key "dimension" sample) block key) := by
  intro failure
  -- There is a value or not, and either is a case of the refusal.
  simp only [Unread, ← Block.value?_eq_some_iff, expectDimension]
  cases block.value? key with
  | none => simp [eq_comm]
  | some value => simp [decodes_dimension.error_iff]

/-- A length is not read, or it is read and not above zero. -/
def NotPositive (sample : String) (block : Block) (key : String) : Refusal := fun failure =>
  -- A missing value has the same fault as a length that is not above zero.
  Unread Dimension.read? Dimension.invalidMessage (block.nonPositiveArgument key sample)
      block key failure ∨
    ∃ dimension, Reads Dimension.read? block key dimension ∧ ¬ dimension.value.AboveZero ∧
      failure = .tagged (block.nonPositiveArgument key sample)

/-- A length above zero is what the key's value denotes. -/
theorem expectPositiveDimension_eq_ok_iff {dimension : Dimension} :
    expectPositiveDimension block key sample = .ok dimension ↔
      Reads Dimension.read? block key dimension ∧ dimension.value.AboveZero := by
  simp only [Reads, ← Block.value?_eq_some_iff, expectPositiveDimension]
  cases block.value? key with
  | none => simp
  | some value =>
    simp only [bind_eq_ok_iff, decodes_dimension.ok_iff, Option.some.injEq, exists_eq_left']
    -- The value is read first, and what is read is checked.
    constructor
    · intro parts
      obtain ⟨_, reads, checked⟩ := parts
      split at checked
      · next positive =>
        obtain rfl := Except.ok.inj checked
        exact ⟨reads, Dimension.isPositive_iff.1 positive⟩
      · cases checked
    · intro parts
      exact ⟨dimension, parts.1, if_pos (Dimension.isPositive_iff.2 parts.2)⟩

/-- It is refused because it is not read, or because it is not above zero. -/
theorem failsBy_expectPositiveDimension :
    FailsBy (expectPositiveDimension block key sample) (NotPositive sample block key) := by
  intro failure
  simp only [NotPositive, Unread, Reads, ← Block.value?_eq_some_iff, expectPositiveDimension,
    ← Dimension.isPositive_iff]
  cases block.value? key with
  | none => simp [@eq_comm _ _ failure]
  | some value =>
    simp only [bind_eq_error_iff, decodes_dimension.error_iff, decodes_dimension.ok_iff]
    -- A value is read or not, and what is read is above zero or not.
    cases reads : Dimension.read? value with
    | none => simp [reads]
    | some dimension =>
      cases positive : dimension.isPositive with
      | false => simp [reads, positive, @eq_comm _ _ failure]
      | true => simp [reads, positive]

/-- A size of text is a length above zero, or the default without the key. -/
theorem readTextSize_eq_ok_iff {dimension : Dimension} :
    readTextSize block = .ok dimension ↔
      block.Lacks "text-size" ∧ dimension = defaultTextSize ∨
        Reads Dimension.read? block "text-size" dimension ∧ dimension.value.AboveZero := by
  rw [readTextSize, ifGiven_eq_ok_iff, expectPositiveDimension_eq_ok_iff]
  -- A value that is read shows that the key is given.
  refine or_congr_right (and_iff_right_of_imp ?_)
  intro reads
  exact reads.1.not_lacks

/-- It is refused like a length above zero, but only when the key is given. -/
theorem failsBy_readTextSize :
    FailsBy (readTextSize block)
      (IfGiven block "text-size" (NotPositive "12sp" block "text-size")) := by
  exact failsBy_expectPositiveDimension.ifGiven

/-- A colour that must be there is what the key's value denotes. -/
theorem expectColor_eq_ok_iff {color : Color} :
    (tagged (block.expectString key expected) >>= readColor) = .ok color ↔
      Reads Color.read? block key color := by
  -- The two steps succeed when there is a value and it denotes the colour.
  simp only [Reads, ← Block.value?_eq_some_iff, bind_eq_ok_iff, tagged, mapError_eq_ok_iff,
    Block.expectString, Block.orFault_eq_ok_iff, decodes_color.ok_iff]

/-- It is refused as missing without a value, or because the value denotes nothing. -/
theorem failsBy_expectColor :
    FailsBy (tagged (block.expectString key expected) >>= readColor)
      (Unread Color.read? Color.invalidMessage (.missingArgument block.layerType key expected)
        block key) := by
  intro failure
  -- The value is expected in one step and read in another, and either may fail.
  simp only [Unread, ← Block.value?_eq_some_iff, Block.expectString]
  cases block.value? key with
  | none => simp [tagged, Block.orFault, Except.mapError, Bind.bind, Except.bind, eq_comm]
  | some value =>
    simp [tagged, Block.orFault, Except.mapError, Bind.bind, Except.bind, decodes_color.error_iff]

end Values

section Choices

variable {α : Type} {block : Block} {key : String} {choices : List α} {name : α → String}

/-- Choices are all that there are, and their names tell them apart. -/
structure Names (choices : List α) (name : α → String) : Prop where
  complete : ∀ choice, choice ∈ choices
  injective : ∀ first second, name first = name second → first = second

/-- Edges are told apart by their names. -/
@[simp] theorem names_edge : Names Edge.all Edge.name where
  -- No name is left out, and no two are the same.
  complete edge := by cases edge <;> decide
  injective first second := by cases first <;> cases second <;> decide

/-- So are the ways of grid lines. -/
@[simp] theorem names_axis : Names Axis.all Axis.name where
  complete axis := by cases axis <;> decide
  injective first second := by cases first <;> cases second <;> decide

/-- So are corners. -/
@[simp] theorem names_corner : Names Corner.all Corner.name where
  complete corner := by cases corner <;> decide
  injective first second := by cases first <;> cases second <;> decide

/-- None of some words is given as the value of a key. -/
def NotAmong (words : List String) (block : Block) (key : String) : Refusal := fun failure =>
  -- The fault cites the value that is given instead, if there is one.
  (∀ word ∈ words, ¬ block.Gives key word) ∧
    failure = .tagged (.unlistedArgument block.layerType key (block.value? key) words)

/-- The search for a name finds the choice that has it. -/
@[simp] theorem Names.find?_eq_some_iff (names : Names choices name) {word : String} {choice : α} :
    (choices.find? fun other => name other = word) = some choice ↔ name choice = word := by
  constructor
  · -- What the search finds passes its test.
    intro found
    simpa using List.find?_some found
  · intro named
    -- The search finds a choice with the name, and no other choice has it.
    have stops : (choices.find? fun other => name other = word).isSome := by
      rw [List.find?_isSome]
      exact ⟨choice, names.complete choice, by simpa using named⟩
    -- There is something to be found, and it has the name as well.
    obtain ⟨other, found⟩ := Option.isSome_iff_exists.1 stops
    have named' : name other = word := by simpa using List.find?_some found
    obtain rfl := names.injective other choice (named'.trans named.symm)
    exact found

/-- A reading that can fail with one fault only is refused whenever it does not succeed. -/
theorem failsBy_of_only {β : Type} {step : Except Fault β} {fault : Fault}
    (only : ∀ own, step = .error own → own = fault) :
    FailsBy (tagged step) fun failure => (∀ x, step ≠ .ok x) ∧ failure = .tagged fault := by
  intro failure
  -- A step succeeds or fails, and there is only one way to fail.
  cases outcome : step with
  | ok x => simp [tagged, Except.mapError]
  | error own =>
    obtain rfl := only own outcome
    simp [tagged, Except.mapError, eq_comm]

/-- A choice is the one that is named by the key's value. -/
theorem expectChoice_eq_ok_iff (names : Names choices name) {choice : α} :
    block.expectChoice key choices name = .ok choice ↔ block.Gives key (name choice) := by
  -- The value of the key is searched for among the names.
  simp only [Block.expectChoice, Block.orFault_eq_ok_iff, Option.bind_eq_some_iff,
    names.find?_eq_some_iff, Block.value?_eq_some_iff, exists_eq_right']

/-- It is refused when the key's value is none of the names. -/
theorem failsBy_expectChoice (names : Names choices name) :
    FailsBy (tagged (block.expectChoice key choices name))
      (NotAmong (choices.map name) block key) := by
  -- A choice fails with one fault, so it is enough to say when there is none.
  intro failure
  have only : ∀ own, block.expectChoice key choices name = .error own → own =
      .unlistedArgument block.layerType key (block.value? key) (choices.map name) :=
    fun own => Block.eq_of_orFault_eq_error
  rw [failsBy_of_only only failure, NotAmong]
  refine and_congr_left fun _ => ?_
  -- Every choice has its name among the words.
  simp only [ne_eq, expectChoice_eq_ok_iff names, List.forall_mem_map]
  constructor
  · intro unnamed choice _
    exact unnamed choice
  · intro unnamed choice
    exact unnamed choice (names.complete choice)

/-- A choice with a default is named by the key's value, or it is the default without the key. -/
theorem choiceD_eq_ok_iff (names : Names choices name) {default choice : α} :
    block.choiceD key choices name default = .ok choice ↔
      block.Lacks key ∧ choice = default ∨ block.Gives key (name choice) := by
  rw [Block.choiceD, ifGiven_eq_ok_iff, expectChoice_eq_ok_iff names]
  -- A name that is the key's value shows that the key is given.
  refine or_congr_right (and_iff_right_of_imp ?_)
  intro gives
  exact gives.not_lacks

/-- It is refused when the key is given and its value is none of the names. -/
theorem failsBy_choiceD (names : Names choices name) {default : α} :
    FailsBy (tagged (block.choiceD key choices name default))
      (IfGiven block key (NotAmong (choices.map name) block key)) := by
  -- The fault is tagged for keys that are given, as it is without a default.
  rw [Block.choiceD, tagged_ifGiven]
  exact (failsBy_expectChoice names).ifGiven

/--
A choice made in two steps.

First a word is accepted, and then the choice is looked up that it names, with a fallback for
words that name none.
-/
def chooseByWord (block : Block) (key : String) (choices : List α) (name : α → String)
    (fallback : α) : Except Fault α := do
  let word ← block.expectChoice key (choices.map name) id
  return (choices.find? fun choice => name choice = word).getD fallback

/-- No accepted word needs the fallback. -/
theorem chooseByWord_eq (block : Block) (key : String) (choices : List α) (name : α → String)
    (fallback : α) :
    chooseByWord block key choices name fallback = block.expectChoice key choices name := by
  -- Both ways fail with the same fault, which lists the names.
  have sameNames : (choices.map name).map id = choices.map name := List.map_id _
  rw [chooseByWord, Block.expectChoice, Block.expectChoice, sameNames]
  cases block.value? key with
  | none => rfl
  | some value =>
    -- A word is found among the names when a choice is found by its name.
    simp only [Option.bind_some, List.find?_map, id_eq, Function.comp_def]
    cases found : choices.find? fun choice => name choice = value with
    | none => rfl
    | some choice =>
      have named : name choice = value := by simpa using List.find?_some found
      simp [Block.orFault, named, found, Bind.bind, Except.bind, Pure.pure, Except.pure]

end Choices

section Limits

variable {block : Block}

/-- The value of a key is a whole number from one to the greatest limit. -/
def HasLimit (block : Block) (limit : Nat) : Prop :=
  -- The greatest limit is the greatest number of 32 bits.
  ∃ value, block.Gives "limit" value ∧ Decimal.IsInteger (trim value.toList) limit ∧
    1 ≤ limit ∧ limit ≤ 4294967295

/-- No limit is given as the value of its key. -/
def NotLimit (block : Block) : Refusal := fun failure =>
  (∀ limit, ¬ HasLimit block limit) ∧ failure = .tagged (block.nonPositiveArgument "limit" "4")

/-- A whole number above zero is what the key's value denotes, if it fits into 64 bits. -/
theorem expectPositiveInt_eq_ok_iff {key sample : String} {n : Int} :
    block.expectPositiveInt key sample = .ok n ↔
      ∃ value, block.Gives key value ∧ Decimal.IsInteger (trim value.toList) n ∧
        Block.fitsWord n = true ∧ 0 < n := by
  -- The checks for the word and for the sign are filters on what is read.
  simp only [Block.expectPositiveInt, Block.orFault_eq_ok_iff, Option.filter_eq_some_iff,
    Block.int?, Option.bind_eq_some_iff, Block.readInt?, Block.value?_eq_some_iff,
    Decimal.readInt?_eq_some_iff, decide_eq_true_eq]
  constructor
  · intro parts
    obtain ⟨⟨value, gives, isInteger, fits⟩, positive⟩ := parts
    exact ⟨value, gives, isInteger, fits, positive⟩
  · intro parts
    obtain ⟨value, gives, isInteger, fits, positive⟩ := parts
    exact ⟨⟨value, gives, isInteger, fits⟩, positive⟩

/-- The limit of a grid that says it has one. -/
def givenLimit (block : Block) : Except Fault (Option Nat) := do
  let limit ← block.expectPositiveInt "limit" "4"
  if limit ≤ maxLimit then .ok (some limit.toNat)
  else .error (block.nonPositiveArgument "limit" "4")

/-- It is asked for only when the key is given. -/
theorem readLimit_eq_ifGiven (block : Block) :
    readLimit block = if block.has "limit" then givenLimit block else .ok none := by
  rfl

/-- It is the value of its key. -/
theorem givenLimit_eq_ok_iff {limit : Option Nat} :
    givenLimit block = .ok limit ↔ ∃ n, HasLimit block n ∧ limit = some n := by
  rw [givenLimit, bind_eq_ok_iff]
  constructor
  · intro parts
    obtain ⟨n, expected, checked⟩ := parts
    obtain ⟨value, gives, isInteger, _, positive⟩ := expectPositiveInt_eq_ok_iff.1 expected
    -- The number is checked once more, against the greatest limit.
    split at checked
    · next bounded =>
      obtain rfl := Except.ok.inj checked
      -- The number is above zero, so nothing is lost when its sign is.
      have same : (n.toNat : Int) = n := Int.toNat_of_nonneg positive.le
      rw [maxLimit] at bounded
      exact ⟨n.toNat, ⟨value, gives, same ▸ isInteger, by omega, by omega⟩, rfl⟩
    · cases checked
  · intro parts
    obtain ⟨n, ⟨value, gives, isInteger, least, greatest⟩, rfl⟩ := parts
    -- What fits into 32 bits fits into 64, so the first check is passed as well.
    have fits : Block.fitsWord n = true := by
      simp only [Block.fitsWord, Number.leastSigned, Number.greatestSigned, Bool.and_eq_true,
        decide_eq_true_eq]
      omega
    refine ⟨n, expectPositiveInt_eq_ok_iff.2 ⟨value, gives, isInteger, fits, by omega⟩, ?_⟩
    rw [if_pos (by rw [maxLimit]; omega), Int.toNat_natCast]

/-- It fails with one fault only. -/
theorem eq_of_givenLimit_eq_error {own : Fault} (failed : givenLimit block = .error own) :
    own = block.nonPositiveArgument "limit" "4" := by
  -- It is no number above zero, or it is too great, and the fault is the same.
  rcases bind_eq_error_iff.1 failed with failed | ⟨limit, _, failed⟩
  · exact Block.eq_of_orFault_eq_error failed
  · split at failed
    · cases failed
    · exact (Except.error.inj failed).symm

/-- A limit is the value of its key, and without the key there is none. -/
theorem readLimit_eq_ok_iff {limit : Option Nat} :
    readLimit block = .ok limit ↔
      block.Lacks "limit" ∧ limit = none ∨ ∃ n, HasLimit block n ∧ limit = some n := by
  rw [readLimit_eq_ifGiven, ifGiven_eq_ok_iff, givenLimit_eq_ok_iff]
  -- A limit that is read shows that the key is given.
  refine or_congr_right (and_iff_right_of_imp ?_)
  intro parts
  obtain ⟨_, ⟨_, gives, _⟩, _⟩ := parts
  exact gives.not_lacks

/-- It is refused when the key is given and its value is none. -/
theorem failsBy_readLimit :
    FailsBy (tagged (readLimit block)) (IfGiven block "limit" (NotLimit block)) := by
  -- A limit that is asked for fails with one fault, whichever check it does not pass.
  have fails : FailsBy (tagged (givenLimit block)) (NotLimit block) := by
    intro failure
    rw [failsBy_of_only (fun own => eq_of_givenLimit_eq_error) failure, NotLimit]
    refine and_congr_left fun _ => ?_
    simp only [ne_eq, givenLimit_eq_ok_iff, not_exists, not_and]
    constructor
    · intro none limit has
      exact none (some limit) limit has rfl
    · intro none limit n has _
      exact none n has
  rw [readLimit_eq_ifGiven, tagged_ifGiven]
  exact fails.ifGiven

end Limits

section Switches

variable {block : Block} {key : String}

/-- The word for a switch. -/
def switchWord (on : Bool) : Text :=
  (if on then "true" else "false").toList

/-- A switch is off without its key, on as a flag, and else what its word says in any case. -/
inductive Switched (block : Block) (key : String) : Bool → Prop where
  | absent : block.Lacks key → Switched block key false
  | flag : block.Flags key → Switched block key true
  | word {value : String} {on : Bool} : block.Gives key value →
      sameIgnoringCase value.toList (switchWord on) = true → Switched block key on

/-- The value of a switch is neither of its words. -/
def NotSwitch (block : Block) (key : String) : Refusal := fun failure =>
  ∃ value, block.Gives key value ∧
    (∀ on, sameIgnoringCase value.toList (switchWord on) = false) ∧
      failure = .tagged (block.badSwitch key value)

/-- No word is both words of a switch. -/
theorem eq_of_sameIgnoringCase_switchWord {value : Text} {on other : Bool}
    (same : sameIgnoringCase value (switchWord on) = true)
    (same' : sameIgnoringCase value (switchWord other) = true) : on = other := by
  rw [Text.sameIgnoringCase_iff] at same same'
  -- The two words differ, whatever the case of their letters.
  have apart : ∀ first second : Bool,
      (switchWord first).map Char.toLower = (switchWord second).map Char.toLower →
        first = second := by decide
  exact apart on other (same.symm.trans same')

/-- A value is first compared with the word for on, and then with the word for off. -/
theorem switch_of_gives {value : String} (gives : block.Gives key value) :
    block.switch key =
      if sameIgnoringCase value.toList (switchWord true) then .ok true
      else if sameIgnoringCase value.toList (switchWord false) then .ok false
      else .error (block.badSwitch key value) := by
  -- The value is the argument that counts for the key.
  rw [Block.switch, Block.gives_iff.1 gives]
  rfl

/-- A switch is read as said. -/
theorem switch_eq_ok_iff {on : Bool} : block.switch key = .ok on ↔ Switched block key on := by
  constructor
  · intro read
    -- A switch without a value succeeds in one way, and one with a value succeeds in two.
    rcases Block.find?_cases block key with lacks | flags | ⟨value, gives⟩
    · -- Without the key the switch is off.
      rw [Block.switch, lacks] at read
      obtain rfl := Except.ok.inj read
      exact .absent (Block.lacks_iff.2 lacks)
    · -- A flag turns it on.
      rw [Block.switch, flags] at read
      obtain rfl := Except.ok.inj read
      exact .flag (Block.flags_iff.2 flags)
    · rw [switch_of_gives (Block.gives_iff.2 gives)] at read
      split at read
      · next same =>
        obtain rfl := Except.ok.inj read
        exact .word (Block.gives_iff.2 gives) same
      · split at read
        · next same =>
          obtain rfl := Except.ok.inj read
          exact .word (Block.gives_iff.2 gives) same
        · cases read
  · intro switched
    cases switched with
    | absent lacks => rw [Block.switch, Block.lacks_iff.1 lacks]
    | flag flags => rw [Block.switch, Block.flags_iff.1 flags]
    | word gives same =>
      rw [switch_of_gives gives]
      -- A word for off is not passed over as one for on.
      cases on with
      | true => rw [if_pos same]
      | false =>
        rw [if_neg, if_pos same]
        intro isOn
        cases eq_of_sameIgnoringCase_switchWord isOn same

/-- It is refused when its value is neither word. -/
theorem failsBy_switch : FailsBy (tagged (block.switch key)) (NotSwitch block key) := by
  intro failure
  simp only [NotSwitch, Block.gives_iff, tagged, mapError_eq_error_iff, Bool.forall_bool]
  rcases Block.find?_cases block key with lacks | flags | ⟨value, gives⟩
  · -- A switch that is off or on without a value has no failure.
    simp [Block.switch, lacks]
  · simp [Block.switch, flags]
  · rw [switch_of_gives (Block.gives_iff.2 gives)]
    -- A value that is neither word is cited in the fault.
    cases isOn : sameIgnoringCase value.toList (switchWord true) with
    | true => simp [gives, isOn]
    | false =>
      cases isOff : sameIgnoringCase value.toList (switchWord false) with
      | true => simp [gives, isOff]
      | false => simp [gives, isOn, isOff, @eq_comm _ _ failure]

end Switches

end OverlaySheet.Layer
