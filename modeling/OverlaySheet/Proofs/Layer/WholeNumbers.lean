import OverlaySheet.Proofs.Layer.Acceptance

/-! Whole numbers as arguments: each reading takes those between two bounds, and none is cut. -/

namespace OverlaySheet

open Layer (HasLimit NotLimit buildGridLines givenLimit readLimit)

namespace Block

/-- The value of a key is a whole number, blanks around it apart. -/
def GivesInt (block : Block) (key : String) (n : Int) : Prop :=
  ∃ value, block.Gives key value ∧ Decimal.IsInteger (Text.trim value.toList) n

/--
A reading takes the whole numbers under a key that are between two bounds, the bounds included.

All else is one and the same fault: no value, one that is no whole number, and one out of bounds.
-/
structure TakesBetween {α : Type} (least greatest : Int) (result : Int → α) (block : Block)
    (key : String) (fault : Fault) (reading : Except Fault α) : Prop where
  ok_iff : ∀ x, reading = .ok x ↔
    ∃ n, block.GivesInt key n ∧ least ≤ n ∧ n ≤ greatest ∧ x = result n
  error_iff : ∀ own, reading = .error own ↔
    (∀ n, block.GivesInt key n → ¬ (least ≤ n ∧ n ≤ greatest)) ∧ own = fault

variable {α : Type} {block : Block} {key sample : String} {n : Int}

/-- A reading with one fault has it whenever there is no number between the bounds. -/
theorem takesBetween_of_only {least greatest : Int} {result : Int → α} {fault : Fault}
    {reading : Except Fault α}
    (ok_iff : ∀ x, reading = .ok x ↔
      ∃ n, block.GivesInt key n ∧ least ≤ n ∧ n ≤ greatest ∧ x = result n)
    (only : ∀ own, reading = .error own → own = fault) :
    TakesBetween least greatest result block key fault reading := by
  refine ⟨ok_iff, fun own => ?_⟩
  constructor
  · intro failed
    refine ⟨fun n gives bounds => ?_, only own failed⟩
    -- With such a number the reading would succeed.
    have read : reading = .ok (result n) := (ok_iff _).2 ⟨n, gives, bounds.1, bounds.2, rfl⟩
    cases failed.symm.trans read
  · intro parts
    obtain ⟨none, rfl⟩ := parts
    -- Without such a number there is no success, so the one fault is left.
    cases outcome : reading with
    | ok x =>
      obtain ⟨n, gives, least, greatest, _⟩ := (ok_iff x).1 outcome
      exact absurd ⟨least, greatest⟩ (none n gives)
    | error other => rw [only other outcome]

/-- To fit into 64 bits with a sign is to be between two powers of two. -/
theorem fitsWord_iff : fitsWord n = true ↔ -2 ^ 63 ≤ n ∧ n ≤ 2 ^ 63 - 1 := by
  -- Both bounds are numbers here, so this is arithmetic.
  simp only [fitsWord, Number.leastSigned, Number.greatestSigned, Bool.and_eq_true,
    decide_eq_true_eq]
  omega

/-- The whole number under a key is the one that is given, if it fits into 64 bits. -/
theorem int?_eq_some_iff :
    block.int? key = some n ↔ block.GivesInt key n ∧ -2 ^ 63 ≤ n ∧ n ≤ 2 ^ 63 - 1 := by
  simp only [int?, Option.bind_eq_some_iff, readInt?, Option.filter_eq_some_iff,
    value?_eq_some_iff, Decimal.readInt?_eq_some_iff, fitsWord_iff, GivesInt]
  -- The same facts are grouped in two ways.
  constructor
  · intro parts
    obtain ⟨value, gives, isInteger, fits⟩ := parts
    exact ⟨⟨value, gives, isInteger⟩, fits⟩
  · intro parts
    obtain ⟨⟨value, gives, isInteger⟩, fits⟩ := parts
    exact ⟨value, gives, isInteger, fits⟩

/-- A whole number that must be there is taken with its sign, up to 64 bits. -/
theorem takesBetween_expectInt :
    TakesBetween (-2 ^ 63) (2 ^ 63 - 1) id block key
      (.wrongArgument block.layerType key "integer" sample) (block.expectInt key sample) := by
  -- There is one fault, so it is enough to say when there is a result.
  refine takesBetween_of_only (fun x => ?_) fun own => eq_of_orFault_eq_error
  rw [expectInt, orFault_eq_ok_iff, int?_eq_some_iff]
  constructor
  · intro parts
    exact ⟨x, parts.1, parts.2.1, parts.2.2, rfl⟩
  · intro parts
    obtain ⟨n, gives, least, greatest, same⟩ := parts
    obtain rfl : x = n := same
    exact ⟨gives, least, greatest⟩

/-- One that must be above zero is taken from one on. -/
theorem takesBetween_expectPositiveInt :
    TakesBetween 1 (2 ^ 63 - 1) id block key (.nonPositiveArgument block.layerType key sample)
      (block.expectPositiveInt key sample) := by
  -- There is one fault here as well.
  refine takesBetween_of_only (fun x => ?_) fun own => eq_of_orFault_eq_error
  simp only [expectPositiveInt, orFault_eq_ok_iff, Option.filter_eq_some_iff, int?_eq_some_iff,
    decide_eq_true_eq]
  constructor
  · -- The lower bound of the word follows from the number being above zero.
    intro parts
    obtain ⟨⟨gives, _, greatest⟩, positive⟩ := parts
    exact ⟨x, gives, by omega, greatest, rfl⟩
  · intro parts
    obtain ⟨n, gives, least, greatest, same⟩ := parts
    obtain rfl : x = n := same
    exact ⟨⟨gives, by omega, greatest⟩, by omega⟩

/-- The number of a limit is one from one to the greatest of 32 bits. -/
theorem exists_hasLimit_iff {limit : Option Nat} :
    (∃ n, HasLimit block n ∧ limit = some n) ↔
      ∃ n, block.GivesInt "limit" n ∧ 1 ≤ n ∧ n ≤ 2 ^ 32 - 1 ∧ limit = some n.toNat := by
  constructor
  · -- The bounds are the same, and the sign is dropped or added.
    intro parts
    obtain ⟨n, ⟨value, gives, isInteger, least, greatest⟩, rfl⟩ := parts
    exact ⟨n, ⟨value, gives, isInteger⟩, by omega, by omega, rfl⟩
  · intro parts
    obtain ⟨n, ⟨value, gives, isInteger⟩, least, greatest, rfl⟩ := parts
    -- Above zero, nothing is lost with the sign.
    have same : (n.toNat : Int) = n := Int.toNat_of_nonneg (by omega)
    exact ⟨n.toNat, ⟨value, gives, same ▸ isInteger, by omega, by omega⟩, rfl⟩

/-- A limit is taken up to 32 bits, and as what it is. -/
theorem takesBetween_givenLimit :
    TakesBetween 1 (2 ^ 32 - 1) (fun n => some n.toNat) block "limit"
      (.nonPositiveArgument block.layerType "limit" "4") (givenLimit block) := by
  -- The two checks of a limit have one fault.
  refine takesBetween_of_only (fun x => ?_) fun own => Layer.eq_of_givenLimit_eq_error
  rw [Layer.givenLimit_eq_ok_iff, exists_hasLimit_iff]

end Block

namespace Layer

variable {block : Block}

/-- Grid lines that are built have the limit that is given, and no other one. -/
theorem limit_of_buildGridLines {layer : Layer} (built : buildGridLines block = .ok layer) :
    ∃ grid, layer = .gridLines grid ∧
      (block.Lacks "limit" ∧ grid.limit = none ∨
        ∃ n, block.GivesInt "limit" n ∧ 1 ≤ n ∧ n ≤ 2 ^ 32 - 1 ∧
          grid.limit = some n.toNat) := by
  -- The limit of what is built is one of the fields that are read.
  obtain ⟨grid, rfl, readFrom⟩ := buildGridLines_eq_ok_iff.1 built
  exact ⟨grid, rfl, readFrom.limit.imp_right Block.exists_hasLimit_iff.1⟩

/-- Behind a direction, a limit that is not taken refuses the grid lines. -/
theorem buildGridLines_of_refused_limit {axis : Axis} {fault : Fault}
    (direction : block.Gives "direction" axis.name) (given : ¬ block.Lacks "limit")
    (refused : givenLimit block = .error fault) :
    buildGridLines block = .error (.tagged fault) := by
  have directed : block.expectChoice "direction" Axis.all Axis.name = .ok axis :=
    (expectChoice_eq_ok_iff names_axis).2 direction
  have limited : readLimit block = .error fault := by
    rw [readLimit_eq_ifGiven, if_pos (Block.has_iff.2 given), refused]
  -- The limit is read second, and what comes behind it is not reached.
  rw [buildGridLines, directed, limited]
  rfl

/--
Which whole numbers are taken as arguments.

A text of any length counts by the number it denotes, so that none is cut to fit its type.
A number that may be left out is read as one that must be there, unless its key is not given at all.
-/
theorem whole_numbers_taken_or_refused (block : Block) (key sample : String) (default : Int) :
    Block.TakesBetween (-2 ^ 63) (2 ^ 63 - 1) id block key
      (.wrongArgument block.layerType key "integer" sample) (block.expectInt key sample) ∧
    Block.TakesBetween 1 (2 ^ 63 - 1) id block key
      (.nonPositiveArgument block.layerType key sample) (block.expectPositiveInt key sample) ∧
    (∀ outcome, block.intD key default sample = outcome ↔
      block.Lacks key ∧ outcome = .ok default ∨
        ¬ block.Lacks key ∧ outcome = block.expectInt key sample) ∧
    (∀ outcome, readLimit block = outcome ↔
      block.Lacks "limit" ∧ outcome = .ok none ∨
        ¬ block.Lacks "limit" ∧ outcome = givenLimit block) ∧
    Block.TakesBetween 1 (2 ^ 32 - 1) (fun n => some n.toNat) block "limit"
      (.nonPositiveArgument block.layerType "limit" "4") (givenLimit block) ∧
    (∀ layer, buildGridLines block = .ok layer → ∃ grid, layer = .gridLines grid ∧
      (block.Lacks "limit" ∧ grid.limit = none ∨
        ∃ n, block.GivesInt "limit" n ∧ 1 ≤ n ∧ n ≤ 2 ^ 32 - 1 ∧ grid.limit = some n.toNat)) ∧
    ∀ (axis : Axis) fault, block.Gives "direction" axis.name → ¬ block.Lacks "limit" →
      givenLimit block = .error fault → buildGridLines block = .error (.tagged fault) := by
  -- Each part is a lemma of its own, and the last two are about the key that may be left out.
  refine ⟨Block.takesBetween_expectInt, Block.takesBetween_expectPositiveInt, fun outcome => ?_,
    fun outcome => ?_, Block.takesBetween_givenLimit, fun _ => limit_of_buildGridLines,
    fun _ _ => buildGridLines_of_refused_limit⟩
  · rw [Block.intD, Block.ite_has_eq_iff]
  · rw [readLimit_eq_ifGiven, Block.ite_has_eq_iff]

/-- Grid lines whose last limit is one more than 32 bits hold. -/
def overLimited : Block where
  layerType := "grid-lines"
  arguments := [⟨"direction", some "vertical"⟩, ⟨"limit", some "1"⟩,
    ⟨"limit", some " +04294967296 "⟩]

/-- A number that is one too great for a limit is still a whole number, and is not cut to zero. -/
theorem whole_numbers_taken_or_refused_over_limited :
    overLimited.Gives "direction" Axis.vertical.name ∧ ¬ overLimited.Lacks "limit" ∧
      overLimited.GivesInt "limit" 4294967296 ∧
      givenLimit overLimited = .error (.nonPositiveArgument "grid-lines" "limit" "4") ∧
      buildGridLines overLimited =
        .error (.tagged (.nonPositiveArgument "grid-lines" "limit" "4")) := by
  -- One more than 32 bits hold is a whole number of 64 bits, and it is no limit.
  obtain ⟨taken, _, _, _, _, _, refused⟩ :=
    whole_numbers_taken_or_refused overLimited "limit" "4" 0
  have direction : overLimited.Gives "direction" Axis.vertical.name :=
    Block.gives_iff.2 (by decide)
  have given : ¬ overLimited.Lacks "limit" := Block.has_iff.1 (by decide)
  have read : overLimited.expectInt "limit" "4" = .ok 4294967296 := by rfl
  have tooGreat : givenLimit overLimited =
      .error (.nonPositiveArgument "grid-lines" "limit" "4") := by rfl
  obtain ⟨n, gives, _, _, same⟩ := (taken.ok_iff _).1 read
  obtain rfl : 4294967296 = n := same
  exact ⟨direction, given, gives, tooGreat, refused .vertical _ direction given tooGreat⟩

end Layer

end OverlaySheet
