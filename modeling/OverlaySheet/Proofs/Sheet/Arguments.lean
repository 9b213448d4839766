import Mathlib.Data.List.Basic
import OverlaySheet.Proofs.Outcome
import OverlaySheet.Sheet.Run

/-! Arguments of a block: when tokens can be pushed onto it, and what they add. -/

namespace OverlaySheet

/-- A token read as an argument, whether or not its key is empty. -/
def Token.argument (token : Text) : Argument where
  key := String.ofList (Text.cut '=' token).1
  value := (Text.cut '=' token).2.map String.ofList

/-- A token has a key when something stands before its first equals sign. -/
def Token.HasKey (token : Text) : Prop :=
  (Text.cut '=' token).1 ≠ []

/-- A token is an argument exactly when it has a key. -/
theorem Token.toArgument_eq_ok_iff {token : Text} {argument : Argument} :
    Token.toArgument token = .ok argument ↔
      Token.HasKey token ∧ argument = Token.argument token := by
  -- The key is what stands before the first sign, and only its emptiness is asked.
  simp only [Token.toArgument, Token.HasKey, Token.argument]
  cases (Text.cut '=' token).1 with
  | nil => simp
  | cons c key => simp [eq_comm]

namespace Block

/-- A key is given when some argument has it. -/
theorem has_eq_any (block : Block) (key : String) :
    block.has key = block.arguments.any fun argument => argument.key = key := by
  -- The search runs from behind, but whether it finds something does not depend on that.
  rw [Bool.eq_iff_iff]
  simp [has, find?]

/-- One more argument gives its own key beside the others. -/
@[simp] theorem has_push (block : Block) (argument : Argument) (key : String) :
    (block.push argument).has key = (block.has key || decide (argument.key = key)) := by
  simp [has_eq_any, push]

/-- One token is pushed when it has a key, which must be new where keys may not repeat. -/
theorem pushToken_eq_ok_iff {rule : DuplicateRule} {block result : Block} {token : Text} :
    pushToken rule block token = .ok result ↔
      Token.HasKey token ∧
        (rule = .reject → block.has (Token.argument token).key = false) ∧
        result = block.push (Token.argument token) := by
  rw [pushToken, bind_eq_ok_iff]
  constructor
  · intro succeeded
    obtain ⟨argument, read, pushed⟩ := succeeded
    -- A token that was read has a key, and the rule is asked next.
    obtain ⟨hasKey, rfl⟩ := Token.toArgument_eq_ok_iff.1 read
    split at pushed
    · exact absurd pushed (by simp)
    · next allowed =>
      refine ⟨hasKey, fun reject => ?_, (pure_eq_ok_iff.1 pushed).symm⟩
      simpa using fun given => allowed ⟨reject, given⟩
  · intro parts
    obtain ⟨hasKey, allowed, rfl⟩ := parts
    refine ⟨Token.argument token, Token.toArgument_eq_ok_iff.2 ⟨hasKey, rfl⟩, ?_⟩
    rw [if_neg (fun both => by simp [allowed both.1] at both), pure_eq_ok_iff]

/-- Tokens pushed in two goes are pushed in one. -/
theorem pushTokens_append_eq_ok_iff {rule : DuplicateRule} {block result : Block}
    {left right : List Text} :
    pushTokens rule block (left ++ right) = .ok result ↔
      ∃ middle, pushTokens rule block left = .ok middle ∧
        pushTokens rule middle right = .ok result := by
  -- Pushing tokens is a fold, so it can be cut in two between any two of them.
  rw [pushTokens, List.foldlM_append, bind_eq_ok_iff]
  rfl

/--
When tokens can be pushed, and what comes of it.

Each needs a key.
Where keys may not repeat, they differ from each other and from those that the block has.
-/
theorem pushTokens_eq_ok_iff {rule : DuplicateRule} {block result : Block} {tokens : List Text} :
    pushTokens rule block tokens = .ok result ↔
      (∀ token ∈ tokens, Token.HasKey token) ∧
        (rule = .reject → (tokens.map fun token => (Token.argument token).key).Nodup ∧
          ∀ token ∈ tokens, block.has (Token.argument token).key = false) ∧
        result = { block with arguments := block.arguments ++ tokens.map Token.argument } := by
  induction tokens generalizing block with
  | nil => simp [pushTokens, @eq_comm _ block result]
  | cons token rest ih =>
    -- Pushing goes token by token.
    have inTwo : pushTokens rule block (token :: rest) = .ok result ↔
        ∃ middle, pushToken rule block token = .ok middle ∧
          pushTokens rule middle rest = .ok result := by
      rw [pushTokens, List.foldlM_cons, bind_eq_ok_iff]
      rfl
    rw [inTwo]
    constructor
    · intro succeeded
      obtain ⟨middle, pushed, others⟩ := succeeded
      obtain ⟨hasKey, new, rfl⟩ := pushToken_eq_ok_iff.1 pushed
      obtain ⟨haveKeys, newOthers, rfl⟩ := ih.1 others
      refine ⟨List.forall_mem_cons.2 ⟨hasKey, haveKeys⟩, fun reject => ?_, by simp [push]⟩
      obtain ⟨distinct, unlike⟩ := newOthers reject
      -- The later keys are unlike the first, because it had been pushed before them.
      have apart : ∀ later ∈ rest, block.has (Token.argument later).key = false ∧
          (Token.argument token).key ≠ (Token.argument later).key := by
        intro later member
        simpa using unlike later member
      refine ⟨List.nodup_cons.2 ⟨?_, distinct⟩, List.forall_mem_cons.2 ⟨new reject, ?_⟩⟩
      · simp only [List.mem_map, not_exists, not_and]
        exact fun later member same => (apart later member).2 same.symm
      · exact fun later member => (apart later member).1
    · intro parts
      obtain ⟨haveKeys, new, rfl⟩ := parts
      obtain ⟨hasKey, others⟩ := List.forall_mem_cons.1 haveKeys
      refine ⟨block.push (Token.argument token), pushToken_eq_ok_iff.2 ⟨hasKey, fun reject =>
        (new reject).2 token (by simp), rfl⟩, ih.2 ⟨others, fun reject => ?_, by simp [push]⟩⟩
      obtain ⟨distinct, unlike⟩ := new reject
      obtain ⟨first, distinct⟩ := List.nodup_cons.1 distinct
      refine ⟨distinct, fun later member => ?_⟩
      -- The first key is new to the later ones because all of them differ.
      have unlikeFirst : (Token.argument token).key ≠ (Token.argument later).key := fun same =>
        first (List.mem_map.2 ⟨later, member, same.symm⟩)
      simp [unlike later (by simp [member]), unlikeFirst]

end Block

end OverlaySheet
