import OverlaySheet.Proofs.Outcome
import OverlaySheet.Sheet.Run

/-! Runs over lines: what each step of a run can do when it succeeds. -/

namespace OverlaySheet.Dialect

variable {Layer : Type} {dialect : Dialect Layer}

/-- The overlays of a run that reads some more lines, the first with the given number, and ends. -/
def finish (dialect : Dialect Layer) (number : Nat) (run : Run Layer) (lines : List Text) :
    Except Fault (List (Overlay Layer)) := do
  let last ← dialect.readLines number run lines
  complete last

/-- Inflating lines is finishing the run before the first of them. -/
theorem inflateLines_eq_finish (lines : List Text) :
    dialect.inflateLines lines = dialect.finish 0 dialect.start lines :=
  rfl

/-- Without more lines, what is left is to end the open block. -/
theorem finish_nil_eq_ok_iff {number : Nat} {run : Run Layer} {result : List (Overlay Layer)} :
    dialect.finish number run [] = .ok result ↔
      ∃ closed, endBlock run = .ok closed ∧ closed.overlays = result := by
  simp only [finish, readLines, bind_eq_ok_iff, complete, pure_eq_ok_iff]
  constructor
  · -- Reading no lines leaves the run as it is.
    intro succeeded
    obtain ⟨last, same, closed, ended, rfl⟩ := succeeded
    obtain rfl := Except.ok.inj same
    exact ⟨closed, ended, rfl⟩
  · intro parts
    obtain ⟨closed, ended, rfl⟩ := parts
    exact ⟨run, rfl, closed, ended, rfl⟩

/-- A line is read by one step, and the other lines by the run that comes out of it. -/
theorem finish_cons_eq_ok_iff {number : Nat} {run : Run Layer} {raw : Text} {rest : List Text}
    {result : List (Overlay Layer)} :
    dialect.finish number run (raw :: rest) = .ok result ↔
      ∃ next, dialect.step number run (Line.ofText dialect.grammar raw) = .ok next ∧
        dialect.finish (number + 1) next rest = .ok result := by
  -- The number of the line appears in faults alone.
  simp only [finish, readLines, readLine, bind_eq_ok_iff, mapError_eq_ok_iff]
  constructor
  · intro succeeded
    obtain ⟨last, ⟨next, stepped, others⟩, completed⟩ := succeeded
    exact ⟨next, stepped, last, others, completed⟩
  · intro parts
    obtain ⟨next, stepped, last, others, completed⟩ := parts
    exact ⟨last, ⟨next, stepped, others⟩, completed⟩

/-- An open block ends with the layer that its builder makes of it. -/
theorem endBlock_inBlock_eq_ok_iff {scope : Scope} {current : OpenBlock Layer}
    {overlays : List (Overlay Layer)} {closed : Run Layer} :
    endBlock { scope, phase := .inBlock current, overlays } = .ok closed ↔
      ∃ layer, current.builder current.block = .ok layer ∧
        closed = { scope, phase := .between, overlays := Overlay.pushLast layer overlays } := by
  simp only [endBlock, bind_eq_ok_iff, pure_eq_ok_iff, OpenBlock.build]
  -- A fault of the builder gets the line of the header, but it stays a fault.
  cases current.builder current.block with
  | ok layer => simp [eq_comm]
  | error failure => simp

/-- A block begins with a registered type that has no value, and then arguments. -/
theorem beginBlock_eq_ok_iff {number : Nat} {tokens : List Text} {current : OpenBlock Layer} :
    dialect.beginBlock number tokens = .ok current ↔
      ∃ layerType arguments builder block, tokens = layerType :: arguments ∧ '=' ∉ layerType ∧
        dialect.registry.find? (String.ofList layerType) = some builder ∧
        Block.pushTokens dialect.grammar.duplicates { layerType := String.ofList layerType }
          arguments = .ok block ∧
        current = { header := number, builder, block } := by
  cases tokens with
  | nil => simp [beginBlock]
  | cons token arguments =>
    -- The type is looked up as text, so a value in it is found before the registry is asked.
    by_cases valued : '=' ∈ token
    · -- The first token has a value, so it is no type.
      have hasValue : Token.hasValue token = true := by simpa [Token.hasValue] using valued
      simp only [beginBlock, hasValue, if_true, List.cons.injEq]
      constructor
      · intro failed
        cases failed
      · intro parts
        obtain ⟨_, _, _, _, ⟨rfl, _⟩, plain, _⟩ := parts
        exact absurd valued plain
    · have hasValue : Token.hasValue token = false := by simpa [Token.hasValue] using valued
      simp only [beginBlock, hasValue, Bool.false_eq_true, if_false]
      cases found : dialect.registry.find? (String.ofList token) with
      -- An unknown type is refused.
      | none =>
        simp only [List.cons.injEq]
        constructor
        · intro failed
          cases failed
        · intro parts
          obtain ⟨_, _, _, _, ⟨rfl, rfl⟩, _, registered, _⟩ := parts
          simp [found] at registered
      -- A known type takes the other tokens as arguments.
      | some builder =>
        simp only [bind_eq_ok_iff, pure_eq_ok_iff]
        constructor
        · intro succeeded
          obtain ⟨block, pushed, rfl⟩ := succeeded
          exact ⟨token, arguments, builder, block, rfl, valued, found, pushed, rfl⟩
        · intro parts
          obtain ⟨_, _, _, block, same, _, registered, pushed, rfl⟩ := parts
          obtain ⟨rfl, rfl⟩ := List.cons.inj same
          obtain rfl := Option.some.inj (found.symm.trans registered)
          exact ⟨block, pushed, rfl⟩

/-- A header line opens the block that its expanded tokens begin. -/
theorem readHeader_eq_ok_iff {number : Nat} {text : Text} {run next : Run Layer} :
    dialect.readHeader number text run = .ok next ↔
      ∃ tokens current, run.scope.expandAll (Token.split text) = .ok tokens ∧
        dialect.beginBlock number tokens = .ok current ∧
        next = { run with phase := .inBlock current } := by
  -- The scope is not touched by a header, so the tokens are expanded as they would be before it.
  simp only [readHeader, bind_eq_ok_iff, pure_eq_ok_iff]
  constructor
  · intro succeeded
    obtain ⟨tokens, expanded, current, begun, rfl⟩ := succeeded
    exact ⟨tokens, current, expanded, begun, rfl⟩
  · intro parts
    obtain ⟨tokens, current, expanded, begun, rfl⟩ := parts
    exact ⟨tokens, expanded, current, begun, rfl⟩

/-- A further line of a block pushes its expanded tokens. -/
theorem extendBlock_eq_ok_iff {text : Text} {current : OpenBlock Layer} {run next : Run Layer} :
    dialect.extendBlock text current run = .ok next ↔
      ∃ tokens block, run.scope.expandAll (Token.split text) = .ok tokens ∧
        Block.pushTokens dialect.grammar.duplicates current.block tokens = .ok block ∧
        next = { run with phase := .inBlock { current with block } } := by
  -- Only the block of the open block changes.
  simp only [extendBlock, bind_eq_ok_iff, pure_eq_ok_iff]
  constructor
  · intro succeeded
    obtain ⟨tokens, expanded, block, pushed, rfl⟩ := succeeded
    exact ⟨tokens, block, expanded, pushed, rfl⟩
  · intro parts
    obtain ⟨tokens, block, expanded, pushed, rfl⟩ := parts
    exact ⟨tokens, expanded, block, pushed, rfl⟩

end OverlaySheet.Dialect
