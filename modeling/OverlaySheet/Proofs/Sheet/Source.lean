import OverlaySheet.Proofs.Text.ByteLines
import OverlaySheet.Sheet.Source

/-! Sheets read from bytes: they are read as their text, or break off at the first wrong line. -/

namespace OverlaySheet

/-- Of lines that are not all UTF-8, some in front are, and the next one is not. -/
theorem Utf8.exists_first_invalid {lines : List Bytes} (broken : ¬ ∀ line ∈ lines, Valid line) :
    ∃ (texts : List Text) (line : Bytes) (others : List Bytes),
      lines = texts.map encode ++ line :: others ∧ ¬ Valid line := by
  induction lines with
  | nil => exact absurd (List.forall_mem_nil _) broken
  | cons first rest ih =>
    by_cases valid : Valid first
    · -- The wrong line is among the others.
      have brokenLater : ¬ ∀ line ∈ rest, Valid line := fun all =>
        broken (List.forall_mem_cons.2 ⟨valid, all⟩)
      obtain ⟨text, rfl⟩ := valid
      obtain ⟨texts, line, others, rfl, invalid⟩ := ih brokenLater
      exact ⟨text :: texts, line, others, rfl, invalid⟩
    · exact ⟨[], first, rest, rfl, valid⟩

namespace Source

/-- Lines that are UTF-8 are read one by one, whatever lines come behind them. -/
theorem ofByteLines_append (texts : List Text) (rest : List Bytes) :
    ofByteLines (texts.map Utf8.encode ++ rest) =
      { lines := texts ++ (ofByteLines rest).lines, failure := (ofByteLines rest).failure } := by
  -- Each line decodes to its own text, so the induction follows the lines.
  induction texts with
  | nil => rfl
  | cons text texts ih =>
    have decoded : Utf8.decode (Utf8.encode text) = .ok text := Utf8.decode_eq_ok_iff.2 rfl
    simp only [List.map_cons, List.cons_append, ofByteLines, decoded, ih]

/-- At a line that is not UTF-8 reading breaks off. -/
theorem ofByteLines_of_not_valid {line : Bytes} (invalid : ¬ Utf8.Valid line)
    (others : List Bytes) :
    ofByteLines (line :: others) = { lines := [], failure := some notUtf8 } := by
  -- A line that is decoded would be the bytes of the text that comes out.
  rw [ofByteLines]
  cases decoded : Utf8.decode line with
  | ok text => exact absurd ⟨text, Utf8.decode_eq_ok_iff.1 decoded⟩ invalid
  | error wrong => rfl

/-- The bytes of a text are read as all of its lines. -/
theorem ofBytes_encode (text : Text) : ofBytes (Utf8.encode text) = { lines := text.lines } := by
  -- A text and its bytes break at the same places.
  have whole := ofByteLines_append text.lines []
  rwa [List.append_nil, ← Utf8.byteLines_encode, ofByteLines, List.append_nil] at whole

/-- Bytes that are not UTF-8 are read up to their first line that is not. -/
theorem ofBytes_of_not_valid {bytes : Bytes} (broken : ¬ Utf8.Valid bytes) :
    ∃ (texts : List Text) (line : Bytes) (others : List Bytes),
      byteLines bytes = texts.map Utf8.encode ++ line :: others ∧ ¬ Utf8.Valid line ∧
      ofBytes bytes = { lines := texts, failure := some notUtf8 } := by
  -- Bytes are UTF-8 exactly when all of their lines are, so there is a first that is not.
  obtain ⟨texts, line, others, lines, invalid⟩ :=
    Utf8.exists_first_invalid (mt Utf8.valid_iff_byteLines.2 broken)
  refine ⟨texts, line, others, lines, invalid, ?_⟩
  rw [ofBytes, lines, ofByteLines_append, ofByteLines_of_not_valid invalid, List.append_nil]

end Source

namespace Dialect

variable {Layer : Type}

/--
Reading bytes is reading their text, or breaking off at the first line that is not UTF-8.

A fault on a line before that one comes first, and the block that is open there is not ended.
-/
theorem inflateSource_ofBytes (dialect : Dialect Layer) (bytes : Bytes) :
    (∀ text, bytes = Utf8.encode text →
      dialect.inflateSource (.ofBytes bytes) = dialect.inflate text) ∧
    (¬ Utf8.Valid bytes → ∃ (texts : List Text) (line : Bytes) (others : List Bytes),
      byteLines bytes = texts.map Utf8.encode ++ line :: others ∧ ¬ Utf8.Valid line ∧
      dialect.inflateSource (.ofBytes bytes) =
        match dialect.readLines 0 dialect.start texts with
        | .error fault => .error fault
        | .ok _ =>
          .error { kind := .generic, line := some texts.length, args := [],
                   cause := some (.untagged Source.notUtf8) }) := by
  constructor
  · -- The bytes of a text give its lines back without a failure.
    rintro text rfl
    rw [Source.ofBytes_encode]
    rfl
  · intro broken
    obtain ⟨texts, line, others, lines, invalid, source⟩ := Source.ofBytes_of_not_valid broken
    refine ⟨texts, line, others, lines, invalid, ?_⟩
    rw [source, inflateSource]
    -- The run over the lines in front fails by itself, or all of them are read.
    cases dialect.readLines 0 dialect.start texts with
    | error fault => rfl
    | ok run => rfl

/-- A wrong line behind a header is told, and the open block, whose builder fails, is not built. -/
theorem inflateSource_ofBytes_open_block :
    ¬ Utf8.Valid (Utf8.encode "fill\n".toList ++ [0xFF, 10]) ∧
      Dialect.inflateSource
          { registry := Registry.empty.register "fill" fun _ => .error (.untagged "no") }
          (.ofBytes (Utf8.encode "fill\n".toList ++ [0xFF, 10])) =
        (.error { kind := .generic, line := some 1, args := [],
                  cause := some (.untagged Source.notUtf8) } :
          Except Fault (List (Overlay Unit))) := by
  have broken : ¬ Utf8.Valid (Utf8.encode "fill\n".toList ++ [0xFF, 10]) := by decide
  refine ⟨broken, ?_⟩
  obtain ⟨texts, line, others, lines, invalid, result⟩ := (inflateSource_ofBytes
    { registry := Registry.empty.register "fill" fun _ => .error (.untagged "no") } _).2 broken
  rw [result]
  have split : byteLines (Utf8.encode "fill\n".toList ++ [0xFF, 10]) =
      [Utf8.encode "fill".toList, [0xFF]] := by decide
  rw [split] at lines
  -- The first line is UTF-8 and the second is not, so the text before the fault has one line.
  match texts, lines with
  | [], same =>
    obtain ⟨rfl, _⟩ := List.cons.inj same
    exact absurd ⟨_, rfl⟩ invalid
  | [first], same =>
    have first_eq : "fill".toList = first := Except.ok.inj
      ((Utf8.decode_eq_ok_iff.2 rfl).symm.trans (Utf8.decode_eq_ok_iff.2 (List.cons.inj same).1))
    subst first_eq
    rfl
  | _ :: second :: _, same =>
    have valid : Utf8.Valid [0xFF] := ⟨second, (List.cons.inj (List.cons.inj same).2).1⟩
    exact absurd valid (by decide)

end Dialect

end OverlaySheet
