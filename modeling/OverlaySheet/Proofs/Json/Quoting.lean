import Mathlib.Tactic.SplitIfs
import OverlaySheet.Json.Printer
import OverlaySheet.Json.Reader

/-! What is next in JSON behind blanks, and texts in quotes: each is read back as it was written. -/

namespace OverlaySheet.Json

/-- A text has nothing but blanks. -/
def Blanks (text : Text) : Prop :=
  ∀ c ∈ text, isBlank c = true

/-- Blanks in front of a text are skipped. -/
theorem skipBlanks_blanks {gap : Text} (blanks : Blanks gap) (text : Text) :
    skipBlanks (gap ++ text) = skipBlanks text :=
  List.dropWhile_append_of_pos blanks

/-- What is next is looked for behind all blanks. -/
theorem after?_blanks (c : Char) {gap : Text} (blanks : Blanks gap) (text : Text) :
    after? c (gap ++ text) = after? c text := by
  rw [after?, skipBlanks_blanks blanks, after?]

/-- A character that is no blank is looked at where it stands. -/
theorem after?_cons {c next : Char} {rest : Text} (solid : isBlank next = false) :
    after? c (next :: rest) = if next = c then some rest else none := by
  simp [after?, skipBlanks, solid]

/-- A character that is next is taken, unless it is a blank. -/
theorem after?_self {c : Char} (rest : Text) (solid : isBlank c = false) :
    after? c (c :: rest) = some rest := by
  rw [after?_cons solid, if_pos rfl]

/-- No other character is taken in place of the one that is next. -/
theorem after?_of_ne {c next : Char} (rest : Text) (solid : isBlank next = false)
    (other : next ≠ c) : after? c (next :: rest) = none := by
  rw [after?_cons solid, if_neg other]

/-- The closing quote ends a text. -/
@[simp] theorem stringBody_quote (rest : Text) :
    stringBody .used ('"' :: rest) = some ([], rest) := by
  -- The reader is opened for one step, and the quote is looked for first.
  rw [stringBody.eq_def]
  simp

/-- A character that is no quote, no backslash and no control character stands for itself. -/
theorem stringBody_plain {c : Char} (rest : Text) (noQuote : c ≠ '"') (noBackslash : c ≠ '\\')
    (noControl : ¬ c.toNat < 0x20) :
    stringBody .used (c :: rest) = pushChar c (stringBody .used rest) := by
  -- None of the characters that the reader treats apart is this one.
  rw [stringBody.eq_def]
  simp [noQuote, noBackslash, noControl]

/-- A short escape stands for its character. -/
theorem stringBody_shortEscape {escape c : Char} (rest : Text) (noCode : escape ≠ 'u')
    (short : shortEscape? escape = some c) :
    stringBody .used ('\\' :: escape :: rest) = pushChar c (stringBody .used rest) := by
  -- Behind a backslash the character decides, and only that for a code takes more than itself.
  rw [stringBody.eq_def]
  simp [noCode, short]

/-- The code of a control character is read from its two hex digits behind two zeros. -/
theorem value?_hexEscape {code : Nat} (control : code < 0x20) :
    Hex.value? ['0', '0', Nat.digitChar (code / 16), Nat.digitChar (code % 16)] = some code := by
  -- There are only thirty-two such codes, so each of them is tried.
  have each : ∀ code < 0x20,
      Hex.value? ['0', '0', Nat.digitChar (code / 16), Nat.digitChar (code % 16)] = some code := by
    decide
  exact each code control

/-- A control character is read back from its code. -/
theorem stringBody_hexEscape {c : Char} (control : c.toNat < 0x20) (rest : Text) :
    stringBody .used (hexEscape c ++ rest) = pushChar c (stringBody .used rest) := by
  -- The code is far below those that come in pairs.
  have noHigh : isHighSurrogate c.toNat = false := by
    simp only [isHighSurrogate, Bool.and_eq_false_iff, decide_eq_false_iff_not]
    omega
  have noLow : isLowSurrogate c.toNat = false := by
    simp only [isLowSurrogate, Bool.and_eq_false_iff, decide_eq_false_iff_not]
    omega
  rw [hexEscape, List.cons_append, stringBody.eq_def]
  simp [value?_hexEscape control, noHigh, noLow]

/-- Each character inside quotes is read back from the way it is written. -/
@[simp] theorem stringBody_writeChar (c : Char) (rest : Text) :
    stringBody .used (writeChar c ++ rest) = pushChar c (stringBody .used rest) := by
  unfold writeChar
  -- The cases are those of the writer: seven short escapes, the codes and all other characters.
  split_ifs with quotes backslash newline carriageReturn tab backspace formFeed control
  · subst quotes
    exact stringBody_shortEscape rest (by decide) (by decide)
  · subst backslash
    exact stringBody_shortEscape rest (by decide) (by decide)
  · subst newline
    exact stringBody_shortEscape rest (by decide) (by decide)
  · subst carriageReturn
    exact stringBody_shortEscape rest (by decide) (by decide)
  · subst tab
    exact stringBody_shortEscape rest (by decide) (by decide)
  · subst backspace
    exact stringBody_shortEscape rest (by decide) (by decide)
  · subst formFeed
    exact stringBody_shortEscape rest (by decide) (by decide)
  · exact stringBody_hexEscape control rest
  · exact stringBody_plain rest quotes backslash control

/-- A text is read back from its characters up to the quote behind them. -/
@[simp] theorem stringBody_flatMap (text rest : Text) :
    stringBody .used (text.flatMap writeChar ++ '"' :: rest) = some (text, rest) := by
  -- Every character is read back as itself, and the last quote ends the text.
  induction text with
  | nil => exact stringBody_quote rest
  | cons c text ih =>
    rw [List.flatMap_cons, List.append_assoc, stringBody_writeChar, ih]
    rfl

/-- A text in quotes opens them and then goes on with its characters. -/
theorem quote_append (text rest : Text) :
    quote text ++ rest = '"' :: (text.flatMap writeChar ++ '"' :: rest) := by
  simp [quote]

/-- Blanks in front of a string are skipped. -/
theorem takeString?_blanks (care : Care) {gap : Text} (blanks : Blanks gap) (text : Text) :
    takeString? care (gap ++ text) = takeString? care text := by
  rw [takeString?, after?_blanks _ blanks, takeString?]

/-- A string is read back from its quotes. -/
theorem takeString?_quote (s : String) (rest : Text) :
    takeString? .used (quote s.toList ++ rest) = some (s, rest) := by
  -- The quotes in front are taken away, and the rest is read up to the quote behind.
  rw [takeString?, quote_append, after?_self _ (by decide)]
  simp

/-- The name of a field is read back with blanks in front of it and the colon behind it. -/
theorem takeName?_quote {gap : Text} (blanks : Blanks gap) (name : String) (rest : Text) :
    takeName? .used (gap ++ quote name.toList ++ ':' :: rest) = some (name, rest) := by
  -- The blanks are skipped, then the quotes are read, and the colon is what is left.
  rw [takeName?, List.append_assoc, takeString?_blanks _ blanks, takeString?_quote]
  simp [after?_self rest (show isBlank ':' = false by decide)]

end OverlaySheet.Json
