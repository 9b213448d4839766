import OverlaySheet.Proofs.Sheet.Rejection
import OverlaySheet.Proofs.Sheet.Scope
import OverlaySheet.Proofs.Sheet.SignGap
import OverlaySheet.Proofs.Text.Pattern

/-! The form of a declaration: one name and one value in it, and a scope that faults leave alone. -/

namespace OverlaySheet

open Text (AsciiBlank EndsSolid inRanges isAsciiBlank)

namespace Declaration

/-- What a name may start with: the letters of ASCII and the underscore. -/
def firstRanges : List (Char × Char) :=
  [('A', 'Z'), ('a', 'z'), ('_', '_')]

/-- What a name may go on with: the same, the digits of ASCII, the point and the hyphen. -/
def furtherRanges : List (Char × Char) :=
  firstRanges ++ [('0', '9'), ('.', '.'), ('-', '-')]

/-- The blanks of ASCII: five controls in a row, and the space. -/
def gapRanges : List (Char × Char) :=
  [('\t', '\r'), (' ', ' ')]

/-- A name, an equals sign between blanks, and a value of at least one character on one line. -/
def pattern : Pattern :=
  [.one (inRanges firstRanges), .many (inRanges furtherRanges), .many (inRanges gapRanges),
    .one (· == '='), .many (inRanges gapRanges), .one (· != '\n'), .many (· != '\n')]

/-- The name and the value among the parts that match the pattern. -/
def ofParts : List Text → Option Declaration
  | [first, further, _, _, _, start, rest] => some ⟨first ++ further, start ++ rest⟩
  | _ => none

/-- The declaration that a search by the pattern finds in a text without the blanks at its end. -/
def capture? (text : Text) : Option Declaration :=
  (pattern.search text.trimEnd).bind ofParts

/--
A declaration fits a text: the name, an equals sign between ASCII blanks, and the value.

The value is not empty and has no newline, and it may itself start with such blanks.
-/
structure Fits (text : Text) (declaration : Declaration) : Prop where
  isName : IsName declaration.name
  nonempty : declaration.value ≠ []
  oneLine : '\n' ∉ declaration.value
  form : ∃ before after : Text, AsciiBlank before ∧ AsciiBlank after ∧
    text = declaration.name ++ (before ++ '=' :: (after ++ declaration.value))

/-- The value of a declaration starts with a character that is no blank of ASCII. -/
def OpensValue (declaration : Declaration) : Prop :=
  declaration.value.head?.any (fun c => !isAsciiBlank c) = true

section Classes

variable (c : Char)

/-- The ranges for the front of a name hold the characters that names start with. -/
theorem inRanges_firstRanges : inRanges firstRanges c = isNameStart c := by
  -- The two ranges of letters are those of the library, and the underscore is a range of its own.
  have upper : (decide ('A' ≤ c) && decide (c ≤ 'Z')) = c.isUpper := (Bool.decide_and _ _).symm
  have lower : (decide ('a' ≤ c) && decide (c ≤ 'z')) = c.isLower := rfl
  have letter : c.isAlpha = (c.isUpper || c.isLower) := rfl
  simp only [inRanges, firstRanges, List.any_cons, List.any_nil, Bool.or_false, upper, lower,
    Text.within_self, isNameStart, letter, Bool.or_assoc]

/-- The ranges behind it hold the characters that names go on with. -/
theorem inRanges_furtherRanges : inRanges furtherRanges c = isNameChar c := by
  have first : firstRanges.any (fun range => range.1 ≤ c && c ≤ range.2) = isNameStart c :=
    inRanges_firstRanges c
  have digit : (decide ('0' ≤ c) && decide (c ≤ '9')) = c.isDigit := rfl
  have letterOrDigit : c.isAlphanum = (c.isAlpha || c.isDigit) := rfl
  simp only [inRanges, furtherRanges, List.any_append, first, List.any_cons, List.any_nil,
    Bool.or_false, digit, Text.within_self, isNameStart, isNameChar, letterOrDigit, Bool.or_assoc]
  -- The two differ in the order of the underscore and the digits.
  rw [Bool.or_left_comm (c == '_')]

/-- The ranges of blanks hold those of ASCII. -/
theorem inRanges_gapRanges : inRanges gapRanges c = isAsciiBlank c := by
  -- A tabulator and the four characters behind it make one range, and the space is the other.
  have controls : (decide ('\t' ≤ c) && decide (c ≤ '\r')) = (9 ≤ c.toNat && c.toNat ≤ 13) := rfl
  simp only [inRanges, gapRanges, List.any_cons, List.any_nil, Bool.or_false, controls,
    Text.within_self, isAsciiBlank]

/-- The pattern is made of the classes of characters that a declaration is read by. -/
theorem pattern_eq :
    pattern = [.one isNameStart, .many isNameChar, .many isAsciiBlank, .one (· == '='),
      .many isAsciiBlank, .one (· != '\n'), .many (· != '\n')] := by
  -- Each of the three classes is proved apart, and so the whole pattern is rewritten by them.
  rw [pattern, funext inRanges_firstRanges, funext inRanges_furtherRanges,
    funext inRanges_gapRanges]

end Classes

section Splits

variable {text : Text} {declaration : Declaration}

/-- A name is a first character of its own class and others behind it. -/
theorem isName_iff {name : Text} :
    IsName name ↔ ∃ first further, name = first :: further ∧ isNameStart first = true ∧
      ∀ c ∈ further, isNameChar c = true := by
  constructor
  · rintro ⟨starts, all⟩
    -- The first character of a name is its head, and it is one of those that may follow as well.
    cases name with
    | nil => cases starts
    | cons first further =>
      exact ⟨first, further, rfl, by simpa using starts, (List.forall_mem_cons.1 all).2⟩
  · rintro ⟨first, further, rfl, starts, all⟩
    refine ⟨by simpa using starts, List.forall_mem_cons.2 ⟨?_, all⟩⟩
    -- A letter or an underscore may also stand further back.
    simp only [isNameStart, Bool.or_eq_true] at starts
    rcases starts with letter | underscore
    · simp [isNameChar, Char.isAlphanum, letter]
    · simp [isNameChar, underscore]

/-- A name has no equals sign. -/
theorem IsName.not_mem_equals {name : Text} (isName : IsName name) : '=' ∉ name :=
  fun member => (isNameChar_plain (isName.2 '=' member)).2 rfl

/-- What is written as a declaration fits, with a value that starts with no blank of ASCII. -/
theorem written_iff_fits :
    Written text declaration ↔ Fits text.trimEnd declaration ∧ declaration.OpensValue := by
  -- Of the value the one asks that it is there, and the other that it opens with no blank.
  constructor
  · rintro ⟨isName, opens, oneLine, form⟩
    refine ⟨⟨isName, ?_, oneLine, form⟩, opens⟩
    rintro empty
    simp [empty] at opens
  · rintro ⟨⟨isName, _, oneLine, form⟩, opens⟩
    exact ⟨isName, opens, oneLine, form⟩

/-- The value of a declaration that fits a text without blanks at its end has none there either. -/
theorem Fits.endsSolid (fits : Fits text.trimEnd declaration) : EndsSolid declaration.value := by
  -- Its end is the end of the text, since the value is the last part of the form.
  obtain ⟨_, nonempty, _, before, after, _, _, form⟩ := fits
  exact endsSolid_of_form form nonempty

/-- Behind the first equals sign of a text, blanks of ASCII and the value are all there is. -/
theorem Fits.cut_equals (fits : Fits text declaration) :
    ∃ after, AsciiBlank after ∧ (Text.cut '=' text).2 = some (after ++ declaration.value) := by
  obtain ⟨isName, _, _, before, after, blankBefore, blankAfter, rfl⟩ := fits
  -- Neither a name nor a blank is the sign, so the sign of the form is the first one.
  have plain : '=' ∉ declaration.name ++ before := by
    intro member
    rcases List.mem_append.1 member with inName | inGap
    · exact isName.not_mem_equals inName
    · exact Token.ne_equals_of_isAsciiBlank (blankBefore '=' inGap) rfl
  exact ⟨after, blankAfter, by rw [← List.append_assoc, Text.cut_append plain]⟩

/-- If a declaration fits, then one fits whose value starts with no blank of ASCII. -/
theorem Fits.exists_written (fits : Fits text.trimEnd declaration) :
    ∃ other, Written text other := by
  obtain ⟨front, last, ending, solid⟩ := fits.endsSolid
  obtain ⟨isName, _, oneLine, before, after, blankBefore, blankAfter, form⟩ := fits
  -- The blanks in front of the value go to the gap, and its last character is left at least.
  have left : declaration.value.dropWhile isAsciiBlank ≠ [] := by
    intro none
    have ascii := List.dropWhile_eq_nil_iff.1 none last (by simp [ending])
    rw [Text.isAsciiBlank_of_not_isBlank solid] at ascii
    cases ascii
  obtain ⟨first, rest, kept⟩ := List.exists_cons_of_ne_nil left
  have stop := List.head_dropWhile_not isAsciiBlank left
  simp only [kept, List.head_cons] at stop
  refine ⟨⟨declaration.name, declaration.value.dropWhile isAsciiBlank⟩, isName,
    by simp [kept, stop], fun member => oneLine ((List.dropWhile_sublist _).subset member), before,
    after ++ declaration.value.takeWhile isAsciiBlank, blankBefore,
    Text.asciiBlank_append_iff.2 ⟨blankAfter, fun c member => List.mem_takeWhile_imp member⟩, ?_⟩
  -- The two halves into which the value was cut make up the whole again.
  rw [form, List.append_assoc, List.takeWhile_append_dropWhile]

/-- Only one declaration is written in a text. -/
theorem Written.unique {other : Declaration} (written : Written text declaration)
    (otherWritten : Written text other) : other = declaration :=
  Option.some.inj (otherWritten.read?_eq.symm.trans written.read?_eq)

end Splits

section Search

variable {text : Text}

/-- Parts that match the pattern are those of a declaration that fits. -/
theorem fits_of_matches {parts : List Text} (found : pattern.Matches parts text) :
    ∃ declaration, ofParts parts = some declaration ∧ Fits text declaration := by
  rw [pattern_eq] at found
  -- There is one part for each of the seven pieces.
  obtain _ | ⟨first, isFirst, found⟩ := found
  obtain _ | _ | ⟨further, areFurther, found⟩ := found
  obtain _ | _ | ⟨before, blankBefore, found⟩ := found
  obtain _ | ⟨sign, isSign, found⟩ := found
  obtain _ | _ | ⟨after, blankAfter, found⟩ := found
  obtain _ | ⟨start, startInLine, found⟩ := found
  obtain _ | _ | ⟨rest, restInLine, found⟩ := found
  obtain ⟨⟩ := found
  obtain rfl : sign = '=' := by simpa using isSign
  have isName : IsName (first :: further) := isName_iff.2 ⟨first, further, rfl, isFirst, areFurther⟩
  have inLine : ∀ c ∈ start :: rest, (c != '\n') = true :=
    List.forall_mem_cons.2 ⟨startInLine, restInLine⟩
  exact ⟨⟨first :: further, start :: rest⟩, rfl, isName, List.cons_ne_nil start rest,
    fun member => absurd (inLine '\n' member) (by decide), before, after, blankBefore, blankAfter,
    by simp⟩

/-- What is written in a text is what the search finds, as no run before the value can go on. -/
theorem Written.capture?_eq {declaration : Declaration} (written : Written text declaration) :
    capture? text = some declaration := by
  obtain ⟨isName, opens, oneLine, before, after, blankBefore, blankAfter, form⟩ := written
  obtain ⟨first, further, named, isFirst, areFurther⟩ := isName_iff.1 isName
  obtain ⟨name, value⟩ := declaration
  obtain rfl : name = first :: further := named
  cases value with
  | nil => simp at opens
  | cons start rest =>
    have solid : isAsciiBlank start = false := by simpa using opens
    have inLine : ∀ c ∈ start :: rest, (c != '\n') = true := fun c member =>
      bne_iff_ne.2 fun newline => oneLine (newline ▸ member)
    obtain ⟨startInLine, restInLine⟩ := List.forall_mem_cons.1 inLine
    -- Behind the name comes a blank or the sign, and neither belongs to names.
    have endsName : (before ++ '=' :: (after ++ start :: (rest ++ []))).head?.any isNameChar =
        false := by
      cases before with
      | nil => rfl
      | cons c before => simpa using isNameChar_of_isAsciiBlank (blankBefore c (by simp))
    have found : pattern.search text.trimEnd =
        some [[first], further, before, ['='], after, [start], rest] := by
      have whole : text.trimEnd =
          first :: (further ++ (before ++ '=' :: (after ++ start :: (rest ++ [])))) := by
        simpa using form
      -- Each part is what its piece takes first, so the search goes through without a step back.
      rw [whole, pattern_eq]
      refine Pattern.search_one isFirst ?_
      refine Pattern.search_many areFurther endsName ?_
      refine Pattern.search_many blankBefore rfl ?_
      refine Pattern.search_one rfl ?_
      refine Pattern.search_many blankAfter (by simpa using solid) ?_
      refine Pattern.search_one startInLine ?_
      exact Pattern.search_many restInLine rfl rfl
    rw [capture?, found]
    rfl

/-- The search finds what is read. -/
theorem capture?_eq_read? (text : Text) : capture? text = read? text := by
  -- A declaration that is read is found, and where none is read no parts can be found at all.
  cases read : read? text with
  | some declaration => exact (Written.of_read? read).capture?_eq
  | none =>
    rw [capture?, Option.bind_eq_none_iff]
    intro parts found
    obtain ⟨declaration, _, fits⟩ := fits_of_matches (Pattern.matches_of_search found)
    exact absurd fits.exists_written (read?_eq_none_iff.1 read)

end Search

end Declaration

namespace Scope

/--
Carries out a declaration on a scope in place, so that a fault leaves the scope as it then is.

The text is matched, its value is resolved and bound, and what was bound is looked up again.
-/
def declareInPlace (written text : Text) : EStateM Fault Scope (Text × Text) := do
  match Declaration.capture? text with
  | none => throw (.malformedVariable written)
  | some declaration =>
    let scope ← get
    let value ← MonadExcept.ofExcept (scope.resolve declaration.value)
    set (scope.bind declaration.name value)
    let bound ← get
    match bound.find? declaration.name with
    | some stored => return (declaration.name, stored)
    | none => throw (.malformedVariable written)

variable {scope : Scope} {written text : Text}

section Outcomes

/-- A text that no declaration fits is malformed, and it is cited as it was written. -/
theorem declareAs_of_not_fits
    (malformed : ∀ declaration, ¬ Declaration.Fits text.trimEnd declaration) :
    scope.declareAs written text = .error (.malformedVariable written) := by
  -- A text that is read would be written as a declaration, and so it would fit.
  have unread : Declaration.read? text = none := Declaration.read?_eq_none_iff.2
    fun ⟨declaration, isWritten⟩ =>
      malformed declaration (Declaration.written_iff_fits.1 isWritten).1
  simp [declareAs, unread]

/-- What is written in a text is carried out: its value is resolved and bound to its name. -/
theorem declareAs_of_written {declaration : Declaration}
    (isWritten : Declaration.Written text declaration) :
    scope.declareAs written text =
      (scope.resolve declaration.value).map (scope.bind declaration.name) := by
  -- Reading is settled by the form, so only the resolution of the value can still fail.
  simp only [declareAs, isWritten.read?_eq]
  cases scope.resolve declaration.value with
  | ok value => rfl
  | error fault => rfl

/-- A declaration is refused for its form exactly when no declaration fits its text. -/
theorem declareAs_malformed_iff :
    (∃ fault, scope.declareAs written text = .error fault ∧ fault.kind = .malformedVariable) ↔
      ∀ declaration, ¬ Declaration.Fits text.trimEnd declaration := by
  constructor
  · rintro ⟨fault, failed, kind⟩ declaration fits
    obtain ⟨other, isWritten⟩ := fits.exists_written
    rw [declareAs_of_written isWritten] at failed
    -- What is left to fail is a reference, whose fault is of another kind.
    obtain ⟨_, _, rfl⟩ := (scope.resolve_failsOnly other.value).map fault failed
    cases kind
  · intro malformed
    exact ⟨_, declareAs_of_not_fits malformed, rfl⟩

end Outcomes

section InPlace

/-- In place, the same is read, resolved and bound, and what was bound is always found. -/
theorem run_declareInPlace (scope : Scope) (written text : Text) :
    (declareInPlace written text).run scope =
      match Declaration.read? text with
      | none => .error (.malformedVariable written) scope
      | some declaration =>
        match scope.resolve declaration.value with
        | .ok value => .ok (declaration.name, value) (scope.bind declaration.name value)
        | .error fault => .error fault scope := by
  rw [declareInPlace, Declaration.capture?_eq_read?]
  -- Nothing is read, or the value is not resolved: both faults come before the binding.
  cases Declaration.read? text with
  | none => rfl
  | some declaration =>
    simp only [EStateM.run_bind, EStateM.run_get]
    cases scope.resolve declaration.value with
    | error fault => rfl
    | ok value =>
      -- The name was bound just now, and the latest binding of a name is the one that is found.
      have found : (scope.bind declaration.name value).find? declaration.name = some value := by
        rw [find?_bind, if_pos rfl]
      simp [MonadExcept.ofExcept, found]

/-- A declaration fails in place with the same fault, and it leaves the scope as it was. -/
theorem run_declareInPlace_eq_error_iff {fault : Fault} {after : Scope} :
    (declareInPlace written text).run scope = .error fault after ↔
      scope.declareAs written text = .error fault ∧ after = scope := by
  rw [run_declareInPlace, declareAs]
  -- Both runs go through the same three cases.
  cases Declaration.read? text with
  | none => simp [eq_comm]
  | some declaration =>
    cases resolved : scope.resolve declaration.value with
    | error other => simp [resolved, eq_comm, Bind.bind, Except.bind]
    | ok value => simp [resolved, Bind.bind, Except.bind, Pure.pure, Except.pure]

/-- It is carried out in place with the same scope, and gives the name and what is bound to it. -/
theorem run_declareInPlace_eq_ok_iff {name value : Text} {after : Scope} :
    (declareInPlace written text).run scope = .ok (name, value) after ↔
      scope.declareAs written text = .ok after ∧
        ∃ declaration, Declaration.Written text declaration ∧ declaration.name = name ∧
          scope.resolve declaration.value = .ok value := by
  simp only [run_declareInPlace, declareAs, ← Declaration.read?_eq_some_iff]
  -- A run that succeeds has read a declaration, and its resolved value is what it gives back.
  cases Declaration.read? text with
  | none => simp
  | some declaration =>
    cases resolved : scope.resolve declaration.value with
    | error other => simp [resolved]
    | ok stored =>
      simp only [resolved]
      constructor
      · intro done
        obtain ⟨same, rfl⟩ := EStateM.Result.ok.inj done
        obtain ⟨rfl, rfl⟩ := Prod.mk.inj same
        exact ⟨rfl, declaration, rfl, rfl, resolved⟩
      · rintro ⟨declared, _, same, rfl, again⟩
        obtain rfl := Option.some.inj same
        obtain rfl := Except.ok.inj (resolved.symm.trans again)
        obtain rfl := Except.ok.inj declared
        rfl

end InPlace

/--
What comes of a declaration, given its scope, the way it was written, its text and the outcome.

Of all that fits the text, only what starts its value with no blank of ASCII counts.
-/
structure DecidedByForm (scope : Scope) (written text : Text) (outcome : Except Fault Scope) :
    Prop where
  /-- It is malformed exactly when no declaration fits its text, the blanks at the end apart. -/
  malformed_iff : (∃ fault, outcome = .error fault ∧ fault.kind = .malformedVariable) ↔
    ∀ declaration, ¬ Declaration.Fits text.trimEnd declaration
  /-- A malformed one is cited as it was written, and any other fault is a missing name. -/
  failsOnly : FailsOnly (fun fault => fault = .malformedVariable written ∨ scope.Misses fault)
    outcome
  /-- Where any declaration fits, exactly one does that counts. -/
  existsUnique : (∃ declaration, Declaration.Fits text.trimEnd declaration) →
    ∃! declaration, Declaration.Fits text.trimEnd declaration ∧ declaration.OpensValue
  /-- That one is carried out. -/
  used : ∀ declaration, Declaration.Fits text.trimEnd declaration → declaration.OpensValue →
    outcome = (scope.resolve declaration.value).map (scope.bind declaration.name)
  /-- Its name ends before the first equals sign, and its value is all that is behind the sign. -/
  parts : ∀ declaration, Declaration.Fits text.trimEnd declaration → declaration.OpensValue →
    '=' ∉ declaration.name ∧
      (∃ after, AsciiBlank after ∧
        (Text.cut '=' text.trimEnd).2 = some (after ++ declaration.value)) ∧
      EndsSolid declaration.value
  /-- A fault in place is the same, and it leaves the scope as it was. -/
  inPlace_error : ∀ fault after, (declareInPlace written text).run scope = .error fault after ↔
    outcome = .error fault ∧ after = scope
  /-- Success in place leaves the same scope, and gives the name and what is bound to it. -/
  inPlace_ok : ∀ name value after,
    (declareInPlace written text).run scope = .ok (name, value) after ↔
      outcome = .ok after ∧
        ∃ declaration, Declaration.Fits text.trimEnd declaration ∧ declaration.OpensValue ∧
          declaration.name = name ∧ scope.resolve declaration.value = .ok value

/--
The form of its text decides what a declaration does, behind the marker and without it.

It names one variable and one value or it is malformed, and a fault leaves the scope as it was.
-/
theorem declarations_decided_by_form (scope : Scope) (text : Text) :
    scope.DecidedByForm (scope.marker ++ text) text (scope.declare text) ∧
      scope.DecidedByForm text text (scope.declareBare text) := by
  -- The marker is used for the text that a fault cites and for nothing else.
  have decided : ∀ written,
      scope.DecidedByForm written text (scope.declareAs written text) := fun written =>
    { malformed_iff := declareAs_malformed_iff
      failsOnly := declareAs_failsOnly scope written text
      existsUnique := by
        rintro ⟨declaration, fits⟩
        obtain ⟨other, isWritten⟩ := fits.exists_written
        refine ⟨other, Declaration.written_iff_fits.1 isWritten, fun third counts => ?_⟩
        exact isWritten.unique (Declaration.written_iff_fits.2 counts)
      used := fun declaration fits opens =>
        declareAs_of_written (Declaration.written_iff_fits.2 ⟨fits, opens⟩)
      parts := fun declaration fits _ =>
        ⟨fits.isName.not_mem_equals, fits.cut_equals, fits.endsSolid⟩
      inPlace_error := fun fault after => run_declareInPlace_eq_error_iff
      inPlace_ok := fun name value after => by
        simp only [run_declareInPlace_eq_ok_iff, Declaration.written_iff_fits, and_assoc] }
  exact ⟨decided (scope.marker ++ text), decided text⟩

section Sample

/-- A scope with one variable, which stands for two words. -/
def twoWords : Scope :=
  { marker := ['@'], bindings := [("a".toList, "x y".toList)] }

/-- A value keeps its signs, a gap in a name is malformed, and a missing name changes nothing. -/
theorem declarations_decided_by_form_gaps :
    twoWords.declare "k =\n v=@a  b=\u00a0".toList =
        .ok (twoWords.bind "k".toList "v=x y b=".toList) ∧
      (∀ declaration, ¬ Declaration.Fits (Text.trimEnd "my k=v".toList) declaration) ∧
      (declareInPlace "@k=@b".toList "k=@b".toList).run twoWords =
        .error (.undeclared "b".toList) twoWords := by
  -- The value goes on behind the second sign, and the line break belongs to the gap before it.
  have fits : Declaration.Fits (Text.trimEnd "k =\n v=@a  b=\u00a0".toList)
      ⟨"k".toList, "v=@a  b=".toList⟩ :=
    ⟨by decide, by decide, by decide, " ".toList, "\n ".toList, by decide, by decide, by decide⟩
  have used := (declarations_decided_by_form twoWords "k =\n v=@a  b=\u00a0".toList).1.used
  have malformed := (declarations_decided_by_form twoWords "my k=v".toList).2.malformed_iff
  have missing := (declarations_decided_by_form twoWords "k=@b".toList).1.inPlace_error
  exact ⟨used _ fits rfl, malformed.1 ⟨_, rfl, rfl⟩, (missing _ _).2 ⟨rfl, rfl⟩⟩

end Sample

end Scope

end OverlaySheet
