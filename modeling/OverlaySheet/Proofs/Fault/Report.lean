import OverlaySheet.Fault.Report
import OverlaySheet.Proofs.Json.RoundTrip

/-! Reports on faults: what they tell, and that they survive being written as JSON. -/

namespace OverlaySheet

namespace Fault

/-- A kind is found again by its code. -/
@[simp] theorem Kind.ofCode?_code (kind : Kind) : ofCode? kind.code = some kind := by
  cases kind <;> decide

/-- A kind is found again by its name. -/
@[simp] theorem Kind.ofName?_name (kind : Kind) : ofName? kind.name = some kind := by
  cases kind <;> decide

/-- The codes are far below the bounds of 32 bits. -/
theorem Kind.code_bounds (kind : Kind) : -2 ^ 31 ≤ kind.code ∧ kind.code < 2 ^ 31 := by
  cases kind <;> decide

/-- Of all lines that a fault is put at, the first one stays. -/
theorem foldl_located (fault : Fault) (lines : List Nat) :
    lines.foldl located fault = { fault with line := fault.line <|> lines.head? } := by
  induction lines generalizing fault with
  | nil =>
    obtain ⟨kind, line, detail, cause, args⟩ := fault
    cases line <;> rfl
  | cons line lines ih =>
    rw [List.foldl_cons, ih]
    -- A line that is there hides all that follow, and without one the first of these stays.
    cases present : fault.line <;> simp [located, present]

end Fault

namespace Report

/-- The numbers of a report fit their places: 32 bits for the code and 64 bits for the line. -/
structure Sized (report : Report) : Prop where
  code : -2 ^ 31 ≤ report.code ∧ report.code < 2 ^ 31
  line : ∀ line, report.line = some line → line < 2 ^ 64

/-- The fields that a report is written with. -/
def fields (report : Report) : List (String × Value) :=
  [("code", .integer report.code), ("kind", .string report.kind.name)]
    ++ (report.line.map fun line : Nat => ("line", Value.integer line)).toList
    ++ [("message", .string report.message), ("args", .array report.args)]
    ++ (report.cause.map fun cause => ("cause", Value.string cause)).toList

/-- A report is written as the table of its fields. -/
theorem toValue_eq (report : Report) : report.toValue = .table report.fields := by
  -- Only the line and the cause may be left out.
  obtain ⟨code, kind, line, message, args, cause⟩ := report
  cases line <;> cases cause <;> rfl

/-- No report is written without fields. -/
theorem fields_ne_nil (report : Report) : report.fields ≠ [] :=
  List.cons_ne_nil _ _

variable {report : Report}

/-- What holds of all six fields holds of those that are written. -/
theorem forall_mem_fields {holds : String × Value → Prop}
    (code : holds ("code", .integer report.code)) (kind : holds ("kind", .string report.kind.name))
    (line : ∀ line : Nat, report.line = some line → holds ("line", .integer line))
    (message : holds ("message", .string report.message))
    (args : holds ("args", .array report.args))
    (cause : ∀ cause, report.cause = some cause → holds ("cause", .string cause)) :
    ∀ field ∈ report.fields, holds field := by
  intro field member
  simp only [fields, List.mem_append, List.mem_cons, List.not_mem_nil, or_false,
    Option.mem_toList, Option.map_eq_some_iff] at member
  -- One case for each field, in the order in which they are written.
  rcases member with (((rfl | rfl) | ⟨place, given, rfl⟩) | rfl | rfl) | ⟨text, given, rfl⟩
  · exact code
  · exact kind
  · exact line place given
  · exact message
  · exact args
  · exact cause text given

/-- The values of a report are simple when its arguments are. -/
theorem simple_fields (sized : report.Sized) (simple : ∀ arg ∈ report.args, arg.Simple) :
    ∀ field ∈ report.fields, field.2.Simple := by
  -- Codes and lines are small enough to be read as whole numbers.
  have code : (Value.integer report.code).Simple := by
    have bounds := sized.code
    exact .integer (Json.fitsWord_iff.2 (by omega))
  have line : ∀ line : Nat, report.line = some line → (Value.integer line).Simple := by
    intro line given
    have bound := sized.line line given
    exact .integer (Json.fitsWord_iff.2 (by omega))
  -- The other fields are texts, and the arguments are simple by assumption.
  exact forall_mem_fields code (.string _) line (.string _) (.array simple) fun _ _ => .string _

/-- Every field of a report is one that its reader knows. -/
theorem named_fields (report : Report) :
    ∀ field ∈ report.fields, fieldNames.contains field.1 = true :=
  forall_mem_fields rfl rfl (fun _ _ => rfl) rfl rfl fun _ _ => rfl

/-- The brackets around the arguments are the only ones in the fields of a report. -/
theorem fieldsDepth_fields (report : Report) :
    Value.fieldsDepth report.fields = Value.itemsDepth report.args + 1 := by
  -- No other field has brackets, whether it is written or left out.
  obtain ⟨code, kind, line, message, args, cause⟩ := report
  cases line <;> cases cause <;>
    simp [fields, Value.fieldsDepth, Value.depth, Value.integer]

/-- Each field is found under its name, and one that was left out counts as null. -/
theorem ofFields?_eq (report : Report) :
    ofFields? report.fields =
      ofValues? (.integer report.code) (.string report.kind.name)
        ((report.line.map fun line : Nat => Value.integer line).getD .null)
        (.string report.message) (.array report.args)
        ((report.cause.map Value.string).getD .null) := by
  -- There are four sorts of reports: with and without a line, with and without a cause.
  obtain ⟨code, kind, line, message, args, cause⟩ := report
  cases line <;> cases cause <;>
    simp [ofFields?, namesOnce, fieldNames, fields, Entries.find?]

/-- A report is read back from its fields. -/
theorem ofFields?_fields (sized : report.Sized) (simple : ∀ arg ∈ report.args, arg.Simple) :
    ofFields? report.fields = some report := by
  -- Field by field, what was written passes the check of the reader.
  have code : code? (.integer report.code) = some report.code := by
    have bounds := sized.code
    exact if_pos (by omega)
  have kind : Fault.Kind.ofValue? (.string report.kind.name) = some report.kind :=
    report.kind.ofName?_name
  have line : line? ((report.line.map fun line : Nat => Value.integer line).getD .null) =
      some report.line := by
    cases given : report.line with
    | none => rfl
    | some line =>
      have bound := sized.line line given
      exact if_pos (by simp only [Number.greatestUnsigned]; omega)
  -- Simple arguments have their tables in order, so reading does not change them.
  have args : args? (.array report.args) = some report.args := by
    rw [args?, Value.Simple.keyedItems_eq simple]
  have cause : cause? ((report.cause.map Value.string).getD .null) = some report.cause := by
    cases report.cause <;> rfl
  rw [ofFields?_eq, ofValues?, code, kind, line, args, cause]
  rfl

/-- Two brackets are around each argument: that of the report and that of the list. -/
theorem fits_iff (report : Report) :
    Value.fieldsDepth report.fields ≤ Json.maxDepth - 1 ↔
      ∀ arg ∈ report.args, arg.depth + 2 ≤ Json.maxDepth := by
  -- The arguments stand inside two pairs of brackets.
  have room : Value.fieldsDepth report.fields ≤ Json.maxDepth - 1 ↔
      Value.itemsDepth report.args ≤ Json.maxDepth - 2 := by
    rw [fieldsDepth_fields, Json.maxDepth]
    omega
  rw [room, Value.itemsDepth_le_iff]
  refine forall₂_congr fun arg _ => ?_
  -- The greatest depth is a number here, so this is arithmetic.
  rw [Json.maxDepth]
  omega

/-- The texts of a report: on one line, and indented. -/
def texts (report : Report) : List Text :=
  [Json.compact report.toValue, Json.pretty 0 report.toValue]

/-- A report is read back from each of its texts, unless its arguments nest too deep. -/
theorem read?_of_mem_texts (sized : report.Sized) (simple : ∀ arg ∈ report.args, arg.Simple)
    {text : Text} (written : text ∈ report.texts) :
    read? text =
      if ∀ arg ∈ report.args, arg.depth + 2 ≤ Json.maxDepth then some report else none := by
  rw [texts, List.mem_pair, toValue_eq] at written
  -- Each text is a brace, the fields and a brace, with blanks between them or without.
  obtain ⟨inside, rfl, readsFields⟩ :=
    Json.exists_readsFields (fields_ne_nil report) (simple_fields sized simple) written
  have record := readsFields.readRecord?_eq (named_fields report)
  by_cases fits : ∀ arg ∈ report.args, arg.depth + 2 ≤ Json.maxDepth
  · -- The fields fit, so they are read and found under their names.
    rw [if_pos ((fits_iff report).2 fits)] at record
    rw [read?, record, if_pos fits]
    exact ofFields?_fields sized simple
  · -- What starts with a brace is not a list of the six values either.
    rw [if_neg (mt (fits_iff report).1 fits)] at record
    rw [read?, record, if_neg fits]
    cases whole : Json.readWritten? ('\x7b' :: inside ++ ['\x7d']) with
    | none => rfl
    | some v =>
      obtain ⟨list, rfl⟩ := Json.exists_table_of_readWritten? whole
      rfl

/-- A report tells hosts the kind of a fault by code and name, its first line and its arguments. -/
structure Tells (report : Report) (fault : Fault) (lines : List Nat) : Prop where
  code : Fault.Kind.ofCode? report.code = some fault.kind
  kind : report.kind = fault.kind
  line : report.line = lines.head?
  args : report.args = fault.args

/-- The report on a fault without a line tells of the first line that the fault is put at. -/
theorem tells_foldl_located {fault : Fault} (unplaced : fault.line = none) (lines : List Nat) :
    (lines.foldl Fault.located fault).report.Tells fault lines := by
  -- The first of the lines stays when the fault is located again.
  rw [Fault.foldl_located]
  exact ⟨fault.kind.ofCode?_code, rfl, by simp [Fault.report, unplaced], rfl⟩

/-- The code of a fault always fits, and so does its line if all lines do. -/
theorem sized_foldl_located {fault : Fault} (unplaced : fault.line = none) {lines : List Nat}
    (small : ∀ line ∈ lines, line < 2 ^ 64) : (lines.foldl Fault.located fault).report.Sized := by
  -- The line of the report is one of those at which the fault was put.
  have tells := tells_foldl_located unplaced lines
  constructor
  · rw [Fault.foldl_located]
    exact fault.kind.code_bounds
  · intro line given
    rw [tells.line] at given
    exact small line (List.mem_of_head? given)

/--
A report is read back from its JSON as it was, unless its arguments nest too deep.

It holds for reports of simple values, and for both forms of the text.
The report on a fault tells its kind, the first line it was put at and its arguments, and these are
what is read from the text.
-/
theorem report_survives_json :
    (∀ report : Report, report.Sized → (∀ arg ∈ report.args, arg.Simple) →
      ∀ text ∈ report.texts, read? text =
        if ∀ arg ∈ report.args, arg.depth + 2 ≤ Json.maxDepth then some report else none) ∧
    ∀ (fault : Fault) (lines : List Nat), fault.line = none →
      (lines.foldl Fault.located fault).report.Tells fault lines ∧
      ((∀ line ∈ lines, line < 2 ^ 64) →
        (∀ arg ∈ fault.args, arg.Simple ∧ arg.depth + 2 ≤ Json.maxDepth) →
        ∀ text ∈ (lines.foldl Fault.located fault).report.texts,
          ∃ report, read? text = some report ∧ report.Tells fault lines) := by
  constructor
  · intro report sized simple text written
    exact read?_of_mem_texts sized simple written
  · intro fault lines unplaced
    have tells := tells_foldl_located unplaced lines
    refine ⟨tells, fun small fits text written => ⟨_, ?_, tells⟩⟩
    -- The arguments of the report are those of the fault, so they are simple and fit as well.
    rw [← tells.args] at fits
    rw [read?_of_mem_texts (sized_foldl_located unplaced small)
      (fun arg member => (fits arg member).1) written, if_pos fun arg member => (fits arg member).2]

/-- A fault with a table in a list among its arguments. -/
def nestedFault : Fault where
  kind := .layerFailed
  cause := some (.untagged "no \"room\"\n")
  args := [.array [.table [("width", .integer (-1)), ("é", .null)], .bool true]]

/-- It is put at two lines, and hosts learn of the first one. -/
theorem report_survives_json_nested :
    nestedFault.line = none ∧ (∀ line ∈ [3, 0], line < 2 ^ 64) ∧
      (∀ arg ∈ nestedFault.args, arg.Simple ∧ arg.depth + 2 ≤ Json.maxDepth) ∧
      ([3, 0].foldl Fault.located nestedFault).report.Sized ∧
      ∀ text ∈ ([3, 0].foldl Fault.located nestedFault).report.texts,
        read? text = some ([3, 0].foldl Fault.located nestedFault).report ∧
          ∃ report, read? text = some report ∧ report.line = some 3 := by
  -- The argument is a list of a table and a switch, so it nests two levels deep.
  have inside : ∀ arg ∈ nestedFault.args, arg.Simple ∧ arg.depth + 2 ≤ Json.maxDepth := by
    refine List.forall_mem_singleton.2 ⟨.array ?_, by decide⟩
    refine List.forall_mem_cons.2 ⟨.table (by decide) ?_, List.forall_mem_singleton.2 (.bool true)⟩
    exact List.forall_mem_cons.2 ⟨.integer (by decide), List.forall_mem_singleton.2 .null⟩
  have small : ∀ line ∈ [3, 0], line < 2 ^ 64 := by decide
  -- The code is that of a kind, and the line is the first of the two.
  have sized : ([3, 0].foldl Fault.located nestedFault).report.Sized :=
    ⟨by decide, fun line given => by obtain rfl := Option.some.inj given; decide⟩
  refine ⟨rfl, small, inside, sized, fun text written => ⟨?_, ?_⟩⟩
  · rw [report_survives_json.1 _ sized (fun arg member => (inside arg member).1) text written]
    exact if_pos fun arg member => (inside arg member).2
  · obtain ⟨report, read, tells⟩ :=
      (report_survives_json.2 nestedFault [3, 0] rfl).2 small inside text written
    exact ⟨report, read, tells.line⟩

/-- A list with a list in it, and so on, so many times. -/
def nestedLists : Nat → Value
  | 0 => .null
  | count + 1 => .array [nestedLists count]

/-- Lists in lists are simple. -/
theorem simple_nestedLists (count : Nat) : (nestedLists count).Simple := by
  -- Each list has the one before it as its only item.
  induction count with
  | zero => exact .null
  | succ count ih => exact .array (List.forall_mem_singleton.2 ih)

/-- They nest as deep as there are lists. -/
@[simp] theorem depth_nestedLists (count : Nat) : (nestedLists count).depth = count := by
  induction count with
  | zero => rfl
  | succ count ih => simp [nestedLists, Value.depth, Value.itemsDepth, ih]

/-- A report with an argument of one list more than there is room for. -/
def deepReport : Report where
  code := 0
  kind := .generic
  line := none
  message := ""
  args := [nestedLists 126]
  cause := none

/-- Not every report is read back: with 126 lists in each other, it is refused. -/
theorem report_not_always_read_back :
    ¬ ∀ report : Report, report.Sized → (∀ arg ∈ report.args, arg.Simple) →
      read? (Json.compact report.toValue) = some report := by
  intro always
  -- A report of 126 nested lists is well-formed, so it would have to be read back.
  have sized : deepReport.Sized := ⟨by decide, fun line given => nomatch given⟩
  have simple : ∀ arg ∈ deepReport.args, arg.Simple :=
    List.forall_mem_singleton.2 (simple_nestedLists 126)
  have tooDeep : ¬ ∀ arg ∈ deepReport.args, arg.depth + 2 ≤ Json.maxDepth := by
    -- With the two brackets of the report, there are 128 levels.
    intro fits
    have here := fits (nestedLists 126) List.mem_cons_self
    rw [depth_nestedLists] at here
    exact absurd here (by decide)
  -- Reading its text is refused by the depth alone.
  have refused := read?_of_mem_texts sized simple (List.mem_cons_self : _ ∈ deepReport.texts)
  rw [always deepReport sized simple, if_neg tooDeep] at refused
  cases refused

end Report

end OverlaySheet
