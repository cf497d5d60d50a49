/-
# Checking headed texts

A *headed* text is a header with statement lines behind it, as both writers of
flowcharts produce it.  Checking such a text reads its lines one after another
(`ofText_headed`), and the text is valid exactly if every line can be read
(`isValid_headed_iff`): a line that is read gives warnings at worst.
-/
import Flowchart.Check
import Flowchart.Proofs.StatementReading

namespace Flowchart

namespace Check

/-! ## Headed texts -/

/-- The header of a flowchart. -/
def headerLine (o : Orientation) : Text :=
  "graph ".toList ++ o.name

/-- A line that is read as a statement, whatever it says. -/
structure IsStatementLine (l : Text) : Prop where
  one_line : '\n' ∉ l
  significant : isSignificant l.trim = true
  not_header : header? l.trim = none

/-- A text that is a header and the statement lines `ls`; a line end may close the text. -/
structure Headed (t : Text) (o : Orientation) (ls : List Text) : Prop where
  lines : t.lines = headerLine o :: ls ∨ t.lines = headerLine o :: (ls ++ [[]])
  statements : ∀ l ∈ ls, IsStatementLine l

/-- Reads lines one after another, the first one as line `n`. -/
def readLines (c : Check) (n : Nat) : List Text → Check
  | [] => c
  | l :: ls => readLines (c.readStatement n l.trim) (n + 1) ls

/-- The header is a trimmed line. -/
theorem trim_headerLine (o : Orientation) : (headerLine o).trim = headerLine o := by
  cases o <;> decide

/-- The header says its orientation. -/
theorem header?_headerLine (o : Orientation) : header? (headerLine o) = some (.ok o) := by
  cases o <;> rfl

/-- The header is on one line. -/
theorem oneLine_headerLine (o : Orientation) : Text.OneLine (headerLine o) := by
  cases o <;> exact Text.oneLine_of_all (by decide)

/-- The header says something. -/
theorem isSignificant_headerLine (o : Orientation) : isSignificant (headerLine o) = true := by
  cases o <;> decide

/-- The trimmed lines that say anything, the first line as line `n`. -/
def significantFrom (n : Nat) (ls : List Text) : List (Nat × Text) :=
  ((ls.zipIdx n).map fun l => (l.2, l.1.trim)).filter fun l => isSignificant l.2

/-- What is said in lines and in the lines behind them. -/
theorem significantFrom_append (n : Nat) (ls ls' : List Text) :
    significantFrom n (ls ++ ls')
      = significantFrom n ls ++ significantFrom (n + ls.length) ls' := by
  rw [significantFrom, List.zipIdx_append, List.map_append, List.filter_append]
  rfl

/-- A line that says anything comes first. -/
theorem significantFrom_cons_of_pos (n : Nat) {l : Text} (hl : isSignificant l.trim = true)
    (ls : List Text) : significantFrom n (l :: ls) = (n, l.trim) :: significantFrom (n + 1) ls := by
  rw [significantFrom, List.zipIdx_cons, List.map_cons, List.filter_cons_of_pos (by exact hl)]
  rfl

/-- All statement lines say anything. -/
theorem significantFrom_of_statements {ls : List Text} (h : ∀ l ∈ ls, IsStatementLine l) (n : Nat) :
    significantFrom n ls = (ls.zipIdx n).map fun l => (l.2, l.1.trim) := by
  rw [significantFrom, List.filter_eq_self]
  intro l hl
  obtain ⟨p, hp, rfl⟩ := List.mem_map.1 hl
  exact (h p.1 (List.fst_mem_of_mem_zipIdx hp)).significant

/-- The lines of a headed text that say anything are all of its lines. -/
theorem significantLines_headed {t : Text} {o : Orientation} {ls : List Text}
    (h : Headed t o ls) :
    significantLines t
      = (1, headerLine o) :: (ls.zipIdx 2).map fun l => (l.2, l.1.trim) := by
  have hheader : isSignificant (headerLine o).trim = true := by
    rw [trim_headerLine]
    exact isSignificant_headerLine o
  have hempty : ∀ n, significantFrom n [[]] = [] := fun _ => rfl
  rw [← significantFrom_of_statements h.statements]
  -- The empty line behind the last line end is dropped as a blank line.
  rcases h.lines with hlines | hlines
  · rw [significantLines, hlines, ← significantFrom, significantFrom_cons_of_pos 1 hheader,
      trim_headerLine]
  · rw [significantLines, hlines, ← significantFrom, significantFrom_cons_of_pos 1 hheader,
      trim_headerLine, significantFrom_append, hempty, List.append_nil]

/-- Statement lines are read one after another. -/
theorem foldl_readLater {ls : List Text} (h : ∀ l ∈ ls, IsStatementLine l) (c : Check) (n : Nat) :
    ((ls.zipIdx n).map fun l => (l.2, l.1.trim)).foldl readLater c = c.readLines n ls := by
  induction ls generalizing c n with
  | nil => rfl
  | cons l ls ih =>
    rw [List.zipIdx_cons, List.map_cons, List.foldl_cons, readLater,
      (h l (by simp)).not_header, readLines]
    exact ih (fun k hk => h k (by simp [hk])) _ _

/-- **Checking a headed text** is reading its lines one after another. -/
theorem ofText_headed {t : Text} {o : Orientation} {ls : List Text} (h : Headed t o ls) :
    ofText t = (readLines { orientation := some o } 2 ls).close := by
  rw [ofText, significantLines_headed h]
  simp only
  rw [foldl_readLater h.statements, readFirst, header?_headerLine]
  rfl

/-! ## Errors -/

/-- `Reads l s`: the line `l` is read as the statement `s`. -/
def Reads (l : Text) (s : Statement) : Prop :=
  Statement.parse? (l.trim.dropEndWhile (· = ';')) = some s

/-- A line that is read is recorded. -/
theorem readStatement_of_reads {l : Text} {s : Statement} (h : Reads l s) (c : Check) (n : Nat) :
    c.readStatement n l.trim = c.record n s := by
  rw [readStatement, h]

/-- A complaint is an error or a warning, according to what it says. -/
theorem errors_complain (c : Check) (n : Nat) (k : Complaint) :
    (c.complain n k).errors = c.errors ++ if k.severity = .error then [⟨n, k⟩] else [] := by
  rw [errors, complain, List.filter_append, errors]
  congr 1
  by_cases hk : k.severity = .error
  · simp [Finding.severity, hk]
  · simp [Finding.severity, hk]

/-- Declaring a node gives no error. -/
theorem errors_declare (c : Check) (n : Nat) (m : Mention) : (c.declare n m).errors = c.errors := by
  have hwarn : ∀ (c : Check) (k : Complaint), k.severity = .warning →
      (c.complain n k).errors = c.errors := by
    intro c k hk
    rw [errors_complain, hk]
    simp
  have hreserved : (if m.id ∈ reservedWords then c.complain n (.reservedId m.id) else c).errors
      = c.errors := by
    split
    · exact hwarn _ _ rfl
    · rfl
  rw [declare]
  generalize (if m.id ∈ reservedWords then c.complain n (.reservedId m.id) else c) = c'
    at hreserved ⊢
  split
  · split
    · rw [hwarn _ _ rfl, hreserved]
    · exact hreserved
  · exact hreserved

/-- Declaring the end of a link gives no error. -/
theorem errors_declareEnd (c : Check) (n : Nat) (m : Mention) :
    (c.declareEnd n m).errors = c.errors := by
  rw [declareEnd]
  split
  · exact errors_declare c n m
  · rfl

/-- Recording a statement gives no error. -/
theorem errors_record (c : Check) (n : Nat) (s : Statement) : (c.record n s).errors = c.errors := by
  cases s with
  | node m => exact errors_declare c n m
  | link source style label target =>
    show ((c.declareEnd n source).declareEnd n target).errors = c.errors
    rw [errors_declareEnd, errors_declareEnd]
  | directive => rfl

/-- Looking for undeclared ends gives no error. -/
theorem errors_close (c : Check) : c.close.errors = c.errors := by
  have hnone : (c.links.flatMap c.undeclaredEnds).filter (·.severity = .error) = [] := by
    rw [List.filter_eq_nil_iff]
    intro f hf
    obtain ⟨l, -, hf⟩ := List.mem_flatMap.1 hf
    obtain ⟨id, -, rfl⟩ := List.mem_map.1 hf
    simp [Finding.severity, Complaint.severity]
  rw [errors, close, List.filter_append, hnone, List.append_nil, errors]

/-- Reading a line gives an error exactly if it is no statement. -/
theorem errors_readStatement_eq_nil_iff (c : Check) (n : Nat) (l : Text) :
    (c.readStatement n l.trim).errors = [] ↔ c.errors = [] ∧ ∃ s, Reads l s := by
  cases h : Statement.parse? (l.trim.dropEndWhile (· = ';')) with
  | some s =>
    rw [readStatement_of_reads h, errors_record]
    exact ⟨fun hc => ⟨hc, s, h⟩, fun hc => hc.1⟩
  | none =>
    have herr : (c.readStatement n l.trim).errors ≠ [] := by
      rw [readStatement, h]
      simp [errors_complain, Complaint.severity]
    constructor
    · intro hc
      exact absurd hc herr
    · rintro ⟨-, s, hs⟩
      rw [Reads, h] at hs
      exact absurd hs (by simp)

/-- Reading lines gives no error exactly if all of them are statements. -/
theorem errors_readLines_eq_nil_iff (c : Check) (n : Nat) (ls : List Text) :
    (c.readLines n ls).errors = [] ↔ c.errors = [] ∧ ∀ l ∈ ls, ∃ s, Reads l s := by
  induction ls generalizing c n with
  | nil => simp [readLines]
  | cons l ls ih =>
    rw [readLines, ih, errors_readStatement_eq_nil_iff, List.forall_mem_cons, and_assoc]

/-- **A headed text is valid exactly if each of its lines is a statement.** -/
theorem isValid_headed_iff {t : Text} {o : Orientation} {ls : List Text} (h : Headed t o ls) :
    (ofText t).isValid = true ↔ ∀ l ∈ ls, ∃ s, Reads l s := by
  rw [isValid, List.isEmpty_iff, ofText_headed h, errors_close, errors_readLines_eq_nil_iff]
  simp [errors]

end Check

end Flowchart
