import RunCharts.Csv

/-!
# Reading records

A reader of comma-separated records. A field that starts with a quote goes on to the next quote that
is not doubled; a doubled one stands for one quote. Outside of quotes a comma ends the field and a
newline ends the record. The reader gives written records back, whatever characters are in them.
-/

namespace RunCharts.Csv

/-- Where a reader is: at the start of a field, further inside, or between quotes. -/
inductive Place where
  | start
  | inside
  | quoted
deriving DecidableEq, Repr

/-- What is still to come: the rest of a field, the further fields of its record, and the further
records. -/
structure Reading where
  field : List Char
  fields : List (List Char)
  records : List (List (List Char))
deriving DecidableEq, Repr

namespace Reading

def empty : Reading := ⟨[], [], []⟩

def prepend (cs : List Char) (r : Reading) : Reading := { r with field := cs ++ r.field }

def afterComma (r : Reading) : Reading := ⟨[], r.field :: r.fields, r.records⟩

def allRecords (r : Reading) : List (List (List Char)) := (r.field :: r.fields) :: r.records

end Reading

def scan : Place → List Char → Reading
  | _, [] => .empty
  | .quoted, '"' :: '"' :: cs => (scan .quoted cs).prepend ['"']
  | .quoted, '"' :: cs => scan .inside cs
  | .quoted, c :: cs => (scan .quoted cs).prepend [c]
  | .start, '"' :: cs => scan .quoted cs
  | _, ',' :: cs => (scan .start cs).afterComma
  | _, '\n' :: cs => ⟨[], [], if cs.isEmpty then [] else (scan .start cs).allRecords⟩
  | _, c :: cs => (scan .inside cs).prepend [c]

def read (cs : List Char) : List (List (List Char)) :=
  if cs.isEmpty then [] else (scan .start cs).allRecords

inductive EndsField : List Char → Prop
  | comma (cs : List Char) : EndsField (',' :: cs)
  | newline (cs : List Char) : EndsField ('\n' :: cs)

variable {cs rest : List Char}

theorem Reading.prepend_prepend (cs ds : List Char) (r : Reading) :
    (r.prepend ds).prepend cs = r.prepend (cs ++ ds) := by
  rw [prepend, prepend, prepend, List.append_assoc]

theorem scan_inside_cons {c : Char} (hcomma : c ≠ ',') (hnewline : c ≠ '\n') (cs : List Char) :
    scan .inside (c :: cs) = (scan .inside cs).prepend [c] := by
  rw [scan] <;> simp [hcomma, hnewline]

theorem scan_start_cons {c : Char} (hquote : c ≠ '"') (hcomma : c ≠ ',') (hnewline : c ≠ '\n')
    (cs : List Char) : scan .start (c :: cs) = (scan .inside cs).prepend [c] := by
  rw [scan] <;> simp [hquote, hcomma, hnewline]

theorem scan_quoted_cons {c : Char} (hquote : c ≠ '"') (cs : List Char) :
    scan .quoted (c :: cs) = (scan .quoted cs).prepend [c] := by
  rw [scan] <;> simp [hquote]

theorem scan_start_of_endsField (h : EndsField rest) : scan .start rest = scan .inside rest := by
  cases h <;> rfl

theorem scan_inside_append (h : needsQuotes cs = false) (rest : List Char) :
    scan .inside (cs ++ rest) = (scan .inside rest).prepend cs := by
  induction cs with
  | nil => rfl
  | cons c cs ih =>
    simp only [needsQuotes, List.any_cons, Bool.or_eq_false_iff, beq_eq_false_iff_ne] at h
    rw [List.cons_append, scan_inside_cons h.1.1.1 h.1.2, ih h.2, Reading.prepend_prepend]
    rfl

/-- Between quotes a field is read up to the quote that is not doubled. -/
theorem scan_quoted_append (h : EndsField rest) (cs : List Char) :
    scan .quoted (doubleQuotes cs ++ '"' :: rest) = (scan .inside rest).prepend cs := by
  induction cs with
  | nil => cases h <;> rfl
  | cons c cs ih =>
    have hcons : doubleQuotes (c :: cs) = (if c = '"' then ['"', '"'] else [c]) ++
        doubleQuotes cs := List.flatMap_cons
    have hpush : (scan .quoted (doubleQuotes cs ++ '"' :: rest)).prepend [c] =
        (scan .inside rest).prepend (c :: cs) := by
      rw [ih, Reading.prepend_prepend, List.singleton_append]
    rw [hcons, List.append_assoc, ← hpush]
    by_cases hc : c = '"'
    · subst hc
      rfl
    · rw [if_neg hc]
      exact scan_quoted_cons hc _

theorem scan_writeField (h : EndsField rest) (field : List Char) :
    scan .start (writeField field ++ rest) = (scan .inside rest).prepend field := by
  unfold writeField
  split
  · have happend : '"' :: doubleQuotes field ++ ['"'] ++ rest =
        '"' :: (doubleQuotes field ++ '"' :: rest) := by simp
    rw [happend, scan]
    exact scan_quoted_append h field
  · rename_i hquotes
    rw [Bool.not_eq_true] at hquotes
    cases field with
    | nil => exact scan_start_of_endsField h
    | cons c field =>
      rw [← scan_inside_append hquotes]
      simp only [needsQuotes, List.any_cons, Bool.or_eq_false_iff, beq_eq_false_iff_ne] at hquotes
      obtain ⟨⟨⟨hcomma, hquote⟩, hnewline⟩, -⟩ := hquotes
      rw [List.cons_append, scan_start_cons hquote hcomma hnewline,
        scan_inside_cons hcomma hnewline]

/-- The fields of a written record are read up to its newline. -/
theorem scan_join (field : List Char) (fields : List (List Char)) (cs : List Char) :
    scan .start (Text.join ',' ((field :: fields).map writeField) ++ '\n' :: cs) =
      ⟨field, fields, read cs⟩ := by
  induction fields generalizing field with
  | nil =>
    refine (scan_writeField (.newline cs) field).trans ?_
    change Reading.prepend field ⟨[], [], read cs⟩ = _
    rw [Reading.prepend, List.append_nil]
  | cons next fields ih =>
    have hjoin : Text.join ',' ((field :: next :: fields).map writeField) ++ '\n' :: cs =
        writeField field ++
          ',' :: (Text.join ',' ((next :: fields).map writeField) ++ '\n' :: cs) := by
      simp [Text.join]
    rw [hjoin, scan_writeField (.comma _) field]
    change ((scan .start _).afterComma).prepend field = _
    rw [ih, Reading.afterComma, Reading.prepend, List.append_nil]

theorem read_writeRecord {fields : List (List Char)} (h : fields ≠ []) (cs : List Char) :
    read (writeRecord fields ++ cs) = fields :: read cs := by
  obtain ⟨field, fields, rfl⟩ := List.exists_cons_of_ne_nil h
  rw [writeRecord, List.append_assoc, List.singleton_append, read, scan_join]
  simp [Reading.allRecords]

/-- Records are read as they were written, if each has a field at least. -/
theorem read_write {records : List (List (List Char))} (h : ∀ fields ∈ records, fields ≠ []) :
    read (write records) = records := by
  induction records with
  | nil => rfl
  | cons fields records ih =>
    rw [List.forall_mem_cons] at h
    rw [write, List.flatMap_cons, read_writeRecord h.1]
    exact congrArg (fields :: ·) (ih h.2)

end RunCharts.Csv
