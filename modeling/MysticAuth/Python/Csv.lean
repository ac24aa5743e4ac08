import Mathlib.Data.List.Basic

/-!
# Comma-separated values

The rows that `csv.writer` writes with its defaults, and a reader of such files
that takes one character after the other: fields between commas, records ended
by a carriage return and a line feed, quotes doubled inside quotes.
-/

set_option autoImplicit false

namespace Csv

abbrev Field := List Char

abbrev Row := List Field

/-! ## The writer -/

def isSpecial (c : Char) : Bool :=
  c == ',' || c == '"' || c == '\r' || c == '\n'

def doubled (c : Char) : List Char :=
  if c = '"' then ['"', '"'] else [c]

/-- `QUOTE_MINIMAL` -/
def writeField (field : Field) : List Char :=
  if field.any isSpecial then '"' :: field.flatMap doubled ++ ['"'] else field

def joinFields : Row → List Char
  | [] => []
  | [field] => writeField field
  | field :: rest => writeField field ++ ',' :: joinFields rest

/-- A single empty field is quoted, so that the record is not an empty line. -/
def writeRow (row : Row) : List Char :=
  (if row = [[]] then ['"', '"'] else joinFields row) ++ ['\r', '\n']

def writeRows (rows : List Row) : List Char :=
  rows.flatMap writeRow

/-! ## The reader -/

/-- Where in a field the reader is. -/
inductive Place where
  | start
  | plain
  | quoted
  /-- behind a quote that ends the field or is doubled -/
  | quote
  /-- behind a carriage return -/
  | lineEnd
  deriving DecidableEq

structure Reader where
  rows : List Row
  fields : Row
  field : Field
  place : Place
  deriving DecidableEq

namespace Reader

variable (reader : Reader)

def endField : Reader :=
  { reader with fields := reader.fields ++ [reader.field], field := [], place := .start }

def endRow : Reader :=
  ⟨reader.rows ++ [reader.fields ++ [reader.field]], [], [], .start⟩

def push (c : Char) (place : Place) : Reader :=
  { reader with field := reader.field ++ [c], place := place }

/-- A comma or a carriage return, which end a field. -/
def stepEnd (c : Char) : Option Reader :=
  if c = ',' then some reader.endField
  else if c = '\r' then some { reader with place := .lineEnd }
  else none

def stepPlain (c : Char) : Option Reader :=
  if isSpecial c then reader.stepEnd c else some (reader.push c .plain)

def step (c : Char) : Option Reader :=
  match reader.place with
  | .start => if c = '"' then some { reader with place := .quoted } else reader.stepPlain c
  | .plain => reader.stepPlain c
  | .quoted =>
      if c = '"' then some { reader with place := .quote } else some (reader.push c .quoted)
  | .quote => if c = '"' then some (reader.push '"' .quoted) else reader.stepEnd c
  | .lineEnd => if c = '\n' then some reader.endRow else none

end Reader

/-- Every record ends with its line break. -/
def read (text : List Char) : Option (List Row) := do
  let reader ← text.foldlM Reader.step ⟨[], [], [], .start⟩
  if reader.place = .start ∧ reader.fields = [] then some reader.rows else none

/-! ## What was written is read -/

/-- The field is complete: it ends at the next comma or line break. -/
def Place.Closes (place : Place) : Prop :=
  place = .start ∨ place = .plain ∨ place = .quote

section Reading

variable (rows : List Row) (fields : Row)

theorem step_comma {place : Place} (closes : place.Closes) (field : Field) :
    Reader.step ⟨rows, fields, field, place⟩ ',' =
      some ⟨rows, fields ++ [field], [], .start⟩ := by
  rcases closes with rfl | rfl | rfl <;> rfl

theorem step_return {place : Place} (closes : place.Closes) (field : Field) :
    Reader.step ⟨rows, fields, field, place⟩ '\r' = some ⟨rows, fields, field, .lineEnd⟩ := by
  rcases closes with rfl | rfl | rfl <;> rfl

theorem foldlM_plain (text : Field) (unquoted : ∀ c ∈ text, isSpecial c = false) (field : Field)
    (place : Place) (unquotedPlace : place = .start ∨ place = .plain) :
    ∃ after : Place, after.Closes ∧
      text.foldlM Reader.step ⟨rows, fields, field, place⟩ =
        some ⟨rows, fields, field ++ text, after⟩ := by
  induction text generalizing field place with
  | nil =>
    refine ⟨place, ?_, by simp⟩
    rcases unquotedPlace with rfl | rfl
    · exact Or.inl rfl
    · exact Or.inr (Or.inl rfl)
  | cons c rest ih =>
    have ordinary := unquoted c List.mem_cons_self
    have notQuote : c ≠ '"' := by
      rintro rfl
      cases ordinary
    have taken : Reader.step ⟨rows, fields, field, place⟩ c =
        some ⟨rows, fields, field ++ [c], .plain⟩ := by
      rcases unquotedPlace with rfl | rfl
      · simp [Reader.step, Reader.stepPlain, Reader.push, notQuote, ordinary]
      · simp [Reader.step, Reader.stepPlain, Reader.push, ordinary]
    obtain ⟨after, closes, read⟩ := ih (fun c' member => unquoted c' (List.mem_cons_of_mem _ member))
      (field ++ [c]) .plain (Or.inr rfl)
    refine ⟨after, closes, ?_⟩
    rw [List.foldlM_cons, taken]
    simpa using read

theorem foldlM_doubled (text field : Field) :
    (text.flatMap doubled).foldlM Reader.step ⟨rows, fields, field, .quoted⟩ =
      some ⟨rows, fields, field ++ text, .quoted⟩ := by
  induction text generalizing field with
  | nil => simp
  | cons c rest ih =>
    have taken : (doubled c).foldlM Reader.step ⟨rows, fields, field, .quoted⟩ =
        some ⟨rows, fields, field ++ [c], .quoted⟩ := by
      by_cases isQuote : c = '"'
      · subst isQuote
        rfl
      · simp [doubled, isQuote, Reader.step, Reader.push]
    rw [List.flatMap_cons, List.foldlM_append, taken]
    simpa using ih (field ++ [c])

theorem foldlM_writeField (field : Field) :
    ∃ after : Place, after.Closes ∧
      (writeField field).foldlM Reader.step ⟨rows, fields, [], .start⟩ =
        some ⟨rows, fields, field, after⟩ := by
  unfold writeField
  split
  · refine ⟨.quote, Or.inr (Or.inr rfl), ?_⟩
    have opened : Reader.step ⟨rows, fields, [], .start⟩ '"' = some ⟨rows, fields, [], .quoted⟩ := rfl
    have closed : Reader.step ⟨rows, fields, field, .quoted⟩ '"' =
        some ⟨rows, fields, field, .quote⟩ := rfl
    rw [List.cons_append, List.foldlM_cons, opened]
    simp [List.foldlM_append, foldlM_doubled, closed]
  · rename_i ordinary
    have unquoted : ∀ c ∈ field, isSpecial c = false := by
      simpa using ordinary
    simpa using foldlM_plain rows fields field unquoted [] .start (Or.inl rfl)

theorem foldlM_joinFields (row : Row) (nonempty : row ≠ []) :
    (joinFields row ++ ['\r', '\n']).foldlM Reader.step ⟨rows, fields, [], .start⟩ =
      some ⟨rows ++ [fields ++ row], [], [], .start⟩ := by
  induction row generalizing fields with
  | nil => exact absurd rfl nonempty
  | cons field rest ih =>
    obtain ⟨after, closes, read⟩ := foldlM_writeField rows fields field
    cases rest with
    | nil =>
      have ended : Reader.step ⟨rows, fields, field, .lineEnd⟩ '\n' =
          some ⟨rows ++ [fields ++ [field]], [], [], .start⟩ := rfl
      rw [joinFields, List.foldlM_append, read]
      simp [step_return rows fields closes, ended]
    | cons next more =>
      have tail := ih (fields ++ [field]) (List.cons_ne_nil _ _)
      rw [joinFields, List.append_assoc, List.foldlM_append, read]
      · simpa [step_comma rows fields closes] using tail
      · simp

theorem foldlM_writeRow (row : Row) (nonempty : row ≠ []) :
    (writeRow row).foldlM Reader.step ⟨rows, [], [], .start⟩ =
      some ⟨rows ++ [row], [], [], .start⟩ := by
  unfold writeRow
  split
  · rename_i single
    subst single
    rfl
  · simpa using foldlM_joinFields rows [] row nonempty

end Reading

theorem foldlM_writeRows (before rows : List Row) (nonempty : ∀ row ∈ rows, row ≠ []) :
    (writeRows rows).foldlM Reader.step ⟨before, [], [], .start⟩ =
      some ⟨before ++ rows, [], [], .start⟩ := by
  induction rows generalizing before with
  | nil => simp [writeRows]
  | cons row rest ih =>
    have tail := ih (before ++ [row]) fun other member =>
      nonempty other (List.mem_cons_of_mem _ member)
    rw [writeRows, List.flatMap_cons, List.foldlM_append,
      foldlM_writeRow before row (nonempty row List.mem_cons_self)]
    simpa [writeRows] using tail

/-- Whatever the fields contain, the file is read back field by field. -/
theorem read_writeRows (rows : List Row) (nonempty : ∀ row ∈ rows, row ≠ []) :
    read (writeRows rows) = some rows := by
  unfold read
  rw [foldlM_writeRows [] rows nonempty]
  simp

end Csv
