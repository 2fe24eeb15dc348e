import Docsmith.FileTree.Disk
import Docsmith.Value.Conversion

/-!
# Coverage of a repository

A coverage report has totals, files, and the errors of benches that could not be run.  The table of the files lists
those with the least coverage first.
-/

namespace Docsmith.Measure

/-- The folder whose coverage is measured. -/
def repository : String := "/repo"

/-- The part of a value under a name, or an empty record if it is missing or counts as false. -/
def part (name : String) (v : Value) : Outcome Value := do
  let p ← v.getOr (.text name) .null
  .ok (if p.truthy then p else .record [])

/-- The fields of a value that should be a record. -/
def fieldsOf (method : String) (v : Value) : Outcome (Fields Value) :=
  match v with
  | .record fields => .ok fields
  | _ => .error (.noAttribute v.typeName method)

/-- A coverage report. -/
structure Coverage where
  percent : Binary64
  covered : Int
  statements : Int
  errors : Value
  errorCount : Nat
  files : Value

namespace Coverage

/-- The report that a value describes. -/
def ofValue (data : Value) : Outcome Coverage := do
  let totals ← part "totals" data
  let percent ← (← totals.getOr (.text "percent_covered") (.int 0)).toFloat
  let covered ← (← totals.getOr (.text "covered_lines") (.int 0)).toInt
  let statements ← (← totals.getOr (.text "num_statements") (.int 0)).toInt
  let errors ← part "_pti_bench_errors" (← part "meta" data)
  .ok ⟨percent, covered, statements, errors, ← errors.size, ← part "files" data⟩

/-- A line of the table. -/
structure Row where
  name : List Char
  statements : Int
  missed : Int
  percent : Binary64
  missing : List Value

/-- The longest name in the table. -/
def nameLimit : Nat := 60

/-- The name of a file as it stands in the table. -/
def rowName (file : String) : List Char :=
  (if Path.isAbsolute file then Path.relativeTo repository file else file).toList.take nameLimit

/-- The line of a file. -/
def rowOf (file : String) (v : Value) : Outcome Row := do
  let summary ← part "summary" v
  let statements ← (← summary.getOr (.text "num_statements") (.int 0)).toInt
  let missed ← (← summary.getOr (.text "missing_lines") (.int 0)).toInt
  let percent ← (← summary.getOr (.text "percent_covered") (.int 0)).toFloat
  let missing ← (← part "missing_lines" v).elements
  .ok ⟨rowName file, statements, missed, percent, missing⟩

/-- The order of the table: less coverage first, and of equal coverage more statements first. -/
def Row.before (a b : Row) : Bool :=
  match a.percent.compare? b.percent with
  | some .lt => true
  | some .eq => b.statements ≤ a.statements
  | _ => false

/-- The lines of the table in order. -/
def rows (c : Coverage) : Outcome (List Row) := do
  let rows ← (← fieldsOf "items" c.files).mapM fun f => rowOf f.1 f.2
  .ok (rows.mergeSort Row.before)

/-- How many missing lines are listed. -/
def missingLimit : Nat := 12

/-- The missing lines of a file. -/
def missingText (missing : List Value) : List Char :=
  Text.join [','] ((missing.take missingLimit).map Value.display) ++
    (if missingLimit < missing.length then ['…'] else [])

/-- The columns of a line after the name. -/
def columns (statements missed : Int) (percent : Binary64) : List Char :=
  "  ".toList ++ Text.padLeft 5 ' ' (Value.intText statements) ++ "  ".toList ++
    Text.padLeft 4 ' ' (Value.intText missed) ++ "  ".toList ++
    Text.padLeft 4 ' ' (percent.fixedText 0) ++ ['%']

/-- The line of a file in a table whose names have a given width. -/
def Row.render (width : Nat) (r : Row) : List Char :=
  Text.padRight width ' ' r.name ++ columns r.statements r.missed r.percent ++ "  ".toList ++
    missingText r.missing

/-- The most files that are listed. -/
def rowLimit : Nat := 120

/-- The table of the files and the totals, line by line. -/
def table (c : Coverage) : Outcome (List (List Char)) := do
  let rows ← c.rows
  let width := ((rows.map fun r => r.name.length).max?).getD 4
  let rule := List.replicate (width + 42) '-'
  .ok ([Text.padRight width ' ' "Name".toList ++ "  Stmts  Miss  Cover  Missing".toList, rule] ++
    (rows.take rowLimit).map (Row.render width) ++
    [rule, Text.padRight width ' ' "TOTAL".toList ++ columns c.statements (c.statements - c.covered) c.percent])

end Coverage

end Docsmith.Measure
