import CardReboot.Failure
import CardReboot.Text.Lower
import CardReboot.TrapTable.Row

/-!
# Trap tables

A line card prints how many packets it handed to each exception path, one row
per path under a header that starts with `DEV`.  What precedes the header is
ignored.  After it every line has to be blank, a header again, or a row; any
other line makes the whole table unreadable, so that a garbled table is never
taken for one without drops.
-/

namespace CardReboot

/-- One row of a trap table. -/
structure TrapRecord where
  device : Nat
  trapCode : Nat
  name : String
  count : Nat
  rate : Nat
  deriving DecidableEq, Repr

namespace TrapTable

def headerMark : String := "DEV"

def isHeader (line : List Char) : Bool := headerMark.toList.isPrefixOf line

/-- The console command that prints the table of a line card. -/
def command (linecard : String) : String :=
  "request pfe execute target " ++ String.ofList (Text.lower linecard.toList) ++
    " command \"show cda trapstats\" | no-more"

/-- Reads the number in one column of a line. -/
def number (column : TrapColumn) (limit : Nat) (text line : List Char) : Outcome Nat :=
  match Numeral.read limit (Text.trim text) with
  | .ok n => .ok n
  | .error cause => .error (.invalidNumber column (String.ofList line) cause)

/-- Reads the columns of a line from left to right. -/
def record (columns : Columns) (line : List Char) : Outcome TrapRecord := do
  let device ← number .device Numeral.word32 columns.device line
  let trapCode ← number .trapCode Numeral.word32 columns.trapCode line
  let count ← number .count Numeral.word64 columns.count line
  let rate ← number .rate Numeral.word64 columns.rate line
  return ⟨device, trapCode, String.ofList (Text.trim columns.name), count, rate⟩

/-- What one line of the table holds: a record, or nothing. -/
def line (text : List Char) : Outcome (Option TrapRecord) :=
  if isHeader text then .ok none
  else match columns? text with
    | some columns => some <$> record columns text
    | none =>
        if Text.isBlankText text then .ok none
        else .error (.malformedLine (String.ofList text))

/-- The records of the lines from the first header on. -/
def records : List (List Char) → Outcome (List TrapRecord)
  | [] => .ok []
  | text :: rest => do
      let found ← line text
      let more ← records rest
      return found.toList ++ more

/-- Reads what the console printed.  Without a header there are no records. -/
def parse (output : String) : Outcome (List TrapRecord) :=
  records ((Text.lines output.toList).dropWhile fun text => !isHeader text)

end TrapTable

end CardReboot
