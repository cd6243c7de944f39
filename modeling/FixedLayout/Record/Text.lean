import FixedLayout.Decimal.Shortest
import FixedLayout.Json.Basic
import FixedLayout.Record.View

/-!
Records as text, such as `PolarPoint { mag: 1.5, arg: -2.25 }`, and records from JSON.
-/
namespace FixedLayout

/-- Numbers from 0.0001 on and below ten to the sixteenth are written in full. -/
def fieldFormat : DecimalFormat := { leastExponent := -4, greatestExponent := 15 }

/-- The text of a number: its shortest decimal. A NaN shows no sign. -/
def Binary32.text (bits : Binary32) : String :=
  if bits.isNaN then
    "NaN"
  else
    let sign := if bits.negative then "-" else ""
    let size :=
      if !bits.isFinite then "inf"
      else if bits.isZero then "0.0"
      else bits.shortest.text fieldFormat
    sign ++ size

def Record.textAs (heading : String) (kind : RecordKind) (record : Record) : String :=
  heading ++ " \x7b " ++ kind.fieldName .first ++ ": " ++ record.first.text ++ ", " ++
    kind.fieldName .second ++ ": " ++ record.second.text ++ " \x7d"

def Record.text (kind : RecordKind) (record : Record) : String :=
  record.textAs (kind.name ++ "T") kind

def View.text (view : View) : Except Fault String := do
  return (← view.unpack).textAs view.kind.name view.kind

namespace Record

def number? : Json → Option Binary32
  | .number numeral => numeral.toBinary32?
  | _ => none

/-- The record that a value describes. Both fields are required, and each is a number. -/
def ofJson? (kind : RecordKind) (json : Json) : Option Record :=
  match json.fields? [kind.fieldName .first, kind.fieldName .second] with
  | some [some first, some second] => do
    return { first := ← number? first, second := ← number? second }
  | _ => none

end Record
end FixedLayout
