import Foldbook.Json.Quoted
import Foldbook.Text.Upper

/-!
# The event log

What a run reports about itself.  A record has a level, the name of an event and fields; a log
keeps the records whose level reaches its threshold.  The console form of a record puts the level
and the event into columns and sorts the fields by name.
-/

namespace Foldbook

/-- How grave a record is. -/
inductive Level where
  | debug
  | info
  | warning
  | error
  | critical
  deriving DecidableEq, Repr

namespace Level

/-- The rank by which levels are compared with a threshold. -/
def rank : Level → Nat
  | .debug => 10
  | .info => 20
  | .warning => 30
  | .error => 40
  | .critical => 50

/-- The name of a level in a record. -/
def label : Level → String
  | .debug => "debug"
  | .info => "info"
  | .warning => "warning"
  | .error => "error"
  | .critical => "critical"

end Level

/-- One report. -/
structure LogRecord where
  level : Level
  event : String
  fields : List (String × Json) := []
  deriving DecidableEq, Repr

namespace LogRecord

/-- Pads a text on the right to the width of its column. -/
def column (width : Nat) (s : String) : String :=
  s ++ String.ofList (List.replicate (width - s.length) ' ')

/-- A field's value on the console: a string as it is unless it holds a blank, a quote or an equals
sign, anything else as messages quote it. -/
def fieldText : Json → String
  | .str s =>
    if s.toList.any (" \t=\r\n\"'".toList.contains ·) then Text.Quoted.render s else s
  | v => v.quoted

/-- The record as one line for the console, without its time. -/
def consoleLine (r : LogRecord) : String :=
  let fields := r.fields.mergeSort fun a b => decide (a.1 ≤ b.1)
  let pairs := fields.map fun (k, v) => k ++ "=" ++ fieldText v
  let head := "[" ++ column 9 r.level.label ++ "] "
  if pairs.isEmpty then head ++ r.event
  else head ++ column 30 r.event ++ " " ++ " ".intercalate pairs

/-- The record as a JSON object. -/
def toJson (r : LogRecord) : Json :=
  .obj (r.fields ++ [("event", .str r.event), ("level", .str r.level.label)])

end LogRecord

/-- The least rank a record needs, by the name of a level in any case.  Every other name means
`WARNING`. -/
def thresholdOf (name : String) : Nat :=
  match Text.upper name with
  | "CRITICAL" | "FATAL" => 50
  | "ERROR" => 40
  | "WARN" | "WARNING" => 30
  | "INFO" => 20
  | "DEBUG" => 10
  | "NOTSET" => 0
  | _ => 30

/-- The records kept so far, last first, and the least rank a record needs. -/
structure Log where
  threshold : Nat := 30
  /-- Whether records are written as JSON. -/
  asJson : Bool := false
  records : List LogRecord := []
  deriving Repr

/-- Keeps the record if its level reaches the threshold. -/
def Log.add (log : Log) (r : LogRecord) : Log :=
  if log.threshold ≤ r.level.rank then { log with records := r :: log.records } else log

/-- The records in the order they were made. -/
def Log.toList (log : Log) : List LogRecord := log.records.reverse

/-- The records as lines, without their times. -/
def Log.lines (log : Log) : List String :=
  log.toList.map fun r =>
    if log.asJson then Json.render Json.plain r.toJson else r.consoleLine

end Foldbook
