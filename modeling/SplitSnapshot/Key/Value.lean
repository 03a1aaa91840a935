import SplitSnapshot.Calendar.Timestamp
import SplitSnapshot.Decimal.Literal
import SplitSnapshot.Decimal.Shortest
import SplitSnapshot.Uuid

namespace SplitSnapshot

inductive Key where
  | int (n : Int)
  | float (x : Binary64)
  | numeric (digits : String)
  | text (s : String)
  | uuid (u : Uuid)
  | date (d : Date)
  | timestamp (t : Timestamp)
  | timestampTz (t : ZonedTimestamp)
  deriving DecidableEq, Repr

namespace Key

def compare? : Key → Key → Option Ordering
  | int a, int b => some (compare a b)
  | float a, float b => a.compare? b
  | numeric a, numeric b => some (DecimalLiteral.compareTexts a.toList b.toList)
  | text a, text b => some (compare a b)
  | uuid a, uuid b => some (a.compare b)
  | date a, date b => some (a.compare b)
  | timestamp a, timestamp b => some (a.compare b)
  | timestampTz a, timestampTz b => some (a.compare b)
  | _, _ => none

def display : Key → String
  | int n => String.ofList (Text.signedDecimal n)
  | float x => String.ofList x.plainText
  | numeric digits => digits
  | text s => s
  | uuid u => String.ofList u.text
  | date d => String.ofList d.text
  | timestamp t => String.ofList t.text
  | timestampTz t => String.ofList t.text

end Key

end SplitSnapshot
