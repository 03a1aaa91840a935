import SplitSnapshot.Calendar.Timestamp
import SplitSnapshot.Json.Reading
import SplitSnapshot.Postgres.BuiltinType
import SplitSnapshot.Uuid

namespace SplitSnapshot

abbrev Bytes := List UInt8

namespace Bytes

def natural (bytes : Bytes) : Nat :=
  bytes.foldl (fun n b => 256 * n + b.toNat) 0

def natural? (width : Nat) (bytes : Bytes) : Option Nat :=
  if bytes.length = width then some bytes.natural else none

def signed? (width : Nat) (bytes : Bytes) : Option Int :=
  (bytes.natural? width).map fun n =>
    if n < Nat.pow 256 width / 2 then (n : Int) else (n : Int) - Nat.pow 256 width

def text? (bytes : Bytes) : Option String :=
  String.fromUTF8? ⟨bytes.toArray⟩

def hex (bytes : Bytes) : String :=
  String.ofList (bytes.flatMap fun b => Uuid.hexDigits 2 b.toNat)

end Bytes

inductive ValueForm where
  | bool
  | int (width : Nat)
  | objectNumber
  | byteChar
  | single
  | double
  | bytes
  | date
  | time
  | timestamp
  | timestampTz
  | json
  | binaryJson
  | uuid
  | text
  | versionedText
  deriving DecidableEq, Repr

namespace ValueForm

def ofNumber? : Nat → Option ValueForm
  | 16 => some bool
  | 17 => some bytes
  | 18 => some byteChar
  | 20 => some (int 8)
  | 21 => some (int 2)
  | 23 => some (int 4)
  | 26 => some objectNumber
  | 114 => some json
  | 700 => some single
  | 701 => some double
  | 1082 => some date
  | 1083 => some time
  | 1114 => some timestamp
  | 1184 => some timestampTz
  | 2950 => some uuid
  | 3802 => some binaryJson
  | 19 | 25 | 705 | 1042 | 1043 => some text
  | _ => none

/-- Of the types that servers define for themselves, those of the extensions for texts without case and
for labelled trees are read as texts. -/
def ofName? (name : String) : Option ValueForm :=
  if name = "citext" then some text
  else if name ∈ ["ltree", "lquery", "ltxtquery"] then some versionedText
  else none

def ofType? : ColumnType → Option ValueForm
  | .builtin number => ofNumber? number
  | .defined name => ofName? name

def isText : ValueForm → Bool
  | text | versionedText => true
  | _ => false

def finite (x : Binary64) : Json :=
  if x.isFinite then .float x else .null

def timestamp? (v : Bytes) : Option Timestamp :=
  (v.signed? 8).bind Timestamp.ofMicros2000?

def unversioned? : Bytes → Option Bytes
  | 1 :: v => some v
  | _ => none

def document? (v : Bytes) : Option Json :=
  v.text?.bind Json.read?

def read? (form : ValueForm) (v : Bytes) : Option Json :=
  match form with
  | bool => (v.natural? 1).map fun n => .bool (n ≠ 0)
  | int width => (v.signed? width).map .int
  | objectNumber => (v.natural? 4).map fun n => .int n
  | byteChar => (v.natural? 1).map fun n => .text (String.singleton (Char.ofNat n))
  | single => (v.natural? 4).map fun n => finite (Binary64.ofSingle (UInt32.ofNat n))
  | double => (v.natural? 8).map fun n => finite ⟨UInt64.ofNat n⟩
  | bytes => some (.text v.hex)
  | date =>
      ((v.signed? 4).bind fun n => Date.ofDayNumber? (Timestamp.epoch2000 + n)).map fun d =>
        .text (String.ofList d.text)
  | time => (v.signed? 8).map fun n => .text (String.ofList (Clock.ofMicros n).text)
  | timestamp => (timestamp? v).map fun t => .text (String.ofList t.text)
  | timestampTz =>
      (timestamp? v).map fun t => .text (String.ofList (ZonedTimestamp.text ⟨t, 0⟩))
  | json => document? v
  | binaryJson => (unversioned? v).bind document?
  | uuid =>
      (v.natural? 16).map fun n => .text (String.ofList (Uuid.text ⟨BitVec.ofNat 128 n⟩))
  | text => v.text?.map .text
  | versionedText => ((unversioned? v).bind Bytes.text?).map .text

end ValueForm

end SplitSnapshot
