import SplitSnapshot.Decimal.Reading
import SplitSnapshot.Fault

namespace SplitSnapshot

namespace KeyType

def intKey? (t : KeyType) (n : Int) : Option Key :=
  if t.intRange.1 ≤ n ∧ n < t.intRange.2 then some (.int n) else none

def readInt? (t : KeyType) : Json → Option Key
  | .int n => t.intKey? n
  | .text s => (Text.readSigned? (Text.trim s.toList)).bind t.intKey?
  | _ => none

def numericKey? (digits : List Char) : Option Key :=
  if DecimalLiteral.isLiteral digits then some (.numeric (String.ofList digits)) else none

def readNumeric? : Json → Option Key
  | .int n => numericKey? (Text.signedDecimal n)
  | .float x => numericKey? x.documentText
  | .text s => numericKey? (Text.trim s.toList)
  | _ => none

def floatKey? (x : Binary64) : Option Key :=
  if x.isNaN then none else some (.float x)

def readFloat? : Json → Option Key
  | .int n => floatKey? (Binary64.ofInt n)
  | .float x => floatKey? x
  | .text s => (Binary64.read? (Text.trim s.toList)).bind floatKey?
  | _ => none

def readKey? (t : KeyType) (v : Json) : Option Key :=
  match t with
  | int16 | int32 | int64 => t.readInt? v
  | numeric => readNumeric? v
  | float64 => readFloat? v
  | text => v.text?.map .text
  | uuid => (v.text?.bind fun s => Uuid.read? s.toList).map .uuid
  | date => (v.text?.bind fun s => Date.read? s.toList).map .date
  | timestamp => (v.text?.bind fun s => Timestamp.read? s.toList).map .timestamp
  | timestampTz => (v.text?.bind fun s => ZonedTimestamp.read? s.toList).map .timestampTz
  | bool | json | bytes => none

def readKey (t : KeyType) (v : Json) : Except QueryFault Key :=
  if t.isComparable then
    match t.readKey? v with
    | some key => .ok key
    | none => .error (.invalidKey v t)
  else .error (.unusableType t)

theorem isComparable_of_readKey? {t : KeyType} {v : Json} {key : Key}
    (h : t.readKey? v = some key) : t.isComparable = true := by
  cases t with
  | bool | json | bytes => cases h
  | _ => rfl

theorem readKey_eq_ok_iff (t : KeyType) (v : Json) (key : Key) :
    t.readKey v = .ok key ↔ t.readKey? v = some key := by
  unfold readKey
  split
  · cases h : t.readKey? v <;> simp
  · rename_i hc
    constructor
    · intro h
      cases h
    · intro h
      exact absurd (isComparable_of_readKey? h) hc

end KeyType

end SplitSnapshot
