import SplitSnapshot.Postgres.Binary
import SplitSnapshot.ReadError

namespace SplitSnapshot

structure ResultColumn where
  name : String
  type : ColumnType
  deriving DecidableEq, Repr

structure ResultSet where
  columns : List ResultColumn
  rows : List (List (Option Bytes))
  deriving DecidableEq, Repr

namespace ResultColumn

def noDecoding (c : ResultColumn) (i : Nat) : ReadError :=
  .schema (.noDecoding c.name c.type.name (.column i))

def undecodable (c : ResultColumn) (i : Nat) : ReadError :=
  .scanFailed (.undecodable c.name) (some (.client (.column i)))

def decode (c : ResultColumn) (i : Nat) (v : Option Bytes) : Except ReadError Json :=
  match ValueForm.ofType? c.type, v with
  | none, _ => .error (c.noDecoding i)
  | some _, none => .ok .null
  | some form, some bytes =>
      match form.read? bytes with
      | some v => .ok v
      | none => .error (if form.isText then c.noDecoding i else c.undecodable i)

end ResultColumn

namespace ResultSet

def names (r : ResultSet) : List String :=
  r.columns.map (·.name)

def decodeFrom : Nat → List ResultColumn → List (Option Bytes) → Except ReadError (List Json)
  | i, c :: cs, v :: vs => do
      let value ← c.decode i v
      let values ← decodeFrom (i + 1) cs vs
      pure (value :: values)
  | _, _, _ => .ok []

def decodeRow (r : ResultSet) (row : List (Option Bytes)) : Except ReadError (List Json) :=
  decodeFrom 0 r.columns row

end ResultSet

end SplitSnapshot
