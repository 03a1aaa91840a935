import SplitSnapshot.Binary64
import SplitSnapshot.Fields
import SplitSnapshot.Power

namespace SplitSnapshot

inductive Json where
  | null
  | bool (b : Bool)
  | int (n : Int)
  | float (x : Binary64)
  | text (s : String)
  | list (items : List Json)
  | object (fields : List (String × Json))
  deriving Repr, Inhabited

namespace Json

def ofFields (fields : List (String × Json)) : Json :=
  .object (Fields.ofList fields)

def isNull : Json → Bool
  | null => true
  | _ => false

def text? : Json → Option String
  | text s => some s
  | _ => none

def bool? : Json → Option Bool
  | bool b => some b
  | _ => none

def list? : Json → Option (List Json)
  | list items => some items
  | _ => none

def object? : Json → Option (List (String × Json))
  | object fields => some fields
  | _ => none

def intWithin? (lo hi : Int) : Json → Option Int
  | int n => if lo ≤ n ∧ n < hi then some n else none
  | _ => none

def signed? : Json → Option Int :=
  intWithin? (-pow2 63) (pow2 63)

def natural? (v : Json) : Option Nat :=
  (v.intWithin? 0 (pow2 64)).map Int.toNat

def field? (v : Json) (name : String) : Option Json :=
  v.object?.bind (Fields.get? name)

def record? (names : List String) : Json → Option Json
  | object fields => some (object fields)
  | list items => if items.length ≤ names.length then some (ofFields (names.zip items)) else none
  | _ => none

def choice? (isNothing : Json → Bool) : Json → Option String
  | text name => some name
  | object [(name, v)] => if isNothing v then some name else none
  | _ => none

def isVoid : Json → Bool
  | null | object [] => true
  | _ => false

def present? (v : Json) (name : String) : Option Json :=
  (v.field? name).filter fun x => !x.isNull

def require? {α : Type} (v : Json) (name : String) (decode : Json → Option α) : Option α :=
  (v.field? name).bind decode

def optional? {α : Type} (v : Json) (name : String) (decode : Json → Option α) :
    Option (Option α) :=
  match v.present? name with
  | none => some none
  | some x => (decode x).map some

def default? {α : Type} (v : Json) (name : String) (absent : α) (decode : Json → Option α) :
    Option α :=
  match v.field? name with
  | none => some absent
  | some x => decode x

def ofOption : Option Json → Json
  | none => null
  | some v => v

end Json

end SplitSnapshot
