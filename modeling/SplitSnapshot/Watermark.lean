import SplitSnapshot.Json.Value

namespace SplitSnapshot

inductive WatermarkKind where
  | low
  | high
  deriving DecidableEq, Repr

namespace WatermarkKind

def name : WatermarkKind → String
  | low => "LOW"
  | high => "HIGH"

def ofName? (s : String) : Option WatermarkKind :=
  [low, high].find? fun k => k.name == s

theorem ofName?_name (k : WatermarkKind) : ofName? k.name = some k := by
  cases k <;> decide

def toJson (k : WatermarkKind) : Json :=
  .text k.name

def ofJson? (isNothing : Json → Bool) (v : Json) : Option WatermarkKind :=
  (v.choice? isNothing).bind ofName?

theorem ofJson?_toJson (isNothing : Json → Bool) (k : WatermarkKind) :
    ofJson? isNothing k.toJson = some k :=
  ofName?_name k

end WatermarkKind

end SplitSnapshot
