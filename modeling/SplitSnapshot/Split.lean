import SplitSnapshot.Key.Reading

namespace SplitSnapshot

structure Split where
  splitId : String
  table : TableId
  keyColumn : String
  keyType : KeyType
  lower : Option Json
  upper : Option Json
  endInclusive : Bool
  deriving Repr

namespace Split

def whole (splitId : String) (table : TableId) (keyColumn : String) (keyType : KeyType) : Split :=
  ⟨splitId, table, keyColumn, keyType, none, none, true⟩

def bound (v : Option Json) : Option Json :=
  v.filter fun v => !v.isNull

def withLower (s : Split) (v : Json) : Split :=
  { s with lower := bound (some v) }

def withUpper (s : Split) (v : Json) : Split :=
  { s with upper := bound (some v) }

def withRange (s : Split) (lower upper : Option Json) : Split :=
  { s with lower := bound lower, upper := bound upper }

def withExclusiveEnd (s : Split) : Split :=
  { s with endInclusive := false }

def isFirst (s : Split) : Bool := s.lower.isNone

def isLast (s : Split) : Bool := s.upper.isNone

def readBound (t : KeyType) : Option Json → Except QueryFault (Option Key)
  | none => .ok none
  | some v => (t.readKey v).map some

def lowerKey (s : Split) : Except QueryFault (Option Key) :=
  readBound s.keyType s.lower

def upperKey (s : Split) : Except QueryFault (Option Key) :=
  readBound s.keyType s.upper

def boundsOrdered (endInclusive : Bool) (lower upper : Key) : Bool :=
  match lower.compare? upper with
  | some .lt => true
  | some .eq => endInclusive
  | _ => false

def validate (s : Split) : Except QueryFault Unit := do
  if s.splitId.isEmpty then throw .emptySplitId
  if s.keyColumn.isEmpty then throw (.noKeyColumn s.splitId)
  if !s.keyType.isComparable then throw (.incomparableKey s.keyColumn s.keyType)
  let lower ← s.lowerKey
  let upper ← s.upperKey
  match lower, upper with
  | some lo, some hi =>
      if boundsOrdered s.endInclusive lo hi then pure ()
      else throw (.boundsReversed s.splitId lo hi)
  | _, _ => pure ()

def atLeast (key : Key) : Option Key → Bool
  | none => true
  | some lo => match key.compare? lo with
      | some .gt | some .eq => true
      | _ => false

def atMost (endInclusive : Bool) (key : Key) : Option Key → Bool
  | none => true
  | some hi => match key.compare? hi with
      | some .lt => true
      | some .eq => endInclusive
      | _ => false

def contains (s : Split) (key : Key) : Except QueryFault Bool := do
  let lower ← s.lowerKey
  if !atLeast key lower then pure false
  else do
    let upper ← s.upperKey
    pure (atMost s.endInclusive key upper)

def toJson (s : Split) : Json :=
  .ofFields [
    ("split_id", .text s.splitId),
    ("table_id", s.table.toJson),
    ("split_key", .text s.keyColumn),
    ("split_key_type", s.keyType.toJson),
    ("split_start", .ofOption s.lower),
    ("split_end", .ofOption s.upper),
    ("end_inclusive", .bool s.endInclusive)]

def ofJson? (v : Json) : Option Split := do
  let v ← v.record? ["split_id", "table_id", "split_key", "split_key_type", "split_start",
    "split_end", "end_inclusive"]
  let splitId ← v.require? "split_id" Json.text?
  let table ← v.require? "table_id" TableId.ofJson?
  let keyColumn ← v.require? "split_key" Json.text?
  let keyType ← v.require? "split_key_type" KeyType.ofJson?
  let endInclusive ← v.default? "end_inclusive" true Json.bool?
  pure ⟨splitId, table, keyColumn, keyType, v.present? "split_start", v.present? "split_end",
    endInclusive⟩

end Split

end SplitSnapshot
