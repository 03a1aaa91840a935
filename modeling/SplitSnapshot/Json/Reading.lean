import SplitSnapshot.Decimal.Reading
import SplitSnapshot.Json.Value
import SplitSnapshot.Power

namespace SplitSnapshot

namespace Json

def isSpace (c : Char) : Bool :=
  c == ' ' || c == '\n' || c == '\r' || c == '\t'

def skipSpace (s : List Char) : List Char :=
  s.dropWhile isSpace

def takeUnit? : List Char → Option (Nat × List Char)
  | a :: b :: c :: d :: s => (Text.readHex? [a, b, c, d]).map (·, s)
  | _ => none

def isHighSurrogate (n : Nat) : Bool := decide (0xD800 ≤ n ∧ n < 0xDC00)

def isLowSurrogate (n : Nat) : Bool := decide (0xDC00 ≤ n ∧ n < 0xE000)

def takeEscaped? (s : List Char) : Option (Char × List Char) := do
  let (n, s) ← takeUnit? s
  if isHighSurrogate n then
    match s with
    | '\x5c' :: 'u' :: t => do
        let (m, t) ← takeUnit? t
        if isLowSurrogate m then
          some (Char.ofNat (0x10000 + (n - 0xD800) * 0x400 + (m - 0xDC00)), t)
        else none
    | _ => none
  else if isLowSurrogate n then none
  else some (Char.ofNat n, s)

def unescapeLetter? (c : Char) : Option Char :=
  if c = '\x22' ∨ c = '\x5c' ∨ c = '/' then some c
  else if c = 'b' then some '\x08'
  else if c = 'f' then some '\x0c'
  else if c = 'n' then some '\n'
  else if c = 'r' then some '\r'
  else if c = 't' then some '\t'
  else none

def takeText? : Nat → List Char → Option (List Char × List Char)
  | 0, _ => none
  | _, [] => none
  | fuel + 1, c :: s =>
      if c = '\x22' then some ([], s)
      else if c = '\x5c' then
        match s with
        | 'u' :: t => do
            let (c, t) ← takeEscaped? t
            let (cs, t) ← takeText? fuel t
            pure (c :: cs, t)
        | l :: t => do
            let c ← unescapeLetter? l
            let (cs, t) ← takeText? fuel t
            pure (c :: cs, t)
        | [] => none
      else if c.toNat < 0x20 then none
      else (takeText? fuel s).map fun (cs, t) => (c :: cs, t)

def takeWhole? (s : List Char) : Option (List Char × List Char) :=
  match s with
  | '0' :: c :: t => if c.isDigit then none else some (['0'], c :: t)
  | _ =>
      let digits := s.takeWhile Char.isDigit
      if digits.isEmpty then none else some (digits, s.dropWhile Char.isDigit)

def takePlaces? : List Char → Option (List Char × List Char)
  | '.' :: s =>
      let digits := s.takeWhile Char.isDigit
      if digits.isEmpty then none else some (digits, s.dropWhile Char.isDigit)
  | s => some ([], s)

def takeExponent? : List Char → Option (Option Int × List Char)
  | c :: s =>
      if c = 'e' ∨ c = 'E' then
        let (negative, s) := match s with
          | '-' :: t => (true, t)
          | '+' :: t => (false, t)
          | t => (false, t)
        (Text.readDecimal? (s.takeWhile Char.isDigit)).map fun n =>
          (some (if negative then -(n : Int) else n), s.dropWhile Char.isDigit)
      else some (none, c :: s)
  | [] => some (none, [])

def ofNumber? (negative : Bool) (whole places : List Char) (exponent : Option Int) : Option Json :=
  let n := (Text.readDecimal? whole).getD 0
  let small := if negative then decide (0 < n ∧ n ≤ pow2 63) else decide (n < pow2 64)
  if places.isEmpty && exponent.isNone && small then
    some (.int (if negative then -(n : Int) else n))
  else (Binary64.ofQuickParts? whole places (exponent.getD 0)).map fun x =>
    .float (if negative then x.neg else x)

def takeNumber? (s : List Char) : Option (Json × List Char) := do
  let (negative, s) := match s with
    | '-' :: t => (true, t)
    | t => (false, t)
  let (whole, s) ← takeWhole? s
  let (places, s) ← takePlaces? s
  let (exponent, s) ← takeExponent? s
  let v ← ofNumber? negative whole places exponent
  pure (v, s)

mutual

/-- A value at the head of a text, with at most `depth` lists and objects around what is inside. Each
call takes a character at least, or is the first of its list or object. -/
def takeValue? : Nat → Nat → List Char → Option (Json × List Char)
  | 0, _, _ => none
  | fuel + 1, depth, s =>
      match skipSpace s with
      | [] => none
      | c :: t =>
          if c = '\x22' then (takeText? (t.length + 1) t).map fun (cs, t) =>
            (.text (String.ofList cs), t)
          else if c = '[' then
            if depth = 0 then none
            else match skipSpace t with
              | ']' :: t => some (.list [], t)
              | t => (takeItems? fuel (depth - 1) t).map fun (vs, t) => (.list vs, t)
          else if c = '\x7b' then
            if depth = 0 then none
            else match skipSpace t with
              | '\x7d' :: t => some (.object [], t)
              | t => (takeFields? fuel (depth - 1) t).map fun (fs, t) => (ofFields fs, t)
          else if c = 'n' then (Text.dropStart? "ull".toList t).map (.null, ·)
          else if c = 't' then (Text.dropStart? "rue".toList t).map (.bool true, ·)
          else if c = 'f' then (Text.dropStart? "alse".toList t).map (.bool false, ·)
          else takeNumber? (c :: t)

def takeItems? : Nat → Nat → List Char → Option (List Json × List Char)
  | 0, _, _ => none
  | fuel + 1, depth, s => do
      let (v, s) ← takeValue? fuel depth s
      match skipSpace s with
      | ',' :: t => do
          let (vs, t) ← takeItems? fuel depth t
          pure (v :: vs, t)
      | ']' :: t => some ([v], t)
      | _ => none

def takeFields? : Nat → Nat → List Char → Option (List (String × Json) × List Char)
  | 0, _, _ => none
  | fuel + 1, depth, s =>
      match skipSpace s with
      | '\x22' :: s => do
          let (name, s) ← takeText? (s.length + 1) s
          match skipSpace s with
          | ':' :: s => do
              let (v, s) ← takeValue? fuel depth s
              match skipSpace s with
              | ',' :: t => do
                  let (fs, t) ← takeFields? fuel depth t
                  pure ((String.ofList name, v) :: fs, t)
              | '\x7d' :: t => some ([(String.ofList name, v)], t)
              | _ => none
          | _ => none
      | _ => none

end

def read? (s : String) : Option Json :=
  match takeValue? (2 * s.length + 2) 127 s.toList with
  | some (v, rest) => if (skipSpace rest).isEmpty then some v else none
  | none => none

end Json

end SplitSnapshot
