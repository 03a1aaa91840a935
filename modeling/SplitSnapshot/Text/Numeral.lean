namespace SplitSnapshot.Text

def digitsIn (b n : Nat) : List Nat :=
  if _h : n < b ∨ b < 2 then [n] else digitsIn b (n / b) ++ [n % b]
termination_by n
decreasing_by exact Nat.div_lt_self (by omega) (by omega)

def valueIn (b : Nat) (ds : List Nat) : Nat :=
  ds.foldl (fun v d => b * v + d) 0

theorem valueIn_append_singleton (b : Nat) (ds : List Nat) (d : Nat) :
    valueIn b (ds ++ [d]) = b * valueIn b ds + d := by
  simp [valueIn]

theorem valueIn_digitsIn {b : Nat} (hb : 2 ≤ b) (n : Nat) : valueIn b (digitsIn b n) = n := by
  induction n using Nat.strongRecOn with
  | ind n ih =>
      unfold digitsIn
      split
      · simp [valueIn]
      · rename_i h
        have hn : ¬ n < b := fun hlt => h (Or.inl hlt)
        rw [valueIn_append_singleton, ih (n / b) (Nat.div_lt_self (by omega) (by omega))]
        exact Nat.div_add_mod n b

theorem digitsIn_lt {b : Nat} (hb : 2 ≤ b) (n : Nat) : ∀ d ∈ digitsIn b n, d < b := by
  induction n using Nat.strongRecOn with
  | ind n ih =>
      unfold digitsIn
      split
      · rename_i h
        intro d hd
        have : d = n := by simpa using hd
        omega
      · rename_i h
        have hn : ¬ n < b := fun hlt => h (Or.inl hlt)
        intro d hd
        rcases List.mem_append.1 hd with hd | hd
        · exact ih (n / b) (Nat.div_lt_self (by omega) (by omega)) d hd
        · have : d = n % b := by simpa using hd
          subst this
          exact Nat.mod_lt _ (by omega)

theorem digitsIn_ne_nil (b n : Nat) : digitsIn b n ≠ [] := by
  unfold digitsIn
  split <;> simp

def decimalChar (d : Nat) : Char :=
  Char.ofNat (48 + d)

def lowerHexChar (d : Nat) : Char :=
  if d < 10 then Char.ofNat (48 + d) else Char.ofNat (87 + d)

def upperHexChar (d : Nat) : Char :=
  if d < 10 then Char.ofNat (48 + d) else Char.ofNat (55 + d)

def hexDigit? (c : Char) : Option Nat :=
  if '0' ≤ c ∧ c ≤ '9' then some (c.toNat - 48)
  else if 'a' ≤ c ∧ c ≤ 'f' then some (c.toNat - 87)
  else if 'A' ≤ c ∧ c ≤ 'F' then some (c.toNat - 55)
  else none

def decimalDigit? (c : Char) : Option Nat :=
  if c.isDigit then some (c.toNat - 48) else none

theorem decimalDigit?_decimalChar : ∀ d, d < 10 → decimalDigit? (decimalChar d) = some d := by
  decide

theorem hexDigit?_lowerHexChar : ∀ d, d < 16 → hexDigit? (lowerHexChar d) = some d := by
  decide

theorem hexDigit?_upperHexChar : ∀ d, d < 16 → hexDigit? (upperHexChar d) = some d := by
  decide

def decimal (n : Nat) : List Char :=
  (digitsIn 10 n).map decimalChar

def signedDecimal (n : Int) : List Char :=
  if n < 0 then '-' :: decimal n.natAbs else decimal n.natAbs

def upperHex (n : Nat) : List Char :=
  (digitsIn 16 n).map upperHexChar

def decimalWide (width n : Nat) : List Char :=
  List.replicate (width - (decimal n).length) '0' ++ decimal n

def readDecimal? (s : List Char) : Option Nat :=
  if s.isEmpty then none else (s.mapM decimalDigit?).map (valueIn 10)

def readHex? (s : List Char) : Option Nat :=
  if s.isEmpty then none else (s.mapM hexDigit?).map (valueIn 16)

def readSigned? : List Char → Option Int
  | '-' :: s => (readDecimal? s).map fun n => -(n : Int)
  | '+' :: s => (readDecimal? s).map fun n => (n : Int)
  | s => (readDecimal? s).map fun n => (n : Int)

theorem mapM_map_some {α β : Type} {f : α → β} {g : β → Option α} :
    ∀ {l : List α}, (∀ x ∈ l, g (f x) = some x) → (l.map f).mapM g = some l
  | [], _ => rfl
  | x :: l, h => by
      have hx := h x (by simp)
      have hl := mapM_map_some (f := f) (g := g) (l := l) fun y hy => h y (by simp [hy])
      simp [List.mapM_cons, hx, hl]

theorem readDecimal?_decimal (n : Nat) : readDecimal? (decimal n) = some n := by
  have hd : (decimal n).mapM decimalDigit? = some (digitsIn 10 n) :=
    mapM_map_some fun d hd => decimalDigit?_decimalChar d (digitsIn_lt (by omega) n d hd)
  have hne : (decimal n).isEmpty = false := by
    simp [decimal, digitsIn_ne_nil]
  simp [readDecimal?, hne, hd, valueIn_digitsIn]

theorem readHex?_upperHex (n : Nat) : readHex? (upperHex n) = some n := by
  have hd : (upperHex n).mapM hexDigit? = some (digitsIn 16 n) :=
    mapM_map_some fun d hd => hexDigit?_upperHexChar d (digitsIn_lt (by omega) n d hd)
  have hne : (upperHex n).isEmpty = false := by
    simp [upperHex, digitsIn_ne_nil]
  simp [readHex?, hne, hd, valueIn_digitsIn]

end SplitSnapshot.Text
