namespace SplitSnapshot

/-- Named values, names ascending and each name once when built by `put`. -/
abbrev Fields (α : Type) := List (String × α)

namespace Fields

variable {α : Type}

def put (name : String) (value : α) : Fields α → Fields α
  | [] => [(name, value)]
  | (k, v) :: fields =>
      if name < k then (name, value) :: (k, v) :: fields
      else if name = k then (name, value) :: fields
      else (k, v) :: put name value fields

def get? (name : String) : Fields α → Option α
  | [] => none
  | (k, v) :: fields => if k = name then some v else get? name fields

def ofList (entries : List (String × α)) : Fields α :=
  entries.foldl (fun fields e => put e.1 e.2 fields) []

theorem get?_put_self (name : String) (value : α) (fields : Fields α) :
    (fields.put name value).get? name = some value := by
  induction fields with
  | nil => simp [put, get?]
  | cons f fields ih =>
      simp only [put]
      split
      · simp [get?]
      · split
        · simp [get?]
        · rename_i h
          simp [get?, Ne.symm h, ih]

theorem get?_put_of_ne {name other : String} (h : other ≠ name) (value : α) (fields : Fields α) :
    (fields.put name value).get? other = fields.get? other := by
  induction fields with
  | nil => simp [put, get?, Ne.symm h]
  | cons f fields ih =>
      simp only [put]
      split
      · simp [get?, Ne.symm h]
      · split
        · rename_i hk
          simp [get?, Ne.symm h, ← hk]
        · simp [get?, ih]

end Fields

end SplitSnapshot
