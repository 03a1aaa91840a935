import SplitSnapshot.Json.Value

namespace SplitSnapshot

namespace Fields

variable {α : Type}

theorem get?_foldl_put (entries : List (String × α)) (fields : Fields α) (name : String) :
    (entries.foldl (fun fields e => fields.put e.1 e.2) fields).get? name =
      ((ofList entries).get? name).or (fields.get? name) := by
  have put_or (e : String × α) (fields : Fields α) :
      (fields.put e.1 e.2).get? name = ((put e.1 e.2 []).get? name).or (fields.get? name) := by
    by_cases h : name = e.1
    · subst h
      rw [get?_put_self, get?_put_self, Option.some_or]
    · rw [get?_put_of_ne h, get?_put_of_ne h, get?, Option.none_or]
  induction entries generalizing fields with
  | nil => rfl
  | cons e entries ih =>
      rw [ofList, List.foldl_cons, List.foldl_cons, ih (fields.put e.1 e.2), ih (put e.1 e.2 []),
        Option.or_assoc, put_or e fields]

theorem get?_ofList_cons (e : String × α) (entries : List (String × α)) (name : String) :
    (ofList (e :: entries)).get? name =
      ((ofList entries).get? name).or (if e.1 = name then some e.2 else none) := by
  rw [ofList, List.foldl_cons, get?_foldl_put]
  rfl

theorem perm_put {name : String} {fields : Fields α} (h : name ∉ fields.map Prod.fst) (value : α) :
    (fields.put name value).Perm ((name, value) :: fields) := by
  induction fields with
  | nil => exact .refl _
  | cons f fields ih =>
      obtain ⟨k, v⟩ := f
      rw [List.map_cons, List.mem_cons, not_or] at h
      simp only [put]
      split
      · exact .refl _
      · rw [if_neg h.1]
        exact ((ih h.2).cons (k, v)).trans (.swap ..)

theorem perm_foldl_put {entries : List (String × α)} {fields : Fields α}
    (h : ((fields ++ entries).map Prod.fst).Nodup) :
    (entries.foldl (fun fields e => fields.put e.1 e.2) fields).Perm (fields ++ entries) := by
  induction entries generalizing fields with
  | nil => exact .of_eq (List.append_nil fields).symm
  | cons e entries ih =>
      have moved : (e :: fields ++ entries).Perm (fields ++ e :: entries) := List.perm_middle.symm
      have distinct : ((e :: fields ++ entries).map Prod.fst).Nodup :=
        (moved.map Prod.fst).nodup_iff.2 h
      have fresh : e.1 ∉ fields.map Prod.fst := by
        rw [List.cons_append, List.map_cons, List.nodup_cons, List.map_append, List.mem_append,
          not_or] at distinct
        exact distinct.1.1
      have put := perm_put fresh e.2
      rw [List.foldl_cons]
      refine (ih ?_).trans ((put.append_right entries).trans moved)
      exact ((put.append_right entries).map Prod.fst).nodup_iff.2 distinct

theorem perm_ofList {entries : List (String × α)} (h : (entries.map Prod.fst).Nodup) :
    (ofList entries).Perm entries :=
  perm_foldl_put h

theorem get?_eq_some_of_mem {fields : Fields α} (h : (fields.map Prod.fst).Nodup) {name : String}
    {value : α} (hm : (name, value) ∈ fields) : fields.get? name = some value := by
  induction fields with
  | nil => cases hm
  | cons f fields ih =>
      rw [List.map_cons, List.nodup_cons] at h
      rcases List.mem_cons.1 hm with rfl | later
      · exact if_pos rfl
      · have other : f.1 ≠ name := fun same => h.1 (same ▸ List.mem_map_of_mem later)
        rw [get?, if_neg other, ih h.2 later]

end Fields

namespace Json

@[simp] theorem record?_ofFields (names : List String) (fields : List (String × Json)) :
    (ofFields fields).record? names = some (ofFields fields) :=
  rfl

@[simp] theorem field?_ofFields_nil (name : String) : (ofFields []).field? name = none :=
  rfl

@[simp] theorem field?_ofFields_cons (k : String) (v : Json) (fields : List (String × Json))
    (name : String) : (ofFields ((k, v) :: fields)).field? name =
      ((ofFields fields).field? name).or (if k = name then some v else none) :=
  Fields.get?_ofList_cons (k, v) fields name

section Reading

variable {α : Type} {v x : Json} {name : String} {decode : Json → Option α} {a : α}

theorem require?_eq (field : v.field? name = some x) (read : decode x = some a) :
    v.require? name decode = some a := by
  rw [require?, field, Option.bind_some, read]

theorem optional?_eq (field : v.field? name = some x) (present : x.isNull = false)
    (read : decode x = some a) : v.optional? name decode = some (some a) := by
  simp only [optional?, present?, field, Option.filter_some, present, Bool.not_false, if_true, read,
    Option.map_some]

theorem optional?_null (field : v.field? name = some null) : v.optional? name decode = some none := by
  rw [optional?, present?, field]
  rfl

theorem optional?_absent (field : v.field? name = none) : v.optional? name decode = some none := by
  rw [optional?, present?, field]
  rfl

end Reading

theorem natural?_int {n : Nat} (h : n < pow2 64) : (int n).natural? = some n := by
  have bounds : (0 : Int) ≤ n ∧ (n : Int) < (pow2 64 : Nat) := by omega
  rw [natural?, intWithin?, if_pos bounds, Option.map_some, Int.toNat_natCast]

theorem signed?_int {n : Int} (h : -(pow2 63 : Int) ≤ n ∧ n < (pow2 63 : Int)) :
    (int n).signed? = some n := by
  rw [signed?, intWithin?, if_pos h]

end Json

end SplitSnapshot
