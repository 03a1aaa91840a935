import SplitSnapshot.Proofs.Text.Cut
import SplitSnapshot.Table.Identifier

namespace SplitSnapshot

open Text

namespace TableId

variable {t u : TableId}

structure IsPlain (t : TableId) : Prop where
  catalog : t.catalog = none
  schema : '.' ∉ t.schema.toList
  table : '.' ∉ t.table.toList

instance (t : TableId) : Decidable t.IsPlain :=
  decidable_of_iff (t.catalog = none ∧ '.' ∉ t.schema.toList ∧ '.' ∉ t.table.toList)
    ⟨fun ⟨c, s, n⟩ => ⟨c, s, n⟩, fun ⟨c, s, n⟩ => ⟨c, s, n⟩⟩

theorem isPlain_iff_count : t.IsPlain ↔ t.text.toList.count '.' = 1 := by
  obtain ⟨catalog, schema, table⟩ := t
  cases catalog with
  | some catalog =>
      have points : 2 ≤ (text ⟨some catalog, schema, table⟩).toList.count '.' := by
        simp [text, List.count_append]
        omega
      constructor
      · intro plain
        cases plain.catalog
      · intro one
        omega
  | none =>
      have points : (text ⟨none, schema, table⟩).toList.count '.' =
          schema.toList.count '.' + table.toList.count '.' + 1 := by
        simp [text, List.count_append]
        omega
      rw [points]
      constructor
      · rintro ⟨-, hs, ht⟩
        rw [List.count_eq_zero.2 hs, List.count_eq_zero.2 ht]
      · intro one
        have hs : schema.toList.count '.' = 0 := by omega
        have ht : table.toList.count '.' = 0 := by omega
        exact ⟨rfl, List.count_eq_zero.1 hs, List.count_eq_zero.1 ht⟩

theorem IsPlain.cut (h : t.IsPlain) :
    cutAt? '.' t.text.toList = some (t.schema.toList, t.table.toList) := by
  have written : t.text.toList = t.schema.toList ++ '.' :: t.table.toList := by
    simp [text, h.catalog]
  rw [written, cutAt?_append h.schema]

theorem IsPlain.eq_of_text_eq (h : t.IsPlain) (same : u.text = t.text) : u = t := by
  have plain : u.IsPlain := isPlain_iff_count.2 (same ▸ isPlain_iff_count.1 h)
  have cut := h.cut
  rw [← same, plain.cut] at cut
  obtain ⟨schemas, tables⟩ := Prod.mk.inj (Option.some.inj cut)
  cases t
  cases u
  rw [mk.injEq]
  exact ⟨plain.catalog.trans h.catalog.symm, String.toList_inj.1 schemas, String.toList_inj.1 tables⟩

theorem exists_eq_append_of_mem {s : String} (h : '.' ∈ s.toList) : ∃ a b, s = a ++ "." ++ b := by
  obtain ⟨before, after, split, -⟩ := List.eq_append_cons_of_mem h
  refine ⟨.ofList before, .ofList after, String.toList_inj.1 ?_⟩
  simp [split]

theorem isPlain_iff : t.IsPlain ↔ ∀ u : TableId, u.text = t.text → u = t := by
  constructor
  · intro h u
    exact h.eq_of_text_eq
  · intro unique
    obtain ⟨catalog, schema, table⟩ := t
    cases catalog with
    | some catalog => cases unique ⟨none, catalog ++ "." ++ schema, table⟩ rfl
    | none =>
        refine ⟨rfl, ?_, ?_⟩
        · intro point
          obtain ⟨a, b, rfl⟩ := exists_eq_append_of_mem point
          cases unique ⟨some a, b, table⟩ rfl
        · intro point
          obtain ⟨a, b, rfl⟩ := exists_eq_append_of_mem point
          cases unique ⟨some schema, a, b⟩ (by simp [text, String.append_assoc])

end TableId

end SplitSnapshot
