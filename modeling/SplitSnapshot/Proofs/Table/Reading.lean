import Mathlib.Data.List.Basic
import SplitSnapshot.Proofs.Text.Cut
import SplitSnapshot.Table.Identifier

namespace SplitSnapshot

namespace TableId

def names (t : TableId) : List String :=
  t.catalog.toList ++ [t.schema, t.table]

def pieces (s : String) : List String :=
  (s.toList.splitOn '.').map String.ofList

def IsNamed (t : TableId) : Prop :=
  ∀ n ∈ t.names, n ≠ "" ∧ '.' ∉ n.toList

instance (t : TableId) : Decidable t.IsNamed :=
  inferInstanceAs (Decidable (∀ n ∈ t.names, n ≠ "" ∧ '.' ∉ n.toList))

variable {s : String} {t u : TableId}

theorem text_eq_intercalate (t : TableId) : t.text = ".".intercalate t.names := by
  obtain ⟨catalog, schema, table⟩ := t
  cases catalog with
  | none => simp [text, names]
  | some catalog => simp [text, names, String.append_assoc]

theorem eq_of_names_eq (h : t.names = u.names) : t = u := by
  obtain ⟨catalog, schema, table⟩ := t
  obtain ⟨catalog', schema', table'⟩ := u
  cases catalog <;> cases catalog' <;> simp_all [names]

theorem intercalate_pieces (s : String) : ".".intercalate (pieces s) = s := by
  rw [← String.toList_inj, String.toList_intercalate, pieces, List.map_map]
  have same : (String.toList ∘ String.ofList) = id := funext fun _ => String.toList_ofList
  rw [same, List.map_id]
  exact List.intercalate_splitOn '.'

theorem point_not_mem_piece {n : String} (h : n ∈ pieces s) : '.' ∉ n.toList := by
  obtain ⟨piece, hp, rfl⟩ := List.mem_map.1 h
  rw [String.toList_ofList]
  exact Text.not_mem_of_mem_splitOn hp

theorem pieces_intercalate {ns : List String} (nonempty : ns ≠ []) (h : ∀ n ∈ ns, '.' ∉ n.toList) :
    pieces (".".intercalate ns) = ns := by
  have split : (['.'].intercalate (ns.map String.toList)).splitOn '.' = ns.map String.toList := by
    refine List.splitOn_intercalate '.' ?_ (by simpa using nonempty)
    simpa using h
  have same : (String.ofList ∘ String.toList) = id := funext fun _ => String.ofList_toList
  rw [pieces, String.toList_intercalate]
  exact (congrArg (List.map String.ofList) split).trans (by rw [List.map_map, same, List.map_id])

theorem read?_eq_some_iff : read? s = some t ↔ t.names = pieces s ∧ "" ∉ t.names := by
  have split : (Text.splitAt '.' s.toList).map String.ofList = pieces s := by
    rw [Text.splitAt_eq_splitOn, pieces]
  have filled : (pieces s).any String.isEmpty = true ↔ "" ∈ pieces s := by
    simp [List.any_eq_true, String.isEmpty_iff]
  simp only [read?, split]
  by_cases empty : "" ∈ pieces s
  · rw [if_pos (filled.2 empty)]
    refine iff_of_false nofun ?_
    rintro ⟨same, absent⟩
    exact absent (same ▸ empty)
  · rw [if_neg (filled.not.2 empty)]
    have named {v : TableId} (h : v.names = pieces s) :
        some v = some t ↔ t.names = pieces s ∧ "" ∉ t.names := by
      constructor
      · rintro ⟨⟩
        exact ⟨h, h ▸ empty⟩
      · rintro ⟨same, -⟩
        exact congrArg some (eq_of_names_eq (h.trans same.symm))
    split
    · rename_i schema table two
      exact named two.symm
    · rename_i catalog schema table three
      exact named three.symm
    · rename_i two three
      refine iff_of_false nofun ?_
      rintro ⟨same, -⟩
      obtain ⟨catalog, schema, table⟩ := t
      cases catalog with
      | none => exact two _ _ same.symm
      | some catalog => exact three _ _ _ same.symm

theorem isNamed_of_read? (h : read? s = some t) : t.IsNamed := by
  obtain ⟨same, filled⟩ := read?_eq_some_iff.1 h
  intro n hn
  exact ⟨fun empty => filled (empty ▸ hn), point_not_mem_piece (same ▸ hn)⟩

theorem text_of_read? (h : read? s = some t) : t.text = s := by
  rw [text_eq_intercalate, (read?_eq_some_iff.1 h).1, intercalate_pieces]

theorem IsNamed.read?_text (h : t.IsNamed) : read? t.text = some t := by
  refine read?_eq_some_iff.2 ⟨?_, fun empty => (h "" empty).1 rfl⟩
  rw [text_eq_intercalate]
  refine (pieces_intercalate ?_ fun n hn => (h n hn).2).symm
  simp [names]

theorem exists_read?_iff : (∃ t, read? s = some t) ↔
    ((pieces s).length = 2 ∨ (pieces s).length = 3) ∧ "" ∉ pieces s := by
  constructor
  · rintro ⟨t, h⟩
    obtain ⟨same, filled⟩ := read?_eq_some_iff.1 h
    rw [← same]
    refine ⟨?_, filled⟩
    cases catalog : t.catalog <;> simp [names, catalog]
  · rintro ⟨two | three, filled⟩
    · obtain ⟨schema, table, same⟩ := List.length_eq_two.1 two
      rw [same] at filled
      exact ⟨⟨none, schema, table⟩, read?_eq_some_iff.2 ⟨same.symm, filled⟩⟩
    · obtain ⟨catalog, schema, table, same⟩ := List.length_eq_three.1 three
      rw [same] at filled
      exact ⟨⟨some catalog, schema, table⟩, read?_eq_some_iff.2 ⟨same.symm, filled⟩⟩

/-- The texts of two or three pieces, none of them empty, are read, each as a table with these pieces for
names whose text it is; a table whose names have characters and no points is read from its text, so no
other such table has this text. -/
theorem reading_inverts_text :
    (∀ s, (∃ t, read? s = some t) ↔
      ((pieces s).length = 2 ∨ (pieces s).length = 3) ∧ "" ∉ pieces s) ∧
    (∀ s t, read? s = some t → t.text = s ∧ t.names = pieces s ∧ t.IsNamed) ∧
    (∀ t : TableId, t.IsNamed → read? t.text = some t) ∧
    ∀ t u : TableId, t.IsNamed → u.IsNamed → t.text = u.text → t = u := by
  refine ⟨fun s => exists_read?_iff, fun s t h => ?_, fun t => IsNamed.read?_text, ?_⟩
  · exact ⟨text_of_read? h, (read?_eq_some_iff.1 h).1, isNamed_of_read? h⟩
  · intro t u ht hu same
    have read := ht.read?_text
    rw [same, hu.read?_text] at read
    exact (Option.some.inj read).symm

theorem reading_inverts_text_catalog :
    read? "shop.public.orders" = some ⟨some "shop", "public", "orders"⟩ ∧
      pieces "shop.public.orders" = ["shop", "public", "orders"] ∧
      IsNamed ⟨some "shop", "public", "orders"⟩ ∧
      read? (text ⟨some "shop", "public", "orders"⟩) = some ⟨some "shop", "public", "orders"⟩ ∧
      ∀ t, IsNamed t → t.text = "shop.public.orders" → t = ⟨some "shop", "public", "orders"⟩ := by
  obtain ⟨-, read, written, apart⟩ := reading_inverts_text
  have three : read? "shop.public.orders" = some ⟨some "shop", "public", "orders"⟩ := by decide
  obtain ⟨same, split, named⟩ := read _ _ three
  exact ⟨three, split.symm, named, written _ named, fun t ht h => apart t _ ht named (h.trans same.symm)⟩

end TableId

end SplitSnapshot
