import Mathlib.Data.List.Induction
import SplitSnapshot.Table.Row

namespace SplitSnapshot

namespace Row

theorem set_of_lt {r : Row} {i : Nat} (h : i < r.values.length) (v : Json) :
    r.set i v = ⟨r.values.set i v⟩ := by
  have wide : max r.values.length (i + 1) = r.values.length := by omega
  rw [set, wide, fitTo, Nat.sub_self, List.take_length, List.replicate_zero, List.append_nil]

end Row

namespace ColumnMapping

def deposit (r : Row) : Json × Option Nat → Row
  | (v, some i) => r.set i v
  | (_, none) => r

def lastAt (deposits : List (Json × Option Nat)) (j : Nat) : Json :=
  ((deposits.reverse.find? fun d => d.2 = some j).map (·.1)).getD .null

theorem lastAt_append_singleton (deposits : List (Json × Option Nat)) (d : Json × Option Nat) (j : Nat) :
    lastAt (deposits ++ [d]) j = if d.2 = some j then d.1 else lastAt deposits j := by
  by_cases h : d.2 = some j
  · simp [lastAt, h]
  · simp [lastAt, h]

theorem deposit_row {width : Nat} {d : Json × Option Nat} (h : ∀ i ∈ d.2, i < width) (g : Nat → Json) :
    deposit ⟨(List.range width).map g⟩ d =
      ⟨(List.range width).map fun j => if d.2 = some j then d.1 else g j⟩ := by
  obtain ⟨v, target⟩ := d
  cases target with
  | none => simp [deposit]
  | some i =>
      rw [deposit, Row.set_of_lt (by simpa using h i rfl), Row.mk.injEq]
      refine List.ext_getElem (by simp) fun j _ _ => ?_
      simp [List.getElem_set]

theorem foldl_deposit {width : Nat} {deposits : List (Json × Option Nat)}
    (h : ∀ d ∈ deposits, ∀ i ∈ d.2, i < width) :
    deposits.foldl deposit (.empty width) = ⟨(List.range width).map (lastAt deposits)⟩ := by
  induction deposits using List.reverseRecOn with
  | nil =>
      have nothing : lastAt [] = fun _ => Json.null := rfl
      rw [nothing, List.map_const', List.length_range]
      rfl
  | append_singleton deposits d ih =>
      have before := ih fun d hd => h d (List.mem_append_left _ hd)
      have last := h d (List.mem_append_right _ List.mem_cons_self)
      rw [List.foldl_append, before, List.foldl_cons, List.foldl_nil, deposit_row last, Row.mk.injEq]
      exact List.map_congr_left fun j _ => (lastAt_append_singleton deposits d j).symm

theorem place_eq {m : ColumnMapping} (h : ∀ i, some i ∈ m.targets → i < m.width)
    (values : List Json) :
    m.place values = ⟨(List.range m.width).map (lastAt (values.zip m.targets))⟩ := by
  have deposits : m.place values = (values.zip m.targets).foldl deposit (.empty m.width) := by
    rw [place]
    congr
    funext r d
    obtain ⟨v, target⟩ := d
    cases target <;> rfl
  rw [deposits, foldl_deposit]
  intro d hd i hi
  exact h i (hi ▸ (List.of_mem_zip hd).2)

end ColumnMapping

namespace TableSchema

variable {schema : TableSchema}

theorem position_le_width {c : ColumnDef} (h : c ∈ schema.columns) : c.position ≤ schema.width := by
  have fold (columns : List ColumnDef) (w : Nat) :
      w ≤ columns.foldl (fun w c => max w c.position) w ∧
        ∀ c ∈ columns, c.position ≤ columns.foldl (fun w c => max w c.position) w := by
    induction columns generalizing w with
    | nil => exact ⟨Nat.le_refl w, fun _ hm => nomatch hm⟩
    | cons c columns ih =>
        obtain ⟨first, rest⟩ := ih (max w c.position)
        refine ⟨by rw [List.foldl_cons]; omega, List.forall_mem_cons.2 ⟨?_, rest⟩⟩
        rw [List.foldl_cons]
        omega
  exact (fold schema.columns 0).2 c h

end TableSchema

namespace ColumnMapping

variable {schema : TableSchema}

theorem target?_lt_width {name : String} {i : Nat} (h : target? schema name = some i) :
    i < schema.width := by
  obtain ⟨c, hc, hi⟩ := Option.bind_eq_some_iff.1 h
  have bound := schema.position_le_width (List.mem_of_find?_eq_some hc)
  rw [ColumnDef.index?] at hi
  split at hi
  · cases hi
  · cases hi
    omega

theorem place_ofColumns (names : List String) (schema : TableSchema) (values : List Json) :
    (ofColumns names schema).place values =
      ⟨(List.range schema.width).map (lastAt (values.zip (names.map (target? schema))))⟩ := by
  rw [place_eq]
  · rfl
  · intro i hi
    obtain ⟨name, -, hname⟩ := List.mem_map.1 hi
    exact target?_lt_width hname

end ColumnMapping

end SplitSnapshot
