import SplitSnapshot.Proofs.Split.Bounds

namespace SplitSnapshot

structure Cut where
  splitId : String
  bound : Json

namespace Split

def startingAt (table : TableId) (column : String) (t : KeyType) (splitId : String) :
    Option Json → Split
  | none => whole splitId table column t
  | some v => (whole splitId table column t).withLower v

def chainFrom (table : TableId) (column : String) (t : KeyType) (last : String) :
    Option Json → List Cut → List Split
  | lower, [] => [startingAt table column t last lower]
  | lower, cut :: cuts =>
      ((startingAt table column t cut.splitId lower).withUpper cut.bound).withExclusiveEnd ::
        chainFrom table column t last (some cut.bound) cuts

def chain (table : TableId) (column : String) (t : KeyType) (cuts : List Cut) (last : String) :
    List Split :=
  chainFrom table column t last none cuts

def above (lo : Option Key) : Option Key → Bool
  | none => false
  | some key => atLeast key lo

def within (lo hi : Option Key) : Option Key → Bool
  | none => lo.isNone && hi.isNone
  | some key => atLeast key lo && atMost false key hi

structure IsSlice (table : TableId) (column : String) (t : KeyType) (lo hi : Option Key)
    (s : Split) : Prop where
  table_eq : s.table = table
  column_eq : s.keyColumn = column
  type_eq : s.keyType = t
  id_ne : s.splitId.isEmpty = false
  lower_eq : s.lowerKey = .ok lo
  upper_eq : s.upperKey = .ok hi
  exclusive : hi.isSome = true → s.endInclusive = false

inductive Slices (table : TableId) (column : String) (t : KeyType) :
    Option Key → List Split → Prop
  | last {lo s} (h : IsSlice table column t lo none s) : Slices table column t lo [s]
  | cons {lo key s ss} (h : IsSlice table column t lo (some key) s)
      (admitted : t.admits key = true) (ascends : ∀ a ∈ lo, a.compare? key = some .lt)
      (rest : Slices table column t (some key) ss) : Slices table column t lo (s :: ss)

variable {table : TableId} {column : String} {t : KeyType} {lo hi : Option Key} {s : Split}
  {ss : List Split} {key : Key}

theorem isSlice_whole {id : String} (hid : id.isEmpty = false) :
    IsSlice table column t none none (whole id table column t) :=
  ⟨rfl, rfl, rfl, hid, rfl, rfl, fun h => nomatch h⟩

theorem isSlice_startingAt {id : String} {lower : Option Json} (hid : id.isEmpty = false)
    (hl : readBound t lower = .ok lo) :
    IsSlice table column t lo none (startingAt table column t id lower) := by
  cases lower with
  | none =>
      obtain rfl := Except.ok.inj hl
      exact isSlice_whole hid
  | some v =>
      have hb : bound (some v) = some v := by
        obtain ⟨key, hv, -⟩ := readKey_of_readBound hl
        exact bound_of_readKey hv
      have hlower : readBound t (bound (some v)) = .ok lo := by
        rw [hb, hl]
      exact ⟨rfl, rfl, rfl, hid, hlower, rfl, fun h => nomatch h⟩

theorem IsSlice.withUpper {v : Json} (h : IsSlice table column t lo none s)
    (hv : t.readKey v = .ok key) :
    IsSlice table column t lo (some key) (s.withUpper v).withExclusiveEnd := by
  refine ⟨h.table_eq, h.column_eq, h.type_eq, h.id_ne, h.lower_eq, ?_, fun _ => rfl⟩
  have hu : readBound t (bound (some v)) = .ok (some key) := by
    rw [bound_of_readKey hv, readBound_of_readKey hv]
  rw [← hu, ← h.type_eq]
  rfl

theorem slices_chainFrom {last : String} {cuts : List Cut} {keys : List Key} {lower : Option Json}
    (hids : ∀ id ∈ cuts.map Cut.splitId ++ [last], id.isEmpty = false)
    (hl : readBound t lower = .ok lo) (hkeys : cuts.map (fun cut => t.readKey cut.bound) = keys.map .ok)
    (ha : (lo.toList ++ keys).Pairwise fun a b => a.compare? b = some .lt) :
    Slices table column t lo (chainFrom table column t last lower cuts) := by
  induction cuts generalizing lower lo keys with
  | nil => exact .last (isSlice_startingAt (hids last (by simp)) hl)
  | cons cut cuts ih =>
      cases keys with
      | nil => cases hkeys
      | cons key keys =>
          obtain ⟨hkey, hrest⟩ := List.cons.inj hkeys
          have hid : cut.splitId.isEmpty = false := hids _ (by simp)
          refine .cons ((isSlice_startingAt hid hl).withUpper hkey) (KeyType.admits_of_readKey hkey)
            ?_ (ih ?_ (readBound_of_readKey hkey) hrest ?_)
          · intro a hm
            exact (List.pairwise_append.1 ha).2.2 a (Option.mem_toList.2 hm) key List.mem_cons_self
          · intro id hm
            exact hids id (List.mem_cons_of_mem _ hm)
          · exact (List.pairwise_append.1 ha).2.1

theorem IsSlice.contains_eq (h : IsSlice table column t lo hi s) (key : Key) :
    s.contains key = .ok (within lo hi (some key)) := by
  rw [contains_eq_ok h.lower_eq h.upper_eq, within]
  cases hi with
  | none => rfl
  | some b => rw [h.exclusive rfl]

theorem IsSlice.validate_eq (h : IsSlice table column t lo hi s)
    (hcolumn : column.isEmpty = false) (htype : t.isComparable = true)
    (ascends : ∀ a ∈ lo, ∀ b ∈ hi, a.compare? b = some .lt) : s.validate = .ok () :=
  validate_eq_ok h.id_ne (h.column_eq ▸ hcolumn) (h.type_eq ▸ htype) h.lower_eq h.upper_eq ascends

theorem Slices.validate_eq (h : Slices table column t lo ss) (hcolumn : column.isEmpty = false)
    (htype : t.isComparable = true) : ∀ s ∈ ss, s.validate = .ok () := by
  induction h with
  | last h =>
      intro s hm
      obtain rfl := List.mem_singleton.1 hm
      exact h.validate_eq hcolumn htype (fun _ _ _ hb => nomatch hb)
  | cons h admitted ascends rest ih =>
      intro s hm
      rcases List.mem_cons.1 hm with rfl | hm
      · refine h.validate_eq hcolumn htype fun a ha b hb => ?_
        cases hb
        exact ascends a ha
      · exact ih s hm

theorem Slices.contains_below (ht : t ≠ .float64) (h : Slices table column t lo ss)
    (hlo : ∀ a ∈ lo, t.admits a = true) (hkey : t.admits key = true)
    (below : atLeast key lo = false) : ∀ s ∈ ss, s.contains key = .ok false := by
  induction h with
  | last h =>
      intro s hm
      obtain rfl := List.mem_singleton.1 hm
      rw [h.contains_eq, within, below]
      rfl
  | @cons lo b s ss h admitted ascends rest ih =>
      intro s hm
      rcases List.mem_cons.1 hm with rfl | hm
      · rw [h.contains_eq, within, below]
        rfl
      · refine ih (fun a ha => Option.mem_some.1 ha ▸ admitted) ?_ s hm
        cases lo with
        | none => cases below
        | some a =>
            cases hb : atLeast key (some b) with
            | false => rfl
            | true =>
                rw [atLeast_of_lt ht hkey (hlo a rfl) admitted (ascends a rfl) hb] at below
                cases below

theorem Slices.contains_once (ht : t ≠ .float64) (h : Slices table column t lo ss)
    (hkey : t.admits key = true) (above : atLeast key lo = true) :
    ∃ before s after, ss = before ++ s :: after ∧ s.contains key = .ok true ∧
      ∀ other ∈ before ++ after, other.contains key = .ok false := by
  induction h with
  | @last _ s h =>
      refine ⟨[], s, [], rfl, ?_, fun _ hm => nomatch hm⟩
      rw [h.contains_eq, within, above]
      rfl
  | @cons _ b s ss h admitted ascends rest ih =>
      have hs : s.contains key = .ok !atLeast key (some b) := by
        rw [h.contains_eq, within, above, atMost_false_eq ht hkey admitted, Bool.true_and]
      cases hb : atLeast key (some b) with
      | false =>
          rw [hb] at hs
          exact ⟨[], s, ss, rfl, hs,
            rest.contains_below ht (fun a ha => Option.mem_some.1 ha ▸ admitted) hkey hb⟩
      | true =>
          rw [hb] at hs
          obtain ⟨before, s', after, rfl, hs', others⟩ := ih hb
          refine ⟨s :: before, s', after, rfl, hs', fun other hm => ?_⟩
          rcases List.mem_cons.1 hm with rfl | hm
          · exact hs
          · exact others other hm

end Split

end SplitSnapshot
