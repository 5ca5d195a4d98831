/-
  Finite maps in key order.

  A table is a list of entries whose keys strictly increase.  `find?` is its
  view: `find?_insert_self` and its neighbours say what each operation does to
  it, and `ext_find` says that a table is determined by it.
-/
set_option autoImplicit false

namespace ChainHost

/-- A finite map, listed by strictly increasing keys. -/
structure Table (κ ν : Type) [Ord κ] where
  entries : List (κ × ν)
  ordered : entries.Pairwise fun a b => compare a.1 b.1 = .lt

namespace Table

variable {κ ν : Type} [Ord κ]

instance [DecidableEq κ] [DecidableEq ν] : DecidableEq (Table κ ν) := fun a b =>
  if h : a.entries = b.entries then
    .isTrue (by cases a; cases b; cases h; rfl)
  else .isFalse (by rintro rfl; exact h rfl)

instance : Inhabited (Table κ ν) := ⟨⟨[], .nil⟩⟩

/-- The table with no entries. -/
def empty : Table κ ν := ⟨[], .nil⟩

/-- The value under a key. -/
def find? (t : Table κ ν) (k : κ) : Option ν :=
  (t.entries.find? fun e => compare e.1 k == .eq).map (·.2)

/-- Whether a key has an entry. -/
def contains (t : Table κ ν) (k : κ) : Bool := (t.find? k).isSome

/-- The number of entries. -/
def size (t : Table κ ν) : Nat := t.entries.length

/-- The keys, in order. -/
def keys (t : Table κ ν) : List κ := t.entries.map (·.1)

/-- How many keys lie before `k`: the place where `k` is or would be. -/
def rank (t : Table κ ν) (k : κ) : Nat :=
  (t.entries.takeWhile fun e => compare e.1 k == .lt).length

/-- The place of a key that has an entry. -/
def index? (t : Table κ ν) (k : κ) : Option Nat :=
  if t.contains k then some (t.rank k) else none

/-- The table without a key. -/
def erase (t : Table κ ν) (k : κ) : Table κ ν :=
  ⟨t.entries.filter fun e => compare e.1 k != .eq, t.ordered.filter _⟩

/-- The entries whose keys are not below `k`. -/
def dropBelow (t : Table κ ν) (k : κ) : Table κ ν :=
  ⟨t.entries.filter fun e => compare e.1 k != .lt, t.ordered.filter _⟩

/-- Puts an entry at its place in an ordered list, over one of the same key. -/
def insertEntry (k : κ) (v : ν) : List (κ × ν) → List (κ × ν)
  | [] => [(k, v)]
  | e :: rest =>
      match compare k e.1 with
      | .lt => (k, v) :: e :: rest
      | .eq => (k, v) :: rest
      | .gt => e :: insertEntry k v rest

theorem mem_insertEntry {k : κ} {v : ν} {l : List (κ × ν)} {e : κ × ν}
    (h : e ∈ insertEntry k v l) : e = (k, v) ∨ e ∈ l := by
  induction l with
  | nil => simpa [insertEntry] using h
  | cons a rest ih =>
      unfold insertEntry at h
      split at h
      · rcases List.mem_cons.mp h with h | h
        · exact .inl h
        · exact .inr h
      · rcases List.mem_cons.mp h with h | h
        · exact .inl h
        · exact .inr (List.mem_cons_of_mem _ h)
      · rcases List.mem_cons.mp h with h | h
        · exact .inr (h ▸ List.mem_cons_self ..)
        · rcases ih h with h | h
          · exact .inl h
          · exact .inr (List.mem_cons_of_mem _ h)

theorem self_mem_insertEntry (k : κ) (v : ν) (l : List (κ × ν)) : (k, v) ∈ insertEntry k v l := by
  fun_induction insertEntry k v l with
  | case1 => exact List.mem_cons_self
  | case2 => exact List.mem_cons_self
  | case3 => exact List.mem_cons_self
  | case4 _ _ _ ih => exact List.mem_cons_of_mem _ ih

/-! ## The view -/

variable [Std.LawfulEqOrd κ]

theorem compare_eq_iff {a b : κ} : compare a b = .eq ↔ a = b :=
  ⟨Std.LawfulEqCmp.eq_of_compare, fun h => h ▸ Std.ReflCmp.compare_self⟩

theorem mem_entries_of_find? {t : Table κ ν} {k : κ} {v : ν} (h : t.find? k = some v) :
    (k, v) ∈ t.entries := by
  obtain ⟨e, he, rfl⟩ := Option.map_eq_some_iff.mp h
  have hkey : e.1 = k := compare_eq_iff.mp (by simpa using List.find?_some he)
  rw [← hkey]
  exact List.mem_of_find?_eq_some he

theorem find?_of_pairwise {l : List (κ × ν)} {e : κ × ν}
    (h : l.Pairwise fun a b => compare a.1 b.1 = .lt) (he : e ∈ l) :
    l.find? (fun a => compare a.1 e.1 == .eq) = some e := by
  induction l with
  | nil => cases he
  | cons a rest ih =>
      obtain ⟨hfirst, hrest⟩ := List.pairwise_cons.mp h
      rcases List.mem_cons.mp he with rfl | he
      · exact List.find?_cons_of_pos (by simp)
      · rw [List.find?_cons_of_neg (by simp [hfirst e he])]
        exact ih hrest he

theorem find?_of_mem_entries {t : Table κ ν} {k : κ} {v : ν} (h : (k, v) ∈ t.entries) :
    t.find? k = some v := by
  unfold find?
  rw [find?_of_pairwise t.ordered h]
  rfl

/-- The view holds exactly the entries. -/
theorem find?_eq_some_iff {t : Table κ ν} {k : κ} {v : ν} :
    t.find? k = some v ↔ (k, v) ∈ t.entries :=
  ⟨mem_entries_of_find?, find?_of_mem_entries⟩

@[simp] theorem find?_erase_self (t : Table κ ν) (k : κ) : (t.erase k).find? k = none := by
  refine Option.eq_none_iff_forall_ne_some.mpr fun v h => ?_
  have hmem := mem_entries_of_find? h
  simp [erase] at hmem

theorem find?_erase_of_ne (t : Table κ ν) {j k : κ} (hne : j ≠ k) :
    (t.erase k).find? j = t.find? j := by
  refine Option.ext fun v => ?_
  rw [find?_eq_some_iff, find?_eq_some_iff]
  have : compare j k ≠ .eq := fun h => hne (compare_eq_iff.mp h)
  simp [erase, this]

theorem mem_insertEntry_of_ne {k : κ} {v : ν} {l : List (κ × ν)} {e : κ × ν} (he : e ∈ l)
    (hne : e.1 ≠ k) : e ∈ insertEntry k v l := by
  fun_induction insertEntry k v l with
  | case1 => cases he
  | case2 => exact List.mem_cons_of_mem _ he
  | case3 a rest heq =>
      rcases List.mem_cons.mp he with rfl | he
      · exact absurd (compare_eq_iff.mp heq).symm hne
      · exact List.mem_cons_of_mem _ he
  | case4 a rest _ ih =>
      rcases List.mem_cons.mp he with rfl | he
      · exact List.mem_cons_self
      · exact List.mem_cons_of_mem _ (ih he)

/-! ## Putting entries in -/

variable [Std.TransOrd κ]

theorem ordered_insertEntry {k : κ} {v : ν} {l : List (κ × ν)}
    (h : l.Pairwise fun a b => compare a.1 b.1 = .lt) :
    (insertEntry k v l).Pairwise fun a b => compare a.1 b.1 = .lt := by
  induction l with
  | nil => simp [insertEntry]
  | cons a rest ih =>
      obtain ⟨hfirst, hrest⟩ := List.pairwise_cons.mp h
      unfold insertEntry
      split
      · next hlt =>
          refine List.pairwise_cons.mpr ⟨fun e he => ?_, h⟩
          rcases List.mem_cons.mp he with rfl | he
          · exact hlt
          · exact Std.TransCmp.lt_trans hlt (hfirst e he)
      · next heq =>
          have : k = a.1 := Std.LawfulEqCmp.eq_of_compare heq
          exact List.pairwise_cons.mpr ⟨fun e he => this ▸ hfirst e he, hrest⟩
      · next hgt =>
          refine List.pairwise_cons.mpr ⟨fun e he => ?_, ih hrest⟩
          rcases mem_insertEntry he with rfl | he
          · exact Std.OrientedCmp.lt_of_gt hgt
          · exact hfirst e he

/-- The table with `v` under `k`. -/
def insert (t : Table κ ν) (k : κ) (v : ν) : Table κ ν :=
  ⟨insertEntry k v t.entries, ordered_insertEntry t.ordered⟩

/-- The table of a list of entries; of two with one key the later wins. -/
def ofList (entries : List (κ × ν)) : Table κ ν :=
  entries.foldl (fun t e => t.insert e.1 e.2) empty

@[simp] theorem find?_insert_self (t : Table κ ν) (k : κ) (v : ν) :
    (t.insert k v).find? k = some v :=
  find?_of_mem_entries (self_mem_insertEntry k v t.entries)

theorem find?_insert_of_ne (t : Table κ ν) {j k : κ} (v : ν) (hne : j ≠ k) :
    (t.insert k v).find? j = t.find? j := by
  refine Option.ext fun w => ?_
  rw [find?_eq_some_iff, find?_eq_some_iff]
  constructor
  · intro h
    rcases mem_insertEntry h with heq | h
    · exact absurd (congrArg Prod.fst heq) hne
    · exact h
  · intro h
    exact mem_insertEntry_of_ne h hne

/-! ## Tables of one view -/

/-- A list is determined by its members and its order. -/
theorem eq_of_mem_iff {l m : List (κ × ν)}
    (hl : l.Pairwise fun a b => compare a.1 b.1 = .lt)
    (hm : m.Pairwise fun a b => compare a.1 b.1 = .lt) (h : ∀ e, e ∈ l ↔ e ∈ m) : l = m := by
  induction l generalizing m with
  | nil =>
      cases m with
      | nil => rfl
      | cons b rest => exact absurd ((h b).mpr List.mem_cons_self) List.not_mem_nil
  | cons a l ih =>
      cases m with
      | nil => exact absurd ((h a).mp List.mem_cons_self) List.not_mem_nil
      | cons b m =>
          obtain ⟨hafirst, hlrest⟩ := List.pairwise_cons.mp hl
          obtain ⟨hbfirst, hmrest⟩ := List.pairwise_cons.mp hm
          have hab : a = b := by
            rcases List.mem_cons.mp ((h a).mp List.mem_cons_self) with hab | ha
            · exact hab
            · rcases List.mem_cons.mp ((h b).mpr List.mem_cons_self) with hba | hb
              · exact hba.symm
              · have hlt := Std.TransCmp.lt_trans (hafirst b hb) (hbfirst a ha)
                simp [Std.ReflCmp.compare_self] at hlt
          subst hab
          refine congrArg _ (ih hlrest hmrest fun e => ⟨fun he => ?_, fun he => ?_⟩)
          · rcases List.mem_cons.mp ((h e).mp (List.mem_cons_of_mem _ he)) with rfl | he'
            · have hlt := hafirst e he
              simp [Std.ReflCmp.compare_self] at hlt
            · exact he'
          · rcases List.mem_cons.mp ((h e).mpr (List.mem_cons_of_mem _ he)) with rfl | he'
            · have hlt := hbfirst e he
              simp [Std.ReflCmp.compare_self] at hlt
            · exact he'

/-- Tables of one view are one table. -/
theorem ext_find {s t : Table κ ν} (h : ∀ k, s.find? k = t.find? k) : s = t := by
  obtain ⟨l, hl⟩ := s
  obtain ⟨m, hm⟩ := t
  have hlm : l = m := by
    refine eq_of_mem_iff hl hm fun e => ?_
    rw [← find?_eq_some_iff (t := ⟨l, hl⟩), ← find?_eq_some_iff (t := ⟨m, hm⟩), h]
  subst hlm
  rfl

end Table

end ChainHost
