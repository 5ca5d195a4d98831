/-
  What several operations make of a table.

  A cut at a key leaves the entries from that key on.  After a run of writes a key
  has what the last write on it says, and what it had before if there is none;
  `view_foldl_write` says so of any state that is seen key by key.
-/
import ChainHost.Table

set_option autoImplicit false

namespace ChainHost.Table

variable {κ ν : Type} [Ord κ] [Std.LawfulEqOrd κ]

/-! ## Cuts -/

/-- What a cut leaves is not below it and was there before. -/
theorem find?_dropBelow_eq_some_iff {t : Table κ ν} {low k : κ} {v : ν} :
    (t.dropBelow low).find? k = some v ↔ compare k low ≠ .lt ∧ t.find? k = some v := by
  rw [find?_eq_some_iff, find?_eq_some_iff]
  simp [dropBelow, and_comm]

/-- What is left of a table was in it. -/
theorem find?_of_find?_dropBelow {t : Table κ ν} {low k : κ} {v : ν}
    (h : (t.dropBelow low).find? k = some v) : t.find? k = some v :=
  (find?_dropBelow_eq_some_iff.mp h).2

/-- What is not below is left. -/
theorem find?_dropBelow_of_not_lt (t : Table κ ν) {low k : κ} (h : compare k low ≠ .lt) :
    (t.dropBelow low).find? k = t.find? k := by
  refine Option.ext fun v => ?_
  rw [find?_dropBelow_eq_some_iff]
  exact and_iff_right h

/-! ## Keys -/

theorem mem_keys_iff {t : Table κ ν} {k : κ} : k ∈ t.keys ↔ ∃ v, t.find? k = some v := by
  simp only [find?_eq_some_iff]
  constructor
  · intro hmem
    obtain ⟨⟨_, v⟩, hentry, rfl⟩ := List.mem_map.mp hmem
    exact ⟨v, hentry⟩
  · rintro ⟨v, hentry⟩
    exact List.mem_map.mpr ⟨_, hentry, rfl⟩

theorem mem_keys_dropBelow {t : Table κ ν} {low k : κ} :
    k ∈ (t.dropBelow low).keys ↔ compare k low ≠ .lt ∧ k ∈ t.keys := by
  simp only [mem_keys_iff, find?_dropBelow_eq_some_iff, exists_and_left]

theorem mem_keys_insert [Std.TransOrd κ] {t : Table κ ν} {key k : κ} {v : ν} :
    k ∈ (t.insert key v).keys ↔ k = key ∨ k ∈ t.keys := by
  by_cases hkey : k = key
  · subst hkey
    simp [mem_keys_iff]
  · simp [mem_keys_iff, find?_insert_of_ne t v hkey, hkey]

/-! ## Runs of writes -/

/-- Under a key stands what the last write on it says; without one, what stood there
before. -/
theorem view_foldl_write {σ α κ ν : Type} [BEq κ] [LawfulBEq κ] {write : σ → α → σ}
    {view : σ → κ → Option ν} {keyOf : α → κ} {valueOf : α → Option ν}
    (hself : ∀ s a, view (write s a) (keyOf a) = valueOf a)
    (hother : ∀ s a key, key ≠ keyOf a → view (write s a) key = view s key)
    (writes : List α) (s : σ) (key : κ) :
    view (writes.foldl write s) key
      = match writes.reverse.find? fun a => keyOf a == key with
        | some a => valueOf a
        | none => view s key := by
  induction writes generalizing s with
  | nil => rfl
  | cons a rest ih =>
      rw [List.foldl_cons, ih, List.reverse_cons, List.find?_append]
      cases rest.reverse.find? fun a => keyOf a == key with
      | some later => rfl
      | none =>
          by_cases hkey : keyOf a = key
          · subst hkey
            simp [hself]
          · simp [hkey, hother s a key (Ne.symm hkey)]

end ChainHost.Table
