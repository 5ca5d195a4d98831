/-
  The proofs of a tree are accepted.

  The siblings of a leaf are listed by halving the leaves, and a path is climbed
  by halving their number; both split at the same place, up to 2^63 leaves.  So
  the path of an entry leads to the root, and so do those of the entries around
  a missing key.  With the round trip of the documents, what a tree proves about
  a key is accepted against its root, and against the root of a tree around it.
-/
import ChainHost.Proofs.Json.Format
import ChainHost.Proofs.Merkle.Soundness

set_option autoImplicit false

namespace ChainHost

/-! ## The place of a key -/

namespace Table

variable {κ ν : Type} [Ord κ] {t : Table κ ν} {k : κ}

theorem rank_eq_findIdx (t : Table κ ν) (k : κ) :
    t.rank k = t.entries.findIdx fun e => !(compare e.1 k == .lt) := by
  rw [rank, List.takeWhile_eq_take_findIdx_not, List.length_take]
  exact Nat.min_eq_left List.findIdx_le_length

theorem rank_le_size (t : Table κ ν) (k : κ) : t.rank k ≤ t.size := by
  rw [rank_eq_findIdx]
  exact List.findIdx_le_length

theorem below_rank (t : Table κ ν) (k : κ) : t.Below (t.rank k) k := by
  intro i e hi he
  rw [rank_eq_findIdx] at hi
  obtain ⟨hlen, rfl⟩ := List.getElem?_eq_some_iff.mp he
  have hbefore := List.not_of_lt_findIdx hi
  simpa using hbefore

theorem not_lt_of_getElem?_rank {e : κ × ν} (he : t.entries[t.rank k]? = some e) :
    compare e.1 k ≠ .lt := by
  rw [rank_eq_findIdx] at he
  have hat := List.findIdx_of_getElem?_eq_some he
  simpa using hat

variable [Std.LawfulEqOrd κ]

/-- The keys from the place of a missing key on are higher. -/
theorem above_rank [Std.TransOrd κ] (h : t.find? k = none) : t.Above (t.rank k) k := by
  intro i e hi he
  obtain ⟨hlen, -⟩ := List.getElem?_eq_some_iff.mp he
  obtain ⟨first, hfirst⟩ : ∃ first, t.entries[t.rank k]? = some first :=
    ⟨_, List.getElem?_eq_getElem (Nat.lt_of_le_of_lt hi hlen)⟩
  have hlt : compare k first.1 = .lt := by
    cases hcompare : compare first.1 k with
    | lt => exact absurd hcompare (not_lt_of_getElem?_rank hfirst)
    | gt => exact Std.OrientedCmp.lt_of_gt hcompare
    | eq =>
        obtain rfl := compare_eq_iff.mp hcompare
        rw [find?_of_mem_entries (List.mem_of_getElem? hfirst)] at h
        cases h
  exact above_of_getElem? hfirst hlt i e hi he

/-- The place of a key is that of its entry. -/
theorem getElem?_rank {v : ν} (h : t.find? k = some v) : t.entries[t.rank k]? = some (k, v) := by
  obtain ⟨i, hi⟩ := List.mem_iff_getElem?.mp (mem_entries_of_find? h)
  obtain ⟨hlen, hentry⟩ := List.getElem?_eq_some_iff.mp hi
  have hrank : t.rank k = i := by
    rw [rank_eq_findIdx, List.findIdx_eq hlen]
    refine ⟨by simp [hentry], fun j hj => ?_⟩
    have hlt := compare_getElem? (List.getElem?_eq_getElem (Nat.lt_trans hj hlen)) hi hj
    simp [hlt]
  rw [hrank]
  exact hi

end Table

/-! ## Documents of steps -/

theorem Digest.lawful_wire : Digest.wire.Lawful := Json.Format.lawful_bytes.refine

namespace Merkle

open Json.Format (lawful_bytes lawful_word64)

theorem Path.lawful_wire : Path.wire.Lawful := by
  refine Json.Format.Lawful.image (Json.Fields.Lawful.record ?_ false)
  exact .cons lawful_word64 (by decide) (.cons lawful_word64 (by decide)
    (.cons Digest.lawful_wire.list (by decide) .nil))

theorem Neighbour.lawful_wire : Neighbour.wire.Lawful := by
  refine Json.Format.Lawful.image (Json.Fields.Lawful.record ?_ false)
  exact .cons lawful_bytes (by decide) (.cons lawful_bytes (by decide)
    (.cons Path.lawful_wire (by decide) .nil))

theorem Gap.lawful_wire : Gap.wire.Lawful := by
  have hneighbour : (Json.Format.optional Neighbour.wire).Lawful := by
    refine Neighbour.lawful_wire.optional fun n hnull => ?_
    cases hnull
  refine Json.Format.Lawful.image (Json.Fields.Lawful.record ?_ false)
  exact .cons lawful_word64 (by decide) (.cons hneighbour (by decide)
    (.cons hneighbour (by decide) .nil))

/-- A step is read as what it was made of. -/
theorem readStep_encode {α : Type} {wire : Json.Format α} (h : wire.Lawful) (kind : StepKind)
    (key : Bytes) (data : α) :
    readStep kind wire ⟨kind.name, key, wire.encode data⟩ = .ok data := by
  simp [readStep, h.decode?_encode]

/-! ## Paths -/

section Climb

variable {index total split : UInt64} {leaf sibling : Digest} {rest : List Digest}

/-- A path that turns left at the root. -/
theorem climb_left (htwo : 2 ≤ total.toNat) (hsplit : splitPoint? total = some split)
    (hindex : index < split) :
    climb index total leaf (sibling :: rest)
      = (climb index split leaf rest).map fun left => innerHash left sibling := by
  have hplace := (splitPoint?_eq_some_iff.mp hsplit).2
  have hlt := splitIndex_lt htwo
  have hin : ¬index ≥ total := by
    rw [UInt64.lt_iff_toNat_lt, hplace] at hindex
    rw [ge_iff_le, UInt64.le_iff_toNat_le]
    omega
  have hone : total ≠ 1 := by
    rintro rfl
    exact absurd htwo (by decide)
  rw [climb, if_neg hin, if_neg hone]
  simp only [hsplit, if_pos hindex]

/-- A path that turns right at the root. -/
theorem climb_right (htwo : 2 ≤ total.toNat) (hsplit : splitPoint? total = some split)
    (hindex : split ≤ index) (hin : index < total) :
    climb index total leaf (sibling :: rest)
      = (climb (index - split) (total - split) leaf rest).map
          fun right => innerHash sibling right := by
  have hone : total ≠ 1 := by
    rintro rfl
    exact absurd htwo (by decide)
  rw [climb, if_neg (UInt64.not_le.mpr hin), if_neg hone]
  simp only [hsplit, if_neg (UInt64.not_lt.mpr hindex)]

end Climb

/-- A leaf climbs to the root along the siblings that are listed for it. -/
theorem climb_auntsOf {leaves : List Digest} {i : Nat} {leaf : Digest} {index total : UInt64}
    (hindex : index.toNat = i) (htotal : total.toNat = leaves.length)
    (hle : leaves.length ≤ 2 ^ 63) (hleaf : leaves[i]? = some leaf) :
    climb index total leaf (auntsOf leaves i).reverse = .ok (rootOf leaves) := by
  -- along the halves, which both sides go through
  fun_induction auntsOf leaves i generalizing index total with
  | case1 leaves i hshort =>
      obtain ⟨hlen, -⟩ := List.getElem?_eq_some_iff.mp hleaf
      obtain ⟨only, rfl⟩ := List.length_eq_one_iff.mp (by omega : leaves.length = 1)
      obtain rfl : i = 0 := by simpa using hlen
      obtain rfl : total = 1 := UInt64.toNat_inj.mp htotal
      obtain rfl : index = 0 := UInt64.toNat_inj.mp hindex
      cases hleaf
      unfold climb rootOf
      rfl
  | case2 leaves i hlong split left right =>
      rename_i hleft ih
      have htwo : 2 ≤ leaves.length := by omega
      have hroot : rootOf leaves = innerHash (rootOf left) (rootOf right) := rootOf_of_two_le htwo
      rw [← htotal] at htwo hle
      obtain ⟨point, hpoint, hplace⟩ := exists_splitPoint? hle
      rw [htotal] at hplace
      have hsplit : split ≤ leaves.length := Nat.le_of_lt (splitIndex_lt (htotal ▸ htwo))
      have hlen : left.length = split := List.length_take_of_le hsplit
      have hturn : index < point := by
        rw [UInt64.lt_iff_toNat_lt, hindex, hplace]
        exact hleft
      have hbelow : left[i]? = some leaf := by
        rw [List.getElem?_take_of_lt hleft]
        exact hleaf
      rw [List.reverse_append, List.reverse_singleton, List.singleton_append,
        climb_left htwo hpoint hturn, ih hindex (hplace.trans hlen.symm) (by omega) hbelow, hroot]
      rfl
  | case3 leaves i hlong split left right =>
      rename_i hright ih
      have htwo : 2 ≤ leaves.length := by omega
      have hroot : rootOf leaves = innerHash (rootOf left) (rootOf right) := rootOf_of_two_le htwo
      obtain ⟨hi, -⟩ := List.getElem?_eq_some_iff.mp hleaf
      rw [← htotal] at htwo hle
      obtain ⟨point, hpoint, hplace⟩ := exists_splitPoint? hle
      rw [htotal] at hplace
      have hsplit : split ≤ i := Nat.le_of_not_lt hright
      have hlen : right.length = leaves.length - split := List.length_drop
      have hturn : point ≤ index := by
        rw [UInt64.le_iff_toNat_le, hindex, hplace]
        exact hsplit
      have hin : index < total := by
        rw [UInt64.lt_iff_toNat_lt, hindex, htotal]
        exact hi
      have hbehind : (index - point).toNat = i - split := by
        rw [UInt64.toNat_sub_of_le _ _ hturn, hplace, hindex]
      have hrest : (total - point).toNat = right.length := by
        rw [UInt64.toNat_sub_of_le _ _ (UInt64.le_trans hturn (UInt64.le_of_lt hin)), hplace,
          htotal, hlen]
      have habove : right[i - split]? = some leaf := by
        rw [List.getElem?_drop, Nat.add_sub_cancel' hsplit]
        exact hleaf
      rw [List.reverse_append, List.reverse_singleton, List.singleton_append,
        climb_right htwo hpoint hturn hin, ih hbehind hrest (by omega) habove, hroot]
      rfl

/-! ## What a tree proves -/

namespace Tree

variable {t : Tree} {key : Bytes}

theorem length_leaves (t : Tree) : t.leaves.length = t.size := List.length_map ..

theorem toNat_ofNat_size {n : Nat} (hsize : t.size ≤ 2 ^ 63) (hn : n ≤ t.size) :
    (UInt64.ofNat n).toNat = n :=
  UInt64.toNat_ofNat_of_lt' (Nat.lt_of_le_of_lt (Nat.le_trans hn hsize) (by decide))

/-- The path of an entry leads to the root. -/
theorem pathRoot_ofTree {i : Nat} {e : Bytes × Bytes} (hsize : t.size ≤ 2 ^ 63)
    (he : t.table.entries[i]? = some e) :
    pathRoot (Path.ofTree t i) (leafHash e.1 e.2) = .ok t.root := by
  have hi : i < t.size := (List.getElem?_eq_some_iff.mp he).1
  have hindex := toNat_ofNat_size hsize (Nat.le_of_lt hi)
  have htotal := (toNat_ofNat_size hsize (Nat.le_refl _)).trans t.length_leaves.symm
  have hleaf : t.leaves[i]? = some (leafHash e.1 e.2) := by
    rw [leaves, List.getElem?_map, he, Option.map_some]
  exact pathRoot_eq_ok_iff.mpr (climb_auntsOf hindex htotal (t.length_leaves ▸ hsize) hleaf)

theorem neighbourRoot_neighbour? {i : Nat} {n : Neighbour} (hsize : t.size ≤ 2 ^ 63)
    (h : t.neighbour? i = some n) : neighbourRoot (UInt64.ofNat t.size) n = .ok t.root := by
  obtain ⟨e, he, rfl⟩ := Option.map_eq_some_iff.mp h
  rw [neighbourRoot, if_neg (by simp [Path.ofTree])]
  exact pathRoot_ofTree hsize he

theorem toNat_index_neighbour? {i : Nat} {n : Neighbour} (hsize : t.size ≤ 2 ^ 63)
    (h : t.neighbour? i = some n) : n.path.index.toNat = i := by
  obtain ⟨e, he, rfl⟩ := Option.map_eq_some_iff.mp h
  exact toNat_ofNat_size hsize (Nat.le_of_lt (List.getElem?_eq_some_iff.mp he).1)

theorem neighbour?_before {n : Neighbour} (hplace : 0 < t.table.rank key)
    (h : t.neighbour? (t.table.rank key - 1) = some n) : compare n.key key = .lt := by
  obtain ⟨e, he, rfl⟩ := Option.map_eq_some_iff.mp h
  exact Table.below_rank t.table key _ e (Nat.sub_one_lt_of_lt hplace) he

theorem neighbour?_after {n : Neighbour} (hmissing : t.find? key = none)
    (h : t.neighbour? (t.table.rank key) = some n) : compare key n.key = .lt := by
  obtain ⟨e, he, rfl⟩ := Option.map_eq_some_iff.mp h
  exact Table.above_rank hmissing _ e (Nat.le_refl _) he

theorem neighbour?_eq_none_iff {i : Nat} : t.neighbour? i = none ↔ t.size ≤ i := by
  rw [neighbour?, Option.map_eq_none_iff, List.getElem?_eq_none_iff]
  rfl

/-- The gap of a missing key is one of the tree. -/
theorem gapRoot_gap (hsize : t.size ≤ 2 ^ 63) (hmissing : t.find? key = none) :
    gapRoot (t.gap key) key = .ok t.root := by
  have htotal := toNat_ofNat_size hsize (Nat.le_refl _)
  have hrank : t.table.rank key ≤ t.size := Table.rank_le_size t.table key
  rcases Nat.eq_zero_or_pos (t.table.rank key) with hplace | hplace
  · rw [gap, if_pos hplace]
    cases hright : t.neighbour? (t.table.rank key) with
    | none =>
        rw [neighbour?_eq_none_iff, hplace, Nat.le_zero] at hright
        have hleaves : t.leaves = [] := List.length_eq_zero_iff.mp (t.length_leaves.trans hright)
        refine gapRoot_none_eq_ok_iff.mpr ⟨by rw [hright]; rfl, ?_⟩
        rw [root, hleaves]
        exact rootOf_leavesOf_nil.symm
    | some right =>
        have hfirst : right.path.index = 0 :=
          UInt64.toNat_inj.mp ((toNat_index_neighbour? hsize hright).trans hplace)
        exact gapRoot_right_eq_ok_iff.mpr
          ⟨neighbour?_after hmissing hright, hfirst, neighbourRoot_neighbour? hsize hright⟩
  · rw [gap, if_neg (Nat.ne_of_gt hplace)]
    cases hleft : t.neighbour? (t.table.rank key - 1) with
    | none =>
        rw [neighbour?_eq_none_iff] at hleft
        omega
    | some left =>
        have hlt := neighbour?_before hplace hleft
        have hindex := toNat_index_neighbour? hsize hleft
        have hroot := neighbourRoot_neighbour? hsize hleft
        cases hright : t.neighbour? (t.table.rank key) with
        | none =>
            rw [neighbour?_eq_none_iff] at hright
            exact gapRoot_left_eq_ok_iff.mpr ⟨hlt, follows_iff.mpr (by omega), hroot⟩
        | some right =>
            have hindex' := toNat_index_neighbour? hsize hright
            exact gapRoot_both_eq_ok_iff.mpr
              ⟨hlt, neighbour?_after hmissing hright, follows_iff.mpr (by omega), hroot,
                neighbourRoot_neighbour? hsize hright⟩

@[simp] theorem prove_key (t : Tree) (key : Bytes) : (t.prove key).key = key := by
  unfold prove
  split <;> rfl

theorem runInclusion_prove {value : Bytes} (hsize : t.size ≤ 2 ^ 63)
    (h : t.find? key = some value) : runInclusion (t.prove key) value = .ok t.root := by
  have hindex : t.index? key = some (t.table.rank key) := by
    rw [index?, Table.index?, Table.contains]
    exact if_pos (Option.isSome_of_eq_some h)
  have hstep : t.prove key = ⟨StepKind.inclusion.name, key,
      Path.wire.encode (Path.ofTree t (t.table.rank key))⟩ := by rw [prove, hindex]
  refine runInclusion_eq_ok_iff.mpr ⟨Path.ofTree t (t.table.rank key), ?_, ?_⟩
  · rw [hstep, readStep_encode Path.lawful_wire]
  · have hroot := pathRoot_ofTree hsize (Table.getElem?_rank h)
    rw [prove_key]
    exact hroot

theorem runExclusion_prove (hsize : t.size ≤ 2 ^ 63) (h : t.find? key = none) :
    runExclusion (t.prove key) = .ok t.root := by
  have hindex : t.index? key = none := by
    rw [index?, Table.index?, Table.contains]
    exact if_neg (by simp [show t.table.find? key = none from h])
  have hstep : t.prove key = ⟨StepKind.exclusion.name, key, Gap.wire.encode (t.gap key)⟩ := by
    rw [prove, hindex]
  refine runExclusion_eq_ok_iff.mpr ⟨t.gap key, ?_, ?_⟩
  · rw [hstep, readStep_encode Gap.lawful_wire]
  · rw [prove_key]
    exact gapRoot_gap hsize h

/-- What a tree shows about a key leads to its root. -/
theorem runFirst_prove (hsize : t.size ≤ 2 ^ 63) (key : Bytes) :
    runFirst (t.prove key) (t.find? key) = .ok t.root := by
  cases h : t.find? key with
  | some value => exact runInclusion_prove hsize h
  | none => exact runExclusion_prove hsize h

/-- What a tree shows about a key is accepted against its root. -/
theorem verify_step (hsize : t.size ≤ 2 ^ 63) (key : Bytes) :
    verify ⟨[t.prove key]⟩ t.root.bytes key (t.find? key) = .ok () := by
  refine verify_eq_ok_iff.mpr ⟨_, [], t.root, rfl, t.prove_key key, ?_, rfl⟩
  rw [runAll, runFirst_prove hsize key]
  rfl

end Tree

/-! ## Trees inside trees -/

/-- A tree, with the key of it that stands for an inner one. -/
structure Layer where
  tree : Tree
  key : Bytes

namespace Tree

/-- Each tree has the root of the one inside it under the key that is named. -/
def Nested : Tree → List Layer → Prop
  | _, [] => True
  | t, outer :: rest =>
      outer.tree.find? outer.key = some t.root.bytes ∧ outer.tree.Nested rest

instance decidableNested : (t : Tree) → (outers : List Layer) → Decidable (t.Nested outers)
  | _, [] => .isTrue trivial
  | _, outer :: rest =>
      have := outer.tree.decidableNested rest
      inferInstanceAs (Decidable (_ ∧ _))

/-- The tree around all others. -/
def outermost : Tree → List Layer → Tree
  | t, [] => t
  | _, outer :: rest => outer.tree.outermost rest

/-- The proof of a key of the inmost tree against the root of the outermost. -/
def proveThrough (t : Tree) (key : Bytes) (outers : List Layer) : Proof :=
  ⟨t.prove key :: outers.map fun outer => outer.tree.prove outer.key⟩

theorem runOuter_prove {outers : List Layer} {t : Tree}
    (hsizes : ∀ outer ∈ outers, outer.tree.size ≤ 2 ^ 63) (hnested : t.Nested outers) :
    runOuter t.root (outers.map fun outer => outer.tree.prove outer.key)
      = .ok (t.outermost outers).root := by
  induction outers generalizing t with
  | nil => rfl
  | cons outer rest ih =>
      obtain ⟨hinner, hrest⟩ := hnested
      obtain ⟨hsize, hsizes⟩ := List.forall_mem_cons.mp hsizes
      rw [List.map_cons, runOuter_cons, runInclusion_prove hsize hinner]
      exact ih hsizes hrest

end Tree

/-- What a tree proves about a key is accepted against its root for what the tree
has under the key, and for nothing else but for a collision; and, with the
proofs of the trees around it, against the root of the outermost. -/
theorem verify_prove (t : Tree) (key : Bytes) (outers : List Layer) (hsize : t.size < 2 ^ 63)
    (hsizes : ∀ outer ∈ outers, outer.tree.size < 2 ^ 63) (hnested : t.Nested outers) :
    verify ⟨[t.prove key]⟩ t.root.bytes key (t.find? key) = .ok () ∧
      (∀ value, verify ⟨[t.prove key]⟩ t.root.bytes key value = .ok () →
        Collides (proofTexts ⟨[t.prove key]⟩ value) t.texts ∨ value = t.find? key) ∧
      verify (t.proveThrough key outers) (t.outermost outers).root.bytes key (t.find? key)
        = .ok () := by
  refine ⟨Tree.verify_step (Nat.le_of_lt hsize) key, fun value haccepted => ?_, ?_⟩
  · rcases shown_of_verify haccepted with hcollides | hshown
    · exact .inl hcollides
    · exact .inr hshown.find?_of_one.symm
  · refine verify_eq_ok_iff.mpr ⟨_, _, (t.outermost outers).root, rfl, t.prove_key key, ?_, rfl⟩
    rw [Tree.proveThrough, runAll, Tree.runFirst_prove (Nat.le_of_lt hsize) key]
    exact Tree.runOuter_prove (fun outer hmem => Nat.le_of_lt (hsizes outer hmem)) hnested

/-- A key is missing between two entries of a tree that stands inside another. -/
theorem verify_prove_inside :
    let t : Tree := ⟨.ofList [([1], [10]), ([3], [30])]⟩
    let outer : Layer := ⟨⟨.ofList [([7], t.root.bytes), ([8], [])]⟩, [7]⟩
    (t.size < 2 ^ 63 ∧ (∀ layer ∈ [outer], layer.tree.size < 2 ^ 63) ∧ t.Nested [outer]) ∧
      t.find? [2] = none ∧
      verify ⟨[t.prove [2]]⟩ t.root.bytes [2] none = .ok () ∧
      (∀ value, verify ⟨[t.prove [2]]⟩ t.root.bytes [2] value = .ok () →
        Collides (proofTexts ⟨[t.prove [2]]⟩ value) t.texts ∨ value = none) ∧
      verify ⟨[t.prove [2], outer.tree.prove [7]]⟩ outer.tree.root.bytes [2] none = .ok () := by
  intro t outer
  have hsize : t.size < 2 ^ 63 := by decide
  have hsizes : ∀ layer ∈ [outer], layer.tree.size < 2 ^ 63 := by
    rintro layer (_ | ⟨_, ⟨⟩⟩)
    decide
  have hnested : t.Nested [outer] := ⟨rfl, trivial⟩
  exact ⟨⟨hsize, hsizes, hnested⟩, rfl, verify_prove t [2] [outer] hsize hsizes hnested⟩

end Merkle

end ChainHost
