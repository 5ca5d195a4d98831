/-
  The way down to a leaf.

  Whoever shows a path names a place and a number of leaves, and the two decide
  at each sibling whether the way turns left or right.  The root does not commit
  to the number, so the turns are all that a path says about the real tree:
  equal turns lead to the first leaf in every tree or in none, and so for the
  last leaf and for a leaf right after another.
-/
import ChainHost.Merkle.Path
import ChainHost.Proofs.Except
import ChainHost.Proofs.Merkle.Collision

set_option autoImplicit false

namespace ChainHost.Merkle

/-! ## Turns -/

/-- The half of a tree that a way goes into. -/
inductive Turn where
  | left
  | right
  deriving DecidableEq, Repr

/-- The turns from the root to the leaf at a place among so many. -/
inductive Route : Nat → Nat → List Turn → Prop where
  | leaf : Route 0 1 []
  | left {i n : Nat} {turns : List Turn} (hn : 2 ≤ n) (hi : i < splitIndex n)
      (rest : Route i (splitIndex n) turns) : Route i n (.left :: turns)
  | right {i n : Nat} {turns : List Turn} (hn : 2 ≤ n) (hi : splitIndex n ≤ i)
      (rest : Route (i - splitIndex n) (n - splitIndex n) turns) : Route i n (.right :: turns)

namespace Route

/-- The way to a place leads to a leaf of the tree. -/
theorem lt {i n : Nat} {turns : List Turn} (h : Route i n turns) : i < n := by
  induction h with
  | leaf => exact Nat.zero_lt_one
  | left hn _ _ ih =>
      have := splitIndex_lt hn
      omega
  | right _ _ _ ih => omega

theorem first {m b n : Nat} {turns : List Turn} (hfirst : Route 0 m turns)
    (h : Route b n turns) : b = 0 := by
  induction turns generalizing m n with
  | nil =>
      cases h
      rfl
  | cons turn turns ih =>
      cases hfirst with
      | left hm hi hfirst =>
          cases h with
          | left hn hb h => exact ih hfirst h
      | right hm hi hfirst =>
          have := splitIndex_pos hm
          omega

theorem last {a m b n : Nat} {turns : List Turn} (hlast : Route a m turns) (ham : a + 1 = m)
    (h : Route b n turns) : b + 1 = n := by
  induction turns generalizing a m b n with
  | nil =>
      cases h
      rfl
  | cons turn turns ih =>
      cases hlast with
      | left hm hi hlast =>
          have := splitIndex_lt hm
          omega
      | right hm hi hlast =>
          cases h with
          | right hn hb h =>
              have hlast' := ih hlast (by omega) h
              have := splitIndex_lt hn
              omega

/-- What leads to a leaf and to the one after it does so in every tree.  The two
ways are one until the first turns left and the second right; from there the
first leads to a last leaf and the second to a first one. -/
theorem next {a m i j n : Nat} {turns turns' : List Turn} (ha : Route a m turns)
    (hnext : Route (a + 1) m turns') (hi : Route i n turns) (hj : Route j n turns') :
    j = i + 1 := by
  induction turns generalizing a m i j n turns' with
  | nil =>
      cases ha
      have := hnext.lt
      omega
  | cons turn turns ih =>
      cases ha with
      | left hm ha hleft =>
          cases hi with
          | left hn hi hi' =>
              cases hnext with
              | left _ _ hnext' =>
                  cases hj with
                  | left _ _ hj' => exact ih hleft hnext' hi' hj'
              | right _ hs hnext' =>
                  cases hj with
                  | right _ hj hj' =>
                      have hzero : a + 1 - splitIndex m = 0 := by omega
                      have hlast := hleft.last (by omega) hi'
                      rw [hzero] at hnext'
                      have hfirst := hnext'.first hj'
                      omega
      | right hm ha hright =>
          cases hi with
          | right hn hi hi' =>
              cases hnext with
              | left _ hs _ => omega
              | right _ _ hnext' =>
                  cases hj with
                  | right _ hj hj' =>
                      rw [show a + 1 - splitIndex m = a - splitIndex m + 1 by omega] at hnext'
                      have := ih hright hnext' hi' hj'
                      omega

end Route

/-! ## Where claimed trees split -/

/-- There is room for the power of two as far as 2^63, which is one itself. -/
theorem powerAbove_lt_iff {n : Nat} : powerAbove n < 2 ^ 64 ↔ n ≤ 2 ^ 63 := by
  rw [powerAbove]
  split
  · next hone => exact iff_of_true (by decide) (by omega)
  · next hmore =>
      have hlog : (n - 1).log2 < 63 ↔ n - 1 < 2 ^ 63 := Nat.log2_lt (by omega)
      rw [Nat.pow_lt_pow_iff_right (by decide)]
      omega

/-- Up to 2^63 leaves, a claimed tree splits where a real one does; above, it has no
split. -/
theorem splitPoint?_eq_some_iff {total split : UInt64} :
    splitPoint? total = some split ↔
      total.toNat ≤ 2 ^ 63 ∧ split.toNat = splitIndex total.toNat := by
  rw [splitPoint?, ← powerAbove_lt_iff]
  by_cases hroom : powerAbove total.toNat < 2 ^ 64
  · have hsplit : (UInt64.ofNat (powerAbove total.toNat) >>> 1).toNat = splitIndex total.toNat := by
      rw [UInt64.toNat_shiftRight, UInt64.toNat_ofNat_of_lt' hroom, splitIndex]
      exact Nat.shiftRight_eq_div_pow _ 1
    rw [if_pos hroom, Option.some_inj, ← UInt64.toNat_inj, hsplit]
    exact ⟨fun h => ⟨hroom, h.symm⟩, fun h => h.2.symm⟩
  · rw [if_neg hroom]
    exact iff_of_false (Option.some_ne_none split).symm fun h => hroom h.1

theorem splitPoint?_eq_none_iff {total : UInt64} :
    splitPoint? total = none ↔ 2 ^ 63 < total.toNat := by
  simp only [splitPoint?, ite_eq_right_iff, reduceCtorEq, imp_false, powerAbove_lt_iff, Nat.not_le]

theorem exists_splitPoint? {total : UInt64} (hle : total.toNat ≤ 2 ^ 63) :
    ∃ split, splitPoint? total = some split ∧ split.toNat = splitIndex total.toNat := by
  have hsome : splitPoint? total ≠ none :=
    fun hnone => Nat.not_lt.mpr hle (splitPoint?_eq_none_iff.mp hnone)
  obtain ⟨split, hsplit⟩ := Option.ne_none_iff_exists'.mp hsome
  exact ⟨split, hsplit, (splitPoint?_eq_some_iff.mp hsplit).2⟩

/-! ## Ways -/

/-- The turns to a place among so many leaves, each with the sibling passed by. -/
def way? (index total : UInt64) (siblings : List Digest) : Option (List (Turn × Digest)) :=
  if index ≥ total then none
  else if total = 1 then if siblings.isEmpty then some [] else none
  else
    match siblings with
    | [] => none
    | sibling :: rest =>
        match splitPoint? total with
        | none => none
        | some split =>
            if index < split then (way? index split rest).map ((.left, sibling) :: ·)
            else (way? (index - split) (total - split) rest).map ((.right, sibling) :: ·)

/-- The root above a leaf at the end of a way. -/
def ascend (leaf : Digest) : List (Turn × Digest) → Digest
  | [] => leaf
  | (.left, sibling) :: rest => innerHash (ascend leaf rest) sibling
  | (.right, sibling) :: rest => innerHash sibling (ascend leaf rest)

/-- Climbing to a root goes back along the way. -/
theorem toOption_climb (index total : UInt64) (leaf : Digest) (siblings : List Digest) :
    (climb index total leaf siblings).toOption = (way? index total siblings).map (ascend leaf) := by
  fun_induction way? index total siblings with
  | case1 siblings index total hout =>
      unfold climb
      rw [if_pos hout]
      rfl
  | case2 siblings index hempty hout =>
      unfold climb
      rw [if_neg hout, if_pos rfl, if_pos hempty]
      rfl
  | case3 siblings index hmore hout =>
      unfold climb
      rw [if_neg hout, if_pos rfl, if_neg hmore]
      rfl
  | case4 index total hout hone =>
      unfold climb
      rw [if_neg hout, if_neg hone]
      rfl
  | case5 index total hout hone sibling rest hfull =>
      unfold climb
      simp only [if_neg hout, if_neg hone, hfull]
      rfl
  | case6 index total hout hone sibling rest split hsplit hleft ih =>
      unfold climb
      simp only [if_neg hout, if_neg hone, hsplit, if_pos hleft, toOption_map, ih, Option.map_map,
        Function.comp_def, ascend]
  | case7 index total hout hone sibling rest split hsplit hright ih =>
      unfold climb
      simp only [if_neg hout, if_neg hone, hsplit, if_neg hright, toOption_map, ih, Option.map_map,
        Function.comp_def, ascend]

theorem two_le_of_not_ge {index total : UInt64} (hout : ¬index ≥ total) (hone : ¬total = 1) :
    2 ≤ total.toNat := by
  have hlt : index.toNat < total.toNat := UInt64.not_le.mp hout
  have hne : total.toNat ≠ 1 := fun h => hone (UInt64.toNat_inj.mp h)
  omega

/-- A way of a claimed tree has the turns to the claimed place. -/
theorem route_of_way? {index total : UInt64} {siblings : List Digest}
    {way : List (Turn × Digest)} (h : way? index total siblings = some way) :
    Route index.toNat total.toNat (way.map (·.1)) := by
  fun_induction way? index total siblings generalizing way with
  | case1 siblings index total hout => cases h
  | case2 siblings index hempty hout =>
      cases h
      have hzero : index.toNat = 0 := Nat.lt_one_iff.mp (UInt64.not_le.mp hout)
      rw [hzero]
      exact .leaf
  | case3 siblings index hmore hout => cases h
  | case4 index total hout hone => cases h
  | case5 index total hout hone sibling rest hfull => cases h
  | case6 index total hout hone sibling rest split hsplit hleft ih =>
      obtain ⟨below, hbelow, rfl⟩ := Option.map_eq_some_iff.mp h
      have hplace := (splitPoint?_eq_some_iff.mp hsplit).2
      have hindex : index.toNat < splitIndex total.toNat := hplace ▸ hleft
      have hroute := ih hbelow
      rw [hplace] at hroute
      exact .left (two_le_of_not_ge hout hone) hindex hroute
  | case7 index total hout hone sibling rest split hsplit hright ih =>
      obtain ⟨below, hbelow, rfl⟩ := Option.map_eq_some_iff.mp h
      have htwo := two_le_of_not_ge hout hone
      have hplace := (splitPoint?_eq_some_iff.mp hsplit).2
      have hindex : splitIndex total.toNat ≤ index.toNat := hplace ▸ UInt64.not_lt.mp hright
      have hfit : split ≤ total := by
        rw [UInt64.le_iff_toNat_le, hplace]
        exact Nat.le_of_lt (splitIndex_lt htwo)
      have hroute := ih hbelow
      rw [UInt64.toNat_sub_of_le _ _ hfit, UInt64.toNat_sub_of_le _ _ (UInt64.not_lt.mp hright),
        hplace] at hroute
      exact .right htwo hindex hroute

/-! ## The texts of a way -/

/-- Every text that climbing from a leaf along a way makes. -/
def ascentTexts (leaf : Digest) : List (Turn × Digest) → List Bytes
  | [] => []
  | (.left, sibling) :: rest =>
      innerText (ascend leaf rest) sibling :: ascentTexts leaf rest
  | (.right, sibling) :: rest =>
      innerText sibling (ascend leaf rest) :: ascentTexts leaf rest

/-- The turns and siblings of a path, from the root down. -/
def Path.way? (p : Path) : Option (List (Turn × Digest)) :=
  Merkle.way? p.index p.total p.aunts.reverse

/-- Every text that checking an entry on a path makes. -/
def Path.texts (p : Path) (key value : Bytes) : List Bytes :=
  leafText key value :: (p.way?.map (ascentTexts (leafHash key value))).getD []

theorem Path.root_eq_ok_iff {p : Path} {leaf root : Digest} :
    p.root leaf = .ok root ↔ ∃ way, p.way? = some way ∧ ascend leaf way = root := by
  rw [← toOption_eq_some_iff, Path.root, toOption_climb, Option.map_eq_some_iff]
  rfl

theorem Path.texts_of_way? {p : Path} {way : List (Turn × Digest)} (h : p.way? = some way)
    (key value : Bytes) :
    p.texts key value = leafText key value :: ascentTexts (leafHash key value) way := by
  rw [texts, h]
  rfl

theorem Path.route {p : Path} {way : List (Turn × Digest)} (h : p.way? = some way) :
    Route p.index.toNat p.total.toNat (way.map (·.1)) := route_of_way? h

end ChainHost.Merkle
