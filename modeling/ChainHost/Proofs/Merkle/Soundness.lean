/-
  What an accepted proof shows.

  A leaf that climbs to the root of a tree stands in the tree, at the place
  where its turns lead there.  Neighbours that are next to each other in a
  claimed tree are then next to each other in the real one, and no key stands
  between them.  So the last step of an accepted proof speaks the truth about
  the tree of the root, or two of the texts that were hashed collide.
-/
import ChainHost.Merkle.Verifier
import ChainHost.Proofs.Merkle.Descent

set_option autoImplicit false

namespace ChainHost

/-! ## Keys without an entry -/

namespace Table

variable {κ ν : Type} [Ord κ] {t : Table κ ν} {k : κ}

/-- The entries before a place have lower keys. -/
def Below (t : Table κ ν) (place : Nat) (k : κ) : Prop :=
  ∀ i e, i < place → t.entries[i]? = some e → compare e.1 k = .lt

/-- The entries from a place on have higher keys. -/
def Above (t : Table κ ν) (place : Nat) (k : κ) : Prop :=
  ∀ i e, place ≤ i → t.entries[i]? = some e → compare k e.1 = .lt

theorem compare_getElem? {i j : Nat} {d e : κ × ν} (hi : t.entries[i]? = some d)
    (hj : t.entries[j]? = some e) (hij : i < j) : compare d.1 e.1 = .lt := by
  obtain ⟨hilen, rfl⟩ := List.getElem?_eq_some_iff.mp hi
  obtain ⟨hjlen, rfl⟩ := List.getElem?_eq_some_iff.mp hj
  exact List.pairwise_iff_getElem.mp t.ordered i j hilen hjlen hij

theorem below_zero : t.Below 0 k := by
  intro i e hi
  omega

theorem above_length : t.Above t.entries.length k := by
  intro i e hi he
  rw [List.getElem?_eq_none hi] at he
  cases he

section Entry

variable [Std.TransOrd κ]

theorem below_of_getElem? {i : Nat} {e : κ × ν} (he : t.entries[i]? = some e)
    (hlt : compare e.1 k = .lt) : t.Below (i + 1) k := by
  intro j d hj hd
  rcases Nat.lt_succ_iff_lt_or_eq.mp hj with hj | rfl
  · exact Std.TransCmp.lt_trans (compare_getElem? hd he hj) hlt
  · rw [he] at hd
    cases hd
    exact hlt

theorem above_of_getElem? {i : Nat} {e : κ × ν} (he : t.entries[i]? = some e)
    (hlt : compare k e.1 = .lt) : t.Above i k := by
  intro j d hj hd
  rcases Nat.lt_or_eq_of_le hj with hj | rfl
  · exact Std.TransCmp.lt_trans hlt (compare_getElem? he hd hj)
  · rw [he] at hd
    cases hd
    exact hlt

end Entry

/-- A key between the entries before a place and those from it on has none. -/
theorem find?_eq_none [Std.LawfulEqOrd κ] {place : Nat} (hbelow : t.Below place k)
    (habove : t.Above place k) : t.find? k = none := by
  refine Option.eq_none_iff_forall_ne_some.mpr fun v hv => ?_
  obtain ⟨i, hi⟩ := List.mem_iff_getElem?.mp (mem_entries_of_find? hv)
  have hlt : compare k k = .lt := by
    by_cases hplace : i < place
    · exact hbelow i (k, v) hplace hi
    · exact habove i (k, v) (Nat.le_of_not_lt hplace) hi
  have hrefl : compare k k = .eq := Std.ReflCmp.compare_self
  rw [hrefl] at hlt
  cases hlt

end Table

namespace Merkle

/-! ## Leaves of the tree of a root -/

/-- A leaf that climbs to a root is an entry of its tree, and the turns are those
to its place. -/
theorem entry_of_ascend {key value : Bytes} {way : List (Turn × Digest)}
    {entries : List (Bytes × Bytes)}
    (h : ascend (leafHash key value) way = rootOf (leavesOf entries)) :
    Collides (leafText key value :: ascentTexts (leafHash key value) way) (textsOf entries) ∨
      ∃ i, Route i entries.length (way.map (·.1)) ∧ entries[i]? = some (key, value) := by
  -- along the way, since the tree can only branch where the way turns
  induction way generalizing entries with
  | nil =>
      have hmem : leafText key value ∈ [leafText key value] := List.mem_cons_self
      rcases eq_singleton_of_leafHash hmem h with hcollides | rfl
      · exact .inl hcollides
      · exact .inr ⟨0, .leaf, rfl⟩
  | cons first way ih =>
      obtain ⟨turn, sibling⟩ := first
      cases turn with
      | left =>
          have hmem : innerText (ascend (leafHash key value) way) sibling ∈ leafText key value ::
              ascentTexts (leafHash key value) ((.left, sibling) :: way) :=
            List.mem_cons_of_mem _ List.mem_cons_self
          rcases halves_of_innerHash hmem h with hcollides | ⟨hlen, hleft, -⟩
          · exact .inl hcollides
          · rcases ih hleft with hcollides | ⟨i, hroute, hentry⟩
            · refine .inl (hcollides.mono ?_ (textsOf_leftOf_subset hlen))
              exact List.cons_subset_cons _ (List.subset_cons_self ..)
            · have hi := hroute.lt
              rw [length_leftOf hlen] at hroute hi
              rw [leftOf, List.getElem?_take_of_lt hi] at hentry
              exact .inr ⟨i, .left hlen hi hroute, hentry⟩
      | right =>
          have hmem : innerText sibling (ascend (leafHash key value) way) ∈ leafText key value ::
              ascentTexts (leafHash key value) ((.right, sibling) :: way) :=
            List.mem_cons_of_mem _ List.mem_cons_self
          rcases halves_of_innerHash hmem h with hcollides | ⟨hlen, -, hright⟩
          · exact .inl hcollides
          · rcases ih hright with hcollides | ⟨i, hroute, hentry⟩
            · refine .inl (hcollides.mono ?_ (textsOf_rightOf_subset hlen))
              exact List.cons_subset_cons _ (List.subset_cons_self ..)
            · rw [length_rightOf] at hroute
              rw [rightOf, List.getElem?_drop] at hentry
              refine .inr ⟨splitIndex entries.length + i, .right hlen (by omega) ?_, hentry⟩
              rwa [Nat.add_sub_cancel_left]

/-! ## Single paths -/

theorem pathRoot_eq_ok_iff {path : Path} {leaf root : Digest} :
    pathRoot path leaf = .ok root ↔ path.root leaf = .ok root :=
  mapError_eq_ok_iff

/-- An entry that reaches the root of a tree on its path is in the tree. -/
theorem pathRoot_sound {t : Tree} {path : Path} {key value : Bytes}
    (h : pathRoot path (leafHash key value) = .ok t.root) :
    Collides (path.texts key value) t.texts ∨
      ∃ turns i, Route path.index.toNat path.total.toNat turns ∧ Route i t.size turns ∧
        t.table.entries[i]? = some (key, value) := by
  obtain ⟨way, hway, hascend⟩ := Path.root_eq_ok_iff.mp (pathRoot_eq_ok_iff.mp h)
  rw [Path.texts_of_way? hway]
  rcases entry_of_ascend hascend with hcollides | ⟨i, hroute, hentry⟩
  · exact .inl hcollides
  · exact .inr ⟨_, i, Path.route hway, hroute, hentry⟩

/-- Every text that checking a neighbour makes. -/
def Neighbour.texts (n : Neighbour) : List Bytes := n.path.texts n.key n.value

theorem neighbourRoot_sound {t : Tree} {total : UInt64} {n : Neighbour}
    (h : neighbourRoot total n = .ok t.root) :
    Collides n.texts t.texts ∨
      ∃ turns i, Route n.path.index.toNat total.toNat turns ∧ Route i t.size turns ∧
        t.table.entries[i]? = some (n.key, n.value) := by
  unfold neighbourRoot at h
  split at h
  · cases h
  · next htotal =>
      rw [← Decidable.not_not.mp htotal]
      exact pathRoot_sound h

/-! ## Gaps -/

/-- Every text that checking a gap makes. -/
def Gap.texts (gap : Gap) : List Bytes :=
  match gap.left, gap.right with
  | none, none => [[]]
  | some left, none => left.texts
  | none, some right => right.texts
  | some left, some right => left.texts ++ right.texts

theorem follows_iff {first second : UInt64} :
    follows first second = true ↔ first.toNat + 1 = second.toNat := by
  simp [follows]

theorem compare_gt_iff {a b : Bytes} : compare a b = .gt ↔ compare b a = .lt :=
  Std.OrientedCmp.gt_iff_lt

section Accepted

variable {total : UInt64} {key : Bytes} {root : Digest}

theorem gapRoot_none_eq_ok_iff :
    gapRoot ⟨total, none, none⟩ key = .ok root ↔ total = 0 ∧ emptyRoot = root := by
  simp only [gapRoot]
  by_cases hzero : total = 0 <;> simp [hzero]

theorem gapRoot_left_eq_ok_iff {left : Neighbour} :
    gapRoot ⟨total, some left, none⟩ key = .ok root ↔
      compare left.key key = .lt ∧ follows left.path.index total = true ∧
        neighbourRoot total left = .ok root := by
  simp only [gapRoot]
  by_cases hlt : compare left.key key = .lt
  · by_cases hlast : follows left.path.index total = true <;> simp [hlt, hlast]
  · simp [hlt]

theorem gapRoot_right_eq_ok_iff {right : Neighbour} :
    gapRoot ⟨total, none, some right⟩ key = .ok root ↔
      compare key right.key = .lt ∧ right.path.index = 0 ∧
        neighbourRoot total right = .ok root := by
  simp only [gapRoot, compare_gt_iff, ne_eq]
  by_cases hgt : compare key right.key = .lt
  · by_cases hfirst : right.path.index = 0 <;> simp [hgt, hfirst]
  · simp [hgt]

theorem gapRoot_both_eq_ok_iff {left right : Neighbour} :
    gapRoot ⟨total, some left, some right⟩ key = .ok root ↔
      compare left.key key = .lt ∧ compare key right.key = .lt ∧
        follows left.path.index right.path.index = true ∧
        neighbourRoot total left = .ok root ∧ neighbourRoot total right = .ok root := by
  simp only [gapRoot, compare_gt_iff, ne_eq]
  by_cases hlt : compare left.key key = .lt
  · by_cases hgt : compare key right.key = .lt
    · by_cases hnext : follows left.path.index right.path.index = true
      · cases hleft : neighbourRoot total left with
        | error refusal => simp [hlt, hgt, hnext]
        | ok reached =>
            cases hright : neighbourRoot total right with
            | error refusal => simp [hlt, hgt, hnext]
            | ok other =>
                by_cases hsame : other = reached
                · simp [hlt, hgt, hnext, hsame]
                · have hboth : ¬(reached = root ∧ other = root) := by
                    rintro ⟨rfl, rfl⟩
                    exact hsame rfl
                  simpa [hlt, hgt, hnext, hsame] using hboth
      · simp [hlt, hgt, hnext]
    · simp [hlt, hgt]
  · simp [hlt]

end Accepted

section Gap

variable {t : Tree} {total : UInt64} {key : Bytes}

/-- Nothing comes after the last entry. -/
theorem find?_of_last {left : Neighbour} (hlt : compare left.key key = .lt)
    (hlast : follows left.path.index total = true) (h : neighbourRoot total left = .ok t.root) :
    Collides left.texts t.texts ∨ t.find? key = none := by
  rcases neighbourRoot_sound h with hcollides | ⟨turns, i, hclaimed, hroute, hentry⟩
  · exact .inl hcollides
  · have hend : i + 1 = t.size := hclaimed.last (follows_iff.mp hlast) hroute
    have hbelow := Table.below_of_getElem? hentry hlt
    rw [hend] at hbelow
    exact .inr (Table.find?_eq_none hbelow Table.above_length)

/-- Nothing comes before the first entry. -/
theorem find?_of_first {right : Neighbour} (hgt : compare key right.key = .lt)
    (hfirst : right.path.index = 0) (h : neighbourRoot total right = .ok t.root) :
    Collides right.texts t.texts ∨ t.find? key = none := by
  rcases neighbourRoot_sound h with hcollides | ⟨turns, i, hclaimed, hroute, hentry⟩
  · exact .inl hcollides
  · rw [hfirst] at hclaimed
    have hzero : i = 0 := hclaimed.first hroute
    have habove := Table.above_of_getElem? hentry hgt
    rw [hzero] at habove
    exact .inr (Table.find?_eq_none Table.below_zero habove)

/-- Nothing comes between an entry and the next one. -/
theorem find?_of_between {left right : Neighbour} (hlt : compare left.key key = .lt)
    (hgt : compare key right.key = .lt)
    (hnext : follows left.path.index right.path.index = true)
    (hleft : neighbourRoot total left = .ok t.root)
    (hright : neighbourRoot total right = .ok t.root) :
    Collides (left.texts ++ right.texts) t.texts ∨ t.find? key = none := by
  rcases neighbourRoot_sound hleft with hcollides | ⟨turns, i, hclaimed, hroute, hentry⟩
  · exact .inl (hcollides.mono (List.subset_append_left ..) (List.Subset.refl _))
  rcases neighbourRoot_sound hright with hcollides | ⟨turns', j, hclaimed', hroute', hentry'⟩
  · exact .inl (hcollides.mono (List.subset_append_right ..) (List.Subset.refl _))
  rw [← follows_iff.mp hnext] at hclaimed'
  have hplace : j = i + 1 := hclaimed.next hclaimed' hroute hroute'
  have hbelow := Table.below_of_getElem? hentry hlt
  rw [← hplace] at hbelow
  exact .inr (Table.find?_eq_none hbelow (Table.above_of_getElem? hentry' hgt))

/-- The tree of the root of no entries has none. -/
theorem find?_of_emptyRoot (h : emptyRoot = t.root) :
    Collides [[]] t.texts ∨ t.find? key = none := by
  have hmem : ([] : Bytes) ∈ [([] : Bytes)] := List.mem_cons_self
  rcases eq_nil_of_emptyRoot hmem h with hcollides | hnil
  · exact .inl hcollides
  · have hlen : t.table.entries.length = 0 := by rw [hnil, List.length_nil]
    have habove : t.table.Above 0 key := hlen ▸ Table.above_length
    exact .inr (Table.find?_eq_none Table.below_zero habove)

/-- No key of the tree of a root lies in a gap of that root. -/
theorem gapRoot_sound {gap : Gap} (h : gapRoot gap key = .ok t.root) :
    Collides gap.texts t.texts ∨ t.find? key = none := by
  obtain ⟨total, left, right⟩ := gap
  match left, right with
  | none, none =>
      obtain ⟨-, hempty⟩ := gapRoot_none_eq_ok_iff.mp h
      exact find?_of_emptyRoot hempty
  | some left, none =>
      obtain ⟨hlt, hlast, hroot⟩ := gapRoot_left_eq_ok_iff.mp h
      exact find?_of_last hlt hlast hroot
  | none, some right =>
      obtain ⟨hgt, hfirst, hroot⟩ := gapRoot_right_eq_ok_iff.mp h
      exact find?_of_first hgt hfirst hroot
  | some left, some right =>
      obtain ⟨hlt, hgt, hnext, hleft, hright⟩ := gapRoot_both_eq_ok_iff.mp h
      exact find?_of_between hlt hgt hnext hleft hright

end Gap

/-! ## Steps -/

theorem runInclusion_eq_ok_iff {op : ProofOp} {value : Bytes} {root : Digest} :
    runInclusion op value = .ok root ↔
      ∃ path, readStep .inclusion Path.wire op = .ok path ∧
        pathRoot path (leafHash op.key value) = .ok root := by
  unfold runInclusion
  cases readStep .inclusion Path.wire op <;> simp

theorem runExclusion_eq_ok_iff {op : ProofOp} {root : Digest} :
    runExclusion op = .ok root ↔
      ∃ gap, readStep .exclusion Gap.wire op = .ok gap ∧ gapRoot gap op.key = .ok root := by
  unfold runExclusion
  cases readStep .exclusion Gap.wire op <;> simp

/-- A step is read as one of its own kind only. -/
theorem opType_of_readStep {α : Type} {kind : StepKind} {wire : Json.Format α} {op : ProofOp}
    {value : α} (h : readStep kind wire op = .ok value) : op.opType = kind.name := by
  unfold readStep at h
  split at h
  · cases h
  · next hkind => exact Decidable.not_not.mp hkind

/-- Every text that a step for a value under its key makes. -/
def inclusionTexts (op : ProofOp) (value : Bytes) : List Bytes :=
  match readStep .inclusion Path.wire op with
  | .ok path => path.texts op.key value
  | .error _ => []

/-- Every text that a step for a missing key makes. -/
def exclusionTexts (op : ProofOp) : List Bytes :=
  match readStep .exclusion Gap.wire op with
  | .ok gap => gap.texts
  | .error _ => []

/-- Every text that the first step of a proof makes. -/
def firstTexts (op : ProofOp) : Option Bytes → List Bytes
  | some value => inclusionTexts op value
  | none => exclusionTexts op

theorem runInclusion_sound {t : Tree} {op : ProofOp} {value : Bytes}
    (h : runInclusion op value = .ok t.root) :
    Collides (inclusionTexts op value) t.texts ∨ t.find? op.key = some value := by
  obtain ⟨path, hread, hroot⟩ := runInclusion_eq_ok_iff.mp h
  simp only [inclusionTexts, hread]
  rcases pathRoot_sound hroot with hcollides | ⟨turns, i, -, -, hentry⟩
  · exact .inl hcollides
  · exact .inr (Table.find?_of_mem_entries (List.mem_of_getElem? hentry))

theorem runExclusion_sound {t : Tree} {op : ProofOp} (h : runExclusion op = .ok t.root) :
    Collides (exclusionTexts op) t.texts ∨ t.find? op.key = none := by
  obtain ⟨gap, hread, hroot⟩ := runExclusion_eq_ok_iff.mp h
  simp only [exclusionTexts, hread]
  exact gapRoot_sound hroot

theorem runFirst_sound {t : Tree} {op : ProofOp} {value : Option Bytes}
    (h : runFirst op value = .ok t.root) :
    Collides (firstTexts op value) t.texts ∨ t.find? op.key = value := by
  cases value with
  | some value => exact runInclusion_sound h
  | none => exact runExclusion_sound h

/-! ## Chains of steps -/

/-- The root that the steps of a proof reach. -/
def runAll (ops : List ProofOp) (value : Option Bytes) : Except Refusal Digest :=
  match ops with
  | [] => .error .empty
  | first :: outer => (runFirst first value).bind fun start => runOuter start outer

/-- Every text that further steps make. -/
def outerTexts (root : Digest) : List ProofOp → List Bytes
  | [] => []
  | op :: outer =>
      inclusionTexts op root.bytes ++
        match runInclusion op root.bytes with
        | .ok next => outerTexts next outer
        | .error _ => []

/-- Every text that checking the steps of a proof makes. -/
def stepTexts (ops : List ProofOp) (value : Option Bytes) : List Bytes :=
  match ops with
  | [] => []
  | first :: outer =>
      firstTexts first value ++
        match runFirst first value with
        | .ok start => outerTexts start outer
        | .error _ => []

theorem runOuter_cons (root : Digest) (op : ProofOp) (outer : List ProofOp) :
    runOuter root (op :: outer)
      = (runInclusion op root.bytes).bind fun next => runOuter next outer := by
  unfold runOuter
  rw [List.foldlM_cons]
  rfl

theorem runOuter_concat_eq_ok_iff {start root : Digest} {outer : List ProofOp} {op : ProofOp} :
    runOuter start (outer ++ [op]) = .ok root ↔
      ∃ inner, runOuter start outer = .ok inner ∧ runInclusion op inner.bytes = .ok root := by
  induction outer generalizing start with
  | nil =>
      rw [List.nil_append, runOuter_cons]
      cases hrun : runInclusion op start.bytes <;> simp [runOuter, hrun, Except.bind, pure, Except.pure]
  | cons first outer ih =>
      rw [List.cons_append, runOuter_cons, runOuter_cons]
      cases runInclusion first start.bytes with
      | error refusal => simp [Except.bind]
      | ok next => exact ih

theorem inclusionTexts_subset_outerTexts {start inner : Digest} {outer : List ProofOp}
    (h : runOuter start outer = .ok inner) (op : ProofOp) :
    inclusionTexts op inner.bytes ⊆ outerTexts start (outer ++ [op]) := by
  induction outer generalizing start with
  | nil =>
      cases h
      exact List.subset_append_left ..
  | cons first outer ih =>
      rw [runOuter_cons] at h
      cases hrun : runInclusion first start.bytes with
      | error refusal =>
          rw [hrun] at h
          cases h
      | ok next =>
          rw [hrun] at h
          simp only [List.cons_append, outerTexts, hrun]
          exact List.subset_append_of_subset_right _ (ih h)

/-- What the last step of a proof says of a tree: that it answers the key of the
proof with the value, or, of more steps, that it has the root reached so far
under the key of the last one. -/
inductive Shown (t : Tree) (key : Bytes) (value : Option Bytes) : List ProofOp → Prop where
  | one {op : ProofOp} (hkey : op.key = key) (hfind : t.find? key = value) : Shown t key value [op]
  | more {front : List ProofOp} {op : ProofOp} {root : Digest}
      (hfront : runAll front value = .ok root) (hfind : t.find? op.key = some root.bytes) :
      Shown t key value (front ++ [op])

theorem runAll_sound {t : Tree} {first : ProofOp} {outer : List ProofOp} {value : Option Bytes}
    (h : runAll (first :: outer) value = .ok t.root) :
    Collides (stepTexts (first :: outer) value) t.texts ∨
      Shown t first.key value (first :: outer) := by
  cases hfirst : runFirst first value with
  | error refusal =>
      rw [runAll, hfirst] at h
      cases h
  | ok start =>
      simp only [runAll, hfirst, Except.bind] at h
      simp only [stepTexts, hfirst]
      rcases List.eq_nil_or_concat outer with rfl | ⟨middle, op, rfl⟩
      · cases h
        rcases runFirst_sound hfirst with hcollides | hfind
        · exact .inl (hcollides.mono (List.subset_append_left ..) (List.Subset.refl _))
        · exact .inr (.one rfl hfind)
      · rw [List.concat_eq_append] at h ⊢
        obtain ⟨inner, hinner, hlast⟩ := runOuter_concat_eq_ok_iff.mp h
        have hfront : runAll (first :: middle) value = .ok inner := by
          rw [runAll, hfirst]
          exact hinner
        rcases runInclusion_sound hlast with hcollides | hfind
        · refine .inl (hcollides.mono ?_ (List.Subset.refl _))
          exact List.subset_append_of_subset_right _
            (inclusionTexts_subset_outerTexts hinner op)
        · exact .inr (.more hfront hfind)

/-! ## Proofs -/

theorem verify_eq_ok_iff {proof : Proof} {root key : Bytes} {value : Option Bytes} :
    verify proof root key value = .ok () ↔
      ∃ first outer reached, proof.ops = first :: outer ∧ first.key = key ∧
        runAll proof.ops value = .ok reached ∧ reached.bytes = root := by
  obtain ⟨ops⟩ := proof
  cases ops with
  | nil => simp [verify]
  | cons first outer =>
      by_cases hkey : first.key = key
      · cases hrun : (runFirst first value).bind fun start => runOuter start outer with
        | error refusal => simp [verify, runAll, hkey, hrun]
        | ok reached => simp [verify, runAll, hkey, hrun]
      · simp [verify, hkey]

theorem verify_eq_ok_of_isOk {proof : Proof} {root key : Bytes} {value : Option Bytes}
    (h : (verify proof root key value).isOk = true) : verify proof root key value = .ok () := by
  cases hverify : verify proof root key value with
  | error refusal =>
      rw [hverify] at h
      cases h
  | ok _ => rfl

/-- Every text that checking a proof makes. -/
def proofTexts (proof : Proof) (value : Option Bytes) : List Bytes := stepTexts proof.ops value

/-- An accepted proof is about its key, and its last step is true of the tree. -/
theorem shown_of_verify {t : Tree} {proof : Proof} {key : Bytes} {value : Option Bytes}
    (h : verify proof t.root.bytes key value = .ok ()) :
    Collides (proofTexts proof value) t.texts ∨ Shown t key value proof.ops := by
  obtain ⟨first, outer, reached, hops, hkey, hrun, hroot⟩ := verify_eq_ok_iff.mp h
  rw [Digest.ext_bytes hroot, hops] at hrun
  rw [proofTexts, hops, ← hkey]
  exact runAll_sound hrun

/-- An accepted proof of one step for absence is one for no value. -/
theorem value_of_verify_exclusion {proof : Proof} {root key : Bytes} {value : Option Bytes}
    {op : ProofOp} (hops : proof.ops = [op]) (hkind : op.opType = StepKind.exclusion.name)
    (h : verify proof root key value = .ok ()) : value = none := by
  obtain ⟨first, outer, reached, hops', hkey, hrun, hroot⟩ := verify_eq_ok_iff.mp h
  cases value with
  | none => rfl
  | some value =>
      rw [hops] at hrun
      cases hfirst : runInclusion op value with
      | error refusal =>
          rw [runAll, runFirst, hfirst] at hrun
          cases hrun
      | ok start =>
          obtain ⟨path, hread, -⟩ := runInclusion_eq_ok_iff.mp hfirst
          have hname := (opType_of_readStep hread).symm.trans hkind
          exact absurd hname (by decide)

theorem Shown.find?_of_one {t : Tree} {key : Bytes} {value : Option Bytes} {op : ProofOp}
    (h : Shown t key value [op]) : t.find? key = value := by
  generalize hops : [op] = ops at h
  cases h with
  | one hkey hfind => exact hfind
  | @more front last root hfront hfind =>
      cases front with
      | nil => cases hfront
      | cons first front => simp at hops

/-- A proof that is accepted against the root of a tree speaks the truth about the
tree, whatever its steps claim: its last step holds there, and one step for
absence is accepted for keys without an entry only.  Else a text that checking
the proof makes collides with one that the root is made of. -/
theorem verify_sound (t : Tree) (proof : Proof) (key : Bytes) (value : Option Bytes)
    (h : verify proof t.root.bytes key value = .ok ()) :
    Collides (proofTexts proof value) t.texts ∨
      (Shown t key value proof.ops ∧
        ∀ op, proof.ops = [op] → op.opType = StepKind.exclusion.name → t.find? key = none) := by
  rcases shown_of_verify h with hcollides | hshown
  · exact .inl hcollides
  · refine .inr ⟨hshown, fun op hops hkind => ?_⟩
    rw [hops] at hshown
    rw [hshown.find?_of_one]
    exact value_of_verify_exclusion hops hkind h

/-- Two entries show that a key between them is missing. -/
theorem verify_sound_between :
    let t : Tree := ⟨.ofList [([1], [10]), ([3], [30])]⟩
    let proof : Proof := ⟨[t.prove [2]]⟩
    verify proof t.root.bytes [2] none = .ok () ∧
      (Collides (proofTexts proof none) t.texts ∨
        (Shown t [2] none proof.ops ∧
          ∀ op, proof.ops = [op] → op.opType = StepKind.exclusion.name → t.find? [2] = none)) := by
  have haccepted : verify ⟨[Tree.prove ⟨.ofList [([1], [10]), ([3], [30])]⟩ [2]]⟩
      (Tree.root ⟨.ofList [([1], [10]), ([3], [30])]⟩).bytes [2] none = .ok () :=
    verify_eq_ok_of_isOk (by decide +kernel)
  exact ⟨haccepted, verify_sound _ _ _ _ haccepted⟩

end Merkle

end ChainHost
