/-
  What digests are taken of.

  A root is a digest of digests, and two trees of one root differ only where two
  texts of one digest stand.  The texts of a tree are listed here, and a
  collision is found among listed texts only: that two texts of one digest exist
  somewhere is no news, since there are more texts than digests.  Leaves, inner
  nodes and the empty tree have different texts, and each text can be read back.
-/
import ChainHost.Merkle.Tree

set_option autoImplicit false

namespace ChainHost

/-! ## Length prefixes are read back -/

namespace Frame.Length

theorem encode_of_lt {n : Nat} (h : n < 128) : encode n = [UInt8.ofNat n] := by
  rw [encode, if_pos h]

theorem encode_of_not_lt {n : Nat} (h : ¬ n < 128) :
    encode n = UInt8.ofNat (128 + n % 128) :: encode (n / 128) := by
  rw [encode, if_neg h]

theorem ofNat_inj {a b : Nat} (ha : a < 256) (hb : b < 256) (h : UInt8.ofNat a = UInt8.ofNat b) :
    a = b := by
  have hnat := congrArg UInt8.toNat h
  rwa [UInt8.toNat_ofNat_of_lt' ha, UInt8.toNat_ofNat_of_lt' hb] at hnat

/-- No length prefix starts another one. -/
theorem encode_append_inj {m n : Nat} {xs ys : Bytes} (h : encode m ++ xs = encode n ++ ys) :
    m = n ∧ xs = ys := by
  induction m using encode.induct generalizing n with
  | case1 m hm =>
      rw [encode_of_lt hm] at h
      by_cases hn : n < 128
      · rw [encode_of_lt hn] at h
        obtain ⟨hhead, htail⟩ := List.cons.inj h
        exact ⟨ofNat_inj (by omega) (by omega) hhead, htail⟩
      · -- the last byte of a prefix stands against a byte that is not a last one
        rw [encode_of_not_lt hn] at h
        have hhead := ofNat_inj (by omega) (by omega) (List.cons.inj h).1
        omega
  | case2 m hm ih =>
      rw [encode_of_not_lt hm] at h
      by_cases hn : n < 128
      · rw [encode_of_lt hn] at h
        have hhead := ofNat_inj (by omega) (by omega) (List.cons.inj h).1
        omega
      · rw [encode_of_not_lt hn] at h
        obtain ⟨hhead, htail⟩ := List.cons.inj h
        have hlow := ofNat_inj (by omega) (by omega) hhead
        obtain ⟨hhigh, hrest⟩ := ih htail
        exact ⟨by omega, hrest⟩

end Frame.Length

theorem Digest.ext_bytes {d e : Digest} (h : d.bytes = e.bytes) : d = e := by
  cases d
  cases e
  cases h
  rfl

namespace Merkle

/-! ## The texts of nodes -/

/-- The text that the digest of an inner node is taken of. -/
def innerText (left right : Digest) : Bytes := 1 :: (left.bytes ++ right.bytes)

/-- A leaf binds its key and its value. -/
theorem leafText_inj {k k' v v' : Bytes} (h : leafText k v = leafText k' v') :
    k = k' ∧ v = v' := by
  have hbody := (List.cons.inj h).2
  rw [List.append_assoc, List.append_assoc, List.append_assoc, List.append_assoc] at hbody
  obtain ⟨hklen, hkey⟩ := Frame.Length.encode_append_inj hbody
  obtain ⟨hk, hvalue⟩ := List.append_inj hkey hklen
  exact ⟨hk, (Frame.Length.encode_append_inj hvalue).2⟩

/-- An inner node binds its two subtrees. -/
theorem innerText_inj {l l' r r' : Digest} (h : innerText l r = innerText l' r') :
    l = l' ∧ r = r' := by
  have hlen : l.bytes.length = l'.bytes.length := by rw [l.length_bytes, l'.length_bytes]
  obtain ⟨hl, hr⟩ := List.append_inj (List.cons.inj h).2 hlen
  exact ⟨Digest.ext_bytes hl, Digest.ext_bytes hr⟩

theorem leafText_ne_innerText (k v : Bytes) (l r : Digest) : leafText k v ≠ innerText l r := by
  intro h
  exact absurd (List.cons.inj h).1 (by decide)

theorem leafText_ne_nil (k v : Bytes) : leafText k v ≠ [] := List.cons_ne_nil _ _

theorem innerText_ne_nil (l r : Digest) : innerText l r ≠ [] := List.cons_ne_nil _ _

/-! ## Collisions -/

/-- One of some texts and one of some others differ and have one digest. -/
def Collides (xs ys : List Bytes) : Prop :=
  ∃ x ∈ xs, ∃ y ∈ ys, x ≠ y ∧ Sha256.hash x = Sha256.hash y

instance (xs ys : List Bytes) : Decidable (Collides xs ys) :=
  inferInstanceAs (Decidable (∃ x ∈ xs, ∃ y ∈ ys, x ≠ y ∧ Sha256.hash x = Sha256.hash y))

theorem Collides.mono {xs xs' ys ys' : List Bytes} (h : Collides xs ys) (hx : xs ⊆ xs')
    (hy : ys ⊆ ys') : Collides xs' ys' := by
  obtain ⟨x, hxmem, y, hymem, hne, hhash⟩ := h
  exact ⟨x, hx hxmem, y, hy hymem, hne, hhash⟩

/-- Listed texts of one digest are one text, but for a collision. -/
theorem collides_or_eq {x y : Bytes} {xs ys : List Bytes} (hx : x ∈ xs) (hy : y ∈ ys)
    (h : Sha256.hash x = Sha256.hash y) : Collides xs ys ∨ x = y := by
  by_cases hxy : x = y
  · exact .inr hxy
  · exact .inl ⟨x, hx, y, hy, hxy, h⟩

theorem collides_of_ne {x y : Bytes} {xs ys : List Bytes} (hx : x ∈ xs) (hy : y ∈ ys)
    (h : Sha256.hash x = Sha256.hash y) (hne : x ≠ y) : Collides xs ys :=
  (collides_or_eq hx hy h).resolve_right hne

/-! ## The two halves of a tree -/

/-- The digests of some entries, in order. -/
def leavesOf (entries : List (Bytes × Bytes)) : List Digest :=
  entries.map fun e => leafHash e.1 e.2

/-- The entries on the left of the root. -/
def leftOf (entries : List (Bytes × Bytes)) : List (Bytes × Bytes) :=
  entries.take (splitIndex entries.length)

/-- The entries on the right of the root. -/
def rightOf (entries : List (Bytes × Bytes)) : List (Bytes × Bytes) :=
  entries.drop (splitIndex entries.length)

theorem length_leftOf {entries : List (Bytes × Bytes)} (h : 2 ≤ entries.length) :
    (leftOf entries).length = splitIndex entries.length := by
  have := splitIndex_lt h
  rw [leftOf, List.length_take]
  omega

theorem length_rightOf (entries : List (Bytes × Bytes)) :
    (rightOf entries).length = entries.length - splitIndex entries.length := by
  rw [rightOf, List.length_drop]

theorem rootOf_of_two_le {leaves : List Digest} (h : 2 ≤ leaves.length) :
    rootOf leaves
      = innerHash (rootOf (leaves.take (splitIndex leaves.length)))
          (rootOf (leaves.drop (splitIndex leaves.length))) := by
  match leaves, h with
  | a :: b :: rest, _ =>
      rw [rootOf.eq_def]

theorem rootOf_leavesOf {entries : List (Bytes × Bytes)} (h : 2 ≤ entries.length) :
    rootOf (leavesOf entries)
      = innerHash (rootOf (leavesOf (leftOf entries))) (rootOf (leavesOf (rightOf entries))) := by
  have hlen : (leavesOf entries).length = entries.length := List.length_map ..
  rw [rootOf_of_two_le (hlen ▸ h), hlen]
  simp only [leavesOf, leftOf, rightOf, List.map_take, List.map_drop]

@[simp] theorem rootOf_leavesOf_nil : rootOf (leavesOf []) = emptyRoot := by
  unfold rootOf
  rfl

@[simp] theorem rootOf_leavesOf_singleton (e : Bytes × Bytes) :
    rootOf (leavesOf [e]) = leafHash e.1 e.2 := by
  unfold rootOf
  rfl

/-! ## The texts of a tree -/

/-- Every text that the root over some entries is made of. -/
def textsOf (entries : List (Bytes × Bytes)) : List Bytes :=
  match _h : entries with
  | [] => [[]]
  | [e] => [leafText e.1 e.2]
  | _ :: _ :: _ =>
      innerText (rootOf (leavesOf (leftOf entries))) (rootOf (leavesOf (rightOf entries)))
        :: (textsOf (leftOf entries) ++ textsOf (rightOf entries))
termination_by entries.length
decreasing_by
  all_goals
    have hlen : 2 ≤ entries.length := by subst _h; simp
    have h1 := splitIndex_lt hlen
    have h2 := splitIndex_pos hlen
    have h3 := length_leftOf hlen
    have h4 := length_rightOf entries
    subst _h
    omega

@[simp] theorem textsOf_nil : textsOf [] = [[]] := by
  unfold textsOf
  rfl

@[simp] theorem textsOf_singleton (e : Bytes × Bytes) : textsOf [e] = [leafText e.1 e.2] := by
  unfold textsOf
  rfl

theorem nil_mem_textsOf : [] ∈ textsOf [] := by
  rw [textsOf_nil]
  exact List.mem_cons_self

theorem leafText_mem_textsOf (e : Bytes × Bytes) : leafText e.1 e.2 ∈ textsOf [e] := by
  rw [textsOf_singleton]
  exact List.mem_cons_self

section Halves

variable {entries : List (Bytes × Bytes)} (h : 2 ≤ entries.length)

include h

theorem textsOf_eq :
    textsOf entries
      = innerText (rootOf (leavesOf (leftOf entries))) (rootOf (leavesOf (rightOf entries)))
        :: (textsOf (leftOf entries) ++ textsOf (rightOf entries)) := by
  match entries, h with
  | a :: b :: rest, _ =>
      rw [textsOf.eq_def]

theorem textsOf_leftOf_subset : textsOf (leftOf entries) ⊆ textsOf entries := by
  rw [textsOf_eq h]
  intro x hx
  exact List.mem_cons_of_mem _ (List.mem_append_left _ hx)

theorem textsOf_rightOf_subset : textsOf (rightOf entries) ⊆ textsOf entries := by
  rw [textsOf_eq h]
  intro x hx
  exact List.mem_cons_of_mem _ (List.mem_append_right _ hx)

theorem innerText_mem_textsOf :
    innerText (rootOf (leavesOf (leftOf entries))) (rootOf (leavesOf (rightOf entries)))
      ∈ textsOf entries := by
  rw [textsOf_eq h]
  exact List.mem_cons_self

end Halves

/-! ## What a root binds -/

section Bound

variable {xs : List Bytes} {entries : List (Bytes × Bytes)}

/-- The root without entries is that of no others. -/
theorem eq_nil_of_emptyRoot (hmem : [] ∈ xs) (h : emptyRoot = rootOf (leavesOf entries)) :
    Collides xs (textsOf entries) ∨ entries = [] := by
  match entries with
  | [] => exact .inr rfl
  | [e] =>
      rw [rootOf_leavesOf_singleton] at h
      exact .inl (collides_of_ne hmem (leafText_mem_textsOf e) h (leafText_ne_nil _ _).symm)
  | a :: b :: rest =>
      have hlen : 2 ≤ (a :: b :: rest).length := by simp
      rw [rootOf_leavesOf hlen] at h
      exact .inl (collides_of_ne hmem (innerText_mem_textsOf hlen) h (innerText_ne_nil _ _).symm)

/-- A root that is the digest of a leaf is that of the one entry. -/
theorem eq_singleton_of_leafHash {key value : Bytes} (hmem : leafText key value ∈ xs)
    (h : leafHash key value = rootOf (leavesOf entries)) :
    Collides xs (textsOf entries) ∨ entries = [(key, value)] := by
  match entries with
  | [] =>
      rw [rootOf_leavesOf_nil] at h
      exact .inl (collides_of_ne hmem nil_mem_textsOf h (leafText_ne_nil key value))
  | [e] =>
      rw [rootOf_leavesOf_singleton] at h
      rcases collides_or_eq hmem (leafText_mem_textsOf e) h with hcollides | heq
      · exact .inl hcollides
      · obtain ⟨hkey, hvalue⟩ := leafText_inj heq
        rw [hkey, hvalue]
        exact .inr rfl
  | a :: b :: rest =>
      have hlen : 2 ≤ (a :: b :: rest).length := by simp
      rw [rootOf_leavesOf hlen] at h
      exact .inl (collides_of_ne hmem (innerText_mem_textsOf hlen) h (leafText_ne_innerText _ _ _ _))

/-- A root that is the digest of an inner node is that of the two halves. -/
theorem halves_of_innerHash {left right : Digest} (hmem : innerText left right ∈ xs)
    (h : innerHash left right = rootOf (leavesOf entries)) :
    Collides xs (textsOf entries) ∨
      (2 ≤ entries.length ∧ left = rootOf (leavesOf (leftOf entries)) ∧
        right = rootOf (leavesOf (rightOf entries))) := by
  match entries with
  | [] =>
      rw [rootOf_leavesOf_nil] at h
      exact .inl (collides_of_ne hmem nil_mem_textsOf h (innerText_ne_nil left right))
  | [e] =>
      rw [rootOf_leavesOf_singleton] at h
      exact .inl (collides_of_ne hmem (leafText_mem_textsOf e) h
        (leafText_ne_innerText _ _ _ _).symm)
  | a :: b :: rest =>
      have hlen : 2 ≤ (a :: b :: rest).length := by simp
      rw [rootOf_leavesOf hlen] at h
      rcases collides_or_eq hmem (innerText_mem_textsOf hlen) h with hcollides | heq
      · exact .inl hcollides
      · exact .inr ⟨hlen, innerText_inj heq⟩

/-- Entries are their two halves. -/
theorem eq_of_halves {entries' : List (Bytes × Bytes)} (hleft : leftOf entries = leftOf entries')
    (hright : rightOf entries = rightOf entries') : entries = entries' := by
  have happend : leftOf entries ++ rightOf entries = leftOf entries' ++ rightOf entries' := by
    rw [hleft, hright]
  unfold leftOf rightOf at happend
  rwa [List.take_append_drop, List.take_append_drop] at happend

/-- A root binds all entries: how many they are, and in which places they stand. -/
theorem eq_of_rootOf_eq {entries' : List (Bytes × Bytes)}
    (h : rootOf (leavesOf entries) = rootOf (leavesOf entries')) :
    Collides (textsOf entries) (textsOf entries') ∨ entries = entries' := by
  -- on the halves of the one, since the root says that the other has halves too
  induction entries using textsOf.induct generalizing entries' with
  | case1 =>
      rw [rootOf_leavesOf_nil] at h
      rcases eq_nil_of_emptyRoot nil_mem_textsOf h with hcollides | heq
      · exact .inl hcollides
      · exact .inr heq.symm
  | case2 e =>
      rw [rootOf_leavesOf_singleton] at h
      rcases eq_singleton_of_leafHash (leafText_mem_textsOf e) h with hcollides | heq
      · exact .inl hcollides
      · exact .inr heq.symm
  | case3 a b rest ihleft ihright =>
      have hlen : 2 ≤ (a :: b :: rest).length := by simp
      rw [rootOf_leavesOf hlen] at h
      rcases halves_of_innerHash (innerText_mem_textsOf hlen) h with
        hcollides | ⟨hlen', hleft, hright⟩
      · exact .inl hcollides
      rcases ihleft hleft with hcollides | heqleft
      · exact .inl (hcollides.mono (textsOf_leftOf_subset hlen) (textsOf_leftOf_subset hlen'))
      rcases ihright hright with hcollides | heqright
      · exact .inl (hcollides.mono (textsOf_rightOf_subset hlen) (textsOf_rightOf_subset hlen'))
      · exact .inr (eq_of_halves heqleft heqright)

end Bound

/-- Every text that the root of a tree is made of. -/
def Tree.texts (t : Tree) : List Bytes := textsOf t.table.entries

/-- A root binds what a tree has under every key. -/
theorem Tree.eq_of_root_eq {t t' : Tree} (h : t.root = t'.root) :
    Collides t.texts t'.texts ∨ t = t' := by
  rcases eq_of_rootOf_eq h with hcollides | heq
  · exact .inl hcollides
  · obtain ⟨⟨entries, ordered⟩⟩ := t
    obtain ⟨⟨entries', ordered'⟩⟩ := t'
    cases heq
    exact .inr rfl

end Merkle

end ChainHost
