/-
  The verifier's arithmetic on proofs from anyone.

  A path claims its index and its total, and the descent along it halves the total at each
  sibling.  Up to 2^63 leaves the halves are below the powers of two that the total is
  below, so there is room for every operation and the descent ends within 64 levels,
  whatever siblings follow.  Above 2^63 the power of two has no room, and the check panics
  at the first sibling.
-/
import ChainHost.Proofs.Merkle.Completeness
import ChainHost.Proofs.Merkle.Trace

set_option autoImplicit false

namespace ChainHost.Merkle

/-- There is room for an operation, and the descent is within 64 levels. -/
def Event.Fits : Event → Prop
  | .entered level => level < 64
  | .computed o => o.Fits

/-! ## Halves -/

theorem splitIndex_le {n k : Nat} (h : 2 ≤ n) (hle : n ≤ 2 ^ (k + 1)) : splitIndex n ≤ 2 ^ k := by
  rw [splitIndex_eq h]
  have hlog : (n - 1).log2 < k + 1 := (Nat.log2_lt (by omega)).mpr (by omega)
  exact Nat.pow_le_pow_right (by decide) (Nat.le_of_lt_succ hlog)

/-- What lies behind the split is no more than what lies before it. -/
theorem sub_splitIndex_le {n : Nat} (h : 2 ≤ n) : n - splitIndex n ≤ splitIndex n := by
  rw [splitIndex_eq h]
  have hlog : n - 1 < 2 ^ ((n - 1).log2 + 1) := Nat.lt_log2_self
  rw [Nat.pow_succ] at hlog
  omega

namespace Traced

variable {α β ε : Type} {P : Event → Prop}

/-! ## All events of a trace -/

/-- All events have a property. -/
def All (P : Event → Prop) (x : Traced α) : Prop := ∀ e ∈ x.trace, P e

theorem all_pure (a : α) : (pure a : Traced α).All P := by
  intro e he
  cases he

theorem All.bind {x : Traced α} {f : α → Traced β} (hx : x.All P) (hf : (f x.result).All P) :
    (x >>= f).All P := by
  intro e he
  rcases List.mem_append.mp he with he | he
  · exact hx e he
  · exact hf e he

theorem All.andThen {x : Traced (Except ε α)} {f : α → Traced (Except ε β)} (hx : x.All P)
    (hf : ∀ a, x.result = .ok a → (f a).All P) : (x.andThen f).All P := by
  refine hx.bind ?_
  cases hresult : x.result with
  | error e => exact all_pure _
  | ok a => exact hf a hresult

theorem All.mono {Q : Event → Prop} {x : Traced α} (hx : x.All P) (h : ∀ e, P e → Q e) :
    x.All Q := fun e he => h e (hx e he)

theorem all_of_trace {x : Traced α} {e : Event} (htrace : x.trace = [e]) (h : P e) : x.All P := by
  intro other hother
  rw [htrace] at hother
  obtain rfl := List.mem_singleton.mp hother
  exact h

/-- A step of the descent takes a power of two and maybe two differences, and descends into
one of the halves. -/
theorem all_climb_cons {level : Nat} {index total : UInt64} {leaf sibling : Digest}
    {rest : List Digest} (hentered : P (.entered level))
    (hpower : 2 ≤ total.toNat → P (.computed (.power total)))
    (hleft : ∀ split, splitPoint? total = some split → 2 ≤ total.toNat → index < split →
      (climb (level + 1) index split leaf rest).All P)
    (hright : ∀ split, splitPoint? total = some split → 2 ≤ total.toNat → split ≤ index →
      split ≤ total → P (.computed (.minus index split)) ∧ P (.computed (.minus total split))
        ∧ (climb (level + 1) (index - split) (total - split) leaf rest).All P) :
    (climb level index total leaf (sibling :: rest)).All P := by
  unfold climb
  refine (all_of_trace rfl hentered).bind ?_
  split
  · exact all_pure _
  · next hout =>
      split
      · exact all_pure _
      · next hone =>
          have htwo := two_le_of_not_ge hout hone
          refine (all_of_trace (trace_split total) (hpower htwo)).andThen fun split hsplit => ?_
          have hpoint : splitPoint? total = some split := by
            rw [result_split] at hsplit
            cases hfound : splitPoint? total with
            | none =>
                rw [hfound] at hsplit
                cases hsplit
            | some found =>
                rw [hfound] at hsplit
                exact congrArg some (Except.ok.inj hsplit)
          by_cases hturn : index < split
          · rw [if_pos hturn]
            exact (hleft split hpoint htwo hturn).andThen fun _ _ => all_pure _
          · have hindex : split ≤ index := UInt64.not_lt.mp hturn
            have htotal : split ≤ total :=
              UInt64.le_trans hindex (UInt64.le_of_lt (UInt64.not_le.mp hout))
            obtain ⟨hplace, hothers, hrest⟩ := hright split hpoint htwo hindex htotal
            rw [if_neg hturn]
            refine (all_of_trace rfl hplace).andThen fun place hfound => ?_
            obtain rfl := Except.ok.inj ((result_minus hindex).symm.trans hfound)
            refine (all_of_trace rfl hothers).andThen fun others hfound => ?_
            obtain rfl := Except.ok.inj ((result_minus htotal).symm.trans hfound)
            exact hrest.andThen fun _ _ => all_pure _

/-- Without a sibling, and at a place behind the last leaf, nothing is computed. -/
theorem all_climb_of_end {level : Nat} {index total : UInt64} {leaf : Digest}
    {siblings : List Digest} (hentered : P (.entered level))
    (hend : index < total → siblings = []) : (climb level index total leaf siblings).All P := by
  unfold climb
  refine (all_of_trace rfl hentered).bind ?_
  split
  · exact all_pure _
  · next hout =>
      obtain rfl := hend (UInt64.not_le.mp hout)
      split <;> exact all_pure _

/-! ## The descent -/

/-- The descent is within a level, and there is room for all operations. -/
def Within (bound : Nat) : Event → Prop
  | .entered level => level ≤ bound
  | .computed o => o.Fits

theorem fits_of_within {e : Event} (h : Within 63 e) : e.Fits := by
  cases e with
  | entered level => exact Nat.lt_succ_of_le h
  | computed o => exact h

/-- A tree of at most 2^k leaves is descended in at most k levels: both halves of it have
at most half as many. -/
theorem all_within_climb {k : Nat} (hk : k ≤ 63) {level : Nat} {index total : UInt64}
    {leaf : Digest} {siblings : List Digest} (hle : total.toNat ≤ 2 ^ k) :
    (climb level index total leaf siblings).All (Within (level + k)) := by
  induction siblings generalizing level index total k with
  | nil => exact all_climb_of_end (Nat.le_add_right level k) fun _ => rfl
  | cons sibling rest ih =>
      have hroom : total.toNat ≤ 2 ^ 63 :=
        Nat.le_trans hle (Nat.pow_le_pow_right (by decide) hk)
      have hlevel : level ≤ level + k := Nat.le_add_right level k
      have hpower : 2 ≤ total.toNat → Within (level + k) (.computed (.power total)) :=
        fun _ => Operation.fits_power_iff.mpr hroom
      cases k with
      | zero =>
          -- one leaf at most is not split
          have hnone : ¬2 ≤ total.toNat := by omega
          exact all_climb_cons hlevel hpower (fun _ _ htwo _ => absurd htwo hnone)
            fun _ _ htwo _ _ => absurd htwo hnone
      | succ k =>
          have hdepth : level + (k + 1) = level + 1 + k := by omega
          rw [hdepth] at hlevel hpower ⊢
          refine all_climb_cons hlevel hpower (fun split hsplit htwo _ => ?_)
            fun split hsplit htwo hindex htotal => ?_
          · refine ih (by omega) ?_
            rw [(splitPoint?_eq_some_iff.mp hsplit).2]
            exact splitIndex_le htwo hle
          · refine ⟨Operation.fits_minus_iff.mpr hindex, Operation.fits_minus_iff.mpr htotal,
              ih (by omega) ?_⟩
            rw [UInt64.toNat_sub_of_le _ _ htotal, (splitPoint?_eq_some_iff.mp hsplit).2]
            exact Nat.le_trans (sub_splitIndex_le htwo) (splitIndex_le htwo hle)

end Traced

/-- Up to 2^63 leaves no halving overflows. -/
theorem climb_ne_overflow {index total : UInt64} {leaf : Digest} {siblings : List Digest}
    (hle : total.toNat ≤ 2 ^ 63) : climb index total leaf siblings ≠ .error .overflow := by
  fun_induction climb index total leaf siblings with
  | case1 siblings index total hout => exact nofun
  | case2 siblings index hempty hout => exact nofun
  | case3 siblings index hmore hout => exact nofun
  | case4 index total hout hone => exact nofun
  | case5 index total hout hone sibling rest hfull =>
      exact absurd (splitPoint?_eq_none_iff.mp hfull) (Nat.not_lt.mpr hle)
  | case6 index total hout hone sibling rest split hsplit hleft ih =>
      have hlt := splitIndex_lt (two_le_of_not_ge hout hone)
      have hplace := (splitPoint?_eq_some_iff.mp hsplit).2
      exact mt map_eq_error_iff.mp (ih (by omega))
  | case7 index total hout hone sibling rest split hsplit hright ih =>
      have hfit : split ≤ total :=
        UInt64.le_trans (UInt64.not_lt.mp hright) (UInt64.le_of_lt (UInt64.not_le.mp hout))
      have hrest := UInt64.toNat_sub_of_le _ _ hfit
      exact mt map_eq_error_iff.mp (ih (by omega))

/-- The descent overflows exactly at a place among more than 2^63 leaves that has a
sibling. -/
theorem climb_eq_overflow_iff {index total : UInt64} {leaf : Digest} {siblings : List Digest} :
    climb index total leaf siblings = .error .overflow ↔
      2 ^ 63 < total.toNat ∧ index < total ∧ siblings ≠ [] := by
  constructor
  · intro hoverflow
    refine ⟨Nat.lt_of_not_le fun hle => climb_ne_overflow hle hoverflow, ?_, ?_⟩
    · refine UInt64.not_le.mp fun hout => ?_
      unfold climb at hoverflow
      rw [if_pos hout] at hoverflow
      cases hoverflow
    · rintro rfl
      unfold climb at hoverflow
      split at hoverflow
      · cases hoverflow
      · split at hoverflow <;> cases hoverflow
  · rintro ⟨hlt, hin, hsome⟩
    have hone : total ≠ 1 := by
      rintro rfl
      exact absurd hlt (by decide)
    obtain ⟨sibling, rest, rfl⟩ := List.exists_cons_of_ne_nil hsome
    rw [climb, if_neg (UInt64.not_le.mpr hin), if_neg hone]
    simp only [splitPoint?_eq_none_iff.mpr hlt]

namespace Traced

/-- Above 2^63 leaves the descent ends with its first power of two. -/
theorem trace_climb_of_lt {level : Nat} {index total : UInt64} {leaf sibling : Digest}
    {rest : List Digest} (hlt : 2 ^ 63 < total.toNat) (hin : index < total) :
    (climb level index total leaf (sibling :: rest)).trace
      = [.entered level, .computed (.power total)] := by
  have hone : total ≠ 1 := by
    rintro rfl
    exact absurd hlt (by decide)
  have hfull : (split total).result = .error .overflow := by
    rw [result_split, splitPoint?_eq_none_iff.mpr hlt]
  rw [climb, if_neg (UInt64.not_le.mpr hin), if_neg hone, trace_bind,
    trace_andThen_of_error hfull, trace_split]
  rfl

theorem all_fits_climb {index total : UInt64} {leaf : Digest} {siblings : List Digest}
    (h : ¬(2 ^ 63 < total.toNat ∧ index < total ∧ siblings ≠ [])) :
    (climb 0 index total leaf siblings).All Event.Fits := by
  have hentered : (Event.entered 0).Fits := Nat.zero_lt_succ 63
  rcases Nat.lt_or_ge (2 ^ 63) total.toNat with hlt | hle
  · exact all_climb_of_end hentered fun hin => by_contra fun hsome => h ⟨hlt, hin, hsome⟩
  · have hwithin : (climb 0 index total leaf siblings).All (Within (0 + 63)) :=
      all_within_climb (Nat.le_refl 63) hle
    exact hwithin.mono fun _ => fits_of_within

end Traced

/-! ## Claims -/

/-- A step of a proof claims that its tree has so many leaves. -/
def StepClaims (op : ProofOp) (total : UInt64) : Prop :=
  (∃ path, readStep .inclusion Path.wire op = .ok path ∧ path.total = total)
    ∨ ∃ gap, readStep .exclusion Gap.wire op = .ok gap ∧ gap.total = total

/-- A proof claims a number of leaves in one of its steps. -/
def Claims (proof : Proof) (total : UInt64) : Prop := ∃ op ∈ proof.ops, StepClaims op total

/-- There is room, or else more than 2^63 leaves are claimed, and it is the power of two for
them. -/
def Spares (claims : UInt64 → Prop) (e : Event) : Prop :=
  e.Fits ∨ ∃ total, claims total ∧ 2 ^ 63 < total.toNat ∧ e = .computed (.power total)

namespace Traced

/-- Only claims of too many leaves leave no room, and the result is an overflow exactly if
some operation has none. -/
structure Audited {α ε : Type} (claims : UInt64 → Prop) (overflow : ε)
    (x : Traced (Except ε α)) : Prop where
  spares : x.All (Spares claims)
  overflows : x.result = .error overflow ↔ ∃ o, .computed o ∈ x.trace ∧ ¬o.Fits

section Audits

variable {α β ε : Type} {claims : UInt64 → Prop} {overflow : ε}

theorem audited_of_fits {x : Traced (Except ε α)} (hfits : x.All Event.Fits)
    (hresult : x.result ≠ .error overflow) : x.Audited claims overflow where
  spares := hfits.mono fun _ he => .inl he
  overflows := by
    refine iff_of_false hresult ?_
    rintro ⟨o, ho, hroom⟩
    exact hroom (hfits _ ho)

theorem audited_pure {result : Except ε α} (h : result ≠ .error overflow) :
    (pure result : Traced (Except ε α)).Audited claims overflow :=
  audited_of_fits (all_pure _) h

theorem exists_append_iff {front back : List Event}
    (h : ∀ o, .computed o ∈ front → o.Fits) :
    (∃ o, .computed o ∈ front ++ back ∧ ¬o.Fits) ↔ ∃ o, .computed o ∈ back ∧ ¬o.Fits := by
  refine exists_congr fun o => and_congr_left fun hroom => ?_
  rw [List.mem_append]
  exact ⟨fun ho => ho.resolve_left fun ho => hroom (h o ho), .inr⟩

theorem Audited.bind {x : Traced β} {f : β → Traced (Except ε α)} (hx : x.All Event.Fits)
    (hf : (f x.result).Audited claims overflow) : (x >>= f).Audited claims overflow where
  spares := All.bind (hx.mono fun _ he => .inl he) hf.spares
  overflows := by
    rw [result_bind, hf.overflows, trace_bind]
    exact (exists_append_iff fun o ho => hx _ ho).symm

theorem Audited.andThen {x : Traced (Except ε α)} {f : α → Traced (Except ε β)}
    (hx : x.Audited claims overflow) (hf : ∀ a, (f a).Audited claims overflow) :
    (x.andThen f).Audited claims overflow where
  spares := hx.spares.andThen fun a _ => (hf a).spares
  overflows := by
    have hexact := hx.overflows
    cases hresult : x.result with
    | error e =>
        have hend : (x.andThen f).result = .error e := by
          rw [result_andThen, hresult]
          rfl
        rw [trace_andThen_of_error hresult, ← hexact, hend, hresult]
        exact ⟨fun h => congrArg _ (Except.error.inj h), fun h => congrArg _ (Except.error.inj h)⟩
    | ok a =>
        rw [hresult] at hexact
        have hfits : ∀ o, .computed o ∈ x.trace → o.Fits :=
          fun o ho => by_contra fun hroom => nomatch hexact.mpr ⟨o, ho, hroom⟩
        rw [Traced.andThen, result_bind, trace_bind, hresult]
        exact (hf a).overflows.trans (exists_append_iff hfits).symm

end Audits

/-! ## The verifier -/

section Verifier

variable {claims : UInt64 → Prop}

theorem audited_climb {index total : UInt64} {leaf : Digest} {siblings : List Digest}
    (hclaims : claims total) :
    (climb 0 index total leaf siblings).Audited claims .overflow := by
  by_cases hlarge : 2 ^ 63 < total.toNat ∧ index < total ∧ siblings ≠ []
  · have hoverflow : Merkle.climb index total leaf siblings = .error .overflow :=
      climb_eq_overflow_iff.mpr hlarge
    obtain ⟨hlt, hin, hsome⟩ := hlarge
    obtain ⟨sibling, rest, rfl⟩ := List.exists_cons_of_ne_nil hsome
    have htrace := @trace_climb_of_lt 0 index total leaf sibling rest hlt hin
    refine ⟨fun e he => ?_, ?_⟩
    · rw [htrace] at he
      rcases List.mem_pair.mp he with rfl | rfl
      · exact .inl (Nat.zero_lt_succ 63)
      · exact .inr ⟨total, hclaims, hlt, rfl⟩
    · rw [result_climb, htrace]
      refine iff_of_true hoverflow ⟨.power total, List.mem_cons_of_mem _ List.mem_cons_self, ?_⟩
      exact fun hfits => Nat.not_lt.mpr (Operation.fits_power_iff.mp hfits) hlt
  · refine audited_of_fits (all_fits_climb hlarge) ?_
    rw [result_climb]
    exact fun hoverflow => hlarge (climb_eq_overflow_iff.mp hoverflow)

theorem all_fits_follows (first second : UInt64) : (follows first second).All Event.Fits := by
  unfold follows
  split
  · next hroom =>
      have hfits : (Operation.plus first 1).Fits := Operation.fits_plus_iff.mpr hroom
      exact (all_of_trace rfl hfits).bind (all_pure _)
  · exact all_pure _

/-- An overflow is one in the words of a proof, and no other fault is. -/
theorem refusal_eq_overflow_iff {fault : PathFault} :
    fault.refusal = .overflow ↔ fault = .overflow := by
  cases fault <;> decide

theorem audited_pathRoot {path : Path} {leaf : Digest} (hclaims : claims path.total) :
    (pathRoot path leaf).Audited claims .overflow := by
  have hclimb : (climb 0 path.index path.total leaf path.aunts.reverse).Audited claims .overflow :=
    audited_climb hclaims
  refine ⟨hclimb.spares.bind (all_pure _), ?_⟩
  rw [pathRoot, result_bind, trace_bind, trace_pure, List.append_nil, ← hclimb.overflows,
    result_pure, mapError_eq_error_iff]
  simp only [refusal_eq_overflow_iff, exists_eq_right]

theorem audited_neighbourRoot {total : UInt64} {n : Neighbour} (hclaims : claims total) :
    (neighbourRoot total n).Audited claims .overflow := by
  unfold neighbourRoot
  split
  · exact audited_pure nofun
  · next hsame => exact audited_pathRoot (not_not.mp hsame ▸ hclaims)

theorem audited_gapRoot {gap : Gap} {key : Bytes} (hclaims : claims gap.total) :
    (gapRoot gap key).Audited claims .overflow := by
  unfold gapRoot
  split
  · exact audited_pure (by split <;> exact nofun)
  · split
    · exact audited_pure nofun
    · refine .bind (all_fits_follows _ _) ?_
      split
      · exact audited_pure nofun
      · exact audited_neighbourRoot hclaims
  · split
    · exact audited_pure nofun
    · split
      · exact audited_pure nofun
      · exact audited_neighbourRoot hclaims
  · split
    · exact audited_pure nofun
    · refine .bind (all_fits_follows _ _) ?_
      split
      · exact audited_pure nofun
      · exact (audited_neighbourRoot hclaims).andThen fun root =>
          (audited_neighbourRoot hclaims).andThen fun other =>
            audited_pure (by split <;> exact nofun)

theorem error_ne_overflow_of_readStep {α : Type} {kind : StepKind} {wire : Json.Format α}
    {op : ProofOp} {refusal : Refusal} (h : readStep kind wire op = .error refusal) :
    (.error refusal : Except Refusal Digest) ≠ .error .overflow := by
  rintro ⟨⟩
  unfold readStep at h
  split at h
  · cases h
  · split at h <;> cases h

theorem audited_runInclusion {op : ProofOp} {value : Bytes}
    (hop : ∀ total, StepClaims op total → claims total) :
    (runInclusion op value).Audited claims .overflow := by
  unfold runInclusion
  split
  · next hread => exact audited_pure (error_ne_overflow_of_readStep hread)
  · next path hread => exact audited_pathRoot (hop _ (.inl ⟨path, hread, rfl⟩))

theorem audited_runExclusion {op : ProofOp}
    (hop : ∀ total, StepClaims op total → claims total) :
    (runExclusion op).Audited claims .overflow := by
  unfold runExclusion
  split
  · next hread => exact audited_pure (error_ne_overflow_of_readStep hread)
  · next gap hread => exact audited_gapRoot (hop _ (.inr ⟨gap, hread, rfl⟩))

theorem audited_runFirst {op : ProofOp} {value : Option Bytes}
    (hop : ∀ total, StepClaims op total → claims total) :
    (runFirst op value).Audited claims .overflow := by
  cases value with
  | none => exact audited_runExclusion hop
  | some value => exact audited_runInclusion hop

theorem audited_runOuter {root : Digest} {outer : List ProofOp}
    (houter : ∀ op ∈ outer, ∀ total, StepClaims op total → claims total) :
    (runOuter root outer).Audited claims .overflow := by
  induction outer generalizing root with
  | nil => exact audited_pure nofun
  | cons op outer ih =>
      obtain ⟨hop, hrest⟩ := List.forall_mem_cons.mp houter
      exact (audited_runInclusion hop).andThen fun next => ih hrest

theorem audited_verify (proof : Proof) (root key : Bytes) (value : Option Bytes) :
    (verify proof root key value).Audited (Claims proof) .overflow := by
  unfold verify
  split
  · exact audited_pure nofun
  · next first outer hops =>
      have hclaims : ∀ op ∈ first :: outer, ∀ total, StepClaims op total → Claims proof total := by
        intro op hop total hclaim
        exact ⟨op, hops ▸ hop, hclaim⟩
      obtain ⟨hfirst, houter⟩ := List.forall_mem_cons.mp hclaims
      split
      · exact audited_pure nofun
      · exact ((audited_runFirst hfirst).andThen fun start => audited_runOuter houter).andThen
          fun reached => audited_pure (by split <;> exact nofun)

end Verifier

end Traced

/-- **The verifier's arithmetic has room**, whatever a proof claims, but for the power of two
above 2^63, and it descends at most 64 levels, whatever siblings there are.  The check comes
to an overflow exactly if that power of two is taken. -/
theorem arithmetic_has_room (proof : Proof) (root key : Bytes) (value : Option Bytes) :
    (Traced.verify proof root key value).result = verify proof root key value
      ∧ (∀ e ∈ (Traced.verify proof root key value).trace,
          e.Fits ∨ ∃ total, Claims proof total ∧ 2 ^ 63 < total.toNat
            ∧ e = .computed (.power total))
      ∧ (verify proof root key value = .error .overflow ↔
          ∃ o, .computed o ∈ (Traced.verify proof root key value).trace ∧ ¬o.Fits) := by
  have haudited := Traced.audited_verify proof root key value
  have hresult := Traced.result_verify proof root key value
  exact ⟨hresult, haudited.spares, hresult ▸ haudited.overflows⟩

/-! ## A path in a tree above 2^63 -/

namespace Traced

theorem trace_pathRoot (path : Path) (leaf : Digest) :
    (pathRoot path leaf).trace
      = (climb 0 path.index path.total leaf path.aunts.reverse).trace := by
  rw [pathRoot, trace_bind, trace_pure, List.append_nil]

/-- The trace of a proof of one path is that of a descent. -/
theorem trace_verify_inclusion (path : Path) (root key value : Bytes) :
    (verify ⟨[⟨StepKind.inclusion.name, key, Path.wire.encode path⟩]⟩ root key (some value)).trace
      = (climb 0 path.index path.total (leafHash key value) path.aunts.reverse).trace := by
  have hread := readStep_encode Path.lawful_wire .inclusion key path
  rw [verify]
  dsimp only
  rw [if_neg (not_not.mpr rfl), trace_andThen_of_pure fun _ => rfl,
    trace_andThen_of_pure fun _ => rfl, runFirst, runInclusion, hread]
  exact trace_pathRoot path _

end Traced

/-- The last of 2^63 + 1 leaves, with the root of all others beside it.  The root of both is
that of a tree which splits at 2^63, but the power of two that is halved for it has no room,
and the check panics. -/
theorem last_of_more_overflows :
    let path : Path := ⟨0x8000000000000000, 0x8000000000000001, [emptyRoot]⟩
    let proof : Proof := ⟨[⟨StepKind.inclusion.name, [97], Path.wire.encode path⟩]⟩
    let root := (innerHash emptyRoot (leafHash [97] [98])).bytes
    .computed (.power 0x8000000000000001) ∈ (Traced.verify proof root [97] (some [98])).trace
      ∧ ¬(Event.computed (.power 0x8000000000000001)).Fits
      ∧ verify proof root [97] (some [98]) = .error .overflow := by
  intro path proof root
  have hlt : 2 ^ 63 < path.total.toNat := by
    change 2 ^ 63 < (0x8000000000000001 : UInt64).toNat
    decide
  have hin : path.index < path.total := by
    change (0x8000000000000000 : UInt64) < 0x8000000000000001
    decide
  have hfull : ¬(Operation.power 0x8000000000000001).Fits := fun hfits =>
    absurd (Operation.fits_power_iff.mp hfits) (by decide)
  have htaken : .computed (.power 0x8000000000000001)
      ∈ (Traced.verify proof root [97] (some [98])).trace := by
    rw [Traced.trace_verify_inclusion, List.reverse_singleton, Traced.trace_climb_of_lt hlt hin]
    exact List.mem_cons_of_mem _ List.mem_cons_self
  have hoverflows := (Traced.audited_verify proof root [97] (some [98])).overflows
  rw [Traced.result_verify] at hoverflows
  exact ⟨htaken, hfull, hoverflows.mpr ⟨_, htaken, hfull⟩⟩

end ChainHost.Merkle
