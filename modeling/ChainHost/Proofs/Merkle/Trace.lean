/-
  The verifier with a trace of its arithmetic.

  All numbers of a proof come from whoever shows it.  The functions here do what those of
  the verifier do and list, besides, each operation by which they compute with such numbers,
  and each call of the descent with its level.  An operation without room for what comes
  out ends the check.  `result_verify` and its neighbours say that nothing else is different,
  so that the trace is one of the verifier itself.
-/
import ChainHost.Proofs.Merkle.Soundness

set_option autoImplicit false

namespace ChainHost.Merkle

/-- An operation on the numbers of a proof. -/
inductive Operation where
  /-- The least power of two that is not below a number. -/
  | power (total : UInt64)
  | minus (a b : UInt64)
  | plus (a b : UInt64)
  deriving DecidableEq, Repr

/-- What ought to come out. -/
def Operation.exact : Operation → Int
  | .power total => powerAbove total.toNat
  | .minus a b => a.toNat - b.toNat
  | .plus a b => a.toNat + b.toNat

/-- There is room in a word for what ought to come out. -/
def Operation.Fits (o : Operation) : Prop := 0 ≤ o.exact ∧ o.exact < 2 ^ 64

instance (o : Operation) : Decidable o.Fits := inferInstanceAs (Decidable (_ ∧ _))

namespace Operation

theorem fits_power_iff {total : UInt64} : (power total).Fits ↔ total.toNat ≤ 2 ^ 63 := by
  rw [← powerAbove_lt_iff]
  simp only [Fits, exact]
  omega

theorem fits_minus_iff {a b : UInt64} : (minus a b).Fits ↔ b ≤ a := by
  have hlt := a.toNat_lt
  simp only [Fits, exact, UInt64.le_iff_toNat_le]
  omega

theorem fits_plus_iff {a b : UInt64} : (plus a b).Fits ↔ a.toNat + b.toNat < 2 ^ 64 := by
  simp only [Fits, exact]
  omega

end Operation

/-- What a verifier does on the way. -/
inductive Event where
  /-- The descent is called, so many levels below the root. -/
  | entered (level : Nat)
  | computed (o : Operation)
  deriving DecidableEq, Repr

/-- A result with the events that led to it. -/
structure Traced (α : Type) where
  result : α
  trace : List Event := []

namespace Traced

variable {α β ε : Type}

instance : Monad Traced where
  pure result := ⟨result, []⟩
  bind x f := ⟨(f x.result).result, x.trace ++ (f x.result).trace⟩

/-- Goes on with a result, unless it is an error. -/
def andThen (x : Traced (Except ε α)) (f : α → Traced (Except ε β)) : Traced (Except ε β) := do
  match ← x with
  | .error e => pure (.error e)
  | .ok a => f a

@[simp]
theorem result_pure (a : α) : (pure a : Traced α).result = a := rfl

@[simp]
theorem result_bind (x : Traced α) (f : α → Traced β) :
    (x >>= f).result = (f x.result).result := rfl

@[simp]
theorem trace_pure (a : α) : (pure a : Traced α).trace = [] := rfl

@[simp]
theorem trace_bind (x : Traced α) (f : α → Traced β) :
    (x >>= f).trace = x.trace ++ (f x.result).trace := rfl

@[simp]
theorem result_andThen (x : Traced (Except ε α)) (f : α → Traced (Except ε β)) :
    (x.andThen f).result = x.result.bind fun a => (f a).result := by
  rw [andThen, result_bind]
  cases x.result <;> rfl

theorem trace_andThen_of_pure {x : Traced (Except ε α)} {f : α → Traced (Except ε β)}
    (h : ∀ a, (f a).trace = []) : (x.andThen f).trace = x.trace := by
  rw [andThen, trace_bind]
  cases x.result with
  | error e => exact List.append_nil _
  | ok a =>
      dsimp only
      rw [h, List.append_nil]

theorem trace_andThen_of_error {x : Traced (Except ε α)} {f : α → Traced (Except ε β)} {e : ε}
    (h : x.result = .error e) : (x.andThen f).trace = x.trace := by
  rw [andThen, trace_bind, h]
  exact List.append_nil _

/-! ## Events -/

def enter (level : Nat) : Traced Unit := ⟨(), [.entered level]⟩

/-- Computes what there is room for. -/
def perform (o : Operation) : Traced (Except PathFault UInt64) :=
  ⟨if o.Fits then .ok (UInt64.ofNat o.exact.toNat) else .error .overflow, [.computed o]⟩

@[simp]
theorem trace_perform (o : Operation) : (perform o).trace = [.computed o] := rfl

theorem result_minus {a b : UInt64} (h : b ≤ a) :
    (perform (.minus a b)).result = .ok (a - b) := by
  have hexact : (Operation.minus a b).exact.toNat = (a - b).toNat := by
    rw [UInt64.toNat_sub_of_le _ _ h, Operation.exact, Int.toNat_sub]
  rw [perform, if_pos (Operation.fits_minus_iff.mpr h), hexact, UInt64.ofNat_toNat]

theorem result_plus {a b : UInt64} (h : a.toNat + b.toNat < 2 ^ 64) :
    (perform (.plus a b)).result = .ok (a + b) := by
  have hexact : (Operation.plus a b).exact.toNat = (a + b).toNat := by
    rw [UInt64.toNat_add, Nat.mod_eq_of_lt h, Operation.exact]
    omega
  rw [perform, if_pos (Operation.fits_plus_iff.mpr h), hexact, UInt64.ofNat_toNat]

/-- Where a tree of so many leaves splits. -/
def split (total : UInt64) : Traced (Except PathFault UInt64) :=
  (perform (.power total)).andThen fun above => pure (.ok (above >>> 1))

theorem result_split (total : UInt64) :
    (split total).result
      = match splitPoint? total with
        | none => .error .overflow
        | some split => .ok split := by
  have hfits : (Operation.power total).Fits ↔ powerAbove total.toNat < 2 ^ 64 :=
    Operation.fits_power_iff.trans powerAbove_lt_iff.symm
  rw [split, result_andThen, perform, splitPoint?]
  by_cases hroom : powerAbove total.toNat < 2 ^ 64
  · rw [if_pos (hfits.mpr hroom), if_pos hroom, Operation.exact, Int.toNat_natCast]
    rfl
  · rw [if_neg (mt hfits.mp hroom), if_neg hroom]
    rfl

@[simp]
theorem trace_split (total : UInt64) : (split total).trace = [.computed (.power total)] := by
  rw [split, trace_andThen_of_pure fun _ => trace_pure _, trace_perform]

/-- One is added only to a number that leaves room for it. -/
def follows (first second : UInt64) : Traced Bool :=
  if first.toNat + 1 < 2 ^ 64 then do
    let next ← perform (.plus first 1)
    pure (next.toOption = some second)
  else pure false

theorem result_follows (first second : UInt64) :
    (follows first second).result = Merkle.follows first second := by
  have hbound := second.toNat_lt
  unfold follows Merkle.follows
  split
  · next hroom =>
      have hsum : (first + 1).toNat = first.toNat + 1 := by
        rw [UInt64.toNat_add]
        exact Nat.mod_eq_of_lt hroom
      rw [result_bind, result_plus hroom, ← hsum]
      exact decide_eq_decide.mpr (Option.some_inj.trans UInt64.toNat_inj.symm)
  · next hfull =>
      have hne : ¬first.toNat + 1 = second.toNat := by omega
      exact (decide_eq_false hne).symm

/-! ## The verifier -/

def climb (level : Nat) (index total : UInt64) (leaf : Digest) (siblings : List Digest) :
    Traced (Except PathFault Digest) := do
  enter level
  if index ≥ total then pure (.error .misfit)
  else if total = 1 then pure (if siblings.isEmpty then .ok leaf else .error .misfit)
  else
    match siblings with
    | [] => pure (.error .misfit)
    | sibling :: rest =>
        (split total).andThen fun split =>
          if index < split then
            (climb (level + 1) index split leaf rest).andThen fun left =>
              pure (.ok (innerHash left sibling))
          else
            (perform (.minus index split)).andThen fun place =>
              (perform (.minus total split)).andThen fun others =>
                (climb (level + 1) place others leaf rest).andThen fun right =>
                  pure (.ok (innerHash sibling right))

def pathRoot (path : Path) (leaf : Digest) : Traced (Except Refusal Digest) := do
  let root ← climb 0 path.index path.total leaf path.aunts.reverse
  pure (root.mapError PathFault.refusal)

def runInclusion (op : ProofOp) (value : Bytes) : Traced (Except Refusal Digest) :=
  match readStep .inclusion Path.wire op with
  | .error refusal => pure (.error refusal)
  | .ok path => pathRoot path (leafHash op.key value)

def neighbourRoot (total : UInt64) (n : Neighbour) : Traced (Except Refusal Digest) :=
  if n.path.total ≠ total then pure (.error (.badGap .foreignNeighbour))
  else pathRoot n.path (leafHash n.key n.value)

def gapRoot (gap : Gap) (key : Bytes) : Traced (Except Refusal Digest) :=
  match gap.left, gap.right with
  | none, none => pure (if gap.total = 0 then .ok emptyRoot else .error (.badGap .noNeighbours))
  | some left, none =>
      if compare left.key key ≠ .lt then pure (.error (.badGap .leftNotBefore))
      else do
        if !(← follows left.path.index gap.total) then pure (.error (.badGap .leftNotLast))
        else neighbourRoot gap.total left
  | none, some right =>
      if compare right.key key ≠ .gt then pure (.error (.badGap .rightNotAfter))
      else if right.path.index ≠ 0 then pure (.error (.badGap .rightNotFirst))
      else neighbourRoot gap.total right
  | some left, some right =>
      if compare left.key key ≠ .lt ∨ compare right.key key ≠ .gt then
        pure (.error (.badGap .notAround))
      else do
        if !(← follows left.path.index right.path.index) then
          pure (.error (.badGap .notAdjacent))
        else
          (neighbourRoot gap.total left).andThen fun root =>
            (neighbourRoot gap.total right).andThen fun other =>
              pure (if other ≠ root then .error (.badGap .differentRoots) else .ok root)

def runExclusion (op : ProofOp) : Traced (Except Refusal Digest) :=
  match readStep .exclusion Gap.wire op with
  | .error refusal => pure (.error refusal)
  | .ok gap => gapRoot gap op.key

def runFirst (op : ProofOp) (value : Option Bytes) : Traced (Except Refusal Digest) :=
  match value with
  | some value => runInclusion op value
  | none => runExclusion op

def runOuter (root : Digest) : List ProofOp → Traced (Except Refusal Digest)
  | [] => pure (.ok root)
  | op :: outer => (runInclusion op root.bytes).andThen fun next => runOuter next outer

def verify (proof : Proof) (root key : Bytes) (value : Option Bytes) :
    Traced (Except Refusal Unit) :=
  match proof.ops with
  | [] => pure (.error .empty)
  | first :: outer =>
      if first.key ≠ key then pure (.error .otherKey)
      else
        ((runFirst first value).andThen fun start => runOuter start outer).andThen fun reached =>
          pure (if reached.bytes = root then .ok () else .error .otherRoot)

/-! ## Results -/

theorem result_climb (level : Nat) (index total : UInt64) (leaf : Digest)
    (siblings : List Digest) :
    (climb level index total leaf siblings).result = Merkle.climb index total leaf siblings := by
  induction siblings generalizing level index total with
  | nil =>
      unfold climb Merkle.climb
      rw [result_bind]
      split
      · rfl
      · split <;> rfl
  | cons sibling rest ih =>
      unfold climb Merkle.climb
      rw [result_bind]
      split
      · rfl
      · next hout =>
          split
          · rfl
          · next hone =>
              dsimp only
              rw [result_andThen, result_split]
              cases hsplit : splitPoint? total with
              | none => rfl
              | some split =>
                  dsimp only [Except.bind]
                  by_cases hleft : index < split
                  · rw [if_pos hleft, if_pos hleft, result_andThen, ih]
                    exact bind_ok_eq_map ..
                  · have hindex : split ≤ index := UInt64.not_lt.mp hleft
                    have htotal : split ≤ total :=
                      UInt64.le_trans hindex (UInt64.le_of_lt (UInt64.not_le.mp hout))
                    rw [if_neg hleft, if_neg hleft, result_andThen, result_minus hindex]
                    dsimp only [Except.bind]
                    rw [result_andThen, result_minus htotal]
                    dsimp only [Except.bind]
                    rw [result_andThen, ih]
                    exact bind_ok_eq_map ..

theorem result_pathRoot (path : Path) (leaf : Digest) :
    (pathRoot path leaf).result = Merkle.pathRoot path leaf := by
  rw [pathRoot, result_bind, result_climb]
  rfl

theorem result_runInclusion (op : ProofOp) (value : Bytes) :
    (runInclusion op value).result = Merkle.runInclusion op value := by
  rw [runInclusion, Merkle.runInclusion]
  cases readStep .inclusion Path.wire op with
  | error refusal => rfl
  | ok path => exact result_pathRoot path _

theorem result_neighbourRoot (total : UInt64) (n : Neighbour) :
    (neighbourRoot total n).result = Merkle.neighbourRoot total n := by
  unfold neighbourRoot Merkle.neighbourRoot
  split
  · rfl
  · exact result_pathRoot _ _

theorem result_gapRoot (gap : Gap) (key : Bytes) :
    (gapRoot gap key).result = Merkle.gapRoot gap key := by
  obtain ⟨total, left, right⟩ := gap
  unfold gapRoot Merkle.gapRoot
  cases left with
  | none =>
      cases right with
      | none => rfl
      | some right =>
          dsimp only
          split
          · rfl
          · split
            · rfl
            · exact result_neighbourRoot _ _
  | some left =>
      cases right with
      | none =>
          dsimp only
          split
          · rfl
          · rw [result_bind, result_follows]
            split
            · rfl
            · exact result_neighbourRoot _ _
      | some right =>
          dsimp only
          split
          · rfl
          · rw [result_bind, result_follows]
            split
            · rfl
            · simp only [result_andThen, result_neighbourRoot, result_pure]
              cases Merkle.neighbourRoot total left with
              | error refusal => rfl
              | ok root => cases Merkle.neighbourRoot total right <;> rfl

theorem result_runExclusion (op : ProofOp) :
    (runExclusion op).result = Merkle.runExclusion op := by
  rw [runExclusion, Merkle.runExclusion]
  cases readStep .exclusion Gap.wire op with
  | error refusal => rfl
  | ok gap => exact result_gapRoot gap _

theorem result_runFirst (op : ProofOp) (value : Option Bytes) :
    (runFirst op value).result = Merkle.runFirst op value := by
  cases value with
  | none => exact result_runExclusion op
  | some value => exact result_runInclusion op value

theorem result_runOuter (root : Digest) (outer : List ProofOp) :
    (runOuter root outer).result = Merkle.runOuter root outer := by
  induction outer generalizing root with
  | nil => rfl
  | cons op outer ih =>
      rw [runOuter, result_andThen, runOuter_cons, result_runInclusion]
      simp only [ih]

/-- The verifier says the same with a trace. -/
theorem result_verify (proof : Proof) (root key : Bytes) (value : Option Bytes) :
    (verify proof root key value).result = Merkle.verify proof root key value := by
  obtain ⟨ops⟩ := proof
  unfold verify Merkle.verify
  cases ops with
  | nil => rfl
  | cons first outer =>
      dsimp only
      split
      · rfl
      · simp only [result_andThen, result_runFirst, result_runOuter, result_pure]
        cases (Merkle.runFirst first value).bind fun start => Merkle.runOuter start outer <;> rfl

end Traced

end ChainHost.Merkle
