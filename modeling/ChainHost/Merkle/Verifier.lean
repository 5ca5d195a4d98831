/-
  Checking proofs against a root.

  The first step speaks about the queried key.  Every further step shows the
  root reached so far as a value under its own key, which is how the root of a
  store stands inside an outer tree.
-/
import ChainHost.Merkle.Evidence

set_option autoImplicit false

namespace ChainHost.Merkle

/-- What is wrong with the entries around a missing key. -/
inductive GapFault where
  | foreignNeighbour
  | noNeighbours
  | leftNotBefore
  | leftNotLast
  | rightNotAfter
  | rightNotFirst
  | notAround
  | notAdjacent
  | differentRoots
  deriving DecidableEq, Repr

/-- The words for a fault of a gap. -/
def GapFault.message : GapFault → String
  | foreignNeighbour => "neighbour from a different tree"
  | noNeighbours => "no neighbours in a non-empty tree"
  | leftNotBefore => "left neighbour does not precede key"
  | leftNotLast => "left neighbour is not the last leaf"
  | rightNotAfter => "right neighbour does not follow key"
  | rightNotFirst => "right neighbour is not the first leaf"
  | notAround => "neighbours do not bracket key"
  | notAdjacent => "neighbours are not adjacent"
  | differentRoots => "neighbours disagree on the root"

/-- Why a proof is not accepted. -/
inductive Refusal where
  | empty
  | otherKey
  | unexpectedStep (expected : StepKind) (found : String)
  /-- The data of a step cannot be read. -/
  | malformedStep (opType : String)
  | badPath
  | badGap (fault : GapFault)
  | otherRoot
  /-- The check panicked over a number of leaves, and gave no answer. -/
  | overflow
  deriving DecidableEq, Repr

/-- The words for a refusal; what the reader of a malformed step met is left
out. -/
def Refusal.message : Refusal → String
  | empty => "proof contains no ops"
  | otherKey => "proof is for a different key"
  | unexpectedStep expected found =>
      "expected a " ++ expected.name ++ " op, found '" ++ found ++ "'"
  | malformedStep opType => "malformed " ++ opType ++ " op"
  | badPath => "inclusion path does not fit its leaf position"
  | badGap fault => "invalid exclusion proof: " ++ fault.message
  | otherRoot => "proof does not match the committed root"
  | overflow => "attempt to add with overflow"

/-- Reads the data of a step of a kind. -/
def readStep {α : Type} (kind : StepKind) (wire : Json.Format α) (op : ProofOp) :
    Except Refusal α :=
  if op.opType ≠ kind.name then .error (.unexpectedStep kind op.opType)
  else
    match wire.decode? op.data with
    | some value => .ok value
    | none => .error (.malformedStep op.opType)

/-- What a fault of a path is to the proof. -/
def PathFault.refusal : PathFault → Refusal
  | misfit => .badPath
  | overflow => .overflow

/-- The root that a leaf reaches on its path. -/
def pathRoot (path : Path) (leaf : Digest) : Except Refusal Digest :=
  (path.root leaf).mapError PathFault.refusal

/-- The root of a step that shows a value under its key. -/
def runInclusion (op : ProofOp) (value : Bytes) : Except Refusal Digest :=
  match readStep .inclusion Path.wire op with
  | .error refusal => .error refusal
  | .ok path => pathRoot path (leafHash op.key value)

/-- The root of a neighbour in a tree of so many leaves. -/
def neighbourRoot (total : UInt64) (n : Neighbour) : Except Refusal Digest :=
  if n.path.total ≠ total then .error (.badGap .foreignNeighbour)
  else pathRoot n.path (leafHash n.key n.value)

/-- Whether `second` is the place right after `first`; no place follows the
last one. -/
def follows (first second : UInt64) : Bool := first.toNat + 1 = second.toNat

/-- The root of a gap around a key. -/
def gapRoot (gap : Gap) (key : Bytes) : Except Refusal Digest :=
  match gap.left, gap.right with
  | none, none => if gap.total = 0 then .ok emptyRoot else .error (.badGap .noNeighbours)
  | some left, none =>
      if compare left.key key ≠ .lt then .error (.badGap .leftNotBefore)
      else if !follows left.path.index gap.total then .error (.badGap .leftNotLast)
      else neighbourRoot gap.total left
  | none, some right =>
      if compare right.key key ≠ .gt then .error (.badGap .rightNotAfter)
      else if right.path.index ≠ 0 then .error (.badGap .rightNotFirst)
      else neighbourRoot gap.total right
  | some left, some right =>
      if compare left.key key ≠ .lt ∨ compare right.key key ≠ .gt then .error (.badGap .notAround)
      else if !follows left.path.index right.path.index then .error (.badGap .notAdjacent)
      else
        match neighbourRoot gap.total left with
        | .error refusal => .error refusal
        | .ok root =>
            match neighbourRoot gap.total right with
            | .error refusal => .error refusal
            | .ok other =>
                if other ≠ root then .error (.badGap .differentRoots) else .ok root

/-- The root of a step that shows its key to be missing. -/
def runExclusion (op : ProofOp) : Except Refusal Digest :=
  match readStep .exclusion Gap.wire op with
  | .error refusal => .error refusal
  | .ok gap => gapRoot gap op.key

/-- The root that the first step reaches. -/
def runFirst (op : ProofOp) (value : Option Bytes) : Except Refusal Digest :=
  match value with
  | some value => runInclusion op value
  | none => runExclusion op

/-- The root that further steps reach from one. -/
def runOuter (root : Digest) (outer : List ProofOp) : Except Refusal Digest :=
  outer.foldlM (fun root op => runInclusion op root.bytes) root

/-- Checks that a proof shows a value under a key, or its absence, in the tree
of a root. -/
def verify (proof : Proof) (root key : Bytes) (value : Option Bytes) : Except Refusal Unit :=
  match proof.ops with
  | [] => .error .empty
  | first :: outer =>
      if first.key ≠ key then .error .otherKey
      else
        match (runFirst first value).bind fun start => runOuter start outer with
        | .error refusal => .error refusal
        | .ok reached => if reached.bytes = root then .ok () else .error .otherRoot

end ChainHost.Merkle
