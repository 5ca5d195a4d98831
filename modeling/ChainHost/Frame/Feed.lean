/-
  Byte streams that arrive in pieces.

  A feed hands bytes out read by read, with interruptions in between, and ends
  by being closed or with a fault.  `content` is its view: what it will hand
  out in all.
-/
import ChainHost.Bytes

set_option autoImplicit false

namespace ChainHost.Frame

/-- What one attempt to read finds. -/
inductive Delivery where
  | piece (bytes : Bytes)
  /-- Nothing yet; the attempt is to be repeated. -/
  | interrupted
  deriving DecidableEq, Repr

/-- What comes after the last byte. -/
inductive Ending where
  | closed
  /-- Every further read fails. -/
  | failed (reason : String)
  deriving DecidableEq, Repr

/-- A byte stream that arrives in pieces. -/
structure Feed where
  deliveries : List Delivery
  ending : Ending
  deriving DecidableEq, Repr

namespace Feed

/-- The bytes of a delivery. -/
def Delivery.bytes : Delivery → Bytes
  | .piece bytes => bytes
  | .interrupted => []

/-- All bytes that a feed will hand out. -/
def content (feed : Feed) : Bytes := feed.deliveries.flatMap Delivery.bytes

/-- Takes the next byte out of some deliveries. -/
def takeByte : List Delivery → Option (UInt8 × List Delivery)
  | [] => none
  | .interrupted :: rest => takeByte rest
  | .piece [] :: rest => takeByte rest
  | .piece (b :: bytes) :: rest => some (b, .piece bytes :: rest)

/-- Takes so many bytes out of some deliveries, or all if they are fewer. -/
def takeBytes : Nat → List Delivery → Bytes × List Delivery
  | _, [] => ([], [])
  | n, .interrupted :: rest =>
      if n = 0 then ([], .interrupted :: rest) else takeBytes n rest
  | n, .piece bytes :: rest =>
      if n = 0 then ([], .piece bytes :: rest)
      else if n < bytes.length then (bytes.take n, .piece (bytes.drop n) :: rest)
      else
        let (more, rest) := takeBytes (n - bytes.length) rest
        (bytes ++ more, rest)

theorem takeByte_eq_none {ds : List Delivery} :
    takeByte ds = none ↔ ds.flatMap Delivery.bytes = [] := by
  fun_induction takeByte ds <;> simp_all [Delivery.bytes]

theorem takeByte_content {ds rest : List Delivery} {b : UInt8}
    (h : takeByte ds = some (b, rest)) :
    ds.flatMap Delivery.bytes = b :: rest.flatMap Delivery.bytes := by
  fun_induction takeByte ds <;> simp_all [Delivery.bytes]
  obtain ⟨rfl, rfl⟩ := h
  simp [Delivery.bytes]

theorem takeBytes_fst (n : Nat) (ds : List Delivery) :
    (takeBytes n ds).1 = (ds.flatMap Delivery.bytes).take n := by
  fun_induction takeBytes n ds with
  | case1 => simp
  | case2 => simp
  | case3 n rest _ ih => simpa [Delivery.bytes] using ih
  | case4 => simp
  | case5 n bytes rest h hlt =>
      simp [Delivery.bytes, List.take_append_of_le_length (Nat.le_of_lt hlt)]
  | case6 n bytes rest h hge more rest' _ ih =>
      have : bytes.length ≤ n := by omega
      simp_all [Delivery.bytes, List.take_append, List.take_of_length_le]

theorem takeBytes_snd (n : Nat) (ds : List Delivery) :
    (takeBytes n ds).2.flatMap Delivery.bytes = (ds.flatMap Delivery.bytes).drop n := by
  fun_induction takeBytes n ds with
  | case1 => simp
  | case2 => simp
  | case3 n rest _ ih => simpa [Delivery.bytes] using ih
  | case4 => simp
  | case5 n bytes rest h hlt =>
      simp [Delivery.bytes, List.drop_append_of_le_length (Nat.le_of_lt hlt)]
  | case6 n bytes rest h hge more rest' _ ih =>
      have : bytes.length ≤ n := by omega
      simp_all [Delivery.bytes, List.drop_append, List.drop_of_length_le]

/-- Cuts bytes into pieces of a size; the size zero sets no limit. -/
def pieces (size : Nat) (bytes : Bytes) : List Bytes :=
  match _h : bytes.drop size with
  | [] => [bytes]
  | b :: rest => if _hs : size = 0 then [bytes] else bytes.take size :: pieces size (b :: rest)
termination_by bytes.length
decreasing_by
  have : (b :: rest).length = bytes.length - size := by rw [← _h, List.length_drop]
  simp only [List.length_cons] at this ⊢
  omega

/-- A feed that hands out at most `chunk` bytes at a time (without a limit for
zero), interrupts before every read if asked to, and fails once `failAt` bytes
were handed out. -/
def paced (bytes : Bytes) (chunk : Nat) (interrupt : Bool) (failAt : Option Nat)
    (reason : String) : Feed :=
  let cut := failAt.filter (· ≤ bytes.length)
  let ready := (cut.map bytes.take).getD bytes
  { deliveries := (pieces chunk ready).flatMap fun piece =>
      if interrupt then [.interrupted, .piece piece] else [.piece piece]
    ending := if cut.isSome then .failed reason else .closed }

/-- A feed that hands out all bytes at once and is closed then. -/
def whole (bytes : Bytes) : Feed := ⟨[.piece bytes], .closed⟩

end Feed

end ChainHost.Frame
