/-
  Frames: payloads behind their lengths.

  A stream that ends between two frames is closed; one that ends anywhere else
  is truncated.  The buffer for a payload is made once its length is known, in
  front of its first byte.
-/
import ChainHost.Frame.Length
import ChainHost.Frame.Feed

set_option autoImplicit false

namespace ChainHost.Frame

/-- A payload behind its length. -/
def write (payload : Bytes) : Bytes := Length.encode payload.length ++ payload

/-- The limit on a payload when none is set. -/
def defaultLimit : Nat := 16 * 1024 * 1024

/-- Why no frame could be read. -/
inductive Fault where
  /-- The announced payload is above the limit. -/
  | tooLarge (size : UInt64) (limit : Nat)
  | malformedLength
  /-- The stream ended inside a frame. -/
  | truncated
  /-- The stream broke. -/
  | unreadable (reason : String)
  deriving DecidableEq, Repr

/-- The words for a fault. -/
def Fault.message : Fault → String
  | tooLarge size limit =>
      "frame of " ++ toString size.toNat ++ " bytes exceeds the " ++ toString limit
        ++ " byte limit"
  | malformedLength => "frame length prefix is malformed"
  | truncated => "stream ended inside a frame"
  | unreadable reason => "failed to read frame: " ++ reason

/-- The most bytes that a buffer holds.  Up to it, memory is taken to suffice. -/
def maxBuffer : Nat := 2 ^ 63 - 1

/-- What a reader finds. -/
inductive Outcome where
  | frame (payload : Bytes)
  /-- The stream was closed between two frames. -/
  | ended
  | fault (fault : Fault)
  /-- The announced payload is within the limit, but above what a buffer holds.
  The reader panicked over it. -/
  | panicked
  deriving DecidableEq, Repr

/-- The fault of a feed that ran out inside a frame. -/
def Ending.fault : Ending → Fault
  | closed => .truncated
  | failed reason => .unreadable reason

/-- Reads a prefix from a place on: the length, or the outcome without one. -/
def readLength (ending : Ending) (place : Nat) (value : UInt64) (feed : List Delivery) :
    Except Outcome UInt64 × List Delivery :=
  match _h : Feed.takeByte feed with
  | none =>
      match ending with
      | .closed => (.error (if place = 0 then .ended else .fault .truncated), [])
      | .failed reason => (.error (.fault (.unreadable reason)), [])
  | some (b, rest) =>
      match Length.step place value b with
      | .complete length => (.ok length, rest)
      | .malformed => (.error (.fault .malformedLength), rest)
      | .more value => readLength ending (place + 1) value rest
termination_by (feed.flatMap Feed.Delivery.bytes).length
decreasing_by
  rw [Feed.takeByte_content _h]
  simp

/-- Reads the next frame and leaves the feed behind what it consumed. -/
def read (limit : Nat) (feed : Feed) : Outcome × Feed :=
  match readLength feed.ending 0 0 feed.deliveries with
  | (.error outcome, rest) => (outcome, { feed with deliveries := rest })
  | (.ok size, rest) =>
      if size.toNat > limit then (.fault (.tooLarge size limit), { feed with deliveries := rest })
      else if size.toNat > maxBuffer then (.panicked, { feed with deliveries := rest })
      else
        let (payload, rest) := Feed.takeBytes size.toNat rest
        let feed := { feed with deliveries := rest }
        if payload.length < size.toNat then (.fault feed.ending.fault, feed)
        else (.frame payload, feed)

/-- Reading a length never yields a frame. -/
theorem readLength_ne_frame (ending : Ending) (place : Nat) (value : UInt64)
    (feed rest : List Delivery) (payload : Bytes) :
    readLength ending place value feed ≠ (.error (.frame payload), rest) := by
  fun_induction readLength ending place value feed with
  | case1 => split <;> simp
  | case2 => simp
  | case3 => simp
  | case4 => simp
  | case5 _ _ _ _ _ _ _ _ ih => exact ih

/-- A length that was read took at least one byte. -/
theorem length_content_readLength {ending : Ending} {place : Nat} {value size : UInt64}
    {feed rest : List Delivery} (h : readLength ending place value feed = (.ok size, rest)) :
    (rest.flatMap Feed.Delivery.bytes).length < (feed.flatMap Feed.Delivery.bytes).length := by
  fun_induction readLength ending place value feed with
  | case1 => simp at h
  | case2 => simp at h
  | case3 _ _ feed b rest' htake length hstep =>
      obtain ⟨-, rfl⟩ := Prod.mk.inj h
      rw [Feed.takeByte_content htake]
      simp
  | case4 => simp at h
  | case5 _ _ feed b rest' htake value' hstep ih =>
      have := ih h
      rw [Feed.takeByte_content htake]
      simp only [List.length_cons]
      omega

/-- A frame that was read took at least one byte. -/
theorem length_content_read {limit : Nat} {feed rest : Feed} {payload : Bytes}
    (h : read limit feed = (.frame payload, rest)) :
    rest.content.length < feed.content.length := by
  unfold read at h
  split at h
  · next outcome _ hlen =>
      obtain ⟨rfl, -⟩ := Prod.mk.inj h
      exact (readLength_ne_frame _ _ _ _ _ _ hlen).elim
  · next size ds hlen =>
      have hlt := length_content_readLength hlen
      split at h
      · simp at h
      · split at h
        · simp at h
        · simp only at h
          split at h
          · simp at h
          · obtain ⟨-, rfl⟩ := Prod.mk.inj h
            simp only [Feed.content]
            rw [Feed.takeBytes_snd]
            simp only [List.length_drop]
            omega

/-- Reads so many times, whatever comes out. -/
def readMany (limit : Nat) : Nat → Feed → List Outcome × Feed
  | 0, feed => ([], feed)
  | n + 1, feed =>
      let (outcome, feed) := read limit feed
      let (more, feed) := readMany limit n feed
      (outcome :: more, feed)

end ChainHost.Frame
