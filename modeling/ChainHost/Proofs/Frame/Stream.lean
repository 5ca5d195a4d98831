/-
  Frames in a row.

  Frames are written one behind another, and a reader takes them off one by one.  A stream
  that was cut holds the frames that end before the cut; a cut right behind one of them
  closes the stream, and any other leaves the front of a frame, which is never taken for
  a shorter one: the bytes of a prefix before its last one all go on.
-/
import ChainHost.Proofs.Frame.Classification

set_option autoImplicit false

namespace ChainHost.Frame

/-- The bytes of frames in a row. -/
def writeAll (payloads : List Bytes) : Bytes := payloads.flatMap write

/-- Where so many frames of a row end. -/
def boundary (payloads : List Bytes) (count : Nat) : Nat := (writeAll (payloads.take count)).length

theorem writeAll_cons (payload : Bytes) (payloads : List Bytes) :
    writeAll (payload :: payloads) = write payload ++ writeAll payloads := List.flatMap_cons

theorem boundary_zero (payloads : List Bytes) : boundary payloads 0 = 0 := rfl

theorem boundary_length (payloads : List Bytes) :
    boundary payloads payloads.length = (writeAll payloads).length := by
  rw [boundary, List.take_length]

theorem boundary_succ (payload : Bytes) (payloads : List Bytes) (count : Nat) :
    boundary (payload :: payloads) (count + 1)
      = (write payload).length + boundary payloads count := by
  rw [boundary, List.take_succ_cons, writeAll_cons, List.length_append, boundary]

theorem boundary_le_length (payloads : List Bytes) (count : Nat) :
    boundary payloads count ≤ (writeAll payloads).length := by
  have hsplit : writeAll payloads
      = writeAll (payloads.take count) ++ writeAll (payloads.drop count) := by
    rw [writeAll, writeAll, writeAll, ← List.flatMap_append, List.take_append_drop]
  rw [hsplit, List.length_append, boundary]
  exact Nat.le_add_right _ _

/-! ## One frame -/

/-- What is left of a frame that was cut is no frame. -/
theorem reads_cut {limit : Nat} {payload : Bytes} (hlimit : payload.length ≤ limit)
    (hroom : payload.length ≤ maxBuffer) {cut : Nat} (hsome : 0 < cut)
    (hcut : cut < (write payload).length) :
    Reads limit ((write payload).take cut) (.fault .truncated) [] := by
  have hsaid : Length.Says 0 (Length.encode payload.length) payload.length :=
    Length.says_encode (Nat.zero_le _) (lt_of_le_maxBuffer hroom)
  by_cases hprefix : cut < (Length.encode payload.length).length
  · -- The cut is in front of the last byte of the prefix, and only that one ends it.
    obtain ⟨front, last, hencoded, hfront, -, hshort, -⟩ := hsaid.exists_front
    rw [hencoded, List.length_append, List.length_singleton] at hprefix
    have hwithin : cut ≤ front.length := Nat.le_of_lt_succ hprefix
    have hbytes : (write payload).take cut = front.take cut := by
      rw [write, hencoded, List.append_assoc, List.take_append_of_le_length hwithin]
    rw [hbytes]
    refine .cutLength (fun c hmem => hfront c (List.mem_of_mem_take hmem)) ?_ ?_
    · intro hnone
      have hempty := congrArg List.length hnone
      rw [List.length_take_of_le hwithin, List.length_nil] at hempty
      omega
    · rw [List.length_take_of_le hwithin]
      omega
  · have hbehind : (Length.encode payload.length).length ≤ cut := Nat.le_of_not_lt hprefix
    have hbytes : (write payload).take cut
        = Length.encode payload.length
          ++ payload.take (cut - (Length.encode payload.length).length) := by
      rw [write, List.take_append, List.take_of_length_le hbehind]
    rw [write, List.length_append] at hcut
    rw [hbytes]
    refine .cutPayload hsaid hlimit hroom ?_
    rw [List.length_take]
    omega

/-! ## Rows -/

/-- The first of several reads comes to what the bytes are read as, and the others go on
behind it. -/
theorem readMany_of_reads {limit : Nat} {bytes rest : Bytes} {outcome : Outcome}
    (h : Reads limit bytes outcome rest) {feed : Feed} (hbytes : feed.content = bytes)
    (hclosed : feed.ending = .closed) :
    ∃ next : Feed, next.content = rest ∧ next.ending = .closed
      ∧ ∀ n, (readMany limit (n + 1) feed).1 = outcome :: (readMany limit n next).1 := by
  obtain ⟨houtcome, hrest, hstill⟩ := read_of_reads h hbytes hclosed
  refine ⟨(read limit feed).2, hrest, hstill, fun n => ?_⟩
  rw [readMany, ← houtcome]

theorem readMany_one {limit : Nat} {bytes rest : Bytes} {outcome : Outcome}
    (h : Reads limit bytes outcome rest) {feed : Feed} (hbytes : feed.content = bytes)
    (hclosed : feed.ending = .closed) : (readMany limit 1 feed).1 = [outcome] := by
  obtain ⟨next, -, -, hreads⟩ := readMany_of_reads h hbytes hclosed
  exact hreads 0

/-- A row that was cut is read up to the last frame that is complete. -/
theorem readMany_cut {limit : Nat} {payloads : List Bytes}
    (hfit : ∀ payload ∈ payloads, payload.length ≤ limit)
    (hroom : ∀ payload ∈ payloads, payload.length ≤ maxBuffer) {cut : Nat} {feed : Feed}
    (hbytes : feed.content = (writeAll payloads).take cut) (hclosed : feed.ending = .closed) :
    ∃ count ≤ payloads.length, boundary payloads count ≤ feed.content.length
      ∧ (count < payloads.length → feed.content.length < boundary payloads (count + 1))
      ∧ (readMany limit (count + 1) feed).1
        = (payloads.take count).map .frame
          ++ [if feed.content.length = boundary payloads count then .ended
              else .fault .truncated] := by
  induction payloads generalizing cut feed with
  | nil =>
      have hnone : feed.content = [] := hbytes.trans List.take_nil
      refine ⟨0, Nat.le_refl _, Nat.zero_le _, fun hlt => absurd hlt (Nat.lt_irrefl _), ?_⟩
      rw [readMany_one .ended hnone hclosed, hnone]
      rfl
  | cons payload payloads ih =>
      obtain ⟨hlimit, hfit⟩ := List.forall_mem_cons.mp hfit
      obtain ⟨hbuffer, hroom⟩ := List.forall_mem_cons.mp hroom
      rw [writeAll_cons] at hbytes
      by_cases hwhole : (write payload).length ≤ cut
      · rw [List.take_append, List.take_of_length_le hwhole] at hbytes
        obtain ⟨next, hnext, hstill, hreads⟩ :=
          readMany_of_reads (reads_write hlimit hbuffer _) hbytes hclosed
        obtain ⟨count, hcount, hbound, hlast, hrest⟩ := ih hfit hroom hnext hstill
        have hlength : feed.content.length = (write payload).length + next.content.length := by
          rw [hbytes, hnext, List.length_append]
        refine ⟨count + 1, Nat.succ_le_succ hcount, ?_, fun hlt => ?_, ?_⟩
        · rw [boundary_succ, hlength]
          exact Nat.add_le_add_left hbound _
        · rw [boundary_succ, hlength]
          exact Nat.add_lt_add_left (hlast (Nat.lt_of_succ_lt_succ hlt)) _
        · rw [hreads, hrest, boundary_succ, hlength, List.take_succ_cons, List.map_cons,
            List.cons_append]
          simp only [Nat.add_left_cancel_iff]
      · have hshort : cut < (write payload).length := Nat.lt_of_not_le hwhole
        rw [List.take_append_of_le_length (Nat.le_of_lt hshort)] at hbytes
        have hlength : feed.content.length = cut := by
          rw [hbytes, List.length_take_of_le (Nat.le_of_lt hshort)]
        refine ⟨0, Nat.zero_le _, Nat.zero_le _, fun _ => ?_, ?_⟩
        · rw [boundary_succ, boundary_zero, Nat.add_zero, hlength]
          exact hshort
        · rw [hlength, boundary_zero]
          rcases Nat.eq_zero_or_pos cut with rfl | hsome
          · exact readMany_one .ended hbytes hclosed
          · rw [if_neg (Nat.ne_of_gt hsome)]
            exact readMany_one (reads_cut hlimit hbuffer hsome hshort) hbytes hclosed

/-- **Frames cross a stream.**  However the bytes of frames within the limit arrive, they
are read as those frames in order, and then as the end of the stream.  If the stream is
cut, the frames that are complete are read; then comes the end of the stream, if the cut
is right behind a frame, and a frame that was cut off otherwise.  A payload that is written
lies in a buffer already, and no buffer is longer than `maxBuffer`: `hbuffers` says no more. -/
theorem frames_cross_stream (limit : UInt64) (payloads : List Bytes)
    (hfit : ∀ payload ∈ payloads, payload.length ≤ limit.toNat)
    (hbuffers : ∀ payload ∈ payloads, payload.length ≤ maxBuffer) (deliveries : List Delivery) :
    let feed : Feed := ⟨deliveries, .closed⟩
    (handed deliveries = writeAll payloads →
        (readMany limit.toNat (payloads.length + 1) feed).1 = payloads.map .frame ++ [.ended])
      ∧ ∀ cut, handed deliveries = (writeAll payloads).take cut →
          ∃ count ≤ payloads.length, boundary payloads count ≤ (handed deliveries).length
            ∧ (count < payloads.length →
                (handed deliveries).length < boundary payloads (count + 1))
            ∧ (readMany limit.toNat (count + 1) feed).1
              = (payloads.take count).map .frame
                ++ [if (handed deliveries).length = boundary payloads count then .ended
                    else .fault .truncated] := by
  intro feed
  have hclosed : feed.ending = .closed := rfl
  constructor
  · intro hbytes
    have hall : feed.content = (writeAll payloads).take (writeAll payloads).length := by
      rw [List.take_length]
      exact hbytes
    obtain ⟨count, hcount, -, hlast, hreads⟩ := readMany_cut hfit hbuffers hall hclosed
    have hcontent : feed.content = writeAll payloads := hbytes
    have hevery : count = payloads.length := by
      refine Nat.le_antisymm hcount (Nat.le_of_not_lt fun hlt => ?_)
      have hbehind := hlast hlt
      rw [hcontent] at hbehind
      exact absurd (boundary_le_length payloads (count + 1)) (Nat.not_le.mpr hbehind)
    rw [hevery, List.take_length, hcontent, boundary_length, if_pos rfl] at hreads
    exact hreads
  · intro cut hbytes
    have hcontent : feed.content = (writeAll payloads).take cut := hbytes
    exact readMany_cut hfit hbuffers hcontent hclosed

/-- Three frames, the second of them empty and the third cut off, in pieces that go
across the frames. -/
theorem frames_cross_stream_in_pieces :
    (∀ payload ∈ ([[1, 2, 3], [], [7, 7]] : List Bytes), payload.length ≤ (3 : UInt64).toNat)
      ∧ (∀ payload ∈ ([[1, 2, 3], [], [7, 7]] : List Bytes), payload.length ≤ maxBuffer)
      ∧ (readMany 3 3 ⟨[.interrupted, .piece [3], .piece [1, 2], .interrupted, .piece [3, 0, 2],
            .piece [7]], .closed⟩).1
        = [.frame [1, 2, 3], .frame [], .fault .truncated] := by
  have hfit : ∀ payload ∈ ([[1, 2, 3], [], [7, 7]] : List Bytes),
      payload.length ≤ (3 : UInt64).toNat := by decide
  have hbuffers : ∀ payload ∈ ([[1, 2, 3], [], [7, 7]] : List Bytes),
      payload.length ≤ maxBuffer := by decide
  have hwritten : writeAll [[1, 2, 3], [], [7, 7]] = [3, 1, 2, 3, 0, 2, 7, 7] := by
    simp [writeAll, write, Length.encode]
  have hends : boundary [[1, 2, 3], [], [7, 7]] 1 = 4 ∧ boundary [[1, 2, 3], [], [7, 7]] 2 = 5
      ∧ boundary [[1, 2, 3], [], [7, 7]] 3 = 8 := by
    simp [boundary, writeAll, write, Length.encode]
  obtain ⟨hfirst, hsecond, hthird⟩ := hends
  obtain ⟨count, hcount, hbound, hlast, hreads⟩ :=
    (frames_cross_stream 3 [[1, 2, 3], [], [7, 7]] hfit hbuffers [.interrupted, .piece [3],
      .piece [1, 2], .interrupted, .piece [3, 0, 2], .piece [7]]).2 7 (by rw [hwritten]; rfl)
  have hsize : (handed [.interrupted, .piece [3], .piece [1, 2], .interrupted, .piece [3, 0, 2],
      .piece [7]]).length = 7 := rfl
  rw [hsize] at hbound hlast hreads
  have hcases : count = 0 ∨ count = 1 ∨ count = 2 ∨ count = 3 := by
    have hle : count ≤ 3 := hcount
    omega
  rcases hcases with rfl | rfl | rfl | rfl
  · have hnext : 7 < boundary [[1, 2, 3], [], [7, 7]] 1 := hlast (by decide)
    omega
  · have hnext : 7 < boundary [[1, 2, 3], [], [7, 7]] 2 := hlast (by decide)
    omega
  · rw [hsecond] at hreads
    exact ⟨hfit, hbuffers, hreads⟩
  · omega

end ChainHost.Frame
