/-
  What a reader makes of the bytes in front of it.

  `Reads` says it without a reader, and of the bytes alone: how they arrive, in which
  pieces and with which interruptions, makes no difference.  Bytes are read in one way,
  and a reader of a stream that is closed behind them reads them so.
-/
import ChainHost.Frame.Reader
import ChainHost.Proofs.Frame.Length

set_option autoImplicit false

namespace ChainHost.Frame

/-- What some bytes are read as, in front of the end of a stream, and what is left of
them. -/
inductive Reads (limit : Nat) : Bytes → Outcome → Bytes → Prop where
  | ended : Reads limit [] .ended []
  | frame {length payload rest : Bytes} (hlength : Length.Says 0 length payload.length)
      (hlimit : payload.length ≤ limit) (hroom : payload.length ≤ maxBuffer) :
      Reads limit (length ++ (payload ++ rest)) (.frame payload) rest
  | tooLarge {length rest : Bytes} {size : UInt64} (hlength : Length.Says 0 length size.toNat)
      (hlimit : limit < size.toNat) :
      Reads limit (length ++ rest) (.fault (.tooLarge size limit)) rest
  /-- Ten bytes that go on, or the tenth of which holds more than one bit. -/
  | malformed {front rest : Bytes} {b : UInt8} (hfront : ∀ c ∈ front, 128 ≤ c.toNat)
      (hten : front.length = 9) (hlarge : 1 < b.toNat) :
      Reads limit (front ++ b :: rest) (.fault .malformedLength) rest
  | cutLength {front : Bytes} (hfront : ∀ c ∈ front, 128 ≤ c.toNat) (hsome : front ≠ [])
      (hshort : front.length ≤ 9) : Reads limit front (.fault .truncated) []
  | cutPayload {length payload : Bytes} {size : Nat} (hlength : Length.Says 0 length size)
      (hlimit : size ≤ limit) (hroom : size ≤ maxBuffer) (hshort : payload.length < size) :
      Reads limit (length ++ payload) (.fault .truncated) []
  /-- Whatever is behind the prefix, the reader does not come to it. -/
  | panicked {length rest : Bytes} {size : Nat} (hlength : Length.Says 0 length size)
      (hlimit : size ≤ limit) (hlarge : maxBuffer < size) :
      Reads limit (length ++ rest) .panicked rest

/-- The length of what a buffer holds is written within ten bytes. -/
theorem lt_of_le_maxBuffer {size : Nat} (h : size ≤ maxBuffer) : size < 2 ^ 64 :=
  Nat.lt_of_le_of_lt h (by decide)

/-- A frame that is written is read. -/
theorem reads_write {limit : Nat} {payload : Bytes} (hlimit : payload.length ≤ limit)
    (hroom : payload.length ≤ maxBuffer) (rest : Bytes) :
    Reads limit (write payload ++ rest) (.frame payload) rest := by
  rw [write, List.append_assoc]
  exact .frame (Length.says_encode (Nat.zero_le _) (lt_of_le_maxBuffer hroom)) hlimit hroom

/-- Whatever the bytes are, they are read as something. -/
theorem exists_reads (limit : Nat) (bytes : Bytes) :
    ∃ outcome rest, Reads limit bytes outcome rest := by
  rcases Length.says_or 0 (Nat.zero_le _) bytes with
    ⟨length, n, rest, rfl, hsaid⟩ | ⟨front, b, rest, rfl, hfront, hten, hlarge⟩ | ⟨hall, hshort⟩
  · by_cases hlimit : n ≤ limit
    · by_cases hroom : n ≤ maxBuffer
      · by_cases hwhole : n ≤ rest.length
        · have hcut : rest.take n ++ rest.drop n = rest := List.take_append_drop ..
          have hsize : (rest.take n).length = n := List.length_take_of_le hwhole
          rw [← hcut]
          exact ⟨_, _, .frame (hsize.symm ▸ hsaid) (hsize.symm ▸ hlimit) (hsize.symm ▸ hroom)⟩
        · exact ⟨_, _, .cutPayload hsaid hlimit hroom (Nat.not_le.mp hwhole)⟩
      · exact ⟨_, _, .panicked hsaid hlimit (Nat.not_le.mp hroom)⟩
    · have hsize : (UInt64.ofNat n).toNat = n := UInt64.toNat_ofNat_of_lt' hsaid.lt
      have hlarge : limit < (UInt64.ofNat n).toNat := by
        rw [hsize]
        exact Nat.not_le.mp hlimit
      exact ⟨_, _, .tooLarge (hsize.symm ▸ hsaid) hlarge⟩
  · exact ⟨_, _, .malformed hfront (by omega) hlarge⟩
  · by_cases hsome : bytes = []
    · subst hsome
      exact ⟨_, _, .ended⟩
    · exact ⟨_, _, .cutLength hall hsome (by omega)⟩

/-! ## Reading -/

/-- The bytes that some deliveries hand out. -/
abbrev handed (feed : List Delivery) : Bytes := feed.flatMap Feed.Delivery.bytes

theorem takeByte_of_handed {feed : List Delivery} {b : UInt8} {tail : Bytes}
    (h : handed feed = b :: tail) :
    ∃ rest, Feed.takeByte feed = some (b, rest) ∧ handed rest = tail := by
  cases htake : Feed.takeByte feed with
  | none =>
      have hempty : handed feed = [] := Feed.takeByte_eq_none.mp htake
      rw [h] at hempty
      cases hempty
  | some found =>
      obtain ⟨c, rest⟩ := found
      have hcontent : handed feed = c :: handed rest := Feed.takeByte_content htake
      rw [h] at hcontent
      cases hcontent
      exact ⟨rest, rfl, rfl⟩

/-- A byte that is there is taken into the prefix. -/
theorem readLength_of_handed (ending : Ending) (place : Nat) (value : UInt64)
    {feed : List Delivery} {b : UInt8} {tail : Bytes} (h : handed feed = b :: tail) :
    ∃ rest, handed rest = tail ∧ readLength ending place value feed
      = match Length.step place value b with
        | .complete length => (.ok length, rest)
        | .malformed => (.error (.fault .malformedLength), rest)
        | .more value => readLength ending (place + 1) value rest := by
  obtain ⟨rest, htake, hrest⟩ := takeByte_of_handed h
  refine ⟨rest, hrest, ?_⟩
  rw [readLength.eq_def]
  split
  · next hnone =>
      rw [htake] at hnone
      cases hnone
  · next c found hfound =>
      rw [htake] at hfound
      cases hfound
      rfl

/-- A length is read from its bytes, and nothing behind them is. -/
theorem readLength_of_says {place n : Nat} {length : Bytes} (h : Length.Says place length n)
    (ending : Ending) {value : UInt64} (hvalue : value.toNat < 2 ^ (7 * place))
    {feed : List Delivery} {tail : Bytes} (hfeed : handed feed = length ++ tail) :
    ∃ size rest, readLength ending place value feed = (.ok size, rest) ∧ handed rest = tail
      ∧ size.toNat = value.toNat + 2 ^ (7 * place) * n := by
  induction h generalizing value feed with
  | @last place b hlast hfits =>
      obtain ⟨rest, hrest, hread⟩ := readLength_of_handed ending place value hfeed
      obtain ⟨size, hstep, hsize⟩ := Length.step_last hvalue hlast hfits
      rw [hstep] at hread
      exact ⟨size, rest, hread, hrest, hsize⟩
  | @more place b length n hmore hplace hsaid ih =>
      obtain ⟨next, hnext, hfirst⟩ := readLength_of_handed ending place value hfeed
      obtain ⟨more, hstep, hbound, hsum⟩ := Length.step_more hplace hvalue hmore
      obtain ⟨size, rest, hread, hrest, hsize⟩ := ih hbound hnext
      rw [hstep] at hfirst
      refine ⟨size, rest, hfirst.trans hread, hrest, ?_⟩
      · rw [hsize, hsum, Length.two_pow_place, Nat.mul_add, Nat.add_assoc, Nat.mul_left_comm,
          Nat.mul_assoc]

/-- Bytes that go on are taken in, each with its group, and the prefix is not complete
behind them. -/
theorem readLength_of_more {front : Bytes} (hfront : ∀ c ∈ front, 128 ≤ c.toNat)
    (ending : Ending) {place : Nat} (hshort : place + front.length ≤ 9) {value : UInt64}
    (hvalue : value.toNat < 2 ^ (7 * place)) {feed : List Delivery} {tail : Bytes}
    (hfeed : handed feed = front ++ tail) :
    ∃ more rest, readLength ending place value feed
        = readLength ending (place + front.length) more rest ∧ handed rest = tail
      ∧ more.toNat = value.toNat + 2 ^ (7 * place) * Length.groups front := by
  induction front generalizing place value feed with
  | nil => exact ⟨value, feed, rfl, hfeed, rfl⟩
  | cons b front ih =>
      obtain ⟨hmore, hfront⟩ := List.forall_mem_cons.mp hfront
      rw [List.length_cons] at hshort
      obtain ⟨next, hnext, hfirst⟩ := readLength_of_handed ending place value hfeed
      obtain ⟨sum, hstep, hbound, hsum⟩ := Length.step_more (by omega) hvalue hmore
      obtain ⟨more, rest, hread, hrest, hvalue⟩ := ih hfront (by omega) hbound hnext
      have hgroup : b.toNat % 128 = b.toNat - 128 := by
        have hlt := b.toNat_lt
        omega
      rw [hstep] at hfirst
      refine ⟨more, rest, (hfirst.trans hread).trans ?_, hrest, ?_⟩
      · rw [List.length_cons, Nat.add_assoc, Nat.add_comm 1]
      · rw [hvalue, hsum, Length.groups, hgroup, Length.two_pow_place, Nat.mul_add, Nat.add_assoc,
          Nat.mul_left_comm, Nat.mul_assoc]

/-- Where no byte is left, the stream has ended, or was cut. -/
theorem readLength_of_nil {feed : List Delivery} (hfeed : handed feed = []) (place : Nat)
    (value : UInt64) :
    readLength .closed place value feed
      = (.error (if place = 0 then .ended else .fault .truncated), []) := by
  rw [readLength.eq_def]
  split
  · rfl
  · next b rest htake =>
      rw [Feed.takeByte_eq_none.mpr hfeed] at htake
      cases htake

/-- What is read where there is no length. -/
theorem read_of_error (limit : Nat) {feed : Feed} {outcome : Outcome} {after : List Delivery}
    (h : readLength feed.ending 0 0 feed.deliveries = (.error outcome, after)) :
    read limit feed = (outcome, { feed with deliveries := after }) := by
  simp only [read, h]

/-- What is read once the length is known. -/
theorem read_of_length {limit : Nat} {feed : Feed} {size : UInt64} {after : List Delivery}
    (h : readLength feed.ending 0 0 feed.deliveries = (.ok size, after)) :
    read limit feed
      = if limit < size.toNat then
          (.fault (.tooLarge size limit), { feed with deliveries := after })
        else if maxBuffer < size.toNat then (.panicked, { feed with deliveries := after })
        else if (handed after).length < size.toNat then
          (.fault feed.ending.fault,
            { feed with deliveries := (Feed.takeBytes size.toNat after).2 })
        else
          (.frame ((handed after).take size.toNat),
            { feed with deliveries := (Feed.takeBytes size.toNat after).2 }) := by
  have hshort : ((handed after).take size.toNat).length < size.toNat
      ↔ (handed after).length < size.toNat := by
    rw [List.length_take]
    omega
  simp only [read, h, Feed.takeBytes_fst, hshort, gt_iff_lt]

/-- A closed stream is read as its bytes are. -/
theorem read_of_reads {limit : Nat} {bytes rest : Bytes} {outcome : Outcome}
    (h : Reads limit bytes outcome rest) {feed : Feed} (hbytes : feed.content = bytes)
    (hclosed : feed.ending = .closed) :
    (read limit feed).1 = outcome ∧ (read limit feed).2.content = rest
      ∧ (read limit feed).2.ending = .closed := by
  have hvalue : (0 : UInt64).toNat < 2 ^ (7 * 0) := Nat.one_pos
  have hlength {length tail : Bytes} {n : Nat} (hsaid : Length.Says 0 length n)
      (htail : bytes = length ++ tail) :
      ∃ size after, readLength feed.ending 0 0 feed.deliveries = (.ok size, after)
        ∧ handed after = tail ∧ size.toNat = n := by
    obtain ⟨size, after, hread, hafter, hsize⟩ :=
      readLength_of_says hsaid feed.ending hvalue (hbytes.trans htail)
    refine ⟨size, after, hread, hafter, hsize.trans ?_⟩
    rw [UInt64.toNat_zero, Nat.mul_zero, Nat.pow_zero, Nat.one_mul, Nat.zero_add]
  cases h with
  | ended =>
      have hnone := readLength_of_nil (hbytes : handed feed.deliveries = []) 0 0
      rw [← hclosed] at hnone
      rw [read_of_error limit hnone]
      exact ⟨rfl, rfl, hclosed⟩
  | @frame length payload _ hsaid hlimit hroom =>
      obtain ⟨size, after, hread, hafter, hsize⟩ := hlength hsaid rfl
      have hwhole : ¬(handed after).length < size.toNat := by
        rw [hafter, hsize, List.length_append]
        omega
      rw [read_of_length hread, if_neg (by omega), if_neg (by omega), if_neg hwhole, hafter,
        hsize]
      refine ⟨congrArg Outcome.frame List.take_left, ?_, hclosed⟩
      rw [Feed.content, Feed.takeBytes_snd]
      exact (congrArg (List.drop payload.length) hafter).trans List.drop_left
  | @tooLarge length _ announced hsaid hlimit =>
      obtain ⟨size, after, hread, hafter, hsize⟩ := hlength hsaid rfl
      obtain rfl : size = announced := UInt64.toNat_inj.mp hsize
      rw [read_of_length hread, if_pos hlimit]
      exact ⟨rfl, hafter, hclosed⟩
  | @malformed front _ b hfront hten hlarge =>
      obtain ⟨more, next, hmore, hnext, -⟩ := readLength_of_more hfront feed.ending
        (show 0 + front.length ≤ 9 by omega) hvalue
        (hbytes : handed feed.deliveries = front ++ b :: rest)
      obtain ⟨after, hafter, hlast⟩ := readLength_of_handed feed.ending (0 + front.length) more
        hnext
      have hplace : 0 + front.length = 9 := by omega
      rw [hplace] at hlast hmore
      rw [Length.step_malformed more hlarge] at hlast
      rw [read_of_error limit (hmore.trans hlast)]
      exact ⟨rfl, hafter, hclosed⟩
  | cutLength hfront hsome hshort =>
      obtain ⟨more, next, hmore, hnext, -⟩ := readLength_of_more hfront feed.ending
        (show 0 + bytes.length ≤ 9 by omega) hvalue (hbytes.trans (List.append_nil _).symm)
      have hnone := readLength_of_nil hnext (0 + bytes.length) more
      have hplace : ¬ 0 + bytes.length = 0 := by
        rw [Nat.zero_add]
        exact fun hzero => hsome (List.eq_nil_of_length_eq_zero hzero)
      rw [if_neg hplace, ← hclosed, ← hmore] at hnone
      rw [read_of_error limit hnone]
      exact ⟨rfl, rfl, hclosed⟩
  | @cutPayload length payload announced hsaid hlimit hroom hshort =>
      obtain ⟨size, after, hread, hafter, hsize⟩ := hlength hsaid rfl
      have hcut : (handed after).length < size.toNat := by
        rw [hafter, hsize]
        exact hshort
      rw [read_of_length hread, if_neg (by omega), if_neg (by omega), if_pos hcut, hclosed]
      refine ⟨rfl, ?_, rfl⟩
      rw [Feed.content, Feed.takeBytes_snd]
      exact List.drop_eq_nil_of_le (Nat.le_of_lt hcut)
  | @panicked length _ announced hsaid hlimit hlarge =>
      obtain ⟨size, after, hread, hafter, hsize⟩ := hlength hsaid rfl
      rw [read_of_length hread, if_neg (by omega), if_pos (by omega)]
      exact ⟨rfl, hafter, hclosed⟩

theorem Feed.content_whole (bytes : Bytes) : (Feed.whole bytes).content = bytes :=
  List.append_nil _

/-- Bytes are read in one way. -/
theorem Reads.unique {limit : Nat} {bytes rest rest' : Bytes} {outcome outcome' : Outcome}
    (h : Reads limit bytes outcome rest) (h' : Reads limit bytes outcome' rest') :
    outcome = outcome' ∧ rest = rest' := by
  -- By way of a reader, which has one outcome; the rules themselves would have to be
  -- told apart in pairs.
  obtain ⟨houtcome, hrest, -⟩ := read_of_reads h (Feed.content_whole bytes) rfl
  obtain ⟨houtcome', hrest', -⟩ := read_of_reads h' (Feed.content_whole bytes) rfl
  exact ⟨houtcome.symm.trans houtcome', hrest.symm.trans hrest'⟩

/-- What a closed stream is read as, its bytes are. -/
theorem reads_of_read (limit : Nat) {feed : Feed} (hclosed : feed.ending = .closed) :
    Reads limit feed.content (read limit feed).1 (read limit feed).2.content
      ∧ (read limit feed).2.ending = .closed := by
  obtain ⟨outcome, rest, hreads⟩ := exists_reads limit feed.content
  obtain ⟨houtcome, hrest, hopen⟩ := read_of_reads hreads rfl hclosed
  rw [houtcome, hrest]
  exact ⟨hreads, hopen⟩

end ChainHost.Frame
