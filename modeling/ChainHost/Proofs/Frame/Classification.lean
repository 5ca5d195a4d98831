/-
  Every input of a reader, and what comes of it.

  Five shapes of bytes are told apart by their first few bytes alone: none at all, a
  prefix with its payload behind it, a prefix of too large a length, one of a length within
  the limit that no buffer holds, and ten bytes that are no prefix.  `read_classified` says
  that each has an outcome of its own and is consumed up to a given byte, and that all other
  bytes are a frame that was cut off.
-/
import ChainHost.Proofs.Frame.Reader

set_option autoImplicit false

namespace ChainHost.Frame

namespace Length

/-- A prefix that comes to its end: bytes with their top bit set and one without it, ten
in all at most, where the tenth holds a single bit. -/
inductive Terminated : Bytes → Prop where
  | mk {front : Bytes} {last : UInt8} (hfront : ∀ c ∈ front, 128 ≤ c.toNat)
      (hlast : last.toNat < 128) (hshort : front.length ≤ 9)
      (htenth : front.length = 9 → last.toNat ≤ 1) : Terminated (front ++ [last])

theorem says_of_front {place : Nat} {front : Bytes} {last : UInt8}
    (hfront : ∀ c ∈ front, 128 ≤ c.toNat) (hlast : last.toNat < 128)
    (hshort : place + front.length ≤ 9) (htenth : place + front.length = 9 → last.toNat ≤ 1) :
    Says place (front ++ [last]) (groups (front ++ [last])) := by
  induction front generalizing place with
  | nil =>
      have hgroup : groups [last] = last.toNat := by
        rw [groups, groups, Nat.mod_eq_of_lt hlast, Nat.mul_zero, Nat.add_zero]
      have hplace : place ≤ 9 := hshort
      rw [List.nil_append, hgroup]
      refine .last hlast ?_
      rcases Nat.lt_or_eq_of_le hplace with hearly | hlate
      · exact .inl hearly
      · exact .inr ⟨hlate, htenth hlate⟩
  | cons b front ih =>
      obtain ⟨hmore, hfront⟩ := List.forall_mem_cons.mp hfront
      rw [List.length_cons] at hshort htenth
      have hrest : Says (place + 1) (front ++ [last]) (groups (front ++ [last])) :=
        ih hfront (by omega) (fun hten => htenth (by omega))
      have hbound := b.toNat_lt
      have hgroup : b.toNat % 128 = b.toNat - 128 := by omega
      rw [List.cons_append, groups, hgroup]
      exact .more hmore (by omega) hrest

theorem Says.exists_front {place n : Nat} {bytes : Bytes} (h : Says place bytes n) :
    ∃ front last, bytes = front ++ [last] ∧ (∀ c ∈ front, 128 ≤ c.toNat) ∧ last.toNat < 128
      ∧ place + front.length ≤ 9 ∧ (place + front.length = 9 → last.toNat ≤ 1) := by
  induction h with
  | @last place b hlast hfits =>
      refine ⟨[], b, rfl, nofun, hlast, ?_, fun hten => ?_⟩
      · rw [List.length_nil]
        omega
      · rw [List.length_nil] at hten
        omega
  | @more place b rest n hmore hplace hrest ih =>
      obtain ⟨front, last, rfl, hfront, hlast, hshort, htenth⟩ := ih
      refine ⟨b :: front, last, rfl, List.forall_mem_cons.mpr ⟨hmore, hfront⟩, hlast, ?_, ?_⟩
      · rw [List.length_cons]
        omega
      · intro hten
        rw [List.length_cons] at hten
        exact htenth (by omega)

/-- A prefix says the sum of its groups, and nothing else says a number. -/
theorem says_iff {bytes : Bytes} {n : Nat} :
    Says 0 bytes n ↔ Terminated bytes ∧ groups bytes = n := by
  constructor
  · intro hsaid
    obtain ⟨front, last, rfl, hfront, hlast, hshort, htenth⟩ := hsaid.exists_front
    rw [Nat.zero_add] at hshort htenth
    exact ⟨.mk hfront hlast hshort htenth, hsaid.eq_groups.symm⟩
  · rintro ⟨⟨hfront, hlast, hshort, htenth⟩, rfl⟩
    refine says_of_front hfront hlast ?_ ?_ <;> rwa [Nat.zero_add]

end Length

/-! ## Shapes of bytes -/

/-- The bytes start with a prefix and a payload of the length that it says. -/
def Holds (limit : Nat) (bytes payload rest : Bytes) : Prop :=
  ∃ length, bytes = length ++ (payload ++ rest) ∧ Length.Terminated length
    ∧ Length.groups length = payload.length ∧ payload.length ≤ limit

/-- The bytes start with a prefix that says a size above the limit. -/
def Exceeds (limit : Nat) (bytes : Bytes) (size : UInt64) (rest : Bytes) : Prop :=
  ∃ length, bytes = length ++ rest ∧ Length.Terminated length
    ∧ Length.groups length = size.toNat ∧ limit < size.toNat

/-- The bytes start with a prefix that says a size within the limit, but above what a
buffer holds. -/
def Outsized (limit : Nat) (bytes rest : Bytes) : Prop :=
  ∃ length, bytes = length ++ rest ∧ Length.Terminated length
    ∧ Length.groups length ≤ limit ∧ maxBuffer < Length.groups length

/-- The bytes start with nine that go on and a tenth that holds more than one bit. -/
def Overlong (bytes rest : Bytes) : Prop :=
  ∃ front b, bytes = front ++ b :: rest ∧ (∀ c ∈ front, 128 ≤ c.toNat) ∧ front.length = 9
    ∧ 1 < b.toNat

section Shapes

variable {limit : Nat} {bytes rest : Bytes}

theorem reads_ended_iff : Reads limit bytes .ended rest ↔ bytes = [] ∧ rest = [] := by
  constructor
  · intro hreads
    cases hreads
    exact ⟨rfl, rfl⟩
  · rintro ⟨rfl, rfl⟩
    exact .ended

theorem reads_frame_iff {payload : Bytes} :
    Reads limit bytes (.frame payload) rest
      ↔ Holds limit bytes payload rest ∧ payload.length ≤ maxBuffer := by
  constructor
  · intro hreads
    cases hreads with
    | frame hlength hlimit hroom =>
        obtain ⟨hended, hsum⟩ := Length.says_iff.mp hlength
        exact ⟨⟨_, rfl, hended, hsum, hlimit⟩, hroom⟩
  · rintro ⟨⟨length, rfl, hended, hsum, hlimit⟩, hroom⟩
    exact .frame (Length.says_iff.mpr ⟨hended, hsum⟩) hlimit hroom

theorem reads_panicked_iff : Reads limit bytes .panicked rest ↔ Outsized limit bytes rest := by
  constructor
  · intro hreads
    cases hreads with
    | panicked hlength hlimit hlarge =>
        obtain ⟨hended, rfl⟩ := Length.says_iff.mp hlength
        exact ⟨_, rfl, hended, hlimit, hlarge⟩
  · rintro ⟨length, rfl, hended, hlimit, hlarge⟩
    exact .panicked (Length.says_iff.mpr ⟨hended, rfl⟩) hlimit hlarge

/-- A payload above what a buffer holds is never looked at. -/
theorem Holds.outsized {payload : Bytes} (h : Holds limit bytes payload rest)
    (hlarge : maxBuffer < payload.length) : Outsized limit bytes (payload ++ rest) := by
  obtain ⟨length, rfl, hended, hsum, hlimit⟩ := h
  exact ⟨length, rfl, hended, hsum ▸ hlimit, hsum ▸ hlarge⟩

theorem reads_tooLarge_iff {size : UInt64} :
    Reads limit bytes (.fault (.tooLarge size limit)) rest ↔ Exceeds limit bytes size rest := by
  constructor
  · intro hreads
    cases hreads with
    | tooLarge hlength hlimit =>
        obtain ⟨hended, hsum⟩ := Length.says_iff.mp hlength
        exact ⟨_, rfl, hended, hsum, hlimit⟩
  · rintro ⟨length, rfl, hended, hsum, hlimit⟩
    exact .tooLarge (Length.says_iff.mpr ⟨hended, hsum⟩) hlimit

theorem reads_malformed_iff :
    Reads limit bytes (.fault .malformedLength) rest ↔ Overlong bytes rest := by
  constructor
  · intro hreads
    cases hreads with
    | malformed hfront hten hlarge => exact ⟨_, _, rfl, hfront, hten, hlarge⟩
  · rintro ⟨front, b, rfl, hfront, hten, hlarge⟩
    exact .malformed hfront hten hlarge

/-- What is none of the five shapes was cut off. -/
theorem exists_reads_truncated_iff :
    (∃ rest, Reads limit bytes (.fault .truncated) rest) ↔
      bytes ≠ [] ∧ (∀ payload rest, ¬Holds limit bytes payload rest)
        ∧ (∀ size rest, ¬Exceeds limit bytes size rest) ∧ (∀ rest, ¬Overlong bytes rest)
        ∧ ∀ rest, ¬Outsized limit bytes rest := by
  constructor
  · rintro ⟨rest, hreads⟩
    have hroom : ∀ after, ¬Outsized limit bytes after := fun after houtsized =>
      nomatch (hreads.unique (reads_panicked_iff.mpr houtsized)).1
    refine ⟨?_, fun payload after hholds => ?_, fun size after hexceeds => ?_,
      fun after hoverlong => ?_, hroom⟩
    · rintro rfl
      cases (hreads.unique .ended).1
    · rcases Nat.lt_or_ge maxBuffer payload.length with hlarge | hsmall
      · exact hroom _ (hholds.outsized hlarge)
      · cases (hreads.unique (reads_frame_iff.mpr ⟨hholds, hsmall⟩)).1
    · cases (hreads.unique (reads_tooLarge_iff.mpr hexceeds)).1
    · cases (hreads.unique (reads_malformed_iff.mpr hoverlong)).1
  · rintro ⟨hsome, hholds, hexceeds, hoverlong, hroom⟩
    obtain ⟨outcome, rest, hreads⟩ := exists_reads limit bytes
    cases outcome with
    | ended => exact absurd (reads_ended_iff.mp hreads).1 hsome
    | frame payload => exact absurd (reads_frame_iff.mp hreads).1 (hholds _ _)
    | panicked => exact absurd (reads_panicked_iff.mp hreads) (hroom _)
    | fault fault =>
        cases hreads with
        | tooLarge hlength hlimit =>
            exact absurd (reads_tooLarge_iff.mp (.tooLarge hlength hlimit)) (hexceeds _ _)
        | malformed hfront hten hlarge =>
            exact absurd ⟨_, _, rfl, hfront, hten, hlarge⟩ (hoverlong _)
        | cutLength hfront hbytes hshort => exact ⟨_, .cutLength hfront hbytes hshort⟩
        | cutPayload hlength hlimit hfits hshort =>
            exact ⟨_, .cutPayload hlength hlimit hfits hshort⟩

end Shapes

/-! ## Reading -/

/-- A reader of a closed stream comes to what its bytes are read as, and no further. -/
theorem read_eq_iff {limit : Nat} {deliveries : List Delivery} {outcome : Outcome} {rest : Bytes} :
    (read limit ⟨deliveries, .closed⟩).1 = outcome
        ∧ (read limit ⟨deliveries, .closed⟩).2.content = rest
      ↔ Reads limit (handed deliveries) outcome rest := by
  have hclosed : (Feed.mk deliveries .closed).ending = .closed := rfl
  constructor
  · rintro ⟨rfl, rfl⟩
    exact (reads_of_read limit hclosed).1
  · intro hreads
    obtain ⟨houtcome, hrest, -⟩ := read_of_reads hreads rfl hclosed
    exact ⟨houtcome, hrest⟩

/-- The loop over a prefix holds the sum of the groups that it took, which fits. -/
theorem readLength_of_front {front after : Bytes} (hfront : ∀ c ∈ front, 128 ≤ c.toNat)
    (hshort : front.length ≤ 9) {deliveries : List Delivery}
    (hbytes : handed deliveries = front ++ after) :
    Length.groups front < 2 ^ 64 ∧ ∃ next, handed next = after
      ∧ readLength .closed 0 0 deliveries
        = readLength .closed front.length (UInt64.ofNat (Length.groups front)) next := by
  have hvalue : (0 : UInt64).toNat < 2 ^ (7 * 0) := Nat.one_pos
  obtain ⟨value, next, hread, hnext, hsum⟩ := readLength_of_more hfront .closed
    (show 0 + front.length ≤ 9 by omega) hvalue hbytes
  rw [UInt64.toNat_zero, Nat.zero_add, Nat.mul_zero, Nat.pow_zero, Nat.one_mul] at hsum
  rw [Nat.zero_add] at hread
  rw [← hsum, UInt64.ofNat_toNat]
  exact ⟨value.toNat_lt, next, hnext, hread⟩

/-- **Classification.**  However the bytes of a closed stream arrive, one read comes to an
end exactly if there are none; to a frame, standing right behind it, exactly if the bytes
hold one that a buffer holds too; to a size that is too large, standing right behind the
prefix, exactly if the bytes announce it; to a malformed length, standing behind ten bytes,
exactly if they are no prefix; and otherwise to a frame that was cut off, but for a size
within the limit that no buffer holds: over that the reader panics right behind the prefix.
All the while it holds the exact sum of the groups so far. -/
theorem read_classified (limit : Nat) (deliveries : List Delivery) :
    let bytes := handed deliveries
    let outcome := (read limit ⟨deliveries, .closed⟩).1
    let rest := (read limit ⟨deliveries, .closed⟩).2.content
    (outcome = .ended ↔ bytes = [])
      ∧ (∀ payload after, outcome = .frame payload ∧ rest = after
          ↔ Holds limit bytes payload after ∧ payload.length ≤ maxBuffer)
      ∧ (∀ size after, outcome = .fault (.tooLarge size limit) ∧ rest = after
          ↔ Exceeds limit bytes size after)
      ∧ (∀ after, outcome = .fault .malformedLength ∧ rest = after ↔ Overlong bytes after)
      ∧ (∀ after, outcome = .panicked ∧ rest = after ↔ Outsized limit bytes after)
      ∧ (outcome = .fault .truncated
          ↔ bytes ≠ [] ∧ (∀ payload after, ¬Holds limit bytes payload after)
            ∧ (∀ size after, ¬Exceeds limit bytes size after) ∧ (∀ after, ¬Overlong bytes after)
            ∧ ∀ after, ¬Outsized limit bytes after)
      ∧ ∀ front after, bytes = front ++ after → (∀ c ∈ front, 128 ≤ c.toNat) →
          front.length ≤ 9 → Length.groups front < 2 ^ 64 ∧ ∃ next, handed next = after
            ∧ readLength .closed 0 0 deliveries
              = readLength .closed front.length (UInt64.ofNat (Length.groups front)) next := by
  intro bytes outcome rest
  refine ⟨?_, fun payload after => ?_, fun size after => ?_, fun after => ?_, fun after => ?_, ?_,
    fun front after hbytes hfront hshort => readLength_of_front hfront hshort hbytes⟩
  · constructor
    · intro hended
      exact (reads_ended_iff.mp (read_eq_iff.mp ⟨hended, rfl⟩)).1
    · intro hnone
      exact (read_eq_iff.mpr (reads_ended_iff.mpr ⟨hnone, rfl⟩)).1
  · exact read_eq_iff.trans reads_frame_iff
  · exact read_eq_iff.trans reads_tooLarge_iff
  · exact read_eq_iff.trans reads_malformed_iff
  · exact read_eq_iff.trans reads_panicked_iff
  · rw [← exists_reads_truncated_iff]
    constructor
    · intro hcut
      exact ⟨rest, read_eq_iff.mp ⟨hcut, rfl⟩⟩
    · rintro ⟨after, hreads⟩
      exact (read_eq_iff.mpr hreads).1

/-- A prefix that says 2^63, with nothing behind it. -/
def outsized : Bytes := List.replicate 9 0x80 ++ [1]

theorem says_outsized : Length.Says 0 outsized (2 ^ 63) := by
  refine Length.says_iff.mpr ⟨.mk ?_ (by decide) (by decide) (by decide), by decide⟩
  exact fun c hc => (List.eq_of_mem_replicate hc).symm ▸ (by decide)

/-- A stream that ends behind such a prefix ends inside a frame.  Under a limit that lets the
size through, a reader does not come to the end of the stream: it panics. -/
theorem read_outsized_panicked :
    let limit := 2 ^ 64 - 1
    outsized ≠ [] ∧ (∀ payload after, ¬Holds limit outsized payload after)
      ∧ (∀ size after, ¬Exceeds limit outsized size after)
      ∧ (∀ after, ¬Overlong outsized after)
      ∧ (read limit ⟨[.piece outsized], .closed⟩).1 = .panicked := by
  intro limit
  have hreads : Reads limit outsized .panicked [] := by
    rw [← List.append_nil outsized]
    exact .panicked says_outsized (by decide) (by decide)
  refine ⟨nofun, fun payload after hholds => ?_, fun size after hexceeds => ?_,
    fun after hoverlong => ?_, ?_⟩
  · rcases Nat.lt_or_ge maxBuffer payload.length with hlarge | hsmall
    · obtain ⟨length, hbytes, -⟩ := hholds
      have hten := congrArg List.length hbytes
      rw [List.length_append, List.length_append] at hten
      have hshort : outsized.length = 10 := rfl
      have hbuffer : maxBuffer = 2 ^ 63 - 1 := rfl
      omega
    · cases (hreads.unique (reads_frame_iff.mpr ⟨hholds, hsmall⟩)).1
  · cases (hreads.unique (reads_tooLarge_iff.mpr hexceeds)).1
  · cases (hreads.unique (reads_malformed_iff.mpr hoverlong)).1
  · have hbytes : handed [.piece outsized] = outsized := List.append_nil _
    exact (read_eq_iff.mpr (hbytes.symm ▸ hreads)).1

end ChainHost.Frame
