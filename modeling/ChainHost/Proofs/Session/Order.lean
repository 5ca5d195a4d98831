/-
  Responses come in the order of their requests.

  A request of consensus may be answered long before those that wait for the
  worker, and the writer knows no request.  What keeps the order is that slots
  are reserved in the order of the requests, each for the place it then gets,
  and that a reply is found by its place.  `Line` says so of the slots and the
  writer; it holds in every state that any schedule leads to, with any room in
  the queues, and also when the worker breaks down or the connection does.
-/
import ChainHost.Proofs.Session.Work

set_option autoImplicit false

namespace ChainHost.Session.Pipeline

variable {δ : Type}

/-! ## What was written -/

/-- A payload conveys a response: it is what the codec makes of it or, if the codec
fails to write the response, of the exception in its place. -/
def Conveys (codec : Codec) (response : Response) (payload : Bytes) : Prop :=
  codec.writeResponse response = .ok payload ∨
    ∃ reason, codec.writeResponse response = .error reason ∧
      codec.writeResponse
          (.exception ("failed to encode " ++ response.kind.name ++ " response: " ++ reason))
        = .ok payload

theorem conveys_of_emit {codec : Codec} {response : Response} {payload : Bytes}
    (h : Session.emit codec response = .ok payload) : Conveys codec response payload := by
  unfold Session.emit at h
  split at h
  · next found hfound =>
      cases h
      exact .inl hfound
  · next reason hrefused =>
      dsimp only at h
      split at h
      · next found hfound =>
          cases h
          exact .inr ⟨reason, hrefused, hfound⟩
      · cases h

/-- The response to the request at a place: what dispatching the request came to or,
if it was never dispatched because the worker is gone, a fault of its kind. -/
def Answered (requests : List Request) (p : Pipeline δ) (k : Nat) (r : Request)
    (response : Response) : Prop :=
  requests[k]? = some r ∧
    ((k, response) ∈ p.answers ∨
      (p.worker = .lost ∧ r.capability ≠ .consensus ∧ response = lostResponse r.verb ∧
        ∀ other, (k, other) ∉ p.answers))

/-! ## The invariant -/

/-- How many responses the writer has emitted or holds. -/
def settled (p : Pipeline δ) : Nat :=
  match p.writer with
  | .emitting _ => p.emitted.length + 1
  | .looking | .waiting | .resolving _ _ | .awaiting _ _ | .pushing | .done | .failed _ =>
      p.emitted.length

/-- The place of the slot in front. -/
def front (p : Pipeline δ) : Nat :=
  match p.writer with
  | .resolving _ _ | .awaiting _ _ | .emitting _ => p.emitted.length + 1
  | .looking | .waiting | .pushing | .done | .failed _ => p.emitted.length

/-- What the writer is at belongs to the place after those it has emitted. -/
def Writes (requests : List Request) (p : Pipeline δ) : Prop :=
  match p.writer with
  | .resolving index verb | .awaiting index verb =>
      Promised requests p.answers p.emitted.length (.pending index verb)
  | .emitting response => ∃ r, Answered requests p p.emitted.length r response
  | .looking | .waiting | .pushing | .done | .failed _ => True

/-- What the writer is at and the slots behind it stand in the order of their
requests, and each reply is there until its slot is settled. -/
structure Line (requests : List Request) (p : Pipeline δ) : Prop where
  count : p.front + p.slots.length = p.reserved
  slots : ∀ i slot, p.slots[i]? = some slot → Promised requests p.answers (p.front + i) slot
  writer : Writes requests p
  unread : ∀ k response r, (k, response) ∈ p.answers → p.settled ≤ k → ForWorker requests k r →
    (k, response) ∈ p.replies

/-- The payload at each place conveys the response to the request there. -/
def Written (s : Setting δ) (requests : List Request) (p : Pipeline δ) : Prop :=
  ∀ k payload, p.emitted[k]? = some payload →
    k < p.reserved ∧ ∃ r response, Answered requests p k r response ∧
      Conveys s.codec response payload

/-- Everything that is kept from turn to turn. -/
structure InOrder (s : Setting δ) (requests : List Request) (shared : δ) (p : Pipeline δ) :
    Prop where
  dispatched : Dispatched s requests shared p
  line : (∀ fault, p.writer ≠ .failed fault) → Line requests p
  written : Written s requests p
  bytes : (∀ reason, p.writer ≠ .failed (.broken reason)) →
    p.sent ++ p.held = p.emitted.flatMap Frame.write

theorem line_start (requests : List Request) (shared : δ) :
    Line requests (start requests shared) where
  count := rfl
  slots _ _ hslot := nomatch hslot
  writer := trivial
  unread _ _ _ hanswer := nomatch hanswer

theorem inOrder_start (s : Setting δ) (requests : List Request) (shared : δ) :
    InOrder s requests shared (start requests shared) where
  dispatched := dispatched_start s requests shared
  line _ := line_start requests shared
  written _ _ hpayload := nomatch hpayload
  bytes _ := rfl

section Turns

variable {s : Setting δ} {requests : List Request} {shared : δ} {p q : Pipeline δ}

/-! ## What the writer has no part in -/

/-- New answers take none of the places that have a slot, once the worker is gone. -/
def Fresh (p q : Pipeline δ) : Prop :=
  p.worker = .lost → q.worker = .lost ∧
    ∀ k other, k < p.reserved → (k, other) ∈ q.answers → (k, other) ∈ p.answers

theorem Answered.mono {k : Nat} {r : Request} {response : Response}
    (h : Answered requests p k r response) (hk : k < p.reserved) (hanswers : p.answers ⊆ q.answers)
    (hfresh : Fresh p q) : Answered requests q k r response := by
  obtain ⟨hr, hanswer | ⟨hworker, hother, hresponse, hnever⟩⟩ := h
  · exact ⟨hr, .inl (hanswers hanswer)⟩
  · obtain ⟨hworker', hsame⟩ := hfresh hworker
    refine ⟨hr, .inr ⟨hworker', hother, hresponse, fun other hmem => ?_⟩⟩
    exact hnever other (hsame k other hk hmem)

theorem Written.mono (h : Written s requests p) (hemitted : q.emitted = p.emitted)
    (hreserved : p.reserved ≤ q.reserved) (hanswers : p.answers ⊆ q.answers)
    (hfresh : Fresh p q) : Written s requests q := by
  intro k payload hpayload
  rw [hemitted] at hpayload
  obtain ⟨hk, r, response, hanswered, hconveys⟩ := h k payload hpayload
  exact ⟨Nat.lt_of_lt_of_le hk hreserved, r, response, hanswered.mono hk hanswers hfresh, hconveys⟩

theorem Writes.mono (h : Writes requests p) (hfront : p.front ≤ p.reserved)
    (hwriter : q.writer = p.writer) (hemitted : q.emitted = p.emitted)
    (hanswers : p.answers ⊆ q.answers) (hfresh : Fresh p q) : Writes requests q := by
  unfold Writes at h ⊢
  rw [hwriter, hemitted]
  cases hw : p.writer with
  | emitting response =>
      rw [hw] at h
      simp only [front, hw] at hfront
      obtain ⟨r, hanswered⟩ := h
      exact ⟨r, hanswered.mono hfront hanswers hfresh⟩
  | resolving index verb =>
      rw [hw] at h
      exact h
  | awaiting index verb =>
      rw [hw] at h
      exact h
  | _ => trivial

theorem Line.front_le (h : Line requests p) : p.front ≤ p.reserved := by
  have hcount := h.count
  omega

/-- The line stays in order while others than the writer take turns. -/
theorem Line.mono (h : Line requests p) (hwriter : q.writer = p.writer)
    (hemitted : q.emitted = p.emitted) (hanswers : p.answers ⊆ q.answers)
    (hreplies : p.replies ⊆ q.replies) (hfresh : Fresh p q)
    (hslots : (q.slots = p.slots ∧ q.reserved = p.reserved) ∨
      ∃ slot, Promised requests q.answers p.reserved slot ∧ q.slots = p.slots ++ [slot] ∧
        q.reserved = p.reserved + 1)
    (hnew : ∀ k response r, (k, response) ∈ q.answers → ForWorker requests k r →
      (k, response) ∈ p.answers ∨ (k, response) ∈ q.replies) :
    Line requests q := by
  have hcount := h.count
  have hfront : q.front = p.front := by rw [front, front, hwriter, hemitted]
  have hsettled : q.settled = p.settled := by rw [settled, settled, hwriter, hemitted]
  refine ⟨?_, ?_, h.writer.mono h.front_le hwriter hemitted hanswers hfresh, ?_⟩
  · rw [hfront]
    rcases hslots with ⟨hslots, hreserved⟩ | ⟨slot, -, hslots, hreserved⟩
    · rw [hslots, hreserved]
      exact hcount
    · rw [hslots, hreserved, List.length_append, List.length_singleton]
      omega
  · intro i found hfound
    rw [hfront]
    rcases hslots with ⟨hslots, -⟩ | ⟨slot, hslot, hslots, -⟩
    · rw [hslots] at hfound
      exact (h.slots i found hfound).mono hanswers
    · rw [hslots] at hfound
      rcases Nat.lt_or_ge i p.slots.length with hi | hi
      · rw [List.getElem?_append_left hi] at hfound
        exact (h.slots i found hfound).mono hanswers
      · rw [List.getElem?_append_right hi] at hfound
        obtain ⟨hlast, rfl⟩ := List.getElem?_eq_some_iff.mp hfound
        rw [List.length_singleton] at hlast
        have hplace : p.front + i = p.reserved := by omega
        rw [hplace, List.getElem_singleton]
        exact hslot
  · intro k response r hanswer hsettle hr
    rw [hsettled] at hsettle
    rcases hnew k response r hanswer hr with hold | hreply
    · exact hreplies (h.unread k response r hold hsettle hr)
    · exact hreply

/-! ## Turns of the reader and the worker -/

theorem ReaderMove.fresh (hm : ReaderMove s p q) : Fresh p q := by
  intro hlost
  refine ⟨hm.frame.1.trans hlost, fun k other hk hmem => ?_⟩
  rcases hm.answers_cases with hsame | ⟨r, rest, -, hmore⟩
  · rwa [hsame] at hmem
  · rw [hmore] at hmem
    rcases List.mem_append.mp hmem with hold | hnew
    · exact hold
    · cases List.mem_singleton.mp hnew
      omega

theorem ReaderMove.line (hm : ReaderMove s p q) (hi : Intake requests p) (hl : Line requests p) :
    Line requests q := by
  obtain ⟨hworker, hwriter, hemitted, -, -, hreplies⟩ := hm.frame
  refine hl.mono hwriter hemitted hm.answers_subset ?_ hm.fresh (hm.slots_cases hi) ?_
  · rw [hreplies]
    exact List.Subset.refl _
  · intro k response r hmem hr
    rcases hm.answers_cases with hsame | ⟨r', rest, hreader, hmore⟩
    · rw [hsame] at hmem
      exact .inl hmem
    · obtain ⟨hr', hconsensus, -⟩ := hi.running hreader
      rw [hmore] at hmem
      rcases List.mem_append.mp hmem with hold | hnew
      · exact .inl hold
      · -- the new answer is to a request of consensus, which is none for the worker
        cases List.mem_singleton.mp hnew
        rw [hr.1] at hr'
        cases hr'
        exact absurd hconsensus hr.2

/-- The reader keeps the order. -/
theorem InOrder.reader (ho : InOrder s requests shared p) (hm : ReaderMove s p q) :
    InOrder s requests shared q := by
  obtain ⟨hworker, hwriter, hemitted, hsent, hheld, hreplies⟩ := hm.frame
  have hreserved : p.reserved ≤ q.reserved := by
    rcases hm.slots_cases ho.dispatched.intake with ⟨-, hsame⟩ | ⟨slot, -, -, hmore⟩ <;> omega
  refine ⟨ho.dispatched.reader hm, ?_, ?_, ?_⟩
  · intro hlive
    rw [hwriter] at hlive
    exact hm.line ho.dispatched.intake (ho.line hlive)
  · exact ho.written.mono hemitted hreserved hm.answers_subset hm.fresh
  · rw [hwriter, hsent, hheld, hemitted]
    exact ho.bytes

/-- A reply is there as soon as the worker has answered. -/
theorem WorkerMove.line (hm : WorkerMove s p q) (hl : Line requests p) : Line requests q := by
  obtain ⟨-, hwriter, hemitted, -, -, hslots, hreserved⟩ := hm.frame
  have hfresh : Fresh p q := fun hlost => absurd hlost hm.not_lost
  refine hl.mono hwriter hemitted hm.answers_subset hm.replies_subset hfresh
    (.inl ⟨hslots, hreserved⟩) ?_
  intro k response r hmem hr
  rcases hm.answers_cases with hsame | ⟨index, r', hworker, hmore, hreplies⟩
  · rw [hsame] at hmem
    exact .inl hmem
  · rw [hmore] at hmem
    rw [hreplies]
    rcases List.mem_append.mp hmem with hold | hnew
    · exact .inl hold
    · exact .inr (List.mem_append_right _ hnew)

/-- The worker keeps the order. -/
theorem InOrder.worker (ho : InOrder s requests shared p) (hm : WorkerMove s p q) :
    InOrder s requests shared q := by
  obtain ⟨-, hwriter, hemitted, hsent, hheld, -, hreserved⟩ := hm.frame
  refine ⟨ho.dispatched.worker hm, ?_, ?_, ?_⟩
  · intro hlive
    rw [hwriter] at hlive
    exact hm.line (ho.line hlive)
  · have hfresh : Fresh p q := fun hlost => absurd hlost hm.not_lost
    exact ho.written.mono hemitted (Nat.le_of_eq hreserved.symm) hm.answers_subset hfresh
  · rw [hwriter, hsent, hheld, hemitted]
    exact ho.bytes

/-! ## Turns of the writer -/

theorem front_of_looks (hwriter : p.writer = .looking ∨ p.writer = .waiting) :
    p.front = p.emitted.length ∧ p.settled = p.emitted.length := by
  rcases hwriter with hwriter | hwriter <;> simp [front, settled, hwriter]

/-- What the line says of the slot in front when the writer takes it. -/
theorem Line.take (hl : Line requests p) {slot : Slot} {slots : List Slot}
    (hwriter : p.writer = .looking ∨ p.writer = .waiting) (hslots : p.slots = slot :: slots) :
    Promised requests p.answers p.emitted.length slot ∧
      p.emitted.length + 1 + slots.length = p.reserved ∧
      ∀ i found, slots[i]? = some found →
        Promised requests p.answers (p.emitted.length + 1 + i) found := by
  have hfront := (front_of_looks hwriter).1
  have hcount := hl.count
  rw [hfront, hslots, List.length_cons] at hcount
  refine ⟨?_, by omega, ?_⟩
  · have hhead := hl.slots 0 slot (by rw [hslots, List.getElem?_cons_zero])
    rwa [hfront] at hhead
  · intro i found hfound
    have hplace := hl.slots (i + 1) found (by rw [hslots, List.getElem?_cons_succ, hfound])
    rw [hfront] at hplace
    have hsum : p.emitted.length + 1 + i = p.emitted.length + (i + 1) := by omega
    rwa [hsum]

/-- The line stays as it is when the writer comes to nothing new. -/
theorem Line.turn (hl : Line requests p) (hslots : q.slots = p.slots)
    (hreserved : q.reserved = p.reserved) (hanswers : q.answers = p.answers)
    (hreplies : q.replies = p.replies) (hfront : q.front = p.front)
    (hsettled : p.settled ≤ q.settled) (hwrites : Writes requests q) : Line requests q := by
  refine ⟨?_, ?_, hwrites, ?_⟩
  · rw [hfront, hslots, hreserved]
    exact hl.count
  · intro i slot hslot
    rw [hslots] at hslot
    rw [hfront, hanswers]
    exact hl.slots i slot hslot
  · intro k response r hanswer hk hr
    rw [hanswers] at hanswer
    rw [hreplies]
    exact hl.unread k response r hanswer (Nat.le_trans hsettled hk) hr

/-- The writer takes a slot for the place after those it has emitted. -/
theorem Line.ready (hl : Line requests p) (hw : Work s requests shared p) {response : Response}
    {slots : List Slot} (hwriter : p.writer = .looking ∨ p.writer = .waiting)
    (hslots : p.slots = .ready response :: slots) :
    Line requests { p with slots, writer := .emitting response } := by
  obtain ⟨hhead, hcount, hrest⟩ := hl.take hwriter hslots
  obtain ⟨r, hr⟩ := hw.replays.exists_request hhead
  have hsettled := (front_of_looks hwriter).2
  refine ⟨hcount, hrest, ⟨r, hr, .inl hhead⟩, ?_⟩
  intro k found r' hanswer hk hr'
  have hle : p.settled ≤ k := by
    rw [hsettled]
    exact Nat.le_of_succ_le hk
  exact hl.unread k found r' hanswer hle hr'

theorem Line.pending (hl : Line requests p) {index : Nat} {verb : Verb} {slots : List Slot}
    (hwriter : p.writer = .looking ∨ p.writer = .waiting)
    (hslots : p.slots = .pending index verb :: slots) :
    Line requests { p with slots, writer := .resolving index verb } := by
  obtain ⟨hhead, hcount, hrest⟩ := hl.take hwriter hslots
  have hsettled := (front_of_looks hwriter).2
  refine ⟨hcount, hrest, hhead, ?_⟩
  intro k found r hanswer hk hr
  have hle : p.settled ≤ k := by
    rw [hsettled]
    exact hk
  exact hl.unread k found r hanswer hle hr

/-- What the writer waits for is at the place after those it has emitted. -/
theorem Line.resolves (hl : Line requests p) {index : Nat} {verb : Verb}
    (hwriter : p.writer = .resolving index verb ∨ p.writer = .awaiting index verb) :
    (index = p.emitted.length ∧ ∃ r, ForWorker requests p.emitted.length r ∧ r.verb = verb) ∧
      p.front = p.emitted.length + 1 ∧ p.settled = p.emitted.length := by
  have hwrites := hl.writer
  rw [Writes] at hwrites
  rcases hwriter with hwriter | hwriter
  · rw [hwriter] at hwrites
    exact ⟨hwrites, by rw [front, hwriter], by rw [settled, hwriter]⟩
  · rw [hwriter] at hwrites
    exact ⟨hwrites, by rw [front, hwriter], by rw [settled, hwriter]⟩

/-- The reply that the writer takes is to the request whose slot it has taken. -/
theorem Line.receive (hl : Line requests p) (hw : Work s requests shared p) {index : Nat}
    {verb : Verb} {response : Response}
    (hwriter : p.writer = .resolving index verb ∨ p.writer = .awaiting index verb)
    (hreply : p.replies.lookup index = some response) :
    Line requests
      { p with
        replies := p.replies.filter fun reply => reply.1 != index
        writer := .emitting response } := by
  obtain ⟨⟨rfl, r, hr, -⟩, hfront, hsettled⟩ := hl.resolves hwriter
  obtain ⟨before, after, hsplit, -⟩ := List.lookup_eq_some_iff.mp hreply
  have hmem : (p.emitted.length, response) ∈ p.replies := by
    rw [hsplit]
    exact List.mem_append_right _ List.mem_cons_self
  have hcount := hl.count
  have hslots := hl.slots
  rw [hfront] at hcount hslots
  refine ⟨hcount, hslots, ⟨r, hr.1, .inl (hw.replies _ hmem)⟩, ?_⟩
  intro k found r' hanswer hk hr'
  have hle : p.settled ≤ k := by
    rw [hsettled]
    exact Nat.le_of_succ_le hk
  refine List.mem_filter.mpr ⟨hl.unread k found r' hanswer hle hr', ?_⟩
  have hne : k ≠ p.emitted.length := Nat.ne_of_gt hk
  simp [hne]

/-- A reply that never comes is to a request that was never dispatched. -/
theorem Line.miss (hl : Line requests p) {index : Nat} {verb : Verb}
    (hwriter : p.writer = .awaiting index verb) (hreply : p.replies.lookup index = none)
    (hworker : p.worker = .lost) :
    Line requests { p with writer := .emitting (lostResponse verb) } := by
  obtain ⟨⟨rfl, r, hr, hverb⟩, hfront, hsettled⟩ := hl.resolves (.inr hwriter)
  have hnever : ∀ other, (p.emitted.length, other) ∉ p.answers := by
    intro other hanswer
    have hunread := hl.unread _ other r hanswer (Nat.le_of_eq hsettled) hr
    have hother := List.lookup_eq_none_iff.mp hreply _ hunread
    simp at hother
  refine hl.turn rfl rfl rfl rfl ?_ ?_ ⟨r, hr.1, .inr ⟨hworker, hr.2, by rw [hverb], hnever⟩⟩
  · rw [hfront]
    rfl
  · rw [hsettled]
    exact Nat.le_succ _

/-- What the writer emits is settled already. -/
theorem Line.emit (hl : Line requests p) {response : Response} (payload : Bytes) (spill : Nat)
    {next : Writer} (hwriter : p.writer = .emitting response)
    (hnext : next = .pushing ∨ next = .looking) : Line requests (p.emit payload spill next) := by
  have hlength : (p.emit payload spill next).emitted.length = p.emitted.length + 1 :=
    List.length_append
  have hfront : p.front = p.emitted.length + 1 := by rw [front, hwriter]
  have hsettled : p.settled = p.emitted.length + 1 := by rw [settled, hwriter]
  refine hl.turn rfl rfl rfl rfl ?_ ?_ ?_
  · rw [hfront, ← hlength]
    rcases hnext with rfl | rfl <;> rfl
  · rw [hsettled, ← hlength]
    rcases hnext with rfl | rfl <;> exact Nat.le_refl _
  · rcases hnext with rfl | rfl <;> exact trivial

theorem WriterMove.line (hm : WriterMove s p q) (hw : Work s requests shared p)
    (hl : Line requests p) (hlive : ∀ fault, q.writer ≠ .failed fault) : Line requests q := by
  cases hm with
  | ready hwriter hslots => exact hl.ready hw hwriter hslots
  | pending hwriter hslots => exact hl.pending hwriter hslots
  | wait hwriter hslots hreader =>
      obtain ⟨hfront, hsettled⟩ := front_of_looks (.inl hwriter)
      exact hl.turn rfl rfl rfl rfl hfront.symm (Nat.le_of_eq hsettled) trivial
  | stop hwriter hslots hreader =>
      obtain ⟨hfront, hsettled⟩ := front_of_looks hwriter
      exact hl.turn rfl rfl rfl rfl hfront.symm (Nat.le_of_eq hsettled) trivial
  | receive hwriter hreply => exact hl.receive hw hwriter hreply
  | await hwriter hreply =>
      obtain ⟨hplace, hfront, hsettled⟩ := hl.resolves (.inl hwriter)
      exact hl.turn rfl rfl rfl rfl hfront.symm (Nat.le_of_eq hsettled) hplace
  | miss hwriter hreply hworker => exact hl.miss hwriter hreply hworker
  | @emit response payload spill hwriter hemit =>
      refine hl.emit payload spill hwriter ?_
      split
      · exact .inl rfl
      · exact .inr rfl
  | refuse hwriter hemit => exact absurd rfl (hlive _)
  | push hwriter =>
      have hfront : p.front = p.emitted.length := by rw [front, hwriter]
      have hsettled : p.settled = p.emitted.length := by rw [settled, hwriter]
      exact hl.turn rfl rfl rfl rfl hfront.symm (Nat.le_of_eq hsettled) trivial
  | snap bytes spill reason hwriter => exact absurd rfl (hlive _)

/-- The writer emits nothing, or the response to the next request. -/
theorem WriterMove.emitted_cases (hm : WriterMove s p q) (hl : Line requests p) :
    q.emitted = p.emitted ∨
      ∃ payload r response, q.emitted = p.emitted ++ [payload] ∧ p.emitted.length < p.reserved ∧
        Answered requests p p.emitted.length r response ∧ Conveys s.codec response payload := by
  cases hm with
  | @emit response payload spill hwriter hemit =>
      have hwrites := hl.writer
      rw [Writes, hwriter] at hwrites
      obtain ⟨r, hanswered⟩ := hwrites
      have hfront : p.front = p.emitted.length + 1 := by rw [front, hwriter]
      have hle := hl.front_le
      exact .inr ⟨payload, r, response, rfl, by omega, hanswered, conveys_of_emit hemit⟩
  | _ => exact .inl rfl

theorem WriterMove.answered (hm : WriterMove s p q) {k : Nat} {r : Request} {response : Response}
    (h : Answered requests p k r response) : Answered requests q k r response := by
  obtain ⟨-, hworker, -, -, -, hlog, -⟩ := hm.frame
  rw [Answered, answers, hworker, hlog]
  exact h

theorem WriterMove.written (hm : WriterMove s p q) (hl : Line requests p)
    (h : Written s requests p) : Written s requests q := by
  have hreserved : q.reserved = p.reserved := hm.frame.2.2.1
  intro k payload hpayload
  rw [hreserved]
  rcases hm.emitted_cases hl with hsame | ⟨last, r, response, hmore, hlt, hanswered, hconveys⟩
  · rw [hsame] at hpayload
    obtain ⟨hk, r, response, hanswered, hconveys⟩ := h k payload hpayload
    exact ⟨hk, r, response, hm.answered hanswered, hconveys⟩
  · rw [hmore] at hpayload
    rcases Nat.lt_or_ge k p.emitted.length with hk | hk
    · rw [List.getElem?_append_left hk] at hpayload
      obtain ⟨hk, r, response, hanswered, hconveys⟩ := h k payload hpayload
      exact ⟨hk, r, response, hm.answered hanswered, hconveys⟩
    · rw [List.getElem?_append_right hk] at hpayload
      obtain ⟨hlast, rfl⟩ := List.getElem?_eq_some_iff.mp hpayload
      rw [List.length_singleton] at hlast
      have hplace : k = p.emitted.length := by omega
      subst hplace
      rw [List.getElem_singleton]
      exact ⟨hlt, r, response, hm.answered hanswered, hconveys⟩

theorem WriterMove.bytes (hm : WriterMove s p q)
    (h : p.sent ++ p.held = p.emitted.flatMap Frame.write)
    (hwhole : ∀ reason, q.writer ≠ .failed (.broken reason)) :
    q.sent ++ q.held = q.emitted.flatMap Frame.write := by
  have hflush : p.flush.sent ++ p.flush.held = p.emitted.flatMap Frame.write := by
    rw [← h]
    exact List.append_nil _
  cases hm with
  | wait hwriter hslots hreader => exact hflush
  | stop hwriter hslots hreader => exact hflush
  | await hwriter hreply => exact hflush
  | refuse hwriter hemit => exact hflush
  | push hwriter => exact hflush
  | @emit response payload spill hwriter hemit =>
      simp only [Pipeline.emit, List.append_assoc, List.take_append_drop, List.flatMap_append,
        List.flatMap_singleton]
      rw [← List.append_assoc, h]
  | snap bytes spill reason hwriter => exact absurd rfl (hwhole reason)
  | _ => exact h

/-- The writer keeps the order. -/
theorem InOrder.writer (ho : InOrder s requests shared p) (hm : WriterMove s p q) :
    InOrder s requests shared q := by
  have hl := ho.line hm.not_failed
  refine ⟨ho.dispatched.writer hm, hm.line ho.dispatched.work hl, hm.written hl ho.written, ?_⟩
  exact hm.bytes (ho.bytes fun reason => hm.not_failed _)

/-! ## All turns -/

/-- Every turn keeps the order. -/
theorem InOrder.advance (ho : InOrder s requests shared p) {turn : Turn}
    (h : p.advance s turn = some q) : InOrder s requests shared q := by
  rcases move_of_advance h with hm | hm | hm
  · exact ho.reader hm
  · exact ho.worker hm
  · exact ho.writer hm

/-- Every state that a session comes to is in order. -/
theorem inOrder_of_leads (h : Leads s (start requests shared) p) :
    InOrder s requests shared p := by
  apply invariant_of_leads ?_ h (inOrder_start s requests shared)
  intro p q turn ho hturn
  exact ho.advance hturn

end Turns

/-! ## What a session writes -/

/-- First come, first served. -/
structure Fifo (s : Setting δ) (requests : List Request) (shared : δ) (p : Pipeline δ) : Prop where
  /-- The answers are what dispatching the requests at their places came to. -/
  replayed : Replays s requests p.answers shared p.shared
  /-- No request is dispatched twice. -/
  once : (p.answers.map (·.1)).Nodup
  /-- The payload at each place conveys the response to the request at that place. -/
  written : ∀ k payload, p.emitted[k]? = some payload → ∃ r response,
    Answered requests p k r response ∧ Conveys s.codec response payload
  /-- A turn writes at most the response to the first request without one, so that a
  flush is answered when everything before it is. -/
  next : ∀ turn q, p.advance s turn = some q → q.emitted = p.emitted ∨
    ∃ payload r response, q.emitted = p.emitted ++ [payload] ∧
      Answered requests p p.emitted.length r response ∧ Conveys s.codec response payload
  /-- What the peer has and what is held back for it are the frames of the payloads. -/
  frames : (∀ reason, p.writer ≠ .failed (.broken reason)) →
    p.sent ++ p.held = p.emitted.flatMap Frame.write

/-- Whatever the schedule, the responses that a session has written are those to the
first of its requests, in their order. -/
theorem fifo_of_leads (s : Setting δ) (requests : List Request) (shared : δ) (p : Pipeline δ)
    (h : Leads s (start requests shared) p) : Fifo s requests shared p := by
  have ho := inOrder_of_leads h
  have hdistinct := ho.dispatched.work.distinct
  rw [tickets, List.append_assoc] at hdistinct
  refine ⟨ho.dispatched.work.replays, hdistinct.sublist (List.sublist_append_left ..), ?_, ?_,
    ho.bytes⟩
  · intro k payload hpayload
    obtain ⟨-, hwritten⟩ := ho.written k payload hpayload
    exact hwritten
  · intro turn q hturn
    rcases move_of_advance hturn with hm | hm | hm
    · exact .inl hm.frame.2.2.1
    · exact .inl hm.frame.2.2.1
    · rcases hm.emitted_cases (ho.line hm.not_failed) with
        hsame | ⟨payload, r, response, hmore, -, hanswered, hconveys⟩
      · exact .inl hsame
      · exact .inr ⟨payload, r, response, hmore, hanswered, hconveys⟩

/-- A session without an application, in which a payload is the name of what it
answers, and one request can wait in each queue. -/
def naming : Setting Unit where
  dispatch r _ := (.ok (.neutral (.verb r.verb)), ())
  codec := { readRequest := fun _ => none, writeResponse := fun r => .ok (Bytes.ofText r.kind.name) }
  depth := 1

/-- The reader answers a flush before the worker gets to an echo. -/
def overtaking : List Turn :=
  [.reader, .reader, .reader, .reader, .reader, .writer 0, .reader, .writer 0, .worker, .worker,
    .writer 0, .writer 0, .writer 0, .writer 0]

/-- The flush is dispatched first and written last. -/
theorem fifo_of_leads_overtaking :
    let requests : List Request := [.echo "", ⟨.flush, ()⟩]
    let p := play naming overtaking (start requests ())
    (p.answers.map (·.1) = [1, 0] ∧
      p.emitted = [Bytes.ofText "echo", Bytes.ofText "flush"]) ∧
      Leads naming (start requests ()) p ∧ Fifo naming requests () p := by
  intro requests p
  have hleads : Leads naming (start requests ()) p := leads_play naming overtaking _
  refine ⟨⟨?_, ?_⟩, hleads, fifo_of_leads naming requests () p hleads⟩
  · decide +kernel
  · decide +kernel

end ChainHost.Session.Pipeline
