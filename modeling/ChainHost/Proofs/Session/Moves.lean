/-
  What a turn can do.

  Each thread has its own moves, and each move names what it takes and what it
  leaves.  A thread touches little: the reader adds slots and jobs, the worker
  takes jobs and adds replies, the writer takes slots and replies, and whatever
  else a session has stays as it is.
-/
import ChainHost.Session.Pipeline

set_option autoImplicit false

namespace ChainHost.Session.Pipeline

variable {δ : Type}

/-! ## Moves -/

/-- What a turn of the reader does. -/
inductive ReaderMove (s : Setting δ) (p : Pipeline δ) : Pipeline δ → Prop where
  | stop (hreader : p.reader = .reading []) : ReaderMove s p { p with reader := .done }
  | begin {r : Request} {rest : List Request} (hreader : p.reader = .reading (r :: rest))
      (hconsensus : r.capability = .consensus) :
      ReaderMove s p { p.note (.begun p.reserved) with reader := .running r rest }
  | pick {r : Request} {rest : List Request} (hreader : p.reader = .reading (r :: rest))
      (hother : r.capability ≠ .consensus) : ReaderMove s p { p with reader := .handing r rest }
  | answer {r : Request} {rest : List Request} (hreader : p.reader = .running r rest) :
      ReaderMove s p
        { p.note (.ended p.reserved (s.dispatch r p.shared).1) with
          shared := (s.dispatch r p.shared).2
          reader := .reserving (.ready (s.dispatch r p.shared).1) rest }
  | hand {r : Request} {rest : List Request} (hreader : p.reader = .handing r rest)
      (hworker : p.worker ≠ .lost) (hroom : p.jobs.length < s.depth) :
      ReaderMove s p
        { p with
          reader := .reserving (.pending p.reserved r.verb) rest
          jobs := p.jobs ++ [(p.reserved, r)] }
  | drop {r : Request} {rest : List Request} (hreader : p.reader = .handing r rest)
      (hworker : p.worker = .lost) :
      ReaderMove s p { p with reader := .reserving (.pending p.reserved r.verb) rest }
  | reserve {slot : Slot} {rest : List Request} (hreader : p.reader = .reserving slot rest)
      (hwriter : ∀ fault, p.writer ≠ .failed fault) (hroom : p.slots.length < s.depth) :
      ReaderMove s p
        { p with
          reader := .reading rest
          slots := p.slots ++ [slot]
          reserved := p.reserved + 1 }
  | abandon {slot : Slot} {rest : List Request} {fault : WriteFault}
      (hreader : p.reader = .reserving slot rest) (hwriter : p.writer = .failed fault) :
      ReaderMove s p { p with reader := .done }

/-- What a turn of the worker does, or its breakdown. -/
inductive WorkerMove (s : Setting δ) (p : Pipeline δ) : Pipeline δ → Prop where
  | take {index : Nat} {r : Request} {jobs : List (Nat × Request)} (hworker : p.worker = .idle)
      (hjobs : p.jobs = (index, r) :: jobs) :
      WorkerMove s p { p.note (.begun index) with worker := .running index r, jobs }
  | answer {index : Nat} {r : Request} (hworker : p.worker = .running index r) :
      WorkerMove s p
        { p.note (.ended index (s.dispatch r p.shared).1) with
          shared := (s.dispatch r p.shared).2
          worker := .idle
          replies := p.replies ++ [(index, (s.dispatch r p.shared).1)] }
  | stop (hworker : p.worker = .idle) (hjobs : p.jobs = []) (hreader : p.reader = .done) :
      WorkerMove s p { p with worker := .done }
  | lose {index : Nat} {r : Request} (hworker : p.worker = .running index r) :
      WorkerMove s p { p with worker := .lost, jobs := [] }

/-- What a turn of the writer does, or a break of its connection. -/
inductive WriterMove (s : Setting δ) (p : Pipeline δ) : Pipeline δ → Prop where
  | ready {response : Response} {slots : List Slot}
      (hwriter : p.writer = .looking ∨ p.writer = .waiting)
      (hslots : p.slots = .ready response :: slots) :
      WriterMove s p { p with slots, writer := .emitting response }
  | pending {index : Nat} {verb : Verb} {slots : List Slot}
      (hwriter : p.writer = .looking ∨ p.writer = .waiting)
      (hslots : p.slots = .pending index verb :: slots) :
      WriterMove s p { p with slots, writer := .resolving index verb }
  | wait (hwriter : p.writer = .looking) (hslots : p.slots = []) (hreader : p.reader ≠ .done) :
      WriterMove s p { p.flush with writer := .waiting }
  | stop (hwriter : p.writer = .looking ∨ p.writer = .waiting) (hslots : p.slots = [])
      (hreader : p.reader = .done) : WriterMove s p { p.flush with writer := .done }
  | receive {index : Nat} {verb : Verb} {response : Response}
      (hwriter : p.writer = .resolving index verb ∨ p.writer = .awaiting index verb)
      (hreply : p.replies.lookup index = some response) :
      WriterMove s p
        { p with
          replies := p.replies.filter fun reply => reply.1 != index
          writer := .emitting response }
  | await {index : Nat} {verb : Verb} (hwriter : p.writer = .resolving index verb)
      (hreply : p.replies.lookup index = none) :
      WriterMove s p { p.flush with writer := .awaiting index verb }
  | miss {index : Nat} {verb : Verb} (hwriter : p.writer = .awaiting index verb)
      (hreply : p.replies.lookup index = none) (hworker : p.worker = .lost) :
      WriterMove s p { p with writer := .emitting (lostResponse verb) }
  | emit {response : Response} {payload : Bytes} (spill : Nat)
      (hwriter : p.writer = .emitting response)
      (hemit : Session.emit s.codec response = .ok payload) :
      WriterMove s p
        (p.emit payload spill (if response.kind = .verb .flush then .pushing else .looking))
  | refuse {response : Response} {fault : WriteFault} (hwriter : p.writer = .emitting response)
      (hemit : Session.emit s.codec response = .error fault) :
      WriterMove s p { p.flush with writer := .failed fault }
  | push (hwriter : p.writer = .pushing) : WriterMove s p { p.flush with writer := .looking }
  | snap (bytes : Bytes) (spill : Nat) (reason : String)
      (hwriter : ∀ fault, p.writer ≠ .failed fault) : WriterMove s p (p.snap bytes spill reason)

section Inversion

variable {s : Setting δ} {p q : Pipeline δ}

theorem readerMove_of_advance (h : p.advanceReader s = some q) : ReaderMove s p q := by
  unfold advanceReader at h
  split at h
  · next hreader =>
      cases h
      exact .stop hreader
  · next r rest hreader =>
      split at h
      · next hconsensus =>
          cases h
          exact .begin hreader hconsensus
      · next hother =>
          cases h
          exact .pick hreader hother
  · next r rest hreader =>
      cases h
      exact .answer hreader
  · next r rest hreader =>
      split at h
      · next hworker =>
          cases h
          exact .drop hreader hworker
      · next hworker =>
          split at h
          · next hroom =>
              cases h
              exact .hand hreader hworker hroom
          · cases h
  · next slot rest hreader =>
      split at h
      · next fault hwriter =>
          cases h
          exact .abandon hreader hwriter
      · next hwriter =>
          split at h
          · next hroom =>
              cases h
              exact .reserve hreader hwriter hroom
          · cases h
  · cases h

theorem workerMove_of_advance (h : p.advanceWorker s = some q) : WorkerMove s p q := by
  unfold advanceWorker at h
  split at h
  · next hworker =>
      split at h
      · next index r jobs hjobs =>
          cases h
          exact .take hworker hjobs
      · next hjobs =>
          split at h
          · next hreader =>
              cases h
              exact .stop hworker hjobs hreader
          · cases h
  · next index r hworker =>
      cases h
      exact .answer hworker
  · cases h
  · cases h

theorem workerMove_of_lose (h : p.loseWorker = some q) : WorkerMove s p q := by
  unfold loseWorker at h
  split at h
  · next index r hworker =>
      cases h
      exact .lose hworker
  · cases h

theorem writerMove_takeSlot (hwriter : p.writer = .looking ∨ p.writer = .waiting) {slot : Slot}
    {slots : List Slot} (hslots : p.slots = slot :: slots) :
    WriterMove s p (p.takeSlot slot slots) := by
  cases slot with
  | ready response => exact .ready hwriter hslots
  | pending index verb => exact .pending hwriter hslots

theorem writerMove_takeReply? {index : Nat} {verb : Verb}
    (hwriter : p.writer = .resolving index verb ∨ p.writer = .awaiting index verb)
    (h : p.takeReply? index = some q) : WriterMove s p q := by
  obtain ⟨response, hreply, rfl⟩ := Option.map_eq_some_iff.mp h
  exact .receive hwriter hreply

theorem lookup_eq_none_of_takeReply? {index : Nat} (h : p.takeReply? index = none) :
    p.replies.lookup index = none := Option.map_eq_none_iff.mp h

theorem writerMove_of_advance {spill : Nat} (h : p.advanceWriter s spill = some q) :
    WriterMove s p q := by
  unfold advanceWriter at h
  split at h
  · next hwriter =>
      split at h
      · next slot slots hslots =>
          cases h
          exact writerMove_takeSlot (.inl hwriter) hslots
      · next hslots =>
          cases h
          by_cases hreader : p.reader = .done
          · rw [if_pos hreader]
            exact .stop (.inl hwriter) hslots hreader
          · rw [if_neg hreader]
            exact .wait hwriter hslots hreader
  · next hwriter =>
      split at h
      · next slot slots hslots =>
          cases h
          exact writerMove_takeSlot (.inr hwriter) hslots
      · next hslots =>
          split at h
          · next hreader =>
              cases h
              exact .stop (.inr hwriter) hslots hreader
          · cases h
  · next index verb hwriter =>
      split at h
      · next found hfound =>
          cases h
          exact writerMove_takeReply? (.inl hwriter) hfound
      · next hmissing =>
          cases h
          exact .await hwriter (lookup_eq_none_of_takeReply? hmissing)
  · next index verb hwriter =>
      split at h
      · next found hfound =>
          cases h
          exact writerMove_takeReply? (.inr hwriter) hfound
      · next hmissing =>
          split at h
          · next hworker =>
              cases h
              exact .miss hwriter (lookup_eq_none_of_takeReply? hmissing) hworker
          · cases h
  · next response hwriter =>
      split at h
      · next fault hemit =>
          cases h
          exact .refuse hwriter hemit
      · next payload hemit =>
          cases h
          exact .emit spill hwriter hemit
  · next hwriter =>
      cases h
      exact .push hwriter
  · cases h
  · cases h

theorem writerMove_of_break {spill : Nat} {reason : String}
    (h : p.breakWriter s spill reason = some q) : WriterMove s p q := by
  have hsnap (bytes : Bytes) (hwriter : ∀ fault, p.writer ≠ .failed fault)
      (hq : p.snap bytes spill reason = q) : WriterMove s p q := by
    rw [← hq]
    exact .snap bytes spill reason hwriter
  unfold breakWriter at h
  split at h
  · next hwriter =>
      split at h
      · exact hsnap _ (by simp [hwriter]) (Option.some.inj h)
      · cases h
  · next hwriter =>
      split at h
      · exact hsnap _ (by simp [hwriter]) (Option.some.inj h)
      · cases h
  · next index verb hwriter =>
      split at h
      · exact hsnap _ (by simp [hwriter]) (Option.some.inj h)
      · cases h
  · next response hwriter =>
      split at h
      · cases h
      · exact hsnap _ (by simp [hwriter]) (Option.some.inj h)
  · next hwriter => exact hsnap _ (by simp [hwriter]) (Option.some.inj h)
  · cases h
  · cases h
  · cases h

/-- Every turn that is used is a move of one thread. -/
theorem move_of_advance {turn : Turn} (h : p.advance s turn = some q) :
    ReaderMove s p q ∨ WorkerMove s p q ∨ WriterMove s p q := by
  cases turn with
  | reader => exact .inl (readerMove_of_advance h)
  | worker => exact .inr (.inl (workerMove_of_advance h))
  | writer spill => exact .inr (.inr (writerMove_of_advance h))
  | loss => exact .inr (.inl (workerMove_of_lose h))
  | breakage spill reason => exact .inr (.inr (writerMove_of_break h))

/-! ## What a move leaves alone -/

theorem ReaderMove.frame (hm : ReaderMove s p q) :
    q.worker = p.worker ∧ q.writer = p.writer ∧ q.emitted = p.emitted ∧ q.sent = p.sent ∧
      q.held = p.held ∧ q.replies = p.replies := by
  cases hm <;> exact ⟨rfl, rfl, rfl, rfl, rfl, rfl⟩

theorem WorkerMove.frame (hm : WorkerMove s p q) :
    q.reader = p.reader ∧ q.writer = p.writer ∧ q.emitted = p.emitted ∧ q.sent = p.sent ∧
      q.held = p.held ∧ q.slots = p.slots ∧ q.reserved = p.reserved := by
  cases hm <;> exact ⟨rfl, rfl, rfl, rfl, rfl, rfl, rfl⟩

theorem WriterMove.frame (hm : WriterMove s p q) :
    q.reader = p.reader ∧ q.worker = p.worker ∧ q.reserved = p.reserved ∧ q.jobs = p.jobs ∧
      q.shared = p.shared ∧ q.log = p.log ∧ q.replies ⊆ p.replies := by
  have hself : p.replies ⊆ p.replies := List.Subset.refl _
  cases hm with
  | receive hwriter hreply =>
      exact ⟨rfl, rfl, rfl, rfl, rfl, rfl, (List.filter_sublist ..).subset⟩
  | _ => exact ⟨rfl, rfl, rfl, rfl, rfl, rfl, hself⟩

/-- A worker that is gone does nothing any more. -/
theorem WorkerMove.not_lost (hm : WorkerMove s p q) : p.worker ≠ .lost := by
  cases hm <;> simp [*]

theorem WriterMove.not_failed (hm : WriterMove s p q) (fault : WriteFault) :
    p.writer ≠ .failed fault := by
  cases hm with
  | ready hwriter hslots => rcases hwriter with hwriter | hwriter <;> simp [hwriter]
  | pending hwriter hslots => rcases hwriter with hwriter | hwriter <;> simp [hwriter]
  | stop hwriter hslots hreader => rcases hwriter with hwriter | hwriter <;> simp [hwriter]
  | receive hwriter hreply => rcases hwriter with hwriter | hwriter <;> simp [hwriter]
  | snap bytes spill reason hwriter => exact hwriter fault
  | _ => simp [*]

end Inversion

/-- What holds at the start and is kept by every turn holds wherever a session comes to. -/
theorem invariant_of_leads {s : Setting δ} {P : Pipeline δ → Prop} {p q : Pipeline δ}
    (hturn : ∀ p q turn, P p → p.advance s turn = some q → P q) (h : Leads s p q) (hp : P p) :
    P q := by
  induction h with
  | refl => exact hp
  | step turn before hadvance ih => exact hturn _ _ turn ih hadvance

theorem Leads.trans {s : Setting δ} {p q r : Pipeline δ} (h : Leads s p q) (h' : Leads s q r) :
    Leads s p r := by
  induction h' with
  | refl => exact h
  | step turn before hadvance ih => exact .step turn ih hadvance

/-- Playing a schedule leads to where it ends. -/
theorem leads_play (s : Setting δ) (schedule : List Turn) (p : Pipeline δ) :
    Leads s p (play s schedule p) := by
  induction schedule generalizing p with
  | nil => exact .refl p
  | cons turn rest ih =>
      rw [play, List.foldl_cons, ← play]
      cases hturn : p.advance s turn with
      | none => exact ih p
      | some q =>
          have hfirst : Leads s p q := .step turn (.refl p) hturn
          exact hfirst.trans (ih q)

end ChainHost.Session.Pipeline
