/-
  A session comes to its end.

  Three threads wait for one another: the reader for room in two queues, the worker
  for jobs, and the writer for slots and for replies.  `Reader.weight` and its
  neighbours count what is still to be done, and every turn lowers their sum, so
  that no run goes on forever.  `Steady` is what keeps a run from getting stuck
  before its end: each place that was given away is answered, with the worker, or in
  its queue, and a thread stops only when nothing more can come.  The worker is never
  stuck in front of a job, so that the reply the writer waits for always comes, and
  then neither queue stays full.
-/
import ChainHost.Proofs.Session.Order

set_option autoImplicit false

namespace ChainHost.Session

/-! ## What is still to be done -/

/-- What the reader has still to bring about.  A request costs at most eleven turns:
three of the reader, two of the worker once it is a job, and six of the writer once it
has a slot. -/
def Reader.weight : Reader → Nat
  | .reading rest => 11 * rest.length + 1
  | .running _ rest | .handing _ rest => 11 * rest.length + 11
  | .reserving _ rest => 11 * rest.length + 8
  | .done => 0

def Worker.weight : Worker → Nat
  | .running _ _ => 2
  | .idle => 1
  | .lost | .done => 0

def Writer.weight : Writer → Nat
  | .resolving _ _ => 7
  | .awaiting _ _ => 6
  | .emitting _ => 5
  | .pushing => 4
  | .looking => 3
  | .waiting => 2
  | .done => 1
  | .failed _ => 0

namespace Pipeline

variable {δ : Type}

/-- The turns of a thread, as opposed to breakdowns. -/
def Turn.ofThread : Turn → Bool
  | .reader | .worker | .writer _ => true
  | .loss | .breakage _ _ => false

/-- Gives turns one after another; all of them have to be of use. -/
def advanceAll (s : Setting δ) (p : Pipeline δ) : List Turn → Option (Pipeline δ)
  | [] => some p
  | turn :: rest => (p.advance s turn).bind fun q => q.advanceAll s rest

/-- What is still to be done in a session. -/
def weight (p : Pipeline δ) : Nat :=
  p.reader.weight + 2 * p.jobs.length + p.worker.weight + 6 * p.slots.length + p.writer.weight

section Turns

variable {s : Setting δ} {p q : Pipeline δ}

theorem ReaderMove.weight_lt (hm : ReaderMove s p q) : q.weight < p.weight := by
  unfold weight
  cases hm with
  | abandon hreader hwriter => simp [hreader, Reader.weight]
  | _ => simp [*, Reader.weight, note] <;> omega

theorem WorkerMove.weight_lt (hm : WorkerMove s p q) : q.weight < p.weight := by
  unfold weight
  cases hm <;> simp [*, Worker.weight, note] <;> omega

theorem WriterMove.weight_lt (hm : WriterMove s p q) : q.weight < p.weight := by
  have hlooks (hwriter : p.writer = .looking ∨ p.writer = .waiting) : 2 ≤ p.writer.weight := by
    rcases hwriter with hwriter | hwriter <;> simp [hwriter, Writer.weight]
  unfold weight
  cases hm with
  | @ready response slots hwriter hslots =>
      have hleast := hlooks hwriter
      have hnext : (Writer.emitting response).weight = 5 := rfl
      simp only [hslots, List.length_cons, hnext]
      omega
  | @pending index verb slots hwriter hslots =>
      have hleast := hlooks hwriter
      have hnext : (Writer.resolving index verb).weight = 7 := rfl
      simp only [hslots, List.length_cons, hnext]
      omega
  | stop hwriter hslots hreader =>
      have hleast := hlooks hwriter
      have hnext : Writer.done.weight = 1 := rfl
      simp only [flush, hnext]
      omega
  | receive hwriter hreply =>
      rcases hwriter with hwriter | hwriter <;> simp [hwriter, Writer.weight]
  | @emit response payload spill hwriter hemit =>
      have hnow : p.writer.weight = 5 := by
        rw [hwriter]
        rfl
      have hnext : (if response.kind = .verb .flush then Writer.pushing
          else Writer.looking).weight ≤ 4 := by
        split <;> decide
      simp only [Pipeline.emit, hnow]
      omega
  | snap bytes spill reason hwriter =>
      have hleast : 0 < p.writer.weight := by
        cases hw : p.writer with
        | failed fault => exact absurd hw (hwriter fault)
        | _ => simp [Writer.weight]
      have hnext : (Writer.failed (.broken reason)).weight = 0 := rfl
      simp only [Pipeline.snap, hnext]
      omega
  | _ => simp [*, flush, Writer.weight]

/-- Every turn that is used brings the end nearer. -/
theorem weight_lt_of_advance {turn : Turn} (h : p.advance s turn = some q) :
    q.weight < p.weight := by
  rcases move_of_advance h with hm | hm | hm
  · exact hm.weight_lt
  · exact hm.weight_lt
  · exact hm.weight_lt

theorem advanceAll_cons {turn : Turn} {rest : List Turn}
    (h : p.advanceAll s (turn :: rest) = some q) :
    ∃ next, p.advance s turn = some next ∧ next.advanceAll s rest = some q :=
  Option.bind_eq_some_iff.mp h

/-- A run is no longer than what it got done. -/
theorem length_add_weight_le {turns : List Turn} (h : p.advanceAll s turns = some q) :
    turns.length + q.weight ≤ p.weight := by
  induction turns generalizing p with
  | nil =>
      cases h
      exact Nat.le_of_eq (Nat.zero_add _)
  | cons turn rest ih =>
      obtain ⟨next, hturn, hrest⟩ := advanceAll_cons h
      have hlt := weight_lt_of_advance hturn
      have hle := ih hrest
      rw [List.length_cons]
      omega

end Turns

/-! ## What keeps a run from getting stuck -/

/-- How many places the reader has given away. -/
def given (p : Pipeline δ) : Nat :=
  match p.reader with
  | .reserving _ _ => p.reserved + 1
  | .reading _ | .running _ _ | .handing _ _ | .done => p.reserved

theorem reserved_le_given (p : Pipeline δ) : p.reserved ≤ p.given := by
  unfold given
  cases p.reader <;> simp

/-- No thread has broken down, and each has stopped only when nothing more comes. -/
structure Steady (s : Setting δ) (requests : List Request) (p : Pipeline δ) : Prop where
  sound : p.worker ≠ .lost
  fault : ∀ fault, p.writer = .failed fault →
    ∃ response, Session.emit s.codec response = .error fault
  workerDone : p.worker = .done → p.reader = .done ∧ p.jobs = []
  writerDone : p.writer = .done → p.reader = .done ∧ p.slots = [] ∧ p.held = []
  readerDone : p.reader = .done →
    (∃ fault, p.writer = .failed fault) ∨ requests.drop p.reserved = []
  /-- Each place that was given away is answered, with the worker, or in its queue. -/
  placed : ∀ k < p.given, k ∈ p.tickets

theorem steady_start (s : Setting δ) (requests : List Request) (shared : δ) :
    Steady s requests (start requests shared) where
  sound := nofun
  fault := nofun
  workerDone := nofun
  writerDone := nofun
  readerDone := nofun
  placed := nofun

section Steady

variable {s : Setting δ} {requests : List Request} {shared : δ} {p q : Pipeline δ}

theorem tickets_eq {answers : List (Nat × Response)} {worker : Worker}
    {jobs : List (Nat × Request)} (hanswers : q.answers = answers) (hworker : q.worker = worker)
    (hjobs : q.jobs = jobs)
    (h : answers.map (·.1) ++ worker.place.toList ++ jobs.map (·.1) = p.tickets) :
    q.tickets = p.tickets := by
  rw [tickets, hanswers, hworker, hjobs, h]

theorem ReaderMove.not_done (hm : ReaderMove s p q) : p.reader ≠ .done := by
  cases hm <;> simp [*]

/-- The reader gives away the next place, or none. -/
theorem ReaderMove.placed (hm : ReaderMove s p q) (hsound : p.worker ≠ .lost)
    (h : ∀ k < p.given, k ∈ p.tickets) : ∀ k < q.given, k ∈ q.tickets := by
  have hkept (hgiven : q.given ≤ p.given) (htickets : q.tickets = p.tickets) :
      ∀ k < q.given, k ∈ q.tickets := by
    intro k hk
    rw [htickets]
    exact h k (Nat.lt_of_lt_of_le hk hgiven)
  have hmore (hgiven : q.given = p.given + 1) (htickets : q.tickets.Perm (p.given :: p.tickets)) :
      ∀ k < q.given, k ∈ q.tickets := by
    intro k hk
    rw [hgiven] at hk
    refine htickets.mem_iff.mpr (List.mem_cons.mpr ?_)
    rcases Nat.lt_succ_iff_lt_or_eq.mp hk with hlt | heq
    · exact .inr (h k hlt)
    · exact .inl heq
  cases hm with
  | stop hreader => exact hkept (by simp [given, hreader]) rfl
  | begin hreader hconsensus =>
      apply hkept (by simp [given, hreader, note])
      exact tickets_eq (answers_begun ..) rfl rfl rfl
  | pick hreader hother => exact hkept (by simp [given, hreader]) rfl
  | @answer r rest hreader =>
      have hplace : p.given = p.reserved := by simp [given, hreader]
      apply hmore (by simp [given, hreader, note])
      rw [hplace]
      exact tickets_answered (answers_ended p _ _) rfl rfl
  | hand hreader hworker hroom =>
      have hplace : p.given = p.reserved := by simp [given, hreader]
      apply hmore (by simp [given, hreader])
      rw [hplace]
      exact tickets_handed rfl rfl rfl
  | drop hreader hworker => exact absurd hworker hsound
  | reserve hreader hwriter hroom => exact hkept (by simp [given, hreader]) rfl
  | abandon hreader hwriter => exact hkept (by simp [given, hreader]) rfl

theorem Steady.reader (hs : Steady s requests p) (hi : Intake requests p)
    (hm : ReaderMove s p q) : Steady s requests q := by
  obtain ⟨hworker, hwriter, -⟩ := hm.frame
  refine ⟨?_, ?_, ?_, ?_, ?_, hm.placed hs.sound hs.placed⟩
  · rw [hworker]
    exact hs.sound
  · rw [hwriter]
    exact hs.fault
  · rw [hworker]
    intro hdone
    exact absurd (hs.workerDone hdone).1 hm.not_done
  · rw [hwriter]
    intro hdone
    exact absurd (hs.writerDone hdone).1 hm.not_done
  · intro hdone
    cases hm with
    | stop hreader =>
        rw [Intake, hreader] at hi
        exact .inr hi
    | abandon hreader hfailed => exact .inl ⟨_, hfailed⟩
    | _ => cases hdone

/-- A worker that does not break down loses no place. -/
theorem WorkerMove.tickets_eq (hm : WorkerMove s p q) (hsound : q.worker ≠ .lost) :
    q.tickets = p.tickets := by
  cases hm with
  | take hworker hjobs =>
      refine Pipeline.tickets_eq (answers_begun ..) rfl rfl ?_
      rw [tickets, hworker, hjobs]
      simp [Worker.place]
  | answer hworker =>
      refine Pipeline.tickets_eq (answers_ended ..) rfl rfl ?_
      rw [tickets, hworker]
      simp [Worker.place, note]
  | stop hworker hjobs hreader =>
      refine Pipeline.tickets_eq rfl rfl rfl ?_
      rw [tickets, hworker]
      rfl
  | lose hworker => exact absurd rfl hsound

/-- The worker breaks down in no turn of its own. -/
theorem sound_of_advanceWorker (h : p.advanceWorker s = some q) : q.worker ≠ .lost := by
  unfold advanceWorker at h
  split at h
  · split at h
    · cases h
      exact nofun
    · split at h <;> cases h
      exact nofun
  · cases h
    exact nofun
  · cases h
  · cases h

theorem Steady.worker (hs : Steady s requests p) (h : p.advanceWorker s = some q) :
    Steady s requests q := by
  have hm : WorkerMove s p q := workerMove_of_advance h
  have hsound := sound_of_advanceWorker h
  obtain ⟨hreader, hwriter, -, -, hheld, hslots, hreserved⟩ := hm.frame
  have hgiven : q.given = p.given := by rw [given, given, hreader, hreserved]
  refine ⟨hsound, ?_, ?_, ?_, ?_, ?_⟩
  · rw [hwriter]
    exact hs.fault
  · intro hdone
    cases hm with
    | stop hworker hjobs hstopped => exact ⟨hstopped, hjobs⟩
    | _ => cases hdone
  · rw [hwriter, hreader, hslots, hheld]
    exact hs.writerDone
  · rw [hreader, hwriter, hreserved]
    exact hs.readerDone
  · rw [hgiven, hm.tickets_eq hsound]
    exact hs.placed

/-- A turn of the writer ends in a fault only if the codec fails. -/
theorem emit_error_of_advanceWriter {spill : Nat} (h : p.advanceWriter s spill = some q)
    {fault : WriteFault} (hfault : q.writer = .failed fault) :
    ∃ response, Session.emit s.codec response = .error fault := by
  have hslot {slot : Slot} {slots : List Slot} (hq : p.takeSlot slot slots = q) : False := by
    subst hq
    cases slot <;> cases hfault
  have hreply {index : Nat} (hq : p.takeReply? index = some q) : False := by
    obtain ⟨response, -, rfl⟩ := Option.map_eq_some_iff.mp hq
    cases hfault
  unfold advanceWriter at h
  split at h
  · split at h
    · exact (hslot (Option.some.inj h)).elim
    · cases h
      dsimp only at hfault
      split at hfault <;> cases hfault
  · split at h
    · exact (hslot (Option.some.inj h)).elim
    · split at h <;> cases h
      cases hfault
  · split at h
    · next hfound =>
        cases h
        exact (hreply hfound).elim
    · cases h
      cases hfault
  · split at h
    · next hfound =>
        cases h
        exact (hreply hfound).elim
    · split at h <;> cases h
      cases hfault
  · next response hwriter =>
      split at h
      · next found hemit =>
          cases h
          cases hfault
          exact ⟨response, hemit⟩
      · cases h
        simp only [Pipeline.emit] at hfault
        split at hfault <;> cases hfault
  · cases h
    cases hfault
  · cases h
  · cases h

theorem Steady.writer (hs : Steady s requests p) {spill : Nat}
    (h : p.advanceWriter s spill = some q) : Steady s requests q := by
  have hm := writerMove_of_advance h
  obtain ⟨hreader, hworker, hreserved, hjobs, hshared, hlog, -⟩ := hm.frame
  have hgiven : q.given = p.given := by rw [given, given, hreader, hreserved]
  have htickets : q.tickets = p.tickets := by
    rw [tickets, tickets, answers, answers, hlog, hworker, hjobs]
  refine ⟨?_, fun fault => emit_error_of_advanceWriter h, ?_, ?_, ?_, ?_⟩
  · rw [hworker]
    exact hs.sound
  · rw [hworker, hreader, hjobs]
    exact hs.workerDone
  · intro hdone
    cases hm with
    | stop hwriter hslots hstopped => exact ⟨hstopped, hslots, rfl⟩
    | @emit response payload spill hwriter hemit =>
        simp only [emit] at hdone
        split at hdone <;> cases hdone
    | _ => cases hdone
  · rw [hreader, hreserved]
    intro hdone
    rcases hs.readerDone hdone with ⟨fault, hfailed⟩ | hall
    · exact absurd hfailed (hm.not_failed fault)
    · exact .inr hall
  · rw [hgiven, htickets]
    exact hs.placed

/-- Every turn of a thread keeps a run steady. -/
theorem Steady.advance (hs : Steady s requests p) (ho : InOrder s requests shared p)
    {turn : Turn} (hthread : turn.ofThread = true) (h : p.advance s turn = some q) :
    Steady s requests q := by
  cases turn with
  | reader => exact hs.reader ho.dispatched.intake (readerMove_of_advance h)
  | worker => exact hs.worker h
  | writer spill => exact hs.writer h
  | loss => cases hthread
  | breakage spill reason => cases hthread

/-! ## Stuck sessions -/

/-- A reader that cannot go on is done, or waits for room in front of a full queue. -/
theorem reader_of_stuck (h : p.advanceReader s = none) :
    p.reader = .done
      ∨ (∃ r rest, p.reader = .handing r rest ∧ s.depth ≤ p.jobs.length)
      ∨ ∃ slot rest, p.reader = .reserving slot rest ∧ (∀ fault, p.writer ≠ .failed fault)
        ∧ s.depth ≤ p.slots.length := by
  unfold advanceReader at h
  split at h
  · cases h
  · split at h <;> cases h
  · cases h
  · next r rest hreader =>
      split at h
      · cases h
      · split at h
        · cases h
        · next hfull => exact .inr (.inl ⟨r, rest, hreader, Nat.not_lt.mp hfull⟩)
  · next slot rest hreader =>
      split at h
      · cases h
      · next hwriter =>
          split at h
          · cases h
          · next hfull => exact .inr (.inr ⟨slot, rest, hreader, hwriter, Nat.not_lt.mp hfull⟩)
  · next hreader => exact .inl hreader

/-- A worker that cannot go on has no job, and is gone or waits for one. -/
theorem worker_of_stuck (h : p.advanceWorker s = none) :
    (p.worker = .idle ∧ p.jobs = [] ∧ p.reader ≠ .done) ∨ p.worker = .lost ∨ p.worker = .done := by
  unfold advanceWorker at h
  split at h
  · next hworker =>
      split at h
      · cases h
      · next hjobs =>
          split at h
          · cases h
          · next hreader => exact .inl ⟨hworker, hjobs, hreader⟩
  · cases h
  · next hworker => exact .inr (.inl hworker)
  · next hworker => exact .inr (.inr hworker)

/-- A writer that cannot go on is done, or waits for a slot or for a reply. -/
theorem writer_of_stuck {spill : Nat} (h : p.advanceWriter s spill = none) :
    (p.writer = .waiting ∧ p.slots = [] ∧ p.reader ≠ .done)
      ∨ (∃ index verb, p.writer = .awaiting index verb ∧ p.replies.lookup index = none)
      ∨ p.writer = .done ∨ ∃ fault, p.writer = .failed fault := by
  unfold advanceWriter at h
  split at h
  · split at h <;> cases h
  · next hwriter =>
      split at h
      · cases h
      · next hslots =>
          split at h
          · cases h
          · next hreader => exact .inl ⟨hwriter, hslots, hreader⟩
  · split at h <;> cases h
  · next index verb hwriter =>
      split at h
      · cases h
      · next hmissing =>
          have hreply := lookup_eq_none_of_takeReply? hmissing
          exact .inr (.inl ⟨index, verb, hwriter, hreply⟩)
  · split at h <;> cases h
  · cases h
  · next hwriter => exact .inr (.inr (.inl hwriter))
  · next fault hwriter => exact .inr (.inr (.inr ⟨fault, hwriter⟩))

/-- With nothing left for the worker, the reply that the writer waits for is there. -/
theorem Steady.reply (hs : Steady s requests p) (hl : Line requests p) {index : Nat} {verb : Verb}
    (hwriter : p.writer = .awaiting index verb) (hplace : p.worker.place = none)
    (hjobs : p.jobs = []) : p.replies.lookup index ≠ none := by
  intro hnone
  obtain ⟨⟨rfl, r, hr, -⟩, hfront, hsettled⟩ := hl.resolves (.inr hwriter)
  have hlt : p.emitted.length < p.given := by
    have hle := hl.front_le
    have hgiven := p.reserved_le_given
    omega
  have hmem := hs.placed _ hlt
  rw [tickets, hplace, hjobs] at hmem
  have hanswered : p.emitted.length ∈ p.answers.map (·.1) := by
    simpa using hmem
  obtain ⟨⟨k, response⟩, hanswer, rfl⟩ := List.mem_map.mp hanswered
  have hunread := hl.unread _ response r hanswer (Nat.le_of_eq hsettled) hr
  have hother := List.lookup_eq_none_iff.mp hnone _ hunread
  simp at hother

/-- A session is stuck only at its end. -/
theorem Steady.stopped (hs : Steady s requests p) (ho : InOrder s requests shared p)
    (hdepth : 1 ≤ s.depth)
    (hstuck : ∀ turn : Turn, turn.ofThread = true → p.advance s turn = none) :
    p.reader = .done ∧ p.worker = .done ∧ (p.writer = .done ∨ ∃ fault, p.writer = .failed fault) := by
  have hreader := reader_of_stuck (hstuck .reader rfl)
  have hworker := worker_of_stuck (hstuck .worker rfl)
  have hwriter := writer_of_stuck (hstuck (.writer 0) rfl)
  have hidle : p.worker.place = none ∧ p.jobs = [] := by
    rcases hworker with ⟨hidle, hjobs, -⟩ | hlost | hdone
    · exact ⟨by rw [hidle, Worker.place], hjobs⟩
    · exact absurd hlost hs.sound
    · exact ⟨by rw [hdone, Worker.place], (hs.workerDone hdone).2⟩
  -- The writer waits for no reply, since there is nothing left that could be answered.
  have hreplied (index : Nat) (verb : Verb) (hawaits : p.writer = .awaiting index verb)
      (hnone : p.replies.lookup index = none) : False := by
    have hl := ho.line (by simp [hawaits])
    exact hs.reply hl hawaits hidle.1 hidle.2 hnone
  have hdone : p.reader = .done := by
    rcases hreader with hdone | ⟨r, rest, -, hfull⟩ | ⟨slot, rest, hreserving, hlive, hfull⟩
    · exact hdone
    · rw [hidle.2, List.length_nil] at hfull
      omega
    · rcases hwriter with
        ⟨-, hslots, -⟩ | ⟨index, verb, hawaits, hnone⟩ | hended | ⟨fault, hfailed⟩
      · rw [hslots, List.length_nil] at hfull
        omega
      · exact (hreplied index verb hawaits hnone).elim
      · exact (hs.writerDone hended).1
      · exact absurd hfailed (hlive fault)
  refine ⟨hdone, ?_, ?_⟩
  · rcases hworker with ⟨-, -, hopen⟩ | hlost | hended
    · exact absurd hdone hopen
    · exact absurd hlost hs.sound
    · exact hended
  · rcases hwriter with ⟨-, -, hopen⟩ | ⟨index, verb, hawaits, hnone⟩ | hended
    · exact absurd hdone hopen
    · exact (hreplied index verb hawaits hnone).elim
    · exact hended

/-! ## Runs -/

/-- What each turn of a thread keeps holds after every run of threads. -/
theorem invariant_of_threads {P : Pipeline δ → Prop}
    (hturn : ∀ p q turn, Turn.ofThread turn = true → P p → p.advance s turn = some q → P q)
    {turns : List Turn} (hthreads : ∀ turn ∈ turns, turn.ofThread = true)
    (hrun : p.advanceAll s turns = some q) (h : P p) : P q := by
  induction turns generalizing p with
  | nil =>
      cases hrun
      exact h
  | cons turn rest ih =>
      obtain ⟨next, hfirst, hrest⟩ := advanceAll_cons hrun
      obtain ⟨hthread, hthreads⟩ := List.forall_mem_cons.mp hthreads
      exact ih hthreads hrest (hturn p next turn hthread h hfirst)

/-- Every run of threads is steady and in order. -/
theorem steady_of_threads {turns : List Turn} (hthreads : ∀ turn ∈ turns, turn.ofThread = true)
    (hrun : (start requests shared).advanceAll s turns = some p) :
    Steady s requests p ∧ InOrder s requests shared p := by
  apply invariant_of_threads ?_ hthreads hrun
  · exact ⟨steady_start s requests shared, inOrder_start s requests shared⟩
  · intro p q turn hthread hboth hturn
    exact ⟨hboth.1.advance hboth.2 hthread hturn, hboth.2.advance hturn⟩

/-- All requests are answered, and the peer has the responses in their order. -/
structure Complete (s : Setting δ) (requests : List Request) (p : Pipeline δ) : Prop where
  reserved : p.reserved = requests.length
  emitted : p.emitted.length = requests.length
  each : ∀ k payload, p.emitted[k]? = some payload → ∃ r response,
    requests[k]? = some r ∧ (k, response) ∈ p.answers ∧ Conveys s.codec response payload
  sent : p.sent = p.emitted.flatMap Frame.write

/-- A writer that is done has answered all requests. -/
theorem Steady.complete (hs : Steady s requests p) (ho : InOrder s requests shared p)
    (hdone : p.writer = .done) : Complete s requests p := by
  obtain ⟨hreader, hslots, hheld⟩ := hs.writerDone hdone
  have hreserved : p.emitted.length = p.reserved := by
    have hcount := (ho.line (by simp [hdone])).count
    rw [hslots, List.length_nil, front, hdone] at hcount
    exact hcount
  have hall : requests.length ≤ p.reserved := by
    rcases hs.readerDone hreader with ⟨fault, hfailed⟩ | hall
    · rw [hdone] at hfailed
      cases hfailed
    · exact List.drop_eq_nil_iff.mp hall
  have heach (k : Nat) (payload : Bytes) (hpayload : p.emitted[k]? = some payload) :
      ∃ r response, requests[k]? = some r ∧ (k, response) ∈ p.answers
        ∧ Conveys s.codec response payload := by
    obtain ⟨-, r, response, ⟨hr, hanswered | ⟨hlost, -⟩⟩, hconveys⟩ := ho.written k payload hpayload
    · exact ⟨r, response, hr, hanswered, hconveys⟩
    · exact absurd hlost hs.sound
  have hnone : ¬requests.length < p.emitted.length := by
    intro hlt
    obtain ⟨r, -, hr, -⟩ := heach requests.length _ (List.getElem?_eq_getElem hlt)
    simp at hr
  refine ⟨by omega, by omega, heach, ?_⟩
  have hbytes := ho.bytes (by simp [hdone])
  rwa [hheld, List.append_nil] at hbytes

/-- **Sessions complete.**  Let the threads take turns in any way.  As long as not all
of them are done, one can go on, and no run has more turns than a bound that the
number of requests gives.  Where none can go on, all are done, and each request was
answered; or the codec could write neither a response nor what stands in for it, which
the codec of documents always can. -/
theorem completes (s : Setting δ) (hdepth : 1 ≤ s.depth) (requests : List Request) (shared : δ)
    (turns : List Turn) (hthreads : ∀ turn ∈ turns, turn.ofThread = true) (p : Pipeline δ)
    (hrun : (start requests shared).advanceAll s turns = some p) :
    (¬p.Finished → ∃ turn : Turn, turn.ofThread = true ∧ (p.advance s turn).isSome = true)
      ∧ turns.length ≤ 11 * requests.length + 5
      ∧ ((∀ turn : Turn, turn.ofThread = true → p.advance s turn = none) →
          p.reader = .done ∧ p.worker = .done
            ∧ ((p.writer = .done ∧ Complete s requests p)
              ∨ (s.codec ≠ .json ∧ ∃ fault response, p.writer = .failed fault
                ∧ Session.emit s.codec response = .error fault))) := by
  obtain ⟨hsteady, horder⟩ := steady_of_threads hthreads hrun
  refine ⟨?_, ?_, ?_⟩
  · intro hopen
    refine Classical.byContradiction fun hstuck => ?_
    have hnone (turn : Turn) (hthread : turn.ofThread = true) : p.advance s turn = none := by
      rw [← Option.not_isSome_iff_eq_none]
      exact fun hsome => hstuck ⟨turn, hthread, hsome⟩
    obtain ⟨hreader, hworker, hwriter⟩ := hsteady.stopped horder hdepth hnone
    exact hopen ⟨hreader, .inl hworker, hwriter⟩
  · have hle := length_add_weight_le hrun
    have hstart : (start requests shared).weight = 11 * requests.length + 5 := rfl
    omega
  · intro hstuck
    obtain ⟨hreader, hworker, hwriter⟩ := hsteady.stopped horder hdepth hstuck
    refine ⟨hreader, hworker, ?_⟩
    rcases hwriter with hdone | ⟨fault, hfailed⟩
    · exact .inl ⟨hdone, hsteady.complete horder hdone⟩
    · obtain ⟨response, hemit⟩ := hsteady.fault fault hfailed
      refine .inr ⟨?_, fault, response, hfailed, hemit⟩
      intro hjson
      rw [hjson] at hemit
      cases hemit

/-- Threads that are done cannot go on. -/
theorem stuck_of_done (hreader : p.reader = .done) (hworker : p.worker = .done)
    (hwriter : p.writer = .done) (turn : Turn) (hthread : turn.ofThread = true) :
    p.advance s turn = none := by
  cases turn with
  | reader => simp [advance, advanceReader, hreader]
  | worker => simp [advance, advanceWorker, hworker]
  | writer spill => simp [advance, advanceWriter, hwriter]
  | loss => cases hthread
  | breakage spill reason => cases hthread

/-- A schedule of the threads in which the queues fill and the writer waits. -/
def exhausting : List Turn :=
  [.reader, .reader, .reader, .reader, .reader, .writer 0, .reader, .writer 0, .worker, .worker,
    .writer 0, .writer 0, .writer 0, .writer 0, .writer 0, .reader, .worker, .writer 0]

/-- Both queues have room for one; the reader waits in front of the slots, and the writer
for the worker. -/
theorem completes_exhausting :
    let requests : List Request := [.echo "", ⟨.flush, ()⟩]
    let p := ((start requests ()).advanceAll naming exhausting).getD (start requests ())
    (start requests ()).advanceAll naming exhausting = some p
      ∧ (p.reader = .done ∧ p.worker = .done
        ∧ ((p.writer = .done ∧ Complete naming requests p)
          ∨ (naming.codec ≠ .json ∧ ∃ fault response, p.writer = .failed fault
            ∧ Session.emit naming.codec response = .error fault)))
      ∧ exhausting.length ≤ 11 * requests.length + 5 := by
  intro requests p
  have hsome : ((start requests ()).advanceAll naming exhausting).isSome = true := by
    decide +kernel
  have hrun : (start requests ()).advanceAll naming exhausting = some p := by
    obtain ⟨found, hfound⟩ := Option.isSome_iff_exists.mp hsome
    simp only [p, hfound, Option.getD_some]
  have hthreads : ∀ turn ∈ exhausting, turn.ofThread = true := by decide
  have hdone : p.reader = .done ∧ p.worker = .done ∧ p.writer = .done := by
    decide +kernel
  obtain ⟨hreader, hworker, hwriter⟩ := hdone
  have hstuck := stuck_of_done (s := naming) hreader hworker hwriter
  obtain ⟨-, hbound, hend⟩ :=
    completes naming (Nat.le_refl 1) requests () exhausting hthreads p hrun
  exact ⟨hrun, hend hstuck, hbound⟩

end Steady

end Pipeline

end ChainHost.Session
