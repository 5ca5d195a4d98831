/-
  Each request is dispatched once, and with its own place.

  The reader runs a request of consensus when it comes to it and hands all
  others to the worker; either way it gives away the next place, and no place
  twice.  A place passes from the queue of jobs through the worker to the
  answers, and what the worker replies carries the place of its request.
-/
import ChainHost.Proofs.Session.Moves

set_option autoImplicit false

namespace ChainHost.Session

/-! ## What was dispatched -/

/-- The place and the response of a request that was dispatched. -/
def Mark.answer? : Mark → Option (Nat × Response)
  | .begun _ => none
  | .ended index response => some (index, response)

/-- The place of the request that a worker is at. -/
def Worker.place : Worker → Option Nat
  | .running index _ => some index
  | .idle | .lost | .done => none

namespace Pipeline

variable {δ : Type}

/-- The places and responses of the requests that were dispatched, in that order. -/
def answers (p : Pipeline δ) : List (Nat × Response) := p.log.filterMap Mark.answer?

theorem answers_note (p : Pipeline δ) (mark : Mark) :
    (p.note mark).answers = p.answers ++ mark.answer?.toList := by
  rw [answers, note, List.filterMap_append]
  cases mark <;> rfl

theorem answers_begun (p : Pipeline δ) (index : Nat) : (p.note (.begun index)).answers = p.answers :=
  (answers_note p _).trans (List.append_nil _)

theorem answers_ended (p : Pipeline δ) (index : Nat) (response : Response) :
    (p.note (.ended index response)).answers = p.answers ++ [(index, response)] :=
  answers_note p _

/-- The requests at some places, dispatched one after another, are answered so. -/
inductive Replays (s : Setting δ) (requests : List Request) :
    List (Nat × Response) → δ → δ → Prop where
  | nil {a : δ} : Replays s requests [] a a
  | concat {answers : List (Nat × Response)} {a b : δ} {k : Nat} {r : Request}
      (before : Replays s requests answers a b) (hr : requests[k]? = some r) :
      Replays s requests (answers ++ [(k, (s.dispatch r b).1)]) a (s.dispatch r b).2

theorem Replays.exists_request {s : Setting δ} {requests : List Request}
    {answers : List (Nat × Response)} {a b : δ} (h : Replays s requests answers a b) {k : Nat}
    {response : Response} (hmem : (k, response) ∈ answers) : ∃ r, requests[k]? = some r := by
  induction h with
  | nil => cases hmem
  | concat before hr ih =>
      rcases List.mem_append.mp hmem with hmem | hmem
      · exact ih hmem
      · cases List.mem_singleton.mp hmem
        exact ⟨_, hr⟩

theorem Replays.note {s : Setting δ} {requests : List Request} {p : Pipeline δ} {a : δ} {k : Nat}
    {r : Request} (h : Replays s requests p.answers a p.shared) (hr : requests[k]? = some r) :
    Replays s requests (p.note (.ended k (s.dispatch r p.shared).1)).answers a
      (s.dispatch r p.shared).2 := by
  rw [answers_ended]
  exact h.concat hr

theorem self_mem_answers_ended (p : Pipeline δ) (index : Nat) (response : Response) :
    (index, response) ∈ (p.note (.ended index response)).answers := by
  rw [answers_ended]
  exact List.mem_append_right _ List.mem_cons_self

theorem mem_answers_ended {p : Pipeline δ} {answer : Nat × Response} (index : Nat)
    (response : Response) (h : answer ∈ p.answers) :
    answer ∈ (p.note (.ended index response)).answers := by
  rw [answers_ended]
  exact List.mem_append_left _ h

/-! ## Places -/

/-- The request at a place is one for the worker. -/
def ForWorker (requests : List Request) (k : Nat) (r : Request) : Prop :=
  requests[k]? = some r ∧ r.capability ≠ .consensus

/-- A slot is for the request at a place. -/
def Promised (requests : List Request) (answers : List (Nat × Response)) (k : Nat) : Slot → Prop
  | .ready response => (k, response) ∈ answers
  | .pending index verb => index = k ∧ ∃ r, ForWorker requests k r ∧ r.verb = verb

theorem Promised.mono {requests : List Request} {answers answers' : List (Nat × Response)}
    {k : Nat} {slot : Slot} (h : Promised requests answers k slot) (hsub : answers ⊆ answers') :
    Promised requests answers' k slot := by
  cases slot with
  | ready response => exact hsub h
  | pending index verb => exact h

/-- The reader has what follows the requests with a reserved slot. -/
def Intake (requests : List Request) (p : Pipeline δ) : Prop :=
  match p.reader with
  | .reading rest => requests.drop p.reserved = rest
  | .running r rest => requests.drop p.reserved = r :: rest ∧ r.capability = .consensus
  | .handing r rest => requests.drop p.reserved = r :: rest ∧ r.capability ≠ .consensus
  | .reserving slot rest =>
      requests.drop (p.reserved + 1) = rest ∧ Promised requests p.answers p.reserved slot
  | .done => True

/-- Places from here on are still with the reader. -/
def frontier (p : Pipeline δ) : Nat :=
  match p.reader with
  | .reserving _ _ | .done => p.reserved + 1
  | .reading _ | .running _ _ | .handing _ _ => p.reserved

/-- The places of requests that are dispatched, or are with the worker. -/
def tickets (p : Pipeline δ) : List Nat :=
  p.answers.map (·.1) ++ p.worker.place.toList ++ p.jobs.map (·.1)

/-- What was dispatched, is dispatched by the worker and waits for it: each place once,
and each with its own request. -/
structure Work (s : Setting δ) (requests : List Request) (shared : δ) (p : Pipeline δ) : Prop where
  replays : Replays s requests p.answers shared p.shared
  distinct : p.tickets.Nodup
  below : ∀ k ∈ p.tickets, k < p.frontier
  jobs : ∀ job ∈ p.jobs, ForWorker requests job.1 job.2
  worker : ∀ index r, p.worker = .running index r → ForWorker requests index r
  replies : ∀ reply ∈ p.replies, reply ∈ p.answers

/-- What the reader has and what was and is to be dispatched go together. -/
structure Dispatched (s : Setting δ) (requests : List Request) (shared : δ) (p : Pipeline δ) :
    Prop where
  intake : Intake requests p
  work : Work s requests shared p

theorem work_start (s : Setting δ) (requests : List Request) (shared : δ) :
    Work s requests shared (start requests shared) where
  replays := .nil
  distinct := List.nodup_nil
  below _ hk := nomatch hk
  jobs _ hjob := nomatch hjob
  worker _ _ hworker := nomatch hworker
  replies _ hreply := nomatch hreply

theorem dispatched_start (s : Setting δ) (requests : List Request) (shared : δ) :
    Dispatched s requests shared (start requests shared) := ⟨rfl, work_start s requests shared⟩

section Turns

variable {s : Setting δ} {requests : List Request} {shared : δ} {p q : Pipeline δ}

theorem Intake.mono (h : Intake requests p) (hreader : q.reader = p.reader)
    (hreserved : q.reserved = p.reserved) (hanswers : p.answers ⊆ q.answers) :
    Intake requests q := by
  unfold Intake at h ⊢
  rw [hreader, hreserved]
  cases hr : p.reader with
  | reserving slot rest =>
      rw [hr] at h
      exact ⟨h.1, h.2.mono hanswers⟩
  | _ =>
      rw [hr] at h
      exact h

theorem getElem?_of_drop {n : Nat} {r : Request} {rest : List Request}
    (h : requests.drop n = r :: rest) : requests[n]? = some r ∧ requests.drop (n + 1) = rest := by
  constructor
  · rw [← List.head?_drop, h, List.head?_cons]
  · rw [← List.drop_drop, h, List.drop_one, List.tail_cons]

theorem Intake.running (h : Intake requests p) {r : Request} {rest : List Request}
    (hreader : p.reader = .running r rest) :
    requests[p.reserved]? = some r ∧ r.capability = .consensus ∧
      requests.drop (p.reserved + 1) = rest := by
  rw [Intake, hreader] at h
  obtain ⟨hr, hrest⟩ := getElem?_of_drop h.1
  exact ⟨hr, h.2, hrest⟩

theorem Intake.handing (h : Intake requests p) {r : Request} {rest : List Request}
    (hreader : p.reader = .handing r rest) :
    ForWorker requests p.reserved r ∧ requests.drop (p.reserved + 1) = rest := by
  rw [Intake, hreader] at h
  obtain ⟨hr, hrest⟩ := getElem?_of_drop h.1
  exact ⟨⟨hr, h.2⟩, hrest⟩

theorem Intake.reserving (h : Intake requests p) {slot : Slot} {rest : List Request}
    (hreader : p.reader = .reserving slot rest) :
    Promised requests p.answers p.reserved slot ∧ requests.drop (p.reserved + 1) = rest := by
  rw [Intake, hreader] at h
  exact ⟨h.2, h.1⟩

/-- Work goes on as it was when no place is given away. -/
theorem Work.mono (hw : Work s requests shared p) (hanswers : q.answers = p.answers)
    (hworker : q.worker = p.worker) (hjobs : q.jobs = p.jobs) (hshared : q.shared = p.shared)
    (hreplies : q.replies ⊆ p.replies) (hfrontier : p.frontier ≤ q.frontier) :
    Work s requests shared q := by
  have htickets : q.tickets = p.tickets := by rw [tickets, tickets, hanswers, hworker, hjobs]
  refine ⟨?_, ?_, ?_, ?_, ?_, ?_⟩
  · rw [hanswers, hshared]
    exact hw.replays
  · rw [htickets]
    exact hw.distinct
  · rw [htickets]
    intro k hk
    exact Nat.lt_of_lt_of_le (hw.below k hk) hfrontier
  · rw [hjobs]
    exact hw.jobs
  · rw [hworker]
    exact hw.worker
  · rw [hanswers]
    intro reply hreply
    exact hw.replies reply (hreplies hreply)

/-! ## Turns of the reader -/

/-- The reader only answers requests of consensus, at the place it is to reserve next. -/
theorem ReaderMove.answers_cases (hm : ReaderMove s p q) :
    q.answers = p.answers ∨
      ∃ r rest, p.reader = .running r rest ∧
        q.answers = p.answers ++ [(p.reserved, (s.dispatch r p.shared).1)] := by
  cases hm with
  | begin hreader hconsensus => exact .inl (answers_begun p _)
  | @answer r rest hreader => exact .inr ⟨r, rest, hreader, answers_ended p _ _⟩
  | _ => exact .inl rfl

theorem ReaderMove.answers_subset (hm : ReaderMove s p q) : p.answers ⊆ q.answers := by
  rcases hm.answers_cases with hsame | ⟨r, rest, -, hmore⟩
  · rw [hsame]
    exact List.Subset.refl _
  · rw [hmore]
    exact List.subset_append_left ..

/-- The reader only reserves slots for what it has given away. -/
theorem ReaderMove.slots_cases (hm : ReaderMove s p q) (hi : Intake requests p) :
    (q.slots = p.slots ∧ q.reserved = p.reserved) ∨
      ∃ slot, Promised requests q.answers p.reserved slot ∧ q.slots = p.slots ++ [slot] ∧
        q.reserved = p.reserved + 1 := by
  cases hm with
  | @reserve slot rest hreader hwriter hroom =>
      exact .inr ⟨slot, (hi.reserving hreader).1, rfl, rfl⟩
  | _ => exact .inl ⟨rfl, rfl⟩

theorem ReaderMove.intake (hm : ReaderMove s p q) (hi : Intake requests p) :
    Intake requests q := by
  cases hm with
  | stop hreader => exact trivial
  | begin hreader hconsensus =>
      rw [Intake, hreader] at hi
      exact ⟨hi, hconsensus⟩
  | pick hreader hother =>
      rw [Intake, hreader] at hi
      exact ⟨hi, hother⟩
  | @answer r rest hreader =>
      obtain ⟨-, -, hrest⟩ := hi.running hreader
      exact ⟨hrest, self_mem_answers_ended p p.reserved (s.dispatch r p.shared).1⟩
  | hand hreader hworker hroom =>
      obtain ⟨hr, hrest⟩ := hi.handing hreader
      exact ⟨hrest, rfl, _, hr, rfl⟩
  | drop hreader hworker =>
      obtain ⟨hr, hrest⟩ := hi.handing hreader
      exact ⟨hrest, rfl, _, hr, rfl⟩
  | reserve hreader hwriter hroom => exact (hi.reserving hreader).2
  | abandon hreader hwriter => exact trivial

/-- A place that is still with the reader is given away. -/
theorem Work.admit (hw : Work s requests shared p) (hwith : p.frontier = p.reserved)
    (htickets : q.tickets.Perm (p.reserved :: p.tickets)) (hfrontier : q.frontier = p.reserved + 1)
    (hreplays : Replays s requests q.answers shared q.shared)
    (hjobs : ∀ job ∈ q.jobs, ForWorker requests job.1 job.2) (hworker : q.worker = p.worker)
    (hreplies : ∀ reply ∈ q.replies, reply ∈ q.answers) : Work s requests shared q := by
  refine ⟨hreplays, ?_, ?_, hjobs, ?_, hreplies⟩
  · refine htickets.nodup_iff.mpr (List.nodup_cons.mpr ⟨fun hmem => ?_, hw.distinct⟩)
    have hlt := hw.below _ hmem
    omega
  · intro k hk
    rcases List.mem_cons.mp (htickets.mem_iff.mp hk) with rfl | hold
    · omega
    · have hlt := hw.below k hold
      omega
  · rw [hworker]
    exact hw.worker

theorem tickets_answered {index : Nat} {response : Response}
    (hanswers : q.answers = p.answers ++ [(index, response)]) (hworker : q.worker = p.worker)
    (hjobs : q.jobs = p.jobs) : q.tickets.Perm (index :: p.tickets) := by
  rw [tickets, tickets, hanswers, hworker, hjobs, List.map_append, List.append_assoc,
    List.append_assoc, List.append_assoc]
  exact List.perm_middle

theorem tickets_handed {index : Nat} {r : Request} (hanswers : q.answers = p.answers)
    (hworker : q.worker = p.worker) (hjobs : q.jobs = p.jobs ++ [(index, r)]) :
    q.tickets.Perm (index :: p.tickets) := by
  rw [tickets, tickets, hanswers, hworker, hjobs, List.map_append, ← List.append_assoc]
  exact List.perm_append_singleton ..

/-- The reader gives each place away once. -/
theorem ReaderMove.work (hm : ReaderMove s p q) (hi : Intake requests p)
    (hw : Work s requests shared p) : Work s requests shared q := by
  cases hm with
  | stop hreader =>
      refine hw.mono rfl rfl rfl rfl (List.Subset.refl _) ?_
      simp [frontier, hreader]
  | begin hreader hconsensus =>
      refine hw.mono (answers_begun p _) rfl rfl rfl (List.Subset.refl _) ?_
      simp [frontier, hreader, note]
  | pick hreader hother =>
      refine hw.mono rfl rfl rfl rfl (List.Subset.refl _) ?_
      simp [frontier, hreader]
  | @answer r rest hreader =>
      obtain ⟨hr, -, -⟩ := hi.running hreader
      have hanswers := answers_ended p p.reserved (s.dispatch r p.shared).1
      refine hw.admit ?_ ?_ rfl (hw.replays.note hr) hw.jobs rfl ?_
      · simp [frontier, hreader]
      · exact tickets_answered hanswers rfl rfl
      · intro reply hreply
        exact mem_answers_ended p.reserved _ (hw.replies reply hreply)
  | @hand r rest hreader hworker hroom =>
      obtain ⟨hr, -⟩ := hi.handing hreader
      refine hw.admit ?_ ?_ rfl hw.replays ?_ rfl hw.replies
      · simp [frontier, hreader]
      · exact tickets_handed rfl rfl rfl
      · intro job hjob
        rcases List.mem_append.mp hjob with hold | hnew
        · exact hw.jobs job hold
        · rw [List.mem_singleton.mp hnew]
          exact hr
  | drop hreader hworker =>
      refine hw.mono rfl rfl rfl rfl (List.Subset.refl _) ?_
      simp [frontier, hreader]
  | reserve hreader hwriter hroom =>
      refine hw.mono rfl rfl rfl rfl (List.Subset.refl _) ?_
      simp [frontier, hreader]
  | abandon hreader hwriter =>
      refine hw.mono rfl rfl rfl rfl (List.Subset.refl _) ?_
      simp [frontier, hreader]

/-! ## Turns of the worker -/

/-- The worker only answers the request that it is at. -/
theorem WorkerMove.answers_cases (hm : WorkerMove s p q) :
    q.answers = p.answers ∨
      ∃ index r, p.worker = .running index r ∧
        q.answers = p.answers ++ [(index, (s.dispatch r p.shared).1)] ∧
        q.replies = p.replies ++ [(index, (s.dispatch r p.shared).1)] := by
  cases hm with
  | take hworker hjobs => exact .inl (answers_begun p _)
  | @answer index r hworker => exact .inr ⟨index, r, hworker, answers_ended p _ _, rfl⟩
  | _ => exact .inl rfl

theorem WorkerMove.answers_subset (hm : WorkerMove s p q) : p.answers ⊆ q.answers := by
  rcases hm.answers_cases with hsame | ⟨index, r, -, hmore, -⟩
  · rw [hsame]
    exact List.Subset.refl _
  · rw [hmore]
    exact List.subset_append_left ..

theorem WorkerMove.replies_subset (hm : WorkerMove s p q) : p.replies ⊆ q.replies := by
  cases hm with
  | answer hworker => exact List.subset_append_left ..
  | _ => exact List.Subset.refl _

theorem tickets_sublist {answers : List (Nat × Response)} {worker : Worker}
    {jobs : List (Nat × Request)} (hanswers : q.answers = answers) (hworker : q.worker = worker)
    (hjobs : q.jobs = jobs)
    (h : (answers.map (·.1) ++ worker.place.toList ++ jobs.map (·.1)).Sublist p.tickets) :
    q.tickets.Sublist p.tickets := by
  rwa [tickets, hanswers, hworker, hjobs]

/-- The places with the worker pass from its queue through it to the answers. -/
theorem WorkerMove.tickets_sublist (hm : WorkerMove s p q) : q.tickets.Sublist p.tickets := by
  cases hm with
  | take hworker hjobs =>
      refine Pipeline.tickets_sublist (answers_begun ..) rfl rfl ?_
      rw [tickets, hworker, hjobs]
      simp [Worker.place]
  | answer hworker =>
      refine Pipeline.tickets_sublist (answers_ended ..) rfl rfl ?_
      rw [tickets, hworker]
      simp [Worker.place, note]
  | stop hworker hjobs hreader =>
      refine Pipeline.tickets_sublist rfl rfl rfl ?_
      rw [tickets, hworker]
      exact List.Sublist.refl _
  | lose hworker =>
      refine Pipeline.tickets_sublist rfl rfl rfl ?_
      rw [tickets, List.append_assoc, List.append_assoc]
      exact (List.nil_sublist _).append_left _

theorem WorkerMove.work (hm : WorkerMove s p q) (hw : Work s requests shared p) :
    Work s requests shared q := by
  have hfrontier : q.frontier = p.frontier := by
    obtain ⟨hreader, -, -, -, -, -, hreserved⟩ := hm.frame
    rw [frontier, frontier, hreader, hreserved]
  have hdistinct : q.tickets.Nodup := hw.distinct.sublist hm.tickets_sublist
  have hbelow : ∀ k ∈ q.tickets, k < q.frontier := by
    intro k hk
    rw [hfrontier]
    exact hw.below k (hm.tickets_sublist.subset hk)
  cases hm with
  | @take index r jobs hworker hjobs =>
      have hanswers := answers_begun p index
      have hreplays : Replays s requests (p.note (.begun index)).answers shared p.shared := by
        rw [hanswers]
        exact hw.replays
      have hreplies : ∀ reply ∈ p.replies, reply ∈ (p.note (.begun index)).answers := by
        rw [hanswers]
        exact hw.replies
      have hwith := hw.jobs
      rw [hjobs] at hwith
      obtain ⟨hhead, hrest⟩ := List.forall_mem_cons.mp hwith
      refine ⟨hreplays, hdistinct, hbelow, hrest, ?_, hreplies⟩
      intro found r' hfound
      cases hfound
      exact hhead
  | @answer index r hworker =>
      have hr := (hw.worker index r hworker).1
      refine ⟨hw.replays.note hr, hdistinct, hbelow, hw.jobs, ?_, ?_⟩
      · intro found r' hidle
        cases hidle
      · intro reply hreply
        rcases List.mem_append.mp hreply with hold | hnew
        · exact mem_answers_ended index _ (hw.replies reply hold)
        · rw [List.mem_singleton.mp hnew]
          exact self_mem_answers_ended p index _
  | stop hworker hjobs hreader =>
      refine ⟨hw.replays, hdistinct, hbelow, hw.jobs, ?_, hw.replies⟩
      intro found r' hdone
      cases hdone
  | lose hworker =>
      refine ⟨hw.replays, hdistinct, hbelow, ?_, ?_, hw.replies⟩
      · intro job hjob
        cases hjob
      · intro found r' hlost
        cases hlost

/-! ## All turns -/

theorem Dispatched.reader (hd : Dispatched s requests shared p) (hm : ReaderMove s p q) :
    Dispatched s requests shared q := ⟨hm.intake hd.intake, hm.work hd.intake hd.work⟩

theorem Dispatched.worker (hd : Dispatched s requests shared p) (hm : WorkerMove s p q) :
    Dispatched s requests shared q := by
  obtain ⟨hreader, -, -, -, -, -, hreserved⟩ := hm.frame
  exact ⟨hd.intake.mono hreader hreserved hm.answers_subset, hm.work hd.work⟩

theorem Dispatched.writer (hd : Dispatched s requests shared p) (hm : WriterMove s p q) :
    Dispatched s requests shared q := by
  obtain ⟨hreader, hworker, hreserved, hjobs, hshared, hlog, hreplies⟩ := hm.frame
  have hanswers : q.answers = p.answers := by rw [answers, answers, hlog]
  have hfrontier : q.frontier = p.frontier := by rw [frontier, frontier, hreader, hreserved]
  constructor
  · apply hd.intake.mono hreader hreserved
    rw [hanswers]
    exact List.Subset.refl _
  · exact hd.work.mono hanswers hworker hjobs hshared hreplies (Nat.le_of_eq hfrontier.symm)

end Turns

end Pipeline

end ChainHost.Session
