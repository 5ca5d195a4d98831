/-
  The order in which a session calls its application.

  The reader runs a request of consensus where it comes to it, and the worker takes
  all others from a queue, so that two calls can be out at once.  A log of calls is
  `Sequential` if each call starts once, and only when every earlier one has returned
  that it has to wait for: a call of consensus waits for the earlier ones of consensus,
  and any other call for all earlier ones.  What keeps the log so is that the reader
  hands a request on only behind the calls of its own, and that the queue and what the
  worker has done make up, in order, all that was handed on.
-/
import ChainHost.Proofs.Session.Completion

set_option autoImplicit false

namespace ChainHost.Session

/-! ## Logs of calls -/

/-- The place of a call that starts. -/
def Mark.begun? : Mark → Option Nat
  | .begun index => some index
  | .ended _ _ => none

/-- The places of the calls in the order in which they start. -/
def begun (log : List Mark) : List Nat := log.filterMap Mark.begun?

/-- A request of consensus stands at a place. -/
def Consensus (requests : List Request) (k : Nat) : Prop :=
  ∃ r, requests[k]? = some r ∧ r.capability = .consensus

/-- The call at a place has returned. -/
def Returned (log : List Mark) (k : Nat) : Prop := ∃ response, .ended k response ∈ log

/-- A later call may pass an earlier one: it is of consensus, and the earlier one is
not. -/
def Passes (requests : List Request) (earlier later : Nat) : Prop :=
  ¬ Consensus requests earlier ∧ Consensus requests later

/-- Each call starts once, when each earlier one has returned or can be passed, and
returns once. -/
inductive Sequential (requests : List Request) : List Mark → Prop where
  | nil : Sequential requests []
  | start {log : List Mark} {j : Nat} (before : Sequential requests log)
      (hrequest : j < requests.length) (hnew : .begun j ∉ log)
      (hdue : ∀ i < j, Returned log i ∨ Passes requests i j) :
      Sequential requests (log ++ [.begun j])
  | finish {log : List Mark} {k : Nat} {response : Response} (before : Sequential requests log)
      (hbegun : .begun k ∈ log) (hopen : ¬ Returned log k) :
      Sequential requests (log ++ [.ended k response])

/-- The calls of a log are in the order of their requests, but for a call of consensus
that passes earlier calls of other kinds. -/
structure Ordered (requests : List Request) (log : List Mark) : Prop where
  requested : ∀ k ∈ begun log, k < requests.length
  once : (begun log).Nodup
  consensus : (begun log).Pairwise fun i j =>
    Consensus requests i → Consensus requests j → i < j
  others : (begun log).Pairwise fun i j =>
    ¬ Consensus requests i → ¬ Consensus requests j → i < j
  /-- A call returns once, behind its start. -/
  returns : ∀ before k response later, log = before ++ .ended k response :: later →
    .begun k ∈ before ∧ ¬ Returned before k
  /-- A call of consensus has returned when any later one starts. -/
  waits : ∀ before j later, log = before ++ .begun j :: later →
    ∀ i < j, Consensus requests i → Returned before i
  /-- Where a later call starts before an earlier one has returned, it passes it. -/
  only : ∀ before j later, log = before ++ .begun j :: later →
    ∀ i < j, ¬ Returned before i → Passes requests i j

theorem mem_begun_iff {log : List Mark} {k : Nat} : k ∈ begun log ↔ .begun k ∈ log := by
  rw [begun, List.mem_filterMap]
  constructor
  · rintro ⟨mark, hmem, hmark⟩
    cases mark with
    | begun index =>
        cases hmark
        exact hmem
    | ended index response => cases hmark
  · intro hmem
    exact ⟨_, hmem, rfl⟩

theorem Returned.mono {log more : List Mark} {k : Nat} (h : Returned log k) (hsub : log ⊆ more) :
    Returned more k := by
  obtain ⟨response, hmem⟩ := h
  exact ⟨response, hsub hmem⟩

/-- A mark of a log with one more is the last one, or stands in the log. -/
theorem split_concat {log before later : List Mark} {last mark : Mark}
    (h : log ++ [last] = before ++ mark :: later) :
    (log = before ∧ last = mark) ∨ ∃ rest, log = before ++ mark :: rest := by
  rcases List.eq_nil_or_concat later with rfl | ⟨rest, final, rfl⟩
  · obtain ⟨hlog, hlast⟩ := List.append_inj' h rfl
    exact .inl ⟨hlog, List.singleton_inj.mp hlast⟩
  · rw [List.concat_eq_append, ← List.cons_append, ← List.append_assoc] at h
    exact .inr ⟨rest, (List.append_inj' h rfl).1⟩

namespace Sequential

variable {requests : List Request} {log : List Mark} (h : Sequential requests log)

include h

theorem requested {k : Nat} (hk : .begun k ∈ log) : k < requests.length := by
  induction h with
  | nil => cases hk
  | start before hrequest hnew hdue ih =>
      rcases List.mem_append.mp hk with hold | hlast
      · exact ih hold
      · cases List.mem_singleton.mp hlast
        exact hrequest
  | finish before hbegun hopen ih =>
      rcases List.mem_append.mp hk with hold | hlast
      · exact ih hold
      · cases List.mem_singleton.mp hlast

theorem due {before later : List Mark} {j : Nat} (hlog : log = before ++ .begun j :: later) :
    ∀ i < j, Returned before i ∨ Passes requests i j := by
  induction h generalizing later with
  | nil => simp at hlog
  | start earlier hrequest hnew hdue ih =>
      rcases split_concat hlog with ⟨rfl, hlast⟩ | ⟨rest, hrest⟩
      · cases hlast
        exact hdue
      · exact ih hrest
  | finish earlier hbegun hopen ih =>
      rcases split_concat hlog with ⟨-, hlast⟩ | ⟨rest, hrest⟩
      · cases hlast
      · exact ih hrest

theorem returns {before later : List Mark} {k : Nat} {response : Response}
    (hlog : log = before ++ .ended k response :: later) :
    .begun k ∈ before ∧ ¬ Returned before k := by
  induction h generalizing later with
  | nil => simp at hlog
  | start earlier hrequest hnew hdue ih =>
      rcases split_concat hlog with ⟨-, hlast⟩ | ⟨rest, hrest⟩
      · cases hlast
      · exact ih hrest
  | finish earlier hbegun hopen ih =>
      rcases split_concat hlog with ⟨rfl, hlast⟩ | ⟨rest, hrest⟩
      · cases hlast
        exact ⟨hbegun, hopen⟩
      · exact ih hrest

theorem begun_of_returned {k : Nat} (hk : Returned log k) : .begun k ∈ log := by
  obtain ⟨response, hmem⟩ := hk
  obtain ⟨before, later, hlog⟩ := List.append_of_mem hmem
  have hstarted := (h.returns hlog).1
  rw [hlog]
  exact List.mem_append_left _ hstarted

/-- Behind a call, none starts that is earlier and of one kind with it. -/
theorem lt_of_begun {i j : Nat} (hi : .begun i ∈ log) (hnew : .begun j ∉ log)
    (halike : Consensus requests i ↔ Consensus requests j) : i < j := by
  obtain ⟨before, later, hlog⟩ := List.append_of_mem hi
  rcases Nat.lt_trichotomy i j with hlt | rfl | hgt
  · exact hlt
  · exact absurd hi hnew
  · rcases h.due hlog j hgt with hreturned | ⟨hother, hconsensus⟩
    · have hsub : before ⊆ log := by
        rw [hlog]
        exact List.subset_append_left ..
      exact absurd (h.begun_of_returned (hreturned.mono hsub)) hnew
    · exact absurd (halike.mp hconsensus) hother

theorem pairwise : (begun log).Pairwise fun i j =>
    i ≠ j ∧ ((Consensus requests i ↔ Consensus requests j) → i < j) := by
  induction h with
  | nil => exact .nil
  | @start log j before hrequest hnew hdue ih =>
      have hmore : begun (log ++ [.begun j]) = begun log ++ [j] := by
        rw [begun, List.filterMap_append]
        rfl
      rw [hmore, List.pairwise_append]
      refine ⟨ih, List.pairwise_singleton .., fun i hi last hlast => ?_⟩
      rw [List.mem_singleton.mp hlast]
      have hstarted := mem_begun_iff.mp hi
      refine ⟨?_, before.lt_of_begun hstarted hnew⟩
      rintro rfl
      exact hnew hstarted
  | @finish log k response before hbegun hopen ih =>
      have hsame : begun (log ++ [.ended k response]) = begun log := by
        rw [begun, List.filterMap_append]
        exact List.append_nil _
      rw [hsame]
      exact ih

theorem ordered : Ordered requests log where
  requested _ hk := h.requested (mem_begun_iff.mp hk)
  once := h.pairwise.imp fun hpair => hpair.1
  consensus := h.pairwise.imp fun hpair hi hj => hpair.2 (iff_of_true hi hj)
  others := h.pairwise.imp fun hpair hi hj => hpair.2 (iff_of_false hi hj)
  returns _ _ _ _ hlog := h.returns hlog
  waits _ _ _ hlog i hlt hi := by
    rcases h.due hlog i hlt with hreturned | ⟨hother, -⟩
    · exact hreturned
    · exact absurd hi hother
  only _ _ _ hlog i hlt hopen := by
    rcases h.due hlog i hlt with hreturned | hpasses
    · exact absurd hreturned hopen
    · exact hpasses

end Sequential

namespace Pipeline

variable {δ : Type}

/-! ## What the threads know of each other -/

theorem mem_answers_iff {p : Pipeline δ} {k : Nat} {response : Response} :
    (k, response) ∈ p.answers ↔ .ended k response ∈ p.log := by
  rw [answers, List.mem_filterMap]
  constructor
  · rintro ⟨mark, hmem, hmark⟩
    cases mark with
    | begun index => cases hmark
    | ended index found =>
        cases hmark
        exact hmem
  · intro hmem
    exact ⟨_, hmem, rfl⟩

theorem returned_iff {p : Pipeline δ} {k : Nat} :
    Returned p.log k ↔ k ∈ p.answers.map (·.1) := by
  rw [List.mem_map]
  constructor
  · rintro ⟨response, hmem⟩
    exact ⟨(k, response), mem_answers_iff.mpr hmem, rfl⟩
  · rintro ⟨⟨_, response⟩, hmem, rfl⟩
    exact ⟨response, mem_answers_iff.mp hmem⟩

/-- The calls of a session, and what is still to be called. -/
structure Calls (requests : List Request) (p : Pipeline δ) : Prop where
  sequential : Sequential requests p.log
  /-- A call that has started waits nowhere, and its place is given away, or the reader
  is at it. -/
  started : ∀ k, .begun k ∈ p.log → k ∉ p.jobs.map (·.1)
    ∧ (k < p.frontier ∨ k = p.reserved ∧ ∃ r rest, p.reader = .running r rest)
  reader : ∀ r rest, p.reader = .running r rest → .begun p.reserved ∈ p.log
  worker : ∀ k, p.worker.place = some k → .begun k ∈ p.log
  returned : ∀ k < p.frontier, Consensus requests k → Returned p.log k
  /-- A worker that is not gone has every place that was handed on. -/
  placed : p.worker ≠ .lost → ∀ k < p.frontier, k < requests.length → k ∈ p.tickets
  queued : (p.jobs.map (·.1)).Pairwise (· < ·)

theorem calls_start (requests : List Request) (shared : δ) :
    Calls requests (start requests shared) where
  sequential := .nil
  started _ hk := nomatch hk
  reader := nofun
  worker := nofun
  returned _ hk := nomatch hk
  placed _ _ hk := nomatch hk
  queued := .nil

section Turns

variable {s : Setting δ} {requests : List Request} {shared : δ} {p q : Pipeline δ}

/-- The calls stay as they are when the reader comes by places without a call of its
own: there is none, or the worker has it, if it is not gone. -/
theorem Calls.pass (hc : Calls requests p) (hlog : q.log = p.log) (hworker : q.worker = p.worker)
    (hjobs : q.jobs = p.jobs) (hbefore : ∀ r rest, p.reader ≠ .running r rest)
    (hafter : ∀ r rest, q.reader ≠ .running r rest) (hle : p.frontier ≤ q.frontier)
    (hpassed : ∀ k, p.frontier ≤ k → k < q.frontier →
      ¬ Consensus requests k ∧ (p.worker ≠ .lost → requests.length ≤ k)) :
    Calls requests q := by
  have htickets : q.tickets = p.tickets := by
    rw [tickets, tickets, answers, answers, hlog, hworker, hjobs]
  refine ⟨?_, ?_, ?_, ?_, ?_, ?_, ?_⟩
  · rw [hlog]
    exact hc.sequential
  · rw [hlog, hjobs]
    intro k hk
    obtain ⟨hfree, hlt | ⟨-, r, rest, hrunning⟩⟩ := hc.started k hk
    · exact ⟨hfree, .inl (Nat.lt_of_lt_of_le hlt hle)⟩
    · exact absurd hrunning (hbefore r rest)
  · intro r rest hrunning
    exact absurd hrunning (hafter r rest)
  · rw [hlog, hworker]
    exact hc.worker
  · rw [hlog]
    intro k hk hconsensus
    rcases Nat.lt_or_ge k p.frontier with hlt | hge
    · exact hc.returned k hlt hconsensus
    · exact absurd hconsensus (hpassed k hge hk).1
  · rw [hworker, htickets]
    intro hsound k hk hlength
    rcases Nat.lt_or_ge k p.frontier with hlt | hge
    · exact hc.placed hsound k hlt hlength
    · exact absurd hlength (Nat.not_lt.mpr ((hpassed k hge hk).2 hsound))
  · rw [hjobs]
    exact hc.queued

/-- The calls stay as they are when the reader neither calls nor passes a place. -/
theorem Calls.stay (hc : Calls requests p) (hlog : q.log = p.log) (hworker : q.worker = p.worker)
    (hjobs : q.jobs = p.jobs) (hbefore : ∀ r rest, p.reader ≠ .running r rest)
    (hafter : ∀ r rest, q.reader ≠ .running r rest) (hsame : q.frontier = p.frontier) :
    Calls requests q := by
  refine hc.pass hlog hworker hjobs hbefore hafter (Nat.le_of_eq hsame.symm) ?_
  intro k hge hlt
  exact absurd hlt (hsame ▸ Nat.not_lt.mpr hge)

theorem not_consensus_of_forWorker {k : Nat} {r : Request} (h : ForWorker requests k r) :
    ¬ Consensus requests k := by
  rintro ⟨found, hfound, hconsensus⟩
  rw [h.1] at hfound
  cases hfound
  exact h.2 hconsensus

theorem getElem?_lt_length {k : Nat} {r : Request} (h : requests[k]? = some r) :
    k < requests.length := (List.getElem?_eq_some_iff.mp h).1

/-- The reader starts the call of the next place. -/
theorem Calls.begin (hc : Calls requests p) (hw : Work s requests shared p) {r : Request}
    {rest : List Request} (hreader : p.reader = .reading (r :: rest))
    (hr : requests[p.reserved]? = some r) (hconsensus : r.capability = .consensus) :
    Calls requests { p.note (.begun p.reserved) with reader := .running r rest } := by
  have hfrontier : p.frontier = p.reserved := by rw [frontier, hreader]
  have hnew : .begun p.reserved ∉ p.log := by
    intro hstarted
    rcases (hc.started _ hstarted).2 with hlt | ⟨-, found, more, hrunning⟩
    · omega
    · rw [hreader] at hrunning
      cases hrunning
  have htickets : ({ p.note (.begun p.reserved) with reader := .running r rest } :
      Pipeline δ).tickets = p.tickets := by
    rw [tickets, tickets]
    exact congrArg (fun found => found.map (·.1) ++ _ ++ _) (answers_begun p _)
  refine ⟨?_, ?_, ?_, ?_, ?_, ?_, hc.queued⟩
  · refine hc.sequential.start (getElem?_lt_length hr) hnew fun i hi => ?_
    -- The reader has no call out, so that all it had of consensus have returned.
    by_cases hother : Consensus requests i
    · exact .inl (hc.returned i (hfrontier ▸ hi) hother)
    · exact .inr ⟨hother, r, hr, hconsensus⟩
  · intro k hk
    rcases List.mem_append.mp hk with hold | hlast
    · obtain ⟨hfree, hlt | ⟨-, found, more, hrunning⟩⟩ := hc.started k hold
      · rw [hfrontier] at hlt
        exact ⟨hfree, .inl hlt⟩
      · rw [hreader] at hrunning
        cases hrunning
    · cases List.mem_singleton.mp hlast
      refine ⟨fun hqueued => ?_, .inr ⟨rfl, r, rest, rfl⟩⟩
      have hlt := hw.below p.reserved (List.mem_append_right _ hqueued)
      omega
  · intro _ _ _
    exact List.mem_append_right _ List.mem_cons_self
  · intro k hk
    exact List.mem_append_left _ (hc.worker k hk)
  · intro k hk hother
    exact (hc.returned k (hfrontier ▸ hk) hother).mono (List.subset_append_left ..)
  · intro hsound k hk hlength
    rw [htickets]
    exact hc.placed hsound k (hfrontier ▸ hk) hlength

/-- A place that is given away is among those that were handed on. -/
theorem Calls.placed_given (hc : Calls requests p) (hfrontier : p.frontier = p.reserved)
    (htickets : q.tickets.Perm (p.reserved :: p.tickets)) (hsound : p.worker ≠ .lost) :
    ∀ k < p.reserved + 1, k < requests.length → k ∈ q.tickets := by
  intro k hk hlength
  rw [htickets.mem_iff]
  rcases Nat.lt_succ_iff_lt_or_eq.mp hk with hlt | rfl
  · exact List.mem_cons_of_mem _ (hc.placed hsound k (hfrontier ▸ hlt) hlength)
  · exact List.mem_cons_self

/-- The call of the reader returns, and its place is given away. -/
theorem Calls.answer (hc : Calls requests p) (hw : Work s requests shared p) {r : Request}
    {rest : List Request} (hreader : p.reader = .running r rest) (response : Response)
    (after : δ) :
    Calls requests
      { p.note (.ended p.reserved response) with
        shared := after, reader := .reserving (.ready response) rest } := by
  have hfrontier : p.frontier = p.reserved := by rw [frontier, hreader]
  have hopen : ¬ Returned p.log p.reserved := by
    rw [returned_iff]
    intro hmem
    have hlt := hw.below p.reserved (List.mem_append_left _ (List.mem_append_left _ hmem))
    omega
  have htickets : ({ p.note (.ended p.reserved response) with
      shared := after, reader := .reserving (.ready response) rest } : Pipeline δ).tickets.Perm
        (p.reserved :: p.tickets) := tickets_answered (answers_ended p _ _) rfl rfl
  refine ⟨hc.sequential.finish (hc.reader r rest hreader) hopen, ?_, by simp, ?_, ?_, ?_,
    hc.queued⟩
  · intro k hk
    rcases List.mem_append.mp hk with hold | hlast
    · obtain ⟨hfree, hlt | ⟨hsame, -⟩⟩ := hc.started k hold
      · exact ⟨hfree, .inl (Nat.lt_succ_of_lt (hfrontier ▸ hlt))⟩
      · exact ⟨hfree, .inl (Nat.lt_succ_of_le (Nat.le_of_eq hsame))⟩
    · cases List.mem_singleton.mp hlast
  · intro k hk
    exact List.mem_append_left _ (hc.worker k hk)
  · intro k hk hconsensus
    rcases Nat.lt_succ_iff_lt_or_eq.mp hk with hlt | rfl
    · exact (hc.returned k (hfrontier ▸ hlt) hconsensus).mono (List.subset_append_left ..)
    · exact ⟨response, List.mem_append_right _ List.mem_cons_self⟩
  · exact hc.placed_given hfrontier htickets

/-- The reader hands the next place on, behind all that wait. -/
theorem Calls.hand (hc : Calls requests p) (hw : Work s requests shared p) {r : Request}
    {rest : List Request} (hreader : p.reader = .handing r rest)
    (hr : ForWorker requests p.reserved r) :
    Calls requests
      { p with
        reader := .reserving (.pending p.reserved r.verb) rest
        jobs := p.jobs ++ [(p.reserved, r)] } := by
  have hfrontier : p.frontier = p.reserved := by rw [frontier, hreader]
  have hplaces : (p.jobs ++ [(p.reserved, r)]).map (·.1) = p.jobs.map (·.1) ++ [p.reserved] :=
    List.map_append
  have htickets : ({ p with
      reader := .reserving (.pending p.reserved r.verb) rest
      jobs := p.jobs ++ [(p.reserved, r)] } : Pipeline δ).tickets.Perm
        (p.reserved :: p.tickets) := tickets_handed rfl rfl rfl
  refine ⟨hc.sequential, ?_, by simp, hc.worker, ?_, ?_, ?_⟩
  · intro k hk
    obtain ⟨hfree, hlt | ⟨-, found, more, hrunning⟩⟩ := hc.started k hk
    · rw [hfrontier] at hlt
      refine ⟨?_, .inl (Nat.lt_succ_of_lt hlt)⟩
      rw [hplaces]
      intro hmem
      rcases List.mem_append.mp hmem with hold | hlast
      · exact hfree hold
      · exact Nat.ne_of_lt hlt (List.mem_singleton.mp hlast)
    · rw [hreader] at hrunning
      cases hrunning
  · intro k hk hconsensus
    rcases Nat.lt_succ_iff_lt_or_eq.mp hk with hlt | rfl
    · exact hc.returned k (hfrontier ▸ hlt) hconsensus
    · exact absurd hconsensus (not_consensus_of_forWorker hr)
  · exact hc.placed_given hfrontier htickets
  · rw [hplaces, List.pairwise_append]
    refine ⟨hc.queued, List.pairwise_singleton .., fun i hi last hlast => ?_⟩
    have hlt := hw.below i (List.mem_append_right _ hi)
    rw [List.mem_singleton.mp hlast]
    omega

theorem ReaderMove.calls (hm : ReaderMove s p q) (hd : Dispatched s requests shared p)
    (hc : Calls requests p) : Calls requests q := by
  have hnone {k : Nat} (hlength : requests.length ≤ k) : ¬ Consensus requests k := by
    rintro ⟨r, hr, -⟩
    exact absurd (getElem?_lt_length hr) (Nat.not_lt.mpr hlength)
  cases hm with
  | stop hreader =>
      have hi := hd.intake
      rw [Intake, hreader] at hi
      have hlength := List.drop_eq_nil_iff.mp hi
      refine hc.pass rfl rfl rfl (by simp [hreader]) (by simp) (by simp [frontier, hreader]) ?_
      intro k hge hlt
      have hpast : requests.length ≤ k := by
        simp only [frontier, hreader] at hge
        omega
      exact ⟨hnone hpast, fun _ => hpast⟩
  | @begin r rest hreader hconsensus =>
      have hi := hd.intake
      rw [Intake, hreader] at hi
      exact hc.begin hd.work hreader (getElem?_of_drop hi).1 hconsensus
  | pick hreader hother =>
      exact hc.stay rfl rfl rfl (by simp [hreader]) (by simp) (by simp [frontier, hreader])
  | answer hreader => exact hc.answer hd.work hreader _ _
  | hand hreader hworker hroom => exact hc.hand hd.work hreader (hd.intake.handing hreader).1
  | drop hreader hworker =>
      have hr := (hd.intake.handing hreader).1
      refine hc.pass rfl rfl rfl (by simp [hreader]) (by simp) (by simp [frontier, hreader]) ?_
      intro k hge hlt
      simp only [frontier, hreader] at hge hlt
      obtain rfl : k = p.reserved := by omega
      exact ⟨not_consensus_of_forWorker hr, absurd hworker⟩
  | reserve hreader hwriter hroom =>
      exact hc.stay rfl rfl rfl (by simp [hreader]) (by simp) (by simp [frontier, hreader])
  | abandon hreader hwriter =>
      exact hc.stay rfl rfl rfl (by simp [hreader]) (by simp) (by simp [frontier, hreader])

/-- The worker starts the call in front of its queue.  All that is earlier and was handed
on is answered, since it would stand further in front. -/
theorem Calls.take (hc : Calls requests p) (hw : Work s requests shared p) {index : Nat}
    {r : Request} {jobs : List (Nat × Request)} (hworker : p.worker = .idle)
    (hjobs : p.jobs = (index, r) :: jobs) :
    Calls requests { p.note (.begun index) with worker := .running index r, jobs } := by
  have hplaces : p.jobs.map (·.1) = index :: jobs.map (·.1) := by rw [hjobs, List.map_cons]
  have htickets : p.tickets = p.answers.map (·.1) ++ index :: jobs.map (·.1) := by
    rw [tickets, hworker, hplaces]
    simp [Worker.place]
  have hlater : ∀ k ∈ jobs.map (·.1), index < k := by
    have hqueued := hc.queued
    rw [hplaces] at hqueued
    exact (List.pairwise_cons.mp hqueued).1
  have hmine : index < p.frontier := by
    apply hw.below
    rw [htickets]
    exact List.mem_append_right _ List.mem_cons_self
  have hrequest : index < requests.length := by
    have hjob := hw.jobs (index, r)
    rw [hjobs] at hjob
    exact getElem?_lt_length (hjob List.mem_cons_self).1
  have hafter : ({ p.note (.begun index) with worker := .running index r, jobs } :
      Pipeline δ).tickets = p.tickets :=
    (WorkerMove.take hworker hjobs : WorkerMove s p _).tickets_eq (by simp)
  refine ⟨?_, ?_, ?_, ?_, ?_, ?_, ?_⟩
  -- Nothing is passed here: each earlier place has a ticket, and the tickets that have no
  -- answer are this one and later ones.
  · refine hc.sequential.start hrequest ?_ fun i hi => .inl ?_
    · intro hstarted
      refine (hc.started index hstarted).1 ?_
      rw [hplaces]
      exact List.mem_cons_self
    · have hsound : p.worker ≠ .lost := by simp [hworker]
      have hplaced := hc.placed hsound i (Nat.lt_trans hi hmine) (Nat.lt_trans hi hrequest)
      rw [htickets] at hplaced
      rcases List.mem_append.mp hplaced with hanswered | hwaiting
      · exact returned_iff.mpr hanswered
      · rcases List.mem_cons.mp hwaiting with rfl | hbehind
        · exact absurd hi (Nat.lt_irrefl _)
        · exact absurd (hlater i hbehind) (Nat.lt_asymm hi)
  · intro k hk
    rcases List.mem_append.mp hk with hold | hlast
    · obtain ⟨hfree, hgiven⟩ := hc.started k hold
      refine ⟨fun hwaiting => hfree ?_, hgiven⟩
      rw [hplaces]
      exact List.mem_cons_of_mem _ hwaiting
    · cases List.mem_singleton.mp hlast
      exact ⟨fun hwaiting => Nat.lt_irrefl _ (hlater index hwaiting), .inl hmine⟩
  · intro found rest hrunning
    exact List.mem_append_left _ (hc.reader found rest hrunning)
  · rintro k ⟨⟩
    exact List.mem_append_right _ List.mem_cons_self
  · intro k hk hconsensus
    exact (hc.returned k hk hconsensus).mono (List.subset_append_left ..)
  · intro _ k hk hlength
    rw [hafter]
    exact hc.placed (by simp [hworker]) k hk hlength
  · have hqueued := hc.queued
    rw [hplaces] at hqueued
    exact (List.pairwise_cons.mp hqueued).2

/-- The call of the worker returns. -/
theorem Calls.reply (hc : Calls requests p) (hw : Work s requests shared p) {index : Nat}
    {r : Request} (hworker : p.worker = .running index r) :
    Calls requests
      { p.note (.ended index (s.dispatch r p.shared).1) with
        shared := (s.dispatch r p.shared).2
        worker := .idle
        replies := p.replies ++ [(index, (s.dispatch r p.shared).1)] } := by
  have hplace : p.worker.place = some index := by rw [hworker, Worker.place]
  have hopen : ¬ Returned p.log index := by
    rw [returned_iff]
    intro hmem
    have hdistinct := hw.distinct
    rw [tickets, hplace, List.append_assoc, List.nodup_append] at hdistinct
    exact hdistinct.2.2 index hmem index (List.mem_append_left _ List.mem_cons_self) rfl
  have hafter := (WorkerMove.answer hworker : WorkerMove s p _).tickets_eq (by simp)
  refine ⟨hc.sequential.finish (hc.worker index hplace) hopen, ?_, ?_, by simp [Worker.place],
    ?_, ?_, hc.queued⟩
  · intro k hk
    rcases List.mem_append.mp hk with hold | hlast
    · exact hc.started k hold
    · cases List.mem_singleton.mp hlast
  · intro found rest hrunning
    exact List.mem_append_left _ (hc.reader found rest hrunning)
  · intro k hk hconsensus
    exact (hc.returned k hk hconsensus).mono (List.subset_append_left ..)
  · intro _ k hk hlength
    rw [hafter]
    exact hc.placed (by simp [hworker]) k hk hlength

theorem WorkerMove.calls (hm : WorkerMove s p q) (hd : Dispatched s requests shared p)
    (hc : Calls requests p) : Calls requests q := by
  cases hm with
  | take hworker hjobs => exact hc.take hd.work hworker hjobs
  | answer hworker => exact hc.reply hd.work hworker
  | stop hworker hjobs hreader =>
      refine ⟨hc.sequential, hc.started, hc.reader, by simp [Worker.place], hc.returned, ?_,
        hc.queued⟩
      intro _ k hk hlength
      have hplaced := hc.placed (by simp [hworker]) k hk hlength
      rw [tickets, hworker] at hplaced
      exact hplaced
  | lose hworker =>
      refine ⟨hc.sequential, ?_, hc.reader, by simp [Worker.place], hc.returned,
        fun hsound => absurd rfl hsound, .nil⟩
      intro k hk
      exact ⟨List.not_mem_nil, (hc.started k hk).2⟩

theorem WriterMove.calls (hm : WriterMove s p q) (hc : Calls requests p) : Calls requests q := by
  obtain ⟨hreader, hworker, hreserved, hjobs, -, hlog, -⟩ := hm.frame
  have hfrontier : q.frontier = p.frontier := by rw [frontier, frontier, hreader, hreserved]
  have htickets : q.tickets = p.tickets := by
    rw [tickets, tickets, answers, answers, hlog, hworker, hjobs]
  constructor
  · rw [hlog]
    exact hc.sequential
  · rw [hlog, hjobs, hfrontier, hreserved, hreader]
    exact hc.started
  · rw [hlog, hreserved, hreader]
    exact hc.reader
  · rw [hlog, hworker]
    exact hc.worker
  · rw [hlog, hfrontier]
    exact hc.returned
  · rw [hworker, hfrontier, htickets]
    exact hc.placed
  · rw [hjobs]
    exact hc.queued

/-- Wherever a session comes to, its calls are in order. -/
theorem calls_of_leads (h : Leads s (start requests shared) p) :
    Dispatched s requests shared p ∧ Calls requests p := by
  apply invariant_of_leads ?_ h
  · exact ⟨dispatched_start s requests shared, calls_start requests shared⟩
  · intro p q turn hboth hturn
    obtain ⟨hd, hc⟩ := hboth
    rcases move_of_advance hturn with hm | hm | hm
    · exact ⟨hd.reader hm, hm.calls hd hc⟩
    · exact ⟨hd.worker hm, hm.calls hd hc⟩
    · exact ⟨hd.writer hm, hm.calls hc⟩

end Turns

/-! ## All schedules -/

/-- The reader hands a request on and starts the call of the next one, and then the worker
starts the call of the first. -/
def passing : List Turn := [.reader, .reader, .reader, .reader, .worker]

theorem log_passing {s : Setting δ} (hdepth : 1 ≤ s.depth) {first second : Request}
    (hother : first.capability ≠ .consensus) (hconsensus : second.capability = .consensus)
    (shared : δ) :
    (play s passing (start [first, second] shared)).log = [.begun 1, .begun 0] := by
  have hroom : 0 < s.depth := hdepth
  simp [play, passing, start, advance, advanceReader, advanceWorker, note, hother, hconsensus,
    hroom]

/-- **The order of calls.**  However the threads of a session take turns, and also when the
worker breaks down or the connection does: the application is called at most once for
each request; the calls of consensus start in the order of their requests, and so do all
others; a call of consensus has returned when the call of any later request starts; and a
call that starts before that of an earlier request has returned is of consensus, and the
earlier one is not.  The calls that have returned ran one after another on what the
session shares.  Of two such requests, the later call can start first and while the
earlier one is out. -/
theorem calls_in_order (s : Setting δ) :
    (∀ (requests : List Request) (shared : δ) (p : Pipeline δ),
      Leads s (start requests shared) p →
        Ordered requests p.log ∧ Replays s requests p.answers shared p.shared)
      ∧ (1 ≤ s.depth → ∀ (first second : Request) (shared : δ),
          first.capability ≠ .consensus → second.capability = .consensus →
            ∃ p, Leads s (start [first, second] shared) p ∧ p.log = [.begun 1, .begun 0]) := by
  constructor
  · intro requests shared p hleads
    obtain ⟨hd, hc⟩ := calls_of_leads hleads
    exact ⟨hc.sequential.ordered, hd.work.replays⟩
  · intro hdepth first second shared hother hconsensus
    exact ⟨_, leads_play s passing _, log_passing hdepth hother hconsensus shared⟩

/-- A flush passes an echo. -/
theorem calls_in_order_overtaking :
    let requests : List Request := [.echo "", ⟨.flush, ()⟩]
    let p := play naming overtaking (start requests ())
    (begun p.log = [1, 0] ∧ p.log.length = 4)
      ∧ Leads naming (start requests ()) p
      ∧ (Ordered requests p.log ∧ Replays naming requests p.answers () p.shared)
      ∧ ∃ q, Leads naming (start requests ()) q ∧ q.log = [.begun 1, .begun 0] := by
  intro requests p
  have hlog : begun p.log = [1, 0] ∧ p.log.length = 4 := by
    decide +kernel
  have hleads : Leads naming (start requests ()) p := leads_play naming overtaking _
  obtain ⟨hordered, hpasses⟩ := calls_in_order naming
  exact ⟨hlog, hleads, hordered requests () p hleads,
    hpasses (Nat.le_refl 1) (.echo "") ⟨.flush, ()⟩ () nofun rfl⟩

end Pipeline

end ChainHost.Session
