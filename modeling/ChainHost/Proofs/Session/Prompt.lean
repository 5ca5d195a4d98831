/-
  No response is held back.

  What a session emits is held back until it is flushed, so that many responses can go to
  the peer at once.  The writer must not wait with anything held back: the peer may be
  waiting for just that.  It flushes before it waits for a slot, before it waits for the
  worker, behind the response to a flush, and before it is done.  `Rests` names the places
  where it has flushed, and no turn of another thread touches what is held back.
-/
import ChainHost.Proofs.Session.Completion

set_option autoImplicit false

namespace ChainHost.Session.Pipeline

variable {δ : Type}

/-! ## Where the writer is -/

/-- The writer waits for a slot, or for a reply of the worker. -/
def Waits (p : Pipeline δ) : Prop :=
  p.writer = .waiting ∨ ∃ index verb, p.writer = .awaiting index verb

/-- The connection has broken. -/
def Broken (p : Pipeline δ) : Prop := ∃ reason, p.writer = .failed (.broken reason)

/-- Every payload that was emitted has been sent to the peer. -/
def Delivered (p : Pipeline δ) : Prop :=
  p.held = [] ∧ p.sent = p.emitted.flatMap Frame.write

/-- The writer waits or has come to an end, with the connection whole. -/
def Rests (p : Pipeline δ) : Prop :=
  match p.writer with
  | .waiting | .awaiting _ _ | .done | .failed (.encode _) => True
  | .looking | .resolving _ _ | .emitting _ | .pushing | .failed (.broken _) => False

theorem Waits.rests {p : Pipeline δ} (h : p.Waits) : p.Rests := by
  rw [Rests]
  rcases h with hwriter | ⟨index, verb, hwriter⟩
  · rw [hwriter]
    exact trivial
  · rw [hwriter]
    exact trivial

theorem rests_of_done {p : Pipeline δ} (hwriter : p.writer = .done) : p.Rests := by
  rw [Rests, hwriter]
  exact trivial

theorem rests_of_failed {p : Pipeline δ} {fault : WriteFault} (hwriter : p.writer = .failed fault)
    (hwhole : ¬ p.Broken) : p.Rests := by
  cases fault with
  | encode reason =>
      rw [Rests, hwriter]
      exact trivial
  | broken reason => exact absurd ⟨reason, hwriter⟩ hwhole

theorem Rests.not_broken {p : Pipeline δ} (h : p.Rests) : ¬ p.Broken := by
  rintro ⟨reason, hwriter⟩
  rw [Rests, hwriter] at h
  exact h

section Turns

variable {s : Setting δ} {p q r : Pipeline δ}

theorem rests_of_stuck {spill : Nat} (hstuck : p.advanceWriter s spill = none)
    (hwhole : ¬ p.Broken) : p.Rests := by
  rcases writer_of_stuck hstuck with
    ⟨hwaits, -, -⟩ | ⟨index, verb, hawaits, -⟩ | hdone | ⟨fault, hfailed⟩
  · exact Waits.rests (.inl hwaits)
  · exact Waits.rests (.inr ⟨index, verb, hawaits⟩)
  · exact rests_of_done hdone
  · exact rests_of_failed hfailed hwhole

/-! ## Coming to rest -/

/-- The writer comes to rest by a flush only. -/
theorem WriterMove.held_of_rests (hm : WriterMove s p q) (hrests : q.Rests) : q.held = [] := by
  cases hm with
  | wait hwriter hslots hreader => rfl
  | stop hwriter hslots hreader => rfl
  | await hwriter hreply => rfl
  | refuse hwriter hemit => rfl
  | @emit response payload spill hwriter hemit =>
      by_cases hflush : response.kind = .verb .flush
      · simp only [Rests, Pipeline.emit, if_pos hflush] at hrests
      · simp only [Rests, Pipeline.emit, if_neg hflush] at hrests
  | _ => cases hrests

theorem held_of_rests_advance {turn : Turn} (hheld : p.Rests → p.held = [])
    (h : p.advance s turn = some q) : q.Rests → q.held = [] := by
  rcases move_of_advance h with hm | hm | hm
  · obtain ⟨-, hwriter, -, -, hsame, -⟩ := hm.frame
    rw [Rests, hwriter, hsame]
    exact hheld
  · obtain ⟨-, hwriter, -, -, hsame, -⟩ := hm.frame
    rw [Rests, hwriter, hsame]
    exact hheld
  · exact hm.held_of_rests

/-- Wherever a session comes to, a writer at rest holds nothing back. -/
theorem held_of_rests {requests : List Request} {shared : δ}
    (h : Leads s (start requests shared) p) : p.Rests → p.held = [] := by
  apply invariant_of_leads ?_ h
  · intro hrests
    rfl
  · intro p q turn hheld hturn
    exact held_of_rests_advance hheld hturn

/-- What is sent and what is held back make up what was emitted, so the peer has all if
nothing is held back. -/
theorem delivered_of_held {requests : List Request} {shared : δ}
    (h : Leads s (start requests shared) p) (hwhole : ¬ p.Broken) (hheld : p.held = []) :
    p.Delivered := by
  have hbytes := (inOrder_of_leads h).bytes fun reason hwriter => hwhole ⟨reason, hwriter⟩
  rw [hheld, List.append_nil] at hbytes
  exact ⟨hheld, hbytes⟩

theorem Rests.delivered {requests : List Request} {shared : δ} (hrests : p.Rests)
    (h : Leads s (start requests shared) p) : p.Delivered :=
  delivered_of_held h hrests.not_broken (held_of_rests h hrests)

/-! ## Behind the response to a flush -/

/-- The writer is about to flush, or holds nothing back. -/
def Settles (p : Pipeline δ) : Prop := p.writer = .pushing ∨ p.Broken ∨ p.held = []

theorem WriterMove.emitted_prefix (hm : WriterMove s p q) : p.emitted <+: q.emitted := by
  cases hm with
  | @emit response payload spill hwriter hemit => exact List.prefix_append _ _
  | _ => exact List.prefix_refl _

theorem emitted_prefix_of_advance {turn : Turn} (h : p.advance s turn = some q) :
    p.emitted <+: q.emitted := by
  rcases move_of_advance h with hm | hm | hm
  · obtain ⟨-, -, hsame, -⟩ := hm.frame
    simp only [hsame, List.prefix_refl]
  · obtain ⟨-, -, hsame, -⟩ := hm.frame
    simp only [hsame, List.prefix_refl]
  · exact hm.emitted_prefix

/-- What was emitted stays emitted. -/
theorem Leads.emitted_prefix (h : Leads s p q) : p.emitted <+: q.emitted := by
  induction h with
  | refl => exact List.prefix_refl _
  | step turn before hadvance ih => exact ih.trans (emitted_prefix_of_advance hadvance)

/-- Until the writer emits something else, it can only flush. -/
theorem WriterMove.settles (hm : WriterMove s p q) (h : p.Settles)
    (hsame : q.emitted = p.emitted) : q.Settles := by
  rcases h with hpushing | ⟨reason, hbroken⟩ | hheld
  · cases hm with
    | push hwriter => exact .inr (.inr rfl)
    | snap bytes spill reason hwriter => exact .inr (.inl ⟨reason, rfl⟩)
    | ready hwriter hslots => simp [hpushing] at hwriter
    | pending hwriter hslots => simp [hpushing] at hwriter
    | stop hwriter hslots hreader => simp [hpushing] at hwriter
    | receive hwriter hreply => simp [hpushing] at hwriter
    | wait hwriter hslots hreader => simp [hpushing] at hwriter
    | await hwriter hreply => simp [hpushing] at hwriter
    | miss hwriter hreply hworker => simp [hpushing] at hwriter
    | emit spill hwriter hemit => simp [hpushing] at hwriter
    | refuse hwriter hemit => simp [hpushing] at hwriter
  · exact absurd hbroken (hm.not_failed _)
  · cases hm with
    | @emit response payload spill hwriter hemit =>
        exact absurd (List.append_right_eq_self.mp hsame) (List.cons_ne_nil _ _)
    | snap bytes spill reason hwriter => exact .inr (.inl ⟨reason, rfl⟩)
    | wait hwriter hslots hreader => exact .inr (.inr rfl)
    | stop hwriter hslots hreader => exact .inr (.inr rfl)
    | await hwriter hreply => exact .inr (.inr rfl)
    | refuse hwriter hemit => exact .inr (.inr rfl)
    | push hwriter => exact .inr (.inr rfl)
    | _ => exact .inr (.inr hheld)

theorem settles_of_advance {turn : Turn} (h : p.Settles) (hsame : q.emitted = p.emitted)
    (hturn : p.advance s turn = some q) : q.Settles := by
  rcases move_of_advance hturn with hm | hm | hm
  · obtain ⟨-, hwriter, -, -, hheld, -⟩ := hm.frame
    rw [Settles, Broken, hwriter, hheld]
    exact h
  · obtain ⟨-, hwriter, -, -, hheld, -⟩ := hm.frame
    rw [Settles, Broken, hwriter, hheld]
    exact h
  · exact hm.settles h hsame

theorem settles_of_leads (h : p.Settles) (hleads : Leads s p q) (hsame : q.emitted = p.emitted) :
    q.Settles := by
  induction hleads with
  | refl => exact h
  | @step q r turn before hadvance ih =>
      -- nothing was emitted in between, since what was emitted stays
      have hlast : q.emitted <+: p.emitted := by
        rw [← hsame]
        exact emitted_prefix_of_advance hadvance
      have hfirst : p.emitted <+: q.emitted := before.emitted_prefix
      have hmid : q.emitted = p.emitted :=
        hlast.eq_of_length (Nat.le_antisymm hlast.length_le hfirst.length_le)
      exact settles_of_advance (ih hmid) (hsame.trans hmid.symm) hadvance

/-- A writer that emits the response to a flush goes on to flush. -/
theorem pushing_of_emit {response : Response} {payload : Bytes} {spill : Nat}
    (hwriter : p.writer = .emitting response) (hflush : response.kind = .verb .flush)
    (hemit : Session.emit s.codec response = .ok payload)
    (h : p.advanceWriter s spill = some q) : q.writer = .pushing := by
  simp only [advanceWriter, hwriter, hemit, hflush, if_true] at h
  cases h
  rfl

end Turns

/-! ## What the peer has -/

/-- What a session holds back in a state, and behind it. -/
structure Prompt (s : Setting δ) (p : Pipeline δ) : Prop where
  /-- Nothing, while the writer waits. -/
  waiting : p.Waits → p.Delivered
  /-- Nothing, when the writer is done. -/
  finished : p.writer = .done → p.Delivered
  /-- Nothing, as long as the writer cannot go on, for whatever reason, with the connection
  whole. -/
  blocked : (∀ spill, p.advanceWriter s spill = none) → ¬ p.Broken → p.Delivered
  /-- When it has emitted the response to a flush, the writer is about to flush, and until it
  has done so it emits nothing else. -/
  flushed : ∀ response payload spill q, p.writer = .emitting response →
    response.kind = .verb .flush → Session.emit s.codec response = .ok payload →
    p.advanceWriter s spill = some q → q.writer = .pushing
      ∧ ∀ r, Leads s q r → r.emitted = q.emitted → r.writer = .pushing ∨ r.Broken ∨ r.Delivered
  /-- The turn in which it does so leaves nothing. -/
  pushed : p.writer = .pushing → ∀ spill, ∃ q, p.advanceWriter s spill = some q ∧ q.Delivered

/-- **No response is held back** from a peer that may be waiting for it, under any schedule. -/
theorem prompt_of_leads (s : Setting δ) (requests : List Request) (shared : δ) (p : Pipeline δ)
    (h : Leads s (start requests shared) p) : Prompt s p := by
  refine ⟨fun hwaits => hwaits.rests.delivered h, fun hdone => (rests_of_done hdone).delivered h,
    fun hstuck hwhole => (rests_of_stuck (hstuck 0) hwhole).delivered h, ?_, ?_⟩
  · intro response payload spill q hwriter hflush hemit hturn
    have hpushing := pushing_of_emit hwriter hflush hemit hturn
    refine ⟨hpushing, fun r hleads hsame => ?_⟩
    have hthere : Leads s (start requests shared) r :=
      .trans (.step (.writer spill) h hturn) hleads
    rcases settles_of_leads (.inl hpushing) hleads hsame with hagain | hbroken | hheld
    · exact .inl hagain
    · exact .inr (.inl hbroken)
    · by_cases hbroken : r.Broken
      · exact .inr (.inl hbroken)
      · exact .inr (.inr (delivered_of_held hthere hbroken hheld))
  · intro hwriter spill
    have hturn : p.advanceWriter s spill = some { p.flush with writer := .looking } := by
      rw [advanceWriter, hwriter]
    refine ⟨_, hturn, ?_⟩
    refine delivered_of_held (.step (.writer spill) h hturn) ?_ rfl
    rintro ⟨reason, hbroken⟩
    cases hbroken

/-- The writer holds the response to a commit back, until it has to wait for the worker. -/
def pausing : List Turn :=
  [.reader, .reader, .reader, .writer 0, .writer 0, .reader, .reader, .reader, .writer 0,
    .writer 0]

/-- The response to the commit is with the peer while the echo has not even begun. -/
theorem prompt_of_leads_pausing :
    let requests : List Request := [⟨.commit, ()⟩, .echo ""]
    let p := play naming pausing (start requests ())
    (p.writer = .awaiting 1 .echo ∧ p.sent = Frame.write (Bytes.ofText "commit"))
      ∧ Leads naming (start requests ()) p ∧ Prompt naming p := by
  intro requests p
  have hleads : Leads naming (start requests ()) p := leads_play naming pausing _
  refine ⟨⟨?_, ?_⟩, hleads, prompt_of_leads naming requests () p hleads⟩
  · decide +kernel
  · decide +kernel

end ChainHost.Session.Pipeline
