/-
  Many clients, one order.

  Clients enter and leave a tracker in any order.  A crowd is orderly: either no
  call is in flight, or one is, and then the tracker is the one that this call
  was checked on, with its mark.  So whatever is played in the window of a call
  changes nothing, and a run comes to what its calls come to when each is one
  transition, in the order in which they entered.
-/
import ChainHost.Proofs.Lifecycle.Transition
import ChainHost.Lifecycle.Crowd

set_option autoImplicit false

namespace ChainHost.Lifecycle.Crowd

/-! ## Orderly crowds -/

/-- A tracker with no call in flight. -/
def free (t : Tracker) : Crowd := ⟨t, []⟩

/-- A tracker that one call holds, with the ticket of its check. -/
def held (t : Tracker) (client : Nat) (stage : Stage) (ticket : Ticket stage) : Crowd :=
  ⟨{ t with inFlight := some stage }, [⟨client, stage, ticket⟩]⟩

/-- At most one call is in flight, and the tracker is as it was when that call
passed its check. -/
inductive Orderly : Crowd → Prop where
  | free {t : Tracker} (hfree : t.inFlight = none) : Orderly (free t)
  | held {t : Tracker} (hfree : t.inFlight = none) (client : Nat) {stage : Stage}
      {args : stage.Args} {ticket : Ticket stage} (hcheck : t.check stage args = .ok ticket) :
      Orderly (held t client stage ticket)

/-! ## One action -/

section Free

variable {t : Tracker} (hfree : t.inFlight = none)

include hfree

theorem act_enter_of_error {stage : Stage} {args : stage.Args} {violation : Violation}
    (hcheck : t.check stage args = .error violation) (client : Nat) :
    (free t).act (.enter client stage args) = some (some (.refused violation), free t) := by
  have henter := (Tracker.enter_eq_error_iff hfree).mpr hcheck
  simp [act, visit?, free, enter, henter]

theorem act_enter_of_ok {stage : Stage} {args : stage.Args} {ticket : Ticket stage}
    (hcheck : t.check stage args = .ok ticket) (client : Nat) :
    (free t).act (.enter client stage args) = some (none, held t client stage ticket) := by
  have henter : t.enter stage args = .ok (ticket, { t with inFlight := some stage }) :=
    Tracker.enter_eq_ok_iff.mpr ⟨hfree, hcheck, rfl⟩
  simp [act, visit?, free, held, enter, henter]

end Free

theorem act_leave_free (t : Tracker) (client : Nat)
    (answer : (stage : Stage) → Answer stage.Result) :
    (free t).act (.leave client answer) = none := by
  simp [act, visit?, free]

section Held

variable (t : Tracker) (client : Nat) (stage : Stage) (ticket : Ticket stage)

theorem visit?_held_self :
    (held t client stage ticket).visit? client = some ⟨client, stage, ticket⟩ := by
  simp [visit?, held]

theorem visit?_held_of_ne {other : Nat} (hne : other ≠ client) :
    (held t client stage ticket).visit? other = none := by
  simp [visit?, held, hne.symm]

theorem act_enter_held_self (call : Stage) (args : call.Args) :
    (held t client stage ticket).act (.enter client call args) = none := by
  simp [act, visit?_held_self]

theorem act_enter_held_of_ne {other : Nat} (hne : other ≠ client) (call : Stage)
    (args : call.Args) :
    (held t client stage ticket).act (.enter other call args)
      = some (some (.refused (.inProgress call stage)), held t client stage ticket) := by
  have henter := Tracker.enter_of_inFlight
    (t := { t with inFlight := some stage }) rfl call args
  simp only [act, visit?_held_of_ne t client stage ticket hne]
  simp [enter, held, henter]

theorem act_leave_held_self (answer : (stage : Stage) → Answer stage.Result) :
    (held t client stage ticket).act (.leave client answer)
      = some (some (({ t with inFlight := some stage } : Tracker).leave stage ticket
            (answer stage)).1,
          free (({ t with inFlight := some stage } : Tracker).leave stage ticket
            (answer stage)).2) := by
  simp only [act, visit?_held_self, Option.map_some, leave]
  cases answer stage <;> simp [Tracker.leave, held, free]

theorem act_leave_held_of_ne {other : Nat} (hne : other ≠ client)
    (answer : (stage : Stage) → Answer stage.Result) :
    (held t client stage ticket).act (.leave other answer) = none := by
  simp [act, visit?_held_of_ne t client stage ticket hne]

theorem act_observeInfo_held (info : Result.Info) :
    (held t client stage ticket).act (.observeInfo info)
      = some (some .observed, held t client stage ticket) := by
  have hsame := Tracker.observeInfo_of_inFlight
    (t := { t with inFlight := some stage }) rfl info
  simp [act, held, hsame]

end Held

/-- What an action comes to in a free crowd, and the crowd after it. -/
inductive FreeStep (t : Tracker) : Action → Option Effect → Crowd → Prop where
  | refused (client : Nat) {stage : Stage} {args : stage.Args} {violation : Violation}
      (hcheck : t.check stage args = .error violation) :
      FreeStep t (.enter client stage args) (some (.refused violation)) (free t)
  | entered (client : Nat) {stage : Stage} {args : stage.Args} {ticket : Ticket stage}
      (hcheck : t.check stage args = .ok ticket) :
      FreeStep t (.enter client stage args) none (held t client stage ticket)
  | observed (info : Result.Info) :
      FreeStep t (.observeInfo info) (some .observed) (free (t.observeInfo info))
  | resolved (requested : UInt64) :
      FreeStep t (.resolve requested) (some (.resolved (t.window.resolve requested))) (free t)

theorem freeStep_of_act {t : Tracker} (hfree : t.inFlight = none) {action : Action}
    {effect : Option Effect} {after : Crowd} (hact : (free t).act action = some (effect, after)) :
    FreeStep t action effect after := by
  cases action with
  | enter client stage args =>
      cases hcheck : t.check stage args with
      | error violation =>
          rw [act_enter_of_error hfree hcheck] at hact
          cases hact
          exact .refused client hcheck
      | ok ticket =>
          rw [act_enter_of_ok hfree hcheck] at hact
          cases hact
          exact .entered client hcheck
  | leave client answer =>
      rw [act_leave_free] at hact
      cases hact
  | observeInfo info =>
      cases hact
      exact .observed info
  | resolve requested =>
      cases hact
      exact .resolved requested

/-- What an action comes to while a call is in flight, and the crowd after it. -/
inductive HeldStep (t : Tracker) (client : Nat) (stage : Stage) (ticket : Ticket stage) :
    Action → Option Effect → Crowd → Prop where
  | refused {other : Nat} (hother : other ≠ client) (call : Stage) (args : call.Args) :
      HeldStep t client stage ticket (.enter other call args)
        (some (.refused (.inProgress call stage))) (held t client stage ticket)
  | left (answer : (stage : Stage) → Answer stage.Result) :
      HeldStep t client stage ticket (.leave client answer)
        (some (({ t with inFlight := some stage } : Tracker).leave stage ticket (answer stage)).1)
        (free (({ t with inFlight := some stage } : Tracker).leave stage ticket (answer stage)).2)
  | observed (info : Result.Info) :
      HeldStep t client stage ticket (.observeInfo info) (some .observed)
        (held t client stage ticket)
  | resolved (requested : UInt64) :
      HeldStep t client stage ticket (.resolve requested)
        (some (.resolved (t.window.resolve requested))) (held t client stage ticket)

theorem heldStep_of_act {t : Tracker} {client : Nat} {stage : Stage} {ticket : Ticket stage}
    {action : Action} {effect : Option Effect} {after : Crowd}
    (hact : (held t client stage ticket).act action = some (effect, after)) :
    HeldStep t client stage ticket action effect after := by
  cases action with
  | enter other call args =>
      by_cases hsame : other = client
      · subst hsame
        rw [act_enter_held_self] at hact
        cases hact
      · rw [act_enter_held_of_ne _ _ _ _ hsame] at hact
        cases hact
        exact .refused hsame call args
  | leave other answer =>
      by_cases hsame : other = client
      · subst hsame
        rw [act_leave_held_self] at hact
        cases hact
        exact .left answer
      · rw [act_leave_held_of_ne _ _ _ _ hsame] at hact
        cases hact
  | observeInfo info =>
      rw [act_observeInfo_held] at hact
      cases hact
      exact .observed info
  | resolve requested =>
      cases hact
      exact .resolved requested

theorem Orderly.act {c after : Crowd} {action : Action} {effect : Option Effect} (h : c.Orderly)
    (hact : c.act action = some (effect, after)) : after.Orderly := by
  cases h with
  | @free t hfree =>
      cases freeStep_of_act hfree hact with
      | refused | resolved => exact .free hfree
      | entered client hcheck => exact .held hfree client hcheck
      | observed info => exact .free ((t.observeInfo_inFlight info).trans hfree)
  | @held t hfree client stage args ticket hcheck =>
      cases heldStep_of_act hact with
      | refused | observed | resolved => exact .held hfree client hcheck
      | left answer => exact .free (Tracker.leave_inFlight _ stage ticket (answer stage))

/-- A run is an action and a run. -/
theorem actAll_cons {c after : Crowd} {action : Action} {rest : List Action}
    {effects : List (Option Effect)} (hrun : c.actAll (action :: rest) = some (effects, after)) :
    ∃ effect next more, c.act action = some (effect, next)
      ∧ next.actAll rest = some (more, after) ∧ effects = effect :: more := by
  simp only [actAll] at hrun
  cases hact : c.act action with
  | none =>
      rw [hact] at hrun
      cases hrun
  | some found =>
      obtain ⟨effect, next⟩ := found
      rw [hact] at hrun
      obtain ⟨⟨more, last⟩, hrest, heq⟩ := Option.map_eq_some_iff.mp hrun
      cases heq
      exact ⟨effect, next, more, rfl, hrest, rfl⟩

/-- A run of two lists of actions is a run of each. -/
theorem actAll_append {c after : Crowd} {first second : List Action}
    {effects : List (Option Effect)} (hrun : c.actAll (first ++ second) = some (effects, after)) :
    ∃ earlier middle later, c.actAll first = some (earlier, middle)
      ∧ middle.actAll second = some (later, after) := by
  induction first generalizing c effects with
  | nil => exact ⟨[], c, effects, rfl, hrun⟩
  | cons action rest ih =>
      rw [List.cons_append] at hrun
      obtain ⟨effect, next, more, hact, hrest, _⟩ := actAll_cons hrun
      obtain ⟨earlier, middle, later, hfirst, hsecond⟩ := ih hrest
      exact ⟨effect :: earlier, middle, later, by simp [actAll, hact, hfirst], hsecond⟩

theorem Orderly.actAll {c after : Crowd} {actions : List Action} {effects : List (Option Effect)}
    (h : c.Orderly) (hrun : c.actAll actions = some (effects, after)) : after.Orderly := by
  induction actions generalizing c effects with
  | nil =>
      cases hrun
      exact h
  | cons action rest ih =>
      obtain ⟨effect, next, more, hact, hrest, _⟩ := actAll_cons hrun
      exact ih (h.act hact) hrest

/-! ## The window of a call -/

/-- The answer that a call in flight gets: that of its client's next leaving. -/
def answer? (client : Nat) : List Action → Option ((stage : Stage) → Answer stage.Result)
  | [] => none
  | .leave other answer :: rest => if other = client then some answer else answer? client rest
  | .enter _ _ _ :: rest | .observeInfo _ :: rest | .resolve _ :: rest => answer? client rest

/-- Until its client leaves, a call in flight keeps the crowd as it is. -/
theorem actAll_held {t : Tracker} {client : Nat} {stage : Stage} {ticket : Ticket stage}
    {actions : List Action} {effects : List (Option Effect)} {after : Crowd}
    (hrun : (held t client stage ticket).actAll actions = some (effects, after))
    (hstays : answer? client actions = none) : after = held t client stage ticket := by
  induction actions generalizing effects with
  | nil =>
      cases hrun
      rfl
  | cons action rest ih =>
      obtain ⟨effect, next, more, hact, hrest, _⟩ := actAll_cons hrun
      cases heldStep_of_act hact with
      | refused | observed | resolved => exact ih hrest hstays
      | left answer => simp [answer?] at hstays

/-! ## The serial run -/

/-- A step of a serial run: a call, with its client, or an info. -/
abbrev Entry := Option Nat × Step

/-- What an action adds to the serial run.  A call stands where it entered, with
the answer that it leaves with; one that does not leave adds nothing.  One that
is refused is not answered at all, and an info stands only if it is taken up. -/
def entries (c : Crowd) (action : Action) (effect : Option Effect) (rest : List Action) :
    List Entry :=
  match action, effect with
  | .enter _ _ _, some (.refused (.inProgress _ _)) => []
  | .enter client stage args, some _ => [(some client, .call stage args (.panicked none) [])]
  | .enter client stage args, none =>
      ((answer? client rest).map fun answer =>
        (some client, Step.call stage args (answer stage) [])).toList
  | .observeInfo info, _ =>
      if c.tracker.observeInfo info = c.tracker then [] else [(none, .observeInfo info)]
  | .leave _ _, _ | .resolve _, _ => []

/-- The serial run of some actions: whole calls in the order in which they
entered, and each info at its own place. -/
def serial (c : Crowd) : List Action → List Entry
  | [] => []
  | action :: rest =>
      match c.act action with
      | none => []
      | some (effect, after) => c.entries action effect rest ++ serial after rest

/-- What an action comes to for its client.  Being refused because another call
is in progress is left out. -/
def result? : Action × Option Effect → Option (Nat × Effect)
  | (.enter _ _ _, some (.refused (.inProgress _ _))) => none
  | (.enter client _ _, some effect) => some (client, effect)
  | (.leave client _, some effect) => some (client, effect)
  | _ => none

/-- What the calls of a run come to, each with its client. -/
def results (actions : List Action) (effects : List (Option Effect)) : List (Nat × Effect) :=
  (actions.zip effects).filterMap result?

/-- What the calls of a serial run come to, each with its client. -/
def serialResults (t : Tracker) (entries : List Entry) : List (Nat × Effect) :=
  (entries.zip ((Step.playAll t (entries.map (·.2))).1.map Played.effect)).filterMap
    fun one => one.1.1.map fun client => (client, one.2)

/-- The tracker after a serial run. -/
def serialEnd (t : Tracker) (entries : List Entry) : Tracker :=
  (Step.playAll t (entries.map (·.2))).2

theorem serial_cons {c after : Crowd} {action : Action} {effect : Option Effect}
    (hact : c.act action = some (effect, after)) (rest : List Action) :
    serial c (action :: rest) = c.entries action effect rest ++ serial after rest := by
  rw [serial, hact]

theorem results_cons (action : Action) (effect : Option Effect) (rest : List Action)
    (more : List (Option Effect)) :
    results (action :: rest) (effect :: more)
      = (result? (action, effect)).toList ++ results rest more := by
  unfold results
  cases hresult : result? (action, effect) <;> simp [hresult]

/-- A refusal by a check is one that counts. -/
theorem result?_refused {t : Tracker} {stage : Stage} {args : stage.Args} {violation : Violation}
    (hcheck : t.check stage args = .error violation) (client : Nat) :
    result? (.enter client stage args, some (.refused violation))
      = some (client, .refused violation) := by
  cases violation with
  | inProgress call running => exact absurd hcheck (t.check_ne_inProgress stage args call running)
  | _ => rfl

theorem entries_refused {t : Tracker} {stage : Stage} {args : stage.Args} {violation : Violation}
    (hcheck : t.check stage args = .error violation) (c : Crowd) (client : Nat)
    (rest : List Action) :
    c.entries (.enter client stage args) (some (.refused violation)) rest
      = [(some client, .call stage args (.panicked none) [])] := by
  cases violation with
  | inProgress call running => exact absurd hcheck (t.check_ne_inProgress stage args call running)
  | _ => rfl

theorem entries_observeInfo_of_eq {c : Crowd} {info : Result.Info}
    (hsame : c.tracker.observeInfo info = c.tracker) (effect : Option Effect)
    (rest : List Action) : c.entries (.observeInfo info) effect rest = [] :=
  if_pos hsame

theorem entries_observeInfo_of_ne {c : Crowd} {info : Result.Info}
    (hother : c.tracker.observeInfo info ≠ c.tracker) (effect : Option Effect)
    (rest : List Action) :
    c.entries (.observeInfo info) effect rest = [(none, .observeInfo info)] :=
  if_neg hother

/-- A run comes to what a serial run comes to. -/
structure Serialized (t : Tracker) (entries : List Entry) (found : List (Nat × Effect))
    (after : Crowd) : Prop where
  results : found = serialResults t entries
  tracker : after.tracker.unwind = serialEnd t entries

namespace Serialized

variable {t : Tracker} {rest : List Entry} {found : List (Nat × Effect)} {after : Crowd}

theorem call (stage : Stage) (args : stage.Args) (answer : Answer stage.Result) (client : Nat)
    (h : Serialized (t.call stage args answer).2 rest found after) :
    Serialized t ((some client, .call stage args answer []) :: rest)
      ((client, (t.call stage args answer).1) :: found) after := by
  obtain ⟨heffect, hafter⟩ := Step.play_call t stage args answer []
  refine ⟨?_, ?_⟩
  · simp [serialResults, Step.playAll, heffect, hafter, h.results]
  · simp [serialEnd, Step.playAll, hafter, h.tracker]

theorem observeInfo (info : Result.Info) (h : Serialized (t.observeInfo info) rest found after) :
    Serialized t ((none, .observeInfo info) :: rest) found after := by
  refine ⟨?_, ?_⟩
  · simp [serialResults, Step.playAll, Step.play, Played.after, h.results]
  · simp [serialEnd, Step.playAll, Step.play, Played.after, h.tracker]

end Serialized

/-- The call in flight as a step of the serial run, if it leaves. -/
def pending (client : Nat) (stage : Stage) (args : stage.Args) (actions : List Action) :
    List Entry :=
  ((answer? client actions).map fun answer =>
    (some client, Step.call stage args (answer stage) [])).toList

/-- Every run of some actions from a free crowd is serial. -/
def SerialFromFree (actions : List Action) : Prop :=
  ∀ {t : Tracker} {effects : List (Option Effect)} {after : Crowd}, t.inFlight = none →
    (free t).actAll actions = some (effects, after) →
    Serialized t (serial (free t) actions) (results actions effects) after

/-- Every run of some actions from a held crowd is serial, with the call in
flight in front. -/
def SerialFromHeld (actions : List Action) : Prop :=
  ∀ {t : Tracker} {client : Nat} {stage : Stage} {args : stage.Args} {ticket : Ticket stage}
    {effects : List (Option Effect)} {after : Crowd}, t.inFlight = none →
    t.check stage args = .ok ticket →
    (held t client stage ticket).actAll actions = some (effects, after) →
    Serialized t
      (pending client stage args actions ++ serial (held t client stage ticket) actions)
      (results actions effects) after

theorem serialFromFree_nil : SerialFromFree [] := by
  intro t effects after hfree hrun
  cases hrun
  refine ⟨rfl, ?_⟩
  simp [free, serial, serialEnd, Step.playAll, Tracker.unwind, ← hfree]

theorem serialFromHeld_nil : SerialFromHeld [] := by
  intro t client stage args ticket effects after hfree _ hrun
  cases hrun
  refine ⟨rfl, ?_⟩
  simp only [pending, answer?, serial, serialEnd, held]
  exact Tracker.unwind_mark hfree stage

theorem serialFromFree_cons {rest : List Action} (ihfree : SerialFromFree rest)
    (ihheld : SerialFromHeld rest) (action : Action) : SerialFromFree (action :: rest) := by
  intro t effects after hfree hrun
  obtain ⟨effect, next, more, hact, hrest, rfl⟩ := actAll_cons hrun
  rw [serial_cons hact, results_cons]
  cases freeStep_of_act hfree hact with
  | @refused client stage args violation hcheck =>
      rw [entries_refused hcheck, result?_refused hcheck]
      have hcall : t.call stage args (.panicked none) = (.refused violation, t) := by
        rw [Tracker.call, (Tracker.enter_eq_error_iff hfree).mpr hcheck]
      have hserial : Serialized (t.call stage args (.panicked none)).2
          (serial (free t) rest) (results rest more) after := by
        rw [hcall]
        exact ihfree hfree hrest
      have hwhole := hserial.call stage args (.panicked none) client
      rw [hcall] at hwhole
      exact hwhole
  | entered client hcheck => exact ihheld hfree hcheck hrest
  | observed info =>
      have hserial := ihfree ((t.observeInfo_inFlight info).trans hfree) hrest
      by_cases hsame : t.observeInfo info = t
      · rw [entries_observeInfo_of_eq hsame]
        rw [hsame] at hserial
        show Serialized t (serial (free (t.observeInfo info)) rest) (results rest more) after
        rw [hsame]
        exact hserial
      · rw [entries_observeInfo_of_ne hsame]
        exact hserial.observeInfo info
  | resolved => exact ihfree hfree hrest

theorem serialFromHeld_cons {rest : List Action} (ihfree : SerialFromFree rest)
    (ihheld : SerialFromHeld rest) (action : Action) : SerialFromHeld (action :: rest) := by
  intro t client stage args ticket effects after hfree hcheck hrun
  obtain ⟨effect, next, more, hact, hrest, rfl⟩ := actAll_cons hrun
  rw [serial_cons hact, results_cons]
  cases heldStep_of_act hact with
  | refused | resolved => exact ihheld hfree hcheck hrest
  | left answer =>
      have hcall : t.call stage args (answer stage)
          = ({ t with inFlight := some stage } : Tracker).leave stage ticket (answer stage) := by
        rw [Tracker.call, Tracker.enter_eq_ok_iff.mpr ⟨hfree, hcheck, rfl⟩]
      rw [← hcall] at hrest ⊢
      have hleft : (t.call stage args (answer stage)).2.inFlight = none := by
        rw [hcall]
        exact Tracker.leave_inFlight _ stage ticket (answer stage)
      have hpending : pending client stage args (.leave client answer :: rest)
          = [(some client, .call stage args (answer stage) [])] := by
        simp [pending, answer?]
      rw [hpending]
      exact (ihfree hleft hrest).call stage args (answer stage) client
  | observed info =>
      rw [entries_observeInfo_of_eq (Tracker.observeInfo_of_inFlight rfl info)]
      exact ihheld hfree hcheck hrest

/-- Every run is serial.  Free and held crowds go together in the induction,
since calls enter and leave in between. -/
theorem serialFrom (actions : List Action) : SerialFromFree actions ∧ SerialFromHeld actions := by
  induction actions with
  | nil => exact ⟨serialFromFree_nil, serialFromHeld_nil⟩
  | cons action rest ih =>
      exact ⟨serialFromFree_cons ih.1 ih.2 action, serialFromHeld_cons ih.1 ih.2 action⟩

/-! ## Linear runs -/

/-- What it means that a run of a crowd on a fresh tracker comes to its calls
one after another. -/
structure Linear (actions : List Action) (effects : List (Option Effect)) (c : Crowd) : Prop where
  /-- At most one call is with the application. -/
  alone : c.visits.length ≤ 1
  /-- The mark is that of this call, and clear without one. -/
  marked : c.tracker.inFlight = c.visits.head?.map Visit.stage
  /-- From its entering to its leaving, a call keeps the tracker as it was checked
  but for the mark, and it leaves as one transition of the checked tracker. -/
  window : ∀ (before inside : List Action) (earlier : List (Option Effect)) (c₀ : Crowd)
    (client : Nat) (stage : Stage) (args : stage.Args) (ticket : Ticket stage)
    (entered : Tracker),
    actions = before ++ .enter client stage args :: inside →
    Crowd.actAll {} before = some (earlier, c₀) →
    c₀.tracker.enter stage args = .ok (ticket, entered) →
    answer? client inside = none →
    c.tracker = { c₀.tracker with inFlight := some stage }
      ∧ c.visits = [⟨client, stage, ticket⟩]
      ∧ ∀ answer, c.act (.leave client answer)
          = some (some (c₀.tracker.call stage args (answer stage)).1,
              ⟨(c₀.tracker.call stage args (answer stage)).2, []⟩)
  /-- A call that comes in during another is refused as that and changes nothing. -/
  busy : ∀ v ∈ c.visits, ∀ (client : Nat) (stage : Stage) (args : stage.Args)
    (effect : Option Effect) (after : Crowd),
    c.act (.enter client stage args) = some (effect, after) →
    effect = some (.refused (.inProgress stage v.stage)) ∧ after = c
  /-- All other calls come to what they come to in the serial run. -/
  results : results actions effects = serialResults {} (serial {} actions)
  /-- The tracker is that of the serial run, with the mark of the call in flight. -/
  final : c.tracker
    = { serialEnd {} (serial {} actions) with inFlight := c.visits.head?.map Visit.stage }
  /-- A read sees what the serial run has come to. -/
  reads : ∀ requested, c.act (.resolve requested)
    = some (some (.resolved ((serialEnd {} (serial {} actions)).window.resolve requested)), c)

theorem Orderly.alone {c : Crowd} (h : c.Orderly) : c.visits.length ≤ 1 := by
  cases h with
  | free => exact Nat.zero_le 1
  | held => exact Nat.le_refl 1

theorem Orderly.marked {c : Crowd} (h : c.Orderly) :
    c.tracker.inFlight = c.visits.head?.map Visit.stage := by
  cases h with
  | free hfree => exact hfree
  | held => rfl

theorem Orderly.busy {c after : Crowd} (h : c.Orderly) {v : Visit} (hv : v ∈ c.visits)
    {client : Nat} {stage : Stage} {args : stage.Args} {effect : Option Effect}
    (hact : c.act (.enter client stage args) = some (effect, after)) :
    effect = some (.refused (.inProgress stage v.stage)) ∧ after = c := by
  cases h with
  | free => cases hv
  | @held t hfree holder running _ ticket hcheck =>
      obtain rfl : v = ⟨holder, running, ticket⟩ := List.mem_singleton.mp hv
      cases heldStep_of_act hact with
      | refused => exact ⟨rfl, rfl⟩

/-- An orderly crowd that lets a call in is free, and held afterwards. -/
theorem Orderly.eq_free {c : Crowd} (h : c.Orderly) {stage : Stage} {args : stage.Args}
    {ticket : Ticket stage} {entered : Tracker}
    (henter : c.tracker.enter stage args = .ok (ticket, entered)) :
    c = Crowd.free c.tracker ∧ c.tracker.inFlight = none
      ∧ c.tracker.check stage args = .ok ticket := by
  obtain ⟨hfree, hcheck, _⟩ := Tracker.enter_eq_ok_iff.mp henter
  cases h with
  | free => exact ⟨rfl, hfree, hcheck⟩
  | held => cases hfree

/-- **Every run of a crowd is linear.**  However the clients enter and leave and
whatever is read and reported in between, the run comes to its calls one after
another in the order in which they entered. -/
theorem linear_of_actAll {actions : List Action} {effects : List (Option Effect)} {c : Crowd}
    (hrun : Crowd.actAll {} actions = some (effects, c)) : Linear actions effects c := by
  have horderly : c.Orderly := (Orderly.free (t := {}) rfl).actAll hrun
  have hserial := (serialFrom actions).1 (t := {}) rfl hrun
  have hfinal : c.tracker
      = { serialEnd {} (serial {} actions) with inFlight := c.visits.head?.map Visit.stage } := by
    have hunwind : c.tracker.unwind = serialEnd {} (serial {} actions) := hserial.tracker
    rw [← horderly.marked, ← hunwind]
    rfl
  refine ⟨horderly.alone, horderly.marked, ?_, fun v hv client stage args effect after => ?_,
    hserial.results, hfinal, fun requested => ?_⟩
  · intro before inside earlier c₀ client stage args ticket entered hactions hbefore henter hstays
    have horderly₀ : c₀.Orderly := (Orderly.free (t := {}) rfl).actAll hbefore
    obtain ⟨hc₀, hfree, hcheck⟩ := horderly₀.eq_free henter
    subst hactions
    obtain ⟨_, middle, _, hfirst, hsecond⟩ := actAll_append hrun
    rw [hbefore] at hfirst
    cases hfirst
    obtain ⟨_, next, _, hact, hinside, _⟩ := actAll_cons hsecond
    rw [hc₀, act_enter_of_ok hfree hcheck] at hact
    cases hact
    obtain rfl := actAll_held hinside hstays
    refine ⟨rfl, rfl, fun answer => ?_⟩
    rw [act_leave_held_self, Tracker.call, henter,
      (Tracker.enter_eq_ok_iff.mp henter).2.2]
    rfl
  · exact horderly.busy hv
  · show some (some (Effect.resolved (c.tracker.window.resolve requested)), c) = _
    rw [hfinal]
    rfl

/-- Two clients: a commit and an info come in during genesis, and the first block
breaks down while it opens. -/
theorem linear_overlapping :
    let actions : List Action :=
      [.enter 0 .initChain {}, .enter 1 .commit (), .observeInfo { lastBlockHeight := 9 },
        .leave 0 fun stage => .replied (.ok stage.verb.neutral),
        .enter 1 .beginBlock { header := some { height := 1 } },
        .leave 1 fun _ => .panicked none]
    let effects : List (Option Effect) :=
      [none, some (.refused (.inProgress .commit .initChain)), some .observed,
        some (.replied .initChain (.ok {})), none, some (.panicked none)]
    let after : Crowd := { tracker := { phase := .initialized 1 } }
    Crowd.actAll {} actions = some (effects, after) ∧ Linear actions effects after := by
  intro actions effects after
  have hrun : Crowd.actAll {} actions = some (effects, after) := rfl
  exact ⟨hrun, linear_of_actAll hrun⟩

end ChainHost.Lifecycle.Crowd
