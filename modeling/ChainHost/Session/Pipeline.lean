/-
  The threads of a session.

  A reader takes requests as they come.  It runs those of consensus itself and
  hands all others to a worker; for each it reserves a slot.  A writer turns the
  slots into payloads, front to back.  `advance` gives one thread a turn, if it
  can use one; any sequence of turns is a schedule, and `Session.run` is what
  they come to when each request is answered before the next one is read.  The
  worker may break down and the connection may break: these are turns too.
-/
import ChainHost.Session.Run

set_option autoImplicit false

namespace ChainHost.Session

/-! ## Threads -/

/-- A reserved place among the responses. -/
inductive Slot where
  | ready (response : Response)
  /-- The worker answers it. -/
  | pending (index : Nat) (verb : Verb)
  deriving DecidableEq

/-- What the reader does next. -/
inductive Reader where
  | reading (rest : List Request)
  /-- A request of consensus is being dispatched. -/
  | running (request : Request) (rest : List Request)
  /-- A request goes to the worker, as soon as it has room. -/
  | handing (request : Request) (rest : List Request)
  /-- A slot is reserved, as soon as there is room. -/
  | reserving (slot : Slot) (rest : List Request)
  | done
  deriving DecidableEq

/-- What the worker does next. -/
inductive Worker where
  | idle
  | running (index : Nat) (request : Request)
  /-- It broke down, and what it had and was to have is lost. -/
  | lost
  | done
  deriving DecidableEq

/-- What the writer does next. -/
inductive Writer where
  /-- It looks for a slot. -/
  | looking
  /-- It waits for a slot. -/
  | waiting
  /-- It looks for the worker's response. -/
  | resolving (index : Nat) (verb : Verb)
  /-- It waits for the worker's response. -/
  | awaiting (index : Nat) (verb : Verb)
  | emitting (response : Response)
  /-- It has emitted the response to a flush. -/
  | pushing
  | done
  | failed (fault : WriteFault)
  deriving DecidableEq

/-- What happens to requests, by their place among all. -/
inductive Mark where
  | begun (index : Nat)
  | ended (index : Nat) (response : Response)
  deriving DecidableEq

/-- What a session runs with. -/
structure Setting (δ : Type) where
  /-- Runs a request on what all sessions share. -/
  dispatch : Request → δ → Response × δ
  codec : Codec
  /-- How many slots can be reserved, and how many requests can wait for the
  worker. -/
  depth : Nat

/-- A session between two turns. -/
structure Pipeline (δ : Type) where
  reader : Reader
  worker : Worker := .idle
  writer : Writer := .looking
  /-- The number of slots that were reserved. -/
  reserved : Nat := 0
  slots : List Slot := []
  /-- The requests that wait for the worker. -/
  jobs : List (Nat × Request) := []
  /-- The responses of the worker that wait for the writer. -/
  replies : List (Nat × Response) := []
  shared : δ
  /-- The payloads that were emitted. -/
  emitted : List Bytes := []
  /-- What was emitted and is still held back. -/
  held : Bytes := []
  /-- What the peer has. -/
  sent : Bytes := []
  log : List Mark := []

namespace Pipeline

variable {δ : Type}

/-- A session before its first turn. -/
def start (requests : List Request) (shared : δ) : Pipeline δ :=
  { reader := .reading requests, shared }

/-- The session after all that was held back has been sent. -/
def flush (p : Pipeline δ) : Pipeline δ := { p with sent := p.sent ++ p.held, held := [] }

/-- The session after a mark. -/
def note (p : Pipeline δ) (mark : Mark) : Pipeline δ := { p with log := p.log ++ [mark] }

/-! ## Turns -/

/-- Gives the reader a turn. -/
def advanceReader (s : Setting δ) (p : Pipeline δ) : Option (Pipeline δ) :=
  match p.reader with
  | .reading [] => some { p with reader := .done }
  | .reading (r :: rest) =>
      if r.capability = .consensus then
        some { p.note (.begun p.reserved) with reader := .running r rest }
      else some { p with reader := .handing r rest }
  | .running r rest =>
      let (response, shared) := s.dispatch r p.shared
      some
        { p.note (.ended p.reserved response) with
          shared, reader := .reserving (.ready response) rest }
  | .handing r rest =>
      let reader := Reader.reserving (.pending p.reserved r.verb) rest
      if p.worker = .lost then some { p with reader }
      else if p.jobs.length < s.depth then
        some { p with reader, jobs := p.jobs ++ [(p.reserved, r)] }
      else none
  | .reserving slot rest =>
      match p.writer with
      | .failed _ => some { p with reader := .done }
      | _ =>
          if p.slots.length < s.depth then
            some
              { p with
                reader := .reading rest
                slots := p.slots ++ [slot]
                reserved := p.reserved + 1 }
          else none
  | .done => none

/-- Gives the worker a turn. -/
def advanceWorker (s : Setting δ) (p : Pipeline δ) : Option (Pipeline δ) :=
  match p.worker with
  | .idle =>
      match p.jobs with
      | (index, r) :: jobs =>
          some { p.note (.begun index) with worker := .running index r, jobs }
      | [] => if p.reader = .done then some { p with worker := .done } else none
  | .running index r =>
      let (response, shared) := s.dispatch r p.shared
      some
        { p.note (.ended index response) with
          shared, worker := .idle, replies := p.replies ++ [(index, response)] }
  | .lost => none
  | .done => none

/-- Breaks the worker down in the middle of a request. -/
def loseWorker (p : Pipeline δ) : Option (Pipeline δ) :=
  match p.worker with
  | .running _ _ => some { p with worker := .lost, jobs := [] }
  | _ => none

/-- The session after the writer has taken the slot in front. -/
def takeSlot (p : Pipeline δ) (slot : Slot) (slots : List Slot) : Pipeline δ :=
  match slot with
  | .ready response => { p with slots, writer := .emitting response }
  | .pending index verb => { p with slots, writer := .resolving index verb }

/-- The session after the writer has taken a response of the worker, if it is
there. -/
def takeReply? (p : Pipeline δ) (index : Nat) : Option (Pipeline δ) :=
  (p.replies.lookup index).map fun response =>
    { p with
      replies := p.replies.filter fun reply => reply.1 != index
      writer := .emitting response }

/-- What answers a request that was lost with the worker. -/
def lostResponse (verb : Verb) : Response :=
  .failed (.verb verb) (.internalFault (verb.name ++ " worker exited without replying"))

/-- The session after a payload has been emitted.  Of what is held back then,
`spill` bytes are sent at once. -/
def emit (p : Pipeline δ) (payload : Bytes) (spill : Nat) (next : Writer) : Pipeline δ :=
  let held := p.held ++ Frame.write payload
  { p with
    writer := next
    emitted := p.emitted ++ [payload]
    sent := p.sent ++ held.take spill
    held := held.drop spill }

/-- The session after the connection has broken.  Of what the writer had to send,
`spill` bytes got through. -/
def snap (p : Pipeline δ) (bytes : Bytes) (spill : Nat) (reason : String) : Pipeline δ :=
  { p with
    writer := .failed (.broken reason)
    sent := p.sent ++ bytes.take spill
    held := bytes.drop spill }

/-- Gives the writer a turn. -/
def advanceWriter (s : Setting δ) (spill : Nat) (p : Pipeline δ) : Option (Pipeline δ) :=
  match p.writer with
  | .looking =>
      match p.slots with
      | slot :: slots => some (p.takeSlot slot slots)
      | [] => some { p.flush with writer := if p.reader = .done then .done else .waiting }
  | .waiting =>
      match p.slots with
      | slot :: slots => some (p.takeSlot slot slots)
      | [] => if p.reader = .done then some { p.flush with writer := .done } else none
  | .resolving index verb =>
      match p.takeReply? index with
      | some p => some p
      | none => some { p.flush with writer := .awaiting index verb }
  | .awaiting index verb =>
      match p.takeReply? index with
      | some p => some p
      | none =>
          if p.worker = .lost then some { p with writer := .emitting (lostResponse verb) } else none
  | .emitting response =>
      match Session.emit s.codec response with
      | .error fault => some { p.flush with writer := .failed fault }
      | .ok payload =>
          some (p.emit payload spill (if response.kind = .verb .flush then .pushing else .looking))
  | .pushing => some { p.flush with writer := .looking }
  | .done => none
  | .failed _ => none

/-- Breaks the connection while the writer sends something. -/
def breakWriter (s : Setting δ) (spill : Nat) (reason : String) (p : Pipeline δ) :
    Option (Pipeline δ) :=
  match p.writer with
  | .looking => if p.slots.isEmpty then some (p.snap p.held spill reason) else none
  | .waiting =>
      if p.slots.isEmpty ∧ p.reader = .done then some (p.snap p.held spill reason) else none
  | .resolving index _ =>
      if (p.takeReply? index).isNone then some (p.snap p.held spill reason) else none
  | .emitting response =>
      match Session.emit s.codec response with
      | .error _ => none
      | .ok payload => some (p.snap (p.held ++ Frame.write payload) spill reason)
  | .pushing => some (p.snap p.held spill reason)
  | .awaiting _ _ => none
  | .done => none
  | .failed _ => none

/-- Who gets a turn. -/
inductive Turn where
  | reader
  | worker
  /-- The writer; of what it holds back so many bytes are sent at once. -/
  | writer (spill : Nat)
  /-- The worker breaks down. -/
  | loss
  /-- The connection breaks after so many bytes of what is being sent. -/
  | breakage (spill : Nat) (reason : String)
  deriving DecidableEq, Repr

/-- Gives a turn, if it can be used. -/
def advance (s : Setting δ) (turn : Turn) (p : Pipeline δ) : Option (Pipeline δ) :=
  match turn with
  | .reader => p.advanceReader s
  | .worker => p.advanceWorker s
  | .writer spill => p.advanceWriter s spill
  | .loss => p.loseWorker
  | .breakage spill reason => p.breakWriter s spill reason

/-- Plays a schedule; turns that cannot be used are passed over. -/
def play (s : Setting δ) (schedule : List Turn) (p : Pipeline δ) : Pipeline δ :=
  schedule.foldl (fun p turn => (p.advance s turn).getD p) p

/-- One session leads to another by some turns. -/
inductive Leads (s : Setting δ) : Pipeline δ → Pipeline δ → Prop where
  | refl (p : Pipeline δ) : Leads s p p
  | step {p q r : Pipeline δ} (turn : Turn) (before : Leads s p q)
      (h : q.advance s turn = some r) : Leads s p r

/-- All threads are done. -/
def Finished (p : Pipeline δ) : Prop :=
  p.reader = .done ∧ (p.worker = .done ∨ p.worker = .lost)
    ∧ (p.writer = .done ∨ ∃ fault, p.writer = .failed fault)

end Pipeline

end ChainHost.Session
