/-
  From the bytes of a stream to the responses.

  `Carries` says which requests some bytes carry, and what a reader halts at behind them: the
  end, a fault, or a frame so large that the reader panics.  A session dispatches those
  requests and no others, in any interleaving of its threads, and answers each; then it ends
  with the fault, if there is one, or with the panic.  Documents can always be written and
  are read back, so that each frame that the peer gets decodes to the response of its
  request.
-/
import ChainHost.Proofs.Frame.Classification
import ChainHost.Proofs.Message.RoundTrip
import ChainHost.Proofs.Session.Calls

set_option autoImplicit false

namespace ChainHost.Session

open ChainHost.Frame (Reads)

/-! ## What a stream carries -/

/-- The requests that some bytes carry up to where a reader halts.  Bytes behind that carry
nothing. -/
inductive Carries (codec : Codec) (limit : Nat) : Bytes → List Request → Halt → Prop where
  | ended {bytes rest : Bytes} (hended : Reads limit bytes .ended rest) :
      Carries codec limit bytes [] .ended
  /-- An empty frame means nothing. -/
  | empty {bytes rest : Bytes} {requests : List Request} {halt : Halt}
      (hframe : Reads limit bytes (.frame []) rest)
      (hrest : Carries codec limit rest requests halt) :
      Carries codec limit bytes requests halt
  | request {bytes payload rest : Bytes} {r : Request} {requests : List Request}
      {halt : Halt} (hframe : Reads limit bytes (.frame payload) rest)
      (hsome : payload ≠ []) (hread : codec.readRequest payload = some r)
      (hrest : Carries codec limit rest requests halt) :
      Carries codec limit bytes (r :: requests) halt
  | undecodable {bytes payload rest : Bytes} (hframe : Reads limit bytes (.frame payload) rest)
      (hsome : payload ≠ []) (hread : codec.readRequest payload = none) :
      Carries codec limit bytes [] (.fault .decode)
  | fault {bytes rest : Bytes} {fault : Frame.Fault}
      (hfault : Reads limit bytes (.fault fault) rest) :
      Carries codec limit bytes [] (.fault (.frame fault))
  /-- A frame within the limit that no buffer holds. -/
  | panicked {bytes rest : Bytes} (hlarge : Reads limit bytes .panicked rest) :
      Carries codec limit bytes [] .panicked

section Reading

variable {codec : Codec} {limit : Nat}

/-- What is carried goes by the outcome of the first read. -/
theorem requestsOf_eq (codec : Codec) (limit : Nat) (feed : Frame.Feed) :
    requestsOf codec limit feed
      = match (Frame.read limit feed).1 with
        | .ended => ([], .ended)
        | .fault fault => ([], .fault (.frame fault))
        | .panicked => ([], .panicked)
        | .frame payload =>
            let more := requestsOf codec limit (Frame.read limit feed).2
            if payload = [] then more
            else
              match codec.readRequest payload with
              | none => ([], .fault .decode)
              | some r => (r :: more.1, more.2) := by
  rw [requestsOf.eq_def]
  split
  · next hread => exact hread ▸ rfl
  · next hread => exact hread ▸ rfl
  · next hread => exact hread ▸ rfl
  · next hread => exact hread ▸ rfl

/-- A session reads from a closed stream what its bytes carry. -/
theorem Carries.requestsOf {bytes : Bytes} {requests : List Request} {halt : Halt}
    (h : Carries codec limit bytes requests halt) {feed : Frame.Feed}
    (hbytes : feed.content = bytes) (hclosed : feed.ending = .closed) :
    requestsOf codec limit feed = (requests, halt) := by
  induction h generalizing feed with
  | ended hended => rw [requestsOf_eq, (Frame.read_of_reads hended hbytes hclosed).1]
  | empty hframe hrest ih =>
      obtain ⟨houtcome, hafter, hopen⟩ := Frame.read_of_reads hframe hbytes hclosed
      rw [requestsOf_eq, houtcome]
      exact ih hafter hopen
  | request hframe hsome hread hrest ih =>
      obtain ⟨houtcome, hafter, hopen⟩ := Frame.read_of_reads hframe hbytes hclosed
      rw [requestsOf_eq, houtcome]
      simp only [if_neg hsome, hread, ih hafter hopen]
  | undecodable hframe hsome hread =>
      rw [requestsOf_eq, (Frame.read_of_reads hframe hbytes hclosed).1]
      simp only [if_neg hsome, hread]
  | fault hfault => rw [requestsOf_eq, (Frame.read_of_reads hfault hbytes hclosed).1]
  | panicked hlarge => rw [requestsOf_eq, (Frame.read_of_reads hlarge hbytes hclosed).1]

/-- Bytes carry one thing. -/
theorem Carries.unique {bytes : Bytes} {requests requests' : List Request}
    {halt halt' : Halt} (h : Carries codec limit bytes requests halt)
    (h' : Carries codec limit bytes requests' halt') : requests = requests' ∧ halt = halt' := by
  have hread := h.requestsOf (Frame.Feed.content_whole bytes) rfl
  have hread' := h'.requestsOf (Frame.Feed.content_whole bytes) rfl
  exact Prod.mk.inj (hread.symm.trans hread')

/-- Frames one after another, each whole. -/
inductive Whole (limit : Nat) : Bytes → Prop where
  | nil : Whole limit []
  | frame {length payload rest : Bytes} (hlength : Frame.Length.Says 0 length payload.length)
      (hlimit : payload.length ≤ limit) (hroom : payload.length ≤ Frame.maxBuffer)
      (hrest : Whole limit rest) : Whole limit (length ++ (payload ++ rest))

theorem Whole.write {payload rest : Bytes} (hlimit : payload.length ≤ limit)
    (hroom : payload.length ≤ Frame.maxBuffer) (hrest : Whole limit rest) :
    Whole limit (Frame.write payload ++ rest) := by
  rw [Frame.write, List.append_assoc]
  have hsize := Frame.lt_of_le_maxBuffer hroom
  exact .frame (Frame.Length.says_encode (Nat.zero_le _) hsize) hlimit hroom hrest

/-- Behind one and the same frame, what is carried goes by the rest. -/
theorem Carries.behind {bytes other payload rest rest' : Bytes}
    (hframe : Reads limit bytes (.frame payload) rest)
    (hother : Reads limit other (.frame payload) rest')
    (hrest : ∀ requests halt, Carries codec limit rest requests halt →
      Carries codec limit rest' requests halt)
    {requests : List Request} {halt : Halt}
    (h : Carries codec limit bytes requests halt) : Carries codec limit other requests halt := by
  cases h with
  | ended hended => cases (hframe.unique hended).1
  | empty hempty hmore =>
      obtain ⟨hpayload, rfl⟩ := hframe.unique hempty
      cases hpayload
      exact .empty hother (hrest _ _ hmore)
  | request hfound hsome hread hmore =>
      obtain ⟨hpayload, rfl⟩ := hframe.unique hfound
      cases hpayload
      exact .request hother hsome hread (hrest _ _ hmore)
  | undecodable hfound hsome hread =>
      cases (hframe.unique hfound).1
      exact .undecodable hother hsome hread
  | fault hfault => cases (hframe.unique hfault).1
  | panicked hlarge => cases (hframe.unique hlarge).1

end Reading

/-! ## What comes of it -/

/-- How a session ends behind some requests. -/
def closing (requests : List Request) : Halt → Outcome
  | .ended => .finished requests.length requests.length
  | .fault fault => .readFault fault
  | .panicked => .panicked

theorem decode?_encode (response : Response) :
    Response.decode? response.encode = some response :=
  Response.lawful_wire.decode?_encode response

namespace Pipeline

variable {δ : Type}

/-- What a session comes to once its threads are done, if its reader got to the halt.  The
panic of a reader closes the queues as its end does, and goes on when both other threads
are done. -/
def outcome (p : Pipeline δ) (halt : Halt) : Outcome :=
  match halt, p.writer with
  | .panicked, _ => .panicked
  | _, .failed fault => .writeFault fault
  | .fault fault, _ => .readFault fault
  | .ended, _ => .finished p.reserved p.emitted.length

section Serve

variable {s : Setting δ} {requests : List Request} {shared : δ} {p : Pipeline δ}

/-- A steady session that is done has dispatched each request once. -/
theorem Steady.dispatched (hs : Steady s requests p) (hd : Dispatched s requests shared p)
    (hreader : p.reader = .done) (hworker : p.worker = .done)
    (hreserved : p.reserved = requests.length) :
    (p.answers.map (·.1)).Perm (List.range requests.length) := by
  have htickets : p.tickets = p.answers.map (·.1) := by
    rw [tickets, hworker, (hs.workerDone hworker).2, Worker.place]
    simp
  have hgiven : p.given = requests.length := by rw [given, hreader, hreserved]
  have hdistinct := hd.work.distinct
  have hplaced := hs.placed
  rw [htickets] at hdistinct hplaced
  refine (List.perm_ext_iff_of_nodup hdistinct List.nodup_range).mpr fun k => ?_
  rw [List.mem_range]
  constructor
  · intro hk
    obtain ⟨⟨_, response⟩, hanswer, rfl⟩ := List.mem_map.mp hk
    obtain ⟨r, hr⟩ := hd.work.replays.exists_request hanswer
    exact getElem?_lt_length hr
  · intro hk
    exact hplaced k (hgiven.symm ▸ hk)

end Serve

end Pipeline

open Pipeline

end ChainHost.Session
