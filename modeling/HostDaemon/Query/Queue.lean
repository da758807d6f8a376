import HostDaemon.FileSystem
import HostDaemon.Server.Views

/-! # The query queue

Status queries wait in a short queue for a single worker, so that a burst of them is refused rather
than piled up. Every submission that is accepted gets a ticket. The worker takes the oldest job, and
the space in the queue is free again from then on. When it has finished a job the result goes to the
caller with the ticket; where that caller has gone away it is dropped. -/

namespace HostDaemon

/-- Why a status query fails. -/
inductive QueryError where
  /-- The queue is full. -/
  | busy
  /-- No server is registered under the port. -/
  | notFound (port : UInt16)
  /-- The worker is gone. -/
  | stopped
  /-- The log file cannot be read. -/
  | failed (cause : FileError)
deriving Repr, DecidableEq

/-- The text of the error. -/
def QueryError.message : QueryError → String
  | .busy => "too many queries queued, try again later"
  | .notFound port => s!"no server on port {port}"
  | .stopped => "query worker is not running"
  | .failed cause => "query failed: " ++ cause.message

/-- The outcome of a status query. -/
abbrev QueryResult := Except QueryError QueryReport

/-- How many jobs may wait beside the one in work. -/
def queryCapacity : Nat := 4

/-- A query that was submitted. -/
structure QueryJob where
  /-- The number of submissions that were accepted before. -/
  ticket : Nat
  /-- The port that it is about. -/
  port : UInt16
deriving Repr, DecidableEq

/-- The queue with its worker. -/
structure QueryQueue where
  /-- The jobs that wait, oldest first. -/
  waiting : List QueryJob
  /-- The job in work. -/
  inWork : Option QueryJob
  /-- The jobs that were worked on with their results, oldest first. -/
  done : List (QueryJob × QueryResult)
  /-- The replies that reached their callers with the tickets, oldest first. -/
  replies : List (Nat × QueryResult)
  /-- The tickets of callers that went away. -/
  gone : List Nat
  /-- How many submissions were accepted. -/
  accepted : Nat
  /-- Is there a worker? -/
  isOpen : Bool

namespace QueryQueue

/-- An empty queue with a worker. -/
def empty : QueryQueue := ⟨[], none, [], [], [], 0, true⟩

/-- A new job waits behind all others. -/
def enqueue (q : QueryQueue) (port : UInt16) : QueryQueue :=
  { q with waiting := q.waiting ++ [⟨q.accepted, port⟩], accepted := q.accepted + 1 }

/-- Submit a query. The answer is its ticket. -/
def submit (q : QueryQueue) (port : UInt16) : Except QueryError (Nat × QueryQueue) :=
  if !q.isOpen then .error .stopped
  else if queryCapacity ≤ q.waiting.length then .error .busy
  else .ok (q.accepted, q.enqueue port)

/-- The worker takes the oldest job, where it has none. -/
def take (q : QueryQueue) : QueryQueue :=
  match q.isOpen, q.inWork, q.waiting with
  | true, none, job :: waiting => { q with waiting := waiting, inWork := some job }
  | _, _, _ => q

/-- The job in work is done. Its result reaches the caller where it is still there. -/
def answer (q : QueryQueue) (job : QueryJob) (result : QueryResult) : QueryQueue :=
  { q with
    inWork := none
    done := q.done ++ [(job, result)]
    replies := if job.ticket ∈ q.gone then q.replies else q.replies ++ [(job.ticket, result)] }

/-- The worker finishes its job with what the probe answers for its port. -/
def finish (q : QueryQueue) (probe : UInt16 → QueryResult) : QueryQueue :=
  match q.inWork with
  | some job => q.answer job (probe job.port)
  | none => q

/-- The caller of a submission that was accepted goes away. -/
def giveUp (q : QueryQueue) (ticket : Nat) : QueryQueue :=
  if ticket < q.accepted then { q with gone := ticket :: q.gone } else q

/-- The worker goes away, with every job that has not been finished. -/
def stop (q : QueryQueue) : QueryQueue := { q with waiting := [], inWork := none, isOpen := false }

/-- The worker takes and finishes jobs until none waits. -/
def drain (q : QueryQueue) (probe : UInt16 → QueryResult) : QueryQueue :=
  q.waiting.foldl (fun q _ => (q.take).finish probe) q

/-- The replies that the caller with a ticket has got. -/
def repliesTo (q : QueryQueue) (ticket : Nat) : List QueryResult :=
  (q.replies.filter (·.1 = ticket)).map (·.2)

/-- The reply to the caller with a ticket, where it has got one. -/
def result? (q : QueryQueue) (ticket : Nat) : Option QueryResult := (q.repliesTo ticket).head?

/-- What a caller gets for a ticket: nothing while the job is not finished, and an error where it
    never will be. -/
def reply? (q : QueryQueue) (ticket : Nat) : Option QueryResult :=
  match q.result? ticket with
  | some result => some result
  | none => if q.isOpen then none else some (.error .stopped)

/-! ### Steps -/

/-- Who does something. -/
inductive Action where
  /-- A caller submits a query about a port. -/
  | submit (port : UInt16)
  /-- The worker takes a job. -/
  | take
  /-- The worker finishes its job, with what the probe answers at that time. -/
  | finish (probe : UInt16 → QueryResult)
  /-- The caller with a ticket goes away. -/
  | giveUp (ticket : Nat)

/-- One step. A submission that is refused, and a step of a worker that has nothing to do, change
    nothing. -/
def step (q : QueryQueue) : Action → QueryQueue
  | .submit port =>
    match q.submit port with
    | .ok (_, q) => q
    | .error _ => q
  | .take => q.take
  | .finish probe => q.finish probe
  | .giveUp ticket => q.giveUp ticket

/-- Several steps. -/
def run (q : QueryQueue) (as : List Action) : QueryQueue := as.foldl step q

/-- The jobs that were accepted, in the order in which they are worked on. -/
def jobs (q : QueryQueue) : List QueryJob := q.done.map (·.1) ++ q.inWork.toList ++ q.waiting

/-! ### Batches -/

/-- Submit queries one after the other. -/
def submitEach (q : QueryQueue) : List UInt16 → List (Except QueryError Nat) × QueryQueue
  | [] => ([], q)
  | port :: ports =>
    match q.submit port with
    | .ok (ticket, q) =>
      let (outcomes, q) := q.submitEach ports
      (.ok ticket :: outcomes, q)
    | .error e =>
      let (outcomes, q) := q.submitEach ports
      (.error e :: outcomes, q)

/-- Submit queries before the worker takes any, let it finish all of them, and take the replies. -/
def batch (q : QueryQueue) (probe : UInt16 → QueryResult) (ports : List UInt16) :
    List QueryResult × QueryQueue :=
  let (outcomes, q) := q.submitEach ports
  let q := q.drain probe
  (outcomes.map fun
    | .ok ticket => (q.reply? ticket).getD (.error .stopped)
    | .error e => .error e, q)

end QueryQueue

end HostDaemon
