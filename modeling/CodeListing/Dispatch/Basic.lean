import CodeListing.Dispatch.Channel
import CodeListing.Failure.Dispatch

/-!
# Dispatches

A dispatch asks every client of a buffer at once and hands the batches on as they get ready. Each
client has a task, which builds the parameters, sends the request, and makes a batch of the answer;
the forwarder takes the results of finished tasks in the order in which they finished and sends the
batches on; the consumer receives them, or goes away. The first failure that the forwarder meets
ends the dispatch and is reported once, and so does, without a report, a send to a consumer that has
gone. Unfinished tasks are abandoned when a dispatch ends.

Nothing is assumed about who moves when. `Event` is one move of one party, `Run.step` its effect,
and a dispatch under a schedule is `Dispatch.run` on a list of events, where a move that is not
possible changes nothing. So a statement about every run is a statement about every list of events.
-/

namespace CodeListing

/-- What is given to a dispatch. -/
structure Dispatch where
  listing : Listing
  around : Surroundings
  origin : Origin
  /-- The clients attached to a buffer, narrowed to a name if one is given. -/
  resolve : UInt32 → Option String → Except ServiceError (List Client)
  /-- How many batches the channel holds. -/
  capacity : Nat := 16

/-- What a dispatch that did not fail has done. -/
structure Tally where
  clients : Nat := 0
  /-- How many batches were sent, and how many records were in them. -/
  batches : Nat := 0
  records : Nat := 0
  deriving Repr, DecidableEq

/-- A request to one client. -/
structure Request where
  client : Client
  method : Method
  params : Json
  bufnr : UInt32

/-- Where the task of a client stands. -/
inductive Stage where
  /-- Nothing was done yet. -/
  | ready
  /-- The request was sent. -/
  | asked
  /-- There is a result. -/
  | ended
  deriving Repr, DecidableEq

/-- The result of the task of a client. -/
structure Finish where
  entry : Nat
  result : Except DispatchError Batch

/-- One move in a dispatch. -/
inductive Event where
  /-- The task of an entry builds its parameters and sends its request. -/
  | start (entry : Nat)
  /-- The answer for an entry comes in and is made into a batch. -/
  | reply (entry : Nat) (answer : Except ServiceError Json)
  /-- A service that the task of an entry is waiting for crashes, and the task with it. -/
  | crash (entry : Nat)
  /-- The forwarder takes the next result, or tries again to send the batch it holds. -/
  | forward
  /-- The consumer takes a batch out of the channel. -/
  | receive
  /-- The consumer goes away. -/
  | close

/-- A dispatch under way. -/
structure Run where
  /-- What the resolver gave. -/
  clients : List Client := []
  /-- The stages of their tasks. -/
  stages : List Stage := []
  /-- The results, in the order in which the tasks finished. -/
  finished : List Finish := []
  /-- How many of them the forwarder has taken. -/
  taken : Nat := 0
  /-- The batch that the forwarder could not send yet. -/
  held : Option Delivery := none
  channel : Channel
  tally : Tally := {}
  /-- The filters that the resolver was asked with. -/
  filters : List (Option String) := []
  requests : List Request := []
  /-- The questions that were asked about files. -/
  accesses : List Access := []
  /-- The failures that were reported, each with the tag of its listing. -/
  reports : List (DispatchError × String) := []
  /-- How the dispatch ended, if it has. -/
  outcome : Option (Except DispatchError Tally) := none

namespace Run

/-! ### Tasks -/

/-- The task of an entry has a result. -/
def finish (r : Run) (entry : Nat) (result : Except DispatchError Batch) : Run :=
  { r with stages := r.stages.set entry .ended, finished := r.finished ++ [⟨entry, result⟩] }

/-- The task of an entry starts. -/
def start (d : Dispatch) (r : Run) (entry : Nat) : Run :=
  match r.clients[entry]?, r.stages[entry]? with
  | some client, some .ready =>
    match d.listing.parameters d.around client d.origin with
    | .error e => r.finish entry (.error (.service e))
    | .ok params =>
      { r with
        stages := r.stages.set entry .asked
        requests := r.requests ++ [⟨client, d.listing.method, params, d.origin.bufnr⟩] }
  | _, _ => r

/-- The context of the request to a client. -/
def contextOf (d : Dispatch) (client : Client) : RequestContext where
  client
  bufnr := d.origin.bufnr
  method := d.listing.method

/-- The answer for an entry comes in. -/
def reply (d : Dispatch) (r : Run) (entry : Nat) (answer : Except ServiceError Json) : Run :=
  match r.clients[entry]?, r.stages[entry]? with
  | some client, some .asked =>
    match answer with
    | .error e => r.finish entry (.error (.service e))
    | .ok response =>
      let made := d.listing.batchOf d.around (contextOf d client) d.origin response
      { r with accesses := r.accesses ++ made.accesses }.finish entry
        (made.result.mapError DispatchError.ofFault)
  | _, _ => r

/-- The task of an entry crashes before it has a result. -/
def crash (r : Run) (entry : Nat) : Run :=
  match r.stages[entry]? with
  | some .ready => r.finish entry (.error (.taskCrashed .serviceCrashed))
  | some .asked => r.finish entry (.error (.taskCrashed .serviceCrashed))
  | _ => r

/-! ### The forwarder -/

/-- The dispatch ends with a failure, which is reported. -/
def fail (d : Dispatch) (r : Run) (e : DispatchError) : Run :=
  { r with reports := r.reports ++ [(e, d.listing.tag)], outcome := some (.error e) }

/-- The dispatch ends without a failure. -/
def succeed (r : Run) : Run := { r with outcome := some (.ok r.tally) }

/-- The forwarder tries to send a batch. -/
def offer (r : Run) (delivery : Delivery) : Run :=
  match r.channel.send delivery with
  | .sent channel =>
    { r with
      channel
      held := none
      tally := { r.tally with
        batches := r.tally.batches + 1
        records := r.tally.records + delivery.batch.length } }
  | .full => { r with held := some delivery }
  | .closed => { r with held := none }.succeed

/-- The forwarder moves. -/
def forward (d : Dispatch) (r : Run) : Run :=
  match r.held with
  | some delivery => r.offer delivery
  | none =>
    match r.finished[r.taken]? with
    | some ⟨_, .error e⟩ => { r with taken := r.taken + 1 }.fail d e
    | some ⟨entry, .ok batch⟩ => { r with taken := r.taken + 1 }.offer ⟨entry, batch⟩
    | none => if r.taken = r.clients.length then r.succeed else r

/-! ### Moves -/

/-- The effect of one move. A dispatch that has ended only lets the consumer empty the channel. -/
def step (d : Dispatch) (r : Run) : Event → Run
  | .receive => { r with channel := r.channel.receive }
  | .close => { r with channel := r.channel.close }
  | .start entry => if r.outcome.isSome then r else r.start d entry
  | .reply entry answer => if r.outcome.isSome then r else r.reply d entry answer
  | .crash entry => if r.outcome.isSome then r else r.crash entry
  | .forward => if r.outcome.isSome then r else r.forward d

end Run

namespace Dispatch

/-- The room that the channel of a dispatch has. There is room for one batch at least. -/
def room (d : Dispatch) : Nat := max 1 d.capacity

/-- A dispatch at its beginning: the clients are resolved. Without clients it ends at once. -/
def begin (d : Dispatch) : Run :=
  let r : Run :=
    { channel := { capacity := d.room }, filters := [d.listing.clientName] }
  match d.resolve d.origin.bufnr d.listing.clientName with
  | .error e => r.fail d (.service e)
  | .ok clients =>
    let r := { r with
      clients
      stages := clients.map fun _ => .ready
      tally := { clients := clients.length } }
    if clients.isEmpty then r.succeed else r

/-- A dispatch after some moves. -/
def run (d : Dispatch) (events : List Event) : Run := events.foldl (Run.step d) d.begin

/-- A dispatch after some moves, if it can be launched: no channel holds more than `maxCapacity`. -/
def launch (d : Dispatch) (events : List Event) : Except Crash Run :=
  if Channel.maxCapacity < d.room then .error (.channelTooLarge d.room) else .ok (d.run events)

end Dispatch

end CodeListing
