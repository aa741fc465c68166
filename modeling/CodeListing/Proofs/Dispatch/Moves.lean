import CodeListing.Dispatch.Basic

/-!
# The moves of a dispatch

What one move can do to a run, said once. The move of a task is described by `Run.TaskMove`, which
tells how far it brings the tasks and that it leaves all else alone; what the forwarder does is
described by the principles `Run.offer_cases` and `Run.forward_cases`, which name the cases and what
is known in each of them, and by `Run.forward_frame`, which tells what it leaves alone. The principle
`Run.step_cases` takes a step apart into the moves of the parties.
-/

namespace CodeListing

/-- Whether a move is one of a task. -/
def Event.isTask : Event → Bool
  | .start _ => true
  | .reply _ _ => true
  | .crash _ => true
  | .forward => false
  | .receive => false
  | .close => false

/-! ## The parties -/

/-- A step is the move of one party, or nothing happens because the dispatch has ended. -/
theorem Run.step_cases {motive : Event → Run → Prop} (d : Dispatch) (r : Run)
    (start : ∀ entry, motive (.start entry) (r.start d entry))
    (reply : ∀ entry answer, motive (.reply entry answer) (r.reply d entry answer))
    (crash : ∀ entry, motive (.crash entry) (r.crash entry))
    (forward : motive .forward (r.forward d))
    (receive : motive .receive { r with channel := r.channel.receive })
    (close : motive .close { r with channel := r.channel.close })
    (ended : ∀ e, motive e r) (e : Event) : motive e (r.step d e) := by
  have guarded : ∀ e r', motive e r' → motive e (if r.outcome.isSome then r else r') := by
    intro e r' hr'
    split
    · exact ended e
    · exact hr'
  cases e with
  | start entry => exact guarded _ _ (start entry)
  | reply entry answer => exact guarded _ _ (reply entry answer)
  | crash entry => exact guarded _ _ (crash entry)
  | forward => exact guarded _ _ forward
  | receive => exact receive
  | close => exact close

/-! ## What the move of a task does -/

/-- How a move ends the task of a client: its parameters cannot be built, the answer to its request
comes in and is a failure or is made into a batch, or it crashes. -/
inductive Dispatch.EndsTask (d : Dispatch) (client : Client) (entry : Nat) :
    Event → Except DispatchError Batch → Prop where
  | unaskable {e : ServiceError} (h : d.listing.parameters d.around client d.origin = .error e) :
      EndsTask d client entry (.start entry) (.error (.service e))
  | unanswered (e : ServiceError) :
      EndsTask d client entry (.reply entry (.error e)) (.error (.service e))
  | answered (response : Json) :
      EndsTask d client entry (.reply entry (.ok response))
        ((d.listing.batchOf d.around (Run.contextOf d client) d.origin response).result.mapError
          DispatchError.ofFault)
  | crashed : EndsTask d client entry (.crash entry) (.error (.taskCrashed .serviceCrashed))

namespace Run

variable {d : Dispatch} {e : Event} {r r' t : Run}

/-- How far the move of a task brings the tasks. -/
inductive TaskProgress (d : Dispatch) (e : Event) (r r' : Run) : Prop where
  /-- The move was not possible. -/
  | idle (stages : r'.stages = r.stages) (finished : r'.finished = r.finished)
  | asked (entry : Nat) (ready : r.stages[entry]? = some .ready)
      (stages : r'.stages = r.stages.set entry .asked) (finished : r'.finished = r.finished)
  | ended (entry : Nat) (stage : Stage) (result : Except DispatchError Batch)
      (before : r.stages[entry]? = some stage) (unfinished : stage ≠ .ended)
      (ends : ∀ client, r.clients[entry]? = some client → d.EndsTask client entry e result)
      (stages : r'.stages = r.stages.set entry .ended)
      (finished : r'.finished = r.finished ++ [⟨entry, result⟩])

/-- The move of a task: it leaves the forwarder, the channel and the outcome alone. -/
structure TaskMove (d : Dispatch) (e : Event) (r r' : Run) : Prop where
  clients : r'.clients = r.clients
  taken : r'.taken = r.taken
  held : r'.held = r.held
  channel : r'.channel = r.channel
  tally : r'.tally = r.tally
  reports : r'.reports = r.reports
  outcome : r'.outcome = r.outcome
  progress : TaskProgress d e r r'

theorem TaskMove.refl (d : Dispatch) (e : Event) (r : Run) : TaskMove d e r r :=
  ⟨rfl, rfl, rfl, rfl, rfl, rfl, rfl, .idle rfl rfl⟩

theorem finish_taskMove {entry : Nat} {stage : Stage} {result : Except DispatchError Batch}
    (before : r.stages[entry]? = some stage) (unfinished : stage ≠ .ended)
    (ends : ∀ client, r.clients[entry]? = some client → d.EndsTask client entry e result) :
    TaskMove d e r (r.finish entry result) :=
  ⟨rfl, rfl, rfl, rfl, rfl, rfl, rfl,
    .ended entry stage result before unfinished ends rfl rfl⟩

theorem start_taskMove (d : Dispatch) (r : Run) (entry : Nat) :
    TaskMove d (.start entry) r (r.start d entry) := by
  unfold start
  split
  next client hclient hready =>
    split
    next e hparameters =>
      refine finish_taskMove hready (by simp) ?_
      intro other hother
      obtain rfl : client = other := Option.some.inj (hclient.symm.trans hother)
      exact .unaskable hparameters
    next => exact ⟨rfl, rfl, rfl, rfl, rfl, rfl, rfl, .asked entry hready rfl rfl⟩
  next => exact TaskMove.refl d _ r

theorem reply_taskMove (d : Dispatch) (r : Run) (entry : Nat)
    (answer : Except ServiceError Json) :
    TaskMove d (.reply entry answer) r (r.reply d entry answer) := by
  unfold reply
  split
  next client hclient hasked =>
    split
    next e => exact finish_taskMove hasked (by simp) fun _ _ => .unanswered e
    next response =>
      refine ⟨rfl, rfl, rfl, rfl, rfl, rfl, rfl,
        .ended entry .asked _ hasked (by simp) ?_ rfl rfl⟩
      intro other hother
      obtain rfl : client = other := Option.some.inj (hclient.symm.trans hother)
      exact .answered response
  next => exact TaskMove.refl d _ r

theorem crash_taskMove (d : Dispatch) (r : Run) (entry : Nat) :
    TaskMove d (.crash entry) r (r.crash entry) := by
  unfold crash
  split
  next hready => exact finish_taskMove hready (by simp) fun _ _ => .crashed
  next hasked => exact finish_taskMove hasked (by simp) fun _ _ => .crashed
  next => exact TaskMove.refl d _ r

theorem step_taskMove (d : Dispatch) (r : Run) (h : e.isTask) :
    TaskMove d e r (r.step d e) := by
  revert h
  refine step_cases (motive := fun e r' => e.isTask → TaskMove d e r r') d r
    ?start ?reply ?crash ?forward ?receive ?close ?ended e
  case start => exact fun entry _ => start_taskMove d r entry
  case reply => exact fun entry answer _ => reply_taskMove d r entry answer
  case crash => exact fun entry _ => crash_taskMove d r entry
  case forward => exact fun h => absurd h (by decide)
  case receive => exact fun h => absurd h (by decide)
  case close => exact fun h => absurd h (by decide)
  case ended => exact fun e _ => TaskMove.refl d e r

/-! ## What the forwarder does -/

theorem offer_cases {motive : Run → Prop} (r : Run) (delivery : Delivery)
    (sent : r.channel.closed = false → r.channel.queue.length < r.channel.capacity →
      motive { r with
        channel := { r.channel with queue := r.channel.queue ++ [delivery] }
        held := none
        tally := { r.tally with
          batches := r.tally.batches + 1
          records := r.tally.records + delivery.batch.length } })
    (full : r.channel.closed = false → r.channel.capacity ≤ r.channel.queue.length →
      motive { r with held := some delivery })
    (closed : r.channel.closed = true → motive { r with held := none }.succeed) :
    motive (r.offer delivery) := by
  unfold offer Channel.send
  cases hclosed : r.channel.closed with
  | true => simpa using closed hclosed
  | false =>
    by_cases hroom : r.channel.queue.length < r.channel.capacity
    · simpa [hroom, hclosed] using sent hclosed hroom
    · simpa [hroom] using full hclosed (Nat.le_of_not_lt hroom)

theorem forward_cases {motive : Run → Prop} (d : Dispatch) (r : Run)
    (held : ∀ delivery, r.held = some delivery → motive (r.offer delivery))
    (failed : ∀ entry e, r.held = none → r.finished[r.taken]? = some ⟨entry, .error e⟩ →
      motive ({ r with taken := r.taken + 1 }.fail d e))
    (ready : ∀ entry batch, r.held = none → r.finished[r.taken]? = some ⟨entry, .ok batch⟩ →
      motive ({ r with taken := r.taken + 1 }.offer ⟨entry, batch⟩))
    (done : r.held = none → r.finished[r.taken]? = none → r.taken = r.clients.length →
      motive r.succeed)
    (waiting : r.held = none → r.finished[r.taken]? = none → r.taken ≠ r.clients.length →
      motive r) :
    motive (r.forward d) := by
  unfold forward
  split
  next delivery hheld => exact held delivery hheld
  next hheld =>
    split
    next entry e hnext => exact failed entry e hheld hnext
    next entry batch hnext => exact ready entry batch hheld hnext
    next hnext =>
      split
      next hall => exact done hheld hnext hall
      next hsome => exact waiting hheld hnext hsome

/-- A part of a run that the forwarder does not write. -/
def ForwarderFrame {α : Type} (f : Run → α) : Prop :=
  ∀ (r : Run) (taken : Nat) (held : Option Delivery) (channel : Channel) (tally : Tally)
    (reports : List (DispatchError × String)) (outcome : Option (Except DispatchError Tally)),
    f { r with taken, held, channel, tally, reports, outcome } = f r

theorem offer_frame {α : Type} {f : Run → α} (hf : ForwarderFrame f) (r : Run)
    (delivery : Delivery) : f (r.offer delivery) = f r := by
  refine r.offer_cases (motive := fun r' => f r' = f r) delivery ?sent ?full ?closed
  case sent => exact fun _ _ => hf r _ _ _ _ _ _
  case full => exact fun _ _ => hf r _ _ _ _ _ _
  case closed => exact fun _ => hf r _ _ _ _ _ _

theorem forward_frame {α : Type} {f : Run → α} (hf : ForwarderFrame f) (d : Dispatch) (r : Run) :
    f (r.forward d) = f r := by
  refine r.forward_cases (motive := fun r' => f r' = f r) d ?held ?failed ?ready ?done ?waiting
  case held => exact fun delivery _ => offer_frame hf r delivery
  case failed => exact fun _ _ _ _ => hf r _ _ _ _ _ _
  case ready => exact fun _ _ _ _ => (offer_frame hf _ _).trans (hf r _ _ _ _ _ _)
  case done => exact fun _ _ _ => hf r _ _ _ _ _ _
  case waiting => exact fun _ _ _ => rfl

/-! ## What the other moves do to the tasks -/

/-- Two runs in which the tasks stand alike. -/
structure SameTasks (r t : Run) : Prop where
  clients : r.clients = t.clients
  stages : r.stages = t.stages
  finished : r.finished = t.finished

theorem SameTasks.trans {s : Run} (h : SameTasks r s) (h' : SameTasks s t) : SameTasks r t :=
  ⟨h.clients.trans h'.clients, h.stages.trans h'.stages, h.finished.trans h'.finished⟩

theorem forward_sameTasks (d : Dispatch) (r : Run) : SameTasks (r.forward d) r where
  clients := forward_frame (fun _ _ _ _ _ _ _ => rfl) d r
  stages := forward_frame (fun _ _ _ _ _ _ _ => rfl) d r
  finished := forward_frame (fun _ _ _ _ _ _ _ => rfl) d r

theorem step_sameTasks (d : Dispatch) (r : Run) (h : e.isTask = false) :
    SameTasks (r.step d e) r := by
  cases e with
  | start entry => simp [Event.isTask] at h
  | reply entry answer => simp [Event.isTask] at h
  | crash entry => simp [Event.isTask] at h
  | forward =>
    simp only [step]
    split
    · exact ⟨rfl, rfl, rfl⟩
    · exact forward_sameTasks d r
  | receive => exact ⟨rfl, rfl, rfl⟩
  | close => exact ⟨rfl, rfl, rfl⟩

/-! ## What an outcome rules out -/

/-- An outcome is final. -/
theorem step_outcome (d : Dispatch) (h : r.outcome.isSome) (e : Event) :
    (r.step d e).outcome = r.outcome := by
  cases e <;> simp [step, h]

/-- Once there is an outcome no task moves any more. -/
theorem step_of_isTask (d : Dispatch) (h : r.outcome.isSome) (he : e.isTask) :
    r.step d e = r := by
  cases e with
  | start entry => simp [step, h]
  | reply entry answer => simp [step, h]
  | crash entry => simp [step, h]
  | forward => simp [Event.isTask] at he
  | receive => simp [Event.isTask] at he
  | close => simp [Event.isTask] at he

end Run

end CodeListing
