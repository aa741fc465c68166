import CodeListing.Proofs.Dispatch.Tasks

/-!
# What an attentive consumer receives

A consumer that does not go away receives the batches of the tasks that finish before the first
failing one, in the order in which they finish, and the dispatch ends as that order asks for.

The order alone decides: `Finish.errorFree` are the batches before the first failure,
`Finish.firstFailure?` is that failure, and `Dispatch.verdict` is the outcome that the two ask for.
`Run.Attended` is the invariant that carries the proof. It says that what was received, what is in
the channel and what the forwarder holds are, in this order, the batches among the results that the
forwarder has taken.
-/

namespace CodeListing

/-! ## What a finishing order asks for -/

namespace Finish

/-- The batches of the tasks that finish before the first one that fails. -/
def errorFree : List Finish → List Delivery
  | [] => []
  | ⟨_, .error _⟩ :: _ => []
  | ⟨entry, .ok batch⟩ :: order => ⟨entry, batch⟩ :: errorFree order

/-- The failure of the first task that fails. -/
def firstFailure? : List Finish → Option DispatchError
  | [] => none
  | ⟨_, .error e⟩ :: _ => some e
  | ⟨_, .ok _⟩ :: order => firstFailure? order

variable {order more : List Finish}

theorem errorFree_append_of_none (h : firstFailure? order = none) (more : List Finish) :
    errorFree (order ++ more) = errorFree order ++ errorFree more := by
  induction order with
  | nil => rfl
  | cons f order ih =>
    obtain ⟨entry, result⟩ := f
    cases result with
    | error e => simp [firstFailure?] at h
    | ok batch => simp [errorFree, ih h]

theorem errorFree_append_of_some {e : DispatchError} (h : firstFailure? order = some e)
    (more : List Finish) : errorFree (order ++ more) = errorFree order := by
  induction order with
  | nil => simp [firstFailure?] at h
  | cons f order ih =>
    obtain ⟨entry, result⟩ := f
    cases result with
    | error e => rfl
    | ok batch => simp [errorFree, ih h]

theorem firstFailure?_append (order more : List Finish) :
    firstFailure? (order ++ more) = (firstFailure? order).or (firstFailure? more) := by
  induction order with
  | nil => rfl
  | cons f order ih =>
    obtain ⟨entry, result⟩ := f
    cases result with
    | error e => rfl
    | ok batch => simpa [firstFailure?] using ih

theorem errorFree_isPrefix (h : order <+: more) : errorFree order <+: errorFree more := by
  obtain ⟨rest, rfl⟩ := h
  cases hfailure : firstFailure? order with
  | none =>
    rw [errorFree_append_of_none hfailure]
    exact List.prefix_append _ _
  | some e => exact errorFree_append_of_some hfailure rest ▸ List.prefix_rfl

theorem exists_ok_of_firstFailure?_eq_none (h : firstFailure? order = none) {f : Finish}
    (hf : f ∈ order) : ∃ batch, f.result = .ok batch := by
  induction order with
  | nil => exact absurd hf List.not_mem_nil
  | cons g order ih =>
    obtain ⟨entry, result⟩ := g
    cases result with
    | error e => cases h
    | ok batch =>
      rcases List.mem_cons.mp hf with rfl | hf
      · exact ⟨batch, rfl⟩
      · exact ih h hf

theorem mem_of_mem_errorFree {delivery : Delivery} (h : delivery ∈ errorFree order) :
    ⟨delivery.entry, .ok delivery.batch⟩ ∈ order := by
  induction order with
  | nil => exact absurd h List.not_mem_nil
  | cons f order ih =>
    obtain ⟨entry, result⟩ := f
    cases result with
    | error e => exact absurd h List.not_mem_nil
    | ok batch =>
      rcases List.mem_cons.mp h with rfl | h
      · exact List.mem_cons_self
      · exact List.mem_cons_of_mem _ (ih h)

theorem entries_errorFree_sublist (order : List Finish) :
    ((errorFree order).map (·.entry)).Sublist (order.map (·.entry)) := by
  induction order with
  | nil => exact List.Sublist.slnil
  | cons f order ih =>
    obtain ⟨entry, result⟩ := f
    cases result with
    | error e => exact List.nil_sublist _
    | ok batch => exact ih.cons_cons entry

end Finish

/-- What was sent, oldest first, whether it was received or not. -/
def Channel.sent (c : Channel) : List Delivery := c.received ++ c.queue

/-- What is counted for batches that were sent. -/
def Tally.ofDeliveries (clients : Nat) (deliveries : List Delivery) : Tally where
  clients
  batches := deliveries.length
  records := (deliveries.flatMap (·.batch)).length

/-- The outcome that the clients and the finishing order of their tasks ask for. -/
def Dispatch.verdict (d : Dispatch) (order : List Finish) : Except DispatchError Tally :=
  match d.resolve d.origin.bufnr d.listing.clientName with
  | .error e => .error (.service e)
  | .ok clients =>
    match Finish.firstFailure? order with
    | some e => .error e
    | none => .ok (.ofDeliveries clients.length (Finish.errorFree order))

/-- The reports that go with an outcome: one for a failure and none otherwise. -/
def Dispatch.reportsOf (d : Dispatch) : Except DispatchError Tally → List (DispatchError × String)
  | .error e => [(e, d.listing.tag)]
  | .ok _ => []

/-! ## The invariant -/

open Finish

namespace Run

variable {d : Dispatch} {e : Event} {r r' : Run}

/-- What the forwarder and the outcome owe to the results that were taken. -/
def Settles (d : Dispatch) (r : Run) : Prop :=
  match r.outcome with
  | none => r.reports = [] ∧ firstFailure? (r.finished.take r.taken) = none
  | some (.error e) =>
    r.held = none ∧ r.reports = [(e, d.listing.tag)] ∧
      firstFailure? (r.finished.take r.taken) = some e
  | some (.ok tally) =>
    r.held = none ∧ r.reports = [] ∧ firstFailure? (r.finished.take r.taken) = none ∧
      r.taken = r.clients.length ∧ tally = r.tally

/-- The forwarder at work for a consumer that is there, with some batches in its hands. -/
structure Serving (d : Dispatch) (inHand : List Delivery) (r : Run) : Prop where
  consumer : r.channel.closed = false
  capacity : r.channel.capacity = d.room
  taken_le : r.taken ≤ r.finished.length
  pipeline : r.channel.received ++ r.channel.queue ++ inHand =
    errorFree (r.finished.take r.taken)
  tally : r.tally =
    .ofDeliveries r.clients.length (r.channel.received ++ r.channel.queue)

/-- A run whose consumer has not gone away. -/
structure Attended (d : Dispatch) (r : Run) : Prop where
  serving : Serving d r.held.toList r
  settles : Settles d r

/-! ### Its steps -/

/-- The move of a task leaves the results that were taken as they are. -/
theorem TaskMove.take_taken (h : TaskMove d e r r') (hmore : r.finished <+: r'.finished)
    (htaken : r.taken ≤ r.finished.length) :
    r'.finished.take r'.taken = r.finished.take r.taken := by
  obtain ⟨rest, hrest⟩ := hmore
  rw [← hrest, h.taken, List.take_append_of_le_length htaken]

theorem Attended.of_taskMove (hr : Attended d r) (h : TaskMove d e r r')
    (hmore : r.finished <+: r'.finished) : Attended d r' := by
  have htake := h.take_taken hmore hr.serving.taken_le
  refine ⟨⟨?_, ?_, ?_, ?_, ?_⟩, ?_⟩
  · rw [h.channel, hr.serving.consumer]
  · rw [h.channel, hr.serving.capacity]
  · rw [h.taken]
    exact Nat.le_trans hr.serving.taken_le hmore.length_le
  · rw [h.channel, h.held, htake, hr.serving.pipeline]
  · rw [h.tally, h.clients, h.channel, hr.serving.tally]
  · have hsettles := hr.settles
    unfold Settles at hsettles ⊢
    rw [h.outcome, h.reports, h.held, htake, h.taken, h.clients, h.tally]
    exact hsettles

/-- Whether there is room or not, the batch that is offered stays in line. -/
theorem Attended.offer {delivery : Delivery} (hr : Serving d [delivery] r)
    (houtcome : r.outcome = none) (hreports : r.reports = [])
    (hfailure : firstFailure? (r.finished.take r.taken) = none) :
    Attended d (r.offer delivery) := by
  have hsettles : ∀ r' : Run, r'.outcome = r.outcome → r'.reports = r.reports →
      r'.finished = r.finished → r'.taken = r.taken → Settles d r' := by
    intro r' ho hre hf ht
    unfold Settles
    rw [ho, houtcome, hre, hf, ht]
    exact ⟨hreports, hfailure⟩
  refine r.offer_cases (motive := Attended d) delivery ?sent ?full ?closed
  case sent =>
    intro _ _
    refine ⟨⟨hr.consumer, hr.capacity, hr.taken_le, ?_, ?_⟩, hsettles _ rfl rfl rfl rfl⟩
    · simpa using hr.pipeline
    · simp only [hr.tally]
      simp [Tally.ofDeliveries, Nat.add_assoc]
  case full =>
    intro _ _
    exact ⟨⟨hr.consumer, hr.capacity, hr.taken_le, hr.pipeline, hr.tally⟩,
      hsettles _ rfl rfl rfl rfl⟩
  case closed =>
    intro hclosed
    simp [hr.consumer] at hclosed

/-- With the next result, the results that were taken are one more. -/
theorem take_taken_succ {f : Finish} (hnext : r.finished[r.taken]? = some f) :
    r.finished.take (r.taken + 1) = r.finished.take r.taken ++ [f] := by
  rw [List.take_add_one, hnext, Option.toList_some]

theorem Attended.forward (hr : Attended d r) (houtcome : r.outcome = none) :
    Attended d (r.forward d) := by
  obtain ⟨hserving, hsettles⟩ := hr
  simp only [Settles, houtcome] at hsettles
  obtain ⟨hreports, hfailure⟩ := hsettles
  refine r.forward_cases (motive := Attended d) d ?held ?failed ?ready ?done ?waiting
  case held =>
    intro delivery hheld
    rw [hheld] at hserving
    exact Attended.offer hserving houtcome hreports hfailure
  case failed =>
    -- the failure is the first one, and the batches before it are all on their way
    intro entry e hheld hnext
    have hpipeline := hserving.pipeline
    refine ⟨⟨hserving.consumer, hserving.capacity, ?_, ?_, hserving.tally⟩, ?_⟩
    · exact (List.getElem?_eq_some_iff.mp hnext).1
    · show _ = errorFree (r.finished.take (r.taken + 1))
      rw [take_taken_succ hnext, errorFree_append_of_none hfailure, ← hpipeline]
      simp [errorFree, fail]
    · show r.held = none ∧ _ ∧ firstFailure? (r.finished.take (r.taken + 1)) = some e
      rw [take_taken_succ hnext, firstFailure?_append, hfailure]
      exact ⟨hheld, by simp [fail, hreports], rfl⟩
  case ready =>
    intro entry batch hheld hnext
    have hpipeline := hserving.pipeline
    rw [hheld] at hpipeline
    refine Attended.offer ⟨hserving.consumer, hserving.capacity, ?_, ?_, hserving.tally⟩
      houtcome hreports ?_
    · exact (List.getElem?_eq_some_iff.mp hnext).1
    · show _ = errorFree (r.finished.take (r.taken + 1))
      rw [take_taken_succ hnext, errorFree_append_of_none hfailure, ← hpipeline]
      simp [errorFree]
    · show firstFailure? (r.finished.take (r.taken + 1)) = none
      rw [take_taken_succ hnext, firstFailure?_append, hfailure]
      rfl
  case done =>
    intro hheld _ hall
    exact ⟨⟨hserving.consumer, hserving.capacity, hserving.taken_le, hserving.pipeline,
      hserving.tally⟩, hheld, hreports, hfailure, hall, rfl⟩
  case waiting =>
    intro _ _ _
    exact ⟨hserving, by simp [Settles, houtcome, hreports, hfailure]⟩

theorem Attended.receive (hr : Attended d r) :
    Attended d { r with channel := r.channel.receive } := by
  obtain ⟨hserving, hsettles⟩ := hr
  have hsame : r.channel.receive.received ++ r.channel.receive.queue =
      r.channel.received ++ r.channel.queue := by
    unfold Channel.receive
    split
    · rfl
    next delivery queue hqueue => simp [hqueue]
  have hends : r.channel.receive.closed = r.channel.closed ∧
      r.channel.receive.capacity = r.channel.capacity := by
    unfold Channel.receive
    split <;> exact ⟨rfl, rfl⟩
  refine ⟨⟨?_, ?_, hserving.taken_le, ?_, ?_⟩, hsettles⟩
  · exact hends.1.trans hserving.consumer
  · exact hends.2.trans hserving.capacity
  · rw [hsame]
    exact hserving.pipeline
  · rw [hsame]
    exact hserving.tally

theorem Attended.step (hr : Attended d r)
    (he : e ≠ .close) : Attended d (r.step d e) := by
  cases h : e.isTask with
  | true => exact hr.of_taskMove (step_taskMove d r h) (step_finished_isPrefix d r e)
  | false =>
    cases e with
    | start entry => simp [Event.isTask] at h
    | reply entry answer => simp [Event.isTask] at h
    | crash entry => simp [Event.isTask] at h
    | forward =>
      cases houtcome : r.outcome with
      | none => simpa [Run.step, houtcome] using hr.forward houtcome
      | some outcome => simpa [Run.step, houtcome] using hr
    | receive => exact hr.receive
    | close => exact absurd rfl he

/-! ### A dispatch that has no clients to ask -/

/-- A run that ended when the clients could not be resolved. -/
structure Refused (d : Dispatch) (e : ServiceError) (r : Run) : Prop where
  received : r.channel.received = []
  queue : r.channel.queue = []
  outcome : r.outcome = some (.error (.service e))
  reports : r.reports = [(.service e, d.listing.tag)]

theorem Refused.step {e : ServiceError} (hr : Refused d e r) (event : Event) :
    Refused d e (r.step d event) := by
  have hend : r.outcome.isSome := Option.isSome_of_eq_some hr.outcome
  cases event with
  | receive =>
    have hsame : r.step d .receive = r := by simp [Run.step, Channel.receive, hr.queue]
    rwa [hsame]
  | close => exact ⟨hr.received, rfl, hr.outcome, hr.reports⟩
  | start entry => rwa [step_of_isTask d hend rfl]
  | reply entry answer => rwa [step_of_isTask d hend rfl]
  | crash entry => rwa [step_of_isTask d hend rfl]
  | forward => simpa [Run.step, hend] using hr

end Run

/-! ## Runs -/

namespace Dispatch

open Run

variable {d : Dispatch}

theorem opening_attended (d : Dispatch) (clients : List Client) :
    Attended d (d.opening clients) :=
  ⟨⟨rfl, rfl, Nat.le_refl 0, rfl, rfl⟩, rfl, rfl⟩

theorem begin_attended {clients : List Client}
    (h : d.resolve d.origin.bufnr d.listing.clientName = .ok clients) : Attended d d.begin := by
  rw [begin_of_ok h]
  split
  next hempty =>
    have hnil : clients = [] := by simpa using hempty
    subst hnil
    exact ⟨⟨rfl, rfl, Nat.le_refl 0, rfl, rfl⟩, rfl, rfl, rfl, rfl, rfl⟩
  next => exact d.opening_attended clients

theorem run_attended {clients : List Client}
    (h : d.resolve d.origin.bufnr d.listing.clientName = .ok clients) {events : List Event}
    (stays : .close ∉ events) : Attended d (d.run events) := by
  refine List.foldlRecOn events (Run.step d) (begin_attended h) ?_
  intro r hr e he
  exact hr.step fun hclose => stays (hclose ▸ he)

/-- A dispatch whose clients could not be resolved does nothing but report that. -/
theorem run_refused {e : ServiceError}
    (h : d.resolve d.origin.bufnr d.listing.clientName = .error e) (events : List Event) :
    Refused d e (d.run events) := by
  refine List.foldlRecOn (motive := Refused d e) events (Run.step d) ?_
    fun r hr event _ => hr.step event
  rw [begin_of_error h]
  exact ⟨rfl, rfl, rfl, rfl⟩

theorem finishingOrder_of_error {e : ServiceError}
    (h : d.resolve d.origin.bufnr d.listing.clientName = .error e) (events : List Event) :
    d.finishingOrder events = [] := by
  have hlength := d.length_finishingOrder_le events
  have hasked : d.asked = [] := by simp [asked, h]
  rw [hasked] at hlength
  exact List.eq_nil_of_length_eq_zero (Nat.le_zero.mp hlength)

/-- The results that were taken are a beginning of the finishing order. -/
theorem take_taken_isPrefix (events : List Event) :
    (d.run events).finished.take (d.run events).taken <+: d.finishingOrder events :=
  (List.take_prefix _ _).trans (d.finished_isPrefix events)

/-- At any time, what was sent is a beginning of what the finishing order asks for. -/
theorem sent_isPrefix {events : List Event} (stays : .close ∉ events) :
    (d.run events).channel.sent <+: errorFree (d.finishingOrder events) := by
  cases h : d.resolve d.origin.bufnr d.listing.clientName with
  | error e =>
    have hrefused := run_refused h events
    rw [Channel.sent, hrefused.received, hrefused.queue]
    exact List.nil_prefix
  | ok clients =>
    have hrun := (run_attended h stays).serving
    refine List.IsPrefix.trans ?_ (errorFree_isPrefix (take_taken_isPrefix events))
    rw [← hrun.pipeline]
    exact List.prefix_append _ _

/-- At any time, what was received is a beginning of what the finishing order asks for. -/
theorem received_isPrefix {events : List Event} (stays : .close ∉ events) :
    (d.run events).channel.received <+: errorFree (d.finishingOrder events) :=
  (List.prefix_append _ _).trans (sent_isPrefix stays)

/-- Where as many results were taken as there are clients, no task is left to finish. -/
theorem take_taken_eq_finishingOrder {events : List Event}
    (htaken_le : (d.run events).taken ≤ (d.run events).finished.length)
    (hall : (d.run events).taken = (d.run events).clients.length) :
    (d.run events).finished.take (d.run events).taken = d.finishingOrder events := by
  refine (take_taken_isPrefix events).eq_of_length_le ?_
  rw [List.length_take_of_le htaken_le, hall, d.run_clients]
  exact d.length_finishingOrder_le events

/-- Where a dispatch has succeeded for a consumer that stayed, all tasks have ended and none has
failed. -/
theorem finished_of_succeeded {events : List Event} (stays : .close ∉ events) {tally : Tally}
    (succeeded : (d.run events).outcome = some (.ok tally)) :
    (d.run events).finished.length = d.asked.length ∧
      firstFailure? (d.run events).finished = none := by
  cases h : d.resolve d.origin.bufnr d.listing.clientName with
  | error e =>
    rw [(run_refused h events).outcome] at succeeded
    cases succeeded
  | ok clients =>
    obtain ⟨hserving, hsettles⟩ := run_attended h stays
    simp only [Settles, succeeded] at hsettles
    obtain ⟨-, -, hfailure, hall, -⟩ := hsettles
    have hle := (d.run_coherent events).length_finished_le
    have htaken := hserving.taken_le
    rw [List.take_of_length_le (by omega)] at hfailure
    rw [← d.run_clients events]
    exact ⟨by omega, hfailure⟩

/-- Where all tasks have ended and none has failed, entries among which is that of every batch are all
the entries. -/
theorem perm_range_of_batches {events : List Event} {entries : List Nat}
    (some : entries.Subperm (List.range d.asked.length))
    (batches : ∀ entry batch, ⟨entry, .ok batch⟩ ∈ (d.run events).finished → entry ∈ entries)
    (all : (d.run events).finished.length = d.asked.length)
    (fine : firstFailure? (d.run events).finished = none) :
    entries.Perm (List.range d.asked.length) := by
  refine some.perm_of_length_le ?_
  -- no task failed, so each of them ended with a batch
  have hsub : (d.run events).finished.map (·.entry) ⊆ entries := by
    intro entry hentry
    obtain ⟨⟨_, result⟩, hf, rfl⟩ := List.mem_map.mp hentry
    obtain ⟨batch, rfl⟩ := exists_ok_of_firstFailure?_eq_none fine hf
    exact batches _ batch hf
  have hlength := ((d.run_coherent events).nodup.subperm hsub).length_le
  rwa [List.length_map, all, ← List.length_range (n := d.asked.length)] at hlength

/-- A dispatch that has ended has ended as the finishing order asks for. -/
theorem outcome_eq_verdict {events : List Event} (stays : .close ∉ events)
    {outcome : Except DispatchError Tally} (houtcome : (d.run events).outcome = some outcome) :
    outcome = d.verdict (d.finishingOrder events) ∧
      (d.run events).reports = d.reportsOf outcome ∧
      (d.run events).channel.received ++ (d.run events).channel.queue =
        errorFree (d.finishingOrder events) := by
  cases h : d.resolve d.origin.bufnr d.listing.clientName with
  | error e =>
    obtain ⟨hreceived, hqueue, hfailed, hreports⟩ := run_refused h events
    rw [hfailed] at houtcome
    cases houtcome
    refine ⟨by simp [verdict, h], hreports, ?_⟩
    rw [hreceived, hqueue, finishingOrder_of_error h]
    rfl
  | ok clients =>
    obtain ⟨hserving, hsettles⟩ := run_attended h stays
    have hpipeline := hserving.pipeline
    simp only [Settles, houtcome] at hsettles
    cases outcome with
    | error e =>
      -- what finishes after the failure makes no difference
      obtain ⟨hheld, hreports, hfailure⟩ := hsettles
      obtain ⟨rest, hrest⟩ := take_taken_isPrefix (d := d) events
      rw [hheld, Option.toList_none, List.append_nil] at hpipeline
      refine ⟨?_, hreports, ?_⟩
      · simp [verdict, h, ← hrest, firstFailure?_append, hfailure]
      · rw [← hrest, errorFree_append_of_some hfailure, hpipeline]
    | ok tally =>
      obtain ⟨hheld, hreports, hfailure, hall, rfl⟩ := hsettles
      have hclients : (d.run events).clients = clients := by
        rw [d.run_clients]
        simp [asked, h]
      have htaken := take_taken_eq_finishingOrder hserving.taken_le hall
      rw [hheld, Option.toList_none, List.append_nil, htaken] at hpipeline
      rw [htaken] at hfailure
      refine ⟨?_, hreports, hpipeline⟩
      simp [verdict, h, hfailure, hserving.tally, hclients, hpipeline]

end Dispatch

end CodeListing
