import CodeListing.Listing.Outline
import CodeListing.Proofs.Dispatch.Delivery

/-!
# Dispatches come to an end

A dispatch ends, and its channel runs empty, if the forwarder and the consumer keep moving and the
tasks come to an end: all of them have finished, or one has failed. Nothing is said about the pace
or the order of the moves.

The proof follows what is left to do. `Run.potential` bounds it by a number that no move raises
(`Run.Attended.step_advances`), and while the run is not over one of the next moves of the consumer
or of the forwarder lowers it. The last theorem puts the end together with what
`Dispatch.outcome_eq_verdict` says about it.
-/

namespace CodeListing

open Finish

/-! ## What is left to do -/

namespace Run

variable {d : Dispatch} {r r' r'' : Run}

/-- A bound for the moves that are left. A result that was not taken yet has to be taken, sent and
received, a batch in the hands of the forwarder has to be sent and received, a batch in the channel
has to be received, and the dispatch has to end. -/
def potential (r : Run) : Nat :=
  3 * (r.clients.length - r.taken) + 2 * r.held.toList.length + r.channel.queue.length +
    (if r.outcome.isNone then 1 else 0)

/-- Less is left to do, or what the consumer sees is as it was. -/
def Advances (r r' : Run) : Prop :=
  r'.potential < r.potential ∨
    r'.potential = r.potential ∧ r'.channel = r.channel ∧ r'.outcome = r.outcome

theorem Advances.refl (r : Run) : Advances r r := .inr ⟨rfl, rfl, rfl⟩

theorem Advances.le (h : Advances r r') : r'.potential ≤ r.potential := by
  rcases h with h | ⟨h, -, -⟩
  · exact Nat.le_of_lt h
  · exact Nat.le_of_eq h

theorem Advances.trans (h : Advances r r') (h' : Advances r' r'') : Advances r r'' := by
  rcases h with h | ⟨h, hchannel, houtcome⟩
  · exact .inl (Nat.lt_of_le_of_lt h'.le h)
  · rcases h' with h' | ⟨h', hchannel', houtcome'⟩
    · exact .inl (h ▸ h')
    · exact .inr ⟨h'.trans h, hchannel'.trans hchannel, houtcome'.trans houtcome⟩

theorem potential_receive (h : r.channel.queue ≠ []) :
    potential { r with channel := r.channel.receive } < r.potential := by
  cases hqueue : r.channel.queue with
  | nil => exact absurd hqueue h
  | cons delivery queue =>
    simp only [potential, Channel.receive, hqueue, List.length_cons]
    omega

theorem receive_of_queue_nil (h : r.channel.queue = []) : r.channel.receive = r.channel := by
  simp [Channel.receive, h]

/-- An offer costs the forwarder one of the two moves that the batch in its hands stands for, or
leaves it with the batch. -/
theorem potential_offer (h : r.channel.closed = false) (delivery : Delivery) :
    (r.offer delivery).potential + 1 =
        potential { r with held := some delivery } ∨
      r.offer delivery = { r with held := some delivery } ∧
        r.channel.capacity ≤ r.channel.queue.length := by
  refine r.offer_cases (motive := fun r' => r'.potential + 1 = _ ∨
    r' = { r with held := some delivery } ∧ _) delivery ?sent ?full ?closed
  case sent =>
    intro _ _
    left
    simp only [potential, List.length_append, List.length_singleton, Option.toList_none,
      Option.toList_some, List.length_nil]
    omega
  case full =>
    intro _ hfull
    exact .inr ⟨rfl, hfull⟩
  case closed =>
    intro hclosed
    simp [h] at hclosed

/-- What a move of the forwarder does to what is left: it is less, or the forwarder is stuck with a
batch that the channel has no room for, or it waits for a task. -/
theorem potential_forward (h : r.channel.closed = false) (houtcome : r.outcome = none)
    (htaken : r.finished.length ≤ r.clients.length) :
    (r.forward d).potential < r.potential ∨
      r.forward d = r ∧
        (r.channel.capacity ≤ r.channel.queue.length ∨
          r.held = none ∧ r.finished.length ≤ r.taken ∧ r.taken ≠ r.clients.length) := by
  refine r.forward_cases (motive := fun r' => r'.potential < _ ∨ r' = r ∧ _) d
    ?held ?failed ?ready ?done ?waiting
  case held =>
    intro delivery hheld
    have hsame : { r with held := some delivery } = r := by rw [← hheld]
    rcases potential_offer h delivery with hoffer | ⟨hoffer, hfull⟩
    · left
      rw [hsame] at hoffer
      omega
    · exact .inr ⟨hoffer.trans hsame, .inl hfull⟩
  case failed =>
    intro entry e hheld hnext
    have hlt : r.taken < r.finished.length := (List.getElem?_eq_some_iff.mp hnext).1
    left
    simp only [potential, fail, houtcome]
    simp only [Option.isNone_some, Option.isNone_none, Bool.false_eq_true, if_false, if_true]
    omega
  case ready =>
    intro entry batch hheld hnext
    have hlt : r.taken < r.finished.length := (List.getElem?_eq_some_iff.mp hnext).1
    left
    have htake : potential { r with taken := r.taken + 1, held := some ⟨entry, batch⟩ } + 1 =
        r.potential := by
      simp only [potential, hheld, Option.toList_some, Option.toList_none, List.length_singleton,
        List.length_nil]
      omega
    rcases potential_offer (r := { r with taken := r.taken + 1 }) h ⟨entry, batch⟩ with
      hoffer | ⟨hoffer, -⟩
    · change _ + 1 = potential { r with taken := r.taken + 1, held := some ⟨entry, batch⟩ }
        at hoffer
      omega
    · rw [hoffer]
      show potential { r with taken := r.taken + 1, held := some ⟨entry, batch⟩ } < r.potential
      omega
  case done =>
    intro _ _ _
    left
    simp [potential, succeed, houtcome]
  case waiting =>
    intro hheld hnext hsome
    exact .inr ⟨rfl, .inr ⟨hheld, List.getElem?_eq_none_iff.mp hnext, hsome⟩⟩

/-- No move of the consumer that stays, of the forwarder or of a task adds to what is left. -/
theorem Attended.step_advances (hr : Attended d r)
    (htaken : r.finished.length ≤ r.clients.length) {e : Event} (he : e ≠ .close) :
    Advances r (r.step d e) := by
  cases h : e.isTask with
  | true =>
    have hmove := step_taskMove d r h
    refine .inr ⟨?_, hmove.channel, hmove.outcome⟩
    simp only [potential, hmove.clients, hmove.taken, hmove.held, hmove.channel, hmove.outcome]
  | false =>
    cases e with
    | start entry => simp [Event.isTask] at h
    | reply entry answer => simp [Event.isTask] at h
    | crash entry => simp [Event.isTask] at h
    | forward =>
      cases houtcome : r.outcome with
      | some outcome => simpa [Run.step, houtcome] using Advances.refl r
      | none =>
        have hstep : r.step d .forward = r.forward d := by simp [Run.step, houtcome]
        rw [hstep]
        rcases potential_forward hr.serving.consumer houtcome htaken with hlt | ⟨hsame, -⟩
        · exact .inl hlt
        · rw [hsame]
          exact Advances.refl r
    | receive =>
      by_cases hqueue : r.channel.queue = []
      · have hsame : r.step d .receive = r := by
          simp [Run.step, receive_of_queue_nil hqueue]
        rw [hsame]
        exact Advances.refl r
      · exact .inl (potential_receive hqueue)
    | close => exact absurd rfl he

/-! ## The end -/

/-- Whether a dispatch has ended and its channel has run empty. -/
def IsOver (r : Run) : Prop := r.outcome.isSome ∧ r.channel.queue = []

theorem IsOver.step (h : r.IsOver) (d : Dispatch) (e : Event) : (r.step d e).IsOver := by
  refine ⟨?_, ?_⟩
  · rw [step_outcome d h.1]
    exact h.1
  · cases e with
    | start entry => rw [step_of_isTask d h.1 rfl, h.2]
    | reply entry answer => rw [step_of_isTask d h.1 rfl, h.2]
    | crash entry => rw [step_of_isTask d h.1 rfl, h.2]
    | forward => simp [Run.step, h.1, h.2]
    | receive => simp [Run.step, receive_of_queue_nil h.2, h.2]
    | close => rfl

end Run

/-! ## Schedules without end -/

/-- A schedule that goes on for ever. -/
abbrev Schedule := Nat → Event

/-- The first `n` moves. -/
def Schedule.upTo (σ : Schedule) (n : Nat) : List Event := (List.range n).map σ

theorem Schedule.upTo_succ (σ : Schedule) (n : Nat) : σ.upTo (n + 1) = σ.upTo n ++ [σ n] := by
  simp [upTo, List.range_succ]

namespace Dispatch

open Run

variable {d : Dispatch} {σ : Schedule}

/-- The tasks come to an end in this finishing order: all of them finish or one fails. -/
def TasksEnd (d : Dispatch) (order : List Finish) : Prop :=
  (firstFailure? order).isSome ∨ order.length = d.asked.length

/-- A schedule that keeps a dispatch going: the consumer stays and keeps receiving, the forwarder
keeps moving, and the tasks come to an end. -/
structure Fair (d : Dispatch) (σ : Schedule) : Prop where
  stays : ∀ n, σ n ≠ .close
  receives : ∀ n, ∃ m, n ≤ m ∧ σ m = .receive
  forwards : ∀ n, ∃ m, n ≤ m ∧ σ m = .forward
  tasksEnd : ∃ n, d.TasksEnd (d.finishingOrder (σ.upTo n))

theorem Fair.close_not_mem (fair : d.Fair σ) (n : Nat) : .close ∉ σ.upTo n := by
  intro hmem
  obtain ⟨m, -, hm⟩ := List.mem_map.mp hmem
  exact fair.stays m hm

theorem run_upTo_succ (d : Dispatch) (σ : Schedule) (n : Nat) :
    d.run (σ.upTo (n + 1)) = (d.run (σ.upTo n)).step d (σ n) := by
  rw [Schedule.upTo_succ, run_append_singleton]

/-- The finishing order grows with the schedule. -/
theorem finishingOrder_upTo_isPrefix (d : Dispatch) (σ : Schedule) {n m : Nat} (h : n ≤ m) :
    d.finishingOrder (σ.upTo n) <+: d.finishingOrder (σ.upTo m) := by
  induction h with
  | refl => exact List.prefix_rfl
  | step _ ih =>
    refine ih.trans ?_
    rw [Schedule.upTo_succ]
    exact d.finishingOrder_append_isPrefix _ _

theorem TasksEnd.mono {order more : List Finish} (h : d.TasksEnd order) (hmore : order <+: more)
    (hlength : more.length ≤ d.asked.length) : d.TasksEnd more := by
  rcases h with h | h
  · obtain ⟨rest, rfl⟩ := hmore
    left
    rw [firstFailure?_append]
    simp [h]
  · right
    have := hmore.length_le
    omega

/-- As long as the consumer stays, less and less is left to do. -/
theorem run_advances (fair : d.Fair σ) {clients : List Client}
    (h : d.resolve d.origin.bufnr d.listing.clientName = .ok clients) {n m : Nat} (hnm : n ≤ m) :
    Advances (d.run (σ.upTo n)) (d.run (σ.upTo m)) := by
  induction hnm with
  | refl => exact Advances.refl _
  | @step m _ ih =>
    refine ih.trans ?_
    rw [run_upTo_succ]
    exact (run_attended h (fair.close_not_mem m)).step_advances
      (d.run_coherent _).length_finished_le (fair.stays m)

/-- Where the tasks have come to an end the forwarder only ever waits for room. -/
theorem not_waiting {events : List Event}
    (hend : d.TasksEnd (d.finishingOrder events)) (houtcome : (d.run events).outcome = none)
    (htaken : (d.run events).taken ≤ (d.run events).finished.length)
    (hfailure : firstFailure? ((d.run events).finished.take (d.run events).taken) = none) :
    ¬ ((d.run events).finished.length ≤ (d.run events).taken ∧
      (d.run events).taken ≠ (d.run events).clients.length) := by
  rintro ⟨hall, hmore⟩
  rw [← d.finished_of_outcome_none houtcome] at hend
  rcases hend with hsome | hlength
  · rw [List.take_of_length_le hall] at hfailure
    simp [hfailure] at hsome
  · rw [d.run_clients] at hmore
    omega

/-- While a dispatch is not over, something is done in the end. -/
theorem exists_potential_lt (fair : d.Fair σ) {clients : List Client}
    (h : d.resolve d.origin.bufnr d.listing.clientName = .ok clients) {n : Nat}
    (hend : d.TasksEnd (d.finishingOrder (σ.upTo n))) (hover : ¬ (d.run (σ.upTo n)).IsOver) :
    ∃ m, n ≤ m ∧ (d.run (σ.upTo m)).potential < (d.run (σ.upTo n)).potential := by
  by_cases hqueue : (d.run (σ.upTo n)).channel.queue = []
  · -- the forwarder moves next, and there is room for what it holds
    have houtcome : (d.run (σ.upTo n)).outcome = none := by
      by_contra hsome
      exact hover ⟨Option.isSome_iff_ne_none.mpr hsome, hqueue⟩
    obtain ⟨m, hnm, hforward⟩ := fair.forwards n
    rcases run_advances fair h hnm with hlt | ⟨hsame, hchannel, houtcome'⟩
    · exact ⟨m, hnm, hlt⟩
    · have hattended := run_attended h (fair.close_not_mem m)
      rw [houtcome] at houtcome'
      refine ⟨m + 1, by omega, ?_⟩
      have hstep : (d.run (σ.upTo m)).step d .forward = (d.run (σ.upTo m)).forward d := by
        simp [Run.step, houtcome']
      rw [run_upTo_succ, hforward, hstep, ← hsame]
      rcases potential_forward hattended.serving.consumer houtcome'
        (d.run_coherent _).length_finished_le with hlt | ⟨-, hfull | ⟨-, hwaiting⟩⟩
      · exact hlt
      · rw [hattended.serving.capacity, hchannel, hqueue, room] at hfull
        simp at hfull
      · have hend' := hend.mono (d.finishingOrder_upTo_isPrefix σ hnm)
          (d.length_finishingOrder_le _)
        have hsettles := hattended.settles
        simp only [Settles, houtcome'] at hsettles
        exact absurd hwaiting
          (not_waiting hend' houtcome' hattended.serving.taken_le hsettles.2)
  · -- the consumer receives next
    obtain ⟨m, hnm, hreceive⟩ := fair.receives n
    rcases run_advances fair h hnm with hlt | ⟨hsame, hchannel, -⟩
    · exact ⟨m, hnm, hlt⟩
    · refine ⟨m + 1, by omega, ?_⟩
      rw [run_upTo_succ, hreceive, ← hsame]
      exact potential_receive (hchannel ▸ hqueue)

/-- A dispatch that is kept going is over at some time. -/
theorem exists_isOver (fair : d.Fair σ) : ∃ n, (d.run (σ.upTo n)).IsOver := by
  cases h : d.resolve d.origin.bufnr d.listing.clientName with
  | error e =>
    have hrefused := run_refused h (σ.upTo 0)
    exact ⟨0, by rw [hrefused.outcome]; rfl, hrefused.queue⟩
  | ok clients =>
    obtain ⟨n, hend⟩ := fair.tasksEnd
    induction hpotential : (d.run (σ.upTo n)).potential using Nat.strongRecOn generalizing n with
    | ind potential ih =>
      by_cases hover : (d.run (σ.upTo n)).IsOver
      · exact ⟨n, hover⟩
      · obtain ⟨m, hnm, hlt⟩ := exists_potential_lt fair h hend hover
        have hend' := hend.mono (d.finishingOrder_upTo_isPrefix σ hnm)
          (d.length_finishingOrder_le _)
        exact ih _ (hpotential ▸ hlt) m hend' rfl

theorem isOver_of_le (d : Dispatch) {n m : Nat} (h : (d.run (σ.upTo n)).IsOver) (hnm : n ≤ m) :
    (d.run (σ.upTo m)).IsOver := by
  induction hnm with
  | refl => exact h
  | step _ ih =>
    rw [run_upTo_succ]
    exact ih.step d _

/-! ## What comes of it -/

/-- For every dispatch whose channel can be made and every schedule that keeps it going: at any time
the consumer has received a beginning of the batches that the finishing order asks for, and from some
time on it has received just these, each entry of the list of clients at most once, and the dispatch
has ended and reported as the finishing order asks for. The finishing order is made of what the tasks
of the clients came to. -/
theorem launch_delivers_errorFree (d : Dispatch) (fits : d.capacity ≤ Channel.maxCapacity)
    (σ : Schedule) (fair : d.Fair σ) :
    (∀ m, ∃ r, d.launch (σ.upTo m) = .ok r ∧
      r.channel.received <+: errorFree (d.finishingOrder (σ.upTo m))) ∧
    (∀ m, ∀ f ∈ d.finishingOrder (σ.upTo m), ∃ client, d.asked[f.entry]? = some client ∧
      ∃ e ∈ σ.upTo m, d.EndsTask client f.entry e f.result) ∧
    ∃ n, ∀ m, n ≤ m → ∃ r, d.launch (σ.upTo m) = .ok r ∧ r.channel.queue = [] ∧
      r.channel.received = errorFree (d.finishingOrder (σ.upTo m)) ∧
      (r.channel.received.map (·.entry)).Nodup ∧
      r.outcome = some (d.verdict (d.finishingOrder (σ.upTo m))) ∧
      r.reports = d.reportsOf (d.verdict (d.finishingOrder (σ.upTo m))) := by
  have hlaunch : ∀ events, d.launch events = .ok (d.run events) := by
    intro events
    have hroom : ¬ Channel.maxCapacity < d.room := by
      simp only [room, Nat.not_lt, Nat.max_le]
      exact ⟨by decide, fits⟩
    simp [launch, hroom]
  refine ⟨fun m => ⟨_, hlaunch _, received_isPrefix (fair.close_not_mem m)⟩,
    fun m f hf => d.endsTask_of_mem hf, ?_⟩
  obtain ⟨n, hover⟩ := exists_isOver fair
  refine ⟨n, fun m hnm => ⟨_, hlaunch _, ?_⟩⟩
  obtain ⟨hended, hqueue⟩ := d.isOver_of_le hover hnm
  obtain ⟨outcome, houtcome⟩ := Option.isSome_iff_exists.mp hended
  obtain ⟨hverdict, hreports, hreceived⟩ := outcome_eq_verdict (fair.close_not_mem m) houtcome
  rw [hqueue, List.append_nil] at hreceived
  refine ⟨hqueue, hreceived, ?_, ?_, ?_⟩
  · rw [hreceived]
    exact (entries_errorFree_sublist _).nodup (d.nodup_finishingOrder _)
  · rw [houtcome, hverdict]
  · rw [hreports, hverdict]

/-- Two clients are asked for the outline of one file. -/
def pair (capacity : Nat) : Dispatch where
  listing := Listing.outline {} {}
  around :=
    { editor :=
        { bufferPath := fun _ => .ok (Path.ofText "/a")
          cursor := fun _ => .ok (0, 0)
          line := fun _ _ => .ok "" }
      files := Files.ofDisk fun _ => .missing
      accepts := .all }
  origin := { bufnr := 1, winid := 1, cwd := Path.ofText "/" }
  resolve _ _ := .ok [{ id := 1, name := "fast" }, { id := 2, name := "broken" }]
  capacity

/-- The fast client answers with a symbol before the broken one fails; then the forwarder and the
consumer take turns. -/
def fastThenBroken : Schedule
  | 0 => .start 0
  | 1 => .start 1
  | 2 => .reply 0 (.ok (.arr [Symbol.toJson (.hierarchical
      { name := "f", detail := none, kind := ⟨12⟩, range := ⟨⟨0, 0⟩, ⟨2, 1⟩⟩,
        selectionRange := ⟨⟨0, 3⟩, ⟨0, 4⟩⟩ } none)]))
  | 3 => .reply 1 (.error (.transport "gone"))
  | n + 4 => if n % 2 = 0 then .forward else .receive

theorem pair_fair (capacity : Nat) : (pair capacity).Fair fastThenBroken where
  stays n := by
    match n with
    | 0 | 1 | 2 | 3 => simp [fastThenBroken]
    | n + 4 =>
      simp only [fastThenBroken]
      split <;> simp
  receives n := ⟨2 * n + 5, by omega, by simp [fastThenBroken]⟩
  forwards n := ⟨2 * n + 4, by omega, by simp [fastThenBroken]⟩
  tasksEnd := ⟨4, .inl rfl⟩

theorem launch_delivers_errorFree_pair :
    (0 ≤ Channel.maxCapacity ∧ (pair 0).Fair fastThenBroken) ∧
    ∃ n, ∀ m, n ≤ m → ∃ r, (pair 0).launch (fastThenBroken.upTo m) = .ok r ∧
      r.channel.received = errorFree ((pair 0).finishingOrder (fastThenBroken.upTo m)) ∧
      r.outcome = some ((pair 0).verdict ((pair 0).finishingOrder (fastThenBroken.upTo m))) := by
  refine ⟨⟨Nat.zero_le _, pair_fair 0⟩, ?_⟩
  obtain ⟨-, -, n, h⟩ :=
    launch_delivers_errorFree (pair 0) (Nat.zero_le _) fastThenBroken (pair_fair 0)
  refine ⟨n, fun m hnm => ?_⟩
  obtain ⟨r, hr, -, hreceived, -, houtcome, -⟩ := h m hnm
  exact ⟨r, hr, hreceived, houtcome⟩

/-- A channel that is to hold more than can be counted is not made, and nothing is delivered. -/
theorem not_launch_of_oversized_channel :
    ¬ ∀ (d : Dispatch) (σ : Schedule), d.Fair σ →
      ∃ n, ∀ m, n ≤ m → ∃ r, d.launch (σ.upTo m) = .ok r ∧
        r.channel.received = errorFree (d.finishingOrder (σ.upTo m)) := by
  intro h
  obtain ⟨n, h⟩ := h (pair (UInt64.size / 8)) fastThenBroken (pair_fair _)
  obtain ⟨r, hr, -⟩ := h n (Nat.le_refl n)
  have hroom : Channel.maxCapacity < (pair (UInt64.size / 8)).room := by decide
  rw [launch, if_pos hroom] at hr
  cases hr

end Dispatch

end CodeListing
