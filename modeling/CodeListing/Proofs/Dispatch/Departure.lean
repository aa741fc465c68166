import CodeListing.Proofs.Dispatch.Progress

/-!
# When the consumer goes away

A consumer that goes away takes what is in the channel with it, and nothing can be sent any more.
The forwarder learns of that only from a batch that it cannot send: such a batch ends the dispatch
without a report, whatever else the tasks come to. A failure that it meets before such a batch is
reported to a consumer that is not there.

The finishing order and what was sent before the consumer went away decide between the two, which is
`Dispatch.verdictAfter`. `Run.Deserted` is the invariant from then on, and the last theorem puts it
together with the end that such a dispatch comes to.
-/

namespace CodeListing

open Finish

/-- The outcome that is asked for where the consumer goes away after `sent` was sent. With a batch
left to send a dispatch ends with what it has sent, and without one as if the consumer had stayed.
-/
def Dispatch.verdictAfter (d : Dispatch) (sent : List Delivery) (order : List Finish) :
    Except DispatchError Tally :=
  if sent.length < (errorFree order).length then .ok (.ofDeliveries d.asked.length sent)
  else d.verdict order

/-! ## The invariant -/

namespace Run

variable {d : Dispatch} {e : Event} {r r' : Run} {c : Channel}

/-- What the forwarder and the outcome owe to the results that were taken, when `sent` is all that
can ever be sent. -/
def SettlesAfter (d : Dispatch) (sent : List Delivery) (r : Run) : Prop :=
  match r.outcome with
  | none =>
    r.reports = [] ∧ firstFailure? (r.finished.take r.taken) = none ∧
      sent ++ r.held.toList = errorFree (r.finished.take r.taken)
  | some (.error e) =>
    r.reports = [(e, d.listing.tag)] ∧ firstFailure? (r.finished.take r.taken) = some e ∧
      sent = errorFree (r.finished.take r.taken)
  | some (.ok tally) =>
    r.reports = [] ∧ tally = r.tally ∧
      (sent.length < (errorFree (r.finished.take r.taken)).length ∨
        firstFailure? (r.finished.take r.taken) = none ∧
          sent = errorFree (r.finished.take r.taken) ∧ r.taken = r.clients.length)

/-- A run whose consumer has gone away and left the channel `c` behind. -/
structure Deserted (d : Dispatch) (c : Channel) (r : Run) : Prop where
  channel : r.channel = c.close
  taken_le : r.taken ≤ r.finished.length
  tally : r.tally = .ofDeliveries r.clients.length c.sent
  settles : SettlesAfter d c.sent r

/-! ### Its steps -/

/-- The consumer goes away. -/
theorem Attended.close (hr : Attended d r) : Deserted d r.channel (r.step d .close) := by
  obtain ⟨hserving, hsettles⟩ := hr
  refine ⟨rfl, hserving.taken_le, hserving.tally, ?_⟩
  have hpipeline : r.channel.sent ++ r.held.toList = errorFree (r.finished.take r.taken) :=
    hserving.pipeline
  show SettlesAfter d r.channel.sent { r with channel := r.channel.close }
  cases houtcome : r.outcome with
  | none =>
    simp only [Settles, houtcome] at hsettles
    simp only [SettlesAfter]
    obtain ⟨hreports, hfailure⟩ := hsettles
    exact ⟨hreports, hfailure, hpipeline⟩
  | some outcome =>
    cases outcome with
    | error e =>
      simp only [Settles, houtcome] at hsettles
      simp only [SettlesAfter]
      obtain ⟨hheld, hreports, hfailure⟩ := hsettles
      rw [hheld, Option.toList_none, List.append_nil] at hpipeline
      exact ⟨hreports, hfailure, hpipeline⟩
    | ok tally =>
      simp only [Settles, houtcome] at hsettles
      simp only [SettlesAfter]
      obtain ⟨hheld, hreports, hfailure, hall, htally⟩ := hsettles
      rw [hheld, Option.toList_none, List.append_nil] at hpipeline
      exact ⟨hreports, htally, .inr ⟨hfailure, hpipeline, hall⟩⟩

theorem Deserted.of_taskMove (hr : Deserted d c r) (h : TaskMove d e r r')
    (hmore : r.finished <+: r'.finished) : Deserted d c r' := by
  have htake := h.take_taken hmore hr.taken_le
  refine ⟨?_, ?_, ?_, ?_⟩
  · rw [h.channel, hr.channel]
  · rw [h.taken]
    exact Nat.le_trans hr.taken_le hmore.length_le
  · rw [h.tally, h.clients, hr.tally]
  · have hsettles := hr.settles
    unfold SettlesAfter at hsettles ⊢
    rw [h.outcome, h.reports, h.held, htake, h.taken, h.clients, h.tally]
    exact hsettles

/-- Once the channel is closed an offer ends the dispatch. -/
theorem offer_of_close (h : r.channel = c.close) (delivery : Delivery) :
    r.offer delivery = { r with held := none }.succeed := by
  simp [offer, Channel.send, Channel.close, h]

/-- Where a batch is left to send, offering one ends the dispatch without a report. -/
theorem Deserted.of_offer (channel : r.channel = c.close) (taken_le : r.taken ≤ r.finished.length)
    (tally : r.tally = .ofDeliveries r.clients.length c.sent) (hreports : r.reports = [])
    (hleft : c.sent.length < (errorFree (r.finished.take r.taken)).length)
    (delivery : Delivery) : Deserted d c (r.offer delivery) := by
  rw [offer_of_close channel]
  exact ⟨channel, taken_le, tally, hreports, rfl, .inl hleft⟩

theorem Deserted.forward (hr : Deserted d c r) (houtcome : r.outcome = none) :
    Deserted d c (r.forward d) := by
  obtain ⟨hchannel, htaken, htally, hsettles⟩ := hr
  simp only [SettlesAfter, houtcome] at hsettles
  obtain ⟨hreports, hfailure, hpipeline⟩ := hsettles
  refine r.forward_cases (motive := Deserted d c) d ?held ?failed ?ready ?done ?waiting
  case held =>
    intro delivery hheld
    refine .of_offer hchannel htaken htally hreports ?_ delivery
    rw [← hpipeline, hheld]
    simp
  case failed =>
    -- every batch before the failure was sent while the consumer was there
    intro entry e hheld hnext
    rw [hheld, Option.toList_none, List.append_nil] at hpipeline
    refine ⟨hchannel, (List.getElem?_eq_some_iff.mp hnext).1, htally, ?_, ?_, ?_⟩
    · simp [fail, hreports]
    · show firstFailure? (r.finished.take (r.taken + 1)) = some e
      rw [take_taken_succ hnext, firstFailure?_append, hfailure]
      rfl
    · show c.sent = errorFree (r.finished.take (r.taken + 1))
      rw [take_taken_succ hnext, errorFree_append_of_none hfailure, hpipeline]
      simp [errorFree]
  case ready =>
    intro entry batch hheld hnext
    rw [hheld, Option.toList_none, List.append_nil] at hpipeline
    have hlt : r.taken < r.finished.length := (List.getElem?_eq_some_iff.mp hnext).1
    refine .of_offer (r := { r with taken := r.taken + 1 }) hchannel hlt htally hreports ?_ _
    show c.sent.length < (errorFree (r.finished.take (r.taken + 1))).length
    rw [take_taken_succ hnext, errorFree_append_of_none hfailure, hpipeline]
    simp [errorFree]
  case done =>
    intro hheld _ hall
    rw [hheld, Option.toList_none, List.append_nil] at hpipeline
    exact ⟨hchannel, htaken, htally, hreports, rfl, .inr ⟨hfailure, hpipeline, hall⟩⟩
  case waiting =>
    intro _ _ _
    refine ⟨hchannel, htaken, htally, ?_⟩
    simp [SettlesAfter, houtcome, hreports, hfailure, hpipeline]

theorem Deserted.step (hr : Deserted d c r) (e : Event) : Deserted d c (r.step d e) := by
  cases h : e.isTask with
  | true => exact hr.of_taskMove (step_taskMove d r h) (step_finished_isPrefix d r e)
  | false =>
    cases e with
    | start entry => simp [Event.isTask] at h
    | reply entry answer => simp [Event.isTask] at h
    | crash entry => simp [Event.isTask] at h
    | forward =>
      cases houtcome : r.outcome with
      | none => simpa [Run.step, houtcome] using hr.forward houtcome
      | some outcome => simpa [Run.step, houtcome] using hr
    | receive =>
      refine ⟨?_, hr.taken_le, hr.tally, hr.settles⟩
      show r.channel.receive = c.close
      rw [hr.channel]
      rfl
    | close =>
      refine ⟨?_, hr.taken_le, hr.tally, hr.settles⟩
      show r.channel.close = c.close
      rw [hr.channel]
      rfl

end Run

/-! ## Runs -/

namespace Dispatch

open Run

variable {d : Dispatch} {σ : Schedule} {n m : Nat}

theorem not_mem_upTo {e : Event} (h : ∀ k, k < n → σ k ≠ e) : e ∉ σ.upTo n := by
  intro hmem
  obtain ⟨k, hk, hevent⟩ := List.mem_map.mp hmem
  exact h k (List.mem_range.mp hk) hevent

theorem run_deserted {clients : List Client}
    (h : d.resolve d.origin.bufnr d.listing.clientName = .ok clients)
    (stays : ∀ k, k < n → σ k ≠ .close) (leaves : σ n = .close) (hnm : n + 1 ≤ m) :
    Deserted d (d.run (σ.upTo n)).channel (d.run (σ.upTo m)) := by
  induction hnm with
  | refl =>
    rw [run_upTo_succ, leaves]
    exact (run_attended h (not_mem_upTo stays)).close
  | step _ ih =>
    rw [run_upTo_succ]
    exact ih.step _

/-- A dispatch that has ended after the consumer went away has ended as the finishing order and what
was sent before ask for. -/
theorem outcome_eq_verdictAfter {clients : List Client}
    (h : d.resolve d.origin.bufnr d.listing.clientName = .ok clients) {events : List Event}
    {c : Channel} (hr : Deserted d c (d.run events)) {outcome : Except DispatchError Tally}
    (houtcome : (d.run events).outcome = some outcome) :
    outcome = d.verdictAfter c.sent (d.finishingOrder events) ∧
      (d.run events).reports = d.reportsOf outcome := by
  have hasked : d.asked = clients := by simp [asked, h]
  obtain ⟨-, htaken_le, htally, hsettles⟩ := hr
  have htaken := take_taken_isPrefix (d := d) events
  rw [d.run_clients] at htally
  simp only [SettlesAfter, houtcome] at hsettles
  cases outcome with
  | error e =>
    obtain ⟨hreports, hfailure, hsent⟩ := hsettles
    obtain ⟨rest, hrest⟩ := htaken
    refine ⟨?_, hreports⟩
    rw [verdictAfter, if_neg]
    · simp [verdict, h, ← hrest, firstFailure?_append, hfailure]
    · rw [← hrest, errorFree_append_of_some hfailure, hsent]
      exact Nat.lt_irrefl _
  | ok tally =>
    obtain ⟨hreports, rfl, hleft | ⟨hfailure, hsent, hall⟩⟩ := hsettles
    · refine ⟨?_, hreports⟩
      rw [verdictAfter, if_pos, htally]
      exact Nat.lt_of_lt_of_le hleft (errorFree_isPrefix htaken).length_le
    · rw [take_taken_eq_finishingOrder htaken_le hall] at hfailure hsent
      refine ⟨?_, hreports⟩
      rw [verdictAfter, if_neg, htally, hsent, hasked]
      · simp [verdict, h, hfailure]
      · rw [hsent]
        exact Nat.lt_irrefl _

/-! ## The end -/

/-- What the tasks have come to ends a dispatch whose consumer went away after `sent` was sent:
there is a batch left to send, or the tasks have come to an end. -/
def EndsAfter (d : Dispatch) (sent : List Delivery) (order : List Finish) : Prop :=
  sent.length < (errorFree order).length ∨ d.TasksEnd order

theorem EndsAfter.mono {sent : List Delivery} {order more : List Finish}
    (h : d.EndsAfter sent order) (hmore : order <+: more)
    (hlength : more.length ≤ d.asked.length) : d.EndsAfter sent more := by
  rcases h with hleft | hend
  · exact .inl (Nat.lt_of_lt_of_le hleft (errorFree_isPrefix hmore).length_le)
  · exact .inr (hend.mono hmore hlength)

/-- A schedule in which the consumer goes away with move `n`, at any time. The forwarder keeps
moving, and the tasks come to what ends the dispatch. -/
structure Left (d : Dispatch) (σ : Schedule) (n : Nat) : Prop where
  stays : ∀ k, k < n → σ k ≠ .close
  leaves : σ n = .close
  forwards : ∀ k, ∃ m, k ≤ m ∧ σ m = .forward
  ends : ∃ m, d.EndsAfter (d.run (σ.upTo n)).channel.sent (d.finishingOrder (σ.upTo m))

/-- Once the tasks have come to what ends the dispatch, the next move of the forwarder ends it. -/
theorem forward_outcome_isSome {events : List Event} {c : Channel}
    (hr : Deserted d c (d.run events)) (hends : d.EndsAfter c.sent (d.finishingOrder events))
    (houtcome : (d.run events).outcome = none) :
    ((d.run events).forward d).outcome.isSome := by
  refine (d.run events).forward_cases (motive := (·.outcome.isSome)) d
    ?held ?failed ?ready ?done ?waiting
  case held =>
    intro delivery _
    rw [offer_of_close hr.channel]
    rfl
  case failed => exact fun _ _ _ _ => rfl
  case ready =>
    intro entry batch _ _
    rw [offer_of_close (r := { d.run events with taken := (d.run events).taken + 1 }) hr.channel]
    rfl
  case done => exact fun _ _ _ => rfl
  case waiting =>
    -- nothing is left to take, and what was taken neither fails nor leaves a batch to send
    intro hheld hnext hmore
    have hall : (d.run events).finished.length ≤ (d.run events).taken :=
      List.getElem?_eq_none_iff.mp hnext
    have hsettles := hr.settles
    simp only [SettlesAfter, houtcome, hheld, Option.toList_none, List.append_nil] at hsettles
    obtain ⟨-, hfailure, hsent⟩ := hsettles
    rcases hends with hleft | hend
    · rw [← d.finished_of_outcome_none houtcome, ← List.take_of_length_le hall, ← hsent] at hleft
      exact absurd hleft (Nat.lt_irrefl _)
    · exact absurd ⟨hall, hmore⟩ (not_waiting hend houtcome hr.taken_le hfailure)

/-- An outcome is final. -/
theorem outcome_upTo_of_le (d : Dispatch) (h : (d.run (σ.upTo n)).outcome.isSome) (hnm : n ≤ m) :
    (d.run (σ.upTo m)).outcome = (d.run (σ.upTo n)).outcome := by
  induction hnm with
  | refl => rfl
  | step _ ih =>
    rw [run_upTo_succ, step_outcome d (ih ▸ h), ih]

/-- A dispatch whose consumer has gone away ends at some time after that. -/
theorem exists_outcome (left : d.Left σ n) {clients : List Client}
    (h : d.resolve d.origin.bufnr d.listing.clientName = .ok clients) :
    ∃ m, n + 1 ≤ m ∧ (d.run (σ.upTo m)).outcome.isSome := by
  obtain ⟨k, hends⟩ := left.ends
  obtain ⟨m, hkm, hforward⟩ := left.forwards (max k (n + 1))
  refine ⟨m + 1, by omega, ?_⟩
  cases houtcome : (d.run (σ.upTo m)).outcome with
  | some outcome =>
    rw [outcome_upTo_of_le d (Option.isSome_of_eq_some houtcome) (Nat.le_succ m), houtcome]
    rfl
  | none =>
    have hdeserted := run_deserted h left.stays left.leaves (m := m) (by omega)
    have hends' := hends.mono (d.finishingOrder_upTo_isPrefix σ (m := m) (by omega))
      (d.length_finishingOrder_le _)
    have hstep : (d.run (σ.upTo m)).step d .forward = (d.run (σ.upTo m)).forward d := by
      simp [Run.step, houtcome]
    rw [run_upTo_succ, hforward, hstep]
    exact forward_outcome_isSome hdeserted hends' houtcome

/-- A dispatch is launched if its channel can be made. -/
theorem launch_of_fits (fits : d.capacity ≤ Channel.maxCapacity) (events : List Event) :
    d.launch events = .ok (d.run events) := by
  have hroom : ¬ Channel.maxCapacity < d.room := by
    simp only [room, Nat.not_lt, Nat.max_le]
    exact ⟨by decide, fits⟩
  simp [launch, hroom]

/-- Where the clients could be resolved, there is no report just if a batch is left to send when the
consumer goes away or no task fails. -/
theorem reportsOf_verdictAfter_eq_nil {clients : List Client}
    (h : d.resolve d.origin.bufnr d.listing.clientName = .ok clients) (sent : List Delivery)
    (order : List Finish) :
    d.reportsOf (d.verdictAfter sent order) = [] ↔
      sent.length < (errorFree order).length ∨ firstFailure? order = none := by
  by_cases hleft : sent.length < (errorFree order).length
  · simp [verdictAfter, hleft, reportsOf]
  · cases hfailure : firstFailure? order <;>
      simp [verdictAfter, hleft, verdict, h, hfailure, reportsOf]

/-- For every dispatch whose channel can be made and every schedule in which the consumer goes away,
before any task has failed or after: what was sent by then is a beginning of the batches that the
finishing order asks for, and from some time on the dispatch has ended. If a batch was left to send
it has ended with what it has sent and without a report. If none was, it has ended and reported as
it would have with the consumer there. So nothing is reported to a consumer that has gone just if a
batch was left to send or no task fails. -/
theorem launch_ends_after_departure (d : Dispatch) (fits : d.capacity ≤ Channel.maxCapacity)
    (σ : Schedule) (n : Nat) (left : d.Left σ n) :
    ∃ N, ∀ m, N ≤ m → ∃ r, d.launch (σ.upTo m) = .ok r ∧
      (d.run (σ.upTo n)).channel.sent <+: errorFree (d.finishingOrder (σ.upTo m)) ∧
      r.channel.received = (d.run (σ.upTo n)).channel.received ∧ r.channel.queue = [] ∧
      r.outcome = some (d.verdictAfter (d.run (σ.upTo n)).channel.sent
        (d.finishingOrder (σ.upTo m))) ∧
      r.reports = d.reportsOf (d.verdictAfter (d.run (σ.upTo n)).channel.sent
        (d.finishingOrder (σ.upTo m))) ∧
      ∀ clients, d.resolve d.origin.bufnr d.listing.clientName = .ok clients →
        (r.reports = [] ↔ (d.run (σ.upTo n)).channel.sent.length <
            (errorFree (d.finishingOrder (σ.upTo m))).length ∨
          firstFailure? (d.finishingOrder (σ.upTo m)) = none) := by
  cases h : d.resolve d.origin.bufnr d.listing.clientName with
  | error e =>
    -- no client is asked, and the dispatch has ended before the consumer goes away
    obtain ⟨hreceived, hqueue, -, -⟩ := run_refused h (σ.upTo n)
    have hsent : (d.run (σ.upTo n)).channel.sent = [] := by
      rw [Channel.sent, hreceived, hqueue]
      rfl
    refine ⟨n, fun m _ => ⟨_, launch_of_fits fits _, ?_⟩⟩
    obtain ⟨hreceived', hqueue', houtcome, hreports⟩ := run_refused h (σ.upTo m)
    have hverdict : d.verdictAfter [] (d.finishingOrder (σ.upTo m)) = .error (.service e) := by
      simp [verdictAfter, finishingOrder_of_error h, errorFree, verdict, h]
    rw [hsent, hverdict]
    refine ⟨List.nil_prefix, hreceived'.trans hreceived.symm, hqueue', houtcome, hreports, ?_⟩
    intro clients hclients
    cases hclients
  | ok clients =>
    obtain ⟨N, hnN, hended⟩ := exists_outcome left h
    refine ⟨N, fun m hNm => ⟨_, launch_of_fits fits _, ?_⟩⟩
    have hdeserted := run_deserted h left.stays left.leaves (m := m) (by omega)
    obtain ⟨outcome, houtcome⟩ := Option.isSome_iff_exists.mp hended
    have hended' : (d.run (σ.upTo m)).outcome = some outcome := by
      rw [outcome_upTo_of_le d hended hNm, houtcome]
    obtain ⟨hverdict, hreports⟩ := outcome_eq_verdictAfter h hdeserted hended'
    have hsent := sent_isPrefix (d := d) (not_mem_upTo left.stays)
    have hgrows := d.finishingOrder_upTo_isPrefix σ (n := n) (m := m) (by omega)
    refine ⟨hsent.trans (errorFree_isPrefix hgrows), ?_, ?_, ?_, ?_, ?_⟩
    · rw [hdeserted.channel]
      rfl
    · rw [hdeserted.channel]
      rfl
    · rw [hended', hverdict]
    · rw [hreports, hverdict]
    · intro _ _
      rw [hreports, hverdict]
      exact reportsOf_verdictAfter_eq_nil h _ _

/-- The consumer goes away while both clients are asked; then the answers come in, and the forwarder
moves on. -/
def leftWhileAsked (answers : List Event) : Schedule := fun k =>
  (.start 0 :: .start 1 :: .close :: answers)[k]?.getD .forward

theorem pair_left (capacity : Nat) (answers : List Event)
    (ends : (pair capacity).EndsAfter []
      ((pair capacity).finishingOrder ((leftWhileAsked answers).upTo (answers.length + 3)))) :
    (pair capacity).Left (leftWhileAsked answers) 2 where
  stays k hk := by
    match k, hk with
    | 0, _ | 1, _ => simp [leftWhileAsked]
  leaves := rfl
  forwards k := by
    refine ⟨k + answers.length + 3, by omega, ?_⟩
    simp [leftWhileAsked]
  ends := ⟨_, ends⟩

/-- The first client answers, with an empty outline, before the second one fails. -/
def leftBeforeAnswer : Schedule :=
  leftWhileAsked [.reply 0 (.ok (.arr [])), .reply 1 (.error (.transport "gone"))]

/-- The second client fails, and the first one never answers. -/
def leftBeforeFailure : Schedule := leftWhileAsked [.reply 1 (.error (.transport "gone"))]

theorem launch_ends_after_departure_pair :
    (0 ≤ Channel.maxCapacity ∧ (pair 0).Left leftBeforeAnswer 2) ∧
    ∃ N, ∀ m, N ≤ m → ∃ r, (pair 0).launch (leftBeforeAnswer.upTo m) = .ok r ∧
      r.outcome = some (.ok (.ofDeliveries 2 [])) ∧ r.reports = [] := by
  have hleft : 0 < (errorFree ((pair 0).finishingOrder (leftBeforeAnswer.upTo 5))).length := by
    decide
  have left : (pair 0).Left leftBeforeAnswer 2 := pair_left 0 _ (.inl hleft)
  refine ⟨⟨Nat.zero_le _, left⟩, ?_⟩
  obtain ⟨N, h⟩ := launch_ends_after_departure (pair 0) (Nat.zero_le _) leftBeforeAnswer 2 left
  refine ⟨max N 5, fun m hm => ?_⟩
  obtain ⟨r, hr, -, -, -, houtcome, hreports, -⟩ := h m (by omega)
  have hsent : ((pair 0).run (leftBeforeAnswer.upTo 2)).channel.sent = [] := rfl
  have hverdict : (pair 0).verdictAfter [] ((pair 0).finishingOrder (leftBeforeAnswer.upTo m)) =
      .ok (.ofDeliveries 2 []) := by
    have hgrows := (pair 0).finishingOrder_upTo_isPrefix leftBeforeAnswer (n := 5) (m := m)
      (by omega)
    exact if_pos (Nat.lt_of_lt_of_le hleft (errorFree_isPrefix hgrows).length_le)
  rw [hsent, hverdict] at houtcome hreports
  exact ⟨r, hr, houtcome, hreports⟩

/-- A consumer that went away before the first failure is no guarantee that none is reported. -/
theorem not_launch_quiet_of_failure_after_departure :
    ¬ ∀ (d : Dispatch) (σ : Schedule) (n : Nat), d.capacity ≤ Channel.maxCapacity → d.Left σ n →
      firstFailure? (d.finishingOrder (σ.upTo n)) = none →
      ∃ N, ∀ m, N ≤ m → ∃ r tally, d.launch (σ.upTo m) = .ok r ∧ r.outcome = some (.ok tally) ∧
        r.reports = [] := by
  intro h
  have left : (pair 0).Left leftBeforeFailure 2 := pair_left 0 _ (.inr (.inl rfl))
  obtain ⟨N, h⟩ := h (pair 0) leftBeforeFailure 2 (Nat.zero_le _) left rfl
  obtain ⟨r, tally, hr, houtcome, -⟩ := h (max N 5) (by omega)
  have hended : ((pair 0).run (leftBeforeFailure.upTo 5)).outcome =
      some (.error (.service (.transport "gone"))) := rfl
  have hlast := outcome_upTo_of_le (pair 0) (Option.isSome_of_eq_some hended)
    (Nat.le_max_right N 5)
  rw [launch_of_fits (Nat.zero_le _)] at hr
  cases hr
  rw [hlast, hended] at houtcome
  cases houtcome

end Dispatch

end CodeListing
