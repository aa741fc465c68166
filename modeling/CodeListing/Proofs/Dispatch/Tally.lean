import CodeListing.Proofs.Dispatch.Departure

/-!
# What a tally counts

A batch is counted when it is sent, and received some time later or never: a consumer that goes away
leaves behind what is in the channel (`Dispatch.unreceived`). So the tally of a dispatch that did
not fail counts what was received together with what was left behind, and it is a count of what was
received just if nothing was left behind (`Dispatch.launch_tally_counts_sent`).

A run in which the consumer may go away is one with the consumer there, followed by one without it
(`Dispatch.run_attended_or_deserted`), so what is known of the two says all about it.
-/

namespace CodeListing

/-- Whether the consumer goes away with a move. -/
def Event.isClose : Event → Bool
  | .close => true
  | _ => false

theorem Event.isClose_iff {e : Event} : e.isClose = true ↔ e = .close := by
  cases e <;> simp [isClose]

/-- Counting more deliveries gives another tally. -/
theorem Tally.ofDeliveries_append_eq_iff (clients : Nat) {deliveries more : List Delivery} :
    ofDeliveries clients (deliveries ++ more) = ofDeliveries clients deliveries ↔ more = [] := by
  constructor
  · intro h
    have hlength : (deliveries ++ more).length = deliveries.length := congrArg Tally.batches h
    rw [List.length_append] at hlength
    exact List.eq_nil_of_length_eq_zero (by omega)
  · rintro rfl
    rw [List.append_nil]

namespace Dispatch

open Finish Run

variable {d : Dispatch} {clients : List Client}

/-! ## Before and after the consumer goes away -/

/-- The moves before the one with which the consumer goes away, or all moves if it stays. -/
def beforeClose (events : List Event) : List Event := events.takeWhile (!·.isClose)

theorem close_not_mem_beforeClose (events : List Event) : .close ∉ beforeClose events := by
  intro hmem
  have hstays := List.all_eq_true.mp List.all_takeWhile _ hmem
  simp [Event.isClose_iff.mpr rfl] at hstays

theorem beforeClose_cases (events : List Event) :
    beforeClose events = events ∨ ∃ after, events = beforeClose events ++ .close :: after := by
  induction events with
  | nil => exact .inl rfl
  | cons e events ih =>
    cases he : e.isClose with
    | true =>
      obtain rfl := Event.isClose_iff.mp he
      exact .inr ⟨events, rfl⟩
    | false =>
      have hcons : beforeClose (e :: events) = e :: beforeClose events := by
        simp [beforeClose, he]
      rw [hcons]
      rcases ih with hstays | ⟨after, hleaves⟩
      · exact .inl (congrArg (e :: ·) hstays)
      · exact .inr ⟨after, congrArg (e :: ·) hleaves⟩

theorem run_deserted_append (h : d.resolve d.origin.bufnr d.listing.clientName = .ok clients)
    {before : List Event} (stays : .close ∉ before) (after : List Event) :
    Deserted d (d.run before).channel (d.run (before ++ .close :: after)) := by
  induction after using List.reverseRecOn with
  | nil =>
    rw [run_append_singleton]
    exact (run_attended h stays).close
  | append_singleton after e ih =>
    rw [← List.cons_append, ← List.append_assoc, run_append_singleton]
    exact ih.step e

/-- Where the clients could be resolved, the consumer is there or it has gone and left the channel
behind as it was. -/
theorem run_attended_or_deserted
    (h : d.resolve d.origin.bufnr d.listing.clientName = .ok clients) (events : List Event) :
    beforeClose events = events ∧ Attended d (d.run events) ∨
      Deserted d (d.run (beforeClose events)).channel (d.run events) := by
  have stays := close_not_mem_beforeClose events
  rcases beforeClose_cases events with hstays | ⟨after, hleaves⟩
  · rw [hstays] at stays
    exact .inl ⟨hstays, run_attended h stays⟩
  · have hdeserted := run_deserted_append h stays after
    rw [← hleaves] at hdeserted
    exact .inr hdeserted

/-! ## The tally -/

/-- What was sent and not received: what the consumer left in the channel when it went away, or what
is still there if it has not gone. -/
def unreceived (d : Dispatch) (events : List Event) : List Delivery :=
  (d.run (beforeClose events)).channel.queue

theorem received_append_unreceived
    (h : d.resolve d.origin.bufnr d.listing.clientName = .ok clients) (events : List Event) :
    (d.run events).channel.received ++ d.unreceived events =
      (d.run (beforeClose events)).channel.sent := by
  rcases run_attended_or_deserted h events with ⟨hstays, -⟩ | hdeserted
  · rw [unreceived, hstays]
    rfl
  · rw [hdeserted.channel]
    rfl

/-- A dispatch that did not fail has counted what it has sent. -/
theorem tally_of_outcome_ok {events : List Event} {tally : Tally}
    (succeeded : (d.run events).outcome = some (.ok tally)) :
    tally = .ofDeliveries d.asked.length
      ((d.run events).channel.received ++ d.unreceived events) := by
  cases h : d.resolve d.origin.bufnr d.listing.clientName with
  | error e =>
    rw [(run_refused h events).outcome] at succeeded
    cases succeeded
  | ok clients =>
    rw [received_append_unreceived h, ← d.run_clients events]
    rcases run_attended_or_deserted h events with ⟨hstays, hserving, hsettles⟩ | hdeserted
    · simp only [Settles, succeeded] at hsettles
      obtain ⟨-, -, -, -, rfl⟩ := hsettles
      rw [hstays]
      exact hserving.tally
    · have hsettles := hdeserted.settles
      simp only [SettlesAfter, succeeded] at hsettles
      obtain ⟨-, rfl, -⟩ := hsettles
      exact hdeserted.tally

theorem run_of_launch {events : List Event} {r : Run} (launched : d.launch events = .ok r) :
    r = d.run events := by
  unfold launch at launched
  split at launched
  · cases launched
  · exact (Except.ok.inj launched).symm

/-- For every dispatch that is launched, every schedule and every moment at which the consumer goes
away, if it does: where the dispatch does not fail, its tally counts all clients, and the batches
and records that were received together with those that were left in the channel. So it counts what
was received just if nothing was left there. -/
theorem launch_tally_counts_sent (d : Dispatch) (events : List Event) {r : Run} {tally : Tally}
    (launched : d.launch events = .ok r) (succeeded : r.outcome = some (.ok tally)) :
    tally = .ofDeliveries d.asked.length (r.channel.received ++ d.unreceived events) ∧
      (tally.batches = r.channel.received.length ∧
          tally.records = (r.channel.received.flatMap (·.batch)).length ↔
        d.unreceived events = []) := by
  obtain rfl := run_of_launch launched
  have htally := tally_of_outcome_ok succeeded
  refine ⟨htally, ?_⟩
  rw [← Tally.ofDeliveries_append_eq_iff d.asked.length, ← htally]
  constructor
  · rintro ⟨hbatches, hrecords⟩
    have hclients : tally.clients = d.asked.length := congrArg Tally.clients htally
    rw [Tally.ofDeliveries, ← hclients, ← hbatches, ← hrecords]
  · intro h
    exact ⟨congrArg Tally.batches h, congrArg Tally.records h⟩

/-- Both clients answer and both batches are sent before the consumer takes the first of them and
goes away. -/
def leftWithBatch : List Event :=
  [.start 0, .start 1, .reply 0 (.ok .null), .reply 1 (.ok .null), .forward, .forward, .receive,
    .close, .forward]

theorem launch_tally_counts_sent_leftWithBatch :
    ∃ r tally, (pair 16).launch leftWithBatch = .ok r ∧ r.outcome = some (.ok tally) ∧
      tally.batches = 2 ∧ r.channel.received.map (·.entry) = [0] ∧
      ((pair 16).unreceived leftWithBatch).map (·.entry) = [1] ∧
      tally = .ofDeliveries 2 (r.channel.received ++ (pair 16).unreceived leftWithBatch) :=
  ⟨_, _, rfl, rfl, rfl, rfl, rfl, (launch_tally_counts_sent (pair 16) leftWithBatch rfl rfl).1⟩

/-- A batch that the consumer leaves in the channel is counted, although nobody receives it. -/
theorem not_launch_tally_of_batch_left :
    ¬ ∀ (d : Dispatch) (events : List Event) (r : Run) (tally : Tally),
      d.launch events = .ok r → r.outcome = some (.ok tally) → r.channel.queue = [] →
      tally.batches = r.channel.received.length ∧
        tally.records = (r.channel.received.flatMap (·.batch)).length := by
  intro h
  obtain ⟨hbatches, -⟩ := h (pair 16) leftWithBatch _ _ rfl rfl rfl
  exact absurd hbatches (by decide)

end Dispatch

end CodeListing
