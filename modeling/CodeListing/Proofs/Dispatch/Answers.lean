import CodeListing.Proofs.Dispatch.Tally
import CodeListing.Proofs.Listing.Context

/-!
# Batches and the answers they are made of

Clients are asked side by side, and what one of them answers is none of the business of another. A
batch that is received is what the listing makes of the answer of one client, in the context of the
request to that client, and no other answer plays a part in it
(`Dispatch.launch_delivers_own_answers`). So a client that is heard in two runs is heard alike in
both if it answers alike, whatever the others answer and whoever moves when.
-/

namespace CodeListing

namespace Dispatch

open Finish Run

variable {d : Dispatch} {answers : Nat → Except ServiceError Json} {events : List Event}

/-- The answer that comes in for an entry of the list of clients, if one does, is the one that
`answers` has for it. -/
def AnsweredBy (answers : Nat → Except ServiceError Json) (events : List Event) : Prop :=
  ∀ entry answer, .reply entry answer ∈ events → answer = answers entry

theorem answeredBy_append {more : List Event} :
    AnsweredBy answers (events ++ more) ↔
      AnsweredBy answers events ∧ AnsweredBy answers more := by
  simp only [AnsweredBy, List.mem_append, or_imp, forall_and]

theorem answeredBy_nil : AnsweredBy answers [] := fun _ _ h => absurd h List.not_mem_nil

theorem answeredBy_cons {e : Event} :
    AnsweredBy answers (e :: events) ↔
      (∀ entry answer, e = .reply entry answer → answer = answers entry) ∧
        AnsweredBy answers events := by
  simp only [AnsweredBy, List.mem_cons, or_imp, forall_and, eq_comm]

/-- A task that ends with a batch ends with an answer that the batch is made of. -/
theorem EndsTask.of_ok {client : Client} {entry : Nat} {e : Event} {batch : Batch}
    (h : d.EndsTask client entry e (.ok batch)) :
    ∃ response, e = .reply entry (.ok response) ∧
      (d.listing.batchOf d.around (contextOf d client) d.origin response).result = .ok batch := by
  generalize hresult : (.ok batch : Except DispatchError Batch) = result at h
  cases h with
  | unaskable _ => cases hresult
  | unanswered _ => cases hresult
  | crashed => cases hresult
  | answered response => exact ⟨response, rfl, mapError_eq_ok_iff.mp hresult.symm⟩

/-- The batch of an entry is made of the answer for that entry. -/
theorem batchOf_of_mem_finishingOrder (answered : AnsweredBy answers events) {entry : Nat}
    {batch : Batch} (h : ⟨entry, .ok batch⟩ ∈ d.finishingOrder events) :
    ∃ client response, d.asked[entry]? = some client ∧ answers entry = .ok response ∧
      (d.listing.batchOf d.around (contextOf d client) d.origin response).result = .ok batch := by
  obtain ⟨client, hclient, e, he, hends⟩ := d.endsTask_of_mem h
  obtain ⟨response, rfl, hbatch⟩ := hends.of_ok
  exact ⟨client, response, hclient, (answered entry _ he).symm, hbatch⟩

/-- What was received is a beginning of what the finishing order asks for, also where the consumer
goes away. -/
theorem received_isPrefix_errorFree (d : Dispatch) (events : List Event) :
    (d.run events).channel.received <+: errorFree (d.finishingOrder events) := by
  cases h : d.resolve d.origin.bufnr d.listing.clientName with
  | error e =>
    rw [(run_refused h events).received]
    exact List.nil_prefix
  | ok clients =>
    have hbefore : d.finishingOrder (beforeClose events) <+: d.finishingOrder events := by
      have hevents : beforeClose events ++ events.dropWhile (!·.isClose) = events :=
        List.takeWhile_append_dropWhile
      simpa only [hevents] using
        d.finishingOrder_append_isPrefix (beforeClose events) (events.dropWhile (!·.isClose))
    have hsent := sent_isPrefix (d := d) (close_not_mem_beforeClose events)
    rw [← received_append_unreceived h events] at hsent
    exact (List.prefix_append _ _).trans (hsent.trans (errorFree_isPrefix hbefore))

/-- A batch that was received is made of the answer for its entry. -/
theorem batchOf_of_mem_received (answered : AnsweredBy answers events) {delivery : Delivery}
    (h : delivery ∈ (d.run events).channel.received) :
    ∃ client response, d.asked[delivery.entry]? = some client ∧
      answers delivery.entry = .ok response ∧
      (d.listing.batchOf d.around (contextOf d client) d.origin response).result =
        .ok delivery.batch :=
  batchOf_of_mem_finishingOrder answered
    (mem_of_mem_errorFree ((d.received_isPrefix_errorFree events).subset h))

/-- For every dispatch that is launched and every schedule: a batch that is received is what the
listing makes of the answer of one of the clients in the context of the request to it, every record
in it carries just that context, and no two batches come from one entry of the list of clients. In
another run the same client has the same batch if it answers the same, whatever all others answer
and in whatever order. -/
theorem launch_delivers_own_answers (d : Dispatch) (kind : d.listing.IsKind)
    (answered : AnsweredBy answers events) {r : Run} (launched : d.launch events = .ok r) :
    (∀ delivery ∈ r.channel.received, ∃ client response,
      d.asked[delivery.entry]? = some client ∧ answers delivery.entry = .ok response ∧
      (d.listing.batchOf d.around (contextOf d client) d.origin response).result =
        .ok delivery.batch ∧
      ∀ record ∈ delivery.batch,
        record.context = ⟨client, d.origin.bufnr, d.listing.method⟩) ∧
    (r.channel.received.map (·.entry)).Nodup ∧
    ∀ (answers' : Nat → Except ServiceError Json) (events' : List Event) (r' : Run),
      AnsweredBy answers' events' → d.launch events' = .ok r' →
      ∀ delivery ∈ r.channel.received, ∀ delivery' ∈ r'.channel.received,
        delivery.entry = delivery'.entry → answers delivery.entry = answers' delivery.entry →
        delivery = delivery' := by
  obtain rfl := run_of_launch launched
  refine ⟨?made, ?once, ?alike⟩
  case made =>
    intro delivery hdelivery
    obtain ⟨client, response, hclient, hanswer, hbatch⟩ :=
      batchOf_of_mem_received answered hdelivery
    exact ⟨client, response, hclient, hanswer, hbatch, kind.context_of_mem_batchOf hbatch⟩
  case once =>
    have hentries := (d.received_isPrefix_errorFree events).sublist.map (·.entry)
    exact (hentries.trans (entries_errorFree_sublist _)).nodup (d.nodup_finishingOrder events)
  case alike =>
    intro answers' events' r' answered' launched' ⟨entry, batch⟩ hdelivery ⟨entry', batch'⟩
      hdelivery' hentry hanswers
    obtain rfl := run_of_launch launched'
    obtain rfl : entry = entry' := hentry
    obtain ⟨client, response, hclient, hanswer, hbatch⟩ :=
      batchOf_of_mem_received answered hdelivery
    obtain ⟨client', response', hclient', hanswer', hbatch'⟩ :=
      batchOf_of_mem_received answered' hdelivery'
    -- both batches are made of one answer of one client
    obtain rfl : client = client' := Option.some.inj (hclient.symm.trans hclient')
    obtain rfl : response = response' :=
      Except.ok.inj (hanswer.symm.trans (hanswers.trans hanswer'))
    obtain rfl : batch = batch' := Except.ok.inj (hbatch.symm.trans hbatch')
    rfl

/-- The outline of a file with one function in it. -/
def oneFunction : Json :=
  .arr [Symbol.toJson (.hierarchical
    { name := "f", detail := none, kind := ⟨12⟩, range := ⟨⟨0, 0⟩, ⟨2, 1⟩⟩,
      selectionRange := ⟨⟨0, 3⟩, ⟨0, 4⟩⟩ } none)]

/-- The first client answers with an outline. -/
def answersBeside (second : Except ServiceError Json) : Nat → Except ServiceError Json
  | 0 => .ok oneFunction
  | _ => second

/-- The second client fails after the batch of the first one was received. -/
def besideFailure : List Event :=
  [.start 0, .start 1, .reply 0 (.ok oneFunction), .forward, .receive,
    .reply 1 (.error (.transport "gone")), .forward]

/-- The second client is the first to answer. -/
def besideAnswer : List Event :=
  [.start 1, .start 0, .reply 1 (.ok .null), .reply 0 (.ok oneFunction), .forward, .forward,
    .receive, .receive]

theorem besideFailure_answered :
    AnsweredBy (answersBeside (.error (.transport "gone"))) besideFailure := by
  simp [besideFailure, answeredBy_cons, answeredBy_nil, answersBeside]

theorem besideAnswer_answered : AnsweredBy (answersBeside (.ok .null)) besideAnswer := by
  simp [besideAnswer, answeredBy_cons, answeredBy_nil, answersBeside]

theorem launch_delivers_own_answers_pair :
    (pair 16).listing.IsKind ∧
    AnsweredBy (answersBeside (.error (.transport "gone"))) besideFailure ∧
    AnsweredBy (answersBeside (.ok .null)) besideAnswer ∧
    ∃ r r', (pair 16).launch besideFailure = .ok r ∧ (pair 16).launch besideAnswer = .ok r' ∧
      r.channel.received.map (·.entry) = [0] ∧ r'.channel.received.map (·.entry) = [1, 0] ∧
      ∀ delivery ∈ r.channel.received, ∀ delivery' ∈ r'.channel.received,
        delivery.entry = delivery'.entry → delivery = delivery' := by
  have kind : (pair 16).listing.IsKind := .outline {} {}
  refine ⟨kind, besideFailure_answered, besideAnswer_answered, _, _, rfl, rfl, rfl, rfl, ?_⟩
  intro delivery hdelivery delivery' hdelivery' hentry
  have hfirst : delivery.entry ∈ [0] := List.mem_map_of_mem (f := (·.entry)) hdelivery
  obtain ⟨-, -, halike⟩ :=
    launch_delivers_own_answers (pair 16) kind besideFailure_answered rfl
  refine halike _ _ _ besideAnswer_answered rfl delivery hdelivery delivery' hdelivery' hentry ?_
  rw [List.mem_singleton.mp hfirst]
  rfl

end Dispatch

end CodeListing
