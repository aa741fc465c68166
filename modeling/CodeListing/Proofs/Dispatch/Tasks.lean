import CodeListing.Proofs.Dispatch.Moves
import Mathlib.Data.List.Induction
import Mathlib.Data.List.Nodup
import Mathlib.Data.List.Perm.Subperm

/-!
# The tasks of a dispatch

The tasks of the clients do not look at the forwarder or at the consumer, so the order in which they
finish is a matter of their own moves: `Dispatch.finishingOrder` is what a schedule makes of the
tasks when nothing else moves.

* `Dispatch.run_coherent`: every task finishes at most once, and the stages tell which ones have.
* `Dispatch.finished_isPrefix`: a run sees a beginning of the finishing order, and all of it as long
  as it has not ended.
-/

namespace CodeListing

namespace Run

variable {d : Dispatch} {e : Event} {r r' t : Run}

/-! ## Tasks finish once -/

/-- The stages and the results of the tasks fit together. -/
structure Coherent (r : Run) : Prop where
  length_stages : r.stages.length = r.clients.length
  ended_iff : ∀ entry, r.stages[entry]? = some .ended ↔ entry ∈ r.finished.map (·.entry)
  nodup : (r.finished.map (·.entry)).Nodup

theorem Coherent.of_sameTasks (h : SameTasks r t) (ht : Coherent t) : Coherent r where
  length_stages := by rw [h.stages, h.clients, ht.length_stages]
  ended_iff := by rw [h.stages, h.finished]; exact ht.ended_iff
  nodup := by rw [h.finished]; exact ht.nodup

theorem Coherent.of_taskMove (hr : Coherent r) (h : TaskMove d e r r') : Coherent r' := by
  cases h.progress with
  | idle stages finished => exact .of_sameTasks ⟨h.clients, stages, finished⟩ hr
  | asked entry ready stages finished =>
    refine ⟨by simp [stages, h.clients, hr.length_stages], ?_, finished ▸ hr.nodup⟩
    intro other
    rw [stages, finished, ← hr.ended_iff other, List.getElem?_set]
    split
    next hother =>
      subst hother
      simp [ready]
    next => rfl
  | ended entry stage result before unfinished _ stages finished =>
    have hnew : entry ∉ r.finished.map (·.entry) := by
      rw [← hr.ended_iff entry, before]
      simpa using unfinished
    refine ⟨by simp [stages, h.clients, hr.length_stages], ?_, ?_⟩
    · intro other
      have hlt : entry < r.stages.length := (List.getElem?_eq_some_iff.mp before).1
      rw [stages, finished, List.map_append, List.mem_append, ← hr.ended_iff other,
        List.getElem?_set]
      by_cases hother : entry = other
      · subst hother
        simp [hlt]
      · simp [hother, Ne.symm hother]
    · rw [finished, List.map_append]
      refine List.nodup_append.mpr ⟨hr.nodup, by simp, ?_⟩
      intro old hold new hmem heq
      rw [List.map_singleton, List.mem_singleton] at hmem
      rw [heq, hmem] at hold
      exact hnew hold

theorem Coherent.step (hr : Coherent r) (d : Dispatch) (e : Event) : Coherent (r.step d e) := by
  cases h : e.isTask with
  | true => exact hr.of_taskMove (step_taskMove d r h)
  | false => exact .of_sameTasks (step_sameTasks d r h) hr

/-- Only tasks of clients finish. -/
theorem Coherent.entries_subset_range (hr : Coherent r) :
    r.finished.map (·.entry) ⊆ List.range r.clients.length := by
  intro entry hentry
  have hended := (hr.ended_iff entry).mpr hentry
  rw [List.mem_range, ← hr.length_stages]
  exact (List.getElem?_eq_some_iff.mp hended).1

/-- There are no more results than clients. -/
theorem Coherent.length_finished_le (hr : Coherent r) : r.finished.length ≤ r.clients.length := by
  simpa using (hr.nodup.subperm hr.entries_subset_range).length_le

/-! ## Where tasks stand alike they move alike -/

theorem SameTasks.finish (h : SameTasks r t) (entry : Nat)
    (result : Except DispatchError Batch) :
    SameTasks (r.finish entry result) (t.finish entry result) :=
  ⟨h.clients, by simp [Run.finish, h.stages], by simp [Run.finish, h.finished]⟩

theorem SameTasks.step (h : SameTasks r t) (hr : r.outcome = none) (ht : t.outcome = none)
    (d : Dispatch) (he : e.isTask) : SameTasks (r.step d e) (t.step d e) := by
  cases e with
  | start entry =>
    simp only [Run.step, hr, ht, Option.isSome_none, Bool.false_eq_true, if_false, start]
    rw [h.clients, h.stages]
    split
    · split
      · exact h.finish entry _
      · exact ⟨rfl, rfl, h.finished⟩
    · exact h
  | reply entry answer =>
    simp only [Run.step, hr, ht, Option.isSome_none, Bool.false_eq_true, if_false, reply]
    rw [h.clients, h.stages]
    split
    · split
      · exact h.finish entry _
      · refine SameTasks.finish ?_ entry _
        exact ⟨rfl, rfl, h.finished⟩
    · exact h
  | crash entry =>
    simp only [Run.step, hr, ht, Option.isSome_none, Bool.false_eq_true, if_false, crash]
    rw [h.stages]
    split
    · exact h.finish entry _
    · exact h.finish entry _
    · exact h
  | forward => simp [Event.isTask] at he
  | receive => simp [Event.isTask] at he
  | close => simp [Event.isTask] at he

/-- Results are only ever added. -/
theorem step_finished_isPrefix (d : Dispatch) (r : Run) (e : Event) :
    r.finished <+: (r.step d e).finished := by
  cases h : e.isTask with
  | true =>
    cases (step_taskMove d r h).progress with
    | idle _ finished => exact finished ▸ List.prefix_rfl
    | asked _ _ _ finished => exact finished ▸ List.prefix_rfl
    | ended entry _ result _ _ _ _ finished =>
      rw [finished]
      exact List.prefix_append _ _
  | false => exact (step_sameTasks d r h).finished ▸ List.prefix_rfl

/-- A result that was not there before the move is what the move made of the task of a client. -/
theorem Coherent.endsTask_of_mem_step (hr : Coherent r) {f : Finish}
    (hf : f ∈ (r.step d e).finished) :
    f ∈ r.finished ∨
      ∃ client, r.clients[f.entry]? = some client ∧ d.EndsTask client f.entry e f.result := by
  cases h : e.isTask with
  | false => exact .inl ((step_sameTasks d r h).finished ▸ hf)
  | true =>
    cases (step_taskMove d r h).progress with
    | idle _ finished => exact .inl (finished ▸ hf)
    | asked _ _ _ finished => exact .inl (finished ▸ hf)
    | ended entry stage result before _ ends _ finished =>
      rw [finished, List.mem_append, List.mem_singleton] at hf
      rcases hf with hold | rfl
      · exact .inl hold
      · have hlt : entry < r.clients.length := by
          rw [← hr.length_stages]
          exact (List.getElem?_eq_some_iff.mp before).1
        have hclient : r.clients[entry]? = some r.clients[entry] := List.getElem?_eq_getElem hlt
        exact .inr ⟨_, hclient, ends _ hclient⟩

end Run

/-! ## Runs -/

namespace Dispatch

open Run

variable (d : Dispatch)

theorem run_append_singleton (events : List Event) (e : Event) :
    d.run (events ++ [e]) = (d.run events).step d e := by
  simp [run]

/-- The clients that a dispatch asks. -/
def asked : List Client :=
  match d.resolve d.origin.bufnr d.listing.clientName with
  | .error _ => []
  | .ok clients => clients

/-- A dispatch whose clients are resolved and of which nothing else is known. -/
def opening (clients : List Client) : Run :=
  { clients
    stages := clients.map fun _ => .ready
    channel := { capacity := d.room }
    tally := { clients := clients.length }
    filters := [d.listing.clientName] }

variable {d} in
theorem begin_of_error {e : ServiceError}
    (h : d.resolve d.origin.bufnr d.listing.clientName = .error e) :
    d.begin = { d.opening [] with
      reports := [(.service e, d.listing.tag)], outcome := some (.error (.service e)) } := by
  simp [begin, h, opening, fail]

variable {d} in
theorem begin_of_ok {clients : List Client}
    (h : d.resolve d.origin.bufnr d.listing.clientName = .ok clients) :
    d.begin = if clients.isEmpty then (d.opening clients).succeed else d.opening clients := by
  simp [begin, h, opening]

/-- The tasks stand at the beginning as they do when the clients have just been resolved. -/
theorem begin_sameTasks : SameTasks d.begin (d.opening d.asked) := by
  cases h : d.resolve d.origin.bufnr d.listing.clientName with
  | error e =>
    have hasked : d.asked = [] := by simp [asked, h]
    rw [begin_of_error h, hasked]
    exact ⟨rfl, rfl, rfl⟩
  | ok clients =>
    have hasked : d.asked = clients := by simp [asked, h]
    rw [begin_of_ok h, hasked]
    split <;> exact ⟨rfl, rfl, rfl⟩

theorem opening_coherent (clients : List Client) : Coherent (d.opening clients) := by
  refine ⟨by simp [opening], ?_, by simp [opening]⟩
  intro entry
  simp [opening, List.getElem?_replicate]

theorem run_coherent (events : List Event) : Coherent (d.run events) :=
  List.foldlRecOn events (Run.step d) (.of_sameTasks d.begin_sameTasks (d.opening_coherent _))
    fun _ hr e _ => hr.step d e

theorem run_clients (events : List Event) : (d.run events).clients = d.asked := by
  induction events using List.reverseRecOn with
  | nil => exact d.begin_sameTasks.clients
  | append_singleton events e ih =>
    rw [run_append_singleton]
    cases h : e.isTask with
    | true => rw [(step_taskMove d _ h).clients, ih]
    | false => rw [(step_sameTasks d _ h).clients, ih]

/-! ## The finishing order -/

/-- The results of the tasks in the order in which they finish, if nothing but the tasks moves. -/
def finishingOrder (events : List Event) : List Finish :=
  (d.run (events.filter Event.isTask)).finished

theorem tasks_append_of_isTask {e : Event} (h : e.isTask) (events : List Event) :
    (events ++ [e]).filter Event.isTask = events.filter Event.isTask ++ [e] := by
  simp [h]

theorem tasks_append_of_not_isTask {e : Event} (h : e.isTask = false) (events : List Event) :
    (events ++ [e]).filter Event.isTask = events.filter Event.isTask := by
  simp [h]

/-- Tasks by themselves bring no outcome about. -/
theorem outcome_run_tasks (events : List Event) :
    (d.run (events.filter Event.isTask)).outcome = d.begin.outcome := by
  induction events using List.reverseRecOn with
  | nil => rfl
  | append_singleton events e ih =>
    cases h : e.isTask with
    | true =>
      rw [tasks_append_of_isTask h, run_append_singleton, (step_taskMove d _ h).outcome, ih]
    | false => rw [tasks_append_of_not_isTask h, ih]

theorem outcome_run_of_append (events more : List Event)
    (h : (d.run (events ++ more)).outcome = none) : (d.run events).outcome = none := by
  induction more using List.reverseRecOn with
  | nil => simpa using h
  | append_singleton more e ih =>
    apply ih
    rw [← List.append_assoc, run_append_singleton] at h
    by_contra hsome
    rw [step_outcome d (Option.isSome_iff_ne_none.mpr hsome)] at h
    exact hsome h

/-- As long as a run has not ended its tasks stand as they would by themselves. -/
theorem run_sameTasks {events : List Event} (h : (d.run events).outcome = none) :
    SameTasks (d.run events) (d.run (events.filter Event.isTask)) := by
  induction events using List.reverseRecOn with
  | nil => exact ⟨rfl, rfl, rfl⟩
  | append_singleton events e ih =>
    have hbefore : (d.run events).outcome = none := d.outcome_run_of_append events [e] h
    rw [run_append_singleton]
    cases he : e.isTask with
    | true =>
      have halone : (d.run (events.filter Event.isTask)).outcome = none := by
        rw [outcome_run_tasks]
        exact d.outcome_run_of_append [] events hbefore
      rw [tasks_append_of_isTask he, run_append_singleton]
      exact (ih hbefore).step hbefore halone d he
    | false =>
      rw [tasks_append_of_not_isTask he]
      exact (step_sameTasks d _ he).trans (ih hbefore)

theorem finished_of_outcome_none {events : List Event} (h : (d.run events).outcome = none) :
    (d.run events).finished = d.finishingOrder events :=
  (d.run_sameTasks h).finished

theorem finishingOrder_append_isPrefix (events more : List Event) :
    d.finishingOrder events <+: d.finishingOrder (events ++ more) := by
  induction more using List.reverseRecOn with
  | nil => simp
  | append_singleton more e ih =>
    refine ih.trans ?_
    rw [← List.append_assoc, finishingOrder, finishingOrder]
    cases he : e.isTask with
    | true =>
      rw [tasks_append_of_isTask he, run_append_singleton]
      exact step_finished_isPrefix d _ e
    | false => exact tasks_append_of_not_isTask he (events ++ more) ▸ List.prefix_rfl

/-- A run sees a beginning of the finishing order. -/
theorem finished_isPrefix (events : List Event) :
    (d.run events).finished <+: d.finishingOrder events := by
  induction events using List.reverseRecOn with
  | nil => exact List.prefix_rfl
  | append_singleton events e ih =>
    have hmore := ih.trans (d.finishingOrder_append_isPrefix events [e])
    cases he : e.isTask with
    | false => rwa [run_append_singleton, (step_sameTasks d _ he).finished]
    | true =>
      cases hend : (d.run events).outcome with
      | some outcome =>
        rwa [run_append_singleton, step_of_isTask d (Option.isSome_of_eq_some hend) he]
      | none =>
        have hafter : (d.run (events ++ [e])).outcome = none := by
          rw [run_append_singleton, (step_taskMove d _ he).outcome, hend]
        exact d.finished_of_outcome_none hafter ▸ List.prefix_rfl

/-- Every result in the finishing order is what some move made of the task of its client. -/
theorem endsTask_of_mem {events : List Event} {f : Finish} (hf : f ∈ d.finishingOrder events) :
    ∃ client, d.asked[f.entry]? = some client ∧
      ∃ e ∈ events, d.EndsTask client f.entry e f.result := by
  induction events using List.reverseRecOn with
  | nil =>
    rw [finishingOrder, List.filter_nil, run, List.foldl_nil, d.begin_sameTasks.finished] at hf
    simp [opening] at hf
  | append_singleton events e ih =>
    have hbefore : f ∈ d.finishingOrder events → ∃ client, d.asked[f.entry]? = some client ∧
        ∃ e' ∈ events ++ [e], d.EndsTask client f.entry e' f.result := by
      intro hold
      obtain ⟨client, hclient, e', he', hends⟩ := ih hold
      exact ⟨client, hclient, e', List.mem_append_left _ he', hends⟩
    rw [finishingOrder] at hf
    cases he : e.isTask with
    | false =>
      rw [tasks_append_of_not_isTask he] at hf
      exact hbefore hf
    | true =>
      rw [tasks_append_of_isTask he, run_append_singleton] at hf
      rcases (d.run_coherent (events.filter Event.isTask)).endsTask_of_mem_step hf with
        hold | ⟨client, hclient, hends⟩
      · exact hbefore hold
      · rw [d.run_clients] at hclient
        exact ⟨client, hclient, e, List.mem_append_right _ (List.mem_singleton.mpr rfl), hends⟩

theorem nodup_finishingOrder (events : List Event) :
    ((d.finishingOrder events).map (·.entry)).Nodup :=
  (d.run_coherent _).nodup

theorem length_finishingOrder_le (events : List Event) :
    (d.finishingOrder events).length ≤ d.asked.length := by
  rw [← d.run_clients (events.filter Event.isTask)]
  exact (d.run_coherent _).length_finished_le

end Dispatch

end CodeListing
