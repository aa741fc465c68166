import CodeListing.Proofs.Dispatch.Tally

/-!
# The requests of a dispatch

Only the start of a task sends a request, and only with the parameters that were built for the
client of that task (`Run.RequestMove`). So whatever was sent in a run was sent to a client that the
resolver gave, with what the listing asks this very client (`Dispatch.sends_of_mem_requests`).
-/

namespace CodeListing

/-- What the listing of a dispatch asks a client of the buffer. -/
structure Dispatch.Sends (d : Dispatch) (request : Request) : Prop where
  client : request.client ∈ d.asked
  method : request.method = d.listing.method
  params : d.listing.parameters d.around request.client d.origin = .ok request.params
  bufnr : request.bufnr = d.origin.bufnr

namespace Run

variable {d : Dispatch} {r r' : Run}

/-- What a move sends: nothing, or the request of one task that has not sent any. -/
inductive RequestMove (d : Dispatch) (r r' : Run) : Prop where
  | nothing (requests : r'.requests = r.requests)
  | sent (entry : Nat) (client : Client) (params : Json)
      (client_eq : r.clients[entry]? = some client) (ready : r.stages[entry]? = some .ready)
      (built : d.listing.parameters d.around client d.origin = .ok params)
      (stages : r'.stages = r.stages.set entry .asked)
      (requests : r'.requests =
        r.requests ++ [⟨client, d.listing.method, params, d.origin.bufnr⟩])

theorem start_requestMove (d : Dispatch) (r : Run) (entry : Nat) :
    RequestMove d r (r.start d entry) := by
  unfold start
  split
  next client hclient hready =>
    split
    next => exact .nothing rfl
    next params hparams => exact .sent entry client params hclient hready hparams rfl rfl
  next => exact .nothing rfl

theorem reply_requests (d : Dispatch) (r : Run) (entry : Nat)
    (answer : Except ServiceError Json) : (r.reply d entry answer).requests = r.requests := by
  unfold reply
  split
  · split <;> rfl
  · rfl

theorem crash_requests (r : Run) (entry : Nat) : (r.crash entry).requests = r.requests := by
  unfold crash
  split <;> rfl

theorem step_requestMove (d : Dispatch) (r : Run) (e : Event) :
    RequestMove d r (r.step d e) := by
  refine step_cases (motive := fun _ r' => RequestMove d r r') d r
    ?start ?reply ?crash ?forward ?receive ?close ?ended e
  case start => exact fun entry => start_requestMove d r entry
  case reply => exact fun entry answer => .nothing (reply_requests d r entry answer)
  case crash => exact fun entry => .nothing (crash_requests r entry)
  case forward => exact .nothing (forward_frame (fun _ _ _ _ _ _ _ => rfl) d r)
  case receive => exact .nothing rfl
  case close => exact .nothing rfl
  case ended => exact fun _ => .nothing rfl

/-- Where every request so far is one that the listing sends, so is every one after a move. -/
theorem sends_of_mem_step (hclients : r.clients = d.asked)
    (hr : ∀ request ∈ r.requests, d.Sends request) (e : Event) :
    ∀ request ∈ (r.step d e).requests, d.Sends request := by
  cases step_requestMove d r e with
  | nothing requests => exact requests ▸ hr
  | sent entry client params client_eq _ built _ requests =>
    rw [requests]
    intro request hrequest
    rcases List.mem_append.mp hrequest with hold | hnew
    · exact hr request hold
    · obtain rfl := List.mem_singleton.mp hnew
      exact ⟨hclients ▸ List.mem_of_getElem? client_eq, rfl, built, rfl⟩

end Run

namespace Dispatch

open Run

theorem begin_requests (d : Dispatch) : d.begin.requests = [] := by
  cases h : d.resolve d.origin.bufnr d.listing.clientName with
  | error e =>
    rw [begin_of_error h]
    rfl
  | ok clients =>
    rw [begin_of_ok h]
    split <;> rfl

/-- Every request of a run is one that the listing sends to a client of the buffer. -/
theorem sends_of_mem_requests (d : Dispatch) (events : List Event) :
    ∀ request ∈ (d.run events).requests, d.Sends request := by
  induction events using List.reverseRecOn with
  | nil =>
    intro request hrequest
    rw [run, List.foldl_nil, begin_requests] at hrequest
    exact absurd hrequest List.not_mem_nil
  | append_singleton events e ih =>
    rw [run_append_singleton]
    exact sends_of_mem_step (d.run_clients events) ih e

end Dispatch

end CodeListing
