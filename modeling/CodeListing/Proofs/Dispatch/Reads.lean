import CodeListing.Proofs.Dispatch.Answers
import CodeListing.Proofs.Listing.Order
import CodeListing.Proofs.References.Reads

/-!
# Which files a dispatch reads

Lines are read for each answer on its own, so two clients that know of places in one file have it
read twice. This module adds up what the tasks of a dispatch read: a file is read at most as often
as there are clients with a place in it, and just as often where all of them are heard
(`Dispatch.launch_reads_once_per_client`). Within one answer nothing is read twice.

`Run.Heard` carries the sum along a run. It lists the entries whose answers were made into batches,
or would have been but for a fault, in the order in which that happened.
-/

namespace CodeListing

/-- Adding up over entries what is bounded by the entries that count. -/
theorem Access.readsOf_flatMap_le {path : Path} {f : Nat → List Access} {p : Nat → Bool}
    (h : ∀ entry, readsOf path (f entry) ≤ if p entry then 1 else 0) (entries : List Nat) :
    readsOf path (entries.flatMap f) ≤ entries.countP p := by
  induction entries with
  | nil => exact Nat.le_refl 0
  | cons entry entries ih =>
    have hentry := h entry
    simp only [readsOf, List.flatMap_cons, List.filterMap_append, List.countP_append,
      List.countP_cons] at ih hentry ⊢
    omega

theorem Access.readsOf_flatMap {path : Path} {f : Nat → List Access} {p : Nat → Bool}
    {entries : List Nat}
    (h : ∀ entry ∈ entries, readsOf path (f entry) = if p entry then 1 else 0) :
    readsOf path (entries.flatMap f) = entries.countP p := by
  induction entries with
  | nil => rfl
  | cons entry entries ih =>
    obtain ⟨hentry, hentries⟩ := List.forall_mem_cons.mp h
    have ih := ih hentries
    simp only [readsOf, List.flatMap_cons, List.filterMap_append, List.countP_append,
      List.countP_cons] at ih hentry ⊢
    omega

/-! ## What a move asks about files -/

namespace Dispatch

/-- What is asked about files when the answer for an entry is made into a batch. -/
def accessesFor (d : Dispatch) (answers : Nat → Except ServiceError Json) (entry : Nat) :
    List Access :=
  match d.asked[entry]?, answers entry with
  | some client, .ok response =>
    (d.listing.batchOf d.around (Run.contextOf d client) d.origin response).accesses
  | _, _ => []

end Dispatch

namespace Run

variable {d : Dispatch} {e : Event} {r r' : Run}

/-- What a move asks about files: nothing, and then it ends no task with a batch, or what is asked
to make a batch of an answer. -/
inductive AccessMove (d : Dispatch) (e : Event) (r r' : Run) : Prop where
  | nothing (accesses : r'.accesses = r.accesses)
      (finished : r.finished <+: r'.finished)
      (batches : ∀ entry batch,
        ⟨entry, .ok batch⟩ ∈ r'.finished → ⟨entry, .ok batch⟩ ∈ r.finished)
  | answered (entry : Nat) (client : Client) (response : Json)
      (result : Except DispatchError Batch) (reply : e = .reply entry (.ok response))
      (client_eq : r.clients[entry]? = some client)
      (accesses : r'.accesses = r.accesses ++
        (d.listing.batchOf d.around (contextOf d client) d.origin response).accesses)
      (finished : r'.finished = r.finished ++ [⟨entry, result⟩])

theorem AccessMove.of_same (accesses : r'.accesses = r.accesses)
    (finished : r'.finished = r.finished) : AccessMove d e r r' :=
  .nothing accesses (finished ▸ List.prefix_rfl) (finished ▸ fun _ _ h => h)

theorem finish_accessMove (entry : Nat) (error : DispatchError) :
    AccessMove d e r (r.finish entry (.error error)) := by
  refine .nothing rfl (List.prefix_append _ _) ?_
  intro entry' batch h
  simpa [finish] using h

theorem start_accessMove (d : Dispatch) (e : Event) (r : Run) (entry : Nat) :
    AccessMove d e r (r.start d entry) := by
  unfold start
  split
  · split
    · exact finish_accessMove entry _
    · exact .of_same rfl rfl
  · exact .of_same rfl rfl

theorem reply_accessMove (d : Dispatch) (r : Run) (entry : Nat)
    (answer : Except ServiceError Json) :
    AccessMove d (.reply entry answer) r (r.reply d entry answer) := by
  unfold reply
  split
  next client hclient _ =>
    split
    · exact finish_accessMove entry _
    next response => exact .answered entry client response _ rfl hclient rfl rfl
  next => exact .of_same rfl rfl

theorem crash_accessMove (d : Dispatch) (e : Event) (r : Run) (entry : Nat) :
    AccessMove d e r (r.crash entry) := by
  unfold crash
  split
  · exact finish_accessMove entry _
  · exact finish_accessMove entry _
  · exact .of_same rfl rfl

theorem step_accessMove (d : Dispatch) (r : Run) (e : Event) : AccessMove d e r (r.step d e) := by
  refine step_cases (motive := fun e r' => AccessMove d e r r') d r
    ?start ?reply ?crash ?forward ?receive ?close ?ended e
  case start => exact fun entry => start_accessMove d _ r entry
  case reply => exact fun entry answer => reply_accessMove d r entry answer
  case crash => exact fun entry => crash_accessMove d _ r entry
  case forward =>
    have haccesses : (r.forward d).accesses = r.accesses :=
      forward_frame (fun _ _ _ _ _ _ _ => rfl) d r
    exact .of_same haccesses (forward_sameTasks d r).finished
  case receive => exact .of_same rfl rfl
  case close => exact .of_same rfl rfl
  case ended => exact fun _ => .of_same rfl rfl

/-! ## What a run asks about files -/

/-- The entries whose answers were worked on, and what that asked about files. -/
structure Heard (d : Dispatch) (answers : Nat → Except ServiceError Json) (heard : List Nat)
    (r : Run) : Prop where
  entries : heard.Sublist (r.finished.map (·.entry))
  accesses : r.accesses = heard.flatMap (d.accessesFor answers)
  batches : ∀ entry batch, ⟨entry, .ok batch⟩ ∈ r.finished → entry ∈ heard

theorem Heard.step {answers : Nat → Except ServiceError Json} {heard : List Nat}
    (hr : Heard d answers heard r) (hclients : r.clients = d.asked)
    (answered : ∀ entry answer, e = .reply entry answer → answer = answers entry) :
    ∃ heard', Heard d answers heard' (r.step d e) := by
  cases step_accessMove d r e with
  | nothing accesses finished batches =>
    -- a task that ends without an answer ends with a failure, which is not heard
    refine ⟨heard, hr.entries.trans (finished.map (·.entry)).sublist, ?_, ?_⟩
    · rw [accesses, hr.accesses]
    · exact fun entry batch h => hr.batches entry batch (batches entry batch h)
  | answered entry client response result reply client_eq accesses finished =>
    have hfor : d.accessesFor answers entry =
        (d.listing.batchOf d.around (contextOf d client) d.origin response).accesses := by
      rw [Dispatch.accessesFor, ← hclients, client_eq, ← answered entry _ reply]
    refine ⟨heard ++ [entry], ?_, ?_, ?_⟩
    · rw [finished, List.map_append]
      exact hr.entries.append_right _
    · rw [accesses, hr.accesses, List.flatMap_append, List.flatMap_singleton, hfor]
    · intro entry' batch h
      rw [finished] at h
      rcases List.mem_append.mp h with h | h
      · exact List.mem_append_left _ (hr.batches entry' batch h)
      · have hentry : entry' = entry := congrArg Finish.entry (List.mem_singleton.mp h)
        exact List.mem_append_right _ (List.mem_singleton.mpr hentry)

end Run

/-! ## Dispatches -/

namespace Dispatch

open Finish Run

variable {d : Dispatch} {answers : Nat → Except ServiceError Json} {events : List Event}

/-- At any time there are entries whose answers make up all that was asked about files. -/
theorem exists_heard (answered : AnsweredBy answers events) :
    ∃ heard, Heard d answers heard (d.run events) := by
  induction events using List.reverseRecOn with
  | nil =>
    refine ⟨[], List.nil_sublist _, ?_, ?_⟩
    · cases h : d.resolve d.origin.bufnr d.listing.clientName with
      | error e => rw [run, List.foldl_nil, begin_of_error h]; rfl
      | ok clients => rw [run, List.foldl_nil, begin_of_ok h]; split <;> rfl
    · intro entry batch h
      rw [run, List.foldl_nil, d.begin_sameTasks.finished] at h
      exact absurd h List.not_mem_nil
  | append_singleton events e ih =>
    obtain ⟨hbefore, hlast⟩ := answeredBy_append.mp answered
    obtain ⟨heard, hheard⟩ := ih hbefore
    rw [run_append_singleton]
    exact hheard.step (d.run_clients events) (answeredBy_cons.mp hlast).1

/-! ## How often a file is read -/

section Totals

variable {config : ReferenceConfig} {settings : Settings} {heard : List Nat} {path : Path}

/-- Whether the answer for an entry is a response with a place in the file at a path. -/
def pointsTo (answers : Nat → Except ServiceError Json) (path : Path) (entry : Nat) : Bool :=
  match answers entry with
  | .ok response => Location.isIn path response
  | .error _ => false

/-- How many clients answer with a place in the file at a path. -/
def pointing (d : Dispatch) (answers : Nat → Except ServiceError Json) (path : Path) : Nat :=
  (List.range d.asked.length).countP (pointsTo answers path)

theorem readsOf_accessesFor_le (listing : d.listing = .references config settings)
    (lines : config.showLines = true) (entry : Nat) :
    Access.readsOf path (d.accessesFor answers entry) ≤
      if pointsTo answers path entry then 1 else 0 := by
  unfold accessesFor pointsTo
  split
  next client response _ hanswer =>
    rw [hanswer, listing]
    exact Listing.readsOf_references_le lines
  next => exact Nat.zero_le _

theorem readsOf_accessesFor (listing : d.listing = .references config settings)
    (lines : config.showLines = true) {entry : Nat} {client : Client} {response : Json}
    {batch : Batch} (asked : d.asked[entry]? = some client) (answer : answers entry = .ok response)
    (made : (d.listing.batchOf d.around (contextOf d client) d.origin response).result =
      .ok batch) :
    Access.readsOf path (d.accessesFor answers entry) =
      if pointsTo answers path entry then 1 else 0 := by
  simp only [accessesFor, pointsTo, asked, answer]
  rw [listing] at made ⊢
  exact Listing.readsOf_references lines made

/-- No more entries are heard than there are clients. -/
theorem heard_subperm (hheard : Heard d answers heard (d.run events)) :
    heard.Subperm (List.range d.asked.length) := by
  have hcoherent := d.run_coherent events
  have hsub : heard ⊆ List.range d.asked.length := by
    intro entry hentry
    rw [← d.run_clients events]
    exact hcoherent.entries_subset_range (hheard.entries.subset hentry)
  exact (hheard.entries.nodup hcoherent.nodup).subperm hsub

/-- Where every task has ended without a failure every entry is heard. -/
theorem heard_perm (hheard : Heard d answers heard (d.run events))
    (all : (d.run events).finished.length = d.asked.length)
    (fine : firstFailure? (d.run events).finished = none) :
    heard.Perm (List.range d.asked.length) :=
  perm_range_of_batches (heard_subperm hheard) hheard.batches all fine

end Totals

/-- For every dispatch of references that shows lines, every schedule and every path: of all that is
asked about files, the file at the path is read at most once for each client that answers with a
place in it, and just as often where the dispatch succeeds for a consumer that stays. -/
theorem launch_reads_once_per_client (d : Dispatch) {config : ReferenceConfig}
    {settings : Settings} (listing : d.listing = .references config settings)
    (lines : config.showLines = true) (answered : AnsweredBy answers events) {r : Run}
    (launched : d.launch events = .ok r) (path : Path) :
    Access.readsOf path r.accesses ≤ d.pointing answers path ∧
      (.close ∉ events → ∀ tally, r.outcome = some (.ok tally) →
        Access.readsOf path r.accesses = d.pointing answers path) := by
  obtain rfl := run_of_launch launched
  obtain ⟨heard, hheard⟩ := exists_heard (d := d) answered
  rw [hheard.accesses]
  refine ⟨?atMost, ?exactly⟩
  case atMost =>
    calc Access.readsOf path (heard.flatMap (d.accessesFor answers))
        ≤ heard.countP (pointsTo answers path) :=
          Access.readsOf_flatMap_le (readsOf_accessesFor_le listing lines) heard
      _ ≤ d.pointing answers path := (heard_subperm hheard).countP_le _
  case exactly =>
    intro stays tally succeeded
    obtain ⟨all, fine⟩ := finished_of_succeeded stays succeeded
    have hentry : ∀ entry ∈ heard, Access.readsOf path (d.accessesFor answers entry) =
        if pointsTo answers path entry then 1 else 0 := by
      intro entry hmem
      obtain ⟨⟨_, result⟩, hf, rfl⟩ := List.mem_map.mp (hheard.entries.subset hmem)
      obtain ⟨batch, rfl⟩ := exists_ok_of_firstFailure?_eq_none fine hf
      obtain ⟨client, response, hclient, hanswer, hbatch⟩ :=
        batchOf_of_mem_finishingOrder answered ((d.finished_isPrefix events).subset hf)
      exact readsOf_accessesFor listing lines hclient hanswer hbatch
    calc Access.readsOf path (heard.flatMap (d.accessesFor answers))
        = heard.countP (pointsTo answers path) := Access.readsOf_flatMap hentry
      _ = d.pointing answers path := (heard_perm hheard all fine).countP_eq _

/-- Two clients are asked for references, and lines are shown. -/
def readingPair : Dispatch := { pair 16 with listing := .references { showLines := true } {} }

/-- One place, at the start of the file `/a`. -/
def onePlace : Json := .arr [Listing.placeEntry "file:///a" 0 0]

/-- Both clients answer with the same place. -/
def bothAnswer : List Event :=
  [.start 0, .start 1, .reply 0 (.ok onePlace), .reply 1 (.ok onePlace)]

/-- Both batches are received. -/
def bothReceived : List Event := [.forward, .receive, .forward, .receive, .forward]

theorem bothAnswer_answered :
    AnsweredBy (fun _ => .ok onePlace) (bothAnswer ++ bothReceived) := by
  simp [bothAnswer, bothReceived, answeredBy_cons, answeredBy_nil]

theorem readingPair_batchOf (client : Client) :
    ∃ batch, (readingPair.listing.batchOf readingPair.around (contextOf readingPair client)
      readingPair.origin onePlace).result = .ok batch :=
  ⟨_, Listing.references_batchOf rfl fun _ => true⟩

theorem readingPair_succeeds :
    ∃ tally, (readingPair.run (bothAnswer ++ bothReceived)).outcome = some (.ok tally) := by
  obtain ⟨batch, hbatch⟩ := readingPair_batchOf { id := 1, name := "fast" }
  obtain ⟨batch', hbatch'⟩ := readingPair_batchOf { id := 2, name := "broken" }
  have hanswered : readingPair.run bothAnswer =
      { readingPair.run bothAnswer with
        finished :=
          [⟨0, (readingPair.listing.batchOf readingPair.around
              (contextOf readingPair { id := 1, name := "fast" }) readingPair.origin
              onePlace).result.mapError DispatchError.ofFault⟩,
            ⟨1, (readingPair.listing.batchOf readingPair.around
              (contextOf readingPair { id := 2, name := "broken" }) readingPair.origin
              onePlace).result.mapError DispatchError.ofFault⟩] } := rfl
  rw [run, List.foldl_append, ← run, hanswered, hbatch, hbatch']
  exact ⟨_, rfl⟩

theorem launch_reads_once_per_client_pair :
    AnsweredBy (fun _ => .ok onePlace) (bothAnswer ++ bothReceived) ∧
    .close ∉ bothAnswer ++ bothReceived ∧
    ∃ r tally, readingPair.launch (bothAnswer ++ bothReceived) = .ok r ∧
      r.outcome = some (.ok tally) ∧
      Access.readsOf (.ofText "/a") r.accesses =
        readingPair.pointing (fun _ => .ok onePlace) (.ofText "/a") ∧
      readingPair.pointing (fun _ => .ok onePlace) (.ofText "/a") = 2 := by
  have stays : .close ∉ bothAnswer ++ bothReceived := by simp [bothAnswer, bothReceived]
  obtain ⟨tally, succeeded⟩ := readingPair_succeeds
  refine ⟨bothAnswer_answered, stays, _, tally, rfl, succeeded, ?_, rfl⟩
  obtain ⟨-, hexactly⟩ :=
    launch_reads_once_per_client readingPair rfl rfl bothAnswer_answered rfl (.ofText "/a")
  exact hexactly stays tally succeeded

/-- Where two clients answer with a place in one file it is read twice. -/
theorem not_launch_reads_once_of_two_clients :
    ¬ ∀ (d : Dispatch) (config : ReferenceConfig) (settings : Settings) (events : List Event)
      (r : Run) (path : Path), d.listing = .references config settings →
      config.showLines = true → d.launch events = .ok r → Access.readsOf path r.accesses ≤ 1 := by
  intro h
  have hreads := h readingPair { showLines := true } {} bothAnswer _ (.ofText "/a") rfl rfl rfl
  exact absurd hreads (by decide)

end Dispatch

end CodeListing
