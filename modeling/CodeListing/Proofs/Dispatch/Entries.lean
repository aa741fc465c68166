import CodeListing.Proofs.Dispatch.Cursor
import CodeListing.Proofs.References.Records

/-!
# One request for each entry

A client may stand more than once in the list that the resolver gives, and each of its entries has a
task of its own. So requests are counted by entries: those of a run belong to entries of the list,
no two of them to the same one, and where a dispatch succeeds for a consumer that stays there is one
for every entry (`Dispatch.launch_requests_once_per_entry`).

`Run.Sent` is the invariant. Its entries are those whose tasks have sent their requests, and a task
waits for an answer, or has ended with a batch, only if its entry is among them.
-/

namespace CodeListing

/-! ## What requests are about -/

/-- The parameters of a request about a document as a whole. -/
def Listing.documentParameters (uri : Uri) : Json :=
  .obj [("textDocument", .obj [("uri", .str uri.text)])]

/-- What an editor tells about the document in a buffer: it has this URI. -/
def Editor.ShowsDocument (editor : Editor) (origin : Origin) (uri : Uri) : Prop :=
  ∃ path, editor.bufferPath origin.bufnr = .ok path ∧ path.toUri = .ok uri

theorem Editor.documentUri_eq_ok_iff {editor : Editor} {origin : Origin} {uri : Uri} :
    editor.documentUri origin.bufnr = .ok uri ↔ editor.ShowsDocument origin uri := bind_eq_ok_iff

theorem Editor.cursorPosition_eq_ok_iff {editor : Editor} {origin : Origin} {e : OffsetEncoding}
    {uri : Uri} {position : Position} :
    editor.cursorPosition origin.bufnr origin.winid e = .ok (uri, position) ↔
      ∃ byteColumn text, editor.ShowsCursor origin uri position.line byteColumn text ∧
        position.character = e.column text byteColumn := by
  constructor
  · intro h
    obtain ⟨uri', huri, h⟩ := bind_eq_ok_iff.mp h
    obtain ⟨⟨line, byteColumn⟩, hcursor, h⟩ := bind_eq_ok_iff.mp h
    obtain ⟨text, htext, h⟩ := bind_eq_ok_iff.mp h
    cases h
    exact ⟨byteColumn, text, ⟨documentUri_eq_ok_iff.mp huri, hcursor, htext⟩, rfl⟩
  · rintro ⟨byteColumn, text, hcursor, hcharacter⟩
    rw [hcursor.cursorPosition, ← hcharacter]

/-- What the parameters of a request say: an outline names the document of the buffer, and references
name the cursor as well, in the units of the client that is asked. -/
structure Dispatch.Locates (d : Dispatch) (request : Request) : Prop where
  document : ∀ config settings, d.listing = .outline config settings →
    ∃ uri, d.around.editor.ShowsDocument d.origin uri ∧
      request.params = Listing.documentParameters uri
  cursor : ∀ config settings, d.listing = .references config settings →
    ∃ uri line byteColumn text, d.around.editor.ShowsCursor d.origin uri line byteColumn text ∧
      request.params = Listing.cursorParameters uri line
        (request.client.offsetEncoding.column text byteColumn) config.includeDeclaration

theorem Dispatch.Sends.locates {d : Dispatch} {request : Request} (h : d.Sends request) :
    d.Locates request := by
  have hparams := h.params
  constructor
  · intro config settings hlisting
    rw [hlisting] at hparams
    obtain ⟨uri, huri, hparams⟩ := bind_eq_ok_iff.mp hparams
    exact ⟨uri, Editor.documentUri_eq_ok_iff.mp huri, (Except.ok.inj hparams).symm⟩
  · intro config settings hlisting
    rw [hlisting] at hparams
    obtain ⟨⟨uri, position⟩, hposition, -⟩ := bind_eq_ok_iff.mp hparams
    obtain ⟨byteColumn, text, hcursor, -⟩ := Editor.cursorPosition_eq_ok_iff.mp hposition
    rw [Listing.references_parameters hcursor] at hparams
    exact ⟨uri, position.line, byteColumn, text, hcursor, (Except.ok.inj hparams).symm⟩

/-! ## The invariant -/

namespace Run

variable {d : Dispatch} {r r' : Run} {entries : List Nat}

/-- The entries whose tasks have sent their requests, in the order of the requests. -/
structure Sent (entries : List Nat) (r : Run) : Prop where
  nodup : entries.Nodup
  clients : List.Forall₂ (fun entry request => r.clients[entry]? = some request.client)
    entries r.requests
  moved : ∀ entry ∈ entries, r.stages[entry]? ≠ some .ready
  asked : ∀ entry, r.stages[entry]? = some .asked → entry ∈ entries
  batches : ∀ entry batch, ⟨entry, .ok batch⟩ ∈ r.finished → entry ∈ entries

theorem Sent.of_sameTasks (hr : Sent entries r) (h : SameTasks r' r)
    (hrequests : r'.requests = r.requests) : Sent entries r' := by
  obtain ⟨nodup, clients, moved, asked, batches⟩ := hr
  rw [← h.clients, ← hrequests] at clients
  rw [← h.stages] at moved asked
  rw [← h.finished] at batches
  exact ⟨nodup, clients, moved, asked, batches⟩

/-- A task that ends with a batch has sent its request; one that fails need not have. -/
theorem Sent.finish (hr : Sent entries r) (entry : Nat) {result : Except DispatchError Batch}
    (h : ∀ batch, result = .ok batch → entry ∈ entries) : Sent entries (r.finish entry result) := by
  refine ⟨hr.nodup, hr.clients, ?moved, ?asked, ?batches⟩
  case moved =>
    intro other hother
    show (r.stages.set entry .ended)[other]? ≠ _
    rw [List.getElem?_set]
    split
    · split <;> simp
    · exact hr.moved other hother
  case asked =>
    intro other hother
    change (r.stages.set entry .ended)[other]? = _ at hother
    rw [List.getElem?_set] at hother
    split at hother
    · split at hother <;> cases hother
    · exact hr.asked other hother
  case batches =>
    intro other batch hmem
    rcases List.mem_append.mp hmem with hold | hnew
    · exact hr.batches other batch hold
    · obtain ⟨rfl, hresult⟩ := Finish.mk.inj (List.mem_singleton.mp hnew)
      exact h batch hresult.symm

/-- A task that sends its request has not sent any, so its entry is a new one. -/
theorem Sent.start (hr : Sent entries r) (d : Dispatch) (entry : Nat) :
    ∃ entries', Sent entries' (r.start d entry) := by
  unfold Run.start
  split
  next client hclient hready =>
    split
    next e => exact ⟨entries, hr.finish entry fun _ h => by cases h⟩
    next params _ =>
      have hnew : entry ∉ entries := fun h => hr.moved entry h hready
      have hlt : entry < r.stages.length := (List.getElem?_eq_some_iff.mp hready).1
      have hstage : ∀ other, (r.stages.set entry .asked)[other]? =
          if entry = other then some .asked else r.stages[other]? := by
        intro other
        rw [List.getElem?_set, if_pos hlt]
      refine ⟨entries ++ [entry], ?nodup, ?clients, ?moved, ?asked, ?batches⟩
      case nodup => exact List.nodup_append.mpr ⟨hr.nodup, List.nodup_singleton _, by grind⟩
      case clients => exact List.rel_append hr.clients (.cons hclient .nil)
      case moved =>
        intro other hother
        show (r.stages.set entry .asked)[other]? ≠ _
        rw [hstage]
        split
        · simp
        next hne =>
          apply hr.moved
          simpa [Ne.symm hne] using hother
      case asked =>
        intro other hother
        change (r.stages.set entry .asked)[other]? = _ at hother
        rw [hstage] at hother
        split at hother
        next heq => simp [heq]
        next => exact List.mem_append_left _ (hr.asked other hother)
      case batches =>
        intro other batch hmem
        exact List.mem_append_left _ (hr.batches other batch hmem)
  next => exact ⟨entries, hr⟩

theorem Sent.reply (hr : Sent entries r) (d : Dispatch) (entry : Nat)
    (answer : Except ServiceError Json) : Sent entries (r.reply d entry answer) := by
  unfold Run.reply
  split
  next client _ hasked =>
    split
    next e => exact hr.finish entry fun _ h => by cases h
    next response =>
      -- the questions about files that are noted with the batch are none of the invariant's business
      refine Sent.finish ?_ entry fun _ _ => hr.asked entry hasked
      exact hr.of_sameTasks ⟨rfl, rfl, rfl⟩ rfl
  next => exact hr

theorem Sent.crash (hr : Sent entries r) (entry : Nat) : Sent entries (r.crash entry) := by
  unfold Run.crash
  split
  · exact hr.finish entry fun _ h => by cases h
  · exact hr.finish entry fun _ h => by cases h
  · exact hr

theorem Sent.step (hr : Sent entries r) (d : Dispatch) (e : Event) :
    ∃ entries', Sent entries' (r.step d e) := by
  refine step_cases (motive := fun _ r' => ∃ entries', Sent entries' r') d r
    ?start ?reply ?crash ?forward ?receive ?close ?ended e
  case start => exact fun entry => hr.start d entry
  case reply => exact fun entry answer => ⟨entries, hr.reply d entry answer⟩
  case crash => exact fun entry => ⟨entries, hr.crash entry⟩
  case forward =>
    have hrequests : (r.forward d).requests = r.requests :=
      forward_frame (fun _ _ _ _ _ _ _ => rfl) d r
    exact ⟨entries, hr.of_sameTasks (forward_sameTasks d r) hrequests⟩
  case receive => exact ⟨entries, hr.of_sameTasks ⟨rfl, rfl, rfl⟩ rfl⟩
  case close => exact ⟨entries, hr.of_sameTasks ⟨rfl, rfl, rfl⟩ rfl⟩
  case ended => exact fun _ => ⟨entries, hr⟩

/-- Only entries of the list of clients have sent a request. -/
theorem Sent.subset_range (hr : Sent entries r) : entries ⊆ List.range r.clients.length := by
  intro entry hentry
  obtain ⟨i, hi, rfl⟩ := List.getElem_of_mem hentry
  have hclient := hr.clients.get hi (hr.clients.length_eq ▸ hi)
  exact List.mem_range.mpr (List.getElem?_eq_some_iff.mp hclient).1

end Run

/-! ## Dispatches -/

namespace Dispatch

open Finish Run

variable {d : Dispatch} {events : List Event} {entries : List Nat}

theorem opening_sent (d : Dispatch) (clients : List Client) : Sent [] (d.opening clients) where
  nodup := List.nodup_nil
  clients := .nil
  moved _ h := absurd h List.not_mem_nil
  asked entry h := by simp [opening, List.getElem?_replicate] at h
  batches _ _ h := absurd h List.not_mem_nil

theorem exists_sent (d : Dispatch) (events : List Event) :
    ∃ entries, Sent entries (d.run events) := by
  refine List.foldlRecOn (motive := fun r => ∃ entries, Sent entries r) events (Run.step d) ?_
    fun r hr e _ => ?_
  · refine ⟨[], (d.opening_sent d.asked).of_sameTasks d.begin_sameTasks ?_⟩
    exact d.begin_requests
  · obtain ⟨entries, hr⟩ := hr
    exact hr.step d e

/-- For every dispatch that is launched and every schedule, whatever comes of the tasks and whether
the consumer stays or not: the requests belong to different entries of the list of clients, each to
the client of its entry, and where the dispatch succeeds for a consumer that stays every entry has
one. Each is what the listing asks this client, and no client is asked whose parameters cannot be
built, nor any if the clients cannot be resolved or if there are none. -/
theorem launch_requests_once_per_entry (d : Dispatch) (events : List Event) {r : Run}
    (launched : d.launch events = .ok r) :
    (∃ entries : List Nat, entries.Nodup ∧
      List.Forall₂ (fun entry request => d.asked[entry]? = some request.client)
        entries r.requests ∧
      (.close ∉ events → ∀ tally, r.outcome = some (.ok tally) →
        entries.Perm (List.range d.asked.length))) ∧
    (∀ request ∈ r.requests, d.Sends request ∧ d.Locates request) ∧
    (∀ client e, d.listing.parameters d.around client d.origin = .error e →
      ∀ request ∈ r.requests, request.client ≠ client) ∧
    (∀ e, d.resolve d.origin.bufnr d.listing.clientName = .error e → r.requests = []) ∧
    (d.resolve d.origin.bufnr d.listing.clientName = .ok [] → r.requests = []) := by
  obtain rfl := run_of_launch launched
  have hsends := d.sends_of_mem_requests events
  have hnone : d.asked = [] → (d.run events).requests = [] := by
    intro h
    refine List.eq_nil_iff_forall_not_mem.mpr fun request hrequest => ?_
    have hclient := (hsends request hrequest).client
    rw [h] at hclient
    exact List.not_mem_nil hclient
  refine ⟨?once, fun request h => ⟨hsends request h, (hsends request h).locates⟩, ?unbuilt, ?failed,
    ?empty⟩
  case once =>
    obtain ⟨entries, hsent⟩ := d.exists_sent events
    have hclients := hsent.clients
    have hrange := hsent.subset_range
    rw [d.run_clients] at hclients hrange
    refine ⟨entries, hsent.nodup, hclients, fun stays tally succeeded => ?_⟩
    obtain ⟨all, fine⟩ := finished_of_succeeded stays succeeded
    exact perm_range_of_batches (hsent.nodup.subperm hrange) hsent.batches all fine
  case unbuilt =>
    rintro client e hparams request hrequest rfl
    rw [(hsends request hrequest).params] at hparams
    cases hparams
  case failed =>
    intro e h
    exact hnone (by simp [asked, h])
  case empty =>
    intro h
    exact hnone (by simp [asked, h])

/-- One client that stands in the list twice is asked for the outline of a file. -/
def listedTwice : Dispatch :=
  { pair 16 with
    resolve := fun _ _ => .ok [{ id := 1, name := "fast" }, { id := 1, name := "fast" }] }

/-- One of the tasks is started twice, and the tasks are answered in the other order. -/
def answeredTwice : List Event :=
  [.start 0, .start 0, .start 1, .reply 1 (.ok .null), .reply 0 (.ok .null), .forward, .receive,
    .forward, .receive, .forward]

theorem launch_requests_once_per_entry_listedTwice :
    ∃ r tally, listedTwice.launch answeredTwice = .ok r ∧ r.outcome = some (.ok tally) ∧
      .close ∉ answeredTwice ∧
      r.requests.map (·.params) =
        [Listing.documentParameters { text := "file:///a" },
          Listing.documentParameters { text := "file:///a" }] ∧
      (∃ entries : List Nat, entries.Nodup ∧
        List.Forall₂ (fun entry request => listedTwice.asked[entry]? = some request.client)
          entries r.requests ∧
        entries.Perm (List.range 2)) ∧
      ∀ request ∈ r.requests, listedTwice.Sends request ∧ listedTwice.Locates request := by
  have stays : .close ∉ answeredTwice := by simp [answeredTwice]
  obtain ⟨tally, succeeded⟩ :
      ∃ tally, (listedTwice.run answeredTwice).outcome = some (.ok tally) := ⟨_, rfl⟩
  obtain ⟨⟨entries, hnodup, hclients, hall⟩, hsends, -⟩ :=
    launch_requests_once_per_entry listedTwice answeredTwice rfl
  exact ⟨_, tally, rfl, succeeded, stays, rfl,
    ⟨entries, hnodup, hclients, hall stays tally succeeded⟩, hsends⟩

end Dispatch

end CodeListing
