import CodeListing.Listing.References
import CodeListing.Proofs.Dispatch.Requests
import CodeListing.Proofs.Editor.Boundary

/-!
# One cursor for all clients

Clients may count the characters of a line in different units, so a dispatch of references writes the
column of the cursor anew for each of them. Read back in the units of its own client, each of these
columns is the same place: the last boundary of the line that is not beyond the byte column of the
cursor (`Dispatch.launch_asks_about_one_cursor`).
-/

namespace CodeListing

/-- The parameters of a request for the references to what stands at a position of a document. -/
def Listing.cursorParameters (uri : Uri) (line character : UInt32) (includeDeclaration : Bool) :
    Json :=
  .obj [("textDocument", .obj [("uri", .str uri.text)]),
    ("position", .obj [("line", .ofNat line.toNat), ("character", .ofNat character.toNat)]),
    ("context", .obj [("includeDeclaration", .bool includeDeclaration)])]

/-- What an editor tells about the cursor in a buffer: the buffer has this URI, and the cursor stands
at this byte column of a line with this text. -/
structure Editor.ShowsCursor (editor : Editor) (origin : Origin) (uri : Uri) (line : UInt32)
    (byteColumn : Nat) (text : String) : Prop where
  uri : ∃ path, editor.bufferPath origin.bufnr = .ok path ∧ path.toUri = .ok uri
  cursor : editor.cursor origin.winid = .ok (line, byteColumn)
  text : editor.line origin.bufnr line = .ok text

variable {around : Surroundings} {origin : Origin} {config : ReferenceConfig}
  {settings : Settings} {uri : Uri} {line : UInt32} {byteColumn : Nat} {text : String}

theorem Editor.ShowsCursor.cursorPosition {editor : Editor}
    (h : editor.ShowsCursor origin uri line byteColumn text) (e : OffsetEncoding) :
    editor.cursorPosition origin.bufnr origin.winid e =
      .ok (uri, { line, character := e.column text byteColumn }) := by
  obtain ⟨path, hpath, huri⟩ := h.uri
  have hdocument : editor.documentUri origin.bufnr = .ok uri := by
    rw [documentUri, hpath]
    exact huri
  rw [Editor.cursorPosition, hdocument, h.cursor]
  show (editor.line origin.bufnr line >>= _) = _
  rw [h.text]
  rfl

/-- For every client there are parameters, and only the column depends on it. -/
theorem Listing.references_parameters
    (h : around.editor.ShowsCursor origin uri line byteColumn text) (client : Client) :
    (references config settings).parameters around client origin =
      .ok (cursorParameters uri line (client.offsetEncoding.column text byteColumn)
        config.includeDeclaration) := by
  show (around.editor.cursorPosition origin.bufnr origin.winid client.offsetEncoding >>= _) = _
  rw [h.cursorPosition]
  rfl

namespace Dispatch

variable {d : Dispatch}

/-- For every dispatch of references that knows of a cursor there is one boundary, the last of the
line that is not beyond the cursor, such that every client has parameters that name the document and
the line of the cursor, and a column that reaches this boundary in the units of the client, and no
other. Under every schedule these are the parameters of any request to the client. -/
theorem launch_asks_about_one_cursor (listing : d.listing = .references config settings)
    (cursor : d.around.editor.ShowsCursor d.origin uri line byteColumn text)
    (short : text.utf8ByteSize < UInt32.size) :
    ∃ boundary, IsLastBoundary text.toList byteColumn boundary ∧
      ∀ client : Client, ∃ character : UInt32,
        d.listing.parameters d.around client d.origin =
          .ok (Listing.cursorParameters uri line character config.includeDeclaration) ∧
        (∀ before, client.offsetEncoding.Reaches text.toList character.toNat before ↔
          before = boundary) ∧
        ∀ (events : List Event) (r : Run), d.launch events = .ok r →
          ∀ request ∈ r.requests, request.client = client →
            request.params =
              Listing.cursorParameters uri line character config.includeDeclaration := by
  refine ⟨_, wholePart_isLastBoundary byteColumn text.toList, ?_⟩
  intro client
  have hbuilt : d.listing.parameters d.around client d.origin =
      .ok (Listing.cursorParameters uri line (client.offsetEncoding.column text byteColumn)
        config.includeDeclaration) := by
    rw [listing]
    exact Listing.references_parameters cursor client
  refine ⟨_, hbuilt, OffsetEncoding.reaches_column_iff short client.offsetEncoding byteColumn, ?_⟩
  rintro events r launched request hrequest rfl
  obtain rfl := run_of_launch launched
  -- whatever was sent to the client was built for it, and there is one thing to build
  have hsent := (d.sends_of_mem_requests events request hrequest).params
  exact Except.ok.inj (hsent.symm.trans hbuilt)

/-- Three clients that count in different units, and a cursor inside the second character of a
line. -/
def threeUnits : Dispatch where
  listing := .references {} {}
  around :=
    { editor :=
        { bufferPath := fun _ => .ok (Path.ofText "/line")
          cursor := fun _ => .ok (3, 5)
          line := fun _ _ => .ok "😀é" }
      files := Files.ofDisk fun _ => .missing
      accepts := .all }
  origin := { bufnr := 1, winid := 1, cwd := Path.ofText "/" }
  resolve _ _ := .ok [{ id := 1, name := "bytes", offsetEncoding := .utf8 },
    { id := 2, name := "words", offsetEncoding := .utf16 },
    { id := 3, name := "scalars", offsetEncoding := .utf32 }]

def threeUnitsUri : Uri := { text := "file:///line" }

theorem threeUnits_showsCursor :
    threeUnits.around.editor.ShowsCursor threeUnits.origin threeUnitsUri 3 5 "😀é" where
  uri := ⟨Path.ofText "/line", rfl, by decide⟩
  cursor := rfl
  text := rfl

theorem launch_asks_about_one_cursor_threeUnits :
    (∃ r, threeUnits.launch [.start 0, .start 1, .start 2] = .ok r ∧
      r.requests.map (·.params) =
        [Listing.cursorParameters threeUnitsUri 3 4 true,
          Listing.cursorParameters threeUnitsUri 3 2 true,
          Listing.cursorParameters threeUnitsUri 3 1 true]) ∧
    "😀é".utf8ByteSize < UInt32.size ∧
    ∃ boundary, IsLastBoundary "😀é".toList 5 boundary ∧
      ∀ client : Client, ∃ character : UInt32,
        threeUnits.listing.parameters threeUnits.around client threeUnits.origin =
          .ok (Listing.cursorParameters threeUnitsUri 3 character true) ∧
        (∀ before, client.offsetEncoding.Reaches "😀é".toList character.toNat before ↔
          before = boundary) ∧
        ∀ (events : List Event) (r : Run), threeUnits.launch events = .ok r →
          ∀ request ∈ r.requests, request.client = client →
            request.params = Listing.cursorParameters threeUnitsUri 3 character true :=
  ⟨⟨_, rfl, rfl⟩, by decide,
    launch_asks_about_one_cursor (d := threeUnits) rfl threeUnits_showsCursor (by decide)⟩

end Dispatch

end CodeListing
