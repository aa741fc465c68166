import CodeListing.Config.Basic
import CodeListing.Listing.Basic
import CodeListing.Record.Order
import CodeListing.References.Records
import CodeListing.Symbol.Response

/-!
# The references to a symbol

The places that refer to the symbol under the cursor. All records are made and sorted, and then
those that are not shown are left out.
-/

namespace CodeListing

/-- How the references of a configuration are laid out, seen from a directory. -/
def ReferenceConfig.layout (config : ReferenceConfig) (directory : Path) : ReferenceLayout where
  showLines := config.showLines
  placeWidth := config.placeWidth.toNat
  directory

/-- The batch made from a response: the records sorted, then those that are shown. -/
def References.batchOf (layout : ReferenceLayout) (around : Surroundings)
    (context : RequestContext) (response : Json) : Traced (Except Fault Batch) :=
  let made := Location.records around.files context layout (Location.ofResponse response)
  { accesses := made.accesses
    result := do
      let records ← made.result
      Fault.ofCrash (around.accepts.keep (Record.sort records)) }

/-- The references to the symbol under the cursor. -/
def Listing.references (config : ReferenceConfig) (settings : Settings) : Listing where
  method := .references
  tag := "source-lsp_references"
  clientName := settings.requiredName config.clientName
  parameters around client origin := do
    let (uri, position) ←
      around.editor.cursorPosition origin.bufnr origin.winid client.offsetEncoding
    return .obj (positionEntries uri position ++
      [("context", .obj [("includeDeclaration", .bool config.includeDeclaration)])])
  batchOf around context origin response :=
    References.batchOf (config.layout origin.cwd) around context response

end CodeListing
