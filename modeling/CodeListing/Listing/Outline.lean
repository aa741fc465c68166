import CodeListing.Config.Basic
import CodeListing.Listing.Basic
import CodeListing.Outline.Records
import CodeListing.Record.Order
import CodeListing.Symbol.Response

/-!
# The symbols of a buffer

The outline of the buffer that the listing is asked for in. Records that are not shown are left out
while the symbols are walked through, and what is left is sorted.
-/

namespace CodeListing

/-- How the outline of a configuration is laid out. -/
def OutlineConfig.layout (config : OutlineConfig) : OutlineLayout where
  showContainers := config.showContainers
  nameWidth := config.nameWidth.toNat

/-- The batch made from a response: the records that are shown, then sorted. -/
def Outline.batchOf (layout : OutlineLayout) (accepts : Visibility) (context : RequestContext)
    (response : Json) : Except Crash Batch := do
  let shown ← Outline.ofSymbols context layout accepts .top (Symbol.ofResponse response)
  return Record.sort shown

/-- The symbols of a buffer. -/
def Listing.outline (config : OutlineConfig) (settings : Settings) : Listing where
  method := .documentSymbol
  tag := "source-lsp_documentSymbol"
  clientName := settings.requiredName config.clientName
  parameters around _ origin := do
    let uri ← around.editor.documentUri origin.bufnr
    return .obj [documentEntry uri]
  batchOf around context _ response :=
    ⟨[], Fault.ofCrash (Outline.batchOf config.layout around.accepts context response)⟩

end CodeListing
