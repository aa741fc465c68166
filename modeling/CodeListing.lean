import CodeListing.Dispatch.Timeline
import CodeListing.Json.Reader
import CodeListing.Json.Writer
import CodeListing.Listing.Outline
import CodeListing.Listing.References
import CodeListing.Log
import CodeListing.Record.Json
import CodeListing.Proofs.Dispatch.Cursor
import CodeListing.Proofs.Dispatch.Progress
import CodeListing.Proofs.Dispatch.Reads
import CodeListing.Proofs.Dispatch.Requests
import CodeListing.Proofs.Dispatch.Tally
import CodeListing.Proofs.Editor.Boundary
import CodeListing.Proofs.Listing.Display
import CodeListing.Proofs.Listing.Order
import CodeListing.Proofs.Listing.Overflow
import CodeListing.Proofs.Outline.Preorder
import CodeListing.Proofs.Path.Steps
import CodeListing.Proofs.Record.RoundTrip
import CodeListing.Proofs.References.Enrichment
import CodeListing.Proofs.Symbol.Locality
import CodeListing.Proofs.Symbol.RoundTrip
import CodeListing.Proofs.Uri.Escape
import CodeListing.Proofs.Uri.FileUri
import CodeListing.Proofs.Uri.RoundTrip
import CodeListing.Proofs.Uri.Spelling
import CodeListing.Proofs.Dispatch.Entries
import CodeListing.Proofs.Listing.Columns
import CodeListing.Proofs.Listing.Ancestors
import CodeListing.Proofs.Outline.Container
import CodeListing.Proofs.Listing.Arrival
import CodeListing.Proofs.Editor.Column
import CodeListing.Proofs.Config.Overlay
import CodeListing.Proofs.References.Label
import CodeListing.Proofs.References.Foreign
import CodeListing.Proofs.Symbol.Extension
import CodeListing.Proofs.Text.Lines
