import CodeListing.Editor.Cursor
import CodeListing.Editor.Files
import CodeListing.Record.Visibility

/-!
# Listings

A listing is one kind of question that all clients of a buffer are asked: what is sent to a client,
and how its answer becomes a batch of records in their final order.
-/

namespace CodeListing

/-- The records made from the answer of one client. -/
abbrev Batch := List Record

/-- What a listing consults besides the answer. -/
structure Surroundings where
  editor : Editor
  files : Files
  accepts : Visibility

/-- One kind of question. -/
structure Listing where
  method : Method
  /-- The tag under which a failure is reported. -/
  tag : String
  /-- The name that clients must have, if any. -/
  clientName : Option String
  /-- The parameters of the request to one client. -/
  parameters : Surroundings → Client → Origin → Except ServiceError Json
  /-- The batch made from the answer of one client. -/
  batchOf : Surroundings → RequestContext → Origin → Json → Traced (Except Fault Batch)

end CodeListing
