import CodeListing.Request
import CodeListing.Symbol.Basic

/-!
# Records

A record is one line of a listing, ready for display: its text, its place in the tree of symbols,
where selecting it goes, and the value it was made from.
-/

namespace CodeListing

/-- Where selecting a record goes. -/
inductive Target where
  /-- A range in the buffer that the listing was asked for in. -/
  | buffer (bufnr : UInt32) (range : Range)
  /-- A range in a file. -/
  | file (path : Path) (range : Range)
  deriving Repr, DecidableEq

def Target.range : Target → Range
  | .buffer _ range => range
  | .file _ range => range

/-- What selecting a record does, and on whose answer. -/
structure Action where
  target : Target
  context : RequestContext
  deriving Repr, DecidableEq

/-- The value that a record was made from. -/
inductive Subject where
  | symbol (symbol : Symbol)
  | location (location : Location)

/-- One line of a listing. -/
structure Record where
  /-- The text that is shown. -/
  word : String
  /-- How many ancestors the record has. -/
  level : Nat
  /-- The names of the ancestors, outermost first. -/
  treePath : List String
  isTree : Bool
  isExpanded : Bool
  action : Action
  /-- The line that the record points to, if it is shown. -/
  lineText : Option String
  subject : Subject

/-- The range that selecting a record goes to. -/
def Record.range (r : Record) : Range := r.action.target.range

/-- The request that a record answers. -/
def Record.context (r : Record) : RequestContext := r.action.context

end CodeListing
