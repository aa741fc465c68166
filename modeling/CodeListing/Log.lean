import CodeListing.Failure.Dispatch
import CodeListing.Path.Basic

/-!
# Logs

Each component logs to a file of its own for each day; a slash in the name of a component makes a
directory of what stands before it. A failed dispatch is logged as an error with the tag of its
listing.
-/

namespace CodeListing

/-- An entry of a log. -/
structure LogEvent where
  level : String
  message : String
  source : String
  deriving Repr, DecidableEq

/-- The entry for a failed dispatch. -/
def DispatchError.logEvent (e : DispatchError) (source : String) : LogEvent where
  level := "ERROR"
  message := e.message
  source

/-- The name of the log file of a component for a day. -/
def logFileName (component day : String) : String :=
  if component = "" then day else component ++ "." ++ day

/-- The names that come to stand in a directory when a path is followed from it and what is missing
is made. `depth` tells how many directories below it the path has come. A path that leaves the
directory makes no more names in it. -/
def Path.Component.namesMade : Nat → List Path.Component → List Path.Segment
  | 0, .normal name :: rest => name :: namesMade 1 rest
  | depth + 1, .normal _ :: rest => namesMade (depth + 2) rest
  | depth + 1, .parent :: rest => namesMade depth rest
  | depth, .current :: rest => namesMade depth rest
  | _, _ => []

/-- What the log of a component for a day adds to the log directory. -/
def logEntries (component day : String) : List Path.Segment :=
  (Path.Component.namesMade 0 (Path.ofText (logFileName component day)).components).eraseDups

end CodeListing
