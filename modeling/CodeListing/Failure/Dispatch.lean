import CodeListing.Config.Reading
import CodeListing.Failure.Service

/-!
# Failures of dispatches

A dispatch fails because a service failed, because a configuration did not read, or because the task
of a client crashed. The wording of a crash names no cause.
-/

namespace CodeListing

/-- Why a dispatch failed. -/
inductive DispatchError where
  | service (error : ServiceError)
  | unreadable (error : ReadError)
  /-- The task of a client crashed. -/
  | taskCrashed (cause : Crash)
  | internal (text : String)

namespace DispatchError

/-- How the failure is worded. -/
def message : DispatchError → String
  | .service error => error.message
  | .unreadable error => s!"JSON serialization/deserialization error: {error.message}"
  | .taskCrashed _ => "Client task failed"
  | .internal text => s!"Internal error: {text}"

/-- What the fault of the task of one client means for the dispatch. -/
def ofFault : Fault → DispatchError
  | .service error => .service error
  | .crash cause => .taskCrashed cause

end DispatchError

end CodeListing
