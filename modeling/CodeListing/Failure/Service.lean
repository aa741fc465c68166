import CodeListing.Failure.Crash

/-!
# Failures of services

The work of a listing relies on services around it: the transport to the servers, the servers
themselves, the editor, and the file system. `ServiceError` is what a service, or the library on a
bad argument, answers when it cannot do what it is asked. `Fault` is why a piece of work has no
result at all: a service failed, or the work crashed.
-/

namespace CodeListing

/-- Why a service failed. -/
inductive ServiceError where
  | transport (text : String)
  | protocol (code : Int64) (text : String)
  | editor (text : String)
  | io (text : String)
  | invalidArgument (text : String)
  | notFound (text : String)
  deriving Repr, DecidableEq

/-- How a failure is worded. -/
def ServiceError.message : ServiceError → String
  | .transport text => s!"Transport error: {text}"
  | .protocol code text => s!"Protocol error {code.toInt}: {text}"
  | .editor text => s!"Editor error: {text}"
  | .io text => s!"I/O error: {text}"
  | .invalidArgument text => s!"Invalid argument: {text}"
  | .notFound text => s!"Not found: {text}"

/-- Why a piece of work has no result. -/
inductive Fault where
  | service (error : ServiceError)
  | crash (cause : Crash)
  deriving Repr, DecidableEq

namespace Fault

/-- Work that can only crash, as work that can also meet a failing service. -/
def ofCrash {α : Type} (work : Except Crash α) : Except Fault α := work.mapError crash

/-- Work that can only meet a failing service, as work that can also crash. -/
def ofService {α : Type} (work : Except ServiceError α) : Except Fault α := work.mapError service

end Fault

end CodeListing
