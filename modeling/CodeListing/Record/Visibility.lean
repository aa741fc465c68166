import CodeListing.Failure.Crash
import CodeListing.Record.Basic

/-!
# Which records are shown

A host decides which records are shown. Its predicate gives a verdict on every record, or crashes.
-/

namespace CodeListing

/-- Decides whether a record is shown. -/
abbrev Visibility := Record → Except Crash Bool

/-- Shows every record. -/
def Visibility.all : Visibility := fun _ => .ok true

/-- The records that are shown, in their order. -/
def Visibility.keep (accepts : Visibility) : List Record → Except Crash (List Record)
  | [] => .ok []
  | r :: rs => do
    let shown ← accepts r
    let rest ← keep accepts rs
    return if shown then r :: rest else rest

end CodeListing
