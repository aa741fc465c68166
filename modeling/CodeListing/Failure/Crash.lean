/-!
# Crashes

A crash ends the work it happens in without an answer. Five kinds exist: a one-based number that
does not fit its word, a column too wide to pad to, a predicate that gives no verdict, a service
that crashes instead of answering, and a channel that is to hold more than can be counted. In a
dispatch under way a crash fails the task of one client; elsewhere it is the answer.
-/

namespace CodeListing

/-- What made a piece of work stop without an answer. -/
inductive Crash where
  /-- The one-based form of a zero-based number does not fit 32 bits. -/
  | numberOverflow
  /-- Text was to be padded to a width beyond the widest column. -/
  | columnTooWide (width : Nat)
  /-- The predicate on records gave no verdict. -/
  | noVerdict
  /-- A service that the work relies on crashed. -/
  | serviceCrashed
  /-- A channel was to hold more batches than a channel can count. -/
  | channelTooLarge (capacity : Nat)
  deriving Repr, DecidableEq

end CodeListing
