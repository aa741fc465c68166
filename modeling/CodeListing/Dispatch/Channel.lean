import CodeListing.Listing.Basic

/-!
# The channel of a dispatch

Batches reach the consumer through a first-in, first-out channel of limited room. A batch on its way
remembers which entry of the list of clients it came from. Once the consumer has closed the channel,
what was in it is gone and nothing more can be sent.
-/

namespace CodeListing

/-- A batch on its way to the consumer. -/
structure Delivery where
  /-- The place of its client in the list that the resolver gave. -/
  entry : Nat
  batch : Batch

/-- A channel, seen from both ends. -/
structure Channel where
  capacity : Nat
  /-- What was sent and not yet received, oldest first. -/
  queue : List Delivery := []
  /-- What was received, oldest first. -/
  received : List Delivery := []
  closed : Bool := false

namespace Channel

/-- The greatest capacity: a channel counts its room in 61 of the 64 bits of a word. -/
def maxCapacity : Nat := UInt64.size / 8 - 1

/-- How an attempt to send ends. -/
inductive Sending where
  | sent (channel : Channel)
  /-- There is no room yet. -/
  | full
  /-- The consumer is gone. -/
  | closed

/-- Tries to send. -/
def send (c : Channel) (delivery : Delivery) : Sending :=
  if c.closed then .closed
  else if c.queue.length < c.capacity then .sent { c with queue := c.queue ++ [delivery] }
  else .full

/-- The consumer takes the oldest batch, if there is one. -/
def receive (c : Channel) : Channel :=
  match c.queue with
  | [] => c
  | delivery :: queue => { c with queue, received := c.received ++ [delivery] }

/-- The consumer goes away. -/
def close (c : Channel) : Channel := { c with queue := [], closed := true }

end Channel

end CodeListing
