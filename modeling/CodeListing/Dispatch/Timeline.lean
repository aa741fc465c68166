import CodeListing.Dispatch.Basic

/-!
# Schedules on a clock

The schedule of a dispatch whose answers come in after known delays: all requests are sent before
the first answer, and answers come in the order of their delays. The parties take turns. First every
answer of one time comes in, then the forwarder moves until the channel is full or no result is left,
and then the consumer takes what is in the channel. A consumer with limited patience goes away after
a number of batches, and leaves behind what else was sent before its turn.
-/

namespace CodeListing

/-- An answer and how long it takes. -/
structure Arrival where
  delay : Nat
  answer : Except ServiceError Json

namespace Dispatch

/-- The answers for the entries of a list of clients, those of one time together, in the order in
which they come in. Answers with equal delays keep the order of the clients. -/
def replies (clients : List Client) (arrivalOf : Client → Arrival) : List (List Event) :=
  let arrivals := (clients.map arrivalOf).zipIdx.mergeSort fun a b => a.1.delay ≤ b.1.delay
  (arrivals.splitBy fun a b => a.1.delay == b.1.delay).map fun together =>
    together.map fun (arrival, entry) => .reply entry arrival.answer

/-- The moves that hand `n` results on through a channel with this room. The consumer has its turn
whenever the channel is full or the last result is in it. -/
def handOver (room n : Nat) : List Event :=
  (List.range n).flatMap fun i =>
    let waiting := i % room + 1
    .forward :: if waiting = room ∨ i + 1 = n then List.replicate waiting .receive else []

/-- The moves of a consumer that goes away once it has received a number of batches. -/
def leaveAfter : Nat → List Event → List Event
  | 0, moves => .close :: moves
  | _, [] => []
  | n + 1, .receive :: moves => .receive :: leaveAfter n moves
  | n + 1, move :: moves => move :: leaveAfter (n + 1) moves

/-- The moves of a dispatch on a clock. -/
def timeline (clients : List Client) (arrivalOf : Client → Arrival) (patience : Option Nat)
    (room : Nat := 16) : List Event :=
  let starts := (List.range clients.length).map Event.start
  let exchange (answers : List Event) : List Event := answers ++ handOver room answers.length
  let moves := starts ++ .forward :: (replies clients arrivalOf).flatMap exchange ++ [.forward]
  match patience with
  | none => moves
  | some n => leaveAfter n moves

end Dispatch

end CodeListing
