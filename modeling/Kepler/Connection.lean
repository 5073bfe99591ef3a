/-
This file models the table of the requests of a client that wait for an answer (`client.rs`). The
table is cleared when the connection ends, but a call may add an entry later.
-/

import Mathlib.Data.Finset.Basic
import Kepler.Library.Runs

namespace Kepler

open Runs

/-- The task that reads answers reads, has marked the connection as lost, or has ended. -/
inductive ReaderPlace where
  | reading
  | marked
  | ended
  deriving DecidableEq, Repr

/-- A client: its reader, the identifiers of pending requests, the next identifier, and the number
of calls that are about to insert an entry. -/
structure Client where
  reader : ReaderPlace := .reading
  pending : Finset Nat := ∅
  nextId : Nat := 1
  calls : Nat := 0

namespace Client

inductive Event where
  | sendRequest
  | subscribe
  | insert
  | respond (id : Nat)
  | disconnect
  | clear
  deriving DecidableEq, Repr

/-- A step of `send_request`, `subscribe_logs` or `subscribe_events`, or of the reader. Only
`send_request` looks at the connection first. The table is cleared at once here, and shard by shard
in the code: an entry that comes meanwhile stays in both if its shard is done. -/
def step (client : Client) : Event → Client
  | .sendRequest =>
    if client.reader = .reading then { client with calls := client.calls + 1 } else client
  | .subscribe => { client with calls := client.calls + 1 }
  | .insert => match client.calls with
    | 0 => client
    | calls + 1 => { client with
        calls
        nextId := client.nextId + 1
        pending := insert client.nextId client.pending }
  | .respond id =>
    if client.reader = .reading then { client with pending := client.pending.erase id } else client
  | .disconnect => if client.reader = .reading then { client with reader := .marked } else client
  | .clear =>
    if client.reader = .marked then { client with reader := .ended, pending := ∅ } else client

/-- A call inserts its entry before the reader has ended. -/
def InTime (client : Client) (event : Event) : Prop :=
  event = .insert → 0 < client.calls → client.reader ≠ .ended

/-- No entry is left behind by a reader that has ended. -/
def NoOrphans (client : Client) : Prop := client.reader = .ended → client.pending = ∅

theorem noOrphans_step_iff (client : Client) (event : Event) :
    (client.step event).NoOrphans ↔ client.NoOrphans ∧ client.InTime event := by
  unfold NoOrphans InTime step
  cases event <;> grind [Finset.insert_ne_empty]

/-- The table is empty after the reader has ended exactly if every entry came in time. -/
theorem noOrphans_iff (events : List Event) :
    (run step {} events).NoOrphans ↔ Meets step InTime {} events := by
  induction events using List.reverseRecOn with
  | nil => simp [run, Meets, NoOrphans]
  | append_singleton events event inductionHypothesis =>
    rw [run_concat, meets_concat, noOrphans_step_iff, inductionHypothesis]

/-- A subscription after the end, and a request checked before it, wait forever. -/
theorem late_entries_stay :
    (run step {} [.disconnect, .clear, .subscribe, .insert]).pending = {1} ∧
      (run step {} [.sendRequest, .disconnect, .clear, .insert]).pending = {1} := by
  decide

end Client

end Kepler
