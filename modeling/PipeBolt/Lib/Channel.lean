import Mathlib.Data.List.Basic

/-!
# Bounded channels

A channel is a queue with a capacity and one receiver.  The receiver may close it: then nothing can
be sent any more, while what is in the queue can still be received.

* `trySend_eq_ok_iff`: when a value is taken.
* `recv_eq_some_iff`: what is received.
* `Accounts`: what was sent is what was received and what is in the queue, in this order; every
  operation keeps it.
-/

namespace BoundedChannel

universe u

/-- A bounded channel. -/
structure Channel (α : Type u) where
  capacity : Nat
  queue : List α
  closed : Bool
  deriving DecidableEq, Repr

/-- Why a value was not sent. -/
inductive SendError where
  | full
  | closed
  deriving DecidableEq, Repr

/-- Where a receiver is that takes values until it is told to stop, and then closes its channel and
takes what is left. -/
inductive DrainPhase where
  | running
  | draining
  | returned
  deriving DecidableEq, Repr

namespace Channel

variable {α : Type u}

/-- An empty channel. -/
def new (capacity : Nat) : Channel α := ⟨capacity, [], false⟩

/-- Send a value, unless the channel is closed or its queue is full. -/
def trySend (c : Channel α) (a : α) : Except SendError (Channel α) :=
  if c.closed then .error .closed
  else if c.queue.length < c.capacity then .ok { c with queue := c.queue ++ [a] }
  else .error .full

/-- Receive the oldest value. -/
def recv (c : Channel α) : Option (α × Channel α) :=
  match c.queue with
  | [] => none
  | a :: rest => some (a, { c with queue := rest })

/-- Close the channel. -/
def close (c : Channel α) : Channel α := { c with closed := true }

/-- Drop the receiver: the channel is closed and what it holds is lost. -/
def drop (c : Channel α) : Channel α := { c with queue := [], closed := true }

section Operations

variable {c d : Channel α} {a : α}

@[simp] theorem new_queue (capacity : Nat) : (new capacity : Channel α).queue = [] := rfl
@[simp] theorem new_closed (capacity : Nat) : (new capacity : Channel α).closed = false := rfl
@[simp] theorem close_queue : c.close.queue = c.queue := rfl
@[simp] theorem close_closed : c.close.closed = true := rfl
@[simp] theorem drop_queue : c.drop.queue = [] := rfl
@[simp] theorem drop_closed : c.drop.closed = true := rfl

theorem trySend_eq_ok_iff : c.trySend a = .ok d ↔
    c.closed = false ∧ c.queue.length < c.capacity ∧ d = { c with queue := c.queue ++ [a] } := by
  unfold trySend
  cases hclosed : c.closed with
  | true => simp
  | false =>
    by_cases hroom : c.queue.length < c.capacity
    · simp [hroom, eq_comm]
    · simp [hroom]

theorem trySend_open (hopen : c.closed = false) (hroom : c.queue.length < c.capacity) :
    c.trySend a = .ok { c with queue := c.queue ++ [a] } := by
  simp [trySend, hopen, hroom]

/-- Why a value is not sent. -/
theorem trySend_eq_error_iff {error : SendError} : c.trySend a = .error error ↔
    error = .closed ∧ c.closed = true ∨
      error = .full ∧ c.closed = false ∧ c.capacity ≤ c.queue.length := by
  unfold trySend
  cases hclosed : c.closed with
  | true => simp [eq_comm]
  | false =>
    by_cases hroom : c.queue.length < c.capacity
    · simp [hroom, Nat.not_le.mpr hroom]
    · simp [hroom, Nat.not_lt.mp hroom, eq_comm]

theorem recv_eq_some_iff : c.recv = some (a, d) ↔
    c.queue = a :: d.queue ∧ d.closed = c.closed ∧ d.capacity = c.capacity := by
  unfold recv
  cases hqueue : c.queue with
  | nil => simp
  | cons b rest =>
    simp only [Option.some.injEq, Prod.mk.injEq, List.cons.injEq]
    constructor
    · rintro ⟨rfl, rfl⟩
      exact ⟨⟨rfl, rfl⟩, rfl, rfl⟩
    · rintro ⟨⟨rfl, rfl⟩, hclosed, hcapacity⟩
      refine ⟨rfl, ?_⟩
      cases d
      simp_all

end Operations

/-! ## What was sent and what was received -/

/-- What was sent is what was received, and then what is in the queue. -/
def Accounts (sent received : List α) (c : Channel α) : Prop := sent = received ++ c.queue

section Accounts

variable {c d : Channel α} {a : α} {sent received : List α}

theorem accounts_new (capacity : Nat) : Accounts [] [] (new capacity : Channel α) := rfl

theorem Accounts.trySend (h : Accounts sent received c) (hsend : c.trySend a = .ok d) :
    Accounts (sent ++ [a]) received d := by
  obtain ⟨-, -, rfl⟩ := trySend_eq_ok_iff.mp hsend
  have hsent : sent = received ++ c.queue := h
  show sent ++ [a] = received ++ (c.queue ++ [a])
  rw [hsent, List.append_assoc]

theorem Accounts.recv (h : Accounts sent received c) (hrecv : c.recv = some (a, d)) :
    Accounts sent (received ++ [a]) d := by
  obtain ⟨hqueue, -, -⟩ := recv_eq_some_iff.mp hrecv
  have hsent : sent = received ++ c.queue := h
  show sent = received ++ [a] ++ d.queue
  rw [hsent, hqueue, List.append_assoc, List.singleton_append]

theorem Accounts.close (h : Accounts sent received c) : Accounts sent received c.close := h

/-- Dropping a receiver loses nothing when its queue is empty. -/
theorem Accounts.drop (h : Accounts sent received c) (hempty : c.queue = []) :
    Accounts sent received c.drop := by
  have hsent : sent = received ++ c.queue := h
  show sent = received ++ []
  rw [hsent, hempty]

/-- Once the queue is empty, everything that was sent was received. -/
theorem Accounts.eq_of_empty (h : Accounts sent received c) (hempty : c.queue = []) :
    sent = received := by
  have hsent : sent = received ++ c.queue := h
  rw [hsent, hempty, List.append_nil]

end Accounts

end Channel
end BoundedChannel
