import Mathlib.Data.List.Basic

/-!
# Lossy receivers

A receiver of a broadcast channel that falls behind loses the oldest values, and is told how many
of them it has lost before it is given the next one.

* `Covers`: the receipts stand, in order, for every value: each for one, or for a run of lost ones.
* `Covers.values_sublist`, `Covers.total_eq`: what a receiver has, and what it was told.
* `Accounts`: what was sent is what the receipts cover, what was lost since the last receipt and
  what waits; each operation of a channel keeps it.
-/

namespace LossyChannel

open scoped List

universe u v

/-- What a receiver is given: a value, or how many values it has lost. -/
inductive Received (α : Type u) where
  | value (a : α)
  | lagged (skipped : Nat)
  deriving DecidableEq, Repr

/-- The value of a receipt. -/
def Received.value? {α : Type u} : Received α → Option α
  | .value a => some a
  | .lagged _ => none

/-- The values that receipts count as lost. -/
def lost {α : Type u} : List (Received α) → Nat
  | [] => 0
  | .value _ :: got => lost got
  | .lagged skipped :: got => lost got + skipped

/-- The values that receipts stand for. -/
def total {α : Type u} : List (Received α) → Nat
  | [] => 0
  | .value _ :: got => total got + 1
  | .lagged skipped :: got => total got + skipped

/-- What was sent, and what was received for it. -/
inductive Covers {α : Type u} : List α → List (Received α) → Prop
  | nil : Covers [] []
  | value {sent : List α} {got : List (Received α)} (a : α) :
      Covers sent got → Covers (sent ++ [a]) (got ++ [.value a])
  | lagged {sent lost : List α} {got : List (Received α)} :
      Covers sent got → lost ≠ [] → Covers (sent ++ lost) (got ++ [.lagged lost.length])

section Covers

variable {α : Type u} {sent : List α} {got : List (Received α)}

theorem total_append (got got' : List (Received α)) :
    total (got ++ got') = total got + total got' := by
  induction got with
  | nil => exact (Nat.zero_add _).symm
  | cons receipt got ih =>
    cases receipt with
    | value a =>
      show total (got ++ got') + 1 = total got + 1 + total got'
      omega
    | lagged skipped =>
      show total (got ++ got') + skipped = total got + skipped + total got'
      omega

/-- No receipt stands for more values than all of them. -/
theorem le_total_of_mem {skipped : Nat} (h : .lagged skipped ∈ got) : skipped ≤ total got := by
  induction got with
  | nil => cases h
  | cons receipt got ih =>
    rcases List.mem_cons.mp h with rfl | hmem
    · exact Nat.le_add_left skipped (total got)
    · have hle := ih hmem
      cases receipt with
      | value a => exact Nat.le_succ_of_le hle
      | lagged other => exact Nat.le_add_right_of_le hle

/-- A receiver has the values in the order in which they were sent, each at most once. -/
theorem Covers.values_sublist (h : Covers sent got) : got.filterMap Received.value? <+ sent := by
  induction h with
  | nil => exact .slnil
  | @value sent got a _ ih =>
    rw [List.filterMap_append]
    exact ih.append (.refl [a])
  | @lagged sent lost got _ _ ih =>
    rw [List.filterMap_append]
    exact ih.append (List.nil_sublist lost)

/-- The receipts add up. -/
theorem Covers.total_eq (h : Covers sent got) : total got = sent.length := by
  induction h with
  | nil => rfl
  | @value sent got a _ ih =>
    rw [total_append, List.length_append, ih]
    rfl
  | @lagged sent lost got _ _ ih =>
    rw [total_append, List.length_append, ih]
    exact congrArg (sent.length + ·) (Nat.zero_add lost.length)

/-- A receiver that was never told of a loss has everything. -/
theorem Covers.eq_values (h : Covers sent got) (hnever : ∀ skipped, .lagged skipped ∉ got) :
    got = sent.map .value := by
  induction h with
  | nil => rfl
  | @value sent got a _ ih =>
    rw [List.map_append, ih fun skipped hmem => hnever skipped (List.mem_append_left _ hmem)]
    rfl
  | @lagged sent lost got _ _ _ =>
    exact absurd (List.mem_append_right got (List.mem_singleton_self _)) (hnever lost.length)

end Covers

/-- What was sent, for a receiver that was given some receipts, has lost `skipped` values since,
and has others waiting. -/
def Accounts {α : Type u} (sent : List α) (got : List (Received α)) (skipped : Nat)
    (pending : List α) : Prop :=
  ∃ seen lost, sent = seen ++ lost ++ pending ∧ Covers seen got ∧ lost.length = skipped

namespace Accounts

variable {α : Type u} {sent pending : List α} {got : List (Received α)} {skipped : Nat} {a : α}

theorem new : Accounts (α := α) [] [] 0 [] := ⟨[], [], rfl, .nil, rfl⟩

/-- A value is sent. -/
theorem send (h : Accounts sent got skipped pending) (a : α) :
    Accounts (sent ++ [a]) got skipped (pending ++ [a]) := by
  obtain ⟨seen, lost, rfl, hcovers, hlost⟩ := h
  exact ⟨seen, lost, List.append_assoc _ _ _, hcovers, hlost⟩

/-- The oldest value that waits is displaced. -/
theorem displace (h : Accounts sent got skipped (a :: pending)) :
    Accounts sent got (skipped + 1) pending := by
  obtain ⟨seen, lost, rfl, hcovers, hlost⟩ := h
  refine ⟨seen, lost ++ [a], ?_, hcovers, ?_⟩
  · rw [← List.append_assoc, List.append_assoc _ [a]]
    rfl
  · rw [List.length_append, hlost]
    rfl

/-- The receiver is given the oldest value. -/
theorem value (h : Accounts sent got 0 (a :: pending)) :
    Accounts sent (got ++ [.value a]) 0 pending := by
  obtain ⟨seen, lost, rfl, hcovers, hlost⟩ := h
  obtain rfl := List.length_eq_zero_iff.mp hlost
  refine ⟨seen ++ [a], [], ?_, hcovers.value a, rfl⟩
  rw [List.append_nil, List.append_nil, List.append_assoc]
  rfl

/-- The receiver is told what it has lost. -/
theorem lagged (h : Accounts sent got skipped pending) (hpos : 0 < skipped) :
    Accounts sent (got ++ [.lagged skipped]) 0 pending := by
  obtain ⟨seen, lost, rfl, hcovers, rfl⟩ := h
  refine ⟨seen ++ lost, [], ?_, hcovers.lagged (List.ne_nil_of_length_pos hpos), rfl⟩
  rw [List.append_nil]

/-- Nothing is lost and nothing waits: the receipts are for everything. -/
theorem covers (h : Accounts sent got 0 []) : Covers sent got := by
  obtain ⟨seen, lost, rfl, hcovers, hlost⟩ := h
  obtain rfl := List.length_eq_zero_iff.mp hlost
  rwa [List.append_nil, List.append_nil]

/-- What was received was sent, and what waits was sent after it. -/
theorem sublist (h : Accounts sent got skipped pending) :
    got.filterMap Received.value? ++ pending <+ sent := by
  obtain ⟨seen, lost, rfl, hcovers, -⟩ := h
  exact (hcovers.values_sublist.trans (List.sublist_append_left seen lost)).append (.refl pending)

/-- Nothing is unaccounted for. -/
theorem total_eq (h : Accounts sent got skipped pending) :
    sent.length = total got + skipped + pending.length := by
  obtain ⟨seen, lost, rfl, hcovers, rfl⟩ := h
  rw [List.length_append, List.length_append, hcovers.total_eq]

end Accounts

end LossyChannel
