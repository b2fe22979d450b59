import Mathlib.Data.List.Forall2

/-!
# Patterns of levels

A path is a list of levels.  A pattern is a list of levels to be met one by one: a given level, any
level, or whatever is left of the path.  This module says what a pattern captures of a path, as a
relation; a matcher is checked against it, and two matchers that agree with it agree.

* `Captures`: a pattern meets a path and captures levels of it.
* `Captures.unique`: what a pattern captures of a path is determined.
* `captures_iff_meets`: a pattern captures what stands at its levels, one by one, up to a `rest`.
* `Captures.substitute`: the captures, put into the pattern, give the path.
-/

namespace LevelPattern

universe u

/-- What a pattern asks of one level. -/
inductive Level (α : Type u) where
  | exact (a : α)
  | one
  | rest

variable {α : Type u}

/-- A pattern meets a path and captures levels of it: one level for each `one`, in order, and the
levels left for a `rest`. -/
inductive Captures : List (Level α) → List α → List α → List α → Prop
  | nil : Captures [] [] [] []
  | exact {levels : List (Level α)} {path singles left : List α} (a : α) :
      Captures levels path singles left → Captures (.exact a :: levels) (a :: path) singles left
  | one {levels : List (Level α)} {path singles left : List α} (a : α) :
      Captures levels path singles left → Captures (.one :: levels) (a :: path) (a :: singles) left
  | rest (levels : List (Level α)) (path : List α) : Captures (.rest :: levels) path [] path

section Captures

variable {levels : List (Level α)} {path singles left : List α} {a b : α}

@[simp] theorem captures_nil_iff : Captures [] path singles left ↔
    path = [] ∧ singles = [] ∧ left = [] := by
  constructor
  · rintro ⟨⟩
    exact ⟨rfl, rfl, rfl⟩
  · rintro ⟨rfl, rfl, rfl⟩
    exact .nil

@[simp] theorem captures_exact_iff : Captures (.exact a :: levels) path singles left ↔
    ∃ tail, path = a :: tail ∧ Captures levels tail singles left := by
  constructor
  · rintro ⟨⟩
    exact ⟨_, rfl, ‹_›⟩
  · rintro ⟨tail, rfl, h⟩
    exact .exact a h

@[simp] theorem captures_one_iff : Captures (.one :: levels) path singles left ↔
    ∃ b tail others, path = b :: tail ∧ singles = b :: others ∧
      Captures levels tail others left := by
  constructor
  · rintro ⟨⟩
    exact ⟨_, _, _, rfl, rfl, ‹_›⟩
  · rintro ⟨b, tail, others, rfl, rfl, h⟩
    exact .one b h

@[simp] theorem captures_rest_iff : Captures (.rest :: levels) path singles left ↔
    singles = [] ∧ left = path := by
  constructor
  · intro h
    cases h with
    | rest => exact ⟨rfl, rfl⟩
  · rintro ⟨rfl, rfl⟩
    exact .rest levels _

/-- What a pattern captures of a path is determined. -/
theorem Captures.unique {singles' left' : List α} (h : Captures levels path singles left)
    (h' : Captures levels path singles' left') : singles = singles' ∧ left = left' := by
  induction h generalizing singles' with
  | nil =>
    obtain ⟨-, hsingles, hleft⟩ := captures_nil_iff.mp h'
    exact ⟨hsingles.symm, hleft.symm⟩
  | exact a _ ih =>
    obtain ⟨tail, htail, h'⟩ := captures_exact_iff.mp h'
    obtain ⟨-, rfl⟩ := List.cons.inj htail
    exact ih h'
  | one a _ ih =>
    obtain ⟨b, tail, others, htail, rfl, h'⟩ := captures_one_iff.mp h'
    obtain ⟨rfl, rfl⟩ := List.cons.inj htail
    obtain ⟨rfl, rfl⟩ := ih h'
    exact ⟨rfl, rfl⟩
  | rest levels path =>
    obtain ⟨hsingles, hleft⟩ := captures_rest_iff.mp h'
    exact ⟨hsingles.symm, hleft.symm⟩

/-! ## Level by level -/

/-- One level of a path meets one level of a pattern. -/
def Level.Meets : Level α → α → Prop
  | .exact a, b => a = b
  | .one, _ => True
  | .rest, _ => False

def Level.isOne : Level α → Bool
  | .one => true
  | .exact _ | .rest => false

/-- The levels of a path that stand at a `one`. -/
def picked (levels : List (Level α)) (path : List α) : List α :=
  ((levels.zip path).filter fun pair => pair.1.isOne).map Prod.snd

@[simp] theorem picked_nil (path : List α) : picked [] path = [] := rfl

@[simp] theorem picked_exact_cons : picked (.exact a :: levels) (b :: path) = picked levels path :=
  rfl

@[simp] theorem picked_one_cons : picked (.one :: levels) (b :: path) = b :: picked levels path :=
  rfl

/-- Levels that meet the start of a path may stand before a pattern that captures the rest. -/
theorem captures_append {init : List (Level α)} {before : List α}
    (hmeets : List.Forall₂ Level.Meets init before) (h : Captures levels path singles left) :
    Captures (init ++ levels) (before ++ path) (picked init before ++ singles) left := by
  induction hmeets with
  | nil => exact h
  | @cons level b init before hlevel _ ih =>
    cases level with
    | exact a =>
      obtain rfl : a = b := hlevel
      exact .exact a ih
    | one => exact .one b ih
    | rest => exact hlevel.elim

/-- A pattern captures levels of a path in two ways.  Either its levels and those of the path meet
one by one; or they do so up to a `rest`, which is left what follows. -/
theorem captures_iff_meets : Captures levels path singles left ↔
    (List.Forall₂ Level.Meets levels path ∧ singles = picked levels path ∧ left = []) ∨
      ∃ init ignored before, levels = init ++ .rest :: ignored ∧ path = before ++ left ∧
        List.Forall₂ Level.Meets init before ∧ singles = picked init before := by
  constructor
  · intro h
    induction h with
    | nil => exact .inl ⟨.nil, rfl, rfl⟩
    | exact a _ ih =>
      rcases ih with ⟨hmeets, rfl, rfl⟩ | ⟨init, ignored, before, rfl, rfl, hmeets, rfl⟩
      · exact .inl ⟨.cons rfl hmeets, rfl, rfl⟩
      · exact .inr ⟨.exact a :: init, ignored, a :: before, rfl, rfl, .cons rfl hmeets, rfl⟩
    | one a _ ih =>
      rcases ih with ⟨hmeets, rfl, rfl⟩ | ⟨init, ignored, before, rfl, rfl, hmeets, rfl⟩
      · exact .inl ⟨.cons trivial hmeets, rfl, rfl⟩
      · exact .inr ⟨.one :: init, ignored, a :: before, rfl, rfl, .cons trivial hmeets, rfl⟩
    | rest levels path => exact .inr ⟨[], levels, [], rfl, rfl, .nil, rfl⟩
  · rintro (⟨hmeets, rfl, rfl⟩ | ⟨init, ignored, before, rfl, rfl, hmeets, rfl⟩)
    · have h := captures_append hmeets .nil
      rwa [List.append_nil, List.append_nil, List.append_nil] at h
    · have h := captures_append hmeets (.rest ignored left)
      rwa [List.append_nil] at h

/-! ## Substitution -/

/-- A pattern with captures put in for its wildcards. -/
def substitute : List (Level α) → List α → List α → List α
  | [], _, _ => []
  | .exact a :: levels, singles, left => a :: substitute levels singles left
  | .one :: _, [], _ => []
  | .one :: levels, a :: singles, left => a :: substitute levels singles left
  | .rest :: _, _, left => left

/-- The captures, put into the pattern, give the path. -/
theorem Captures.substitute (h : Captures levels path singles left) :
    LevelPattern.substitute levels singles left = path := by
  induction h with
  | nil => rfl
  | exact a _ ih => rw [LevelPattern.substitute, ih]
  | one a _ ih => rw [LevelPattern.substitute, ih]
  | rest => rfl

end Captures

end LevelPattern
