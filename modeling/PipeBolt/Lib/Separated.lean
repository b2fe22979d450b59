import Mathlib.Data.List.Basic
import Mathlib.Data.List.Infix
import Mathlib.Data.List.TakeWhile

/-!
# Texts with separators and keywords

A text is cut at a separator into its segments, and the cut loses nothing.  Two lists that agree
and are each marked at one place by a keyword are marked at the same place, or one mark comes
before the other.

* `eq_takeWhile_append`, `takeWhile_append_cons`, `dropWhile_append_cons`: a list cut at its first
  separator.
* `bracket_induction`: induction on a text of opening and closing brackets.
* `forall_split_cons`: what is asked of every element and of what follows it, by recursion.
* `splitOn_injective`: a list is determined by its segments.
* `splitOn_flatMap`: a replacement that neither makes nor loses a separator acts on each segment.
* `segments_induction`, `nil_mem_splitOn_iff`: induction on the segments of a list, and when one of
  them is empty.
* `splitOn_prefix_iff`: when the segments of one list begin those of another.
* `append_cons_eq_append_cons_iff`: when two marked lists are equal.
-/

namespace Separated

variable {α β : Type*}

/-! ## The first separator -/

section First

variable [BEq α] [LawfulBEq α]

theorem forall_bne_of_notMem {l : List α} {c : α} (h : c ∉ l) : ∀ d ∈ l, (d != c) = true := by
  intro d hd
  rw [bne_iff_ne]
  rintro rfl
  exact h hd

/-- A list cut at its first element of a kind. -/
theorem eq_takeWhile_append {l rest : List α} {c d : α}
    (h : l.dropWhile (· != c) = d :: rest) : l = l.takeWhile (· != c) ++ c :: rest := by
  have hd : d = c := by
    have hhead := List.head?_dropWhile_not (· != c) l
    rw [h] at hhead
    simpa using hhead
  have hcut := List.takeWhile_append_dropWhile (p := (· != c)) (l := l)
  rw [h, hd] at hcut
  exact hcut.symm

theorem notMem_takeWhile (l : List α) (c : α) : c ∉ l.takeWhile (· != c) := by
  intro hc
  have h := List.mem_takeWhile_imp hc
  simp at h

theorem notMem_of_dropWhile_eq_nil {l : List α} {c : α} (h : l.dropWhile (· != c) = []) :
    c ∉ l := by
  intro hc
  have hne := List.dropWhile_eq_nil_iff.mp h c hc
  simp at hne

theorem dropWhile_eq_nil {l : List α} {c : α} (h : c ∉ l) : l.dropWhile (· != c) = [] :=
  List.dropWhile_eq_nil_iff.mpr (forall_bne_of_notMem h)

/-- A list up to the first element of a kind. -/
theorem takeWhile_append_cons {before after : List α} {c : α} (h : c ∉ before) :
    (before ++ c :: after).takeWhile (· != c) = before := by
  rw [List.takeWhile_append_of_pos (forall_bne_of_notMem h), List.takeWhile_cons]
  simp

theorem dropWhile_append_cons {before after : List α} {c : α} (h : c ∉ before) :
    (before ++ c :: after).dropWhile (· != c) = c :: after := by
  rw [List.dropWhile_append_of_pos (forall_bne_of_notMem h), List.dropWhile_cons]
  simp

/-- A text of two kinds of brackets is scanned from the left: up to the first opening one, then up
to the first closing one after it. -/
theorem bracket_induction (opening closing : α) {motive : List α → Prop}
    (plain : ∀ xs, opening ∉ xs → motive xs)
    (unclosed : ∀ before after, opening ∉ before → closing ∉ after →
      motive (before ++ opening :: after))
    (closed : ∀ before inner rest, opening ∉ before → closing ∉ inner → motive rest →
      motive (before ++ opening :: (inner ++ closing :: rest))) (xs : List α) : motive xs := by
  induction hlength : xs.length using Nat.strongRecOn generalizing xs with
  | ind n ih =>
    by_cases hopen : opening ∈ xs
    · obtain ⟨before, after, rfl, hbefore⟩ := List.eq_append_cons_of_mem hopen
      by_cases hclose : closing ∈ after
      · obtain ⟨inner, rest, rfl, hinner⟩ := List.eq_append_cons_of_mem hclose
        have hshort : rest.length < n := by
          rw [← hlength]
          simp only [List.length_append, List.length_cons]
          omega
        exact closed before inner rest hbefore hinner (ih rest.length hshort rest rfl)
      · exact unclosed before after hbefore hclose
    · exact plain xs hopen

end First

/-! ## Elements and what follows them -/

/-- What is asked of every element of a list and of the elements after it. -/
theorem forall_split_cons {P : α → List α → Prop} {x : α} {xs : List α} :
    (∀ before y after, x :: xs = before ++ y :: after → P y after) ↔
      P x xs ∧ ∀ before y after, xs = before ++ y :: after → P y after := by
  constructor
  · intro h
    refine ⟨h [] x xs rfl, fun before y after hxs => h (x :: before) y after ?_⟩
    rw [hxs, List.cons_append]
  · rintro ⟨hx, hxs⟩ before y after hsplit
    cases before with
    | nil =>
      obtain ⟨rfl, rfl⟩ := List.cons.inj hsplit
      exact hx
    | cons z before => exact hxs before y after (List.cons.inj hsplit).2

theorem forall_split_nil {P : α → List α → Prop} :
    ∀ before y after, ([] : List α) = before ++ y :: after → P y after :=
  fun before y after h => absurd h.symm (by simp)

/-! ## Segments -/

/-- A list is determined by its segments. -/
theorem splitOn_injective [BEq α] [LawfulBEq α] (sep : α) :
    Function.Injective fun xs : List α => xs.splitOn sep := by
  intro xs ys h
  have hxs : [sep].intercalate (xs.splitOn sep) = xs := List.intercalate_splitOn sep
  have hys : [sep].intercalate (ys.splitOn sep) = ys := List.intercalate_splitOn sep
  have h' : xs.splitOn sep = ys.splitOn sep := h
  rw [← hxs, h', hys]

/-- The segments of a text joined by separators are the segments of its parts. -/
theorem splitOn_join [BEq α] [LawfulBEq α] (sep : α) (xs ys : List α) :
    (xs ++ sep :: ys).splitOn sep = xs.splitOn sep ++ ys.splitOn sep :=
  List.splitOn_append_cons_self xs ys

section Segments

variable [DecidableEq α]

theorem splitOn_of_notMem {sep : α} {xs : List α} (h : sep ∉ xs) : xs.splitOn sep = [xs] := by
  refine List.splitOnP_eq_singleton fun x hx => ?_
  rw [beq_eq_false_iff_ne]
  rintro rfl
  exact h hx

/-- A list is built from its segments: it is one, or one before a separator and the rest. -/
theorem segments_induction (sep : α) {motive : List α → Prop} (single : ∀ xs, sep ∉ xs → motive xs)
    (join : ∀ xs ys, sep ∉ xs → motive ys → motive (xs ++ sep :: ys)) (xs : List α) :
    motive xs := by
  induction hlength : xs.length using Nat.strongRecOn generalizing xs with
  | ind n ih =>
    by_cases hmem : sep ∈ xs
    · obtain ⟨ys, zs, hsplit, hys⟩ := List.eq_append_cons_of_mem hmem
      have hshort : zs.length < n := by
        rw [← hlength, hsplit, List.length_append, List.length_cons]
        omega
      rw [hsplit]
      exact join ys zs hys (ih zs.length hshort zs rfl)
    · exact single xs hmem

/-- Every element of a segment is one of the list. -/
theorem mem_of_mem_segment {sep x : α} {xs segment : List α} (h : segment ∈ xs.splitOn sep)
    (hx : x ∈ segment) : x ∈ xs := by
  induction xs using segments_induction sep with
  | single xs hxs =>
    rw [splitOn_of_notMem hxs, List.mem_singleton] at h
    rw [← h]
    exact hx
  | join xs ys hxs ih =>
    rw [splitOn_join, splitOn_of_notMem hxs, List.singleton_append, List.mem_cons] at h
    rcases h with rfl | h
    · exact List.mem_append_left _ hx
    · exact List.mem_append_right _ (List.mem_cons_of_mem _ (ih h))

/-- No segment contains the separator. -/
theorem notMem_segment {sep : α} {xs segment : List α} (h : segment ∈ xs.splitOn sep) :
    sep ∉ segment := by
  induction xs using segments_induction sep with
  | single xs hxs =>
    rw [splitOn_of_notMem hxs, List.mem_singleton] at h
    rw [h]
    exact hxs
  | join xs ys hxs ih =>
    rw [splitOn_join, splitOn_of_notMem hxs, List.singleton_append, List.mem_cons] at h
    rcases h with rfl | h
    · exact hxs
    · exact ih h

/-- The segments of one list begin those of another exactly when the two lists are equal or the
first one stands before a separator of the other. -/
theorem splitOn_prefix_iff {sep : α} {ps xs : List α} :
    ps.splitOn sep <+: xs.splitOn sep ↔ xs = ps ∨ ∃ rest, xs = ps ++ sep :: rest := by
  constructor
  · rintro ⟨segments, h⟩
    cases hsegments : segments with
    | nil =>
      rw [hsegments, List.append_nil] at h
      exact Or.inl (splitOn_injective sep h.symm)
    | cons segment others =>
      -- The segments that are left are those of the text that is left.
      have hfree : ∀ l ∈ segments, sep ∉ l := by
        intro l hl
        have hmem : l ∈ xs.splitOn sep := h ▸ List.mem_append_right _ hl
        exact notMem_segment hmem
      have hrest : ([sep].intercalate segments).splitOn sep = segments :=
        List.splitOn_intercalate sep hfree (by rw [hsegments]; exact List.cons_ne_nil _ _)
      refine Or.inr ⟨[sep].intercalate segments, splitOn_injective sep ?_⟩
      change xs.splitOn sep = (ps ++ sep :: _).splitOn sep
      rw [splitOn_join, hrest, h]
  · rintro (rfl | ⟨rest, rfl⟩)
    · exact List.prefix_rfl
    · rw [splitOn_join]
      exact List.prefix_append _ _

/-- A replacement that makes a separator of each separator, and of nothing else, acts on each
segment by itself. -/
theorem splitOn_flatMap [DecidableEq β] {f : α → List β} {sep : α} {sep' : β} {xs : List α}
    (hsep : f sep = [sep']) (hother : ∀ x ∈ xs, x ≠ sep → sep' ∉ f x) :
    (xs.flatMap f).splitOn sep' = (xs.splitOn sep).map fun segment => segment.flatMap f := by
  have hsegment : ∀ ys : List α, sep ∉ ys → (∀ x ∈ ys, x ≠ sep → sep' ∉ f x) →
      (ys.flatMap f).splitOn sep' = [ys.flatMap f] := by
    intro ys hys h
    refine splitOn_of_notMem fun hmem => ?_
    obtain ⟨x, hx, hin⟩ := List.mem_flatMap.mp hmem
    refine h x hx ?_ hin
    rintro rfl
    exact hys hx
  induction xs using segments_induction sep with
  | single xs hxs =>
    rw [splitOn_of_notMem hxs, hsegment xs hxs hother]
    rfl
  | join xs ys hxs ih =>
    rw [List.flatMap_append, List.flatMap_cons, hsep, List.singleton_append, splitOn_join,
      splitOn_join, hsegment xs hxs fun x hx => hother x (List.mem_append_left _ hx),
      ih fun x hx => hother x (List.mem_append_right _ (List.mem_cons_of_mem _ hx)),
      splitOn_of_notMem hxs]
    rfl

end Segments

/-! ## Marks -/

/-- Two marked lists are equal exactly when their marks stand at one place, or when the first
mark stands before the second, or the second before the first. -/
theorem append_cons_eq_append_cons_iff {l₁ l₂ r₁ r₂ : List α} {k₁ k₂ : α} :
    l₁ ++ k₁ :: r₁ = l₂ ++ k₂ :: r₂ ↔
      (l₁ = l₂ ∧ k₁ = k₂ ∧ r₁ = r₂) ∨
      (∃ m, l₂ = l₁ ++ k₁ :: m ∧ r₁ = m ++ k₂ :: r₂) ∨
      (∃ m, l₁ = l₂ ++ k₂ :: m ∧ r₂ = m ++ k₁ :: r₁) := by
  constructor
  · intro h
    induction l₁ generalizing l₂ with
    | nil =>
      cases l₂ with
      | nil =>
        obtain ⟨hk, hr⟩ := List.cons.inj h
        exact Or.inl ⟨rfl, hk, hr⟩
      | cons y l₂ =>
        obtain ⟨hk, hr⟩ := List.cons.inj h
        exact Or.inr (Or.inl ⟨l₂, by rw [hk]; rfl, hr⟩)
    | cons x l₁ ih =>
      cases l₂ with
      | nil =>
        obtain ⟨hk, hr⟩ := List.cons.inj h
        exact Or.inr (Or.inr ⟨l₁, by rw [hk]; rfl, hr.symm⟩)
      | cons y l₂ =>
        obtain ⟨hxy, h⟩ := List.cons.inj h
        rcases ih h with ⟨hl, hk, hr⟩ | ⟨m, hl, hr⟩ | ⟨m, hl, hr⟩
        · exact Or.inl ⟨by rw [hxy, hl], hk, hr⟩
        · exact Or.inr (Or.inl ⟨m, by rw [hxy, hl]; rfl, hr⟩)
        · exact Or.inr (Or.inr ⟨m, by rw [hxy, hl]; rfl, hr⟩)
  · rintro (⟨rfl, rfl, rfl⟩ | ⟨m, rfl, rfl⟩ | ⟨m, rfl, rfl⟩)
    · rfl
    · rw [List.append_assoc, List.cons_append]
    · rw [List.append_assoc, List.cons_append]

end Separated
