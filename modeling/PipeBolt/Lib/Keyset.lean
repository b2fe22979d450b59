import Mathlib.Data.List.Perm.Subperm
import Mathlib.Data.List.Sort

/-!
# Paging by a key

A collection is read page by page, largest keys first, and the key of the last row of a page is
the cursor of the next, which has only rows strictly below it.  Rows with equal keys come in any
order.

* `IsPage`: what a page may be.
* `Walk`: pages read one after the other until one is empty.
* `exists_walk`, `Walk.subperm`: a walk ends, and returns no row twice.
* `SplitsTie`: a page ends between two rows with the same key.
* `walk_perm_iff`: a walk returns every row exactly when no page ends between equal keys.
-/

namespace Keyset

universe u v

variable {α : Type u} {κ : Type v} [LinearOrder κ]

/-! ## Pages -/

/-- The rows past the cursor, which are those strictly below it, and all rows without one. -/
def past (key : α → κ) (cursor : Option κ) (rows : List α) : List α :=
  rows.filter fun row => cursor.all fun c => decide (key row < c)

/-- `page` has the `limit` rows with the largest keys, or all where there are fewer. -/
def IsPage (key : α → κ) (limit : Nat) (rows page : List α) : Prop :=
  ∃ order : List α, order.Perm rows ∧ order.Pairwise (fun a b => key b ≤ key a) ∧
    page = order.take limit

/-- Pages read until one is empty, each from the key of the last row of the page before. -/
inductive Walk (key : α → κ) (limit : Nat) (rows : List α) : Option κ → List (List α) → Prop
  | stop {cursor : Option κ} (hpage : IsPage key limit (past key cursor rows) []) :
      Walk key limit rows cursor [[]]
  | next {cursor : Option κ} {page : List α} {last : α} {pages : List (List α)}
      (hpage : IsPage key limit (past key cursor rows) page) (hlast : page.getLast? = some last)
      (hrest : Walk key limit rows (some (key last)) pages) :
      Walk key limit rows cursor (page :: pages)

variable {key : α → κ} {limit : Nat} {rows page : List α} {cursor : Option κ} {last : α}

@[simp] theorem mem_past {row : α} :
    row ∈ past key cursor rows ↔ row ∈ rows ∧ ∀ c ∈ cursor, key row < c := by
  cases cursor with
  | none => simp [past]
  | some c => simp [past]

@[simp] theorem past_none : past key none rows = rows :=
  List.filter_eq_self.mpr fun _ _ => rfl

theorem past_perm {rows' : List α} (h : rows.Perm rows') :
    (past key cursor rows).Perm (past key cursor rows') :=
  h.filter _

/-- A lower cursor sees through a higher one. -/
theorem past_past {c : κ} (h : ∀ d ∈ cursor, c ≤ d) :
    past key (some c) (past key cursor rows) = past key (some c) rows := by
  cases cursor with
  | none => rw [past_none]
  | some d =>
      have hcd : c ≤ d := h d rfl
      rw [past, past, List.filter_filter, past]
      refine List.filter_congr fun row _ => ?_
      have hiff : (key row < c ∧ key row < d) ↔ key row < c :=
        and_iff_left_of_imp fun hc => lt_of_lt_of_le hc hcd
      simpa using hiff

theorem IsPage.length_le (h : IsPage key limit rows page) : page.length ≤ limit := by
  obtain ⟨order, -, -, rfl⟩ := h
  exact List.length_take_le _ _

theorem IsPage.mem (h : IsPage key limit rows page) {row : α} (hrow : row ∈ page) : row ∈ rows := by
  obtain ⟨order, hperm, -, rfl⟩ := h
  exact hperm.mem_iff.mp (List.mem_of_mem_take hrow)

/-- An empty page ends a collection. -/
theorem IsPage.eq_nil (hlimit : 0 < limit) (h : IsPage key limit rows []) : rows = [] := by
  obtain ⟨order, hperm, -, hnil⟩ := h
  have hempty : order = [] := by
    rcases List.take_eq_nil_iff.mp hnil.symm with hzero | hempty
    · omega
    · exact hempty
  exact List.nil_perm.mp (hempty ▸ hperm)

/-- A page and what is left: the rest has no key above the last of the page, and is empty where
the page has room. -/
theorem IsPage.split (h : IsPage key limit rows page) (hlast : page.getLast? = some last) :
    ∃ rest : List α, rows.Perm (page ++ rest) ∧ (∀ row ∈ page, key last ≤ key row) ∧
      (∀ row ∈ rest, key row ≤ key last) ∧ (rest = [] ∨ page.length = limit) := by
  obtain ⟨order, hperm, hsorted, rfl⟩ := h
  obtain ⟨init, hinit⟩ := List.getLast?_eq_some_iff.mp hlast
  have hmem : last ∈ order.take limit := hinit ▸ List.mem_append_right _ (List.mem_singleton_self _)
  have hparts := hsorted
  rw [← List.take_append_drop limit order, List.pairwise_append] at hparts
  obtain ⟨htake, -, hcross⟩ := hparts
  refine ⟨order.drop limit, ?_, ?_, fun row hrow => hcross last hmem row hrow, ?_⟩
  · rw [List.take_append_drop]
    exact hperm.symm
  · intro row hrow
    rw [hinit, List.pairwise_append] at htake
    rw [hinit] at hrow
    rcases List.mem_append.mp hrow with hrow | hrow
    · exact htake.2.2 row hrow last (List.mem_singleton_self _)
    · rw [List.mem_singleton.mp hrow]
  · by_cases hshort : order.length ≤ limit
    · exact Or.inl (List.drop_eq_nil_iff.mpr hshort)
    · refine Or.inr ?_
      rw [List.length_take]
      omega

/-- There is a page of every collection. -/
theorem exists_isPage (key : α → κ) (limit : Nat) (rows : List α) :
    ∃ page, IsPage key limit rows page := by
  refine ⟨_, rows.mergeSort fun a b => decide (key b ≤ key a), List.mergeSort_perm _ _, ?_, rfl⟩
  have htrans : ∀ a b c : α, decide (key b ≤ key a) = true → decide (key c ≤ key b) = true →
      decide (key c ≤ key a) = true := by
    intro a b c hab hbc
    have hab : key b ≤ key a := of_decide_eq_true hab
    have hbc : key c ≤ key b := of_decide_eq_true hbc
    exact decide_eq_true (hbc.trans hab)
  have htotal : ∀ a b : α, (decide (key b ≤ key a) || decide (key a ≤ key b)) = true := by
    intro a b
    rcases le_total (key b) (key a) with h | h
    · simp [h]
    · simp [h]
  exact (List.pairwise_mergeSort htrans htotal rows).imp fun h => of_decide_eq_true h

/-! ## What a page leaves -/

/-- The rest below the last key of a page: what is left, less the rows that tie with the last. -/
theorem IsPage.past_last (h : IsPage key limit rows page) (hlast : page.getLast? = some last) :
    ∃ rest : List α, rows.Perm (page ++ rest) ∧
      (past key (some (key last)) rows).Perm (past key (some (key last)) rest) ∧
      (∀ row ∈ page, key last ≤ key row) ∧ (∀ row ∈ rest, key row ≤ key last) ∧
      (rest = [] ∨ page.length = limit) := by
  obtain ⟨rest, hperm, hpage, hrest, hfull⟩ := h.split hlast
  refine ⟨rest, hperm, ?_, hpage, hrest, hfull⟩
  have hnone : past key (some (key last)) page = [] := by
    refine List.eq_nil_iff_forall_not_mem.mpr fun row hrow => ?_
    obtain ⟨hmem, hlt⟩ := mem_past.mp hrow
    exact absurd (hlt _ rfl) (not_lt.mpr (hpage row hmem))
  have happend : past key (some (key last)) (page ++ rest) =
      past key (some (key last)) page ++ past key (some (key last)) rest :=
    List.filter_append _ _
  have hparts : (past key (some (key last)) rows).Perm
      (past key (some (key last)) (page ++ rest)) := past_perm hperm
  rw [happend, hnone, List.nil_append] at hparts
  exact hparts

/-- A page and what its cursor leaves hold no row twice. -/
theorem IsPage.subperm (h : IsPage key limit rows page) (hlast : page.getLast? = some last) :
    (page ++ past key (some (key last)) rows).Subperm rows := by
  obtain ⟨rest, hperm, hpast, -⟩ := h.past_last hlast
  have hsub : (past key (some (key last)) rest).Subperm rest := List.filter_sublist.subperm
  exact ((List.Perm.append_left page hpast).subperm.trans
    ((List.subperm_append_left page).mpr hsub)).trans hperm.symm.subperm

/-- After a page that has room, nothing is left. -/
theorem IsPage.past_of_short (h : IsPage key limit rows page) (hlast : page.getLast? = some last)
    (hshort : page.length < limit) : past key (some (key last)) rows = [] := by
  obtain ⟨rest, -, hpast, -, -, hfull⟩ := h.past_last hlast
  have hrest : rest = [] := hfull.resolve_right (by omega)
  rw [hrest] at hpast
  exact List.perm_nil.mp hpast

/-! ## Ties -/

/-- A page ends between two rows with the same key `t`: a multiple of `limit` lies strictly
between the number of rows above `t` and the number of rows from `t` on. -/
def SplitsTie (key : α → κ) (limit : Nat) (rows : List α) : Prop :=
  ∃ t : κ, ∃ k : Nat, rows.countP (fun row => decide (t < key row)) < k * limit ∧
    k * limit < rows.countP (fun row => decide (t ≤ key row))

theorem splitsTie_perm {rows' : List α} (h : rows.Perm rows') :
    SplitsTie key limit rows ↔ SplitsTie key limit rows' := by
  unfold SplitsTie
  simp only [h.countP_eq]

theorem not_splitsTie_nil : ¬ SplitsTie key limit ([] : List α) := by
  rintro ⟨t, k, -, h⟩
  exact absurd h (Nat.not_lt_zero _)

/-- All rows of a list count where all have the property. -/
private theorem countP_eq_length_of {p : α → Bool} (h : ∀ row ∈ rows, p row = true) :
    rows.countP p = rows.length :=
  List.countP_eq_length.mpr h

/-- A row after a full page with the key of the last of the page splits a tie. -/
theorem splitsTie_of_tie {rest : List α} {row : α} (hmem : last ∈ page)
    (hpage : ∀ row ∈ page, key last ≤ key row) (hrest : ∀ row ∈ rest, key row ≤ key last)
    (hfull : page.length = limit) (hrow : row ∈ rest) (htie : key row = key last) :
    SplitsTie key limit (page ++ rest) := by
  refine ⟨key last, 1, ?_, ?_⟩
  · rw [List.countP_append]
    have hnone : rest.countP (fun row => decide (key last < key row)) = 0 := by
      rw [List.countP_eq_zero]
      intro r hr
      have hle : key r ≤ key last := hrest r hr
      simpa using hle
    have hlt : page.countP (fun row => decide (key last < key row)) < page.length := by
      refine lt_of_le_of_ne List.countP_le_length fun heq => ?_
      have hall := List.countP_eq_length.mp heq last hmem
      exact absurd (of_decide_eq_true hall) (lt_irrefl _)
    omega
  · rw [List.countP_append]
    have hall : page.countP (fun row => decide (key last ≤ key row)) = page.length :=
      countP_eq_length_of fun r hr => decide_eq_true (hpage r hr)
    have hone : 0 < rest.countP (fun row => decide (key last ≤ key row)) :=
      List.countP_pos_iff.mpr ⟨row, hrow, decide_eq_true htie.ge⟩
    omega

/-- A page that ends between two keys splits no tie: a tie is split after it or not at all. -/
theorem splitsTie_append {rest : List α} {c : κ} (hpage : ∀ row ∈ page, c ≤ key row)
    (hrest : ∀ row ∈ rest, key row < c) (hle : page.length ≤ limit)
    (hfull : rest = [] ∨ page.length = limit) :
    SplitsTie key limit (page ++ rest) ↔ SplitsTie key limit rest := by
  -- The counts of a key below the page are those in the rest and the whole page.
  have hpast : ∀ t < c, page.countP (fun row => decide (t < key row)) = page.length ∧
      page.countP (fun row => decide (t ≤ key row)) = page.length := by
    intro t ht
    exact ⟨countP_eq_length_of fun r hr => decide_eq_true (lt_of_lt_of_le ht (hpage r hr)),
      countP_eq_length_of fun r hr => decide_eq_true (lt_of_lt_of_le ht (hpage r hr)).le⟩
  constructor
  · rintro ⟨t, k, hlow, hhigh⟩
    rw [List.countP_append] at hlow hhigh
    by_cases ht : t < c
    · obtain ⟨habove, hfrom⟩ := hpast t ht
      rw [habove] at hlow
      rw [hfrom] at hhigh
      rcases hfull with rfl | hfull
      · rw [List.countP_nil] at hlow hhigh
        omega
      · cases k with
        | zero => omega
        | succ k =>
            rw [Nat.succ_mul] at hlow hhigh
            exact ⟨t, k, by omega, by omega⟩
    · have hnone : rest.countP (fun row => decide (t ≤ key row)) = 0 := by
        rw [List.countP_eq_zero]
        intro r hr
        have hlt : key r < t := lt_of_lt_of_le (hrest r hr) (not_lt.mp ht)
        simpa using hlt
      have hpageLe : page.countP (fun row => decide (t ≤ key row)) ≤ page.length :=
        List.countP_le_length
      cases k with
      | zero => omega
      | succ k =>
          rw [Nat.succ_mul] at hhigh
          omega
  · rintro ⟨t, k, hlow, hhigh⟩
    obtain ⟨r, hr, hkey⟩ : ∃ r ∈ rest, t ≤ key r := by
      obtain ⟨r, hr, hkey⟩ := List.countP_pos_iff.mp (Nat.zero_lt_of_lt hhigh)
      exact ⟨r, hr, of_decide_eq_true hkey⟩
    obtain ⟨habove, hfrom⟩ := hpast t (lt_of_le_of_lt hkey (hrest r hr))
    have hlength : page.length = limit := hfull.resolve_left (List.ne_nil_of_mem hr)
    refine ⟨t, k + 1, ?_, ?_⟩
    · rw [List.countP_append, habove, Nat.succ_mul]
      omega
    · rw [List.countP_append, hfrom, Nat.succ_mul]
      omega

/-- A collection splits a tie where its first page loses a row to its cursor, or what the cursor
leaves splits one. -/
theorem IsPage.splitsTie_iff (h : IsPage key limit rows page)
    (hlast : page.getLast? = some last) :
    SplitsTie key limit rows ↔ ¬ (page ++ past key (some (key last)) rows).Perm rows ∨
      SplitsTie key limit (past key (some (key last)) rows) := by
  obtain ⟨rest, hperm, hpast, hpage, hrest, hfull⟩ := h.past_last hlast
  have hwhole : (page ++ past key (some (key last)) rows).Perm rows ↔
      (past key (some (key last)) rest).Perm rest := by
    constructor
    · intro hrows
      have hboth : (page ++ past key (some (key last)) rest).Perm (page ++ rest) :=
        ((List.Perm.append_left page hpast).symm.trans hrows).trans hperm
      exact (List.perm_append_left_iff page).mp hboth
    · intro hkept
      exact (List.Perm.append_left page (hpast.trans hkept)).trans hperm.symm
  rw [splitsTie_perm hperm, hwhole, splitsTie_perm hpast]
  by_cases hlt : ∀ row ∈ rest, key row < key last
  · have hkept : past key (some (key last)) rest = rest :=
      List.filter_eq_self.mpr fun row hrow => decide_eq_true (hlt row hrow)
    rw [hkept, splitsTie_append hpage hlt h.length_le hfull]
    exact ⟨Or.inr, fun hor => hor.resolve_left (not_not_intro (List.Perm.refl rest))⟩
  · obtain ⟨row, hrow, hge⟩ : ∃ row ∈ rest, ¬ key row < key last := by
      simpa using hlt
    have htie : key row = key last := le_antisymm (hrest row hrow) (not_lt.mp hge)
    have hsplits := splitsTie_of_tie (List.mem_of_getLast? hlast) hpage hrest
      (hfull.resolve_left (List.ne_nil_of_mem hrow)) hrow htie
    refine iff_of_true hsplits (Or.inl fun hkept => ?_)
    exact hge ((mem_past.mp (hkept.mem_iff.mpr hrow)).2 _ rfl)

/-! ## Walks -/

/-- The cursor of a page is below the cursor that it was read with. -/
theorem IsPage.cursor_le (h : IsPage key limit (past key cursor rows) page)
    (hlast : page.getLast? = some last) : ∀ d ∈ cursor, key last ≤ d :=
  fun d hd => ((mem_past.mp (h.mem (List.mem_of_getLast? hlast))).2 d hd).le

/-- No walk returns a row twice. -/
theorem Walk.subperm {pages : List (List α)} (h : Walk key limit rows cursor pages) :
    pages.flatten.Subperm (past key cursor rows) := by
  induction h with
  | stop hpage => exact List.nil_subperm
  | next hpage hlast hrest ih =>
      have hstep := hpage.subperm hlast
      rw [past_past (hpage.cursor_le hlast)] at hstep
      exact ((List.subperm_append_left _).mpr ih).trans hstep

/-- A walk returns every row below its cursor exactly once where no page ends between equal
keys, and no walk does otherwise. -/
theorem walk_perm_iff {pages : List (List α)} (hlimit : 0 < limit)
    (h : Walk key limit rows cursor pages) :
    pages.flatten.Perm (past key cursor rows) ↔ ¬ SplitsTie key limit (past key cursor rows) := by
  induction h with
  | stop hpage =>
      rw [hpage.eq_nil hlimit]
      exact iff_of_true (List.Perm.refl []) not_splitsTie_nil
  | @next cursor page last pages hpage hlast hrest ih =>
      have hstep := hpage.splitsTie_iff hlast
      have hsub := hpage.subperm hlast
      rw [past_past (hpage.cursor_le hlast)] at hstep hsub
      have hpages : (page ++ pages.flatten).Subperm (page ++ past key (some (key last)) rows) :=
        (List.subperm_append_left page).mpr hrest.subperm
      rw [hstep, not_or, not_not, ← ih, List.flatten_cons]
      constructor
      · intro hperm
        -- The walk's rows, the page and its rest, and all rows are then equally many.
        have hall : (page ++ past key (some (key last)) rows).Perm (past key cursor rows) :=
          hsub.perm_of_length_le (hperm.length_eq ▸ hpages.length_le)
        exact ⟨hall, (List.perm_append_left_iff page).mp (hperm.trans hall.symm)⟩
      · rintro ⟨hall, hperm⟩
        exact (List.Perm.append_left page hperm).trans hall

/-- A walk ends, whatever pages it reads. -/
theorem exists_walk (key : α → κ) (limit : Nat) (rows : List α) (cursor : Option κ) :
    ∃ pages, Walk key limit rows cursor pages := by
  induction hn : (past key cursor rows).length using Nat.strong_induction_on
    generalizing cursor with
  | _ n ih =>
      obtain ⟨page, hpage⟩ := exists_isPage key limit (past key cursor rows)
      cases hlast : page.getLast? with
      | none =>
          rw [List.getLast?_eq_none_iff] at hlast
          subst hlast
          exact ⟨_, .stop hpage⟩
      | some last =>
          have hsub := (hpage.subperm hlast).length_le
          have hpos : 0 < page.length := List.length_pos_of_mem (List.mem_of_getLast? hlast)
          rw [past_past (hpage.cursor_le hlast), List.length_append] at hsub
          obtain ⟨pages, hpages⟩ := ih _ (by omega) (some (key last)) rfl
          exact ⟨page :: pages, .next hpage hlast hpages⟩

end Keyset
