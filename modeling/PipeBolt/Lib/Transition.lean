import Mathlib.Data.List.Basic

/-!
# Labelled transition systems

Runs of a labelled transition system, with the rules that carry a fact about one step to a
fact about every step of a run.

* `Edge`: one step taken, with its two states and its label.
* `Run`: the runs of a step relation, each with the list of its edges.
* `Run.invariant`: what every allowed step preserves holds along every allowed run.
* `Run.forall_edge`: what holds of every step from an invariant state holds of every edge.
* `Run.history`: an invariant that may also look back at the steps taken so far.
* `Run.pairwise`: what a step leaves behind relates it to every later step.
* `Run.map`: a function of states that maps steps to steps maps runs to runs.
* `Run.simulate`: a system that matches every step of another matches its runs.
-/

namespace Transition

universe u v

variable {σ : Type u} {ℓ : Type v}

/-- One step: the state it leaves, its label and the state it enters. -/
structure Edge (σ : Type u) (ℓ : Type v) where
  source : σ
  label : ℓ
  target : σ

variable (step : σ → ℓ → σ → Prop)

/-- A run from one state to another along a list of edges. -/
inductive Run : σ → List (Edge σ ℓ) → σ → Prop
  | nil (s : σ) : Run s [] s
  | cons {s t r : σ} {l : ℓ} {es : List (Edge σ ℓ)} :
      step s l t → Run t es r → Run s (⟨s, l, t⟩ :: es) r

variable {step}

theorem Run.append {s t r : σ} {es fs : List (Edge σ ℓ)} (h : Run step s es t)
    (k : Run step t fs r) : Run step s (es ++ fs) r := by
  induction h with
  | nil => exact k
  | cons hs _ ih => exact .cons hs (ih k)

/-- A run extended by one step at its end. -/
theorem Run.snoc {s t r : σ} {l : ℓ} {es : List (Edge σ ℓ)} (h : Run step s es t)
    (k : step t l r) : Run step s (es ++ [⟨t, l, r⟩]) r :=
  h.append (.cons k (.nil r))

/-- A run cut between two of its edges. -/
theorem Run.cut {s t : σ} {es fs : List (Edge σ ℓ)} (h : Run step s (es ++ fs) t) :
    ∃ r, Run step s es r ∧ Run step r fs t := by
  induction es generalizing s with
  | nil => exact ⟨s, .nil s, h⟩
  | cons e es ih =>
    obtain _ | ⟨hstep, htail⟩ := h
    obtain ⟨r, hes, hfs⟩ := ih htail
    exact ⟨r, .cons hstep hes, hfs⟩

/-- A run cut at the step with the label that stands at a place. -/
theorem Run.cut_label {s t : σ} {es : List (Edge σ ℓ)} {before after : List ℓ} {l : ℓ}
    (h : Run step s es t) (hlabels : es.map Edge.label = before ++ l :: after) :
    ∃ past source target rest, Run step s past source ∧ past.map Edge.label = before ∧
      step source l target ∧ Run step target rest t ∧ rest.map Edge.label = after := by
  obtain ⟨past, later, rfl, hpast, hlater⟩ := List.map_eq_append_iff.mp hlabels
  obtain ⟨e, rest, rfl, rfl, hrest⟩ := List.map_eq_cons_iff.mp hlater
  obtain ⟨r, hbefore, hafter⟩ := h.cut
  obtain _ | ⟨hstep, htail⟩ := hafter
  exact ⟨past, r, _, rest, hbefore, hpast, hstep, htail, hrest⟩

/-- Every edge of a run is a step. -/
theorem Run.step_of_mem {s t : σ} {es : List (Edge σ ℓ)} (h : Run step s es t) :
    ∀ e ∈ es, step e.source e.label e.target := by
  induction h with
  | nil => exact fun _ he => (nomatch he)
  | cons hs _ ih => exact List.forall_mem_cons.mpr ⟨hs, ih⟩

/-- A run cut at one of its edges. -/
theorem Run.split_of_mem {s t : σ} {es : List (Edge σ ℓ)} (h : Run step s es t) {e : Edge σ ℓ}
    (he : e ∈ es) : ∃ before after, es = before ++ e :: after ∧ Run step s before e.source ∧
      step e.source e.label e.target ∧ Run step e.target after t := by
  induction h with
  | nil => exact nomatch he
  | @cons a b c l es hab hbc ih =>
    rcases List.mem_cons.mp he with rfl | he
    · exact ⟨[], es, rfl, .nil a, hab, hbc⟩
    · obtain ⟨before, after, rfl, hbefore, hstep, hafter⟩ := ih he
      exact ⟨⟨a, l, b⟩ :: before, after, rfl, .cons hab hbefore, hstep, hafter⟩

/-- What every allowed step preserves holds at both ends of every edge of an allowed run, and at
its end. -/
theorem Run.invariant (Inv : σ → Prop) (Ok : Edge σ ℓ → Prop)
    (hstep : ∀ e : Edge σ ℓ, Ok e → step e.source e.label e.target → Inv e.source → Inv e.target)
    {s t : σ} {es : List (Edge σ ℓ)} (h : Run step s es t) (hok : ∀ e ∈ es, Ok e) (hs : Inv s) :
    Inv t ∧ ∀ e ∈ es, Inv e.source ∧ Inv e.target := by
  induction h with
  | nil => exact ⟨hs, fun _ he => (nomatch he)⟩
  | @cons a b c l es hab hbc ih =>
    obtain ⟨hhead, htail⟩ := List.forall_mem_cons.mp hok
    have hb : Inv b := hstep ⟨a, l, b⟩ hhead hab hs
    obtain ⟨hc, hes⟩ := ih htail hb
    exact ⟨hc, List.forall_mem_cons.mpr ⟨⟨hs, hb⟩, hes⟩⟩

/-- The invariant rule with every step allowed. -/
theorem Run.invariant' (Inv : σ → Prop)
    (hstep : ∀ s l t, step s l t → Inv s → Inv t)
    {s t : σ} {es : List (Edge σ ℓ)} (h : Run step s es t) (hs : Inv s) :
    Inv t ∧ ∀ e ∈ es, Inv e.source ∧ Inv e.target :=
  h.invariant Inv (fun _ => True) (fun e _ => hstep e.source e.label e.target)
    (fun _ _ => trivial) hs

/-- What holds of every step taken from an invariant state holds of every edge of a run. -/
theorem Run.forall_edge (Inv : σ → Prop) (P : Edge σ ℓ → Prop)
    (hstep : ∀ s l t, step s l t → Inv s → Inv t)
    (hP : ∀ e : Edge σ ℓ, step e.source e.label e.target → Inv e.source → P e)
    {s t : σ} {es : List (Edge σ ℓ)} (h : Run step s es t) (hs : Inv s) : ∀ e ∈ es, P e :=
  fun e he => hP e (h.step_of_mem e he) ((h.invariant' Inv hstep hs).2 e he).1

/-- An invariant of the state and of the steps that led to it: what holds before the first step,
and is kept by every further step, holds at the end of every run. -/
theorem Run.history (P : List (Edge σ ℓ) → σ → Prop)
    (hstep : ∀ es s l t, P es s → step s l t → P (es ++ [⟨s, l, t⟩]) t)
    {s t : σ} {es : List (Edge σ ℓ)} (h : Run step s es t) (hs : P [] s) : P es t := by
  -- The steps already taken grow along the run, so the induction is on what is still to come.
  have hfrom : ∀ past : List (Edge σ ℓ), P past s → P (past ++ es) t := by
    clear hs
    induction h with
    | nil =>
      intro past hpast
      simpa using hpast
    | @cons a b c l es hab _ ih =>
      intro past hpast
      have hnext := ih _ (hstep past a l b hpast hab)
      simpa using hnext
  simpa using hfrom [] hs

/-- What a step leaves behind, and every further step keeps, relates it to every later step. -/
theorem Run.pairwise (Inv : σ → Prop) (Left : Edge σ ℓ → σ → Prop)
    (R : Edge σ ℓ → Edge σ ℓ → Prop)
    (hstep : ∀ s l t, step s l t → Inv s → Inv t)
    (hleave : ∀ e : Edge σ ℓ, step e.source e.label e.target → Inv e.source → Left e e.target)
    (hkeep : ∀ e s l t, step s l t → Inv s → Left e s → Left e t)
    (hrel : ∀ e e' : Edge σ ℓ, step e'.source e'.label e'.target → Inv e'.source →
      Left e e'.source → R e e')
    {s t : σ} {es : List (Edge σ ℓ)} (h : Run step s es t) (hs : Inv s) : es.Pairwise R := by
  induction h with
  | nil => exact .nil
  | @cons a b c l es hab hbc ih =>
    have hb : Inv b := hstep a l b hab hs
    refine .cons ?_ (ih hb)
    -- What the first step leaves behind is there before each later step.
    have hlater := hbc.forall_edge (fun u => Inv u ∧ Left ⟨a, l, b⟩ u) (R ⟨a, l, b⟩)
      (fun u l' v huv hu => ⟨hstep u l' v huv hu.1, hkeep _ u l' v huv hu.1 hu.2⟩)
      (fun e he hu => hrel _ e he hu.1 hu.2)
    exact hlater ⟨hb, hleave ⟨a, l, b⟩ hab hs⟩

/-- What the steps of a run log, after one further step. -/
theorem filterMap_snoc {α : Type u} {β : Type v} (f : α → Option β) (past : List α) (a : α) :
    (past ++ [a]).filterMap f = past.filterMap f ++ (f a).toList := by
  rw [List.filterMap_append]
  cases h : f a with
  | none => rw [List.filterMap_cons_none h, List.filterMap_nil, Option.toList_none]
  | some b => rw [List.filterMap_cons_some h, List.filterMap_nil, Option.toList_some]

/-! ## Simulation -/

variable {σ' : Type u} {ℓ' : Type v} {step' : σ' → ℓ' → σ' → Prop}

/-- A system that matches every step of another by one step of its own, or by none, matches every
run: its labels are those of the run, with the unmatched ones left out. -/
theorem Run.simulate (R : σ → σ' → Prop) (f : Edge σ ℓ → Option ℓ')
    (hskip : ∀ e a, step e.source e.label e.target → R e.source a → f e = none → R e.target a)
    (hmove : ∀ e a l', step e.source e.label e.target → R e.source a → f e = some l' →
      ∃ b, step' a l' b ∧ R e.target b)
    {s t : σ} {es : List (Edge σ ℓ)} (h : Run step s es t) {a : σ'} (hs : R s a) :
    ∃ fs b, Run step' a fs b ∧ R t b ∧ fs.map Edge.label = es.filterMap f := by
  induction h generalizing a with
  | nil => exact ⟨[], a, .nil a, hs, rfl⟩
  | @cons s t r l es hst _ ih =>
    cases hl : f ⟨s, l, t⟩ with
    | none =>
      obtain ⟨fs, b, hrun, hb, hlabels⟩ := ih (hskip ⟨s, l, t⟩ a hst hs hl)
      refine ⟨fs, b, hrun, hb, ?_⟩
      simp only [List.filterMap_cons, hl, hlabels]
    | some l' =>
      obtain ⟨b, hab, htb⟩ := hmove ⟨s, l, t⟩ a l' hst hs hl
      obtain ⟨fs, c, hrun, hc, hlabels⟩ := ih htb
      refine ⟨⟨a, l', b⟩ :: fs, c, .cons hab hrun, hc, ?_⟩
      simp only [List.filterMap_cons, hl, List.map_cons, hlabels]

/-- An edge under a function of states, with a label that may depend on the states. -/
def Edge.map (f : σ → σ') (g : Edge σ ℓ → ℓ') (e : Edge σ ℓ) : Edge σ' ℓ' :=
  ⟨f e.source, g e, f e.target⟩

/-- A function of states that maps steps to steps maps runs to runs. -/
theorem Run.map (f : σ → σ') (g : Edge σ ℓ → ℓ')
    (hstep : ∀ s l t, step s l t → step' (f s) (g ⟨s, l, t⟩) (f t))
    {s t : σ} {es : List (Edge σ ℓ)} (h : Run step s es t) :
    Run step' (f s) (es.map (Edge.map f g)) (f t) := by
  induction h with
  | nil => exact .nil _
  | cons hst _ ih => exact .cons (hstep _ _ _ hst) ih

end Transition
