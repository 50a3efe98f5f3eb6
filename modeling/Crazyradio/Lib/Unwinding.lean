/-
What a part of the state depends on. If hidden steps always happen and leave a view of the state alone,
and what a visible step makes of the view depends on the view only, then so does what a run makes of it:
on the visible steps of the run and their order, and on nothing else.
-/
import Crazyradio.Lib.Moves

namespace Moves

variable {α β γ σ ν : Type}

/-- The two conditions, for steps in surroundings `γ` that the view should not depend on either. -/
structure Unwinds (step : γ → σ → α → Option σ) (view : σ → ν) (shown : α → Option β) : Prop where
  hidden : ∀ {g s a}, shown a = none → ∃ s', step g s a = some s' ∧ view s' = view s
  visible : ∀ {g g' s t a a' b}, shown a = some b → shown a' = some b → view s = view t →
    (step g s a).map view = (step g' t a').map view

namespace Unwinds

variable {step : γ → σ → α → Option σ} {view : σ → ν} {shown : α → Option β}

/-- A hidden step in front of a run makes no difference. -/
theorem run_hidden (h : Unwinds step view shown) {a : α} (ha : shown a = none) (g : γ) (s : σ) (as : List α) :
    ∃ s', view s' = view s ∧ run (step g) s (a :: as) = run (step g) s' as := by
  obtain ⟨s', hs, hv⟩ := h.hidden (g := g) (s := s) ha
  refine ⟨s', hv, ?_⟩
  show (step g s a).bind _ = _
  rw [hs]
  rfl

/-- A run of hidden steps. -/
theorem run_none (h : Unwinds step view shown) (g : γ) : ∀ (as : List α) (s : σ), as.filterMap shown = [] →
    ∃ s', run (step g) s as = some s' ∧ view s' = view s
  | [], s, _ => ⟨s, rfl, rfl⟩
  | a :: as, s, hn => by
    have ha : shown a = none := List.filterMap_eq_nil_iff.mp hn a List.mem_cons_self
    obtain ⟨s₁, hv₁, hrun⟩ := h.run_hidden ha g s as
    rw [List.filterMap_cons_none ha] at hn
    obtain ⟨s', hs, hv⟩ := h.run_none g as s₁ hn
    exact ⟨s', hrun.trans hs, hv.trans hv₁⟩

/-- A run up to its first visible step. -/
theorem run_some (h : Unwinds step view shown) (g : γ) {b : β} {l : List β} : ∀ (as : List α) (s : σ),
    as.filterMap shown = b :: l → ∃ s' a as', run (step g) s as = run (step g) s' (a :: as') ∧ view s' = view s ∧
      shown a = some b ∧ as'.filterMap shown = l
  | [], _, hl => by cases hl
  | a :: as, s, hl => by
    cases ha : shown a with
    | none =>
      obtain ⟨s₁, hv₁, hrun⟩ := h.run_hidden ha g s as
      rw [List.filterMap_cons_none ha] at hl
      obtain ⟨s', a', as', hs, hv, hrest⟩ := h.run_some g as s₁ hl
      exact ⟨s', a', as', hrun.trans hs, hv.trans hv₁, hrest⟩
    | some b' =>
      rw [List.filterMap_cons_some ha] at hl
      obtain ⟨rfl, hrest⟩ := List.cons.inj hl
      exact ⟨s, a, as, rfl, rfl, ha, hrest⟩

/-- Runs with the same visible steps fail together, or end with the same view. -/
theorem run_eq (h : Unwinds step view shown) (g g' : γ) : ∀ (l : List β) {as bs : List α} {s t : σ},
    as.filterMap shown = l → bs.filterMap shown = l → view s = view t →
    (run (step g) s as).map view = (run (step g') t bs).map view
  | [], as, bs, s, t, has, hbs, hv => by
    obtain ⟨s', hs, hvs⟩ := h.run_none g as s has
    obtain ⟨t', ht, hvt⟩ := h.run_none g' bs t hbs
    rw [hs, ht]
    exact congrArg some (hvs.trans (hv.trans hvt.symm))
  | b :: l, as, bs, s, t, has, hbs, hv => by
    obtain ⟨s', a, as', hs, hvs, ha, has'⟩ := h.run_some g as s has
    obtain ⟨t', a', bs', ht, hvt, ha', hbs'⟩ := h.run_some g' bs t hbs
    have hstep : (step g s' a).map view = (step g' t' a').map view :=
      h.visible ha ha' (hvs.trans (hv.trans hvt.symm))
    rw [hs, ht]
    show ((step g s' a).bind fun s' => run (step g) s' as').map view =
      ((step g' t' a').bind fun t' => run (step g') t' bs').map view
    cases hs : step g s' a with
    | none =>
      cases ht : step g' t' a' with
      | none => rfl
      | some t₁ =>
        rw [hs, ht] at hstep
        cases hstep
    | some s₁ =>
      cases ht : step g' t' a' with
      | none =>
        rw [hs, ht] at hstep
        cases hstep
      | some t₁ =>
        rw [hs, ht] at hstep
        exact h.run_eq g g' l has' hbs' (Option.some.inj hstep)

end Unwinds

end Moves
