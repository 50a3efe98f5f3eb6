/-
Systems that move by labelled steps, where a step that cannot happen is `none`. A system whose steps
are finer than those of another is compared with it at its commits (`Simulation.run`); what another
thread does while a section is in progress could have been done before the section if it commutes with
what is left of it (`Commutes.before`); and a system comes to rest if some step of its own lowers a
measure until it does (`exists_run_of_measure`), with no more work than the measure says
(`countP_le_measure`).
-/
import Mathlib.Data.List.Basic
import Mathlib.Tactic.Common

namespace Moves

variable {ε δ σ τ : Type}

/-! ## Runs -/

def run (step : σ → ε → Option σ) (s : σ) : List ε → Option σ
  | [] => some s
  | e :: es => (step s e).bind fun s' => run step s' es

theorem run_append {step : σ → ε → Option σ} : ∀ (es fs : List ε) {s s' : σ}, run step s es = some s' →
    run step s (es ++ fs) = run step s' fs
  | [], fs, s, s', h => by
    cases h
    rfl
  | e :: es, fs, s, s', h => by
    obtain ⟨s₁, h₁, h₂⟩ := Option.bind_eq_some_iff.mp h
    show (step s e).bind _ = _
    rw [h₁]
    exact run_append es fs h₂

/-- A property that every step of a kind keeps holds behind every run of such steps. -/
theorem run_invariant_of {step : σ → ε → Option σ} {Inv : σ → Prop} {ok : ε → Prop}
    (hstep : ∀ {s s' : σ} {e : ε}, Inv s → ok e → step s e = some s' → Inv s') : ∀ (es : List ε) {s s' : σ},
    (∀ e ∈ es, ok e) → Inv s → run step s es = some s' → Inv s'
  | [], s, s', _, hs, h => by
    cases h
    exact hs
  | e :: es, s, s', hok, hs, h => by
    obtain ⟨s₁, h₁, h₂⟩ := Option.bind_eq_some_iff.mp h
    exact run_invariant_of hstep es (fun x hx => hok x (List.mem_cons_of_mem e hx))
      (hstep hs (hok e List.mem_cons_self) h₁) h₂

/-- A property that every step keeps holds behind every run. -/
theorem run_invariant {step : σ → ε → Option σ} {Inv : σ → Prop}
    (hstep : ∀ {s s' : σ} {e : ε}, Inv s → step s e = some s' → Inv s') (es : List ε) {s s' : σ} (hs : Inv s)
    (h : run step s es = some s') : Inv s' :=
  run_invariant_of (fun hs (_ : True) h => hstep hs h) es (fun _ _ => trivial) hs h

/-! ## Commits -/

/-- What a run commits, `commit` being what a single step does. -/
def commits (step : σ → ε → Option σ) (commit : σ → ε → List δ) (s : σ) : List ε → List δ
  | [] => []
  | e :: es => commit s e ++ ((step s e).map fun s' => commits step commit s' es).getD []

/-- Every step of the finer system is answered by the steps it commits. -/
structure Simulation (step : σ → ε → Option σ) (commit : σ → ε → List δ) (step' : τ → δ → Option τ)
    (R : σ → τ → Prop) : Prop where
  simulates : ∀ {s s' : σ} {t : τ} {e : ε}, R s t → step s e = some s' →
    ∃ t', run step' t (commit s e) = some t' ∧ R s' t'

theorem Simulation.run {step : σ → ε → Option σ} {commit : σ → ε → List δ} {step' : τ → δ → Option τ}
    {R : σ → τ → Prop} (hR : Simulation step commit step' R) : ∀ (es : List ε) {s s' : σ} {t : τ}, R s t →
    run step s es = some s' → ∃ t', run step' t (commits step commit s es) = some t' ∧ R s' t'
  | [], s, s', t, hs, h => by
    cases h
    exact ⟨t, rfl, hs⟩
  | e :: es, s, s', t, hs, h => by
    obtain ⟨s₁, h₁, h₂⟩ := Option.bind_eq_some_iff.mp h
    obtain ⟨t₁, ht₁, hs₁⟩ := hR.simulates hs h₁
    obtain ⟨t', ht', hs'⟩ := hR.run es hs₁ h₂
    refine ⟨t', ?_, hs'⟩
    show Moves.run step' t (commit s e ++ ((step s e).map _).getD []) = some t'
    rw [h₁, run_append _ _ ht₁]
    exact ht'

/-- What is taken in comes out at the commits, in order: `k` is what a state has taken in and not yet
committed. -/
theorem commits_ledger {β : Type} {step : σ → ε → Option σ} {commit : σ → ε → List δ} {taken : ε → Option β}
    {given : δ → Option β} {k : σ → List β}
    (hstep : ∀ (s s' : σ) (e : ε), step s e = some s' →
      (commit s e).filterMap given ++ k s' = k s ++ (taken e).toList) : ∀ (es : List ε) {s s' : σ},
    run step s es = some s' → (commits step commit s es).filterMap given ++ k s' = k s ++ es.filterMap taken
  | [], s, s', h => by
    cases h
    simp [commits]
  | e :: es, s, s', h => by
    obtain ⟨s₁, h₁, h₂⟩ := Option.bind_eq_some_iff.mp h
    have hrest := commits_ledger hstep es h₂
    have hone := hstep s s₁ e h₁
    unfold commits
    rw [h₁]
    show (commit s e ++ commits step commit s₁ es).filterMap given ++ k s' = _
    rw [List.filterMap_append, List.append_assoc, hrest, ← List.append_assoc, hone, List.append_assoc]
    congr 1
    cases ht : taken e <;> simp [ht]

/-! ## Sections in progress -/

/-- The two can be taken in either order, with the same result. -/
def Commutes (f g : σ → Option σ) : Prop := ∀ s, (f s).bind g = (g s).bind f

/-- `rest` is what is left at `s` of the section `whole` that is to start at `t`. A step `f` of another
thread that commutes with both could have been taken before the section. -/
theorem Commutes.before {f rest whole : σ → Option σ} (hrest : Commutes f rest) (hwhole : Commutes f whole)
    {s s' t : σ} (h : rest s = whole t) (hf : f s = some s') (hends : (rest s').isSome = true) :
    ∃ t', f t = some t' ∧ rest s' = whole t' := by
  have he : rest s' = (f t).bind whole := by
    calc rest s' = (f s).bind rest := by rw [hf]; rfl
      _ = (rest s).bind f := hrest s
      _ = (whole t).bind f := by rw [h]
      _ = (f t).bind whole := (hwhole t).symm
  cases ht : f t with
  | none => rw [he, ht] at hends; exact absurd hends Bool.false_ne_true
  | some t' => exact ⟨t', rfl, by rw [he, ht]; rfl⟩

/-- A part of a state, to be read and replaced. -/
structure Part (σ π : Type) where
  get : σ → π
  put : π → σ → σ
  put_get : ∀ s, put (get s) s = s
  get_put : ∀ x s, get (put x s) = x

/-- `f` does the same whatever is in the part, and leaves it there. -/
def Part.Ignored {π : Type} (p : Part σ π) (f : σ → Option σ) : Prop := ∀ x s, f (p.put x s) = (f s).map (p.put x)

theorem Part.Ignored.bind {π : Type} {p : Part σ π} {f g : σ → Option σ} (hf : p.Ignored f) (hg : p.Ignored g) :
    p.Ignored fun s => (f s).bind g := by
  intro x s
  show (f (p.put x s)).bind g = ((f s).bind g).map (p.put x)
  rw [hf]
  cases f s with
  | none => rfl
  | some s' => exact hg x s'

theorem Part.Ignored.get_eq {π : Type} {p : Part σ π} {f : σ → Option σ} (hf : p.Ignored f) {s s' : σ}
    (h : f s = some s') : p.get s' = p.get s := by
  have hs := hf (p.get s) s
  rw [p.put_get, h] at hs
  have he : s' = p.put (p.get s) s' := Option.some.inj hs
  rw [he, p.get_put]

/-- A step that works on one part, with a view to a value that the section keeps, commutes with a section
that ignores the part. -/
theorem Commutes.of_part {π γ : Type} {p : Part σ π} {f sec : σ → Option σ} {v : σ → γ}
    (hf : ∀ s t, v t = v s → p.get t = p.get s → f t = (f s).map fun s' => p.put (p.get s') t)
    (hs : p.Ignored sec) (hkeeps : ∀ {s s' : σ}, sec s = some s' → v s' = v s) : Commutes f sec := by
  intro s
  have hself := hf s s rfl rfl
  cases h : sec s with
  | none =>
    cases hfs : f s with
    | none => rfl
    | some s₁ =>
      rw [hfs] at hself
      have h₁ : s₁ = p.put (p.get s₁) s := Option.some.inj hself
      show sec s₁ = none
      rw [h₁, hs, h]
      rfl
  | some s' =>
    show (f s).bind sec = f s'
    rw [hf s s' (hkeeps h) (hs.get_eq h)]
    cases hfs : f s with
    | none => rfl
    | some s₁ =>
      rw [hfs] at hself
      have h₁ : s₁ = p.put (p.get s₁) s := Option.some.inj hself
      show sec s₁ = some (p.put (p.get s₁) s')
      conv_lhs => rw [h₁]
      rw [hs, h]
      rfl

/-! ## Coming to rest -/

/-- Where no step of `own` raises the measure and those that work lower it, a run of them works no more
often than the measure says. -/
theorem countP_le_measure {step : σ → ε → Option σ} {Inv : σ → Prop} {own : ε → Bool} (works : ε → Bool) (μ : σ → Nat)
    (hinv : ∀ {s s' : σ} {e : ε}, Inv s → step s e = some s' → Inv s')
    (hstep : ∀ {s s' : σ} {e : ε}, Inv s → own e = true → step s e = some s' → μ s' + (works e).toNat ≤ μ s) :
    ∀ (es : List ε) {s s' : σ}, Inv s → (∀ e ∈ es, own e = true) → run step s es = some s' →
      es.countP works + μ s' ≤ μ s
  | [], s, s', _, _, h => by
    cases h
    simp
  | e :: es, s, s', hs, hown, h => by
    obtain ⟨s₁, h₁, h₂⟩ := Option.bind_eq_some_iff.mp h
    have hone := hstep hs (hown e List.mem_cons_self) h₁
    have hrest := countP_le_measure works μ hinv hstep es (hinv hs h₁)
      (fun x hx => hown x (List.mem_cons_of_mem _ hx)) h₂
    rw [List.countP_cons]
    cases hw : works e <;> simp only [hw, Bool.toNat_true, Bool.toNat_false] at hone ⊢ <;> simp <;> omega

/-- Where some step of `own` lowers the measure as long as the system is not at rest, as many steps as the
measure says lead to rest. -/
theorem exists_run_of_measure {step : σ → ε → Option σ} {Inv Rest : σ → Prop} {own : ε → Bool} (μ : σ → Nat)
    (hstep : ∀ s, Inv s → Rest s ∨ ∃ e s', own e = true ∧ step s e = some s' ∧ Inv s' ∧ μ s' < μ s) :
    ∀ (n : Nat) (s : σ), μ s ≤ n → Inv s →
    ∃ es s', (∀ e ∈ es, own e = true) ∧ es.length ≤ n ∧ run step s es = some s' ∧ Inv s' ∧ Rest s' := by
  intro n
  induction n with
  | zero =>
    intro s hn hs
    rcases hstep s hs with hr | ⟨e, s', -, -, -, hlt⟩
    · exact ⟨[], s, by simp, Nat.le_refl _, rfl, hs, hr⟩
    · omega
  | succ n ih =>
    intro s hn hs
    rcases hstep s hs with hr | ⟨e, s₁, he, h₁, hs₁, hlt⟩
    · exact ⟨[], s, by simp, Nat.zero_le _, rfl, hs, hr⟩
    · obtain ⟨es, s', hown, hlen, hrun, hs', hr⟩ := ih s₁ (by omega) hs₁
      refine ⟨e :: es, s', ?_, Nat.succ_le_succ hlen, ?_, hs', hr⟩
      · intro x hx
        rcases List.mem_cons.mp hx with rfl | hx
        · exact he
        · exact hown x hx
      · show (step s e).bind _ = _
        rw [h₁]
        exact hrun

end Moves
