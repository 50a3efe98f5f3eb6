/-
What a thread does on every path, whatever it sees on the way: its instructions follow a rule, an
automaton over a view of the machine that only instructions change (`Obeys`), and none of its waits can
hold it up for good (`Unblocked`).
-/
import Crazyradio.Lib.Thread

namespace Threads

variable {ι ε σ κ α β : Type}

/-! ## Rules -/

namespace Thread

/-- On every path from `x` the instructions are allowed, `rule x i` being where `i` leads from `x`, and `Q`
holds of the result and of where the thread ends. -/
def Obeys (rule : κ → ι → Option κ) (Q : α → κ → Prop) : Thread ι σ α → κ → Prop
  | done a, x => Q a x
  | step i next, x => ∃ y, rule x i = some y ∧ next.Obeys rule Q y
  | read next, x => ∀ s, (next s).Obeys rule Q x
  | wait timed _ i next, x =>
    (∃ y, rule x i = some y ∧ (next true).Obeys rule Q y) ∧ (timed = true → (next false).Obeys rule Q x)

/-- The instruction the thread stands before. -/
def instruction : Thread ι σ α → Option ι
  | step i _ | wait _ _ i _ => some i
  | done _ | read _ => none

variable {rule : κ → ι → Option κ} {Q : α → κ → Prop}

theorem Obeys.bind {R : β → κ → Prop} {k : α → Thread ι σ β} (hk : ∀ a x, Q a x → (k a).Obeys rule R x) :
    ∀ {t : Thread ι σ α} {x : κ}, t.Obeys rule Q x → (t >>= k).Obeys rule R x
  | done a, x, h => hk a x h
  | step _ _, _, ⟨y, hy, h⟩ => ⟨y, hy, h.bind hk⟩
  | read _, _, h => fun s => (h s).bind hk
  | wait _ _ _ _, _, ⟨⟨y, hy, h⟩, h'⟩ => ⟨⟨y, hy, h.bind hk⟩, fun ht => (h' ht).bind hk⟩

/-- The instruction a thread stands before is allowed. -/
theorem Obeys.allowed {t : Thread ι σ α} {x : κ} (h : t.Obeys rule Q x) {i : ι} (hi : t.instruction = some i) :
    ∃ y, rule x i = some y := by
  cases t with
  | done a => cases hi
  | read next => cases hi
  | step j next =>
    cases hi
    exact ⟨h.choose, h.choose_spec.1⟩
  | wait timed ready j next =>
    cases hi
    exact ⟨h.1.choose, h.1.choose_spec.1⟩

end Thread

namespace Platform

variable {P : Platform ι ε σ} {rule : κ → ι → Option κ} {view : σ → κ} {Q : α → κ → Prop}

/-- The rule says what the instructions do to the view, and the machine by itself leaves it alone. -/
structure Follows (P : Platform ι ε σ) (rule : κ → ι → Option κ) (view : σ → κ) : Prop where
  exec : ∀ {i : ι} {s : σ} {y : κ}, rule (view s) i = some y → view (P.exec i s) = y
  event : ∀ {e : ε} {s s' : σ}, P.event e s = some s' → view s' = view s

theorem Follows.step (hP : P.Follows rule view) {c : Choice ε} {t t' : Thread ι σ α} {s s' : σ}
    (h : t.Obeys rule Q (view s)) (hc : P.step c t s = some (t', s')) : t'.Obeys rule Q (view s') := by
  unfold Platform.step at hc
  split at hc
  · cases hc
    obtain ⟨y, hy, h⟩ := h
    rw [hP.exec hy]
    exact h
  · cases hc
    exact h _
  · split at hc
    · cases hc
      obtain ⟨⟨y, hy, h⟩, -⟩ := h
      rw [hP.exec hy]
      exact h
    · cases hc
  · cases hc
    exact h.2 rfl
  · obtain ⟨s₁, he, hc⟩ := Option.map_eq_some_iff.mp hc
    cases hc
    rw [hP.event he]
    exact h
  · cases hc

/-- Wherever a run leads, what is left of the thread obeys the rule from where the machine is. -/
theorem Follows.run (hP : P.Follows rule view) : ∀ (cs : List (Choice ε)) {t t' : Thread ι σ α} {s s' : σ},
    t.Obeys rule Q (view s) → P.run cs t s = some (t', s') → t'.Obeys rule Q (view s')
  | [], _, _, _, _, h, hc => by
    cases hc
    exact h
  | c :: cs, t, t', s, s', h, hc => by
    obtain ⟨⟨t₁, s₁⟩, h₁, h₂⟩ := Option.bind_eq_some_iff.mp hc
    exact hP.run cs (hP.step h h₁) h₂

/-! ## Waits -/

/-- Every wait of the thread is timed, or the machine can always go on by itself to where it ends. -/
def Unblocked (P : Platform ι ε σ) : Thread ι σ α → Prop
  | .done _ => True
  | .step _ next => P.Unblocked next
  | .read next => ∀ s, P.Unblocked (next s)
  | .wait timed ready _ next => (timed = true ∨ ∀ s, ∃ s', P.Rely s s' ∧ ready s' = true) ∧ ∀ b, P.Unblocked (next b)

theorem Unblocked.bind {k : α → Thread ι σ β} (hk : ∀ a, P.Unblocked (k a)) : ∀ {t : Thread ι σ α},
    P.Unblocked t → P.Unblocked (t >>= k)
  | .done a, _ => hk a
  | .step _ next, h => Unblocked.bind hk (t := next) h
  | .read _, h => fun s => (h s).bind hk
  | .wait _ _ _ _, h => ⟨h.1, fun b => (h.2 b).bind hk⟩

/-- No move, on whatever machine, takes a thread to where it can be held up. -/
theorem Unblocked.step {P' : Platform ι ε σ} {c : Choice ε} {t t' : Thread ι σ α} {s s' : σ} (h : P.Unblocked t)
    (hc : P'.step c t s = some (t', s')) : P.Unblocked t' := by
  unfold Platform.step at hc
  split at hc
  · cases hc
    exact h
  · cases hc
    exact h _
  · split at hc
    · cases hc
      exact h.2 _
    · cases hc
  · cases hc
    exact h.2 _
  · obtain ⟨s₁, -, hc⟩ := Option.map_eq_some_iff.mp hc
    cases hc
    exact h
  · cases hc

theorem Unblocked.run {P' : Platform ι ε σ} : ∀ (cs : List (Choice ε)) {t t' : Thread ι σ α} {s s' : σ},
    P.Unblocked t → P'.run cs t s = some (t', s') → P.Unblocked t'
  | [], _, _, _, _, h, hc => by
    cases hc
    exact h
  | c :: cs, t, t', s, s', h, hc => by
    obtain ⟨⟨t₁, s₁⟩, h₁, h₂⟩ := Option.bind_eq_some_iff.mp hc
    exact Unblocked.run cs (h.step h₁) h₂

/-- Such a thread can be brought to its end from every state. -/
theorem Unblocked.canEnd : ∀ {t : Thread ι σ α}, P.Unblocked t → ∀ s, P.CanEnd (fun _ _ => True) t s
  | .done _, _, _ => .done trivial
  | .step _ next, h, _ => (Unblocked.canEnd (t := next) h _).step
  | .read _, h, s => ((h s).canEnd s).read
  | .wait timed ready i next, h, s => by
    rcases h.1 with rfl | hready
    · exact ((h.2 false).canEnd s).move (c := .expire) rfl
    · obtain ⟨s', hr, hs⟩ := hready s
      exact (CanEnd.wait hs ((h.2 true).canEnd _)).rely hr

/-- A thread that obeys a rule and cannot be held up ends as the rule says. -/
theorem Follows.canEnd (hP : P.Follows rule view) {t : Thread ι σ α} {s : σ} (h : t.Obeys rule Q (view s))
    (hu : P.Unblocked t) : P.CanEnd (fun a s => Q a (view s)) t s := by
  obtain ⟨cs, a, s', hf, -⟩ := hu.canEnd s
  exact ⟨cs, a, s', hf, hP.run cs h (P.run_of_finish hf)⟩

end Platform

end Threads
