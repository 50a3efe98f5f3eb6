/-
A thread over a machine that also moves by itself. The thread executes instructions one at a time,
looks at the state and waits; between any two of its steps, and while it waits, the machine may go
through any number of its own events. `Safe` is partial correctness under that interference: an
assertion about the state is used only where the machine's events keep it (`Stable`), so a proof
of a thread is a proof outline whose assertions are stable, as for sequential code otherwise.
-/
import Mathlib.Logic.Relation

namespace Threads

/-! ## Threads and runs -/

/-- What a thread runs on: the effect of its instructions, and what the machine does by itself at
an event, if the event can occur. -/
structure Platform (ι ε σ : Type) where
  exec : ι → σ → σ
  event : ε → σ → Option σ

/-- A thread. At `wait` it goes on with `true` where the condition holds, with the effect of the
instruction, or, if it is timed, with `false` at any time. -/
inductive Thread (ι σ α : Type)
  | done (a : α)
  | step (i : ι) (next : Thread ι σ α)
  | read (next : σ → Thread ι σ α)
  | wait (timed : Bool) (ready : σ → Bool) (i : ι) (next : Bool → Thread ι σ α)

namespace Thread

variable {ι σ α β : Type}

def bind : Thread ι σ α → (α → Thread ι σ β) → Thread ι σ β
  | done a, k => k a
  | step i next, k => step i (next.bind k)
  | read next, k => read fun s => (next s).bind k
  | wait timed ready i next, k => wait timed ready i fun b => (next b).bind k

instance : Monad (Thread ι σ) where
  pure := done
  bind := bind

theorem bind_assoc {γ : Type} (k : α → Thread ι σ β) (k' : β → Thread ι σ γ) :
    ∀ t : Thread ι σ α, t >>= k >>= k' = t >>= fun a => k a >>= k'
  | done _ => rfl
  | step i t => congrArg (step i) (bind_assoc k k' t)
  | read next => congrArg read (funext fun s => bind_assoc k k' (next s))
  | wait timed ready i next => congrArg (wait timed ready i) (funext fun b => bind_assoc k k' (next b))

/-- The thread waits for nothing. -/
def Straight : Thread ι σ α → Prop
  | done _ => True
  | step _ next => next.Straight
  | read next => ∀ s, (next s).Straight
  | wait .. => False

theorem Straight.bind {k : α → Thread ι σ β} (hk : ∀ a, (k a).Straight) :
    ∀ {t : Thread ι σ α}, t.Straight → (t >>= k).Straight
  | done a, _ => hk a
  | step _ next, h => Straight.bind hk (t := next) h
  | read _, h => fun s => (h s).bind hk
  | wait .., h => h.elim

/-- Every instruction of the thread satisfies `p`. -/
def All (p : ι → Prop) : Thread ι σ α → Prop
  | done _ => True
  | step i next => p i ∧ next.All p
  | read next => ∀ s, (next s).All p
  | wait _ _ i next => p i ∧ ∀ b, (next b).All p

theorem All.bind {p : ι → Prop} {k : α → Thread ι σ β} (hk : ∀ a, (k a).All p) :
    ∀ {t : Thread ι σ α}, t.All p → (t >>= k).All p
  | done a, _ => hk a
  | step _ _, h => ⟨h.1, h.2.bind hk⟩
  | read _, h => fun s => (h s).bind hk
  | wait _ _ _ _, h => ⟨h.1, fun b => (h.2 b).bind hk⟩

end Thread

/-- Who moves next: the thread, the timeout of its wait, or the machine. -/
inductive Choice (ε : Type)
  | thread
  | expire
  | event (e : ε)

namespace Platform

variable {ι ε σ α β : Type} (P : Platform ι ε σ)

/-- One move. -/
def step : Choice ε → Thread ι σ α → σ → Option (Thread ι σ α × σ)
  | .thread, .step i next, s => some (next, P.exec i s)
  | .thread, .read next, s => some (next s, s)
  | .thread, .wait _ ready i next, s => if ready s then some (next true, P.exec i s) else none
  | .expire, .wait true _ _ next, s => some (next false, s)
  | .event e, t, s => (P.event e s).map fun s' => (t, s')
  | _, _, _ => none

def run : List (Choice ε) → Thread ι σ α → σ → Option (Thread ι σ α × σ)
  | [], t, s => some (t, s)
  | c :: cs, t, s => (P.step c t s).bind fun p => run cs p.1 p.2

/-- A run to the end of the thread. -/
def finish (cs : List (Choice ε)) (t : Thread ι σ α) (s : σ) : Option (α × σ) :=
  match P.run cs t s with
  | some (.done a, s') => some (a, s')
  | _ => none

theorem run_of_finish {cs : List (Choice ε)} {t : Thread ι σ α} {s s' : σ} {a : α}
    (h : P.finish cs t s = some (a, s')) : P.run cs t s = some (.done a, s') := by
  unfold finish at h
  split at h
  · rename_i hr
    cases h
    exact hr
  · cases h

/-- `P` with some of its events withheld. -/
def restrict (allowed : ε → σ → Bool) : Platform ι ε σ :=
  { P with event := fun e s => if allowed e s then P.event e s else none }

theorem restrict_event {allowed : ε → σ → Bool} {e : ε} {s s' : σ} :
    (P.restrict allowed).event e s = some s' ↔ allowed e s = true ∧ P.event e s = some s' := by
  simp [restrict]

/-! ## Observers -/

/-- Something that watches a run without being part of it: what it notes at an instruction and at an
event, with the state it finds. -/
structure Observer (ι ε σ ω : Type) where
  exec : ι → σ → ω → ω
  event : ε → σ → ω → ω

variable {ω : Type}

/-- What is noted at one move. -/
def Observer.note (o : Observer ι ε σ ω) : Choice ε → Thread ι σ α → σ → ω → ω
  | .thread, .step i _, s, w => o.exec i s w
  | .thread, .wait _ _ i _, s, w => o.exec i s w
  | .event e, _, s, w => o.event e s w
  | _, _, _, w => w

/-- What is noted over a run. -/
def observe (o : Observer ι ε σ ω) : List (Choice ε) → Thread ι σ α → σ → ω → ω
  | [], _, _, w => w
  | c :: cs, t, s, w =>
    match P.step c t s with
    | some (t', s') => observe o cs t' s' (o.note c t s w)
    | none => w

/-- What holds of the state and the notes behind every instruction and every event holds throughout, whatever
the thread is. -/
theorem observe_invariant {o : Observer ι ε σ ω} {Inv : σ → ω → Prop}
    (hexec : ∀ i s w, Inv s w → Inv (P.exec i s) (o.exec i s w))
    (hevent : ∀ e s s' w, P.event e s = some s' → Inv s w → Inv s' (o.event e s w)) :
    ∀ (cs : List (Choice ε)) {t t' : Thread ι σ α} {s s' : σ} {w : ω}, P.run cs t s = some (t', s') → Inv s w →
      Inv s' (P.observe o cs t s w)
  | [], _, _, _, _, _, h, hs => by cases h; exact hs
  | c :: cs, t, t', s, s', w, h, hs => by
    obtain ⟨⟨t₁, s₁⟩, h₁, h₂⟩ := Option.bind_eq_some_iff.mp h
    have hobs : P.observe o (c :: cs) t s w = P.observe o cs t₁ s₁ (o.note c t s w) := by
      rw [observe, h₁]
    rw [hobs]
    refine observe_invariant hexec hevent cs h₂ ?_
    unfold step at h₁
    split at h₁
    · cases h₁; exact hexec _ _ _ hs
    · cases h₁; exact hs
    · split at h₁
      · cases h₁; exact hexec _ _ _ hs
      · cases h₁
    · cases h₁; exact hs
    · obtain ⟨s₂, he, h₁⟩ := Option.map_eq_some_iff.mp h₁
      cases h₁
      exact hevent _ _ _ _ he hs
    · cases h₁

/-! ## Safety under interference -/

/-- What the machine can do while the thread does not move. -/
def Rely : σ → σ → Prop := Relation.ReflTransGen fun s s' => ∃ e, P.event e s = some s'

/-- From this state on `I` holds throughout and `Q` behind the thread. -/
def Safe (I : σ → Prop) (Q : α → σ → Prop) : Thread ι σ α → σ → Prop
  | .done a, s => ∀ s', P.Rely s s' → I s' ∧ Q a s'
  | .step i next, s => ∀ s', P.Rely s s' → I s' ∧ Safe I Q next (P.exec i s')
  | .read next, s => ∀ s', P.Rely s s' → I s' ∧ Safe I Q (next s') s'
  | .wait timed ready i next, s => ∀ s', P.Rely s s' → I s' ∧
      (ready s' = true → Safe I Q (next true) (P.exec i s')) ∧ (timed = true → Safe I Q (next false) s')

/-- The machine's events keep `A`. -/
def Stable (A : σ → Prop) : Prop := ∀ e s s', P.event e s = some s' → A s → A s'

/-- From every state where `A` holds `t` is safe, with `Q` behind it. -/
def Triple (I A : σ → Prop) (t : Thread ι σ α) (Q : α → σ → Prop) : Prop := ∀ s, A s → P.Safe I Q t s

variable {P} {I A B : σ → Prop} {Q R : α → σ → Prop} {t : Thread ι σ α}

theorem Stable.rely (h : P.Stable A) {s s' : σ} (hr : P.Rely s s') (hs : A s) : A s' := by
  induction hr with
  | refl => exact hs
  | tail _ he ih =>
    obtain ⟨e, he⟩ := he
    exact h e _ _ he ih

theorem Stable.or (h : P.Stable A) (h' : P.Stable B) : P.Stable fun s => A s ∨ B s :=
  fun e s s' he hs => hs.imp (h e s s' he) (h' e s s' he)

theorem Safe.rely {s s' : σ} (h : P.Safe I Q t s) (hr : P.Rely s s') : P.Safe I Q t s' := by
  cases t <;> exact fun s₂ h₂ => h s₂ (hr.trans h₂)

theorem Safe.inv {s : σ} (h : P.Safe I Q t s) : I s := by
  cases t <;> exact (h s .refl).1

/-- Safety is kept by every move. -/
theorem Safe.step {c : Choice ε} {t' : Thread ι σ α} {s s' : σ} (h : P.Safe I Q t s)
    (hc : P.step c t s = some (t', s')) : P.Safe I Q t' s' := by
  unfold Platform.step at hc
  split at hc
  · cases hc; exact (h s .refl).2
  · cases hc; exact (h s .refl).2
  · split at hc
    · rename_i hready
      cases hc
      exact (h s .refl).2.1 hready
    · cases hc
  · cases hc; exact (h s .refl).2.2 rfl
  · obtain ⟨s₂, he, hc⟩ := Option.map_eq_some_iff.mp hc
    cases hc
    exact h.rely (.single ⟨_, he⟩)
  · cases hc

theorem Safe.run : ∀ (cs : List (Choice ε)) {t t' : Thread ι σ α} {s s' : σ}, P.Safe I Q t s →
    P.run cs t s = some (t', s') → P.Safe I Q t' s'
  | [], _, _, _, _, h, hc => by cases hc; exact h
  | c :: cs, t, t', s, s', h, hc => by
    obtain ⟨⟨t₁, s₁⟩, h₁, h₂⟩ := Option.bind_eq_some_iff.mp hc
    exact Safe.run cs (h.step h₁) h₂

/-! ## Rules -/

theorem Triple.done {a : α} (hA : P.Stable A) (hI : ∀ s, A s → I s) (hQ : ∀ s, A s → Q a s) :
    P.Triple I A (.done a) Q := fun _ hs s' hr => ⟨hI s' (hA.rely hr hs), hQ s' (hA.rely hr hs)⟩

theorem Triple.step {i : ι} (hA : P.Stable A) (hI : ∀ s, A s → I s) (hi : ∀ s, A s → B (P.exec i s))
    (h : P.Triple I B t Q) : P.Triple I A (.step i t) Q :=
  fun _ hs s' hr => ⟨hI s' (hA.rely hr hs), h _ (hi s' (hA.rely hr hs))⟩

/-- What the thread saw has to be put into a stable assertion. -/
theorem Triple.read {next : σ → Thread ι σ α} (hA : P.Stable A) (hI : ∀ s, A s → I s)
    (h : ∀ s, A s → P.Safe I Q (next s) s) : P.Triple I A (.read next) Q :=
  fun _ hs s' hr => ⟨hI s' (hA.rely hr hs), h s' (hA.rely hr hs)⟩

theorem Triple.wait {timed : Bool} {ready : σ → Bool} {i : ι} {next : Bool → Thread ι σ α} {B' : σ → Prop}
    (hA : P.Stable A) (hI : ∀ s, A s → I s) (hi : ∀ s, A s → ready s = true → B (P.exec i s))
    (h : P.Triple I B (next true) Q) (hB : timed = true → ∀ s, A s → B' s) (h' : P.Triple I B' (next false) Q) :
    P.Triple I A (.wait timed ready i next) Q :=
  fun _ hs s' hr => ⟨hI s' (hA.rely hr hs), fun hready => h _ (hi s' (hA.rely hr hs) hready),
    fun ht => h' _ (hB ht s' (hA.rely hr hs))⟩

theorem Triple.pre (h : P.Triple I B t Q) (hAB : ∀ s, A s → B s) : P.Triple I A t Q := fun s hs => h s (hAB s hs)

theorem Triple.or (h : P.Triple I A t Q) (h' : P.Triple I B t Q) : P.Triple I (fun s => A s ∨ B s) t Q :=
  fun s hs => hs.elim (h s) (h' s)

theorem Safe.post (hQR : ∀ a s, Q a s → R a s) : ∀ {t : Thread ι σ α} {s : σ}, P.Safe I Q t s → P.Safe I R t s
  | .done a, _, h => fun s' hr => ⟨(h s' hr).1, hQR a s' (h s' hr).2⟩
  | .step _ _, _, h => fun s' hr => ⟨(h s' hr).1, (h s' hr).2.post hQR⟩
  | .read _, _, h => fun s' hr => ⟨(h s' hr).1, (h s' hr).2.post hQR⟩
  | .wait _ _ _ _, _, h => fun s' hr =>
    ⟨(h s' hr).1, fun hready => ((h s' hr).2.1 hready).post hQR, fun ht => ((h s' hr).2.2 ht).post hQR⟩

theorem Triple.post (h : P.Triple I A t Q) (hQR : ∀ a s, Q a s → R a s) : P.Triple I A t R :=
  fun s hs => (h s hs).post hQR

theorem Safe.and : ∀ {t : Thread ι σ α} {s : σ}, P.Safe I Q t s → P.Safe I R t s →
    P.Safe I (fun a s => Q a s ∧ R a s) t s
  | .done _, _, h, h' => fun s' hr => ⟨(h s' hr).1, (h s' hr).2, (h' s' hr).2⟩
  | .step _ _, _, h, h' => fun s' hr => ⟨(h s' hr).1, (h s' hr).2.and (h' s' hr).2⟩
  | .read _, _, h, h' => fun s' hr => ⟨(h s' hr).1, (h s' hr).2.and (h' s' hr).2⟩
  | .wait _ _ _ _, _, h, h' => fun s' hr => ⟨(h s' hr).1,
    fun hready => ((h s' hr).2.1 hready).and ((h' s' hr).2.1 hready),
    fun ht => ((h s' hr).2.2 ht).and ((h' s' hr).2.2 ht)⟩

theorem Safe.bind {S : β → σ → Prop} {k : α → Thread ι σ β} (hk : ∀ a, P.Triple I (Q a) (k a) S) :
    ∀ {t : Thread ι σ α} {s : σ}, P.Safe I Q t s → P.Safe I S (t >>= k) s
  | .done a, s, h => hk a s (h s .refl).2
  | .step _ _, _, h => fun s' hr => ⟨(h s' hr).1, (h s' hr).2.bind hk⟩
  | .read _, _, h => fun s' hr => ⟨(h s' hr).1, (h s' hr).2.bind hk⟩
  | .wait _ _ _ _, _, h => fun s' hr =>
    ⟨(h s' hr).1, fun hready => ((h s' hr).2.1 hready).bind hk, fun ht => ((h s' hr).2.2 ht).bind hk⟩

theorem Triple.bind {S : β → σ → Prop} {k : α → Thread ι σ β} (h : P.Triple I A t Q)
    (hk : ∀ a, P.Triple I (Q a) (k a) S) : P.Triple I A (t >>= k) S := fun s hs => (h s hs).bind hk

/-- What the instructions of a thread and every event keep needs no outline. -/
theorem Triple.invariant_of {Inv : σ → Prop} {p : ι → Prop} (hexec : ∀ i s, p i → Inv s → Inv (P.exec i s))
    (hevent : P.Stable Inv) (hI : ∀ s, Inv s → I s) : ∀ {t : Thread ι σ α}, t.All p → P.Triple I Inv t fun _ => Inv
  | .done _, _ => Triple.done hevent hI fun _ hs => hs
  | .step i _, h => Triple.step hevent hI (fun s hs => hexec i s h.1 hs) (Triple.invariant_of hexec hevent hI h.2)
  | .read _, h => Triple.read hevent hI fun s hs => Triple.invariant_of hexec hevent hI (h s) s hs
  | .wait _ _ i _, h => Triple.wait hevent hI (fun s hs _ => hexec i s h.1 hs)
    (Triple.invariant_of hexec hevent hI (h.2 true)) (fun _ _ hs => hs)
    (Triple.invariant_of hexec hevent hI (h.2 false))

/-- What every instruction and every event keeps needs no outline. -/
theorem Triple.invariant {Inv : σ → Prop} (hexec : ∀ i s, Inv s → Inv (P.exec i s)) (hevent : P.Stable Inv)
    (hI : ∀ s, Inv s → I s) : ∀ t : Thread ι σ α, P.Triple I Inv t fun _ => Inv
  | .done _ => Triple.done hevent hI fun _ hs => hs
  | .step i t => Triple.step hevent hI (hexec i) (Triple.invariant hexec hevent hI t)
  | .read next => Triple.read hevent hI fun s hs => Triple.invariant hexec hevent hI (next s) s hs
  | .wait _ _ i next => Triple.wait hevent hI (fun s hs _ => hexec i s hs)
    (Triple.invariant hexec hevent hI (next true)) (fun _ _ hs => hs) (Triple.invariant hexec hevent hI (next false))

/-! ## Fewer events -/

section Restrict

variable {allowed : ε → σ → Bool}

theorem Stable.restrict (h : P.Stable A) : (P.restrict allowed).Stable A :=
  fun e s s' he => h e s s' (P.restrict_event.mp he).2

theorem Rely.of_restrict {s s' : σ} (h : (P.restrict allowed).Rely s s') : P.Rely s s' := by
  induction h with
  | refl => exact .refl
  | tail _ he ih =>
    obtain ⟨e, he⟩ := he
    exact ih.tail ⟨e, (P.restrict_event.mp he).2⟩

theorem Safe.restrict : ∀ {t : Thread ι σ α} {s : σ}, P.Safe I Q t s → (P.restrict allowed).Safe I Q t s
  | .done _, _, h => fun s' hr => h s' (Rely.of_restrict hr)
  | .step _ _, _, h => fun s' hr => ⟨(h s' (Rely.of_restrict hr)).1, (h s' (Rely.of_restrict hr)).2.restrict⟩
  | .read _, _, h => fun s' hr => ⟨(h s' (Rely.of_restrict hr)).1, (h s' (Rely.of_restrict hr)).2.restrict⟩
  | .wait _ _ _ _, _, h => fun s' hr =>
    ⟨(h s' (Rely.of_restrict hr)).1, fun hready => ((h s' (Rely.of_restrict hr)).2.1 hready).restrict,
      fun ht => ((h s' (Rely.of_restrict hr)).2.2 ht).restrict⟩

/-- What is proved with all events holds with some of them withheld. -/
theorem Triple.restrict (h : P.Triple I A t Q) : (P.restrict allowed).Triple I A t Q :=
  fun s hs => (h s hs).restrict

end Restrict

/-! ## Runs to the end -/

/-- What holds behind a run to the end. -/
theorem Triple.finish (h : P.Triple I A t Q) {cs : List (Choice ε)} {s s' : σ} {a : α} (hs : A s)
    (hf : P.finish cs t s = some (a, s')) : Q a s' :=
  (((h s hs).run cs (P.run_of_finish hf)) s' .refl).2

/-- Some run ends the thread, with `Q` behind it. -/
def CanEnd (P : Platform ι ε σ) (Q : α → σ → Prop) (t : Thread ι σ α) (s : σ) : Prop :=
  ∃ (cs : List (Choice ε)) (a : α) (s' : σ), P.finish cs t s = some (a, s') ∧ Q a s'

theorem CanEnd.done {a : α} {s : σ} (h : Q a s) : P.CanEnd Q (.done a) s := ⟨[], a, s, rfl, h⟩

theorem CanEnd.move {c : Choice ε} {t' : Thread ι σ α} {s s' : σ} (hc : P.step c t s = some (t', s'))
    (h : P.CanEnd Q t' s') : P.CanEnd Q t s := by
  obtain ⟨cs, a, s₂, hf, hQ⟩ := h
  refine ⟨c :: cs, a, s₂, ?_, hQ⟩
  simp only [finish, run, hc, Option.bind_some]
  exact hf

theorem CanEnd.step {i : ι} {s : σ} (h : P.CanEnd Q t (P.exec i s)) : P.CanEnd Q (.step i t) s :=
  h.move (c := .thread) rfl

theorem CanEnd.read {next : σ → Thread ι σ α} {s : σ} (h : P.CanEnd Q (next s) s) : P.CanEnd Q (.read next) s :=
  h.move (c := .thread) rfl

theorem CanEnd.wait {timed : Bool} {ready : σ → Bool} {i : ι} {next : Bool → Thread ι σ α} {s : σ}
    (hs : ready s = true) (h : P.CanEnd Q (next true) (P.exec i s)) : P.CanEnd Q (.wait timed ready i next) s :=
  h.move (c := .thread) (if_pos hs)

theorem CanEnd.rely {s s' : σ} (hr : P.Rely s s') (h : P.CanEnd Q t s') : P.CanEnd Q t s := by
  induction hr using Relation.ReflTransGen.head_induction_on with
  | refl => exact h
  | head he _ ih =>
    obtain ⟨e, he⟩ := he
    refine ih.move (c := .event e) ?_
    cases t <;> simp only [Platform.step, he, Option.map_some]

/-- The moves of a thread are moves of what it begins. -/
theorem step_bind {c : Choice ε} {t t' : Thread ι σ α} {s s' : σ} (h : P.step c t s = some (t', s'))
    (k : α → Thread ι σ β) : P.step c (t >>= k) s = some (t' >>= k, s') := by
  unfold Platform.step at h
  split at h
  · cases h; rfl
  · cases h; rfl
  · split at h
    · rename_i hready
      cases h
      exact if_pos hready
    · cases h
  · cases h; rfl
  · obtain ⟨s₂, he, h⟩ := Option.map_eq_some_iff.mp h
    cases h
    generalize t >>= k = t₂
    cases t₂ <;> simp only [Platform.step, he, Option.map_some]
  · cases h

theorem CanEnd.bind {S : β → σ → Prop} {k : α → Thread ι σ β} {t : Thread ι σ α} {s : σ} (h : P.CanEnd Q t s)
    (hk : ∀ a s', Q a s' → P.CanEnd S (k a) s') : P.CanEnd S (t >>= k) s := by
  obtain ⟨cs, a, s', hf, hQ⟩ := h
  replace hf := P.run_of_finish hf
  induction cs generalizing t s with
  | nil =>
    cases hf
    exact hk a _ hQ
  | cons c cs ih =>
    obtain ⟨⟨t₁, s₁⟩, h₁, h₂⟩ := Option.bind_eq_some_iff.mp hf
    exact (ih h₂).move (step_bind h₁ k)

/-- Straight-line code ends, and what every instruction keeps holds behind it. -/
theorem CanEnd.straight {J : σ → Prop} (hJ : ∀ i s, J s → J (P.exec i s)) : ∀ {t : Thread ι σ α} {s : σ},
    t.Straight → J s → P.CanEnd (fun _ => J) t s
  | .done _, _, _, hs => .done hs
  | .step i next, s, h, hs => (CanEnd.straight hJ (t := next) h (hJ i s hs)).step
  | .read _, s, h, hs => (CanEnd.straight hJ (h s) hs).read
  | .wait .., _, h, _ => h.elim

theorem CanEnd.post {s : σ} (h : P.CanEnd Q t s) (hQR : ∀ a s, Q a s → R a s) : P.CanEnd R t s := by
  obtain ⟨cs, a, s', hf, hQ⟩ := h
  exact ⟨cs, a, s', hf, hQR a s' hQ⟩

/-- A run that exists has what every run has. -/
theorem CanEnd.safe {s : σ} (h : P.CanEnd Q t s) (hs : P.Safe I R t s) : P.CanEnd (fun a s => Q a s ∧ R a s) t s := by
  obtain ⟨cs, a, s', hf, hQ⟩ := h
  exact ⟨cs, a, s', hf, hQ, ((hs.run cs (P.run_of_finish hf)) s' .refl).2⟩

end Platform

end Threads
