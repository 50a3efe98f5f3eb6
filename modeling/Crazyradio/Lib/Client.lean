/-
Programs that call a component and go on with what its calls return. Such a program runs over a
model of the component, in which a call is one step, and as a thread, in which a call is code of its
own. If the code of every call does on the machine what the model says, the whole program does,
whatever it makes of the results (`triple_thread`).
-/
import Crazyradio.Lib.Thread

namespace Clients

open Threads

/-! ## Programs -/

/-- A program over the calls `κ` with their results `ρ`. -/
inductive Client (κ : Type) (ρ : κ → Type) (α : Type)
  | done (a : α)
  | call (c : κ) (next : ρ c → Client κ ρ α)

namespace Client

variable {κ : Type} {ρ : κ → Type} {α β σ ν ι τ ε : Type}

def bind : Client κ ρ α → (α → Client κ ρ β) → Client κ ρ β
  | done a, k => k a
  | call c next, k => call c fun r => (next r).bind k

instance : Monad (Client κ ρ) where
  pure := done
  bind := bind

/-- One call. -/
def ask (c : κ) : Client κ ρ (ρ c) := call c done

/-! ## Over a model that answers -/

/-- What a program returns where calls are functions of the state. -/
def eval (answer : (c : κ) → σ → ρ c × σ) : Client κ ρ α → σ → α × σ
  | done a, s => (a, s)
  | call c next, s => (next (answer c s).1).eval answer (answer c s).2

theorem eval_bind (answer : (c : κ) → σ → ρ c × σ) (k : α → Client κ ρ β) : ∀ (p : Client κ ρ α) (s : σ),
    (p >>= k).eval answer s = (k (p.eval answer s).1).eval answer (p.eval answer s).2
  | done _, _ => rfl
  | call c next, s => eval_bind answer k (next (answer c s).1) (answer c s).2

/-- Every call the program can come to is allowed, and what it returns satisfies `Q`. -/
def Within (allowed : κ → Prop) (Q : α → Prop) : Client κ ρ α → Prop
  | done a => Q a
  | call c next => allowed c ∧ ∀ r, (next r).Within allowed Q

theorem Within.bind {allowed : κ → Prop} {Q : α → Prop} {R : β → Prop} {k : α → Client κ ρ β}
    (hk : ∀ a, Q a → (k a).Within allowed R) : ∀ {p : Client κ ρ α}, p.Within allowed Q → (p >>= k).Within allowed R
  | done a, h => hk a h
  | call _ _, h => ⟨h.1, fun r => (h.2 r).bind hk⟩

/-! ## Over a model that leaves open what happens -/

/-- A run of a program where calls are relations. -/
def Runs (serves : (c : κ) → σ → ρ c → σ → Prop) : Client κ ρ α → σ → α → σ → Prop
  | done a, s, b, s' => a = b ∧ s = s'
  | call c next, s, b, s' => ∃ r s₁, serves c s r s₁ ∧ (next r).Runs serves s₁ b s'

/-- What every call keeps holds behind a run. -/
theorem Runs.keeps {serves : (c : κ) → σ → ρ c → σ → Prop} (Inv : σ → Prop)
    (hserves : ∀ c s r s₁, serves c s r s₁ → Inv s → Inv s₁) : ∀ {p : Client κ ρ α} {s s' : σ} {a : α},
    p.Runs serves s a s' → Inv s → Inv s'
  | done _, _, _, _, ⟨_, hs⟩, h => hs ▸ h
  | call c _, s, _, _, ⟨r, s₁, hc, hr⟩, h => hr.keeps Inv hserves (hserves c s r s₁ hc h)

/-- A run whose calls are all answered as by functions is what the program does with these. That a call is so
answered may depend on the state the run ends in, as far as the states record what happened. -/
theorem Runs.eval {serves : (c : κ) → σ → ρ c → σ → Prop} {answer : (c : κ) → ν → ρ c × ν} {view : σ → ν}
    (before : σ → σ → Prop) {last : σ} (hrefl : ∀ s, before s s)
    (htrans : ∀ a b c, before a b → before b c → before a c)
    (hserves : ∀ c s r s₁, serves c s r s₁ → before s s₁)
    (hanswer : ∀ c s r s₁, serves c s r s₁ → before s₁ last → answer c (view s) = (r, view s₁)) :
    ∀ {p : Client κ ρ α} {s : σ} {a : α}, p.Runs serves s a last →
      p.eval answer (view s) = (a, view last) ∧ before s last
  | done _, s, _, ⟨ha, hs⟩ => by
    subst ha hs
    exact ⟨rfl, hrefl s⟩
  | call c next, s, a, ⟨r, s₁, hc, hr⟩ => by
    obtain ⟨he, hb⟩ := Runs.eval before hrefl htrans hserves hanswer hr
    refine ⟨?_, htrans s s₁ last (hserves c s r s₁ hc) hb⟩
    show (next (answer c (view s)).1).eval answer (answer c (view s)).2 = _
    rw [hanswer c s r s₁ hc hb]
    exact he

/-! ## As a thread -/

/-- The program with its calls as code; `ν` is what the code carries from call to call. -/
def thread (code : (c : κ) → ν → Thread ι τ (ρ c × ν)) : Client κ ρ α → ν → Thread ι τ (α × ν)
  | done a, n => .done (a, n)
  | call c next, n => code c n >>= fun r => (next r.1).thread code r.2

/-- Refinement carries over from calls to programs: if the code of each allowed call goes from a machine that
stands for a state of the model to one that stands for a state the model can come to, or gives up, a program
that keeps to these calls does so as a whole. -/
theorem triple_thread {P : Platform ι ε τ} {I GaveUp : τ → Prop} {Stands : σ → ν → τ → Prop} {allowed : κ → Prop}
    {serves : (c : κ) → σ → ρ c → σ → Prop} {code : (c : κ) → ν → Thread ι τ (ρ c × ν)}
    (hcode : ∀ c, allowed c → ∀ s n, P.Triple I (Stands s n) (code c n) fun r t =>
      GaveUp t ∨ ∃ s', serves c s r.1 s' ∧ Stands s' r.2 t)
    (hstable : ∀ s n, P.Stable (Stands s n)) (hI : ∀ s n t, Stands s n t → I t)
    (hgaveUp : ∀ {γ : Type} (t : Thread ι τ γ), P.Triple I GaveUp t fun _ => GaveUp) {Q : α → Prop} :
    ∀ {p : Client κ ρ α}, p.Within allowed Q → ∀ (s : σ) (n : ν),
      P.Triple I (Stands s n) (p.thread code n) fun r t =>
        GaveUp t ∨ ∃ s', p.Runs serves s r.1 s' ∧ Stands s' r.2 t
  | done a, _, s, n => Platform.Triple.done (hstable s n) (hI s n) fun t h => .inr ⟨s, ⟨rfl, rfl⟩, h⟩
  | call c next, hp, s, n => by
    refine (hcode c hp.1 s n).bind fun r => ?_
    rintro t (ht | ⟨s₁, hc, ht⟩)
    · exact (hgaveUp _ t ht).post fun _ _ h => .inl h
    · refine (triple_thread hcode hstable hI hgaveUp (hp.2 r.1) s₁ r.2 t ht).post fun a t' h => ?_
      rcases h with h | ⟨s', hr, h⟩
      · exact .inl h
      · exact .inr ⟨s', ⟨r.1, s₁, hc, hr⟩, h⟩

end Client

end Clients
