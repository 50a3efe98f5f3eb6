/-
The LEDs. `led_pulse_*` switches a LED on and then starts the timer that switches it off; `main`,
`usb_thread` and `fw_scan` in the USB callback thread all pulse, and a thread can be preempted, and the
timer run out, between the two. The calls the firmware makes are in the next module.
-/
import Crazyradio.Lib.Moves
import Mathlib.Data.List.Basic
import Mathlib.Logic.Function.Iterate

namespace Crazyradio.Usb

open Moves

/-! ## The calls of `led.c` -/

inductive Colour
  | red
  | green
  | blue
  deriving DecidableEq

/-- `led_set_*` and `led_pulse_*`, with the time of the pulse in milliseconds. -/
inductive LedCall
  | set (c : Colour) (on : Bool)
  | pulse (c : Colour) (ms : Nat)
  deriving DecidableEq

/-- `gpio_pin_set_dt` and `k_timer_start`. -/
inductive LedOp
  | pin (c : Colour) (on : Bool)
  | timerStart (c : Colour) (ms : Nat)
  deriving DecidableEq

def LedCall.ops : LedCall → List LedOp
  | .set c on => [.pin c on]
  | .pulse c ms => [.pin c true, .timerStart c ms]

/-- The threads that switch LEDs. -/
inductive LedThread
  | main
  | callback
  | usbThread
  deriving DecidableEq

/-! ## The board -/

/-- The pins, the milliseconds left on each timer and what each thread has left of the call it is in. -/
structure Leds where
  lit : Colour → Bool := fun _ => false
  timer : Colour → Option Nat := fun _ => none
  calls : LedThread → List LedOp := fun _ => []

/-- The board once `led_init` is through. -/
def Leds.init : Leds := {}

def Leds.op (o : LedOp) (l : Leds) : Leds :=
  match o with
  | .pin c on => { l with lit := Function.update l.lit c on }
  | .timerStart c ms => { l with timer := Function.update l.timer c (some ms) }

/-- The timer runs out within the next millisecond. -/
def expires : Option Nat → Bool
  | some ms => decide (ms ≤ 1)
  | none => false

/-- A millisecond, with the handlers of the timers that run out. -/
def Leds.tick (l : Leds) : Leds :=
  { l with
    lit := fun c => l.lit c && !expires (l.timer c)
    timer := fun c => if expires (l.timer c) then none else (l.timer c).map (· - 1) }

inductive LedMove
  | call (t : LedThread) (c : LedCall)
  | op (t : LedThread)
  | tick

def Leds.step (l : Leds) : LedMove → Option Leds
  | .call t c => if l.calls t = [] then some { l with calls := Function.update l.calls t c.ops } else none
  | .op t =>
    match l.calls t with
    | o :: rest => some ({ l with calls := Function.update l.calls t rest }.op o)
    | [] => none
  | .tick => some l.tick

/-- The calls the firmware makes: pulses of at most half a second, and the blue LED on and off. -/
def LedCall.Made : LedCall → Prop
  | .set c _ => c = .blue
  | .pulse _ ms => ms ≤ 500

/-! ## What every move keeps -/

/-- What can be left of such a call. -/
def Remains (os : List LedOp) : Prop :=
  os = [] ∨ (∃ on, os = [.pin .blue on]) ∨
    ∃ c ms, ms ≤ 500 ∧ (os = [.pin c true, .timerStart c ms] ∨ os = [.timerStart c ms])

theorem remains_call {c : LedCall} (h : c.Made) : Remains c.ops := by
  cases c with
  | set c on =>
    cases (show c = .blue from h)
    exact .inr (.inl ⟨on, rfl⟩)
  | pulse c ms => exact .inr (.inr ⟨c, ms, h, .inl rfl⟩)

theorem remains_tail {o : LedOp} {rest : List LedOp} (h : Remains (o :: rest)) : Remains rest := by
  rcases h with h | ⟨on, h⟩ | ⟨c, ms, hms, h | h⟩
  · cases h
  · cases h
    exact .inl rfl
  · cases h
    exact .inr (.inr ⟨c, ms, hms, .inr rfl⟩)
  · cases h
    exact .inl rfl

/-- A lit LED that is not switched by `led_set_blue` has its timer running, or a thread is about to
start it. -/
structure Leds.Guarded (l : Leds) : Prop where
  calls : ∀ t, Remains (l.calls t)
  timer : ∀ c ms, l.timer c = some ms → ms ≤ 500
  lit : ∀ c, c ≠ .blue → l.lit c = true → (∃ ms, l.timer c = some ms) ∨ ∃ t ms, l.calls t = [.timerStart c ms]

theorem guarded_init : Leds.init.Guarded where
  calls _ := .inl rfl
  timer _ _ h := by cases h
  lit _ _ h := by cases h

theorem guarded_tick {l : Leds} (hl : l.Guarded) : l.tick.Guarded where
  calls := hl.calls
  timer c ms h := by
    simp only [Leds.tick] at h
    split at h
    · cases h
    · obtain ⟨n, hn, rfl⟩ := Option.map_eq_some_iff.mp h
      exact Nat.le_trans (Nat.sub_le n 1) (hl.timer c n hn)
  lit c hc h := by
    simp only [Leds.tick, Bool.and_eq_true, Bool.not_eq_true'] at h
    rcases hl.lit c hc h.1 with ⟨ms, hms⟩ | hcalls
    · have he : expires (some ms) = false := hms ▸ h.2
      exact .inl ⟨ms - 1, by simp only [Leds.tick, hms, he, Bool.false_eq_true, if_false, Option.map_some]⟩
    · exact .inr hcalls

theorem guarded_call {l : Leds} (hl : l.Guarded) {t : LedThread} {c : LedCall} (hc : c.Made)
    (ht : l.calls t = []) : Leds.Guarded { l with calls := Function.update l.calls t c.ops } where
  calls t' := by
    by_cases h : t' = t
    · subst h
      simp only [Function.update_self]
      exact remains_call hc
    · simp only [Function.update_of_ne h]
      exact hl.calls t'
  timer := hl.timer
  lit c' hc' h := by
    refine (hl.lit c' hc' h).imp id ?_
    rintro ⟨t', ms, h'⟩
    -- the thread that was about to start the timer is another one
    have hne : t' ≠ t := by
      rintro rfl
      rw [ht] at h'
      cases h'
    exact ⟨t', ms, by simp only [Function.update_of_ne hne]; exact h'⟩

theorem guarded_op {l : Leds} (hl : l.Guarded) {t : LedThread} {o : LedOp} {rest : List LedOp}
    (ht : l.calls t = o :: rest) : (Leds.op o { l with calls := Function.update l.calls t rest }).Guarded := by
  have hrest : Remains rest := remains_tail (ht ▸ hl.calls t)
  have hcalls : ∀ t', Remains (Function.update l.calls t rest t') := by
    intro t'
    by_cases h : t' = t
    · subst h
      rw [Function.update_self]
      exact hrest
    · rw [Function.update_of_ne h]
      exact hl.calls t'
  -- another LED keeps the thread that is about to start its timer
  have hkeep : ∀ c, (∃ t' ms, l.calls t' = [.timerStart c ms]) → (∀ ms, o ≠ .timerStart c ms) →
      ∃ t' ms, Function.update l.calls t rest t' = [.timerStart c ms] := by
    rintro c ⟨t', ms, h'⟩ ho
    have hne : t' ≠ t := by
      rintro rfl
      rw [ht] at h'
      cases h'
      exact ho ms rfl
    exact ⟨t', ms, by rw [Function.update_of_ne hne]; exact h'⟩
  cases o with
  | pin c on =>
    refine ⟨hcalls, hl.timer, fun c' hc' h => ?_⟩
    by_cases h' : c' = c
    · subst h'
      -- only a pulse switches these LEDs, and it starts the timer next
      have hr : Remains (.pin c' on :: rest) := ht ▸ hl.calls t
      rcases hr with hr | ⟨b, hr⟩ | ⟨c'', ms, -, hr | hr⟩
      · cases hr
      · cases hr
        exact absurd rfl hc'
      · cases hr
        exact .inr ⟨t, ms, Function.update_self ..⟩
      · cases hr
    · have hlit : l.lit c' = true := by
        simpa only [Leds.op, Function.update_of_ne h'] using h
      exact (hl.lit c' hc' hlit).imp id fun hs => hkeep c' hs fun _ => LedOp.noConfusion
  | timerStart c ms =>
    have hms : ms ≤ 500 := by
      have hr : Remains (.timerStart c ms :: rest) := ht ▸ hl.calls t
      rcases hr with hr | ⟨b, hr⟩ | ⟨c'', ms', hms, hr | hr⟩
      · cases hr
      · cases hr
      · cases hr
      · cases hr
        exact hms
    refine ⟨hcalls, fun c' ms' h => ?_, fun c' hc' h => ?_⟩
    · by_cases h' : c' = c
      · subst h'
        simp only [Leds.op, Function.update_self, Option.some.injEq] at h
        exact h ▸ hms
      · simp only [Leds.op, Function.update_of_ne h'] at h
        exact hl.timer c' ms' h
    · by_cases h' : c' = c
      · subst h'
        exact .inl ⟨ms, Function.update_self ..⟩
      · refine (hl.lit c' hc' h).imp ?_ fun hs => hkeep c' hs fun ms' he => ?_
        · rintro ⟨ms', hs⟩
          exact ⟨ms', by simp only [Leds.op, Function.update_of_ne h']; exact hs⟩
        · cases he
          exact h' rfl

/-- The moves whose calls are the firmware's. -/
def LedMove.Made : LedMove → Prop
  | .call _ c => c.Made
  | .op _ | .tick => True

theorem guarded_step {l l' : Leds} {m : LedMove} (hl : l.Guarded) (hm : m.Made) (h : l.step m = some l') :
    l'.Guarded := by
  unfold Leds.step at h
  cases m with
  | call t c =>
    simp only at h
    split at h
    · rename_i ht
      cases h
      exact guarded_call hl hm ht
    · cases h
  | op t =>
    simp only at h
    split at h
    · rename_i o rest ht
      cases h
      exact guarded_op hl ht
    · cases h
  | tick =>
    cases h
    exact guarded_tick hl

/-! ## Going out -/

/-- A LED is out once its timer had the time to run out. -/
theorem tick_out (c : Colour) : ∀ (n : Nat) (l : Leds),
    (l.lit c = true → ∃ ms, l.timer c = some ms ∧ ms ≤ n + 1) → (Leds.tick^[n + 1] l).lit c = false
  | n, l, h => by
    -- a timer with at most this much time left has run out, or has a millisecond less
    have hstep : l.tick.lit c = true → ∃ ms, l.tick.timer c = some ms ∧ ms ≤ n ∧ 0 < n := by
      intro ht
      simp only [Leds.tick, Bool.and_eq_true, Bool.not_eq_true'] at ht
      obtain ⟨ms, hms, hle⟩ := h ht.1
      have he : expires (some ms) = false := hms ▸ ht.2
      have h1 : ¬ms ≤ 1 := of_decide_eq_false he
      refine ⟨ms - 1, ?_, by omega, by omega⟩
      simp only [Leds.tick, hms, he, Bool.false_eq_true, if_false, Option.map_some]
    rw [Function.iterate_succ_apply]
    cases n with
    | zero =>
      cases hl : l.tick.lit c with
      | false => exact hl
      | true =>
        obtain ⟨-, -, -, h0⟩ := hstep hl
        exact absurd h0 (Nat.lt_irrefl 0)
    | succ n =>
      refine tick_out c n l.tick fun hl => ?_
      obtain ⟨ms, hms, hle, -⟩ := hstep hl
      exact ⟨ms, hms, hle⟩

theorem run_ticks : ∀ (n : Nat) (l : Leds), run Leds.step l (List.replicate n .tick) = some (Leds.tick^[n] l)
  | 0, _ => rfl
  | n + 1, l => run_ticks n l.tick

/-- The red and the green LED are on only while their timer runs or a thread is about to start it, and once
no thread is in a call they are off after half a second. -/
theorem goes_out {ms : List LedMove} {l : Leds} (hm : ∀ m ∈ ms, m.Made) (h : run Leds.step Leds.init ms = some l)
    {c : Colour} (hc : c ≠ .blue) :
    (l.lit c = true → (∃ left, l.timer c = some left ∧ left ≤ 500) ∨ ∃ t left, l.calls t = [.timerStart c left]) ∧
    ((∀ t, l.calls t = []) → ∀ n, 500 ≤ n →
      ∃ l', run Leds.step l (List.replicate n .tick) = some l' ∧ l'.lit c = false) := by
  have hl : l.Guarded := run_invariant_of (fun hl hm h => guarded_step hl hm h) ms hm guarded_init h
  constructor
  · intro hlit
    rcases hl.lit c hc hlit with ⟨left, hleft⟩ | hcalls
    · exact .inl ⟨left, hleft, hl.timer c left hleft⟩
    · exact .inr hcalls
  · intro hidle n hn
    refine ⟨_, run_ticks n l, ?_⟩
    obtain ⟨k, rfl⟩ : ∃ k, n = k + 1 := ⟨n - 1, by omega⟩
    refine tick_out c k l fun hlit => ?_
    rcases hl.lit c hc hlit with ⟨left, hleft⟩ | ⟨t, left, ht⟩
    · exact ⟨left, hleft, Nat.le_trans (hl.timer c left hleft) hn⟩
    · rw [hidle t] at ht
      cases ht

end Crazyradio.Usb
