/-
The ack timeout. `radio_isr` reads it from COMPARE1, which latches whenever the counter reaches CC1
and is cleared by one branch of the handler only. At the end of a receive window it therefore says
that the counter reached CC1 in the window, or that COMPARE1 was latched when the window opened: a
TIMER0 clear or a wrap that lets the counter pass an old CC1 makes it wrong.
-/
import Crazyradio.Driver.Hardware

namespace Crazyradio.Driver

open Bytes Threads

/-! ## The verdict and its condition -/

/-- A verdict is timely: `timeout` is set only if the counter reached CC1 in the window of the
attempt the verdict is about. -/
def TraceEvent.Timely : TraceEvent → Prop
  | .verdict timeout (some w) => timeout = true → w.reached = true
  | _ => True

/-- No window with COMPARE1 latched when it opened, unless the counter reaches CC1 in it anyway. -/
def TraceEvent.Fresh : TraceEvent → Prop
  | .verdict _ (some w) => w.latched = true → w.reached = true
  | _ => True

/-- What `timeout` is at the end of a window. -/
def TraceEvent.Exact : TraceEvent → Prop
  | .verdict timeout (some w) => timeout = (w.latched || w.reached)
  | _ => True

theorem TraceEvent.Exact.timely_iff {e : TraceEvent} (h : e.Exact) : e.Timely ↔ e.Fresh := by
  cases e with
  | verdict timeout window =>
    cases window with
    | none => exact Iff.rfl
    | some w =>
      have ht : timeout = (w.latched || w.reached) := h
      subst ht
      simp only [Timely, Fresh, Bool.or_eq_true]
      constructor
      · intro hw hl
        exact hw (.inl hl)
      · rintro hw (hl | hr)
        · exact hw hl
        · exact hr
  | _ => exact Iff.rfl

/-- The invariant of every instruction and every event: while a window is open, COMPARE1 is what it
was at the start or what the window made of it. -/
structure WindowInv (m : Machine) : Prop where
  verdicts : ∀ e ∈ m.trace, e.Exact
  latch : ∀ w, m.window = some w → m.timer.compare1 = (w.latched || w.reached)

/-- Nothing the timeout depends on changed. -/
structure SameWindow (m m' : Machine) : Prop where
  trace : m'.trace = m.trace
  compare1 : m'.timer.compare1 = m.timer.compare1
  window : m'.window = m.window

theorem SameWindow.trans {a b c : Machine} (h : SameWindow a b) (h' : SameWindow b c) : SameWindow a c :=
  ⟨h'.trace.trans h.trace, h'.compare1.trans h.compare1, h'.window.trans h.window⟩

theorem WindowInv.same {m m' : Machine} (h : WindowInv m) (s : SameWindow m m') : WindowInv m' := by
  constructor
  · rw [s.trace]
    exact h.verdicts
  · rw [s.compare1, s.window]
    exact h.latch

/-- A new event of the trace, with the rest as it was. -/
theorem WindowInv.note {m : Machine} (h : WindowInv m) {e : TraceEvent} (he : e.Exact) : WindowInv (m.note e) := by
  constructor
  · intro x hx
    rcases List.mem_append.mp hx with hx | hx
    · exact h.verdicts x hx
    · rw [List.mem_singleton.mp hx]; exact he
  · exact h.latch

/-! ## Radio tasks -/

theorem same_rel : HardwareRel SameWindow where
  refl _ := ⟨rfl, rfl, rfl⟩
  trans h h' := h.trans h'
  radio _ _ := ⟨rfl, rfl, rfl⟩
  raiseDisabled _ := ⟨rfl, rfl, rfl⟩
  transmit _ _ := ⟨rfl, rfl, rfl⟩
  latch _ := ⟨rfl, rfl, rfl⟩
  buffers _ _ := ⟨rfl, rfl, rfl⟩
  snifferRxBuffer _ _ := ⟨rfl, rfl, rfl⟩
  result _ _ _ := ⟨rfl, rfl, rfl⟩
  timer _ _ h := ⟨rfl, h, rfl⟩

theorem same_taskTxen (m : Machine) : SameWindow m m.taskTxen := by
  unfold Machine.taskTxen
  split <;> exact ⟨rfl, rfl, rfl⟩

theorem same_semGive (m : Machine) : SameWindow m m.semGive := ⟨rfl, rfl, rfl⟩

theorem same_ppiSet (c : PpiChannel) (on : Bool) (m : Machine) : SameWindow m (m.ppiSet c on) := by
  cases c <;> exact ⟨rfl, rfl, rfl⟩

/-- Only the counter and the handler change it. -/
theorem same_event {e : Event} {m m' : Machine} (he : m.event e = some m') (ht : e ≠ .tick) (hi : e ≠ .isr) :
    SameWindow m m' := same_rel.event he ht hi

/-! ## Instructions and events -/

theorem windowInv_exec (i : Op) (m : Machine) (h : WindowInv m) : WindowInv (m.exec i) := by
  cases i with
  | txen ofAttempt =>
    cases ofAttempt with
    | true =>
      have ha : WindowInv { m with attempt := m.attempt + 1 } := h.same ⟨rfl, rfl, rfl⟩
      exact (ha.note (e := .txen m.radioXferDone) trivial).same (same_taskTxen _)
    | false => exact h.same (same_taskTxen m)
  | rxen => exact h.same (same_rel.taskRxen m)
  | disable => exact h.same (same_rel.taskDisable m)
  | ppiEnable c => exact h.same (same_ppiSet c true m)
  | ppiDisable c => exact h.same (same_ppiSet c false m)
  | semTake ofAttempt =>
    have hs : WindowInv { m with radioXferDone := m.radioXferDone - 1 } := h.same ⟨rfl, rfl, rfl⟩
    cases ofAttempt with
    | true => exact hs.note (e := .taken m.attempt m.giveCause) trivial
    | false => exact hs
  | sending => exact ⟨h.verdicts, fun w hw => (nomatch hw)⟩
  | logStuck => exact h.note (e := .stuck) trivial
  | _ => exact h.same ⟨rfl, rfl, rfl⟩

/-- The match latches COMPARE1 and belongs to the window that is open. -/
theorem windowInv_matchCc1 {m : Machine} (h : WindowInv m) : WindowInv m.matchCc1 := by
  constructor
  · exact h.verdicts
  · intro w hw
    obtain ⟨w₀, -, rfl⟩ := Option.map_eq_some_iff.mp hw
    exact (Bool.or_true w₀.latched).symm

theorem windowInv_raiseCompare1 {m : Machine} (h : WindowInv m) : WindowInv m.raiseCompare1 := by
  unfold Machine.raiseCompare1
  split
  · exact (windowInv_matchCc1 h).same (same_rel.taskDisable _)
  · exact windowInv_matchCc1 h

theorem windowInv_tick {m : Machine} (h : WindowInv m) : WindowInv m.tick := by
  have hc : WindowInv { m with timer := { m.timer with counter := m.timer.counter + 1 } } :=
    h.same ⟨rfl, rfl, rfl⟩
  unfold Machine.tick
  simp only
  split
  · exact windowInv_raiseCompare1 hc
  · exact hc

/-- A window opens, with COMPARE1 as it is. -/
theorem windowInv_isrSent {m : Machine} (h : WindowInv m) : WindowInv m.isrSent := by
  constructor
  · exact h.verdicts
  · rintro w ⟨⟩
    simp only [Machine.isrSent, Bool.or_false]

/-- The verdict reads COMPARE1 and closes the window. -/
theorem windowInv_isrReceived {m : Machine} (h : WindowInv m) : WindowInv m.isrReceived := by
  constructor
  · intro x hx
    rcases List.mem_append.mp hx with hx | hx
    · exact h.verdicts x hx
    · rw [List.mem_singleton.mp hx]
      have hl := h.latch
      cases hw : m.window with
      | none => trivial
      | some w => exact hl w hw
  · rintro w ⟨⟩ -- the window is closed

theorem windowInv_radioIsr {m : Machine} (h : WindowInv m) : WindowInv m.radioIsr := by
  have hc : WindowInv { m with eventDisabled := false } := h.same ⟨rfl, rfl, rfl⟩
  rcases radioIsr_cases m with hm | hm | hm | hm <;> rw [hm]
  · exact h.same ⟨rfl, rfl, rfl⟩
  · exact windowInv_isrSent hc
  · exact hc.same (same_semGive _)
  · exact windowInv_isrReceived hc

theorem windowInv_event (e : Event) (m m' : Machine) (he : m.event e = some m') (h : WindowInv m) : WindowInv m' := by
  by_cases ht : e = .tick
  · subst ht
    cases he
    exact windowInv_tick h
  by_cases hi : e = .isr
  · subst hi
    obtain ⟨-, -, rfl⟩ := event_isr he
    exact windowInv_radioIsr h
  · exact h.same (same_event he ht hi)

/-- With `windowInv_exec` and `windowInv_event`, it holds in every run from boot. -/
theorem windowInv_boot : WindowInv Machine.boot := by
  constructor
  · rintro e ⟨⟩
  · rintro w ⟨⟩

end Crazyradio.Driver
