/-
The 200 ms path of `esb_send_packet`. It stops the radio, resets the semaphore and gives the lock back,
but takes back neither the shorts nor the interrupt that `startAttempt` set up: whatever the attempt,
and wherever the radio and the handler were, the driver is not left idle.
-/
import Crazyradio.Driver.Hardware

namespace Crazyradio.Driver

open Bytes Threads

/-! ## The configuration -/

/-- The radio, interrupt and PPI configuration between calls. -/
structure IdleConfig (m : Machine) : Prop where
  readyStart : m.shorts.readyStart = false
  endDisable : m.shorts.endDisable = false
  disabledRxen : m.shorts.disabledRxen = false
  masked : m.intDisabled = false
  ppi22 : m.ppi22 = false
  ppi26 : m.ppi26 = false
  ppi27 : m.ppi27 = false
  released : m.radioBusy = false
  irqEnabled : m.irqEnabled = true

/-- The part of it that only the code changes. -/
structure Wiring where
  readyStart : Bool
  endDisable : Bool
  intDisabled : Bool
  radioBusy : Bool
  irqEnabled : Bool

def Machine.wiring (m : Machine) : Wiring :=
  { readyStart := m.shorts.readyStart
    endDisable := m.shorts.endDisable
    intDisabled := m.intDisabled
    radioBusy := m.radioBusy
    irqEnabled := m.irqEnabled }

/-- The calls that ended through the 200 ms path. -/
def Machine.stuckCalls (m : Machine) : Nat := m.trace.count .stuck

/-! ## The hardware and the handler -/

theorem wiring_rel : HardwareRel fun m m' => m'.wiring = m.wiring where
  refl _ := rfl
  trans h h' := h'.trans h
  radio _ _ := rfl
  raiseDisabled _ := rfl
  transmit _ _ := rfl
  latch _ := rfl
  buffers _ _ := rfl
  snifferRxBuffer _ _ := rfl
  result _ _ _ := rfl
  timer _ _ _ := rfl

theorem wiring_taskTxen (m : Machine) : m.taskTxen.wiring = m.wiring := by
  unfold Machine.taskTxen
  split <;> rfl

/-- The handler takes back the short to RXEN only. -/
theorem wiring_radioIsr (m : Machine) : m.radioIsr.wiring = m.wiring := by
  rcases radioIsr_cases m with hm | hm | hm | hm <;> rw [hm]
  · rfl
  · simp only [Machine.isrSent, Machine.wiring, Shorts.disable, Bool.not_false, Bool.and_true]
  · rfl
  · rfl

theorem wiring_event {e : Event} {m m' : Machine} (h : m.event e = some m') : m'.wiring = m.wiring := by
  by_cases hi : e = .isr
  · subst hi
    obtain ⟨-, -, rfl⟩ := event_isr h
    exact wiring_radioIsr m
  · exact wiring_rel.move (fun _ => rfl) h hi

/-- No call ends by itself. -/
theorem stuckCalls_event {e : Event} {m m' : Machine} (h : m.event e = some m') : m'.stuckCalls = m.stuckCalls := by
  by_cases hi : e = .isr
  · subst hi
    obtain ⟨-, -, rfl⟩ := event_isr h
    rcases radioIsr_cases m with hm | hm | hm | hm <;> rw [hm]
    · rfl
    · rfl
    · rfl
    · exact List.count_append.trans rfl
  · rw [Machine.stuckCalls, (event_hardware h hi).1.trace]
    rfl

/-- What holds of the wiring and of the calls so far holds while the code waits. -/
theorem stable_wiring (n : Nat) (W : Wiring → Prop) :
    platform.Stable fun m => m.stuckCalls = n ∧ W m.wiring := by
  rintro e m m' he ⟨hn, hw⟩
  refine ⟨(stuckCalls_event he).trans hn, ?_⟩
  rw [wiring_event he]
  exact hw

theorem stable_stuckCalls (n : Nat) : platform.Stable fun m => m.stuckCalls = n :=
  fun _ _ _ he h => (stuckCalls_event he).trans h

/-! ## The code -/

/-- The shorts and the interrupt of an attempt are on. -/
def Wiring.SetUp (w : Wiring) : Prop := w.readyStart = true ∧ w.endDisable = true ∧ w.intDisabled = true

/-- How the 200 ms path leaves them. -/
def Wiring.Abandoned (w : Wiring) : Prop := w.SetUp ∧ w.radioBusy = false ∧ w.irqEnabled = true

theorem Wiring.Abandoned.not_idle {m : Machine} (h : m.wiring.Abandoned) : ¬IdleConfig m := by
  obtain ⟨⟨-, -, hint⟩, -⟩ := h
  exact fun hi => Bool.false_ne_true (hi.masked.symm.trans hint)

/-- Every instruction but the warning. -/
def Op.Unstuck : Op → Prop
  | .logStuck => False
  | _ => True

/-- The instructions that leave the shorts and the interrupt of an attempt on. -/
def Op.KeepsSetUp : Op → Prop
  | .radioIntDisable | .shortsDisable _ | .shortsSet _ => False
  | _ => True

theorem stuckCalls_exec {i : Op} (hi : i.Unstuck) (m : Machine) : (m.exec i).stuckCalls = m.stuckCalls := by
  cases i with
  | logStuck => exact hi.elim
  | txen ofAttempt =>
    cases ofAttempt with
    | true =>
      have ht : (m.exec (.txen true)).trace = m.trace ++ [.txen m.radioXferDone] := trace_taskTxen _
      rw [Machine.stuckCalls, ht]
      exact List.count_append
    | false => exact congrArg (List.count .stuck) (trace_taskTxen m)
  | rxen => exact congrArg (List.count .stuck) (frame_rel.taskRxen m).trace
  | disable => exact congrArg (List.count .stuck) (frame_rel.taskDisable m).trace
  | ppiEnable c => cases c <;> rfl
  | ppiDisable c => cases c <;> rfl
  | semTake ofAttempt =>
    cases ofAttempt with
    | true => exact List.count_append
    | false => rfl
  | _ => rfl

theorem setUp_exec {i : Op} (hi : i.KeepsSetUp) {m : Machine} (h : m.wiring.SetUp) : (m.exec i).wiring.SetUp := by
  cases i with
  | radioIntDisable => exact hi.elim
  | shortsDisable => exact hi.elim
  | shortsSet => exact hi.elim
  | radioIntEnable => exact ⟨h.1, h.2.1, rfl⟩
  | shortsEnable mask =>
    have hr : m.shorts.readyStart = true := h.1
    have he : m.shorts.endDisable = true := h.2.1
    refine ⟨?_, ?_, h.2.2⟩
    · exact (congrArg (· || mask.readyStart) hr).trans (Bool.true_or _)
    · exact (congrArg (· || mask.endDisable) he).trans (Bool.true_or _)
  | txen ofAttempt =>
    cases ofAttempt with
    | true =>
      show ({ m with attempt := m.attempt + 1 }.note (.txen m.radioXferDone)).taskTxen.wiring.SetUp
      rw [wiring_taskTxen]
      exact h
    | false =>
      show m.taskTxen.wiring.SetUp
      rw [wiring_taskTxen]
      exact h
  | rxen =>
    show m.taskRxen.wiring.SetUp
    rw [wiring_rel.taskRxen]
    exact h
  | disable =>
    show m.taskDisable.wiring.SetUp
    rw [wiring_rel.taskDisable]
    exact h
  | ppiEnable c => cases c <;> exact h
  | ppiDisable c => cases c <;> exact h
  | semTake ofAttempt => cases ofAttempt <;> exact h
  | _ => exact h

section Code

variable {p : Op → Prop} {i : Op}

theorem all_op (hi : p i) : (op i).All p := ⟨hi, trivial⟩

theorem all_opIf (hi : p i) (c : Bool) : (opIf c i).All p := by
  cases c with
  | true => exact all_op hi
  | false => trivial

theorem all_get {α : Type} (f : Machine → α) : (get f).All p := fun _ => trivial

theorem all_semTake (hi : p (.semTake true)) : (semTake true).All p := And.intro hi fun _ => trivial

/-- No call ends in this piece of code. -/
theorem triple_unstuck {α : Type} {t : Code α} (ht : t.All Op.Unstuck) (n : Nat) :
    platform.Triple (fun _ => True) (fun m => m.stuckCalls = n) t fun _ m => m.stuckCalls = n :=
  Platform.Triple.invariant_of (fun _ m hi h => (stuckCalls_exec hi m).trans h) (stable_stuckCalls n)
    (fun _ _ => trivial) ht

theorem triple_setUp {α : Type} {t : Code α} (ht : t.All fun i => i.Unstuck ∧ i.KeepsSetUp) (n : Nat) :
    platform.Triple (fun _ => True) (fun m => m.stuckCalls = n ∧ m.wiring.SetUp) t
      fun _ m => m.stuckCalls = n ∧ m.wiring.SetUp :=
  Platform.Triple.invariant_of (fun _ m hi h => ⟨(stuckCalls_exec hi.1 m).trans h.1, setUp_exec hi.2 h.2⟩)
    (stable_wiring n Wiring.SetUp) (fun _ _ => trivial) ht

theorem startAttempt_setUp (n : Nat) : platform.Triple (fun _ => True) (fun m => m.stuckCalls = n) startAttempt
    fun _ m => m.stuckCalls = n ∧ m.wiring.SetUp := by
  refine Platform.Triple.step (B := fun m => m.stuckCalls = n) (stable_stuckCalls n) (fun _ _ => trivial)
    (fun _ h => h) ?_
  refine Platform.Triple.step (B := fun m => m.stuckCalls = n ∧ m.wiring.intDisabled = true) (stable_stuckCalls n)
    (fun _ _ => trivial) (fun _ h => ⟨h, rfl⟩) ?_
  refine Platform.Triple.step (B := fun m => m.stuckCalls = n ∧ m.wiring.SetUp)
    (stable_wiring n fun w => w.intDisabled = true) (fun _ _ => trivial)
    (fun m h => ⟨h.1, Bool.or_true _, Bool.or_true _, h.2⟩) ?_
  refine triple_setUp ?_ n
  refine (all_get _).bind fun ackEnabled => (all_opIf ⟨trivial, trivial⟩ ackEnabled).bind fun _ => ?_
  refine (all_op ⟨trivial, trivial⟩).bind fun _ => (all_op ⟨trivial, trivial⟩).bind fun _ => ?_
  refine (all_op ⟨trivial, trivial⟩).bind fun _ => (all_op ⟨trivial, trivial⟩).bind fun _ => ?_
  exact (all_op ⟨trivial, trivial⟩).bind fun _ => (all_op ⟨trivial, trivial⟩).bind fun _ => all_op ⟨trivial, trivial⟩

/-- `k_sem_take` changes nothing of it, whichever way it ends. -/
theorem semTake_setUp (n : Nat) : platform.Triple (fun _ => True) (fun m => m.stuckCalls = n ∧ m.wiring.SetUp)
    (semTake true) fun _ m => m.stuckCalls = n ∧ m.wiring.SetUp :=
  triple_setUp (all_semTake ⟨trivial, trivial⟩) n

/-- The 200 ms path gives back the lock and enables the interrupt line, and that is all. -/
theorem resetRadio_abandoned (n : Nat) : platform.Triple (fun _ => True) (fun m => m.stuckCalls = n ∧ m.wiring.SetUp)
    resetRadio fun _ m => m.stuckCalls = n + 1 ∧ m.wiring.Abandoned := by
  have keep : ∀ {i : Op} {k : Unit → Code Unit}, i.Unstuck → i.KeepsSetUp →
      platform.Triple (fun _ => True) (fun m => m.stuckCalls = n + 1 ∧ m.wiring.SetUp) (k ())
        (fun _ m => m.stuckCalls = n + 1 ∧ m.wiring.Abandoned) →
      platform.Triple (fun _ => True) (fun m => m.stuckCalls = n + 1 ∧ m.wiring.SetUp) (op i >>= k)
        fun _ m => m.stuckCalls = n + 1 ∧ m.wiring.Abandoned :=
    fun hu hi h => Platform.Triple.step (stable_wiring _ Wiring.SetUp) (fun _ _ => trivial)
      (fun m hm => ⟨(stuckCalls_exec hu m).trans hm.1, setUp_exec hi hm.2⟩) h
  refine Platform.Triple.step (B := fun m => m.stuckCalls = n + 1 ∧ m.wiring.SetUp) (stable_wiring n Wiring.SetUp)
    (fun _ _ => trivial) (fun m h => ⟨?_, h.2⟩) ?_
  · rw [← h.1]
    exact List.count_append
  refine keep trivial trivial (keep trivial trivial (keep trivial trivial ?_))
  refine Platform.Triple.step (B := fun m => m.stuckCalls = n + 1 ∧ m.wiring.SetUp ∧ m.wiring.radioBusy = false)
    (stable_wiring _ Wiring.SetUp) (fun _ _ => trivial) (fun _ h => ⟨h.1, h.2, rfl⟩) ?_
  refine Platform.Triple.step (B := fun m => m.stuckCalls = n + 1 ∧ m.wiring.Abandoned)
    (stable_wiring _ fun w => w.SetUp ∧ w.radioBusy = false) (fun _ _ => trivial)
    (fun _ h => ⟨h.1, h.2.1, h.2.2, rfl⟩) ?_
  exact Platform.Triple.done (stable_wiring _ Wiring.Abandoned) (fun _ _ => trivial) fun _ h => h

/-- How the attempt loop ends: with its variables and no call stuck, or with nothing behind the 200 ms
path. -/
def LoopEnds (n : Nat) (r : Option (Bool × Nat)) (m : Machine) : Prop :=
  match r with
  | some _ => m.stuckCalls = n
  | none => m.stuckCalls = n + 1 ∧ m.wiring.Abandoned

/-- One attempt, with what follows it. -/
theorem attempt_ends {next : Bool → Code (Option (Bool × Nat))} {n : Nat}
    (h : ∀ ackReceived, platform.Triple (fun _ => True) (fun m => m.stuckCalls = n) (next ackReceived) (LoopEnds n)) :
    platform.Triple (fun _ => True) (fun m => m.stuckCalls = n) (do
      startAttempt
      if ← semTake true then
        endAttempt
        let ackReceived ← checkAck
        next ackReceived
      else
        resetRadio
        return none) (LoopEnds n) := by
  refine (startAttempt_setUp n).bind fun _ => (semTake_setUp n).bind fun taken => ?_
  cases taken with
  | true =>
    have hend : endAttempt.All Op.Unstuck := by
      refine (all_op trivial).bind fun _ => (all_op trivial).bind fun _ => (all_get _).bind fun ackEnabled => ?_
      exact (all_opIf trivial ackEnabled).bind fun _ => (all_op trivial).bind fun _ => all_op trivial
    have hcheck : checkAck.All Op.Unstuck := by
      refine (all_get _).bind fun timeout => ?_
      cases timeout with
      | true => trivial
      | false =>
        refine (all_get _).bind fun crcOk => ?_
        cases crcOk with
        | true => exact all_get _
        | false => trivial
    refine ((triple_unstuck hend n).pre fun _ h => h.1).bind fun _ => ?_
    exact (triple_unstuck hcheck n).bind h
  | false =>
    refine (resetRadio_abandoned n).bind fun _ => ?_
    exact Platform.Triple.done (stable_wiring _ Wiring.Abandoned) (fun _ _ => trivial) fun _ h => h

theorem attempts_ends (left arcCounter n : Nat) :
    platform.Triple (fun _ => True) (fun m => m.stuckCalls = n) (attempts left arcCounter) (LoopEnds n) := by
  have hdone : ∀ r : Bool × Nat, platform.Triple (fun _ => True) (fun m => m.stuckCalls = n)
      (pure (some r) : Code _) (LoopEnds n) :=
    fun r => Platform.Triple.done (stable_stuckCalls n) (fun _ _ => trivial) fun _ h => h
  have hget : ∀ k : Bool → Code (Option (Bool × Nat)),
      (∀ b, platform.Triple (fun _ => True) (fun m => m.stuckCalls = n) (k b) (LoopEnds n)) →
      platform.Triple (fun _ => True) (fun m => m.stuckCalls = n) (get (·.esb.ackEnabled) >>= k) (LoopEnds n) :=
    fun k hk => Platform.Triple.read (stable_stuckCalls n) (fun _ _ => trivial) fun m hm => hk _ m hm
  induction left generalizing arcCounter with
  | zero =>
    refine attempt_ends fun ackReceived => hget _ fun ackEnabled => ?_
    split <;> exact hdone _
  | succ left ih =>
    refine attempt_ends fun ackReceived => hget _ fun ackEnabled => ?_
    split
    · exact hdone _
    · exact ih (arcCounter + 1)

/-- How a call ends: no call stuck, or this one. -/
def CallEnds (n : Nat) (r : Bool) (m : Machine) : Prop :=
  m.stuckCalls = n ∨ r = false ∧ m.stuckCalls = n + 1 ∧ m.wiring.Abandoned

/-- A call of `esb_send_packet` that ends through the 200 ms path leaves the attempt set up. -/
theorem esbSendPacket_ends (packetDraw ackDraw : UInt32) (n : Nat) :
    platform.Triple (fun _ => True) (fun m => m.stuckCalls = n) (esbSendPacket packetDraw ackDraw) (CallEnds n) := by
  have hpre : ∀ {t : Code Bool}, t.All Op.Unstuck →
      platform.Triple (fun _ => True) (fun m => m.stuckCalls = n) t (CallEnds n) :=
    fun ht => (triple_unstuck ht n).post fun _ _ h => .inl h
  have hread : ∀ {β : Type} {f : Machine → β} {k : β → Code Bool},
      (∀ b, platform.Triple (fun _ => True) (fun m => m.stuckCalls = n) (k b) (CallEnds n)) →
      platform.Triple (fun _ => True) (fun m => m.stuckCalls = n) (get f >>= k) (CallEnds n) :=
    fun hk => Platform.Triple.read (stable_stuckCalls n) (fun _ _ => trivial) fun m hm => hk _ m hm
  have hop : ∀ {i : Op} {k : Unit → Code Bool}, i.Unstuck →
      platform.Triple (fun _ => True) (fun m => m.stuckCalls = n) (k ()) (CallEnds n) →
      platform.Triple (fun _ => True) (fun m => m.stuckCalls = n) (op i >>= k) (CallEnds n) :=
    fun hi h => Platform.Triple.step (stable_stuckCalls n) (fun _ _ => trivial)
      (fun m hm => (stuckCalls_exec hi m).trans hm) h
  refine hread fun isInit => ?_
  split
  · exact hpre trivial
  refine hread fun refused => ?_
  split
  · exact hpre trivial
  refine hop trivial (hread fun percent => ?_)
  split
  · exact hop trivial (hpre trivial)
  refine hread fun pid => hop trivial (hop trivial (hread fun arc => ?_))
  refine (attempts_ends arc 0 n).bind fun r => ?_
  cases r with
  | none =>
    exact Platform.Triple.done (stable_wiring _ Wiring.Abandoned) (fun _ _ => trivial) fun _ h => .inr ⟨rfl, h⟩
  | some r =>
    exact hop trivial (hop trivial (hread fun percent => hop trivial (hpre trivial)))

end Code

/-! ## No call that is stuck -/

/-- Behind the 200 ms path the driver is never idle: the lock is given back and the interrupt line is
enabled, but the READY-START and END-DISABLE shorts and the interrupt of the attempt stay on. -/
theorem stuck_never_idle {packetDraw ackDraw : UInt32} {cs : List (Choice Event)} {m m' : Machine} {r : Bool}
    (h : platform.finish cs (esbSendPacket packetDraw ackDraw) m = some (r, m'))
    (hs : m.stuckCalls < m'.stuckCalls) : ¬IdleConfig m' ∧ r = false ∧ m'.wiring.Abandoned := by
  rcases (esbSendPacket_ends packetDraw ackDraw m.stuckCalls).finish rfl h with hn | ⟨hr, -, ha⟩
  · omega
  · exact ⟨ha.not_idle, hr, ha⟩

/-- A packet that never gets out. -/
def stuckSchedule : List (Choice Event) := threadSteps 20 ++ [.expire] ++ threadSteps 6

theorem finish_stuckSchedule : ∃ r m', platform.finish stuckSchedule (esbSendPacket 0 0) .boot = some (r, m') ∧
    m'.stuckCalls = 1 := by
  have hrun : (platform.finish stuckSchedule (esbSendPacket 0 0) .boot).map (fun p => p.2.stuckCalls) = some 1 := by
    decide +kernel
  obtain ⟨⟨r, m'⟩, hf, hn⟩ := Option.map_eq_some_iff.mp hrun
  exact ⟨r, m', hf, hn⟩

theorem stuck_never_idle_boot : ∃ r m', platform.finish stuckSchedule (esbSendPacket 0 0) .boot = some (r, m') ∧
    ¬IdleConfig m' := by
  obtain ⟨r, m', hf, hn⟩ := finish_stuckSchedule
  have hs : Machine.boot.stuckCalls < m'.stuckCalls := by
    rw [hn]
    exact Nat.zero_lt_one
  exact ⟨r, m', hf, (stuck_never_idle hf hs).1⟩

/-- A first call that gets stuck leaves the interrupt of its attempt enabled. -/
theorem stuck_not_idle : ¬ ∀ (calls : List Call) (m m' : Machine) (cs₀ cs : List (Choice Event))
    (packetDraw ackDraw : UInt32) (r : Bool), platform.finish cs₀ (session calls) .boot = some ((), m) →
    platform.finish cs (esbSendPacket packetDraw ackDraw) m = some (r, m') → m.stuckCalls < m'.stuckCalls →
    IdleConfig m' := by
  intro hall
  obtain ⟨r, m', hf, hn⟩ := finish_stuckSchedule
  have hs : Machine.boot.stuckCalls < m'.stuckCalls := by
    rw [hn]
    exact Nat.zero_lt_one
  have hi := hall [] .boot m' [] stuckSchedule 0 0 r rfl hf hs
  rcases (esbSendPacket_ends 0 0 0).finish rfl hf with h0 | ⟨-, -, ha⟩
  · omega
  · exact ha.not_idle hi

end Crazyradio.Driver
