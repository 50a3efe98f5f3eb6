/-
The machine as the code sets it up, with a handler that preempts the code: a pending interrupt is
taken before the next instruction. `Config` is what only the code and `radio_isr` change, and both
change it as a function of itself; the hardware moves the radio through its `Phase`s only. So the
configuration behind a piece of code is computed like that of a sequential program, wherever the
hardware and the handler moved, as long as the assertions are of this form.
-/
import Crazyradio.Driver.Hardware

namespace Crazyradio.Driver

open Threads

/-! ## Configuration -/

/-- What the hardware leaves alone: statics, registers, the semaphore and the pins. The log of the
radio is left out. -/
structure Config where
  esb : Esb
  sending : Bool
  radioXferDone : Nat
  shorts : Shorts
  intDisabled : Bool
  packetptr : PacketPtr
  ppi22 : Bool
  femTxen : Bool
  femRxen : Bool
  irqEnabled : Bool

def Machine.config (m : Machine) : Config :=
  { esb := { m.esb with log := [] }
    sending := m.sending
    radioXferDone := m.radioXferDone
    shorts := m.shorts
    intDisabled := m.intDisabled
    packetptr := m.packetptr
    ppi22 := m.ppi22
    femTxen := m.femTxen
    femRxen := m.femRxen
    irqEnabled := m.irqEnabled }

namespace Config

/-- The interrupt is enabled. -/
def armed (c : Config) : Bool := c.irqEnabled && c.intDisabled

/-- An instruction on the configuration. -/
def exec : Op → Config → Config
  | .radioIntEnable, c => { c with intDisabled := true }
  | .radioIntDisable, c => { c with intDisabled := false }
  | .shortsEnable mask, c => { c with shorts := c.shorts.enable mask }
  | .shortsDisable mask, c => { c with shorts := c.shorts.disable mask }
  | .shortsSet mask, c => { c with shorts := mask }
  | .packetptrSet p, c => { c with packetptr := p }
  | .ppiEnable .channel22, c => { c with ppi22 := true }
  | .ppiDisable .channel22, c => { c with ppi22 := false }
  | .femTxenSet enable, c => { c with femTxen := enable }
  | .femRxenSet enable, c => { c with femRxen := enable }
  | .semTake _, c => { c with radioXferDone := c.radioXferDone - 1 }
  | .semReset, c => { c with radioXferDone := 0 }
  | .irqEnable, c => { c with irqEnabled := true }
  | .irqDisable, c => { c with irqEnabled := false }
  | .sending, c => { c with sending := true }
  | .esb f, c => { c with esb := { f c.esb with log := [] } }
  | _, c => c

/-- `radio_isr` on the configuration. -/
def radioIsr (c : Config) : Config :=
  if c.esb.snifferActive then { c with packetptr := .snifferRxBuffer }
  else if c.sending then
    if c.esb.ackEnabled then
      { c with
        femTxen := false
        femRxen := true
        packetptr := .ackBuffer
        ppi22 := true
        shorts := c.shorts.disable { disabledRxen := true }
        sending := false }
    else { c with radioXferDone := 1 }
  else { c with femRxen := false, ppi22 := false, radioXferDone := 1 }

theorem radioIsr_sent {c : Config} (hn : c.esb.snifferActive = false) (hs : c.sending = true)
    (ha : c.esb.ackEnabled = true) :
    c.radioIsr = { c with
      femTxen := false
      femRxen := true
      packetptr := .ackBuffer
      ppi22 := true
      shorts := c.shorts.disable { disabledRxen := true }
      sending := false } := by
  simp only [radioIsr, hn, hs, ha, Bool.false_eq_true, if_false, if_true]

theorem radioIsr_given {c : Config} (hn : c.esb.snifferActive = false) (hs : c.sending = true)
    (ha : c.esb.ackEnabled = false) : c.radioIsr = { c with radioXferDone := 1 } := by
  simp only [radioIsr, hn, hs, ha, Bool.false_eq_true, if_false, if_true]

theorem radioIsr_received {c : Config} (hn : c.esb.snifferActive = false) (hs : c.sending = false) :
    c.radioIsr = { c with femRxen := false, ppi22 := false, radioXferDone := 1 } := by
  simp only [radioIsr, hn, hs, Bool.false_eq_true, if_false]

/-- In a sniffer session the handler changes nothing that the session did not set up. -/
theorem radioIsr_sniffing {c : Config} (hn : c.esb.snifferActive = true) (hp : c.packetptr = .snifferRxBuffer) :
    c.radioIsr = c := by
  obtain ⟨esb, sending, sem, shorts, int, ptr, ppi22, tx, rx, irq⟩ := c
  cases hp
  exact if_pos hn

end Config

/-- The instruction does not depend on the log. -/
def Op.Blind : Op → Prop
  | .esb f => ∀ e : Esb, { f e with log := [] } = { f { e with log := [] } with log := [] }
  | _ => True

/-! ## Code and handler on the configuration -/

theorem config_rel : HardwareRel fun m m' => m'.config = m.config where
  refl _ := rfl
  trans h h' := h'.trans h
  radio _ _ := rfl
  raiseDisabled _ := rfl
  transmit _ _ := rfl
  latch _ := rfl
  buffers _ _ := rfl
  snifferRxBuffer _ _ := rfl
  result _ _ _ := rfl
  timer _ _ _ := rfl

@[simp] theorem config_taskDisable (m : Machine) : m.taskDisable.config = m.config := config_rel.taskDisable m

@[simp] theorem config_taskTxen (m : Machine) : m.taskTxen.config = m.config := by
  unfold Machine.taskTxen
  split <;> rfl

@[simp] theorem config_taskRxen (m : Machine) : m.taskRxen.config = m.config := config_rel.taskRxen m

theorem config_exec {i : Op} (hi : i.Blind) (m : Machine) : (m.exec i).config = m.config.exec i := by
  cases i with
  | esb f => exact congrArg (fun e => { m.config with esb := e }) (hi m.esb)
  | txen ofAttempt => cases ofAttempt <;> exact config_taskTxen _
  | rxen => exact config_taskRxen m
  | disable => exact config_taskDisable m
  | semTake ofAttempt => cases ofAttempt <;> rfl
  | ppiEnable c => cases c <;> rfl
  | ppiDisable c => cases c <;> rfl
  | _ => rfl

theorem config_radioIsr (m : Machine) : m.radioIsr.config = m.config.radioIsr := by
  cases hn : m.esb.snifferActive with
  | true =>
    rw [radioIsr_sniffing hn, Config.radioIsr, if_pos (show m.config.esb.snifferActive = true from hn)]
    rfl
  | false =>
    have hn' : m.config.esb.snifferActive = false := hn
    cases hs : m.sending with
    | false =>
      rw [radioIsr_received hn hs, Config.radioIsr_received hn' hs]
      rfl
    | true =>
      cases ha : m.esb.ackEnabled with
      | true =>
        rw [radioIsr_sent hn hs ha, Config.radioIsr_sent hn' hs ha]
        rfl
      | false =>
        rw [radioIsr_given hn hs ha, Config.radioIsr_given hn' hs ha]
        rfl

theorem radio_radioIsr (m : Machine) : m.radioIsr.radio = m.radio := by
  rcases radioIsr_cases m with h | h | h | h <;> rw [h] <;> rfl

theorem event_radioIsr (m : Machine) : m.radioIsr.eventDisabled = false := by
  rcases radioIsr_cases m with h | h | h | h <;> rw [h] <;> rfl

theorem config_event {e : Event} {m m' : Machine} (h : m.event e = some m') (hi : e ≠ .isr) : m'.config = m.config :=
  config_rel.move (fun _ => rfl) h hi

/-! ## Phases of the radio -/

/-- The radio is off or on its way there. -/
def Machine.IsDown (m : Machine) : Prop := m.radio = .disabled ∨ m.radio = .rxDisable ∨ m.radio = .txDisable

/-- How much is known of the radio: nothing; its event finds it off; besides, it was told to go off;
it is off; besides, its event is not latched. -/
inductive Phase
  | any
  | falling
  | down
  | off
  | still

def Phase.Holds : Phase → Machine → Prop
  | .any, _ => True
  | .falling, m => m.eventDisabled = true → m.radio = .disabled
  | .down, m => (m.eventDisabled = true → m.radio = .disabled) ∧ m.IsDown
  | .off, m => m.radio = .disabled
  | .still, m => m.radio = .disabled ∧ m.eventDisabled = false

/-- What the hardware needs to keep a phase: the short to RXEN, or the channel to DISABLE, is off. -/
def Phase.Needs : Phase → Config → Prop
  | .any, _ => True
  | .falling, c | .down, c => c.shorts.disabledRxen = false
  | .off, c | .still, c => c.ppi22 = false

theorem isDown_taskDisable (m : Machine) (h : m.shorts.disabledRxen = false) : m.taskDisable.IsDown := by
  unfold Machine.taskDisable
  split
  · exact .inl (if_neg (Bool.eq_false_iff.mp h))
  · exact .inr (.inl rfl)
  · exact .inr (.inl rfl)
  · exact .inr (.inl rfl)
  · exact .inr (.inr rfl)
  · exact .inr (.inr rfl)
  · exact .inr (.inr rfl)
  · exact .inr (.inl ‹_›)
  · exact .inr (.inr ‹_›)

/-- A radio on its way off stays there. -/
theorem IsDown.event {e : Event} {m m' : Machine} (hd : m.IsDown) (hs : m.shorts.disabledRxen = false)
    (h : m.event e = some m') : m'.IsDown := by
  have busy : ∀ r : RadioState, m.radio = r → r = .disabled ∨ r = .rxDisable ∨ r = .txDisable := by
    rintro r rfl; exact hd
  cases e with
  | tick =>
    cases h
    unfold Machine.tick
    simp only
    split
    · unfold Machine.raiseCompare1
      split
      · exact isDown_taskDisable _ hs
      · exact hd
    · exact hd
  | ready =>
    simp only [Machine.event, Machine.ready] at h
    split at h
    · rename_i hr; exact absurd (busy _ hr) (by decide)
    · rename_i hr; exact absurd (busy _ hr) (by decide)
    · cases h
  | address =>
    simp only [Machine.event, Machine.address] at h
    split at h
    · rename_i hr
      rcases hr with hr | hr <;> exact absurd (busy _ hr) (by decide)
    · cases h
  | endTx =>
    simp only [Machine.event, Machine.endTx] at h
    split at h
    · rename_i hr; exact absurd (busy _ hr) (by decide)
    · cases h
  | endRx f crcOk rssi =>
    simp only [Machine.event, Machine.endRx] at h
    split at h
    · rename_i hr; exact absurd (busy _ hr) (by decide)
    · cases h
  | rampedDown =>
    simp only [Machine.event, Machine.rampedDown] at h
    split at h
    · cases h; exact .inl (if_neg (Bool.eq_false_iff.mp hs))
    · cases h
  | isr =>
    obtain ⟨-, -, rfl⟩ := event_isr h
    unfold Machine.IsDown
    rw [radio_radioIsr]
    exact hd

theorem Phase.Holds.radioIsr {p : Phase} {m : Machine} (h : p.Holds m) : p.Holds m.radioIsr := by
  have he := event_radioIsr m
  have hr := radio_radioIsr m
  cases p with
  | any => trivial
  | falling => exact fun h => absurd h (ne_true_of_eq_false he)
  | down =>
    refine ⟨fun h => absurd h (ne_true_of_eq_false he), ?_⟩
    unfold Machine.IsDown
    rw [hr]
    exact h.2
  | off => exact hr.trans h
  | still => exact ⟨hr.trans h.1, he⟩

/-- The hardware keeps the phase. -/
theorem Phase.Holds.event {p : Phase} {e : Event} {m m' : Machine} (h : p.Holds m) (hn : p.Needs m.config)
    (he : m.event e = some m') (hi : e ≠ .isr) : p.Holds m' := by
  obtain ⟨hf, hw⟩ := event_hardware he hi
  have falling : (m.eventDisabled = true → m.radio = .disabled) → m.shorts.disabledRxen = false →
      m'.eventDisabled = true → m'.radio = .disabled := by
    intro h hs
    rcases hw with hq | hr
    · rw [hq.eventDisabled, hq.radio]; exact h
    · exact fun _ => hr.radio hs
  have off : m.radio = .disabled → m.ppi22 = false → Quiet m m' := by
    intro h hp
    rcases hw with hq | hr
    · exact hq
    · exact absurd (hr.timer h) (ne_true_of_eq_false hp)
  cases p with
  | any => trivial
  | falling => exact falling h hn
  | down => exact ⟨falling h.1 hn, IsDown.event h.2 hn he⟩
  | off => exact (off h hn).radio.mpr h
  | still =>
    have hq := off h.1 hn
    exact ⟨hq.radio.mpr h.1, hq.eventDisabled.trans h.2⟩

/-- Instructions that neither start nor stop the radio nor clear its event. -/
def Op.Quiet : Op → Prop
  | .radioEventClear | .txen _ | .rxen | .disable => False
  | _ => True

theorem Phase.Holds.exec {p : Phase} {i : Op} {m : Machine} (h : p.Holds m) (hi : i.Quiet) : p.Holds (m.exec i) := by
  have hr : (m.exec i).radio = m.radio ∧ (m.exec i).eventDisabled = m.eventDisabled := by
    cases i with
    | radioEventClear | txen | rxen | disable => exact hi.elim
    | ppiEnable c => cases c <;> exact ⟨rfl, rfl⟩
    | ppiDisable c => cases c <;> exact ⟨rfl, rfl⟩
    | semTake ofAttempt => cases ofAttempt <;> exact ⟨rfl, rfl⟩
    | _ => exact ⟨rfl, rfl⟩
  cases p with
  | any => trivial
  | falling => rw [Phase.Holds, hr.1, hr.2]; exact h
  | down => rw [Phase.Holds, Machine.IsDown, hr.1, hr.2]; exact h
  | off => exact hr.1.trans h
  | still => exact ⟨hr.1.trans h.1, hr.2.trans h.2⟩

end Crazyradio.Driver
