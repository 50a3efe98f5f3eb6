/-
What the hardware does while neither the code nor `radio_isr` runs: the radio goes through its
states, frames come in, the timer counts. What every single step of this keeps, every event keeps
(`RadioRel`, and `HardwareRel` with the timer). `Frame` is the part of the machine it leaves alone,
and `Quiet` and `Raised` are the two things that can come of it: no DISABLED event, or one of the
radio's last activity. Assertions about the machine are checked against these and the branches of
`radio_isr`, not event by event.
-/
import Crazyradio.Driver.Code

namespace Crazyradio.Driver

open Bytes Threads

/-! ## Moves -/

/-- END, of a packet sent or received. -/
def Event.isEnd : Event → Bool
  | .endTx | .endRx .. => true
  | _ => false

/-- A relation between machines that is kept by what the radio does by itself: it changes its state, takes
or stores a packet and raises its event. -/
structure RadioRel (R : Machine → Machine → Prop) : Prop where
  refl : ∀ m, R m m
  trans : ∀ {a b c}, R a b → R b c → R a c
  radio : ∀ m r, R m { m with radio := r }
  raiseDisabled : ∀ m : Machine, R m m.raiseDisabled
  transmit : ∀ m p, R m { m with esb := transmit p m.esb }
  latch : ∀ m : Machine, R m { m with rxptr := m.packetptr }
  buffers : ∀ m b, R m { m with buffers := b }
  snifferRxBuffer : ∀ m p, R m { m with snifferRxBuffer := p }
  result : ∀ m crcOk rssi, R m { m with crcStatus := crcOk, rssiSample := rssi }

/-- The same with the timer, which counts and captures. -/
structure HardwareRel (R : Machine → Machine → Prop) : Prop extends RadioRel R where
  timer : ∀ m t, t.compare1 = m.timer.compare1 → R m { m with timer := t }

namespace RadioRel

variable {R : Machine → Machine → Prop}

theorem taskDisable (hR : RadioRel R) (m : Machine) : R m m.taskDisable := by
  unfold Machine.taskDisable
  split
  · exact hR.raiseDisabled m
  all_goals exact hR.radio m _

theorem taskRxen (hR : RadioRel R) (m : Machine) : R m m.taskRxen := by
  unfold Machine.taskRxen
  split
  · exact hR.radio m .rxRu
  · exact hR.refl m

theorem taskStart (hR : RadioRel R) (m : Machine) : R m m.taskStart := by
  unfold Machine.taskStart
  split
  · exact hR.trans (hR.radio m .tx) (hR.transmit _ (m.pointed m.packetptr))
  · exact hR.trans (hR.radio m .rx) (hR.latch _)
  · exact hR.refl m

/-- The radio has ramped up. -/
theorem start (hR : RadioRel R) (m : Machine) (r : RadioState) :
    R m (if m.shorts.readyStart then { m with radio := r }.taskStart else { m with radio := r }) := by
  split
  · exact hR.trans (hR.radio m r) (hR.taskStart _)
  · exact hR.radio m r

theorem receive (hR : RadioRel R) (f : RxFrame) (m : Machine) : R m (m.receive f) := by
  unfold Machine.receive
  simp only
  split
  · exact hR.buffers m _
  · exact hR.buffers m _
  · exact hR.snifferRxBuffer m _

theorem raiseEnd (hR : RadioRel R) (m : Machine) : R m.captureEnd m.raiseEnd := by
  unfold Machine.raiseEnd
  split
  · exact hR.taskDisable _
  · exact hR.refl _

/-- What the radio does, but for ADDRESS with its capture of CC1; END has the capture of CC2. -/
theorem event (hR : RadioRel R) {e : Event} {m m' : Machine} (h : m.event e = some m') (ht : e ≠ .tick)
    (ha : e ≠ .address) (hi : e ≠ .isr) : if e.isEnd then ∃ m₁, R m m₁ ∧ R m₁.captureEnd m' else R m m' := by
  cases e with
  | tick => exact absurd rfl ht
  | ready =>
    simp only [Machine.event, Machine.ready] at h
    split at h
    · cases h; exact hR.start m .txIdle
    · cases h; exact hR.start m .rxIdle
    · cases h
  | address => exact absurd rfl ha
  | endTx =>
    simp only [Machine.event, Machine.endTx] at h
    split at h
    · cases h
      exact ⟨_, hR.radio m .txIdle, hR.raiseEnd _⟩
    · cases h
  | endRx f crcOk rssi =>
    simp only [Machine.event, Machine.endRx] at h
    split at h
    · cases h
      have hf := hR.trans (hR.receive f m) (hR.radio _ .rxIdle)
      exact ⟨_, hR.trans hf (hR.result _ crcOk rssi), hR.raiseEnd _⟩
    · cases h
  | rampedDown =>
    simp only [Machine.event, Machine.rampedDown] at h
    split at h
    · cases h; exact hR.raiseDisabled m
    · cases h
  | isr => exact absurd rfl hi

end RadioRel

namespace HardwareRel

variable {R : Machine → Machine → Prop}

/-- Everything that happens by itself, but for the timer's tick and `radio_isr`. -/
theorem event (hR : HardwareRel R) {e : Event} {m m' : Machine} (h : m.event e = some m') (ht : e ≠ .tick)
    (hi : e ≠ .isr) : R m m' := by
  by_cases ha : e = .address
  · subst ha
    simp only [Machine.event, Machine.address] at h
    split at h
    · cases h
      split
      · exact hR.timer m _ rfl
      · exact hR.refl m
    · cases h
  · have hc : ∀ m : Machine, R m m.captureEnd := by
      intro m
      unfold Machine.captureEnd
      split
      · exact hR.timer m _ rfl
      · exact hR.refl m
    have hr := hR.toRadioRel.event h ht ha hi
    split at hr
    · obtain ⟨m₁, h₁, h₂⟩ := hr
      exact hR.trans h₁ (hR.trans (hc m₁) h₂)
    · exact hr

/-- One microsecond, for a relation that COMPARE1 keeps too. -/
theorem tick (hR : HardwareRel R) (hm : ∀ m : Machine, R m m.matchCc1) (m : Machine) : R m m.tick := by
  have hc : R m { m with timer := { m.timer with counter := m.timer.counter + 1 } } := hR.timer m _ rfl
  unfold Machine.tick Machine.raiseCompare1
  simp only
  split
  · split
    · exact hR.trans hc (hR.trans (hm _) (hR.taskDisable _))
    · exact hR.trans hc (hm _)
  · exact hc

/-- Everything that happens by itself, but for `radio_isr`. -/
theorem move (hR : HardwareRel R) (hm : ∀ m : Machine, R m m.matchCc1) {e : Event} {m m' : Machine}
    (h : m.event e = some m') (hi : e ≠ .isr) : R m m' := by
  by_cases ht : e = .tick
  · subst ht
    cases h
    exact hR.tick hm m
  · exact hR.event h ht hi

end HardwareRel

/-! ## The frame -/

/-- What the hardware leaves alone. -/
structure Frame (m m' : Machine) : Prop where
  ackEnabled : m'.esb.ackEnabled = m.esb.ackEnabled
  snifferActive : m'.esb.snifferActive = m.esb.snifferActive
  sending : m'.sending = m.sending
  radioXferDone : m'.radioXferDone = m.radioXferDone
  shorts : m'.shorts = m.shorts
  intDisabled : m'.intDisabled = m.intDisabled
  ppi22 : m'.ppi22 = m.ppi22
  attempt : m'.attempt = m.attempt
  activity : m'.activity = m.activity
  giveCause : m'.giveCause = m.giveCause
  trace : m'.trace = m.trace

theorem Frame.refl (m : Machine) : Frame m m := ⟨rfl, rfl, rfl, rfl, rfl, rfl, rfl, rfl, rfl, rfl, rfl⟩

theorem Frame.trans {a b c : Machine} (h : Frame a b) (h' : Frame b c) : Frame a c :=
  ⟨h'.ackEnabled.trans h.ackEnabled, h'.snifferActive.trans h.snifferActive, h'.sending.trans h.sending,
    h'.radioXferDone.trans h.radioXferDone, h'.shorts.trans h.shorts, h'.intDisabled.trans h.intDisabled,
    h'.ppi22.trans h.ppi22, h'.attempt.trans h.attempt, h'.activity.trans h.activity,
    h'.giveCause.trans h.giveCause, h'.trace.trans h.trace⟩

theorem frame_rel : HardwareRel Frame where
  refl := .refl
  trans h h' := h.trans h'
  radio _ _ := ⟨rfl, rfl, rfl, rfl, rfl, rfl, rfl, rfl, rfl, rfl, rfl⟩
  raiseDisabled _ := ⟨rfl, rfl, rfl, rfl, rfl, rfl, rfl, rfl, rfl, rfl, rfl⟩
  transmit _ _ := ⟨rfl, rfl, rfl, rfl, rfl, rfl, rfl, rfl, rfl, rfl, rfl⟩
  latch _ := ⟨rfl, rfl, rfl, rfl, rfl, rfl, rfl, rfl, rfl, rfl, rfl⟩
  buffers _ _ := ⟨rfl, rfl, rfl, rfl, rfl, rfl, rfl, rfl, rfl, rfl, rfl⟩
  snifferRxBuffer _ _ := ⟨rfl, rfl, rfl, rfl, rfl, rfl, rfl, rfl, rfl, rfl, rfl⟩
  result _ _ _ := ⟨rfl, rfl, rfl, rfl, rfl, rfl, rfl, rfl, rfl, rfl, rfl⟩
  timer _ _ _ := ⟨rfl, rfl, rfl, rfl, rfl, rfl, rfl, rfl, rfl, rfl, rfl⟩

theorem frame_matchCc1 (m : Machine) : Frame m m.matchCc1 :=
  ⟨rfl, rfl, rfl, rfl, rfl, rfl, rfl, rfl, rfl, rfl, rfl⟩

/-! ## DISABLED events -/

/-- No DISABLED event. -/
structure Quiet (m m' : Machine) : Prop where
  eventDisabled : m'.eventDisabled = m.eventDisabled
  eventCause : m'.eventCause = m.eventCause
  radio : m'.radio = .disabled ↔ m.radio = .disabled

/-- A DISABLED event of the radio's last activity; a radio that is off has it from the timer. -/
structure Raised (m m' : Machine) : Prop where
  eventDisabled : m'.eventDisabled = true
  eventCause : m'.eventCause = m.activity
  radio : m.shorts.disabledRxen = false → m'.radio = .disabled
  timer : m.radio = .disabled → m.ppi22 = true

theorem Quiet.trans {a b c : Machine} (h : Quiet a b) (h' : Quiet b c) : Quiet a c :=
  ⟨h'.eventDisabled.trans h.eventDisabled, h'.eventCause.trans h.eventCause, h'.radio.trans h.radio⟩

theorem quiet_radio {m : Machine} (h : m.radio ≠ .disabled) {r : RadioState} (hr : r ≠ .disabled) :
    Quiet m { m with radio := r } := ⟨rfl, rfl, fun hd => absurd hd hr, fun hd => absurd hd h⟩

theorem quiet_taskDisable {m : Machine} (h : m.radio ≠ .disabled) : Quiet m m.taskDisable := by
  unfold Machine.taskDisable
  split
  · rename_i hd; exact absurd hd h
  all_goals first | exact quiet_radio h (by decide) | exact ⟨rfl, rfl, Iff.rfl⟩

theorem quiet_taskStart {m : Machine} (h : m.radio ≠ .disabled) : Quiet m m.taskStart := by
  unfold Machine.taskStart
  split
  · exact ⟨rfl, rfl, fun hd => (nomatch hd), fun hd => absurd hd h⟩
  · exact ⟨rfl, rfl, fun hd => (nomatch hd), fun hd => absurd hd h⟩
  · exact ⟨rfl, rfl, Iff.rfl⟩

theorem quiet_captureEnd (m : Machine) : Quiet m m.captureEnd := by
  unfold Machine.captureEnd
  split <;> exact ⟨rfl, rfl, Iff.rfl⟩

theorem quiet_raiseEnd {m : Machine} (h : m.radio ≠ .disabled) : Quiet m m.raiseEnd := by
  have hc := quiet_captureEnd m
  unfold Machine.raiseEnd
  split
  · exact hc.trans (quiet_taskDisable fun hd => h (hc.radio.mp hd))
  · exact hc

theorem quiet_receive (f : RxFrame) (m : Machine) : Quiet m (m.receive f) := by
  unfold Machine.receive
  simp only
  split <;> exact ⟨rfl, rfl, Iff.rfl⟩

theorem raised_raiseDisabled {m : Machine} (h : m.radio = .disabled → m.ppi22 = true) : Raised m m.raiseDisabled :=
  ⟨rfl, rfl, fun hs => if_neg (Bool.eq_false_iff.mp hs), h⟩

/-- A radio that is off is switched off by the timer's channel only. -/
theorem raiseCompare1_cases (m : Machine) : Quiet m m.raiseCompare1 ∨ Raised m m.raiseCompare1 := by
  have hm : Quiet m m.matchCc1 := ⟨rfl, rfl, Iff.rfl⟩
  unfold Machine.raiseCompare1
  split
  · rename_i hp
    by_cases hd : m.radio = .disabled
    · have ht : m.matchCc1.taskDisable = m.matchCc1.raiseDisabled := by
        unfold Machine.taskDisable
        rw [show m.matchCc1.radio = .disabled from hd]
      rw [ht]
      exact Or.inr ⟨rfl, rfl, fun hs => if_neg (Bool.eq_false_iff.mp hs), fun _ => hp⟩
    · exact Or.inl (hm.trans (quiet_taskDisable hd))
  · exact Or.inl hm

/-! ## One event -/

/-- What an event of the hardware does. -/
def Hardware (m m' : Machine) : Prop := Frame m m' ∧ (Quiet m m' ∨ Raised m m')

theorem tick_disabled (m : Machine) : Quiet m m.tick ∨ Raised m m.tick := by
  let m₁ : Machine := { m with timer := { m.timer with counter := m.timer.counter + 1 } }
  have hq : Quiet m m₁ := ⟨rfl, rfl, Iff.rfl⟩
  have ht : m.tick = if m₁.timer.counter = m₁.timer.cc1 then m₁.raiseCompare1 else m₁ := rfl
  rw [ht]
  split
  · exact (raiseCompare1_cases m₁).imp hq.trans fun hr => ⟨hr.eventDisabled, hr.eventCause, hr.radio, hr.timer⟩
  · exact .inl hq

/-- The radio has ramped up. -/
theorem quiet_start {m : Machine} (hm : m.radio ≠ .disabled) {r : RadioState} (hr : r ≠ .disabled) :
    Quiet m (if m.shorts.readyStart then { m with radio := r }.taskStart else { m with radio := r }) := by
  split
  · exact (quiet_radio hm hr).trans (quiet_taskStart hr)
  · exact quiet_radio hm hr

/-- A packet ends. -/
theorem quiet_end {m m₁ : Machine} (hq : Quiet m m₁) (h : m.radio ≠ .disabled) : Quiet m m₁.raiseEnd :=
  hq.trans (quiet_raiseEnd fun hd => h (hq.radio.mp hd))

theorem event_disabled {e : Event} {m m' : Machine} (h : m.event e = some m') (hi : e ≠ .isr) :
    Quiet m m' ∨ Raised m m' := by
  cases e with
  | tick => cases h; exact tick_disabled m
  | ready =>
    simp only [Machine.event, Machine.ready] at h
    split at h
    · rename_i hr; cases h; exact .inl (quiet_start (by rw [hr]; decide) (by decide))
    · rename_i hr; cases h; exact .inl (quiet_start (by rw [hr]; decide) (by decide))
    · cases h
  | address =>
    simp only [Machine.event, Machine.address] at h
    split at h
    · cases h
      split <;> exact .inl ⟨rfl, rfl, Iff.rfl⟩
    · cases h
  | endTx =>
    simp only [Machine.event, Machine.endTx] at h
    split at h
    · rename_i hr
      cases h
      have hd : m.radio ≠ .disabled := by rw [hr]; decide
      exact .inl (quiet_end (quiet_radio hd (by decide)) hd)
    · cases h
  | endRx f crcOk rssi =>
    simp only [Machine.event, Machine.endRx] at h
    split at h
    · rename_i hr
      cases h
      have hd : m.radio ≠ .disabled := by rw [hr]; decide
      have hq := quiet_receive f m
      have hrx : Quiet (m.receive f) { m.receive f with radio := .rxIdle } :=
        quiet_radio (fun hd' => hd (hq.radio.mp hd')) (by decide)
      have hres : Quiet (m.receive f) { m.receive f with radio := .rxIdle, crcStatus := crcOk, rssiSample := rssi } :=
        ⟨rfl, rfl, hrx.radio⟩
      exact .inl (quiet_end (hq.trans hres) hd)
    · cases h
  | rampedDown =>
    simp only [Machine.event, Machine.rampedDown] at h
    split at h
    · rename_i hr
      cases h
      refine .inr (raised_raiseDisabled fun hd => ?_)
      rw [hd] at hr
      exact absurd hr (by decide)
    · cases h
  | isr => exact absurd rfl hi

/-- Everything that happens by itself, but for `radio_isr`. -/
theorem event_hardware {e : Event} {m m' : Machine} (h : m.event e = some m') (hi : e ≠ .isr) : Hardware m m' :=
  ⟨frame_rel.move frame_matchCc1 h hi, event_disabled h hi⟩

/-- Where the handler runs. -/
theorem pending_of_event {m m' : Machine} (h : m.event .isr = some m') : m.pending = true ∧ m' = m.radioIsr := by
  simp only [Machine.event] at h
  split at h
  · cases h; exact ⟨‹_›, rfl⟩
  · cases h

theorem event_isr {m m' : Machine} (h : m.event .isr = some m') :
    m.intDisabled = true ∧ m.eventDisabled = true ∧ m' = m.radioIsr := by
  obtain ⟨hp, rfl⟩ := pending_of_event h
  simp only [Machine.pending, Bool.and_eq_true] at hp
  exact ⟨hp.2.1, hp.2.2, rfl⟩

/-! ## The handler -/

section Handler

variable {m : Machine}

theorem radioIsr_sniffing (hn : m.esb.snifferActive = true) :
    m.radioIsr = { m with eventDisabled := false, packetptr := .snifferRxBuffer } := if_pos hn

theorem radioIsr_sent (hn : m.esb.snifferActive = false) (hs : m.sending = true) (ha : m.esb.ackEnabled = true) :
    m.radioIsr = { m with eventDisabled := false }.isrSent := by
  simp only [Machine.radioIsr, hn, hs, ha, Bool.false_eq_true, if_false, if_true]

theorem radioIsr_given (hn : m.esb.snifferActive = false) (hs : m.sending = true) (ha : m.esb.ackEnabled = false) :
    m.radioIsr = { m with eventDisabled := false }.semGive := by
  simp only [Machine.radioIsr, hn, hs, ha, Bool.false_eq_true, if_false, if_true]

theorem radioIsr_received (hn : m.esb.snifferActive = false) (hs : m.sending = false) :
    m.radioIsr = { m with eventDisabled := false }.isrReceived := by
  simp only [Machine.radioIsr, hn, hs, Bool.false_eq_true, if_false]

/-- The branches of `radio_isr`. -/
theorem radioIsr_cases (m : Machine) :
    m.radioIsr = { m with eventDisabled := false, packetptr := .snifferRxBuffer } ∨
      m.radioIsr = { m with eventDisabled := false }.isrSent ∨
      m.radioIsr = { m with eventDisabled := false }.semGive ∨
      m.radioIsr = { m with eventDisabled := false }.isrReceived := by
  by_cases hn : m.esb.snifferActive = true
  · exact .inl (radioIsr_sniffing hn)
  have hn := eq_false_of_ne_true hn
  by_cases hs : m.sending = true
  · by_cases ha : m.esb.ackEnabled = true
    · exact .inr (.inl (radioIsr_sent hn hs ha))
    · exact .inr (.inr (.inl (radioIsr_given hn hs (eq_false_of_ne_true ha))))
  · exact .inr (.inr (.inr (radioIsr_received hn (eq_false_of_ne_true hs))))

end Handler

/-! ## The trace -/

/-- The trace of `m'` goes on where that of `m` ends. -/
def Extends (m m' : Machine) : Prop := ∃ es, m'.trace = m.trace ++ es

theorem extends_same {m m' : Machine} (h : m'.trace = m.trace) : Extends m m' := ⟨[], by rw [h, List.append_nil]⟩

theorem extends_note (m : Machine) (e : TraceEvent) : Extends m (m.note e) := ⟨[e], rfl⟩

theorem Frame.extends {m m' : Machine} (h : Frame m m') : Extends m m' := extends_same h.trace

theorem trace_taskTxen (m : Machine) : m.taskTxen.trace = m.trace := by
  unfold Machine.taskTxen
  split <;> rfl

theorem exec_extends (i : Op) (m : Machine) : Extends m (m.exec i) := by
  cases i with
  | txen ofAttempt =>
    cases ofAttempt with
    | true => exact ⟨[.txen m.radioXferDone], trace_taskTxen _⟩
    | false => exact extends_same (trace_taskTxen m)
  | rxen => exact (frame_rel.taskRxen m).extends
  | disable => exact (frame_rel.taskDisable m).extends
  | ppiEnable c => cases c <;> exact extends_same rfl
  | ppiDisable c => cases c <;> exact extends_same rfl
  | semTake ofAttempt =>
    cases ofAttempt with
    | true => exact ⟨[.taken m.attempt m.giveCause], rfl⟩
    | false => exact extends_same rfl
  | logStuck => exact extends_note m .stuck
  | _ => exact extends_same rfl

theorem event_extends {e : Event} {m m' : Machine} (h : m.event e = some m') : Extends m m' := by
  by_cases hi : e = .isr
  · subst hi
    obtain ⟨-, -, rfl⟩ := event_isr h
    rcases radioIsr_cases m with hm | hm | hm | hm <;> rw [hm]
    · exact extends_same rfl
    · exact extends_same rfl
    · exact extends_same rfl
    · exact ⟨_, rfl⟩
  · exact (event_hardware h hi).1.extends

end Crazyradio.Driver
