/-
One attempt of `esb_send_packet` on the machine with a prompt handler: the radio ramps up, sends the
packet, listens if an ack is wanted and is off again when the handler gives the semaphore. The
stages say what is in the buffers and on the air at each point; the code's side of the attempt is in
`Crazyradio.Driver.Refinement`.
-/
import Crazyradio.Esb.Call
import Crazyradio.Driver.Hardware

namespace Crazyradio.Driver

open Bytes Threads

/-! ## A prompt handler -/

/-- A move of the radio. -/
def Event.ofRadio : Event → Bool
  | .tick | .isr => false
  | _ => true

/-- The machine with a prompt handler: while the interrupt is requested, the radio does not get to
its next state. -/
def prompt : Platform Op Event Machine := platform.restrict fun e m => !(m.pending && e.ofRadio)

theorem prompt_event {e : Event} {m m' : Machine} (h : prompt.event e m = some m') :
    m.event e = some m' ∧ (m.pending = true → e.ofRadio = false) := by
  obtain ⟨ha, he⟩ := platform.restrict_event.mp h
  refine ⟨he, fun hp => ?_⟩
  simpa [hp] using ha

/-- A machine whose handler is prompt, whatever else is withheld. -/
class Prompt (P : Platform Op Event Machine) : Prop where
  exec : P.exec = Machine.exec
  event : ∀ {e : Event} {m m' : Machine}, P.event e m = some m' → prompt.event e m = some m'

instance : Prompt prompt := ⟨rfl, id⟩

instance {P : Platform Op Event Machine} [h : Prompt P] (allowed : Event → Machine → Bool) :
    Prompt (P.restrict allowed) := ⟨h.exec, fun he => h.event (P.restrict_event.mp he).2⟩

/-! ## Up to the counter -/

/-- The machines differ in the timer and in what is noted about the receive window. -/
def Counted (m m' : Machine) : Prop :=
  ∃ (timer : Timer0) (window : Option Window), m' = { m with timer, window }

theorem Counted.refl (m : Machine) : Counted m m := ⟨_, _, rfl⟩

theorem Counted.trans {a b c : Machine} (h : Counted a b) (h' : Counted b c) : Counted a c := by
  obtain ⟨t, w, rfl⟩ := h
  obtain ⟨t', w', rfl⟩ := h'
  exact ⟨t', w', rfl⟩

theorem counted_address {m m' : Machine} (h : m.address = some m') : Counted m m' := by
  unfold Machine.address at h
  split at h
  · cases h
    split
    · exact ⟨_, _, rfl⟩
    · exact .refl m
  · cases h

/-- The counter switches the radio off where its channel is on. -/
theorem counted_tick (m : Machine) :
    Counted m m.tick ∨ ∃ m₁, Counted m m₁ ∧ m.ppi22 = true ∧ m.tick = m₁.taskDisable := by
  unfold Machine.tick
  simp only
  split
  · unfold Machine.raiseCompare1
    split
    · rename_i hp
      exact .inr ⟨_, ⟨_, _, rfl⟩, hp, rfl⟩
    · exact .inl ⟨_, _, rfl⟩
  · exact .inl ⟨_, _, rfl⟩

/-- The radio's tasks do not look at the counter. -/
theorem Counted.taskDisable {m m' : Machine} (h : Counted m m') : Counted m.taskDisable m'.taskDisable := by
  obtain ⟨t, w, rfl⟩ := h
  generalize hr : m.radio = radio
  cases radio with
  | rxDisable | txDisable =>
    simp only [Machine.taskDisable, hr]
    exact ⟨t, w, by rw [hr]⟩
  | _ =>
    simp only [Machine.taskDisable, hr]
    exact ⟨_, _, rfl⟩

theorem Counted.taskTxen {m m' : Machine} (h : Counted m m') : Counted m.taskTxen m'.taskTxen := by
  obtain ⟨t, w, rfl⟩ := h
  unfold Machine.taskTxen
  simp only
  by_cases hd : m.radio = .disabled
  · rw [if_pos hd, if_pos hd]
    exact ⟨_, _, rfl⟩
  · rw [if_neg hd, if_neg hd]
    exact ⟨_, _, rfl⟩

theorem Counted.taskRxen {m m' : Machine} (h : Counted m m') : Counted m.taskRxen m'.taskRxen := by
  obtain ⟨t, w, rfl⟩ := h
  unfold Machine.taskRxen
  simp only
  by_cases hd : m.radio = .disabled
  · rw [if_pos hd, if_pos hd]
    exact ⟨_, _, rfl⟩
  · rw [if_neg hd, if_neg hd]
    exact ⟨_, _, rfl⟩

/-- No instruction looks at the counter. -/
theorem Counted.exec {m m' : Machine} (h : Counted m m') (i : Op) : Counted (m.exec i) (m'.exec i) := by
  cases i with
  | txen ofAttempt =>
    cases ofAttempt with
    | true =>
      obtain ⟨t, w, rfl⟩ := h
      exact Counted.taskTxen ⟨_, _, rfl⟩
    | false => exact h.taskTxen
  | rxen => exact h.taskRxen
  | disable => exact h.taskDisable
  | _ =>
    obtain ⟨t, w, rfl⟩ := h
    first
    | exact ⟨_, _, rfl⟩
    | (rename_i c; cases c <;> exact ⟨_, _, rfl⟩)

/-! ## While the radio is off -/

/-- The radio is off, and neither the timer nor the handler can change that. -/
structure Still (m : Machine) : Prop where
  radio : m.radio = .disabled
  ppi22 : m.ppi22 = false
  quiet : m.intDisabled = false ∨ m.eventDisabled = false

/-- Then nothing but the counter moves. -/
theorem Still.event {e : Event} {m m' : Machine} (h : Still m) (he : m.event e = some m') : Counted m m' := by
  cases e with
  | tick =>
    cases he
    rcases counted_tick m with hc | ⟨-, -, hp, -⟩
    · exact hc
    · exact absurd hp (ne_true_of_eq_false h.ppi22)
  | address => exact counted_address he
  | isr =>
    obtain ⟨hint, hev, -⟩ := event_isr he
    rcases h.quiet with hq | hq
    · exact absurd hint (ne_true_of_eq_false hq)
    · exact absurd hev (ne_true_of_eq_false hq)
  | ready => simp [Machine.event, Machine.ready, h.radio] at he
  | endTx => simp [Machine.event, Machine.endTx, h.radio] at he
  | endRx => simp [Machine.event, Machine.endRx, h.radio] at he
  | rampedDown => simp [Machine.event, Machine.rampedDown, h.radio] at he

theorem Still.counted {m m' : Machine} (h : Still m) (hc : Counted m m') : Still m' := by
  obtain ⟨t, w, rfl⟩ := hc
  exact ⟨h.radio, h.ppi22, h.quiet⟩

section Outline

variable {P : Platform Op Event Machine} [hP : Prompt P]

theorem Still.stable {m : Machine} (h : Still m) : P.Stable (Counted m) := by
  intro e m₁ m₂ he hc
  exact hc.trans ((h.counted hc).event (prompt_event (hP.event he)).1)

variable {α : Type} {i : Op} {k : Unit → Code α} {m : Machine} {Q : α → Machine → Prop}

/-- The outline of a piece of straight-line code: the machine is the one it computes, up to the
counter. -/
theorem Still.op (h : Still m) (hk : P.Triple (fun _ => True) (Counted (m.exec i)) (k ()) Q) :
    P.Triple (fun _ => True) (Counted m) (op i >>= k) Q := by
  refine Platform.Triple.step h.stable (fun _ _ => trivial) (fun m' hc => ?_) hk
  rw [hP.exec]
  exact hc.exec i

/-- What the code looks at is not the counter. -/
theorem Still.get {β : Type} (h : Still m) {f : Machine → β} (hf : ∀ timer window, f { m with timer, window } = f m)
    {k : β → Code α} (hk : P.Triple (fun _ => True) (Counted m) (k (f m)) Q) :
    P.Triple (fun _ => True) (Counted m) (get f >>= k) Q := by
  refine Platform.Triple.read h.stable (fun _ _ => trivial) ?_
  rintro m' ⟨t, w, rfl⟩
  show P.Safe _ Q (k (f { m with timer := t, window := w })) _
  rw [hf t w]
  exact hk _ ⟨t, w, rfl⟩

theorem Still.done (h : Still m) {a : α} (hQ : ∀ m', Counted m m' → Q a m') :
    P.Triple (fun _ => True) (Counted m) (pure a : Code α) Q :=
  Platform.Triple.done h.stable (fun _ _ => trivial) hQ

end Outline

/-! ## One attempt -/

/-- The interrupt is enabled, and an attempt's shorts are set. -/
structure Wired (m : Machine) : Prop where
  irqEnabled : m.irqEnabled = true
  intDisabled : m.intDisabled = true
  readyStart : m.shorts.readyStart = true
  endDisable : m.shorts.endDisable = true

/-- From TXEN to the handler, with the buffers `b` and the driver `e` at TXEN: the radio ramps up,
sends the packet, ramps down and has raised its event. -/
structure Outgoing (b : SendBuffers) (e : Esb) (m : Machine) : Prop extends Wired m where
  sending : m.sending = true
  packetptr : m.packetptr = .packet
  rxen : m.shorts.disabledRxen = e.ackEnabled
  ppi22 : m.ppi22 = false
  sniffer : e.snifferActive = false
  sem : m.radioXferDone = 0
  buffers : m.buffers = b
  stage : m.radio = .txRu ∧ m.eventDisabled = false ∧ m.esb = e ∨
    (m.radio = .tx ∨ m.radio = .txDisable) ∧ m.eventDisabled = false ∧ m.esb = transmit b.packet e ∨
    (m.radio = if e.ackEnabled then .rxRu else .disabled) ∧ m.eventDisabled = true ∧ m.esb = transmit b.packet e

/-- From there to the second run of the handler: the radio ramps up and listens, or it has received
something or nothing, ramps down and has raised its event. -/
structure Incoming (b : SendBuffers) (e : Esb) (m : Machine) : Prop extends Wired m where
  sending : m.sending = false
  packetptr : m.packetptr = .ackBuffer
  rxen : m.shorts.disabledRxen = false
  ackEnabled : e.ackEnabled = true
  sniffer : e.snifferActive = false
  sem : m.radioXferDone = 0
  esb : m.esb = e
  stage : (m.radio = .rxRu ∨ m.radio = .rx ∧ m.rxptr = .ackBuffer) ∧ m.eventDisabled = false ∧ m.buffers = b ∨
    ∃ rx, m.buffers = { b with ack := receiveAck rx b.ack e } ∧
      (m.radio = .rxDisable ∧ m.eventDisabled = false ∨ m.radio = .disabled ∧ m.eventDisabled = true)

/-- The handler gave the semaphore. -/
structure Arrived (b : SendBuffers) (e : Esb) (m : Machine) : Prop where
  irqEnabled : m.irqEnabled = true
  radio : m.radio = .disabled
  ppi22 : m.ppi22 = false
  clear : m.eventDisabled = false
  rxen : m.shorts.disabledRxen = false
  sem : m.radioXferDone = 1
  esb : m.esb = e
  buffers : ∃ rx, m.buffers = { b with ack := receiveAck rx b.ack e }

/-- The attempt is waiting for its completion, or has it. -/
def Waiting (b : SendBuffers) (e : Esb) (m : Machine) : Prop :=
  Outgoing b e m ∨ Incoming b (transmit b.packet e) m ∨ Arrived b (transmit b.packet e) m

theorem Outgoing.counted {b : SendBuffers} {e : Esb} {m m' : Machine} (h : Outgoing b e m) (hc : Counted m m') :
    Outgoing b e m' := by
  obtain ⟨t, w, rfl⟩ := hc
  exact ⟨⟨h.irqEnabled, h.intDisabled, h.readyStart, h.endDisable⟩, h.sending, h.packetptr, h.rxen, h.ppi22,
    h.sniffer, h.sem, h.buffers, h.stage⟩

theorem Incoming.counted {b : SendBuffers} {e : Esb} {m m' : Machine} (h : Incoming b e m) (hc : Counted m m') :
    Incoming b e m' := by
  obtain ⟨t, w, rfl⟩ := hc
  exact ⟨⟨h.irqEnabled, h.intDisabled, h.readyStart, h.endDisable⟩, h.sending, h.packetptr, h.rxen, h.ackEnabled,
    h.sniffer, h.sem, h.esb, h.stage⟩

theorem Arrived.still {b : SendBuffers} {e : Esb} {m : Machine} (h : Arrived b e m) : Still m :=
  ⟨h.radio, h.ppi22, .inr h.clear⟩

theorem Arrived.counted {b : SendBuffers} {e : Esb} {m m' : Machine} (h : Arrived b e m) (hc : Counted m m') :
    Arrived b e m' := by
  obtain ⟨t, w, rfl⟩ := hc
  exact ⟨h.irqEnabled, h.radio, h.ppi22, h.clear, h.rxen, h.sem, h.esb, h.buffers⟩

/-- With its event raised the radio waits for the handler. -/
theorem Wired.pending {m : Machine} (h : Wired m) (he : m.eventDisabled = true) : m.pending = true := by
  simp [Machine.pending, h.irqEnabled, h.intDisabled, he]

/-! ## The radio's moves -/

/-- With the short set, READY starts the packet or the reception. -/
theorem ready_cases {m m' : Machine} (h : m.ready = some m') (hs : m.shorts.readyStart = true) :
    (m.radio = .txRu ∧ m' = { m with radio := .tx, esb := transmit (m.pointed m.packetptr) m.esb }) ∨
      (m.radio = .rxRu ∧ m' = { m with radio := .rx, rxptr := m.packetptr }) := by
  unfold Machine.ready at h
  simp only [hs, if_true, Machine.taskStart] at h
  split at h
  · rename_i hr
    cases h
    exact .inl ⟨hr, rfl⟩
  · rename_i hr
    cases h
    exact .inr ⟨hr, rfl⟩
  · cases h

/-- With the short set, the end of a packet switches the radio off. -/
theorem endTx_cases {m m' : Machine} (h : m.endTx = some m') (hs : m.shorts.endDisable = true) :
    m.radio = .tx ∧ ∃ timer, m' = { m with radio := .txDisable, timer } := by
  unfold Machine.endTx at h
  split at h
  · rename_i hr
    cases h
    refine ⟨hr, ?_⟩
    unfold Machine.raiseEnd Machine.captureEnd
    rw [if_pos hs]
    simp only
    split <;> exact ⟨_, rfl⟩
  · cases h

theorem endRx_cases {f : RxFrame} {crcOk : Bool} {rssi : UInt8} {m m' : Machine}
    (h : m.endRx f crcOk rssi = some m') (hs : m.shorts.endDisable = true) (hp : m.rxptr = .ackBuffer) :
    m.radio = .rx ∧ ∃ timer, m' = { m with
      radio := .rxDisable, timer, crcStatus := crcOk, rssiSample := rssi
      buffers := { m.buffers with ack := m.buffers.ack.receive m.esb.radio.maxlen f } } := by
  unfold Machine.endRx at h
  split at h
  · rename_i hr
    cases h
    refine ⟨hr, ?_⟩
    unfold Machine.receive Machine.pointed
    rw [hp]
    unfold Machine.raiseEnd Machine.captureEnd
    simp only
    rw [if_pos hs]
    split <;> exact ⟨_, rfl⟩
  · cases h

theorem rampedDown_cases {m m' : Machine} (h : m.rampedDown = some m') :
    (m.radio = .rxDisable ∨ m.radio = .txDisable) ∧ m' = m.raiseDisabled := by
  unfold Machine.rampedDown at h
  split at h
  · rename_i hr
    cases h
    exact ⟨hr, rfl⟩
  · cases h

section Moves

variable {b : SendBuffers} {e : Esb} {ev : Event} {m m' : Machine}

/-- The radio's moves during the transmission. -/
theorem Outgoing.radio (h : Outgoing b e m) (hev : ev.ofRadio = true) (hp : m.eventDisabled = false)
    (he : m.event ev = some m') : Outgoing b e m' := by
  -- whatever the radio does, the interrupt and the shorts stay
  have hw : ∀ m' : Machine, m'.irqEnabled = m.irqEnabled → m'.intDisabled = m.intDisabled → m'.shorts = m.shorts →
      Wired m' := fun m' h₁ h₂ h₃ =>
    ⟨h₁.trans h.irqEnabled, h₂.trans h.intDisabled, by rw [h₃]; exact h.readyStart, by rw [h₃]; exact h.endDisable⟩
  cases ev with
  | tick | isr => exact nomatch hev
  | address => exact h.counted (counted_address he)
  | ready =>
    rcases ready_cases he h.readyStart with ⟨hr, rfl⟩ | ⟨hr, rfl⟩
    · -- the packet starts
      have hesb : m.esb = e := by
        rcases h.stage with ⟨-, -, hs⟩ | ⟨hd | hd, -⟩ | ⟨-, hx, -⟩
        · exact hs
        · rw [hr] at hd; cases hd
        · rw [hr] at hd; cases hd
        · rw [hp] at hx; cases hx
      refine ⟨hw _ rfl rfl rfl, h.sending, h.packetptr, h.rxen, h.ppi22, h.sniffer, h.sem, h.buffers,
        .inr (.inl ⟨.inl rfl, hp, ?_⟩)⟩
      show transmit (m.pointed m.packetptr) m.esb = _
      rw [h.packetptr, hesb]
      exact congrArg (fun b : SendBuffers => transmit b.packet e) h.buffers
    · -- a receiver ramps up behind the event only
      rcases h.stage with ⟨hd, -⟩ | ⟨hd | hd, -⟩ | ⟨-, hx, -⟩
      · rw [hr] at hd; cases hd
      · rw [hr] at hd; cases hd
      · rw [hr] at hd; cases hd
      · rw [hp] at hx; cases hx
  | endTx =>
    obtain ⟨hr, t, rfl⟩ := endTx_cases he h.endDisable
    refine ⟨hw _ rfl rfl rfl, h.sending, h.packetptr, h.rxen, h.ppi22, h.sniffer, h.sem, h.buffers,
      .inr (.inl ⟨.inr rfl, hp, ?_⟩)⟩
    rcases h.stage with ⟨hd, -⟩ | ⟨-, -, hs⟩ | ⟨-, hx, -⟩
    · rw [hr] at hd; cases hd
    · exact hs
    · rw [hp] at hx; cases hx
  | endRx f crcOk rssi =>
    simp only [Machine.event, Machine.endRx] at he
    split at he
    · rename_i hr
      rcases h.stage with ⟨hd, -⟩ | ⟨hd | hd, -⟩ | ⟨-, hx, -⟩
      · rw [hr] at hd; cases hd
      · rw [hr] at hd; cases hd
      · rw [hr] at hd; cases hd
      · rw [hp] at hx; cases hx
    · cases he
  | rampedDown =>
    obtain ⟨hr, rfl⟩ := rampedDown_cases he
    refine ⟨hw _ rfl rfl rfl, h.sending, h.packetptr, h.rxen, h.ppi22, h.sniffer, h.sem, h.buffers, ?_⟩
    rcases h.stage with ⟨hd, -⟩ | ⟨-, -, hs⟩ | ⟨-, hx, -⟩
    · rw [hd] at hr
      rcases hr with hr | hr <;> cases hr
    · -- the event, with the short to RXEN where there is auto-ack
      refine .inr (.inr ⟨?_, rfl, hs⟩)
      show (if m.shorts.disabledRxen then _ else _) = _
      rw [h.rxen]
    · rw [hp] at hx; cases hx

/-- Where the handler runs the packet is on the air. -/
theorem Outgoing.raised (h : Outgoing b e m) (he : m.eventDisabled = true) :
    (m.radio = if e.ackEnabled then .rxRu else .disabled) ∧ m.esb = transmit b.packet e := by
  rcases h.stage with ⟨-, hx, -⟩ | ⟨-, hx, -⟩ | ⟨hr, -, hs⟩
  · rw [he] at hx; cases hx
  · rw [he] at hx; cases hx
  · exact ⟨hr, hs⟩

/-- The handler's first run with auto-ack, the radio on its way to reception: the receive window opens. -/
theorem isr_listens (hw : Wired m) (hs : m.sending = true) (hr : m.radio = .rxRu) (hesb : m.esb = e)
    (ha : e.ackEnabled = true) (hn : e.snifferActive = false) (hsem : m.radioXferDone = 0) (hb : m.buffers = b) :
    Incoming b e m.radioIsr ∧ m.radioIsr.radio = .rxRu ∧ m.radioIsr.ppi22 = true ∧
      m.radioIsr.timer.compare1 = m.timer.compare1 := by
  have hsniff : m.esb.snifferActive = false := by rw [hesb]; exact hn
  have hack : m.esb.ackEnabled = true := by rw [hesb]; exact ha
  rw [radioIsr_sent hsniff hs hack]
  refine ⟨⟨⟨hw.irqEnabled, hw.intDisabled, ?_, ?_⟩, rfl, rfl, ?_, ha, hn, hsem, hesb, .inl ⟨.inl hr, rfl, hb⟩⟩, hr, rfl,
    by rw [Machine.isrSent]⟩
  · simp only [Machine.isrSent, Shorts.disable, hw.readyStart, Bool.not_false, Bool.and_true]
  · simp only [Machine.isrSent, Shorts.disable, hw.endDisable, Bool.not_false, Bool.and_true]
  · simp only [Machine.isrSent, Shorts.disable, Bool.not_true, Bool.and_false]

/-- Without auto-ack that is all there is. -/
theorem isr_gives (hi : m.irqEnabled = true) (hs : m.sending = true) (hr : m.radio = .disabled) (hesb : m.esb = e)
    (ha : e.ackEnabled = false) (hn : e.snifferActive = false) (hp : m.ppi22 = false)
    (hrx : m.shorts.disabledRxen = false) (hb : m.buffers = b) : Arrived b e m.radioIsr := by
  have hsniff : m.esb.snifferActive = false := by rw [hesb]; exact hn
  have hack : m.esb.ackEnabled = false := by rw [hesb]; exact ha
  rw [radioIsr_given hsniff hs hack]
  exact ⟨hi, hr, hp, rfl, hrx, rfl, hesb, none, hb⟩

/-- The handler behind the transmission: with auto-ack the receive window opens. -/
theorem Outgoing.isr_listen (h : Outgoing b e m) (he : m.eventDisabled = true) (ha : e.ackEnabled = true) :
    Incoming b (transmit b.packet e) m.radioIsr ∧ m.radioIsr.radio = .rxRu ∧ m.radioIsr.ppi22 = true ∧
      m.radioIsr.timer.compare1 = m.timer.compare1 := by
  obtain ⟨hr, hesb⟩ := h.raised he
  rw [ha, if_pos rfl] at hr
  exact isr_listens h.toWired h.sending hr hesb ha h.sniffer h.sem h.buffers

/-- Without auto-ack the packet is all there is. -/
theorem Outgoing.isr_arrived (h : Outgoing b e m) (he : m.eventDisabled = true) (ha : e.ackEnabled = false) :
    Arrived b (transmit b.packet e) m.radioIsr := by
  obtain ⟨hr, hesb⟩ := h.raised he
  rw [ha, if_neg Bool.false_ne_true] at hr
  exact isr_gives h.irqEnabled h.sending hr hesb ha h.sniffer h.ppi22 (h.rxen.trans ha) h.buffers

/-- The handler behind the transmission: with auto-ack the radio goes on to listen. -/
theorem Outgoing.isr (h : Outgoing b e m) (he : m.eventDisabled = true) : Waiting b e m.radioIsr := by
  cases ha : e.ackEnabled with
  | true => exact .inr (.inl (h.isr_listen he ha).1)
  | false => exact .inr (.inr (h.isr_arrived he ha))

theorem Incoming.raised (h : Incoming b e m) (he : m.eventDisabled = true) :
    m.radio = .disabled ∧ ∃ rx, m.buffers = { b with ack := receiveAck rx b.ack e } := by
  rcases h.stage with ⟨-, hx, -⟩ | ⟨rx, hb, ⟨-, hx⟩ | ⟨hr, -⟩⟩
  · rw [he] at hx; cases hx
  · rw [he] at hx; cases hx
  · exact ⟨hr, rx, hb⟩

/-- The handler behind the reception. -/
theorem Incoming.isr (h : Incoming b e m) (he : m.eventDisabled = true) : Arrived b e m.radioIsr := by
  obtain ⟨hr, hb⟩ := h.raised he
  have hsniff : m.esb.snifferActive = false := by rw [h.esb]; exact h.sniffer
  rw [radioIsr_received hsniff h.sending]
  exact ⟨h.irqEnabled, hr, rfl, rfl, h.rxen, rfl, h.esb, hb⟩

/-- The timeout switches the receiver off. -/
theorem Incoming.taskDisable (h : Incoming b e m) : Incoming b e m.taskDisable := by
  have keep : ∀ m' : Machine, Wired m' → m'.sending = m.sending → m'.packetptr = m.packetptr →
      m'.shorts = m.shorts → m'.radioXferDone = m.radioXferDone → m'.esb = m.esb →
      (∃ rx, m'.buffers = { b with ack := receiveAck rx b.ack e } ∧
        (m'.radio = .rxDisable ∧ m'.eventDisabled = false ∨ m'.radio = .disabled ∧ m'.eventDisabled = true)) →
      Incoming b e m' := fun m' hw h₁ h₂ h₃ h₄ h₅ hs =>
    ⟨hw, h₁.trans h.sending, h₂.trans h.packetptr, by rw [h₃]; exact h.rxen, h.ackEnabled, h.sniffer,
      h₄.trans h.sem, h₅.trans h.esb, .inr hs⟩
  have hw : Wired m := h.toWired
  rcases h.stage with ⟨hr | ⟨hr, -⟩, hx, hb⟩ | ⟨rx, hb, ⟨hr, hx⟩ | ⟨hr, hx⟩⟩
  · unfold Machine.taskDisable
    rw [hr]
    exact keep _ ⟨hw.irqEnabled, hw.intDisabled, hw.readyStart, hw.endDisable⟩ rfl rfl rfl rfl rfl
      ⟨none, hb, .inl ⟨rfl, hx⟩⟩
  · unfold Machine.taskDisable
    rw [hr]
    exact keep _ ⟨hw.irqEnabled, hw.intDisabled, hw.readyStart, hw.endDisable⟩ rfl rfl rfl rfl rfl
      ⟨none, hb, .inl ⟨rfl, hx⟩⟩
  · -- ramping down already
    unfold Machine.taskDisable
    rw [hr]
    exact h
  · -- off already: the event is raised once more
    unfold Machine.taskDisable
    rw [hr]
    refine keep _ ⟨hw.irqEnabled, hw.intDisabled, hw.readyStart, hw.endDisable⟩ rfl rfl rfl rfl rfl
      ⟨rx, hb, .inr ⟨?_, rfl⟩⟩
    show (if m.shorts.disabledRxen then _ else _) = _
    rw [h.rxen, if_neg Bool.false_ne_true]

/-- The frame is what the attempt received. -/
theorem Incoming.endRx {f : RxFrame} {crcOk : Bool} {rssi : UInt8} (h : Incoming b e m) (hp : m.eventDisabled = false)
    (he : m.endRx f crcOk rssi = some m') : Incoming b e m' ∧ m'.radio = .rxDisable ∧ m'.crcStatus = crcOk ∧
      m'.buffers = { b with ack := receiveAck (some f) b.ack e } := by
  have hrx : m.radio = .rx := by
    simp only [Machine.endRx] at he
    split at he
    · assumption
    · cases he
  obtain ⟨hptr, hb⟩ : m.rxptr = .ackBuffer ∧ m.buffers = b := by
    rcases h.stage with ⟨hd | ⟨-, hptr⟩, -, hb⟩ | ⟨rx, -, ⟨hd, -⟩ | ⟨hd, -⟩⟩
    · rw [hrx] at hd; cases hd
    · exact ⟨hptr, hb⟩
    · rw [hrx] at hd; cases hd
    · rw [hrx] at hd; cases hd
  obtain ⟨-, t, rfl⟩ := endRx_cases he h.endDisable hptr
  have hbuf : { m.buffers with ack := m.buffers.ack.receive m.esb.radio.maxlen f } =
      { b with ack := receiveAck (some f) b.ack e } := by
    simp only [receiveAck, h.ackEnabled, if_true, hb, h.esb]
  exact ⟨⟨⟨h.irqEnabled, h.intDisabled, h.readyStart, h.endDisable⟩, h.sending, h.packetptr, h.rxen,
    h.ackEnabled, h.sniffer, h.sem, h.esb, .inr ⟨some f, hbuf, .inl ⟨rfl, hp⟩⟩⟩, rfl, rfl, hbuf⟩

/-- The radio's moves during the reception. -/
theorem Incoming.radio (h : Incoming b e m) (hev : ev.ofRadio = true) (hp : m.eventDisabled = false)
    (he : m.event ev = some m') : Incoming b e m' := by
  have hw : Wired m := h.toWired
  cases ev with
  | tick | isr => exact nomatch hev
  | address => exact h.counted (counted_address he)
  | ready =>
    rcases ready_cases he h.readyStart with ⟨hr, rfl⟩ | ⟨hr, rfl⟩
    · rcases h.stage with ⟨hd | ⟨hd, -⟩, -⟩ | ⟨rx, -, ⟨hd, -⟩ | ⟨hd, -⟩⟩ <;> rw [hr] at hd <;> cases hd
    · have hb : m.buffers = b := by
        rcases h.stage with ⟨-, -, hb⟩ | ⟨rx, -, ⟨hd, -⟩ | ⟨hd, -⟩⟩
        · exact hb
        · rw [hr] at hd; cases hd
        · rw [hr] at hd; cases hd
      exact ⟨⟨hw.irqEnabled, hw.intDisabled, hw.readyStart, hw.endDisable⟩, h.sending, h.packetptr, h.rxen,
        h.ackEnabled, h.sniffer, h.sem, h.esb, .inl ⟨.inr ⟨rfl, h.packetptr⟩, hp, hb⟩⟩
  | endTx =>
    obtain ⟨hr, t, rfl⟩ := endTx_cases he h.endDisable
    rcases h.stage with ⟨hd | ⟨hd, -⟩, -⟩ | ⟨rx, -, ⟨hd, -⟩ | ⟨hd, -⟩⟩ <;> rw [hr] at hd <;> cases hd
  | endRx f crcOk rssi => exact (h.endRx hp he).1
  | rampedDown =>
    obtain ⟨hr, rfl⟩ := rampedDown_cases he
    obtain ⟨rx, hb⟩ : ∃ rx, m.buffers = { b with ack := receiveAck rx b.ack e } := by
      rcases h.stage with ⟨hd | ⟨hd, -⟩, -⟩ | ⟨rx, hb, -⟩
      · rw [hd] at hr; rcases hr with hr | hr <;> cases hr
      · rw [hd] at hr; rcases hr with hr | hr <;> cases hr
      · exact ⟨rx, hb⟩
    refine ⟨⟨hw.irqEnabled, hw.intDisabled, hw.readyStart, hw.endDisable⟩, h.sending, h.packetptr, h.rxen,
      h.ackEnabled, h.sniffer, h.sem, h.esb, .inr ⟨rx, hb, .inr ⟨?_, rfl⟩⟩⟩
    show (if m.shorts.disabledRxen then _ else _) = _
    rw [h.rxen, if_neg Bool.false_ne_true]

/-- With a prompt handler an attempt stays in its stages. -/
theorem stable_waiting (b : SendBuffers) (e : Esb) : prompt.Stable (Waiting b e) := by
  intro ev m m' he h
  obtain ⟨he, hprompt⟩ := prompt_event he
  rcases h with h | h | h
  · cases ev with
    | tick =>
      cases he
      rcases counted_tick m with hc | ⟨-, -, hp, -⟩
      · exact .inl (h.counted hc)
      · exact absurd hp (ne_true_of_eq_false h.ppi22)
    | isr =>
      obtain ⟨-, hx, rfl⟩ := event_isr he
      exact h.isr hx
    | _ =>
      -- the radio moves only while its event is not raised: the handler is prompt
      refine .inl (h.radio rfl ?_ he)
      exact Bool.eq_false_iff.mpr fun hx => nomatch hprompt (h.pending hx)
  · cases ev with
    | tick =>
      cases he
      rcases counted_tick m with hc | ⟨m₁, hc, -, ht⟩
      · exact .inr (.inl (h.counted hc))
      · rw [ht]
        exact .inr (.inl (h.counted hc).taskDisable)
    | isr =>
      obtain ⟨-, hx, rfl⟩ := event_isr he
      exact .inr (.inr (h.isr hx))
    | _ =>
      refine .inr (.inl (h.radio rfl ?_ he))
      exact Bool.eq_false_iff.mpr fun hx => nomatch hprompt (h.pending hx)
  · exact .inr (.inr (h.counted (h.still.event he)))

end Moves

end Crazyradio.Driver
