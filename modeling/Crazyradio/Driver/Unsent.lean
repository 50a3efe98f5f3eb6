/-
The retransmission law and its condition. A call that starts while the transmitter is still ramping
down, as `esb_set_continuous_carrier(false)` leaves it, loses its first packet: the radio does not obey
TXEN, the end of the ramp-down is taken for the end of the packet, and what is received then passes for
the ack of a packet that never went out.
-/
import Crazyradio.Driver.Retransmission
import Crazyradio.Driver.Modes

namespace Crazyradio.Driver

open Bytes Threads

/-! ## At entry -/

/-- An idle driver, with the buffers `b` and the statics and registers `e`, whatever the radio does. -/
structure Parked (b : SendBuffers) (e : Esb) (m : Machine) : Prop where
  irqEnabled : m.irqEnabled = true
  ppi22 : m.ppi22 = false
  masked : m.intDisabled = false
  rxen : m.shorts.disabledRxen = false
  sniffer : e.snifferActive = false
  sem : m.radioXferDone = 0
  buffers : m.buffers = b
  esb : m.esb = e

/-- The radio is ramping down. -/
def Machine.RampingDown (m : Machine) : Prop := m.radio = .rxDisable ∨ m.radio = .txDisable

theorem Parked.resting {b : SendBuffers} {e : Esb} {m : Machine} (h : Parked b e m) (hr : m.radio = .disabled) :
    Resting b e m := ⟨h.irqEnabled, hr, h.ppi22, h.masked, h.rxen, h.sniffer, h.sem, h.buffers, h.esb⟩

/-- Between the calls of a session without the carrier in which no call ended through the 200 ms path and none
left anything over, the driver is idle and the radio off. -/
theorem parked_of_between {m : Machine} (h : Between (fun c m => c.Carrierless ∧ c.NothingLeftOver m) m)
    (hs : .stuck ∉ m.trace) (ha : m.esb.snifferActive = false) :
    Parked m.buffers m.esb m ∧ m.radio = .disabled := by
  rcases ended_of_between (fun _ _ => allows_of_nothingLeftOver) h with (⟨hoff, hn⟩ | ⟨-, hn⟩) | hstuck
  · exact ⟨⟨hn.irqEnabled, hn.ppi22, hn.masked, congrArg Shorts.disabledRxen hn.shorts, ha, hn.sem, rfl, rfl⟩, hoff⟩
  · exact absurd hn.sniffer (ne_true_of_eq_false ha)
  · exact absurd hstuck hs

theorem Parked.started {b : SendBuffers} {e : Esb} {m : Machine} (h : Parked b e m) :
    Parked { b with packet := { b.packet with s1 := ackS1 e.pid } } { e with pid := e.pid + 1 } m.started := by
  obtain ⟨h1, h2, h3, h4, h5, h6, rfl, rfl⟩ := h
  exact ⟨h1, h2, h3, h4, h5, h6, rfl, rfl⟩

/-! ## The lost packet -/

/-- Everything is set for TXEN, `n` attempts in, but the radio will not obey it. -/
structure Deaf (b : SendBuffers) (e : Esb) (n : Nat) (m : Machine) : Prop extends Wired m where
  radio : m.RampingDown
  ppi22 : m.ppi22 = false
  clear : m.eventDisabled = false
  rxen : m.shorts.disabledRxen = e.ackEnabled
  sniffer : e.snifferActive = false
  sem : m.radioXferDone = 0
  buffers : m.buffers = b
  esb : m.esb = e
  sending : m.sending = true
  attempt : m.attempt = n
  compare1 : m.timer.compare1 = false

section Lost

variable {os : Nat → Outcome} {b : SendBuffers} {e : Esb} {n : Nat}

theorem canEnd_op {α : Type} {i : Op} {k : Unit → Code α} {Q : α → Machine → Prop} {m : Machine}
    (h : (scripted os).CanEnd Q (k ()) (m.exec i)) : (scripted os).CanEnd Q (op i >>= k) m := Platform.CanEnd.step h

/-- The part of `prepareAttempt` behind the shorts. -/
theorem wired_deaf {m : Machine} (h : Parked b e { m with intDisabled := false, shorts := {} })
    (hr : m.RampingDown) (hw : Wired m) (hx : m.eventDisabled = false) (hrx : m.shorts.disabledRxen = e.ackEnabled)
    (hc : m.timer.compare1 = false) : (scripted os).CanEnd (fun _ => Deaf (emptied b) e m.attempt) (do
      op (.ppiEnable .channel27)
      op (.ppiEnable .channel26)
      op (.packetptrSet .packet)
      op (.buffers fun b => { b with ack := { b.ack with length := 0 } })
      op (.femTxenSet true)
      op .sending) m := by
  refine canEnd_op ?_
  dsimp only [Machine.exec, Machine.ppiSet]
  refine canEnd_op ?_
  dsimp only [Machine.exec, Machine.ppiSet]
  refine canEnd_op ?_
  dsimp only [Machine.exec]
  refine canEnd_op ?_
  dsimp only [Machine.exec]
  refine canEnd_op ?_
  dsimp only [Machine.exec]
  refine Platform.CanEnd.step (Platform.CanEnd.done ?_)
  exact ⟨⟨hw.irqEnabled, hw.intDisabled, hw.readyStart, hw.endDisable⟩, hr, h.ppi22, hx, hrx, h.sniffer, h.sem,
    congrArg emptied h.buffers, h.esb, rfl, rfl, hc⟩

/-- The code does not look at the radio before TXEN. -/
theorem prepareAttempt_deaf {m : Machine} (h : Parked b e m) (hr : m.RampingDown) (hc : m.timer.compare1 = false) :
    (scripted os).CanEnd (fun _ => Deaf (emptied b) e m.attempt) prepareAttempt m := by
  have hesb : m.esb.ackEnabled = e.ackEnabled := by rw [h.esb]
  have hrx : (m.shorts.enable packetShorts).disabledRxen = false := (Bool.or_false _).trans h.rxen
  have hparked : ∀ {m' : Machine}, m'.irqEnabled = m.irqEnabled → m'.ppi22 = m.ppi22 →
      m'.radioXferDone = m.radioXferDone → m'.buffers = m.buffers → m'.esb = m.esb →
      Parked b e { m' with intDisabled := false, shorts := {} } := fun h1 h2 h3 h4 h5 =>
    ⟨h1.trans h.irqEnabled, h2.trans h.ppi22, rfl, rfl, h.sniffer, h3.trans h.sem, h4.trans h.buffers,
      h5.trans h.esb⟩
  unfold prepareAttempt
  refine canEnd_op ?_
  dsimp only [Machine.exec]
  refine canEnd_op ?_
  dsimp only [Machine.exec]
  refine canEnd_op ?_
  dsimp only [Machine.exec]
  refine canEnd_get ?_
  show (scripted os).CanEnd _ (opIf m.esb.ackEnabled _ >>= _) _
  cases ha : m.esb.ackEnabled with
  | false =>
    exact wired_deaf (hparked rfl rfl rfl rfl rfl) hr ⟨h.irqEnabled, rfl, Bool.or_true _, Bool.or_true _⟩ rfl
      (hrx.trans (ha.symm.trans hesb)) hc
  | true =>
    refine canEnd_op (wired_deaf (hparked rfl rfl rfl rfl rfl) hr ⟨h.irqEnabled, rfl, ?_, ?_⟩ rfl ?_ hc)
    · exact (Bool.or_false _).trans (Bool.or_true _)
    · exact (Bool.or_false _).trans (Bool.or_true _)
    · exact (Bool.or_true _).trans (ha.symm.trans hesb)

/-- TXEN is lost, and the end of the ramp-down brings the attempt to its outcome. -/
theorem Deaf.rely_follows {m : Machine} (h : Deaf b e n m) : ∃ m', (scripted os).Rely (m.exec (.txen true)) m' ∧
    (m'.attempt = n + 1 ∧ (os (n + 1)).Follows b e m') ∧ m'.radioXferDone = 1 ∧
      (e.ackEnabled = true → m'.timer.compare1 = false) := by
  let m₁ : Machine := { m with attempt := m.attempt + 1 }.note (.txen m.radioXferDone)
  have htxen : m.exec (.txen true) = m₁ := by
    have hne : m₁.radio ≠ .disabled := by
      intro hd
      have hd : m.radio = .disabled := hd
      rcases h.radio with hr | hr <;> rw [hd] at hr <;> cases hr
    exact if_neg hne
  have hdown := rampedDown_occurs (m := m₁) h.radio
  have hw : Wired m₁.raiseDisabled := ⟨h.irqEnabled, h.intDisabled, h.readyStart, h.endDisable⟩
  have hesb : m₁.raiseDisabled.esb = e := h.esb
  have hn : m₁.raiseDisabled.radioIsr.attempt = n + 1 := by
    rw [event_attempt (isr_occurs hw rfl)]
    exact congrArg (· + 1) h.attempt
  have hoff : (scripted os).Rely m₁ m₁.raiseDisabled.radioIsr := by
    refine rely_move .rampedDown hdown (.inl h.clear) rfl (rely_move .isr (isr_occurs hw rfl) (.inr rfl) ?_ .refl)
    show (m.sending || _) = true
    rw [h.sending, Bool.true_or]
  rw [htxen]
  cases ha : e.ackEnabled with
  | true =>
    -- the radio comes up as a receiver
    have hr : m₁.raiseDisabled.radio = .rxRu := if_pos (h.rxen.trans ha)
    obtain ⟨hi, hr₂, hp, hc⟩ := isr_listens hw h.sending hr hesb ha h.sniffer h.sem h.buffers
    obtain ⟨m', hrely, hs, hc'⟩ : ∃ m', (scripted os).Rely m₁.raiseDisabled.radioIsr m' ∧ _ ∧ _ :=
      hi.rely_arrived hr₂ hp (.inl (hc.trans h.compare1))
    have hf := (stable_follows os (n + 1) b e).rely hrely ⟨hn, .inl ⟨hi, .inl hr₂⟩⟩
    exact ⟨m', hoff.trans hrely, hf, hs, fun _ => hc'⟩
  | false =>
    have hrx : m₁.raiseDisabled.shorts.disabledRxen = false := h.rxen.trans ha
    have hr : m₁.raiseDisabled.radio = .disabled := if_neg (ne_true_of_eq_false hrx)
    have harr := isr_gives hw.irqEnabled h.sending hr hesb ha h.sniffer h.ppi22 hrx h.buffers
    exact ⟨_, hoff, ⟨hn, .inr ⟨harr, fun hf => absurd hf (ne_true_of_eq_false ha)⟩⟩, harr.sem, nofun⟩

/-- The loop can end behind it, with the driver as it was. -/
theorem attempts_unsent (left : Nat) {m : Machine} (h : Parked b e m) (hr : m.RampingDown)
    (hc : m.timer.compare1 = false) (ho : (os (m.attempt + 1)).isAck = true) :
    (scripted os).CanEnd (fun r m' => r.isSome = true ∧ ∃ b', Resting b' e m') (attempts left 0) m := by
  have hattempt : ∀ next : Bool → Code (Option (Bool × Nat)),
      (∀ ack m', Rested (m.attempt + 1) { b with ack } e m' → (scripted os).CanEnd
        (fun r m' => r.isSome = true ∧ ∃ b', Resting b' e m') (next (e.ackEnabled && true)) m') →
      (scripted os).CanEnd (fun r m' => r.isSome = true ∧ ∃ b', Resting b' e m') (do
        startAttempt
        if ← semTake true then
          endAttempt
          let ackReceived ← checkAck
          next ackReceived
        else
          resetRadio
          return none) m := by
    intro next hnext
    rw [startAttempt_prepare, Thread.bind_assoc]
    refine (prepareAttempt_deaf h hr hc).bind fun _ m₁ h₁ => Platform.CanEnd.step ?_
    obtain ⟨m₂, hrely, ⟨hn, hf⟩, hs, hc₂⟩ : ∃ m₂, (scripted os).Rely (m₁.exec (.txen true)) m₂ ∧ _ ∧ _ ∧ _ :=
      h₁.rely_follows
    refine Platform.CanEnd.rely hrely (conclude_canEnd h.sniffer (fun ack m' hm' _ => ?_) hn hf hs hc₂)
    rw [ho]
    exact hnext ack m' hm'
  have hends : ∀ ack m', Rested (m.attempt + 1) { b with ack } e m' →
      (e.ackEnabled && true || !m'.esb.ackEnabled) = true := by
    intro ack m' hm'
    rw [hm'.1.esb]
    cases e.ackEnabled <;> rfl
  cases left with
  | zero =>
    refine hattempt _ fun ack m' hm' => canEnd_get ?_
    rw [if_pos (hends ack m' hm')]
    exact Platform.CanEnd.done ⟨rfl, _, hm'.1⟩
  | succ left =>
    refine hattempt _ fun ack m' hm' => canEnd_get ?_
    rw [if_pos (hends ack m' hm')]
    exact Platform.CanEnd.done ⟨rfl, _, hm'.1⟩

/-- So a call can go through, not stuck, with nothing sent. -/
theorem esbSendPacket_unsent {m : Machine} (h : Parked b e m) (hr : m.RampingDown) {packetDraw : UInt32}
    (hs : e.sends packetDraw = true) (ackDraw : UInt32) (hc : m.timer.compare1 = false)
    (ho : (os (m.attempt + 1)).isAck = true) :
    (scripted os).CanEnd (fun _ m' => m'.stuckCalls = m.stuckCalls ∧ transmissions m'.esb.log = transmissions e.log)
      (esbSendPacket packetDraw ackDraw) m := by
  refine esbSendPacket_canEnd_of h.esb hs ackDraw (attempts_unsent e.arc h.started hr hc ho) fun r m' hm' => ?_
  obtain ⟨b', hrest⟩ := hm'
  have hcan := Platform.CanEnd.straight (P := scripted os) (J := fun _ => True) (fun _ _ _ => trivial)
    (report_straight ackDraw (some r)) (s := m') trivial
  refine (hcan.safe (report_reports hrest ackDraw r.1 r.2 m' (.refl m'))).post fun _ m₂ h₂ => ?_
  rw [h₂.2.2.esb]

end Lost

/-! ## The law -/

/-- An empty ack to every attempt. -/
def emptyAcks (_ : Nat) : Outcome := .received ⟨0, 0, Buf.fill 63 0, zero_le_payload⟩ true

/-- Every call from here that is not stuck sends, returns and reports what its attempts' outcomes say. -/
def Lawful (value : Nat) (b : SendBuffers) (e : Esb) (packetDraw ackDraw : UInt32) (m : Machine) : Prop :=
  ∀ (os : Nat → Outcome) (cs : List (Choice Event)) (r : Bool) (m' : Machine),
    (scripted os).finish cs (esbSendPacket packetDraw ackDraw) m = some (r, m') → m'.stuckCalls = m.stuckCalls →
    Retransmits (fun i => os (m.attempt + i)) b (esbSetArc value e)
      (attemptsMade e.ackEnabled (esbSetArc value e).arc fun i => os (m.attempt + i)) r m'

/-- From an idle driver the law holds if the radio is off, and fails while it is ramping down; with the radio
off some call goes through whatever its attempts come to. -/
theorem retransmission_law (value : Nat) {b : SendBuffers} {e : Esb} {m : Machine}
    (h : Parked b (esbSetArc value e) m) (hr : m.radio = .disabled ∨ m.RampingDown) (hi : e.isInit = true)
    (hc : e.continuousCarrierEnabled = false) (hp : e.packetLossPercent = 0) (ha : e.ackLossPercent = 0)
    (packetDraw ackDraw : UInt32) :
    (m.radio = .disabled → Lawful value b e packetDraw ackDraw m) ∧
    (m.timer.compare1 = false → Lawful value b e packetDraw ackDraw m → m.radio = .disabled) ∧
    ∀ os : Nat → Outcome, m.radio = .disabled → m.timer.compare1 = false ∨ (os (m.attempt + 1)).isTimeout = true →
      ∃ cs r m', (scripted os).finish cs (esbSendPacket packetDraw ackDraw) m = some (r, m') ∧
        m'.stuckCalls = m.stuckCalls := by
  have hs : (esbSetArc value e).sends packetDraw = true := by
    have hsniff : e.snifferActive = false := h.sniffer
    simp [Esb.sends, Esb.refuses, lossHits, esbSetArc, hi, hc, hp, hsniff]
  refine ⟨fun hoff os cs r m' hf hstuck => ?_, fun hlatch hlaw => ?_, fun os hoff hlatch => ?_⟩
  · have hrest := h.resting hoff
    rcases (esbSendPacket_retransmits hrest hs ha Nat.and_le_right ackDraw).finish (.refl m) hf with hn | hret
    · omega
    · exact hret
  · refine hr.resolve_right fun hdown => ?_
    -- with every attempt acked the call goes through, and nothing was sent
    obtain ⟨cs, r, m', hf, hstuck, hlog⟩ : (scripted emptyAcks).CanEnd _ _ _ :=
      esbSendPacket_unsent h hdown hs ackDraw hlatch rfl
    have hlen := congrArg List.length (hlaw emptyAcks cs r m' hf hstuck).sent
    rw [hlog, List.length_append, List.length_replicate] at hlen
    have := (attemptsMade_bounds e.ackEnabled (esbSetArc value e).arc fun i => emptyAcks (m.attempt + i)).1
    omega
  · exact esbSendPacket_canEnd (h.resting hoff) hs ackDraw hlatch

/-- An empty ack whose CRC fails once. -/
def ackedOnSecond (n : Nat) : Outcome := .received ⟨0, 0, Buf.fill 63 0, zero_le_payload⟩ (decide (n = 2))

/-- From boot, with the second attempt acked. -/
theorem retransmission_law_second : ∃ cs r m',
    (scripted ackedOnSecond).finish cs (esbSendPacket 0 0) .boot = some (r, m') ∧ r = true ∧
      m'.buffers.retry.toNat = 1 ∧ (transmissions m'.esb.log).length = 2 := by
  obtain ⟨hparked, hoff⟩ := parked_of_between .boot List.not_mem_nil rfl
  obtain ⟨hlaw, -, hcan⟩ := retransmission_law 3 (e := esbInit {}) hparked (.inl hoff) rfl rfl rfl rfl 0 0
  obtain ⟨cs, r, m', hf, hn⟩ := hcan ackedOnSecond rfl (.inl rfl)
  have hk : attemptsMade (esbInit {}).ackEnabled (esbSetArc 3 (esbInit {})).arc
      (fun i => ackedOnSecond (Machine.boot.attempt + i)) = 2 := by decide
  have h := hlaw rfl ackedOnSecond cs r m' hf hn
  rw [hk] at h
  refine ⟨cs, r, m', hf, h.acked, h.retry, ?_⟩
  rw [h.sent, List.length_append, List.length_replicate]
  rfl

/-- The carrier is switched on and off again. -/
def carrierPulse : List (Call × List (Choice Event)) :=
  [(.setContinuousCarrier true, threadSteps 8 ++ hardware [.ready]), (.setContinuousCarrier false, threadSteps 8)]

/-- A frame with a good CRC comes in while the call waits for its packet to end. -/
def unsentAttempt : List (Choice Event) :=
  threadSteps 20 ++ hardware [.rampedDown, .isr, .ready, .endRx ⟨0, 0, Buf.fill 63 0, zero_le_payload⟩ true 0,
    .rampedDown, .isr] ++ threadSteps 15

theorem esbSetArc_self {e : Esb} (h : e.arc &&& 0x0f = e.arc) : esbSetArc e.arc e = e := by
  unfold esbSetArc
  rw [h]

/-- Behind it a call returns true though its packet was not sent. -/
theorem unsent_acked : ¬ ∀ (value : Nat) (e : Esb) (m : Machine) (packetDraw ackDraw : UInt32),
    Between (fun _ _ => True) m → m.esb = esbSetArc value e → e.isInit = true → e.continuousCarrierEnabled = false →
    e.snifferActive = false → e.packetLossPercent = 0 → e.ackLossPercent = 0 → m.radioXferDone = 0 →
    Lawful value m.buffers e packetDraw ackDraw m := by
  intro hall
  have hrun : ((finishAll carrierPulse .boot).bind fun m =>
      ((scripted emptyAcks).finish unsentAttempt (esbSendPacket 0 0) m).map fun x =>
        ([(transmissions x.2.esb.log).length, x.2.stuckCalls, m.stuckCalls, (transmissions m.esb.log).length,
          m.radioXferDone, m.esb.arc, m.esb.packetLossPercent, m.esb.ackLossPercent],
          m.esb.isInit && !m.esb.continuousCarrierEnabled && !m.esb.snifferActive)) =
      some ([0, 0, 0, 0, 0, 3, 0, 0], true) := by decide +kernel
  obtain ⟨m, hm, hrun⟩ := Option.bind_eq_some_iff.mp hrun
  obtain ⟨⟨r, m'⟩, hf, hx⟩ := Option.map_eq_some_iff.mp hrun
  simp only [Prod.mk.injEq, List.cons.injEq, Bool.and_eq_true, Bool.not_eq_true'] at hx
  obtain ⟨⟨hsent, hs', hs, hbefore, hsem, harc, hp, ha, -⟩, ⟨hi, hc⟩, hn⟩ := hx
  have hbetween : Between (fun _ _ => True) m := Between.finishAll (fun _ _ _ => trivial) .boot hm
  have hself : esbSetArc m.esb.arc m.esb = m.esb := esbSetArc_self (by rw [harc]; decide)
  have hlaw := hall m.esb.arc m.esb m 0 0 hbetween hself.symm hi hc hn hp ha hsem emptyAcks _ r m' hf
    (hs'.trans hs.symm)
  have hlen := congrArg List.length hlaw.sent
  rw [List.length_append, List.length_replicate, hself, hsent, hbefore] at hlen
  have := (attemptsMade_bounds m.esb.ackEnabled m.esb.arc fun i => emptyAcks (m.attempt + i)).1
  omega

end Crazyradio.Driver
