/-
What is on the air. Whatever calls the driver is given, in whatever order, every packet it starts has
the form its receivers rely on: a channel of the band, the one transmit address, the S1 field and the
registers of the mode it was sent in.
-/
import Crazyradio.Esb.Address
import Crazyradio.Esb.Pid

namespace Crazyradio

open Bytes Words

/-! ## The form of a packet -/

/-- The registers every packet is sent with: a channel from 2400 to 2500 MHz, pipe 0, and no byte set of the
pipes 2 and 3. -/
structure Radio.OnBand (r : Radio) : Prop where
  frequency : 2400 ≤ r.frequency ∧ r.frequency ≤ 2500
  txaddress : r.txaddress = 0
  unused : byteOf r.prefix0 2 = 0 ∧ byteOf r.prefix0 3 = 0

/-- `MAXLEN` and the pipes that are on, in sniffer mode or not. -/
def Radio.InMode (r : Radio) (sniffer : Bool) : Prop :=
  if sniffer then r.maxlen = 63 ∧ r.rxaddresses = 3 else r.maxlen = 32 ∧ r.rxaddresses = 1

/-- A packet as receivers rely on it. In sniffer mode it does not ask for an ack, otherwise it does; the
radio cuts its payload to `MAXLEN`. -/
structure Transmission.WellFormed (sniffer : Bool) (t : Transmission) : Prop where
  onBand : t.radio.OnBand
  mode : t.radio.InMode sniffer
  s1_lt : t.s1 < 8
  noAck : t.s1 &&& 1 = if sniffer then 0 else 1
  payload : t.payload.length = min t.length.toNat t.radio.maxlen

theorem Radio.InMode.maxlen_le {r : Radio} {sniffer : Bool} (h : r.InMode sniffer) : r.maxlen ≤ 63 := by
  unfold Radio.InMode at h
  split at h
  · exact Nat.le_of_eq h.1
  · exact Nat.le_trans (Nat.le_of_eq h.1) (by decide)

/-- The S1 fields of both kinds of sends. -/
theorem s1_form (p : UInt8) : (ackS1 p < 8 ∧ ackS1 p &&& 1 = 1) ∧
    ((p &&& 3) <<< 1 < 8 ∧ ((p &&& 3) <<< 1) &&& 1 = 0) := by
  have h : ∀ n : Fin 256, (ackS1 (UInt8.ofNat n) < 8 ∧ ackS1 (UInt8.ofNat n) &&& 1 = 1) ∧
      ((UInt8.ofNat n &&& 3) <<< 1 < 8 ∧ ((UInt8.ofNat n &&& 3) <<< 1) &&& 1 = 0) := by decide +kernel
  simpa using h ⟨p.toNat, p.toNat_lt⟩

theorem length_onAir {r : Radio} (h : r.maxlen ≤ 63) (p : EsbPacket) :
    (onAir r p).payload.length = min (onAir r p).length.toNat (onAir r p).radio.maxlen :=
  p.data.length_read (by omega)

/-! ## What every call keeps -/

/-- The registers have that form, in the driver's mode. -/
structure RadioForm (e : Esb) : Prop where
  onBand : e.radio.OnBand
  mode : e.radio.InMode e.snifferActive

theorem radioForm_init : RadioForm (esbInit {}) := ⟨⟨by decide, rfl, by decide, by decide⟩, rfl, rfl⟩

theorem onBand_setPipe0 {r : Radio} (h : r.OnBand) (a : Buf 5) (base : UInt32) :
    Radio.OnBand { r with base0 := base, prefix0 := pipe0Prefix a r.prefix0 } := by
  obtain ⟨-, -, h2, h3⟩ := byteOf_pipe0Prefix a r.prefix0
  exact ⟨h.frequency, h.txaddress, h2.trans h.unused.1, h3.trans h.unused.2⟩

theorem onBand_setPipe1 {r : Radio} (h : r.OnBand) (a : Buf 5) (base : UInt32) :
    Radio.OnBand { r with base1 := base, prefix0 := pipe1Prefix a r.prefix0 } := by
  obtain ⟨-, -, h2, h3⟩ := byteOf_pipe1Prefix a r.prefix0
  exact ⟨h.frequency, h.txaddress, h2.trans h.unused.1, h3.trans h.unused.2⟩

theorem radioForm_sendPacket {e : Esb} (h : RadioForm e) (x : Exchange) (b : SendBuffers) :
    RadioForm (esbSendPacket x b e).2.2 := by
  cases hs : e.sends x.packetDraw with
  | false =>
    rw [esbSendPacket_exit hs]
    exact h
  | true =>
    rw [esbSendPacket_esb hs]
    exact ⟨h.onBand, h.mode⟩

theorem radioForm_setChannel {e : Esb} (h : RadioForm e) (channel : UInt8) : RadioForm (esbSetChannel channel e) := by
  unfold esbSetChannel
  split
  · rename_i hc
    refine ⟨⟨?_, h.onBand.txaddress, h.onBand.unused⟩, h.mode⟩
    have hc : channel.toNat ≤ 100 := UInt8.le_iff_toNat_le.mp hc
    show 2400 ≤ 2400 + channel.toNat ∧ 2400 + channel.toNat ≤ 2500
    omega
  · exact h

theorem radioForm_snifferSend {e : Esb} (h : RadioForm e) (packet : EsbPacket) (address : Buf 5) :
    RadioForm (esbSnifferSend packet address e).2.2 := by
  cases ha : e.snifferActive with
  | false =>
    rw [esbSnifferSend_inactive ha]
    exact h
  | true =>
    obtain ⟨hr, -⟩ := esbSnifferSend_radio ha packet address
    obtain ⟨r, log, he, -, -⟩ := esbSnifferSend_active ha packet address
    have hm : e.radio.InMode e.snifferActive := h.mode
    constructor
    · rw [hr]
      -- pipe 0 is set to the packet's address and back
      have hset := onBand_setPipe0 (onBand_setPipe0 h.onBand address (bytewiseBitswap (addressBase address)))
        e.currentPipe0Address (bytewiseBitswap (addressBase e.currentPipe0Address))
      exact ⟨hset.frequency, rfl, hset.unused⟩
    · rw [hr, he]
      exact hm

theorem radioForm_apply {e : Esb} (h : RadioForm e) (c : EsbCall) : RadioForm (c.apply e) := by
  cases c with
  | sendPacket x b => exact radioForm_sendPacket h x b
  | setArc value => exact ⟨h.onBand, h.mode⟩
  | setAckEnabled enabled => exact ⟨h.onBand, h.mode⟩
  | setPacketLossSimulation packetLoss ackLoss => exact ⟨h.onBand, h.mode⟩
  | setChannel channel => exact radioForm_setChannel h channel
  | setBitrate bitrate =>
    simp only [EsbCall.apply, esbSetBitrate]
    split
    · exact ⟨⟨h.onBand.frequency, h.onBand.txaddress, h.onBand.unused⟩, h.mode⟩
    split
    · exact ⟨⟨h.onBand.frequency, h.onBand.txaddress, h.onBand.unused⟩, h.mode⟩
    · exact h
  | setAddress address => exact ⟨onBand_setPipe0 h.onBand address _, h.mode⟩
  | setAddressPipe1 address => exact ⟨onBand_setPipe1 h.onBand address _, h.mode⟩
  | setContinuousCarrier enable =>
    simp only [EsbCall.apply, esbSetContinuousCarrier]
    split
    · exact h
    split
    · exact h
    split
    · exact h
    · cases enable with
      | true => exact ⟨h.onBand, h.mode⟩
      | false => exact ⟨h.onBand, h.mode⟩
  | snifferStart cb =>
    simp only [EsbCall.apply, esbSnifferStart]
    split
    · exact h
    · exact ⟨⟨h.onBand.frequency, h.onBand.txaddress, h.onBand.unused⟩, rfl, rfl⟩
  | snifferSend packet address => exact radioForm_snifferSend h packet address
  | snifferStop =>
    simp only [EsbCall.apply, esbSnifferStop]
    split
    · exact h
    · exact ⟨⟨h.onBand.frequency, h.onBand.txaddress, h.onBand.unused⟩, rfl, rfl⟩

theorem radioForm_after {e : Esb} (h : RadioForm e) : ∀ calls : List EsbCall, RadioForm (e.after calls) := by
  intro calls
  induction calls using List.reverseRecOn with
  | nil => exact h
  | append_singleton calls c ih =>
    rw [Esb.after_concat]
    exact radioForm_apply ih c

/-! ## What every call sends -/

theorem sent_wellFormed {e : Esb} (h : RadioForm e) (c : EsbCall) : ∀ t ∈ c.sent e, t.WellFormed e.snifferActive := by
  intro t ht
  cases hs : c.starts e with
  | false =>
    rw [(silent hs).sent] at ht
    cases ht
  | true =>
    rcases EsbCall.starts_cases hs with ⟨x, b, rfl, hx⟩ | ⟨packet, address, rfl, ha⟩
    · rw [sent_sendPacket hx] at ht
      rw [List.eq_of_mem_replicate ht]
      -- a send that gets on the air is not in sniffer mode
      have hoff : e.snifferActive = false := by
        simp only [Esb.sends, Esb.refuses, Bool.not_or, Bool.and_eq_true, Bool.not_eq_true'] at hx
        exact hx.1.2.2
      rw [hoff]
      exact ⟨h.onBand, hoff ▸ h.mode, (s1_form e.pid).1.1, (s1_form e.pid).1.2, length_onAir h.mode.maxlen_le _⟩
    · rw [sent_snifferSend ha, List.mem_singleton] at ht
      rw [ht, ha]
      have hset := onBand_setPipe0 h.onBand address (bytewiseBitswap (addressBase address))
      exact ⟨⟨hset.frequency, rfl, hset.unused⟩, ha ▸ h.mode, (s1_form e.pid).2.1, (s1_form e.pid).2.2,
        length_onAir h.mode.maxlen_le _⟩

/-- A send goes to the address pipe 0 is at. -/
theorem pipe0_of_sendPacket {x : Exchange} {b : SendBuffers} {e : Esb} :
    ∀ t ∈ (EsbCall.sendPacket x b).sent e, t.radio.pipe0 = e.radio.pipe0 := by
  intro t ht
  cases hs : e.sends x.packetDraw with
  | false =>
    rw [(silent (c := .sendPacket x b) hs).sent] at ht
    cases ht
  | true =>
    rw [sent_sendPacket hs] at ht
    rw [List.eq_of_mem_replicate ht]
    rfl

/-- Every send goes out at the bit rate the radio is at. -/
theorem mode_of_sent {c : EsbCall} {e : Esb} : ∀ t ∈ c.sent e, t.radio.mode = e.radio.mode := by
  intro t ht
  cases hs : c.starts e with
  | false =>
    rw [(silent hs).sent] at ht
    cases ht
  | true =>
    rcases EsbCall.starts_cases hs with ⟨x, b, rfl, hx⟩ | ⟨packet, address, rfl, ha⟩
    · rw [sent_sendPacket hx] at ht
      rw [List.eq_of_mem_replicate ht]
      rfl
    · rw [sent_snifferSend ha, List.mem_singleton] at ht
      rw [ht]
      rfl

end Crazyradio
