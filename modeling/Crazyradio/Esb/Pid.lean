/-
Packet identifiers. Two functions number their packets from one counter: each of them takes the next
PID once it is past its early exits and before its first TXEN, and every other call leaves the counter
alone. So the messages of any sequence of calls, one for each call that gets to TXEN, are numbered one
after the other.
-/
import Crazyradio.Esb.Calls

namespace Crazyradio

open Bytes

/-! ## The identifier of a packet -/

/-- Bits 1 and 2 of `S1`. -/
def pidOf (s1 : UInt8) : UInt8 := (s1 >>> 1) &&& 3

theorem toNat_and_three (p : UInt8) : (p &&& 3).toNat = p.toNat % 4 := by
  rw [UInt8.toNat_and]
  exact Nat.and_two_pow_sub_one_eq_mod p.toNat 2

/-- Both functions put the counter modulo 4 there. -/
theorem pidOf_s1 (p : UInt8) : pidOf (ackS1 p) = p &&& 3 ∧ pidOf ((p &&& 3) <<< 1) = p &&& 3 := by
  have h : ∀ n : Fin 256, pidOf (ackS1 (UInt8.ofNat n)) = UInt8.ofNat n &&& 3 ∧
      pidOf ((UInt8.ofNat n &&& 3) <<< 1) = UInt8.ofNat n &&& 3 := by decide +kernel
  simpa using h ⟨p.toNat, p.toNat_lt⟩

/-! ## Messages -/

/-- The call gets to TXEN: it is not refused, and no packet-loss simulation drops it. -/
def EsbCall.starts : EsbCall → Esb → Bool
  | .sendPacket x _, e => e.sends x.packetDraw
  | .snifferSend _ _, e => e.snifferActive
  | _, _ => false

/-- Only the two sends get there. -/
theorem EsbCall.starts_cases {c : EsbCall} {e : Esb} (h : c.starts e = true) :
    (∃ x b, c = .sendPacket x b ∧ e.sends x.packetDraw = true) ∨
      ∃ packet address, c = .snifferSend packet address ∧ e.snifferActive = true := by
  cases c with
  | sendPacket x b => exact .inl ⟨x, b, rfl, h⟩
  | snifferSend packet address => exact .inr ⟨packet, address, rfl, h⟩
  | _ => exact absurd h Bool.false_ne_true

/-- The messages of a sequence of calls: what each call that puts something on the air puts there. -/
def messages : List EsbCall → Esb → List (List Transmission)
  | [], _ => []
  | c :: calls, e => if c.starts e then c.sent e :: messages calls (c.apply e) else messages calls (c.apply e)

theorem messages_cons (c : EsbCall) (calls : List EsbCall) (e : Esb) : messages (c :: calls) e =
    if c.starts e then c.sent e :: messages calls (c.apply e) else messages calls (c.apply e) := rfl

/-- What a call that gets to TXEN does: at least one packet with the next PID, all with the same `S1`. -/
structure Started (c : EsbCall) (e : Esb) : Prop where
  nonempty : c.sent e ≠ []
  s1 : ∃ s1, pidOf s1 = e.pid &&& 3 ∧ ∀ t ∈ c.sent e, t.s1 = s1
  pid : (c.apply e).pid = e.pid + 1

/-- What any other call does. -/
structure Silent (c : EsbCall) (e : Esb) : Prop where
  sent : c.sent e = []
  pid : (c.apply e).pid = e.pid

theorem started {c : EsbCall} {e : Esb} (h : c.starts e = true) : Started c e := by
  rcases EsbCall.starts_cases h with ⟨x, b, rfl, h⟩ | ⟨packet, address, rfl, h⟩
  · have hs := sent_sendPacket h b
    constructor
    · simp [hs]
    · refine ⟨ackS1 e.pid, (pidOf_s1 e.pid).1, ?_⟩
      rw [hs]
      intro t ht
      rw [List.eq_of_mem_replicate ht]
      rfl
    · simp only [EsbCall.apply, esbSendPacket_esb h]
  · have hs := sent_snifferSend h packet address
    constructor
    · simp [hs]
    · refine ⟨(e.pid &&& 3) <<< 1, (pidOf_s1 e.pid).2, ?_⟩
      rw [hs]
      intro t ht
      rw [List.mem_singleton.mp ht]
      rfl
    · obtain ⟨r, log, he, -, -⟩ := esbSnifferSend_active h packet address
      simp only [EsbCall.apply, he]

/-- Nothing goes on the air and the counter stays. -/
def Unsent (e e' : Esb) : Prop := ∃ log, e'.log = e.log ++ log ∧ transmissions log = [] ∧ e'.pid = e.pid

theorem Unsent.refl (e : Esb) : Unsent e e := ⟨[], (List.append_nil _).symm, rfl, rfl⟩

theorem Unsent.silent {c : EsbCall} {e : Esb} (h : Unsent e (c.apply e)) : Silent c e := by
  obtain ⟨log, hl, hn, hp⟩ := h
  exact ⟨EsbCall.sent_nil hl hn, hp⟩

theorem unsent_setContinuousCarrier (enable : Bool) (e : Esb) : Unsent e (esbSetContinuousCarrier enable e).2 := by
  unfold esbSetContinuousCarrier
  split
  · exact .refl e
  split
  · exact .refl e
  split
  · exact .refl e
  · cases enable <;> exact ⟨[_], rfl, rfl, rfl⟩

theorem unsent_snifferStart (cb : EsbSnifferRxCb) (e : Esb) : Unsent e (esbSnifferStart cb e) := by
  unfold esbSnifferStart
  split
  · exact .refl e
  · exact ⟨[.packetConfigure 63, .rxaddresses 0x03, .rxen], by
      simp only [nrfRadioPacketConfigure, nrfRadioRxaddressesSet, Esb.record, List.append_assoc]; rfl, rfl, rfl⟩

theorem unsent_snifferStop (e : Esb) : Unsent e (esbSnifferStop e) := by
  unfold esbSnifferStop
  split
  · exact .refl e
  · exact ⟨[.disable, .rxaddresses 0x01, .packetConfigure 32], by
      simp only [nrfRadioPacketConfigure, nrfRadioRxaddressesSet, Esb.record, List.append_assoc]; rfl, rfl, rfl⟩

theorem unsent {c : EsbCall} {e : Esb} (h : c.starts e = false) : Unsent e (c.apply e) := by
  cases c with
  | sendPacket x b =>
    simp only [EsbCall.apply, esbSendPacket_exit h]
    exact .refl e
  | snifferSend packet address =>
    simp only [EsbCall.apply, esbSnifferSend_inactive h]
    exact .refl e
  | setChannel channel =>
    simp only [EsbCall.apply, esbSetChannel]
    split
    · exact ⟨[_], rfl, rfl, rfl⟩
    · exact .refl e
  | setBitrate bitrate =>
    simp only [EsbCall.apply, esbSetBitrate]
    split
    · exact ⟨[_], rfl, rfl, rfl⟩
    split
    · exact ⟨[_], rfl, rfl, rfl⟩
    · exact .refl e
  | setAddress a => exact ⟨[_, _], List.append_assoc _ _ _, rfl, rfl⟩
  | setAddressPipe1 a => exact ⟨[_, _], List.append_assoc _ _ _, rfl, rfl⟩
  | setContinuousCarrier enable => exact unsent_setContinuousCarrier enable e
  | snifferStart cb => exact unsent_snifferStart cb e
  | snifferStop => exact unsent_snifferStop e
  | setArc value => exact .refl e
  | setAckEnabled enabled => exact .refl e
  | setPacketLossSimulation packetLoss ackLoss => exact .refl e

theorem silent {c : EsbCall} {e : Esb} (h : c.starts e = false) : Silent c e := (unsent h).silent

/-- The log grows. -/
theorem log_apply (c : EsbCall) (e : Esb) : ∃ log, (c.apply e).log = e.log ++ log := by
  cases h : c.starts e with
  | false =>
    obtain ⟨log, hl, -⟩ := unsent h
    exact ⟨log, hl⟩
  | true =>
    rcases EsbCall.starts_cases h with ⟨x, b, rfl, h⟩ | ⟨packet, address, rfl, h⟩
    · exact ⟨x.onAir b e, by simp only [EsbCall.apply, esbSendPacket_esb h]⟩
    · obtain ⟨r, log, he, -, -⟩ := esbSnifferSend_active h packet address
      exact ⟨log, by simp only [EsbCall.apply, he]⟩

theorem transmissions_apply (c : EsbCall) (e : Esb) :
    transmissions (c.apply e).log = transmissions e.log ++ c.sent e := by
  obtain ⟨log, hl⟩ := log_apply c e
  rw [EsbCall.sent_eq hl, hl, transmissions_append]

/-! ## The numbering -/

/-- What is on the air are the messages, one behind the other. -/
theorem transmissions_after (calls : List EsbCall) (e : Esb) :
    transmissions (e.after calls).log = transmissions e.log ++ (messages calls e).flatten := by
  induction calls generalizing e with
  | nil => exact (List.append_nil _).symm
  | cons c calls ih =>
    rw [Esb.after_cons, ih, transmissions_apply, List.append_assoc, messages_cons]
    cases h : c.starts e with
    | true => rw [if_pos rfl, List.flatten_cons]
    | false => rw [(silent h).sent, List.nil_append, if_neg Bool.false_ne_true]

/-- A message: all its packets have the same `S1`, with this PID. -/
def Numbered (pid : Nat) (m : List Transmission) : Prop :=
  m ≠ [] ∧ ∃ s1, (pidOf s1).toNat = pid ∧ ∀ t ∈ m, t.s1 = s1

theorem Started.numbered {c : EsbCall} {e : Esb} (h : Started c e) : Numbered (e.pid.toNat % 4) (c.sent e) := by
  obtain ⟨s1, hp, hs⟩ := h.s1
  refine ⟨h.nonempty, s1, ?_, hs⟩
  rw [hp]
  exact toNat_and_three e.pid

/-- The messages go on from the counter, also where it wraps. -/
theorem messages_numbered (calls : List EsbCall) : ∀ (e : Esb) (j : Nat) (m : List Transmission),
    (messages calls e)[j]? = some m → Numbered ((e.pid.toNat + j) % 4) m := by
  induction calls with
  | nil => exact fun _ _ _ hm => nomatch hm
  | cons c calls ih =>
    intro e j m hm
    rw [messages_cons] at hm
    cases h : c.starts e with
    | false =>
      rw [h, if_neg Bool.false_ne_true] at hm
      rw [← (silent h).pid]
      exact ih _ j m hm
    | true =>
      rw [h, if_pos rfl] at hm
      cases j with
      | zero =>
        cases hm
        exact (started h).numbered
      | succ j =>
        have hj := ih _ j m hm
        rw [(started h).pid] at hj
        have hwrap : ((e.pid + 1).toNat + j) % 4 = (e.pid.toNat + (j + 1)) % 4 := by
          rw [UInt8.toNat_add]
          show ((e.pid.toNat + 1) % 256 + j) % 4 = _
          omega
        rwa [hwrap] at hj

end Crazyradio
