/-
Pipe addresses. The radio takes an address as a base register and one byte of a prefix register, the
bits of each byte reversed; both pipes share the prefix register. Whatever is called, the pair of
pipe 0 stands for the address set last and for the driver's copy of it, the pair of pipe 1 for its
own, and a sniffer-mode send changes pipe 0 for its packet only.
-/
import Crazyradio.Esb.Calls
import Crazyradio.Lib.Words

namespace Crazyradio

open Bytes Words

/-! ## The registers of an address -/

theorem swapBits_toUInt32 (b : UInt8) : swapBits b.toUInt32 = (reverseByte b).toUInt32 := by
  have h : ∀ n : Fin 256, swapBits (UInt8.ofNat n).toUInt32 = (reverseByte (UInt8.ofNat n)).toUInt32 := by
    decide +kernel
  simpa using h ⟨b.toNat, b.toNat_lt⟩

/-- `swap_bits` looks at the lowest byte only. -/
theorem swapBits_eq (inp : UInt32) : swapBits inp = (reverseByte (byteOf inp 0)).toUInt32 := by
  rw [← swapBits_toUInt32]
  unfold swapBits
  rw [and_low, and_low, byteOf_toUInt32]

theorem bytewiseBitswap_eq (inp : UInt32) : bytewiseBitswap inp =
    ofBytes (reverseByte (byteOf inp 3)) (reverseByte (byteOf inp 2)) (reverseByte (byteOf inp 1))
      (reverseByte (byteOf inp 0)) := by
  obtain ⟨h1, h2, h3⟩ := byteOf_shiftRight inp
  rw [bytewiseBitswap, swapBits_eq, swapBits_eq, swapBits_eq, swapBits_eq, h1, h2, h3]
  rfl

/-- The base register of an address. -/
theorem base_eq (a : Buf 5) : bytewiseBitswap (addressBase a) =
    ofBytes (reverseByte (a.get 1)) (reverseByte (a.get 2)) (reverseByte (a.get 3)) (reverseByte (a.get 4)) := by
  obtain ⟨h0, h1, h2, h3⟩ := byteOf_ofBytes (a.get 1) (a.get 2) (a.get 3) (a.get 4)
  rw [bytewiseBitswap_eq, show addressBase a = ofBytes (a.get 1) (a.get 2) (a.get 3) (a.get 4) from rfl, h0, h1, h2, h3]

/-- The prefix byte of an address. -/
theorem prefix_eq (a : Buf 5) : swapBits (a.get 0).toUInt32 &&& 0xff = (reverseByte (a.get 0)).toUInt32 := by
  rw [swapBits_toUInt32, and_low, byteOf_toUInt32]

theorem pipe0Prefix_eq (a : Buf 5) (p : UInt32) : pipe0Prefix a p = setByte p 0 (reverseByte (a.get 0)) := by
  rw [pipe0Prefix, prefix_eq]
  exact congrArg ((p &&& 0xffffff00) ||| ·) (by simp)

/-- The prefix register with a new pipe-1 byte. -/
def pipe1Prefix (a : Buf 5) (p : UInt32) : UInt32 :=
  (p &&& 0xffff00ff) ||| ((swapBits (a.get 0).toUInt32 &&& (0xff : UInt32)) <<< (8 : UInt32))

theorem pipe1Prefix_eq (a : Buf 5) (p : UInt32) : pipe1Prefix a p = setByte p 1 (reverseByte (a.get 0)) := by
  rw [pipe1Prefix, prefix_eq]
  rfl

/-! ## Decoding -/

/-- The address a base register and a prefix byte stand for. -/
def decodeAddress (base : UInt32) (prefixByte : UInt8) : Buf 5 :=
  ⟨[reverseByte prefixByte, reverseByte (byteOf base 3), reverseByte (byteOf base 2), reverseByte (byteOf base 1),
    reverseByte (byteOf base 0)], rfl⟩

/-- The registers of pipe 0. -/
def Radio.pair0 (r : Radio) : UInt32 × UInt8 := (r.base0, byteOf r.prefix0 0)

/-- The registers of pipe 1. -/
def Radio.pair1 (r : Radio) : UInt32 × UInt8 := (r.base1, byteOf r.prefix0 1)

/-- The address of pipe 0. -/
def Radio.pipe0 (r : Radio) : Buf 5 := decodeAddress r.pair0.1 r.pair0.2

/-- The address of pipe 1. -/
def Radio.pipe1 (r : Radio) : Buf 5 := decodeAddress r.pair1.1 r.pair1.2

theorem bytes_eq_gets (a : Buf 5) : a.bytes = [a.get 0, a.get 1, a.get 2, a.get 3, a.get 4] := by
  obtain ⟨bytes, h⟩ := a
  match bytes, h with
  | [_, _, _, _, _], _ => rfl

/-- The registers of an address stand for it. -/
theorem decodeAddress_encode (a : Buf 5) :
    decodeAddress (bytewiseBitswap (addressBase a)) (reverseByte (a.get 0)) = a := by
  obtain ⟨h0, h1, h2, h3⟩ := byteOf_ofBytes (reverseByte (a.get 1)) (reverseByte (a.get 2)) (reverseByte (a.get 3))
    (reverseByte (a.get 4))
  apply Buf.ext_bytes
  rw [base_eq, bytes_eq_gets a]
  simp only [decodeAddress, h0, h1, h2, h3, reverseByte_reverseByte]

/-! ## What a call does to the address registers -/

/-- The address registers and the driver's copy of the pipe-0 address. -/
structure SamePipes (e e' : Esb) : Prop where
  base0 : e'.radio.base0 = e.radio.base0
  base1 : e'.radio.base1 = e.radio.base1
  prefix0 : e'.radio.prefix0 = e.radio.prefix0
  current : e'.currentPipe0Address = e.currentPipe0Address

theorem SamePipes.refl (e : Esb) : SamePipes e e := ⟨rfl, rfl, rfl, rfl⟩

/-- The address a call sets on pipe 0. -/
def EsbCall.address? : EsbCall → Option (Buf 5)
  | .setAddress a => some a
  | _ => none

/-- The address a call sets on pipe 1. -/
def EsbCall.addressPipe1? : EsbCall → Option (Buf 5)
  | .setAddressPipe1 a => some a
  | _ => none

/-- The last address given to `esb_set_address`, the one of `esb_init` if there is none. -/
def lastAddress (calls : List EsbCall) : Buf 5 := (calls.filterMap EsbCall.address?).getLast?.getD (Buf.fill 5 0xe7)

/-- The last address given to `esb_set_address_pipe1`. -/
def lastAddressPipe1 (calls : List EsbCall) : Option (Buf 5) := (calls.filterMap EsbCall.addressPipe1?).getLast?

theorem lastAddress_set (calls : List EsbCall) (a : Buf 5) : lastAddress (calls ++ [.setAddress a]) = a := by
  simp [lastAddress, EsbCall.address?]

theorem lastAddress_other (calls : List EsbCall) {c : EsbCall} (h : c.address? = none) :
    lastAddress (calls ++ [c]) = lastAddress calls := by
  simp [lastAddress, h]

theorem lastAddressPipe1_set (calls : List EsbCall) (a : Buf 5) :
    lastAddressPipe1 (calls ++ [.setAddressPipe1 a]) = some a := by
  simp [lastAddressPipe1, EsbCall.addressPipe1?]

theorem lastAddressPipe1_other (calls : List EsbCall) {c : EsbCall} (h : c.addressPipe1? = none) :
    lastAddressPipe1 (calls ++ [c]) = lastAddressPipe1 calls := by
  simp [lastAddressPipe1, h]

/-- The pipes hold what the calls set last; the bytes of the pipes that are not in use are those of
`esb_init`. -/
structure PipesTracked (calls : List EsbCall) (e : Esb) : Prop where
  pipe0 : e.radio.pipe0 = lastAddress calls
  current : e.currentPipe0Address = lastAddress calls
  pipe1 : ∀ a, lastAddressPipe1 calls = some a → e.radio.pipe1 = a
  byte2 : byteOf e.radio.prefix0 2 = byteOf (esbInit {}).radio.prefix0 2
  byte3 : byteOf e.radio.prefix0 3 = byteOf (esbInit {}).radio.prefix0 3

/-- A call that sets no address and leaves the registers alone. -/
theorem PipesTracked.same {calls : List EsbCall} {e : Esb} {c : EsbCall} (h : PipesTracked calls e)
    (s : SamePipes e (c.apply e)) (h0 : c.address? = none) (h1 : c.addressPipe1? = none) :
    PipesTracked (calls ++ [c]) (c.apply e) := by
  constructor
  · rw [lastAddress_other calls h0, ← h.pipe0]
    simp only [Radio.pipe0, Radio.pair0, s.base0, s.prefix0]
  · rw [lastAddress_other calls h0, s.current]
    exact h.current
  · intro a ha
    rw [lastAddressPipe1_other calls h1] at ha
    rw [← h.pipe1 a ha]
    simp only [Radio.pipe1, Radio.pair1, s.base1, s.prefix0]
  · rw [s.prefix0]
    exact h.byte2
  · rw [s.prefix0]
    exact h.byte3

/-- A new pipe-0 address. -/
theorem byteOf_pipe0Prefix (a : Buf 5) (p : UInt32) : byteOf (pipe0Prefix a p) 0 = reverseByte (a.get 0) ∧
    byteOf (pipe0Prefix a p) 1 = byteOf p 1 ∧ byteOf (pipe0Prefix a p) 2 = byteOf p 2 ∧
    byteOf (pipe0Prefix a p) 3 = byteOf p 3 := by
  rw [pipe0Prefix_eq]
  exact ⟨byteOf_setByte p _ 0 0, byteOf_setByte p _ 0 1, byteOf_setByte p _ 0 2, byteOf_setByte p _ 0 3⟩

/-- A new pipe-1 address. -/
theorem byteOf_pipe1Prefix (a : Buf 5) (p : UInt32) : byteOf (pipe1Prefix a p) 0 = byteOf p 0 ∧
    byteOf (pipe1Prefix a p) 1 = reverseByte (a.get 0) ∧ byteOf (pipe1Prefix a p) 2 = byteOf p 2 ∧
    byteOf (pipe1Prefix a p) 3 = byteOf p 3 := by
  rw [pipe1Prefix_eq]
  exact ⟨byteOf_setByte p _ 1 0, byteOf_setByte p _ 1 1, byteOf_setByte p _ 1 2, byteOf_setByte p _ 1 3⟩

/-- What both functions that set pipe 0 put there stands for the address. -/
theorem Radio.pipe0_eq {r : Radio} {a : Buf 5} {p : UInt32} (hb : r.base0 = bytewiseBitswap (addressBase a))
    (hp : r.prefix0 = pipe0Prefix a p) : r.pipe0 = a := by
  rw [Radio.pipe0, Radio.pair0, hb, hp, (byteOf_pipe0Prefix a p).1]
  exact decodeAddress_encode a

theorem pipe0_setAddress (a : Buf 5) (e : Esb) : (esbSetAddress a e).radio.pipe0 = a := Radio.pipe0_eq rfl rfl

theorem pipe1_setAddressPipe1 (a : Buf 5) (e : Esb) : (esbSetAddressPipe1 a e).radio.pipe1 = a := by
  show decodeAddress (bytewiseBitswap (addressBase a)) (byteOf (pipe1Prefix a e.radio.prefix0) 1) = a
  rw [(byteOf_pipe1Prefix a e.radio.prefix0).2.1]
  exact decodeAddress_encode a

theorem pipe0_snifferTransmission (packet : EsbPacket) (a : Buf 5) (e : Esb) :
    (snifferTransmission packet a e).radio.pipe0 = a := Radio.pipe0_eq rfl rfl

theorem tracked_setAddress {calls : List EsbCall} {e : Esb} (h : PipesTracked calls e) (a : Buf 5) :
    PipesTracked (calls ++ [.setAddress a]) (esbSetAddress a e) := by
  obtain ⟨-, h1, h2, h3⟩ := byteOf_pipe0Prefix a e.radio.prefix0
  constructor
  · rw [lastAddress_set]
    exact pipe0_setAddress a e
  · exact (lastAddress_set calls a).symm
  · intro b hb
    rw [lastAddressPipe1_other calls rfl] at hb
    rw [← h.pipe1 b hb]
    exact congrArg (decodeAddress e.radio.base1) h1
  · exact h2.trans h.byte2
  · exact h3.trans h.byte3

theorem tracked_setAddressPipe1 {calls : List EsbCall} {e : Esb} (h : PipesTracked calls e) (a : Buf 5) :
    PipesTracked (calls ++ [.setAddressPipe1 a]) (esbSetAddressPipe1 a e) := by
  obtain ⟨h0, -, h2, h3⟩ := byteOf_pipe1Prefix a e.radio.prefix0
  constructor
  · rw [lastAddress_other calls rfl, ← h.pipe0]
    exact congrArg (decodeAddress e.radio.base0) h0
  · rw [lastAddress_other calls rfl]
    exact h.current
  · intro b hb
    rw [lastAddressPipe1_set] at hb
    cases hb
    exact pipe1_setAddressPipe1 a e
  · exact h2.trans h.byte2
  · exact h3.trans h.byte3

/-- The registers behind a sniffer-mode send: pipe 0 was set twice, the second time to the driver's
copy. -/
theorem esbSnifferSend_radio {e : Esb} (h : e.snifferActive = true) (packet : EsbPacket) (address : Buf 5) :
    (esbSnifferSend packet address e).2.2.radio =
        { e.radio with
          base0 := bytewiseBitswap (addressBase e.currentPipe0Address)
          prefix0 := pipe0Prefix e.currentPipe0Address (pipe0Prefix address e.radio.prefix0)
          txaddress := 0 } ∧
      (esbSnifferSend packet address e).2.2.currentPipe0Address = e.currentPipe0Address := by
  unfold esbSnifferSend
  rw [h]
  simp only [setPipe0AddressNolock_eq, nrfRadioTxaddressSet, transmit, Esb.record, Bool.not_true, Bool.false_eq_true,
    if_false, and_self]

theorem tracked_snifferSend {calls : List EsbCall} {e : Esb} (h : PipesTracked calls e) (packet : EsbPacket)
    (address : Buf 5) :
    PipesTracked (calls ++ [.snifferSend packet address]) (esbSnifferSend packet address e).2.2 := by
  cases ha : e.snifferActive with
  | false =>
    have hs := esbSnifferSend_inactive ha packet address
    refine h.same (c := .snifferSend packet address) ?_ rfl rfl
    show SamePipes e (esbSnifferSend packet address e).2.2
    rw [hs]
    exact .refl e
  | true =>
    obtain ⟨hr, hc⟩ := esbSnifferSend_radio ha packet address
    obtain ⟨-, a1, a2, a3⟩ := byteOf_pipe0Prefix address e.radio.prefix0
    obtain ⟨-, b1, b2, b3⟩ := byteOf_pipe0Prefix e.currentPipe0Address (pipe0Prefix address e.radio.prefix0)
    constructor
    · rw [lastAddress_other calls rfl, hr, ← h.current]
      exact Radio.pipe0_eq rfl rfl
    · rw [lastAddress_other calls rfl, hc]
      exact h.current
    · intro b hb
      rw [lastAddressPipe1_other calls rfl] at hb
      rw [← h.pipe1 b hb, hr]
      exact congrArg (decodeAddress e.radio.base1) (b1.trans a1)
    · rw [hr]
      exact (b2.trans a2).trans h.byte2
    · rw [hr]
      exact (b3.trans a3).trans h.byte3

/-- The other calls leave the address registers alone. -/
theorem samePipes_apply {c : EsbCall} (h0 : c.address? = none) (h1 : c.addressPipe1? = none)
    (hs : ∀ packet address, c ≠ .snifferSend packet address) (e : Esb) : SamePipes e (c.apply e) := by
  cases c with
  | sendPacket x b =>
    cases hx : e.sends x.packetDraw with
    | false =>
      simp only [EsbCall.apply, esbSendPacket_exit hx]
      exact .refl e
    | true =>
      simp only [EsbCall.apply, esbSendPacket_esb hx]
      exact ⟨rfl, rfl, rfl, rfl⟩
  | setChannel channel =>
    simp only [EsbCall.apply, esbSetChannel]
    split <;> exact ⟨rfl, rfl, rfl, rfl⟩
  | setBitrate bitrate =>
    simp only [EsbCall.apply, esbSetBitrate]
    repeat' split
    all_goals exact ⟨rfl, rfl, rfl, rfl⟩
  | setAddress a => exact absurd h0 (Option.some_ne_none a)
  | setAddressPipe1 a => exact absurd h1 (Option.some_ne_none a)
  | setContinuousCarrier enable =>
    simp only [EsbCall.apply, esbSetContinuousCarrier]
    repeat' split
    all_goals exact ⟨rfl, rfl, rfl, rfl⟩
  | snifferStart cb =>
    simp only [EsbCall.apply, esbSnifferStart]
    split <;> exact ⟨rfl, rfl, rfl, rfl⟩
  | snifferSend packet address => exact absurd rfl (hs packet address)
  | snifferStop =>
    simp only [EsbCall.apply, esbSnifferStop]
    split <;> exact ⟨rfl, rfl, rfl, rfl⟩
  | _ => exact ⟨rfl, rfl, rfl, rfl⟩

/-! ## Any sequence of calls -/

theorem tracked_init : PipesTracked [] (esbInit {}) := by
  constructor
  · decide +kernel
  · rfl
  · intro a ha
    cases ha
  · rfl
  · rfl

theorem tracked_apply {calls : List EsbCall} {e : Esb} (h : PipesTracked calls e) (c : EsbCall) :
    PipesTracked (calls ++ [c]) (c.apply e) := by
  cases c with
  | setAddress a => exact tracked_setAddress h a
  | setAddressPipe1 a => exact tracked_setAddressPipe1 h a
  | snifferSend packet address => exact tracked_snifferSend h packet address
  | _ => exact h.same (samePipes_apply rfl rfl (fun _ _ hc => by cases hc) e) rfl rfl

theorem tracked_after (calls : List EsbCall) : PipesTracked calls ((esbInit {}).after calls) := by
  induction calls using List.reverseRecOn with
  | nil => exact tracked_init
  | append_singleton calls c ih =>
    rw [Esb.after_concat]
    exact tracked_apply ih c

/-- The packet of a sniffer-mode send goes to the address it was given. -/
theorem pipe0_of_sent {packet : EsbPacket} {a : Buf 5} {e : Esb} {t : Transmission}
    (h : t ∈ (EsbCall.snifferSend packet a).sent e) : t.radio.pipe0 = a := by
  cases ha : e.snifferActive with
  | false =>
    rw [sent_snifferSend_inactive ha] at h
    cases h
  | true =>
    rw [sent_snifferSend ha, List.mem_singleton] at h
    rw [h]
    exact pipe0_snifferTransmission packet a e

/-- Registers that stand for different addresses differ. -/
theorem pair0_ne {r r' : Radio} (h : r.pipe0 ≠ r'.pipe0) : r.pair0 ≠ r'.pair0 := by
  intro he
  exact h (by rw [Radio.pipe0, he, Radio.pipe0])

theorem pair1_ne {r r' : Radio} (h : r.pipe1 ≠ r'.pipe1) : r.pair1 ≠ r'.pair1 := by
  intro he
  exact h (by rw [Radio.pipe1, he, Radio.pipe1])

/-- Different addresses give different registers, in whatever states they are set. -/
structure AddressesDiffer (a b : Buf 5) : Prop where
  pipe0 : ∀ e e', (esbSetAddress a e).radio.pair0 ≠ (esbSetAddress b e').radio.pair0
  pipe1 : ∀ e e', (esbSetAddressPipe1 a e).radio.pair1 ≠ (esbSetAddressPipe1 b e').radio.pair1
  sniffer : ∀ packet packet' e e' t t', t ∈ (EsbCall.snifferSend packet a).sent e →
    t' ∈ (EsbCall.snifferSend packet' b).sent e' → t.radio.pair0 ≠ t'.radio.pair0

theorem addressesDiffer {a b : Buf 5} (h : a ≠ b) : AddressesDiffer a b := by
  constructor
  · intro e e'
    refine pair0_ne ?_
    rw [pipe0_setAddress, pipe0_setAddress]
    exact h
  · intro e e'
    refine pair1_ne ?_
    rw [pipe1_setAddressPipe1, pipe1_setAddressPipe1]
    exact h
  · intro packet packet' e e' t t' ht ht'
    refine pair0_ne ?_
    rw [pipe0_of_sent ht, pipe0_of_sent ht']
    exact h

/-- Behind any calls from `esb_init` on, the pipes hold the addresses set last. In that state a
sniffer-mode send triggers TXEN with pipe 0 at its own address, and different addresses always give
different registers. -/
theorem pipes_tracked (calls : List EsbCall) : PipesTracked calls ((esbInit {}).after calls) ∧
    (∀ packet address, ((esbInit {}).after calls).snifferActive = true →
      ∃ t, (EsbCall.snifferSend packet address).sent ((esbInit {}).after calls) = [t] ∧ t.radio.pipe0 = address ∧
        t.radio.txaddress = 0) ∧
    ∀ a b, a ≠ b → AddressesDiffer a b := by
  refine ⟨tracked_after calls, fun packet address ha => ?_, fun a b => addressesDiffer⟩
  exact ⟨_, sent_snifferSend ha packet address, pipe0_snifferTransmission packet address _, rfl⟩

theorem pipes_tracked_sniffer :
    (∃ t, (EsbCall.snifferSend {} (Buf.fill 5 1)).sent ((esbInit {}).after [.snifferStart .snifferRxCallback]) = [t] ∧
        t.radio.pipe0 = Buf.fill 5 1 ∧ t.radio.txaddress = 0) ∧
      AddressesDiffer (Buf.fill 5 1) (Buf.fill 5 2) := by
  obtain ⟨-, hsend, hdiffer⟩ := pipes_tracked [.snifferStart .snifferRxCallback]
  exact ⟨hsend {} (Buf.fill 5 1) rfl, hdiffer _ _ (by decide)⟩

end Crazyradio
