/-
What the pieces of `usb_thread` do, one lemma for each: when a copy goes through and what it
leaves, which bytes an answer has, and that nothing else changes. The properties of the following
modules are proved from these and never unfold the pieces.
-/
import Crazyradio.Esb.Call
import Crazyradio.Usb.Request

namespace Crazyradio.Usb

open Bytes

/-! ## Building the packet -/

/-- `d` with the `n` bytes of `payload` from `off` on in its packet. -/
def Device.load (d : Device) (payload : Buf 128) (off n : Nat) (h : n ≤ 63) : Device :=
  { d with usb := { d.usb with packet := { d.usb.packet with
      data := d.usb.packet.data.blit 0 (payload.read off n) (by have := payload.length_read_le off n; omega)
      length := UInt8.ofNat n } } }

theorem loadPacket_ok (payload : Buf 128) {off n : Nat} (hn : n ≤ 63) (ho : off + n ≤ 128) (d : Device) :
    loadPacket payload off n d = .ok (d.load payload off n hn) := by
  unfold loadPacket
  rw [memcpy_ok _ _ _ _ (by omega) ho]
  rfl

theorem loadPacket_isOk_iff (payload : Buf 128) (off : Nat) (n : Int) (d : Device) :
    (∃ d', loadPacket payload off n d = .ok d') ↔ 0 ≤ n ∧ n ≤ 63 ∧ off + n ≤ 128 := by
  constructor
  · rintro ⟨d', h⟩
    by_cases hb : Copy.InBounds ⟨63, 0, 128, off, n⟩
    · obtain ⟨h0, h1, h2⟩ := hb
      simp only at h0 h1 h2
      exact ⟨h0, by omega, by omega⟩
    · unfold loadPacket at h
      rw [memcpy_error _ _ _ _ hb] at h
      exact nomatch h
  · rintro ⟨h0, h1, h2⟩
    obtain ⟨k, rfl⟩ := Int.eq_ofNat_of_zero_le h0
    exact ⟨_, loadPacket_ok payload (by omega) (by omega) d⟩

/-- The packet loaded, as it goes on the air. -/
theorem onAir_load (d : Device) (payload : Buf 128) {off n : Nat} (h : n ≤ 63) (ho : off + n ≤ 128) (r : Radio)
    (s1 : UInt8) :
    onAir r { (d.load payload off n h).usb.packet with s1 } =
      { radio := r, s1, length := UInt8.ofNat n, payload := payload.read off (min n r.maxlen) } := by
  have hl : (payload.read off n).length = n := payload.length_read ho
  have hb : (d.load payload off n h).usb.packet.data.read 0 n = payload.read off n :=
    d.usb.packet.data.read_blit hl (by omega)
  have hn : (UInt8.ofNat n).toNat = n := by simp; omega
  unfold onAir
  simp only [Transmission.mk.injEq, true_and]
  refine ⟨rfl, ?_⟩
  show (d.load payload off n h).usb.packet.data.read 0 (min (UInt8.ofNat n).toNat r.maxlen) = _
  rw [hn, ← Buf.read_zero_take _ (Nat.min_le_left n r.maxlen), hb, Buf.read, Buf.read, List.take_take,
    Nat.min_eq_left (Nat.min_le_left n r.maxlen)]

/-! ## Answers -/

theorem capAck_length (d : Device) : (capAck d).usb.ack.length.toNat = min d.usb.ack.length.toNat 32 := by
  unfold capAck
  split
  · -- cut to 32
    rename_i h
    have := UInt8.lt_iff_toNat_lt.mp h
    simp at this
    show 32 = _
    omega
  · rename_i h
    have := mt UInt8.lt_iff_toNat_lt.mpr h
    simp at this
    omega

theorem capAck_length_le (d : Device) : (capAck d).usb.ack.length.toNat ≤ 32 := by
  rw [capAck_length]; exact Nat.min_le_right _ _

/-- Besides the ack length nothing is cut. -/
theorem capAck_usb (d : Device) : (capAck d).usb.ack.data = d.usb.ack.data ∧ (capAck d).usb.rssi = d.usb.rssi ∧
    (capAck d).usb.retry = d.usb.retry := by
  unfold capAck
  split <;> exact ⟨rfl, rfl, rfl⟩

@[simp] theorem capAck_state (d : Device) : (capAck d).state = d.state := by unfold capAck; split <;> rfl

@[simp] theorem capAck_esb (d : Device) : (capAck d).esb = d.esb := by unfold capAck; split <;> rfl

@[simp] theorem capAck_inWrites (d : Device) : (capAck d).inWrites = d.inWrites := by unfold capAck; split <;> rfl

/-- The bytes of an inline answer: behind the header come the ack payload if the packet was acked,
and what `usb_answer` held before if not. -/
def inlineBytes (acked : Bool) (d : Device) : List UInt8 :=
  let s := d.state
  let flags := inlineFlags acked (s.ackEnabled && decide (d.usb.rssi < 64)) (!s.handled)
    (if s.ackEnabled then d.usb.retry &&& 0x0f else 0)
  s.inlineHeader (d.usb.ack.length + UInt8.ofNat s.headerSize) flags d.usb.rssi ++
    if acked then d.usb.ack.data.read 0 d.usb.ack.length.toNat
    else s.usbAnswer.read s.headerSize d.usb.ack.length.toNat

/-- The bytes of a plain answer, if there is one. -/
def plainBytes (acked : Bool) (d : Device) : Option (List UInt8) :=
  if !d.state.ackEnabled then none
  else if acked then
    some ((((d.usb.retry &&& 0x0f) <<< 4) ||| (if d.usb.rssi < 64 then 2 else 0) ||| 1) ::
      d.usb.ack.data.read 0 d.usb.ack.length.toNat)
  else some [0]

theorem toNat_add_headerSize {l : UInt8} (h : l.toNat ≤ 32) (s : State) :
    (l + UInt8.ofNat s.headerSize).toNat = s.headerSize + l.toNat := by
  have := s.headerSize_le
  rw [UInt8.toNat_add, UInt8.toNat_ofNat']
  omega

/-- A header stored at the start of `usb_answer` and, if `copy`, payload bytes stored behind it. -/
theorem header_memcpy (buffer : Buf 128) {header : List UInt8} {size : Nat} (hs : header.length = size)
    (hb : 0 + header.length ≤ 128) (data : Buf 63) (copy : Bool) (len : UInt8) (hl : size + len.toNat ≤ 63) :
    ∃ answer : Buf 128,
      (if copy && decide (0 < len) then memcpy (buffer.blit 0 header hb) size data 0 len.toNat
        else pure (buffer.blit 0 header hb)) = Except.ok answer ∧
      answer.read 0 (size + len.toNat) =
        header ++ if copy then data.read 0 len.toNat else buffer.read size len.toNat := by
  cases copy with
  | false => exact ⟨_, rfl, buffer.read_blit_zero hs hb len.toNat⟩
  | true =>
    -- the source copies nothing where there is nothing, which leaves the same bytes
    by_cases h0 : 0 < len
    · have hr : (data.read 0 len.toNat).length = len.toNat := data.length_read (by omega)
      refine ⟨(buffer.blit 0 header hb).blit size (data.read 0 len.toNat) (by omega), ?_, ?_⟩
      · rw [Bool.true_and, decide_eq_true h0, if_pos rfl]
        exact memcpy_ok _ _ _ _ (by omega) (by omega)
      · rw [Buf.read_zero_blit _ hr, buffer.read_blit hs hb, if_pos rfl]
    · have hz : len.toNat = 0 := by
        have := mt UInt8.lt_iff_toNat_lt.mpr h0
        simp at this; omega
      refine ⟨buffer.blit 0 header hb, ?_, ?_⟩
      · rw [Bool.true_and, decide_eq_false h0]; rfl
      · rw [buffer.read_blit_zero hs hb, hz]; simp

theorem inlineAnswer_spec (acked : Bool) {d : Device} (h : d.usb.ack.length.toNat ≤ 32) : ∃ buffer : Buf 128,
    inlineAnswer acked d =
      .ok (usbWrite (inlineBytes acked d) { d with state := { d.state with usbAnswer := buffer } }) := by
  have hs := d.state.headerSize_le
  obtain ⟨buffer, hm, hr⟩ := header_memcpy d.state.usbAnswer
    (d.state.length_inlineHeader (d.usb.ack.length + UInt8.ofNat d.state.headerSize)
      (inlineFlags acked (d.state.ackEnabled && decide (d.usb.rssi < 64)) (!d.state.handled)
        (if d.state.ackEnabled then d.usb.retry &&& 0x0f else 0)) d.usb.rssi)
    (by rw [d.state.length_inlineHeader]; omega) d.usb.ack.data acked d.usb.ack.length (by omega)
  refine ⟨buffer, ?_⟩
  unfold inlineAnswer
  simp only
  rw [hm]
  simp only [bind, Except.bind, pure, Except.pure]
  rw [toNat_add_headerSize h, hr]
  rfl

/-- A status byte stored at the start of the plain answer and payload bytes behind it. -/
theorem status_memcpy (buffer : Buf 33) (status : UInt8) (data : Buf 63) {len : Nat} (hl : len ≤ 32) :
    ∃ answer : Buf 33, memcpy (buffer.set 0 status) 1 data 0 len = .ok answer ∧
      answer.read 0 (1 + len) = status :: data.read 0 len := by
  refine ⟨_, memcpy_ok _ _ _ _ (by omega) (by omega), ?_⟩
  rw [Buf.read_zero_blit _ (data.length_read (by omega)), buffer.read_set_zero (by decide)]
  rfl

theorem plainAnswer_spec (acked : Bool) {d : Device} (h : d.usb.ack.length.toNat ≤ 32) : ∃ buffer : Buf 33,
    plainAnswer acked d =
      .ok { d with plainAnswer := buffer, inWrites := d.inWrites ++ (plainBytes acked d).toList } := by
  unfold plainAnswer plainBytes
  cases d.state.ackEnabled with
  | false => exact ⟨d.plainAnswer, by simp [pure, Except.pure]⟩
  | true =>
    cases acked with
    | false => exact ⟨d.plainAnswer, rfl⟩
    | true =>
      have hle : d.usb.ack.length ≤ 32 := UInt8.le_iff_toNat_le.mpr h
      obtain ⟨buffer, hm, hr⟩ := status_memcpy d.plainAnswer
        ((((d.usb.retry &&& 0x0f) <<< 4) ||| (if d.usb.rssi < 64 then 2 else 0)) ||| 1) d.usb.ack.data h
      refine ⟨buffer, ?_⟩
      simp only [Bool.not_true, Bool.false_eq_true, if_false, Bool.true_and, hle, decide_true, if_true]
      rw [hm]
      simp only [bind, Except.bind, pure, Except.pure]
      rw [Nat.add_comm, hr]
      rfl

/-- The bytes an exchange is answered with, if it is. -/
def answerBytes (acked : Bool) (d : Device) : Option (List UInt8) :=
  if d.state.inlineMode then some (inlineBytes acked (capAck d)) else plainBytes acked (capAck d)

/-- `d` once these bytes are written, with whatever the two answer buffers hold. -/
def Device.answered (d : Device) (bytes : Option (List UInt8)) (usbAnswer : Buf 128) (plainAnswer : Buf 33) :
    Device :=
  { d with state := { d.state with usbAnswer }, plainAnswer, inWrites := d.inWrites ++ bytes.toList }

theorem answer_spec (acked : Bool) (d : Device) : ∃ (b : Buf 128) (p : Buf 33),
    answer acked d = .ok ((capAck d).answered (answerBytes acked d) b p) := by
  unfold answer answerBytes
  simp only [capAck_state]
  cases hi : d.state.inlineMode with
  | true =>
    obtain ⟨b, hb⟩ := inlineAnswer_spec acked (capAck_length_le d)
    exact ⟨b, (capAck d).plainAnswer, hb⟩
  | false =>
    obtain ⟨p, hp⟩ := plainAnswer_spec acked (capAck_length_le d)
    exact ⟨(capAck d).state.usbAnswer, p, hp⟩

/-- The bytes written when the settings are not handled. -/
def invalidBytes (s : State) : List UInt8 :=
  if s.inlineMode then s.inlineHeader (UInt8.ofNat s.headerSize) (inlineFlags false false true 0) 0 else [0]

theorem invalidAnswer_eq (d : Device) : invalidAnswer d = usbWrite (invalidBytes d.state) d := by
  unfold invalidAnswer invalidBytes
  simp only
  split <;> rfl

/-- The device behind the send guard. -/
def guardedSend (env : Env) (d : Device) : Device :=
  if d.state.handled then capAck (usbSend env d).2 else d

theorem guardedSend_pos {env : Env} {d : Device} (h : d.state.handled = true) :
    guardedSend env d = capAck (usbSend env d).2 := if_pos h

theorem guardedSend_neg {env : Env} {d : Device} (h : d.state.handled = false) : guardedSend env d = d :=
  if_neg (Bool.eq_false_iff.mp h)

/-- The bytes written behind the send guard. -/
def guardedBytes (env : Env) (d : Device) : Option (List UInt8) :=
  if d.state.handled then answerBytes (usbSend env d).1 (usbSend env d).2 else some (invalidBytes d.state)

/-- Behind the guard every command gets its answer: no copy fails. -/
theorem sendAndAnswer_spec (env : Env) (d : Device) : ∃ (b : Buf 128) (p : Buf 33),
    sendAndAnswer env d = .ok ((guardedSend env d).answered (guardedBytes env d) b p) := by
  unfold sendAndAnswer guardedSend guardedBytes
  cases d.state.handled with
  | true => exact answer_spec (usbSend env d).1 (usbSend env d).2
  | false => exact ⟨d.state.usbAnswer, d.plainAnswer, congrArg Except.ok (invalidAnswer_eq d)⟩

/-! ## One data command -/

/-- The command is a two-packet broadcast. -/
def Device.broadcasts (d : Device) (c : DataCommand) : Bool := !d.state.ackEnabled && decide (32 < c.length)

section Build

variable (env : Env) (c : DataCommand) (d : Device)

theorem buildPacket_inline (h : d.state.inlineMode = true) : buildPacket env c d =
    loadPacket c.payload 8 (inlinePayloadLength (inlineModeOutHeader c.payload))
      (inlineSettings (inlineModeOutHeader c.payload) d) := if_pos h

theorem half_le (c : DataCommand) : c.length / 2 + c.length / 2 ≤ 128 := by have := c.length_le; omega

theorem buildPacket_normal (h : d.state.inlineMode = false) : buildPacket env c d =
    if d.broadcasts c then do
      let d ← loadPacket c.payload 0 (c.length / 2 : Nat) d
      loadPacket c.payload (c.length / 2) (c.length / 2 : Nat) (usbSend env d).2
    else loadPacket c.payload 0 (min c.length 32 : Nat) d := if_neg (Bool.eq_false_iff.mp h)

/-- A two-packet broadcast that is not too long: the first half is sent, the second one loaded. -/
theorem buildPacket_broadcast (hi : d.state.inlineMode = false) (hb : d.broadcasts c = true)
    (hl : c.length / 2 ≤ 63) : buildPacket env c d =
      .ok ((usbSend env (d.load c.payload 0 (c.length / 2) hl)).2.load c.payload (c.length / 2) (c.length / 2) hl) := by
  have hh := half_le c
  rw [buildPacket_normal env c d hi, if_pos hb, loadPacket_ok c.payload hl (by omega)]
  exact loadPacket_ok c.payload hl hh _

/-- Any other command outside inline mode is cut to 32 bytes. -/
theorem buildPacket_plain (hi : d.state.inlineMode = false) (hb : d.broadcasts c = false) :
    buildPacket env c d = .ok (d.load c.payload 0 (min c.length 32) (by omega)) := by
  rw [buildPacket_normal env c d hi, if_neg (Bool.eq_false_iff.mp hb)]
  exact loadPacket_ok c.payload (by omega) (by omega) d

end Build

/-- The copies of a data command outside sniffer mode go through. -/
def Device.copies (d : Device) (c : DataCommand) : Bool :=
  if d.state.inlineMode then decide (8 ≤ (c.payload.get 0).toNat)
  else !(d.broadcasts c && decide (c.length = 128))

/-- The halves of a broadcast whose copies go through fit into a packet. -/
theorem half_le_of_copies {c : DataCommand} {d : Device} (hi : d.state.inlineMode = false) (hb : d.broadcasts c = true)
    (hc : d.copies c = true) : c.length / 2 ≤ 63 := by
  have := c.length_le
  unfold Device.copies at hc
  rw [hi, if_neg Bool.false_ne_true, hb] at hc
  simp at hc
  omega

theorem inlinePayloadLength_isOk_iff (h : InlineModeOutHeader) :
    (0 ≤ inlinePayloadLength h ∧ inlinePayloadLength h ≤ 63 ∧ (8 : Nat) + inlinePayloadLength h ≤ 128) ↔
      8 ≤ h.length.toNat := by
  unfold inlinePayloadLength
  simp only
  split <;> omega

theorem buildPacket_isOk_iff (env : Env) (c : DataCommand) (d : Device) :
    (∃ d', buildPacket env c d = .ok d') ↔ d.copies c = true := by
  unfold Device.copies
  cases hi : d.state.inlineMode with
  | true =>
    rw [buildPacket_inline env c d hi, loadPacket_isOk_iff, inlinePayloadLength_isOk_iff, if_pos rfl,
      decide_eq_true_iff]
    rfl
  | false =>
    rw [if_neg Bool.false_ne_true]
    cases hb : d.broadcasts c with
    | false =>
      constructor
      · intro _; rfl
      · intro _; exact ⟨_, buildPacket_plain env c d hi hb⟩
    | true =>
      have hh := half_le c
      by_cases h128 : c.length = 128
      · -- the first half is one byte longer than a packet
        rw [decide_eq_true h128]
        constructor
        · rintro ⟨d', h⟩
          rw [buildPacket_normal env c d hi, if_pos hb] at h
          cases hl : loadPacket c.payload 0 (c.length / 2 : Nat) d with
          | error f => rw [hl] at h; exact nomatch h
          | ok d₁ =>
            have := (loadPacket_isOk_iff c.payload 0 (c.length / 2 : Nat) d).mp ⟨d₁, hl⟩
            omega
        · intro h; cases h
      · rw [decide_eq_false h128]
        have hl : c.length / 2 ≤ 63 := by have := c.length_le; omega
        constructor
        · intro _; rfl
        · intro _; exact ⟨_, buildPacket_broadcast env c d hi hb hl⟩

/-- A header that announces at least its own length: at most 40 bytes of payload are taken. -/
theorem inlinePayloadLength_eq {h : InlineModeOutHeader} (hl : 8 ≤ h.length.toNat) :
    inlinePayloadLength h = (min (h.length.toNat - 8) 40 : Nat) := by
  unfold inlinePayloadLength
  simp only
  split <;> omega

/-- The payload behind such a header is loaded under the header's settings. -/
theorem buildPacket_header (env : Env) {c : DataCommand} {d : Device} (hi : d.state.inlineMode = true)
    (hl : 8 ≤ (inlineModeOutHeader c.payload).length.toNat) :
    buildPacket env c d = .ok ((inlineSettings (inlineModeOutHeader c.payload) d).load c.payload 8
      (min ((inlineModeOutHeader c.payload).length.toNat - 8) 40) (by omega)) := by
  rw [buildPacket_inline env c d hi, inlinePayloadLength_eq hl]
  exact loadPacket_ok c.payload (by omega) (by omega) _

/-- What building a packet does, in each of its branches. -/
theorem buildPacket_cases {env : Env} {c : DataCommand} {d d' : Device} (h : buildPacket env c d = .ok d') :
    (d.state.inlineMode = true ∧ 8 ≤ (inlineModeOutHeader c.payload).length.toNat ∧
      d' = (inlineSettings (inlineModeOutHeader c.payload) d).load c.payload 8
        (min ((inlineModeOutHeader c.payload).length.toNat - 8) 40) (by omega)) ∨
    (d.state.inlineMode = false ∧ d.broadcasts c = true ∧ ∃ hl : c.length / 2 ≤ 63,
      d' = (usbSend env (d.load c.payload 0 (c.length / 2) hl)).2.load c.payload (c.length / 2) (c.length / 2) hl) ∨
    (d.state.inlineMode = false ∧ d.broadcasts c = false ∧
      d' = d.load c.payload 0 (min c.length 32) (by omega)) := by
  have hcopies := (buildPacket_isOk_iff env c d).mp ⟨d', h⟩
  cases hi : d.state.inlineMode with
  | true =>
    unfold Device.copies at hcopies
    rw [hi, if_pos rfl, decide_eq_true_iff] at hcopies
    rw [buildPacket_header env hi hcopies] at h
    exact .inl ⟨rfl, hcopies, (Except.ok.inj h).symm⟩
  | false =>
    refine .inr ?_
    cases hb : d.broadcasts c with
    | true =>
      have hl := half_le_of_copies hi hb hcopies
      rw [buildPacket_broadcast env c d hi hb hl] at h
      exact .inl ⟨rfl, rfl, hl, (Except.ok.inj h).symm⟩
    | false =>
      rw [buildPacket_plain env c d hi hb] at h
      exact .inr ⟨rfl, rfl, (Except.ok.inj h).symm⟩

theorem handleCommand_noSniffer (env : Env) (c : DataCommand) {d : Device} (h : d.state.snifferMode = false) :
    handleCommand env (.data c) d = buildPacket env c d >>= sendAndAnswer env :=
  if_neg (Bool.eq_false_iff.mp h)

/-- A data command outside sniffer mode whose copies go through: the packet is built, then sent and
answered behind the guard. -/
theorem handleCommand_data (env : Env) {c : DataCommand} {d d₁ : Device} (hs : d.state.snifferMode = false)
    (hb : buildPacket env c d = .ok d₁) : ∃ (b : Buf 128) (p : Buf 33),
    handleCommand env (.data c) d = .ok ((guardedSend env d₁).answered (guardedBytes env d₁) b p) := by
  obtain ⟨b, p, h⟩ := sendAndAnswer_spec env d₁
  refine ⟨b, p, ?_⟩
  rw [handleCommand_noSniffer env c hs, hb]
  exact h

/-- A data command outside sniffer mode is handled exactly when its copies go through. -/
theorem handleCommand_data_isOk_iff (env : Env) (c : DataCommand) {d : Device} (hs : d.state.snifferMode = false) :
    (∃ d', handleCommand env (.data c) d = .ok d') ↔ d.copies c = true := by
  rw [← buildPacket_isOk_iff env c d]
  constructor
  · rintro ⟨d', h⟩
    rw [handleCommand_noSniffer env c hs] at h
    cases hb : buildPacket env c d with
    | error f => rw [hb] at h; exact nomatch h
    | ok d₁ => exact ⟨d₁, rfl⟩
  · rintro ⟨d₁, hb⟩
    obtain ⟨b, p, h⟩ := handleCommand_data env hs hb
    exact ⟨_, h⟩

theorem handleCommand_data_cases {env : Env} {c : DataCommand} {d d' : Device} (hs : d.state.snifferMode = false)
    (h : handleCommand env (.data c) d = .ok d') : ∃ (d₁ : Device) (b : Buf 128) (p : Buf 33),
    buildPacket env c d = .ok d₁ ∧ d' = (guardedSend env d₁).answered (guardedBytes env d₁) b p := by
  obtain ⟨d₁, hb⟩ := (buildPacket_isOk_iff env c d).mpr ((handleCommand_data_isOk_iff env c hs).mp ⟨d', h⟩)
  obtain ⟨b, p, hd⟩ := handleCommand_data env hs hb
  exact ⟨d₁, b, p, hb, Except.ok.inj (h.symm.trans hd)⟩

/-! ## Sniffer mode -/

/-- The address in front of a sniffer-mode payload. -/
def DataCommand.snifferAddress (c : DataCommand) : Buf 5 :=
  (Buf.fill 5 0).blit 0 (c.payload.read 0 5) (blit_read_fits 0 c.payload 0 (Nat.le_refl 5))

/-- The packet of a sniffer-mode data command: what follows the address, at most 63 bytes of it. -/
def Device.snifferLoad (d : Device) (c : DataCommand) : Device :=
  d.load c.payload 5 (min (c.length - 5) 63) (Nat.min_le_right _ _)

/-- A data command in sniffer mode is sent whatever the settings are. -/
theorem snifferData_ok {c : DataCommand} (h : 6 ≤ c.length) (d : Device) :
    snifferData c d = .ok { d.snifferLoad c with
      esb := (esbSnifferSend (d.snifferLoad c).usb.packet c.snifferAddress d.esb).2.2
      usb := { (d.snifferLoad c).usb with
        packet := (esbSnifferSend (d.snifferLoad c).usb.packet c.snifferAddress d.esb).2.1 } } := by
  have hle := c.length_le
  have hn : (if 63 < UInt8.ofNat (c.length - 5) then 63 else UInt8.ofNat (c.length - 5)).toNat =
      min (c.length - 5) 63 := by
    have hl : (UInt8.ofNat (c.length - 5)).toNat = c.length - 5 := by rw [UInt8.toNat_ofNat']; omega
    -- at most 123 bytes follow the address, so the byte does not overflow
    split
    · rename_i hc; rw [UInt8.lt_iff_toNat_lt, hl] at hc; simp at hc; simp; omega
    · rename_i hc; rw [UInt8.lt_iff_toNat_lt, hl] at hc; simp at hc; rw [hl]; omega
  unfold snifferData
  rw [if_neg (by omega)]
  have ha : memcpy (Buf.fill 5 0) 0 c.payload 0 5 = .ok c.snifferAddress :=
    memcpy_ok _ _ _ _ (by omega : 0 + 5 ≤ 5) (by omega)
  simp only [ha, hn, bind, Except.bind]
  rw [loadPacket_ok c.payload (n := min (c.length - 5) 63) (by omega) (by omega)]
  rfl

/-- What such a command does: one that is too short nothing. -/
theorem snifferData_cases {c : DataCommand} {d d' : Device} (h : snifferData c d = .ok d') :
    c.length < 6 ∧ d' = d ∨ 6 ≤ c.length ∧ d' = { d.snifferLoad c with
      esb := (esbSnifferSend (d.snifferLoad c).usb.packet c.snifferAddress d.esb).2.2
      usb := { (d.snifferLoad c).usb with
        packet := (esbSnifferSend (d.snifferLoad c).usb.packet c.snifferAddress d.esb).2.1 } } := by
  by_cases hl : c.length < 6
  · have hd : snifferData c d = .ok d := if_pos hl
    exact .inl ⟨hl, Except.ok.inj (h.symm.trans hd)⟩
  · have hl : 6 ≤ c.length := by omega
    exact .inr ⟨hl, Except.ok.inj (h.symm.trans (snifferData_ok hl d))⟩

theorem snifferData_isOk (c : DataCommand) (d : Device) : ∃ d', snifferData c d = .ok d' := by
  by_cases h : c.length < 6
  · exact ⟨d, if_pos h⟩
  · exact ⟨_, snifferData_ok (by omega) d⟩

/-- The poll writes to the host and touches nothing else but the queue and `usb_answer`. -/
theorem pollSniffer_spec (d : Device) : ∃ (queue : List EsbSnifferPacket) (b : Buf 128) (writes : List (List UInt8)),
    pollSniffer d = .ok { d with
      snifferQueue := queue, state := { d.state with usbAnswer := b }, inWrites := d.inWrites ++ writes } := by
  unfold pollSniffer
  split
  · rename_i hq
    exact ⟨[], d.state.usbAnswer, [], by rw [List.append_nil, ← hq]; rfl⟩
  · rename_i pkt rest hq
    have hp := pkt.length_le
    simp only
    generalize d.state.usbAnswer.blit 0 _ _ = answer
    obtain ⟨b, hb⟩ := (memcpy_isOk_iff answer 7 pkt.data 0 pkt.length.toNat).mpr
      ⟨by simp, by simp only; omega, by simp only; omega⟩
    rw [hb]
    simp only [bind, Except.bind, pure, Except.pure]
    split
    · -- an empty write follows a record of one full packet
      exact ⟨rest, b, [_, []], by simp only [usbWrite, List.append_assoc]; rfl⟩
    · exact ⟨rest, b, [_], rfl⟩

/-! ## Channel scan -/

/-- `d` tuned to the channel of one step of the scan. -/
def Device.scanTuned (d : Device) (channel : Nat) : Device :=
  { d with esb := esbSetChannel (UInt8.ofNat channel) d.esb }

/-- `d` with the channel in the scan result. -/
def Device.scanHit (d : Device) (channel : Nat) : Device :=
  { d with
    state := { d.state with
      scanResult := d.state.scanResult.set d.state.scanResultLength (UInt8.ofNat channel)
      scanResultLength := d.state.scanResultLength + 1 } }

/-- One step of the scan: the loop goes on unless the channel answered and the result is full. -/
theorem fwScanLoop_succ (env : Env) (n channel : Nat) (d : Device) : fwScanLoop env (n + 1) channel d =
    if (scanSend env (d.scanTuned channel)).1 then
      if esbMaxPayloadLength ≤ (scanSend env (d.scanTuned channel)).2.state.scanResultLength + 1 then
        (scanSend env (d.scanTuned channel)).2.scanHit channel
      else fwScanLoop env n (channel + 1) ((scanSend env (d.scanTuned channel)).2.scanHit channel)
    else fwScanLoop env n (channel + 1) (scanSend env (d.scanTuned channel)).2 := by
  rw [fwScanLoop]
  unfold Device.scanTuned Device.scanHit
  simp only
  obtain ⟨acked, d'⟩ := scanSend env _
  cases acked <;> rfl

end Crazyradio.Usb
