/-
A message there and back. The host encodes a message with its settings as an inline OUT transfer and
decodes the IN answer; in between are the OUT callback, `usb_thread` and the radio. What goes on the air is
the message, and what the host decodes is how the exchange went.
-/
import Crazyradio.Esb.Address
import Crazyradio.Usb.Answers
import Crazyradio.Usb.Guard
import Crazyradio.Usb.Stream

namespace Crazyradio.Usb

open Bytes

/-! ## Answers decoded -/

/-- An answer as the host reads it. -/
def Answer.decode (f : AnswerFormat) (w : List UInt8) : Option Answer :=
  match f, w with
  | .plain, status :: payload =>
    some { acked := decide (status &&& 1 ≠ 0), rssiLt64dbm := decide (status &&& 2 ≠ 0), invalidSettings := false
           retries := status >>> 4, rssiDbm := 0, payload }
  | .inline, length :: flags :: payload =>
    if payload.length + 2 = length.toNat then
      some { acked := decide (flags &&& 1 ≠ 0), rssiLt64dbm := decide (flags &&& 2 ≠ 0)
             invalidSettings := decide (flags &&& 4 ≠ 0), retries := flags >>> 4, rssiDbm := 0, payload }
    else none
  | .inlineRssi, length :: flags :: rssiDbm :: payload =>
    if payload.length + 3 = length.toNat then
      some { acked := decide (flags &&& 1 ≠ 0), rssiLt64dbm := decide (flags &&& 2 ≠ 0)
             invalidSettings := decide (flags &&& 4 ≠ 0), retries := flags >>> 4, rssiDbm, payload }
    else none
  | _, _ => none

/-- What of an answer its format carries: a plain one has the signal strength and the retries of an ack
only, and no settings bit. -/
def Answer.carried (a : Answer) : AnswerFormat → Answer
  | .plain =>
    { a with
      rssiLt64dbm := a.acked && a.rssiLt64dbm
      invalidSettings := false
      retries := if a.acked then a.retries else 0
      rssiDbm := 0 }
  | .inline => { a with rssiDbm := 0 }
  | .inlineRssi => a

theorem flags_decode {r : UInt8} (hr : r < 16) (acked weak invalid : Bool) :
    decide (inlineFlags acked weak invalid r &&& 1 ≠ 0) = acked ∧
      decide (inlineFlags acked weak invalid r &&& 2 ≠ 0) = weak ∧
      decide (inlineFlags acked weak invalid r &&& 4 ≠ 0) = invalid ∧ inlineFlags acked weak invalid r >>> 4 = r := by
  have h : ∀ (a b c : Bool) (n : Fin 16), decide (inlineFlags a b c (UInt8.ofNat n) &&& 1 ≠ 0) = a ∧
      decide (inlineFlags a b c (UInt8.ofNat n) &&& 2 ≠ 0) = b ∧
      decide (inlineFlags a b c (UInt8.ofNat n) &&& 4 ≠ 0) = c ∧
      inlineFlags a b c (UInt8.ofNat n) >>> 4 = UInt8.ofNat n := by decide +kernel
  simpa using h acked weak invalid ⟨r.toNat, UInt8.lt_iff_toNat_lt.mp hr⟩

theorem status_decode (a : Answer) (hr : a.retries < 16) : decide (a.status &&& 1 ≠ 0) = a.acked ∧
    decide (a.status &&& 2 ≠ 0) = (a.acked && a.rssiLt64dbm) ∧
    a.status >>> 4 = if a.acked then a.retries else 0 := by
  have h : ∀ (b : Bool) (n : Fin 16),
      let s : UInt8 := (((UInt8.ofNat n &&& 0x0f) <<< 4) ||| (if b then 2 else 0)) ||| 1
      decide (s &&& 1 ≠ 0) = true ∧ decide (s &&& 2 ≠ 0) = b ∧ s >>> 4 = UInt8.ofNat n := by decide +kernel
  unfold Answer.status
  cases a.acked with
  | false => simp
  | true => simpa using h a.rssiLt64dbm ⟨a.retries.toNat, UInt8.lt_iff_toNat_lt.mp hr⟩

/-- The host reads back what was encoded. -/
theorem decode_encode {a : Answer} (hr : a.retries < 16) (hl : a.payload.length ≤ 32) (f : AnswerFormat) :
    Answer.decode f (a.encode f) = some (a.carried f) := by
  obtain ⟨h1, h2, h3, h4⟩ := flags_decode hr a.acked a.rssiLt64dbm a.invalidSettings
  cases f with
  | plain =>
    obtain ⟨hs1, hs2, hs3⟩ := status_decode a hr
    simp only [Answer.decode, Answer.encode, Answer.carried, hs1, hs2, hs3]
  | inline =>
    have hlen : a.payload.length + 2 = (UInt8.ofNat (2 + a.payload.length)).toNat := by
      rw [UInt8.toNat_ofNat']
      omega
    simp only [Answer.decode, Answer.encode, Answer.carried, if_pos hlen, h1, h2, h3, h4]
  | inlineRssi =>
    have hlen : a.payload.length + 3 = (UInt8.ofNat (3 + a.payload.length)).toNat := by
      rw [UInt8.toNat_ofNat']
      omega
    simp only [Answer.decode, Answer.encode, Answer.carried, if_pos hlen, h1, h2, h3, h4]

theorem nibble_lt (b : UInt8) : b &&& 0x0f < 16 := by
  have h : ∀ n : Fin 256, UInt8.ofNat n &&& 0x0f < 16 := by decide +kernel
  simpa using h ⟨b.toNat, b.toNat_lt⟩

/-- The host reads in this format whether the packet was acked. -/
def Reports (f : AnswerFormat) (acked : Bool) (w : List UInt8) : Prop :=
  ∃ a : Answer, a.acked = acked ∧ a.retries < 16 ∧ a.payload.length ≤ 32 ∧ w = a.encode f

theorem decode_reports {f : AnswerFormat} {acked : Bool} {w : List UInt8} (h : Reports f acked w) :
    (Answer.decode f w).map Answer.acked = some acked := by
  obtain ⟨a, rfl, hr, hl, rfl⟩ := h
  rw [decode_encode hr hl]
  cases f <;> rfl

theorem reports_invalid (s : State) : Reports s.format false (invalidBytes s) := by
  have h0 : (0 : UInt8) < 16 := by decide
  refine ⟨⟨false, false, s.inlineMode, 0, 0, []⟩, rfl, h0, Nat.zero_le 32, ?_⟩
  unfold invalidBytes
  cases hi : s.inlineMode with
  | true =>
    rw [← inlineHeader_append hi, if_pos rfl, List.append_nil]
    rfl
  | false =>
    rw [State.format_plain hi]
    rfl

theorem reports_answer (acked : Bool) {d : Device} (hack : d.state.ackEnabled = true) :
    ∃ w, answerBytes acked d = some w ∧ Reports d.state.format acked w := by
  have hl := capAck_length_le d
  unfold answerBytes
  cases hi : d.state.inlineMode with
  | true =>
    rw [if_pos rfl]
    have hcap : (capAck d).state.inlineMode = true := by rw [capAck_state]; exact hi
    refine ⟨_, rfl, inlineReport acked (capAck d), rfl, ?_, ?_, ?_⟩
    · unfold inlineReport
      simp only
      split
      · exact nibble_lt _
      · decide
    · exact Nat.le_trans (Nat.le_of_eq (length_inlineTail acked hl)) hl
    · rw [inlineBytes_eq acked hcap hl, capAck_state]
  | false =>
    rw [if_neg Bool.false_ne_true, State.format_plain hi]
    unfold plainBytes
    rw [capAck_state, hack]
    cases acked with
    | false => exact ⟨[0], rfl, ⟨false, false, false, 0, 0, []⟩, rfl, by decide, Nat.zero_le 32, rfl⟩
    | true =>
      refine ⟨_, rfl, ⟨true, decide ((capAck d).usb.rssi < 64), false, (capAck d).usb.retry &&& 0x0f, 0,
        (capAck d).usb.ack.data.read 0 (capAck d).usb.ack.length.toNat⟩, rfl, nibble_lt _,
        Nat.le_trans ((capAck d).usb.ack.data.length_read_le _ _) hl, ?_⟩
      simp [Answer.encode, Answer.status, UInt8.and_assoc]

/-! ## Messages encoded -/

/-- A message with the settings it is sent with. -/
structure InlineMessage where
  datarate : Fin 4
  ackEnabled : Bool
  channel : UInt8
  address : Buf 5
  payload : List UInt8
  length_le : payload.length ≤ 32

/-- The byte of the bit fields. -/
def InlineMessage.fields (m : InlineMessage) : UInt8 := UInt8.ofNat (m.datarate + if m.ackEnabled then 16 else 0)

/-- The OUT transfer of a message. -/
def InlineMessage.encode (m : InlineMessage) : List UInt8 :=
  UInt8.ofNat (8 + m.payload.length) :: m.fields :: m.channel :: (m.address.bytes ++ m.payload)

/-- The header of a message. -/
def InlineMessage.header (m : InlineMessage) : InlineModeOutHeader :=
  { length := UInt8.ofNat (8 + m.payload.length)
    datarate := m.datarate
    ackEnabled := m.ackEnabled
    channel := m.channel
    address := m.address }

theorem InlineMessage.fields_decode (m : InlineMessage) : m.fields.toNat % 4 = m.datarate.val ∧
    decide (m.fields.toNat / 16 % 2 = 1) = m.ackEnabled := by
  have h : ∀ (r : Fin 4) (b : Bool), (UInt8.ofNat (r + if b then 16 else 0)).toNat % 4 = r.val ∧
      decide ((UInt8.ofNat (r + if b then 16 else 0)).toNat / 16 % 2 = 1) = b := by decide
  exact h m.datarate m.ackEnabled

theorem InlineMessage.length_encode (m : InlineMessage) : m.encode.length = 8 + m.payload.length := by
  simp only [encode, List.length_cons, List.length_append, m.address.size]
  omega

/-- The command that holds the transfer has the message's header and payload. -/
theorem holds_message {m : InlineMessage} {old : Buf 128} {c : DataCommand} (h : Holds old 0 m.encode c) :
    inlineModeOutHeader c.payload = m.header ∧ c.payload.read 8 m.payload.length = m.payload := by
  have hl := m.length_encode
  have hle := m.length_le
  have htake : m.encode.take 128 = m.encode := List.take_of_length_le (by omega)
  have hread : ∀ off len, off + len ≤ m.encode.length → c.payload.read off len = (m.encode.drop off).take len := by
    intro off len hlen
    rw [h.read off len (by rw [htake]; exact hlen), htake]
  have h8 : c.payload.read 0 8 = m.encode.take 8 := hread 0 8 (by omega)
  have hget : ∀ i, i < 8 → c.payload.get i = (m.encode.take 8).getD i 0 := fun i hi => by
    rw [c.payload.get_eq_read hi, h8]
  have haddr : c.payload.read 3 5 = m.address.bytes := by
    rw [hread 3 5 (by omega)]
    show (m.address.bytes ++ m.payload).take 5 = _
    rw [List.take_left' m.address.size]
  obtain ⟨hd, ha⟩ := m.fields_decode
  constructor
  · unfold inlineModeOutHeader InlineMessage.header
    have h1 : c.payload.get 1 = m.fields := hget 1 (by decide)
    simp only [InlineModeOutHeader.mk.injEq]
    refine ⟨hget 0 (by decide), Fin.ext ?_, ?_, hget 2 (by decide), Buf.blit_all _ _ _ haddr _⟩
    · exact (congrArg (fun b : UInt8 => b.toNat % 4) h1).trans hd
    · rw [h1]
      exact ha
  · rw [hread 8 _ (by omega)]
    show ((m.address.bytes ++ m.payload).drop 5).take m.payload.length = _
    rw [List.drop_left' m.address.size, List.take_length]

/-! ## There and back -/

/-- What the host is to learn from an exchange with the driver set to `e`. -/
def Exchange.report (x : Exchange) (e : Esb) : Answer :=
  let acked := (x.last e).acked e.ackEnabled && !lossHits e.ackLossPercent x.ackDraw
  { acked
    rssiLt64dbm := e.ackEnabled && decide (x.rssi < 64)
    invalidSettings := false
    retries := if e.ackEnabled then UInt8.ofNat (x.retries e) &&& 0x0f else 0
    rssiDbm := x.rssi
    payload := if acked then (x.last e).payload e.ackEnabled 32 else [] }

theorem exchangeAnswer_report {x : Exchange} {e : Esb} {s : State} (hx : e.sends x.packetDraw = true)
    (hl : (x.last e).isStuck = false) (hsampled : (e.ackEnabled || s.inlineRssiMode) = true → x.sampled e = true) :
    exchangeAnswer x e s = some ((Exchange.report x e).encode s.format) := by
  have hr : ((e.ackEnabled || s.inlineRssiMode) && !x.sampled e) = false := by
    cases h : e.ackEnabled || s.inlineRssiMode with
    | false => rfl
    | true => rw [hsampled h]; rfl
  unfold exchangeAnswer Exchange.report
  simp only [hx, hl, Bool.not_false, Bool.true_and, hr, Bool.false_eq_true, if_false]

theorem retries_report_lt (x : Exchange) (e : Esb) : (Exchange.report x e).retries < 16 := by
  unfold Exchange.report
  simp only
  split
  · exact nibble_lt _
  · decide

theorem length_report_le (x : Exchange) (e : Esb) : (Exchange.report x e).payload.length ≤ 32 := by
  unfold Exchange.report Attempt.payload
  simp only
  split
  · split
    · exact Nat.le_trans (Buf.length_read_le _ _ _) (Nat.min_le_right _ _)
    · exact Nat.zero_le 32
  · exact Nat.zero_le 32

/-- The packet of a message, as it is to go on the air. -/
structure InlineMessage.OnAir (m : InlineMessage) (t : Transmission) : Prop where
  frequency : t.radio.frequency = 2400 + m.channel.toNat
  pipe0 : t.radio.pipe0 = m.address
  payload : t.payload = m.payload
  length : t.length = UInt8.ofNat m.payload.length

/-- The message once `usb_thread` has it: what is sent, what is written. -/
theorem message_handled {env : Env} {d : Device} {c : DataCommand} {m : InlineMessage} (hv : DevInv d)
    (hi : d.state.inlineMode = true) (hs : d.state.snifferMode = false)
    (hh : inlineModeOutHeader c.payload = m.header) (hp : c.payload.read 8 m.payload.length = m.payload)
    (hrate : m.datarate.val ≠ 0) (hch : m.channel ≤ 100) (hsend : d.esb.sends (env d.sends).packetDraw = true) :
    let x := env d.sends
    let e := (inlineSettings m.header d).esb
    (x.last e).isStuck = false → ((e.ackEnabled || d.state.inlineRssiMode) = true → x.sampled e = true) →
    ((Exchange.report x e).acked = true ∨ (x.last e).receivedLength e.ackEnabled = 0) →
    ∃ d' t, handleCommand env (.data c) d = .ok d' ∧
      d'.inWrites = d.inWrites ++ [(Exchange.report x e).encode d.state.format] ∧
      transmissions d'.esb.log = transmissions d.esb.log ++ List.replicate (x.retries e + 1) t ∧ m.OnAir t := by
  intro x e hlast hsampled hfresh
  have hle := m.length_le
  have hlen : m.header.length.toNat = 8 + m.payload.length := by
    rw [InlineMessage.header, UInt8.toNat_ofNat']
    omega
  let d₁ := (inlineSettings m.header d).load c.payload 8 m.payload.length (by omega)
  have hb : buildPacket env c d = .ok d₁ := by
    have hk : min (m.header.length.toNat - 8) 40 = m.payload.length := by omega
    rw [buildPacket_inline env c d hi, hh, inlinePayloadLength_eq (by omega), hk]
    exact loadPacket_ok c.payload (by omega) (by omega) _
  obtain ⟨b, p, hd⟩ := handleCommand_data env hs hb
  have hhandled : d₁.state.handled = true := (inlineSettings_handled_iff m.header d).mpr ⟨hrate, hch⟩
  have hd₁ : e.sends x.packetDraw = true := (passes_inlineSettings env m.header d 0).mpr hsend
  have hm : e.radio.maxlen = 32 := by
    rw [(devInv_inlineSettings hv m.header).maxlen]
    exact if_neg (Bool.eq_false_iff.mp hs)
  -- the call, and the answer it makes
  let D := (usbSend env d₁).2
  have hDi : D.state.inlineMode = true := hi
  have hanswer := (exchangeAnswer_sent_iff (d := D) hDi hhandled rfl hm hd₁ (esbSendPacket_produced hd₁ d₁.usb)).mpr (by
    unfold OwnAnswer
    rw [hlast, if_neg Bool.false_ne_true]
    exact ⟨hsampled, hfresh⟩)
  have hreport : exchangeAnswer x e D.state = some ((Exchange.report x e).encode d.state.format) :=
    exchangeAnswer_report (s := D.state) hd₁ hlast hsampled
  rw [hreport] at hanswer
  have hbytes := inlineBytes_eq (usbSend env d₁).1 (d := capAck D) (by rw [capAck_state]; exact hDi)
    (capAck_length_le D)
  rw [capAck_state] at hbytes
  refine ⟨_, onAir e.radio { d₁.usb.packet with s1 := ackS1 e.pid }, hd, ?_, ?_, ?_⟩
  · show (guardedSend env d₁).inWrites ++ (guardedBytes env d₁).toList = _
    have hguarded : guardedBytes env d₁ = some (inlineBytes (usbSend env d₁).1 (capAck D)) := by
      unfold guardedBytes answerBytes
      rw [if_pos hhandled, if_pos hDi]
    have hwritten : inlineBytes (usbSend env d₁).1 (capAck D) = (Exchange.report x e).encode d.state.format :=
      hbytes.trans (Option.some.inj hanswer).symm
    rw [inWrites_guardedSend, hguarded, hwritten]
    rfl
  · show transmissions (guardedSend env d₁).esb.log = _
    have hsilent : transmissions e.log = transmissions d.esb.log :=
      (emits_inlineSettings m.header d).silent_iff.mpr id
    have hcall : (usbSend env d₁).2.esb = { e with pid := e.pid + 1, log := e.log ++ x.onAir d₁.usb e } :=
      esbSendPacket_esb hd₁ d₁.usb
    rw [guardedSend_pos hhandled, capAck_esb, hcall]
    exact (transmissions_append _ _).trans (congrArg₂ _ hsilent (transmissions_onAir x d₁.usb e))
  · have hradio : e.radio = tuned m.header (bitrateMode (UInt8.ofNat m.datarate) d.esb.radio.mode) d.esb.radio :=
      congrArg Settings.radio (inlineSettings_settings m.header d)
    have hn : m.payload.length ≤ 63 := by omega
    have hoff : 8 + m.payload.length ≤ 128 := by omega
    have honair := onAir_load (inlineSettings m.header d) c.payload hn hoff e.radio (ackS1 e.pid)
    rw [honair]
    refine ⟨?_, ?_, ?_, rfl⟩
    · show e.radio.frequency = _
      rw [hradio]
      exact if_pos hch
    · exact pipe0_setAddress m.address _
    · show c.payload.read 8 (min m.payload.length e.radio.maxlen) = _
      rw [hm, Nat.min_eq_left hle, hp]

theorem twoBytes_datarate_lt : 2 < 4 := by decide

theorem twoBytes_length_le : [(1 : UInt8), 2].length ≤ 32 := by decide

/-- Two bytes at 2M on channel 42, with auto-ack. -/
def twoBytes : InlineMessage :=
  { datarate := ⟨2, twoBytes_datarate_lt⟩
    ackEnabled := true
    channel := 42
    address := Buf.fill 5 0xe7
    payload := [1, 2]
    length_le := twoBytes_length_le }

end Crazyradio.Usb
