/-
The answers on the IN endpoint. `Answer.encode` is the format the host reads, and one inline answer
is compared with what its own exchange produced.
-/
import Crazyradio.Usb.Safety

namespace Crazyradio.Usb

open Bytes

/-! ## The formats -/

/-- What an answer says. -/
structure Answer where
  acked : Bool
  rssiLt64dbm : Bool
  invalidSettings : Bool
  retries : UInt8
  rssiDbm : UInt8
  payload : List UInt8

/-- The status byte of a plain answer. -/
def Answer.status (a : Answer) : UInt8 :=
  if a.acked then (((a.retries &&& 0x0f) <<< 4) ||| (if a.rssiLt64dbm then 2 else 0)) ||| 1 else 0

/-- An answer in the format given: a status byte, or a header that starts with the total length. -/
def Answer.encode (a : Answer) : AnswerFormat → List UInt8
  | .plain => a.status :: a.payload
  | .inline =>
    UInt8.ofNat (2 + a.payload.length) :: inlineFlags a.acked a.rssiLt64dbm a.invalidSettings a.retries :: a.payload
  | .inlineRssi =>
    UInt8.ofNat (3 + a.payload.length) :: inlineFlags a.acked a.rssiLt64dbm a.invalidSettings a.retries ::
      a.rssiDbm :: a.payload

theorem inlineHeader_append {s : State} (hi : s.inlineMode = true) (a : Answer) :
    s.inlineHeader (UInt8.ofNat (s.headerSize + a.payload.length))
      (inlineFlags a.acked a.rssiLt64dbm a.invalidSettings a.retries) a.rssiDbm ++ a.payload = a.encode s.format := by
  unfold State.inlineHeader State.headerSize State.format
  rw [hi, if_pos rfl]
  cases s.inlineRssiMode <;> rfl

/-! ## What one command writes -/

/-- What follows the header of an inline answer: the ack payload if the packet was acked, and what
`usb_answer` held before if not. -/
def inlineTail (acked : Bool) (d : Device) : List UInt8 :=
  if acked then d.usb.ack.data.read 0 d.usb.ack.length.toNat
  else d.state.usbAnswer.read d.state.headerSize d.usb.ack.length.toNat

/-- What an inline answer says. -/
def inlineReport (acked : Bool) (d : Device) : Answer :=
  { acked
    rssiLt64dbm := d.state.ackEnabled && decide (d.usb.rssi < 64)
    invalidSettings := !d.state.handled
    retries := if d.state.ackEnabled then d.usb.retry &&& 0x0f else 0
    rssiDbm := d.usb.rssi
    payload := inlineTail acked d }

theorem length_inlineTail (acked : Bool) {d : Device} (hl : d.usb.ack.length.toNat ≤ 32) :
    (inlineTail acked d).length = d.usb.ack.length.toNat := by
  have hs := d.state.headerSize_le
  unfold inlineTail
  split
  · exact d.usb.ack.data.length_read (by omega)
  · exact d.state.usbAnswer.length_read (by omega)

theorem inlineBytes_eq (acked : Bool) {d : Device} (hi : d.state.inlineMode = true)
    (hl : d.usb.ack.length.toNat ≤ 32) : inlineBytes acked d = (inlineReport acked d).encode d.state.format := by
  have hs := d.state.headerSize_le
  have hb : d.usb.ack.length + UInt8.ofNat d.state.headerSize =
      UInt8.ofNat (d.state.headerSize + (inlineTail acked d).length) := by
    rw [← UInt8.toNat_inj, toNat_add_headerSize hl, UInt8.toNat_ofNat', length_inlineTail acked hl]
    omega
  rw [← inlineHeader_append hi, inlineReport, ← hb]
  rfl

/-- Building the packet writes nothing. -/
theorem inWrites_buildPacket {env : Env} {c : DataCommand} {d d' : Device} (h : buildPacket env c d = .ok d') :
    d'.inWrites = d.inWrites := by
  rcases buildPacket_cases h with ⟨-, -, rfl⟩ | ⟨-, -, hl, rfl⟩ | ⟨-, -, rfl⟩ <;> rfl

theorem inWrites_guardedSend (env : Env) (d : Device) : (guardedSend env d).inWrites = d.inWrites := by
  unfold guardedSend
  split
  · rw [capAck_inWrites]; rfl
  · rfl

/-- Setup commands write nothing. -/
theorem inWrites_apply (r : Request) (d : Device) : (r.apply d).inWrites = d.inWrites := by
  cases r with
  | sniffer on => cases on <;> rfl
  | snifferAddress pipe1 a => cases pipe1 <;> rfl
  | _ => rfl

/-! ## One inline answer and its exchange -/

/-- The answer that describes the exchange `x` with the driver settings `e`: the ack payload of this
exchange if it was acked and none otherwise. There is none where a field to be reported has no
value from this exchange: no retries of a call that did not end, and no signal strength of one that
received nothing. -/
def exchangeAnswer (x : Exchange) (e : Esb) (s : State) : Option (List UInt8) :=
  let last := x.last e
  let acked := e.sends x.packetDraw && (last.acked e.ackEnabled && !lossHits e.ackLossPercent x.ackDraw)
  let produced := e.sends x.packetDraw && (!last.isStuck && x.sampled e)
  if (e.ackEnabled || s.inlineRssiMode) && !produced then none
  else
    some (Answer.encode {
      acked
      rssiLt64dbm := e.ackEnabled && decide (x.rssi < 64)
      invalidSettings := false
      retries := if e.ackEnabled then UInt8.ofNat (x.retries e) &&& 0x0f else 0
      rssiDbm := x.rssi
      payload := if acked then last.payload e.ackEnabled 32 else [] } s.format)

/-- An inline data command is answered with what its own exchange produced. -/
def DescribesOwnExchange (env : Env) (c : DataCommand) (d : Device) : Prop :=
  ∃ d' w, handleCommand env (.data c) d = .ok d' ∧ d'.inWrites = d.inWrites ++ [w] ∧
    exchangeAnswer (env d.sends) (d.settled c).esb d.state = some w

/-- What an inline answer to a call that got past its early exits shows is not left over: the last attempt
was acked or received no byte, and some attempt received something if the answer has a signal strength; or
no attempt ended, auto-ack is off and the short header is in use. -/
def OwnAnswer (x : Exchange) (e : Esb) (inlineRssi : Bool) : Prop :=
  if (x.last e).isStuck = true then e.ackEnabled = false ∧ inlineRssi = false
  else
    ((e.ackEnabled || inlineRssi) = true → x.sampled e = true) ∧
      (((x.last e).acked e.ackEnabled && !lossHits e.ackLossPercent x.ackDraw) = true ∨
        (x.last e).receivedLength e.ackEnabled = 0)

/-- The header is complete, and nothing the answer shows is left over; of a call that was refused or dropped
that is so if auto-ack is off, the short header is in use and the ack buffer is empty anyway. -/
def NothingStale (env : Env) (c : DataCommand) (d : Device) : Prop :=
  let x := env d.sends
  let e := (d.settled c).esb
  8 ≤ (inlineModeOutHeader c.payload).length.toNat ∧
    if e.sends x.packetDraw = true then OwnAnswer x e d.state.inlineRssiMode
    else e.ackEnabled = false ∧ d.state.inlineRssiMode = false ∧ d.usb.ack.length = 0

theorem length_encode_congr {a b : Answer} {f : AnswerFormat} (h : a.encode f = b.encode f) :
    a.payload.length = b.payload.length := by
  have h := congrArg List.length h
  cases f <;> simpa [Answer.encode] using h

/-- The inline answer to a call with the result `r`, whatever stood in `usb_answer`. -/
theorem inlineReport_capAck (acked : Bool) (d : Device) (hg : d.state.handled = true) :
    let n := min d.usb.ack.length.toNat 32
    inlineReport acked (capAck d) =
      { acked
        rssiLt64dbm := d.state.ackEnabled && decide (d.usb.rssi < 64)
        invalidSettings := false
        retries := if d.state.ackEnabled then d.usb.retry &&& 0x0f else 0
        rssiDbm := d.usb.rssi
        payload := if acked then d.usb.ack.data.read 0 n else d.state.usbAnswer.read d.state.headerSize n } := by
  obtain ⟨h1, h2, h3⟩ := capAck_usb d
  unfold inlineReport inlineTail
  rw [capAck_state, capAck_length, h1, h2, h3, hg]
  rfl

/-- An answer whose payload is left-over bytes describes the exchange only if there are none. -/
theorem leftOver_iff {given due : Answer} {f : AnswerFormat} {n : Nat} (hn : given.payload.length = n)
    (hp : due.payload = []) (hs : n = 0 → given.encode f = due.encode f) :
    some (due.encode f) = some (given.encode f) ↔ n = 0 := by
  constructor
  · intro h
    have := length_encode_congr (Option.some.inj h)
    rw [hp, hn] at this
    exact this.symm
  · intro h
    rw [hs h]

theorem inline_of_noRssi {s : State} (hi : s.inlineMode = true) (h : s.inlineRssiMode = false) :
    s.format = .inline := by unfold State.format; rw [hi, h]; rfl

/-- A call that got past its early exits, in the driver and in the answer. -/
theorem exchangeAnswer_sent_iff {x : Exchange} {d : Device} {acked : Bool} {e : Esb} (hi : d.state.inlineMode = true)
    (hg : d.state.handled = true) (ha : e.ackEnabled = d.state.ackEnabled) (hm : e.radio.maxlen = 32)
    (hx : e.sends x.packetDraw = true) (hp : Produced x e acked d.usb) :
    exchangeAnswer x e d.state = some ((inlineReport acked (capAck d)).encode d.state.format) ↔
      OwnAnswer x e d.state.inlineRssiMode := by
  obtain ⟨hacked, hlen, hdata, hrssi, hretry⟩ := hp
  have hs := d.state.headerSize_le
  have h63 : d.usb.ack.length.toNat = 0 ↔ d.usb.ack.length = 0 := by rw [← UInt8.toNat_inj]; rfl
  have hzero : min d.usb.ack.length.toNat 32 = 0 ↔ (x.last e).receivedLength e.ackEnabled = 0 := by
    rw [← hlen, ← h63]; omega
  have hn : (if acked then d.usb.ack.data.read 0 (min d.usb.ack.length.toNat 32)
      else d.state.usbAnswer.read d.state.headerSize (min d.usb.ack.length.toNat 32)).length =
      min d.usb.ack.length.toNat 32 := by
    split
    · exact d.usb.ack.data.length_read (by omega)
    · exact d.state.usbAnswer.length_read (by omega)
  rw [hm] at hdata
  rw [inlineReport_capAck acked d hg]
  unfold exchangeAnswer OwnAnswer
  simp only [hx, Bool.true_and, ← hacked, ← ha]
  cases hst : (x.last e).isStuck with
  | true =>
    -- nothing was produced: only an answer that reports nothing but the ack flag describes it
    have hf : acked = false := by
      rw [hacked]
      cases hl : x.last e with
      | stuck rx => rfl
      | done rx t c => rw [hl] at hst; exact nomatch hst
    rw [if_pos rfl]
    by_cases hq : e.ackEnabled = false ∧ d.state.inlineRssiMode = false
    · obtain ⟨hq1, hq2⟩ := hq
      have hrl : (x.last e).receivedLength e.ackEnabled = 0 := by rw [hq1]; rfl
      refine iff_of_true ?_ ⟨hq1, hq2⟩
      rw [inline_of_noRssi hi hq2, hzero.mpr hrl, hf, hq1, hq2]
      simp [Answer.encode]
    · have hr : (e.ackEnabled || d.state.inlineRssiMode) = true := eq_true_of_ne_false (mt Bool.or_eq_false_iff.mp hq)
      refine iff_of_false ?_ hq
      rw [hr]
      exact fun h => nomatch h
  | false =>
    rw [hrssi hst, hretry hst, Bool.not_false, Bool.true_and, if_neg Bool.false_ne_true]
    by_cases hq : (e.ackEnabled || d.state.inlineRssiMode) = true ∧ x.sampled e = false
    · -- a signal strength to be reported is that of an earlier exchange
      obtain ⟨hq1, hq2⟩ := hq
      refine iff_of_false ?_ fun h => Bool.false_ne_true (hq2.symm.trans (h.1 hq1))
      rw [hq1, hq2]
      exact fun h => nomatch h
    · have hsampled : (e.ackEnabled || d.state.inlineRssiMode) = true → x.sampled e = true :=
        fun h => eq_true_of_ne_false fun hf => hq ⟨h, hf⟩
      have hr : ((e.ackEnabled || d.state.inlineRssiMode) && !x.sampled e) = false := by
        rw [Bool.eq_false_iff, Ne, Bool.and_eq_true, Bool.not_eq_true']
        exact hq
      rw [hr, if_neg Bool.false_ne_true, and_iff_right hsampled]
      cases hk : acked with
      | true =>
        refine iff_of_true ?_ (Or.inl rfl)
        rw [if_pos rfl, if_pos rfl, hdata]
      | false =>
        rw [hk] at hn
        rw [or_iff_right Bool.false_ne_true, ← hzero]
        refine leftOver_iff hn rfl fun h0 => ?_
        rw [h0]
        simp [Answer.encode]

/-- A call that was refused or dropped left the buffers of the one before. -/
theorem exchangeAnswer_exit_iff {x : Exchange} {d : Device} {e : Esb} (hi : d.state.inlineMode = true)
    (hg : d.state.handled = true) (ha : e.ackEnabled = d.state.ackEnabled) (hx : e.sends x.packetDraw = false) :
    exchangeAnswer x e d.state = some ((inlineReport false (capAck d)).encode d.state.format) ↔
      e.ackEnabled = false ∧ d.state.inlineRssiMode = false ∧ d.usb.ack.length = 0 := by
  have hs := d.state.headerSize_le
  have hzero : min d.usb.ack.length.toNat 32 = 0 ↔ d.usb.ack.length = 0 := by
    rw [← UInt8.toNat_inj]
    show _ ↔ d.usb.ack.length.toNat = 0
    omega
  rw [inlineReport_capAck false d hg]
  unfold exchangeAnswer
  simp only [hx, Bool.false_and, Bool.not_false, Bool.and_true, ← ha]
  by_cases hq : e.ackEnabled = false ∧ d.state.inlineRssiMode = false
  · obtain ⟨hq1, hq2⟩ := hq
    rw [hq1, hq2, Bool.or_false, if_neg Bool.false_ne_true, ← hzero]
    simp only [true_and]
    refine leftOver_iff (d.state.usbAnswer.length_read (by omega)) rfl fun h0 => ?_
    rw [h0, inline_of_noRssi hi hq2]
    simp [Answer.encode]
  · -- a field to be reported has no value
    have hr : (e.ackEnabled || d.state.inlineRssiMode) = true := eq_true_of_ne_false (mt Bool.or_eq_false_iff.mp hq)
    refine iff_of_false ?_ fun h => hq ⟨h.1, h.2.1⟩
    rw [hr]
    exact fun h => nomatch h

/-- What an inline data command with supported settings writes. -/
theorem handleCommand_inline (env : Env) {c : DataCommand} {d : Device} (hs : d.state.snifferMode = false)
    (hi : d.state.inlineMode = true) (hg : (d.settled c).state.handled = true)
    (hl : 8 ≤ (inlineModeOutHeader c.payload).length.toNat) : ∃ (d₁ : Device) (b : Buf 128) (p : Buf 33),
    d₁.esb = (d.settled c).esb ∧ d₁.state = (d.settled c).state ∧ d₁.sends = d.sends ∧ d₁.usb.ack = d.usb.ack ∧
      handleCommand env (.data c) d = .ok ((capAck (usbSend env d₁).2).answered
        (some (inlineBytes (usbSend env d₁).1 (capAck (usbSend env d₁).2))) b p) ∧ d₁.inWrites = d.inWrites := by
  have hst : d.settled c = inlineSettings (inlineModeOutHeader c.payload) d := if_pos hi
  have hb := buildPacket_header env hi hl
  rw [← hst] at hb
  let k := min ((inlineModeOutHeader c.payload).length.toNat - 8) 40
  have hk63 : k ≤ 63 := by omega
  obtain ⟨b, p, hd⟩ := handleCommand_data env hs hb
  have hg₁ : ((d.settled c).load c.payload 8 k hk63).state.handled = true := hg
  have hi₁ : (d.settled c).state.inlineMode = true := by rw [hst]; exact hi
  refine ⟨(d.settled c).load c.payload 8 k hk63, b, p, rfl, rfl, by rw [hst]; rfl, by rw [hst]; rfl, ?_,
    by rw [hst]; rfl⟩
  rw [hd]
  unfold guardedSend guardedBytes answerBytes
  rw [if_pos hg₁, if_pos hg₁]
  have hi₂ : (usbSend env ((d.settled c).load c.payload 8 k hk63)).2.state.inlineMode = true := hi₁
  rw [if_pos hi₂]

/-- An inline answer describes its own exchange exactly if nothing it shows is left over. -/
theorem describesOwnExchange_iff {env : Env} {d : Device} {c : DataCommand} (hr : DevReachable env d)
    (hs : d.state.snifferMode = false) (hi : d.state.inlineMode = true)
    (hg : (d.settled c).state.handled = true) : DescribesOwnExchange env c d ↔ NothingStale env c d := by
  obtain ⟨v, hv⟩ := hr.settled
  unfold NothingStale
  by_cases hl : 8 ≤ (inlineModeOutHeader c.payload).length.toNat
  · obtain ⟨d₁, b, p, he, hst, hn, hack, hd, hw⟩ := handleCommand_inline env hs hi hg hl
    have hdev : DevInv (d.settled c) := devInv_settled hv.2 c
    have hset : d.settled c = inlineSettings (inlineModeOutHeader c.payload) d := if_pos hi
    -- the device behind the send, and what holds of it
    let D := (usbSend env d₁).2
    have hDs : D.state = (d.settled c).state := hst
    have hDi : D.state.inlineMode = true := by rw [hDs, hset]; exact hi
    have hDg : D.state.handled = true := by rw [hDs]; exact hg
    have hDa : (d.settled c).esb.ackEnabled = D.state.ackEnabled := by rw [hDs]; exact hdev.ack
    have hDr : D.state.inlineRssiMode = d.state.inlineRssiMode := by rw [hDs, hset]; rfl
    have hDx : exchangeAnswer (env d.sends) (d.settled c).esb D.state =
        exchangeAnswer (env d.sends) (d.settled c).esb d.state := by rw [hDs, hset]; rfl
    have hm : (d.settled c).esb.radio.maxlen = 32 := by
      rw [hdev.maxlen, hset]; exact if_neg (Bool.eq_false_iff.mp hs)
    have hcall : (usbSend env d₁).1 = (esbSendPacket (env d.sends) d₁.usb (d.settled c).esb).1 ∧
        D.usb = (esbSendPacket (env d.sends) d₁.usb (d.settled c).esb).2.1 := by
      rw [← he, ← hn]; exact ⟨rfl, rfl⟩
    have hiff : DescribesOwnExchange env c d ↔ exchangeAnswer (env d.sends) (d.settled c).esb d.state =
        some ((inlineReport (usbSend env d₁).1 (capAck D)).encode D.state.format) := by
      have hbytes := inlineBytes_eq (usbSend env d₁).1 (d := capAck D) (by rw [capAck_state]; exact hDi)
        (capAck_length_le D)
      rw [capAck_state] at hbytes
      rw [← hbytes]
      have hwrites : ∀ w, ((capAck D).answered (some w) b p).inWrites = d.inWrites ++ [w] := by
        intro w
        show (capAck D).inWrites ++ [w] = _
        rw [capAck_inWrites]
        exact congrArg (· ++ [w]) hw
      constructor
      · rintro ⟨d', w, hd', hww, hex⟩
        rw [hd] at hd'
        cases hd'
        rw [hwrites] at hww
        rw [hex, List.cons.inj (List.append_cancel_left hww) |>.1]
      · intro hex
        exact ⟨_, _, hd, hwrites _, hex⟩
    rw [hiff, and_iff_right hl, ← hDx, ← hDr]
    cases hx : (d.settled c).esb.sends (env d.sends).packetDraw with
    | true =>
      have hp := esbSendPacket_produced hx d₁.usb
      rw [← hcall.1, ← hcall.2] at hp
      rw [if_pos rfl]
      exact exchangeAnswer_sent_iff hDi hDg hDa hm hx hp
    | false =>
      have hexit := esbSendPacket_exit (b := d₁.usb) hx
      rw [hexit] at hcall
      rw [if_neg Bool.false_ne_true, hcall.1, ← hack, ← (congrArg SendBuffers.ack hcall.2 : D.usb.ack = d₁.usb.ack)]
      exact exchangeAnswer_exit_iff hDi hDg hDa hx
  · refine iff_of_false ?_ fun h => hl h.1
    rintro ⟨d', w, hd, -⟩
    have hc := (handleCommand_data_isOk_iff env c hs).mp ⟨d', hd⟩
    unfold Device.copies at hc
    rw [if_pos hi, decide_eq_true_iff] at hc
    exact hl hc

/-- The device behind `SET_INLINE_MODE` with 1. -/
def inlineDevice : Device := { boot with state := { boot.state with inlineMode := true } }

theorem devReachable_inlineDevice (env : Env) : DevReachable env inlineDevice := by
  refine ⟨[.command (.setup { setupPacket := hostRequest setInlineMode 1 })], fun a ha => ?_, rfl⟩
  rw [List.mem_singleton.mp ha]
  exact (by decide : queues (hostRequest setInlineMode 1) = true)

/-- An inline transfer of a header alone: 2M, auto-ack, channel 42. -/
def headerOnly : DataCommand := DataCommand.empty.store 0 [8, 0x12, 42, 0xe7, 0xe7, 0xe7, 0xe7, 0xe7] (by decide)

/-- Surroundings in which every attempt receives five bytes. -/
def receiving (crcOk : Bool) : Env := fun _ =>
  { packetDraw := 0
    attempts := fun _ => .done (some ⟨5, 0, Buf.fill 63 7, by decide⟩) false crcOk
    rssi := 40
    ackDraw := 0 }

/-- With a valid CRC the answer describes the exchange. -/
theorem describesOwnExchange_acked : DescribesOwnExchange (receiving true) headerOnly inlineDevice := by
  refine (describesOwnExchange_iff (devReachable_inlineDevice _) rfl rfl rfl).mpr ⟨by decide, ?_⟩
  exact ⟨fun _ => rfl, .inl rfl⟩

/-- With a bad CRC in the last attempt five bytes of an earlier answer follow the header. -/
theorem badCrc_answer : ¬ ∀ (env : Env) (d : Device) (c : DataCommand), DevReachable env d →
    d.state.snifferMode = false → d.state.inlineMode = true →
    8 ≤ (inlineModeOutHeader c.payload).length.toNat → (d.settled c).state.handled = true →
    DescribesOwnExchange env c d := by
  intro hall
  obtain ⟨d', w, hd, hw, hx⟩ := hall (receiving false) inlineDevice headerOnly (devReachable_inlineDevice _) rfl rfl
    (by decide) rfl
  have hb : (handleCommand (receiving false) (.data headerOnly) inlineDevice).map Device.inWrites =
    .ok [[7, 50, 0, 0, 0, 0, 0]] := rfl
  rw [hd] at hb
  rw [Except.ok.inj hb] at hw
  have he : some [2, 50] = some w := hx
  rw [← Option.some.inj he] at hw
  exact absurd hw (by decide)

end Crazyradio.Usb
