/-
What a setup command asks for, and what the host thereby selects. `decode` reads a command as one
of twelve requests, `handleVendorCommand` is `Request.apply` after it, so facts about setup
commands are proved by cases on the request. `HostView` is the settings as the host selected them,
at the width the host gave them: the abstract state the device's `state` is compared with.
-/
import Crazyradio.Usb.Machine

namespace Crazyradio.Usb

open Bytes

/-! ## Requests -/

/-- A setup command by what it asks for; `other` changes nothing. -/
inductive Request
  | channel (c : UInt16)
  | address (a : Buf 5)
  | datarate (r : UInt16)
  | power (p : UInt16)
  | arc (n : UInt16)
  | ack (enabled : Bool)
  | carrier (enable : Bool)
  | sniffer (on : Bool)
  | snifferAddress (pipe1 : Bool) (a : Buf 5)
  | inlineMode (v : UInt16)
  | loss (packetLoss ackLoss : UInt8)
  | other

/-- A command by its request number, its `wLength` and, where it is checked, its `wValue`. -/
def SetupCommand.decode (s : SetupCommand) : Request :=
  let p := s.setupPacket
  if p.bRequest = setRadioChannel ∧ p.wLength = 0 then .channel p.wValue
  else if p.bRequest = setRadioAddress ∧ p.wLength = 5 then .address s.address
  else if p.bRequest = setDataRate ∧ p.wLength = 0 ∧ p.wValue < 3 then .datarate p.wValue
  else if p.bRequest = setRadioPower ∧ p.wLength = 0 then .power p.wValue
  else if p.bRequest = setRadioArd ∧ p.wLength = 0 then .other
  else if p.bRequest = setRadioArc ∧ p.wLength = 0 then .arc p.wValue
  else if p.bRequest = ackEnable ∧ p.wLength = 0 then .ack (decide (p.wValue ≠ 0))
  else if p.bRequest = setContCarrier ∧ p.wLength = 0 then .carrier (decide (p.wValue ≠ 0))
  else if p.bRequest = setMode ∧ p.wLength = 0 then .other
  else if p.bRequest = setRadioMode ∧ p.wLength = 0 then
    if p.wValue = 1 then .sniffer true else if p.wValue = 0 then .sniffer false else .other
  else if p.bRequest = setSnifferAddress ∧ p.wLength = 5 then
    if p.wValue = 0 then .snifferAddress false s.address
    else if p.wValue = 1 then .snifferAddress true s.address
    else .other
  else if p.bRequest = setInlineMode ∧ p.wLength = 0 then .inlineMode p.wValue
  else if p.bRequest = setPacketLossSimulation ∧ p.wLength = 2 then .loss (s.data.get 0) (s.data.get 1)
  else .other

/-- What a request does to the device. -/
def Request.apply : Request → Device → Device
  | .channel c, d =>
    { d with
      esb := if c ≤ 100 then esbSetChannel c.toUInt8 d.esb else d.esb
      state := { d.state with channel := c.toUInt8, inlineMode := false } }
  | .address a, d => { d with esb := esbSetAddress a d.esb, state := { d.state with inlineMode := false } }
  | .datarate r, d =>
    { d with
      esb := if r = 1 then esbSetBitrate radioBitrate1M d.esb
        else if r = 2 then esbSetBitrate radioBitrate2M d.esb else d.esb
      state := { d.state with datarate := r.toUInt8, inlineMode := false } }
  | .power p, d => femSetPower (powerMapping.getD (min p.toNat 3) 0) d
  | .arc n, d => { d with esb := esbSetArc (n &&& 0x0f).toNat d.esb }
  | .ack enabled, d =>
    { d with
      esb := esbSetAckEnabled enabled d.esb
      state := { d.state with ackEnabled := enabled, inlineMode := false, inlineRssiMode := false } }
  | .carrier enable, d => { d with esb := (esbSetContinuousCarrier enable d.esb).2 }
  | .sniffer true, d =>
    { d with
      state := { d.state with snifferMode := true, inlineMode := false, inlineRssiMode := false }
      snifferQueue := []
      snifferDropCount := 0
      esb := esbSnifferStart .snifferRxCallback d.esb }
  | .sniffer false, d => { d with esb := esbSnifferStop d.esb, state := { d.state with snifferMode := false } }
  | .snifferAddress false a, d => { d with esb := esbSetAddress a d.esb }
  | .snifferAddress true a, d => { d with esb := esbSetAddressPipe1 a d.esb }
  | .inlineMode v, d =>
    { d with
      state := { d.state with
        inlineMode := decide (v ≠ 0)
        inlineRssiMode := decide (v = inlineModeOnWithRssi) } }
  | .loss packetLoss ackLoss, d => { d with esb := esbSetPacketLossSimulation packetLoss ackLoss d.esb }
  | .other, d => d

/-- A setup command does what its request does. -/
theorem handleVendorCommand_decode (s : SetupCommand) (d : Device) :
    handleVendorCommand s d = s.decode.apply d := by
  unfold handleVendorCommand SetupCommand.decode
  simp only [apply_ite (fun r : Request => r.apply d)]
  rfl

theorem act_setup {env : Env} {s : SetupCommand} {d d' : Device}
    (h : d.act env (.command (.setup s)) = .ok d') : d' = s.decode.apply d := by
  cases h
  exact handleVendorCommand_decode s d

/-! ## The settings as the host selected them -/

/-- The formats of an IN answer. -/
inductive AnswerFormat
  | plain
  | inline
  | inlineRssi
  deriving DecidableEq

/-- The format a `SET_INLINE_MODE` value selects. -/
def AnswerFormat.ofInlineMode (v : UInt16) : AnswerFormat :=
  if v = 0 then .plain else if v = inlineModeOnWithRssi then .inlineRssi else .inline

/-- What the host selected last. -/
structure HostView where
  channel : UInt16 := 42
  datarate : UInt16 := 2
  ackEnabled : Bool := true
  format : AnswerFormat := .plain
  sniffer : Bool := false

/-- What a request selects. -/
def Request.select : Request → HostView → HostView
  | .channel c, v => { v with channel := c, format := .plain }
  | .address _, v => { v with format := .plain }
  | .datarate r, v => { v with datarate := r, format := .plain }
  | .ack enabled, v => { v with ackEnabled := enabled, format := .plain }
  | .sniffer true, v => { v with sniffer := true, format := .plain }
  | .sniffer false, v => { v with sniffer := false }
  | .inlineMode m, v => { v with format := .ofInlineMode m }
  | _, v => v

/-- What an inline header selects. -/
def InlineModeOutHeader.select (h : InlineModeOutHeader) (v : HostView) : HostView :=
  { v with channel := h.channel.toUInt16, datarate := UInt16.ofNat h.datarate, ackEnabled := h.ackEnabled }

/-- The data commands of this view are inline ones. -/
def HostView.inline (v : HostView) : Bool := !v.sniffer && decide (v.format ≠ .plain)

/-- What an act selects. -/
def HostView.after (v : HostView) : Act → HostView
  | .command (.setup s) => s.decode.select v
  | .command (.data c) => if v.inline then (inlineModeOutHeader c.payload).select v else v
  | _ => v

/-- The view behind a run of acts. -/
def HostView.afterAll (v : HostView) (as : List Act) : HostView := as.foldl HostView.after v

/-- The format the two inline flags stand for. -/
def State.format (s : State) : AnswerFormat :=
  if s.inlineMode then if s.inlineRssiMode then .inlineRssi else .inline else .plain

/-- `state` holds what the host selected, channel and data rate narrowed to a byte. -/
structure Tracks (v : HostView) (s : State) : Prop where
  channel : s.channel = v.channel.toUInt8
  datarate : s.datarate = v.datarate.toUInt8
  rate_lt : v.datarate.toNat < 4
  ack : s.ackEnabled = v.ackEnabled
  format : s.format = v.format
  sniffer : s.snifferMode = v.sniffer

/-- The send guard sees the channel modulo 256. -/
theorem State.handled_iff {s : State} {channel datarate : UInt16} (hc : s.channel = channel.toUInt8)
    (hd : s.datarate = datarate.toUInt8) (hl : datarate.toNat < 4) :
    s.handled = true ↔ datarate ≠ 0 ∧ channel.toNat % 256 ≤ 100 := by
  unfold State.handled
  rw [Bool.and_eq_true, decide_eq_true_iff, decide_eq_true_iff, hc, hd, UInt8.le_iff_toNat_le, UInt16.toNat_toUInt8]
  refine and_congr (not_congr ?_) Iff.rfl
  -- a data rate below 4 is not 0 after narrowing unless it was 0 before
  rw [← UInt8.toNat_inj, ← UInt16.toNat_inj, UInt16.toNat_toUInt8]
  simp
  omega

theorem tracks_boot : Tracks {} boot.state := ⟨rfl, rfl, by decide, rfl, rfl, rfl⟩

theorem State.format_plain {s : State} (h : s.inlineMode = false) : s.format = .plain := by
  unfold format; rw [h]; rfl

theorem State.format_eq_plain_iff (s : State) : s.format = .plain ↔ s.inlineMode = false := by
  unfold format
  split
  · rename_i h
    rw [h]
    constructor
    · intro hf; split at hf <;> cases hf
    · intro hf; cases hf
  · rename_i h
    constructor
    · intro _; exact eq_false_of_ne_true h
    · intro _; rfl

/-- The two inline flags behind `SET_INLINE_MODE`. -/
theorem State.format_setInlineMode (s : State) (m : UInt16) :
    State.format { s with inlineMode := decide (m ≠ 0), inlineRssiMode := decide (m = inlineModeOnWithRssi) } =
      .ofInlineMode m := by
  show (if decide (m ≠ 0) then
    if decide (m = inlineModeOnWithRssi) then AnswerFormat.inlineRssi else .inline else .plain) = _
  unfold AnswerFormat.ofInlineMode
  by_cases h0 : m = 0
  · rw [if_pos h0, decide_eq_false (not_not_intro h0)]; rfl
  · rw [if_neg h0, decide_eq_true h0]
    by_cases h2 : m = inlineModeOnWithRssi
    · rw [if_pos h2, decide_eq_true h2]; rfl
    · rw [if_neg h2, decide_eq_false h2]; rfl

/-- A command selects a channel or a data rate behind its own check only. -/
theorem SetupCommand.decode_cases {P : Request → Prop} (s : SetupCommand)
    (channel : s.setupPacket.bRequest = setRadioChannel ∧ s.setupPacket.wLength = 0 → P (.channel s.setupPacket.wValue))
    (datarate : s.setupPacket.bRequest = setDataRate ∧ s.setupPacket.wLength = 0 ∧ s.setupPacket.wValue < 3 →
      P (.datarate s.setupPacket.wValue))
    (rest : ∀ r : Request, (∀ c, r ≠ .channel c) → (∀ n, r ≠ .datarate n) → P r) : P s.decode := by
  unfold SetupCommand.decode
  refine iteInduction (motive := P) channel fun _ => ?_
  refine iteInduction (motive := P) (fun _ => rest _ nofun nofun) fun _ => ?_
  refine iteInduction (motive := P) datarate fun _ => ?_
  -- what is left are the requests that select neither
  repeat' refine iteInduction (motive := P) (fun _ => ?_) (fun _ => ?_)
  all_goals exact rest _ nofun nofun

/-- The data rate a decoded request carries is one the guard of `SET_DATA_RATE` let through. -/
theorem decode_datarate_lt (s : SetupCommand) : ∀ r : UInt16, s.decode = .datarate r → r.toNat < 3 := by
  refine s.decode_cases (P := fun q => ∀ r : UInt16, q = .datarate r → r.toNat < 3) ?_ ?_ ?_
  · intro _ r hr
    cases hr
  · intro hc r hr
    cases hr
    exact UInt16.lt_iff_toNat_lt.mp hc.2.2
  · intro q _ hd r hr
    exact absurd hr (hd r)

/-- A request keeps `state` in step with the view. -/
theorem tracks_apply {v : HostView} {d : Device} (ht : Tracks v d.state) (r : Request)
    (hr : ∀ n, r = .datarate n → n.toNat < 4) : Tracks (r.select v) (r.apply d).state := by
  obtain ⟨hc, hd, hl, ha, hf, hs⟩ := ht
  cases r with
  | channel c => exact ⟨rfl, hd, hl, ha, State.format_plain rfl, hs⟩
  | address a => exact ⟨hc, hd, hl, ha, State.format_plain rfl, hs⟩
  | datarate n => exact ⟨hc, rfl, hr n rfl, ha, State.format_plain rfl, hs⟩
  | ack enabled => exact ⟨hc, hd, hl, rfl, State.format_plain rfl, hs⟩
  | sniffer on =>
    cases on with
    | true => exact ⟨hc, hd, hl, ha, State.format_plain rfl, rfl⟩
    | false => exact ⟨hc, hd, hl, ha, hf, rfl⟩
  | inlineMode m => exact ⟨hc, hd, hl, ha, State.format_setInlineMode _ m, hs⟩
  | snifferAddress pipe1 a => cases pipe1 <;> exact ⟨hc, hd, hl, ha, hf, hs⟩
  | power p => exact ⟨hc, hd, hl, ha, hf, hs⟩
  | arc n => exact ⟨hc, hd, hl, ha, hf, hs⟩
  | carrier enable => exact ⟨hc, hd, hl, ha, hf, hs⟩
  | loss p a => exact ⟨hc, hd, hl, ha, hf, hs⟩
  | other => exact ⟨hc, hd, hl, ha, hf, hs⟩

/-- The inline settings keep `state` in step with the view. -/
theorem tracks_inlineSettings {v : HostView} {d : Device} (ht : Tracks v d.state) (h : InlineModeOutHeader) :
    Tracks (h.select v) (inlineSettings h d).state := by
  have hr : h.datarate.val < 4 := h.datarate.isLt
  refine ⟨?_, ?_, ?_, rfl, ht.format, ht.sniffer⟩
  · simp [inlineSettings, InlineModeOutHeader.select]
  · simp [inlineSettings, InlineModeOutHeader.select]
  · simp only [InlineModeOutHeader.select, UInt16.toNat_ofNat']; omega

end Crazyradio.Usb
