/-
The two ways to select settings, and what the registers make of them. An inline header is compared
with the four setup commands that carry the same values, and the send guard with the registers a
packet would use after any sequence of setup commands.
-/
import Crazyradio.Usb.Reach
import Mathlib.Data.List.Induction

namespace Crazyradio.Usb

open Bytes

/-! ## Register effects -/

/-- The mode register behind `esb_set_bitrate`. -/
def bitrateMode (bitrate : UInt8) (m : RadioMode) : RadioMode :=
  if bitrate = radioBitrate1M then .nrf1Mbit else if bitrate = radioBitrate2M then .nrf2Mbit else m

/-- The frequency register behind `esb_set_channel`. -/
def channelFrequency (channel : UInt8) (f : Nat) : Nat := if channel ≤ 100 then 2400 + channel.toNat else f

theorem esbSetChannel_radio (channel : UInt8) (e : Esb) : (esbSetChannel channel e).radio =
    { e.radio with frequency := channelFrequency channel e.radio.frequency } := by
  unfold esbSetChannel channelFrequency
  split <;> rfl

theorem esbSetBitrate_radio (bitrate : UInt8) (e : Esb) : (esbSetBitrate bitrate e).radio =
    { e.radio with mode := bitrateMode bitrate e.radio.mode } := by
  unfold esbSetBitrate bitrateMode
  split
  · rfl
  · split <;> rfl

/-- `SET_RADIO_CHANNEL` writes the frequency of a channel up to 100. -/
theorem apply_channel_radio (c : UInt16) (d : Device) : ((Request.channel c).apply d).esb.radio =
    { d.esb.radio with frequency := if c ≤ 100 then 2400 + c.toNat else d.esb.radio.frequency } := by
  simp only [Request.apply]
  split
  · rename_i h
    have hn : c.toNat ≤ 100 := UInt16.le_iff_toNat_le.mp h
    have hb : c.toUInt8.toNat = c.toNat := by rw [UInt16.toNat_toUInt8]; omega
    rw [esbSetChannel_radio, channelFrequency, if_pos (UInt8.le_iff_toNat_le.mpr (by rw [hb]; exact hn)), hb]
  · rfl

/-- `SET_DATA_RATE` writes the mode of the 1M and the 2M rate. -/
theorem apply_datarate_radio (r : UInt16) (d : Device) : ((Request.datarate r).apply d).esb.radio =
    { d.esb.radio with mode := if r = 1 then .nrf1Mbit else if r = 2 then .nrf2Mbit else d.esb.radio.mode } := by
  simp only [Request.apply]
  split
  · rfl
  · split <;> rfl

/-! ## Inline settings against setup commands -/

/-- The setup commands with the settings of an inline header. -/
def headerCommands (h : InlineModeOutHeader) : List SetupCommand :=
  [{ setupPacket := { bRequest := setRadioChannel, wValue := h.channel.toUInt16 } },
    { setupPacket := { bRequest := setDataRate, wValue := UInt16.ofNat h.datarate } },
    { setupPacket := { bRequest := ackEnable, wValue := if h.ackEnabled then 1 else 0 } },
    { setupPacket := { bRequest := setRadioAddress, wLength := 5 }
      length := 5
      data := (Buf.fill 16 0).blit 0 h.address.bytes (by rw [h.address.size]; decide) }]

/-- The device once commands are handled one after the other. -/
def Device.commands (d : Device) (ss : List SetupCommand) : Device :=
  ss.foldl (fun d s => handleVendorCommand s d) d

/-- The settings: those in `state`, the driver's and the radio's registers. -/
structure Settings where
  channel : UInt8
  datarate : UInt8
  ackEnabled : Bool
  driverAck : Bool
  address : Buf 5
  radio : Radio

def Device.settings (d : Device) : Settings :=
  { channel := d.state.channel
    datarate := d.state.datarate
    ackEnabled := d.state.ackEnabled
    driverAck := d.esb.ackEnabled
    address := d.esb.currentPipe0Address
    radio := d.esb.radio }

/-- The settings part of the inline branch does what the setup commands would, and the packet goes
out at the data rate the header names. -/
def InlineAgrees (h : InlineModeOutHeader) (d : Device) : Prop :=
  (inlineSettings h d).settings = (d.commands (headerCommands h)).settings ∧
    (h.datarate = 1 → (inlineSettings h d).esb.radio.mode = .nrf1Mbit) ∧
    (h.datarate = 2 → (inlineSettings h d).esb.radio.mode = .nrf2Mbit)

/-- The radio with the channel, mode and pipe-0 address given. -/
def tuned (h : InlineModeOutHeader) (mode : RadioMode) (r : Radio) : Radio :=
  { r with
    frequency := channelFrequency h.channel r.frequency
    mode
    base0 := bytewiseBitswap (addressBase h.address)
    prefix0 := pipe0Prefix h.address r.prefix0 }

theorem inlineSettings_settings (h : InlineModeOutHeader) (d : Device) : (inlineSettings h d).settings =
    { channel := h.channel
      datarate := UInt8.ofNat h.datarate
      ackEnabled := h.ackEnabled
      driverAck := h.ackEnabled
      address := h.address
      radio := tuned h (bitrateMode (UInt8.ofNat h.datarate) d.esb.radio.mode) d.esb.radio } := by
  have hr : (inlineSettings h d).esb.radio =
      tuned h (bitrateMode (UInt8.ofNat h.datarate) d.esb.radio.mode) d.esb.radio := by
    have h1 := esbSetBitrate_radio (UInt8.ofNat h.datarate) (esbSetChannel h.channel d.esb)
    rw [esbSetChannel_radio] at h1
    unfold inlineSettings esbSetAddress
    simp only [nrfRadioBase0Set, nrfRadioPrefix0Set, Esb.record, esbSetAckEnabled]
    rw [h1]
    rfl
  unfold Device.settings
  rw [hr]
  rfl

/-- The requests the four commands make. -/
def headerRequests (h : InlineModeOutHeader) : List Request :=
  [.channel h.channel.toUInt16, if h.datarate.val < 3 then .datarate (UInt16.ofNat h.datarate) else .other,
    .ack h.ackEnabled, .address h.address]

theorem headerCommands_decode (h : InlineModeOutHeader) :
    (headerCommands h).map SetupCommand.decode = headerRequests h := by
  have hr : ∀ r : Fin 4, ({ setupPacket := { bRequest := setDataRate, wValue := UInt16.ofNat r } } :
      SetupCommand).decode = if r.val < 3 then .datarate (UInt16.ofNat r) else .other
    | 0 => rfl
    | 1 => rfl
    | 2 => rfl
    | 3 => rfl
  have ha : ∀ b : Bool, ({ setupPacket := { bRequest := ackEnable, wValue := if b then 1 else 0 } } :
      SetupCommand).decode = .ack b
    | true => rfl
    | false => rfl
  simp only [headerCommands, headerRequests, List.map_cons, List.map_nil, hr, ha]
  refine congrArg₂ List.cons rfl (congrArg₂ List.cons rfl (congrArg₂ List.cons rfl (congrArg₂ List.cons ?_ rfl)))
  refine congrArg Request.address (Buf.blit_all _ _ _ ?_ _)
  exact Buf.read_blit _ h.address.size (by rw [h.address.size]; decide)

theorem commands_settings (h : InlineModeOutHeader) (d : Device) : (d.commands (headerCommands h)).settings =
    { channel := h.channel
      datarate := if h.datarate.val < 3 then UInt8.ofNat h.datarate else d.state.datarate
      ackEnabled := h.ackEnabled
      driverAck := h.ackEnabled
      address := h.address
      radio := tuned h (if h.datarate = 1 then .nrf1Mbit else if h.datarate = 2 then .nrf2Mbit else d.esb.radio.mode)
        d.esb.radio } := by
  have hc : d.commands (headerCommands h) = (headerRequests h).foldl (fun d r => r.apply d) d := by
    rw [← headerCommands_decode, List.foldl_map]
    exact congrArg (fun f => List.foldl f d (headerCommands h))
      (funext fun d => funext fun s => handleVendorCommand_decode s d)
  have hch : h.channel.toUInt16.toUInt8 = h.channel := by simp
  have hdr : (UInt16.ofNat h.datarate).toUInt8 = UInt8.ofNat h.datarate := by simp
  have hl : h.channel.toUInt16 ≤ 100 ↔ h.channel ≤ 100 := by
    rw [UInt16.le_iff_toNat_le, UInt8.le_iff_toNat_le, UInt8.toNat_toUInt16]; rfl
  -- the two steps of the middle command: let through, or refused
  have hmid : ∀ d₁ : Device,
      ((if h.datarate.val < 3 then Request.datarate (UInt16.ofNat h.datarate) else .other).apply d₁).esb.radio =
        { d₁.esb.radio with mode :=
            if h.datarate = 1 then .nrf1Mbit else if h.datarate = 2 then .nrf2Mbit else d₁.esb.radio.mode } := by
    intro d₁
    generalize h.datarate = r
    match r with
    | 0 => exact apply_datarate_radio 0 d₁
    | 1 => exact apply_datarate_radio 1 d₁
    | 2 => exact apply_datarate_radio 2 d₁
    | 3 => rfl
  have hr : (d.commands (headerCommands h)).esb.radio = tuned h
      (if h.datarate = 1 then .nrf1Mbit else if h.datarate = 2 then .nrf2Mbit else d.esb.radio.mode) d.esb.radio := by
    rw [hc]
    have h1 := apply_channel_radio h.channel.toUInt16 d
    have h2 := hmid ((Request.channel h.channel.toUInt16).apply d)
    rw [h1] at h2
    simp only [hl, UInt8.toNat_toUInt16] at h2
    simp only [headerRequests, List.foldl_cons, List.foldl_nil]
    have h3 : ∀ d₂ : Device, ((Request.address h.address).apply ((Request.ack h.ackEnabled).apply d₂)).esb.radio =
        { d₂.esb.radio with
          base0 := bytewiseBitswap (addressBase h.address), prefix0 := pipe0Prefix h.address d₂.esb.radio.prefix0 } :=
      fun _ => rfl
    rw [h3, h2]
    rfl
  unfold Device.settings
  rw [hr, hc]
  simp only [headerRequests, List.foldl_cons, List.foldl_nil, Settings.mk.injEq]
  refine ⟨?_, ?_, rfl, rfl, rfl, trivial⟩
  · split <;> exact hch
  · split
    · exact hdr
    · rfl

/-- The inline branch agrees with the setup commands exactly when its slips do not show: data rate 0
writes the 1M mode, 1 the 2M mode, 2 and 3 none, and 3 is stored though `SET_DATA_RATE` refuses it. -/
theorem inlineAgrees_iff (h : InlineModeOutHeader) (d : Device) : InlineAgrees h d ↔
    (h.datarate = 0 ∧ d.esb.radio.mode = .nrf1Mbit) ∨ (h.datarate = 2 ∧ d.esb.radio.mode = .nrf2Mbit) ∨
      (h.datarate = 3 ∧ d.state.datarate = 3) := by
  have hm : (inlineSettings h d).esb.radio.mode = bitrateMode (UInt8.ofNat h.datarate) d.esb.radio.mode :=
    congrArg (fun s => s.radio.mode) (inlineSettings_settings h d)
  unfold InlineAgrees
  rw [inlineSettings_settings, commands_settings, hm]
  simp only [Settings.mk.injEq, tuned, Radio.mk.injEq, true_and, and_true]
  generalize h.datarate = r
  generalize d.esb.radio.mode = m
  generalize d.state.datarate = s
  match r with
  | 0 => cases m <;> simp [bitrateMode, radioBitrate1M]
  | 1 => cases m <;> simp [bitrateMode, radioBitrate1M, radioBitrate2M]
  | 2 => cases m <;> simp [bitrateMode, radioBitrate1M, radioBitrate2M]
  | 3 =>
    have h3 : ((3 : Fin 4) : Nat) = 3 := rfl
    rw [h3]
    cases m <;> simp [bitrateMode, radioBitrate1M, radioBitrate2M, eq_comm]

/-- At data rate 1 the packet goes out at 2M: `SET_INLINE_MODE` from boot, then any such header. -/
theorem inlineSettings_wrong_rate : ¬ ∀ (env : Env) (s : System), Reachable env s →
    s.dev.state.inlineMode = true → ∀ h : InlineModeOutHeader, InlineAgrees h s.dev := by
  intro hall
  have h := hall (fun _ => .silent) _ ⟨[.request (hostRequest setInlineMode 1) [], .fetch, .handle], rfl⟩ rfl
    { length := 8, datarate := 1, ackEnabled := true, channel := 42, address := Buf.fill 5 0xe7 }
  have hm : RadioMode.nrf2Mbit = .nrf1Mbit := h.2.1 rfl
  exact nomatch hm

/-! ## The send guard against the registers -/

/-- A `SET_RADIO_CHANNEL` that is handled. -/
def SetupCommand.setsChannel (s : SetupCommand) : Bool :=
  decide (s.setupPacket.bRequest = setRadioChannel ∧ s.setupPacket.wLength = 0)

/-- A `SET_DATA_RATE` that is accepted. -/
def SetupCommand.setsDatarate (s : SetupCommand) : Bool :=
  decide (s.setupPacket.bRequest = setDataRate ∧ s.setupPacket.wLength = 0 ∧ s.setupPacket.wValue < 3)

/-- The `wValue` of the last command of a kind, or a default. -/
def lastValue (p : SetupCommand → Bool) (default : UInt16) (ss : List SetupCommand) : UInt16 :=
  ((ss.filter p).getLast?.map (·.setupPacket.wValue)).getD default

theorem lastValue_concat (p : SetupCommand → Bool) (default : UInt16) (ss : List SetupCommand) (s : SetupCommand) :
    lastValue p default (ss ++ [s]) = if p s then s.setupPacket.wValue else lastValue p default ss := by
  unfold lastValue
  rw [List.filter_append]
  cases h : p s with
  | true => simp [h]
  | false => simp [h]

/-- The last `SET_RADIO_CHANNEL` value, 42 if there is none. -/
def lastChannel : List SetupCommand → UInt16 := lastValue SetupCommand.setsChannel 42

/-- The last accepted `SET_DATA_RATE` value, 2 if there is none. -/
def lastDatarate : List SetupCommand → UInt16 := lastValue SetupCommand.setsDatarate 2

/-- The mode of a data rate other than 250K. -/
def datarateMode (r : UInt16) : RadioMode := if r = 1 then .nrf1Mbit else .nrf2Mbit

/-- The guard says what the host selected, and where it lets a packet through the registers are
those of the channel and data rate selected. -/
def GuardFaithful (d : Device) (c r : UInt16) : Prop :=
  (d.state.handled = true ↔ c ≤ 100 ∧ (r = 1 ∨ r = 2)) ∧
    (d.state.handled = true →
      d.esb.radio.frequency = 2400 + c.toNat ∧ d.esb.radio.mode = datarateMode r)

/-- What holds of guard and registers with this view: the guard sees the channel modulo 256, the
frequency register only a channel up to 100. -/
structure Selected (v : HostView) (d : Device) : Prop where
  channel : d.state.channel = v.channel.toUInt8
  datarate : d.state.datarate = v.datarate.toUInt8
  rate_lt : v.datarate.toNat < 3
  frequency : v.channel ≤ 100 → d.esb.radio.frequency = 2400 + v.channel.toNat
  mode : v.datarate ≠ 0 → d.esb.radio.mode = datarateMode v.datarate

theorem selected_boot : Selected {} boot := ⟨rfl, rfl, by decide, fun _ => rfl, fun _ => rfl⟩

theorem esbSnifferStart_tuning (cb : EsbSnifferRxCb) (e : Esb) :
    (esbSnifferStart cb e).radio.frequency = e.radio.frequency ∧ (esbSnifferStart cb e).radio.mode = e.radio.mode := by
  unfold esbSnifferStart
  split <;> exact ⟨rfl, rfl⟩

theorem esbSnifferStop_tuning (e : Esb) :
    (esbSnifferStop e).radio.frequency = e.radio.frequency ∧ (esbSnifferStop e).radio.mode = e.radio.mode := by
  unfold esbSnifferStop
  split <;> exact ⟨rfl, rfl⟩

theorem snifferMode_apply (r : Request) (d : Device) : (r.apply d).state.snifferMode = match r with
    | .sniffer on => on
    | _ => d.state.snifferMode := by
  cases r with
  | sniffer on => cases on <;> rfl
  | snifferAddress pipe1 a => cases pipe1 <;> rfl
  | _ => rfl

theorem selected_apply {v : HostView} {d : Device} (h : Selected v d) (r : Request)
    (hr : ∀ n, r = .datarate n → n.toNat < 3) : Selected (r.select v) (r.apply d) := by
  obtain ⟨hc, hd, hl, hf, hm⟩ := h
  cases r with
  | channel c =>
    have hradio := apply_channel_radio c d
    refine ⟨rfl, hd, hl, ?_, ?_⟩
    · intro h
      rw [hradio]
      exact if_pos h
    · intro h
      rw [hradio]
      exact hm h
  | datarate n =>
    have hradio := apply_datarate_radio n d
    have hn := hr n rfl
    refine ⟨hc, rfl, hn, ?_, ?_⟩
    · intro h
      rw [hradio]
      exact hf h
    · intro h
      rw [hradio]
      show (if n = 1 then RadioMode.nrf1Mbit else if n = 2 then .nrf2Mbit else d.esb.radio.mode) = datarateMode n
      unfold datarateMode
      by_cases h1 : n = 1
      · rw [if_pos h1, if_pos h1]
      · have h2 : n = 2 := by
          have h0 : n.toNat ≠ 0 := fun h0 => h (UInt16.toNat_inj.mp h0)
          have h1 : n.toNat ≠ 1 := fun h => h1 (UInt16.toNat_inj.mp h)
          exact UInt16.toNat_inj.mp (show n.toNat = 2 by omega)
        rw [if_neg h1, if_pos h2, if_neg h1]
  | sniffer on =>
    cases on with
    | true =>
      obtain ⟨h1, h2⟩ := esbSnifferStart_tuning .snifferRxCallback d.esb
      exact ⟨hc, hd, hl, fun h => h1.trans (hf h), fun h => h2.trans (hm h)⟩
    | false =>
      obtain ⟨h1, h2⟩ := esbSnifferStop_tuning d.esb
      exact ⟨hc, hd, hl, fun h => h1.trans (hf h), fun h => h2.trans (hm h)⟩
  | carrier enable =>
    obtain ⟨c, l, he⟩ := esbSetContinuousCarrier_kept enable d.esb
    simp only [Request.apply]
    rw [he]
    exact ⟨hc, hd, hl, hf, hm⟩
  | snifferAddress pipe1 a => cases pipe1 <;> exact ⟨hc, hd, hl, hf, hm⟩
  | address a => exact ⟨hc, hd, hl, hf, hm⟩
  | ack enabled => exact ⟨hc, hd, hl, hf, hm⟩
  | inlineMode m => exact ⟨hc, hd, hl, hf, hm⟩
  | power p => exact ⟨hc, hd, hl, hf, hm⟩
  | arc n => exact ⟨hc, hd, hl, hf, hm⟩
  | loss p a => exact ⟨hc, hd, hl, hf, hm⟩
  | other => exact ⟨hc, hd, hl, hf, hm⟩

/-- The channel a command selects. -/
theorem decode_select_channel (s : SetupCommand) (v : HostView) :
    (s.decode.select v).channel = if s.setsChannel then s.setupPacket.wValue else v.channel := by
  unfold SetupCommand.setsChannel
  by_cases h : s.setupPacket.bRequest = setRadioChannel ∧ s.setupPacket.wLength = 0
  · rw [decide_eq_true h, if_pos rfl, SetupCommand.decode, if_pos h]
    rfl
  · rw [decide_eq_false h, if_neg Bool.false_ne_true]
    refine s.decode_cases (P := fun q => (q.select v).channel = v.channel) ?_ ?_ ?_
    · intro hc
      exact absurd hc h
    · intro _
      rfl
    · intro r hc _
      cases r with
      | channel c => exact absurd rfl (hc c)
      | sniffer on => cases on <;> rfl
      | _ => rfl

/-- The data rate a command selects. -/
theorem decode_select_datarate (s : SetupCommand) (v : HostView) :
    (s.decode.select v).datarate = if s.setsDatarate then s.setupPacket.wValue else v.datarate := by
  unfold SetupCommand.setsDatarate
  by_cases h : s.setupPacket.bRequest = setDataRate ∧ s.setupPacket.wLength = 0 ∧ s.setupPacket.wValue < 3
  · -- the two checks in front are about other requests
    have h1 : ¬(s.setupPacket.bRequest = setRadioChannel ∧ s.setupPacket.wLength = 0) := by
      rintro ⟨hn, -⟩
      rw [h.1] at hn
      cases hn
    have h2 : ¬(s.setupPacket.bRequest = setRadioAddress ∧ s.setupPacket.wLength = 5) := by
      rintro ⟨hn, -⟩
      rw [h.1] at hn
      cases hn
    rw [decide_eq_true h, if_pos rfl, SetupCommand.decode, if_neg h1, if_neg h2, if_pos h]
    rfl
  · rw [decide_eq_false h, if_neg Bool.false_ne_true]
    refine s.decode_cases (P := fun q => (q.select v).datarate = v.datarate) ?_ ?_ ?_
    · intro _
      rfl
    · intro hd
      exact absurd hd h
    · intro r _ hd
      cases r with
      | datarate n => exact absurd rfl (hd n)
      | sniffer on => cases on <;> rfl
      | _ => rfl

/-- The view behind a sequence of setup commands. -/
theorem selected_commands (ss : List SetupCommand) : ∃ v : HostView,
    v.channel = lastChannel ss ∧ v.datarate = lastDatarate ss ∧ Selected v (boot.commands ss) := by
  induction ss using List.reverseRecOn with
  | nil => exact ⟨{}, rfl, rfl, selected_boot⟩
  | append_singleton ss s ih =>
    obtain ⟨v, hc, hd, hs⟩ := ih
    refine ⟨s.decode.select v, ?_, ?_, ?_⟩
    · rw [decode_select_channel, hc, lastChannel, lastValue_concat]
    · rw [decode_select_datarate, hd, lastDatarate, lastValue_concat]
    · have h := selected_apply hs s.decode (decode_datarate_lt s)
      rw [← handleVendorCommand_decode] at h
      unfold Device.commands
      rw [List.foldl_append]
      exact h

/-- After any sequence of setup commands guard and registers agree with what was selected, exactly
unless the channel selected last is one above 255 that is one up to 100 when cut to a byte. -/
theorem guardFaithful_iff (ss : List SetupCommand) :
    GuardFaithful (boot.commands ss) (lastChannel ss) (lastDatarate ss) ↔
      ((lastChannel ss).toNat % 256 ≤ 100 → lastDatarate ss ≠ 0 → (lastChannel ss).toNat ≤ 100) := by
  obtain ⟨v, hc, hd, hs⟩ := selected_commands ss
  rw [← hc, ← hd]
  have hg := State.handled_iff hs.channel hs.datarate (Nat.lt_succ_of_lt hs.rate_lt)
  have hr : v.datarate = 1 ∨ v.datarate = 2 ↔ v.datarate ≠ 0 := by
    have hl := hs.rate_lt
    rw [Ne, ← UInt16.toNat_inj, ← UInt16.toNat_inj, ← UInt16.toNat_inj]
    simp
    omega
  have hle : v.channel ≤ 100 ↔ v.channel.toNat ≤ 100 := UInt16.le_iff_toNat_le
  unfold GuardFaithful
  rw [hg, hr, hle]
  constructor
  · rintro ⟨h1, -⟩ h2 h3
    exact (h1.mp ⟨h3, h2⟩).1
  · intro h
    constructor
    · constructor
      · rintro ⟨h1, h2⟩
        exact ⟨h h2 h1, h1⟩
      · rintro ⟨h1, h2⟩
        exact ⟨h2, by omega⟩
    · -- where the guard is true the channel is one the register takes
      rintro ⟨h1, h2⟩
      exact ⟨hs.frequency (hle.mpr (h h2 h1)), hs.mode h1⟩

/-- `SET_RADIO_CHANNEL` with 256 opens the guard with the frequency left at channel 42. -/
theorem guard_sees_byte : ¬ ∀ ss : List SetupCommand,
    GuardFaithful (boot.commands ss) (lastChannel ss) (lastDatarate ss) := by
  intro hall
  have h := (hall [{ setupPacket := hostRequest setRadioChannel 256 }]).1
  exact absurd (h.mp rfl).1 (by decide)

end Crazyradio.Usb
