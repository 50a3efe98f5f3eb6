/-
The channel behind a scan. `fw_scan` tunes the radio itself and leaves `state.channel` alone, so the
send guard still tests the channel selected before the scan while the packets go out on the one the
scan ended on.
-/
import Crazyradio.Esb.Address
import Crazyradio.Usb.Broadcast
import Crazyradio.Usb.Scan

namespace Crazyradio.Usb

open Bytes Search

/-! ## The last channel of a scan -/

/-- The last channel a scan tries: the one of the 63rd ack, or `stop`. -/
def Device.lastScanned (d : Device) (env : Env) (start stop : UInt8) : Nat :=
  (((scanRange start stop).filter (d.scanAcks env start))[62]?).getD stop.toNat

theorem getLast?_scanRange {start stop : UInt8} (h : start ≤ stop) :
    (scanRange start stop).getLast? = some stop.toNat := by
  have := UInt8.le_iff_toNat_le.mp h
  rw [scanRange, List.getLast?_range', if_neg (by omega)]
  congr 1
  omega

section Last

variable (env : Env) {start stop : UInt8} (data : List UInt8) (d : Device)

theorem fwScanCalls_last (h : start ≤ stop) :
    (fwScanCalls env start stop data d).getLast?.map ScanCall.channel = some (d.lastScanned env start stop) := by
  rw [← List.getLast?_map, fwScanCalls_channels, getLast?_tried, getLast?_scanRange h, Device.lastScanned]
  cases ((scanRange start stop).filter (d.scanAcks env start))[62]? <;> rfl

/-- The radio stays on the last channel if that is one it can be tuned to. -/
theorem fwScan_frequency (h : start ≤ stop) (hk : d.lastScanned env start stop ≤ 100) :
    (fwScan env start stop data d).esb.radio.frequency = 2400 + d.lastScanned env start stop := by
  have hl := fwScan_leaves env start stop data d
  obtain ⟨c, hc, hck⟩ := Option.map_eq_some_iff.mp (fwScanCalls_last env data d h)
  rw [hl.frequency, hc, ← hck]
  exact hl.tuned c (List.mem_of_getLast? hc) (hck ▸ hk)

end Last

/-! ## Until another channel is selected -/

/-- The act selects a channel: `SET_RADIO_CHANNEL`, an inline header, or a scan. -/
def Act.selectsChannel (d : Device) : Act → Bool
  | .command (.setup s) => s.setsChannel
  | .command (.data _) => !d.state.snifferMode && d.state.inlineMode
  | .scan start stop _ => decide (start ≤ stop)
  | .poll => false
  | .receive _ => false

/-- No act of the run selects a channel. -/
def KeepsChannel (env : Env) : List Act → Device → Prop
  | [], _ => True
  | a :: as, d => a.selectsChannel d = false ∧ ∀ d', d.act env a = .ok d' → KeepsChannel env as d'

/-- The channel of the guard and the one of the radio are the same as before. -/
structure ChannelKept (d d' : Device) : Prop where
  channel : d'.state.channel = d.state.channel
  frequency : d'.esb.radio.frequency = d.esb.radio.frequency

theorem ChannelKept.refl (d : Device) : ChannelKept d d := ⟨rfl, rfl⟩

theorem ChannelKept.trans {a b c : Device} (h : ChannelKept a b) (h' : ChannelKept b c) : ChannelKept a c :=
  ⟨h'.channel.trans h.channel, h'.frequency.trans h.frequency⟩

theorem channelKept_apply {r : Request} (hr : ∀ c, r ≠ .channel c) (d : Device) : ChannelKept d (r.apply d) := by
  cases r with
  | channel c => exact absurd rfl (hr c)
  | datarate n => exact ⟨rfl, by rw [apply_datarate_radio]⟩
  | carrier enable =>
    refine ⟨rfl, ?_⟩
    simp only [Request.apply, esbSetContinuousCarrier]
    split
    · rfl
    split
    · rfl
    split
    · rfl
    · cases enable <;> rfl
  | sniffer on =>
    cases on with
    | true => exact ⟨rfl, (esbSnifferStart_tuning .snifferRxCallback d.esb).1⟩
    | false => exact ⟨rfl, (esbSnifferStop_tuning d.esb).1⟩
  | snifferAddress pipe1 a => cases pipe1 <;> exact ⟨rfl, rfl⟩
  | address a => exact ⟨rfl, rfl⟩
  | power p => exact ⟨rfl, rfl⟩
  | arc n => exact ⟨rfl, rfl⟩
  | ack enabled => exact ⟨rfl, rfl⟩
  | inlineMode v => exact ⟨rfl, rfl⟩
  | loss packetLoss ackLoss => exact ⟨rfl, rfl⟩
  | other => exact ⟨rfl, rfl⟩

theorem decode_channel {s : SetupCommand} (h : s.setsChannel = false) : ∀ c, s.decode ≠ .channel c := by
  refine s.decode_cases (P := fun r => ∀ c, r ≠ .channel c) ?_ ?_ ?_
  · intro hc
    exact absurd hc (of_decide_eq_false h)
  · intro _ c hc
    cases hc
  · intro r hr _
    exact hr

theorem channelKept_usbSend (env : Env) (d : Device) : ChannelKept d (usbSend env d).2 := by
  obtain ⟨pid, log, h⟩ := esbSendPacket_kept (env d.sends) d.usb d.esb
  refine ⟨rfl, ?_⟩
  show (esbSendPacket (env d.sends) d.usb d.esb).2.2.radio.frequency = _
  rw [h]

theorem channelKept_guardedSend (env : Env) (d : Device) : ChannelKept d (guardedSend env d) := by
  unfold guardedSend
  split
  · exact (channelKept_usbSend env d).trans ⟨by rw [capAck_state], by rw [capAck_esb]⟩
  · exact .refl d

theorem channelKept_data {env : Env} {c : DataCommand} {d d' : Device} (hs : d.state.snifferMode = false)
    (hi : d.state.inlineMode = false) (h : handleCommand env (.data c) d = .ok d') : ChannelKept d d' := by
  obtain ⟨d₁, b, p, hb, rfl⟩ := handleCommand_data_cases hs h
  have hg : ChannelKept d₁ ((guardedSend env d₁).answered (guardedBytes env d₁) b p) :=
    (channelKept_guardedSend env d₁).trans ⟨rfl, rfl⟩
  refine ChannelKept.trans ?_ hg
  rcases buildPacket_cases hb with ⟨hi', -, -⟩ | ⟨-, -, hl, rfl⟩ | ⟨-, -, rfl⟩
  · exact absurd (hi'.symm.trans hi) Bool.noConfusion
  · have hs := channelKept_usbSend env (d.load c.payload 0 (c.length / 2) hl)
    exact ⟨hs.channel, hs.frequency⟩
  · exact ⟨rfl, rfl⟩

theorem channelKept_snifferData {c : DataCommand} {d d' : Device} (h : snifferData c d = .ok d') :
    ChannelKept d d' := by
  rcases snifferData_cases h with ⟨-, rfl⟩ | ⟨-, rfl⟩
  · exact .refl _
  · refine ⟨rfl, ?_⟩
    show (esbSnifferSend (d.snifferLoad c).usb.packet c.snifferAddress d.esb).2.2.radio.frequency = _
    cases ha : d.esb.snifferActive with
    | true => rw [(esbSnifferSend_radio ha _ c.snifferAddress).1]
    | false => rw [esbSnifferSend_inactive ha]

theorem channelKept_act {env : Env} {d d' : Device} {a : Act} (ha : a.selectsChannel d = false)
    (h : d.act env a = .ok d') : ChannelKept d d' := by
  cases a with
  | command c =>
    cases c with
    | setup s =>
      obtain rfl := act_setup h
      exact channelKept_apply (decode_channel ha) d
    | data c =>
      cases hs : d.state.snifferMode with
      | true => exact channelKept_snifferData ((if_pos hs).symm.trans h)
      | false =>
        rw [Act.selectsChannel, hs] at ha
        exact channelKept_data hs ha h
  | scan start stop data =>
    have hlt : stop < start := UInt8.not_le.mp (of_decide_eq_false ha)
    cases h
    rw [fwScan_eq, if_pos hlt]
    exact ⟨rfl, rfl⟩
  | poll =>
    obtain ⟨queue, b, writes, hp⟩ := pollSniffer_spec d
    cases hp.symm.trans h
    exact ⟨rfl, rfl⟩
  | receive r =>
    cases h
    split
    · unfold radioIsrSniffer snifferRxCallback
      simp only
      split
      · split <;> exact ⟨rfl, rfl⟩
      · exact ⟨rfl, rfl⟩
    · exact .refl d

theorem channelKept_run {env : Env} : ∀ {as : List Act} {d d' : Device}, KeepsChannel env as d →
    d.run env as = .ok d' → ChannelKept d d'
  | [], d, d', _, h => by
    cases h
    exact .refl d
  | a :: as, d, d', hk, h => by
    rw [Device.run] at h
    cases ha : d.act env a with
    | error f =>
      rw [ha] at h
      cases h
    | ok d₁ =>
      rw [ha] at h
      exact (channelKept_act hk.1 ha).trans (channelKept_run (hk.2 d₁ ha) h)

/-! ## A data command behind the scan -/

/-- The packets of a normal data command are handed to the driver, and what the driver puts on the air
goes out on this channel. -/
structure TransmittedOn (env : Env) (c : DataCommand) (d d' : Device) (k : Nat) : Prop where
  handed : (sendCalls env c d).length = if d.broadcasts c then 2 else 1
  frequency : ∀ m ∈ messages (sendCalls env c d) d.esb, ∀ t ∈ m, t.radio.frequency = 2400 + k
  onAir : transmissions d'.esb.log = transmissions d.esb.log ++ (messages (sendCalls env c d) d.esb).flatten
  aired : d.passes env 0 → transmissions d'.esb.log ≠ transmissions d.esb.log

/-- The command is transmitted on channel `k` if the radio can be tuned to it, and not at all if not. -/
def ReflectsChannel (env : Env) (c : DataCommand) (d d' : Device) (k : Nat) : Prop :=
  if k ≤ 100 then TransmittedOn env c d d' k
  else d'.sends = d.sends ∧ transmissions d'.esb.log = transmissions d.esb.log

/-- Packets handed to the driver one behind the other go out on one frequency. -/
theorem messages_radio {calls : List EsbCall} (h : ∀ call ∈ calls, ∃ x b, call = .sendPacket x b) (e : Esb) :
    ∀ m ∈ messages calls e, ∀ t ∈ m, t.radio = e.radio := by
  induction calls generalizing e with
  | nil => exact fun m hm => absurd hm List.not_mem_nil
  | cons call calls ih =>
    obtain ⟨x, b, rfl⟩ := h call List.mem_cons_self
    have hrest := ih (fun call hc => h call (List.mem_cons_of_mem _ hc)) ((EsbCall.sendPacket x b).apply e)
    have hradio : ((EsbCall.sendPacket x b).apply e).radio = e.radio := by
      obtain ⟨pid, log, he⟩ := esbSendPacket_kept x b e
      simp only [EsbCall.apply, he]
    rw [hradio] at hrest
    rw [messages_cons]
    split
    · rename_i hstart
      intro m hm t ht
      rcases List.mem_cons.mp hm with rfl | hm
      · rw [sent_sendPacket hstart b] at ht
        rw [List.eq_of_mem_replicate ht]
        rfl
      · exact hrest m hm t ht
    · exact hrest

section Data

variable {env : Env} {c : DataCommand} {d d' : Device}

/-- The calls of a normal data command: the first half of a broadcast in front of the guard, everything
else behind it. -/
theorem sendCalls_normal (hs : d.state.snifferMode = false) (hi : d.state.inlineMode = false)
    (h : handleCommand env (.data c) d = .ok d') : ∃ (b b' : SendBuffers) (x' : Exchange), sendCalls env c d =
      if d.broadcasts c then
        .sendPacket (env d.sends) b :: if d.state.handled then [.sendPacket x' b'] else []
      else if d.state.handled then [.sendPacket (env d.sends) b] else [] := by
  obtain ⟨d₁, b, p, hb, rfl⟩ := handleCommand_data_cases hs h
  rw [sendCalls_ok hb]
  rcases buildPacket_cases hb with ⟨hi', -, -⟩ | ⟨-, hc, hl, rfl⟩ | ⟨-, hc, rfl⟩
  · exact absurd (hi'.symm.trans hi) Bool.noConfusion
  · let d₁ := (usbSend env (d.load c.payload 0 (c.length / 2) hl)).2
    refine ⟨(d.load c.payload 0 (c.length / 2) hl).usb, (d₁.load c.payload (c.length / 2) (c.length / 2) hl).usb,
      env (d.sends + 1), ?_⟩
    rw [buildCalls_broadcast hi hc hl, if_pos hc]
    rfl
  · refine ⟨(d.load c.payload 0 (min c.length 32) (by omega)).usb, {}, env 0, ?_⟩
    rw [buildCalls_plain hi hc, if_neg (Bool.eq_false_iff.mp hc)]
    rfl

theorem sendCalls_sends (hs : d.state.snifferMode = false) (hi : d.state.inlineMode = false)
    (h : handleCommand env (.data c) d = .ok d') : ∀ call ∈ sendCalls env c d, ∃ x b, call = .sendPacket x b := by
  obtain ⟨b, b', x', hcalls⟩ := sendCalls_normal hs hi h
  rw [hcalls]
  cases d.broadcasts c <;> cases d.state.handled <;> simp

theorem length_sendCalls (hs : d.state.snifferMode = false) (hi : d.state.inlineMode = false)
    (h : handleCommand env (.data c) d = .ok d') : (sendCalls env c d).length =
      (if d.broadcasts c then 1 else 0) + if d.state.handled then 1 else 0 := by
  obtain ⟨b, b', x', hcalls⟩ := sendCalls_normal hs hi h
  rw [hcalls]
  cases d.broadcasts c <;> cases d.state.handled <;> rfl

/-- What the calls put on the air. -/
theorem sendCalls_onAir (hs : d.state.snifferMode = false) (hi : d.state.inlineMode = false)
    (h : handleCommand env (.data c) d = .ok d') :
    transmissions d'.esb.log = transmissions d.esb.log ++ (messages (sendCalls env c d) d.esb).flatten := by
  rw [(sendCalls_after hs hi h).1]
  exact transmissions_after (sendCalls env c d) d.esb

/-- Behind the guard the command goes out, on the frequency the radio is tuned to. -/
theorem transmittedOn_handled (hs : d.state.snifferMode = false) (hi : d.state.inlineMode = false)
    (hh : d.state.handled = true) (h : handleCommand env (.data c) d = .ok d') {k : Nat}
    (hk : d.esb.radio.frequency = 2400 + k) : TransmittedOn env c d d' k where
  handed := by
    rw [length_sendCalls hs hi h, if_pos hh]
    cases d.broadcasts c <;> rfl
  frequency := fun m hm t ht => by
    rw [messages_radio (sendCalls_sends hs hi h) d.esb m hm t ht, hk]
  onAir := sendCalls_onAir hs hi h
  aired := fun hp => by
    obtain ⟨b, b', x', hcalls⟩ := sendCalls_normal hs hi h
    obtain ⟨calls, hcalls⟩ : ∃ calls, sendCalls env c d = .sendPacket (env d.sends) b :: calls := by
      rw [hcalls, if_pos hh, if_pos hh]
      cases d.broadcasts c <;> exact ⟨_, rfl⟩
    have hstart : (EsbCall.sendPacket (env d.sends) b).starts d.esb = true := hp
    obtain ⟨hne, -, -⟩ := started hstart
    rw [sendCalls_onAir hs hi h, hcalls, messages_cons, if_pos hstart, List.flatten_cons]
    simp [hne]

/-- A normal data command with a supported data rate reflects a channel the radio is on: the guard must
say the same of it as of the one selected. -/
theorem reflectsChannel_iff (hs : d.state.snifferMode = false) (hi : d.state.inlineMode = false)
    (hr : d.state.datarate ≠ 0) (h : handleCommand env (.data c) d = .ok d') {k : Nat}
    (hk : k ≤ 100 → d.esb.radio.frequency = 2400 + k) : ReflectsChannel env c d d' k ↔
      (k ≤ 100 ∧ d.state.channel ≤ 100) ∨ (100 < k ∧ 100 < d.state.channel ∧ d.broadcasts c = false) := by
  have hlen := length_sendCalls hs hi h
  have hsends := (sendCalls_after hs hi h).2
  have hh : d.state.handled = decide (d.state.channel ≤ 100) := by
    rw [State.handled, decide_eq_true hr, Bool.true_and]
  unfold ReflectsChannel
  by_cases h100 : k ≤ 100
  · rw [if_pos h100, and_iff_right h100, or_iff_left (fun hc => absurd hc.1 (Nat.not_lt.mpr h100))]
    constructor
    · intro ht
      by_contra hc
      rw [decide_eq_false hc] at hh
      have hhanded := ht.handed
      rw [hlen, hh] at hhanded
      cases hb : d.broadcasts c <;> simp [hb] at hhanded
    · intro hc
      exact transmittedOn_handled hs hi (hh.trans (decide_eq_true hc)) h (hk h100)
  · rw [if_neg h100, or_iff_right (fun hc => h100 hc.1), and_iff_right (Nat.lt_of_not_le h100)]
    constructor
    · rintro ⟨hn, -⟩
      rw [hn] at hsends
      have hzero : (sendCalls env c d).length = 0 := by omega
      rw [hlen, Nat.add_eq_zero_iff] at hzero
      obtain ⟨hb, hg⟩ := hzero
      refine ⟨UInt8.not_le.mp fun hc => ?_, ?_⟩
      · rw [hh, decide_eq_true hc] at hg
        cases hg
      · cases hbc : d.broadcasts c with
        | false => rfl
        | true => rw [hbc] at hb; cases hb
    · rintro ⟨hc, hb⟩
      rw [decide_eq_false (UInt8.not_le.mpr hc)] at hh
      rw [hb, hh] at hlen
      have hnil := List.length_eq_zero_iff.mp hlen
      refine ⟨by rw [hsends, hnil]; rfl, ?_⟩
      rw [sendCalls_onAir hs hi h, hnil]
      exact List.append_nil _

end Data

/-- Behind a scan, until another channel is selected, the current channel is the last scanned one exactly
when the channel selected before lies on the same side of 100, and above 100 no broadcast is split. -/
theorem last_scanned_current_iff {env : Env} {start stop : UInt8} {data : List UInt8} {d d₁ d₂ : Device}
    {as : List Act} {c : DataCommand} (hle : start ≤ stop) (hrun : (fwScan env start stop data d).run env as = .ok d₁)
    (hkeep : KeepsChannel env as (fwScan env start stop data d)) (hs : d₁.state.snifferMode = false)
    (hi : d₁.state.inlineMode = false) (hr : d₁.state.datarate ≠ 0) (h : handleCommand env (.data c) d₁ = .ok d₂) :
    (fwScanCalls env start stop data d).getLast?.map ScanCall.channel = some (d.lastScanned env start stop) ∧
      (ReflectsChannel env c d₁ d₂ (d.lastScanned env start stop) ↔
        (d.lastScanned env start stop ≤ 100 ∧ d.state.channel ≤ 100) ∨
          (100 < d.lastScanned env start stop ∧ 100 < d.state.channel ∧ d₁.broadcasts c = false)) := by
  refine ⟨fwScanCalls_last env data d hle, ?_⟩
  have hkept := channelKept_run hkeep hrun
  have hfreq : d.lastScanned env start stop ≤ 100 → d₁.esb.radio.frequency = 2400 + d.lastScanned env start stop :=
    fun h100 => hkept.frequency.trans (fwScan_frequency env data d hle h100)
  have hchannel : d₁.state.channel = d.state.channel :=
    hkept.channel.trans (kept_fwScan env start stop data d).channel
  rw [← hchannel]
  exact reflectsChannel_iff hs hi hr h hfreq

theorem oneByte_fits : 0 + [(1 : UInt8)].length ≤ 128 := by decide

/-- A data command of one byte. -/
def oneByte : DataCommand := DataCommand.empty.store 0 [1] oneByte_fits

/-- The device behind a scan without answers, the first thing after boot. -/
def silentScan (start stop : UInt8) : Device := fwScan (fun _ => .silent) start stop [0] boot

theorem kept_silentScan (start stop : UInt8) : Kept boot (silentScan start stop) :=
  kept_fwScan (fun _ => .silent) start stop [0] boot

/-- It takes a normal data command. -/
theorem silentScan_normal (start stop : UInt8) : (silentScan start stop).state.snifferMode = false ∧
    (silentScan start stop).state.inlineMode = false ∧ (silentScan start stop).state.datarate ≠ 0 ∧
    ∃ d₂, handleCommand (fun _ => .silent) (.data oneByte) (silentScan start stop) = .ok d₂ := by
  have hkept := kept_silentScan start stop
  have hs : (silentScan start stop).state.snifferMode = false := hkept.snifferMode
  have hi : (silentScan start stop).state.inlineMode = false := hkept.inlineMode
  have ha : (silentScan start stop).state.ackEnabled = true := hkept.ackEnabled
  have hr : (silentScan start stop).state.datarate = 2 := hkept.datarate
  refine ⟨hs, hi, by rw [hr]; decide, (handleCommand_data_isOk_iff (fun _ => .silent) oneByte hs).mpr ?_⟩
  rw [Device.copies, hi, Device.broadcasts, ha]
  rfl

theorem last_scanned_current_iff_silent : ∃ d₂,
    handleCommand (fun _ => .silent) (.data oneByte) (silentScan 10 12) = .ok d₂ ∧
      (ReflectsChannel (fun _ => .silent) oneByte (silentScan 10 12) d₂ (boot.lastScanned (fun _ => .silent) 10 12) ↔
        (boot.lastScanned (fun _ => .silent) 10 12 ≤ 100 ∧ boot.state.channel ≤ 100) ∨
          (100 < boot.lastScanned (fun _ => .silent) 10 12 ∧ 100 < boot.state.channel ∧
            (silentScan 10 12).broadcasts oneByte = false)) := by
  obtain ⟨hs, hi, hr, d₂, hd⟩ := silentScan_normal 10 12
  have hrun : (silentScan 10 12).run (fun _ => .silent) [] = .ok (silentScan 10 12) := rfl
  exact ⟨d₂, hd, (last_scanned_current_iff (by decide) hrun trivial hs hi hr hd).2⟩

/-- Behind a scan of channel 101 a command is still transmitted, on channel 42. -/
theorem transmitted_behind_scan : ¬ ∀ (env : Env) (as₀ as : List Act) (start stop : UInt8) (data : List UInt8)
    (d d₁ d₂ : Device) (c : DataCommand), boot.run env as₀ = .ok d → start ≤ stop →
      (fwScan env start stop data d).run env as = .ok d₁ → KeepsChannel env as (fwScan env start stop data d) →
      d₁.state.snifferMode = false → d₁.state.inlineMode = false → d₁.state.datarate ≠ 0 →
      handleCommand env (.data c) d₁ = .ok d₂ → ReflectsChannel env c d₁ d₂ (d.lastScanned env start stop) := by
  intro hall
  have hk : boot.lastScanned (fun _ => .silent) 101 101 = 101 := by decide
  have hch : (silentScan 101 101).state.channel = 42 := (kept_silentScan 101 101).channel
  obtain ⟨hs, hi, hr, d₂, hd⟩ := silentScan_normal 101 101
  have h := hall (fun _ => .silent) [] [] 101 101 [0] boot (silentScan 101 101) d₂ oneByte rfl (by decide) rfl
    trivial hs hi hr hd
  rw [hk] at h
  have hc := (reflectsChannel_iff hs hi hr hd (fun h100 => absurd h100 (by decide))).mp h
  have h42 := (hc.resolve_left (by decide)).2.1
  rw [hch] at h42
  exact absurd h42 (by decide)

end Crazyradio.Usb
