/-
What holds of the device in every state a run reaches. `Kept` is the frame of everything that is
not a settings change: sends, answers, scans, receptions. `DevInv` ties the driver's statics to
`state`, and `Tracks` ties `state` to what the host selected. What the two threads do to the device
is a run of acts (`reachable_devReachable`), so these hold of every reachable system.
-/
import Crazyradio.Usb.Steps

namespace Crazyradio.Usb

open Bytes

/-! ## The frame -/

/-- The settings of `d'` are those of `d`. -/
structure Kept (d d' : Device) : Prop where
  datarate : d'.state.datarate = d.state.datarate
  channel : d'.state.channel = d.state.channel
  ackEnabled : d'.state.ackEnabled = d.state.ackEnabled
  inlineMode : d'.state.inlineMode = d.state.inlineMode
  inlineRssiMode : d'.state.inlineRssiMode = d.state.inlineRssiMode
  snifferMode : d'.state.snifferMode = d.state.snifferMode
  isInit : d'.esb.isInit = d.esb.isInit
  driverAck : d'.esb.ackEnabled = d.esb.ackEnabled
  snifferActive : d'.esb.snifferActive = d.esb.snifferActive
  maxlen : d'.esb.radio.maxlen = d.esb.radio.maxlen

theorem Kept.refl (d : Device) : Kept d d := ⟨rfl, rfl, rfl, rfl, rfl, rfl, rfl, rfl, rfl, rfl⟩

theorem Kept.trans {a b c : Device} (h1 : Kept a b) (h2 : Kept b c) : Kept a c :=
  ⟨h2.datarate.trans h1.datarate, h2.channel.trans h1.channel, h2.ackEnabled.trans h1.ackEnabled,
    h2.inlineMode.trans h1.inlineMode, h2.inlineRssiMode.trans h1.inlineRssiMode,
    h2.snifferMode.trans h1.snifferMode, h2.isInit.trans h1.isInit, h2.driverAck.trans h1.driverAck,
    h2.snifferActive.trans h1.snifferActive, h2.maxlen.trans h1.maxlen⟩

theorem kept_load (d : Device) (payload : Buf 128) {off n : Nat} (h : n ≤ 63) : Kept d (d.load payload off n h) :=
  ⟨rfl, rfl, rfl, rfl, rfl, rfl, rfl, rfl, rfl, rfl⟩

/-- A call of `esb_send_packet` changes the PID and the log only. -/
theorem esbSendPacket_kept (x : Exchange) (b : SendBuffers) (e : Esb) :
    ∃ (pid : UInt8) (log : List RadioEvent), (esbSendPacket x b e).2.2 = { e with pid, log } := by
  cases h : e.sends x.packetDraw with
  | false => exact ⟨e.pid, e.log, by rw [esbSendPacket_exit h]⟩
  | true => exact ⟨_, _, esbSendPacket_esb h b⟩

theorem kept_usbSend (env : Env) (d : Device) : Kept d (usbSend env d).2 := by
  obtain ⟨pid, log, h⟩ := esbSendPacket_kept (env d.sends) d.usb d.esb
  have he : (usbSend env d).2.esb = { d.esb with pid, log } := h
  exact ⟨rfl, rfl, rfl, rfl, rfl, rfl, by rw [he], by rw [he], by rw [he], by rw [he]⟩

theorem kept_scanSend (env : Env) (d : Device) : Kept d (scanSend env d).2 := by
  obtain ⟨pid, log, h⟩ := esbSendPacket_kept (env d.sends) d.scan d.esb
  have he : (scanSend env d).2.esb = { d.esb with pid, log } := h
  exact ⟨rfl, rfl, rfl, rfl, rfl, rfl, by rw [he], by rw [he], by rw [he], by rw [he]⟩

theorem kept_capAck (d : Device) : Kept d (capAck d) := by
  unfold capAck
  split
  · exact ⟨rfl, rfl, rfl, rfl, rfl, rfl, rfl, rfl, rfl, rfl⟩
  · exact Kept.refl d

theorem kept_answered (d : Device) (bytes : Option (List UInt8)) (b : Buf 128) (p : Buf 33) :
    Kept d (d.answered bytes b p) := ⟨rfl, rfl, rfl, rfl, rfl, rfl, rfl, rfl, rfl, rfl⟩

theorem kept_guardedSend (env : Env) (d : Device) : Kept d (guardedSend env d) := by
  unfold guardedSend
  split
  · exact (kept_usbSend env d).trans (kept_capAck _)
  · exact Kept.refl d

/-- A sniffer-mode send changes the PID, the log and the address registers only. -/
theorem esbSnifferSend_kept (packet : EsbPacket) (address : Buf 5) (e : Esb) :
    ∃ (pid : UInt8) (log : List RadioEvent) (radio : Radio),
      (esbSnifferSend packet address e).2.2 = { e with pid, log, radio } ∧ radio.maxlen = e.radio.maxlen := by
  by_cases h : e.snifferActive = true
  · obtain ⟨r, log, he, hm, -⟩ := esbSnifferSend_active h packet address
    exact ⟨_, _, r, he, hm⟩
  · exact ⟨e.pid, e.log, e.radio, by rw [esbSnifferSend_inactive (eq_false_of_ne_true h)], rfl⟩

theorem kept_snifferData {c : DataCommand} {d d' : Device} (h : snifferData c d = .ok d') : Kept d d' := by
  rcases snifferData_cases h with ⟨-, rfl⟩ | ⟨-, rfl⟩
  · exact Kept.refl _
  · obtain ⟨pid, log, radio, he, hm⟩ := esbSnifferSend_kept (d.snifferLoad c).usb.packet c.snifferAddress d.esb
    rw [he]
    exact ⟨rfl, rfl, rfl, rfl, rfl, rfl, rfl, rfl, rfl, hm⟩

theorem kept_pollSniffer {d d' : Device} (h : pollSniffer d = .ok d') : Kept d d' := by
  obtain ⟨q, b, w, hp⟩ := pollSniffer_spec d
  rw [hp] at h
  cases h
  exact ⟨rfl, rfl, rfl, rfl, rfl, rfl, rfl, rfl, rfl, rfl⟩

theorem kept_setChannel (channel : UInt8) (d : Device) : Kept d { d with esb := esbSetChannel channel d.esb } := by
  unfold esbSetChannel
  split <;> exact ⟨rfl, rfl, rfl, rfl, rfl, rfl, rfl, rfl, rfl, rfl⟩

theorem kept_fwScanLoop (env : Env) : ∀ (n channel : Nat) (d : Device), Kept d (fwScanLoop env n channel d)
  | 0, _, d => Kept.refl d
  | n + 1, channel, d => by
    have hc : Kept d (d.scanTuned channel) := kept_setChannel (UInt8.ofNat channel) d
    have hs := hc.trans (kept_scanSend env (d.scanTuned channel))
    have hhit : ∀ d : Device, Kept d (d.scanHit channel) := fun _ => ⟨rfl, rfl, rfl, rfl, rfl, rfl, rfl, rfl, rfl, rfl⟩
    rw [fwScanLoop_succ]
    split
    · split
      · exact hs.trans (hhit _)
      · exact (hs.trans (hhit _)).trans (kept_fwScanLoop env n _ _)
    · exact hs.trans (kept_fwScanLoop env n _ _)

theorem kept_fwScan (env : Env) (start stop : UInt8) (data : List UInt8) (d : Device) :
    Kept d (fwScan env start stop data d) := by
  unfold fwScan
  simp only
  split
  · exact ⟨rfl, rfl, rfl, rfl, rfl, rfl, rfl, rfl, rfl, rfl⟩
  · refine Kept.trans ?_ (kept_fwScanLoop env _ _ _)
    exact ⟨rfl, rfl, rfl, rfl, rfl, rfl, rfl, rfl, rfl, rfl⟩

theorem kept_radioIsrSniffer (r : Reception) (d : Device) : Kept d (radioIsrSniffer r d) := by
  unfold radioIsrSniffer snifferRxCallback
  simp only
  split
  · split <;> exact ⟨rfl, rfl, rfl, rfl, rfl, rfl, rfl, rfl, rfl, rfl⟩
  · exact ⟨rfl, rfl, rfl, rfl, rfl, rfl, rfl, rfl, rfl, rfl⟩

/-! ## A data command and its settings -/

/-- The device once the settings part of a data command is done. -/
def Device.settled (d : Device) (c : DataCommand) : Device :=
  if d.state.inlineMode then inlineSettings (inlineModeOutHeader c.payload) d else d

theorem kept_buildPacket {env : Env} {c : DataCommand} {d d' : Device} (h : buildPacket env c d = .ok d') :
    Kept (d.settled c) d' := by
  unfold Device.settled
  rcases buildPacket_cases h with ⟨hi, -, rfl⟩ | ⟨hi, -, hl, rfl⟩ | ⟨hi, -, rfl⟩
  · rw [if_pos hi]
    exact kept_load _ c.payload _
  · rw [if_neg (Bool.eq_false_iff.mp hi)]
    exact (kept_load d c.payload hl).trans ((kept_usbSend env _).trans (kept_load _ c.payload hl))
  · rw [if_neg (Bool.eq_false_iff.mp hi)]
    exact kept_load d c.payload _

theorem settled_snifferMode (d : Device) (c : DataCommand) : (d.settled c).state.snifferMode = d.state.snifferMode := by
  unfold Device.settled; split <;> rfl

/-- A data command outside sniffer mode changes no settings but those of an inline header. -/
theorem kept_handleCommand_data {env : Env} {c : DataCommand} {d d' : Device} (hs : d.state.snifferMode = false)
    (h : handleCommand env (.data c) d = .ok d') : Kept (d.settled c) d' := by
  obtain ⟨d₁, b, p, hb, rfl⟩ := handleCommand_data_cases hs h
  exact (kept_buildPacket hb).trans ((kept_guardedSend env d₁).trans (kept_answered _ _ b p))

/-! ## The invariant -/

/-- The driver's statics go with `state`. -/
structure DevInv (d : Device) : Prop where
  isInit : d.esb.isInit = true
  ack : d.esb.ackEnabled = d.state.ackEnabled
  sniffer : d.esb.snifferActive = d.state.snifferMode
  maxlen : d.esb.radio.maxlen = if d.state.snifferMode then 63 else 32

theorem devInv_boot : DevInv boot := ⟨rfl, rfl, rfl, rfl⟩

theorem DevInv.of_kept {d d' : Device} (h : DevInv d) (k : Kept d d') : DevInv d' :=
  ⟨k.isInit.trans h.isInit, (k.driverAck.trans h.ack).trans k.ackEnabled.symm,
    (k.snifferActive.trans h.sniffer).trans k.snifferMode.symm, by rw [k.maxlen, k.snifferMode]; exact h.maxlen⟩

/-- A command of sniffer mode puts its packet on the air. -/
theorem snifferData_sent {c : DataCommand} {d d' : Device} (hv : DevInv d) (hs : d.state.snifferMode = true)
    (h : snifferData c d = .ok d') :
    c.length < 6 ∧ d' = d ∨ 6 ≤ c.length ∧ transmissions d'.esb.log =
      transmissions d.esb.log ++ [snifferTransmission (d.snifferLoad c).usb.packet c.snifferAddress d.esb] := by
  rcases snifferData_cases h with hshort | ⟨hl, rfl⟩
  · exact .inl hshort
  · obtain ⟨r, log, he, -, ht⟩ :=
      esbSnifferSend_active (hv.sniffer.trans hs) (d.snifferLoad c).usb.packet c.snifferAddress
    rw [he, ← ht]
    exact .inr ⟨hl, transmissions_append _ _⟩

theorem Tracks.of_kept {v : HostView} {d d' : Device} (h : Tracks v d.state) (k : Kept d d') :
    Tracks v d'.state := by
  refine ⟨k.channel.trans h.channel, k.datarate.trans h.datarate, h.rate_lt, k.ackEnabled.trans h.ack, ?_,
    k.snifferMode.trans h.sniffer⟩
  rw [← h.format]
  unfold State.format
  rw [k.inlineMode, k.inlineRssiMode]

theorem esbSetChannel_kept (channel : UInt8) (e : Esb) : ∃ (radio : Radio) (log : List RadioEvent),
    esbSetChannel channel e = { e with radio, log } ∧ radio.maxlen = e.radio.maxlen := by
  unfold esbSetChannel
  split
  · exact ⟨_, _, rfl, rfl⟩
  · exact ⟨e.radio, e.log, rfl, rfl⟩

theorem esbSetBitrate_kept (bitrate : UInt8) (e : Esb) : ∃ (radio : Radio) (log : List RadioEvent),
    esbSetBitrate bitrate e = { e with radio, log } ∧ radio.maxlen = e.radio.maxlen := by
  unfold esbSetBitrate
  split
  · exact ⟨_, _, rfl, rfl⟩
  · split
    · exact ⟨_, _, rfl, rfl⟩
    · exact ⟨e.radio, e.log, rfl, rfl⟩

theorem devInv_inlineSettings {d : Device} (h : DevInv d) (hd : InlineModeOutHeader) :
    DevInv (inlineSettings hd d) := by
  obtain ⟨r₁, l₁, h₁, m₁⟩ := esbSetChannel_kept hd.channel d.esb
  obtain ⟨r₂, l₂, h₂, m₂⟩ := esbSetBitrate_kept (UInt8.ofNat hd.datarate) { d.esb with radio := r₁, log := l₁ }
  unfold inlineSettings
  simp only
  rw [h₁, h₂]
  exact ⟨h.isInit, rfl, h.sniffer, (m₂.trans m₁).trans h.maxlen⟩

theorem devInv_settled {d : Device} (h : DevInv d) (c : DataCommand) : DevInv (d.settled c) := by
  unfold Device.settled
  split
  · exact devInv_inlineSettings h _
  · exact h

/-- Entering sniffer mode from any state that is initialised. -/
theorem esbSnifferStart_spec {e : Esb} (hi : e.isInit = true)
    (hm : e.radio.maxlen = if e.snifferActive then 63 else 32) (cb : EsbSnifferRxCb) :
    (esbSnifferStart cb e).isInit = true ∧ (esbSnifferStart cb e).ackEnabled = e.ackEnabled ∧
      (esbSnifferStart cb e).snifferActive = true ∧ (esbSnifferStart cb e).radio.maxlen = 63 := by
  unfold esbSnifferStart
  rw [hi]
  by_cases ha : e.snifferActive = true
  · rw [ha] at hm
    rw [if_pos (by rw [ha]; rfl)]
    exact ⟨hi, rfl, ha, hm⟩
  · rw [if_neg (by rw [eq_false_of_ne_true ha]; decide)]
    exact ⟨rfl, rfl, rfl, rfl⟩

theorem esbSnifferStop_spec {e : Esb} (hi : e.isInit = true)
    (hm : e.radio.maxlen = if e.snifferActive then 63 else 32) :
    (esbSnifferStop e).isInit = true ∧ (esbSnifferStop e).ackEnabled = e.ackEnabled ∧
      (esbSnifferStop e).snifferActive = false ∧ (esbSnifferStop e).radio.maxlen = 32 := by
  unfold esbSnifferStop
  by_cases ha : e.snifferActive = true
  · rw [if_neg (by rw [ha]; decide)]
    exact ⟨hi, rfl, rfl, rfl⟩
  · have ha := eq_false_of_ne_true ha
    rw [ha] at hm
    rw [if_pos (by rw [ha]; rfl)]
    exact ⟨hi, rfl, ha, hm⟩

theorem esbSetContinuousCarrier_kept (enable : Bool) (e : Esb) : ∃ (carrier : Bool) (log : List RadioEvent),
    (esbSetContinuousCarrier enable e).2 = { e with continuousCarrierEnabled := carrier, log } := by
  unfold esbSetContinuousCarrier
  split
  · exact ⟨e.continuousCarrierEnabled, e.log, rfl⟩
  split
  · exact ⟨e.continuousCarrierEnabled, e.log, rfl⟩
  split
  · exact ⟨e.continuousCarrierEnabled, e.log, rfl⟩
  · cases enable <;> exact ⟨_, _, rfl⟩

/-- A request keeps the driver's statics in step with `state`. -/
theorem devInv_apply {d : Device} (h : DevInv d) (r : Request) : DevInv (r.apply d) := by
  obtain ⟨hi, ha, hs, hm⟩ := h
  have hm' : d.esb.radio.maxlen = if d.esb.snifferActive then 63 else 32 := by rw [hs]; exact hm
  cases r with
  | channel c =>
    obtain ⟨r, l, he, hr⟩ := esbSetChannel_kept c.toUInt8 d.esb
    simp only [Request.apply]
    split
    · rw [he]; exact ⟨hi, ha, hs, hr.trans hm⟩
    · exact ⟨hi, ha, hs, hm⟩
  | address a => exact ⟨hi, ha, hs, hm⟩
  | datarate n =>
    simp only [Request.apply]
    split
    · obtain ⟨r, l, he, hr⟩ := esbSetBitrate_kept radioBitrate1M d.esb
      rw [he]; exact ⟨hi, ha, hs, hr.trans hm⟩
    · split
      · obtain ⟨r, l, he, hr⟩ := esbSetBitrate_kept radioBitrate2M d.esb
        rw [he]; exact ⟨hi, ha, hs, hr.trans hm⟩
      · exact ⟨hi, ha, hs, hm⟩
  | ack enabled => exact ⟨hi, rfl, hs, hm⟩
  | sniffer on =>
    cases on with
    | true =>
      obtain ⟨h1, h2, h3, h4⟩ := esbSnifferStart_spec hi hm' .snifferRxCallback
      exact ⟨h1, h2.trans ha, h3, h4⟩
    | false =>
      obtain ⟨h1, h2, h3, h4⟩ := esbSnifferStop_spec hi hm'
      exact ⟨h1, h2.trans ha, h3, h4⟩
  | inlineMode m => exact ⟨hi, ha, hs, hm⟩
  | snifferAddress pipe1 a => cases pipe1 <;> exact ⟨hi, ha, hs, hm⟩
  | power p => exact ⟨hi, ha, hs, hm⟩
  | arc n => exact ⟨hi, ha, hs, hm⟩
  | carrier enable =>
    obtain ⟨c, l, he⟩ := esbSetContinuousCarrier_kept enable d.esb
    simp only [Request.apply]
    rw [he]
    exact ⟨hi, ha, hs, hm⟩
  | loss p a => exact ⟨hi, ha, hs, hm⟩
  | other => exact ⟨hi, ha, hs, hm⟩

/-! ## Runs -/

/-- The data commands of the view are inline ones exactly when those of the device are. -/
theorem Tracks.inline {v : HostView} {s : State} (h : Tracks v s) : v.inline = (!s.snifferMode && s.inlineMode) := by
  unfold HostView.inline
  rw [← h.sniffer, ← h.format]
  cases hi : s.inlineMode with
  | false => rw [State.format_plain hi]; rfl
  | true =>
    have : s.format ≠ .plain := by rw [Ne, State.format_eq_plain_iff, hi]; exact Bool.noConfusion
    rw [decide_eq_true this]

/-- `state` holds what the host selected and the driver goes with it. -/
def Settled (v : HostView) (d : Device) : Prop := Tracks v d.state ∧ DevInv d

theorem Settled.of_kept {v : HostView} {d d' : Device} (h : Settled v d) (k : Kept d d') : Settled v d' :=
  ⟨h.1.of_kept k, h.2.of_kept k⟩

theorem HostView.after_data (v : HostView) (c : DataCommand) :
    v.after (.command (.data c)) = if v.inline then (inlineModeOutHeader c.payload).select v else v := rfl

/-- The settings of a data command, as the host and as the device see them. -/
theorem settled_settings {v : HostView} {d : Device} (h : Settled v d) (hs : d.state.snifferMode = false)
    (c : DataCommand) : Settled (v.after (.command (.data c))) (d.settled c) := by
  rw [HostView.after_data, h.1.inline, hs, Bool.not_false, Bool.true_and]
  unfold Device.settled
  split
  · exact ⟨tracks_inlineSettings h.1 _, devInv_inlineSettings h.2 _⟩
  · exact h

/-- One act. -/
theorem settled_act (env : Env) {v : HostView} {d d' : Device} {a : Act} (h : Settled v d)
    (hd : d.act env a = .ok d') : Settled (v.after a) d' := by
  cases a with
  | command c =>
    cases c with
    | setup s =>
      obtain rfl := act_setup hd
      exact ⟨tracks_apply h.1 s.decode fun n hn => Nat.lt_succ_of_lt (decode_datarate_lt s n hn),
        devInv_apply h.2 s.decode⟩
    | data c =>
      cases hs : d.state.snifferMode with
      | true =>
        have hk : Kept d d' := kept_snifferData ((if_pos hs).symm.trans hd)
        rw [HostView.after_data, h.1.inline, hs,
          if_neg (by rw [Bool.not_true, Bool.false_and]; exact Bool.false_ne_true)]
        exact h.of_kept hk
      | false => exact (settled_settings h hs c).of_kept (kept_handleCommand_data hs hd)
  | scan start stop data => cases hd; exact h.of_kept (kept_fwScan env start stop data d)
  | poll => exact h.of_kept (kept_pollSniffer hd)
  | receive r =>
    cases hd
    split
    · exact h.of_kept (kept_radioIsrSniffer r d)
    · exact h

/-- What every act preserves holds behind every run. -/
theorem run_induction {env : Env} {P : HostView → Device → Prop}
    (step : ∀ {v d a d'}, P v d → d.act env a = .ok d' → P (v.after a) d') :
    ∀ (as : List Act) {v : HostView} {d d' : Device}, P v d → d.run env as = .ok d' → P (v.afterAll as) d'
  | [], v, d, d', h, hd => by cases hd; exact h
  | a :: as, v, d, d', h, hd => by
    unfold Device.run at hd
    cases ha : d.act env a with
    | error f => rw [ha] at hd; exact nomatch hd
    | ok d₁ =>
      rw [ha] at hd
      exact run_induction (P := P) step as (step h ha) hd

theorem settled_run {env : Env} {as : List Act} {d : Device} (h : boot.run env as = .ok d) :
    Settled (HostView.afterAll {} as) d :=
  run_induction (P := Settled) (settled_act env) as ⟨tracks_boot, devInv_boot⟩ h

/-- What holds of the device in every reachable state: of the settings, for some view the host has. -/
theorem DevReachable.settled {env : Env} {d : Device} (h : DevReachable env d) : ∃ v, Settled v d := by
  obtain ⟨as, -, hr⟩ := h
  exact ⟨_, settled_run hr⟩

/-! ## From the two threads to acts -/

theorem run_append (env : Env) : ∀ (as bs : List Act) (d : Device),
    d.run env (as ++ bs) = d.run env as >>= fun d' => d'.run env bs
  | [], _, _ => rfl
  | a :: as, bs, d => by
    simp only [List.cons_append, Device.run]
    cases d.act env a with
    | error f => rfl
    | ok d' => exact run_append env as bs d'

/-- The last act of a run. -/
theorem run_cons {env : Env} {as : List Act} {a : Act} {d d' : Device} :
    d.run env (a :: as) = .ok d' ↔ ∃ d₁, d.act env a = .ok d₁ ∧ d₁.run env as = .ok d' := by
  constructor
  · intro h
    unfold Device.run at h
    cases h₁ : d.act env a with
    | error f => rw [h₁] at h; cases h
    | ok d₁ =>
      rw [h₁] at h
      exact ⟨d₁, rfl, h⟩
  · rintro ⟨d₁, h₁, h⟩
    unfold Device.run
    rw [h₁]
    exact h

theorem run_concat {env : Env} {as : List Act} {a : Act} {d d' : Device} :
    d.run env (as ++ [a]) = .ok d' ↔ ∃ d₁, d.run env as = .ok d₁ ∧ d₁.act env a = .ok d' := by
  rw [run_append]
  constructor
  · intro h
    cases h₁ : d.run env as with
    | error f => rw [h₁] at h; exact nomatch h
    | ok d₁ =>
      rw [h₁] at h
      change d₁.act env a >>= pure = _ at h
      rw [bind_pure] at h
      exact ⟨d₁, rfl, h⟩
  · rintro ⟨d₁, h₁, h⟩
    rw [h₁]
    exact (bind_pure (d₁.act env a)).trans h

/-- The command a thread holds. -/
def Pc.command : Pc → Option UsbCommand
  | .held c _ => some c
  | _ => none

/-- The commands the host issued that have not been handled. -/
def System.pending (s : System) : List UsbCommand := s.pc.command.toList ++ s.queue

/-- Every command on its way to `usb_thread` is one the handler lets through. -/
def System.QueueOk (s : System) : Prop :=
  (∀ c ∈ s.queue, (Act.command c).Accepted) ∧ ∀ c ∈ s.pc.command, (Act.command c).Accepted

theorem System.put_eq_some {s s' : System} {c : UsbCommand} (h : s.put c = some s') :
    s' = { s with queue := s.queue ++ [c] } := by
  unfold System.put at h
  split at h
  · cases h; rfl
  · cases h

/-- What an OUT packet does: the callback keeps it, or queues the command it completes. -/
theorem out_cases {s s' : System} {packet : List UInt8} (h : s.out packet = some s') :
    ((crazyradioOutCb packet s.cb).2 = none ∧ s' = { s with cb := (crazyradioOutCb packet s.cb).1 }) ∨
    ∃ c, (crazyradioOutCb packet s.cb).2 = some c ∧
      s' = { s with cb := (crazyradioOutCb packet s.cb).1, queue := s.queue ++ [.data c] } := by
  unfold System.out at h
  split at h
  · split at h
    · rename_i cb c hcb
      rw [hcb]
      exact Or.inr ⟨c, rfl, System.put_eq_some h⟩
    · rename_i cb hcb
      rw [hcb]
      exact Or.inl ⟨rfl, (Option.some.inj h).symm⟩
  · cases h

/-- What a control request does: it is queued, scanned at once, a reset, or answered at once. -/
theorem request_cases {env : Env} {s s' : System} {setup : UsbSetupPacket} {data : List UInt8}
    (h : s.request env setup data = some s') :
    let r := crazyradioVendorHandler setup data s.dev s.cb
    (∃ c, r.2 = .queue c ∧ s' = { s with cb := r.1, queue := s.queue ++ [.setup c] }) ∨
    (∃ start stop bytes, r.2 = .scan start stop bytes ∧
      s' = { s with cb := r.1, dev := fwScan env start stop bytes s.dev }) ∨
    (r.2 = .reset ∧ s' = { s with cb := r.1, halted := true }) ∨
    ((∀ c, r.2 ≠ .queue c) ∧ (∀ start stop bytes, r.2 ≠ .scan start stop bytes) ∧ r.2 ≠ .reset ∧
      s' = { s with cb := r.1 }) := by
  unfold System.request at h
  split at h
  · cases h
  · split at h
    · rename_i cb c hcb
      rw [hcb]
      exact Or.inl ⟨c, rfl, System.put_eq_some h⟩
    · rename_i cb start stop bytes hcb
      rw [hcb]
      exact Or.inr (Or.inl ⟨start, stop, bytes, rfl, (Option.some.inj h).symm⟩)
    · rename_i cb hcb
      rw [hcb]
      exact Or.inr (Or.inr (Or.inl ⟨rfl, (Option.some.inj h).symm⟩))
    · rename_i cb act hq hs hr hcb
      rw [hcb]
      refine Or.inr (Or.inr (Or.inr ⟨fun c hc => hq c hc, fun a b l hc => hs a b l hc, fun hc => hr hc,
        (Option.some.inj h).symm⟩))

/-- What the head of `usb_thread`'s loop does. -/
theorem fetch_cases {s s' : System} (h : s.fetch = some s') :
    (∃ c rest, s.pc = .top ∧ s.queue = c :: rest ∧
      s' = { s with queue := rest, pc := .held c s.dev.state.snifferMode }) ∨
    (s.pc = .top ∧ s.queue = [] ∧ s' = { s with pc := .poll }) := by
  unfold System.fetch at h
  split at h
  · rename_i c rest hp hq
    exact Or.inl ⟨c, rest, hp, hq, (Option.some.inj h).symm⟩
  · rename_i hp hq
    split at h
    · exact Or.inr ⟨hp, hq, (Option.some.inj h).symm⟩
    · cases h
  · cases h

/-- What handling the command taken does. -/
theorem handle_cases {env : Env} {s s' : System} (h : s.handle env = some s') :
    ∃ c sniffing dev pc, s.pc = .held c sniffing ∧ handleCommand env c s.dev = .ok dev ∧
      (pc = .top ∨ pc = .poll) ∧ s' = { s with dev, pc } := by
  unfold System.handle at h
  split at h
  · rename_i c sniffing hp
    split at h
    · rename_i dev hd
      refine ⟨c, sniffing, dev, _, hp, hd, ?_, (Option.some.inj h).symm⟩
      split
      · exact Or.inr rfl
      · exact Or.inl rfl
    · cases h
  · cases h

theorem poll_cases {s s' : System} (h : s.poll = some s') :
    s.pc = .poll ∧ ∃ dev, pollSniffer s.dev = .ok dev ∧ s' = { s with dev, pc := .top } := by
  unfold System.poll at h
  split at h
  · rename_i hp
    split at h
    · rename_i dev hd
      exact ⟨hp, dev, hd, (Option.some.inj h).symm⟩
    · cases h
  · cases h

theorem receive_cases {env : Env} {s s' : System} {r : Reception} (h : s.step env (.receive r) = some s') :
    s.dev.esb.snifferActive = true ∧ s' = { s with dev := radioIsrSniffer r s.dev } := by
  unfold System.step at h
  split at h
  · cases h
  · simp only at h
    split at h
    · exact ⟨‹_›, (Option.some.inj h).symm⟩
    · cases h

/-- The handler queues only what it lets through, as it came. -/
theorem vendorHandler_queue {setup : UsbSetupPacket} {data : List UInt8} {d : Device} {cb : Callback}
    {c : SetupCommand} (h : (crazyradioVendorHandler setup data d cb).2 = .queue c) :
    setup.isVendor = true ∧ queues setup = true ∧ c.setupPacket = setup := by
  unfold crazyradioVendorHandler at h
  split at h
  · split at h
    · cases h
      refine ⟨‹_›, ‹_›, ?_⟩
      simp only
      split <;> rfl
    · repeat' split at h
      all_goals cases h
  · cases h

theorem vendorHandler_queues {setup : UsbSetupPacket} {data : List UInt8} {d : Device} {cb : Callback}
    {c : SetupCommand} (h : (crazyradioVendorHandler setup data d cb).2 = .queue c) :
    queues c.setupPacket = true := by
  obtain ⟨-, hq, hs⟩ := vendorHandler_queue h
  rw [hs]
  exact hq

/-- The commands a step queues. -/
def System.queued (s : System) : Event → List UsbCommand
  | .out packet => ((crazyradioOutCb packet s.cb).2.map .data).toList
  | .request setup data =>
    match (crazyradioVendorHandler setup data s.dev s.cb).2 with
    | .queue c => [.setup c]
    | _ => []
  | _ => []

/-- The command a step handles. -/
def System.handled (s : System) : Event → Option UsbCommand
  | .handle => s.pc.command
  | _ => none

theorem queued_request {s : System} {setup : UsbSetupPacket} {data : List UInt8}
    (h : ∀ c, (crazyradioVendorHandler setup data s.dev s.cb).2 ≠ .queue c) : s.queued (.request setup data) = [] := by
  simp only [System.queued]

/-- What is on its way to `usb_thread` is handled in the order it was queued. -/
theorem pending_step {env : Env} {s s' : System} {e : Event} (h : s.step env e = some s') :
    s.pending ++ s.queued e = (s.handled e).toList ++ s'.pending := by
  have hstep := h
  unfold System.step at h
  split at h
  · cases h
  cases e with
  | out packet =>
    rcases out_cases h with ⟨hn, rfl⟩ | ⟨c, hc, rfl⟩
    · simp [System.queued, System.handled, System.pending, hn]
    · simp [System.queued, System.handled, System.pending, hc]
  | request setup data =>
    rcases request_cases h with ⟨c, hc, rfl⟩ | ⟨start, stop, bytes, hc, rfl⟩ | ⟨hc, rfl⟩ | ⟨hn, -, -, rfl⟩
    · simp [System.queued, System.handled, System.pending, hc]
    · simp [System.queued, System.handled, System.pending, hc]
    · simp [System.queued, System.handled, System.pending, hc]
    · simp [queued_request hn, System.handled, System.pending]
  | fetch =>
    rcases fetch_cases h with ⟨c, rest, ht, hq, rfl⟩ | ⟨ht, hq, rfl⟩
    · simp [System.queued, System.handled, System.pending, Pc.command, ht, hq]
    · simp [System.queued, System.handled, System.pending, Pc.command, ht, hq]
  | handle =>
    obtain ⟨c, sniffing, dev, pc, hp, -, rfl | rfl, rfl⟩ := handle_cases h
    · simp [System.queued, System.handled, System.pending, Pc.command, hp]
    · simp [System.queued, System.handled, System.pending, Pc.command, hp]
  | poll =>
    obtain ⟨hp, dev, -, rfl⟩ := poll_cases h
    simp [System.queued, System.handled, System.pending, Pc.command, hp]
  | receive r =>
    obtain ⟨-, rfl⟩ := receive_cases hstep
    simp [System.queued, System.handled, System.pending]

theorem pending_step_filterMap {β : Type} (f : UsbCommand → Option β) {env : Env} {s s' : System} {e : Event}
    (h : s.step env e = some s') : s.pending.filterMap f ++ (s.queued e).filterMap f =
      ((s.handled e).bind f).toList ++ s'.pending.filterMap f := by
  have hp := congrArg (List.filterMap f) (pending_step h)
  rw [List.filterMap_append, List.filterMap_append] at hp
  rw [hp]
  cases s.handled e with
  | none => rfl
  | some c =>
    have hone : [c].filterMap f = (f c).toList := by cases hf : f c <;> simp [hf]
    exact congrArg (· ++ _) hone

theorem System.QueueOk.put {s : System} (hq : s.QueueOk) {c : UsbCommand} (hc : (Act.command c).Accepted) :
    ∀ x ∈ s.queue ++ [c], (Act.command x).Accepted := by
  intro x hx
  rcases List.mem_append.mp hx with hx | hx
  · exact hq.1 x hx
  · rw [List.mem_singleton.mp hx]; exact hc

/-- The acts of one step. -/
theorem step_acts {env : Env} {s s' : System} {e : Event} (hq : s.QueueOk) (h : s.step env e = some s') :
    s'.QueueOk ∧ ∃ as : List Act, (∀ a ∈ as, a.Accepted) ∧ s.dev.run env as = .ok s'.dev := by
  have none_acts : ∃ as : List Act, (∀ a ∈ as, a.Accepted) ∧ s.dev.run env as = .ok s.dev :=
    ⟨[], fun _ ha => (nomatch ha), rfl⟩
  have one_act : ∀ {a : Act} {d' : Device}, a.Accepted → s.dev.act env a = .ok d' →
      ∃ as : List Act, (∀ a ∈ as, a.Accepted) ∧ s.dev.run env as = .ok d' := by
    intro a d' ha hd
    refine ⟨[a], fun x hx => by rw [List.mem_singleton.mp hx]; exact ha, ?_⟩
    unfold Device.run
    rw [hd]
    rfl
  have hstep := h
  unfold System.step at h
  split at h
  · cases h
  cases e with
  | out packet =>
    rcases out_cases h with ⟨-, rfl⟩ | ⟨c, -, rfl⟩
    · exact ⟨hq, none_acts⟩
    · exact ⟨⟨hq.put (c := .data c) trivial, hq.2⟩, none_acts⟩
  | request setup data =>
    rcases request_cases h with ⟨c, hc, rfl⟩ | ⟨start, stop, bytes, -, rfl⟩ | ⟨-, rfl⟩ | ⟨-, -, -, rfl⟩
    · exact ⟨⟨hq.put (c := .setup c) (vendorHandler_queues hc), hq.2⟩, none_acts⟩
    · exact ⟨hq, one_act (a := .scan start stop bytes) trivial rfl⟩
    · exact ⟨hq, none_acts⟩
    · exact ⟨hq, none_acts⟩
  | fetch =>
    rcases fetch_cases h with ⟨c, rest, -, hr, rfl⟩ | ⟨-, -, rfl⟩
    · refine ⟨⟨fun x hx => hq.1 x (by rw [hr]; exact List.mem_cons_of_mem c hx), fun x hx => ?_⟩, none_acts⟩
      cases hx
      exact hq.1 c (by rw [hr]; exact List.mem_cons_self)
    · exact ⟨⟨hq.1, fun x hx => (nomatch hx)⟩, none_acts⟩
  | handle =>
    obtain ⟨c, sniffing, dev, pc, hp, hd, hpc, rfl⟩ := handle_cases h
    refine ⟨⟨hq.1, fun x hx => ?_⟩, one_act (a := .command c) (hq.2 c (by rw [hp]; rfl)) hd⟩
    rcases hpc with rfl | rfl <;> exact nomatch hx
  | poll =>
    obtain ⟨-, dev, hd, rfl⟩ := poll_cases h
    exact ⟨⟨hq.1, fun x hx => (nomatch hx)⟩, one_act (a := .poll) trivial hd⟩
  | receive r =>
    obtain ⟨ha, rfl⟩ := receive_cases hstep
    exact ⟨hq, one_act (a := .receive r) trivial (by simp only [Device.act, if_pos ha]; rfl)⟩

/-- What the two threads do to the device, in any interleaving, is a run of acts. -/
theorem reachable_devReachable {env : Env} {s : System} (h : Reachable env s) : DevReachable env s.dev := by
  obtain ⟨es, hr⟩ := h
  have run_acts : ∀ (es : List Event) {s s' : System}, s.QueueOk → s.run env es = some s' →
      ∃ as : List Act, (∀ a ∈ as, a.Accepted) ∧ s.dev.run env as = .ok s'.dev := by
    intro es
    induction es with
    | nil =>
      rintro s s' - ⟨⟩
      exact ⟨[], fun _ ha => (nomatch ha), rfl⟩
    | cons e es ih =>
      intro s s' hq h
      unfold System.run at h
      obtain ⟨s₁, h₁, h₂⟩ := Option.bind_eq_some_iff.mp h
      obtain ⟨hq₁, as, ha, hd⟩ := step_acts hq h₁
      obtain ⟨bs, hb, hd'⟩ := ih hq₁ h₂
      refine ⟨as ++ bs, fun a hm => (List.mem_append.mp hm).elim (ha a) (hb a), ?_⟩
      rw [run_append, hd]
      exact hd'
  have hq : System.boot.QueueOk := by
    constructor <;> intro c hc
    · exact nomatch (hc : c ∈ ([] : List UsbCommand))
    · exact nomatch (hc : c ∈ (none : Option UsbCommand))
  exact run_acts es hq hr

end Crazyradio.Usb
