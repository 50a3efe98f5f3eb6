/-
What the settings depend on. The commands handled since power-up decide, in their order, what is
selected, what the driver and the radio are set to and whether a copy goes wrong; what the radio hears,
which packets are acked, what is scanned and what the host polls in between makes no difference. So a
sniffer session leaves what the host can set as it was.
-/
import Crazyradio.Lib.Unwinding
import Crazyradio.Usb.Scan
import Crazyradio.Usb.Air
import Crazyradio.Usb.Transfers

namespace Crazyradio.Usb

open Bytes Moves Words

/-! ## What is configured -/

/-- The driver's settings, and the radio's registers but for the frequency, which scans move. -/
def configured (e : Esb) : Esb := { core e with radio := { e.radio with frequency := 0 } }

/-- What the host can set: the settings in `state`, the driver's, the registers and the front end's gain. -/
structure Configuration where
  state : State
  esb : Esb
  gain : UInt8

def Device.configuration (d : Device) : Configuration :=
  { state := d.state.selected, esb := configured d.esb, gain := d.femConfreg0 }

/-! ## Acts that configure nothing -/

theorem configured_sends : SendRel fun d d' => d'.configuration = d.configuration where
  bookkeeping he hs hg := by
    unfold Device.configuration
    rw [he, hs, hg]
  trans h h' := h'.trans h
  usbSend env d := by
    obtain ⟨pid, log, hk⟩ := esbSendPacket_kept (env d.sends) d.usb d.esb
    have he : (usbSend env d).2.esb = { d.esb with pid, log } := hk
    unfold Device.configuration
    rw [he]
    rfl
  scanSend env d := by
    obtain ⟨pid, log, hk⟩ := esbSendPacket_kept (env d.sends) d.scan d.esb
    have he : (scanSend env d).2.esb = { d.esb with pid, log } := hk
    unfold Device.configuration
    rw [he]
    rfl
  scanTuned channel d := by
    have he : configured (esbSetChannel (UInt8.ofNat channel) d.esb) = configured d.esb := by
      unfold esbSetChannel
      split <;> rfl
    exact congrArg (fun e => { state := d.state.selected, esb := e, gain := d.femConfreg0 : Configuration }) he

/-- The command an act handles. -/
def Act.command? : Act → Option UsbCommand
  | .command c => some c
  | _ => none

/-- Without a command nothing fails and nothing is configured. -/
theorem configuration_act (env : Env) {a : Act} (h : a.command? = none) (d : Device) :
    ∃ d', d.act env a = .ok d' ∧ d'.configuration = d.configuration := by
  cases a with
  | command c => cases h
  | scan start stop data => exact ⟨_, rfl, configured_sends.fwScan env start stop data d⟩
  | poll =>
    obtain ⟨q, b, w, hp⟩ := pollSniffer_spec d
    have hpoll : d.act env .poll = .ok _ := hp
    exact ⟨_, hp, configured_sends.poll hpoll⟩
  | receive r =>
    have hreceive : d.act env (.receive r) = .ok _ := rfl
    exact ⟨_, rfl, configured_sends.receive hreceive⟩

/-! ## Commands -/

/-- A call makes of the driver's settings what it would make of them alone. -/
def Settles (f : Esb → Esb) : Prop := ∀ e, configured (f e) = configured (f (configured e))

theorem Settles.congr {f : Esb → Esb} (hf : Settles f) {e e' : Esb} (h : configured e = configured e') :
    configured (f e) = configured (f e') := by rw [hf e, hf e', h]

theorem settles_setChannel (channel : UInt8) : Settles (esbSetChannel channel) := by
  intro e
  unfold esbSetChannel
  split <;> rfl

theorem settles_setBitrate (bitrate : UInt8) : Settles (esbSetBitrate bitrate) := by
  intro e
  unfold esbSetBitrate
  split
  · rfl
  · split <;> rfl

theorem settles_setContinuousCarrier (enable : Bool) : Settles fun e => (esbSetContinuousCarrier enable e).2 := by
  intro e
  show configured (esbSetContinuousCarrier enable e).2 =
    configured (esbSetContinuousCarrier enable (configured e)).2
  unfold esbSetContinuousCarrier
  show _ = configured (if !e.isInit then _ else if e.snifferActive then _ else
    if enable = e.continuousCarrierEnabled then _ else _ : Bool × Esb).2
  split
  · rfl
  split
  · rfl
  split
  · rfl
  · cases enable <;> rfl

theorem settles_snifferStart (cb : EsbSnifferRxCb) : Settles (esbSnifferStart cb) := by
  intro e
  show _ = configured (if !e.isInit || e.snifferActive then _ else _)
  unfold esbSnifferStart
  split <;> rfl

theorem settles_snifferStop : Settles esbSnifferStop := by
  intro e
  show _ = configured (if !e.snifferActive then _ else _)
  unfold esbSnifferStop
  split <;> rfl

/-- The registers behind a sniffer-mode send. -/
def resetPipe0 (address current : Buf 5) (r : Radio) : Radio :=
  { r with
    base0 := bytewiseBitswap (addressBase current)
    prefix0 := pipe0Prefix current (pipe0Prefix address r.prefix0)
    txaddress := 0 }

/-- A sniffer-mode send, whatever it sends. -/
theorem configured_snifferSend (p : EsbPacket) (address : Buf 5) (e : Esb) :
    configured (esbSnifferSend p address e).2.2 =
      if (configured e).snifferActive then
        { configured e with radio := resetPipe0 address (configured e).currentPipe0Address (configured e).radio }
      else configured e := by
  cases ha : e.snifferActive with
  | false =>
    rw [esbSnifferSend_inactive ha]
    exact (if_neg (Bool.eq_false_iff.mp ha)).symm
  | true =>
    obtain ⟨r, log, he, -, -⟩ := esbSnifferSend_active ha p address
    obtain ⟨hr, -⟩ := esbSnifferSend_radio ha p address
    rw [he] at hr ⊢
    cases (show r = _ from hr)
    exact (if_pos ha).symm

theorem Device.configuration_eq {d t : Device} (hs : d.state.selected = t.state.selected)
    (he : configured d.esb = configured t.esb) (hg : d.femConfreg0 = t.femConfreg0) :
    d.configuration = t.configuration := by
  unfold Device.configuration
  rw [hs, he, hg]

/-- A request. -/
theorem configuration_apply (r : Request) {d t : Device} (h : d.configuration = t.configuration) :
    (r.apply d).configuration = (r.apply t).configuration := by
  have hs : d.state.selected = t.state.selected := congrArg Configuration.state h
  have he : configured d.esb = configured t.esb := congrArg Configuration.esb h
  have hg : d.femConfreg0 = t.femConfreg0 := congrArg Configuration.gain h
  have select : ∀ f : State → State, (∀ s, (f s).selected = (f s.selected).selected) →
      (f d.state).selected = (f t.state).selected := fun f hf => by rw [hf, hf t.state, hs]
  cases r with
  | channel c =>
    refine Device.configuration_eq (select (fun s => { s with channel := c.toUInt8, inlineMode := false }) fun _ => rfl)
      ?_ hg
    simp only [Request.apply]
    split
    · exact (settles_setChannel c.toUInt8).congr he
    · exact he
  | address a =>
    exact Device.configuration_eq (select (fun s => { s with inlineMode := false }) fun _ => rfl)
      (Settles.congr (f := esbSetAddress a) (fun _ => rfl) he) hg
  | datarate n =>
    refine Device.configuration_eq
      (select (fun s => { s with datarate := n.toUInt8, inlineMode := false }) fun _ => rfl)
      ?_ hg
    simp only [Request.apply]
    split
    · exact (settles_setBitrate radioBitrate1M).congr he
    split
    · exact (settles_setBitrate radioBitrate2M).congr he
    · exact he
  | power p => exact Device.configuration_eq hs he rfl
  | arc n => exact Device.configuration_eq hs (Settles.congr (f := esbSetArc _) (fun _ => rfl) he) hg
  | ack enabled =>
    exact Device.configuration_eq (select (fun s =>
      { s with ackEnabled := enabled, inlineMode := false, inlineRssiMode := false }) fun _ => rfl)
      (Settles.congr (f := esbSetAckEnabled enabled) (fun _ => rfl) he) hg
  | carrier enable => exact Device.configuration_eq hs ((settles_setContinuousCarrier enable).congr he) hg
  | sniffer on =>
    cases on with
    | true =>
      exact Device.configuration_eq (select (fun s =>
        { s with snifferMode := true, inlineMode := false, inlineRssiMode := false }) fun _ => rfl)
        ((settles_snifferStart .snifferRxCallback).congr he) hg
    | false =>
      exact Device.configuration_eq (select (fun s => { s with snifferMode := false }) fun _ => rfl)
        (settles_snifferStop.congr he) hg
  | snifferAddress pipe1 a =>
    cases pipe1 with
    | false => exact Device.configuration_eq hs (Settles.congr (f := esbSetAddress a) (fun _ => rfl) he) hg
    | true => exact Device.configuration_eq hs (Settles.congr (f := esbSetAddressPipe1 a) (fun _ => rfl) he) hg
  | inlineMode m =>
    exact Device.configuration_eq (select (fun s =>
      { s with inlineMode := decide (m ≠ 0), inlineRssiMode := decide (m = inlineModeOnWithRssi) }) fun _ => rfl) he hg
  | loss p a =>
    exact Device.configuration_eq hs (Settles.congr (f := esbSetPacketLossSimulation p a) (fun _ => rfl) he) hg
  | other => exact h

theorem configuration_inlineSettings (hd : InlineModeOutHeader) {d t : Device}
    (h : d.configuration = t.configuration) :
    (inlineSettings hd d).configuration = (inlineSettings hd t).configuration := by
  have hs : d.state.selected = t.state.selected := congrArg Configuration.state h
  have he : configured d.esb = configured t.esb := congrArg Configuration.esb h
  have hg : d.femConfreg0 = t.femConfreg0 := congrArg Configuration.gain h
  refine Device.configuration_eq ?_ ?_ hg
  · exact congrArg (fun s : State =>
      { s with channel := hd.channel, datarate := UInt8.ofNat hd.datarate, ackEnabled := hd.ackEnabled }) hs
  · have hc := (settles_setBitrate (UInt8.ofNat hd.datarate)).congr ((settles_setChannel hd.channel).congr he)
    have ha := Settles.congr (f := esbSetAckEnabled hd.ackEnabled) (fun _ => rfl) hc
    exact Settles.congr (f := esbSetAddress hd.address) (fun _ => rfl) ha

/-- A flag of `state` that selects something. -/
theorem selected_flags {s s' : State} (h : s.selected = s'.selected) : s.snifferMode = s'.snifferMode ∧
    s.inlineMode = s'.inlineMode ∧ s.ackEnabled = s'.ackEnabled :=
  ⟨congrArg (·.snifferMode) h, congrArg (·.inlineMode) h, congrArg (·.ackEnabled) h⟩

/-- A data command: whether its copies go through, and what it configures. -/
theorem configuration_data {env env' : Env} (c : DataCommand) {d t : Device} (h : d.configuration = t.configuration) :
    (handleCommand env (.data c) d).toOption.map Device.configuration =
      (handleCommand env' (.data c) t).toOption.map Device.configuration := by
  have hs : d.state.selected = t.state.selected := congrArg Configuration.state h
  have he : configured d.esb = configured t.esb := congrArg Configuration.esb h
  have hg : d.femConfreg0 = t.femConfreg0 := congrArg Configuration.gain h
  obtain ⟨hsn, hin, hack⟩ := selected_flags hs
  cases hm : d.state.snifferMode with
  | true =>
    have hd : handleCommand env (.data c) d = snifferData c d := if_pos hm
    have ht : handleCommand env' (.data c) t = snifferData c t := if_pos (hsn.symm.trans hm)
    rw [hd, ht]
    by_cases hl : c.length < 6
    · rw [snifferData, snifferData, if_pos hl, if_pos hl]
      exact congrArg some h
    · rw [snifferData_ok (by omega) d, snifferData_ok (by omega) t]
      refine congrArg some (Device.configuration_eq hs ?_ hg)
      rw [configured_snifferSend, configured_snifferSend, he]
  | false =>
    have hmt : t.state.snifferMode = false := hsn.symm.trans hm
    have hcopies : d.copies c = t.copies c := by
      unfold Device.copies Device.broadcasts
      rw [hin, hack]
    cases hd : handleCommand env (.data c) d with
    | ok d' =>
      have hok := (handleCommand_data_isOk_iff env c hm).mp ⟨d', hd⟩
      obtain ⟨t', ht⟩ := (handleCommand_data_isOk_iff env' c hmt).mpr (hcopies.symm.trans hok)
      rw [ht]
      refine congrArg some ((configured_sends.data hm hd).trans (Eq.trans ?_ (configured_sends.data hmt ht).symm))
      unfold Device.settled
      rw [hin]
      split
      · exact configuration_inlineSettings _ h
      · exact h
    | error f =>
      cases ht : handleCommand env' (.data c) t with
      | error f' => rfl
      | ok t' =>
        have hok := (handleCommand_data_isOk_iff env' c hmt).mp ⟨t', ht⟩
        obtain ⟨d', hd'⟩ := (handleCommand_data_isOk_iff env c hm).mpr (hcopies.trans hok)
        rw [hd] at hd'
        cases hd'

/-! ## Runs -/

/-- An act as a step that may not happen. -/
def actStep (env : Env) (d : Device) (a : Act) : Option Device := (d.act env a).toOption

theorem run_actStep (env : Env) : ∀ (as : List Act) (d : Device),
    Moves.run (actStep env) d as = (d.run env as).toOption
  | [], _ => rfl
  | a :: as, d => by
    show (actStep env d a).bind (fun d' => Moves.run (actStep env) d' as) =
      (d.act env a >>= fun d' => d'.run env as).toOption
    unfold actStep
    cases d.act env a with
    | error f => rfl
    | ok d' => exact run_actStep env as d'

theorem unwinds_commands : Unwinds actStep Device.configuration Act.command? where
  hidden {env d a} h := by
    obtain ⟨d', hd, hc⟩ := configuration_act env h d
    exact ⟨d', congrArg Except.toOption hd, hc⟩
  visible {env env' d t a a' c} ha ha' h := by
    cases a with
    | command c₁ =>
      cases a' with
      | command c₂ =>
        obtain rfl : c₁ = c := Option.some.inj ha
        obtain rfl : c₂ = c₁ := Option.some.inj ha'
        cases c₂ with
        | setup s =>
          show some (handleVendorCommand s d).configuration = some (handleVendorCommand s t).configuration
          rw [handleVendorCommand_decode, handleVendorCommand_decode, configuration_apply s.decode h]
        | data c => exact configuration_data c h
      | _ => cases ha'
    | _ => cases ha

/-- Two runs from power-up that handle the same commands both run into a bad copy or both do not, and end
with the same settings, in whatever surroundings and whatever happens between the commands. -/
theorem commands_decide (env env' : Env) {as bs : List Act}
    (h : as.filterMap Act.command? = bs.filterMap Act.command?) :
    (boot.run env as).toOption.map Device.configuration = (boot.run env' bs).toOption.map Device.configuration := by
  rw [← run_actStep, ← run_actStep]
  exact unwinds_commands.run_eq env env' _ h rfl rfl

/-! ## A sniffer session -/

/-- A callback is registered exactly in sniffer mode. -/
def CallbackSet (e : Esb) : Prop := e.snifferCallback.isSome = e.snifferActive

theorem callbackSet_apply {e : Esb} (h : CallbackSet e) (c : EsbCall) : CallbackSet (c.apply e) := by
  cases c with
  | sendPacket x b =>
    obtain ⟨pid, log, hk⟩ := esbSendPacket_kept x b e
    simp only [EsbCall.apply]
    rw [hk]
    exact h
  | setChannel channel =>
    obtain ⟨radio, log, hk, -⟩ := esbSetChannel_kept channel e
    simp only [EsbCall.apply]
    rw [hk]
    exact h
  | setBitrate bitrate =>
    obtain ⟨radio, log, hk, -⟩ := esbSetBitrate_kept bitrate e
    simp only [EsbCall.apply]
    rw [hk]
    exact h
  | setContinuousCarrier enable =>
    obtain ⟨carrier, log, hk⟩ := esbSetContinuousCarrier_kept enable e
    simp only [EsbCall.apply]
    rw [hk]
    exact h
  | snifferStart cb =>
    simp only [EsbCall.apply, esbSnifferStart]
    split
    · exact h
    · rfl
  | snifferSend packet address =>
    obtain ⟨pid, log, radio, hk, -⟩ := esbSnifferSend_kept packet address e
    simp only [EsbCall.apply]
    rw [hk]
    exact h
  | snifferStop =>
    simp only [EsbCall.apply, esbSnifferStop]
    split
    · exact h
    · rfl
  | _ => exact h

theorem callbackSet_run {env : Env} {as : List Act} {d : Device} (h : boot.run env as = .ok d) : CallbackSet d.esb := by
  obtain ⟨calls, hc⟩ := byCalls_run h
  have hall : ∀ calls : List EsbCall, CallbackSet ((esbInit {}).after calls) := by
    intro calls
    induction calls using List.reverseRecOn with
    | nil => rfl
    | append_singleton calls c ih =>
      rw [Esb.after_concat]
      exact callbackSet_apply ih c
  rw [hc]
  exact hall calls

/-- The registers of an address that is where the driver's copy says are the ones a sniffer-mode send puts
back. -/
theorem resetPipe0_eq {r : Radio} {current : Buf 5} (h : r.pipe0 = current) (ht : r.txaddress = 0) (address : Buf 5) :
    resetPipe0 address current r = r := by
  subst h
  have hb : bytewiseBitswap (addressBase r.pipe0) = r.base0 := by
    rw [base_eq]
    obtain ⟨h0, h1, h2, h3⟩ :=
      byteOf_ofBytes (byteOf r.base0 3) (byteOf r.base0 2) (byteOf r.base0 1) (byteOf r.base0 0)
    show ofBytes (reverseByte (reverseByte (byteOf r.base0 3))) (reverseByte (reverseByte (byteOf r.base0 2)))
      (reverseByte (reverseByte (byteOf r.base0 1))) (reverseByte (reverseByte (byteOf r.base0 0))) = r.base0
    simp only [reverseByte_reverseByte]
    exact eq_of_bytes fun | 0 => h0 | 1 => h1 | 2 => h2 | 3 => h3
  have hp : pipe0Prefix r.pipe0 (pipe0Prefix address r.prefix0) = r.prefix0 := by
    obtain ⟨-, a1, a2, a3⟩ := byteOf_pipe0Prefix address r.prefix0
    obtain ⟨b0, b1, b2, b3⟩ := byteOf_pipe0Prefix r.pipe0 (pipe0Prefix address r.prefix0)
    have h0 : reverseByte (r.pipe0.get 0) = byteOf r.prefix0 0 := reverseByte_reverseByte _
    exact eq_of_bytes fun | 0 => b0.trans h0 | 1 => b1.trans a1 | 2 => b2.trans a2 | 3 => b3.trans a3
  unfold resetPipe0
  rw [hb, hp, ← ht]

/-- The act selects nothing: a setup command among such acts is one the firmware ignores. -/
def Act.SelectsNothing : Act → Prop
  | .command (.setup s) => s.decode = .other
  | _ => True

def Act.isScan : Act → Bool
  | .scan .. => true
  | _ => false

/-- Sniffer mode is on, and pipe 0 is where the driver's copy says. -/
structure Configuration.Sniffing (k : Configuration) : Prop where
  mode : k.state.snifferMode = true
  pipe0 : k.esb.radio.pipe0 = k.esb.currentPipe0Address
  txaddress : k.esb.radio.txaddress = 0

theorem frequency_snifferSend (p : EsbPacket) (address : Buf 5) (e : Esb) :
    (esbSnifferSend p address e).2.2.radio.frequency = e.radio.frequency := by
  cases ha : e.snifferActive with
  | false => rw [esbSnifferSend_inactive ha]
  | true => rw [(esbSnifferSend_radio ha p address).1]

/-- Such an act in sniffer mode. -/
theorem session_act (env : Env) {d : Device} {a : Act} (ha : a.SelectsNothing) (hk : d.configuration.Sniffing) :
    ∃ d', d.act env a = .ok d' ∧ d'.configuration = d.configuration ∧
      (a.isScan = false → d'.esb.radio.frequency = d.esb.radio.frequency) := by
  cases a with
  | command c =>
    cases c with
    | setup s =>
      refine ⟨_, rfl, ?_⟩
      rw [handleVendorCommand_decode, show s.decode = .other from ha]
      exact ⟨rfl, fun _ => rfl⟩
    | data c =>
      obtain ⟨d', hd⟩ := snifferData_isOk c d
      refine ⟨d', (if_pos hk.mode).trans hd, ?_⟩
      rcases snifferData_cases hd with ⟨-, rfl⟩ | ⟨-, rfl⟩
      · exact ⟨rfl, fun _ => rfl⟩
      · refine ⟨Device.configuration_eq rfl ?_ rfl, fun _ => frequency_snifferSend _ _ _⟩
        rw [configured_snifferSend]
        split
        · -- the registers of pipe 0 are put back
          have hr : resetPipe0 c.snifferAddress (configured d.esb).currentPipe0Address (configured d.esb).radio =
              (configured d.esb).radio := resetPipe0_eq hk.pipe0 hk.txaddress _
          rw [hr]
        · rfl
  | scan start stop data =>
    obtain ⟨d', hd, hc⟩ := @configuration_act env (.scan start stop data) rfl d
    exact ⟨d', hd, hc, fun h => absurd h Bool.noConfusion⟩
  | poll =>
    obtain ⟨d', hd, hc⟩ := @configuration_act env .poll rfl d
    exact ⟨d', hd, hc, fun _ => by rw [esb_poll hd]⟩
  | receive r =>
    obtain ⟨d', hd, hc⟩ := @configuration_act env (.receive r) rfl d
    exact ⟨d', hd, hc, fun _ => by rw [esb_receive hd]⟩

theorem session_run (env : Env) : ∀ (as : List Act) {d : Device}, (∀ a ∈ as, a.SelectsNothing) →
    d.configuration.Sniffing → ∃ d', d.run env as = .ok d' ∧ d'.configuration = d.configuration ∧
      ((∀ a ∈ as, a.isScan = false) → d'.esb.radio.frequency = d.esb.radio.frequency)
  | [], d, _, _ => ⟨d, rfl, rfl, fun _ => rfl⟩
  | a :: as, d, has, hk => by
    obtain ⟨d₁, h₁, hc₁, hf₁⟩ := session_act env (has a List.mem_cons_self) hk
    have hk₁ : d₁.configuration.Sniffing := hc₁ ▸ hk
    obtain ⟨d', h', hc', hf'⟩ := session_run env as (fun x hx => has x (List.mem_cons_of_mem a hx)) hk₁
    refine ⟨d', ?_, hc'.trans hc₁, fun hscan => ?_⟩
    · show (d.act env a >>= fun d' => d'.run env as) = _
      rw [h₁]
      exact h'
    · exact (hf' fun x hx => hscan x (List.mem_cons_of_mem a hx)).trans (hf₁ (hscan a List.mem_cons_self))

/-- The device with inline mode off, as entering sniffer mode leaves it. -/
def Device.plain (d : Device) : Device :=
  { d with state := { d.state with inlineMode := false, inlineRssiMode := false } }

/-- Entering and leaving sniffer mode. -/
theorem configured_stop_start {e : Esb} (hi : e.isInit = true) (ha : e.snifferActive = false) (hc : CallbackSet e)
    (hm : e.radio.InMode false) (cb : EsbSnifferRxCb) :
    configured (esbSnifferStop (esbSnifferStart cb e)) = configured e ∧
      (esbSnifferStop (esbSnifferStart cb e)).radio.frequency = e.radio.frequency := by
  have hnone : e.snifferCallback = none := Option.isSome_eq_false_iff.mp (hc.trans ha) |> Option.isNone_iff_eq_none.mp
  obtain ⟨hmaxlen, hrx⟩ : e.radio.maxlen = 32 ∧ e.radio.rxaddresses = 1 := hm
  obtain ⟨isInit, pid, ack, arc, packetLoss, ackLoss, carrier, active, callback, current, radio, log⟩ := e
  obtain ⟨frequency, mode, base0, base1, prefix0, txaddress, rxaddresses, maxlen⟩ := radio
  cases hi
  cases ha
  cases hnone
  cases hmaxlen
  cases hrx
  exact ⟨rfl, rfl⟩

end Crazyradio.Usb
