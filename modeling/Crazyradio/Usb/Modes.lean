/-
The modes of the radio. Continuous carrier, sniffer mode and the sends of normal mode exclude each
other as long as sniffer mode is never entered while the carrier is on: `esb_set_continuous_carrier`
refuses while sniffing, but `esb_sniffer_start` does not look at the carrier. The carrier is where its
flag says as long as its TXEN finds the radio off, with nothing left of an abandoned send.
-/
import Crazyradio.Usb.Safety

namespace Crazyradio.Usb

open Bytes

/-! ## Driver calls of data commands and scans -/

/-- A relation that is kept by the driver calls a data command outside sniffer mode and a scan are
made of. -/
structure DriverRel (R : Esb → Esb → Prop) : Prop where
  refl : ∀ e, R e e
  trans : ∀ {a b c}, R a b → R b c → R a c
  send : ∀ x b e, R e (esbSendPacket x b e).2.2
  channel : ∀ channel e, R e (esbSetChannel channel e)
  bitrate : ∀ bitrate e, R e (esbSetBitrate bitrate e)
  ackEnabled : ∀ enabled e, R e (esbSetAckEnabled enabled e)
  address : ∀ address e, R e (esbSetAddress address e)

variable {R : Esb → Esb → Prop}

theorem DriverRel.inlineSettings (hR : DriverRel R) (h : InlineModeOutHeader) (d : Device) :
    R d.esb (inlineSettings h d).esb :=
  hR.trans (hR.channel h.channel d.esb) (hR.trans (hR.bitrate _ _) (hR.trans (hR.ackEnabled h.ackEnabled _)
    (hR.address h.address _)))

theorem DriverRel.guardedSend (hR : DriverRel R) (env : Env) (d : Device) : R d.esb (guardedSend env d).esb := by
  unfold Usb.guardedSend
  split
  · rw [capAck_esb]; exact hR.send _ _ _
  · exact hR.refl _

theorem DriverRel.data (hR : DriverRel R) {env : Env} {c : DataCommand} {d d' : Device}
    (hs : d.state.snifferMode = false) (hd : handleCommand env (.data c) d = .ok d') : R d.esb d'.esb := by
  obtain ⟨d₁, b, p, hb, rfl⟩ := handleCommand_data_cases hs hd
  refine hR.trans ?_ (hR.guardedSend env d₁)
  rcases buildPacket_cases hb with ⟨-, -, rfl⟩ | ⟨-, -, hl, rfl⟩ | ⟨-, -, rfl⟩
  · exact hR.inlineSettings _ d
  · exact hR.send _ _ _
  · exact hR.refl _

theorem DriverRel.fwScanLoop (hR : DriverRel R) (env : Env) : ∀ (n channel : Nat) (d : Device),
    R d.esb (fwScanLoop env n channel d).esb
  | 0, _, d => hR.refl d.esb
  | n + 1, channel, d => by
    have hs : R d.esb (scanSend env (d.scanTuned channel)).2.esb := hR.trans (hR.channel _ d.esb) (hR.send _ _ _)
    have hmore := fun d' => hR.fwScanLoop env n (channel + 1) d'
    rw [fwScanLoop_succ]
    split
    · split
      · exact hs
      · exact hR.trans hs (hmore ((scanSend env (d.scanTuned channel)).2.scanHit channel))
    · exact hR.trans hs (hmore _)

theorem DriverRel.scan (hR : DriverRel R) (env : Env) (start stop : UInt8) (data : List UInt8) (d : Device) :
    R d.esb (fwScan env start stop data d).esb := by
  have hloop : ∀ d' : Device, d'.esb = d.esb →
      R d.esb (Usb.fwScanLoop env (stop.toNat + 1 - start.toNat) start.toNat d').esb :=
    fun d' he => he ▸ hR.fwScanLoop env _ _ d'
  unfold fwScan
  simp only
  split
  · exact hR.refl _
  · exact hloop _ rfl

/-! ## The transmitter -/

/-- A task that starts or ends a transmission. -/
def onTransmitter : RadioEvent → Bool
  | .transmit _ | .carrier | .disable => true
  | _ => false

/-- The last task of the transmitter. -/
def lastTask (log : List RadioEvent) : Option RadioEvent := (log.filter onTransmitter).getLast?

theorem lastTask_append (log l : List RadioEvent) : lastTask (log ++ l) = (lastTask l).or (lastTask log) := by
  unfold lastTask
  rw [List.filter_append, List.getLast?_append]

theorem lastTask_concat (log : List RadioEvent) {ev : RadioEvent} (h : onTransmitter ev = true) :
    lastTask (log ++ [ev]) = some ev := by
  unfold lastTask
  rw [List.filter_append, List.filter_cons_of_pos h]
  exact List.getLast?_concat

/-- The last task that took effect. -/
def lastEffect (hw : Standings) (e : Esb) : Option RadioEvent := lastTask (effective hw e.log)

theorem txens_quiet {l : List RadioEvent} (h : l.filter onTransmitter = []) : txens l = 0 := by
  refine List.countP_eq_zero.mpr fun ev hev htxen => ?_
  have hoff : onTransmitter ev = true := by
    cases ev with
    | transmit t => rfl
    | carrier => rfl
    | _ => exact absurd htxen Bool.false_ne_true
  exact List.filter_eq_nil_iff.mp h ev hev hoff

/-- Other tasks change nothing of it. -/
theorem lastEffect_quiet {hw : Standings} {e e' : Esb} {l : List RadioEvent} (hl : e'.log = e.log ++ l)
    (h : l.filter onTransmitter = []) : lastEffect hw e' = lastEffect hw e := by
  unfold lastEffect
  rw [hl, effective_append, effective_quiet (txens_quiet h), lastTask_append]
  unfold lastTask
  rw [h]
  rfl

theorem lastEffect_disable {hw : Standings} {e e' : Esb} (h : e'.log = e.log ++ [.disable]) :
    lastEffect hw e' = some .disable := by
  unfold lastEffect
  rw [h, effective_append, effective_quiet (show txens [RadioEvent.disable] = 0 from rfl)]
  exact lastTask_concat _ rfl

/-- The carrier's own TXEN: a radio that is off as `esb_init` leaves it gets the carrier, one with a packet
left behind switches the transmitter off behind it, and one that is not off goes on as it was. -/
theorem lastEffect_carrier {hw : Standings} {e e' : Esb} (h : e'.log = e.log ++ [.carrier]) :
    lastEffect hw e' = match hw (txens e.log) with
      | .idle => some .carrier
      | .armed _ | .timed => some .disable
      | .busy => lastEffect hw e := by
  have hs : effective (hw.skip (txens e.log)) [.carrier] = RadioEvent.effect (hw (txens e.log)) .carrier :=
    List.append_nil _
  unfold lastEffect
  rw [h, effective_append, hs, lastTask_append]
  cases hw (txens e.log) with
  | idle => rfl
  | armed left => rfl
  | timed => rfl
  | busy => rfl

theorem carrier_effective {hw : Standings} {l : List RadioEvent} (h : .carrier ∈ effective hw l) : .carrier ∈ l := by
  induction l generalizing hw with
  | nil => exact h
  | cons ev l ih =>
    rw [effective] at h
    rcases List.mem_append.mp h with h | h
    · have hev : ev = .carrier := by
        cases ev with
        | transmit t => cases hs : hw 0 <;> rw [hs] at h <;> simp [RadioEvent.effect] at h
        | carrier => rfl
        | _ => rw [effect_of_not_txen rfl] at h; exact (List.mem_singleton.mp h).symm
      rw [hev]
      exact List.mem_cons_self
    · exact List.mem_cons_of_mem ev (ih h)

/-- Without the carrier's TXEN the carrier does not become the last task. -/
theorem lastEffect_free {hw : Standings} {e e' : Esb} (h : CarrierFree e e') (hn : lastEffect hw e ≠ some .carrier) :
    lastEffect hw e' ≠ some .carrier := by
  obtain ⟨l, hl, hc⟩ := h
  unfold lastEffect
  rw [hl, effective_append, lastTask_append]
  cases ht : lastTask (effective (hw.skip (txens e.log)) l) with
  | none => exact hn
  | some ev =>
    intro he
    cases he
    exact hc (carrier_effective (List.mem_of_mem_filter (List.mem_of_getLast? ht)))

/-! ## Calls that leave the carrier -/

/-- The carrier is not switched. -/
structure Unswitched (e e' : Esb) : Prop where
  flag : e'.continuousCarrierEnabled = e.continuousCarrierEnabled
  free : CarrierFree e e'

theorem Unswitched.refl (e : Esb) : Unswitched e e := ⟨rfl, .refl e⟩

theorem Unswitched.call {c : EsbCall} {e : Esb} (h : c ≠ .setContinuousCarrier true)
    (hf : (c.apply e).continuousCarrierEnabled = e.continuousCarrierEnabled) : Unswitched e (c.apply e) :=
  ⟨hf, carrierFree_apply h e⟩

/-- The carrier is not switched, and while it is on no task of the transmitter is triggered. -/
structure CarrierKept (e e' : Esb) : Prop extends Unswitched e e' where
  tasks : e.continuousCarrierEnabled = true → ∃ l, e'.log = e.log ++ l ∧ l.filter onTransmitter = []

theorem CarrierKept.refl (e : Esb) : CarrierKept e e := ⟨.refl e, fun _ => ⟨[], (List.append_nil _).symm, rfl⟩⟩

theorem CarrierKept.trans {a b c : Esb} (h : CarrierKept a b) (h' : CarrierKept b c) : CarrierKept a c := by
  refine ⟨⟨h'.flag.trans h.flag, h.free.trans h'.free⟩, fun hon => ?_⟩
  obtain ⟨l, hl, hq⟩ := h.tasks hon
  obtain ⟨l', hl', hq'⟩ := h'.tasks (h.flag.trans hon)
  exact ⟨l ++ l', by rw [hl', hl, List.append_assoc], by rw [List.filter_append, hq, hq']; rfl⟩

theorem CarrierKept.lastEffect {e e' : Esb} (h : CarrierKept e e') (hw : Standings)
    (hon : e.continuousCarrierEnabled = true) : lastEffect hw e' = lastEffect hw e := by
  obtain ⟨l, hl, hq⟩ := h.tasks hon
  exact lastEffect_quiet hl hq

/-- A send is refused while the carrier is on; the settings trigger no task. -/
theorem carrierKept_driver : DriverRel CarrierKept where
  refl := .refl
  trans h h' := h.trans h'
  send x b e := by
    cases h : e.sends x.packetDraw with
    | false => rw [esbSendPacket_exit h]; exact .refl e
    | true =>
      have hf : (esbSendPacket x b e).2.2.continuousCarrierEnabled = e.continuousCarrierEnabled := by
        rw [esbSendPacket_esb h]
      refine ⟨.call (c := .sendPacket x b) EsbCall.noConfusion hf, fun hc => ?_⟩
      simp [Esb.sends, Esb.refuses, hc] at h
  channel channel e := by
    refine ⟨.call (c := .setChannel channel) EsbCall.noConfusion ?_, fun _ => ?_⟩
    · simp only [EsbCall.apply, esbSetChannel]; split <;> rfl
    · unfold esbSetChannel
      split
      · exact ⟨[_], rfl, rfl⟩
      · exact ⟨[], (List.append_nil _).symm, rfl⟩
  bitrate bitrate e := by
    refine ⟨.call (c := .setBitrate bitrate) EsbCall.noConfusion ?_, fun _ => ?_⟩
    · simp only [EsbCall.apply, esbSetBitrate]; split <;> [rfl; split <;> rfl]
    · unfold esbSetBitrate
      split
      · exact ⟨[_], rfl, rfl⟩
      split
      · exact ⟨[_], rfl, rfl⟩
      · exact ⟨[], (List.append_nil _).symm, rfl⟩
  ackEnabled enabled e := ⟨.call (c := .setAckEnabled enabled) EsbCall.noConfusion rfl,
    fun _ => ⟨[], (List.append_nil _).symm, rfl⟩⟩
  address address e := ⟨.call (c := .setAddress address) EsbCall.noConfusion rfl,
    fun _ => ⟨[_, _], List.append_assoc _ _ _, rfl⟩⟩

theorem esbSnifferStart_carrier (cb : EsbSnifferRxCb) (e : Esb) :
    (esbSnifferStart cb e).continuousCarrierEnabled = e.continuousCarrierEnabled := by
  unfold esbSnifferStart; split <;> rfl

theorem unswitched_snifferStop (e : Esb) : Unswitched e (esbSnifferStop e) := by
  refine .call (c := .snifferStop) EsbCall.noConfusion ?_
  simp only [EsbCall.apply, esbSnifferStop]
  split <;> rfl

theorem unswitched_snifferSend (packet : EsbPacket) (address : Buf 5) (e : Esb) :
    Unswitched e (esbSnifferSend packet address e).2.2 := by
  refine .call (c := .snifferSend packet address) EsbCall.noConfusion ?_
  obtain ⟨pid, log, radio, he, -⟩ := esbSnifferSend_kept packet address e
  simp only [EsbCall.apply, he]

/-- Requests other than `SET_CONT_CARRIER` and those of sniffer mode. -/
theorem carrierKept_apply {r : Request} (hc : ∀ enable, r ≠ .carrier enable) (hs : ∀ on, r ≠ .sniffer on)
    (d : Device) : CarrierKept d.esb (r.apply d).esb := by
  have hd := carrierKept_driver
  cases r with
  | channel c =>
    simp only [Request.apply]
    split
    · exact hd.channel _ _
    · exact .refl _
  | address a => exact hd.address a d.esb
  | datarate n =>
    simp only [Request.apply]
    split
    · exact hd.bitrate _ _
    split
    · exact hd.bitrate _ _
    · exact .refl _
  | ack enabled => exact hd.ackEnabled enabled d.esb
  | carrier enable => exact absurd rfl (hc enable)
  | sniffer on => exact absurd rfl (hs on)
  | snifferAddress pipe1 a =>
    cases pipe1 with
    | false => exact hd.address a d.esb
    | true => exact ⟨.call (c := .setAddressPipe1 a) EsbCall.noConfusion rfl,
        fun _ => ⟨[_, _], List.append_assoc _ _ _, rfl⟩⟩
  | arc n => exact ⟨.call (c := .setArc (n &&& 0x0f).toNat) EsbCall.noConfusion rfl,
      fun _ => ⟨[], (List.append_nil _).symm, rfl⟩⟩
  | loss packetLoss ackLoss => exact ⟨.call (c := .setPacketLossSimulation packetLoss ackLoss) EsbCall.noConfusion rfl,
      fun _ => ⟨[], (List.append_nil _).symm, rfl⟩⟩
  | _ => exact .refl _

/-- Requests other than `SET_CONT_CARRIER`. -/
theorem unswitched_apply {r : Request} (hc : ∀ enable, r ≠ .carrier enable) (d : Device) :
    Unswitched d.esb (r.apply d).esb := by
  cases r with
  | sniffer on =>
    cases on with
    | true => exact .call (c := .snifferStart .snifferRxCallback) EsbCall.noConfusion (esbSnifferStart_carrier _ _)
    | false => exact unswitched_snifferStop d.esb
  | carrier enable => exact absurd rfl (hc enable)
  | _ => exact (carrierKept_apply hc (fun on h => nomatch h) d).toUnswitched

/-- Every act but `SET_CONT_CARRIER`. -/
theorem unswitched_act {env : Env} {d d' : Device} {a : Act} (hd : d.act env a = .ok d')
    (hc : ∀ s enable, a = .command (.setup s) → s.decode ≠ .carrier enable) : Unswitched d.esb d'.esb := by
  cases a with
  | command c =>
    cases c with
    | setup s =>
      obtain rfl := act_setup hd
      exact unswitched_apply (hc s · rfl) d
    | data c =>
      cases hs : d.state.snifferMode with
      | false => exact (carrierKept_driver.data hs hd).toUnswitched
      | true =>
        rcases snifferData_cases ((if_pos hs).symm.trans hd) with ⟨-, rfl⟩ | ⟨-, rfl⟩
        · exact .refl _
        · exact unswitched_snifferSend _ _ _
  | scan start stop data =>
    cases hd
    exact (carrierKept_driver.scan env start stop data d).toUnswitched
  | poll =>
    rw [esb_poll hd]
    exact .refl _
  | receive r =>
    rw [esb_receive hd]
    exact .refl _

/-! ## The carrier's flag -/

/-- The carrier is not the last task while it is recorded as off. -/
def OffWhenOff (hw : Standings) (e : Esb) : Prop :=
  e.continuousCarrierEnabled = false → lastEffect hw e ≠ some .carrier

/-- What switching the carrier does. -/
theorem esbSetContinuousCarrier_cases (enable : Bool) (e : Esb) :
    (esbSetContinuousCarrier enable e).2 = e ∨
      (esbSetContinuousCarrier enable e).2.continuousCarrierEnabled = enable ∧
      e.continuousCarrierEnabled = !enable ∧ e.snifferActive = false ∧
      (esbSetContinuousCarrier enable e).2.snifferActive = false ∧
      (esbSetContinuousCarrier enable e).2.log = e.log ++ [if enable then .carrier else .disable] := by
  unfold esbSetContinuousCarrier
  split
  · exact .inl rfl
  split
  · exact .inl rfl
  split
  · exact .inl rfl
  · rename_i hs hc
    have hs : e.snifferActive = false := eq_false_of_ne_true hs
    refine .inr ⟨rfl, ?_, hs, ?_, ?_⟩
    · revert hc
      cases enable <;> cases e.continuousCarrierEnabled <;> simp
    · cases enable <;> exact hs
    · cases enable <;> rfl

theorem offWhenOff_act {env : Env} {hw : Standings} {d d' : Device} {a : Act} (h : OffWhenOff hw d.esb)
    (hd : d.act env a = .ok d') : OffWhenOff hw d'.esb := by
  by_cases hc : ∃ s enable, a = .command (.setup s) ∧ s.decode = .carrier enable
  · obtain ⟨s, enable, rfl, hs⟩ := hc
    obtain rfl := act_setup hd
    rw [hs]
    show OffWhenOff hw (esbSetContinuousCarrier enable d.esb).2
    rcases esbSetContinuousCarrier_cases enable d.esb with he | ⟨hf, -, -, -, hl⟩
    · rw [he]
      exact h
    · cases enable with
      | true => exact fun hoff => absurd (hf.symm.trans hoff) Bool.true_eq_false.mp
      | false =>
        intro _
        rw [lastEffect_disable hl]
        exact fun he => nomatch he
  · have hu := unswitched_act hd fun s enable ha hs => hc ⟨s, enable, ha, hs⟩
    exact fun hoff => lastEffect_free hu.free (h (hu.flag.symm.trans hoff))

theorem offWhenOff_run {env : Env} {as : List Act} {d : Device} (hw : Standings) (h : boot.run env as = .ok d) :
    OffWhenOff hw d.esb := by
  induction as using List.reverseRecOn generalizing d with
  | nil =>
    cases h
    have hnone : lastEffect hw boot.esb = none := by
      unfold lastEffect
      rw [effective_quiet (show txens boot.esb.log = 0 from rfl)]
      rfl
    intro _ he
    cases hnone.symm.trans he
  | append_singleton as a ih =>
    obtain ⟨d₁, h₁, ha⟩ := run_concat.mp h
    exact offWhenOff_act (ih h₁) ha

/-! ## Modes exclude each other -/

/-- Carrier and sniffer mode exclude each other, the two records of sniffer mode agree, and the
carrier is only recorded as on while it is. -/
structure ModesAgree (hw : Standings) (d : Device) : Prop where
  exclusive : ¬(d.esb.continuousCarrierEnabled = true ∧ d.esb.snifferActive = true)
  sniffer : d.state.snifferMode = d.esb.snifferActive
  carrier : d.esb.continuousCarrierEnabled = true → lastEffect hw d.esb = some .carrier

variable {hw : Standings}

/-- The act is a `SET_RADIO_MODE` that asks for sniffer mode. -/
def Act.startsSniffer : Act → Prop
  | .command (.setup s) => s.decode = .sniffer true
  | _ => False

/-- The act is a `SET_CONT_CARRIER` that asks for the carrier. -/
def Act.startsCarrier : Act → Prop
  | .command (.setup s) => s.decode = .carrier true
  | _ => False

/-- Sniffer mode over the carrier, or a carrier whose TXEN does not find the radio off as `esb_init`
leaves it. -/
def Act.Clashes (hw : Standings) (d : Device) (a : Act) : Prop :=
  a.startsSniffer ∧ d.esb.continuousCarrierEnabled = true ∨
    a.startsCarrier ∧ d.esb.carrierStarts = true ∧ hw (txens d.esb.log) ≠ .idle

theorem ModesAgree.last {d : Device} {e : Esb} (h : ModesAgree hw d) (hc : CarrierKept d.esb e)
    (hon : e.continuousCarrierEnabled = true) : lastEffect hw e = some .carrier := by
  have hon : d.esb.continuousCarrierEnabled = true := hc.flag.symm.trans hon
  exact (hc.lastEffect hw hon).trans (h.carrier hon)

theorem ModesAgree.of_carrierKept {d d' : Device} (h : ModesAgree hw d) (hc : CarrierKept d.esb d'.esb)
    (k : Kept d d') : ModesAgree hw d' := by
  refine ⟨?_, ?_, h.last hc⟩
  · rw [hc.flag, k.snifferActive]; exact h.exclusive
  · rw [k.snifferMode, k.snifferActive]; exact h.sniffer

/-- Without the carrier there is nothing to exclude. -/
theorem ModesAgree.of_off {d : Device} (hoff : d.esb.continuousCarrierEnabled = false) (hv : DevInv d) :
    ModesAgree hw d := by
  refine ⟨?_, hv.sniffer.symm, ?_⟩
  · rintro ⟨hon, -⟩
    exact Bool.false_ne_true (hoff.symm.trans hon)
  · intro hon
    exact absurd hon (ne_true_of_eq_false hoff)

/-- Switching the carrier: refused in sniffer mode, ignored if it changes nothing. -/
theorem modesAgree_carrier {d : Device} (h : ModesAgree hw d) (enable : Bool)
    (hidle : enable = true → d.esb.continuousCarrierEnabled = false → d.esb.snifferActive = false →
      hw (txens d.esb.log) = .idle) :
    ModesAgree hw { d with esb := (esbSetContinuousCarrier enable d.esb).2 } := by
  rcases esbSetContinuousCarrier_cases enable d.esb with he | ⟨hf, hoff, ha, ha', hl⟩
  · rw [he]
    exact h
  · have hsniffer : d.state.snifferMode = (esbSetContinuousCarrier enable d.esb).2.snifferActive :=
      (h.sniffer.trans ha).trans ha'.symm
    refine ⟨fun hb => Bool.false_ne_true (ha'.symm.trans hb.2), hsniffer, fun hon => ?_⟩
    have hen : enable = true := hf.symm.trans hon
    subst hen
    show lastEffect hw (esbSetContinuousCarrier true d.esb).2 = _
    rw [lastEffect_carrier hl, hidle rfl hoff ha]

/-- Outside sniffer mode there is nothing to stop. -/
theorem carrierKept_snifferStop {e : Esb} (h : ¬(e.continuousCarrierEnabled = true ∧ e.snifferActive = true)) :
    CarrierKept e (esbSnifferStop e) := by
  refine ⟨unswitched_snifferStop e, fun hon => ?_⟩
  have ha : e.snifferActive = false := eq_false_of_ne_true fun ha => h ⟨hon, ha⟩
  have hsame : esbSnifferStop e = e := if_pos (by rw [ha]; rfl)
  exact ⟨[], by rw [hsame, List.append_nil], rfl⟩

/-- A request that clashes with nothing. -/
theorem modesAgree_apply {d : Device} (h : ModesAgree hw d) (hv : DevInv d) (r : Request)
    (hr : r = .sniffer true → d.esb.continuousCarrierEnabled = false)
    (hidle : r = .carrier true → d.esb.continuousCarrierEnabled = false → d.esb.snifferActive = false →
      hw (txens d.esb.log) = .idle) : ModesAgree hw (r.apply d) := by
  have hv' := devInv_apply hv r
  by_cases hcarrier : ∃ enable, r = .carrier enable
  · obtain ⟨enable, rfl⟩ := hcarrier
    exact modesAgree_carrier h enable fun he => hidle (by rw [he])
  by_cases hsniffer : ∃ on, r = .sniffer on
  · obtain ⟨on, rfl⟩ := hsniffer
    cases on with
    | true => exact .of_off ((esbSnifferStart_carrier _ _).trans (hr rfl)) hv'
    | false =>
      refine ⟨?_, hv'.sniffer.symm, h.last (carrierKept_snifferStop h.exclusive)⟩
      rintro ⟨-, ha⟩
      exact Bool.false_ne_true (hv'.sniffer.symm.trans ha)
  · have hc := carrierKept_apply (fun enable he => hcarrier ⟨enable, he⟩) (fun on he => hsniffer ⟨on, he⟩) d
    have hmode : (r.apply d).state.snifferMode = d.state.snifferMode := by
      rw [snifferMode_apply]
      cases r with
      | sniffer on => exact absurd ⟨on, rfl⟩ hsniffer
      | _ => rfl
    refine ⟨?_, hv'.sniffer.symm, h.last hc⟩
    rw [hc.flag, hv'.sniffer, hmode, h.sniffer]
    exact h.exclusive

/-- One act. -/
theorem modesAgree_act {env : Env} {d d' : Device} {a : Act} (h : ModesAgree hw d) {v : HostView} (hv : Settled v d)
    (hd : d.act env a = .ok d') (ha : ¬a.Clashes hw d) : ModesAgree hw d' := by
  cases a with
  | command c =>
    cases c with
    | setup s =>
      obtain rfl := act_setup hd
      refine modesAgree_apply h hv.2 s.decode (fun hs => ?_) fun hs hoff hact => ?_
      · exact eq_false_of_ne_true fun hon => ha (.inl ⟨hs, hon⟩)
      · by_contra hn
        refine ha (.inr ⟨hs, ?_, hn⟩)
        simp [Esb.carrierStarts, hv.2.isInit, hoff, hact]
    | data c =>
      have hv' := settled_act env hv hd
      cases hs : d.state.snifferMode with
      | true =>
        -- in sniffer mode the carrier is off, and a send leaves it so
        have hsd : snifferData c d = .ok d' := (if_pos hs).symm.trans hd
        have hoff : d.esb.continuousCarrierEnabled = false :=
          eq_false_of_ne_true fun hon => h.exclusive ⟨hon, h.sniffer.symm.trans hs⟩
        refine .of_off ?_ hv'.2
        rcases snifferData_cases hsd with ⟨-, rfl⟩ | ⟨-, rfl⟩
        · exact hoff
        · exact (unswitched_snifferSend _ _ _).flag.trans hoff
      | false =>
        have hn : d'.state.snifferMode = false :=
          ((kept_handleCommand_data hs hd).snifferMode.trans (settled_snifferMode d c)).trans hs
        have hc := carrierKept_driver.data hs hd
        refine ⟨?_, hv'.2.sniffer.symm, h.last hc⟩
        rintro ⟨-, ha⟩
        exact Bool.false_ne_true (hn.symm.trans (hv'.2.sniffer.symm.trans ha))
  | scan start stop data =>
    cases hd
    exact h.of_carrierKept (carrierKept_driver.scan env _ _ _ d) (kept_fwScan env _ _ _ d)
  | poll =>
    refine h.of_carrierKept ?_ (kept_pollSniffer hd)
    rw [esb_poll hd]
    exact .refl _
  | receive r =>
    cases hd
    split
    · refine h.of_carrierKept ?_ (kept_radioIsrSniffer r d)
      rw [log_radioIsrSniffer]
      exact .refl _
    · exact h

/-! ## Runs -/

/-- A run goes through the state behind each of its prefixes. -/
def Device.Visits (env : Env) (as : List Act) (d : Device) : Prop := ∃ bs, bs <+: as ∧ boot.run env bs = .ok d

/-- An act of the run clashes with the state it finds. -/
def Clashing (hw : Standings) (env : Env) (as : List Act) : Prop :=
  ∃ bs a d, bs ++ [a] <+: as ∧ boot.run env bs = .ok d ∧ a.Clashes hw d

/-- A clash goes wrong: entering sniffer mode leaves the carrier's flag as it is, and a carrier that did
not come up is recorded as on. -/
theorem not_modesAgree_clash {env : Env} {d : Device} {v : HostView} (hv : Settled v d) (ho : OffWhenOff hw d.esb)
    {a : Act} (ha : a.Clashes hw d) : ∃ d', d.act env a = .ok d' ∧ ¬ModesAgree hw d' := by
  obtain c | ⟨start, stop, data⟩ | - | r := a
  · obtain c | s := c
    · rcases ha with ⟨hs, -⟩ | ⟨hs, -⟩ <;> exact absurd hs id
    · refine ⟨_, rfl, fun h => ?_⟩
      rw [handleVendorCommand_decode] at h
      rcases ha with ⟨hs, hon⟩ | ⟨hs, hstart, hn⟩
      · rw [show s.decode = .sniffer true from hs] at h
        exact h.exclusive ⟨(esbSnifferStart_carrier _ _).trans hon, (devInv_apply hv.2 (.sniffer true)).sniffer⟩
      · rw [show s.decode = .carrier true from hs] at h
        simp only [Esb.carrierStarts, Bool.and_eq_true, Bool.not_eq_true'] at hstart
        have hflag : (esbSetContinuousCarrier true d.esb).2.continuousCarrierEnabled = true := by
          simp [esbSetContinuousCarrier, hstart]
        have hlog : (esbSetContinuousCarrier true d.esb).2.log = d.esb.log ++ [.carrier] := by
          simp [esbSetContinuousCarrier, hstart, Esb.record]
        have hlast : lastEffect hw (esbSetContinuousCarrier true d.esb).2 = some .carrier := h.carrier hflag
        rw [lastEffect_carrier hlog] at hlast
        cases hst : hw (txens d.esb.log) with
        | idle => exact hn hst
        | armed left | timed =>
          rw [hst] at hlast
          cases hlast
        | busy =>
          rw [hst] at hlast
          exact ho hstart.2 hlast
  all_goals rcases ha with ⟨hs, -⟩ | ⟨hs, -⟩ <;> exact absurd hs id

/-- In a run from boot the modes agree in every state exactly if no request for sniffer mode is handled
while the carrier is on, and every TXEN of the carrier finds the radio off as `esb_init` leaves it. -/
theorem modesAgree_iff (hw : Standings) (env : Env) (as : List Act) :
    (∀ d, Device.Visits env as d → ModesAgree hw d) ↔ ¬Clashing hw env as := by
  constructor
  · rintro h ⟨bs, a, d, hp, hr, ha⟩
    obtain ⟨d', hd, hn⟩ := not_modesAgree_clash (settled_run hr) (offWhenOff_run hw hr) ha
    exact hn (h d' ⟨bs ++ [a], hp, run_concat.mpr ⟨d, hr, hd⟩⟩)
  · rintro h d ⟨bs, hp, hr⟩
    induction bs using List.reverseRecOn generalizing d with
    | nil => cases hr; exact ⟨nofun, rfl, nofun⟩
    | append_singleton bs a ih =>
      obtain ⟨d₁, h₁, hd⟩ := run_concat.mp hr
      refine modesAgree_act (ih d₁ ((List.prefix_append bs [a]).trans hp) h₁) (settled_run h₁) hd fun ha => ?_
      exact h ⟨bs, a, d₁, hp, h₁, ha⟩

/-- Carrier on, then sniffer mode. -/
def sniffsOverCarrier : List Act :=
  [.command (.setup { setupPacket := hostRequest setContCarrier 1 }),
    .command (.setup { setupPacket := hostRequest setRadioMode 1 })]

/-- Both modes are on behind the two requests, on a radio that obeys every task. -/
theorem carrier_and_sniffer : ¬ ∀ (env : Env) (as : List Act) (d : Device), Device.Visits env as d →
    ModesAgree (fun _ => .idle) d := by
  intro h
  exact (h (fun _ => .silent) sniffsOverCarrier _ ⟨_, List.prefix_refl _, rfl⟩).exclusive ⟨rfl, rfl⟩

end Crazyradio.Usb
