/-
Carrier sessions. From a `SET_CONT_CARRIER` that finds the radio off, with nothing left of an abandoned
send, to the request that ends it, the transmitter only has the carrier: whatever else is asked for, nothing
is sent, no answer reports an ack and no scan finds a channel.
-/
import Crazyradio.Usb.Answers
import Crazyradio.Usb.Guard
import Crazyradio.Usb.Replies

namespace Crazyradio.Usb

open Bytes

/-! ## The driver -/

/-- While the carrier is on, it stays on and nothing is transmitted. -/
def Mutes (e e' : Esb) : Prop :=
  e.continuousCarrierEnabled = true →
    e'.continuousCarrierEnabled = true ∧ transmissions e'.log = transmissions e.log

theorem sends_carrier {e : Esb} (h : e.continuousCarrierEnabled = true) (draw : UInt32) : e.sends draw = false := by
  simp [Esb.sends, Esb.refuses, h]

theorem mutes_driver : DriverRel Mutes where
  refl _ := fun h => ⟨h, rfl⟩
  trans h h' := fun hon => ⟨(h' (h hon).1).1, (h' (h hon).1).2.trans (h hon).2⟩
  send x b e := fun hon => by
    rw [esbSendPacket_exit (sends_carrier hon _)]
    exact ⟨hon, rfl⟩
  channel channel e := fun hon =>
    ⟨(carrierKept_driver.channel channel e).flag.trans hon, (emits_setChannel channel e).silent_iff.mpr id⟩
  bitrate bitrate e := fun hon =>
    ⟨(carrierKept_driver.bitrate bitrate e).flag.trans hon, (emits_setBitrate bitrate e).silent_iff.mpr id⟩
  ackEnabled _ _ := fun hon => ⟨hon, rfl⟩
  address address e := fun hon => ⟨hon, (emits_setAddress address e).silent_iff.mpr id⟩

/-- Only the host's own request switches the carrier off. -/
theorem carrier_apply {r : Request} {d : Device} (hr : r ≠ .carrier false)
    (hon : d.esb.continuousCarrierEnabled = true) : (r.apply d).esb.continuousCarrierEnabled = true := by
  cases r with
  | channel c =>
    simp only [Request.apply]
    split
    · exact (carrierKept_driver.channel _ _).flag.trans hon
    · exact hon
  | datarate n =>
    simp only [Request.apply]
    split
    · exact (carrierKept_driver.bitrate _ _).flag.trans hon
    split
    · exact (carrierKept_driver.bitrate _ _).flag.trans hon
    · exact hon
  | carrier enable =>
    cases enable with
    | false => exact absurd rfl hr
    | true =>
      simp only [Request.apply, esbSetContinuousCarrier]
      rw [if_pos hon.symm]
      split
      · exact hon
      · split <;> exact hon
  | sniffer on =>
    cases on with
    | true => exact (esbSnifferStart_carrier _ _).trans hon
    | false =>
      simp only [Request.apply, esbSnifferStop]
      split <;> exact hon
  | snifferAddress pipe1 a => cases pipe1 <;> exact hon
  | _ => exact hon

/-! ## Answers -/

/-- The answer reports no ack: the byte of a plain answer, or the flags of an inline one. -/
def DeniesAck (w : List UInt8) : Prop := w = [0] ∨ ∃ length flags rest, w = length :: flags :: rest ∧ flags &&& 1 = 0

theorem flags_denied (weak invalid : Bool) (r : UInt8) : inlineFlags false weak invalid r &&& 1 = 0 := by
  have h : ∀ (b c : Bool) (n : Fin 256), inlineFlags false b c (UInt8.ofNat n) &&& 1 = 0 := by decide +kernel
  simpa using h weak invalid ⟨r.toNat, r.toNat_lt⟩

theorem denies_header (s : State) (length rssiDbm : UInt8) (weak invalid : Bool) (r : UInt8) (rest : List UInt8) :
    DeniesAck (s.inlineHeader length (inlineFlags false weak invalid r) rssiDbm ++ rest) := by
  refine .inr ?_
  unfold State.inlineHeader
  split
  · exact ⟨_, _, _, rfl, flags_denied weak invalid r⟩
  · exact ⟨_, _, _, rfl, flags_denied weak invalid r⟩

theorem denies_answerBytes {d : Device} {w : List UInt8} (h : w ∈ answerBytes false d) : DeniesAck w := by
  unfold answerBytes at h
  split at h
  · cases h
    exact denies_header _ _ _ _ _ _ _
  · unfold plainBytes at h
    split at h
    · cases h
    · cases h
      exact .inl rfl

/-- While the carrier is on the answer is negative. -/
theorem denies_guardedBytes {env : Env} {d : Device} {w : List UInt8} (hon : d.esb.continuousCarrierEnabled = true)
    (h : w ∈ guardedBytes env d) : DeniesAck w := by
  unfold guardedBytes at h
  split at h
  · have hacked : (usbSend env d).1 = false := congrArg Prod.fst (esbSendPacket_exit (sends_carrier hon _))
    rw [hacked] at h
    exact denies_answerBytes h
  · cases h
    unfold invalidBytes
    split
    · rw [← List.append_nil (State.inlineHeader _ _ _ _)]
      exact denies_header _ _ _ _ _ _ _
    · exact .inl rfl

/-! ## One act -/

variable {hw : Standings}

/-- The device of a carrier session. -/
structure Carrying (hw : Standings) (d : Device) : Prop where
  on : d.esb.continuousCarrierEnabled = true
  agree : ModesAgree hw d
  settled : ∃ v, Settled v d

/-- In a carrier session sniffer mode is off, for the driver and for `usb_thread`. -/
theorem Carrying.receiver {d : Device} (h : Carrying hw d) :
    d.esb.snifferActive = false ∧ d.state.snifferMode = false := by
  have ha : d.esb.snifferActive = false := eq_false_of_ne_true fun ha => h.agree.exclusive ⟨h.on, ha⟩
  exact ⟨ha, h.agree.sniffer.trans ha⟩

/-- The act ends no carrier session. -/
def Act.KeepsCarrier : Act → Prop
  | .command (.setup s) => s.decode ≠ .carrier false ∧ s.decode ≠ .sniffer true
  | _ => True

/-- Nothing is sent, what is written denies an ack or is a record left over from a sniffer session, and
a scan comes back empty. -/
structure Muted (scan : Bool) (d d' : Device) : Prop where
  sent : transmissions d'.esb.log = transmissions d.esb.log
  queue : d'.snifferQueue ⊆ d.snifferQueue
  writes : ∃ ws, d'.inWrites = d.inWrites ++ ws ∧ ∀ w ∈ ws, DeniesAck w ∨ ∃ p ∈ d.snifferQueue, w ∈ recordWrites p
  scanned : d'.scanned = if scan then [] else d.scanned

theorem Muted.trans {b b' : Bool} {d₁ d₂ d₃ : Device} (h : Muted b d₁ d₂) (h' : Muted b' d₂ d₃) :
    Muted (b || b') d₁ d₃ := by
  obtain ⟨ws, hw, hws⟩ := h.writes
  obtain ⟨ws', hw', hws'⟩ := h'.writes
  refine ⟨h'.sent.trans h.sent, fun p hp => h.queue (h'.queue hp), ⟨ws ++ ws', ?_, ?_⟩, ?_⟩
  · rw [hw', hw, List.append_assoc]
  · intro w hmem
    rcases List.mem_append.mp hmem with hmem | hmem
    · exact hws w hmem
    · exact (hws' w hmem).imp_right fun ⟨p, hp, hr⟩ => ⟨p, h.queue hp, hr⟩
  · rw [h'.scanned, h.scanned]
    cases b' with
    | true => rw [Bool.or_true]; rfl
    | false => rw [Bool.or_false]; rfl

/-- No write and the same queue. -/
theorem Muted.of_same {b : Bool} {d d' : Device} (hsent : transmissions d'.esb.log = transmissions d.esb.log)
    (hq : d'.snifferQueue ⊆ d.snifferQueue) (hw : d'.inWrites = d.inWrites)
    (hs : d'.scanned = if b then [] else d.scanned) : Muted b d d' :=
  ⟨hsent, hq, ⟨[], by rw [hw, List.append_nil], fun _ h => absurd h List.not_mem_nil⟩, hs⟩

theorem muted_apply (r : Request) (d : Device) : Muted false d (r.apply d) := by
  refine .of_same ((emits_apply r d).silent_iff.mpr id) ?_ ?_ (resultKept_apply r d).scanned
  · cases r with
    | sniffer on =>
      cases on with
      | true => exact List.nil_subset _
      | false => exact List.Subset.refl _
    | snifferAddress pipe1 a => cases pipe1 <;> exact List.Subset.refl _
    | _ => exact List.Subset.refl _
  · cases r with
    | sniffer on => cases on <;> rfl
    | snifferAddress pipe1 a => cases pipe1 <;> rfl
    | _ => rfl

theorem DriverRel.build {R : Esb → Esb → Prop} (hR : DriverRel R) {env : Env} {c : DataCommand} {d d' : Device}
    (h : buildPacket env c d = .ok d') : R d.esb d'.esb := by
  rcases buildPacket_cases h with ⟨-, -, rfl⟩ | ⟨-, -, hl, rfl⟩ | ⟨-, -, rfl⟩
  · exact hR.inlineSettings _ d
  · exact hR.send _ _ _
  · exact hR.refl _

theorem muted_data {env : Env} {c : DataCommand} {d d' : Device} (hon : d.esb.continuousCarrierEnabled = true)
    (hs : d.state.snifferMode = false) (h : handleCommand env (.data c) d = .ok d') : Muted false d d' := by
  have hresult := (resultKept_handleCommand h).scanned
  have hsent := (mutes_driver.data hs h hon).2
  obtain ⟨d₁, b, p, hb, rfl⟩ := handleCommand_data_cases hs h
  have hon₁ := (mutes_driver.build hb hon).1
  have hbuilt : d₁.snifferQueue = d.snifferQueue ∧ d₁.inWrites = d.inWrites := by
    rcases buildPacket_cases hb with ⟨-, -, rfl⟩ | ⟨-, -, -, rfl⟩ | ⟨-, -, rfl⟩ <;> exact ⟨rfl, rfl⟩
  have hqueue : (guardedSend env d₁).snifferQueue = d₁.snifferQueue := by
    unfold guardedSend
    split
    · unfold capAck
      split <;> rfl
    · rfl
  refine ⟨hsent, ?_, ⟨(guardedBytes env d₁).toList, ?_, fun w hw => .inl ?_⟩, hresult⟩
  · show (guardedSend env d₁).snifferQueue ⊆ _
    rw [hqueue, hbuilt.1]
    exact List.Subset.refl _
  · show (guardedSend env d₁).inWrites ++ _ = _
    rw [inWrites_guardedSend, hbuilt.2]
  · exact denies_guardedBytes hon₁ (Option.mem_toList.mp hw)

/-- The driver refuses every call of a scan. -/
theorem muted_scan {d : Device} (hon : d.esb.continuousCarrierEnabled = true) (env : Env) (start stop : UInt8)
    (data : List UInt8) : Muted true d (fwScan env start stop data d) := by
  have hk := sessionKept_fwScan env start stop data d
  have hnone : ∀ c, d.scanAcks env start c = false := by
    intro c
    unfold Device.scanAcks Device.answers Exchange.acks
    rw [sends_carrier hon, Bool.false_and]
  refine .of_same (mutes_driver.scan env start stop data d hon).2 (hk.queue ▸ List.Subset.refl _) hk.writes ?_
  rw [fwScan_scanned, Device.scanReports,
    List.filter_eq_nil_iff.mpr fun c _ => by rw [hnone c]; exact Bool.false_ne_true]
  rfl

theorem muted_poll {d d' : Device} (h : pollSniffer d = .ok d') : Muted false d d' := by
  cases hq : d.snifferQueue with
  | nil =>
    unfold pollSniffer at h
    rw [hq] at h
    cases h
    exact .of_same rfl (List.Subset.refl _) rfl rfl
  | cons p rest =>
    obtain ⟨b, hp⟩ := pollSniffer_cons hq
    cases hp.symm.trans h
    refine ⟨rfl, ?_, ⟨recordWrites p, rfl, fun w hw => .inr ⟨p, ?_, hw⟩⟩, rfl⟩
    · rw [hq]
      exact List.subset_cons_self p rest
    · rw [hq]
      exact List.mem_cons_self

/-- Nothing clashes in a carrier session: a request for the carrier changes nothing. -/
theorem not_clashes {a : Act} {d : Device} (h : Carrying hw d) (ha : a.KeepsCarrier) : ¬a.Clashes hw d := by
  rintro (⟨hs, -⟩ | ⟨-, hstart, -⟩)
  · match a with
    | .command (.setup s) => exact ha.2 hs
  · simp [Esb.carrierStarts, h.on] at hstart

theorem findsNothing {a : Act} {d : Device} (h : Carrying hw d) : a.FindsNothing hw d := by
  intro _ hstart
  simp [Esb.carrierStarts, h.on] at hstart

/-- One act of a carrier session. -/
theorem carrying_act {env : Env} {a : Act} {d d' : Device} (h : Carrying hw d) (ha : a.KeepsCarrier)
    (hd : d.act env a = .ok d') : Carrying hw d' ∧ d'.onAir hw = d.onAir hw ∧ Muted a.isScan d d' := by
  obtain ⟨hactive, hmode⟩ := h.receiver
  obtain ⟨v, hv⟩ := h.settled
  suffices hon : d'.esb.continuousCarrierEnabled = true ∧ Muted a.isScan d d' from
    ⟨⟨hon.1, modesAgree_act h.agree hv hd (not_clashes h ha), _, settled_act env hv hd⟩,
      onAir_silent hd hon.2.sent (findsNothing h), hon.2⟩
  cases a with
  | command c =>
    cases c with
    | setup s =>
      obtain rfl := act_setup hd
      exact ⟨carrier_apply ha.1 h.on, muted_apply s.decode d⟩
    | data c => exact ⟨(mutes_driver.data hmode hd h.on).1, muted_data h.on hmode hd⟩
  | scan start stop data =>
    cases hd
    exact ⟨(mutes_driver.scan env start stop data d h.on).1, muted_scan h.on env start stop data⟩
  | poll => exact ⟨by rw [esb_poll hd]; exact h.on, muted_poll hd⟩
  | receive r =>
    simp only [Device.act, hactive, Bool.false_eq_true, if_false] at hd
    cases hd
    exact ⟨h.on, .of_same rfl (List.Subset.refl _) rfl rfl⟩

theorem carrying_run {env : Env} : ∀ {as : List Act} {d d' : Device}, Carrying hw d → (∀ a ∈ as, a.KeepsCarrier) →
    d.run env as = .ok d' → Carrying hw d' ∧ d'.onAir hw = d.onAir hw ∧ Muted (as.any Act.isScan) d d'
  | [], d, d', h, _, hr => by
    cases hr
    exact ⟨h, rfl, .of_same rfl (List.Subset.refl _) rfl rfl⟩
  | a :: as, d, d', h, ha, hr => by
    obtain ⟨d₁, h₁, hr⟩ := run_cons.mp hr
    obtain ⟨hc, hair, hm⟩ := carrying_act h (ha a List.mem_cons_self) h₁
    obtain ⟨hc', hair', hm'⟩ := carrying_run hc (fun x hx => ha x (List.mem_cons_of_mem a hx)) hr
    exact ⟨hc', hair'.trans hair, hm.trans hm'⟩

/-! ## Sessions -/

/-- The carrier switched on from normal mode. -/
theorem carrying_start {d : Device} {v : HostView} (hv : Settled v d) {s : SetupCommand} (hs : s.decode = .carrier true)
    (hmode : d.state.snifferMode = false) (hoff : d.esb.continuousCarrierEnabled = false)
    (hidle : hw (txens d.esb.log) = .idle) : Carrying hw (handleVendorCommand s d) := by
  have hagree : ModesAgree hw _ := modesAgree_carrier (ModesAgree.of_off hoff hv.2) true fun _ _ _ => hidle
  have hact : d.act (fun _ => .silent) (.command (.setup s)) = .ok (handleVendorCommand s d) := rfl
  refine ⟨?_, ?_, _, settled_act _ hv hact⟩
  · rw [handleVendorCommand_decode, hs]
    simp only [Request.apply, esbSetContinuousCarrier, hv.2.isInit, hv.2.sniffer.trans hmode, hoff]
    rfl
  · rw [handleVendorCommand_decode, hs]
    exact hagree

/-- The carrier switched off: the transmitter is disabled. -/
theorem carrier_stop {d : Device} (h : Carrying hw d) {s : SetupCommand} (hs : s.decode = .carrier false) :
    (handleVendorCommand s d).esb.continuousCarrierEnabled = false ∧
      lastEffect hw (handleVendorCommand s d).esb = some .disable := by
  obtain ⟨v, hv⟩ := h.settled
  rw [handleVendorCommand_decode, hs]
  simp only [Request.apply, esbSetContinuousCarrier, hv.2.isInit, h.receiver.1, h.on]
  exact ⟨rfl, lastEffect_disable rfl⟩

/-- A carrier session, from the request that switches the carrier on in normal mode, with the radio off and
nothing left of an abandoned send, over any acts that neither switch it off nor start sniffer mode: the
transmitter has the carrier alone, nothing is sent, a scan leaves an empty result, and what is written
reports no ack or is a record of an earlier sniffer session. The request that ends the session disables the
transmitter. -/
theorem carrier_session {env : Env} {as₀ as : List Act} {d₀ d : Device} {s : SetupCommand}
    (hr : boot.run env as₀ = .ok d₀) (hmode : d₀.state.snifferMode = false)
    (hoff : d₀.esb.continuousCarrierEnabled = false) (hs : s.decode = .carrier true)
    (hidle : hw (txens d₀.esb.log) = .idle)
    (has : ∀ a ∈ as, a.KeepsCarrier) (h : (handleVendorCommand s d₀).run env as = .ok d) :
    lastEffect hw d.esb = some .carrier ∧ d.onAir hw = d₀.onAir hw ∧ Muted (as.any Act.isScan) d₀ d ∧
      ∀ s' : SetupCommand, s'.decode = .carrier false →
        (handleVendorCommand s' d).esb.continuousCarrierEnabled = false ∧
          lastEffect hw (handleVendorCommand s' d).esb = some .disable := by
  have hstart : Carrying hw _ := carrying_start (settled_run hr) hs hmode hoff hidle
  obtain ⟨hc, hair, hm⟩ := carrying_run hstart has h
  have hfirst : Muted false d₀ (handleVendorCommand s d₀) := by
    rw [handleVendorCommand_decode]
    exact muted_apply s.decode d₀
  have hact : d₀.act env (.command (.setup s)) = .ok (handleVendorCommand s d₀) := rfl
  have hquiet : (handleVendorCommand s d₀).onAir hw = d₀.onAir hw := by
    refine onAir_silent hact hfirst.sent fun _ _ left hleft => ?_
    cases hidle.symm.trans hleft
  exact ⟨hc.agree.carrier hc.on, hair.trans hquiet, hfirst.trans hm, fun s' hs' => carrier_stop hc hs'⟩

/-- A byte and a scan of three channels behind `SET_CONT_CARRIER`, with every packet that is sent acked. -/
theorem carrier_session_scan : ∃ d, (handleVendorCommand { setupPacket := hostRequest setContCarrier 1 } boot).run
      (fun _ => answering) [.command (.data (DataCommand.empty.store 0 [1] (by decide))), .scan 10 12 [0xff]] = .ok d ∧
    d.onAir (fun _ => .idle) = [] ∧ d.scanned = [] := by
  have hok : ((handleVendorCommand { setupPacket := hostRequest setContCarrier 1 } boot).run (fun _ => answering)
      [.command (.data (DataCommand.empty.store 0 [1] (by decide))), .scan 10 12 [0xff]]).toOption.isSome = true := by
    decide +kernel
  cases h : (handleVendorCommand { setupPacket := hostRequest setContCarrier 1 } boot).run (fun _ => answering)
      [.command (.data (DataCommand.empty.store 0 [1] (by decide))), .scan 10 12 [0xff]] with
  | error f =>
    rw [h] at hok
    cases hok
  | ok d =>
    have has : ∀ a ∈ [Act.command (.data (DataCommand.empty.store 0 [1] (by decide))), .scan 10 12 [0xff]],
        a.KeepsCarrier := by
      intro a ha
      simp only [List.mem_cons, List.not_mem_nil, or_false] at ha
      rcases ha with rfl | rfl <;> trivial
    have hboot : boot.run (fun _ => answering) [] = .ok boot := rfl
    obtain ⟨-, hair, hm, -⟩ := @carrier_session (fun _ => .idle) _ _ _ _ _ _ hboot rfl rfl rfl rfl has h
    exact ⟨d, rfl, hair, hm.scanned⟩

end Crazyradio.Usb
