/-
What the device puts on the air. In every run from power-up each packet has the form its receivers rely
on, in the mode and at the bit rate the host selected, and goes where the host sent it: to the address
selected last, by a setup command or by the header of the packet itself, or in sniffer mode to the address
in front of it.
-/
import Crazyradio.Esb.Air
import Crazyradio.Usb.Calls
import Crazyradio.Usb.Guard
import Crazyradio.Usb.Sends

namespace Crazyradio.Usb

open Bytes

/-! ## Where packets are aimed -/

/-- What the host selected, with the address and the bit rate of its packets. -/
structure Aim where
  view : HostView := {}
  address : Buf 5 := Buf.fill 5 0xe7
  mode : RadioMode := .nrf2Mbit

/-- The address a request selects for packets. -/
def Request.address? : Request → Option (Buf 5)
  | .address a => some a
  | .snifferAddress false a => some a
  | _ => none

/-- The address an act selects. -/
def Act.address? (v : HostView) : Act → Option (Buf 5)
  | .command (.setup s) => s.decode.address?
  | .command (.data c) => if v.inline then some (inlineModeOutHeader c.payload).address else none
  | _ => none

/-- The bit rate behind a request; at 250K the radio stays at the rate it had. -/
def Request.mode (mode : RadioMode) : Request → RadioMode
  | .datarate r => if r = 1 then .nrf1Mbit else if r = 2 then .nrf2Mbit else mode
  | _ => mode

/-- The bit rate behind an act, which is the one of its packets. -/
def Act.mode (m : Aim) : Act → RadioMode
  | .command (.setup s) => s.decode.mode m.mode
  | .command (.data c) =>
    if m.view.inline then bitrateMode (UInt8.ofNat (inlineModeOutHeader c.payload).datarate) m.mode else m.mode
  | _ => m.mode

def Aim.after (m : Aim) (a : Act) : Aim :=
  { view := m.view.after a, address := (a.address? m.view).getD m.address, mode := a.mode m }

/-- The aim behind a run. -/
def Aim.afterAll (m : Aim) (as : List Act) : Aim := as.foldl Aim.after m

/-- Where the packets of an act go. -/
def Act.destination (m : Aim) : Act → Buf 5
  | .command (.data c) => if m.view.sniffer then c.snifferAddress else (m.after (.command (.data c))).address
  | _ => m.address

/-! ## Sending -/

/-- From `e` to `e'` only well-formed packets to this address at this rate are sent. -/
def SentTo (sniffer : Bool) (a : Buf 5) (mode : RadioMode) (e e' : Esb) : Prop :=
  ∃ ts, transmissions e'.log = transmissions e.log ++ ts ∧
    ∀ t ∈ ts, t.WellFormed sniffer ∧ t.radio.pipe0 = a ∧ t.radio.mode = mode

variable {sniffer : Bool} {a : Buf 5} {mode : RadioMode}

theorem SentTo.none {e e' : Esb} (h : transmissions e'.log = transmissions e.log) : SentTo sniffer a mode e e' := by
  refine ⟨[], by rw [h, List.append_nil], fun t ht => ?_⟩
  cases ht

theorem SentTo.silent {e e' : Esb} (h : Emits e e' False) : SentTo sniffer a mode e e' :=
  .none (h.silent_iff.mpr id)

theorem SentTo.trans {e₁ e₂ e₃ : Esb} (h : SentTo sniffer a mode e₁ e₂) (h' : SentTo sniffer a mode e₂ e₃) :
    SentTo sniffer a mode e₁ e₃ := by
  obtain ⟨ts, ht, hs⟩ := h
  obtain ⟨us, hu, hs'⟩ := h'
  refine ⟨ts ++ us, by rw [hu, ht, List.append_assoc], fun t hmem => ?_⟩
  rcases List.mem_append.mp hmem with hmem | hmem
  · exact hs t hmem
  · exact hs' t hmem

/-- The registers keep their form, pipe 0, the bit rate and the mode stay, and what is sent goes to pipe 0. -/
structure Stays (e e' : Esb) : Prop where
  form : RadioForm e'
  pipe0 : e'.radio.pipe0 = e.radio.pipe0
  mode : e'.radio.mode = e.radio.mode
  current : e'.currentPipe0Address = e.currentPipe0Address
  sniffer : e'.snifferActive = e.snifferActive
  sent : SentTo e.snifferActive e.radio.pipe0 e.radio.mode e e'

theorem Stays.refl {e : Esb} (h : RadioForm e) : Stays e e := ⟨h, rfl, rfl, rfl, rfl, .none rfl⟩

theorem Stays.trans {a b c : Esb} (h : Stays a b) (h' : Stays b c) : Stays a c := by
  refine ⟨h'.form, h'.pipe0.trans h.pipe0, h'.mode.trans h.mode, h'.current.trans h.current,
    h'.sniffer.trans h.sniffer, h.sent.trans ?_⟩
  rw [← h.sniffer, ← h.pipe0, ← h.mode]
  exact h'.sent

theorem stays_sendPacket {e : Esb} (h : RadioForm e) (x : Exchange) (b : SendBuffers) :
    Stays e (esbSendPacket x b e).2.2 := by
  obtain ⟨pid, log, hk⟩ := esbSendPacket_kept x b e
  have hs : SamePipes e (esbSendPacket x b e).2.2 := by
    rw [hk]
    exact ⟨rfl, rfl, rfl, rfl⟩
  refine ⟨radioForm_sendPacket h x b, ?_, ?_, hs.current, ?_, (EsbCall.sendPacket x b).sent e, ?_, fun t ht => ?_⟩
  · simp only [Radio.pipe0, Radio.pair0, hs.base0, hs.prefix0]
  · rw [hk]
  · rw [hk]
  · exact transmissions_apply (.sendPacket x b) e
  · exact ⟨sent_wellFormed h _ t ht, pipe0_of_sendPacket t ht, mode_of_sent t ht⟩

theorem stays_setChannel {e : Esb} (h : RadioForm e) (channel : UInt8) : Stays e (esbSetChannel channel e) := by
  have hr : (esbSetChannel channel e).radio.pipe0 = e.radio.pipe0 := by
    rw [esbSetChannel_radio]
    rfl
  obtain ⟨radio, log, hk, -⟩ := esbSetChannel_kept channel e
  refine ⟨radioForm_setChannel h channel, hr, ?_, ?_, ?_, .silent (emits_setChannel channel e)⟩
  · rw [esbSetChannel_radio]
  · rw [hk]
  · rw [hk]

theorem stays_sends : SendRel fun d d' => RadioForm d.esb → Stays d.esb d'.esb where
  bookkeeping he _ _ h := by
    rw [he]
    exact .refl h
  trans h h' hf := (h hf).trans (h' (h hf).form)
  usbSend env d h := stays_sendPacket h (env d.sends) d.usb
  scanSend env d h := stays_sendPacket h (env d.sends) d.scan
  scanTuned channel _ h := stays_setChannel h (UInt8.ofNat channel)

/-! ## Acts -/

/-- The device holds what the host selected, its packets' address included. -/
structure Aimed (m : Aim) (d : Device) : Prop where
  settled : Settled m.view d
  form : RadioForm d.esb
  pipe0 : d.esb.radio.pipe0 = m.address
  current : d.esb.currentPipe0Address = m.address
  mode : d.esb.radio.mode = m.mode

theorem aimed_boot : Aimed {} boot := ⟨⟨tracks_boot, devInv_boot⟩, radioForm_init, tracked_init.pipe0, rfl, rfl⟩

theorem ByCalls.form {e e' : Esb} (h : ByCalls e e') (hf : RadioForm e) : RadioForm e' := by
  obtain ⟨calls, rfl⟩ := h
  exact radioForm_after hf calls

/-- The registers and the driver's copy of pipe 0 stay. -/
theorem pipe0_of_samePipes {e e' : Esb} (h : SamePipes e e') :
    e'.radio.pipe0 = e.radio.pipe0 ∧ e'.currentPipe0Address = e.currentPipe0Address :=
  ⟨by simp only [Radio.pipe0, Radio.pair0, h.base0, h.prefix0], h.current⟩

/-- Pipe 0 behind a request. -/
theorem pipe0_apply {d : Device} {a : Buf 5} (h0 : d.esb.radio.pipe0 = a) (hc : d.esb.currentPipe0Address = a)
    (r : Request) : (r.apply d).esb.radio.pipe0 = r.address?.getD a ∧
      (r.apply d).esb.currentPipe0Address = r.address?.getD a := by
  have same : ∀ {e : Esb}, SamePipes d.esb e → e.radio.pipe0 = a ∧ e.currentPipe0Address = a := fun h =>
    ⟨(pipe0_of_samePipes h).1.trans h0, (pipe0_of_samePipes h).2.trans hc⟩
  have call : ∀ c : EsbCall, c.address? = none → c.addressPipe1? = none → (∀ p x, c ≠ .snifferSend p x) →
      (c.apply d.esb).radio.pipe0 = a ∧ (c.apply d.esb).currentPipe0Address = a := fun c h1 h2 h3 =>
    same (samePipes_apply h1 h2 h3 d.esb)
  cases r with
  | channel c =>
    simp only [Request.apply]
    split
    · exact call (.setChannel c.toUInt8) rfl rfl fun _ _ h => by cases h
    · exact ⟨h0, hc⟩
  | address x => exact ⟨pipe0_setAddress x d.esb, rfl⟩
  | datarate n =>
    simp only [Request.apply]
    split
    · exact call (.setBitrate radioBitrate1M) rfl rfl fun _ _ h => by cases h
    split
    · exact call (.setBitrate radioBitrate2M) rfl rfl fun _ _ h => by cases h
    · exact ⟨h0, hc⟩
  | carrier enable => exact call (.setContinuousCarrier enable) rfl rfl fun _ _ h => by cases h
  | sniffer on =>
    cases on with
    | true => exact call (.snifferStart .snifferRxCallback) rfl rfl fun _ _ h => by cases h
    | false => exact call .snifferStop rfl rfl fun _ _ h => by cases h
  | snifferAddress pipe1 x =>
    cases pipe1 with
    | false => exact ⟨pipe0_setAddress x d.esb, rfl⟩
    | true =>
      -- the other pipe shares the prefix register only
      refine ⟨Eq.trans ?_ h0, hc⟩
      exact congrArg (decodeAddress d.esb.radio.base0) (byteOf_pipe1Prefix x d.esb.radio.prefix0).1
  | _ => exact ⟨h0, hc⟩

/-- The bit rate behind a request. -/
theorem mode_apply (r : Request) (d : Device) : (r.apply d).esb.radio.mode = r.mode d.esb.radio.mode := by
  cases r with
  | channel c => rw [apply_channel_radio]; rfl
  | datarate n => rw [apply_datarate_radio]; rfl
  | carrier enable =>
    simp only [Request.apply, esbSetContinuousCarrier, Request.mode]
    split
    · rfl
    split
    · rfl
    split
    · rfl
    · cases enable <;> rfl
  | sniffer on =>
    cases on with
    | true => exact (esbSnifferStart_tuning .snifferRxCallback d.esb).2
    | false => exact (esbSnifferStop_tuning d.esb).2
  | snifferAddress pipe1 x => cases pipe1 <;> rfl
  | _ => rfl

/-- Pipe 0 and the bit rate once the settings of a data command are in effect. -/
theorem aimed_settings {m : Aim} {d : Device} (h : Aimed m d) (hs : d.state.snifferMode = false) (c : DataCommand) :
    Aimed (m.after (.command (.data c))) (d.settled c) ∧ Emits d.esb (d.settled c).esb False := by
  have hsettled := settled_settings h.settled hs c
  have hinline : m.view.inline = d.state.inlineMode := by
    rw [h.settled.1.inline, hs, Bool.not_false, Bool.true_and]
  cases hi : d.state.inlineMode with
  | false =>
    have hd : d.settled c = d := if_neg (Bool.eq_false_iff.mp hi)
    have ha : (m.after (.command (.data c))).address = m.address := by
      simp only [Aim.after, Act.address?, hinline, hi, Bool.false_eq_true, if_false, Option.getD_none]
    have hm : (m.after (.command (.data c))).mode = m.mode := by
      simp only [Aim.after, Act.mode, hinline, hi, Bool.false_eq_true, if_false]
    rw [hd] at hsettled ⊢
    exact ⟨⟨hsettled, h.form, h.pipe0.trans ha.symm, h.current.trans ha.symm, h.mode.trans hm.symm⟩, .refl d.esb⟩
  | true =>
    have hd : d.settled c = inlineSettings (inlineModeOutHeader c.payload) d := if_pos hi
    have ha : (m.after (.command (.data c))).address = (inlineModeOutHeader c.payload).address := by
      simp only [Aim.after, Act.address?, hinline, hi, if_true, Option.getD_some]
    rw [hd] at hsettled ⊢
    refine ⟨⟨hsettled, (byCalls_driver.inlineSettings _ d).form h.form, ?_, ha.symm, ?_⟩, emits_inlineSettings _ d⟩
    · rw [ha]
      exact pipe0_setAddress _ _
    · simp only [Aim.after, Act.mode, hinline, hi, if_true, ← h.mode]
      show (esbSetBitrate _ (esbSetChannel _ d.esb)).radio.mode = _
      rw [esbSetBitrate_radio, esbSetChannel_radio]

/-- A sniffer-mode send changes pipe 0 for its packet only. -/
theorem aimed_snifferData {env : Env} {m : Aim} {c : DataCommand} {d d' : Device} (h : Aimed m d)
    (hs : d.state.snifferMode = true) (hd : d.act env (.command (.data c)) = .ok d') :
    Aimed (m.after (.command (.data c))) d' ∧
      SentTo true c.snifferAddress (m.after (.command (.data c))).mode d.esb d'.esb := by
  have hsd : snifferData c d = .ok d' := (if_pos hs).symm.trans hd
  have hsettled := settled_act env h.settled hd
  have hact : d.esb.snifferActive = true := h.settled.2.sniffer.trans hs
  have ha : (m.after (.command (.data c))).address = m.address := by
    simp only [Aim.after, Act.address?, h.settled.1.inline, hs, Bool.not_true, Bool.false_and, Bool.false_eq_true,
      if_false, Option.getD_none]
  have hm : (m.after (.command (.data c))).mode = m.mode := by
    simp only [Aim.after, Act.mode, h.settled.1.inline, hs, Bool.not_true, Bool.false_and, Bool.false_eq_true, if_false]
  rcases snifferData_cases hsd with ⟨-, rfl⟩ | ⟨-, rfl⟩
  · exact ⟨⟨hsettled, h.form, h.pipe0.trans ha.symm, h.current.trans ha.symm, h.mode.trans hm.symm⟩, .none rfl⟩
  · obtain ⟨hr, hc⟩ := esbSnifferSend_radio hact (d.snifferLoad c).usb.packet c.snifferAddress
    refine ⟨⟨hsettled, radioForm_snifferSend h.form _ _, ?_, hc.trans (h.current.trans ha.symm), ?_⟩, ?_⟩
    · rw [ha, ← h.current]
      exact Radio.pipe0_eq (congrArg Radio.base0 hr) (congrArg Radio.prefix0 hr)
    · rw [hm, ← h.mode]
      exact Eq.trans (congrArg Radio.mode hr) rfl
    · refine ⟨(EsbCall.snifferSend (d.snifferLoad c).usb.packet c.snifferAddress).sent d.esb, ?_, fun t ht => ?_⟩
      · exact transmissions_apply (.snifferSend _ _) d.esb
      · have hw := sent_wellFormed h.form _ t ht
        rw [hact] at hw
        exact ⟨hw, pipe0_of_sent ht, (mode_of_sent t ht).trans (h.mode.trans hm.symm)⟩

/-- One act. -/
theorem aimed_act {env : Env} {m : Aim} {d d' : Device} {a : Act} (h : Aimed m d) (hd : d.act env a = .ok d') :
    Aimed (m.after a) d' ∧ SentTo m.view.sniffer (a.destination m) (m.after a).mode d.esb d'.esb := by
  have hview : d.esb.snifferActive = m.view.sniffer := h.settled.2.sniffer.trans h.settled.1.sniffer
  have hsettled := settled_act env h.settled hd
  -- an act that selects no address and no rate and sends as any other
  have stays : Stays d.esb d'.esb → m.after a = { m with view := m.view.after a } → a.destination m = m.address →
      Aimed (m.after a) d' ∧ SentTo m.view.sniffer (a.destination m) (m.after a).mode d.esb d'.esb := by
    intro hs hm hdest
    refine ⟨⟨hsettled, hs.form, ?_, ?_, ?_⟩, ?_⟩
    · rw [hm]
      exact hs.pipe0.trans h.pipe0
    · rw [hm]
      exact hs.current.trans h.current
    · rw [hm]
      exact hs.mode.trans h.mode
    · rw [hdest, hm, ← hview, ← h.pipe0, ← h.mode]
      exact hs.sent
  cases a with
  | command c =>
    cases c with
    | setup s =>
      obtain rfl := act_setup hd
      obtain ⟨h0, hc⟩ := pipe0_apply h.pipe0 h.current s.decode
      have hm : (s.decode.apply d).esb.radio.mode = s.decode.mode m.mode := h.mode ▸ mode_apply s.decode d
      exact ⟨⟨hsettled, (byCalls_apply s.decode d).form h.form, h0, hc, hm⟩, .silent (emits_apply s.decode d)⟩
    | data c =>
      have hmode : m.view.sniffer = d.state.snifferMode := h.settled.1.sniffer.symm
      cases hs : d.state.snifferMode with
      | true =>
        simp only [Act.destination, hmode, hs, if_true]
        exact aimed_snifferData h hs hd
      | false =>
        obtain ⟨hset, hquiet⟩ := aimed_settings h hs c
        have hstay := stays_sends.data hs hd hset.form
        have hoff : (d.settled c).esb.snifferActive = false := by
          rw [hset.settled.2.sniffer, settled_snifferMode, hs]
        refine ⟨⟨hsettled, hstay.form, hstay.pipe0.trans hset.pipe0, hstay.current.trans hset.current,
          hstay.mode.trans hset.mode⟩, ?_⟩
        simp only [Act.destination, hmode, hs, Bool.false_eq_true, if_false]
        have hsent := hstay.sent
        rw [hoff, hset.pipe0, hset.mode] at hsent
        exact (SentTo.silent hquiet).trans hsent
  | scan start stop data =>
    cases hd
    exact stays (stays_sends.fwScan env start stop data d h.form) rfl rfl
  | poll => exact stays (stays_sends.poll hd h.form) rfl rfl
  | receive r => exact stays (stays_sends.receive hd h.form) rfl rfl

/-! ## Runs -/

theorem aimed_run {env : Env} {as : List Act} {d : Device} (h : boot.run env as = .ok d) :
    Aimed (Aim.afterAll {} as) d := by
  induction as using List.reverseRecOn generalizing d with
  | nil =>
    cases h
    exact aimed_boot
  | append_singleton as a ih =>
    obtain ⟨d₁, h₁, ha⟩ := run_concat.mp h
    unfold Aim.afterAll
    rw [List.foldl_append]
    exact (aimed_act (ih h₁) ha).1

/-- Inline mode, and a message with its own address. -/
def inlineMessage : DataCommand :=
  DataCommand.empty.store 0 [9, 0x12, 42, 0x11, 0x11, 0x11, 0x11, 0x11, 7] (by decide)

end Crazyradio.Usb
