/-
What one command may do, in any reachable state: which data commands copy outside their arrays, and
which acts send packets.
-/
import Crazyradio.Esb.Effect
import Crazyradio.Usb.Settings

namespace Crazyradio.Usb

open Bytes

/-! ## Copies -/

/-- Every copy `usb_thread` makes for this command stays inside its arrays, in the packet it builds
and in the answers it writes, those of the sniffer queue included. -/
def CopiesInBounds (env : Env) (c : DataCommand) (d : Device) : Prop :=
  (∃ d', handleCommand env (.data c) d = .ok d') ∧ ∃ d', pollSniffer d = .ok d'

/-- Copies go wrong for an inline header whose length is below 8, and for a broadcast of 128 bytes,
whose halves are one byte longer than a packet. -/
theorem copiesInBounds_iff (env : Env) (c : DataCommand) (d : Device) : CopiesInBounds env c d ↔
    (d.state.snifferMode = true ∨
      if d.state.inlineMode then 8 ≤ (inlineModeOutHeader c.payload).length.toNat
      else d.state.ackEnabled = true ∨ c.length ≠ 128) := by
  have hp : ∃ d', pollSniffer d = .ok d' := by
    obtain ⟨q, b, w, h⟩ := pollSniffer_spec d
    exact ⟨_, h⟩
  unfold CopiesInBounds
  rw [and_iff_left hp]
  cases hs : d.state.snifferMode with
  | true =>
    obtain ⟨d', hd⟩ := snifferData_isOk c d
    constructor
    · intro _; exact Or.inl rfl
    · intro _; exact ⟨d', (if_pos hs).trans hd⟩
  | false =>
    rw [handleCommand_data_isOk_iff env c hs, or_iff_right Bool.false_ne_true]
    unfold Device.copies Device.broadcasts
    cases d.state.inlineMode with
    | true => rw [if_pos rfl, if_pos rfl, decide_eq_true_iff]; rfl
    | false =>
      rw [if_neg Bool.false_ne_true, if_neg Bool.false_ne_true]
      cases d.state.ackEnabled with
      | true => simp
      | false => simp; omega

/-- In inline mode an OUT packet of one zero byte is a header of length 0: the copy has size -8. -/
theorem copies_negative : ¬ ∀ (env : Env) (s : System), Reachable env s → ∀ c : DataCommand,
    CopiesInBounds env c s.dev := by
  intro hall
  obtain ⟨⟨d', h⟩, -⟩ := hall (fun _ => .silent) _
    ⟨[.request (hostRequest setInlineMode 1) [], .fetch, .handle], rfl⟩ (DataCommand.empty.store 0 [0] (by decide))
  have he : (.error (.outOfBounds ⟨63, 0, 128, 8, -8⟩) : Except Fault Device) = .ok d' := h
  exact nomatch he

/-! ## What goes on the air -/

/-- From `e` to `e'` packets go on the air, some exactly if `p`. -/
def Emits (e e' : Esb) (p : Prop) : Prop :=
  ∃ ts, transmissions e'.log = transmissions e.log ++ ts ∧ (ts = [] ↔ ¬p)

theorem Emits.refl (e : Esb) : Emits e e False := ⟨[], (List.append_nil _).symm, by simp⟩

theorem Emits.trans {e₁ e₂ e₃ : Esb} {p q : Prop} (h : Emits e₁ e₂ p) (h' : Emits e₂ e₃ q) :
    Emits e₁ e₃ (p ∨ q) := by
  obtain ⟨ts, h1, h2⟩ := h
  obtain ⟨us, h3, h4⟩ := h'
  refine ⟨ts ++ us, by rw [h3, h1, List.append_assoc], ?_⟩
  rw [List.append_eq_nil_iff, h2, h4, not_or]

theorem Emits.congr {e e' : Esb} {p q : Prop} (h : Emits e e' p) (hpq : p ↔ q) : Emits e e' q := by
  rw [← propext hpq]; exact h

/-- Nothing went on the air exactly if the condition fails. -/
theorem Emits.silent_iff {e e' : Esb} {p : Prop} (h : Emits e e' p) :
    transmissions e'.log = transmissions e.log ↔ ¬p := by
  obtain ⟨ts, h1, h2⟩ := h
  rw [h1, List.append_right_eq_self, h2]

/-- A call of the driver puts packets on the air exactly if it gets to TXEN. -/
theorem emits_call (c : EsbCall) (e : Esb) : Emits e (c.apply e) (c.starts e = true) := by
  refine ⟨c.sent e, transmissions_apply c e, ?_⟩
  cases h : c.starts e with
  | false => simp [(silent h).sent]
  | true => simp [(started h).nonempty]

theorem emits_quiet {c : EsbCall} {e : Esb} (h : c.starts e = false) : Emits e (c.apply e) False :=
  (emits_call c e).congr (by simp [h])

theorem emits_sendPacket (x : Exchange) (b : SendBuffers) (e : Esb) :
    Emits e (esbSendPacket x b e).2.2 (e.sends x.packetDraw = true) := emits_call (.sendPacket x b) e

theorem emits_setChannel (channel : UInt8) (e : Esb) : Emits e (esbSetChannel channel e) False :=
  emits_quiet (c := .setChannel channel) rfl

theorem emits_setBitrate (bitrate : UInt8) (e : Esb) : Emits e (esbSetBitrate bitrate e) False :=
  emits_quiet (c := .setBitrate bitrate) rfl

theorem emits_setAddress (address : Buf 5) (e : Esb) : Emits e (esbSetAddress address e) False :=
  emits_quiet (c := .setAddress address) rfl

/-- The inline settings put nothing on the air. -/
theorem emits_inlineSettings (h : InlineModeOutHeader) (d : Device) :
    Emits d.esb (inlineSettings h d).esb False := by
  have hc := (emits_setChannel h.channel d.esb).trans (emits_setBitrate (UInt8.ofNat h.datarate) _)
  have ha : Emits _ (inlineSettings h d).esb False :=
    emits_setAddress h.address (esbSetAckEnabled h.ackEnabled
      (esbSetBitrate (UInt8.ofNat h.datarate) (esbSetChannel h.channel d.esb)))
  exact (hc.trans ha).congr (by simp)

/-- A setup command makes one call of the driver at most, and none that sends. -/
theorem apply_call (r : Request) (d : Device) : (r.apply d).esb = d.esb ∨
    ∃ c : EsbCall, (r.apply d).esb = c.apply d.esb ∧ c.starts d.esb = false := by
  cases r with
  | channel c =>
    simp only [Request.apply]
    split
    · exact .inr ⟨.setChannel c.toUInt8, rfl, rfl⟩
    · exact .inl rfl
  | address a => exact .inr ⟨.setAddress a, rfl, rfl⟩
  | datarate n =>
    simp only [Request.apply]
    split
    · exact .inr ⟨.setBitrate radioBitrate1M, rfl, rfl⟩
    split
    · exact .inr ⟨.setBitrate radioBitrate2M, rfl, rfl⟩
    · exact .inl rfl
  | arc n => exact .inr ⟨.setArc (n &&& 0x0f).toNat, rfl, rfl⟩
  | ack enabled => exact .inr ⟨.setAckEnabled enabled, rfl, rfl⟩
  | carrier enable => exact .inr ⟨.setContinuousCarrier enable, rfl, rfl⟩
  | sniffer on =>
    cases on with
    | true => exact .inr ⟨.snifferStart .snifferRxCallback, rfl, rfl⟩
    | false => exact .inr ⟨.snifferStop, rfl, rfl⟩
  | snifferAddress pipe1 a =>
    cases pipe1 with
    | true => exact .inr ⟨.setAddressPipe1 a, rfl, rfl⟩
    | false => exact .inr ⟨.setAddress a, rfl, rfl⟩
  | loss packetLoss ackLoss => exact .inr ⟨.setPacketLossSimulation packetLoss ackLoss, rfl, rfl⟩
  | power p => exact .inl rfl
  | inlineMode v => exact .inl rfl
  | other => exact .inl rfl

/-- So it puts no packet on the air. -/
theorem emits_apply (r : Request) (d : Device) : Emits d.esb (r.apply d).esb False := by
  rcases apply_call r d with h | ⟨c, h, hc⟩ <;> rw [h]
  · exact .refl d.esb
  · exact emits_quiet hc

/-! ## Acts -/

/-- The `i`-th call of `esb_send_packet` from here would get past its early exits. -/
def Device.passes (env : Env) (d : Device) (i : Nat) : Prop := d.esb.sends (env (d.sends + i)).packetDraw = true

theorem emits_usbSend (env : Env) (d : Device) : Emits d.esb (usbSend env d).2.esb (d.passes env 0) :=
  emits_sendPacket (env d.sends) d.usb d.esb

/-- Behind a call the next one is one further on. -/
theorem passes_next (env : Env) (b : SendBuffers) {d d' : Device}
    (he : d'.esb = (esbSendPacket (env d.sends) b d.esb).2.2) (hn : d'.sends = d.sends + 1) (i : Nat) :
    d'.passes env i ↔ d.passes env (i + 1) := by
  obtain ⟨pid, log, h⟩ := esbSendPacket_kept (env d.sends) b d.esb
  have hi : d.sends + 1 + i = d.sends + (i + 1) := by omega
  unfold Device.passes
  rw [he, h, hn, hi]
  rfl

theorem passes_usbSend (env : Env) (d : Device) (i : Nat) :
    (usbSend env d).2.passes env i ↔ d.passes env (i + 1) := passes_next env d.usb rfl rfl i

theorem passes_scanSend (env : Env) (d : Device) (i : Nat) :
    (scanSend env d).2.passes env i ↔ d.passes env (i + 1) := passes_next env d.scan rfl rfl i

theorem emits_guardedSend (env : Env) (d : Device) :
    Emits d.esb (guardedSend env d).esb (d.state.handled = true ∧ d.passes env 0) := by
  unfold guardedSend
  split
  · rename_i h
    rw [capAck_esb]
    exact (emits_usbSend env d).congr (by simp [h])
  · rename_i h
    exact (Emits.refl d.esb).congr (by simp [h])

/-- The scan loop puts packets on the air exactly if one of its calls gets past the early exits: it
ends early only behind an acked packet. -/
theorem emits_fwScanLoop (env : Env) : ∀ (n channel : Nat) (d : Device),
    Emits d.esb (fwScanLoop env n channel d).esb (∃ i < n, d.passes env i)
  | 0, _, d => (Emits.refl d.esb).congr (by simp)
  | n + 1, channel, d => by
    let d₁ := d.scanTuned channel
    obtain ⟨radio, log, he, -⟩ := esbSetChannel_kept (UInt8.ofNat channel) d.esb
    have hp : ∀ i, d₁.passes env i ↔ d.passes env i := by
      intro i
      show (esbSetChannel (UInt8.ofNat channel) d.esb).sends _ = true ↔ _
      rw [he]
      rfl
    have hs : Emits d.esb (scanSend env d₁).2.esb (d.passes env 0) :=
      ((emits_setChannel (UInt8.ofNat channel) d.esb).trans (emits_sendPacket (env d.sends) d.scan _)).congr
        (by rw [false_or]; exact hp 0)
    have hmore : (∃ i < n + 1, d.passes env i) ↔ d.passes env 0 ∨ ∃ i < n, (scanSend env d₁).2.passes env i := by
      simp only [passes_scanSend, hp]
      constructor
      · rintro ⟨i, hi, h⟩
        cases i with
        | zero => exact Or.inl h
        | succ i => exact Or.inr ⟨i, by omega, h⟩
      · rintro (h | ⟨i, hi, h⟩)
        · exact ⟨0, by omega, h⟩
        · exact ⟨i + 1, by omega, h⟩
    rw [fwScanLoop_succ]
    split
    · rename_i hacked
      -- only a call that got past its early exits returns true
      have h0 : d.passes env 0 := by
        by_contra hn
        have hx := esbSendPacket_exit (x := env d.sends) (b := d.scan)
          (Bool.eq_false_iff.mpr (mt (hp 0).mp hn))
        have hf : (scanSend env d₁).1 = false := congrArg Prod.fst hx
        exact Bool.false_ne_true (hf.symm.trans hacked)
      split
      · refine hs.congr ?_
        rw [hmore]
        exact iff_of_true h0 (Or.inl h0)
      · refine Emits.congr (Emits.trans hs ?_) hmore.symm
        exact emits_fwScanLoop env n _ _
    · exact (hs.trans (emits_fwScanLoop env n _ _)).congr hmore.symm

theorem passes_inlineSettings (env : Env) (h : InlineModeOutHeader) (d : Device) (i : Nat) :
    (inlineSettings h d).passes env i ↔ d.passes env i := by
  obtain ⟨r₁, l₁, h₁, -⟩ := esbSetChannel_kept h.channel d.esb
  obtain ⟨r₂, l₂, h₂, -⟩ := esbSetBitrate_kept (UInt8.ofNat h.datarate) { d.esb with radio := r₁, log := l₁ }
  unfold Device.passes inlineSettings
  simp only
  rw [h₁, h₂]
  rfl

/-- The settings are ones the radio supports. -/
def HostView.supported (v : HostView) : Prop := v.datarate ≠ 0 ∧ v.channel ≤ 100

/-- What the send guard makes of the settings: it sees the channel modulo 256. -/
def HostView.passesGuard (v : HostView) : Prop := v.datarate ≠ 0 ∧ v.channel.toNat % 256 ≤ 100

instance (v : HostView) : Decidable v.supported := inferInstanceAs (Decidable (_ ∧ _))

instance (v : HostView) : Decidable v.passesGuard := inferInstanceAs (Decidable (_ ∧ _))

theorem Tracks.handled_iff {v : HostView} {s : State} (h : Tracks v s) : s.handled = true ↔ v.passesGuard :=
  State.handled_iff h.channel h.datarate h.rate_lt

/-- When a data command outside sniffer mode puts a packet on the air. -/
def dataEmits (env : Env) (v : HostView) (c : DataCommand) (d : Device) : Prop :=
  if v.inline then (v.after (.command (.data c))).passesGuard ∧ d.passes env 0
  else if v.ackEnabled = false ∧ 32 < c.length then d.passes env 0 ∨ v.passesGuard ∧ d.passes env 1
  else v.passesGuard ∧ d.passes env 0

/-- When an act puts a packet on the air. -/
def Act.emits (env : Env) (v : HostView) (d : Device) : Act → Prop
  | .command (.setup _) => False
  | .command (.data c) => if v.sniffer then 6 ≤ c.length else dataEmits env v c d
  | .scan start stop _ => ∃ i < stop.toNat + 1 - start.toNat, d.passes env i
  | .poll => False
  | .receive _ => False

theorem emits_data {env : Env} {v : HostView} {c : DataCommand} {d d' : Device} (h : Settled v d)
    (hs : d.state.snifferMode = false) (hd : handleCommand env (.data c) d = .ok d') :
    Emits d.esb d'.esb (dataEmits env v c d) := by
  obtain ⟨d₁, b, p, hb, rfl⟩ := handleCommand_data_cases hs hd
  have hg : Emits d₁.esb (guardedSend env d₁).esb _ := emits_guardedSend env d₁
  have hv := h.1.inline
  rw [hs, Bool.not_false, Bool.true_and] at hv
  unfold dataEmits
  rw [hv]
  have hbr : d.broadcasts c = true ↔ v.ackEnabled = false ∧ 32 < c.length := by
    unfold Device.broadcasts
    rw [h.1.ack]
    simp
  rcases buildPacket_cases hb with ⟨hi, -, rfl⟩ | ⟨hi, hc, hl, rfl⟩ | ⟨hi, hc, rfl⟩
  · -- the settings of the header come before the guard
    have ht := tracks_inlineSettings h.1 (inlineModeOutHeader c.payload)
    have hn : v.after (.command (.data c)) = (inlineModeOutHeader c.payload).select v :=
      if_pos (by rw [hv, hi])
    refine ((emits_inlineSettings _ d).trans hg).congr ?_
    rw [hi, false_or, if_pos rfl, hn, ← ht.handled_iff, ← passes_inlineSettings env (inlineModeOutHeader c.payload) d]
    rfl
  · -- the first half goes out in front of the guard
    have h1 := (emits_usbSend env (d.load c.payload 0 (c.length / 2) hl)).trans hg
    refine h1.congr ?_
    rw [hi, if_neg Bool.false_ne_true, ← h.1.handled_iff, if_pos (hbr.mp hc)]
    refine or_congr Iff.rfl (and_congr Iff.rfl ?_)
    exact passes_usbSend env (d.load c.payload 0 (c.length / 2) hl) 0
  · rw [hi, if_neg Bool.false_ne_true, ← h.1.handled_iff, if_neg (mt hbr.mpr (Bool.eq_false_iff.mp hc))]
    exact hg

theorem log_radioIsrSniffer (r : Reception) (d : Device) : (radioIsrSniffer r d).esb = d.esb := by
  unfold radioIsrSniffer snifferRxCallback
  simp only
  split
  · split <;> rfl
  · rfl

/-- Polling the sniffer queue and receiving for it leave the driver alone. -/
theorem esb_poll {env : Env} {d d' : Device} (h : d.act env .poll = .ok d') : d'.esb = d.esb := by
  obtain ⟨q, b, w, hp⟩ := pollSniffer_spec d
  cases hp.symm.trans h
  rfl

theorem esb_receive {env : Env} {r : Reception} {d d' : Device} (h : d.act env (.receive r) = .ok d') :
    d'.esb = d.esb := by
  cases h
  split
  · exact log_radioIsrSniffer r d
  · rfl

/-- When an act puts packets on the air, in any state a run reaches. -/
theorem emits_act {env : Env} {v : HostView} {d d' : Device} {a : Act} (h : Settled v d)
    (hd : d.act env a = .ok d') : Emits d.esb d'.esb (a.emits env v d) := by
  cases a with
  | command c =>
    cases c with
    | setup s =>
      obtain rfl := act_setup hd
      exact emits_apply s.decode d
    | data c =>
      simp only [Act.emits]
      cases hs : d.state.snifferMode with
      | false =>
        rw [if_neg (by rw [← h.1.sniffer, hs]; exact Bool.false_ne_true)]
        exact emits_data h hs hd
      | true =>
        have hd : snifferData c d = .ok d' := (if_pos hs).symm.trans hd
        rw [if_pos (by rw [← h.1.sniffer, hs])]
        rcases snifferData_sent h.2 hs hd with ⟨hl, rfl⟩ | ⟨hl, ht⟩
        · exact (Emits.refl _).congr (by simp; omega)
        · exact ⟨_, ht, by simp [hl]⟩
  | scan start stop data =>
    cases hd
    simp only [fwScan, Act.emits]
    split
    · rename_i hlt
      have hn : stop.toNat + 1 - start.toNat = 0 := by
        have := UInt8.lt_iff_toNat_lt.mp hlt
        omega
      exact (Emits.refl d.esb).congr (by simp [hn])
    · exact emits_fwScanLoop env _ _ _
  | poll =>
    rw [esb_poll hd]
    exact .refl d.esb
  | receive r =>
    rw [esb_receive hd]
    exact .refl d.esb

end Crazyradio.Usb
