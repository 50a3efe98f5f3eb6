/-
The length of what goes on the air against the radio's `MAXLEN`. The register is 63 in sniffer mode
and 32 otherwise; the branches of `usb_thread` that build a packet each cap it in their own way, the
inline branch at 40 bytes and the two-packet broadcast not at all.
-/
import Crazyradio.Usb.Safety

namespace Crazyradio.Usb

open Bytes

/-! ## What the new transmissions carry -/

/-- From `e` to `e'` packets go on the air, each of them one with the property `F`. -/
def Carries (e e' : Esb) (F : Transmission → Prop) : Prop :=
  ∃ ts, transmissions e'.log = transmissions e.log ++ ts ∧ ∀ t ∈ ts, F t

theorem Carries.of_silent {e e' : Esb} (h : Emits e e' False) (F : Transmission → Prop) : Carries e e' F :=
  ⟨[], by rw [h.silent_iff.mpr id, List.append_nil], fun _ ht => nomatch ht⟩

theorem Carries.trans {e₁ e₂ e₃ : Esb} {F : Transmission → Prop} (h : Carries e₁ e₂ F) (h' : Carries e₂ e₃ F) :
    Carries e₁ e₃ F := by
  obtain ⟨ts, h1, h2⟩ := h
  obtain ⟨us, h3, h4⟩ := h'
  refine ⟨ts ++ us, by rw [h3, h1, List.append_assoc], fun t ht => ?_⟩
  exact (List.mem_append.mp ht).elim (h2 t) (h4 t)

/-- A packet with `n` bytes and `MAXLEN` at `limit`. -/
def Measures (n limit : Nat) (t : Transmission) : Prop := t.length.toNat = n ∧ t.radio.maxlen = limit

theorem carries_sendPacket (x : Exchange) (b : SendBuffers) (e : Esb) :
    Carries e (esbSendPacket x b e).2.2 (Measures b.packet.length.toNat e.radio.maxlen) := by
  cases h : e.sends x.packetDraw with
  | false =>
    rw [esbSendPacket_exit h]
    exact .of_silent (.refl e) _
  | true =>
    rw [esbSendPacket_esb h]
    refine ⟨_, (transmissions_append _ _).trans (congrArg _ (transmissions_onAir x b e)), fun t ht => ?_⟩
    rw [List.eq_of_mem_replicate ht]
    exact ⟨rfl, rfl⟩

/-- A call leaves the caller's packet as long as it was. -/
theorem esbSendPacket_packet (x : Exchange) (b : SendBuffers) (e : Esb) :
    (esbSendPacket x b e).2.1.packet.length = b.packet.length := by
  cases h : e.sends x.packetDraw with
  | false => rw [esbSendPacket_exit h]
  | true =>
    rw [esbSendPacket_finish h]
    unfold LoopResult.finish
    split <;> rfl

theorem carries_guardedSend (env : Env) (d : Device) :
    Carries d.esb (guardedSend env d).esb (Measures d.usb.packet.length.toNat d.esb.radio.maxlen) := by
  unfold guardedSend
  split
  · rw [capAck_esb]; exact carries_sendPacket _ _ _
  · exact .of_silent (.refl _) _

theorem toNat_load (d : Device) (payload : Buf 128) (off : Nat) {n : Nat} (h : n ≤ 63) :
    (d.load payload off n h).usb.packet.length.toNat = n := by
  show (UInt8.ofNat n).toNat = n
  rw [UInt8.toNat_ofNat']
  omega

/-- The scan sends one packet again and again. -/
theorem carries_fwScanLoop (env : Env) : ∀ (n channel : Nat) (d : Device),
    Carries d.esb (fwScanLoop env n channel d).esb (Measures d.scan.packet.length.toNat d.esb.radio.maxlen)
  | 0, _, d => .of_silent (.refl d.esb) _
  | n + 1, channel, d => by
    let d₁ := d.scanTuned channel
    have hm : d₁.esb.radio.maxlen = d.esb.radio.maxlen := (kept_setChannel (UInt8.ofNat channel) d).maxlen
    have hs : Carries d.esb (scanSend env d₁).2.esb (Measures d.scan.packet.length.toNat d.esb.radio.maxlen) := by
      refine (Carries.of_silent (emits_setChannel (UInt8.ofNat channel) d.esb) _).trans ?_
      rw [← hm]
      exact carries_sendPacket (env d₁.sends) d₁.scan d₁.esb
    have hl : (scanSend env d₁).2.scan.packet.length = d.scan.packet.length := esbSendPacket_packet _ _ _
    have hm' : (scanSend env d₁).2.esb.radio.maxlen = d.esb.radio.maxlen := (kept_scanSend env d₁).maxlen.trans hm
    have hmore : ∀ d₂ : Device, d₂.esb = (scanSend env d₁).2.esb → d₂.scan = (scanSend env d₁).2.scan →
        Carries (scanSend env d₁).2.esb (fwScanLoop env n (channel + 1) d₂).esb
          (Measures d.scan.packet.length.toNat d.esb.radio.maxlen) := by
      intro d₂ he hscan
      rw [← hl, ← hm', ← he, ← hscan]
      exact carries_fwScanLoop env n (channel + 1) d₂
    rw [fwScanLoop_succ]
    split
    · split
      · exact hs
      · exact hs.trans (hmore _ rfl rfl)
    · exact hs.trans (hmore _ rfl rfl)

/-! ## Lengths -/

/-- The length of what a data command or a scan sends, from the mode the device is in. -/
def Act.packetLength (d : Device) : Act → Nat
  | .command (.data c) =>
    if d.state.snifferMode then min (c.length - 5) 63
    else if d.state.inlineMode then min ((inlineModeOutHeader c.payload).length.toNat - 8) 40
    else if d.broadcasts c then c.length / 2
    else min c.length 32
  | .scan _ _ data => min data.length 32
  | _ => 0

/-- The send guard on a loaded packet. -/
theorem carries_loaded (env : Env) (d : Device) (payload : Buf 128) (off : Nat) {n m : Nat} (h : n ≤ 63)
    (hm : d.esb.radio.maxlen = m) : Carries d.esb (guardedSend env (d.load payload off n h)).esb (Measures n m) := by
  have hg := carries_guardedSend env (d.load payload off n h)
  rw [toNat_load] at hg
  rw [← hm]
  exact hg

/-- Both halves of a broadcast are as long. -/
theorem carries_data {env : Env} {c : DataCommand} {d d' : Device} (hv : DevInv d) (hs : d.state.snifferMode = false)
    (hd : handleCommand env (.data c) d = .ok d') :
    Carries d.esb d'.esb (Measures (Act.packetLength d (.command (.data c))) 32) := by
  obtain ⟨d₁, b, p, hb, rfl⟩ := handleCommand_data_cases hs hd
  show Carries d.esb (guardedSend env d₁).esb _
  have hm : d.esb.radio.maxlen = 32 := by rw [hv.maxlen, hs]; rfl
  unfold Act.packetLength
  simp only [hs, Bool.false_eq_true, if_false]
  rcases buildPacket_cases hb with ⟨hi, -, rfl⟩ | ⟨hi, hc, hl, rfl⟩ | ⟨hi, hc, rfl⟩
  · rw [hi, if_pos rfl]
    have hm' := (devInv_inlineSettings hv (inlineModeOutHeader c.payload)).maxlen
    refine (Carries.of_silent (emits_inlineSettings _ d) _).trans (carries_loaded env _ c.payload 8 _ ?_)
    exact hm'.trans (by rw [show (inlineSettings _ d).state.snifferMode = false from hs]; rfl)
  · rw [hi, hc, if_neg Bool.false_ne_true, if_pos rfl]
    let dl := d.load c.payload 0 (c.length / 2) hl
    have hfirst : Carries d.esb (usbSend env dl).2.esb (Measures (c.length / 2) 32) := by
      have h := carries_sendPacket (env dl.sends) dl.usb dl.esb
      rw [toNat_load d c.payload 0 hl] at h
      rw [← hm]
      exact h
    exact hfirst.trans (carries_loaded env _ c.payload _ hl ((kept_usbSend env dl).maxlen.trans hm))
  · rw [hi, hc, if_neg Bool.false_ne_true, if_neg Bool.false_ne_true]
    exact carries_loaded env d c.payload 0 _ hm

/-- The `MAXLEN` of the mode. -/
def State.maxlen (s : State) : Nat := if s.snifferMode then 63 else 32

/-- Whatever an act puts on the air is as long as its branch made it, and `MAXLEN` is that of the
mode. -/
theorem carries_act {env : Env} {a : Act} {d d' : Device} (hv : DevInv d) (hd : d.act env a = .ok d') :
    Carries d.esb d'.esb (Measures (a.packetLength d) d.state.maxlen) := by
  cases a with
  | command c =>
    cases c with
    | setup s =>
      obtain rfl := act_setup hd
      exact .of_silent (emits_apply s.decode d) _
    | data c =>
      unfold State.maxlen
      cases hs : d.state.snifferMode with
      | false => exact carries_data hv hs hd
      | true =>
        have hsd : snifferData c d = .ok d' := (if_pos hs).symm.trans hd
        rcases snifferData_sent hv hs hsd with ⟨-, rfl⟩ | ⟨-, ht⟩
        · exact .of_silent (.refl _) _
        · refine ⟨_, ht, fun t hm => ?_⟩
          rw [List.mem_singleton.mp hm]
          refine ⟨?_, hv.maxlen.trans (by rw [hs])⟩
          unfold Act.packetLength
          rw [hs]
          exact toNat_load d c.payload 5 (Nat.min_le_right _ _)
  | scan start stop data =>
    cases hd
    have hm : d.esb.radio.maxlen = d.state.maxlen := hv.maxlen
    have hloop : ∀ d₁ : Device, d₁.esb = d.esb → d₁.scan.packet.length.toNat = min data.length 32 →
        Carries d.esb (fwScanLoop env (stop.toNat + 1 - start.toNat) start.toNat d₁).esb
          (Measures (min data.length 32) d.state.maxlen) := by
      intro d₁ he hl
      rw [← hm, ← hl, ← he]
      exact carries_fwScanLoop env _ _ d₁
    unfold fwScan
    simp only
    split
    · exact .of_silent (.refl _) _
    · refine hloop _ rfl ?_
      simp only [List.length_take, UInt8.toNat_ofNat']
      omega
  | poll =>
    rw [esb_poll hd]
    exact .of_silent (.refl _) _
  | receive r =>
    rw [esb_receive hd]
    exact .of_silent (.refl _) _

/-! ## Against `MAXLEN` -/

/-- Every packet put on the air from `d` to `d'` has at most `MAXLEN` bytes, and the register is that
of the mode. -/
def FitsMaxlen (d d' : Device) : Prop :=
  ∀ t ∈ (transmissions d'.esb.log).drop (transmissions d.esb.log).length,
    t.radio.maxlen = d.state.maxlen ∧ t.length.toNat ≤ t.radio.maxlen

/-- The command asks for packets above 32 bytes: an inline header that announces more than 32 payload
bytes, or a two-packet broadcast whose halves are longer. -/
def Act.Oversized (v : HostView) : Act → Prop
  | .command (.data c) =>
    v.sniffer = false ∧
      if v.format ≠ .plain then 40 < (inlineModeOutHeader c.payload).length.toNat
      else v.ackEnabled = false ∧ 65 < c.length
  | _ => False

/-- The lengths above `MAXLEN`, in terms of what the host selected. -/
theorem oversized_iff {v : HostView} {d : Device} (h : Settled v d) (a : Act) :
    a.Oversized v ↔ d.state.maxlen < a.packetLength d := by
  have sniffing : v.sniffer = d.state.snifferMode := h.1.sniffer.symm
  cases a with
  | command c =>
    cases c with
    | setup s => exact iff_of_false id (Nat.not_lt_zero _)
    | data c =>
      unfold Act.Oversized Act.packetLength State.maxlen
      rw [sniffing]
      cases hs : d.state.snifferMode with
      | true =>
        refine iff_of_false (fun hc => Bool.false_ne_true hc.1.symm) ?_
        simp only [if_true]
        omega
      | false =>
        have hf : v.format ≠ .plain ↔ d.state.inlineMode = true := by
          rw [← h.1.format, Ne, State.format_eq_plain_iff, Bool.not_eq_false]
        have hb : d.broadcasts c = true ↔ v.ackEnabled = false ∧ 32 < c.length := by
          unfold Device.broadcasts
          rw [h.1.ack]
          simp
        simp only [hf, hb, true_and, Bool.false_eq_true, if_false]
        split
        · omega
        · split
          · rename_i hc
            rw [and_iff_right hc.1]
            omega
          · rename_i hc
            refine iff_of_false (fun ho => hc ⟨ho.1, by omega⟩) ?_
            omega
  | scan start stop data =>
    refine iff_of_false id ?_
    have hl : Act.packetLength d (.scan start stop data) = min data.length 32 := rfl
    unfold State.maxlen
    rw [hl]
    split <;> omega
  | poll => exact iff_of_false id (Nat.not_lt_zero _)
  | receive r => exact iff_of_false id (Nat.not_lt_zero _)

/-- In a reachable state an act fits exactly if it asks for nothing above 32 bytes outside sniffer
mode, or nothing of it goes on the air. -/
theorem fitsMaxlen_iff {env : Env} {as : List Act} {d d' : Device} {a : Act} (hr : boot.run env as = .ok d)
    (hd : d.act env a = .ok d') :
    FitsMaxlen d d' ↔ ¬(a.Oversized (HostView.afterAll {} as) ∧ a.emits env (HostView.afterAll {} as) d) := by
  have h := settled_run hr
  have he := (emits_act h hd).silent_iff
  obtain ⟨ts, hts, hm⟩ := carries_act h.2 hd
  rw [oversized_iff h]
  unfold FitsMaxlen
  rw [hts, List.drop_left]
  rw [hts, List.append_right_eq_self] at he
  constructor
  · rintro hfit ⟨hlt, hemits⟩
    obtain ⟨t, ht⟩ := List.exists_mem_of_ne_nil ts fun hn => he.mp hn hemits
    have hfit := hfit t ht
    have hm := hm t ht
    rw [hm.1, hm.2] at hfit
    omega
  · rintro hn t ht
    obtain ⟨hl, hmax⟩ := hm t ht
    have hle : a.packetLength d ≤ d.state.maxlen := by
      by_contra hgt
      have hempty := he.mpr fun hemits => hn ⟨by omega, hemits⟩
      rw [hempty] at ht
      exact nomatch ht
    exact ⟨hmax, by omega⟩

/-- A command of one byte fits. -/
theorem fitsMaxlen_iff_plain : ∃ d', boot.act (fun _ => .silent)
      (.command (.data (DataCommand.empty.store 0 [1] (by decide)))) = .ok d' ∧
    (FitsMaxlen boot d' ↔
      ¬(Act.Oversized (HostView.afterAll {} []) (.command (.data (DataCommand.empty.store 0 [1] (by decide)))) ∧
        Act.emits (fun _ => .silent) (HostView.afterAll {} []) boot
          (.command (.data (DataCommand.empty.store 0 [1] (by decide)))))) :=
  ⟨_, rfl, fitsMaxlen_iff (show boot.run (fun _ => .silent) [] = .ok boot from rfl) rfl⟩

/-- Without auto-ack a transfer of 66 bytes goes out as two packets of 33. -/
theorem broadcast_over_maxlen : ¬ ∀ (env : Env) (as : List Act) (d d' : Device) (a : Act),
    boot.run env as = .ok d → d.act env a = .ok d' → FitsMaxlen d d' := by
  intro hall
  have h := hall (fun _ => .silent) [.command (.setup { setupPacket := hostRequest ackEnable 0 })] _ _
    (.command (.data (DataCommand.empty.store 0 (List.replicate 66 1) (by decide)))) rfl rfl
  exact absurd (h _ List.mem_cons_self).2 (by decide)

end Crazyradio.Usb
