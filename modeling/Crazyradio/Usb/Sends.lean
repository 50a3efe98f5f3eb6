/-
What an act does besides changing settings. A data command outside sniffer mode, a scan, a poll and a
reception are made of calls of `esb_send_packet`, of tuning and of bookkeeping; a relation that these
keep holds across the act, from the point where an inline header's settings are in effect.
-/
import Crazyradio.Usb.Safety

namespace Crazyradio.Usb

open Bytes

/-- The settings part of `state`. -/
def State.selected (s : State) : State :=
  { s with scanResult := Buf.fill 63 0, scanResultLength := 0, usbAnswer := Buf.fill 128 0 }

/-- A relation kept by the pieces acts are made of. -/
structure SendRel (R : Device → Device → Prop) : Prop where
  bookkeeping : ∀ {d d'}, d'.esb = d.esb → d'.state.selected = d.state.selected → d'.femConfreg0 = d.femConfreg0 →
    R d d'
  trans : ∀ {a b c}, R a b → R b c → R a c
  usbSend : ∀ env d, R d (usbSend env d).2
  scanSend : ∀ env d, R d (scanSend env d).2
  scanTuned : ∀ channel d, R d (d.scanTuned channel)

namespace SendRel

variable {R : Device → Device → Prop}

theorem refl (hR : SendRel R) (d : Device) : R d d := hR.bookkeeping rfl rfl rfl

theorem load (hR : SendRel R) (d : Device) (payload : Buf 128) {off n : Nat} (h : n ≤ 63) :
    R d (d.load payload off n h) := hR.bookkeeping rfl rfl rfl

theorem capAck (hR : SendRel R) (d : Device) : R d (capAck d) := by
  refine hR.bookkeeping (capAck_esb d) (congrArg State.selected (capAck_state d)) ?_
  unfold Usb.capAck
  split <;> rfl

theorem guardedSend (hR : SendRel R) (env : Env) (d : Device) : R d (guardedSend env d) := by
  unfold Usb.guardedSend
  split
  · exact hR.trans (hR.usbSend env d) (hR.capAck _)
  · exact hR.refl d

/-- The first half of a broadcast is sent while the packet is built. -/
theorem buildPacket (hR : SendRel R) {env : Env} {c : DataCommand} {d d' : Device} (h : buildPacket env c d = .ok d') :
    R (d.settled c) d' := by
  unfold Device.settled
  rcases buildPacket_cases h with ⟨hi, -, rfl⟩ | ⟨hi, -, hl, rfl⟩ | ⟨hi, -, rfl⟩
  · rw [if_pos hi]
    exact hR.load _ c.payload _
  · rw [if_neg (Bool.eq_false_iff.mp hi)]
    exact hR.trans (hR.load d c.payload hl) (hR.trans (hR.usbSend env _) (hR.load _ c.payload hl))
  · rw [if_neg (Bool.eq_false_iff.mp hi)]
    exact hR.load d c.payload _

/-- A data command outside sniffer mode. -/
theorem data (hR : SendRel R) {env : Env} {c : DataCommand} {d d' : Device} (hs : d.state.snifferMode = false)
    (h : handleCommand env (.data c) d = .ok d') : R (d.settled c) d' := by
  obtain ⟨d₁, b, p, hb, rfl⟩ := handleCommand_data_cases hs h
  exact hR.trans (hR.buildPacket hb) (hR.trans (hR.guardedSend env d₁) (hR.bookkeeping rfl rfl rfl))

theorem fwScanLoop (hR : SendRel R) (env : Env) : ∀ (n channel : Nat) (d : Device),
    R d (fwScanLoop env n channel d)
  | 0, _, d => hR.refl d
  | n + 1, channel, d => by
    have hs : R d (Usb.scanSend env (d.scanTuned channel)).2 := hR.trans (hR.scanTuned channel d) (hR.scanSend env _)
    have hhit : ∀ d : Device, R d (d.scanHit channel) := fun _ => hR.bookkeeping rfl rfl rfl
    rw [fwScanLoop_succ]
    split
    · split
      · exact hR.trans hs (hhit _)
      · exact hR.trans (hR.trans hs (hhit _)) (hR.fwScanLoop env n _ _)
    · exact hR.trans hs (hR.fwScanLoop env n _ _)

theorem fwScan (hR : SendRel R) (env : Env) (start stop : UInt8) (data : List UInt8) (d : Device) :
    R d (fwScan env start stop data d) := by
  unfold Usb.fwScan
  simp only
  split
  · exact hR.bookkeeping rfl rfl rfl
  · refine hR.trans ?_ (hR.fwScanLoop env _ _ _)
    exact hR.bookkeeping rfl rfl rfl

theorem poll (hR : SendRel R) {env : Env} {d d' : Device} (h : d.act env .poll = .ok d') : R d d' := by
  obtain ⟨q, b, w, hp⟩ := pollSniffer_spec d
  cases hp.symm.trans h
  exact hR.bookkeeping rfl rfl rfl

theorem receive (hR : SendRel R) {env : Env} {r : Reception} {d d' : Device} (h : d.act env (.receive r) = .ok d') :
    R d d' := by
  have hisr : R d (radioIsrSniffer r d) := by
    unfold radioIsrSniffer snifferRxCallback
    simp only
    split
    · split <;> exact hR.bookkeeping rfl rfl rfl
    · exact hR.bookkeeping rfl rfl rfl
  cases h
  split
  · exact hisr
  · exact hR.refl d

end SendRel

end Crazyradio.Usb
