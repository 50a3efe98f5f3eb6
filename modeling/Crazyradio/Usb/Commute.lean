/-
What can be taken in either order: a reception and the poll of the sniffer queue each work on a part of
the device that the loop of `fw_scan`, or the handling of a data command, leaves alone.
-/
import Crazyradio.Usb.Modes
import Crazyradio.Usb.Order
import Crazyradio.Usb.Threads

namespace Crazyradio.Usb

open Bytes Moves

/-! ## Parts of the device -/

/-- What a reception works on. -/
def snifferPart : Part Device (EsbPacket × EsbSnifferPacket × List EsbSnifferPacket × UInt32) where
  get d := (d.snifferRxBuffer, d.snifferPkt, d.snifferQueue, d.snifferDropCount)
  put x d :=
    { d with snifferRxBuffer := x.1, snifferPkt := x.2.1, snifferQueue := x.2.2.1, snifferDropCount := x.2.2.2 }
  put_get _ := rfl
  get_put _ _ := rfl

/-- What the poll of the sniffer queue works on. -/
def answerPart : Part Device (List EsbSnifferPacket × Buf 128 × List (List UInt8)) where
  get d := (d.snifferQueue, d.state.usbAnswer, d.inWrites)
  put x d := { d with snifferQueue := x.1, state := { d.state with usbAnswer := x.2.1 }, inWrites := x.2.2 }
  put_get _ := rfl
  get_put _ _ := rfl

/-- What a reception looks at in the driver. -/
def listening (d : Device) : Bool × Nat × Bool :=
  (d.esb.snifferActive, d.esb.radio.maxlen, d.esb.snifferCallback.isSome)

theorem listening_driver : DriverRel fun e e' => e'.snifferActive = e.snifferActive ∧
    e'.radio.maxlen = e.radio.maxlen ∧ e'.snifferCallback.isSome = e.snifferCallback.isSome where
  refl _ := ⟨rfl, rfl, rfl⟩
  trans h h' := ⟨h'.1.trans h.1, h'.2.1.trans h.2.1, h'.2.2.trans h.2.2⟩
  send x b e := by
    obtain ⟨pid, log, h⟩ := esbSendPacket_kept x b e
    rw [h]
    exact ⟨rfl, rfl, rfl⟩
  channel channel e := by
    obtain ⟨radio, log, h, hm⟩ := esbSetChannel_kept channel e
    rw [h]
    exact ⟨rfl, hm, rfl⟩
  bitrate bitrate e := by
    obtain ⟨radio, log, h, hm⟩ := esbSetBitrate_kept bitrate e
    rw [h]
    exact ⟨rfl, hm, rfl⟩
  ackEnabled _ _ := ⟨rfl, rfl, rfl⟩
  address _ _ := ⟨rfl, rfl, rfl⟩

theorem listening_eq {d d' : Device} (h : d'.esb.snifferActive = d.esb.snifferActive ∧
    d'.esb.radio.maxlen = d.esb.radio.maxlen ∧ d'.esb.snifferCallback.isSome = d.esb.snifferCallback.isSome) :
    listening d' = listening d := by
  unfold listening
  rw [h.1, h.2.1, h.2.2]

/-- A reception, where the radio listens. -/
def receiveStep (r : Reception) (d : Device) : Option Device :=
  if d.esb.snifferActive then some (radioIsrSniffer r d) else none

/-- A reception looks at the mode and the callback, and changes its own part. -/
theorem receiveStep_local (r : Reception) (d d' : Device) (hv : listening d' = listening d)
    (hp : snifferPart.get d' = snifferPart.get d) :
    receiveStep r d' = (receiveStep r d).map fun d₁ => snifferPart.put (snifferPart.get d₁) d' := by
  obtain ⟨ha, hv⟩ := Prod.mk.inj hv
  obtain ⟨hm, hc⟩ := Prod.mk.inj hv
  obtain ⟨hb, hp⟩ := Prod.mk.inj hp
  obtain ⟨hk, hp⟩ := Prod.mk.inj hp
  obtain ⟨hq, hn⟩ := Prod.mk.inj hp
  unfold receiveStep radioIsrSniffer snifferRxCallback
  simp only [ha, hm, hc, hb, hk, hq, hn]
  split
  · split
    · split <;> rfl
    · rfl
  · rfl

/-- The poll, where it does not fail. -/
def pollStep (d : Device) : Option Device := (pollSniffer d).toOption

/-- The poll changes its own part, whatever the rest of the device is. -/
theorem pollStep_local (d d' : Device) (hp : answerPart.get d' = answerPart.get d) :
    pollStep d' = (pollStep d).map fun d₁ => answerPart.put (answerPart.get d₁) d' := by
  obtain ⟨hq, hp⟩ := Prod.mk.inj hp
  obtain ⟨hb, hw⟩ := Prod.mk.inj hp
  unfold pollStep pollSniffer
  rw [hq]
  cases h : d.snifferQueue with
  | nil =>
    show some d' = some (answerPart.put (answerPart.get d) d')
    rw [show answerPart.get d = answerPart.get d' from by rw [answerPart]; simp only [hq, hb, hw], answerPart.put_get]
  | cons pkt rest =>
    simp only [hb]
    cases memcpy _ 7 pkt.data 0 pkt.length.toNat with
    | error e => rfl
    | ok answer =>
      simp only [bind, Except.bind, pure, Except.pure, usbWrite, hw]
      split <;> rfl

/-! ## What is left of a section -/

/-- The scan from the head of its loop, or from behind `esb_set_channel`, on. -/
def scanRest (env : Env) (left channel : Nat) : Bool → Device → Device
  | false, d => fwScanLoop env left channel d
  | true, d =>
    fwScanLoop env (scanProbe env (left - 1) channel d).2 (channel + 1) (scanProbe env (left - 1) channel d).1

/-- One pass of the loop of `fw_scan`. -/
theorem fwScanLoop_probe (env : Env) (left channel : Nat) (d : Device) : fwScanLoop env (left + 1) channel d =
    fwScanLoop env (scanProbe env left channel (d.scanTuned channel)).2 (channel + 1)
      (scanProbe env left channel (d.scanTuned channel)).1 := by
  rw [fwScanLoop_succ]
  unfold scanProbe
  obtain ⟨acked, d'⟩ := scanSend env (d.scanTuned channel)
  cases acked with
  | true => simp only [if_true]; split <;> rfl
  | false => rfl

theorem scanProbe_left (env : Env) (left channel : Nat) (d : Device) :
    (scanProbe env left channel d).2 = 0 ∨ (scanProbe env left channel d).2 = left := by
  unfold scanProbe
  split
  · simp only
    split
    · exact .inl rfl
    · exact .inr rfl
  · exact .inr rfl

theorem scanRest_begin (env : Env) (start stop : UInt8) (data : List UInt8) (d : Device) :
    scanRest env (stop.toNat + 1 - start.toNat) start.toNat false (scanBegin start stop data d) =
      fwScan env start stop data d := by
  show fwScanLoop env _ _ _ = _
  rw [fwScan_eq]
  unfold scanBegin
  split
  · rename_i h
    have h0 : stop.toNat + 1 - start.toNat = 0 := by have := UInt8.lt_iff_toNat_lt.mp h; omega
    rw [h0]
    rfl
  · rfl

/-- A scan neither reads nor writes the part. -/
structure OutsideScan {π : Type} (p : Part Device π) : Prop where
  begin' : ∀ start stop data x d, scanBegin start stop data (p.put x d) = p.put x (scanBegin start stop data d)
  tuned : ∀ x d channel, (p.put x d).scanTuned channel = p.put x (d.scanTuned channel)
  probe : ∀ env left channel x d, scanProbe env left channel (p.put x d) =
    (p.put x (scanProbe env left channel d).1, (scanProbe env left channel d).2)

theorem outsideScan_sniffer : OutsideScan snifferPart where
  begin' start stop data x d := by unfold scanBegin; split <;> rfl
  tuned _ _ _ := rfl
  probe env left channel x d := by
    unfold scanProbe
    rw [show scanSend env (snifferPart.put x d) = ((scanSend env d).1, snifferPart.put x (scanSend env d).2) from rfl]
    obtain ⟨acked, d'⟩ := scanSend env d
    cases acked <;> rfl

theorem outsideScan_answer : OutsideScan answerPart where
  begin' start stop data x d := by unfold scanBegin; split <;> rfl
  tuned _ _ _ := rfl
  probe env left channel x d := by
    unfold scanProbe
    rw [show scanSend env (answerPart.put x d) = ((scanSend env d).1, answerPart.put x (scanSend env d).2) from rfl]
    obtain ⟨acked, d'⟩ := scanSend env d
    cases acked <;> rfl

section Outside

variable {π : Type} {p : Part Device π}

theorem OutsideScan.loop (hp : OutsideScan p) (env : Env) : ∀ (left channel : Nat) (x : π) (d : Device),
    fwScanLoop env left channel (p.put x d) = p.put x (fwScanLoop env left channel d)
  | 0, _, _, _ => rfl
  | left + 1, channel, x, d => by
    rw [fwScanLoop_probe, fwScanLoop_probe, hp.tuned, hp.probe]
    -- what is left behind the probe is `left`, or nothing
    rcases scanProbe_left env left channel (d.scanTuned channel) with h | h
    · rw [h]; rfl
    · rw [h]; exact hp.loop env left (channel + 1) x _

theorem OutsideScan.rest (hp : OutsideScan p) (env : Env) (left channel : Nat) (tuned : Bool) :
    p.Ignored fun d => some (scanRest env left channel tuned d) := by
  intro x d
  refine congrArg some ?_
  cases tuned with
  | false => exact hp.loop env left channel x d
  | true =>
    show fwScanLoop env _ _ _ = p.put x (fwScanLoop env _ _ _)
    rw [hp.probe]
    exact hp.loop env _ _ x _

theorem OutsideScan.whole (hp : OutsideScan p) (env : Env) (start stop : UInt8) (data : List UInt8) :
    p.Ignored fun d => some (fwScan env start stop data d) := by
  intro x d
  refine congrArg some ?_
  rw [← scanRest_begin, ← scanRest_begin env start stop data d, hp.begin']
  exact hp.loop env _ _ x _

end Outside

theorem listening_loop (env : Env) (left channel : Nat) (d : Device) :
    listening (fwScanLoop env left channel d) = listening d :=
  listening_eq (listening_driver.fwScanLoop env left channel d)

theorem listening_rest (env : Env) (left channel : Nat) (tuned : Bool) (d : Device) :
    listening (scanRest env left channel tuned d) = listening d := by
  cases tuned with
  | false => exact listening_loop env left channel d
  | true =>
    refine (listening_loop env _ _ _).trans ?_
    have hs : listening (scanSend env d).2 = listening d := listening_eq (listening_driver.send _ _ _)
    unfold scanProbe
    rcases h : scanSend env d with ⟨acked, d'⟩
    rw [h] at hs
    cases acked <;> exact hs

/-! ## What commutes -/

/-- The packet of a data command outside sniffer mode, and what is made of it. -/
def dataSection (env : Env) (c : DataCommand) (d : Device) : Option Device :=
  (buildPacket env c d).toOption.bind fun d => (sendAndAnswer env d).toOption

/-- A copy from and to other parts of the device, and what is made of its result there. -/
theorem ignored_copy {α : Type} {f : Device → Except Fault α} {g : α → Device → Device}
    (hf : ∀ x d, f (snifferPart.put x d) = f d)
    (hg : ∀ a x d, g a (snifferPart.put x d) = snifferPart.put x (g a d)) :
    snifferPart.Ignored fun d => (f d >>= fun a => .ok (g a d)).toOption := by
  intro x d
  show (f (snifferPart.put x d) >>= _).toOption = Option.map _ (f d >>= _).toOption
  rw [hf]
  cases f d with
  | error e => rfl
  | ok a => exact congrArg some (hg a x d)

theorem ignored_loadPacket (payload : Buf 128) (off : Nat) (n : Int) :
    snifferPart.Ignored fun d => (loadPacket payload off n d).toOption :=
  ignored_copy (f := fun d => memcpy d.usb.packet.data 0 payload off n) (fun _ _ => rfl) fun _ _ _ => rfl

theorem toOption_bind {α β : Type} (r : Except Fault α) (f : α → Except Fault β) :
    (r >>= f).toOption = r.toOption.bind fun a => (f a).toOption := by cases r <;> rfl

theorem ignored_buildPacket (env : Env) (c : DataCommand) :
    snifferPart.Ignored fun d => (buildPacket env c d).toOption := by
  intro x d
  have hl := ignored_loadPacket c.payload
  show (buildPacket env c (snifferPart.put x d)).toOption = (buildPacket env c d).toOption.map (snifferPart.put x)
  by_cases hi : d.state.inlineMode = true
  · rw [buildPacket_inline env c d hi, buildPacket_inline env c (snifferPart.put x d) hi]
    exact hl 8 _ x (inlineSettings (inlineModeOutHeader c.payload) d)
  · have hn := eq_false_of_ne_true hi
    rw [buildPacket_normal env c d hn, buildPacket_normal env c (snifferPart.put x d) hn]
    by_cases hb : d.broadcasts c = true
    · rw [if_pos hb, if_pos (show (snifferPart.put x d).broadcasts c = true from hb), toOption_bind, toOption_bind]
      refine (hl 0 _).bind (g := fun d =>
        (loadPacket c.payload (c.length / 2) (c.length / 2 : Nat) (usbSend env d).2).toOption) ?_ x d
      intro x d
      exact hl (c.length / 2) _ x (usbSend env d).2
    · rw [if_neg hb, if_neg (show ¬(snifferPart.put x d).broadcasts c = true from hb)]
      exact hl 0 _ x d

theorem ignored_inlineAnswer (acked : Bool) : snifferPart.Ignored fun d => (inlineAnswer acked d).toOption := by
  unfold inlineAnswer
  exact ignored_copy (fun _ _ => rfl) fun _ _ _ => rfl

theorem ignored_plainAnswer (acked : Bool) : snifferPart.Ignored fun d => (plainAnswer acked d).toOption := by
  intro x d
  unfold plainAnswer
  show Except.toOption (if !d.state.ackEnabled then _ else if acked && decide (d.usb.ack.length ≤ 32) then _ else _) =
    Option.map _ (Except.toOption
      (if !d.state.ackEnabled then _ else if acked && decide (d.usb.ack.length ≤ 32) then _ else _))
  split
  · rfl
  split
  · exact ignored_copy (f := fun d => memcpy (d.plainAnswer.set 0 _) 1 d.usb.ack.data 0 d.usb.ack.length.toNat)
      (g := fun answer d => usbWrite (answer.read 0 (d.usb.ack.length.toNat + 1)) { d with plainAnswer := answer })
      (fun _ _ => rfl) (fun _ _ _ => rfl) x d
  · rfl

theorem ignored_answer (acked : Bool) : snifferPart.Ignored fun d => (answer acked d).toOption := by
  intro x d
  have hcap : capAck (snifferPart.put x d) = snifferPart.put x (capAck d) := by
    show (if 32 < d.usb.ack.length then _ else _) = snifferPart.put x (if 32 < d.usb.ack.length then _ else _)
    split <;> rfl
  show (answer acked (snifferPart.put x d)).toOption = Option.map (snifferPart.put x) (answer acked d).toOption
  unfold answer
  simp only [hcap]
  show Except.toOption (if (capAck d).state.inlineMode then _ else _) =
    Option.map _ (Except.toOption (if (capAck d).state.inlineMode then _ else _))
  split
  · exact ignored_inlineAnswer acked x (capAck d)
  · exact ignored_plainAnswer acked x (capAck d)

theorem ignored_sendAndAnswer (env : Env) : snifferPart.Ignored fun d => (sendAndAnswer env d).toOption := by
  intro x d
  unfold sendAndAnswer
  show Except.toOption (if d.state.handled then _ else _) =
    Option.map _ (Except.toOption (if d.state.handled then _ else _))
  split
  · exact ignored_answer (usbSend env d).1 x (usbSend env d).2
  · rw [invalidAnswer_eq, invalidAnswer_eq]
    rfl

theorem listening_sendAndAnswer {env : Env} {d d' : Device} (h : (sendAndAnswer env d).toOption = some d') :
    listening d' = listening d := by
  obtain ⟨b, p, hs⟩ := sendAndAnswer_spec env d
  rw [hs] at h
  cases h
  exact listening_eq (listening_driver.guardedSend env d)

theorem listening_buildPacket {env : Env} {c : DataCommand} {d d' : Device}
    (h : (buildPacket env c d).toOption = some d') : listening d' = listening d := by
  have hb : buildPacket env c d = .ok d' := by
    cases hr : buildPacket env c d with
    | error e => rw [hr] at h; cases h
    | ok d₁ => rw [hr] at h; cases h; rfl
  rcases buildPacket_cases hb with ⟨-, -, rfl⟩ | ⟨-, -, hl, rfl⟩ | ⟨-, -, rfl⟩
  · exact listening_eq (listening_driver.inlineSettings _ d)
  · exact listening_eq (listening_driver.send _ _ _)
  · rfl

section Commute

variable (env : Env) (r : Reception)

theorem receive_commutes {sec : Device → Option Device} (hs : snifferPart.Ignored sec)
    (hl : ∀ {d d' : Device}, sec d = some d' → listening d' = listening d) : Commutes (receiveStep r) sec :=
  Commutes.of_part (v := listening) (receiveStep_local r) hs hl

theorem poll_commutes {sec : Device → Option Device} (hs : answerPart.Ignored sec) : Commutes pollStep sec :=
  Commutes.of_part (v := fun _ => ()) (fun d d' _ => pollStep_local d d') hs fun _ => rfl

theorem receive_scanRest (left channel : Nat) (tuned : Bool) :
    Commutes (receiveStep r) fun d => some (scanRest env left channel tuned d) :=
  receive_commutes r (outsideScan_sniffer.rest env left channel tuned) fun h => by
    cases h
    exact listening_rest env left channel tuned _

theorem receive_fwScan (start stop : UInt8) (data : List UInt8) :
    Commutes (receiveStep r) fun d => some (fwScan env start stop data d) :=
  receive_commutes r (outsideScan_sniffer.whole env start stop data) fun h => by
    cases h
    exact listening_eq (listening_driver.scan env start stop data _)

theorem poll_scanRest (left channel : Nat) (tuned : Bool) :
    Commutes pollStep fun d => some (scanRest env left channel tuned d) :=
  poll_commutes (outsideScan_answer.rest env left channel tuned)

theorem poll_fwScan (start stop : UInt8) (data : List UInt8) :
    Commutes pollStep fun d => some (fwScan env start stop data d) :=
  poll_commutes (outsideScan_answer.whole env start stop data)

theorem receive_sendAndAnswer : Commutes (receiveStep r) fun d => (sendAndAnswer env d).toOption :=
  receive_commutes r (ignored_sendAndAnswer env) listening_sendAndAnswer

theorem receive_dataSection (c : DataCommand) : Commutes (receiveStep r) (dataSection env c) := by
  refine receive_commutes r ((ignored_buildPacket env c).bind (ignored_sendAndAnswer env)) fun h => ?_
  obtain ⟨d₁, h₁, h₂⟩ := Option.bind_eq_some_iff.mp h
  exact (listening_sendAndAnswer h₂).trans (listening_buildPacket h₁)

end Commute

end Crazyradio.Usb
