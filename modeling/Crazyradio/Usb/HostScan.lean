/-
A scan by the firmware and a scan by the host. The host can also tune the radio to one channel after the
other, send its packet on each and read the answers. `fw_scan` does that in one request, with buffers of its
own, without the send guard of `usb_thread` and with a result of at most 63 channels. Up to channel 100 both
put the same packets on the air and find the same channels.
-/
import Crazyradio.Usb.RoundTrip
import Crazyradio.Usb.Scan

namespace Crazyradio.Usb

open Bytes Search

/-! ## Packets with the same payload -/

/-- The packets have the same length and the same bytes up to it. -/
def Alike (p q : EsbPacket) : Prop :=
  p.length = q.length ∧ p.data.read 0 p.length.toNat = q.data.read 0 q.length.toNat

theorem onAir_alike {p q : EsbPacket} (h : Alike p q) (r : Radio) (s1 : UInt8) :
    onAir r { p with s1 } = onAir r { q with s1 } := by
  obtain ⟨hl, hd⟩ := h
  have hread : p.data.read 0 (min p.length.toNat r.maxlen) = q.data.read 0 (min q.length.toNat r.maxlen) := by
    rw [← Buf.read_zero_take _ (Nat.min_le_left p.length.toNat r.maxlen),
      ← Buf.read_zero_take _ (Nat.min_le_left q.length.toNat r.maxlen), hd, hl]
  simp only [onAir, hl, Transmission.mk.injEq, true_and]
  rwa [hl] at hread

theorem esbSendPacket_alike {b b' : SendBuffers} (h : Alike b.packet b'.packet) (x : Exchange) (e : Esb) :
    (esbSendPacket x b e).2.2 = (esbSendPacket x b' e).2.2 := by
  cases hs : e.sends x.packetDraw with
  | false => rw [esbSendPacket_exit hs, esbSendPacket_exit hs]
  | true =>
    have hair : x.onAir b e = x.onAir b' e := by
      simp only [Exchange.onAir, onAir_alike h]
    rw [esbSendPacket_esb hs, esbSendPacket_esb hs, hair]

/-- A call leaves the payload of its packet. -/
theorem alike_sendPacket {p : EsbPacket} {b : SendBuffers} (h : Alike b.packet p) (x : Exchange) (e : Esb) :
    Alike (esbSendPacket x b e).2.1.packet p := by
  cases hs : e.sends x.packetDraw with
  | false =>
    rw [esbSendPacket_exit hs]
    exact h
  | true =>
    obtain ⟨old, ho⟩ := esbSendPacket_sends hs b
    rw [ho]
    unfold LoopResult.finish
    split <;> exact h

/-! ## One channel -/

/-- The driver and the count of sends once a channel is tried with the packet of `b`. -/
def probe (env : Env) (b : SendBuffers) (s : Esb × Nat) (channel : Nat) : Esb × Nat :=
  ((esbSendPacket (env s.2) b (esbSetChannel (UInt8.ofNat channel) s.1)).2.2, s.2 + 1)

theorem transmissions_probe (env : Env) (b : SendBuffers) (s : Esb × Nat) (channel : Nat) :
    transmissions s.1.log <+: transmissions (probe env b s channel).1.log := by
  have hprobe : (probe env b s channel).1 =
      EsbCall.apply (.sendPacket (env s.2) b) (EsbCall.apply (.setChannel (UInt8.ofNat channel)) s.1) := rfl
  rw [hprobe, transmissions_apply, transmissions_apply, List.append_assoc]
  exact List.prefix_append _ _

theorem transmissions_probes (env : Env) (b : SendBuffers) : ∀ (channels : List Nat) (s : Esb × Nat),
    transmissions s.1.log <+: transmissions (channels.foldl (probe env b) s).1.log
  | [], _ => List.prefix_refl _
  | c :: cs, s => (transmissions_probe env b s c).trans (transmissions_probes env b cs (probe env b s c))

/-- The answers to come do not depend on what a probe changes. -/
theorem acks_probe (x : Exchange) (env : Env) (b : SendBuffers) (s : Esb × Nat) (channel : Nat) :
    x.acks (probe env b s channel).1 = x.acks s.1 := by
  obtain ⟨radio, log, hset, -⟩ := esbSetChannel_kept (UInt8.ofNat channel) s.1
  obtain ⟨pid, log', hsend⟩ := esbSendPacket_kept (env s.2) b (esbSetChannel (UInt8.ofNat channel) s.1)
  unfold probe
  rw [hsend, hset]
  rfl

/-! ## By the firmware -/

theorem scanStep_probe (env : Env) (channel : Nat) {d : Device} {b : SendBuffers} (h : Alike d.scan.packet b.packet) :
    ((d.scanStep env channel).esb, (d.scanStep env channel).sends) = probe env b (d.esb, d.sends) channel ∧
      Alike (d.scanStep env channel).scan.packet b.packet := by
  have hsend : ((scanSend env (d.scanTuned channel)).2.esb, (scanSend env (d.scanTuned channel)).2.sends) =
      probe env b (d.esb, d.sends) channel :=
    congrArg (·, d.sends + 1) (esbSendPacket_alike h (env d.sends) (d.scanTuned channel).esb)
  have hpacket : Alike (scanSend env (d.scanTuned channel)).2.scan.packet b.packet := alike_sendPacket h _ _
  cases ha : (d.scanCall env channel).acked with
  | false =>
    rw [scanStep_miss ha]
    exact ⟨hsend, hpacket⟩
  | true =>
    rw [scanStep_hit ha]
    exact ⟨hsend, hpacket⟩

theorem fwScanLoop_probes (env : Env) {b : SendBuffers} : ∀ (n channel : Nat) {d : Device},
    Alike d.scan.packet b.packet → ((fwScanLoop env n channel d).esb, (fwScanLoop env n channel d).sends) =
      ((scanCalls env n channel d).map ScanCall.channel).foldl (probe env b) (d.esb, d.sends)
  | 0, _, _, _ => rfl
  | n + 1, channel, d, h => by
    obtain ⟨hstep, hpacket⟩ := scanStep_probe env channel h
    rw [fwScanLoop_step, scanCalls, List.map_cons, List.foldl_cons]
    show _ = List.foldl (probe env b) (probe env b (d.esb, d.sends) channel) _
    rw [← hstep]
    cases d.scanFull env channel with
    | true => rfl
    | false => exact fwScanLoop_probes env n (channel + 1) hpacket

/-! ## By the host -/

/-- The host tries a channel: it tunes to it and sends its packet. -/
def hostTry (c : DataCommand) (channel : Nat) : List Act :=
  [.command (.setup { setupPacket := hostRequest setRadioChannel (UInt16.ofNat channel) }), .command (.data c)]

/-- The host tries these channels in order. -/
def hostScan (c : DataCommand) (channels : List Nat) : List Act := channels.flatMap (hostTry c)

/-- The channels whose answer tells the host that its packet was acked. -/
def heardOn (channels : List Nat) (answers : List (List UInt8)) : List Nat :=
  ((channels.zip answers).filter fun p => (Answer.decode .plain p.2).any Answer.acked).map Prod.fst

/-- The channels up to the 63rd one heard on, or all. -/
def upToLastHeard (channels heard : List Nat) : List Nat :=
  channels.filter fun channel => heard[62]?.all fun last => decide (channel ≤ last)

/-- Normal mode with auto-ack, at a data rate the radio supports. -/
structure HostReady (d : Device) : Prop where
  snifferMode : d.state.snifferMode = false
  ackEnabled : d.state.ackEnabled = true
  datarate : d.state.datarate ≠ 0

/-- The device once the host tuned it to a channel. -/
def Device.hostTuned (d : Device) (channel : Nat) : Device :=
  { d.scanTuned channel with
    state := { d.state with channel := UInt8.ofNat channel, inlineMode := false } }

theorem setChannel_hostTuned (d : Device) {channel : Nat} (h : channel ≤ 100) :
    handleVendorCommand { setupPacket := hostRequest setRadioChannel (UInt16.ofNat channel) } d =
      d.hostTuned channel := by
  have hbyte : (UInt16.ofNat channel).toUInt8 = UInt8.ofNat channel := by simp
  have hle : UInt16.ofNat channel ≤ 100 := by
    rw [UInt16.le_iff_toNat_le, UInt16.toNat_ofNat']
    exact Nat.le_trans (Nat.mod_le _ _) h
  rw [handleVendorCommand_decode]
  show { d with
    esb := if UInt16.ofNat channel ≤ 100 then esbSetChannel (UInt16.ofNat channel).toUInt8 d.esb else d.esb
    state := { d.state with channel := (UInt16.ofNat channel).toUInt8, inlineMode := false } } = _
  rw [if_pos hle, hbyte]
  rfl

section Host

variable (env : Env) {c : DataCommand} {b : SendBuffers} {d : Device}

theorem hostTry_run {channel : Nat} (h : HostReady d) (hch : channel ≤ 100) (hc : c.length ≤ 32)
    (hb : ∀ d : Device, Alike (d.load c.payload 0 c.length (by omega)).usb.packet b.packet) :
    ∃ d' w, d.run env (hostTry c channel) = .ok d' ∧ HostReady d' ∧ d'.inWrites = d.inWrites ++ [w] ∧
      (d'.esb, d'.sends) = probe env b (d.esb, d.sends) channel ∧ Reports .plain ((env d.sends).acks d.esb) w := by
  let d₁ := (d.hostTuned channel).load c.payload 0 c.length (by omega)
  have hbuild : buildPacket env c (d.hostTuned channel) = .ok d₁ := by
    have hlong : (d.hostTuned channel).broadcasts c = false := by
      unfold Device.broadcasts
      rw [decide_eq_false (by omega), Bool.and_false]
    have h := buildPacket_plain env c (d.hostTuned channel) rfl hlong
    simp only [Nat.min_eq_left hc] at h
    exact h
  have hhandled : d₁.state.handled = true := by
    have hbyte : UInt8.ofNat channel ≤ 100 := by
      rw [UInt8.le_iff_toNat_le, UInt8.toNat_ofNat']
      exact Nat.le_trans (Nat.mod_le _ _) hch
    exact Bool.and_eq_true_iff.mpr ⟨decide_eq_true h.datarate, decide_eq_true hbyte⟩
  obtain ⟨w, hw, hreports⟩ := reports_answer (usbSend env d₁).1 (d := (usbSend env d₁).2) h.ackEnabled
  have hbytes : guardedBytes env d₁ = some w := (if_pos hhandled).trans hw
  obtain ⟨u, p, hdata⟩ := handleCommand_data env (d := d.hostTuned channel) h.snifferMode hbuild
  rw [hbytes] at hdata
  have hkept : Kept d₁ (guardedSend env d₁) := kept_guardedSend env d₁
  have hwrites : (guardedSend env d₁).inWrites = d.inWrites := inWrites_guardedSend env d₁
  have hprobe : ((usbSend env d₁).2.esb, (usbSend env d₁).2.sends) = probe env b (d.esb, d.sends) channel :=
    congrArg (·, d.sends + 1) (esbSendPacket_alike (hb (d.hostTuned channel)) (env d.sends) d₁.esb)
  have hdriver : ((guardedSend env d₁).esb, (guardedSend env d₁).sends) =
      ((usbSend env d₁).2.esb, (usbSend env d₁).2.sends) := by
    rw [guardedSend_pos hhandled]
    unfold capAck
    split <;> rfl
  have hacked : (usbSend env d₁).1 = (env d.sends).acks d.esb := by
    obtain ⟨radio, log, hset, -⟩ := esbSetChannel_kept (UInt8.ofNat channel) d.esb
    show (esbSendPacket (env d.sends) d₁.usb (esbSetChannel (UInt8.ofNat channel) d.esb)).1 = _
    rw [esbSendPacket_acks, hset]
    rfl
  refine ⟨(guardedSend env d₁).answered (some w) u p, w, ?_, ⟨?_, ?_, ?_⟩, ?_, hdriver.trans hprobe, ?_⟩
  · refine run_cons.mpr ⟨d.hostTuned channel, congrArg Except.ok (setChannel_hostTuned d hch), ?_⟩
    exact run_cons.mpr ⟨_, hdata, rfl⟩
  · exact hkept.snifferMode.trans h.snifferMode
  · exact hkept.ackEnabled.trans h.ackEnabled
  · exact fun hd => h.datarate (hkept.datarate.symm.trans hd)
  · exact congrArg (· ++ [w]) hwrites
  · rw [← hacked]
    exact hreports

theorem follows_probe {acks : Nat → Bool} {channel : Nat} {d' : Device} (h : Follows env acks channel d)
    (hd : (d'.esb, d'.sends) = probe env b (d.esb, d.sends) channel) : Follows env acks (channel + 1) d' := by
  intro i
  have hesb : d'.esb = (probe env b (d.esb, d.sends) channel).1 := congrArg Prod.fst hd
  have hsends : d'.sends = d.sends + 1 := congrArg Prod.snd hd
  unfold Device.answers
  rw [hesb, acks_probe, hsends, Nat.add_assoc, Nat.add_assoc]
  exact h (1 + i)

theorem heardOn_cons {channel : Nat} {channels : List Nat} {w : List UInt8} {ws : List (List UInt8)} {acked : Bool}
    (h : Reports .plain acked w) : heardOn (channel :: channels) (w :: ws) =
      (if acked then [channel] else []) ++ heardOn channels ws := by
  have hany : (Answer.decode .plain w).any Answer.acked = acked := by
    have hread := decode_reports h
    cases hd : Answer.decode .plain w with
    | none =>
      rw [hd] at hread
      cases hread
    | some a =>
      rw [hd] at hread
      exact Option.some.inj hread
  unfold heardOn
  rw [List.zip_cons_cons, List.filter_cons, hany]
  cases acked <;> rfl

/-- What the host makes of `n` channels from `channel` on. -/
theorem hostScan_run {acks : Nat → Bool} (hc : c.length ≤ 32)
    (hb : ∀ d : Device, Alike (d.load c.payload 0 c.length (by omega)).usb.packet b.packet) :
    ∀ (n channel : Nat) {d : Device}, HostReady d → (∀ x ∈ List.range' channel n, x ≤ 100) →
      Follows env acks channel d → ∃ d' ws,
      d.run env (hostScan c (List.range' channel n)) = .ok d' ∧ d'.inWrites = d.inWrites ++ ws ∧ ws.length = n ∧
      (d'.esb, d'.sends) = (List.range' channel n).foldl (probe env b) (d.esb, d.sends) ∧
      heardOn (List.range' channel n) ws = (List.range' channel n).filter acks
  | 0, _, d, _, _, _ => ⟨d, [], rfl, (List.append_nil _).symm, rfl, rfl, rfl⟩
  | n + 1, channel, d, h, hn, hf => by
    obtain ⟨hch, hn⟩ := List.forall_mem_cons.mp (List.range'_succ ▸ hn)
    obtain ⟨d₁, w, hrun, h₁, hw, hprobe, hreports⟩ := hostTry_run env h hch hc hb
    obtain ⟨d', ws, hrun', hw', hlen, hprobes, hheard⟩ := hostScan_run hc hb n (channel + 1) h₁ hn
      (follows_probe env hf hprobe)
    refine ⟨d', w :: ws, ?_, ?_, congrArg (· + 1) hlen, ?_, ?_⟩
    · rw [List.range'_succ]
      show d.run env (hostTry c channel ++ hostScan c (List.range' (channel + 1) n)) = _
      rw [run_append, hrun]
      exact hrun'
    · rw [hw', hw, List.append_assoc]
      rfl
    · rw [hprobes, hprobe]
      rfl
    · have hacked : (env d.sends).acks d.esb = acks channel := hf 0
      rw [List.range'_succ, heardOn_cons (hacked ▸ hreports), hheard, List.filter_cons]
      cases acks channel <;> rfl

end Host

/-! ## Both -/

/-- The payload of a command is the same in the buffer of `usb_thread` and in that of `fw_scan`. -/
theorem alike_load {c : DataCommand} (hc : c.length ≤ 32) (d d' : Device) :
    Alike (d'.load c.payload 0 c.length (by omega)).usb.packet
      (d.scanReady (c.payload.read 0 c.length)).scan.packet := by
  have hlen : (c.payload.read 0 c.length).length = c.length := c.payload.length_read (by omega)
  have htake : (c.payload.read 0 c.length).take 32 = c.payload.read 0 c.length :=
    List.take_of_length_le (by omega)
  have hbyte : (UInt8.ofNat c.length).toNat = c.length := by
    rw [UInt8.toNat_ofNat']
    omega
  have hready : (d.scanReady (c.payload.read 0 c.length)).scan.packet.length = UInt8.ofNat c.length := by
    show UInt8.ofNat ((c.payload.read 0 c.length).take 32).length = _
    rw [htake, hlen]
  have hload : (d'.load c.payload 0 c.length (by omega)).usb.packet.data.read 0 c.length = c.payload.read 0 c.length :=
    Buf.read_blit _ hlen (by omega)
  have hscan : (d.scanReady (c.payload.read 0 c.length)).scan.packet.data.read 0 c.length =
      c.payload.read 0 c.length := (Buf.read_blit _ (by rw [htake, hlen]) (scan_fits _)).trans htake
  refine ⟨hready.symm, ?_⟩
  show (d'.load c.payload 0 c.length (by omega)).usb.packet.data.read 0 (UInt8.ofNat c.length).toNat = _
  rw [hready, hbyte, hload, hscan]

theorem fwScan_probes (env : Env) (start stop : UInt8) (data : List UInt8) (d : Device) :
    ((fwScan env start stop data d).esb, (fwScan env start stop data d).sends) =
      ((fwScanCalls env start stop data d).map ScanCall.channel).foldl (probe env (d.scanReady data).scan)
        (d.esb, d.sends) := by
  rw [fwScan_eq, fwScanCalls]
  split
  · rfl
  · exact fwScanLoop_probes env _ _ ⟨rfl, rfl⟩

/-- In normal mode with auto-ack, at a supported data rate and up to channel 100, the host that tries the
channels one by one gets one answer for each. The scan of the firmware, in the same surroundings, finds the
first 63 channels the host hears an ack on and leaves the driver, with all it put on the air, as the host does
that stops behind the last of them: with fewer than 63 that is the host that tries them all. -/
theorem scan_agrees (env : Env) {d : Device} (h : HostReady d) (start : UInt8) {stop : UInt8} (hstop : stop ≤ 100)
    {c : DataCommand} (hc : c.length ≤ 32) : ∃ d' answers,
    d.run env (hostScan c (scanRange start stop)) = .ok d' ∧ d'.inWrites = d.inWrites ++ answers ∧
    answers.length = (scanRange start stop).length ∧
    let s := fwScan env start stop (c.payload.read 0 c.length) d
    let heard := heardOn (scanRange start stop) answers
    s.scanned = (heard.take 63).map UInt8.ofNat ∧
      (∃ d₁, d.run env (hostScan c (upToLastHeard (scanRange start stop) heard)) = .ok d₁ ∧
        s.esb = d₁.esb ∧ s.sends = d₁.sends) ∧
      transmissions s.esb.log <+: transmissions d'.esb.log ∧
      (heard.length < 63 → s.esb = d'.esb ∧ s.sends = d'.sends) := by
  have hle : stop.toNat ≤ 100 := UInt8.le_iff_toNat_le.mp hstop
  have hf : Follows env (d.scanAcks env start) start.toNat d := fun i => by
    rw [Device.scanAcks, Nat.add_sub_cancel_left]
  obtain ⟨d', ws, hrun, hw, hlen, hprobes, hheard⟩ := hostScan_run env hc (alike_load hc d)
    (stop.toNat + 1 - start.toNat) start.toNat h (fun x hx => Nat.le_trans (mem_scanRange.mp hx).2 hle) hf
  have hscan := fwScan_probes env start stop (c.payload.read 0 c.length) d
  rw [fwScanCalls_channels] at hscan
  refine ⟨d', ws, hrun, hw, hlen.trans List.length_range'.symm, ?_, ?_, ?_, fun hfew => ?_⟩
  · rw [fwScan_scanned, Device.scanReports]
    exact congrArg (fun l => (l.take 63).map UInt8.ofNat) hheard.symm
  · have htried : upToLastHeard (scanRange start stop) (heardOn (scanRange start stop) ws) =
        tried (d.scanAcks env start) 63 (scanRange start stop) := by
      rw [tried_eq_filter _ (scanRange_increasing start stop)]
      exact congrArg (upToLastHeard (scanRange start stop)) hheard
    obtain ⟨n, hn⟩ := tried_range' (d.scanAcks env start) 63 start.toNat (stop.toNat + 1 - start.toNat)
    have hn : tried (d.scanAcks env start) 63 (scanRange start stop) = List.range' start.toNat n := hn
    have hbound : ∀ x ∈ List.range' start.toNat n, x ≤ 100 := by
      intro x hx
      have hx : x ∈ tried (d.scanAcks env start) 63 (scanRange start stop) := hn ▸ hx
      have hp := tried_prefix (d.scanAcks env start) 63 (scanRange start stop)
      exact Nat.le_trans (mem_scanRange.mp (hp.subset hx)).2 hle
    obtain ⟨d₁, -, hrun₁, -, -, hprobes₁, -⟩ := hostScan_run env hc (alike_load hc d) n start.toNat h hbound hf
    rw [hn] at hscan
    rw [htried, hn]
    exact ⟨d₁, hrun₁, Prod.mk.inj (hscan.trans hprobes₁.symm)⟩
  · obtain ⟨rest, hrest⟩ := tried_prefix (d.scanAcks env start) 63 (scanRange start stop)
    have hall : (d'.esb, d'.sends) = rest.foldl (probe env (d.scanReady (c.payload.read 0 c.length)).scan)
        ((fwScan env start stop (c.payload.read 0 c.length) d).esb,
          (fwScan env start stop (c.payload.read 0 c.length) d).sends) := by
      rw [hscan, ← List.foldl_append, hrest]
      exact hprobes
    have hesb : d'.esb = _ := congrArg Prod.fst hall
    rw [hesb]
    exact transmissions_probes env (d.scanReady (c.payload.read 0 c.length)).scan rest
      ((fwScan env start stop (c.payload.read 0 c.length) d).esb,
        (fwScan env start stop (c.payload.read 0 c.length) d).sends)
  · have hfew' : ((scanRange start stop).filter (d.scanAcks env start)).length < 63 := hheard ▸ hfew
    rw [tried_all _ hfew'] at hscan
    exact Prod.mk.inj (hscan.trans hprobes.symm)

/-- Surroundings in which the second packet gets no ack. -/
def secondLost : Env := fun n => if n = 1 then .silent else answering

/-- Three channels, the one in the middle without an ack. -/
theorem scan_agrees_three : ∃ d', boot.run secondLost (hostScan DataCommand.empty [0, 1, 2]) = .ok d' ∧
    (fwScan secondLost 0 2 [] boot).scanned = [0, 2] ∧ (fwScan secondLost 0 2 [] boot).esb = d'.esb := by
  have hready : HostReady boot := ⟨rfl, rfl, by decide⟩
  have hstop : (2 : UInt8) ≤ 100 := by decide
  have hlength : DataCommand.empty.length ≤ 32 := by decide
  obtain ⟨d', answers, hrun, -, -, hscanned, -, -, hesb⟩ := scan_agrees secondLost hready 0 hstop hlength
  have htwo : (fwScan secondLost 0 2 [] boot).scanned = [0, 2] := by decide +kernel
  refine ⟨d', hrun, htwo, (hesb ?_).1⟩
  have hlen := congrArg List.length (hscanned.symm.trans htwo)
  rw [List.length_map, List.length_take] at hlen
  simp only [List.length_cons, List.length_nil] at hlen
  omega

end Crazyradio.Usb
