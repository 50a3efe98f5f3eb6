/-
The channel scan. `fw_scan` counts its channels itself while `esb_set_channel` ignores every channel
above 100, so behind 100 the radio stays where it is and the scan reports channels it was never tuned
to. The loop's calls are recorded with the frequency they are made on, and the scan result is the one
the host expects exactly when no such channel answers before the result is full.
-/
import Crazyradio.Lib.Search
import Crazyradio.Usb.Settings
import Mathlib.Data.List.Sort

namespace Crazyradio.Usb

open Bytes Search

/-! ## The calls of a scan -/

/-- A call of `esb_send_packet` made by `fw_scan`: the loop's `channel`, the frequency the radio is
tuned to and what the call returns. -/
structure ScanCall where
  channel : Nat
  frequency : Nat
  acked : Bool
  deriving DecidableEq

/-- The call of one step of the scan. -/
def Device.scanCall (d : Device) (env : Env) (channel : Nat) : ScanCall :=
  { channel
    frequency := (d.scanTuned channel).esb.radio.frequency
    acked := (scanSend env (d.scanTuned channel)).1 }

/-- The device behind one step of the scan. -/
def Device.scanStep (d : Device) (env : Env) (channel : Nat) : Device :=
  let r := scanSend env (d.scanTuned channel)
  if r.1 then r.2.scanHit channel else r.2

/-- The channel answered and filled the scan result. -/
def Device.scanFull (d : Device) (env : Env) (channel : Nat) : Bool :=
  (d.scanCall env channel).acked && decide (esbMaxPayloadLength ≤ (d.scanStep env channel).state.scanResultLength)

section Step

variable {env : Env} {channel : Nat} {d : Device}

theorem scanStep_hit (h : (d.scanCall env channel).acked = true) :
    d.scanStep env channel = (scanSend env (d.scanTuned channel)).2.scanHit channel := if_pos h

theorem scanStep_miss (h : (d.scanCall env channel).acked = false) :
    d.scanStep env channel = (scanSend env (d.scanTuned channel)).2 := if_neg (Bool.eq_false_iff.mp h)

end Step

theorem fwScanLoop_step (env : Env) (n channel : Nat) (d : Device) : fwScanLoop env (n + 1) channel d =
    if d.scanFull env channel then d.scanStep env channel
    else fwScanLoop env n (channel + 1) (d.scanStep env channel) := by
  rw [fwScanLoop_succ]
  unfold Device.scanFull
  cases h : (d.scanCall env channel).acked with
  | false =>
    have h' : ¬ (scanSend env (d.scanTuned channel)).1 = true := Bool.eq_false_iff.mp h
    rw [if_neg h', scanStep_miss h]
    rfl
  | true =>
    have h' : (scanSend env (d.scanTuned channel)).1 = true := h
    rw [if_pos h', scanStep_hit h]
    simp only [Bool.true_and, decide_eq_true_eq]
    rfl

/-- The calls of the loop of `fw_scan`, in order. -/
def scanCalls (env : Env) : Nat → Nat → Device → List ScanCall
  | 0, _, _ => []
  | n + 1, channel, d =>
    d.scanCall env channel ::
      if d.scanFull env channel then [] else scanCalls env n (channel + 1) (d.scanStep env channel)

/-- The channels of the scan result. -/
def Device.scanned (d : Device) : List UInt8 := d.state.scanResult.read 0 d.state.scanResultLength

/-! ## One step -/

/-- The `i`-th call of `esb_send_packet` from now on gets its ack, under the driver's settings. -/
def Device.answers (d : Device) (env : Env) (i : Nat) : Bool := (env (d.sends + i)).acks d.esb

theorem scanTuned_eq (channel : Nat) (d : Device) : ∃ log : List RadioEvent, d.scanTuned channel = { d with
    esb := { d.esb with
      log
      radio := { d.esb.radio with frequency := channelFrequency (UInt8.ofNat channel) d.esb.radio.frequency } } } := by
  unfold Device.scanTuned esbSetChannel channelFrequency
  split <;> exact ⟨_, rfl⟩

/-- The call of a step changes the caller's buffers, the PID and the log behind the tuning. -/
theorem scanSend_eq (env : Env) (channel : Nat) (d : Device) :
    ∃ (pid : UInt8) (log : List RadioEvent) (b : SendBuffers),
    (scanSend env (d.scanTuned channel)).2 = { d with
      scan := b
      esb := { d.esb with
        pid, log
        radio := { d.esb.radio with
          frequency := channelFrequency (UInt8.ofNat channel) d.esb.radio.frequency } }
      sends := d.sends + 1 } := by
  obtain ⟨log, ht⟩ := scanTuned_eq channel d
  obtain ⟨pid, log', h⟩ := esbSendPacket_kept (env d.sends) d.scan (d.scanTuned channel).esb
  refine ⟨pid, log', (scanSend env (d.scanTuned channel)).2.scan, ?_⟩
  have hd : (scanSend env (d.scanTuned channel)).2 = { d.scanTuned channel with
      scan := (scanSend env (d.scanTuned channel)).2.scan
      esb := (esbSendPacket (env d.sends) d.scan (d.scanTuned channel).esb).2.2
      sends := d.sends + 1 } := rfl
  rw [hd, h, ht]

theorem scanCall_acked (env : Env) (channel : Nat) (d : Device) :
    (d.scanCall env channel).acked = d.answers env 0 := by
  obtain ⟨log, ht⟩ := scanTuned_eq channel d
  have h : (d.scanCall env channel).acked = (env d.sends).acks (d.scanTuned channel).esb :=
    esbSendPacket_acks (env d.sends) d.scan (d.scanTuned channel).esb
  rw [h, ht]
  rfl

theorem scanCall_frequency (env : Env) (channel : Nat) (d : Device) :
    (d.scanCall env channel).frequency = channelFrequency (UInt8.ofNat channel) d.esb.radio.frequency :=
  congrArg Radio.frequency (esbSetChannel_radio (UInt8.ofNat channel) d.esb)

/-- What a step leaves behind. -/
structure StepLeaves (env : Env) (channel : Nat) (acked : Bool) (d d' : Device) : Prop where
  length : d'.state.scanResultLength = d.state.scanResultLength + if acked then 1 else 0
  scanned : d'.scanned = d.scanned ++ if acked then [UInt8.ofNat channel] else []
  frequency : d'.esb.radio.frequency = channelFrequency (UInt8.ofNat channel) d.esb.radio.frequency
  sends : d'.sends = d.sends + 1
  answers : ∀ i, d'.answers env i = d.answers env (i + 1)

theorem scanStep_leaves (env : Env) (channel : Nat) {d : Device} (h : d.state.scanResultLength < 63) :
    StepLeaves env channel (d.scanCall env channel).acked d (d.scanStep env channel) := by
  obtain ⟨pid, log, b, hd⟩ := scanSend_eq env channel d
  have hnext : ∀ i, (env (d.sends + 1 + i)).acks d.esb = d.answers env (i + 1) := fun i => by
    rw [Device.answers, Nat.add_assoc, Nat.add_comm 1 i]
  cases ha : (d.scanCall env channel).acked with
  | false =>
    rw [scanStep_miss ha, hd]
    exact ⟨rfl, (List.append_nil _).symm, rfl, rfl, hnext⟩
  | true =>
    rw [scanStep_hit ha, hd]
    exact ⟨rfl, d.state.scanResult.read_set h (UInt8.ofNat channel), rfl, rfl, hnext⟩

/-! ## The whole loop -/

/-- The channels the device's answers stand for: the next call is the one for `channel`. -/
def Follows (env : Env) (acks : Nat → Bool) (channel : Nat) (d : Device) : Prop :=
  ∀ i, d.answers env i = acks (channel + i)

/-- What the loop makes of `n` channels from `channel` on when `acks` says which of them answer. -/
structure LoopLeaves (acks : Nat → Bool) (n channel : Nat) (calls : List ScanCall) (d d' : Device) : Prop where
  channels : calls.map ScanCall.channel = tried acks (63 - d.state.scanResultLength) (List.range' channel n)
  acked : ∀ c ∈ calls, c.acked = acks c.channel
  tuned : ∀ c ∈ calls, c.channel ≤ 100 → c.frequency = 2400 + c.channel
  scanned : d'.scanned = d.scanned ++ (calls.filter ScanCall.acked).map fun c => UInt8.ofNat c.channel
  frequency : d'.esb.radio.frequency = ((calls.getLast?.map ScanCall.frequency).getD d.esb.radio.frequency)
  sends : d'.sends = d.sends + calls.length

/-- No channel is left, or the result is full. -/
theorem LoopLeaves.nil {acks : Nat → Bool} {n channel : Nat} {d : Device}
    (h : n = 0 ∨ 63 ≤ d.state.scanResultLength) : LoopLeaves acks n channel [] d d where
  channels := by
    rcases h with rfl | h
    · exact (tried_nil acks _).symm
    · rw [Nat.sub_eq_zero_of_le h, tried_zero]
      rfl
  acked := fun c hc => absurd hc List.not_mem_nil
  tuned := fun c hc => absurd hc List.not_mem_nil
  scanned := (List.append_nil _).symm
  frequency := rfl
  sends := rfl

/-- One step in front of the rest of the loop. -/
theorem LoopLeaves.cons {env : Env} {acks : Nat → Bool} {n channel : Nat} {calls : List ScanCall} {d d' : Device}
    (hlen : d.state.scanResultLength < 63) (hf : Follows env acks channel d) (hc : channel < 256)
    (h : LoopLeaves acks n (channel + 1) calls (d.scanStep env channel) d') :
    LoopLeaves acks (n + 1) channel (d.scanCall env channel :: calls) d d' := by
  have hs := scanStep_leaves env channel hlen
  have ha : (d.scanCall env channel).acked = acks channel := (scanCall_acked env channel d).trans (hf 0)
  constructor
  · obtain ⟨m, hm⟩ : ∃ m, 63 - d.state.scanResultLength = m + 1 := ⟨62 - d.state.scanResultLength, by omega⟩
    have hrest := h.channels
    rw [hs.length, ha] at hrest
    rw [List.map_cons, hrest, hm, List.range'_succ]
    cases hb : acks channel with
    | true =>
      rw [tried_hit acks hb, if_pos rfl, show 63 - (d.state.scanResultLength + 1) = m by omega]
      rfl
    | false =>
      rw [tried_miss acks hb, if_neg Bool.false_ne_true, show 63 - (d.state.scanResultLength + 0) = m + 1 by omega]
      rfl
  · intro c hmem
    rcases List.mem_cons.mp hmem with rfl | hmem
    · exact ha
    · exact h.acked c hmem
  · intro c hmem h100
    rcases List.mem_cons.mp hmem with rfl | hmem
    · have hle : UInt8.ofNat channel ≤ 100 := by
        rw [UInt8.le_iff_toNat_le, UInt8.toNat_ofNat_of_lt' hc]
        exact h100
      rw [scanCall_frequency, channelFrequency, if_pos hle, UInt8.toNat_ofNat_of_lt' hc]
      rfl
    · exact h.tuned c hmem h100
  · rw [h.scanned, hs.scanned, List.append_assoc]
    cases hb : (d.scanCall env channel).acked with
    | true =>
      rw [List.filter_cons_of_pos hb]
      rfl
    | false =>
      rw [List.filter_cons_of_neg (Bool.eq_false_iff.mp hb)]
      rfl
  · rw [h.frequency, hs.frequency, ← scanCall_frequency env, List.getLast?_cons]
    cases calls.getLast? <;> rfl
  · rw [h.sends, hs.sends, List.length_cons]
    omega

theorem fwScanLoop_leaves (env : Env) {acks : Nat → Bool} : ∀ {n channel : Nat} {d : Device},
    d.state.scanResultLength < 63 → Follows env acks channel d → channel + n ≤ 256 →
      LoopLeaves acks n channel (scanCalls env n channel d) d (fwScanLoop env n channel d)
  | 0, _, _, _, _, _ => LoopLeaves.nil (.inl rfl)
  | n + 1, channel, d, hlen, hf, hn => by
    have hs := scanStep_leaves env channel hlen
    rw [fwScanLoop_step, scanCalls]
    refine LoopLeaves.cons hlen hf (by omega) ?_
    cases hfull : d.scanFull env channel with
    | true =>
      -- the hit of this step was the last one the result takes
      obtain ⟨-, hle⟩ : (d.scanCall env channel).acked = true ∧
          esbMaxPayloadLength ≤ (d.scanStep env channel).state.scanResultLength := by
        simpa [Device.scanFull] using hfull
      exact LoopLeaves.nil (.inr hle)
    | false =>
      refine fwScanLoop_leaves env ?_ ?_ (by omega)
      · have hlength := hs.length
        cases ha : (d.scanCall env channel).acked with
        | false =>
          rw [ha] at hlength
          simp only [Bool.false_eq_true, if_false] at hlength
          omega
        | true =>
          rw [Device.scanFull, ha, Bool.true_and, decide_eq_false_iff_not] at hfull
          exact Nat.lt_of_not_le hfull
      · intro i
        rw [hs.answers, hf, Nat.add_assoc, Nat.add_comm 1 i]

/-! ## The scan -/

/-- The channels of a request, in the order of the loop. -/
def scanRange (start stop : UInt8) : List Nat := List.range' start.toNat (stop.toNat + 1 - start.toNat)

theorem scan_fits (data : List UInt8) : 0 + (data.take 32).length ≤ 63 := by
  have := List.length_take_le 32 data
  omega

/-- The device at the head of the loop. -/
def Device.scanReady (d : Device) (data : List UInt8) : Device :=
  { d with
    state := { d.state with scanResultLength := 0 }
    scan := { d.scan with
      packet := { d.scan.packet with
        data := d.scan.packet.data.blit 0 (data.take 32) (scan_fits data)
        length := UInt8.ofNat (data.take 32).length } } }

theorem fwScan_eq (env : Env) (start stop : UInt8) (data : List UInt8) (d : Device) : fwScan env start stop data d =
    if stop < start then { d with state := { d.state with scanResultLength := 0 } }
    else fwScanLoop env (stop.toNat + 1 - start.toNat) start.toNat (d.scanReady data) := rfl

/-- The calls of `esb_send_packet` made by `fw_scan`. -/
def fwScanCalls (env : Env) (start stop : UInt8) (data : List UInt8) (d : Device) : List ScanCall :=
  if stop < start then []
  else scanCalls env (stop.toNat + 1 - start.toNat) start.toNat (d.scanReady data)

/-- The channel is acked when every channel of the scan from `start` on is tried. -/
def Device.scanAcks (d : Device) (env : Env) (start : UInt8) (channel : Nat) : Bool :=
  d.answers env (channel - start.toNat)

theorem scanRange_eq_nil {start stop : UInt8} (h : stop < start) : scanRange start stop = [] := by
  have hlt := UInt8.lt_iff_toNat_lt.mp h
  rw [scanRange, show stop.toNat + 1 - start.toNat = 0 by omega]
  rfl

theorem scanRange_increasing (start stop : UInt8) : (scanRange start stop).Pairwise (· < ·) :=
  List.pairwise_lt_range'

theorem mem_scanRange {start stop : UInt8} {c : Nat} :
    c ∈ scanRange start stop ↔ start.toNat ≤ c ∧ c ≤ stop.toNat := by
  rw [scanRange, List.mem_range'_1]
  omega

section Scan

variable (env : Env) (start stop : UInt8) (data : List UInt8) (d : Device)

/-- The loop of a scan starts with an empty result. -/
theorem fwScan_leaves : LoopLeaves (d.scanAcks env start) (stop.toNat + 1 - start.toNat) start.toNat
    (fwScanCalls env start stop data d) { d with state := { d.state with scanResultLength := 0 } }
    (fwScan env start stop data d) := by
  rw [fwScan_eq, fwScanCalls]
  split
  · rename_i hlt
    have := UInt8.lt_iff_toNat_lt.mp hlt
    exact LoopLeaves.nil (.inl (by omega))
  · have hf : Follows env (d.scanAcks env start) start.toNat (d.scanReady data) := fun i => by
      rw [Device.scanAcks, Nat.add_sub_cancel_left]
      rfl
    have hn : start.toNat + (stop.toNat + 1 - start.toNat) ≤ 256 := by
      have := start.toNat_lt
      have := stop.toNat_lt
      omega
    have h := fwScanLoop_leaves env (d := d.scanReady data) (Nat.zero_lt_succ 62) hf hn
    exact ⟨h.channels, h.acked, h.tuned, h.scanned, h.frequency, h.sends⟩

/-- The channels a scan tries. -/
theorem fwScanCalls_channels : (fwScanCalls env start stop data d).map ScanCall.channel =
    tried (d.scanAcks env start) 63 (scanRange start stop) := (fwScan_leaves env start stop data d).channels

/-- The channels a scan reports: the first 63 that are acked, wherever the radio is tuned. -/
def Device.scanReports : List Nat := ((scanRange start stop).filter (d.scanAcks env start)).take 63

theorem fwScanCalls_reports : ((fwScanCalls env start stop data d).filter ScanCall.acked).map ScanCall.channel =
    d.scanReports env start stop := by
  have h := fwScan_leaves env start stop data d
  rw [List.filter_congr h.acked, ← Function.comp_def, ← List.filter_map, fwScanCalls_channels, filter_tried]
  rfl

theorem fwScan_scanned : (fwScan env start stop data d).scanned =
    (d.scanReports env start stop).map UInt8.ofNat := by
  rw [← fwScanCalls_reports env start stop data d, List.map_map]
  exact (fwScan_leaves env start stop data d).scanned

end Scan

/-! ## What the host expects -/

/-- An ack was received while the radio was tuned to this channel. -/
def answeredOn (calls : List ScanCall) (channel : Nat) : Bool :=
  calls.any fun c => c.acked && decide (c.frequency = 2400 + channel)

/-- The scan result is the list of the first 63 channels that answered. -/
structure ScanExact (env : Env) (start stop : UInt8) (data : List UInt8) (d : Device) : Prop where
  answered : (fwScan env start stop data d).scanned =
    (((scanRange start stop).filter (answeredOn (fwScanCalls env start stop data d))).take 63).map UInt8.ofNat
  increasing : (fwScan env start stop data d).scanned.Pairwise (· < ·)
  tuned : ∀ c ∈ (fwScan env start stop data d).scanned, c ≤ 100
  empty : stop < start → (fwScan env start stop data d).scanned = []

section Exact

variable (env : Env) (start stop : UInt8) (data : List UInt8) (d : Device)

theorem scanReports_mem {c : Nat} (h : c ∈ d.scanReports env start stop) : c ∈ scanRange start stop :=
  List.mem_of_mem_filter (List.mem_of_mem_take h)

theorem scanReports_lt {c : Nat} (h : c ∈ d.scanReports env start stop) : c < 256 := by
  have := (mem_scanRange.mp (scanReports_mem env start stop d h)).2
  have := stop.toNat_lt
  omega

theorem scanReports_increasing : (d.scanReports env start stop).Pairwise (· < ·) :=
  ((scanRange_increasing start stop).filter _).take

/-- As bytes the channels stay in order. -/
theorem scanned_increasing : ((d.scanReports env start stop).map UInt8.ofNat).Pairwise (· < ·) := by
  rw [List.pairwise_map]
  refine (scanReports_increasing env start stop d).imp_of_mem fun {a b} ha hb hab => ?_
  rw [UInt8.lt_iff_toNat_lt, UInt8.toNat_ofNat_of_lt' (scanReports_lt env start stop d ha),
    UInt8.toNat_ofNat_of_lt' (scanReports_lt env start stop d hb)]
  exact hab

theorem scanned_le_iff : (∀ c ∈ (d.scanReports env start stop).map UInt8.ofNat, c ≤ 100) ↔
    ∀ c ∈ d.scanReports env start stop, c ≤ 100 := by
  rw [List.forall_mem_map]
  refine forall₂_congr fun c hc => ?_
  rw [UInt8.le_iff_toNat_le, UInt8.toNat_ofNat_of_lt' (scanReports_lt env start stop d hc)]
  rfl

/-- While only channels up to 100 are reported, they are the ones the radio was tuned to. -/
theorem answeredOn_reports (h : ∀ c ∈ d.scanReports env start stop, c ≤ 100) :
    (scanRange start stop).filter (answeredOn (fwScanCalls env start stop data d)) = d.scanReports env start stop := by
  have hl := fwScan_leaves env start stop data d
  have hr := fwScanCalls_reports env start stop data d
  refine ((scanRange_increasing start stop).filter _).eq_of_mem_iff
    (scanReports_increasing env start stop d) fun c => ?_
  rw [List.mem_filter]
  constructor
  · rintro ⟨-, hc⟩
    obtain ⟨k, hk, hans⟩ := List.any_eq_true.mp hc
    obtain ⟨hack, hfreq⟩ := Bool.and_eq_true_iff.mp hans
    have hmem : k.channel ∈ d.scanReports env start stop :=
      hr ▸ List.mem_map_of_mem (List.mem_filter.mpr ⟨hk, hack⟩)
    have hk := (hl.tuned k hk (h _ hmem)).symm.trans (of_decide_eq_true hfreq)
    rwa [Nat.add_left_cancel hk] at hmem
  · intro hc
    refine ⟨scanReports_mem env start stop d hc, ?_⟩
    have h100 := h c hc
    rw [← hr] at hc
    obtain ⟨k, hk, rfl⟩ := List.mem_map.mp hc
    obtain ⟨hk, hack⟩ := List.mem_filter.mp hk
    exact List.any_eq_true.mpr ⟨k, hk, Bool.and_eq_true_iff.mpr ⟨hack, decide_eq_true (hl.tuned k hk h100)⟩⟩

theorem scanExact_iff_reports : ScanExact env start stop data d ↔
    ∀ c ∈ d.scanReports env start stop, c ≤ 100 := by
  have hs := fwScan_scanned env start stop data d
  constructor
  · intro h
    exact (scanned_le_iff env start stop d).mp (hs ▸ h.tuned)
  · intro h
    refine ⟨?_, hs ▸ scanned_increasing env start stop d, hs ▸ (scanned_le_iff env start stop d).mpr h, fun hlt => ?_⟩
    · rw [hs, answeredOn_reports env start stop data d h, Device.scanReports, List.take_take, Nat.min_self]
    · rw [hs, Device.scanReports, scanRange_eq_nil hlt]
      rfl

/-- A scan reports exactly the channels that answered when the result is full at channel 100, or no
channel above 100 is acked. -/
theorem scan_exact_iff : ScanExact env start stop data d ↔
    63 ≤ ((scanRange start stop).filter fun c => decide (c ≤ 100) && d.scanAcks env start c).length ∨
      ∀ c ∈ scanRange start stop, 100 < c → d.scanAcks env start c = false := by
  rw [scanExact_iff_reports, Device.scanReports, take_le_iff ((scanRange_increasing start stop).filter _),
    List.filter_filter]
  refine or_congr Iff.rfl ?_
  constructor
  · intro h c hc h100
    by_contra hack
    have := h c (List.mem_filter.mpr ⟨hc, eq_true_of_ne_false hack⟩)
    omega
  · intro h c hc
    obtain ⟨hc, hack⟩ := List.mem_filter.mp hc
    by_contra hn
    rw [h c hc (by omega)] at hack
    exact Bool.false_ne_true hack

end Exact

/-- Surroundings in which every call gets an empty ack in the first attempt. -/
def answering : Exchange :=
  { packetDraw := 0, attempts := fun _ => .done (some ⟨0, 0, Buf.fill 63 0, zero_le_payload⟩) false true, rssi := 0,
    ackDraw := 0 }

/-- A scan of channel 101 reports it, with the radio on channel 42. -/
theorem scan_reports_untuned : ¬ ∀ (env : Env) (as : List Act) (start stop : UInt8) (data : List UInt8) (d : Device),
    boot.run env as = .ok d → d.esb.snifferActive = false → d.esb.continuousCarrierEnabled = false →
      ScanExact env start stop data d := by
  intro h
  have hx := h (fun _ => answering) [] 101 101 [0] boot rfl rfl rfl
  have h100 := (scanExact_iff_reports (fun _ => answering) 101 101 [0] boot).mp hx 101 (by decide)
  exact absurd h100 (by decide)

end Crazyradio.Usb
