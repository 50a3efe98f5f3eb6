/-
The records of sniffer mode on their way to the host: from the reception over the queue to
`usb_write`, and from the IN packets back to records. Nothing is lost between reception and
`usb_write` but what finds the queue full; on the bus a record of exactly 64 bytes needs the empty
write behind it, whose result `usb_thread` does not look at.
-/
import Crazyradio.Lib.Packets
import Crazyradio.Usb.Modes

namespace Crazyradio.Usb

open Bytes Packets

/-! ## Records -/

/-- A reception as the host gets to know it. -/
structure SnifferRecord where
  rssi : UInt8
  pipe : UInt8
  timestampUs : UInt32
  payload : List UInt8
  deriving DecidableEq

def recordOf (p : EsbSnifferPacket) : SnifferRecord :=
  ⟨p.rssi, p.pipe, p.timestampUs, p.data.read 0 p.length.toNat⟩

/-- The bytes of a record: total length, RSSI, pipe, timestamp, payload. -/
def encodeRecord (p : EsbSnifferPacket) : List UInt8 :=
  [7 + p.length, p.rssi, p.pipe] ++ leBytes p.timestampUs ++ p.data.read 0 p.length.toNat

/-- The buffers one poll gives to `usb_write`. -/
def recordWrites (p : EsbSnifferPacket) : List (List UInt8) :=
  encodeRecord p :: if (encodeRecord p).length = crazyradioBulkEpMps then [[]] else []

theorem toNat_totalLength (p : EsbSnifferPacket) : (7 + p.length).toNat = 7 + p.length.toNat := by
  have := p.length_le
  rw [UInt8.toNat_add]
  show (7 + p.length.toNat) % 256 = _
  omega

theorem length_encodeRecord (p : EsbSnifferPacket) : (encodeRecord p).length = 7 + p.length.toNat := by
  have := p.length_le
  unfold encodeRecord
  rw [List.length_append, Buf.length_read _ (by omega)]
  rfl

/-- The poll takes the first record of the queue and writes it. -/
theorem pollSniffer_cons {d : Device} {p : EsbSnifferPacket} {rest : List EsbSnifferPacket}
    (hq : d.snifferQueue = p :: rest) : ∃ b : Buf 128, pollSniffer d = .ok { d with
      snifferQueue := rest, state := { d.state with usbAnswer := b }, inWrites := d.inWrites ++ recordWrites p } := by
  have hp := p.length_le
  have hr : (p.data.read 0 p.length.toNat).length = p.length.toNat := p.data.length_read (by omega)
  let header := [7 + p.length, p.rssi, p.pipe] ++ leBytes p.timestampUs
  let answer := d.state.usbAnswer.blit 0 header (show 0 + 7 ≤ 128 by decide)
  let answer' := answer.blit 7 (p.data.read 0 p.length.toNat) (by omega)
  have hcopy : memcpy answer 7 p.data 0 p.length.toNat = .ok answer' := memcpy_ok _ _ _ _ (by omega) (by omega)
  have hheader : answer.read 0 7 = header := Buf.read_blit _ rfl _
  have hbytes : answer'.read 0 (7 + p.length).toNat = encodeRecord p := by
    rw [toNat_totalLength, Buf.read_zero_blit _ hr, hheader]
    rfl
  refine ⟨answer', ?_⟩
  unfold pollSniffer
  rw [hq]
  simp only
  rw [show memcpy _ 7 p.data 0 p.length.toNat = .ok answer' from hcopy]
  simp only [bind, Except.bind, pure, Except.pure]
  rw [hbytes]
  unfold recordWrites
  rw [length_encodeRecord, ← toNat_totalLength]
  split
  · simp only [usbWrite, List.append_assoc]; rfl
  · rfl

/-! ## The host -/

/-- A 32-bit value from its bytes in memory. -/
def leValue (b0 b1 b2 b3 : UInt8) : UInt32 :=
  UInt32.ofNat (b0.toNat + 256 * b1.toNat + 65536 * b2.toNat + 16777216 * b3.toNat)

/-- The host reads a transfer as a record, if the length in it is that of the transfer. -/
def decodeRecord : List UInt8 → Option SnifferRecord
  | total :: rssi :: pipe :: t0 :: t1 :: t2 :: t3 :: payload =>
    if total.toNat = 7 + payload.length then some ⟨rssi, pipe, leValue t0 t1 t2 t3, payload⟩ else none
  | _ => none

theorem leValue_leBytes (v : UInt32) :
    leValue v.toUInt8 (v >>> 8).toUInt8 (v >>> 16).toUInt8 (v >>> 24).toUInt8 = v := by
  have hv := v.toNat_lt
  have h8 : (v >>> 8).toNat = v.toNat / 256 := by rw [UInt32.toNat_shiftRight, Nat.shiftRight_eq_div_pow]; rfl
  have h16 : (v >>> 16).toNat = v.toNat / 65536 := by rw [UInt32.toNat_shiftRight, Nat.shiftRight_eq_div_pow]; rfl
  have h24 : (v >>> 24).toNat = v.toNat / 16777216 := by rw [UInt32.toNat_shiftRight, Nat.shiftRight_eq_div_pow]; rfl
  unfold leValue
  rw [← UInt32.toNat_inj, UInt32.toNat_ofNat', UInt32.toNat_toUInt8, UInt32.toNat_toUInt8, UInt32.toNat_toUInt8,
    UInt32.toNat_toUInt8, h8, h16, h24]
  omega

theorem decodeRecord_encodeRecord (p : EsbSnifferPacket) : decodeRecord (encodeRecord p) = some (recordOf p) := by
  have hp := p.length_le
  have hlen : (p.data.read 0 p.length.toNat).length = p.length.toNat := p.data.length_read (by omega)
  have hbytes : encodeRecord p = (7 + p.length) :: p.rssi :: p.pipe :: p.timestampUs.toUInt8 ::
      (p.timestampUs >>> 8).toUInt8 :: (p.timestampUs >>> 16).toUInt8 :: (p.timestampUs >>> 24).toUInt8 ::
      p.data.read 0 p.length.toNat := rfl
  rw [hbytes, decodeRecord, if_pos (by rw [toNat_totalLength, hlen]), leValue_leBytes]
  rfl

/-! ## What arrives -/

/-- A record given to `usb_write`, with the results of its write and of the empty one behind it. -/
structure Written where
  pkt : EsbSnifferPacket
  accepted : Bool
  emptyAccepted : Bool

/-- The IN packets of writes with their results: a write is split into packets or transfers nothing. -/
def inPackets : List Bool → List (List UInt8) → List (List UInt8)
  | r :: rs, b :: bs => (if r then chunks 64 b else []) ++ inPackets rs bs
  | _, _ => []

/-- The results of the writes of a record. -/
def Written.results (w : Written) : List Bool :=
  w.accepted :: if (encodeRecord w.pkt).length = crazyradioBulkEpMps then [w.emptyAccepted] else []

def Written.packets (w : Written) : List (List UInt8) := inPackets w.results (recordWrites w.pkt)

/-- The host sees an end behind what was accepted of the record: a packet that is not full, of the
record or behind it. -/
def Written.ends (w : Written) : Bool :=
  if (encodeRecord w.pkt).length = 64 then w.emptyAccepted else w.accepted

/-- The bytes of the record that arrive. -/
def Written.bytes (w : Written) : List UInt8 := if w.accepted then encodeRecord w.pkt else []

/-- The records the host decodes. -/
def decoded (packets : List (List UInt8)) : List SnifferRecord := (transfers 64 packets).filterMap decodeRecord

/-- The records whose own write was accepted. -/
def acceptedRecords (ws : List Written) : List SnifferRecord := (ws.filter (·.accepted)).map fun w => recordOf w.pkt

theorem acceptedRecords_cons (w : Written) (ws : List Written) :
    acceptedRecords (w :: ws) = (if w.accepted then [recordOf w.pkt] else []) ++ acceptedRecords ws := by
  unfold acceptedRecords
  rw [List.filter_cons]
  split <;> rfl

theorem packets_full {w : Written} (h : (encodeRecord w.pkt).length = 64) :
    w.packets =
      (if w.accepted then chunks 64 (encodeRecord w.pkt) else []) ++ if w.emptyAccepted then [[]] else [] := by
  have hempty : chunks 64 ([] : List UInt8) = [[]] := chunks_short (by decide)
  unfold Written.packets Written.results recordWrites
  rw [if_pos h, if_pos h]
  simp only [inPackets, hempty, List.append_nil]

theorem packets_short {w : Written} (h : (encodeRecord w.pkt).length ≠ 64) :
    w.packets = if w.accepted then chunks 64 (encodeRecord w.pkt) else [] := by
  unfold Written.packets Written.results recordWrites
  rw [if_neg h, if_neg h]
  simp only [inPackets, List.append_nil]

/-- An empty packet ends what is open. -/
theorem transfersFrom_empty (acc : List UInt8) (ps : List (List UInt8)) :
    transfersFrom 64 acc ([] :: ps) = acc :: transfers 64 ps := by
  have hempty : ([] : List UInt8).length < 64 := by decide
  rw [transfersFrom, if_pos hempty, List.append_nil]
  rfl

/-- The packets of a record in front of any others. -/
theorem transfersFrom_written (w : Written) (acc : List UInt8) (ps : List (List UInt8)) :
    transfersFrom 64 acc (w.packets ++ ps) =
      if w.ends then (acc ++ w.bytes) :: transfers 64 ps else transfersFrom 64 (acc ++ w.bytes) ps := by
  have hlen := length_encodeRecord w.pkt
  have hp := w.pkt.length_le
  have hchunks := fun qs => transfersFrom_chunks (show 0 < 64 by decide) qs _ (encodeRecord w.pkt) acc rfl
  unfold Written.ends Written.bytes
  by_cases h64 : (encodeRecord w.pkt).length = 64
  · have hend : endsFull 64 (encodeRecord w.pkt) := by unfold endsFull; omega
    rw [packets_full h64, if_pos h64]
    cases w.accepted with
    | false =>
      cases w.emptyAccepted with
      | false => simp
      | true => simp [transfersFrom_empty]
    | true =>
      simp only [if_true, List.append_assoc, hchunks, if_pos hend]
      cases w.emptyAccepted with
      | false => simp
      | true => simp [transfersFrom_empty]
  · -- a record of any other length ends by itself
    have hend : ¬endsFull 64 (encodeRecord w.pkt) := by unfold endsFull; omega
    rw [packets_short h64, if_neg h64]
    cases w.accepted with
    | false => simp
    | true => simp [hchunks, hend]

/-! ## Recovery -/

/-- The next write that is accepted is an empty one. -/
def EmptyNext : List Written → Prop
  | [] => False
  | w :: ws => w.accepted = false ∧ (w.ends = true ∨ EmptyNext ws)

/-- Every accepted record ends by itself or with its empty packet, or the next write accepted behind it
is an empty one. -/
def Terminated : List Written → Prop
  | [] => True
  | w :: ws => (w.accepted = true → w.ends = true ∨ EmptyNext ws) ∧ Terminated ws

theorem encodeRecord_ne_nil (p : EsbSnifferPacket) : encodeRecord p ≠ [] := List.cons_ne_nil _ _

/-- A terminated stream is decoded to the accepted records, and an open record is one of them if an
empty packet comes next. -/
theorem decoded_terminated : ∀ ws : List Written, Terminated ws →
    decoded (ws.flatMap Written.packets) = acceptedRecords ws ∧
    ∀ p : EsbSnifferPacket, EmptyNext ws →
      (transfersFrom 64 (encodeRecord p) (ws.flatMap Written.packets)).filterMap decodeRecord =
        recordOf p :: acceptedRecords ws
  | [], _ => ⟨rfl, fun _ h => h.elim⟩
  | w :: ws, ⟨hw, hws⟩ => by
    obtain ⟨hclosed, hopen⟩ := decoded_terminated ws hws
    have hclosed : (transfers 64 (ws.flatMap Written.packets)).filterMap decodeRecord = acceptedRecords ws := hclosed
    have hnil : decodeRecord [] = none := rfl
    constructor
    · show (transfersFrom 64 [] (w.packets ++ ws.flatMap Written.packets)).filterMap decodeRecord = _
      rw [transfersFrom_written, acceptedRecords_cons, List.nil_append]
      unfold Written.bytes
      cases ha : w.accepted with
      | true =>
        simp only [if_true]
        split
        · rw [List.filterMap_cons, decodeRecord_encodeRecord, hclosed]
          rfl
        · rename_i he
          exact hopen w.pkt ((hw ha).resolve_left he)
      | false =>
        simp only [Bool.false_eq_true, if_false]
        split
        · rw [List.filterMap_cons, hnil, hclosed]
          rfl
        · exact hclosed
    · rintro p ⟨ha, hn⟩
      show (transfersFrom 64 (encodeRecord p) (w.packets ++ ws.flatMap Written.packets)).filterMap decodeRecord = _
      rw [transfersFrom_written, acceptedRecords_cons]
      unfold Written.bytes
      rw [ha]
      simp only [Bool.false_eq_true, if_false, List.append_nil, List.nil_append]
      split
      · rw [List.filterMap_cons, decodeRecord_encodeRecord, hclosed]
      · rename_i he
        exact hopen p (hn.resolve_left he)

/-- The transfers with something in them. -/
def filled (xss : List (List UInt8)) : Nat := xss.countP fun xs => !xs.isEmpty

theorem filled_cons (xs : List UInt8) (xss : List (List UInt8)) :
    filled (xs :: xss) = (if xs = [] then 0 else 1) + filled xss := by
  unfold filled
  rw [List.countP_cons, Nat.add_comm]
  cases xs <;> rfl

/-- The transfers of a record in front of any others. -/
theorem filled_written (w : Written) (acc : List UInt8) (ps : List (List UInt8)) :
    filled (transfersFrom 64 acc (w.packets ++ ps)) =
      if w.ends then (if acc ++ w.bytes = [] then 0 else 1) + filled (transfers 64 ps)
      else filled (transfersFrom 64 (acc ++ w.bytes) ps) := by
  rw [transfersFrom_written]
  split
  · exact filled_cons _ _
  · rfl

/-- Every record is a transfer of its own. -/
theorem length_filterMap_le (xss : List (List UInt8)) : (xss.filterMap decodeRecord).length ≤ filled xss := by
  rw [List.length_filterMap_eq_countP]
  refine List.countP_mono_left fun xs _ h => ?_
  cases xs with
  | nil => exact Bool.noConfusion h
  | cons x xs => rfl

/-- How many transfers the accepted records make up at most, with nothing open and behind something
open: one less each time if the stream is not terminated. -/
theorem filled_le : ∀ ws : List Written,
    (filled (transfers 64 (ws.flatMap Written.packets)) ≤ (acceptedRecords ws).length ∧
      (¬Terminated ws → filled (transfers 64 (ws.flatMap Written.packets)) < (acceptedRecords ws).length)) ∧
    ∀ acc : List UInt8, acc ≠ [] →
      filled (transfersFrom 64 acc (ws.flatMap Written.packets)) ≤ 1 + (acceptedRecords ws).length ∧
        (¬(EmptyNext ws ∧ Terminated ws) →
          filled (transfersFrom 64 acc (ws.flatMap Written.packets)) ≤ (acceptedRecords ws).length)
  | [] => ⟨⟨Nat.le_refl 0, fun h => absurd trivial h⟩, fun _ _ => ⟨Nat.zero_le _, fun _ => Nat.le_refl 0⟩⟩
  | w :: ws => by
    obtain ⟨⟨hle, hlt⟩, hopen⟩ := filled_le ws
    have hstep : ∀ acc, filled (transfersFrom 64 acc ((w :: ws).flatMap Written.packets)) = _ := fun acc =>
      filled_written w acc (ws.flatMap Written.packets)
    have hterm : Terminated (w :: ws) ↔ (w.accepted = true → w.ends = true ∨ EmptyNext ws) ∧ Terminated ws := Iff.rfl
    have hnext : EmptyNext (w :: ws) ↔ w.accepted = false ∧ (w.ends = true ∨ EmptyNext ws) := Iff.rfl
    rw [acceptedRecords_cons, List.length_append, transfers, hterm, hnext]
    simp only [hstep]
    unfold Written.bytes
    cases ha : w.accepted with
    | true =>
      have hne : ∀ acc : List UInt8, acc ++ encodeRecord w.pkt ≠ [] := fun acc => by simp [encodeRecord_ne_nil]
      simp only [if_true, if_neg (hne _), List.length_singleton]
      cases he : w.ends with
      | true =>
        -- the record is a transfer, together with what was open
        simp only [if_true]
        refine ⟨⟨by omega, fun hn => ?_⟩, fun acc _ => ⟨by omega, fun _ => by omega⟩⟩
        have := hlt fun ht => hn ⟨fun _ => .inl trivial, ht⟩
        omega
      | false =>
        simp only [Bool.false_eq_true, if_false]
        constructor
        · obtain ⟨h1, h2⟩ := hopen ([] ++ encodeRecord w.pkt) (hne [])
          refine ⟨h1, fun hn => ?_⟩
          have := h2 fun ht => hn ⟨fun _ => .inr ht.1, ht.2⟩
          omega
        · intro acc hacc
          obtain ⟨h1, -⟩ := hopen (acc ++ encodeRecord w.pkt) (hne acc)
          exact ⟨by omega, fun _ => by omega⟩
    | false =>
      simp only [Bool.false_eq_true, if_false, List.append_nil, List.length_nil, Nat.zero_add, false_implies, true_and]
      cases he : w.ends with
      | true =>
        simp only [if_true, Nat.zero_add, true_or, true_and]
        refine ⟨⟨hle, hlt⟩, fun acc hacc => ?_⟩
        rw [if_neg hacc]
        refine ⟨by omega, fun hn => ?_⟩
        have := hlt hn
        omega
      | false =>
        simp only [Bool.false_eq_true, if_false, false_or]
        exact ⟨⟨hle, hlt⟩, hopen⟩

theorem decoded_iff (ws : List Written) :
    decoded (ws.flatMap Written.packets) = acceptedRecords ws ↔ Terminated ws := by
  constructor
  · intro h
    by_contra hn
    have hlt := (filled_le ws).1.2 hn
    have hle : (decoded (ws.flatMap Written.packets)).length ≤ filled (transfers 64 (ws.flatMap Written.packets)) :=
      length_filterMap_le _
    rw [h] at hle
    omega
  · exact fun h => (decoded_terminated ws h).1

/-! ## The poll -/

theorem inPackets_append : ∀ {rs : List Bool} {bs : List (List UInt8)}, rs.length = bs.length →
    ∀ (rs' : List Bool) (bs' : List (List UInt8)),
      inPackets (rs ++ rs') (bs ++ bs') = inPackets rs bs ++ inPackets rs' bs'
  | [], [], _, _, _ => rfl
  | r :: rs, b :: bs, h, rs', bs' => by
    have hlen : rs.length = bs.length := Nat.succ.inj h
    rw [List.cons_append, List.cons_append, inPackets, inPackets_append hlen, inPackets, List.append_assoc]

theorem length_results (w : Written) : w.results.length = (recordWrites w.pkt).length := by
  unfold Written.results recordWrites
  split <;> rfl

theorem inPackets_records : ∀ ws : List Written,
    inPackets (ws.flatMap Written.results) (ws.flatMap fun w => recordWrites w.pkt) = ws.flatMap Written.packets
  | [] => rfl
  | w :: ws => by
    rw [List.flatMap_cons, List.flatMap_cons, List.flatMap_cons, inPackets_append (length_results w),
      inPackets_records ws]
    rfl

/-- Polling writes the records of the queue one after the other. -/
theorem poll_records (env : Env) : ∀ (ps : List EsbSnifferPacket) {d : Device}, d.snifferQueue = ps →
    ∃ d', d.run env (List.replicate ps.length .poll) = .ok d' ∧ d'.inWrites = d.inWrites ++ ps.flatMap recordWrites
  | [], d, _ => ⟨d, rfl, (List.append_nil _).symm⟩
  | p :: ps, d, hq => by
    obtain ⟨b, hp⟩ := pollSniffer_cons hq
    obtain ⟨d', hr, hw⟩ := poll_records env ps (d := { d with
      snifferQueue := ps, state := { d.state with usbAnswer := b }, inWrites := d.inWrites ++ recordWrites p }) rfl
    refine ⟨d', ?_, ?_⟩
    · rw [List.length_cons, List.replicate_succ, Device.run]
      show pollSniffer d >>= _ = _
      rw [hp]
      exact hr
    · rw [hw, List.append_assoc]
      rfl

/-- A queue of records is polled, each write accepted or not: the host recovers exactly the records
whose own write was accepted, in order, if and only if the stream is terminated. -/
theorem recovered_iff (env : Env) (d : Device) (ws : List Written) : ∃ d',
    Device.run env { d with snifferQueue := ws.map (·.pkt) } (List.replicate ws.length .poll) = .ok d' ∧
      (decoded (inPackets (ws.flatMap Written.results) (d'.inWrites.drop d.inWrites.length)) = acceptedRecords ws ↔
        Terminated ws) := by
  obtain ⟨d', hr, hw⟩ := poll_records env (ws.map (·.pkt)) (d := { d with snifferQueue := ws.map (·.pkt) }) rfl
  rw [List.length_map] at hr
  refine ⟨d', hr, ?_⟩
  rw [hw, List.drop_left, List.flatMap_map, inPackets_records]
  exact decoded_iff ws

/-- A record of 57 payload bytes, accepted without its empty packet, and another one. -/
def emptyRefused : List Written := [⟨{ length := 57, length_le := by decide }, true, false⟩, ⟨{}, true, true⟩]

/-- The two records are merged. -/
theorem empty_write_refused : ¬ ∀ (env : Env) (d d' : Device) (ws : List Written),
    Device.run env { d with snifferQueue := ws.map (·.pkt) } (List.replicate ws.length .poll) = .ok d' →
    decoded (inPackets (ws.flatMap Written.results) (d'.inWrites.drop d.inWrites.length)) = acceptedRecords ws := by
  intro hall
  obtain ⟨d', hr, hw⟩ := poll_records (fun _ => .silent) (emptyRefused.map (·.pkt))
    (d := { boot with snifferQueue := emptyRefused.map (·.pkt) }) rfl
  have h := hall (fun _ => .silent) boot d' emptyRefused hr
  rw [hw, List.drop_left, List.flatMap_map, inPackets_records] at h
  exact absurd h (by decide +kernel)

/-! ## From reception to the IN endpoint -/

/-- The record of a reception, its payload cut to the array. -/
def Reception.record (r : Reception) : SnifferRecord :=
  ⟨r.rssi, r.rxmatch, r.timestamp, r.frame.payload.read 0 (min r.frame.length.toNat 63)⟩

/-- The reception an act offers to the queue, if its CRC is valid, with whether the queue has room. -/
def Act.offers (d : Device) : Act → List (Reception × Bool)
  | .receive r => if r.crcOk then [(r, decide (d.snifferQueue.length < 8))] else []
  | _ => []

/-- The receptions with valid CRC of a run, each with whether it found room in the queue. -/
def Device.offered (env : Env) : Device → List Act → List (Reception × Bool)
  | _, [] => []
  | d, a :: as =>
    a.offers d ++
      match d.act env a with
      | .ok d' => d'.offered env as
      | .error _ => []

/-- The records of the receptions that found room. -/
def admitted (offers : List (Reception × Bool)) : List SnifferRecord :=
  (offers.filter (·.2)).map fun o => o.1.record

/-- The number of receptions that found none. -/
def refused (offers : List (Reception × Bool)) : Nat := offers.countP fun o => !o.2

/-- What was given to `usb_write` from `d` to `d'`, followed by the queue, is the queue of `d` followed
by what was admitted, and the drop counter went up by what was refused. -/
def Conserved (d d' : Device) (offers : List (Reception × Bool)) : Prop :=
  ∃ handed : List EsbSnifferPacket, d'.inWrites = d.inWrites ++ handed.flatMap recordWrites ∧
    (handed ++ d'.snifferQueue).map recordOf = d.snifferQueue.map recordOf ++ admitted offers ∧
    d'.snifferDropCount = d.snifferDropCount + UInt32.ofNat (refused offers)

theorem Conserved.of_same {d d' : Device} (hq : d'.snifferQueue = d.snifferQueue)
    (hc : d'.snifferDropCount = d.snifferDropCount) (hw : d'.inWrites = d.inWrites) : Conserved d d' [] := by
  refine ⟨[], by rw [hw]; exact (List.append_nil _).symm, by rw [hq]; exact (List.append_nil _).symm, ?_⟩
  rw [hc]
  exact (UInt32.add_zero _).symm

theorem Conserved.trans {d₁ d₂ d₃ : Device} {o o' : List (Reception × Bool)} (h : Conserved d₁ d₂ o)
    (h' : Conserved d₂ d₃ o') : Conserved d₁ d₃ (o ++ o') := by
  obtain ⟨handed, hw, hq, hc⟩ := h
  obtain ⟨handed', hw', hq', hc'⟩ := h'
  refine ⟨handed ++ handed', ?_, ?_, ?_⟩
  · rw [hw', hw, List.flatMap_append, List.append_assoc]
  · rw [List.append_assoc, List.map_append, hq', ← List.append_assoc, ← List.map_append, hq]
    simp only [admitted, List.filter_append, List.map_append, List.append_assoc]
  · have hsum : refused (o ++ o') = refused o + refused o' := List.countP_append
    rw [hc', hc, hsum, UInt32.ofNat_add, UInt32.add_assoc]

/-- A sniffer session: the mode is on and the callback set. -/
structure Session (d : Device) : Prop where
  inv : DevInv d
  mode : d.state.snifferMode = true
  callback : d.esb.snifferCallback.isSome = true

/-- With `MAXLEN` at 63 the record is the reception, whatever was in the buffers before. -/
theorem record_receive (pkt : EsbSnifferPacket) (old : EsbPacket) (r : Reception) :
    recordOf (snifferRecord pkt (old.receive 63 r.frame) r) = r.record := by
  have hl := r.frame.length_le
  have hread : (r.frame.payload.read 0 (min r.frame.length.toNat 63)).length = r.frame.length.toNat := by
    rw [r.frame.payload.length_read (by omega)]
    omega
  have hdata : (old.receive 63 r.frame).data.read 0 r.frame.length.toNat =
      r.frame.payload.read 0 (min r.frame.length.toNat 63) := old.data.read_blit hread (by omega)
  have hlen : (snifferRecord pkt (old.receive 63 r.frame) r).length = r.frame.length := by
    refine if_neg fun hgt => ?_
    have hgt : 63 < r.frame.length.toNat := UInt8.lt_iff_toNat_lt.mp hgt
    omega
  have hclamp : (if 63 < (old.receive 63 r.frame).length then 63 else (old.receive 63 r.frame).length) =
      r.frame.length := hlen
  have hstored : (snifferRecord pkt (old.receive 63 r.frame) r).data.read 0 r.frame.length.toNat =
      r.frame.payload.read 0 (min r.frame.length.toNat 63) := by
    unfold snifferRecord
    simp only
    refine (Buf.read_blit _ ?_ _).trans ?_
    · rw [hclamp, hdata, hread]
    · rw [hclamp, hdata]
  unfold recordOf Reception.record
  rw [hlen, hstored]
  rfl

/-- A reception in a session. -/
theorem conserved_receive {d : Device} (h : Session d) (r : Reception) :
    Conserved d (radioIsrSniffer r d) (Act.offers d (.receive r)) := by
  have hm : d.esb.radio.maxlen = 63 := by rw [h.inv.maxlen, h.mode]; rfl
  unfold radioIsrSniffer Act.offers
  simp only [h.callback, Bool.and_true]
  cases r.crcOk with
  | false => exact .of_same rfl rfl rfl
  | true =>
    simp only [if_true]
    let buffer := d.snifferRxBuffer.receive d.esb.radio.maxlen r.frame
    have hrec : recordOf (snifferRecord d.snifferPkt buffer r) = r.record := by
      show recordOf (snifferRecord d.snifferPkt (d.snifferRxBuffer.receive d.esb.radio.maxlen r.frame) r) = _
      rw [hm]
      exact record_receive d.snifferPkt d.snifferRxBuffer r
    unfold snifferRxCallback
    by_cases hroom : d.snifferQueue.length < 8
    · rw [if_pos hroom, decide_eq_true hroom]
      refine ⟨[], (List.append_nil _).symm, ?_, (UInt32.add_zero _).symm⟩
      show (d.snifferQueue ++ [snifferRecord d.snifferPkt buffer r]).map recordOf = _
      rw [List.map_append, List.map_singleton, hrec]
      rfl
    · rw [if_neg hroom, decide_eq_false hroom]
      exact ⟨[], (List.append_nil _).symm, (List.append_nil _).symm, rfl⟩

/-- The mode, the callback, the queue with its counter and the IN endpoint are left alone. -/
structure SessionKept (d d' : Device) : Prop where
  mode : d'.state.snifferMode = d.state.snifferMode
  callback : d'.esb.snifferCallback = d.esb.snifferCallback
  queue : d'.snifferQueue = d.snifferQueue
  drops : d'.snifferDropCount = d.snifferDropCount
  writes : d'.inWrites = d.inWrites

theorem SessionKept.trans {d₁ d₂ d₃ : Device} (h : SessionKept d₁ d₂) (h' : SessionKept d₂ d₃) : SessionKept d₁ d₃ :=
  ⟨h'.mode.trans h.mode, h'.callback.trans h.callback, h'.queue.trans h.queue, h'.drops.trans h.drops,
    h'.writes.trans h.writes⟩

/-- The driver calls of data commands and scans leave the callback. -/
theorem callback_driver : DriverRel fun e e' => e'.snifferCallback = e.snifferCallback where
  refl _ := rfl
  trans h h' := h'.trans h
  send x b e := by
    obtain ⟨pid, log, h⟩ := esbSendPacket_kept x b e
    rw [h]
  channel channel e := by
    obtain ⟨radio, log, h, -⟩ := esbSetChannel_kept channel e
    rw [h]
  bitrate bitrate e := by
    obtain ⟨radio, log, h, -⟩ := esbSetBitrate_kept bitrate e
    rw [h]
  ackEnabled _ _ := rfl
  address _ _ := rfl

/-- A request that does not change the radio mode. -/
theorem sessionKept_apply {r : Request} (h : ∀ on, r ≠ .sniffer on) (d : Device) : SessionKept d (r.apply d) := by
  have hd := callback_driver
  cases r with
  | channel c =>
    refine ⟨rfl, ?_, rfl, rfl, rfl⟩
    simp only [Request.apply]
    split
    · exact hd.channel _ _
    · rfl
  | datarate n =>
    refine ⟨rfl, ?_, rfl, rfl, rfl⟩
    simp only [Request.apply]
    split
    · exact hd.bitrate _ _
    split
    · exact hd.bitrate _ _
    · rfl
  | carrier enable =>
    obtain ⟨carrier, log, he⟩ := esbSetContinuousCarrier_kept enable d.esb
    refine ⟨rfl, ?_, rfl, rfl, rfl⟩
    simp only [Request.apply]
    rw [he]
  | sniffer on => exact absurd rfl (h on)
  | snifferAddress pipe1 a => cases pipe1 <;> exact ⟨rfl, rfl, rfl, rfl, rfl⟩
  | _ => exact ⟨rfl, rfl, rfl, rfl, rfl⟩

theorem sessionKept_snifferData {c : DataCommand} {d d' : Device} (h : snifferData c d = .ok d') :
    SessionKept d d' := by
  rcases snifferData_cases h with ⟨-, rfl⟩ | ⟨-, rfl⟩
  · exact ⟨rfl, rfl, rfl, rfl, rfl⟩
  · obtain ⟨pid, log, radio, he, -⟩ := esbSnifferSend_kept (d.snifferLoad c).usb.packet c.snifferAddress d.esb
    rw [he]
    exact ⟨rfl, rfl, rfl, rfl, rfl⟩

theorem sessionKept_fwScanLoop (env : Env) : ∀ (n channel : Nat) (d : Device),
    SessionKept d (fwScanLoop env n channel d)
  | 0, _, d => ⟨rfl, rfl, rfl, rfl, rfl⟩
  | n + 1, channel, d => by
    have hs : SessionKept d (scanSend env (d.scanTuned channel)).2 :=
      ⟨rfl, (callback_driver.trans (callback_driver.channel _ d.esb) (callback_driver.send _ _ _)), rfl, rfl, rfl⟩
    have hhit : ∀ d : Device, SessionKept d (d.scanHit channel) := fun _ => ⟨rfl, rfl, rfl, rfl, rfl⟩
    rw [fwScanLoop_succ]
    split
    · split
      · exact hs.trans (hhit _)
      · exact (hs.trans (hhit _)).trans (sessionKept_fwScanLoop env n _ _)
    · exact hs.trans (sessionKept_fwScanLoop env n _ _)

theorem sessionKept_fwScan (env : Env) (start stop : UInt8) (data : List UInt8) (d : Device) :
    SessionKept d (fwScan env start stop data d) := by
  unfold fwScan
  simp only
  split
  · exact ⟨rfl, rfl, rfl, rfl, rfl⟩
  · refine SessionKept.trans ?_ (sessionKept_fwScanLoop env _ _ _)
    exact ⟨rfl, rfl, rfl, rfl, rfl⟩

/-- The act is not a `SET_RADIO_MODE`. -/
def Act.KeepsMode : Act → Prop
  | .command (.setup s) => ∀ on, s.decode ≠ .sniffer on
  | _ => True

/-- One act of a session. -/
theorem conserved_act {env : Env} {a : Act} {d d' : Device} (h : Session d) (ha : a.KeepsMode)
    (hd : d.act env a = .ok d') : Session d' ∧ Conserved d d' (a.offers d) := by
  have same : ∀ {d'}, DevInv d' → SessionKept d d' → Session d' ∧ Conserved d d' [] := by
    intro d' hv k
    exact ⟨⟨hv, k.mode.trans h.mode, by rw [k.callback]; exact h.callback⟩, .of_same k.queue k.drops k.writes⟩
  cases a with
  | command c =>
    cases c with
    | setup s =>
      obtain rfl := act_setup hd
      exact same (devInv_apply h.inv s.decode) (sessionKept_apply ha d)
    | data c =>
      have hs : snifferData c d = .ok d' := (if_pos h.mode).symm.trans hd
      exact same (h.inv.of_kept (kept_snifferData hs)) (sessionKept_snifferData hs)
  | scan start stop data =>
    cases hd
    exact same (h.inv.of_kept (kept_fwScan env start stop data d)) (sessionKept_fwScan env start stop data d)
  | poll =>
    have hv := h.inv.of_kept (kept_pollSniffer hd)
    have hd : pollSniffer d = .ok d' := hd
    cases hq : d.snifferQueue with
    | nil =>
      unfold pollSniffer at hd
      rw [hq] at hd
      cases hd
      exact ⟨h, .of_same rfl rfl rfl⟩
    | cons p rest =>
      obtain ⟨b, hp⟩ := pollSniffer_cons hq
      rw [hp] at hd
      cases hd
      refine ⟨⟨hv, h.mode, h.callback⟩, [p], ?_, ?_, (UInt32.add_zero _).symm⟩
      · show d.inWrites ++ recordWrites p = _
        rw [List.flatMap_singleton]
      · show ([p] ++ rest).map recordOf = _
        rw [hq]
        exact (List.append_nil _).symm
  | receive r =>
    have hactive : d.esb.snifferActive = true := h.inv.sniffer.trans h.mode
    simp only [Device.act, hactive, if_true] at hd
    cases hd
    refine ⟨⟨h.inv.of_kept (kept_radioIsrSniffer r d), (kept_radioIsrSniffer r d).snifferMode.trans h.mode, ?_⟩,
      conserved_receive h r⟩
    rw [log_radioIsrSniffer]
    exact h.callback

theorem conserved_run {env : Env} : ∀ {as : List Act} {d d' : Device}, Session d → (∀ a ∈ as, a.KeepsMode) →
    d.run env as = .ok d' → Conserved d d' (d.offered env as)
  | [], d, d', _, _, hr => by
    cases hr
    exact .of_same rfl rfl rfl
  | a :: as, d, d', h, ha, hr => by
    unfold Device.run at hr
    cases h₁ : d.act env a with
    | error f => rw [h₁] at hr; cases hr
    | ok d₁ =>
      rw [h₁] at hr
      obtain ⟨hs, hc⟩ := conserved_act h (ha a List.mem_cons_self) h₁
      have hrest := conserved_run hs (fun x hx => ha x (List.mem_cons_of_mem a hx)) hr
      rw [Device.offered, h₁]
      exact hc.trans hrest

/-- Entering sniffer mode from normal mode: the queue is empty and the counter 0. -/
theorem session_start {d : Device} (hv : DevInv d) (hoff : d.state.snifferMode = false) :
    Session ((Request.sniffer true).apply d) := by
  refine ⟨devInv_apply hv (.sniffer true), rfl, ?_⟩
  have ha : d.esb.snifferActive = false := hv.sniffer.trans hoff
  show (esbSnifferStart .snifferRxCallback d.esb).snifferCallback.isSome = true
  unfold esbSnifferStart
  rw [if_neg (by rw [ha, hv.isInit]; decide)]
  rfl

/-- From the handling of a `SET_RADIO_MODE 1` in normal mode to the next `SET_RADIO_MODE`: what was
given to `usb_write`, followed by the queue, is every reception with valid CRC that found room, in
order, and the drop counter counts the others. -/
theorem sniffer_conserved {env : Env} {as₀ as : List Act} {d₀ d : Device} {s : SetupCommand}
    (hr : boot.run env as₀ = .ok d₀) (hoff : d₀.state.snifferMode = false) (hs : s.decode = .sniffer true)
    (has : ∀ a ∈ as, a.KeepsMode) (h : (handleVendorCommand s d₀).run env as = .ok d) :
    ∃ handed : List EsbSnifferPacket, d.inWrites = d₀.inWrites ++ handed.flatMap recordWrites ∧
      (handed ++ d.snifferQueue).map recordOf = admitted ((handleVendorCommand s d₀).offered env as) ∧
      d.snifferDropCount = UInt32.ofNat (refused ((handleVendorCommand s d₀).offered env as)) := by
  rw [handleVendorCommand_decode, hs] at h ⊢
  obtain ⟨handed, hw, hq, hc⟩ := conserved_run (session_start (settled_run hr).2 hoff) has h
  exact ⟨handed, hw, hq, hc.trans (UInt32.zero_add _)⟩

/-- A reception of two bytes. -/
def shortReception : Reception :=
  { frame := { length := 2, s1 := 0, payload := Buf.fill 63 7, length_le := by decide }
    crcOk := true, rssi := 40, rxmatch := 1, timestamp := 1000 }

/-- A session with one reception, handed to the host. -/
theorem sniffer_conserved_short : ∃ d,
    (handleVendorCommand { setupPacket := hostRequest setRadioMode 1 } boot).run (fun _ => .silent)
      [.receive shortReception, .poll] = .ok d ∧
    ∃ handed : List EsbSnifferPacket, d.inWrites = boot.inWrites ++ handed.flatMap recordWrites ∧
      (handed ++ d.snifferQueue).map recordOf =
        admitted ((handleVendorCommand { setupPacket := hostRequest setRadioMode 1 } boot).offered (fun _ => .silent)
          [.receive shortReception, .poll]) ∧
      d.snifferDropCount =
        UInt32.ofNat (refused ((handleVendorCommand { setupPacket := hostRequest setRadioMode 1 } boot).offered
          (fun _ => .silent) [.receive shortReception, .poll])) :=
  ⟨_, rfl, sniffer_conserved (show boot.run (fun _ => .silent) [] = .ok boot from rfl) rfl rfl (fun a ha => by
    rcases List.mem_cons.mp ha with rfl | ha
    · trivial
    · rw [List.mem_singleton.mp ha]; trivial) rfl⟩

end Crazyradio.Usb
