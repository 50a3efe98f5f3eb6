/-
Nothing is to go on the air with settings the radio does not support. The send guard of `usb_thread`
is in front of one call of the driver only; which acts put packets on the air all the same, and a
packet of an earlier send that the carrier's TXEN starts.
-/
import Crazyradio.Usb.Modes

namespace Crazyradio.Usb

open Bytes

/-! ## What an act puts on the air -/

/-- The packets on the air so far. -/
def Device.onAir (hw : Standings) (d : Device) : List Transmission := transmissions (effective hw d.esb.log)

theorem onAir_eq (hw : Standings) {d d' : Device} {l : List RadioEvent} (h : d'.esb.log = d.esb.log ++ l) :
    d'.onAir hw = d.onAir hw ++ transmissions (effective (hw.skip (txens d.esb.log)) l) := by
  unfold Device.onAir
  rw [h, effective_append, transmissions_append]

/-- An act triggers no TXEN of the carrier, or is the request for it. -/
theorem carrierFree_act {env : Env} {d d' : Device} {a : Act} (hd : d.act env a = .ok d') :
    CarrierFree d.esb d'.esb ∨
      a.startsCarrier ∧ d'.esb.log = d.esb.log ++ if d.esb.carrierStarts then [.carrier] else [] := by
  by_cases hc : ∃ s enable, a = .command (.setup s) ∧ s.decode = .carrier enable
  · obtain ⟨s, enable, rfl, hs⟩ := hc
    obtain rfl := act_setup hd
    cases enable with
    | true =>
      refine .inr ⟨hs, ?_⟩
      rw [hs]
      exact log_setContinuousCarrier d.esb
    | false =>
      rw [hs]
      exact .inl (carrierFree_apply (c := .setContinuousCarrier false) (fun he => nomatch he) d.esb)
  · exact .inl (unswitched_act hd fun s enable ha hs => hc ⟨s, enable, ha, hs⟩).free

/-- The carrier's TXEN finds no READY→START left on by an abandoned send. -/
def Act.FindsNothing (hw : Standings) (d : Device) (a : Act) : Prop :=
  a.startsCarrier → d.esb.carrierStarts = true → ∀ left, hw (txens d.esb.log) ≠ .armed left

/-- What an act puts on the air is among what it sends, unless it starts what is left behind. -/
theorem onAir_act {env : Env} {hw : Standings} {d d' : Device} {a : Act} (hd : d.act env a = .ok d')
    (hf : a.FindsNothing hw d) : ∃ ts, d'.onAir hw = d.onAir hw ++ ts ∧
      ts.Sublist ((transmissions d'.esb.log).drop (transmissions d.esb.log).length) := by
  rcases carrierFree_act hd with ⟨l, hl, hc⟩ | ⟨ha, hl⟩
  · refine ⟨_, onAir_eq hw hl, ?_⟩
    rw [hl, transmissions_append, List.drop_left]
    exact sublist_effective _ hc
  · refine ⟨[], ?_, List.nil_sublist _⟩
    rw [onAir_eq hw hl]
    cases hstart : d.esb.carrierStarts with
    | false => rfl
    | true =>
      have hobeys : Obeyed (hw.skip (txens d.esb.log)) [.carrier] := ⟨obeys_carrier (hf ha hstart), trivial⟩
      rw [if_pos rfl, transmissions_obeyed hobeys]
      rfl

/-- So an act that sends nothing puts nothing on the air. -/
theorem onAir_silent {env : Env} {hw : Standings} {d d' : Device} {a : Act} (hd : d.act env a = .ok d')
    (hs : transmissions d'.esb.log = transmissions d.esb.log) (hf : a.FindsNothing hw d) :
    d'.onAir hw = d.onAir hw := by
  obtain ⟨ts, hair, hsub⟩ := onAir_act hd hf
  rw [hs, List.drop_length, List.sublist_nil] at hsub
  rw [hair, hsub, List.append_nil]

/-- A radio that obeys every send: what is on the air is what is sent. -/
theorem sends_onAir {env : Env} {hw : Standings} (hb : ∀ n, hw n ≠ .busy) {d d' : Device} {a : Act}
    (hd : d.act env a = .ok d') (h : d'.onAir hw = d.onAir hw) :
    transmissions d'.esb.log = transmissions d.esb.log ∧ a.FindsNothing hw d := by
  rcases carrierFree_act hd with ⟨l, hl, hc⟩ | ⟨ha, hl⟩
  · have hobeyed : Obeyed (hw.skip (txens d.esb.log)) l := obeyed_of_sends (fun n => hb _) hc
    rw [onAir_eq hw hl, List.append_right_eq_self, transmissions_obeyed hobeyed] at h
    refine ⟨by rw [hl, transmissions_append, h, List.append_nil], fun ha hstart => ?_⟩
    -- the request switches the carrier on, so its TXEN is in the log
    match a with
    | .command (.setup s) =>
      obtain rfl := act_setup hd
      rw [show s.decode = .carrier true from ha] at hl
      have hon : l = [.carrier] := by
        have hlog := (log_setContinuousCarrier d.esb).symm.trans hl
        rw [hstart, if_pos rfl] at hlog
        exact (List.append_cancel_left hlog).symm
      exact absurd (hon ▸ List.mem_cons_self) hc
  · refine ⟨?_, fun _ hstart left hleft => ?_⟩
    · rw [hl, transmissions_append]
      split <;> exact List.append_nil _
    · rw [onAir_eq hw hl, hstart, if_pos rfl, List.append_right_eq_self] at h
      have hs : effective (hw.skip (txens d.esb.log)) [.carrier] = RadioEvent.effect (hw (txens d.esb.log)) .carrier :=
        List.append_nil _
      rw [hs, hleft] at h
      exact absurd (congrArg List.length h) (Nat.succ_ne_zero 0)

theorem onAir_sent {env : Env} {hw : Standings} (hb : ∀ n, hw n ≠ .busy) {d d' : Device} {a : Act}
    (hd : d.act env a = .ok d') (ha : ¬a.startsCarrier) {ts : List Transmission}
    (h : transmissions d'.esb.log = transmissions d.esb.log ++ ts) : d'.onAir hw = d.onAir hw ++ ts := by
  rcases carrierFree_act hd with ⟨l, hl, hc⟩ | ⟨hcarrier, -⟩
  · have hobeyed : Obeyed (hw.skip (txens d.esb.log)) l := obeyed_of_sends (fun n => hb _) hc
    rw [hl, transmissions_append] at h
    rw [onAir_eq hw hl, transmissions_obeyed hobeyed, List.append_cancel_left h]
  · exact absurd hcarrier ha

/-! ## Unsupported settings -/

/-- The host selected 250K or a channel above 100, and the act is not one that selects settings the
radio supports; a scan chooses its channels itself. -/
def Act.MustBeSilent (v : HostView) : Act → Prop
  | .command c => ¬v.supported ∧ ¬(v.after (.command c)).supported
  | .scan .. => v.datarate = 0
  | _ => ¬v.supported

/-- No unguarded path is taken: not the first half of a broadcast, a sniffer-mode send or a scan,
and not the send guard with a channel that is one up to 100 modulo 256; or the packet is lost
before the driver sends it. And the carrier is not switched on where the 200 ms path left a packet. -/
def Act.Guarded (hw : Standings) (env : Env) (v : HostView) (d : Device) : Act → Prop
  | .command (.setup s) =>
    s.decode = .carrier true → d.esb.carrierStarts = true → ∀ left, hw (txens d.esb.log) ≠ .armed left
  | .command (.data c) =>
    if v.sniffer then c.length < 6
    else if v.format ≠ .plain then True
    else if v.ackEnabled = false ∧ 32 < c.length then
      ¬d.passes env 0 ∧ (v.passesGuard → ¬d.passes env 1)
    else v.passesGuard → ¬d.passes env 0
  | .scan start stop _ => ∀ i < stop.toNat + 1 - start.toNat, ¬d.passes env i
  | .poll => True
  | .receive _ => True

/-- With unsupported settings selected, these are the acts that send nothing. -/
theorem guarded_iff {hw : Standings} {env : Env} {v : HostView} {d : Device} {a : Act} (hu : a.MustBeSilent v) :
    a.Guarded hw env v d ↔ ¬a.emits env v d ∧ a.FindsNothing hw d := by
  cases a with
  | command c =>
    cases c with
    | setup s => exact (and_iff_right id).symm
    | data c =>
      rw [and_iff_left (show (Act.command (.data c)).FindsNothing hw d from fun hf => absurd hf id)]
      simp only [Act.emits, Act.Guarded, dataEmits]
      by_cases hs : v.sniffer = true
      · rw [if_pos hs, if_pos hs]; exact Nat.not_le.symm
      rw [if_neg hs, if_neg hs]
      have hi : v.inline = true ↔ v.format ≠ .plain := by
        unfold HostView.inline; rw [eq_false_of_ne_true hs]; simp
      by_cases hf : v.format ≠ .plain
      · -- an inline header that passes the guard selects supported settings: its channel is a byte
        rw [if_pos (hi.mpr hf), if_pos hf]
        refine iff_of_true trivial (fun hp => hu.2 ?_)
        have hn : v.after (.command (.data c)) = (inlineModeOutHeader c.payload).select v := if_pos (hi.mpr hf)
        rw [hn] at hp ⊢
        refine ⟨hp.1.1, UInt16.le_iff_toNat_le.mpr ?_⟩
        have := hp.1.2
        simpa [InlineModeOutHeader.select] using this
      · rw [if_neg (mt hi.mp hf), if_neg hf]
        split
        · rw [not_or, not_and]
        · rw [not_and]
  | scan start stop data =>
    rw [and_iff_left (show (Act.scan start stop data).FindsNothing hw d from fun hf => absurd hf id)]
    simp only [Act.emits, Act.Guarded, not_exists, not_and]
  | poll => exact iff_of_true trivial ⟨id, fun hf => absurd hf id⟩
  | receive r => exact iff_of_true trivial ⟨id, fun hf => absurd hf id⟩

/-- The run behind the two theorems below: auto-ack off, then 250K. -/
def broadcastAt250K : List Act :=
  [.command (.setup { setupPacket := hostRequest ackEnable 0 }),
    .command (.setup { setupPacket := hostRequest setDataRate 0 })]

end Crazyradio.Usb
