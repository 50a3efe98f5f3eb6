/-
What becomes of the radio's tasks. The log has the tasks as the driver triggers them, but TXEN is
obeyed only by a radio that is off, and the 200 ms path of `esb_send_packet` leaves READY→START and
END→DISABLE on, so that the next TXEN of the carrier sends the packet it finds, and may leave on PPI
channel 22, by which COMPARE1 switches the carrier off again. How the radio stands at each TXEN is an
input here; `Crazyradio.Driver` has the radio itself.
-/
import Crazyradio.Esb.Pid

namespace Crazyradio

/-! ## Standings -/

/-- The radio when TXEN is triggered. It is `idle` unless there was a 200 ms path before, the carrier was
switched off a moment ago, or a call took the end of another one for its own. -/
inductive Standing
  /-- Off, with the shorts of `esb_init` and PPI channel 22 off. -/
  | idle
  /-- Off, with the shorts of an abandoned send; START finds what the packet pointer was left at. -/
  | armed (left : Transmission)
  /-- Off, with the shorts of `esb_init` but PPI channel 22 on. -/
  | timed
  /-- Not off, or switched off again before it comes up. -/
  | busy

/-- The standing at each TXEN of a log, in order. -/
abbrev Standings : Type := Nat → Standing

/-- The tasks that need a radio that is off. -/
def RadioEvent.isTxen : RadioEvent → Bool
  | .transmit _ | .carrier => true
  | _ => false

/-- The number of TXEN tasks. -/
def txens (log : List RadioEvent) : Nat := log.countP RadioEvent.isTxen

@[simp] theorem txens_append (a b : List RadioEvent) : txens (a ++ b) = txens a + txens b := List.countP_append

/-- The standings from the `n`-th TXEN on. -/
def Standings.skip (hw : Standings) (n : Nat) : Standings := fun k => hw (n + k)

theorem Standings.skip_zero (hw : Standings) : hw.skip 0 = hw := funext fun k => congrArg hw (Nat.zero_add k)

theorem Standings.skip_skip (hw : Standings) (m n : Nat) : (hw.skip m).skip n = hw.skip (m + n) :=
  funext fun k => congrArg hw (Nat.add_assoc m n k).symm

/-- What becomes of a task. A send sets its shorts and its packet itself, so it is sent as long as the
radio is off and comes up; the carrier is lost behind the packet that the shorts start, or to COMPARE1. -/
def RadioEvent.effect : Standing → RadioEvent → List RadioEvent
  | .busy, .transmit _ | .busy, .carrier => []
  | .armed left, .carrier => [.carrier, .transmit left, .disable]
  | .timed, .carrier => [.carrier, .disable]
  | _, ev => [ev]

/-- What becomes of the log. -/
def effective : Standings → List RadioEvent → List RadioEvent
  | _, [] => []
  | hw, ev :: log => ev.effect (hw 0) ++ effective (hw.skip (txens [ev])) log

theorem effective_append (hw : Standings) (log log' : List RadioEvent) :
    effective hw (log ++ log') = effective hw log ++ effective (hw.skip (txens log)) log' := by
  induction log generalizing hw with
  | nil => rw [List.nil_append, show txens [] = 0 from rfl, hw.skip_zero]; rfl
  | cons ev log ih =>
    have hn : txens (ev :: log) = txens [ev] + txens log := txens_append [ev] log
    rw [List.cons_append, effective, effective, ih, hw.skip_skip, hn, List.append_assoc]

theorem effect_of_not_txen {ev : RadioEvent} (h : ev.isTxen = false) (s : Standing) : ev.effect s = [ev] := by
  cases ev with
  | transmit t => exact absurd h.symm Bool.false_ne_true
  | carrier => exact absurd h.symm Bool.false_ne_true
  | _ => cases s <;> rfl

/-- Without TXEN every task takes effect. -/
theorem effective_quiet {log : List RadioEvent} (h : txens log = 0) (hw : Standings) : effective hw log = log := by
  induction log generalizing hw with
  | nil => rfl
  | cons ev log ih =>
    have hn : txens [ev] + txens log = 0 := (txens_append [ev] log).symm.trans h
    have hev : ev.isTxen = false := by
      by_contra hev
      rw [Bool.not_eq_false] at hev
      have h1 : txens [ev] = 1 := by simp [txens, hev]
      omega
    rw [effective, effect_of_not_txen hev, ih (by omega)]
    rfl

/-! ## Tasks that do what they are triggered for -/

/-- A send finds the radio off, and the carrier finds no packet left behind. -/
def Standing.Obeys : Standing → RadioEvent → Prop
  | .busy, .transmit _ => False
  | .armed _, .carrier => False
  | _, _ => True

theorem obeys_of_not_busy {s : Standing} {ev : RadioEvent} (hs : s ≠ .busy) (hc : ev ≠ .carrier) : s.Obeys ev := by
  cases ev with
  | transmit t =>
    cases s with
    | busy => exact absurd rfl hs
    | _ => trivial
  | carrier => exact absurd rfl hc
  | _ => cases s <;> trivial

theorem obeys_carrier {s : Standing} (h : ∀ left, s ≠ .armed left) : s.Obeys .carrier := by
  cases s with
  | armed left => exact absurd rfl (h left)
  | _ => trivial

/-- The same of all tasks of a log. -/
def Obeyed : Standings → List RadioEvent → Prop
  | _, [] => True
  | hw, ev :: log => (hw 0).Obeys ev ∧ Obeyed (hw.skip (txens [ev])) log

theorem obeyed_append (hw : Standings) (log log' : List RadioEvent) :
    Obeyed hw (log ++ log') ↔ Obeyed hw log ∧ Obeyed (hw.skip (txens log)) log' := by
  induction log generalizing hw with
  | nil =>
    rw [List.nil_append, show txens [] = 0 from rfl, hw.skip_zero]
    exact (and_iff_right trivial).symm
  | cons ev log ih =>
    have hn : txens (ev :: log) = txens [ev] + txens log := txens_append [ev] log
    rw [List.cons_append, Obeyed, Obeyed, ih, hw.skip_skip, hn, and_assoc]

theorem transmissions_effect {s : Standing} {ev : RadioEvent} (h : s.Obeys ev) :
    transmissions (ev.effect s) = transmissions [ev] := by
  cases ev with
  | transmit t =>
    cases s with
    | busy => exact h.elim
    | _ => rfl
  | carrier =>
    cases s with
    | armed left => exact h.elim
    | _ => rfl
  | _ => rw [effect_of_not_txen rfl]

/-- Then the packets of the log are the packets on the air. -/
theorem transmissions_obeyed {hw : Standings} {log : List RadioEvent} (h : Obeyed hw log) :
    transmissions (effective hw log) = transmissions log := by
  induction log generalizing hw with
  | nil => rfl
  | cons ev log ih =>
    rw [effective, transmissions_append, transmissions_effect h.1, ih h.2, ← transmissions_append]
    rfl

theorem obeyed_idle (log : List RadioEvent) : Obeyed (fun _ => .idle) log := by
  induction log with
  | nil => trivial
  | cons ev log ih => exact ⟨trivial, ih⟩

/-- Without the carrier nothing goes on the air that no send put there. -/
theorem sublist_effective (hw : Standings) {log : List RadioEvent} (h : .carrier ∉ log) :
    (transmissions (effective hw log)).Sublist (transmissions log) := by
  induction log generalizing hw with
  | nil => exact List.Sublist.refl _
  | cons ev log ih =>
    have hone : (transmissions (ev.effect (hw 0))).Sublist (transmissions [ev]) := by
      cases ev with
      | transmit t => cases hw 0 with
        | busy => exact List.nil_sublist _
        | _ => exact List.Sublist.refl _
      | carrier => exact absurd List.mem_cons_self h
      | _ => rw [effect_of_not_txen rfl]
    have hrest := ih (hw.skip (txens [ev])) fun hm => h (List.mem_cons_of_mem ev hm)
    rw [effective, transmissions_append, show transmissions (ev :: log) = transmissions [ev] ++ transmissions log
      from transmissions_append [ev] log]
    exact hone.append hrest

/-- Sends that all find the radio off are obeyed. -/
theorem obeyed_of_sends {hw : Standings} (hb : ∀ n, hw n ≠ .busy) {log : List RadioEvent} (h : .carrier ∉ log) :
    Obeyed hw log := by
  induction log generalizing hw with
  | nil => trivial
  | cons ev log ih =>
    refine ⟨obeys_of_not_busy (hb 0) ?_, ih (fun n => hb _) fun hm => h (List.mem_cons_of_mem ev hm)⟩
    rintro rfl
    exact h List.mem_cons_self

/-! ## Calls without the carrier's TXEN -/

/-- The log grows, and the carrier is not switched on. -/
def CarrierFree (e e' : Esb) : Prop := ∃ l, e'.log = e.log ++ l ∧ RadioEvent.carrier ∉ l

theorem CarrierFree.refl (e : Esb) : CarrierFree e e := ⟨[], (List.append_nil _).symm, List.not_mem_nil⟩

theorem CarrierFree.trans {a b c : Esb} (h : CarrierFree a b) (h' : CarrierFree b c) : CarrierFree a c := by
  obtain ⟨l, hl, hn⟩ := h
  obtain ⟨l', hl', hn'⟩ := h'
  refine ⟨l ++ l', by rw [hl', hl, List.append_assoc], fun hm => ?_⟩
  exact (List.mem_append.mp hm).elim hn hn'

/-- Only `esb_set_continuous_carrier` triggers that task. -/
theorem carrierFree_apply {c : EsbCall} (h : c ≠ .setContinuousCarrier true) (e : Esb) : CarrierFree e (c.apply e) := by
  cases c with
  | sendPacket x b =>
    cases hs : e.sends x.packetDraw with
    | false =>
      simp only [EsbCall.apply, esbSendPacket_exit hs]
      exact .refl e
    | true =>
      refine ⟨x.onAir b e, by simp only [EsbCall.apply, esbSendPacket_esb hs], fun hm => ?_⟩
      unfold Exchange.onAir at hm
      rcases List.mem_append.mp hm with hm | hm
      · cases List.eq_of_mem_replicate hm
      · split at hm
        · cases List.mem_singleton.mp hm
        · cases hm
  | snifferSend packet address =>
    cases ha : e.snifferActive with
    | false =>
      simp only [EsbCall.apply, esbSnifferSend_inactive ha]
      exact .refl e
    | true =>
      simp only [EsbCall.apply, esbSnifferSend, ha, setPipe0AddressNolock_eq, nrfRadioTxaddressSet, transmit,
        Esb.record, List.append_assoc, Bool.not_true, Bool.false_eq_true, if_false]
      exact ⟨_, rfl, by simp⟩
  | setChannel channel =>
    simp only [EsbCall.apply, esbSetChannel]
    split
    · exact ⟨[_], rfl, by simp⟩
    · exact .refl e
  | setBitrate bitrate =>
    simp only [EsbCall.apply, esbSetBitrate]
    split
    · exact ⟨[_], rfl, by simp⟩
    split
    · exact ⟨[_], rfl, by simp⟩
    · exact .refl e
  | setAddress a => exact ⟨[_, _], List.append_assoc _ _ _, by simp⟩
  | setAddressPipe1 a => exact ⟨[_, _], List.append_assoc _ _ _, by simp⟩
  | setContinuousCarrier enable =>
    cases enable with
    | true => exact absurd rfl h
    | false =>
      simp only [EsbCall.apply, esbSetContinuousCarrier]
      split
      · exact .refl e
      split
      · exact .refl e
      split
      · exact .refl e
      · exact ⟨[.disable], rfl, by simp⟩
  | snifferStart cb =>
    simp only [EsbCall.apply, esbSnifferStart]
    split
    · exact .refl e
    · exact ⟨[_, _, _],
        by simp only [nrfRadioPacketConfigure, nrfRadioRxaddressesSet, Esb.record, List.append_assoc]; rfl, by simp⟩
  | snifferStop =>
    simp only [EsbCall.apply, esbSnifferStop]
    split
    · exact .refl e
    · exact ⟨[_, _, _],
        by simp only [nrfRadioPacketConfigure, nrfRadioRxaddressesSet, Esb.record, List.append_assoc]; rfl, by simp⟩
  | setArc value => exact .refl e
  | setAckEnabled enabled => exact .refl e
  | setPacketLossSimulation packetLoss ackLoss => exact .refl e

/-- `SET_CONT_CARRIER 1` would switch the carrier on. -/
def Esb.carrierStarts (e : Esb) : Bool := e.isInit && !e.snifferActive && !e.continuousCarrierEnabled

/-- Switching the carrier on is one TXEN. -/
theorem log_setContinuousCarrier (e : Esb) : (esbSetContinuousCarrier true e).2.log =
    e.log ++ if e.carrierStarts then [.carrier] else [] := by
  unfold esbSetContinuousCarrier Esb.carrierStarts
  cases e.isInit <;> cases e.snifferActive <;> cases e.continuousCarrierEnabled <;>
    simp [Esb.record]

/-! ## Messages on the air -/

/-- The packets that go on the air in a call. -/
def EsbCall.started (hw : Standings) (c : EsbCall) (e : Esb) : List Transmission :=
  (transmissions (effective hw (c.apply e).log)).drop (transmissions (effective hw e.log)).length

/-- The messages that go on the air: what each call starts, if it starts anything. -/
def startedMessages (hw : Standings) : List EsbCall → Esb → List (List Transmission)
  | [], _ => []
  | c :: calls, e =>
    if (c.started hw e).isEmpty then startedMessages hw calls (c.apply e)
    else c.started hw e :: startedMessages hw calls (c.apply e)

theorem startedMessages_cons (hw : Standings) (c : EsbCall) (calls : List EsbCall) (e : Esb) :
    startedMessages hw (c :: calls) e =
      if (c.started hw e).isEmpty then startedMessages hw calls (c.apply e)
      else c.started hw e :: startedMessages hw calls (c.apply e) := rfl

/-- The packets on the air are messages that are numbered one after the other. A call that is refused or
dropped starts nothing and takes no number, and a receiver that discards packets with the PID of the
previous one accepts the first packet of a message behind the message before it. -/
structure PidLaw (hw : Standings) (e : Esb) (calls : List EsbCall) : Prop where
  onAir : transmissions (effective hw (e.after calls).log) =
    transmissions (effective hw e.log) ++ (startedMessages hw calls e).flatten
  numbered : ∀ j m, (startedMessages hw calls e)[j]? = some m → Numbered (j % 4) m
  kept : ∀ pre c post, calls = pre ++ c :: post → c.starts (e.after pre) = false →
    c.started hw (e.after pre) = [] ∧ (c.apply (e.after pre)).pid = (e.after pre).pid
  accepted : ∀ j m m', (startedMessages hw calls e)[j]? = some m → (startedMessages hw calls e)[j + 1]? = some m' →
    ∀ t ∈ m, ∀ t' ∈ m', pidOf t'.s1 ≠ pidOf t.s1

/-- The log behind calls goes on from the log before them. -/
theorem log_after (calls : List EsbCall) (e : Esb) : ∃ l, (e.after calls).log = e.log ++ l := by
  induction calls generalizing e with
  | nil => exact ⟨[], (List.append_nil _).symm⟩
  | cons c calls ih =>
    obtain ⟨l, hl⟩ := log_apply c e
    obtain ⟨l', hl'⟩ := ih (c.apply e)
    exact ⟨l ++ l', by rw [Esb.after_cons, hl', hl, List.append_assoc]⟩

/-- A call whose tasks are all obeyed starts the packets it triggers. -/
theorem started_eq_sent {hw : Standings} {c : EsbCall} {e : Esb} (h : Obeyed hw (c.apply e).log) :
    c.started hw e = c.sent e := by
  obtain ⟨l, hl⟩ := log_apply c e
  have he : Obeyed hw e.log := by
    rw [hl] at h
    exact ((obeyed_append hw e.log l).mp h).1
  unfold EsbCall.started EsbCall.sent
  rw [transmissions_obeyed h, transmissions_obeyed he]

theorem startedMessages_obeyed {hw : Standings} (calls : List EsbCall) : ∀ {e : Esb},
    Obeyed hw (e.after calls).log → startedMessages hw calls e = messages calls e := by
  induction calls with
  | nil => exact fun _ => rfl
  | cons c calls ih =>
    intro e h
    have hc : Obeyed hw (c.apply e).log := by
      obtain ⟨l, hl⟩ := log_after calls (c.apply e)
      rw [Esb.after_cons, hl] at h
      exact ((obeyed_append hw _ l).mp h).1
    rw [startedMessages_cons, messages_cons, started_eq_sent hc, ih h]
    cases hs : c.starts e with
    | false =>
      rw [(silent hs).sent]
      rfl
    | true =>
      rw [if_pos rfl, if_neg]
      exact fun hn => (started hs).nonempty (List.isEmpty_iff.mp hn)

/-- Where every task does what it is triggered for, the messages are numbered. -/
theorem pidLaw_of_obeyed {hw : Standings} {e : Esb} {calls : List EsbCall} (h0 : e.pid = 0)
    (h : Obeyed hw (e.after calls).log) : PidLaw hw e calls := by
  have he : Obeyed hw e.log := by
    obtain ⟨l, hl⟩ := log_after calls e
    rw [hl] at h
    exact ((obeyed_append hw _ l).mp h).1
  have hnum : ∀ j m, (messages calls e)[j]? = some m → Numbered (j % 4) m := by
    intro j m hm
    have hj := messages_numbered calls e j m hm
    rw [h0] at hj
    rwa [show ((0 : UInt8).toNat + j) % 4 = j % 4 by simp] at hj
  constructor
  · rw [transmissions_obeyed h, transmissions_obeyed he, startedMessages_obeyed calls h]
    exact transmissions_after calls e
  · rw [startedMessages_obeyed calls h]
    exact hnum
  · rintro pre c post rfl hc
    have hpre : Obeyed hw (c.apply (e.after pre)).log := by
      obtain ⟨l, hl⟩ := log_after post (c.apply (e.after pre))
      rw [e.after_append, Esb.after_cons, hl] at h
      exact ((obeyed_append hw _ l).mp h).1
    exact ⟨(started_eq_sent hpre).trans (silent hc).sent, (silent hc).pid⟩
  · rw [startedMessages_obeyed calls h]
    rintro j m m' hm hm' t ht t' ht' heq
    obtain ⟨-, s1, hp, hs⟩ := hnum j m hm
    obtain ⟨-, s1', hp', hs'⟩ := hnum (j + 1) m' hm'
    rw [hs t ht, hs' t' ht'] at heq
    rw [heq, hp] at hp'
    omega

end Crazyradio
