/-
Whose completion an attempt takes. Between attempts the radio is off, its interrupt masked and
`radioXferDone` 0; an attempt then goes through its transmission, its receive window and the give
of the handler, and ends as it began. The 200 ms path leaves shorts and interrupt armed, so only
runs without it keep to this.
-/
import Crazyradio.Driver.Hardware

namespace Crazyradio.Driver

open Bytes Threads

/-! ## Own completions -/

/-- An attempt starts with `radioXferDone` at 0 and takes what was given for it. -/
def TraceEvent.Own : TraceEvent → Prop
  | .txen sem => sem = 0
  | .taken attempt cause => cause = attempt
  | _ => True

def OwnSoFar (m : Machine) : Prop := ∀ e ∈ m.trace, e.Own

/-- Some call has ended through the 200 ms path, and up to there completions were taken by their
own attempts. -/
def Stuck (m : Machine) : Prop :=
  ∃ pre post, m.trace = pre ++ .stuck :: post ∧ ∀ e ∈ pre, e.Own

/-- The safety property of the whole run. -/
def Traced (m : Machine) : Prop := OwnSoFar m ∨ Stuck m

theorem OwnSoFar.append {m m' : Machine} (h : OwnSoFar m) {es : List TraceEvent} (ht : m'.trace = m.trace ++ es)
    (he : ∀ e ∈ es, e.Own) : OwnSoFar m' := by
  intro e hm
  rw [ht] at hm
  exact (List.mem_append.mp hm).elim (h e) (he e)

theorem OwnSoFar.frame {m m' : Machine} (h : OwnSoFar m) (hf : Frame m m') : OwnSoFar m' := by
  intro e he
  rw [hf.trace] at he
  exact h e he

theorem Stuck.append {m m' : Machine} (h : Stuck m) {es : List TraceEvent} (ht : m'.trace = m.trace ++ es) :
    Stuck m' := by
  obtain ⟨pre, post, hm, hp⟩ := h
  exact ⟨pre, post ++ es, by rw [ht, hm, List.append_assoc, List.cons_append], hp⟩

/-- In a traced run an event is the attempt's own unless a call before it ended through the 200 ms
path. -/
theorem Traced.own {m : Machine} (h : Traced m) {pre post : List TraceEvent} {e : TraceEvent}
    (ht : m.trace = pre ++ e :: post) (hs : .stuck ∉ pre) : e.Own := by
  rcases h with h | ⟨pre', post', ht', hp⟩
  · exact h e (by rw [ht]; exact List.mem_append_right _ List.mem_cons_self)
  · rcases List.append_eq_append_iff.mp (ht'.symm.trans ht) with ⟨as, hpre, has⟩ | ⟨bs, hpre, hbs⟩
    · -- the event is the stuck one, or behind it
      cases as with
      | nil => cases has; trivial
      | cons a as =>
        cases has
        exact absurd (by rw [hpre]; exact List.mem_append_right _ List.mem_cons_self) hs
    · cases bs with
      | nil => cases hbs; trivial
      | cons b bs =>
        cases hbs
        exact hp e (by rw [hpre]; exact List.mem_append_right _ List.mem_cons_self)

/-! ## Between attempts -/

/-- The radio is off and nothing is given. -/
structure Off (m : Machine) : Prop where
  own : OwnSoFar m
  sem : m.radioXferDone = 0
  radio : m.radio = .disabled
  ppi22 : m.ppi22 = false
  sniffer : m.esb.snifferActive = false

/-- Between attempts: the interrupt is masked. -/
structure Idle (m : Machine) : Prop extends Off m where
  masked : m.intDisabled = false
  rxen : m.shorts.disabledRxen = false

/-- The attempt is being set up: no event is latched. -/
structure Armed (m : Machine) : Prop extends Off m where
  clear : m.eventDisabled = false
  rxen : m.shorts.disabledRxen = true → m.esb.ackEnabled = true

/-- The attempt is set up. -/
structure Primed (m : Machine) : Prop extends Armed m where
  sending : m.sending = true

/-- The semaphore was taken. -/
structure Taken (m : Machine) : Prop extends Off m where
  clear : m.eventDisabled = false
  rxen : m.shorts.disabledRxen = false

theorem Off.hardware {m m' : Machine} (h : Off m) (hw : Hardware m m') : Off m' ∧ Quiet m m' := by
  obtain ⟨hf, hq | hr⟩ := hw
  · exact ⟨⟨h.own.frame hf, hf.radioXferDone.trans h.sem, hq.radio.mpr h.radio, hf.ppi22.trans h.ppi22,
      hf.snifferActive.trans h.sniffer⟩, hq⟩
  · -- the timer's channel is off, so nothing switches off a radio that is off
    have hp := hr.timer h.radio
    rw [h.ppi22] at hp
    cases hp

/-- Where the interrupt is masked or no event is latched, only the hardware moves. -/
theorem stable_of_hardware {A : Machine → Prop} (hm : ∀ m, A m → m.intDisabled = false ∨ m.eventDisabled = false)
    (hA : ∀ m m', A m → Hardware m m' → A m') : platform.Stable A := by
  intro e m m' he h
  by_cases hi : e = .isr
  · subst hi
    obtain ⟨hint, hev, -⟩ := event_isr he
    rcases hm m h with h' | h'
    · rw [hint] at h'; cases h'
    · rw [hev] at h'; cases h'
  · exact hA m m' h (event_hardware he hi)

theorem stable_idle : platform.Stable Idle := by
  refine stable_of_hardware (fun _ h => Or.inl h.masked) fun m m' h hw => ?_
  exact ⟨(h.toOff.hardware hw).1, hw.1.intDisabled.trans h.masked, by rw [hw.1.shorts]; exact h.rxen⟩

theorem Armed.hardware {m m' : Machine} (h : Armed m) (hw : Hardware m m') : Armed m' := by
  obtain ⟨ho, hq⟩ := h.toOff.hardware hw
  exact ⟨ho, hq.eventDisabled.trans h.clear, by rw [hw.1.shorts, hw.1.ackEnabled]; exact h.rxen⟩

theorem stable_armed : platform.Stable Armed :=
  stable_of_hardware (fun _ h => Or.inr h.clear) fun _ _ h hw => h.hardware hw

theorem stable_primed : platform.Stable Primed :=
  stable_of_hardware (fun _ h => Or.inr h.clear) fun _ _ h hw =>
    ⟨h.toArmed.hardware hw, hw.1.sending.trans h.sending⟩

theorem stable_taken : platform.Stable Taken := by
  refine stable_of_hardware (fun _ h => Or.inr h.clear) fun m m' h hw => ?_
  obtain ⟨ho, hq⟩ := h.toOff.hardware hw
  exact ⟨ho, hq.eventDisabled.trans h.clear, by rw [hw.1.shorts]; exact h.rxen⟩

/-! ## During an attempt -/

/-- The packet is on its way and the handler has not run. -/
structure Sending (m : Machine) : Prop where
  own : OwnSoFar m
  sem : m.radioXferDone = 0
  sending : m.sending = true
  ppi22 : m.ppi22 = false
  sniffer : m.esb.snifferActive = false
  activity : m.activity = m.attempt
  event : m.eventDisabled = true → m.eventCause = m.attempt
  /-- without auto-ack the radio is off once its event is there -/
  noAck : m.esb.ackEnabled = false → m.shorts.disabledRxen = false ∧ (m.eventDisabled = true → m.radio = .disabled)

/-- The receive window is open. -/
structure Listening (m : Machine) : Prop where
  own : OwnSoFar m
  sem : m.radioXferDone = 0
  sending : m.sending = false
  sniffer : m.esb.snifferActive = false
  rxen : m.shorts.disabledRxen = false
  activity : m.activity = m.attempt
  event : m.eventDisabled = true → m.eventCause = m.attempt ∧ m.radio = .disabled

/-- The handler gave the semaphore. -/
structure Given (m : Machine) : Prop where
  own : OwnSoFar m
  sem : m.radioXferDone = 1
  cause : m.giveCause = m.attempt
  clear : m.eventDisabled = false
  radio : m.radio = .disabled
  ppi22 : m.ppi22 = false
  rxen : m.shorts.disabledRxen = false
  sniffer : m.esb.snifferActive = false

def Busy (m : Machine) : Prop := Sending m ∨ Listening m ∨ Given m

theorem Sending.hardware {m m' : Machine} (h : Sending m) (hw : Hardware m m') : Sending m' := by
  obtain ⟨hf, hq⟩ := hw
  have ha : m'.activity = m'.attempt := by rw [hf.activity, hf.attempt]; exact h.activity
  refine ⟨h.own.frame hf, hf.radioXferDone.trans h.sem, hf.sending.trans h.sending, hf.ppi22.trans h.ppi22,
    hf.snifferActive.trans h.sniffer, ha, ?_, ?_⟩
  · rcases hq with hq | hr
    · rw [hq.eventDisabled, hq.eventCause, hf.attempt]
      exact h.event
    · intro _
      rw [hr.eventCause, hf.attempt]
      exact h.activity
  · rw [hf.ackEnabled, hf.shorts]
    intro hack
    obtain ⟨hs, hd⟩ := h.noAck hack
    refine ⟨hs, ?_⟩
    rcases hq with hq | hr
    · rw [hq.eventDisabled, hq.radio]
      exact hd
    · exact fun _ => hr.radio hs

theorem Listening.hardware {m m' : Machine} (h : Listening m) (hw : Hardware m m') : Listening m' := by
  obtain ⟨hf, hq⟩ := hw
  refine ⟨h.own.frame hf, hf.radioXferDone.trans h.sem, hf.sending.trans h.sending, hf.snifferActive.trans h.sniffer,
    by rw [hf.shorts]; exact h.rxen, by rw [hf.activity, hf.attempt]; exact h.activity, ?_⟩
  rcases hq with hq | hr
  · rw [hq.eventDisabled, hq.eventCause, hf.attempt, hq.radio]
    exact h.event
  · intro _
    exact ⟨by rw [hr.eventCause, hf.attempt]; exact h.activity, hr.radio h.rxen⟩

theorem Given.hardware {m m' : Machine} (h : Given m) (hw : Hardware m m') : Given m' := by
  obtain ⟨hf, hq | hr⟩ := hw
  · exact ⟨h.own.frame hf, hf.radioXferDone.trans h.sem, by rw [hf.giveCause, hf.attempt]; exact h.cause,
      hq.eventDisabled.trans h.clear, hq.radio.mpr h.radio, hf.ppi22.trans h.ppi22,
      by rw [hf.shorts]; exact h.rxen, hf.snifferActive.trans h.sniffer⟩
  · -- the timer's channel is off, so nothing switches off a radio that is off
    have hp := hr.timer h.radio
    rw [h.ppi22] at hp
    cases hp

/-- The handler behind a packet sent. -/
theorem busy_isr_sending {m : Machine} (h : Sending m) (he : m.eventDisabled = true) : Busy m.radioIsr := by
  cases ha : m.esb.ackEnabled with
  | true =>
    rw [radioIsr_sent h.sniffer h.sending ha]
    refine Or.inr (Or.inl ?_)
    refine ⟨h.own, h.sem, rfl, h.sniffer, ?_, h.activity, fun hc => (nomatch hc)⟩
    simp only [Machine.isrSent, Shorts.disable, Bool.not_true, Bool.and_false]
  | false =>
    obtain ⟨hs, hd⟩ := h.noAck ha
    rw [radioIsr_given h.sniffer h.sending ha]
    refine Or.inr (Or.inr ?_)
    exact ⟨h.own, rfl, h.event he, rfl, hd he, h.ppi22, hs, h.sniffer⟩

/-- The handler behind a packet received or a timeout. -/
theorem busy_isr_listening {m : Machine} (h : Listening m) (he : m.eventDisabled = true) : Busy m.radioIsr := by
  obtain ⟨hc, hd⟩ := h.event he
  rw [radioIsr_received h.sniffer h.sending]
  refine Or.inr (Or.inr ⟨h.own.append rfl fun e hm => ?_, rfl, hc, rfl, hd, rfl, h.rxen, h.sniffer⟩)
  rw [List.mem_singleton.mp hm]; trivial

theorem stable_busy : platform.Stable Busy := by
  intro e m m' he h
  by_cases hi : e = .isr
  · subst hi
    obtain ⟨-, hev, rfl⟩ := event_isr he
    rcases h with h | h | h
    · exact busy_isr_sending h hev
    · exact busy_isr_listening h hev
    · rw [h.clear] at hev; cases hev
  · have hw := event_hardware he hi
    exact h.imp (·.hardware hw) (Or.imp (·.hardware hw) (·.hardware hw))

theorem Busy.own {m : Machine} (h : Busy m) : OwnSoFar m := by
  rcases h with h | h | h <;> exact h.own

/-! ## Instructions -/

/-- The instructions that leave alone what completions depend on. -/
def Op.Plain : Op → Prop
  | .packetptrSet _ | .ppiEnable .channel26 | .ppiEnable .channel27 | .ppiDisable _ | .femTxenSet _ | .buffers _
  | .storeRssi | .mutexLock | .mutexUnlock | .sending => True
  | .shortsEnable mask => mask.disabledRxen = false
  | .esb f => ∀ e, (f e).ackEnabled = e.ackEnabled ∧ (f e).snifferActive = e.snifferActive
  | _ => False

theorem Off.plain {m : Machine} (h : Off m) {i : Op} (hi : i.Plain) : Off (m.exec i) ∧
    (m.exec i).intDisabled = m.intDisabled ∧ (m.exec i).eventDisabled = m.eventDisabled ∧
    (m.exec i).shorts.disabledRxen = m.shorts.disabledRxen ∧ (m.exec i).esb.ackEnabled = m.esb.ackEnabled := by
  cases i with
  | shortsEnable mask =>
    have hs : (m.shorts.enable mask).disabledRxen = m.shorts.disabledRxen := by
      rw [Shorts.enable, show mask.disabledRxen = false from hi, Bool.or_false]
    exact ⟨⟨h.own, h.sem, h.radio, h.ppi22, h.sniffer⟩, rfl, rfl, hs, rfl⟩
  | ppiEnable c =>
    cases c with
    | channel22 => exact hi.elim
    | _ => exact ⟨⟨h.own, h.sem, h.radio, h.ppi22, h.sniffer⟩, rfl, rfl, rfl, rfl⟩
  | ppiDisable c =>
    cases c <;> exact ⟨⟨h.own, h.sem, h.radio, by first | exact h.ppi22 | rfl, h.sniffer⟩, rfl, rfl, rfl, rfl⟩
  | esb f => exact ⟨⟨h.own, h.sem, h.radio, h.ppi22, (hi m.esb).2.trans h.sniffer⟩, rfl, rfl, rfl, (hi m.esb).1⟩
  | packetptrSet | femTxenSet | buffers | storeRssi | mutexLock | mutexUnlock | sending =>
    exact ⟨⟨h.own, h.sem, h.radio, h.ppi22, h.sniffer⟩, rfl, rfl, rfl, rfl⟩
  | _ => exact hi.elim

theorem Idle.plain {m : Machine} (h : Idle m) {i : Op} (hi : i.Plain) : Idle (m.exec i) := by
  obtain ⟨ho, hm, -, hs, -⟩ := h.toOff.plain hi
  exact ⟨ho, hm.trans h.masked, hs.trans h.rxen⟩

theorem Armed.plain {m : Machine} (h : Armed m) {i : Op} (hi : i.Plain) : Armed (m.exec i) := by
  obtain ⟨ho, -, he, hs, ha⟩ := h.toOff.plain hi
  exact ⟨ho, he.trans h.clear, by rw [hs, ha]; exact h.rxen⟩

theorem traced_idle (m : Machine) (h : Idle m) : Traced m := Or.inl h.own

theorem traced_armed (m : Machine) (h : Armed m) : Traced m := Or.inl h.own

section Outline

variable {α : Type} {i : Op} {k : Unit → Code α} {Q : α → Machine → Prop}

theorem triple_op {A B : Machine → Prop} (hA : platform.Stable A) (hI : ∀ m, A m → Traced m)
    (hi : ∀ m, A m → B (m.exec i)) (h : platform.Triple Traced B (k ()) Q) :
    platform.Triple Traced A (op i >>= k) Q := Platform.Triple.step hA hI hi h

theorem triple_last {A B : Machine → Prop} (hA : platform.Stable A) (hI : ∀ m, A m → Traced m)
    (hi : ∀ m, A m → B (m.exec i)) (hB : platform.Stable B) (hIB : ∀ m, B m → Traced m) :
    platform.Triple Traced A (op i) fun _ => B :=
  Platform.Triple.step hA hI hi (Platform.Triple.done hB hIB fun _ h => h)

theorem triple_get {β : Type} {A : Machine → Prop} {f : Machine → β} {k : β → Code α} (hA : platform.Stable A)
    (hI : ∀ m, A m → Traced m) (h : ∀ b, platform.Triple Traced (fun m => A m ∧ f m = b) (k b) Q) :
    platform.Triple Traced A (get f >>= k) Q := Platform.Triple.read hA hI fun m hm => h (f m) m ⟨hm, rfl⟩

theorem triple_idle (hi : i.Plain) (h : platform.Triple Traced Idle (k ()) Q) :
    platform.Triple Traced Idle (op i >>= k) Q := triple_op stable_idle traced_idle (fun _ hm => hm.plain hi) h

theorem triple_armed (hi : i.Plain) (h : platform.Triple Traced Armed (k ()) Q) :
    platform.Triple Traced Armed (op i >>= k) Q := triple_op stable_armed traced_armed (fun _ hm => hm.plain hi) h

theorem triple_idle_get {β : Type} {f : Machine → β} {k : β → Code α}
    (h : ∀ b, platform.Triple Traced Idle (k b) Q) : platform.Triple Traced Idle (get f >>= k) Q :=
  triple_get stable_idle traced_idle fun b => (h b).pre fun _ hm => hm.1

theorem triple_idle_done {a : α} (h : ∀ m, Idle m → Q a m) : platform.Triple Traced Idle (pure a : Code α) Q :=
  Platform.Triple.done stable_idle traced_idle h

end Outline

/-! ## One attempt -/

/-- TXEN finds the semaphore at 0 and the radio off. -/
theorem Primed.txen {m : Machine} (h : Primed m) : Busy (m.exec (.txen true)) := by
  have ht : m.exec (.txen true) = { { m with attempt := m.attempt + 1 }.note (.txen m.radioXferDone) with
      radio := .txRu, activity := m.attempt + 1 } := if_pos h.radio
  rw [ht]
  have hclear : m.eventDisabled ≠ true := Bool.eq_false_iff.mp h.clear
  refine Or.inl ⟨h.own.append rfl ?_, h.sem, h.sending, h.ppi22, h.sniffer, rfl, fun he => absurd he hclear, ?_⟩
  · intro e he
    rw [List.mem_singleton.mp he]
    exact h.sem
  · intro ha
    refine ⟨Bool.eq_false_iff.mpr fun hr => ?_, fun he => absurd he hclear⟩
    -- the short to RXEN is there with auto-ack only
    exact absurd (h.rxen hr) (ne_true_of_eq_false ha)

theorem startAttempt_busy : platform.Triple Traced Idle startAttempt fun _ => Busy := by
  have hrest : platform.Triple Traced Armed (do
      op (.ppiEnable .channel27)
      op (.ppiEnable .channel26)
      op (.packetptrSet .packet)
      op (.buffers fun b => { b with ack := { b.ack with length := 0 } })
      op (.femTxenSet true)
      op .sending
      op (.txen true)) fun _ => Busy := by
    refine triple_armed trivial (triple_armed trivial (triple_armed trivial (triple_armed trivial
      (triple_armed trivial ?_))))
    refine triple_op (B := Primed) stable_armed traced_armed (fun m h => ⟨h.plain (i := .sending) trivial, rfl⟩) ?_
    exact triple_last stable_primed (fun _ h => Or.inl h.own) (fun _ h => h.txen) stable_busy fun _ h => Or.inl h.own
  refine triple_op (B := Armed) stable_idle traced_idle (fun m h => ?_) ?_
  · refine ⟨⟨h.own, h.sem, h.radio, h.ppi22, h.sniffer⟩, rfl, fun hr => ?_⟩
    have hr' := h.rxen
    rw [show m.shorts.disabledRxen = true from hr] at hr'
    cases hr'
  refine triple_op (B := Armed) stable_armed traced_armed (fun m h => ?_) ?_
  · exact ⟨⟨h.own, h.sem, h.radio, h.ppi22, h.sniffer⟩, h.clear, h.rxen⟩
  refine triple_armed rfl ?_
  refine triple_get stable_armed traced_armed fun ackEnabled => ?_
  cases ackEnabled with
  | false => exact hrest.pre fun _ h => h.1
  | true =>
    -- with auto-ack the radio goes on to reception
    refine triple_op (B := Armed) ?_ (fun m h => traced_armed m h.1) (fun m h => ?_) hrest
    · exact stable_of_hardware (fun _ h => Or.inr h.1.clear) fun _ _ h hw =>
        ⟨h.1.hardware hw, hw.1.ackEnabled.trans h.2⟩
    · exact ⟨⟨h.1.own, h.1.sem, h.1.radio, h.1.ppi22, h.1.sniffer⟩, h.1.clear, fun _ => h.2⟩

/-- Behind a successful `k_sem_take` only the attempt itself is noted. -/
theorem Given.take {m : Machine} (h : Given m) : Taken (m.exec (.semTake true)) := by
  refine ⟨⟨h.own.append rfl fun e he => ?_, ?_, h.radio, h.ppi22, h.sniffer⟩, h.clear, h.rxen⟩
  · rw [List.mem_singleton.mp he]
    exact h.cause
  · show m.radioXferDone - 1 = 0
    rw [h.sem]

theorem Busy.take {m : Machine} (h : Busy m) (hs : 0 < m.radioXferDone) : Taken (m.exec (.semTake true)) := by
  rcases h with h | h | h
  · rw [h.sem] at hs; cases hs
  · rw [h.sem] at hs; cases hs
  · exact h.take

theorem semTake_busy : platform.Triple Traced Busy (semTake true) fun taken m => if taken then Taken m else Busy m := by
  refine Platform.Triple.wait stable_busy (fun _ h => Or.inl h.own) (fun m h hs => h.take (of_decide_eq_true hs))
    (Platform.Triple.done stable_taken (fun _ h => Or.inl h.own) fun _ h => h) (fun _ _ h => h)
    (Platform.Triple.done stable_busy (fun _ h => Or.inl h.own) fun _ h => h)

theorem Idle.shortsDisable {m : Machine} (h : Idle m) (mask : Shorts) : Idle (m.exec (.shortsDisable mask)) :=
  ⟨⟨h.own, h.sem, h.radio, h.ppi22, h.sniffer⟩, h.masked, by
    show (m.shorts.disable mask).disabledRxen = false
    rw [Shorts.disable, h.rxen, Bool.false_and]⟩

theorem endAttempt_idle : platform.Triple Traced Taken endAttempt fun _ => Idle := by
  have hrest : platform.Triple Traced Idle (do
      op (.ppiDisable .channel27)
      op (.ppiDisable .channel26)) fun _ => Idle :=
    triple_idle trivial (triple_last stable_idle traced_idle (fun _ h => h.plain (i := .ppiDisable .channel26) trivial)
      stable_idle traced_idle)
  refine triple_op (B := Idle) stable_taken (fun _ h => Or.inl h.own) (fun m h => ?_) ?_
  · exact ⟨⟨h.own, h.sem, h.radio, h.ppi22, h.sniffer⟩, rfl, h.rxen⟩
  refine triple_op stable_idle traced_idle (fun _ h => h.shortsDisable packetShorts) ?_
  refine triple_idle_get fun ackEnabled => ?_
  cases ackEnabled with
  | false => exact hrest
  | true => exact triple_op stable_idle traced_idle (fun _ h => h.shortsDisable _) hrest

theorem checkAck_idle : platform.Triple Traced Idle checkAck fun _ => Idle := by
  refine triple_idle_get fun timeout => ?_
  split
  · exact triple_idle_done fun _ h => h
  refine triple_idle_get fun crcOk => ?_
  split
  · exact Platform.Triple.read stable_idle traced_idle fun m h => triple_idle_done (fun _ h => h) m h
  · exact triple_idle_done fun _ h => h

/-! ## The 200 ms path -/

theorem Stuck.extends {m m' : Machine} (h : Stuck m) (he : Extends m m') : Stuck m' := by
  obtain ⟨es, he⟩ := he
  exact h.append he

theorem stable_stuck : platform.Stable Stuck := fun _ _ _ he h => h.extends (event_extends he)

/-- Behind the warning nothing is claimed any more. -/
theorem triple_stuck {α : Type} (t : Code α) : platform.Triple Traced Stuck t fun _ => Stuck :=
  Platform.Triple.invariant (fun i m h => h.extends (exec_extends i m)) stable_stuck (fun _ h => Or.inr h) t

theorem resetRadio_stuck : platform.Triple Traced Busy resetRadio fun _ => Stuck := by
  refine triple_op (B := Stuck) stable_busy (fun _ h => Or.inl h.own) (fun m h => ?_) (triple_stuck _)
  exact ⟨m.trace, [], rfl, h.own⟩

/-! ## Calls -/

/-- Between calls, unless one ended through the 200 ms path. -/
def Rest (m : Machine) : Prop := Idle m ∨ Stuck m

theorem stable_rest : platform.Stable Rest := stable_idle.or stable_stuck

theorem traced_rest (m : Machine) (h : Rest m) : Traced m := h.imp (·.own) id

/-- One attempt, with what follows it. -/
theorem attempt_rest {α : Type} {next : Bool → Code (Option α)}
    (h : ∀ ackReceived, platform.Triple Traced Idle (next ackReceived) fun _ => Rest) :
    platform.Triple Traced Idle (do
      startAttempt
      if ← semTake true then
        endAttempt
        let ackReceived ← checkAck
        next ackReceived
      else
        resetRadio
        return none) fun _ => Rest := by
  refine startAttempt_busy.bind fun _ => semTake_busy.bind fun taken => ?_
  cases taken with
  | true => exact endAttempt_idle.bind fun _ => checkAck_idle.bind h
  | false => exact resetRadio_stuck.bind fun _ => (triple_stuck _).post fun _ _ h => Or.inr h

theorem attempts_rest (left arcCounter : Nat) :
    platform.Triple Traced Idle (attempts left arcCounter) fun _ => Rest := by
  have hdone : ∀ r : Option (Bool × Nat), platform.Triple Traced Idle (pure r : Code _) fun _ => Rest :=
    fun r => triple_idle_done fun _ h => Or.inl h
  induction left generalizing arcCounter with
  | zero =>
    refine attempt_rest fun ackReceived => triple_idle_get fun ackEnabled => ?_
    split <;> exact hdone _
  | succ left ih =>
    refine attempt_rest fun ackReceived => triple_idle_get fun ackEnabled => ?_
    split
    · exact hdone _
    · exact ih (arcCounter + 1)

theorem esbSendPacket_rest (packetDraw ackDraw : UInt32) :
    platform.Triple Traced Idle (esbSendPacket packetDraw ackDraw) fun _ => Rest := by
  have hdone : ∀ b : Bool, platform.Triple Traced Idle (pure b : Code _) fun _ => Rest :=
    fun b => triple_idle_done fun _ h => Or.inl h
  refine triple_idle_get fun isInit => ?_
  split
  · exact hdone false
  refine triple_idle_get fun refused => ?_
  split
  · exact hdone false
  refine triple_idle trivial (triple_idle_get fun percent => ?_)
  split
  · exact triple_idle trivial (hdone false)
  refine triple_idle_get fun pid => triple_idle trivial (triple_idle (fun _ => ⟨rfl, rfl⟩) ?_)
  refine triple_idle_get fun arc => (attempts_rest arc 0).bind fun r => ?_
  refine Platform.Triple.or ?_ ((triple_stuck _).post fun _ _ h => Or.inr h)
  cases r with
  | none => exact hdone false
  | some r =>
    exact triple_idle trivial (triple_idle trivial (triple_idle_get fun percent => triple_idle trivial (hdone _)))

/-- The setters change nothing the radio's state depends on. -/
theorem setting_sniffer (s : Setting) (e : Esb) : (s.apply e).snifferActive = e.snifferActive := by
  cases s with
  | channel c =>
    simp only [Setting.apply, esbSetChannel]
    split <;> rfl
  | bitrate r =>
    simp only [Setting.apply, esbSetBitrate]
    repeat' split
    all_goals rfl
  | _ => rfl

theorem Idle.setting {m : Machine} (h : Idle m) (s : Setting) : Idle (m.exec (.esb s.apply)) :=
  ⟨⟨h.own, h.sem, h.radio, h.ppi22, (setting_sniffer s m.esb).trans h.sniffer⟩, h.masked, h.rxen⟩

/-- Packets are sent, settings are made. -/
def Call.Sends : Call → Prop
  | .sendPacket .. | .setting _ => True
  | _ => False

theorem call_rest {c : Call} (hc : c.Sends) : platform.Triple Traced Idle c.code fun _ => Rest := by
  have hdone : platform.Triple Traced Idle (pure () : Code _) fun _ => Rest :=
    triple_idle_done fun _ h => Or.inl h
  cases c with
  | sendPacket packet packetDraw ackDraw =>
    refine triple_idle trivial ((esbSendPacket_rest packetDraw ackDraw).bind fun _ => ?_)
    exact Platform.Triple.done stable_rest traced_rest fun _ h => h
  | setting s =>
    refine triple_idle trivial (triple_op stable_idle traced_idle (fun _ h => h.setting s) ?_)
    exact (triple_last stable_idle traced_idle (fun _ h => h.plain (i := .mutexUnlock) trivial) stable_idle
      traced_idle).post fun _ _ h => Or.inl h
  | _ => exact hc.elim

theorem session_rest : ∀ {calls : List Call}, (∀ c ∈ calls, c.Sends) →
    platform.Triple Traced Rest (session calls) fun _ => Rest
  | [], _ => Platform.Triple.done stable_rest traced_rest fun _ h => h
  | c :: cs, h => by
    have hc := call_rest (h c List.mem_cons_self)
    refine Platform.Triple.bind (hc.or ((triple_stuck _).post fun _ _ h => Or.inr h)) fun _ => ?_
    exact session_rest fun c' hc' => h c' (List.mem_cons_of_mem c hc')

theorem idle_boot : Idle Machine.boot := ⟨⟨fun _ he => (nomatch he), rfl, rfl, rfl, rfl⟩, rfl, rfl⟩

theorem traced_of_reachable {calls : List Call} (hc : ∀ c ∈ calls, c.Sends) {m : Machine} (h : Reachable calls m) :
    Traced m := by
  obtain ⟨cs, t, hr⟩ := h
  exact ((session_rest hc Machine.boot (Or.inl idle_boot)).run cs hr).inv

/-- In every run of sends, an attempt starts with `radioXferDone` at 0 and takes its own completion
as long as no call before it ended through the 200 ms path. -/
theorem own_of_not_stuck {calls : List Call} (hc : ∀ c ∈ calls, c.Sends) {m : Machine} (h : Reachable calls m)
    {pre post : List TraceEvent} {e : TraceEvent} (ht : m.trace = pre ++ e :: post) (hs : .stuck ∉ pre) : e.Own :=
  (traced_of_reachable hc h).own ht hs

/-- One acked call from boot. -/
theorem own_acked : ∃ m, Reachable [.sendPacket {} 0 0] m ∧
    m.trace = [.txen 0, .verdict false (some { latched := false }), .taken 1 1] ∧ (TraceEvent.taken 1 1).Own := by
  have hrun : (platform.run (threadSteps 21 ++ hardware ackedAttempt ++ threadSteps 1)
      (session [.sendPacket {} 0 0]) .boot).map (·.2.trace) =
        some [.txen 0, .verdict false (some { latched := false }), .taken 1 1] := by decide +kernel
  obtain ⟨p, hp, ht⟩ := Option.map_eq_some_iff.mp hrun
  have hr : Reachable [.sendPacket {} 0 0] p.2 := ⟨_, p.1, hp⟩
  have hsplit : p.2.trace = [.txen 0, .verdict false (some { latched := false })] ++ .taken 1 1 :: [] := ht
  refine ⟨p.2, hr, ht, own_of_not_stuck (fun c hc => ?_) hr hsplit (by decide)⟩
  rw [List.mem_singleton.mp hc]
  trivial

/-- A packet that never gets out ends in the 200 ms path; the DISABLED event of its DISABLE task
makes the handler give the semaphore once the interrupt is enabled again, and the next attempt
takes it before its packet is sent. -/
theorem late_give : ¬ ∀ (calls : List Call) (m : Machine), (∀ c ∈ calls, c.Sends) → Reachable calls m → OwnSoFar m := by
  intro h
  have hrun : (platform.run
      (threadSteps 23 ++ [.expire] ++ threadSteps 3 ++ hardware [.rampedDown] ++ threadSteps 3 ++ hardware [.isr] ++
        threadSteps 21)
      (session [.setting (.ackEnabled false), .sendPacket {} 0 0, .sendPacket {} 0 0]) .boot).map
        (fun p => decide (.taken 2 1 ∈ p.2.trace)) = some true := by decide +kernel
  obtain ⟨p, hp, ht⟩ := Option.map_eq_some_iff.mp hrun
  have hsends : ∀ c ∈ [Call.setting (.ackEnabled false), .sendPacket {} 0 0, .sendPacket {} 0 0], c.Sends := by
    intro c hc
    simp only [List.mem_cons, List.not_mem_nil, or_false] at hc
    rcases hc with rfl | rfl | rfl <;> trivial
  have hown : 1 = 2 := h _ p.2 hsends ⟨_, p.1, hp⟩ _ (of_decide_eq_true ht)
  exact absurd hown (by decide)

end Crazyradio.Driver
