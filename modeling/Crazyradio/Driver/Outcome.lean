/-
The outcome of an attempt that wants an ack. It is made by two runs of `radio_isr`, which speak to
each other through `sending` and `timeout`: the first opens the receive window, the second finds
COMPARE1 latched or not, behind a reception with a good CRC or a bad one. `scripted` is the machine
on which each attempt comes to the outcome it is given; `Tracks` says how far it has got.
-/
import Crazyradio.Driver.Refinement
import Crazyradio.Driver.Timeout

namespace Crazyradio.Driver

open Bytes Threads

deriving instance DecidableEq for RxFrame

/-! ## Outcomes -/

/-- How an attempt that wants an ack ends: with a frame, its CRC good or bad, and COMPARE1 not latched
when the handler runs, or with COMPARE1 latched. -/
inductive Outcome
  | received (f : RxFrame) (crcOk : Bool)
  | timeout

/-- A valid ack. -/
def Outcome.isAck : Outcome → Bool
  | .received _ crcOk => crcOk
  | .timeout => false

def Outcome.isTimeout : Outcome → Bool
  | .received .. => false
  | .timeout => true

/-- The event can occur in an attempt with this outcome. -/
def Outcome.allows (o : Outcome) : Event → Machine → Bool
  | .endRx f crcOk _, _ =>
    match o with
    | .received f' crcOk' => decide (f = f' ∧ crcOk = crcOk')
    | .timeout => true
  -- the first run of the handler decides nothing
  | .isr, m => m.sending || m.timer.compare1 == o.isTimeout
  | _, _ => true

/-- The machine with a prompt handler on which the `n`-th attempt has the outcome `os n`. -/
def scripted (os : Nat → Outcome) : Platform Op Event Machine := prompt.restrict fun e m => (os m.attempt).allows e m

instance (os : Nat → Outcome) : Prompt (scripted os) := inferInstanceAs (Prompt (prompt.restrict _))

theorem scripted_event {os : Nat → Outcome} {e : Event} {m m' : Machine} (h : (scripted os).event e m = some m') :
    prompt.event e m = some m' ∧ (os m.attempt).allows e m = true :=
  (prompt.restrict_event.mp h).symm

/-! ## The moves of the machine -/

theorem event_attempt {e : Event} {m m' : Machine} (h : m.event e = some m') : m'.attempt = m.attempt := by
  by_cases hi : e = .isr
  · subst hi
    obtain ⟨-, -, rfl⟩ := event_isr h
    rcases radioIsr_cases m with hm | hm | hm | hm <;> rw [hm] <;> rfl
  · exact (event_hardware h hi).1.attempt

/-- The counter goes on, or COMPARE1 is latched. -/
theorem tick_cases (m : Machine) : m.tick.timer.compare1 = true ∨
    m.tick = { m with timer := { m.timer with counter := m.timer.counter + 1 } } := by
  unfold Machine.tick
  simp only
  split
  · left
    unfold Machine.raiseCompare1
    split
    · exact (same_rel.taskDisable _).compare1
    · rfl
  · exact .inr rfl

/-! ## An attempt with its outcome -/

/-- What was received is what the outcome says. -/
def Outcome.Heard (o : Outcome) (b : SendBuffers) (e : Esb) (m : Machine) : Prop :=
  match o with
  | .received f crcOk => m.crcStatus = crcOk ∧ m.buffers = { b with ack := receiveAck (some f) b.ack e }
  | .timeout => True

/-- The reception is under way, COMPARE1 is latched, or the frame is the outcome's. -/
def Outcome.Listens (o : Outcome) (b : SendBuffers) (e : Esb) (m : Machine) : Prop :=
  m.radio = .rxRu ∨ m.radio = .rx ∨ m.timer.compare1 = true ∨ o.Heard b e m

/-- The handler's `timeout` and the reception are what the outcome says. -/
def Outcome.Verdict (o : Outcome) (b : SendBuffers) (e : Esb) (m : Machine) : Prop :=
  m.timeout = o.isTimeout ∧ o.Heard b e m

/-- Behind the transmission: the attempt listens, or has its completion, and comes to this outcome. -/
def Outcome.Follows (o : Outcome) (b : SendBuffers) (e : Esb) (m : Machine) : Prop :=
  Incoming b e m ∧ o.Listens b e m ∨ Arrived b e m ∧ (e.ackEnabled = true → o.Verdict b e m)

/-- The attempt waits for its completion, or has it, and comes to this outcome. -/
def Outcome.Tracks (o : Outcome) (b : SendBuffers) (e : Esb) (m : Machine) : Prop :=
  Outgoing b e m ∨ o.Follows b (transmit b.packet e) m

section Moves

variable {o : Outcome} {b : SendBuffers} {e : Esb} {ev : Event} {m m' : Machine}

theorem Outcome.Heard.congr (h : o.Heard b e m) (hc : m'.crcStatus = m.crcStatus) (hb : m'.buffers = m.buffers) :
    o.Heard b e m' := by
  cases o with
  | received f crcOk => exact ⟨hc.trans h.1, hb.trans h.2⟩
  | timeout => trivial

theorem Outcome.Listens.congr (h : o.Listens b e m) (hr : m'.radio = m.radio)
    (ht : m'.timer.compare1 = m.timer.compare1) (hc : m'.crcStatus = m.crcStatus) (hb : m'.buffers = m.buffers) :
    o.Listens b e m' := by
  rcases h with h | h | h | h
  · exact .inl (hr.trans h)
  · exact .inr (.inl (hr.trans h))
  · exact .inr (.inr (.inl (ht.trans h)))
  · exact .inr (.inr (.inr (h.congr hc hb)))

theorem Outcome.Verdict.counted (h : o.Verdict b e m) (hc : Counted m m') : o.Verdict b e m' := by
  obtain ⟨t, w, rfl⟩ := hc
  exact ⟨h.1, h.2.congr rfl rfl⟩

/-- The radio does not send while it listens. -/
theorem Incoming.not_sending (h : Incoming b e m) : m.radio ≠ .txRu ∧ m.radio ≠ .tx := by
  rcases h.stage with ⟨hr | ⟨hr, -⟩, -⟩ | ⟨-, -, ⟨hr, -⟩ | ⟨hr, -⟩⟩ <;> simp [hr]

/-- It has raised its event only where it is off again. -/
theorem Incoming.quiet (h : Incoming b e m) (hr : m.radio ≠ .disabled) : m.eventDisabled = false :=
  Bool.eq_false_iff.mpr fun hx => hr (h.raised hx).1

/-- The transmission comes to the outcome. -/
theorem Outgoing.tracks (h : Outgoing b e m) (he : m.event ev = some m')
    (hp : m.pending = true → ev.ofRadio = false) : o.Tracks b e m' := by
  cases ev with
  | tick =>
    cases he
    rcases counted_tick m with hc | ⟨-, -, hp, -⟩
    · exact .inl (h.counted hc)
    · exact absurd hp (ne_true_of_eq_false h.ppi22)
  | isr =>
    obtain ⟨-, hx, rfl⟩ := event_isr he
    cases ha : e.ackEnabled with
    | true =>
      obtain ⟨hi, hr, -⟩ := h.isr_listen hx ha
      exact .inr (.inl ⟨hi, .inl hr⟩)
    | false => exact .inr (.inr ⟨h.isr_arrived hx ha, fun ht => absurd ht (ne_true_of_eq_false ha)⟩)
  | _ =>
    refine .inl (h.radio rfl ?_ he)
    exact Bool.eq_false_iff.mpr fun hx => nomatch hp (h.pending hx)

/-- So does the reception: what is received is the outcome's frame, and the handler sees COMPARE1 as
the outcome says. -/
theorem Incoming.follows (h : Incoming b e m) (hl : o.Listens b e m) (he : m.event ev = some m')
    (hp : m.pending = true → ev.ofRadio = false) (ho : o.allows ev m = true) : o.Follows b e m' := by
  have hx : ev.ofRadio = true → m.eventDisabled = false := fun hr => Bool.eq_false_iff.mpr fun hx =>
    Bool.false_ne_true ((hp (h.pending hx)).symm.trans hr)
  cases ev with
  | tick =>
    cases he
    refine .inl ⟨?_, ?_⟩
    · rcases counted_tick m with hc | ⟨m₁, hc, -, ht⟩
      · exact h.counted hc
      · rw [ht]
        exact (h.counted hc).taskDisable
    · rcases tick_cases m with hc | ht
      · exact .inr (.inr (.inl hc))
      · rw [ht]
        exact hl.congr rfl rfl rfl rfl
  | isr =>
    obtain ⟨-, hx, rfl⟩ := event_isr he
    refine .inr ⟨h.isr hx, fun _ => ?_⟩
    have hsniff : m.esb.snifferActive = false := by rw [h.esb]; exact h.sniffer
    have hc : m.timer.compare1 = o.isTimeout := by simpa [Outcome.allows, h.sending] using ho
    rw [radioIsr_received hsniff h.sending]
    refine ⟨hc, ?_⟩
    cases o with
    | timeout => trivial
    | received f crcOk =>
      -- the receiver is off again, and not because of COMPARE1
      obtain ⟨hd, -⟩ := h.raised hx
      rcases hl with hr | hr | hr | hr
      · rw [hd] at hr; cases hr
      · rw [hd] at hr; cases hr
      · rw [hc] at hr; cases hr
      · exact hr.congr rfl rfl
  | address =>
    obtain ⟨t, w, rfl⟩ := counted_address he
    exact .inl ⟨h.radio rfl (hx rfl) he, hl.congr rfl (same_event he nofun nofun).compare1 rfl rfl⟩
  | ready =>
    refine .inl ⟨h.radio rfl (hx rfl) he, ?_⟩
    rcases ready_cases he h.readyStart with ⟨hr, rfl⟩ | ⟨-, rfl⟩
    · exact absurd hr h.not_sending.1
    · exact .inr (.inl rfl)
  | endTx =>
    obtain ⟨hr, -⟩ := endTx_cases he h.endDisable
    exact absurd hr h.not_sending.2
  | endRx f crcOk rssi =>
    obtain ⟨hi, -, hc, hb⟩ := h.endRx (hx rfl) he
    refine .inl ⟨hi, .inr (.inr (.inr ?_))⟩
    cases o with
    | timeout => trivial
    | received f' crcOk' =>
      obtain ⟨rfl, rfl⟩ := of_decide_eq_true ho
      exact ⟨hc, hb⟩
  | rampedDown =>
    refine .inl ⟨h.radio rfl (hx rfl) he, ?_⟩
    obtain ⟨hr, rfl⟩ := rampedDown_cases he
    rcases hl with hd | hd | hc | hh
    · rw [hd] at hr; rcases hr with hr | hr <;> cases hr
    · rw [hd] at hr; rcases hr with hr | hr <;> cases hr
    · exact .inr (.inr (.inl hc))
    · exact .inr (.inr (.inr (hh.congr rfl rfl)))

theorem Arrived.follows (h : Arrived b e m) (hv : e.ackEnabled = true → o.Verdict b e m)
    (he : m.event ev = some m') : o.Follows b e m' :=
  have hc := h.still.event he
  .inr ⟨h.counted hc, fun ha => (hv ha).counted hc⟩

/-- Where the semaphore is given the attempt has come to its outcome. -/
theorem Outcome.Follows.arrived (h : o.Follows b e m) (hs : 0 < m.radioXferDone) :
    Arrived b e m ∧ (e.ackEnabled = true → o.Verdict b e m) := by
  rcases h with ⟨h, -⟩ | h
  · rw [h.sem] at hs; cases hs
  · exact h

theorem Outcome.Tracks.follows (h : o.Tracks b e m) (hs : 0 < m.radioXferDone) :
    o.Follows b (transmit b.packet e) m := by
  rcases h with h | h
  · rw [h.sem] at hs; cases hs
  · exact h

end Moves

theorem stable_follows (os : Nat → Outcome) (n : Nat) (b : SendBuffers) (e : Esb) :
    (scripted os).Stable fun m => m.attempt = n ∧ (os n).Follows b e m := by
  rintro ev m m' he ⟨rfl, h⟩
  obtain ⟨hprompt, ho⟩ := scripted_event he
  obtain ⟨he, hp⟩ := prompt_event hprompt
  refine ⟨event_attempt he, ?_⟩
  rcases h with ⟨h, hl⟩ | ⟨h, hv⟩
  · exact h.follows hl he hp ho
  · exact h.follows hv he

theorem stable_tracks (os : Nat → Outcome) (n : Nat) (b : SendBuffers) (e : Esb) :
    (scripted os).Stable fun m => m.attempt = n ∧ (os n).Tracks b e m := by
  rintro ev m m' hs ⟨hn, h⟩
  rcases h with h | h
  · obtain ⟨hprompt, -⟩ := scripted_event hs
    obtain ⟨he, hp⟩ := prompt_event hprompt
    exact ⟨(event_attempt he).trans hn, h.tracks he hp⟩
  · obtain ⟨hn', hf⟩ := stable_follows os n b (transmit b.packet e) ev m m' hs ⟨hn, h⟩
    exact ⟨hn', .inr hf⟩

/-! ## Every outcome can come -/

/-- The machine can get there while the code waits: the radio has not raised its event, or the move is
not the radio's. -/
theorem rely_move {os : Nat → Outcome} (ev : Event) {m m₁ m₂ : Machine} (he : m.event ev = some m₁)
    (hp : m.eventDisabled = false ∨ ev.ofRadio = false) (ho : (os m.attempt).allows ev m = true)
    (h : (scripted os).Rely m₁ m₂) : (scripted os).Rely m m₂ := by
  refine .head ⟨ev, ?_⟩ h
  refine prompt.restrict_event.mpr ⟨ho, platform.restrict_event.mpr ⟨?_, he⟩⟩
  rcases hp with hx | hr
  · simp [Machine.pending, hx]
  · simp [hr]

theorem ready_occurs {m : Machine} (h : m.radio = .txRu ∨ m.radio = .rxRu) : ∃ m', m.event .ready = some m' := by
  rcases h with h | h <;> simp [Machine.event, Machine.ready, h]

theorem endTx_occurs {m : Machine} (h : m.radio = .tx) : ∃ m', m.event .endTx = some m' := by
  simp [Machine.event, Machine.endTx, h]

theorem endRx_occurs {m : Machine} (h : m.radio = .rx) (f : RxFrame) (crcOk : Bool) :
    ∃ m', m.event (.endRx f crcOk 0) = some m' := by
  simp [Machine.event, Machine.endRx, h]

theorem rampedDown_occurs {m : Machine} (h : m.radio = .rxDisable ∨ m.radio = .txDisable) :
    m.event .rampedDown = some m.raiseDisabled := if_pos h

theorem isr_occurs {m : Machine} (h : Wired m) (he : m.eventDisabled = true) : m.event .isr = some m.radioIsr :=
  if_pos (h.pending he)

/-- COMPARE1, with its channel to DISABLE. -/
theorem rely_compare1 (os : Nat → Outcome) {m : Machine} (hq : m.timer.counter + 1 = m.timer.cc1)
    (hr : m.radio = .rx) (hp : m.ppi22 = true) : ∃ (t : Timer0) (w : Option Window), t.compare1 = true ∧
      (scripted os).Rely m { m with timer := t, window := w, radio := .rxDisable } := by
  have ht : m.tick = { m with
      timer := { m.timer with counter := m.timer.counter + 1, compare1 := true }
      window := m.window.map fun w => { w with reached := true }
      radio := .rxDisable } := by
    simp [Machine.tick, hq, Machine.raiseCompare1, hp, Machine.matchCc1, Machine.taskDisable, hr]
  exact ⟨_, _, rfl, rely_move .tick (congrArg some ht) (.inr rfl) rfl .refl⟩

/-- The counter reaches CC1, `d + 1` ticks away, and the receiver is switched off. -/
theorem rely_timeout (os : Nat → Outcome) (d : Nat) {m : Machine} (hd : (m.timer.cc1 - m.timer.counter - 1).toNat = d)
    (hr : m.radio = .rx) (hp : m.ppi22 = true) : ∃ (t : Timer0) (w : Option Window), t.compare1 = true ∧
      (scripted os).Rely m { m with timer := t, window := w, radio := .rxDisable } := by
  induction d generalizing m with
  | zero =>
    have hz : m.timer.cc1 - m.timer.counter - 1 = 0 := UInt32.toNat_inj.mp (hd.trans UInt32.toNat_zero.symm)
    exact rely_compare1 os (by grind) hr hp
  | succ d ih =>
    by_cases hq : m.timer.counter + 1 = m.timer.cc1
    · exact rely_compare1 os hq hr hp
    · have ht : m.tick = { m with timer := { m.timer with counter := m.timer.counter + 1 } } := if_neg hq
      have hs : m.timer.cc1 - (m.timer.counter + 1) - 1 = m.timer.cc1 - m.timer.counter - 1 - 1 := by grind
      have hle : 1 ≤ m.timer.cc1 - m.timer.counter - 1 := by
        rw [UInt32.le_iff_toNat_le, hd]
        exact Nat.le_add_left 1 d
      have hd' : (m.timer.cc1 - (m.timer.counter + 1) - 1).toNat = d := by
        rw [hs, UInt32.toNat_sub_of_le _ _ hle, hd]
        rfl
      let timer := { m.timer with counter := m.timer.counter + 1 }
      obtain ⟨t, w, hc, hrely⟩ := ih (m := { m with timer }) hd' hr hp
      exact ⟨t, w, hc, rely_move .tick (congrArg some ht) (.inr rfl) rfl hrely⟩

/-- The end of a reception, up to the semaphore. -/
theorem Incoming.rely_off (os : Nat → Outcome) {b : SendBuffers} {e : Esb} {m : Machine} (h : Incoming b e m)
    (hr : m.radio = .rxDisable) (hc : m.timer.compare1 = (os m.attempt).isTimeout) :
    ∃ m', (scripted os).Rely m m' ∧ m'.radioXferDone = 1 ∧ m'.timer.compare1 = false := by
  have hx : m.eventDisabled = false := h.quiet (by simp [hr])
  have hdown := rampedDown_occurs (.inl hr)
  have hi : Incoming b e m.raiseDisabled := h.radio rfl hx hdown
  have hsniff : m.raiseDisabled.esb.snifferActive = false := by rw [hi.esb]; exact hi.sniffer
  refine ⟨m.raiseDisabled.radioIsr, ?_, ?_, ?_⟩
  · refine rely_move .rampedDown hdown (.inl hx) rfl ?_
    refine rely_move .isr (isr_occurs hi.toWired rfl) (.inr rfl) ?_ .refl
    show (m.sending || m.timer.compare1 == (os m.attempt).isTimeout) = true
    rw [hc, beq_self_eq_true, Bool.or_true]
  · exact (hi.isr rfl).sem
  · rw [radioIsr_received hsniff hi.sending]
    rfl

/-- A reception can come to the outcome, whatever that is. -/
theorem Incoming.rely_arrived {os : Nat → Outcome} {b : SendBuffers} {e : Esb} {m : Machine} (h : Incoming b e m)
    (hr : m.radio = .rxRu) (hp : m.ppi22 = true) (hc : m.timer.compare1 = false ∨ (os m.attempt).isTimeout = true) :
    ∃ m', (scripted os).Rely m m' ∧ m'.radioXferDone = 1 ∧ m'.timer.compare1 = false := by
  have hx : m.eventDisabled = false := h.quiet (by simp [hr])
  obtain ⟨m₁, h₁⟩ := ready_occurs (.inr hr)
  have i₁ : Incoming b e m₁ := h.radio rfl hx h₁
  obtain ⟨hd, -⟩ | ⟨-, rfl⟩ := ready_cases h₁ h.readyStart
  · rw [hr] at hd; cases hd
  cases ho : os m.attempt with
  | received f crcOk =>
    rw [ho] at hc
    obtain ⟨m₂, h₂⟩ := endRx_occurs (m := { m with radio := .rx, rxptr := m.packetptr }) rfl f crcOk
    obtain ⟨i₂, hr₂, -⟩ := i₁.endRx hx h₂
    have hc₂ : m₂.timer.compare1 = (os m₂.attempt).isTimeout := by
      rw [(same_event h₂ nofun nofun).compare1, event_attempt h₂]
      show m.timer.compare1 = (os m.attempt).isTimeout
      rw [ho]
      exact hc.resolve_right Bool.false_ne_true
    obtain ⟨m', hrely, hs, hc'⟩ := i₂.rely_off os hr₂ hc₂
    refine ⟨m', rely_move .ready h₁ (.inl hx) rfl (rely_move _ h₂ (.inl hx) ?_ hrely), hs, hc'⟩
    show (os m.attempt).allows _ _ = true
    rw [ho]
    exact decide_eq_true ⟨rfl, rfl⟩
  | timeout =>
    obtain ⟨t, w, hc₂, hrely⟩ :=
      rely_timeout os _ (m := { m with radio := .rx, rxptr := m.packetptr }) rfl rfl hp
    have i₂ : Incoming b e { m with rxptr := m.packetptr, timer := t, window := w, radio := .rxDisable } :=
      i₁.taskDisable.counted ⟨t, w, rfl⟩
    have hc' : t.compare1 = (os m.attempt).isTimeout := by
      rw [hc₂, ho]
      rfl
    obtain ⟨m', hrely', hs, hc'⟩ := i₂.rely_off os rfl hc'
    exact ⟨m', rely_move .ready h₁ (.inl hx) rfl (hrely.trans hrely'), hs, hc'⟩

/-- The end of a transmission, and what follows. -/
theorem Outgoing.rely_off {os : Nat → Outcome} {b : SendBuffers} {e : Esb} {m : Machine} (h : Outgoing b e m)
    (hr : m.radio = .txDisable) (hx : m.eventDisabled = false)
    (hc : m.timer.compare1 = false ∨ (os m.attempt).isTimeout = true) :
    ∃ m', (scripted os).Rely m m' ∧ m'.radioXferDone = 1 ∧ (e.ackEnabled = true → m'.timer.compare1 = false) := by
  have hdown := rampedDown_occurs (.inr hr)
  have h₁ : Outgoing b e m.raiseDisabled := h.radio rfl hx hdown
  have hrely : (scripted os).Rely m m.raiseDisabled.radioIsr := by
    refine rely_move .rampedDown hdown (.inl hx) rfl ?_
    refine rely_move .isr (isr_occurs h₁.toWired rfl) (.inr rfl) ?_ .refl
    show (m.sending || m.timer.compare1 == (os m.attempt).isTimeout) = true
    rw [show m.sending = true from h.sending, Bool.true_or]
  cases ha : e.ackEnabled with
  | true =>
    -- the radio goes on to listen
    obtain ⟨h₂, hr₂, hp, hc₂⟩ := h₁.isr_listen rfl ha
    have hc : m.raiseDisabled.timer.compare1 = false ∨ (os m.raiseDisabled.attempt).isTimeout = true := hc
    rw [← hc₂, ← event_attempt (isr_occurs h₁.toWired rfl)] at hc
    obtain ⟨m', hrely', hs, hc'⟩ := h₂.rely_arrived hr₂ hp hc
    exact ⟨m', hrely.trans hrely', hs, fun _ => hc'⟩
  | false => exact ⟨_, hrely, (h₁.isr_arrived rfl ha).sem, fun hf => absurd hf Bool.false_ne_true⟩

/-- An attempt that has just triggered TXEN can come to its outcome, whatever that is. -/
theorem Outgoing.rely_arrived {os : Nat → Outcome} {b : SendBuffers} {e : Esb} {m : Machine} (h : Outgoing b e m)
    (hr : m.radio = .txRu) (hc : m.timer.compare1 = false ∨ (os m.attempt).isTimeout = true) :
    ∃ m', (scripted os).Rely m m' ∧ m'.radioXferDone = 1 ∧ (e.ackEnabled = true → m'.timer.compare1 = false) := by
  have hx : m.eventDisabled = false := by
    refine Bool.eq_false_iff.mpr fun hx => ?_
    have hd := (h.raised hx).1
    rw [hr] at hd
    split at hd <;> cases hd
  obtain ⟨m₁, h₁⟩ := ready_occurs (.inl hr)
  have o₁ : Outgoing b e m₁ := h.radio rfl hx h₁
  obtain ⟨hr₁, hx₁⟩ : m₁.radio = .tx ∧ m₁.eventDisabled = false := by
    rcases ready_cases h₁ h.readyStart with ⟨-, rfl⟩ | ⟨hd, -⟩
    · exact ⟨rfl, hx⟩
    · rw [hr] at hd; cases hd
  obtain ⟨m₂, h₂⟩ := endTx_occurs hr₁
  have o₂ : Outgoing b e m₂ := o₁.radio rfl hx₁ h₂
  obtain ⟨hr₂, hx₂⟩ : m₂.radio = .txDisable ∧ m₂.eventDisabled = false := by
    obtain ⟨-, t, rfl⟩ := endTx_cases h₂ o₁.endDisable
    exact ⟨rfl, hx₁⟩
  have hc₂ : m₂.timer.compare1 = false ∨ (os m₂.attempt).isTimeout = true := by
    rw [(same_event h₂ nofun nofun).compare1, (same_event h₁ nofun nofun).compare1, event_attempt h₂, event_attempt h₁]
    exact hc
  obtain ⟨m', hrely, hs, hc'⟩ := o₂.rely_off hr₂ hx₂ hc₂
  refine ⟨m', ?_, hs, hc'⟩
  refine rely_move .ready h₁ (.inl hx) rfl ?_
  exact rely_move .endTx h₂ (.inl hx₁) rfl hrely

end Crazyradio.Driver
