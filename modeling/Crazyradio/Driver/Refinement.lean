/-
`esb_send_packet` on the machine does what its callers see. As long as `radio_isr` is prompt and
the call does not end through the 200 ms path, there are surroundings (`Exchange`) with which the
sequential `esb_send_packet` returns the same result, leaves the same buffers, statics and
registers, and puts the same packets on the air. So what is proved about the function with its
surroundings as an input holds of the threads, and the properties of `usb_thread` rest on the
machine.
-/
import Crazyradio.Driver.Attempt
import Crazyradio.Driver.Completion

namespace Crazyradio.Driver

open Bytes Threads

/-! ## The attempt in the code -/

/-- Between attempts, with the buffers `b` and the driver `e`. -/
structure Resting (b : SendBuffers) (e : Esb) (m : Machine) : Prop where
  irqEnabled : m.irqEnabled = true
  radio : m.radio = .disabled
  ppi22 : m.ppi22 = false
  masked : m.intDisabled = false
  rxen : m.shorts.disabledRxen = false
  sniffer : e.snifferActive = false
  sem : m.radioXferDone = 0
  buffers : m.buffers = b
  esb : m.esb = e

theorem Resting.still {b : SendBuffers} {e : Esb} {m : Machine} (h : Resting b e m) : Still m :=
  ⟨h.radio, h.ppi22, .inl h.masked⟩

theorem Resting.counted {b : SendBuffers} {e : Esb} {m m' : Machine} (h : Resting b e m) (hc : Counted m m') :
    Resting b e m' := by
  obtain ⟨t, w, rfl⟩ := hc
  exact ⟨h.irqEnabled, h.radio, h.ppi22, h.masked, h.rxen, h.sniffer, h.sem, h.buffers, h.esb⟩

theorem stable_resting {b : SendBuffers} {e : Esb} : prompt.Stable (Resting b e) :=
  fun _ _ _ he h => h.counted (h.still.event (prompt_event he).1)

/-- The buffers as an attempt starts. -/
def emptied (b : SendBuffers) : SendBuffers := { b with ack := { b.ack with length := 0 } }

/-- The interrupt, the shorts and the event are as the attempt needs them. -/
structure Ready (b : SendBuffers) (e : Esb) (m : Machine) : Prop extends Wired m where
  radio : m.radio = .disabled
  ppi22 : m.ppi22 = false
  clear : m.eventDisabled = false
  rxen : m.shorts.disabledRxen = e.ackEnabled
  sniffer : e.snifferActive = false
  sem : m.radioXferDone = 0
  buffers : m.buffers = b
  esb : m.esb = e

theorem Ready.still {b : SendBuffers} {e : Esb} {m : Machine} (h : Ready b e m) : Still m :=
  ⟨h.radio, h.ppi22, .inr h.clear⟩

/-- TXEN starts the packet. -/
theorem Ready.txen {b : SendBuffers} {e : Esb} {m : Machine} (h : Ready b e m) (hs : m.sending = true)
    (hp : m.packetptr = .packet) : Outgoing b e (m.exec (.txen true)) := by
  have ht : m.exec (.txen true) = { { m with attempt := m.attempt + 1 }.note (.txen m.radioXferDone) with
      radio := .txRu, activity := m.attempt + 1 } := if_pos h.radio
  rw [ht]
  exact ⟨⟨h.irqEnabled, h.intDisabled, h.readyStart, h.endDisable⟩, hs, hp, h.rxen, h.ppi22, h.sniffer, h.sem,
    h.buffers, .inl ⟨rfl, h.clear, h.esb⟩⟩

section Code

variable {b : SendBuffers} {e : Esb}

/-- `startAttempt` up to TXEN. -/
def prepareAttempt : Code Unit := do
  op .radioEventClear
  op .radioIntEnable
  op (.shortsEnable packetShorts)
  opIf (← get (·.esb.ackEnabled)) (.shortsEnable { disabledRxen := true })
  op (.ppiEnable .channel27)
  op (.ppiEnable .channel26)
  op (.packetptrSet .packet)
  op (.buffers fun b => { b with ack := { b.ack with length := 0 } })
  op (.femTxenSet true)
  op .sending

theorem startAttempt_prepare : startAttempt = prepareAttempt >>= fun _ => op (.txen true) := by
  simp only [prepareAttempt, startAttempt, Thread.bind_assoc]

/-- Everything is set for TXEN, `n` attempts in. -/
structure Prepared (b : SendBuffers) (e : Esb) (n : Nat) (m : Machine) : Prop extends Ready b e m where
  sending : m.sending = true
  packetptr : m.packetptr = .packet
  attempt : m.attempt = n

theorem stable_prepared {n : Nat} : prompt.Stable (Prepared b e n) := by
  intro ev m m' he h
  obtain ⟨t, w, rfl⟩ := h.still.event (prompt_event he).1
  exact ⟨⟨⟨h.irqEnabled, h.intDisabled, h.readyStart, h.endDisable⟩, h.radio, h.ppi22, h.clear, h.rxen, h.sniffer,
    h.sem, h.buffers, h.esb⟩, h.sending, h.packetptr, h.attempt⟩

/-- The part of `prepareAttempt` behind the shorts. -/
theorem wired_prepared {m : Machine} (h : Ready b e m) : prompt.Triple (fun _ => True) (Counted m) (do
    op (.ppiEnable .channel27)
    op (.ppiEnable .channel26)
    op (.packetptrSet .packet)
    op (.buffers fun b => { b with ack := { b.ack with length := 0 } })
    op (.femTxenSet true)
    op .sending) fun _ => Prepared (emptied b) e m.attempt := by
  -- up to TXEN the radio is off and the machine is the one the instructions compute
  refine Still.op h.still ?_
  dsimp only [Machine.exec, Machine.ppiSet]
  refine Still.op ⟨h.radio, h.ppi22, .inr h.clear⟩ ?_
  dsimp only [Machine.exec, Machine.ppiSet]
  refine Still.op ⟨h.radio, h.ppi22, .inr h.clear⟩ ?_
  dsimp only [Machine.exec]
  refine Still.op ⟨h.radio, h.ppi22, .inr h.clear⟩ ?_
  dsimp only [Machine.exec]
  refine Still.op ⟨h.radio, h.ppi22, .inr h.clear⟩ ?_
  dsimp only [Machine.exec]
  refine Platform.Triple.step (B := Prepared (emptied b) e m.attempt)
    (Still.stable ⟨h.radio, h.ppi22, .inr h.clear⟩) (fun _ _ => trivial) (fun m' hc => ?_)
    (Platform.Triple.done stable_prepared (fun _ _ => trivial) fun _ h => h)
  obtain ⟨t, w, rfl⟩ := hc
  refine ⟨⟨⟨h.irqEnabled, h.intDisabled, h.readyStart, h.endDisable⟩, h.radio, h.ppi22, h.clear, h.rxen, h.sniffer,
    h.sem, ?_, h.esb⟩, rfl, rfl, rfl⟩
  exact congrArg emptied h.buffers

theorem prepareAttempt_prepared {m : Machine} (h : Resting b e m) :
    prompt.Triple (fun _ => True) (Counted m) prepareAttempt fun _ => Prepared (emptied b) e m.attempt := by
  unfold prepareAttempt
  refine Still.op h.still ?_
  dsimp only [Machine.exec]
  refine Still.op ⟨h.radio, h.ppi22, .inr rfl⟩ ?_
  dsimp only [Machine.exec]
  refine Still.op ⟨h.radio, h.ppi22, .inr rfl⟩ ?_
  dsimp only [Machine.exec]
  refine Still.get ?_ (fun _ _ => rfl) ?_
  · exact ⟨h.radio, h.ppi22, .inr rfl⟩
  have hesb : m.esb.ackEnabled = e.ackEnabled := by rw [h.esb]
  have hrx : (m.shorts.enable packetShorts).disabledRxen = false := (Bool.or_false _).trans h.rxen
  show prompt.Triple _ _ (opIf m.esb.ackEnabled _ >>= _) _
  cases ha : m.esb.ackEnabled with
  | false =>
    exact wired_prepared ⟨⟨h.irqEnabled, rfl, Bool.or_true _, Bool.or_true _⟩, h.radio, h.ppi22, rfl,
      hrx.trans (ha.symm.trans hesb), h.sniffer, h.sem, h.buffers, h.esb⟩
  | true =>
    -- the end of the packet switches to reception
    refine Still.op ⟨h.radio, h.ppi22, .inr rfl⟩ (wired_prepared ⟨⟨h.irqEnabled, rfl, ?_, ?_⟩, h.radio, h.ppi22, rfl,
      ?_, h.sniffer, h.sem, h.buffers, h.esb⟩)
    · exact (Bool.or_false _).trans (Bool.or_true _)
    · exact (Bool.or_false _).trans (Bool.or_true _)
    · exact (Bool.or_true _).trans (ha.symm.trans hesb)

theorem startAttempt_waiting : prompt.Triple (fun _ => True) (Resting b e) startAttempt
    fun _ => Waiting (emptied b) e := by
  intro m h
  rw [startAttempt_prepare]
  refine (prepareAttempt_prepared h).bind (fun _ => ?_) m (.refl m)
  exact Platform.Triple.step (B := Waiting (emptied b) e) stable_prepared (fun _ _ => trivial)
    (fun m' h' => .inl (h'.toReady.txen h'.sending h'.packetptr))
    (Platform.Triple.done (stable_waiting _ e) (fun _ _ => trivial) fun _ h => h)

/-- Behind a successful `k_sem_take`: what was received is in the ack buffer. -/
structure Completed (b : SendBuffers) (e : Esb) (m : Machine) : Prop where
  irqEnabled : m.irqEnabled = true
  radio : m.radio = .disabled
  ppi22 : m.ppi22 = false
  clear : m.eventDisabled = false
  rxen : m.shorts.disabledRxen = false
  sem : m.radioXferDone = 0
  esb : m.esb = e
  buffers : ∃ rx, m.buffers = { b with ack := receiveAck rx b.ack e }

theorem Arrived.take {m : Machine} (h : Arrived b e m) : Completed b e (m.exec (.semTake true)) := by
  refine ⟨h.irqEnabled, h.radio, h.ppi22, h.clear, h.rxen, ?_, h.esb, h.buffers⟩
  show m.radioXferDone - 1 = 0
  rw [h.sem]

theorem Waiting.take {m : Machine} (h : Waiting b e m) (hs : 0 < m.radioXferDone) :
    Completed b (transmit b.packet e) (m.exec (.semTake true)) := by
  rcases h with h | h | h
  · rw [h.sem] at hs; cases hs
  · rw [h.sem] at hs; cases hs
  · exact h.take

theorem stable_completed : prompt.Stable (Completed b e) := by
  intro ev m m' he h
  obtain ⟨t, w, rfl⟩ := Still.event ⟨h.radio, h.ppi22, .inr h.clear⟩ (prompt_event he).1
  exact ⟨h.irqEnabled, h.radio, h.ppi22, h.clear, h.rxen, h.sem, h.esb, h.buffers⟩

theorem semTake_completed : prompt.Triple (fun _ => True) (Waiting b e) (semTake true)
    fun taken m => taken = true → Completed b (transmit b.packet e) m :=
  Platform.Triple.wait (stable_waiting b e) (fun _ _ => trivial) (fun _ h hs => h.take (of_decide_eq_true hs))
    (Platform.Triple.done stable_completed (fun _ _ => trivial) fun _ h _ => h) (fun _ _ h => h)
    (Platform.Triple.done (stable_waiting b e) (fun _ _ => trivial) fun _ _ hf => nomatch hf)

/-- At rest behind the attempt of `m`, with the handler's `timeout` and the CRC status as they were. -/
structure Cleaned (e : Esb) (m m' : Machine) : Prop extends Resting m.buffers e m' where
  attempt : m'.attempt = m.attempt
  timeout : m'.timeout = m.timeout
  crcStatus : m'.crcStatus = m.crcStatus

theorem Cleaned.counted {m m₁ m₂ : Machine} (h : Cleaned e m m₁) (hc : Counted m₁ m₂) : Cleaned e m m₂ := by
  have hrest := h.toResting.counted hc
  obtain ⟨t, w, rfl⟩ := hc
  exact ⟨hrest, h.attempt, h.timeout, h.crcStatus⟩

/-- The clean-up of an attempt. -/
theorem endAttempt_cleaned (hs : e.snifferActive = false) {m : Machine} (h : Completed b e m) :
    prompt.Triple (fun _ => True) (Counted m) endAttempt fun _ => Cleaned e m := by
  have hppi : ∀ m' : Machine, Cleaned e m m' → prompt.Triple (fun _ => True) (Counted m') (do
      op (.ppiDisable .channel27)
      op (.ppiDisable .channel26)) fun _ => Cleaned e m := by
    intro m' h'
    have hstill : Still (m'.exec (.ppiDisable .channel27)) := ⟨h'.radio, h'.ppi22, .inl h'.masked⟩
    refine Still.op h'.still (Platform.Triple.step (B := Cleaned e m) hstill.stable (fun _ _ => trivial)
      (fun m₁ hc => ?_) (Platform.Triple.done (fun _ _ _ he h => ?_) (fun _ _ => trivial) fun _ h => h))
    · obtain ⟨t, w, rfl⟩ := hc
      exact ⟨⟨h'.irqEnabled, h'.radio, h'.ppi22, h'.masked, h'.rxen, h'.sniffer, h'.sem, h'.buffers, h'.esb⟩,
        h'.attempt, h'.timeout, h'.crcStatus⟩
    · exact h.counted (h.still.event (prompt_event he).1)
  have hrx : (m.shorts.disable packetShorts).disabledRxen = false := by
    rw [Shorts.disable, h.rxen, Bool.false_and]
  unfold endAttempt
  refine Still.op ⟨h.radio, h.ppi22, .inr h.clear⟩ ?_
  refine Still.op ⟨h.radio, h.ppi22, .inl rfl⟩ ?_
  refine Still.get ?_ (fun _ _ => rfl) ?_
  · exact ⟨h.radio, h.ppi22, .inl rfl⟩
  show prompt.Triple _ _ (opIf m.esb.ackEnabled _ >>= _) _
  cases m.esb.ackEnabled with
  | false => exact hppi _ ⟨⟨h.irqEnabled, h.radio, h.ppi22, rfl, hrx, hs, h.sem, rfl, h.esb⟩, rfl, rfl, rfl⟩
  | true =>
    -- the handler took the short to RXEN back already
    refine Still.op ⟨h.radio, h.ppi22, .inl rfl⟩
      (hppi _ ⟨⟨h.irqEnabled, h.radio, h.ppi22, rfl, ?_, hs, h.sem, rfl, h.esb⟩, rfl, rfl, rfl⟩)
    show ((m.shorts.disable packetShorts).disable { disabledRxen := true }).disabledRxen = false
    rw [Shorts.disable, hrx, Bool.false_and]

/-- What the code makes of the handler's `timeout` and the CRC status. -/
theorem checkAck_counted {m : Machine} (h : Resting b e m) : prompt.Triple (fun _ => True) (Counted m) checkAck
    fun ackReceived m' => Counted m m' ∧ ackReceived = (!m.timeout && m.crcStatus && e.ackEnabled) := by
  unfold checkAck
  refine Still.get h.still (fun _ _ => rfl) ?_
  cases m.timeout with
  | true => exact Still.done h.still fun m' hc => ⟨hc, rfl⟩
  | false =>
    refine Still.get h.still (fun _ _ => rfl) ?_
    cases m.crcStatus with
    | false => exact Still.done h.still fun m' hc => ⟨hc, rfl⟩
    | true =>
      refine Platform.Triple.read h.still.stable (fun _ _ => trivial) fun m' hc => ?_
      have h' := h.counted hc
      exact Still.done h'.still (fun m₁ hc₁ => ⟨hc.trans hc₁, congrArg Esb.ackEnabled h'.esb⟩) m' (.refl m')

end Code

/-! ## The 200 ms path -/

/-- A call has ended through the 200 ms path. -/
def WasStuck (m : Machine) : Prop := .stuck ∈ m.trace

theorem WasStuck.extends {m m' : Machine} (h : WasStuck m) (he : Extends m m') : WasStuck m' := by
  obtain ⟨es, he⟩ := he
  rw [WasStuck, he]
  exact List.mem_append_left es h

theorem stable_wasStuck : prompt.Stable WasStuck := fun _ _ _ he h => h.extends (event_extends (prompt_event he).1)

theorem triple_wasStuck {α : Type} (t : Code α) : prompt.Triple (fun _ => True) WasStuck t fun _ => WasStuck :=
  Platform.Triple.invariant (fun i m h => h.extends (exec_extends i m)) stable_wasStuck (fun _ _ => trivial) t

theorem resetRadio_wasStuck : prompt.Triple (fun _ => True) (fun _ => True) resetRadio fun _ => WasStuck :=
  Platform.Triple.step (B := WasStuck) (fun _ _ _ _ _ => trivial) (fun _ _ => trivial)
    (fun m _ => List.mem_append_right m.trace List.mem_cons_self) (triple_wasStuck _)

/-! ## The attempt loop -/

/-- What the loop of the code gives is what the sequential loop gives for some attempts. -/
def LoopAgrees (b : SendBuffers) (e : Esb) (left n : Nat) (r : Option (Bool × Nat)) (m : Machine) : Prop :=
  match r with
  | none => WasStuck m
  | some (ackReceived, arcCounter) => ∃ as : Nat → Attempt,
    (attemptLoop b.packet left as n b.ack e).stuck = false ∧
    (attemptLoop b.packet left as n b.ack e).arcCounter = arcCounter ∧
    (attemptLoop b.packet left as n b.ack e).ackReceived = ackReceived ∧
    Resting { b with ack := (attemptLoop b.packet left as n b.ack e).ack }
      (attemptLoop b.packet left as n b.ack e).esb m

section Loop

variable {b : SendBuffers} {e : Esb}

/-- One attempt, with what follows it. -/
theorem attempt_triple {next : Bool → Code (Option (Bool × Nat))} {Q : Option (Bool × Nat) → Machine → Prop}
    (hs : e.snifferActive = false) (hstuck : ∀ m, WasStuck m → Q none m)
    (h : ∀ (rx : Option RxFrame) (timeout crcOk : Bool), prompt.Triple (fun _ => True)
      (Resting { b with ack := receiveAck rx (emptied b).ack (transmit b.packet e) } (transmit b.packet e))
      (next (!timeout && crcOk && e.ackEnabled)) Q) :
    prompt.Triple (fun _ => True) (Resting b e) (do
      startAttempt
      if ← semTake true then
        endAttempt
        let ackReceived ← checkAck
        next ackReceived
      else
        resetRadio
        return none) Q := by
  refine startAttempt_waiting.bind fun _ => semTake_completed.bind fun taken => ?_
  cases taken with
  | true =>
    intro m hm
    have hc : Completed (emptied b) (transmit b.packet e) m := hm rfl
    obtain ⟨rx, hrx⟩ := hc.buffers
    refine ((endAttempt_cleaned (e := transmit b.packet e) hs hc).bind fun _ => ?_) m (.refl m)
    intro m₁ h₁
    refine ((checkAck_counted h₁.toResting).bind fun ackReceived => ?_) m₁ (.refl m₁)
    rintro m₂ ⟨h₂, rfl⟩
    have hrest := h₁.toResting.counted h₂
    rw [hrx] at hrest
    exact h rx m₁.timeout m₁.crcStatus m₂ hrest
  | false =>
    refine (resetRadio_wasStuck.pre fun _ _ => trivial).bind fun _ => ?_
    exact Platform.Triple.done stable_wasStuck (fun _ _ => trivial) hstuck

/-- The code looks at `ack_enabled` between attempts. -/
theorem triple_ackEnabled {α : Type} {k : Bool → Code α} {Q : α → Machine → Prop}
    (h : ∀ m, Resting b e m → prompt.Triple (fun _ => True) (Counted m) (k e.ackEnabled) Q) :
    prompt.Triple (fun _ => True) (Resting b e) (get (·.esb.ackEnabled) >>= k) Q := by
  intro m hm
  have hack : m.esb.ackEnabled = e.ackEnabled := congrArg Esb.ackEnabled hm.esb
  refine Still.get hm.still (fun _ _ => rfl) ?_ m (.refl m)
  rw [hack]
  exact h m hm

/-- The loop ends behind this attempt. -/
theorem LoopAgrees.ends {rx : Option RxFrame} {timeout crcOk : Bool} {left : Nat}
    (h : left = 0 ∨ (!timeout && crcOk && e.ackEnabled || !e.ackEnabled) = true) (n : Nat) {m : Machine}
    (hm : Resting { b with ack := receiveAck rx (emptied b).ack (transmit b.packet e) } (transmit b.packet e) m) :
    LoopAgrees b e left n (some (!timeout && crcOk && e.ackEnabled, n + 1)) m := by
  let as : Nat → Attempt := fun _ => .done rx timeout crcOk
  have hends : left = 0 ∨ (as 0).ends e.ackEnabled = true := h
  have hl := attemptLoop_ends hends b.packet n b.ack
  refine ⟨as, ?_⟩
  rw [hl]
  exact ⟨rfl, rfl, rfl, hm⟩

/-- The loop goes on behind this attempt. -/
theorem LoopAgrees.again (rx : Option RxFrame) {timeout crcOk : Bool}
    (h : (!timeout && crcOk && e.ackEnabled || !e.ackEnabled) = false) {left n : Nat} {r : Option (Bool × Nat)}
    {m : Machine}
    (hm : LoopAgrees { b with ack := receiveAck rx (emptied b).ack (transmit b.packet e) } (transmit b.packet e) left
      (n + 1) r m) : LoopAgrees b e (left + 1) n r m := by
  cases r with
  | none => exact hm
  | some r =>
    obtain ⟨as, hm⟩ := hm
    -- this attempt, then those of the rest of the loop
    let as' : Nat → Attempt := fun k => if k = 0 then .done rx timeout crcOk else as (k - 1)
    have hl : attemptLoop b.packet (left + 1) as' n b.ack e = attemptLoop b.packet left as (n + 1)
        (receiveAck rx (emptied b).ack (transmit b.packet e)) (transmit b.packet e) := by
      rw [attemptLoop]
      exact if_neg (Bool.eq_false_iff.mp h)
    refine ⟨as', ?_⟩
    rw [hl]
    exact hm

theorem attempts_agrees : ∀ (left n : Nat) {b : SendBuffers} {e : Esb}, e.snifferActive = false →
    prompt.Triple (fun _ => True) (Resting b e) (attempts left n) (LoopAgrees b e left n) := by
  intro left
  induction left with
  | zero =>
    intro n b e hs
    refine attempt_triple hs (fun _ h => h) fun rx timeout crcOk => ?_
    refine triple_ackEnabled fun m h => ?_
    have hdone := Still.done (P := prompt) (Q := LoopAgrees b e 0 n)
      (a := some (!timeout && crcOk && e.ackEnabled, n + 1)) h.still
      fun m' hc => LoopAgrees.ends (.inl rfl) n (h.counted hc)
    split <;> exact hdone
  | succ left ih =>
    intro n b e hs
    refine attempt_triple hs (fun _ h => h) fun rx timeout crcOk => ?_
    refine triple_ackEnabled fun m h => ?_
    split
    · rename_i hc
      exact Still.done h.still fun m' hm => LoopAgrees.ends (.inr hc) n (h.counted hm)
    · rename_i hc
      have hagain := (ih (n + 1) (e := transmit b.packet e) hs).post fun _ _ h =>
        LoopAgrees.again (b := b) rx (eq_false_of_ne_true hc) h
      exact hagain.pre fun m' hm => h.counted hm

end Loop

/-! ## Calls -/

/-- The call did what the sequential function does in some surroundings with the same random values. -/
def SendAgrees (packetDraw ackDraw : UInt32) (b : SendBuffers) (e : Esb) (acked : Bool) (m : Machine) : Prop :=
  WasStuck m ∨ ∃ x : Exchange, x.packetDraw = packetDraw ∧ x.ackDraw = ackDraw ∧
    (Crazyradio.esbSendPacket x b e).1 = acked ∧
    Resting (Crazyradio.esbSendPacket x b e).2.1 (Crazyradio.esbSendPacket x b e).2.2 m

theorem SendAgrees.exit {packetDraw : UInt32} (ackDraw : UInt32) {b : SendBuffers} {e : Esb} {m : Machine}
    (h : e.sends packetDraw = false) (hm : Resting b e m) : SendAgrees packetDraw ackDraw b e false m := by
  have hx : Crazyradio.esbSendPacket { Exchange.silent with packetDraw, ackDraw } b e = (false, b, e) :=
    esbSendPacket_exit h
  refine .inr ⟨{ Exchange.silent with packetDraw, ackDraw }, rfl, rfl, ?_⟩
  rw [hx]
  exact ⟨rfl, hm⟩

/-- `esb_send_packet` behind its attempt loop. -/
def report (ackDraw : UInt32) : Option (Bool × Nat) → Code Bool
  | none => return false
  | some (ackReceived, arcCounter) => do
    op .storeRssi
    op (.buffers fun b => { b with retry := UInt8.ofNat (arcCounter - 1) })
    let dropped := lossHits (← get (·.esb.ackLossPercent)) ackDraw
    op .mutexUnlock
    return ackReceived && !dropped

/-- The machine of a call that starts its attempt loop: the packet has its PID. -/
def Machine.started (m : Machine) : Machine :=
  { m with
    radioBusy := true
    buffers := { m.buffers with packet := { m.buffers.packet with s1 := ackS1 m.esb.pid } }
    esb := { m.esb with pid := m.esb.pid + 1 } }

section Call

variable {P : Platform Op Event Machine} [Prompt P] {b : SendBuffers} {e : Esb} {m : Machine}

/-- The early exits change nothing. -/
theorem esbSendPacket_exits (h : Resting b e m) {packetDraw : UInt32} (hs : e.sends packetDraw = false)
    (ackDraw : UInt32) : P.Triple (fun _ => True) (Counted m) (esbSendPacket packetDraw ackDraw)
      fun r m' => r = false ∧ Resting b e m' := by
  have hsends : e.sends packetDraw = (!(!e.isInit || (e.continuousCarrierEnabled || e.snifferActive)) &&
      !lossHits e.packetLossPercent packetDraw) := rfl
  unfold esbSendPacket
  refine Still.get h.still (fun _ _ => rfl) ?_
  rw [h.esb]
  cases hi : e.isInit with
  | false => exact Still.done h.still fun m' hc => ⟨rfl, h.counted hc⟩
  | true =>
    refine Still.get h.still (fun _ _ => rfl) ?_
    rw [h.esb]
    cases hr : e.continuousCarrierEnabled || e.snifferActive with
    | true => exact Still.done h.still fun m' hc => ⟨rfl, h.counted hc⟩
    | false =>
      refine Still.op h.still ?_
      refine Still.get ?_ (fun _ _ => rfl) ?_
      · exact ⟨h.radio, h.ppi22, .inl h.masked⟩
      have hl : lossHits e.packetLossPercent packetDraw = true := by simpa [hsends, hi, hr] using hs
      show P.Triple _ _ (if lossHits m.esb.packetLossPercent packetDraw then _ else _) _
      rw [h.esb, hl]
      refine Still.op ⟨h.radio, h.ppi22, .inl h.masked⟩ (Still.done ?_ fun m' hc => ⟨rfl, Resting.counted ?_ hc⟩)
      · exact ⟨h.radio, h.ppi22, .inl h.masked⟩
      · exact ⟨h.irqEnabled, h.radio, h.ppi22, h.masked, h.rxen, h.sniffer, h.sem, h.buffers, h.esb⟩

theorem Resting.started (h : Resting b e m) : Resting { b with packet := { b.packet with s1 := ackS1 e.pid } }
    { e with pid := e.pid + 1 } m.started := by
  refine ⟨h.irqEnabled, h.radio, h.ppi22, h.masked, h.rxen, h.sniffer, h.sem, ?_, ?_⟩
  · show { m.buffers with packet := { m.buffers.packet with s1 := ackS1 m.esb.pid } } = _
    rw [h.buffers, h.esb]
  · show { m.esb with pid := m.esb.pid + 1 } = _
    rw [h.esb]

/-- Past the early exits the packet gets its PID, and the loop starts. -/
theorem esbSendPacket_starts (h : Resting b e m) {packetDraw : UInt32} (hs : e.sends packetDraw = true)
    {ackDraw : UInt32} {Q : Bool → Machine → Prop}
    (hk : P.Triple (fun _ => True) (Counted m.started) (attempts e.arc 0 >>= report ackDraw) Q) :
    P.Triple (fun _ => True) (Counted m) (esbSendPacket packetDraw ackDraw) Q := by
  obtain ⟨⟨hi, hr⟩, hl⟩ : (e.isInit = true ∧ (e.continuousCarrierEnabled || e.snifferActive) = false) ∧
      lossHits e.packetLossPercent packetDraw = false := by
    simpa [Esb.sends, Esb.refuses] using hs
  unfold esbSendPacket
  refine Still.get h.still (fun _ _ => rfl) ?_
  rw [h.esb, hi]
  refine Still.get h.still (fun _ _ => rfl) ?_
  rw [h.esb, hr]
  refine Still.op h.still ?_
  refine Still.get ?_ (fun _ _ => rfl) ?_
  · exact ⟨h.radio, h.ppi22, .inl h.masked⟩
  show P.Triple _ _ (if lossHits m.esb.packetLossPercent packetDraw then _ else _) _
  rw [h.esb, hl]
  refine Still.get ?_ (fun _ _ => rfl) ?_
  · exact ⟨h.radio, h.ppi22, .inl h.masked⟩
  refine Still.op ⟨h.radio, h.ppi22, .inl h.masked⟩ ?_
  dsimp only [Machine.exec]
  refine Still.op ⟨h.radio, h.ppi22, .inl h.masked⟩ ?_
  dsimp only [Machine.exec]
  refine Still.get ?_ (fun _ _ => rfl) ?_
  · exact ⟨h.radio, h.ppi22, .inl h.masked⟩
  have he := h.esb
  subst he
  exact hk

/-- What the call reports once the loop has ended. -/
theorem report_reports (h : Resting b e m) (ackDraw : UInt32) (ackReceived : Bool) (arcCounter : Nat) :
    P.Triple (fun _ => True) (Counted m) (report ackDraw (some (ackReceived, arcCounter))) fun r m' =>
      r = (ackReceived && !lossHits e.ackLossPercent ackDraw) ∧
      Resting { b with rssi := m.rssiSample, retry := UInt8.ofNat (arcCounter - 1) } e m' := by
  have hbuf : { m.buffers with rssi := m.rssiSample, retry := UInt8.ofNat (arcCounter - 1) } =
      { b with rssi := m.rssiSample, retry := UInt8.ofNat (arcCounter - 1) } := by
    rw [h.buffers]
  have hloss : m.esb.ackLossPercent = e.ackLossPercent := congrArg Esb.ackLossPercent h.esb
  refine Still.op h.still ?_
  dsimp only [Machine.exec]
  refine Still.op ⟨h.radio, h.ppi22, .inl h.masked⟩ ?_
  dsimp only [Machine.exec]
  refine Still.get ?_ (fun _ _ => rfl) ?_
  · exact ⟨h.radio, h.ppi22, .inl h.masked⟩
  dsimp only
  rw [hloss]
  refine Still.op ⟨h.radio, h.ppi22, .inl h.masked⟩ (Still.done ?_ fun m' hc => ⟨rfl, Resting.counted ?_ hc⟩)
  · exact ⟨h.radio, h.ppi22, .inl h.masked⟩
  · exact ⟨h.irqEnabled, h.radio, h.ppi22, h.masked, h.rxen, h.sniffer, h.sem, hbuf, h.esb⟩

end Call

theorem report_agrees {packetDraw ackDraw : UInt32} {b : SendBuffers} {e : Esb} (hs : e.sends packetDraw = true)
    {ackReceived : Bool} {arcCounter : Nat} : prompt.Triple (fun _ => True)
      (LoopAgrees { b with packet := { b.packet with s1 := ackS1 e.pid } } { e with pid := e.pid + 1 } e.arc 0
        (some (ackReceived, arcCounter)))
      (report ackDraw (some (ackReceived, arcCounter))) (SendAgrees packetDraw ackDraw b e) := by
  rintro m ⟨as, hstuck, hcount, hack, h⟩
  generalize hl : attemptLoop _ e.arc as 0 _ _ = l at hstuck hcount hack h
  refine ((report_reports h ackDraw ackReceived arcCounter).post ?_) m (.refl m)
  -- the surroundings: the attempts of the loop, and the RSSI sample as it is now
  rintro r m' ⟨rfl, h'⟩
  let x : Exchange := { packetDraw, attempts := as, rssi := m.rssiSample, ackDraw }
  have hx : Crazyradio.esbSendPacket x b e = _ := esbSendPacket_loop (x := x) (b := b) (e := e) hs hl hstuck
  rw [hcount, hack] at hx
  refine .inr ⟨x, rfl, rfl, ?_⟩
  rw [hx]
  exact ⟨rfl, h'⟩

theorem esbSendPacket_agrees (packetDraw ackDraw : UInt32) (b : SendBuffers) (e : Esb) :
    prompt.Triple (fun _ => True) (Resting b e) (esbSendPacket packetDraw ackDraw)
      (SendAgrees packetDraw ackDraw b e) := by
  intro m h
  cases hs : e.sends packetDraw with
  | false =>
    refine ((esbSendPacket_exits h hs ackDraw).post ?_) m (.refl m)
    rintro r m' ⟨rfl, h'⟩
    exact .exit ackDraw hs h'
  | true =>
    refine esbSendPacket_starts h hs ?_ m (.refl m)
    have hloop := attempts_agrees e.arc 0 (b := { b with packet := { b.packet with s1 := ackS1 e.pid } })
      (e := { e with pid := e.pid + 1 }) h.sniffer
    refine (hloop.pre fun m' hc => h.started.counted hc).bind fun r => ?_
    cases r with
    | none => exact Platform.Triple.done stable_wasStuck (fun _ _ => trivial) fun _ h => .inl h
    | some r => exact report_agrees hs

/-- What a call leaves in the buffers and the driver, as its caller sees it. -/
inductive Serves : Call → SendBuffers → Esb → SendBuffers → Esb → Prop
  | sendPacket (x : Exchange) (packet : EsbPacket) (b : SendBuffers) (e : Esb) :
    Serves (.sendPacket packet x.packetDraw x.ackDraw) b e (Crazyradio.esbSendPacket x { b with packet } e).2.1
      (Crazyradio.esbSendPacket x { b with packet } e).2.2
  | setting (s : Setting) (b : SendBuffers) (e : Esb) : Serves (.setting s) b e b (s.apply e)

/-- Calls one behind the other. -/
inductive ServesAll : List Call → SendBuffers → Esb → SendBuffers → Esb → Prop
  | nil (b : SendBuffers) (e : Esb) : ServesAll [] b e b e
  | cons {c : Call} {cs : List Call} {b b₁ b₂ : SendBuffers} {e e₁ e₂ : Esb} (h : Serves c b e b₁ e₁)
    (hs : ServesAll cs b₁ e₁ b₂ e₂) : ServesAll (c :: cs) b e b₂ e₂

theorem call_agrees {c : Call} (hc : c.Sends) (b : SendBuffers) (e : Esb) :
    prompt.Triple (fun _ => True) (Resting b e) c.code
      fun _ m => WasStuck m ∨ ∃ b' e', Serves c b e b' e' ∧ Resting b' e' m := by
  cases c with
  | sendPacket packet packetDraw ackDraw =>
    intro m h
    suffices ht : prompt.Triple (fun _ => True) (Counted m) (Call.sendPacket packet packetDraw ackDraw).code
        fun _ m => WasStuck m ∨ ∃ b' e', Serves (.sendPacket packet packetDraw ackDraw) b e b' e' ∧ Resting b' e' m from
      ht m (.refl m)
    refine Still.op h.still ?_
    refine ((esbSendPacket_agrees packetDraw ackDraw { b with packet } e).pre fun m' hc => Resting.counted ?_ hc).bind
      fun acked => ?_
    · exact ⟨h.irqEnabled, h.radio, h.ppi22, h.masked, h.rxen, h.sniffer, h.sem,
        congrArg (fun b : SendBuffers => { b with packet }) h.buffers, h.esb⟩
    · rintro m₁ (hm | ⟨x, rfl, rfl, -, hm⟩)
      · exact (triple_wasStuck _ m₁ hm).post fun _ _ h => .inl h
      · exact Platform.Triple.done stable_resting (fun _ _ => trivial)
          (fun _ h => .inr ⟨_, _, .sendPacket x packet b e, h⟩) m₁ hm
  | setting s =>
    intro m h
    suffices ht : prompt.Triple (fun _ => True) (Counted m) (Call.setting s).code
        fun _ m => WasStuck m ∨ ∃ b' e', Serves (.setting s) b e b' e' ∧ Resting b' e' m from ht m (.refl m)
    refine Still.op h.still ?_
    refine Still.op ⟨h.radio, h.ppi22, .inl h.masked⟩ ?_
    refine Platform.Triple.step (B := Resting b (s.apply e)) (Still.stable ⟨h.radio, h.ppi22, .inl h.masked⟩)
      (fun _ _ => trivial) (fun m' hc => ?_)
      (Platform.Triple.done stable_resting (fun _ _ => trivial) fun _ h => .inr ⟨_, _, .setting s b e, h⟩)
    obtain ⟨t, w, rfl⟩ := hc
    exact ⟨h.irqEnabled, h.radio, h.ppi22, h.masked, h.rxen, (setting_sniffer s e).trans h.sniffer, h.sem, h.buffers,
      congrArg s.apply h.esb⟩
  | _ => exact hc.elim

theorem session_agrees : ∀ {calls : List Call}, (∀ c ∈ calls, c.Sends) → ∀ (b : SendBuffers) (e : Esb),
    prompt.Triple (fun _ => True) (Resting b e) (session calls)
      fun _ m => WasStuck m ∨ ∃ b' e', ServesAll calls b e b' e' ∧ Resting b' e' m
  | [], _, b, e => Platform.Triple.done stable_resting (fun _ _ => trivial) fun _ h => .inr ⟨b, e, .nil b e, h⟩
  | c :: cs, hc, b, e => by
    refine (call_agrees (hc c List.mem_cons_self) b e).bind fun _ => ?_
    rintro m (hm | ⟨b₁, e₁, hserves, hm⟩)
    · exact (triple_wasStuck _ m hm).post fun _ _ h => .inl h
    · refine (session_agrees (fun c' h => hc c' (List.mem_cons_of_mem c h)) b₁ e₁ m hm).post fun _ m' h => ?_
      rcases h with h | ⟨b₂, e₂, hs, h⟩
      · exact .inl h
      · exact .inr ⟨b₂, e₂, .cons hserves hs, h⟩

theorem resting_boot : Resting {} (esbInit {}) .boot := ⟨rfl, rfl, rfl, rfl, rfl, rfl, rfl, rfl, rfl⟩

/-- A session of sends and settings on the machine with a prompt handler, none of which ended
through the 200 ms path, leaves the buffers, statics and registers and the log of packets and
register writes that the sequential functions leave. -/
theorem session_refines {calls : List Call} (hc : ∀ c ∈ calls, c.Sends) {cs : List (Choice Event)} {m : Machine}
    (h : prompt.run cs (session calls) .boot = some (.done (), m)) (hs : .stuck ∉ m.trace) :
    ServesAll calls {} (esbInit {}) m.buffers m.esb := by
  have hsafe := (session_agrees hc {} (esbInit {}) .boot resting_boot).run cs h
  rcases (hsafe m .refl).2 with hstuck | ⟨b, e, hserves, hm⟩
  · exact absurd hstuck hs
  · rw [hm.buffers, hm.esb]
    exact hserves

/-- One acked call. -/
theorem session_refines_acked : ∃ m,
    prompt.run (threadSteps 21 ++ hardware ackedAttempt ++ threadSteps 15) (session [.sendPacket {} 0 0]) .boot =
      some (.done (), m) ∧ .stuck ∉ m.trace ∧ ServesAll [.sendPacket {} 0 0] {} (esbInit {}) m.buffers m.esb := by
  obtain ⟨m, h, ht⟩ : ∃ m, prompt.run (threadSteps 21 ++ hardware ackedAttempt ++ threadSteps 15)
      (session [.sendPacket {} 0 0]) .boot = some (.done (), m) ∧
      m.trace = [.txen 0, .verdict false (some { latched := false }), .taken 1 1] := ⟨_, rfl, rfl⟩
  have hs : .stuck ∉ m.trace := by
    rw [ht]
    decide
  exact ⟨m, h, hs, session_refines (by simp [Call.Sends]) h hs⟩

end Crazyradio.Driver
