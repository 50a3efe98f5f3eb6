/-
Retransmission. A call of `esb_send_packet` puts its packet on the air once for each attempt up to
the first with a valid ack, `arc + 1` times if there is none and once without auto-ack; what it
returns, `*retry` and the ack buffer are those of the last attempt. This holds for the threads on a
machine at rest, whatever `sending` and `timeout` are when the call starts and whatever the attempts
come to.
-/
import Crazyradio.Driver.Outcome
import Crazyradio.Driver.Stuck
import Crazyradio.Lib.Words

namespace Crazyradio.Driver

open Bytes Threads

/-! ## The attempts of a call -/

/-- The attempts a call makes when its `i`-th attempt has the outcome `os i`: up to the first with a
valid ack, at most `arc + 1`, and one without auto-ack. -/
def attemptsMade (ackEnabled : Bool) (arc : Nat) (os : Nat → Outcome) : Nat :=
  if ackEnabled then ((List.range' 1 (arc + 1)).find? fun i => (os i).isAck).getD (arc + 1) else 1

theorem attemptsMade_ack {os : Nat → Outcome} (h : (os 1).isAck = true) (ackEnabled : Bool) (arc : Nat) :
    attemptsMade ackEnabled arc os = 1 := by
  unfold attemptsMade
  rw [List.range'_succ, List.find?_cons_of_pos (p := fun i => (os i).isAck) h]
  exact ite_self 1

theorem attemptsMade_zero (ackEnabled : Bool) (os : Nat → Outcome) : attemptsMade ackEnabled 0 os = 1 := by
  cases h : (os 1).isAck with
  | true => exact attemptsMade_ack h ackEnabled 0
  | false =>
    unfold attemptsMade
    rw [List.range'_succ, List.find?_cons_of_neg (p := fun i => (os i).isAck) (by rw [h]; exact Bool.false_ne_true)]
    exact ite_self 1

/-- Behind an attempt without an ack the rest of the call counts the same way. -/
theorem attemptsMade_again {os : Nat → Outcome} (h : (os 1).isAck = false) (arc : Nat) :
    attemptsMade true (arc + 1) os = attemptsMade true arc (fun i => os (i + 1)) + 1 := by
  unfold attemptsMade
  rw [List.range'_succ, List.find?_cons_of_neg (p := fun i => (os i).isAck) (by rw [h]; exact Bool.false_ne_true),
    List.range'_succ_left, List.find?_map, if_pos rfl, if_pos rfl]
  show (((List.range' 1 (arc + 1)).find? fun i => (os (i + 1)).isAck).map (· + 1)).getD (arc + 1 + 1) = _
  cases (List.range' 1 (arc + 1)).find? fun i => (os (i + 1)).isAck with
  | none => rfl
  | some i => rfl

/-- At least one attempt and at most `arc + 1`. -/
theorem attemptsMade_bounds (ackEnabled : Bool) : ∀ (arc : Nat) (os : Nat → Outcome),
    0 < attemptsMade ackEnabled arc os ∧ attemptsMade ackEnabled arc os ≤ arc + 1
  | 0, os => by rw [attemptsMade_zero]; exact ⟨Nat.zero_lt_one, Nat.le_refl 1⟩
  | arc + 1, os => by
    cases ackEnabled with
    | false => exact ⟨Nat.zero_lt_one, Nat.le_add_left 1 (arc + 1)⟩
    | true =>
      cases h : (os 1).isAck with
      | true => rw [attemptsMade_ack h]; exact ⟨Nat.zero_lt_one, Nat.le_add_left 1 (arc + 1)⟩
      | false =>
        rw [attemptsMade_again h]
        have := attemptsMade_bounds true arc fun i => os (i + 1)
        omega

/-! ## One attempt of the code -/

/-- At the head of the loop, `n` attempts in. -/
def Rested (n : Nat) (b : SendBuffers) (e : Esb) (m : Machine) : Prop := Resting b e m ∧ m.attempt = n

/-- Behind `k_sem_take` of an attempt with outcome `o`. -/
structure Judged (o : Outcome) (n : Nat) (b : SendBuffers) (e : Esb) (m : Machine) : Prop extends Completed b e m where
  attempt : m.attempt = n
  verdict : e.ackEnabled = true → o.Verdict b e m

/-- The ack buffer holds the outcome's frame, behind what it held before. -/
def Outcome.Holds (o : Outcome) (e : Esb) (ack : EsbPacket) : Prop :=
  e.ackEnabled = true → ∀ f crcOk, o = .received f crcOk →
    ∃ old : EsbPacket, ack = receiveAck (some f) { old with length := 0 } e

section Code

variable {os : Nat → Outcome} {b : SendBuffers} {e : Esb} {n : Nat}

/-- TXEN starts the next attempt. -/
theorem Prepared.txen {m : Machine} (h : Prepared b e n m) : (m.exec (.txen true)).attempt = n + 1 ∧
    (m.exec (.txen true)).radio = .txRu ∧ Outgoing b e (m.exec (.txen true)) := by
  have ht : m.exec (.txen true) = { { m with attempt := m.attempt + 1 }.note (.txen m.radioXferDone) with
      radio := .txRu, activity := m.attempt + 1 } := if_pos h.radio
  refine ⟨?_, ?_, h.toReady.txen h.sending h.packetptr⟩
  · rw [ht]
    exact congrArg (· + 1) h.attempt
  · rw [ht]

theorem startAttempt_tracks : (scripted os).Triple (fun _ => True) (Rested n b e) startAttempt
    fun _ m => m.attempt = n + 1 ∧ (os (n + 1)).Tracks (emptied b) e m := by
  rintro m ⟨h, rfl⟩
  rw [startAttempt_prepare]
  refine ((prepareAttempt_prepared h).restrict.bind fun _ => ?_) m (.refl m)
  have hstable := stable_tracks os (m.attempt + 1) (emptied b) e
  exact Platform.Triple.step stable_prepared.restrict (fun _ _ => trivial)
    (fun m' h' => ⟨h'.txen.1, .inl h'.txen.2.2⟩) (Platform.Triple.done hstable (fun _ _ => trivial) fun _ h => h)

/-- The semaphore is there when the attempt has come to its outcome. -/
theorem Judged.take {o : Outcome} {m : Machine} (hn : m.attempt = n) (h : o.Follows b e m)
    (hs : 0 < m.radioXferDone) : Judged o n b e (m.exec (.semTake true)) := by
  obtain ⟨ha, hv⟩ := h.arrived hs
  exact ⟨ha.take, hn, fun he => ⟨(hv he).1, (hv he).2.congr rfl rfl⟩⟩

theorem stable_judged {o : Outcome} : prompt.Stable (Judged o n b e) := by
  intro ev m m' he h
  have hc : Counted m m' := Still.event ⟨h.radio, h.ppi22, .inr h.clear⟩ (prompt_event he).1
  exact ⟨stable_completed ev m m' he h.toCompleted, (event_attempt (prompt_event he).1).trans h.attempt,
    fun ha => (h.verdict ha).counted hc⟩

theorem semTake_judged : (scripted os).Triple (fun _ => True)
    (fun m => m.attempt = n ∧ (os n).Tracks b e m) (semTake true)
    fun taken m => taken = true → Judged (os n) n b (transmit b.packet e) m :=
  Platform.Triple.wait (stable_tracks os n b e) (fun _ _ => trivial)
    (fun _ h hs => Judged.take h.1 (h.2.follows (of_decide_eq_true hs)) (of_decide_eq_true hs))
    (Platform.Triple.done stable_judged.restrict (fun _ _ => trivial) fun _ h _ => h) (fun _ _ h => h)
    (Platform.Triple.done (stable_tracks os n b e) (fun _ _ => trivial) fun _ _ hf => nomatch hf)

/-- What the code makes of the verdict. -/
theorem Outcome.Verdict.acked {o : Outcome} {m : Machine} (h : o.Verdict b e m) :
    (!m.timeout && m.crcStatus) = o.isAck := by
  obtain ⟨ht, hh⟩ := h
  cases o with
  | received f crcOk => rw [ht, hh.1]; rfl
  | timeout => rw [ht]; rfl

/-- What the code makes of it, with what it looks at as the clean-up leaves it. -/
theorem Judged.acked {o : Outcome} {m m' : Machine} (h : Judged o n b e m) (h' : Cleaned e m m') :
    (!m'.timeout && m'.crcStatus && e.ackEnabled) = (e.ackEnabled && o.isAck) := by
  rw [h'.timeout, h'.crcStatus]
  cases ha : e.ackEnabled with
  | true => rw [Bool.and_true, Bool.true_and, (h.verdict ha).acked]
  | false => rw [Bool.and_false, Bool.false_and]

/-- The clean-up leaves the attempt behind, with its ack buffer. -/
theorem Judged.rested {o : Outcome} {m m₁ m₂ : Machine} (h : Judged o n (emptied b) e m) (h₁ : Cleaned e m m₁)
    (h₂ : Counted m₁ m₂) : Rested n { b with ack := m.buffers.ack } e m₂ := by
  have hbuf : m.buffers = { b with ack := m.buffers.ack } := by
    obtain ⟨rx, hrx⟩ := h.buffers
    rw [hrx]
    rfl
  have hrest := h₁.toResting.counted h₂
  rw [hbuf] at hrest
  refine ⟨hrest, ?_⟩
  obtain ⟨t, w, rfl⟩ := h₂
  exact h₁.attempt.trans h.attempt

/-- One attempt, with what follows it. -/
theorem attempt_scripted {next : Bool → Code (Option (Bool × Nat))} {Q : Option (Bool × Nat) → Machine → Prop}
    (hs : e.snifferActive = false) (hnone : ∀ m, Q none m)
    (h : ∀ ack, (os (n + 1)).Holds e ack → (scripted os).Triple (fun _ => True)
      (Rested (n + 1) { b with ack } (transmit b.packet e)) (next (e.ackEnabled && (os (n + 1)).isAck)) Q) :
    (scripted os).Triple (fun _ => True) (Rested n b e) (do
      startAttempt
      if ← semTake true then
        endAttempt
        let ackReceived ← checkAck
        next ackReceived
      else
        resetRadio
        return none) Q := by
  refine startAttempt_tracks.bind fun _ => semTake_judged.bind fun taken => ?_
  cases taken with
  | true =>
    intro m hm
    have hj : Judged (os (n + 1)) (n + 1) (emptied b) (transmit b.packet e) m := hm rfl
    have hholds : (os (n + 1)).Holds e m.buffers.ack := by
      intro ha f crcOk ho
      have hh := (hj.verdict ha).2
      rw [ho] at hh
      exact ⟨b.ack, congrArg SendBuffers.ack hh.2⟩
    refine ((endAttempt_cleaned (e := transmit b.packet e) hs hj.toCompleted).restrict.bind fun _ => ?_) m (.refl m)
    intro m₁ h₁
    refine ((checkAck_counted h₁.toResting).restrict.bind fun ackReceived => ?_) m₁ (.refl m₁)
    rintro m₂ ⟨h₂, rfl⟩
    have hack : (!m₁.timeout && m₁.crcStatus && e.ackEnabled) = (e.ackEnabled && (os (n + 1)).isAck) := hj.acked h₁
    show (scripted os).Safe _ Q (next (!m₁.timeout && m₁.crcStatus && e.ackEnabled)) m₂
    rw [hack]
    exact h m.buffers.ack hholds m₂ (hj.rested h₁ h₂)
  | false =>
    have hreset : (scripted os).Triple (fun _ => True) (fun _ => True) resetRadio fun _ _ => True :=
      Platform.Triple.invariant (fun _ _ _ => trivial) (fun _ _ _ _ _ => trivial) (fun _ _ => trivial) resetRadio
    refine (hreset.pre fun _ _ => trivial).bind fun _ => ?_
    exact Platform.Triple.done (fun _ _ _ _ _ => trivial) (fun _ _ => trivial) fun m _ => hnone m

/-! ## The attempt loop -/

theorem stable_rested : prompt.Stable (Rested n b e) := fun ev m m' he h =>
  ⟨stable_resting ev m m' he h.1, (event_attempt (prompt_event he).1).trans h.2⟩

/-- The code looks at `ack_enabled` between attempts. -/
theorem triple_rested_ackEnabled {α : Type} {k : Bool → Code α} {Q : α → Machine → Prop}
    (h : (scripted os).Triple (fun _ => True) (Rested n b e) (k e.ackEnabled) Q) :
    (scripted os).Triple (fun _ => True) (Rested n b e) (get (·.esb.ackEnabled) >>= k) Q := by
  refine Platform.Triple.read stable_rested.restrict (fun _ _ => trivial) fun m hm => ?_
  have hack : m.esb.ackEnabled = e.ackEnabled := congrArg Esb.ackEnabled hm.1.esb
  show (scripted os).Safe _ Q (k m.esb.ackEnabled) m
  rw [hack]
  exact h m hm

end Code

/-- What the loop makes of the outcomes from the `n`-th attempt on. -/
def LoopLaw (os : Nat → Outcome) (n : Nat) (b : SendBuffers) (e : Esb) (left arcCounter : Nat)
    (r : Option (Bool × Nat)) (m : Machine) : Prop :=
  match r with
  | none => True
  | some (ackReceived, count) =>
    let k := attemptsMade e.ackEnabled left fun i => os (n + i)
    count = arcCounter + k ∧ ackReceived = (e.ackEnabled && (os (n + k)).isAck) ∧
      ∃ ack, (os (n + k)).Holds e ack ∧ Rested (n + k) { b with ack } (transmitTimes k b.packet e) m

section Loop

variable {os : Nat → Outcome} {b : SendBuffers} {e : Esb} {n : Nat}

/-- The loop ends behind its next attempt. -/
theorem LoopLaw.ends {left : Nat} (hk : attemptsMade e.ackEnabled left (fun i => os (n + i)) = 1) (arcCounter : Nat)
    {ack : EsbPacket} (hack : (os (n + 1)).Holds e ack) {m : Machine}
    (h : Rested (n + 1) { b with ack } (transmit b.packet e) m) :
    LoopLaw os n b e left arcCounter (some (e.ackEnabled && (os (n + 1)).isAck, arcCounter + 1)) m := by
  simp only [LoopLaw, hk]
  exact ⟨trivial, trivial, ack, hack, h⟩

/-- The loop goes on behind its next attempt. -/
theorem LoopLaw.again (ha : e.ackEnabled = true) (ho : (os (n + 1)).isAck = false) {left arcCounter : Nat}
    {ack : EsbPacket} {r : Option (Bool × Nat)} {m : Machine}
    (h : LoopLaw os (n + 1) { b with ack } (transmit b.packet e) left (arcCounter + 1) r m) :
    LoopLaw os n b e (left + 1) arcCounter r m := by
  have hk : attemptsMade e.ackEnabled (left + 1) (fun i => os (n + i)) =
      attemptsMade e.ackEnabled left (fun i => os (n + 1 + i)) + 1 := by
    have hos : (fun i => os (n + (i + 1))) = fun i => os (n + 1 + i) := funext fun i => congrArg os (by omega)
    rw [ha, attemptsMade_again ho left, hos]
  cases r with
  | none => trivial
  | some r =>
    simp only [LoopLaw] at h ⊢
    have hack : (transmit b.packet e).ackEnabled = e.ackEnabled := rfl
    rw [hack] at h
    rw [hk]
    generalize attemptsMade e.ackEnabled left (fun i => os (n + 1 + i)) = k at h ⊢
    obtain ⟨hc, hr, ack', hack', hm⟩ := h
    rw [transmitTimes_transmit] at hm
    rw [show n + 1 + k = n + (k + 1) by omega] at hr hack' hm
    exact ⟨by omega, hr, ack', hack', hm⟩

/-- The loop ends here: this attempt has an ack or asks for none. -/
theorem attemptsMade_ends {ackEnabled : Bool} {os : Nat → Outcome}
    (h : (ackEnabled && (os 1).isAck || !ackEnabled) = true) (left : Nat) : attemptsMade ackEnabled left os = 1 := by
  cases ackEnabled with
  | false => rfl
  | true => exact attemptsMade_ack (by simpa using h) true left

theorem attempts_law (os : Nat → Outcome) : ∀ (left arcCounter n : Nat) {b : SendBuffers} {e : Esb},
    e.snifferActive = false →
    (scripted os).Triple (fun _ => True) (Rested n b e) (attempts left arcCounter)
      (LoopLaw os n b e left arcCounter) := by
  have hdone : ∀ {left arcCounter n : Nat} {b : SendBuffers} {e : Esb} {ack : EsbPacket},
      attemptsMade e.ackEnabled left (fun i => os (n + i)) = 1 → (os (n + 1)).Holds e ack →
      (scripted os).Triple (fun _ => True) (Rested (n + 1) { b with ack } (transmit b.packet e))
        (pure (some (e.ackEnabled && (os (n + 1)).isAck, arcCounter + 1)) : Code _)
        (LoopLaw os n b e left arcCounter) := fun hk hack =>
    Platform.Triple.done stable_rested.restrict (fun _ _ => trivial) fun _ hm => LoopLaw.ends hk _ hack hm
  intro left
  induction left with
  | zero =>
    intro arcCounter n b e hs
    refine attempt_scripted hs (fun _ => trivial) fun ack hack => triple_rested_ackEnabled ?_
    split <;> exact hdone (attemptsMade_zero _ _) hack
  | succ left ih =>
    intro arcCounter n b e hs
    refine attempt_scripted hs (fun _ => trivial) fun ack hack => triple_rested_ackEnabled ?_
    split
    · rename_i hends
      exact hdone (attemptsMade_ends hends _) hack
    · rename_i hends
      obtain ⟨ha, ho⟩ : e.ackEnabled = true ∧ (os (n + 1)).isAck = false := by
        have : ¬(e.ackEnabled && (os (n + 1)).isAck || !e.ackEnabled) = true := hends
        revert this
        cases e.ackEnabled <;> simp
      exact (ih (arcCounter + 1) (n + 1) (e := transmit b.packet e) hs).post fun _ _ h => LoopLaw.again ha ho h

end Loop

/-! ## The call -/

/-- What a call does whose `i`-th attempt has the outcome `os i`, from the buffers `b` and the driver `e`,
if it makes `k` attempts. -/
structure Retransmits (os : Nat → Outcome) (b : SendBuffers) (e : Esb) (k : Nat) (r : Bool) (m : Machine) : Prop where
  sent : transmissions m.esb.log = transmissions e.log ++
    List.replicate k (onAir e.radio { b.packet with s1 := ackS1 e.pid })
  acked : r = (e.ackEnabled && (os k).isAck)
  retry : m.buffers.retry.toNat = k - 1
  le_arc : k - 1 ≤ e.arc
  arc_le : e.arc ≤ 15
  /-- the upper four bits of a status byte, whatever the flags below them are -/
  field : ∀ flags : UInt8, flags < 16 → ((((m.buffers.retry &&& 0x0f) <<< 4) ||| flags) >>> 4).toNat = k - 1
  ack : r = true → ∃ f, os k = .received f true ∧ m.buffers.ack.length = f.length ∧ m.buffers.ack.s1 = f.s1 ∧
    m.buffers.ack.data.read 0 (min f.length.toNat e.radio.maxlen) = f.payload.read 0 (min f.length.toNat e.radio.maxlen)

theorem Retransmits.of_loop (os : Nat → Outcome) {b : SendBuffers} {e : Esb} {k : Nat} {ack : EsbPacket}
    (hack : (os k).Holds e ack) (hk : k - 1 ≤ e.arc) (harc : e.arc ≤ 15) {rssi : UInt8} {m : Machine}
    (h : Resting { b with packet := { b.packet with s1 := ackS1 e.pid }, ack, rssi, retry := UInt8.ofNat (k - 1) }
      (transmitTimes k { b.packet with s1 := ackS1 e.pid } { e with pid := e.pid + 1 }) m) :
    Retransmits os b e k (e.ackEnabled && (os k).isAck) m := by
  have hretry : m.buffers.retry.toNat = k - 1 := by
    rw [h.buffers]
    exact UInt8.toNat_ofNat_of_lt' (Nat.lt_of_le_of_lt (Nat.le_trans hk harc) (by decide))
  constructor
  · rw [h.esb]
    simp only [transmitTimes, transmissions_append, transmissions_replicate]
  · rfl
  · exact hretry
  · exact hk
  · exact harc
  · intro flags hf
    rw [Words.shiftRight_halves _ hf, hretry]
    rw [UInt8.lt_iff_toNat_lt, hretry]
    exact Nat.lt_succ_of_le (Nat.le_trans hk harc)
  · intro hr
    obtain ⟨ha, ho⟩ := Bool.and_eq_true_iff.mp hr
    cases hlast : os k with
    | timeout => rw [hlast] at ho; cases ho
    | received f crcOk =>
      obtain rfl : crcOk = true := by rwa [hlast] at ho
      obtain ⟨old, rfl⟩ := hack ha f true hlast
      have hreceive : receiveAck (some f) { old with length := 0 } e = EsbPacket.receive { old with length := 0 }
          e.radio.maxlen f := if_pos ha
      rw [h.buffers, hreceive]
      exact ⟨f, rfl, rfl, rfl, EsbPacket.read_receive _ f⟩

theorem esbSendPacket_retransmits {os : Nat → Outcome} {b : SendBuffers} {e : Esb} {m : Machine} (h : Resting b e m)
    {packetDraw : UInt32} (hs : e.sends packetDraw = true) (hloss : e.ackLossPercent = 0) (harc : e.arc ≤ 15)
    (ackDraw : UInt32) : (scripted os).Triple (fun _ => True) (Counted m) (esbSendPacket packetDraw ackDraw)
      fun r m' => m'.stuckCalls = m.stuckCalls + 1 ∨
        Retransmits (fun i => os (m.attempt + i)) b e
          (attemptsMade e.ackEnabled e.arc fun i => os (m.attempt + i)) r m' := by
  refine esbSendPacket_starts h hs ?_
  have hlaw := attempts_law os e.arc 0 m.attempt (b := { b with packet := { b.packet with s1 := ackS1 e.pid } })
    (e := { e with pid := e.pid + 1 }) h.sniffer
  have hends : (scripted os).Triple (fun _ => True) _ _ _ := (attempts_ends e.arc 0 m.stuckCalls).restrict.restrict
  have hloop : (scripted os).Triple (fun _ => True) _ _ _ := fun m' (hm : _ ∧ _) => (hlaw m' hm.1).and (hends m' hm.2)
  refine (hloop.pre fun m' hc => ?_).bind fun r => ?_
  · have hrest := h.started.counted hc
    obtain ⟨t, w, rfl⟩ := hc
    exact ⟨⟨hrest, rfl⟩, rfl⟩
  cases r with
  | none =>
    have hstable := stable_wiring (m.stuckCalls + 1) Wiring.Abandoned
    refine Platform.Triple.pre (B := fun m' : Machine => m'.stuckCalls = m.stuckCalls + 1 ∧ m'.wiring.Abandoned)
      ?_ fun _ h => h.2
    exact Platform.Triple.done hstable.restrict.restrict (fun _ _ => trivial) fun _ h => .inl h.1
  | some r =>
    rintro m₁ ⟨⟨hcount, hack, ack, hholds, hrest, -⟩, -⟩
    refine ((report_reports hrest ackDraw r.1 r.2).post ?_) m₁ (.refl m₁)
    rintro acked m₂ ⟨rfl, h₂⟩
    right
    rw [hcount, Nat.zero_add] at h₂
    have hk := Nat.sub_le_of_le_add (attemptsMade_bounds e.ackEnabled e.arc fun i => os (m.attempt + i)).2
    have hacked : (r.1 && !lossHits e.ackLossPercent ackDraw) = (e.ackEnabled && (os (m.attempt +
        attemptsMade e.ackEnabled e.arc fun i => os (m.attempt + i))).isAck) := by
      rw [hack, hloss]
      exact Bool.and_true _
    show Retransmits _ b e _ (r.1 && !lossHits e.ackLossPercent ackDraw) m₂
    rw [hacked]
    exact Retransmits.of_loop (fun i => os (m.attempt + i)) (e := e) hholds hk harc h₂

/-! ## Every sequence of outcomes -/

/-- COMPARE1 is the hardware's and the handler's. -/
theorem compare1_exec (i : Op) (m : Machine) : (m.exec i).timer.compare1 = m.timer.compare1 := by
  cases i with
  | txen ofAttempt =>
    cases ofAttempt with
    | true => exact (same_taskTxen _).compare1
    | false => exact (same_taskTxen m).compare1
  | rxen => exact (same_rel.taskRxen m).compare1
  | disable => exact (same_rel.taskDisable m).compare1
  | ppiEnable c => exact (same_ppiSet c true m).compare1
  | ppiDisable c => exact (same_ppiSet c false m).compare1
  | semTake ofAttempt => cases ofAttempt <;> rfl
  | _ => rfl

theorem straight_op (i : Op) : (op i).Straight := trivial

theorem straight_opIf (c : Bool) (i : Op) : (opIf c i).Straight := by
  cases c <;> trivial

theorem straight_get {α : Type} (f : Machine → α) : (get f).Straight := fun _ => trivial

theorem prepareAttempt_straight : prepareAttempt.Straight := by
  refine (straight_op _).bind fun _ => (straight_op _).bind fun _ => (straight_op _).bind fun _ => ?_
  refine (straight_get _).bind fun ackEnabled => (straight_opIf ackEnabled _).bind fun _ => ?_
  refine (straight_op _).bind fun _ => (straight_op _).bind fun _ => (straight_op _).bind fun _ => ?_
  exact (straight_op _).bind fun _ => (straight_op _).bind fun _ => straight_op _

theorem endAttempt_straight : endAttempt.Straight := by
  refine (straight_op _).bind fun _ => (straight_op _).bind fun _ => (straight_get _).bind fun ackEnabled => ?_
  exact (straight_opIf ackEnabled _).bind fun _ => (straight_op _).bind fun _ => straight_op _

theorem checkAck_straight : checkAck.Straight := by
  refine (straight_get _).bind fun timeout => ?_
  cases timeout with
  | true => trivial
  | false =>
    refine (straight_get _).bind fun crcOk => ?_
    cases crcOk with
    | true => exact straight_get _
    | false => trivial

section Runs

variable {os : Nat → Outcome} {b : SendBuffers} {e : Esb} {n : Nat}

/-- An attempt can come to its outcome, and to the semaphore. -/
theorem startAttempt_canEnd {m : Machine} (h : Rested n b e m)
    (hc : m.timer.compare1 = false ∨ (os (n + 1)).isTimeout = true) :
    (scripted os).CanEnd (fun _ m' => (m'.attempt = n + 1 ∧ (os (n + 1)).Tracks (emptied b) e m') ∧
      m'.radioXferDone = 1 ∧ (e.ackEnabled = true → m'.timer.compare1 = false)) startAttempt m := by
  obtain ⟨h, rfl⟩ := h
  rw [startAttempt_prepare]
  have hprep := Platform.CanEnd.straight (P := scripted os) (J := fun m' => m'.timer.compare1 = m.timer.compare1)
    (fun i m' hm => (compare1_exec i m').trans hm) prepareAttempt_straight rfl
  refine (hprep.safe ((prepareAttempt_prepared h).restrict m (.refl m))).bind fun _ m₁ h₁ => ?_
  obtain ⟨hc₁, h₁⟩ := h₁
  obtain ⟨hn, hr, hout⟩ := h₁.txen
  rw [← hc₁, ← compare1_exec (.txen true) m₁, ← hn] at hc
  obtain ⟨m₂, hrely, hs, hc₂⟩ := hout.rely_arrived hr hc
  refine Platform.CanEnd.step ?_
  refine Platform.CanEnd.rely hrely (Platform.CanEnd.done ⟨?_, hs, hc₂⟩)
  exact (stable_tracks os (m.attempt + 1) (emptied b) e).rely hrely ⟨hn, .inl hout⟩

theorem canEnd_get {α β : Type} {f : Machine → β} {k : β → Code α} {Q : α → Machine → Prop} {m : Machine}
    (h : (scripted os).CanEnd Q (k (f m)) m) : (scripted os).CanEnd Q (get f >>= k) m := Platform.CanEnd.read h

/-- An attempt that came to its outcome and to the semaphore, with what follows it. -/
theorem conclude_canEnd {next : Bool → Code (Option (Bool × Nat))} {Q : Option (Bool × Nat) → Machine → Prop}
    (hs : e.snifferActive = false) (h : ∀ ack m', Rested n { b with ack } e m' →
      (e.ackEnabled = true → m'.timer.compare1 = false) →
      (scripted os).CanEnd Q (next (e.ackEnabled && (os n).isAck)) m')
    {m : Machine} (hn : m.attempt = n) (hf : (os n).Follows (emptied b) e m) (hsem : m.radioXferDone = 1)
    (hc : e.ackEnabled = true → m.timer.compare1 = false) :
    (scripted os).CanEnd Q (do
      if ← semTake true then
        endAttempt
        let ackReceived ← checkAck
        next ackReceived
      else
        resetRadio
        return none) m := by
  have hJ : ∀ (i : Op) (m' : Machine), (e.ackEnabled = true → m'.timer.compare1 = false) →
      e.ackEnabled = true → ((scripted os).exec i m').timer.compare1 = false :=
    fun i m' h ha => (compare1_exec i m').trans (h ha)
  have hgiven : 0 < m.radioXferDone := by rw [hsem]; exact Nat.zero_lt_one
  have hj := Judged.take hn hf hgiven
  refine Platform.CanEnd.wait (decide_eq_true hgiven) ?_
  have hend := Platform.CanEnd.straight hJ endAttempt_straight (hJ (.semTake true) m hc)
  have hclean : (scripted os).Triple _ _ _ _ := (endAttempt_cleaned hs hj.toCompleted).restrict
  refine (hend.safe (hclean _ (.refl _))).bind fun _ m₂ h₂ => ?_
  have hcheck := Platform.CanEnd.straight hJ checkAck_straight h₂.1
  refine (hcheck.safe ((checkAck_counted h₂.2.toResting).restrict m₂ (.refl m₂))).bind fun ackReceived m₃ h₃ => ?_
  rw [h₃.2.2, hj.acked h₂.2]
  exact h _ m₃ (hj.rested h₂.2 h₃.2.1) h₃.1

/-- One attempt that does not get stuck, with what follows it. -/
theorem attempt_canEnd {next : Bool → Code (Option (Bool × Nat))} {Q : Option (Bool × Nat) → Machine → Prop}
    (hs : e.snifferActive = false) (h : ∀ ack m', Rested (n + 1) { b with ack } (transmit b.packet e) m' →
      (e.ackEnabled = true → m'.timer.compare1 = false) →
      (scripted os).CanEnd Q (next (e.ackEnabled && (os (n + 1)).isAck)) m')
    {m : Machine} (hm : Rested n b e m) (hc : m.timer.compare1 = false ∨ (os (n + 1)).isTimeout = true) :
    (scripted os).CanEnd Q (do
      startAttempt
      if ← semTake true then
        endAttempt
        let ackReceived ← checkAck
        next ackReceived
      else
        resetRadio
        return none) m := by
  refine (startAttempt_canEnd hm hc).bind fun _ m₁ h₁ => ?_
  obtain ⟨⟨hn, htracks⟩, hsem, hc₁⟩ := h₁
  have hgiven : 0 < m₁.radioXferDone := by rw [hsem]; exact Nat.zero_lt_one
  exact conclude_canEnd (e := transmit b.packet e) hs h hn (htracks.follows hgiven) hsem hc₁

theorem attempts_canEnd (os : Nat → Outcome) : ∀ (left arcCounter n : Nat) {b : SendBuffers} {e : Esb} {m : Machine},
    e.snifferActive = false → Rested n b e m → m.timer.compare1 = false ∨ (os (n + 1)).isTimeout = true →
    (scripted os).CanEnd (fun r _ => r.isSome = true) (attempts left arcCounter) m := by
  intro left
  induction left with
  | zero =>
    intro arcCounter n b e m hs hm hc
    refine attempt_canEnd hs (fun ack m' _ _ => canEnd_get ?_) hm hc
    split <;> exact Platform.CanEnd.done rfl
  | succ left ih =>
    intro arcCounter n b e m hs hm hc
    refine attempt_canEnd hs (fun ack m' hm' hc' => canEnd_get ?_) hm hc
    split
    · exact Platform.CanEnd.done rfl
    · rename_i hgoes
      have hack : m'.esb.ackEnabled = e.ackEnabled := by
        rw [hm'.1.esb]
        rfl
      have ha : e.ackEnabled = true := by
        rw [hack] at hgoes
        revert hgoes
        cases e.ackEnabled <;> simp
      exact ih (arcCounter + 1) (n + 1) (e := transmit b.packet e) hs hm' (.inl (hc' ha))

theorem report_straight (ackDraw : UInt32) (r : Option (Bool × Nat)) : (report ackDraw r).Straight := by
  cases r with
  | none => trivial
  | some r =>
    refine (straight_op _).bind fun _ => (straight_op _).bind fun _ => (straight_get _).bind fun _ => ?_
    refine (straight_op _).bind fun _ => ?_
    trivial

theorem report_unstuck (ackDraw : UInt32) (r : Option (Bool × Nat)) : (report ackDraw r).All Op.Unstuck := by
  cases r with
  | none => trivial
  | some r =>
    refine (all_op trivial).bind fun _ => (all_op trivial).bind fun _ => (all_get _).bind fun _ => ?_
    refine (all_op trivial).bind fun _ => ?_
    trivial

/-- Past the early exits a call runs its loop and reports; it is not stuck if its loop is not. -/
theorem esbSendPacket_canEnd_of {m : Machine} (he : m.esb = e) {packetDraw : UInt32} (hs : e.sends packetDraw = true)
    (ackDraw : UInt32) {Q : Option (Bool × Nat) → Machine → Prop} {R : Bool → Machine → Prop}
    (hloop : (scripted os).CanEnd (fun r m' => r.isSome = true ∧ Q r m') (attempts e.arc 0) m.started)
    (hreport : ∀ r m', Q (some r) m' → (scripted os).CanEnd R (report ackDraw (some r)) m') :
    (scripted os).CanEnd (fun r m' => m'.stuckCalls = m.stuckCalls ∧ R r m') (esbSendPacket packetDraw ackDraw) m := by
  obtain ⟨⟨hi, hr⟩, hl⟩ : (e.isInit = true ∧ (e.continuousCarrierEnabled || e.snifferActive) = false) ∧
      lossHits e.packetLossPercent packetDraw = false := by
    simpa [Esb.sends, Esb.refuses] using hs
  unfold esbSendPacket
  refine canEnd_get ?_
  rw [he, hi]
  refine canEnd_get ?_
  rw [he, hr]
  refine Platform.CanEnd.step (canEnd_get ?_)
  show (scripted os).CanEnd _ (if lossHits m.esb.packetLossPercent packetDraw then _ else _) _
  rw [he, hl]
  refine canEnd_get (Platform.CanEnd.step (Platform.CanEnd.step (canEnd_get ?_)))
  have hends : (scripted os).Triple _ _ _ _ := (attempts_ends e.arc 0 m.stuckCalls).restrict.restrict
  subst he
  refine ((hloop.safe (hends m.started rfl)).bind fun r m' h' => ?_ :
    (scripted os).CanEnd _ (attempts m.esb.arc 0 >>= report ackDraw) m.started)
  cases r with
  | none => exact absurd h'.1.1 Bool.false_ne_true
  | some r =>
    have hkeep : (scripted os).Triple _ _ _ _ :=
      (triple_unstuck (report_unstuck ackDraw (some r)) m.stuckCalls).restrict.restrict
    exact ((hreport r m' h'.1.2).safe (hkeep m' h'.2)).post fun _ _ h => ⟨h.2, h.1⟩

/-- A call can go through, whatever its attempts come to. -/
theorem esbSendPacket_canEnd {m : Machine} (h : Resting b e m) {packetDraw : UInt32} (hs : e.sends packetDraw = true)
    (ackDraw : UInt32) (hc : m.timer.compare1 = false ∨ (os (m.attempt + 1)).isTimeout = true) :
    (scripted os).CanEnd (fun _ m' => m'.stuckCalls = m.stuckCalls) (esbSendPacket packetDraw ackDraw) m := by
  have hloop := attempts_canEnd os e.arc 0 m.attempt (e := { e with pid := e.pid + 1 }) h.sniffer ⟨h.started, rfl⟩ hc
  refine (esbSendPacket_canEnd_of (Q := fun _ _ => True) (R := fun _ _ => True) h.esb hs ackDraw
    (hloop.post fun _ _ h => ⟨h, trivial⟩) fun r m' _ => ?_).post fun _ _ h => h.1
  exact Platform.CanEnd.straight (fun _ _ _ => trivial) (report_straight ackDraw (some r)) trivial

end Runs

end Crazyradio.Driver
