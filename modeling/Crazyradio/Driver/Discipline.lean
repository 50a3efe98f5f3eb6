/-
`radio_busy` and the radio's interrupt. On every path of every call, whatever the handler and the
hardware do meanwhile, the radio, the timer, the PPI channels, the front-end pins, `radioXferDone` and
the driver's statics are written with the mutex held only, the mutex is neither locked twice nor
unlocked when it is free, and call and interrupt are given back. No call waits for something that
cannot come.
-/
import Crazyradio.Driver.Stuck
import Crazyradio.Lib.Discipline

namespace Crazyradio.Driver

open Bytes Threads

/-! ## The rule -/

/-- The mutex and the interrupt, as the code handles them. -/
structure Hold where
  radioBusy : Bool
  irqEnabled : Bool
  deriving DecidableEq

def Hold.free : Hold := { radioBusy := false, irqEnabled := true }

def Hold.locked : Hold := { radioBusy := true, irqEnabled := true }

def Machine.hold (m : Machine) : Hold := { radioBusy := m.radioBusy, irqEnabled := m.irqEnabled }

/-- What an instruction may find, and what it leaves. The caller's packet and the log line are not
guarded; everything else is written under the mutex. The interrupt is disabled under it too, and enabled
again only when it has been unlocked. Reads are not instructions: the code tests some statics first. -/
def Op.rule (h : Hold) : Op → Option Hold
  | .mutexLock => if h.radioBusy then none else some { h with radioBusy := true }
  | .mutexUnlock => if h.radioBusy then some { h with radioBusy := false } else none
  | .irqDisable => if h.radioBusy && h.irqEnabled then some { h with irqEnabled := false } else none
  | .irqEnable => if h.radioBusy || h.irqEnabled then none else some { h with irqEnabled := true }
  | .nop | .logStuck | .buffers _ => some h
  | _ => if h.radioBusy then some h else none

/-- They are part of what only the code changes. -/
theorem hold_of_wiring {m m' : Machine} (h : m'.wiring = m.wiring) : m'.hold = m.hold :=
  congrArg (fun w : Wiring => Hold.mk w.radioBusy w.irqEnabled) h

theorem exec_hold {i : Op} {m : Machine} {h : Hold} (hi : i.rule m.hold = some h) : (m.exec i).hold = h := by
  cases i with
  | mutexLock | mutexUnlock | irqDisable | irqEnable =>
    simp only [Op.rule] at hi
    split at hi <;> cases hi
    rfl
  | nop | logStuck | buffers f =>
    cases hi
    rfl
  | disable =>
    simp only [Op.rule] at hi
    split at hi <;> cases hi
    exact hold_of_wiring (wiring_rel.taskDisable m)
  | rxen =>
    simp only [Op.rule] at hi
    split at hi <;> cases hi
    exact hold_of_wiring (wiring_rel.taskRxen m)
  | txen ofAttempt =>
    simp only [Op.rule] at hi
    split at hi <;> cases hi
    unfold Machine.exec
    cases ofAttempt
    · exact hold_of_wiring (wiring_taskTxen m)
    · exact hold_of_wiring (wiring_taskTxen _)
  | semTake ofAttempt =>
    simp only [Op.rule] at hi
    split at hi <;> cases hi
    unfold Machine.exec
    cases ofAttempt <;> rfl
  | ppiEnable c | ppiDisable c =>
    simp only [Op.rule] at hi
    split at hi <;> cases hi
    cases c <;> rfl
  | _ =>
    simp only [Op.rule] at hi
    split at hi <;> cases hi
    rfl

theorem follows_platform : platform.Follows Op.rule Machine.hold :=
  ⟨exec_hold, fun he => hold_of_wiring (wiring_event he)⟩

/-- The machine while nothing comes in and no interrupt is taken: a radio that is ramping down goes on
to the end of it. -/
def quiet : Platform Op Event Machine :=
  platform.restrict fun e _ => match e with
    | .rampedDown => true
    | _ => false

theorem follows_quiet : quiet.Follows Op.rule Machine.hold :=
  ⟨exec_hold, fun he => hold_of_wiring (wiring_event (platform.restrict_event.mp he).2)⟩

theorem quiet_sleep (m : Machine) : ∃ m', quiet.Rely m m' ∧
    (decide (m'.radio ≠ .rxDisable) && decide (m'.radio ≠ .txDisable)) = true := by
  by_cases h : m.radio = .rxDisable ∨ m.radio = .txDisable
  · have he : quiet.event .rampedDown m = some m.raiseDisabled := if_pos h
    refine ⟨m.raiseDisabled, .single ⟨_, he⟩, ?_⟩
    unfold Machine.raiseDisabled
    cases m.shorts.disabledRxen <;> rfl
  · refine ⟨m, .refl, ?_⟩
    rw [not_or] at h
    simp [h.1, h.2]

/-! ## The calls -/

/-- On every path from `h` the code follows the rule, and no wait holds it up. -/
structure Disciplined {α : Type} (Q : α → Hold → Prop) (t : Code α) (h : Hold) : Prop where
  obeys : t.Obeys Op.rule Q h
  unblocked : quiet.Unblocked t

namespace Disciplined

variable {α β : Type} {Q : α → Hold → Prop} {R : β → Hold → Prop} {h h' : Hold} {t : Code α}

theorem done {a : α} (ha : Q a h) : Disciplined Q (pure a) h := ⟨ha, trivial⟩

/-- What comes behind a call that always ends in the same way. -/
theorem bind {x : Hold} {k : α → Code β} (ht : Disciplined (fun _ h => h = x) t h)
    (hk : ∀ a, Disciplined R (k a) x) : Disciplined R (t >>= k) h where
  obeys := ht.obeys.bind fun a h hx => by rw [hx]; exact (hk a).obeys
  unblocked := ht.unblocked.bind fun a => (hk a).unblocked

theorem op {i : Op} {k : Unit → Code α} (hi : Op.rule h i = some h') (hk : Disciplined Q (k ()) h') :
    Disciplined Q (Driver.op i >>= k) h := ⟨⟨h', hi, hk.obeys⟩, hk.unblocked⟩

theorem last {Q : Unit → Hold → Prop} {i : Op} (hi : Op.rule h i = some h') (hQ : Q () h') :
    Disciplined Q (Driver.op i) h := ⟨⟨h', hi, hQ⟩, trivial⟩

theorem get {γ : Type} {f : Machine → γ} {k : γ → Code α} (hk : ∀ c, Disciplined Q (k c) h) :
    Disciplined Q (Driver.get f >>= k) h := ⟨fun m => (hk (f m)).obeys, fun m => (hk (f m)).unblocked⟩

theorem opIf {c : Bool} {i : Op} {k : Unit → Code α} (hi : Op.rule h i = some h) (hk : Disciplined Q (k ()) h) :
    Disciplined Q (Driver.opIf c i >>= k) h := by
  cases c with
  | false => exact hk
  | true => exact op hi hk

theorem semTake {ofAttempt : Bool} {k : Bool → Code α} (hi : Op.rule h (.semTake ofAttempt) = some h)
    (hk : ∀ taken, Disciplined Q (k taken) h) : Disciplined Q (Driver.semTake ofAttempt >>= k) h :=
  ⟨⟨⟨h, hi, (hk true).obeys⟩, fun _ => (hk false).obeys⟩, .inl rfl, fun taken => (hk taken).unblocked⟩

theorem sleep200us {k : Unit → Code α} (hk : Disciplined Q (k ()) h) : Disciplined Q (Driver.sleep200us >>= k) h :=
  ⟨⟨⟨h, rfl, hk.obeys⟩, fun ht => absurd ht Bool.false_ne_true⟩, .inr quiet_sleep, fun _ => hk.unblocked⟩

end Disciplined

/-- The call gives back what it took. -/
def GivesBack {α : Type} (t : Code α) : Prop := Disciplined (fun _ h => h = .free) t .free

theorem givesBack_setting (s : Setting) : GivesBack (Call.setting s).code :=
  .op rfl (.op rfl (.last rfl rfl))

theorem disciplined_endAttempt : Disciplined (fun _ h => h = .locked) endAttempt .locked :=
  .op rfl (.op rfl (.get fun _ => .opIf rfl (.op rfl (.last rfl rfl))))

theorem disciplined_carrierTask (enable : Bool) :
    Disciplined (fun _ h => h = .locked) (carrierTask enable) .locked := by
  cases enable
  · exact .op rfl (.last rfl rfl)
  · exact .op rfl (.last rfl rfl)

theorem givesBack_carrier (enable : Bool) : GivesBack (esbSetContinuousCarrier enable) := by
  unfold esbSetContinuousCarrier
  refine .get fun _ => ?_
  split
  · exact .done rfl
  refine .get fun _ => ?_
  split
  · exact .done rfl
  refine .get fun _ => ?_
  split
  · exact .done rfl
  exact .op rfl ((disciplined_carrierTask enable).bind fun _ => .op rfl (.op rfl (.done rfl)))

theorem disciplined_startAttempt : Disciplined (fun _ h => h = .locked) startAttempt .locked :=
  .op rfl (.op rfl (.op rfl (.get fun _ => .opIf rfl (.op rfl (.op rfl (.op rfl (.op rfl (.op rfl (.op rfl
    (.last rfl rfl))))))))))

theorem disciplined_checkAck : Disciplined (fun _ h => h = .locked) checkAck .locked := by
  unfold checkAck
  refine .get fun _ => ?_
  split
  · exact .done rfl
  refine .get fun _ => ?_
  split
  · exact ⟨fun _ => rfl, fun _ => trivial⟩
  · exact .done rfl

/-- Behind the loop the mutex is held, but for the 200 ms path. -/
def afterAttempts (r : Option (Bool × Nat)) (h : Hold) : Prop :=
  match r with
  | some _ => h = .locked
  | none => h = .free

theorem disciplined_resetRadio : Disciplined (fun _ h => h = .free) resetRadio .locked :=
  .op rfl (.op rfl (.op rfl (.op rfl (.op rfl (.last rfl rfl)))))

/-- One attempt, whatever comes behind it. -/
theorem disciplined_attempt {next : Bool → Code (Option (Bool × Nat))}
    (h : ∀ ackReceived, Disciplined afterAttempts (next ackReceived) .locked) : Disciplined afterAttempts (do
      startAttempt
      if ← semTake true then
        endAttempt
        let ackReceived ← checkAck
        next ackReceived
      else
        resetRadio
        return none) .locked := by
  refine disciplined_startAttempt.bind fun _ => .semTake rfl fun taken => ?_
  cases taken with
  | true => exact disciplined_endAttempt.bind fun _ => disciplined_checkAck.bind h
  | false => exact disciplined_resetRadio.bind fun _ => .done rfl

theorem disciplined_attempts : ∀ left n : Nat, Disciplined afterAttempts (attempts left n) .locked := by
  intro left
  induction left with
  | zero =>
    intro n
    refine disciplined_attempt fun ackReceived => .get fun _ => ?_
    split
    · exact .done rfl
    · exact .done rfl
  | succ left ih =>
    intro n
    refine disciplined_attempt fun ackReceived => .get fun _ => ?_
    split
    · exact .done rfl
    · exact ih (n + 1)

/-- What comes behind the loop. -/
theorem Disciplined.afterAttempts {α : Type} {Q : α → Hold → Prop} {left n : Nat}
    {k : Option (Bool × Nat) → Code α} (hnone : Disciplined Q (k none) .free)
    (hsome : ∀ r, Disciplined Q (k (some r)) .locked) : Disciplined Q (attempts left n >>= k) .locked where
  obeys := (disciplined_attempts left n).obeys.bind fun r h hr => by
    cases r with
    | none => rw [show h = .free from hr]; exact hnone.obeys
    | some r => rw [show h = .locked from hr]; exact (hsome r).obeys
  unblocked := (disciplined_attempts left n).unblocked.bind fun r => by
    cases r with
    | none => exact hnone.unblocked
    | some r => exact (hsome r).unblocked

theorem givesBack_sendPacket (packetDraw ackDraw : UInt32) : GivesBack (esbSendPacket packetDraw ackDraw) := by
  unfold esbSendPacket
  refine .get fun _ => ?_
  split
  · exact .done rfl
  refine .get fun _ => ?_
  split
  · exact .done rfl
  refine .op rfl (.get fun _ => ?_)
  split
  · exact .op rfl (.done rfl)
  refine .get fun _ => .op rfl (.op rfl (.get fun _ => .afterAttempts (.done rfl) fun r => ?_))
  exact .op rfl (.op rfl (.get fun _ => .op rfl (.done rfl)))

theorem givesBack_snifferStart (cb : EsbSnifferRxCb) : GivesBack (esbSnifferStart cb) := by
  unfold esbSnifferStart
  refine .get fun _ => ?_
  split
  · exact .done rfl
  exact .op rfl (.op rfl (.op rfl (.op rfl (.op rfl (.op rfl (.op rfl (.op rfl (.op rfl (.op rfl (.op rfl (.op rfl
    (.last rfl rfl))))))))))))

theorem disciplined_awaitEnd : Disciplined (fun _ h => h = .locked) awaitEnd .locked := by
  refine .semTake rfl fun taken => ?_
  cases taken with
  | true => exact .done rfl
  | false => exact .op rfl (.sleep200us (.last rfl rfl))

theorem givesBack_snifferSend (address : Buf 5) : GivesBack (esbSnifferSend address) := by
  unfold esbSnifferSend
  refine .get fun _ => ?_
  split
  · exact .done rfl
  refine .op rfl (.get fun _ => .op rfl (.op rfl (.op rfl (.sleep200us ?_))))
  refine .op rfl (.op rfl (.op rfl (.op rfl (.op rfl (.op rfl (.get fun _ => ?_))))))
  refine .op rfl (.op rfl (.op rfl (.op rfl (.op rfl (.op rfl (.op rfl (.op rfl ?_)))))))
  refine disciplined_awaitEnd.bind fun _ => ?_
  exact .op rfl (.op rfl (.op rfl (.op rfl (.op rfl (.op rfl (.op rfl (.op rfl (.op rfl (.op rfl (.op rfl (.op rfl
    (.op rfl (.done rfl)))))))))))))

theorem givesBack_snifferStop : GivesBack esbSnifferStop := by
  unfold esbSnifferStop
  refine .get fun _ => ?_
  split
  · exact .done rfl
  refine .op rfl (.op rfl (.op rfl (.sleep200us ?_)))
  exact .op rfl (.op rfl (.op rfl (.op rfl (.op rfl (.op rfl (.op rfl (.op rfl (.last rfl rfl))))))))

theorem givesBack_discard {α : Type} {t : Code α} (h : GivesBack t) : GivesBack (discard t) :=
  Disciplined.bind h fun _ => .done rfl

theorem givesBack_call (c : Call) : GivesBack c.code := by
  cases c with
  | sendPacket packet packetDraw ackDraw => exact .op rfl (givesBack_discard (givesBack_sendPacket packetDraw ackDraw))
  | setting s => exact givesBack_setting s
  | setContinuousCarrier enable => exact givesBack_discard (givesBack_carrier enable)
  | snifferStart => exact givesBack_snifferStart _
  | snifferSend packet address => exact .op rfl (givesBack_discard (givesBack_snifferSend address))
  | snifferStop => exact givesBack_snifferStop

theorem givesBack_session : ∀ calls : List Call, GivesBack (session calls)
  | [] => .done rfl
  | c :: cs => (givesBack_call c).bind fun _ => givesBack_session cs

/-! ## Runs -/

/-- In every state a session of calls can reach, whatever the handler and the hardware did: the next
instruction may be executed there, in particular it writes the radio, the timer, the pins or the statics
under `radio_busy` only, locks a free mutex, unlocks a locked one, disables the interrupt under it and
enables the interrupt behind it. -/
theorem next_allowed {calls : List Call} {cs : List (Choice Event)} {t : Code Unit} {m : Machine}
    (h : platform.run cs (session calls) .boot = some (t, m)) {i : Op} (hi : t.instruction = some i) :
    ∃ h', i.rule m.hold = some h' := by
  have hobeys : t.Obeys Op.rule (fun _ h => h = Hold.free) m.hold :=
    follows_platform.run cs (givesBack_session calls).obeys h
  exact hobeys.allowed hi

/-- A call in front of `k_sem_take`. -/
theorem next_allowed_waiting : ∃ t m, platform.run (threadSteps 21) (session [.sendPacket {} 0 0]) .boot =
    some (t, m) ∧ t.instruction = some (.semTake true) ∧ ∃ h', Op.rule m.hold (.semTake true) = some h' := by
  obtain ⟨t, m, h, hi⟩ : ∃ t m, platform.run (threadSteps 21) (session [.sendPacket {} 0 0]) .boot = some (t, m) ∧
    t.instruction = some (.semTake true) := ⟨_, _, rfl, rfl⟩
  exact ⟨t, m, h, hi, next_allowed h hi⟩

/-- From every state a session can reach, its calls come to their ends without a reception or an interrupt,
by their own steps, their timeouts and the end of a ramp-down, and leave `radio_busy` free and the interrupt
enabled. -/
theorem session_can_end {calls : List Call} {cs : List (Choice Event)} {t : Code Unit} {m : Machine}
    (h : platform.run cs (session calls) .boot = some (t, m)) :
    ∃ cs' m', quiet.run cs' t m = some (.done (), m') ∧ m'.radioBusy = false ∧ m'.irqEnabled = true := by
  have hobeys : t.Obeys Op.rule (fun _ h => h = Hold.free) m.hold :=
    follows_platform.run cs (givesBack_session calls).obeys h
  obtain ⟨cs', a, m', hf, hfree⟩ := follows_quiet.canEnd hobeys ((givesBack_session calls).unblocked.run cs h)
  have hhold : m'.hold = .free := hfree
  exact ⟨cs', m', quiet.run_of_finish hf, congrArg Hold.radioBusy hhold, congrArg Hold.irqEnabled hhold⟩

/-- The radio never answers and its interrupt never comes. -/
theorem session_can_end_silent : ∃ t m, platform.run (threadSteps 21) (session [.sendPacket {} 0 0]) .boot =
    some (t, m) ∧ ∃ cs' m', quiet.run cs' t m = some (.done (), m') ∧ m'.radioBusy = false ∧ m'.irqEnabled = true := by
  obtain ⟨t, m, h⟩ : ∃ t m, platform.run (threadSteps 21) (session [.sendPacket {} 0 0]) .boot = some (t, m) :=
    ⟨_, _, rfl⟩
  exact ⟨t, m, h, session_can_end h⟩

end Crazyradio.Driver
