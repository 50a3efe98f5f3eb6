/-
Proof outlines for the code under a handler that preempts it. Between calls, and while a call is in
progress, the machine is at a configuration, or in a set of them the handler does not leave, with the
radio in a `Phase`; a packet on its way ends with one run of the handler, or with two if an ack is
awaited. Every assertion gives what is to hold in each state: the front end is driven one way, and the
handler waits for an ack only where an attempt of `esb_send_packet` sent the packet.
-/
import Crazyradio.Driver.Config
import Crazyradio.Driver.Refinement

namespace Crazyradio.Driver

open Threads

/-! ## A handler that preempts the code -/

/-- A pending interrupt is taken. -/
def Machine.interrupted (m : Machine) : Machine := if m.pending then m.radioIsr else m

/-- The machine on which a pending interrupt is taken before the next instruction. -/
def preemptive : Platform Op Event Machine :=
  { exec := fun i m => m.interrupted.exec i, event := Machine.event }

theorem pending_interrupted (m : Machine) : m.interrupted.pending = false := by
  unfold Machine.interrupted
  split
  · simp only [Machine.pending, event_radioIsr, Bool.and_false]
  · exact Bool.eq_false_iff.mpr ‹_›

/-- A stable assertion holds behind the interrupt. -/
theorem interrupted_of_stable {A : Machine → Prop} (hA : preemptive.Stable A) {m : Machine} (h : A m) :
    A m.interrupted := by
  unfold Machine.interrupted
  split
  · exact hA .isr m m.radioIsr (if_pos ‹_›) h
  · exact h

/-- The machines between calls: the hardware and the handler move, or a call that is `ok` where it
starts runs to its end. -/
inductive Between (ok : Call → Machine → Prop) : Machine → Prop
  | boot : Between ok .boot
  | event {m m' : Machine} {e : Event} : Between ok m → m.event e = some m' → Between ok m'
  | call {m m' : Machine} {c : Call} {cs : List (Choice Event)} : Between ok m → ok c m →
      preemptive.run cs c.code m = some (.done (), m') → Between ok m'

/-- The machines a call goes through, with what is left of its code. -/
def During (ok : Call → Machine → Prop) (c : Call) (t : Code Unit) (m : Machine) : Prop :=
  ∃ (m₀ : Machine) (cs : List (Choice Event)), Between ok m₀ ∧ ok c m₀ ∧ preemptive.run cs c.code m₀ = some (t, m)

/-! ## What is to hold -/

/-- An attempt has triggered TXEN and not ended. -/
def InFlight (m : Machine) : Prop := ∃ sem, m.trace.getLast? = some (.txen sem)

/-- The handler is about to run its branch for a packet sent with auto-ack. -/
def Machine.AckWait (m : Machine) : Prop :=
  m.pending = true ∧ m.esb.snifferActive = false ∧ m.sending = true ∧ m.esb.ackEnabled = true

/-- The two ways sessions keep out of trouble: every attempt waits for an ack, or there is no
continuous carrier. -/
inductive Policy
  | acked
  | carrierless
  deriving DecidableEq

/-- Up to the 200 ms path: under `acked` the front end is driven one way, and a wait for an ack is one
for the attempt of a call that sends. -/
def Kept (p : Policy) (sends : Prop) (m : Machine) : Prop :=
  WasStuck m ∨ (p = .acked → ¬(m.femTxen = true ∧ m.femRxen = true)) ∧
    (m.AckWait → sends ∧ InFlight m ∧ m.eventCause = m.attempt)

theorem stable_stuck_preemptive : preemptive.Stable WasStuck := fun _ _ _ he h => h.extends (event_extends he)

/-- Behind the warning nothing is claimed any more. -/
theorem triple_preempted_stuck {α : Type} {p : Policy} {sends : Prop} (t : Code α) :
    preemptive.Triple (Kept p sends) WasStuck t fun _ => WasStuck :=
  Platform.Triple.invariant (fun i _ h => (interrupted_of_stable stable_stuck_preemptive h).extends (exec_extends i _))
    stable_stuck_preemptive (fun _ h => .inl h) t

/-! ## Assertions -/

/-- The radio is in a phase and the configuration in a set. -/
def At (ph : Phase) (S : Config → Prop) (m : Machine) : Prop := ph.Holds m ∧ S m.config

/-- The handler's branch for a packet sent with auto-ack is not the one that would run. -/
def Config.Deaf (c : Config) : Prop := c.esb.snifferActive = true ∨ c.sending = false ∨ c.esb.ackEnabled = false

theorem Config.Deaf.not_ackWait {m : Machine} (h : m.config.Deaf) : ¬m.AckWait := by
  rintro ⟨-, hn, hs, ha⟩
  rcases h with hd | hd | hd
  · exact absurd hd (ne_true_of_eq_false hn)
  · exact absurd hs (ne_true_of_eq_false hd)
  · exact absurd ha (ne_true_of_eq_false hd)

/-- What makes an assertion one that stands: the hardware keeps the phase, the pins are fine, and the
handler stays in the set without waiting for an ack or does not run. -/
structure Stands (p : Policy) (ph : Phase) (S : Config → Prop) : Prop where
  needs : ∀ c, S c → ph.Needs c
  oneWay : ∀ c, S c → p = .acked → ¬(c.femTxen = true ∧ c.femRxen = true)
  handler : ph = .still ∨ ∀ c, S c → c.armed = true → S c.radioIsr ∧ c.Deaf

section Outline

variable {p : Policy} {sends : Prop} {ph ph' : Phase} {S T : Config → Prop} {c : Config} {i : Op} {α : Type}
  {k : Unit → Code α} {Q : α → Machine → Prop}

theorem armed_of_pending {m : Machine} (h : m.pending = true) : m.config.armed = true ∧ m.eventDisabled = true := by
  obtain ⟨hi, hd⟩ := (Bool.and_eq_true _ _).mp h
  obtain ⟨hint, he⟩ := (Bool.and_eq_true _ _).mp hd
  exact ⟨(Bool.and_eq_true _ _).mpr ⟨hi, hint⟩, he⟩

/-- Where the interrupt is enabled and not pending, no event is latched. -/
theorem clear_of_armed {m : Machine} (ha : m.config.armed = true) (h : m.pending = false) :
    m.eventDisabled = false := by
  obtain ⟨hi, hd⟩ := (Bool.and_eq_true _ _).mp ha
  rw [Machine.pending, show m.irqEnabled = true from hi, show m.intDisabled = true from hd] at h
  exact h

theorem Stands.stable (h : Stands p ph S) : preemptive.Stable (At ph S) := by
  rintro e m m' he ⟨hp, hs⟩
  by_cases hi : e = .isr
  · subst hi
    obtain ⟨hpend, rfl⟩ := pending_of_event he
    obtain ⟨ha, hev⟩ := armed_of_pending hpend
    refine ⟨hp.radioIsr, ?_⟩
    rw [config_radioIsr]
    rcases h.handler with rfl | hh
    · exact absurd hev (ne_true_of_eq_false hp.2)
    · exact (hh _ hs ha).1
  · refine ⟨hp.event (h.needs _ hs) he hi, ?_⟩
    rw [config_event he hi]
    exact hs

theorem Stands.kept (h : Stands p ph S) (m : Machine) (hm : At ph S m) : Kept p sends m := by
  refine .inr ⟨h.oneWay _ hm.2, fun hw => ?_⟩
  obtain ⟨harm, hev⟩ := armed_of_pending hw.1
  rcases h.handler with rfl | hh
  · exact absurd hev (ne_true_of_eq_false hm.1.2)
  · exact absurd hw (hh _ hm.2 harm).2.not_ackWait

/-- Configurations with the interrupt masked. -/
theorem stands_masked (hn : ∀ c, S c → ph.Needs c) (h : ∀ c, S c → c.intDisabled = false ∧ c.femRxen = false) :
    Stands p ph S := by
  refine ⟨hn, ?_, .inr ?_⟩
  · rintro c hs - ⟨-, hx⟩
    exact absurd hx (ne_true_of_eq_false (h c hs).2)
  · rintro c hs ha
    rw [Config.armed, (h c hs).1, Bool.and_false] at ha
    exact absurd ha Bool.false_ne_true

/-- One configuration with the interrupt masked. -/
theorem Stands.masked (hm : c.intDisabled = false) (hr : c.femRxen = false) (hn : ph.Needs c) :
    Stands p ph (· = c) := by
  refine stands_masked ?_ ?_
  · rintro _ rfl; exact hn
  · rintro _ rfl; exact ⟨hm, hr⟩

/-- One configuration of a sniffer session. -/
theorem Stands.sniffing (hn : c.esb.snifferActive = true) (hp : c.packetptr = .snifferRxBuffer)
    (ho : p = .acked → c.femTxen = false) (hneeds : ph.Needs c) : Stands p ph (· = c) := by
  refine ⟨?_, ?_, .inr ?_⟩
  · rintro _ rfl; exact hneeds
  · rintro _ rfl hp ⟨hx, -⟩
    exact absurd hx (ne_true_of_eq_false (ho hp))
  · rintro _ rfl -
    exact ⟨Config.radioIsr_sniffing hn hp, .inl hn⟩

/-- One configuration with the radio off and no event latched. -/
theorem Stands.off (hp : c.ppi22 = false) (ho : p = .acked → ¬(c.femTxen = true ∧ c.femRxen = true)) :
    Stands p .still (· = c) := by
  refine ⟨?_, ?_, .inl rfl⟩
  · rintro _ rfl; exact hp
  · rintro _ rfl; exact ho

theorem Stands.still (hp : c.ppi22 = false) (hr : c.femRxen = false) : Stands p .still (· = c) := by
  refine .off hp ?_
  rintro - ⟨-, hx⟩
  exact absurd hx (ne_true_of_eq_false hr)

/-! ## Rules -/

/-- The set is left for one of its configurations. -/
theorem triple_at {t : Code α} (h : ∀ c, S c → preemptive.Triple (Kept p sends) (At ph (· = c)) t Q) :
    preemptive.Triple (Kept p sends) (At ph S) t Q := fun m hm => h m.config hm.2 m ⟨hm.1, rfl⟩

theorem at_op (hA : Stands p ph S)
    (hi : ∀ m, ph.Holds m → S m.config → m.pending = false → ph'.Holds (m.exec i) ∧ T (m.exec i).config)
    (h : preemptive.Triple (Kept p sends) (At ph' T) (k ()) Q) :
    preemptive.Triple (Kept p sends) (At ph S) (op i >>= k) Q := by
  refine Platform.Triple.step hA.stable hA.kept (fun m hm => ?_) h
  obtain ⟨hp, hs⟩ := interrupted_of_stable hA.stable hm
  exact hi _ hp hs (pending_interrupted m)

/-- An instruction that leaves the radio alone. -/
theorem code_op (hA : Stands p ph (· = c)) (hi : i.Blind) (hq : i.Quiet)
    (h : preemptive.Triple (Kept p sends) (At ph (· = c.exec i)) (k ()) Q) :
    preemptive.Triple (Kept p sends) (At ph (· = c)) (op i >>= k) Q := by
  refine at_op hA ?_ h
  intro m hp hc _
  exact ⟨hp.exec hq, by rw [config_exec hi, hc]⟩

/-- Any instruction, where nothing has to be known of the radio any more. -/
theorem code_any (hA : Stands p ph (· = c)) (hi : i.Blind)
    (h : preemptive.Triple (Kept p sends) (At .any (· = c.exec i)) (k ()) Q) :
    preemptive.Triple (Kept p sends) (At ph (· = c)) (op i >>= k) Q := by
  refine at_op hA ?_ h
  intro m _ hc _
  exact ⟨trivial, by rw [config_exec hi, hc]⟩

/-- With the radio off the event is cleared for good. -/
theorem code_clear (hA : Stands p .off (· = c))
    (h : preemptive.Triple (Kept p sends) (At .still (· = c)) (k ()) Q) :
    preemptive.Triple (Kept p sends) (At .off (· = c)) (op .radioEventClear >>= k) Q := by
  refine at_op hA ?_ h
  exact fun _ hp hc _ => ⟨⟨hp, rfl⟩, hc⟩

theorem code_clear_still (hA : Stands p .still (· = c))
    (h : preemptive.Triple (Kept p sends) (At .still (· = c)) (k ()) Q) :
    preemptive.Triple (Kept p sends) (At .still (· = c)) (op .radioEventClear >>= k) Q := by
  refine at_op hA ?_ h
  exact fun _ hp hc _ => ⟨⟨hp.1, rfl⟩, hc⟩

/-- What the code looks at is part of the configuration. -/
theorem code_get {β : Type} {f : Machine → β} {v : β} {k : β → Code α} (hA : Stands p ph (· = c))
    (hf : ∀ m : Machine, m.config = c → f m = v)
    (h : preemptive.Triple (Kept p sends) (At ph (· = c)) (k v) Q) :
    preemptive.Triple (Kept p sends) (At ph (· = c)) (get f >>= k) Q := by
  refine Platform.Triple.read hA.stable hA.kept fun m hm => ?_
  show preemptive.Safe _ Q (k (f m)) m
  rw [hf m hm.2]
  exact h m hm

/-- What the code looks at does not matter. -/
theorem at_get {β : Type} {f : Machine → β} {k : β → Code α} (hA : Stands p ph S)
    (h : ∀ v, preemptive.Triple (Kept p sends) (At ph S) (k v) Q) :
    preemptive.Triple (Kept p sends) (At ph S) (get f >>= k) Q :=
  Platform.Triple.read hA.stable hA.kept fun m hm => h (f m) m hm

theorem at_done {a : α} (hA : Stands p ph S) (hQ : ∀ m, At ph S m → Q a m) :
    preemptive.Triple (Kept p sends) (At ph S) (pure a : Code α) Q := Platform.Triple.done hA.stable hA.kept hQ

/-- DISABLE: with the short to RXEN off, the radio goes down and its event finds it off. -/
theorem at_disable (hA : Stands p .falling S) (harm : ∀ c, S c → c.armed = true)
    (h : preemptive.Triple (Kept p sends) (At .down S) (k ()) Q) :
    preemptive.Triple (Kept p sends) (At .falling S) (op .disable >>= k) Q := by
  refine at_op hA ?_ h
  intro m _ hs hpend
  refine ⟨⟨?_, ?_⟩, ?_⟩
  · have hclear := clear_of_armed (harm _ hs) hpend
    show m.taskDisable.eventDisabled = true → m.taskDisable.radio = .disabled
    unfold Machine.taskDisable
    split
    · exact fun _ => if_neg (Bool.eq_false_iff.mp (hA.needs _ hs))
    all_goals exact fun he => absurd he (ne_true_of_eq_false hclear)
  · exact isDown_taskDisable m (hA.needs _ hs)
  · rw [show (m.exec .disable).config = m.config from config_taskDisable m]
    exact hs

/-- `k_sleep` waits for the radio to be off, and the handler has run by then. -/
theorem at_sleep (hA : Stands p .down S) (harm : ∀ c, S c → c.armed = true)
    (h : preemptive.Triple (Kept p sends) (At .still S) (k ()) Q) :
    preemptive.Triple (Kept p sends) (At .down S) (sleep200us >>= k) Q := by
  have hnever : preemptive.Triple (Kept p sends) (fun _ => False) (k ()) Q := fun _ hf => hf.elim
  refine Platform.Triple.wait hA.stable hA.kept (fun m hm hready => ?_) h
    (fun ht => absurd ht Bool.false_ne_true) hnever
  have hradio : m.interrupted.radio = m.radio := by
    unfold Machine.interrupted
    split
    · exact radio_radioIsr m
    · rfl
  obtain ⟨-, hs⟩ := interrupted_of_stable hA.stable hm
  refine ⟨⟨?_, clear_of_armed (harm _ hs) (pending_interrupted m)⟩, hs⟩
  refine hradio.trans ?_
  obtain ⟨hr, ht⟩ := (Bool.and_eq_true _ _).mp hready
  rcases hm.1.2 with hd | hd | hd
  · exact hd
  · exact absurd hd (of_decide_eq_true hr)
  · exact absurd hd (of_decide_eq_true ht)

/-! ## Packets on their way -/

/-- The radio is on its way to its event, or the handler has run behind it. -/
def Flying (c : Config) (m : Machine) : Prop := At .falling (· = c) m ∨ At .still (· = c.radioIsr) m

/-- What is needed for one run of the handler to end it. -/
structure Config.Flies (p : Policy) (c : Config) : Prop where
  rxen : c.shorts.disabledRxen = false
  ppi22 : c.radioIsr.ppi22 = false
  sem : c.radioXferDone = 0
  deaf : c.Deaf
  oneWay : p = .acked → ¬(c.femTxen = true ∧ c.femRxen = true)
  ends : c.radioIsr.femRxen = false

theorem Config.Flies.stable (hc : c.Flies p) : preemptive.Stable (Flying c) := by
  intro e m m' he h
  by_cases hi : e = .isr
  · subst hi
    obtain ⟨hpend, rfl⟩ := pending_of_event he
    obtain ⟨-, hev⟩ := armed_of_pending hpend
    rcases h with ⟨hf, hm⟩ | ⟨hs, -⟩
    · refine .inr ⟨⟨(radio_radioIsr m).trans (hf hev), event_radioIsr m⟩, ?_⟩
      rw [config_radioIsr, hm]
    · exact absurd hev (ne_true_of_eq_false hs.2)
  · have hconf := config_event he hi
    rcases h with ⟨hf, hm⟩ | ⟨hs, hm⟩
    · exact .inl ⟨hf.event (by rw [hm]; exact hc.rxen) he hi, hconf.trans hm⟩
    · exact .inr ⟨hs.event (by rw [hm]; exact hc.ppi22) he hi, hconf.trans hm⟩

theorem Config.Flies.kept (hc : c.Flies p) (m : Machine) (h : Flying c m) : Kept p sends m := by
  rcases h with ⟨-, hm⟩ | h
  · rw [← hm] at hc
    exact .inr ⟨hc.oneWay, fun hw => absurd hw hc.deaf.not_ackWait⟩
  · exact (Stands.still hc.ppi22 hc.ends).kept m h

/-- The semaphore can be taken only behind the handler. -/
theorem Config.Flies.take (hc : c.Flies p) {m : Machine} (h : Flying c m) (hs : 0 < m.radioXferDone) (b : Bool) :
    At .still (· = c.radioIsr.exec (.semTake b)) (preemptive.exec (.semTake b) m) := by
  rcases h with ⟨-, hm⟩ | ⟨hstill, hm⟩
  · have h0 : m.radioXferDone = 0 := (congrArg Config.radioXferDone hm).trans hc.sem
    rw [h0] at hs
    exact absurd hs (Nat.lt_irrefl 0)
  · have hid : m.interrupted = m := by
      refine if_neg fun hp => ?_
      exact absurd (armed_of_pending hp).2 (ne_true_of_eq_false hstill.2)
    show At _ _ (m.interrupted.exec (.semTake b))
    rw [hid]
    refine ⟨hstill.exec (i := .semTake b) trivial, ?_⟩
    rw [config_exec (i := .semTake b) trivial, hm]

/-- The packet of an attempt that waits for an ack, up to the first run of the handler. -/
structure Airing (c : Config) (m : Machine) : Prop where
  config : m.config = c
  activity : m.activity = m.attempt
  cause : m.eventDisabled = true → m.eventCause = m.attempt
  inFlight : InFlight m

/-- An attempt that waits for an ack: the packet is on its way, or the ack is. -/
def Launched (c : Config) (m : Machine) : Prop := Airing c m ∨ Flying c.radioIsr m

theorem stable_launched (hc : c.radioIsr.Flies p) : preemptive.Stable (Launched c) := by
  rintro e m m' he (h | h)
  · by_cases hi : e = .isr
    · subst hi
      obtain ⟨-, rfl⟩ := pending_of_event he
      refine .inr (.inl ⟨fun hev => ?_, ?_⟩)
      · exact absurd hev (ne_true_of_eq_false (event_radioIsr m))
      · rw [config_radioIsr, h.config]
    · obtain ⟨hf, hw⟩ := event_hardware he hi
      refine .inl ⟨(config_event he hi).trans h.config, ?_, ?_, ?_⟩
      · rw [hf.activity, hf.attempt]; exact h.activity
      · rcases hw with hq | hr
        · rw [hq.eventDisabled, hq.eventCause, hf.attempt]; exact h.cause
        · rw [hr.eventCause, hf.attempt]; exact fun _ => h.activity
      · rw [InFlight, hf.trace]; exact h.inFlight
  · exact .inr (hc.stable e m m' he h)

theorem kept_launched (hc : c.radioIsr.Flies p) (hr : c.femRxen = false) (hs : sends) (m : Machine)
    (h : Launched c m) : Kept p sends m := by
  rcases h with h | h
  · refine .inr ⟨?_, fun hw => ⟨hs, h.inFlight, h.cause (armed_of_pending hw.1).2⟩⟩
    rintro - ⟨-, hx⟩
    exact absurd hx (ne_true_of_eq_false ((congrArg Config.femRxen h.config).trans hr))
  · exact hc.kept m h

end Outline

end Crazyradio.Driver
