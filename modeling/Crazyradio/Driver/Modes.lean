/-
What holds of the radio over whole sessions: the front end is driven one way, the registers are those
of the mode, and the handler waits for an ack only on behalf of an attempt. Each holds as long as the
calls of the session keep to a condition on the machine they start from, and no call ends through the
200 ms path; outside of it a `sending` left over from a packet without auto-ack, or a pin left on,
meets the next call.
-/
import Crazyradio.Driver.Sniffer

namespace Crazyradio.Driver

open Bytes Threads

/-! ## Sessions -/

/-- What a call may find where it starts. -/
def Policy.Allows (p : Policy) : Call → Machine → Prop
  | .sendPacket _ packetDraw _, m =>
    p = .acked → m.sendsPacket packetDraw → m.esb.ackEnabled = true ∧ m.radio = .disabled
  | .setContinuousCarrier _, _ => p = .acked
  | .snifferStart, m => m.esb.continuousCarrierEnabled = false
  | .snifferSend _ _, m => m.esb.snifferActive = true → m.sending = true → m.esb.ackEnabled = false
  | _, _ => True

/-- The calls that run attempts. -/
def Call.RunsAttempts : Call → Prop
  | .sendPacket .. => True
  | _ => False

theorem call_ended {p : Policy} {c : Call} {m : Machine} (h : Settled p m) (hok : p.Allows c m) :
    preemptive.Safe (Kept p c.RunsAttempts) (fun _ => Ended p) c.code m := by
  cases c with
  | sendPacket packet packetDraw ackDraw => exact sendPacket_ended h hok
  | setting s => exact setting_ended s m h
  | setContinuousCarrier enable =>
    cases p with
    | acked => exact setContinuousCarrier_ended enable m h
    | carrierless => exact nomatch hok
  | snifferStart => exact snifferStart_ended h hok
  | snifferSend packet address => exact snifferSend_ended h hok
  | snifferStop => exact snifferStop_ended m h

theorem settled_boot (p : Policy) : Settled p Machine.boot := by
  refine .inl ⟨rest_of_off rfl, ⟨⟨rfl, rfl, rfl⟩, rfl, rfl, rfl, rfl, rfl, rfl, rfl, fun _ => ⟨rfl, ?_⟩, fun _ => rfl⟩⟩
  exact fun hx => absurd hx Bool.false_ne_true

section Session

variable {p : Policy} {ok : Call → Machine → Prop}

/-- Between calls every session that keeps to the condition is at rest, up to the 200 ms path. -/
theorem ended_of_between (hok : ∀ c m, Settled p m → ok c m → p.Allows c m) {m : Machine} (h : Between ok m) :
    Ended p m := by
  induction h with
  | boot => exact .inl (settled_boot p)
  | event _ he ih => exact stable_ended _ _ _ he ih
  | @call m₀ m' c cs _ hc hr ih =>
    rcases ih with hs | hs
    · have hsafe := (call_ended hs (hok _ _ hs hc)).run _ hr
      exact (hsafe _ .refl).2
    · have hstuck : preemptive.Triple (Kept p True) WasStuck c.code fun _ => WasStuck := triple_preempted_stuck c.code
      have hsafe := (hstuck m₀ hs).run _ hr
      exact .inr (hsafe _ .refl).2

theorem kept_of_during (hok : ∀ c m, Settled p m → ok c m → p.Allows c m) {c : Call} {t : Code Unit} {m : Machine}
    (h : During ok c t m) : Kept p c.RunsAttempts m := by
  obtain ⟨m₀, cs, hb, hc, hr⟩ := h
  rcases ended_of_between hok hb with hs | hs
  · exact ((call_ended hs (hok _ _ hs hc)).run _ hr).inv
  · exact ((triple_preempted_stuck c.code m₀ hs).run _ hr).inv

end Session

/-! ## Runs of calls -/

/-- A call run to its end. -/
def Call.finish (c : Call) (cs : List (Choice Event)) (m : Machine) : Option Machine :=
  match preemptive.run cs c.code m with
  | some (.done _, m') => some m'
  | _ => none

/-- Calls one behind the other, each with its schedule. -/
def finishAll : List (Call × List (Choice Event)) → Machine → Option Machine
  | [], m => some m
  | (c, cs) :: calls, m => (c.finish cs m).bind (finishAll calls)

theorem Between.finish {ok : Call → Machine → Prop} {c : Call} {cs : List (Choice Event)} {m m' : Machine}
    (h : Between ok m) (hc : ok c m) (hf : c.finish cs m = some m') : Between ok m' := by
  unfold Call.finish at hf
  split at hf
  · rename_i hr
    cases hf
    exact .call h hc hr
  · cases hf

theorem Between.finishAll {ok : Call → Machine → Prop} : ∀ {calls : List (Call × List (Choice Event))} {m m' : Machine},
    (∀ x ∈ calls, ∀ m, ok x.1 m) → Between ok m → finishAll calls m = some m' → Between ok m'
  | [], _, _, _, h, hf => by cases hf; exact h
  | (c, cs) :: calls, m, m', hok, h, hf => by
    obtain ⟨m₁, h₁, h₂⟩ := Option.bind_eq_some_iff.mp hf
    refine Between.finishAll (fun x hx => hok x (List.mem_cons_of_mem _ hx)) (h.finish ?_ h₁) h₂
    exact hok _ List.mem_cons_self m

/-- An attempt without auto-ack. -/
def plainAttempt : List Event := [.ready, .endTx, .rampedDown, .isr]

/-- A packet is sent without auto-ack, then auto-ack is switched on. -/
def sendingLeft : List (Call × List (Choice Event)) :=
  [(.setting (.ackEnabled false), threadSteps 3),
    (.sendPacket {} 0 0, threadSteps 20 ++ hardware plainAttempt ++ threadSteps 13),
    (.setting (.ackEnabled true), threadSteps 3)]

/-! ## The front end -/

/-- The front end is not driven in both directions. -/
def Machine.OneWay (m : Machine) : Prop := ¬(m.femTxen = true ∧ m.femRxen = true)

/-- A packet is sent with auto-ack on and the radio off, and no session is started on a carrier. -/
def Call.KeepsFrontEnd : Call → Machine → Prop
  | .sendPacket _ packetDraw _, m => m.sendsPacket packetDraw → m.esb.ackEnabled = true ∧ m.radio = .disabled
  | .snifferStart, m => m.esb.continuousCarrierEnabled = false
  | _, _ => True

theorem allows_of_keepsFrontEnd {c : Call} {m : Machine} (h : Settled .acked m) (hc : c.KeepsFrontEnd m) :
    Policy.acked.Allows c m := by
  cases c with
  | sendPacket packet packetDraw ackDraw => exact fun _ => hc
  | setContinuousCarrier enable => rfl
  | snifferStart => exact hc
  | snifferSend packet address =>
    intro _ hs
    have hidle : m.sending = false := h.elim (fun hn => (hn.2.acked rfl).1) fun hn => (hn.2.acked rfl).1
    exact absurd hs (ne_true_of_eq_false hidle)
  | _ => trivial

/-- In a session whose calls keep to it, and up to the 200 ms path, the front end is never driven in
both directions, and between calls it is driven for sending only while the carrier is on. -/
theorem frontEnd_oneWay {m : Machine} (hs : .stuck ∉ m.trace) :
    (Between Call.KeepsFrontEnd m → m.OneWay ∧ (m.femTxen = true → m.esb.continuousCarrierEnabled = true)) ∧
    ∀ (c : Call) (t : Code Unit), During Call.KeepsFrontEnd c t m → m.OneWay := by
  constructor
  · intro h
    rcases ended_of_between (fun _ _ => allows_of_keepsFrontEnd) h with h | h
    · rcases h with ⟨-, hc⟩ | ⟨-, hc⟩
      · exact ⟨fun hx => absurd hx.2 (ne_true_of_eq_false hc.femRxen), (hc.acked rfl).2⟩
      · have htx : m.femTxen = false := (hc.acked rfl).2
        exact ⟨fun hx => absurd hx.1 (ne_true_of_eq_false htx),
          fun hx => absurd hx (ne_true_of_eq_false htx)⟩
    · exact absurd h hs
  · intro c t h
    rcases kept_of_during (fun _ _ => allows_of_keepsFrontEnd) h with h | h
    · exact absurd h hs
    · exact h.1 rfl

/-- One acked call. -/
theorem frontEnd_oneWay_acked : ∃ m, Between Call.KeepsFrontEnd m ∧ m.attempt = 1 ∧ m.OneWay ∧
    (m.femTxen = true → m.esb.continuousCarrierEnabled = true) := by
  have hrun : (Call.finish (.sendPacket {} 0 0) (threadSteps 21 ++ hardware ackedAttempt ++ threadSteps 15) .boot).map
      (fun m => (m.attempt, decide (.stuck ∈ m.trace))) = some (1, false) := by decide +kernel
  obtain ⟨m, hf, hm⟩ := Option.map_eq_some_iff.mp hrun
  obtain ⟨hattempt, hs⟩ := Prod.mk.inj hm
  have hok : Call.KeepsFrontEnd (.sendPacket {} 0 0) .boot := fun _ => ⟨rfl, rfl⟩
  have hb : Between Call.KeepsFrontEnd m := Between.boot.finish hok hf
  exact ⟨m, hb, hattempt, (frontEnd_oneWay (of_decide_eq_false hs)).1 hb⟩

/-- A packet sent without auto-ack leaves the front end on for sending, and a session then drives it in
both directions. -/
theorem driven_both_ways : ¬ ∀ m : Machine,
    (Between (fun _ _ => True) m → m.OneWay ∧ (m.femTxen = true → m.esb.continuousCarrierEnabled = true)) ∧
    ∀ (c : Call) (t : Code Unit), During (fun _ _ => True) c t m → m.OneWay := by
  intro h
  have hrun : (finishAll (sendingLeft ++ [(.snifferStart, threadSteps 14)]) .boot).map
      (fun m => (m.femTxen, m.femRxen)) = some (true, true) := by decide +kernel
  obtain ⟨m, hf, hm⟩ := Option.map_eq_some_iff.mp hrun
  obtain ⟨htx, hrx⟩ := Prod.mk.inj hm
  have hb : Between (fun _ _ => True) m := Between.boot.finishAll (fun _ _ _ => trivial) hf
  exact ((h m).1 hb).1 ⟨htx, hrx⟩

/-! ## Registers -/

/-- The registers of normal mode. -/
structure NormalMode (m : Machine) : Prop where
  maxlen : m.esb.radio.maxlen = 32
  rxaddresses : m.esb.radio.rxaddresses = 0x01
  txaddress : m.esb.radio.txaddress = 0
  shorts : m.shorts = { addressRssistart := true, disabledRssistop := true }
  masked : m.intDisabled = false
  femRxen : m.femRxen = false

/-- The registers of a sniffer session. -/
structure SnifferMode (m : Machine) : Prop where
  maxlen : m.esb.radio.maxlen = 63
  rxaddresses : m.esb.radio.rxaddresses = 0x03
  txaddress : m.esb.radio.txaddress = 0
  shorts : m.shorts = ⟨true, true, true, true, true⟩
  unmasked : m.intDisabled = true
  packetptr : m.packetptr = .snifferRxBuffer
  femRxen : m.femRxen = true

def Configured (m : Machine) : Prop :=
  (m.esb.snifferActive = false → NormalMode m) ∧ (m.esb.snifferActive = true → SnifferMode m)

/-- The calls but for the continuous carrier. -/
def Call.Carrierless : Call → Prop
  | .setContinuousCarrier _ => False
  | _ => True

/-- No packet is sent in a session with `sending` left over and auto-ack on. -/
def Call.NothingLeftOver : Call → Machine → Prop
  | .snifferSend _ _, m => ¬(m.esb.snifferActive = true ∧ m.sending = true ∧ m.esb.ackEnabled = true)
  | _, _ => True

theorem allows_of_nothingLeftOver {c : Call} {m : Machine} (h : Settled .carrierless m)
    (hc : c.Carrierless ∧ c.NothingLeftOver m) : Policy.carrierless.Allows c m := by
  cases c with
  | sendPacket packet packetDraw ackDraw => exact nofun
  | setContinuousCarrier enable => exact hc.1.elim
  | snifferStart => exact h.elim (fun hn => hn.2.carrier rfl) fun hn => hn.2.carrier
  | snifferSend packet address => exact fun ha hs => (Bool.not_eq_true _).mp fun hack => hc.2 ⟨ha, hs, hack⟩
  | _ => trivial

/-- In a session without the carrier whose calls keep to it, and up to the 200 ms path, the registers
between calls are those of the mode. -/
theorem configured_of_between {m : Machine} (h : Between (fun c m => c.Carrierless ∧ c.NothingLeftOver m) m)
    (hs : .stuck ∉ m.trace) : Configured m := by
  rcases ended_of_between (fun _ _ => allows_of_nothingLeftOver) h with h | h
  · rcases h with ⟨-, hc⟩ | ⟨-, hc⟩
    · have hn : m.esb.snifferActive = false := hc.sniffer
      refine ⟨fun _ => ?_, fun hx => absurd hx (ne_true_of_eq_false hn)⟩
      exact ⟨hc.registers.maxlen, hc.registers.rxaddresses, hc.registers.txaddress, hc.shorts, hc.masked, hc.femRxen⟩
    · have hn : m.esb.snifferActive = true := hc.sniffer
      refine ⟨fun hx => absurd hn (ne_true_of_eq_false hx), fun _ => ?_⟩
      exact ⟨hc.registers.maxlen, hc.registers.rxaddresses, hc.registers.txaddress, hc.shorts, hc.intDisabled,
        hc.packetptr, hc.femRxen⟩
  · exact absurd h hs

/-- A session is started. -/
theorem configured_sniffing : ∃ m, Between (fun c m => c.Carrierless ∧ c.NothingLeftOver m) m ∧
    m.esb.snifferActive = true ∧ Configured m := by
  have hrun : (Call.finish .snifferStart (threadSteps 14) .boot).map
      (fun m => (m.esb.snifferActive, decide (.stuck ∈ m.trace))) = some (true, false) := by decide +kernel
  obtain ⟨m, hf, hm⟩ := Option.map_eq_some_iff.mp hrun
  obtain ⟨hactive, hs⟩ := Prod.mk.inj hm
  have hok : Call.Carrierless .snifferStart ∧ Call.NothingLeftOver .snifferStart .boot := ⟨trivial, trivial⟩
  have hb : Between (fun c m => c.Carrierless ∧ c.NothingLeftOver m) m := Between.boot.finish hok hf
  exact ⟨m, hb, hactive, configured_of_between hb (of_decide_eq_false hs)⟩

/-- A reception in a session, which ends as an ack does. -/
def sessionReception : List Event := .ready :: ackedAttempt.drop 10

/-- Behind `sendingLeft`: a packet is sent in a session. The stop of the reception is taken for the end
of a packet and the ack timeout starts; it expires just before TXEN, so that the wait for the packet
ends at once and its own completion stays in `radioXferDone`. -/
def completionLeft : List (Call × List (Choice Event)) :=
  sendingLeft ++
    [(.snifferStart, threadSteps 14 ++ hardware (sessionReception ++ List.replicate 499 .tick)),
      (.snifferSend {} (Buf.fill 5 1), threadSteps 7 ++ hardware [.rampedDown, .isr] ++ threadSteps 14 ++
        hardware [.tick, .isr] ++ threadSteps 3 ++ hardware plainAttempt ++ threadSteps 13),
      (.snifferStop, threadSteps 4 ++ hardware [.rampedDown] ++ threadSteps 10)]

theorem carrierless_completionLeft : ∀ x ∈ completionLeft, x.1.Carrierless := by
  intro x hx
  simp only [completionLeft, sendingLeft, List.cons_append, List.nil_append, List.mem_cons, List.not_mem_nil,
    or_false] at hx
  rcases hx with rfl | rfl | rfl | rfl | rfl | rfl <;> trivial

/-- The next packet with auto-ack takes that completion while it waits for its ack, and the front end
stays on for receiving. -/
theorem left_receiving : ¬ ∀ m : Machine, Between (fun c _ => c.Carrierless) m → .stuck ∉ m.trace → Configured m := by
  intro h
  have hrun : (finishAll (completionLeft ++
      [(.sendPacket {} 0 0, threadSteps 21 ++ hardware plainAttempt ++ threadSteps 15)]) .boot).map
        (fun m => (m.esb.snifferActive, m.femRxen, decide (.stuck ∈ m.trace))) = some (false, true, false) := by
    decide +kernel
  obtain ⟨m, hf, hm⟩ := Option.map_eq_some_iff.mp hrun
  obtain ⟨hactive, hm⟩ := Prod.mk.inj hm
  obtain ⟨hrx, hs⟩ := Prod.mk.inj hm
  have hb : Between (fun c _ => c.Carrierless) m := by
    refine Between.boot.finishAll (fun x hx _ => ?_) hf
    rcases List.mem_append.mp hx with hx | hx
    · exact carrierless_completionLeft x hx
    · rw [List.mem_singleton.mp hx]; trivial
  have hoff := ((h m hb (of_decide_eq_false hs)).1 hactive).femRxen
  exact absurd hrx (ne_true_of_eq_false hoff)

/-! ## Waits for an ack -/

/-- In such a session the handler waits for an ack only while a call of `esb_send_packet` has an attempt
in flight, and for the DISABLED event of that attempt's packet. -/
theorem ackWait_inFlight {m : Machine} (hs : .stuck ∉ m.trace) :
    (Between (fun c m => c.Carrierless ∧ c.NothingLeftOver m) m → ¬m.AckWait) ∧
    ∀ (c : Call) (t : Code Unit), During (fun c m => c.Carrierless ∧ c.NothingLeftOver m) c t m → m.AckWait →
      c.RunsAttempts ∧ InFlight m ∧ m.eventCause = m.attempt := by
  constructor
  · intro h hw
    rcases ended_of_between (fun _ _ => allows_of_nothingLeftOver) h with h | h
    · have hkept : Kept .carrierless False m := kept_settled m h
      rcases hkept with h | h
      · exact absurd h hs
      · exact (h.2 hw).1
    · exact absurd h hs
  · intro c t h hw
    rcases kept_of_during (fun _ _ => allows_of_nothingLeftOver) h with h | h
    · exact absurd h hs
    · exact h.2 hw

/-- The end of the packet of an acked call. -/
theorem ackWait_inFlight_acked : ∃ (c : Call) (t : Code Unit) (m : Machine),
    During (fun c m => c.Carrierless ∧ c.NothingLeftOver m) c t m ∧ m.AckWait ∧
      c.RunsAttempts ∧ InFlight m ∧ m.eventCause = m.attempt := by
  have hrun : (preemptive.run (threadSteps 21 ++ hardware [.ready, .endTx, .rampedDown])
      (Call.code (.sendPacket {} 0 0)) .boot).map (fun x => (decide (.stuck ∈ x.2.trace),
        x.2.pending && (!x.2.esb.snifferActive && (x.2.sending && x.2.esb.ackEnabled)))) = some (false, true) := by
    decide +kernel
  obtain ⟨⟨t, m⟩, hr, hm⟩ := Option.map_eq_some_iff.mp hrun
  obtain ⟨hs, hw⟩ := Prod.mk.inj hm
  have hd : During (fun c m => c.Carrierless ∧ c.NothingLeftOver m) (.sendPacket {} 0 0) t m :=
    ⟨_, _, .boot, ⟨trivial, trivial⟩, hr⟩
  simp only [Bool.and_eq_true, Bool.not_eq_true'] at hw
  exact ⟨_, t, m, hd, hw, (ackWait_inFlight (of_decide_eq_false hs)).2 _ t hd hw⟩

/-- The `sending` of a packet without auto-ack makes the handler wait for an ack when a session stops
its reception to send. -/
theorem wait_for_nothing : ¬ ∀ (c : Call) (t : Code Unit) (m : Machine), During (fun c _ => c.Carrierless) c t m →
    .stuck ∉ m.trace → m.AckWait → c.RunsAttempts ∧ InFlight m ∧ m.eventCause = m.attempt := by
  intro h
  have hrun : ((finishAll (sendingLeft ++ [(.snifferStart, threadSteps 14)]) .boot).bind fun m₀ =>
      (preemptive.run (threadSteps 7 ++ hardware [.rampedDown]) (Call.code (.snifferSend {} (Buf.fill 5 1))) m₀).map
        fun x => (decide (.stuck ∈ x.2.trace),
          x.2.pending && (!x.2.esb.snifferActive && (x.2.sending && x.2.esb.ackEnabled)))) = some (false, true) := by
    decide +kernel
  obtain ⟨m₀, hf, hrun⟩ := Option.bind_eq_some_iff.mp hrun
  obtain ⟨⟨t, m⟩, hr, hm⟩ := Option.map_eq_some_iff.mp hrun
  obtain ⟨hs, hw⟩ := Prod.mk.inj hm
  have hb : Between (fun c _ => c.Carrierless) m₀ := by
    refine Between.boot.finishAll (fun x hx _ => ?_) hf
    simp only [sendingLeft, List.cons_append, List.nil_append, List.mem_cons, List.not_mem_nil, or_false] at hx
    rcases hx with rfl | rfl | rfl | rfl <;> trivial
  simp only [Bool.and_eq_true, Bool.not_eq_true'] at hw
  exact (h (.snifferSend {} (Buf.fill 5 1)) t m ⟨m₀, _, hb, trivial, hr⟩ (of_decide_eq_false hs) hw).1

end Crazyradio.Driver
