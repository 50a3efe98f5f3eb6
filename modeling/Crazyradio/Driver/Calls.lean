/-
What the calls of the driver leave behind. Between calls the machine is in normal mode or in a sniffer
session, each with its registers, shorts, pins and interrupt as one configuration; every call takes
one of the two to one of the two, wherever the hardware and the handler moved, unless it ends through
the 200 ms path.
-/
import Crazyradio.Driver.Outline

namespace Crazyradio.Driver

open Bytes Threads

/-! ## Between calls -/

/-- The packet format and the addresses. -/
structure Registers (maxlen : Nat) (rxaddresses : UInt8) (e : Esb) : Prop where
  maxlen : e.radio.maxlen = maxlen
  rxaddresses : e.radio.rxaddresses = rxaddresses
  txaddress : e.radio.txaddress = 0

/-- Normal mode between calls. -/
structure Config.Normal (p : Policy) (c : Config) : Prop where
  registers : Registers 32 0x01 c.esb
  irqEnabled : c.irqEnabled = true
  masked : c.intDisabled = false
  sem : c.radioXferDone = 0
  ppi22 : c.ppi22 = false
  femRxen : c.femRxen = false
  shorts : c.shorts = idleShorts
  sniffer : c.esb.snifferActive = false
  acked : p = .acked → c.sending = false ∧ (c.femTxen = true → c.esb.continuousCarrierEnabled = true)
  carrier : p = .carrierless → c.esb.continuousCarrierEnabled = false

/-- A sniffer session between calls. -/
structure Config.Sniffing (p : Policy) (c : Config) : Prop where
  registers : Registers 63 0x03 c.esb
  irqEnabled : c.irqEnabled = true
  intDisabled : c.intDisabled = true
  sem : c.radioXferDone = 0
  ppi22 : c.ppi22 = false
  femRxen : c.femRxen = true
  shorts : c.shorts = snifferShorts
  packetptr : c.packetptr = .snifferRxBuffer
  sniffer : c.esb.snifferActive = true
  acked : p = .acked → c.sending = false ∧ c.femTxen = false
  carrier : c.esb.continuousCarrierEnabled = false

/-- What is known of the radio in normal mode: after a carrier it may still be on its way off. -/
def Policy.rest : Policy → Phase
  | .acked => .any
  | .carrierless => .off

/-- The machine between calls. -/
def Settled (p : Policy) (m : Machine) : Prop := At p.rest (Config.Normal p) m ∨ At .any (Config.Sniffing p) m

section Calls

variable {p : Policy} {sends : Prop} {ph : Phase} {c : Config} {α : Type} {Q : α → Machine → Prop}

theorem Config.Normal.stands_one (h : c.Normal p) (hn : ph.Needs c) : Stands p ph (· = c) :=
  .masked h.masked h.femRxen hn

theorem Config.Sniffing.stands_one (h : c.Sniffing p) (hn : ph.Needs c) : Stands p ph (· = c) :=
  .sniffing h.sniffer h.packetptr (fun hp => (h.acked hp).2) hn

theorem needs_rest (h : c.Normal p) : p.rest.Needs c := by
  cases p with
  | acked => trivial
  | carrierless => exact h.ppi22

theorem stands_normal : Stands p p.rest (Config.Normal p) :=
  stands_masked (fun _ => needs_rest) fun _ h => ⟨h.masked, h.femRxen⟩

theorem stands_sniffing : Stands p .any (Config.Sniffing p) := by
  refine ⟨fun _ _ => trivial, ?_, .inr fun c h _ => ⟨?_, .inl h.sniffer⟩⟩
  · rintro c h hp ⟨hx, -⟩
    exact absurd hx (ne_true_of_eq_false (h.acked hp).2)
  · rw [Config.radioIsr_sniffing h.sniffer h.packetptr]
    exact h

theorem stable_settled : preemptive.Stable (Settled p) := stands_normal.stable.or stands_sniffing.stable

theorem kept_settled (m : Machine) (h : Settled p m) : Kept p sends m :=
  h.elim (stands_normal.kept m) (stands_sniffing.kept m)

/-- A call from either mode. -/
theorem safe_settled {t : Code α} {m : Machine} (h : Settled p m)
    (hnormal : m.config.Normal p → preemptive.Triple (Kept p sends) (At p.rest (· = m.config)) t Q)
    (hsniffing : m.config.Sniffing p → preemptive.Triple (Kept p sends) (At .any (· = m.config)) t Q) :
    preemptive.Safe (Kept p sends) Q t m := by
  rcases h with ⟨hph, hc⟩ | ⟨hph, hc⟩
  · exact hnormal hc m ⟨hph, rfl⟩
  · exact hsniffing hc m ⟨hph, rfl⟩

theorem rest_of_off {m : Machine} (h : Phase.off.Holds m) : p.rest.Holds m := by
  cases p with
  | acked => trivial
  | carrierless => exact h

/-! ## One attempt -/

/-- Normal mode where a packet may be sent. -/
structure Config.Sendable (p : Policy) (c : Config) : Prop extends c.Normal p where
  acks : p = .acked → c.esb.ackEnabled = true
  carrierOff : c.esb.continuousCarrierEnabled = false

/-- Behind a successful `k_sem_take`. -/
structure Config.Collected (p : Policy) (c : Config) : Prop where
  registers : Registers 32 0x01 c.esb
  irqEnabled : c.irqEnabled = true
  sem : c.radioXferDone = 0
  ppi22 : c.ppi22 = false
  femRxen : c.femRxen = false
  rxen : c.shorts.disabledRxen = false
  rssistart : c.shorts.addressRssistart = true
  rssistop : c.shorts.disabledRssistop = true
  sniffer : c.esb.snifferActive = false
  acked : p = .acked → c.sending = false ∧ c.femTxen = false
  acks : p = .acked → c.esb.ackEnabled = true
  carrierOff : c.esb.continuousCarrierEnabled = false

/-- An assertion for the time between TXEN and `k_sem_take`. -/
structure Underway (p : Policy) (A : Machine → Prop) : Prop where
  stable : preemptive.Stable A
  kept : ∀ m, A m → Kept p True m
  take : ∀ m, A m → 0 < m.radioXferDone → At .still (Config.Collected p) (preemptive.exec (.semTake true) m)

/-- The last instruction of a piece of code. -/
theorem at_last {S : Config → Prop} {B : Machine → Prop} {i : Op} (hA : Stands p ph S)
    (hi : ∀ m, ph.Holds m → S m.config → m.pending = false → B (m.exec i)) (hB : preemptive.Stable B)
    (hk : ∀ m, B m → Kept p sends m) : preemptive.Triple (Kept p sends) (At ph S) (op i) fun _ => B := by
  refine Platform.Triple.step hA.stable hA.kept (fun m hm => ?_) (Platform.Triple.done hB hk fun _ h => h)
  obtain ⟨hp, hs⟩ := interrupted_of_stable hA.stable hm
  exact hi _ hp hs (pending_interrupted m)

/-- The part of an attempt behind the shorts. -/
theorem launch {A : Machine → Prop} (hp : c.ppi22 = false) (hr : c.femRxen = false) (hA : Underway p A)
    (htx : ∀ m, At .still (· = { c with packetptr := .packet, femTxen := true, sending := true }) m →
      A (m.exec (.txen true))) :
    preemptive.Triple (Kept p True) (At .still (· = c)) (do
      op (.ppiEnable .channel27)
      op (.ppiEnable .channel26)
      op (.packetptrSet .packet)
      op (.buffers fun b => { b with ack := { b.ack with length := 0 } })
      op (.femTxenSet true)
      op .sending
      op (.txen true)) fun _ => A := by
  refine code_op (.still hp hr) trivial trivial ?_
  refine code_op (.still hp hr) trivial trivial ?_
  refine code_op (.still hp hr) trivial trivial ?_
  refine code_op (.still hp hr) trivial trivial ?_
  refine code_op (.still hp hr) trivial trivial ?_
  refine code_op (.still hp hr) trivial trivial ?_
  exact at_last (.still hp hr) (fun m hs hc _ => htx m ⟨hs, hc⟩) hA.stable hA.kept

/-- TXEN starts the packet of an attempt. -/
theorem txen_still {m : Machine} (h : At .still (· = c) m) :
    (m.exec (.txen true)).config = c ∧ (m.exec (.txen true)).eventDisabled = false ∧
      (m.exec (.txen true)).activity = (m.exec (.txen true)).attempt ∧ InFlight (m.exec (.txen true)) := by
  have ht : m.exec (.txen true) = { { m with attempt := m.attempt + 1 }.note (.txen m.radioXferDone) with
      radio := .txRu, activity := m.attempt + 1 } := if_pos h.1.1
  rw [ht]
  exact ⟨h.2, h.1.2, rfl, m.radioXferDone, List.getLast?_concat⟩

/-- The configuration at the TXEN of an attempt. -/
structure Config.Primed (p : Policy) (c : Config) : Prop where
  registers : Registers 32 0x01 c.esb
  irqEnabled : c.irqEnabled = true
  sem : c.radioXferDone = 0
  ppi22 : c.ppi22 = false
  femRxen : c.femRxen = false
  rxen : c.shorts.disabledRxen = c.esb.ackEnabled
  rssistart : c.shorts.addressRssistart = true
  rssistop : c.shorts.disabledRssistop = true
  sending : c.sending = true
  sniffer : c.esb.snifferActive = false
  acks : p = .acked → c.esb.ackEnabled = true
  carrierOff : c.esb.continuousCarrierEnabled = false

/-- Without auto-ack the handler runs once, behind the packet. -/
theorem Config.Primed.plain (h : c.Primed p) (ha : c.esb.ackEnabled = false) : Underway p (Flying c) := by
  have hisr := Config.radioIsr_given h.sniffer h.sending ha
  have hnot : p ≠ .acked := fun hp => absurd (h.acks hp) (ne_true_of_eq_false ha)
  have hflies : c.Flies p := by
    refine ⟨h.rxen.trans ha, ?_, h.sem, .inr (.inr ha), fun hp => absurd hp hnot, ?_⟩
    · rw [hisr]; exact h.ppi22
    · rw [hisr]; exact h.femRxen
  refine ⟨hflies.stable, hflies.kept, fun m hm hs => ?_⟩
  obtain ⟨hp, hc⟩ := hflies.take hm hs true
  refine ⟨hp, ?_⟩
  rw [hc, hisr]
  exact ⟨h.registers, h.irqEnabled, rfl, h.ppi22, h.femRxen, h.rxen.trans ha, h.rssistart, h.rssistop, h.sniffer,
    fun hp => absurd hp hnot, h.acks, h.carrierOff⟩

/-- With auto-ack it runs behind the packet, and behind the ack or the timeout. -/
theorem Config.Primed.acked (h : c.Primed p) (ha : c.esb.ackEnabled = true) : Underway p (Launched c) := by
  have hsent := Config.radioIsr_sent h.sniffer h.sending ha
  have hreceived : c.radioIsr.radioIsr =
      { c.radioIsr with femRxen := false, ppi22 := false, radioXferDone := 1 } := by
    refine Config.radioIsr_received ?_ ?_ <;> rw [hsent]
    exact h.sniffer
  have hrxen : c.radioIsr.shorts.disabledRxen = false := by rw [hsent]; exact Bool.and_false _
  have hsem : c.radioIsr.radioXferDone = 0 := by rw [hsent]; exact h.sem
  have hflies : c.radioIsr.Flies p := by
    refine ⟨hrxen, ?_, hsem, .inr (.inl ?_), ?_, ?_⟩
    · rw [hreceived]
    · rw [hsent]
    · rw [hsent]
      rintro - ⟨hx, -⟩
      exact absurd hx Bool.false_ne_true
    · rw [hreceived]
  refine ⟨stable_launched hflies, kept_launched hflies h.femRxen trivial, fun m hm hs => ?_⟩
  rcases hm with hm | hm
  · have h0 : m.radioXferDone = 0 := (congrArg Config.radioXferDone hm.config).trans h.sem
    rw [h0] at hs
    exact absurd hs (Nat.lt_irrefl 0)
  · obtain ⟨hp, hc⟩ := hflies.take hm hs true
    refine ⟨hp, ?_⟩
    rw [hc, hreceived, hsent]
    exact ⟨h.registers, h.irqEnabled, rfl, rfl, rfl, Bool.and_false _, (Bool.and_true _).trans h.rssistart,
      (Bool.and_true _).trans h.rssistop, h.sniffer, fun _ => ⟨rfl, rfl⟩, h.acks, h.carrierOff⟩

/-- TXEN begins the time up to `k_sem_take`. -/
theorem Config.Primed.underway (h : c.Primed p) :
    ∃ A, Underway p A ∧ ∀ m, At .still (· = c) m → A (m.exec (.txen true)) := by
  cases ha : c.esb.ackEnabled with
  | false =>
    refine ⟨Flying c, h.plain ha, fun m hm => ?_⟩
    obtain ⟨hc, he, -, -⟩ := txen_still hm
    exact .inl ⟨fun hx => absurd hx (ne_true_of_eq_false he), hc⟩
  | true =>
    refine ⟨Launched c, h.acked ha, fun m hm => ?_⟩
    obtain ⟨hc, he, hact, hin⟩ := txen_still hm
    exact .inl ⟨hc, hact, fun hx => absurd hx (ne_true_of_eq_false he), hin⟩

theorem startAttempt_underway (h : c.Sendable p) : ∃ A, Underway p A ∧
    preemptive.Triple (Kept p True) (At .off (· = c)) startAttempt fun _ => A := by
  have hp := h.ppi22
  have hr := h.femRxen
  -- the short to RXEN is set where an ack is awaited
  have hshorts : ∀ ack : Bool,
      let shorts := (c.shorts.enable packetShorts).enable { disabledRxen := ack }
      shorts.disabledRxen = ack ∧ shorts.addressRssistart = true ∧ shorts.disabledRssistop = true := by
    rw [h.shorts]
    rintro (_ | _) <;> exact ⟨rfl, rfl, rfl⟩
  obtain ⟨hrxen, hstart, hstop⟩ := hshorts c.esb.ackEnabled
  obtain ⟨A, hA, htx⟩ := Config.Primed.underway (p := p) (c := { c with
    intDisabled := true, shorts := (c.shorts.enable packetShorts).enable { disabledRxen := c.esb.ackEnabled }
    packetptr := .packet, femTxen := true, sending := true })
    ⟨h.registers, h.irqEnabled, h.sem, hp, hr, hrxen, hstart, hstop, rfl, h.sniffer, h.acks, h.carrierOff⟩
  refine ⟨A, hA, ?_⟩
  refine code_clear (h.stands_one hp) ?_
  refine code_op (.still hp hr) trivial trivial ?_
  refine code_op (.still hp hr) trivial trivial ?_
  refine code_get (.still hp hr) (fun m hm => congrArg (·.esb.ackEnabled) hm) ?_
  show preemptive.Triple _ _ (opIf c.esb.ackEnabled _ >>= _) _
  cases ha : c.esb.ackEnabled with
  | false =>
    have hnone : (c.shorts.enable packetShorts).enable { disabledRxen := false } = c.shorts.enable packetShorts := by
      rw [h.shorts]; rfl
    rw [ha, hnone] at htx
    exact launch hp hr hA htx
  | true =>
    rw [ha] at htx
    exact code_op (.still hp hr) trivial trivial (launch hp hr hA htx)

theorem stands_sendable : Stands p .off (Config.Sendable p) :=
  stands_masked (fun _ h => h.ppi22) fun _ h => ⟨h.masked, h.femRxen⟩

/-- The shorts of an attempt are taken back. -/
theorem Config.Collected.shorts (h : c.Collected p) : c.shorts.disable packetShorts = idleShorts := by
  have hrx := h.rxen
  have hstart := h.rssistart
  have hstop := h.rssistop
  revert hrx hstart hstop
  obtain ⟨ready, ends, rxen, start, stop⟩ := c.shorts
  rintro ⟨⟩ ⟨⟩ ⟨⟩
  cases ready <;> cases ends <;> rfl

theorem endAttempt_sendable (h : c.Collected p) : preemptive.Triple (Kept p True) (At .still (· = c)) endAttempt
    fun _ => At .off (Config.Sendable p) := by
  have hp := h.ppi22
  have hr := h.femRxen
  have hend : Config.Sendable p { c with intDisabled := false, shorts := idleShorts } :=
    ⟨⟨h.registers, h.irqEnabled, rfl, h.sem, hp, hr, rfl, h.sniffer,
      fun hp => ⟨(h.acked hp).1, fun hx => absurd hx (ne_true_of_eq_false (h.acked hp).2)⟩,
      fun _ => h.carrierOff⟩, h.acks, h.carrierOff⟩
  have hlast : preemptive.Triple (Kept p True)
      (At .still (· = { c with intDisabled := false, shorts := idleShorts })) (do
        op (.ppiDisable .channel27)
        op (.ppiDisable .channel26)) fun _ => At .off (Config.Sendable p) := by
    refine code_op (.still hp hr) trivial trivial ?_
    refine at_last (.still hp hr) (fun m hs hc _ => ⟨hs.1, ?_⟩) stands_sendable.stable stands_sendable.kept
    rw [config_exec (i := .ppiDisable .channel26) trivial, hc]
    exact hend
  refine code_op (.still hp hr) trivial trivial ?_
  refine code_op (.still hp hr) trivial trivial ?_
  refine code_get (.still hp hr) (fun m hm => congrArg (·.esb.ackEnabled) hm) ?_
  show preemptive.Triple _ (At .still (· = { c with intDisabled := false, shorts := c.shorts.disable packetShorts }))
    (opIf c.esb.ackEnabled _ >>= _) _
  rw [h.shorts]
  cases c.esb.ackEnabled with
  | false => exact hlast
  | true => exact code_op (.still hp hr) trivial trivial hlast

theorem checkAck_sendable : preemptive.Triple (Kept p True) (At .off (Config.Sendable p)) checkAck
    fun _ => At .off (Config.Sendable p) := by
  refine at_get stands_sendable fun timeout => ?_
  split
  · exact at_done stands_sendable fun _ h => h
  refine at_get stands_sendable fun crcOk => ?_
  split
  · exact Platform.Triple.read stands_sendable.stable stands_sendable.kept fun m hm =>
      at_done stands_sendable (fun _ h => h) m hm
  · exact at_done stands_sendable fun _ h => h

/-! ## Calls of `esb_send_packet` -/

/-- Behind the loop, unless the call ended through the 200 ms path. -/
def Returned (p : Policy) (m : Machine) : Prop := At .off (Config.Sendable p) m ∨ WasStuck m

/-- One attempt, with what follows it. -/
theorem attempt_returned {next : Bool → Code (Option α)}
    (h : ∀ ackReceived, preemptive.Triple (Kept p True) (At .off (Config.Sendable p)) (next ackReceived)
      fun _ => Returned p) :
    preemptive.Triple (Kept p True) (At .off (Config.Sendable p)) (do
      startAttempt
      if ← semTake true then
        endAttempt
        let ackReceived ← checkAck
        next ackReceived
      else
        resetRadio
        return none) fun _ => Returned p := by
  rintro m ⟨hoff, hc⟩
  obtain ⟨A, hA, hstart⟩ := startAttempt_underway hc
  have hstuck : preemptive.Triple (Kept p True) A resetRadio fun _ => WasStuck := by
    refine Platform.Triple.step hA.stable hA.kept (fun m _ => ?_) (triple_preempted_stuck _)
    exact List.mem_append_right m.interrupted.trace List.mem_cons_self
  refine Platform.Triple.bind hstart (fun _ => Platform.Triple.wait hA.stable hA.kept
    (fun m hm hs => hA.take m hm (of_decide_eq_true hs)) ?_ (fun _ _ hm => hm) ?_) m ⟨hoff, rfl⟩
  · exact (triple_at fun _ => endAttempt_sendable).bind fun _ => checkAck_sendable.bind h
  · exact hstuck.bind fun _ => (triple_preempted_stuck _).post fun _ _ h => .inr h

theorem attempts_returned (left arcCounter : Nat) : preemptive.Triple (Kept p True) (At .off (Config.Sendable p))
    (attempts left arcCounter) fun _ => Returned p := by
  have hdone : ∀ r : Option (Bool × Nat), preemptive.Triple (Kept p True) (At .off (Config.Sendable p))
      (pure r : Code _) fun _ => Returned p := fun r => at_done stands_sendable fun _ h => .inl h
  induction left generalizing arcCounter with
  | zero =>
    refine attempt_returned fun ackReceived => at_get stands_sendable fun ackEnabled => ?_
    split <;> exact hdone _
  | succ left ih =>
    refine attempt_returned fun ackReceived => at_get stands_sendable fun ackEnabled => ?_
    split
    · exact hdone _
    · exact ih (arcCounter + 1)

/-- A call that is refused, or whose packet the simulation drops, changes nothing. -/
theorem esbSendPacket_dropped {packetDraw ackDraw : UInt32} (hA : Stands p ph (· = c))
    (h : c.esb.refuses = false → lossHits c.esb.packetLossPercent packetDraw = true) :
    preemptive.Triple (Kept p sends) (At ph (· = c)) (esbSendPacket packetDraw ackDraw) fun _ => At ph (· = c) := by
  have hdone : ∀ b : Bool, preemptive.Triple (Kept p sends) (At ph (· = c)) (pure b : Code _) fun _ => At ph (· = c) :=
    fun b => at_done hA fun _ h => h
  refine code_get hA (fun m hm => congrArg (·.esb.isInit) hm) ?_
  split
  · exact hdone false
  rename_i hi
  refine code_get (v := c.esb.continuousCarrierEnabled || c.esb.snifferActive) hA (fun m hm => by rw [← hm]; rfl) ?_
  split
  · exact hdone false
  rename_i hr
  have hloss := h (by
    unfold Esb.refuses
    rw [Bool.eq_false_iff.mpr hi, Bool.eq_false_iff.mpr hr]
    rfl)
  refine code_op hA trivial trivial (code_get hA (fun m hm => congrArg (·.esb.packetLossPercent) hm) ?_)
  rw [if_pos (show lossHits (c.exec .mutexLock).esb.packetLossPercent packetDraw = true from hloss)]
  exact code_op hA trivial trivial (hdone false)

theorem esbSendPacket_returned {packetDraw ackDraw : UInt32} (h : c.Sendable p) :
    preemptive.Triple (Kept p True) (At .off (· = c)) (esbSendPacket packetDraw ackDraw) fun _ => Returned p := by
  have hA : Stands p .off (· = c) := h.stands_one h.ppi22
  have hdone : ∀ b : Bool, preemptive.Triple (Kept p True) (At .off (· = c)) (pure b : Code _) fun _ => Returned p :=
    fun b => at_done hA fun m hm => .inl ⟨hm.1, by rw [hm.2]; exact h⟩
  have hreturned : ∀ b : Bool, preemptive.Triple (Kept p True) (At .off (Config.Sendable p)) (pure b : Code _)
      fun _ => Returned p := fun b => at_done stands_sendable fun _ hm => .inl hm
  refine at_get hA fun isInit => ?_
  split
  · exact hdone false
  refine at_get hA fun refused => ?_
  split
  · exact hdone false
  refine code_op hA trivial trivial (at_get hA fun percent => ?_)
  split
  · exact code_op hA trivial trivial (hdone false)
  refine at_get hA fun pid => code_op hA trivial trivial (code_op hA (fun _ => rfl) trivial ?_)
  -- the next packet id is no concern of the radio's
  have hnext : Config.Sendable p (c.exec (.esb fun e => { e with pid := e.pid + 1 })) :=
    ⟨⟨⟨h.registers.maxlen, h.registers.rxaddresses, h.registers.txaddress⟩, h.irqEnabled, h.masked, h.sem, h.ppi22,
      h.femRxen, h.shorts, h.sniffer, h.acked, h.carrier⟩, h.acks, h.carrierOff⟩
  refine Platform.Triple.pre ?_ fun m (hm : At .off (· = _) m) => (⟨hm.1, by rw [hm.2]; exact hnext⟩ :
    At .off (Config.Sendable p) m)
  refine at_get stands_sendable fun arc => (attempts_returned arc 0).bind fun r => ?_
  refine Platform.Triple.or ?_ ((triple_preempted_stuck _).post fun _ _ h => .inr h)
  cases r with
  | none => exact hreturned false
  | some r =>
    have hop : ∀ {i : Op} {k : Unit → Code Bool}, i.Blind → i.Quiet → (∀ d : Config, d.exec i = d) →
        preemptive.Triple (Kept p True) (At .off (Config.Sendable p)) (k ()) (fun _ => Returned p) →
        preemptive.Triple (Kept p True) (At .off (Config.Sendable p)) (op i >>= k) (fun _ => Returned p) := by
      intro i k hb hq hid hk
      refine at_op stands_sendable ?_ hk
      intro m hm hc _
      exact ⟨hm.exec hq, by rw [config_exec hb, hid]; exact hc⟩
    refine hop trivial trivial (fun _ => rfl) (hop trivial trivial (fun _ => rfl) ?_)
    exact at_get stands_sendable fun percent => hop trivial trivial (fun _ => rfl) (hreturned _)

/-- Between calls, or one of them ended through the 200 ms path. -/
def Ended (p : Policy) (m : Machine) : Prop := Settled p m ∨ WasStuck m

theorem stable_ended : preemptive.Stable (Ended p) := stable_settled.or stable_stuck_preemptive

theorem Config.Sendable.ended {m : Machine} (h : At .off (Config.Sendable p) m) : Settled p m :=
  .inl ⟨rest_of_off h.1, h.2.toNormal⟩

/-- What follows a function whose result is dropped. -/
theorem done_ended : preemptive.Triple (Kept p sends) (Settled p) (pure () : Code Unit) fun _ => Ended p :=
  Platform.Triple.done stable_settled kept_settled fun _ hm => .inl hm

/-- The packet gets past the early exits of `esb_send_packet`. -/
def Machine.sendsPacket (packetDraw : UInt32) (m : Machine) : Prop :=
  m.esb.refuses = false ∧ lossHits m.esb.packetLossPercent packetDraw = false

theorem sendPacket_ended {packet : EsbPacket} {packetDraw ackDraw : UInt32} {m : Machine} (h : Settled p m)
    (hok : p = .acked → m.sendsPacket packetDraw → m.esb.ackEnabled = true ∧ m.radio = .disabled) :
    preemptive.Safe (Kept p True) (fun _ => Ended p) (Call.code (.sendPacket packet packetDraw ackDraw)) m := by
  have dropped : ∀ {ph : Phase} {c : Config}, Stands p ph (· = c) → ph.Holds m → m.config = c →
      (∀ m', At ph (· = c) m' → Settled p m') → ¬m.sendsPacket packetDraw →
      preemptive.Safe (Kept p True) (fun _ => Ended p) (Call.code (.sendPacket packet packetDraw ackDraw)) m := by
    rintro ph c hA hph rfl hs hno
    have hloss : m.config.esb.refuses = false → lossHits m.config.esb.packetLossPercent packetDraw = true :=
      fun hr => (Bool.not_eq_false _).mp fun hl => hno ⟨hr, hl⟩
    have hcode : preemptive.Triple (Kept p True) (At ph (· = m.config))
        (Call.code (.sendPacket packet packetDraw ackDraw)) fun _ => Ended p :=
      code_op hA trivial trivial ((esbSendPacket_dropped hA hloss).bind fun _ => done_ended.pre hs)
    exact hcode m ⟨hph, rfl⟩
  by_cases hsend : m.sendsPacket packetDraw
  · rcases h with ⟨hph, hc⟩ | ⟨-, hc⟩
    · have hcarrier : m.esb.continuousCarrierEnabled = false := by
        have href := hsend.1
        simp only [Esb.refuses, Bool.or_eq_false_iff] at href
        exact href.2.1
      have hsendable : m.config.Sendable p ∧ m.radio = .disabled := by
        cases p with
        | acked => exact ⟨⟨hc, fun _ => (hok rfl hsend).1, hcarrier⟩, (hok rfl hsend).2⟩
        | carrierless => exact ⟨⟨hc, fun hp => Policy.noConfusion hp, hcarrier⟩, hph⟩
      obtain ⟨hsendable, hoff⟩ := hsendable
      have hcode : preemptive.Triple (Kept p True) (At .off (· = m.config))
          (Call.code (.sendPacket packet packetDraw ackDraw)) fun _ => Ended p := by
        refine code_op (hsendable.stands_one hsendable.ppi22) trivial trivial
          ((esbSendPacket_returned hsendable).bind fun _ => ?_)
        exact (done_ended.pre fun _ => Config.Sendable.ended).or ((triple_preempted_stuck _).post fun _ _ h => .inr h)
      exact hcode m ⟨hoff, rfl⟩
    · -- in a sniffer session the call is refused
      have hactive : m.esb.snifferActive = true := hc.sniffer
      have href := hsend.1
      simp only [Esb.refuses, hactive, Bool.or_true, Bool.true_eq_false] at href
  · rcases h with ⟨hph, hc⟩ | ⟨hph, hc⟩
    · exact dropped (hc.stands_one (needs_rest hc)) hph rfl (fun _ hm => .inl ⟨hm.1, by rw [hm.2]; exact hc⟩) hsend
    · have hA : Stands p .any (· = m.config) := hc.stands_one trivial
      exact dropped hA hph rfl (fun _ hm => .inr ⟨hm.1, by rw [hm.2]; exact hc⟩) hsend

/-! ## Settings and the carrier -/

theorem setting_blind (s : Setting) : (Op.esb s.apply).Blind := by
  intro e
  cases s with
  | channel c =>
    simp only [Setting.apply, esbSetChannel]
    split <;> rfl
  | bitrate r =>
    simp only [Setting.apply, esbSetBitrate]
    repeat' split
    all_goals rfl
  | _ => rfl

/-- The setters leave the packet format, the pipes, the session and the carrier alone. -/
theorem setting_kept (s : Setting) (e : Esb) :
    (s.apply e).radio.maxlen = e.radio.maxlen ∧ (s.apply e).radio.rxaddresses = e.radio.rxaddresses ∧
      (s.apply e).radio.txaddress = e.radio.txaddress ∧ (s.apply e).snifferActive = e.snifferActive ∧
      (s.apply e).continuousCarrierEnabled = e.continuousCarrierEnabled := by
  cases s with
  | channel c =>
    simp only [Setting.apply, esbSetChannel]
    split <;> exact ⟨rfl, rfl, rfl, rfl, rfl⟩
  | bitrate r =>
    simp only [Setting.apply, esbSetBitrate]
    repeat' split
    all_goals exact ⟨rfl, rfl, rfl, rfl, rfl⟩
  | _ => exact ⟨rfl, rfl, rfl, rfl, rfl⟩

theorem Registers.setting {maxlen : Nat} {rxaddresses : UInt8} {e : Esb} (h : Registers maxlen rxaddresses e)
    (s : Setting) : Registers maxlen rxaddresses (s.apply e) := by
  obtain ⟨hm, hr, ht, -, -⟩ := setting_kept s e
  exact ⟨hm.trans h.maxlen, hr.trans h.rxaddresses, ht.trans h.txaddress⟩

/-- The last instruction of a call. -/
theorem unlock_ended {S : Config → Prop} (hA : Stands p ph S) (hs : ∀ m, At ph S m → Settled p m) :
    preemptive.Triple (Kept p sends) (At ph S) (op .mutexUnlock) fun _ => Ended p := by
  refine (at_last hA (fun m hm hc _ => ?_) stable_settled kept_settled).post fun _ _ h => .inl h
  exact hs _ ⟨hm.exec (i := .mutexUnlock) trivial, hc⟩

theorem ended_normal {m : Machine} (h : c.Normal p) (hm : At p.rest (· = c) m) : Settled p m :=
  .inl ⟨hm.1, by rw [hm.2]; exact h⟩

theorem ended_sniffing {m : Machine} (h : c.Sniffing p) (hm : At .any (· = c) m) : Settled p m :=
  .inr ⟨trivial, by rw [hm.2]; exact h⟩

theorem Config.Normal.setting (h : c.Normal p) (s : Setting) : Config.Normal p (c.exec (.esb s.apply)) := by
  obtain ⟨-, -, -, hsniffer, hcarrier⟩ := setting_kept s c.esb
  have hr := h.registers.setting s
  exact ⟨⟨hr.maxlen, hr.rxaddresses, hr.txaddress⟩, h.irqEnabled, h.masked, h.sem, h.ppi22, h.femRxen, h.shorts,
    hsniffer.trans h.sniffer, fun hp => ⟨(h.acked hp).1, fun hx => hcarrier.trans ((h.acked hp).2 hx)⟩,
    fun hp => hcarrier.trans (h.carrier hp)⟩

theorem Config.Sniffing.setting (h : c.Sniffing p) (s : Setting) : Config.Sniffing p (c.exec (.esb s.apply)) := by
  obtain ⟨-, -, -, hsniffer, hcarrier⟩ := setting_kept s c.esb
  have hr := h.registers.setting s
  exact ⟨⟨hr.maxlen, hr.rxaddresses, hr.txaddress⟩, h.irqEnabled, h.intDisabled, h.sem, h.ppi22, h.femRxen, h.shorts,
    h.packetptr, hsniffer.trans h.sniffer, h.acked, hcarrier.trans h.carrier⟩

theorem setting_code (s : Setting) (hA : Stands p ph (· = c)) (hset : Stands p ph (· = c.exec (.esb s.apply)))
    (hs : ∀ m, At ph (· = c.exec (.esb s.apply)) m → Settled p m) :
    preemptive.Triple (Kept p sends) (At ph (· = c)) (Call.code (.setting s)) fun _ => Ended p := by
  refine code_op hA trivial trivial ?_
  exact code_op hA (setting_blind s) trivial (unlock_ended hset hs)

theorem setting_ended (s : Setting) : preemptive.Triple (Kept p sends) (Settled p) (Call.code (.setting s))
    fun _ => Ended p := by
  intro m h
  refine safe_settled h (fun hc => ?_) fun hc => ?_
  · have hset := hc.setting s
    exact setting_code s (hc.stands_one (needs_rest hc)) (hset.stands_one (needs_rest hset)) fun _ => ended_normal hset
  · have hset := hc.setting s
    exact setting_code s (hc.stands_one trivial) (hset.stands_one trivial) fun _ => ended_sniffing hset

/-- The carrier's part of the configuration. -/
theorem carrierTask_any (enable : Bool) (hm : c.intDisabled = false) (hr : c.femRxen = false) :
    preemptive.Triple (Kept p sends) (At .any (· = c)) (carrierTask enable)
      fun _ => At .any (· = { c with femTxen := enable }) := by
  have hA : ∀ b : Bool, Stands p .any (· = { c with femTxen := b }) := fun b => .masked hm hr trivial
  have hlast : ∀ (b : Bool) (m : Machine), m.config = { c with femTxen := b } →
      At .any (· = { c with femTxen := b }) (m.exec (.txen false)) :=
    fun b m hc => ⟨trivial, (config_taskTxen m).trans hc⟩
  cases enable with
  | true =>
    refine code_any (.masked hm hr trivial) trivial ?_
    exact at_last (hA true) (fun m _ hc _ => hlast true m hc) (hA true).stable (hA true).kept
  | false =>
    refine code_any (.masked hm hr trivial) trivial ?_
    refine at_last (.masked hm hr trivial) (fun m _ hc _ => ⟨trivial, ?_⟩) (hA false).stable (hA false).kept
    rw [config_exec (i := .femTxenSet false) trivial, hc]
    rfl

theorem esbSetContinuousCarrier_settled (enable : Bool) : preemptive.Triple (Kept .acked sends) (Settled .acked)
    (esbSetContinuousCarrier enable) fun _ => Settled .acked := by
  have hdone : ∀ b : Bool, preemptive.Triple (Kept .acked sends) (Settled .acked) (pure b : Code Bool)
      fun _ => Settled .acked := fun _ => Platform.Triple.done stable_settled kept_settled fun _ hm => hm
  intro m h
  refine safe_settled h (fun hc => ?_) fun hc => ?_
  · have hA : Stands .acked .any (· = m.config) := hc.stands_one trivial
    have hback : ∀ b : Bool, preemptive.Triple (Kept .acked sends) (At .any (· = m.config)) (pure b : Code Bool)
        fun _ => Settled .acked := fun b => (hdone b).pre fun _ => ended_normal hc
    have hset : Config.Normal .acked { m.config with
        femTxen := enable, esb := { m.config.esb with continuousCarrierEnabled := enable } } :=
      ⟨⟨hc.registers.maxlen, hc.registers.rxaddresses, hc.registers.txaddress⟩, hc.irqEnabled, hc.masked, hc.sem,
        hc.ppi22, hc.femRxen, hc.shorts, hc.sniffer, fun hp => ⟨(hc.acked hp).1, id⟩, fun hp => (nomatch hp)⟩
    refine at_get hA fun isInit => ?_
    split
    · exact hback false
    refine at_get hA fun active => ?_
    split
    · exact hback false
    refine at_get hA fun enabled => ?_
    split
    · exact hback false
    refine code_any hA trivial ((carrierTask_any enable hc.masked hc.femRxen).bind fun _ => ?_)
    refine code_any (.masked hc.masked hc.femRxen trivial) (fun _ => rfl) ?_
    exact code_any (hset.stands_one trivial) trivial ((hdone true).pre fun _ => ended_normal hset)
  · have hA : Stands .acked .any (· = m.config) := hc.stands_one trivial
    have hback : ∀ b : Bool, preemptive.Triple (Kept .acked sends) (At .any (· = m.config)) (pure b : Code Bool)
        fun _ => Settled .acked := fun b => (hdone b).pre fun _ => ended_sniffing hc
    refine at_get hA fun isInit => ?_
    split
    · exact hback false
    refine code_get (v := true) hA (fun m' hm => (congrArg (·.esb.snifferActive) hm).trans hc.sniffer) ?_
    exact hback false

theorem setContinuousCarrier_ended (enable : Bool) : preemptive.Triple (Kept .acked sends) (Settled .acked)
    (Call.code (.setContinuousCarrier enable)) fun _ => Ended .acked :=
  (esbSetContinuousCarrier_settled enable).bind fun _ => done_ended

end Calls

end Crazyradio.Driver
