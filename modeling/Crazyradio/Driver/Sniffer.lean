/-
The calls of a sniffer session. `esb_sniffer_stop` keeps `sniffer_active` until the interrupt is masked,
so the handler never leaves the branch of the session. `esb_sniffer_send` clears it first: until it sets
it again the handler runs its other branches, which is harmless exactly as long as it finds no `sending`
left over with auto-ack on.
-/
import Crazyradio.Driver.Calls

namespace Crazyradio.Driver

open Bytes Threads

section Sniffer

variable {p : Policy} {sends : Prop} {ph : Phase} {c : Config} {i : Op} {α : Type} {k : Unit → Code α}
  {Q : α → Machine → Prop}

/-! ## Start and stop -/

theorem snifferStart_ended {cb : EsbSnifferRxCb} {m : Machine} (h : Settled p m)
    (hok : m.esb.continuousCarrierEnabled = false) :
    preemptive.Safe (Kept p sends) (fun _ => Ended p) (esbSnifferStart cb) m := by
  refine safe_settled h (fun hc => ?_) fun hc => ?_
  · have hm : m.config.intDisabled = false := hc.masked
    have hr : m.config.femRxen = false := hc.femRxen
    have htx : p = .acked → m.config.femTxen = false := fun hp =>
      Bool.eq_false_iff.mpr fun hx => absurd ((hc.acked hp).2 hx) (ne_true_of_eq_false hok)
    have hA : Stands p p.rest (· = m.config) := hc.stands_one (needs_rest hc)
    refine at_get hA fun refused => ?_
    split
    · exact at_done hA fun _ hm => .inl (ended_normal hc hm)
    -- the interrupt is masked until the session is set up
    refine code_any hA trivial ?_
    refine code_any (.masked hm hr trivial) (fun _ => rfl) ?_
    refine code_any (.masked hm hr trivial) (fun _ => rfl) ?_
    refine code_any (.masked hm hr trivial) (fun _ => rfl) ?_
    refine code_any (.masked hm hr trivial) (fun _ => rfl) ?_
    dsimp only [Config.exec, nrfRadioPacketConfigure, nrfRadioRxaddressesSet, Esb.record]
    refine code_any (.masked hm hr trivial) trivial ?_
    refine code_any (.masked hm hr trivial) trivial ?_
    refine code_any (.masked hm hr trivial) trivial ?_
    refine code_any (.masked hm hr trivial) trivial ?_
    dsimp only [Config.exec, nrfRadioPacketConfigure, nrfRadioRxaddressesSet, Esb.record]
    refine code_any (.sniffing rfl rfl htx trivial) trivial ?_
    refine code_any (.sniffing rfl rfl htx trivial) trivial ?_
    refine code_any (.sniffing rfl rfl htx trivial) trivial ?_
    dsimp only [Config.exec, nrfRadioPacketConfigure, nrfRadioRxaddressesSet, Esb.record]
    refine unlock_ended (.sniffing rfl rfl htx trivial) fun m' hm' => ended_sniffing ?_ hm'
    exact ⟨⟨rfl, rfl, hc.registers.txaddress⟩, hc.irqEnabled, rfl, hc.sem, hc.ppi22, rfl, rfl, rfl, rfl,
      fun hp => ⟨(hc.acked hp).1, htx hp⟩, hok⟩
  · have hA : Stands p .any (· = m.config) := hc.stands_one trivial
    refine code_get (v := true) hA (fun m' hm => ?_) ?_
    · have hactive : m'.esb.snifferActive = true := (congrArg (·.esb.snifferActive) hm).trans hc.sniffer
      rw [hactive, Bool.or_true]
    · exact at_done hA fun _ hm => .inl (ended_sniffing hc hm)

/-- Where the interrupt is enabled, the radio's event is not latched behind an instruction. -/
theorem code_falling (hA : Stands p .any (· = c)) (harm : c.armed = true) (hi : i.Blind) (hq : i.Quiet)
    (h : preemptive.Triple (Kept p sends) (At .falling (· = c.exec i)) (k ()) Q) :
    preemptive.Triple (Kept p sends) (At .any (· = c)) (op i >>= k) Q := by
  refine at_op hA ?_ h
  intro m _ hc hpend
  have hclear := clear_of_armed (hc ▸ harm) hpend
  have hfalling : Phase.falling.Holds m := fun he => absurd he (ne_true_of_eq_false hclear)
  exact ⟨hfalling.exec hq, by rw [config_exec hi, hc]⟩

theorem snifferStop_ended : preemptive.Triple (Kept p sends) (Settled p) esbSnifferStop fun _ => Ended p := by
  intro m h
  refine safe_settled h (fun hc => ?_) fun hc => ?_
  · have hA : Stands p p.rest (· = m.config) := hc.stands_one (needs_rest hc)
    refine code_get (v := false) hA (fun m' hm => (congrArg (·.esb.snifferActive) hm).trans hc.sniffer) ?_
    exact at_done hA fun _ hm => .inl (ended_normal hc hm)
  · have hn := hc.sniffer
    have hp := hc.packetptr
    have htx : p = .acked → m.config.femTxen = false := fun hp => (hc.acked hp).2
    have harm : m.config.armed = true := (Bool.and_eq_true _ _).mpr ⟨hc.irqEnabled, hc.intDisabled⟩
    have hrx : (m.config.shorts.disable { disabledRxen := true }).disabledRxen = false := Bool.and_false _
    refine code_get (v := true) (hc.stands_one trivial)
      (fun m' hm => (congrArg (·.esb.snifferActive) hm).trans hc.sniffer) ?_
    refine code_any (hc.stands_one trivial) trivial ?_
    refine code_falling (.sniffing hn hp htx trivial) harm trivial trivial ?_
    refine at_disable (.sniffing hn hp htx hrx) (fun _ hd => hd ▸ harm) ?_
    refine at_sleep (.sniffing hn hp htx hrx) (fun _ hd => hd ▸ harm) ?_
    -- the radio is off, and the handler has nothing left to do
    refine code_op (.sniffing hn hp htx hc.ppi22) trivial trivial ?_
    refine code_op (.sniffing hn hp htx hc.ppi22) trivial trivial ?_
    refine code_clear_still (.sniffing hn hp htx hc.ppi22) ?_
    refine code_op (.sniffing hn hp htx hc.ppi22) trivial trivial ?_
    dsimp only [Config.exec, nrfRadioPacketConfigure, nrfRadioRxaddressesSet, Esb.record]
    refine code_op (.still hc.ppi22 rfl) (fun _ => rfl) trivial ?_
    refine code_op (.still hc.ppi22 rfl) (fun _ => rfl) trivial ?_
    refine code_op (.still hc.ppi22 rfl) (fun _ => rfl) trivial ?_
    refine code_op (.still hc.ppi22 rfl) (fun _ => rfl) trivial ?_
    dsimp only [Config.exec, nrfRadioPacketConfigure, nrfRadioRxaddressesSet, Esb.record]
    refine unlock_ended (.still hc.ppi22 rfl) fun m' hm' => ended_normal ?_ ⟨rest_of_off hm'.1.1, hm'.2⟩
    exact ⟨⟨rfl, rfl, hc.registers.txaddress⟩, hc.irqEnabled, rfl, hc.sem, hc.ppi22, rfl, rfl, rfl,
      fun hp => ⟨(hc.acked hp).1, fun hx => absurd hx (ne_true_of_eq_false (htx hp))⟩, fun _ => hc.carrier⟩

/-! ## Sending in a session -/

/-- While `esb_sniffer_send` has the interrupt enabled: the handler gives the semaphore, or takes the
event for the end of a reception. -/
structure Config.Leaving (p : Policy) (c : Config) : Prop where
  registers : Registers 63 0x03 c.esb
  irqEnabled : c.irqEnabled = true
  intDisabled : c.intDisabled = true
  ppi22 : c.ppi22 = false
  sniffer : c.esb.snifferActive = false
  unsent : c.sending = true → c.esb.ackEnabled = false
  idle : p = .acked → c.sending = false
  oneWay : p = .acked → ¬(c.femTxen = true ∧ c.femRxen = true)
  carrier : c.esb.continuousCarrierEnabled = false

/-- Besides, the radio is to stay off. -/
structure Config.Stopping (p : Policy) (c : Config) : Prop extends c.Leaving p where
  rxen : c.shorts.disabledRxen = false

/-- Behind the packet. -/
structure Config.Sent (p : Policy) (c : Config) : Prop extends c.Stopping p where
  sem : c.radioXferDone = 0

theorem Config.Leaving.armed (h : c.Leaving p) : c.armed = true :=
  (Bool.and_eq_true _ _).mpr ⟨h.irqEnabled, h.intDisabled⟩

theorem Config.Leaving.deaf (h : c.Leaving p) : c.Deaf := by
  cases hs : c.sending with
  | false => exact .inr (.inl hs)
  | true => exact .inr (.inr (h.unsent hs))

/-- What a run of the handler does meanwhile. -/
theorem Config.Leaving.radioIsr_cases (h : c.Leaving p) : c.radioIsr = { c with radioXferDone := 1 } ∨
    c.radioIsr = { c with femRxen := false, ppi22 := false, radioXferDone := 1 } := by
  by_cases hs : c.sending = true
  · exact .inl (Config.radioIsr_given h.sniffer hs (h.unsent hs))
  · exact .inr (Config.radioIsr_received h.sniffer (Bool.eq_false_iff.mpr hs))

theorem Config.Leaving.radioIsr (h : c.Leaving p) : c.radioIsr.Leaving p ∧ c.radioIsr.shorts = c.shorts := by
  rcases h.radioIsr_cases with hr | hr <;> rw [hr]
  · exact ⟨⟨h.registers, h.irqEnabled, h.intDisabled, h.ppi22, h.sniffer, h.unsent, h.idle, h.oneWay, h.carrier⟩, rfl⟩
  · refine ⟨⟨h.registers, h.irqEnabled, h.intDisabled, rfl, h.sniffer, h.unsent, h.idle, ?_, h.carrier⟩, rfl⟩
    rintro - ⟨-, hx⟩
    exact absurd hx Bool.false_ne_true

theorem Config.Stopping.radioIsr (h : c.Stopping p) : c.radioIsr.Stopping p := by
  obtain ⟨hl, hs⟩ := h.toLeaving.radioIsr
  exact ⟨hl, by rw [hs]; exact h.rxen⟩

theorem stands_leaving : Stands p .any (Config.Leaving p) :=
  ⟨fun _ _ => trivial, fun _ h => h.oneWay, .inr fun _ h _ => ⟨h.radioIsr.1, h.deaf⟩⟩

/-- With the radio on its way off. -/
theorem stands_stopping (hn : ∀ c : Config, c.shorts.disabledRxen = false → ph.Needs c) :
    Stands p ph (Config.Stopping p) :=
  ⟨fun c h => hn c h.rxen, fun _ h => h.oneWay, .inr fun _ h _ => ⟨h.radioIsr, h.deaf⟩⟩

/-- The radio is told to go off, and is. -/
theorem disable_stopping (h : preemptive.Triple (Kept p sends) (At .still (Config.Stopping p)) (k ()) Q) :
    preemptive.Triple (Kept p sends) (At .falling (Config.Stopping p)) (do op .disable; sleep200us; k ()) Q := by
  refine at_disable (stands_stopping fun _ h => h) (fun _ h => h.armed) ?_
  exact at_sleep (stands_stopping fun _ h => h) (fun _ h => h.armed) h

/-- The reception of the session is stopped. -/
theorem stopReception (h : preemptive.Triple (Kept p sends) (At .still (Config.Stopping p)) (k ()) Q) :
    preemptive.Triple (Kept p sends) (At .any (Config.Leaving p))
      (do op (.shortsDisable { disabledRxen := true }); op .disable; sleep200us; k ()) Q := by
  refine at_op stands_leaving ?_ (disable_stopping h)
  intro m _ hc hpend
  have hclear := clear_of_armed hc.armed hpend
  refine ⟨fun he => absurd he (ne_true_of_eq_false hclear), ?_⟩
  exact ⟨⟨hc.registers, hc.irqEnabled, hc.intDisabled, hc.ppi22, hc.sniffer, hc.unsent, hc.idle, hc.oneWay, hc.carrier⟩,
    Bool.and_false _⟩

/-- The wait for the end of the packet, in time or not. -/
theorem awaitEnd_sent (hc : c.Stopping p) (hs : c.radioXferDone = 0) (hr : c.femRxen = false) :
    preemptive.Triple (Kept p sends) (Flying c) awaitEnd fun _ => At .still (Config.Sent p) := by
  have hends : c.radioIsr.femRxen = false := by
    rcases hc.radioIsr_cases with hisr | hisr <;> rw [hisr]
    exact hr
  have hflies : c.Flies p := ⟨hc.rxen, hc.radioIsr.ppi22, hs, hc.deaf, hc.oneWay, hends⟩
  have hsent : Stands p .still (Config.Sent p) :=
    ⟨fun _ h => h.ppi22, fun _ h => h.oneWay, .inl rfl⟩
  have sent : ∀ {d : Config} {i : Op}, d.Stopping p → (d.exec i = { d with radioXferDone := 0 }) →
      (d.exec i).Sent p := by
    intro d i hd hi
    rw [hi]
    exact ⟨⟨⟨hd.registers, hd.irqEnabled, hd.intDisabled, hd.ppi22, hd.sniffer, hd.unsent, hd.idle, hd.oneWay,
      hd.carrier⟩, hd.rxen⟩, rfl⟩
  have hdone : preemptive.Triple (Kept p sends) (At .still (Config.Sent p)) (.done ()) fun _ =>
      At .still (Config.Sent p) := at_done hsent fun _ h => h
  -- the 200 ms are over
  have hlate : preemptive.Triple (Kept p sends) (At .falling (Config.Stopping p)) resetTransmitter fun _ =>
      At .still (Config.Sent p) := by
    refine disable_stopping (k := fun _ => op .semReset) ?_
    refine at_last ⟨fun _ h => h.ppi22, fun _ h => h.oneWay, .inl rfl⟩ (fun m hm hd _ => ?_) hsent.stable hsent.kept
    refine ⟨hm.exec (i := .semReset) trivial, ?_⟩
    rw [config_exec (i := .semReset) trivial]
    exact sent hd rfl
  refine Platform.Triple.wait hflies.stable hflies.kept (fun m hm hready => ?_) hdone (fun _ m hm => ?_) hlate
  · obtain ⟨hp, hd⟩ := hflies.take hm (of_decide_eq_true hready) false
    refine ⟨hp, ?_⟩
    rw [hd]
    refine sent hc.radioIsr ?_
    have hone : c.radioIsr.radioXferDone = 1 := by rcases hc.radioIsr_cases with hisr | hisr <;> rw [hisr]
    simp only [Config.exec, hone]
  · rcases hm with ⟨hf, hd⟩ | ⟨hstill, hd⟩
    · exact ⟨hf, hd ▸ hc⟩
    · exact ⟨fun _ => hstill.1, hd ▸ hc.radioIsr⟩

/-- TXEN and the wait. -/
theorem transmit_sent (hc : c.Stopping p) (hs : c.radioXferDone = 0) (hr : c.femRxen = false)
    (h : preemptive.Triple (Kept p sends) (At .still (Config.Sent p)) (k ()) Q) :
    preemptive.Triple (Kept p sends) (At .still (· = c)) (do op (.txen false); awaitEnd; k ()) Q := by
  have hA : Stands p .still (· = c) := .off hc.ppi22 hc.oneWay
  refine Platform.Triple.step (B := Flying c) hA.stable hA.kept (fun m hm => ?_)
    ((awaitEnd_sent hc hs hr).bind fun _ => h)
  obtain ⟨⟨hoff, hclear⟩, hm⟩ := interrupted_of_stable hA.stable hm
  have ht : m.interrupted.exec (.txen false) =
      { m.interrupted with radio := .txRu, activity := m.interrupted.attempt } := if_pos hoff
  refine .inl ⟨fun he => ?_, ?_⟩
  · rw [show (preemptive.exec (.txen false) m) = m.interrupted.exec (.txen false) from rfl, ht] at he
    exact absurd he (ne_true_of_eq_false hclear)
  · exact (config_taskTxen m.interrupted).trans hm

/-- The packet of a session, from the stop of the reception to the wait for its end. -/
theorem sendPacket_sent (address : Buf 5) (hc : c.Stopping p)
    (h : preemptive.Triple (Kept p sends) (At .still (Config.Sent p)) (k ()) Q) :
    preemptive.Triple (Kept p sends) (At .still (· = c)) (do
      op .radioIntDisable
      op .radioEventClear
      op (.femRxenSet false)
      op .semReset
      op (.esb (setPipe0AddressNolock address))
      op (.esb (nrfRadioTxaddressSet 0))
      let pid ← get (·.esb.pid)
      op (.buffers fun b => { b with packet := { b.packet with s1 := (pid &&& 3) <<< 1 } })
      op (.esb fun e => { e with pid := e.pid + 1 })
      op (.shortsSet packetShorts)
      op (.packetptrSet .packet)
      op .radioEventClear
      op .radioIntEnable
      op (.femTxenSet true)
      op (.txen false)
      awaitEnd
      k ()) Q := by
  have hp := hc.ppi22
  refine code_op (.off hp hc.oneWay) trivial trivial ?_
  refine code_clear_still (.off hp hc.oneWay) ?_
  refine code_op (.off hp hc.oneWay) trivial trivial ?_
  refine code_op (.still hp rfl) trivial trivial ?_
  dsimp only [Config.exec]
  refine code_op (.still hp rfl) (fun _ => rfl) trivial ?_
  refine code_op (.still hp rfl) (fun _ => rfl) trivial ?_
  dsimp only [Config.exec, setPipe0AddressNolock, nrfRadioBase0Set, nrfRadioPrefix0Set, nrfRadioTxaddressSet,
    Esb.record]
  refine at_get (.still hp rfl) fun pid => ?_
  refine code_op (.still hp rfl) trivial trivial ?_
  refine code_op (.still hp rfl) (fun _ => rfl) trivial ?_
  dsimp only [Config.exec]
  refine code_op (.still hp rfl) trivial trivial ?_
  refine code_op (.still hp rfl) trivial trivial ?_
  refine code_clear_still (.still hp rfl) ?_
  refine code_op (.still hp rfl) trivial trivial ?_
  refine code_op (.still hp rfl) trivial trivial ?_
  dsimp only [Config.exec]
  refine transmit_sent ⟨⟨⟨hc.registers.maxlen, hc.registers.rxaddresses, rfl⟩, hc.irqEnabled, rfl, hp, hc.sniffer,
    hc.unsent, hc.idle, fun _ hx => absurd hx.2 Bool.false_ne_true, hc.carrier⟩, rfl⟩ rfl rfl h

/-- The session goes on behind the packet. -/
theorem restartReception (savedAddress : Buf 5) (hc : c.Sent p) :
    preemptive.Triple (Kept p sends) (At .still (· = c)) (do
      op .radioIntDisable
      op (.shortsSet {})
      op (.femTxenSet false)
      op .radioEventClear
      op (.esb (setPipe0AddressNolock savedAddress))
      op (.esb fun e => { e with snifferActive := true })
      op (.packetptrSet .snifferRxBuffer)
      op (.shortsSet snifferShorts)
      op .radioEventClear
      op .radioIntEnable
      op (.femRxenSet true)
      op .rxen
      op .mutexUnlock
      return true) fun _ => Settled p := by
  have hp := hc.ppi22
  have htx : ∀ rx : Bool, p = .acked → ¬(false = true ∧ rx = true) := fun _ _ hx => absurd hx.1 Bool.false_ne_true
  refine code_op (.off hp hc.oneWay) trivial trivial ?_
  refine code_op (.off hp hc.oneWay) trivial trivial ?_
  refine code_op (.off hp hc.oneWay) trivial trivial ?_
  dsimp only [Config.exec]
  refine code_clear_still (.off hp (htx c.femRxen)) ?_
  refine code_op (.off hp (htx c.femRxen)) (fun _ => rfl) trivial ?_
  refine code_op (.off hp (htx c.femRxen)) (fun _ => rfl) trivial ?_
  dsimp only [Config.exec, setPipe0AddressNolock, nrfRadioBase0Set, nrfRadioPrefix0Set, Esb.record]
  refine code_op (.off hp (htx c.femRxen)) trivial trivial ?_
  refine code_op (.off hp (htx c.femRxen)) trivial trivial ?_
  refine code_clear_still (.off hp (htx c.femRxen)) ?_
  refine code_op (.off hp (htx c.femRxen)) trivial trivial ?_
  refine code_op (.off hp (htx c.femRxen)) trivial trivial ?_
  dsimp only [Config.exec]
  refine code_any (.off hp (htx true)) trivial ?_
  refine code_any (.sniffing rfl rfl (fun _ => rfl) trivial) trivial ?_
  refine at_done (.sniffing rfl rfl (fun _ => rfl) trivial) fun m hm => ended_sniffing ?_ hm
  exact ⟨⟨hc.registers.maxlen, hc.registers.rxaddresses, hc.registers.txaddress⟩, hc.irqEnabled, rfl, hc.sem, hp, rfl,
    rfl, rfl, rfl, fun hp => ⟨hc.idle hp, rfl⟩, hc.carrier⟩

theorem snifferSend_ended {packet : EsbPacket} {address : Buf 5} {m : Machine} (h : Settled p m)
    (hok : m.esb.snifferActive = true → m.sending = true → m.esb.ackEnabled = false) :
    preemptive.Safe (Kept p sends) (fun _ => Ended p) (Call.code (.snifferSend packet address)) m := by
  refine safe_settled h (fun hc => ?_) fun hc => ?_
  · have hA : Stands p p.rest (· = m.config) := hc.stands_one (needs_rest hc)
    have hsend : preemptive.Triple (Kept p sends) (At p.rest (· = m.config)) (esbSnifferSend address)
        fun _ => Settled p := by
      refine code_get (v := false) hA (fun m' hm => (congrArg (·.esb.snifferActive) hm).trans hc.sniffer) ?_
      exact at_done hA fun _ => ended_normal hc
    exact code_op hA trivial trivial (hsend.bind fun _ => done_ended)
  · have hA : Stands p .any (· = m.config) := hc.stands_one trivial
    have hleaving : Config.Leaving p (m.config.exec (.esb fun e => { e with snifferActive := false })) :=
      ⟨⟨hc.registers.maxlen, hc.registers.rxaddresses, hc.registers.txaddress⟩, hc.irqEnabled, hc.intDisabled, hc.ppi22,
        rfl, hok hc.sniffer, fun hp => (hc.acked hp).1,
        fun hp hx => absurd hx.1 (ne_true_of_eq_false (hc.acked hp).2), hc.carrier⟩
    have hsend : preemptive.Triple (Kept p sends) (At .any (· = m.config)) (esbSnifferSend address)
        fun _ => Settled p := by
      refine code_get (v := true) hA (fun m' hm => (congrArg (·.esb.snifferActive) hm).trans hc.sniffer) ?_
      refine code_any hA trivial (at_get hA fun savedAddress => code_any hA (fun _ => rfl) ?_)
      refine Platform.Triple.pre ?_ fun m' (hm : At .any (· = _) m') => (⟨trivial, by rw [hm.2]; exact hleaving⟩ :
        At .any (Config.Leaving p) m')
      refine stopReception (k := fun _ => _) (triple_at fun _ hstopping => ?_)
      refine sendPacket_sent (k := fun _ => _) address hstopping (triple_at fun _ hsent => ?_)
      exact restartReception savedAddress hsent
    exact code_any hA trivial (hsend.bind fun _ => done_ended)

end Sniffer

end Crazyradio.Driver
