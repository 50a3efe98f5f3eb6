/-
The continuous carrier on the machine. Switched on behind any session without a carrier in which no send
took the 200 ms path, the transmitter ramps up and stays on with nothing to send, whatever the hardware does
and whatever calls follow, until the call that switches it off. That rests on the shorts: every attempt of
`esb_send_packet` takes back the ones it set. Only the 200 ms path leaves them behind, and the radio may then
listen instead.
-/
import Crazyradio.Driver.Modes
import Crazyradio.Esb.Pid

namespace Crazyradio.Driver

open Threads

/-! ## A radio with nothing to send -/

/-- The states a radio goes through that neither sends nor listens. -/
def RadioState.Mute (r : RadioState) : Prop := r = .disabled ∨ r = .txRu ∨ r = .txIdle ∨ r = .txDisable

/-- Where the radio gets by itself from such a state. -/
def RadioState.next : RadioState → RadioState
  | .txRu => .txIdle
  | .txDisable => .disabled
  | r => r

/-- The interrupt is masked, the ack timeout off, and no short starts anything. -/
structure Config.Passive (c : Config) : Prop where
  masked : c.intDisabled = false
  ppi22 : c.ppi22 = false
  readyStart : c.shorts.readyStart = false
  disabledRxen : c.shorts.disabledRxen = false

/-- Such a radio neither sends nor stops by itself. -/
theorem mute_event {e : Event} {m m' : Machine} (hc : m.config.Passive) (hm : m.radio.Mute) (h : m.event e = some m') :
    m'.esb = m.esb ∧ m'.config = m.config ∧ (m'.radio = m.radio ∨ m'.radio = m.radio.next) := by
  have busy : ∀ r : RadioState, m.radio = r → r.Mute := by
    rintro r rfl
    exact hm
  have hppi : m.ppi22 = false := hc.ppi22
  have hstart : m.shorts.readyStart = false := hc.readyStart
  have hrxen : m.shorts.disabledRxen = false := hc.disabledRxen
  cases e with
  | tick =>
    cases h
    rcases counted_tick m with ⟨timer, window, hc⟩ | ⟨-, -, hp, -⟩
    · rw [hc]
      exact ⟨rfl, rfl, .inl rfl⟩
    · exact absurd hp (ne_true_of_eq_false hppi)
  | ready =>
    simp only [Machine.event, Machine.ready] at h
    split at h
    · rename_i hr
      simp only [hstart, Bool.false_eq_true, if_false, Option.some.injEq] at h
      subst h
      exact ⟨rfl, rfl, .inr (hr ▸ rfl)⟩
    · rename_i hr
      exact absurd (busy _ hr) (by simp [RadioState.Mute])
    · cases h
  | address =>
    simp only [Machine.event, Machine.address] at h
    split at h
    · rename_i hr
      rcases hr with hr | hr <;> exact absurd (busy _ hr) (by simp [RadioState.Mute])
    · cases h
  | endTx =>
    simp only [Machine.event, Machine.endTx] at h
    split at h
    · rename_i hr
      exact absurd (busy _ hr) (by simp [RadioState.Mute])
    · cases h
  | endRx f crcOk rssi =>
    simp only [Machine.event, Machine.endRx] at h
    split at h
    · rename_i hr
      exact absurd (busy _ hr) (by simp [RadioState.Mute])
    · cases h
  | rampedDown =>
    simp only [Machine.event, Machine.rampedDown] at h
    split at h
    · rename_i hr
      cases h
      refine ⟨rfl, rfl, .inr ?_⟩
      have hoff : m.raiseDisabled.radio = .disabled := if_neg (Bool.eq_false_iff.mp hrxen)
      rcases hr with hr | hr
      · exact absurd (busy _ hr) (by simp [RadioState.Mute])
      · rw [hoff, hr]
        rfl
    · cases h
  | isr =>
    obtain ⟨hint, -, -⟩ := event_isr h
    exact absurd hint (ne_true_of_eq_false hc.masked)

/-! ## Outlines -/

/-- The radio is in one of these states, the configuration is `c`, and these packets went out so far. -/
structure Holding (R : RadioState → Prop) (ts : List Transmission) (c : Config) (m : Machine) : Prop where
  radio : R m.radio
  config : m.config = c
  sent : transmissions m.esb.log = ts

/-- States the radio does not leave by itself. -/
structure Closed (R : RadioState → Prop) : Prop where
  mute : ∀ r, R r → r.Mute
  next : ∀ r, R r → R r.next

/-- The transmitter ramps up, or is on. -/
def RadioState.Up (r : RadioState) : Prop := r = .txRu ∨ r = .txIdle

/-- The transmitter ramps down, or the radio is off. -/
def RadioState.Going (r : RadioState) : Prop := r = .txDisable ∨ r = .disabled

theorem closed_disabled : Closed (· = .disabled) := by
  constructor
  · rintro r rfl
    exact .inl rfl
  · rintro r rfl
    rfl

theorem closed_up : Closed RadioState.Up := by
  constructor
  · rintro r (rfl | rfl)
    · exact .inr (.inl rfl)
    · exact .inr (.inr (.inl rfl))
  · rintro r (rfl | rfl) <;> exact .inr rfl

theorem closed_going : Closed RadioState.Going := by
  constructor
  · rintro r (rfl | rfl)
    · exact .inr (.inr (.inr rfl))
    · exact .inl rfl
  · rintro r (rfl | rfl) <;> exact .inr rfl

section Outline

variable {R : RadioState → Prop} {ts : List Transmission} {c : Config} {I : Machine → Prop} {i : Op} {α : Type}
  {k : Unit → Code α} {Q : α → Machine → Prop}

theorem stable_holding (hR : Closed R) (hc : c.Passive) : preemptive.Stable (Holding R ts c) := by
  rintro e m m' he ⟨hr, rfl, rfl⟩
  obtain ⟨hesb, hconfig, hnext⟩ := mute_event hc (hR.mute _ hr) he
  refine ⟨?_, hconfig, by rw [hesb]⟩
  rcases hnext with hn | hn
  · rw [hn]
    exact hr
  · rw [hn]
    exact hR.next _ hr

theorem Config.Passive.interrupted {m : Machine} (hc : m.config.Passive) : m.interrupted = m := by
  have hpending : m.pending = false := by
    unfold Machine.pending
    rw [show m.intDisabled = false from hc.masked, Bool.false_and, Bool.and_false]
  exact if_neg (Bool.eq_false_iff.mp hpending)

/-- An instruction, with what it does to the radio. -/
theorem holding_op (R' : RadioState → Prop) (hR : Closed R) (hc : c.Passive)
    (hI : ∀ m, Holding R ts c m → I m) (hi : i.Blind)
    (hradio : ∀ m : Machine, R m.radio → R' (m.exec i).radio)
    (hsent : ∀ m : Machine, transmissions (m.exec i).esb.log = transmissions m.esb.log)
    (h : preemptive.Triple I (Holding R' ts (c.exec i)) (k ()) Q) :
    preemptive.Triple I (Holding R ts c) (op i >>= k) Q := by
  refine Platform.Triple.step (stable_holding hR hc) hI ?_ h
  rintro m ⟨hr, rfl, rfl⟩
  show Holding R' _ _ (m.interrupted.exec i)
  rw [hc.interrupted]
  exact ⟨hradio m hr, config_exec hi m, hsent m⟩

/-- What the code looks at is part of the configuration. -/
theorem holding_get {β : Type} {f : Machine → β} {v : β} {k : β → Code α} (hR : Closed R) (hc : c.Passive)
    (hI : ∀ m, Holding R ts c m → I m) (hf : ∀ m : Machine, m.config = c → f m = v)
    (h : preemptive.Triple I (Holding R ts c) (k v) Q) : preemptive.Triple I (Holding R ts c) (get f >>= k) Q := by
  refine Platform.Triple.read (stable_holding hR hc) hI fun m hm => ?_
  show preemptive.Safe _ Q (k (f m)) m
  rw [hf m hm.config]
  exact h m hm

theorem holding_done {a : α} (hR : Closed R) (hc : c.Passive) (hI : ∀ m, Holding R ts c m → I m)
    (hQ : ∀ m, Holding R ts c m → Q a m) : preemptive.Triple I (Holding R ts c) (pure a : Code α) Q :=
  Platform.Triple.done (stable_holding hR hc) hI hQ

end Outline

/-! ## The carrier on -/

/-- Normal mode with the carrier on. -/
structure Config.Carrying (c : Config) : Prop where
  registers : Registers 32 0x01 c.esb
  isInit : c.esb.isInit = true
  masked : c.intDisabled = false
  ppi22 : c.ppi22 = false
  femRxen : c.femRxen = false
  shorts : c.shorts = idleShorts
  sniffer : c.esb.snifferActive = false
  femTxen : c.femTxen = true
  carrier : c.esb.continuousCarrierEnabled = true

theorem passive_of_idleShorts {c : Config} (hm : c.intDisabled = false) (hp : c.ppi22 = false)
    (hs : c.shorts = idleShorts) : c.Passive := by
  refine ⟨hm, hp, ?_, ?_⟩ <;> rw [hs] <;> rfl

theorem Config.Carrying.passive {c : Config} (h : c.Carrying) : c.Passive :=
  passive_of_idleShorts h.masked h.ppi22 h.shorts

/-- The transmitter is on, with these packets sent so far. -/
def Carries (ts : List Transmission) (m : Machine) : Prop := m.config.Carrying ∧ Holding RadioState.Up ts m.config m

theorem stable_carries (ts : List Transmission) : preemptive.Stable (Carries ts) := by
  rintro e m m' he ⟨hc, hm⟩
  have hm' := stable_holding closed_up hc.passive e m m' he hm
  have hconfig : m'.config = m.config := hm'.config
  exact ⟨hconfig ▸ hc, hconfig ▸ hm'⟩

theorem Holding.carries {ts : List Transmission} {c : Config} (hc : c.Carrying) (m : Machine)
    (h : Holding RadioState.Up ts c m) : Carries ts m := by
  obtain rfl := h.config
  exact ⟨hc, h⟩

/-- The call switches the carrier on, or is refused. -/
theorem setContinuousCarrier_on {c : Config} {ts : List Transmission} (hn : c.Normal .carrierless) :
    preemptive.Triple (fun _ => True) (Holding (· = .disabled) ts c) (Call.code (.setContinuousCarrier true))
      fun _ m => m.esb.continuousCarrierEnabled = true → Carries ts m := by
  have hc : c.Passive := passive_of_idleShorts hn.masked hn.ppi22 hn.shorts
  have hoff : c.esb.continuousCarrierEnabled = false := hn.carrier rfl
  have hrefused : ∀ m, Holding (· = .disabled) ts c m → m.esb.continuousCarrierEnabled = true → Carries ts m := by
    intro m hm hon
    rw [← hm.config] at hoff
    exact absurd hon (ne_true_of_eq_false hoff)
  suffices h : preemptive.Triple (fun _ => True) (Holding (· = .disabled) ts c) (esbSetContinuousCarrier true)
      fun _ m => Holding (· = .disabled) ts c m ∨ Carries ts m from
    h.bind fun _ => Platform.Triple.or (holding_done closed_disabled hc (fun _ _ => trivial) hrefused)
      (Platform.Triple.done (stable_carries ts) (fun _ _ => trivial) fun _ hm _ => hm)
  have hback : preemptive.Triple (fun _ => True) (Holding (· = .disabled) ts c) (return false : Code Bool)
      fun _ m => Holding (· = .disabled) ts c m ∨ Carries ts m :=
    holding_done closed_disabled hc (fun _ _ => trivial) fun _ => .inl
  unfold esbSetContinuousCarrier
  refine holding_get (v := c.esb.isInit) closed_disabled hc (fun _ _ => trivial) (by rintro m rfl; rfl) ?_
  cases hi : c.esb.isInit with
  | false => exact hback
  | true =>
    refine holding_get (v := false) closed_disabled hc (fun _ _ => trivial) ?_ ?_
    · rintro m rfl
      exact hn.sniffer
    refine holding_get (v := false) closed_disabled hc (fun _ _ => trivial) ?_ ?_
    · rintro m rfl
      exact hoff
    -- with the shorts taken back TXEN starts the transmitter and nothing else
    refine holding_op (· = .disabled) closed_disabled hc (fun _ _ => trivial) trivial (fun _ h => h)
      (fun _ => rfl) ?_
    have htx : Config.Passive { c with femTxen := true } := passive_of_idleShorts hn.masked hn.ppi22 hn.shorts
    have hon : Config.Carrying { c with
        femTxen := true
        esb := { c.esb with continuousCarrierEnabled := true, log := [] } } :=
      ⟨⟨hn.registers.maxlen, hn.registers.rxaddresses, hn.registers.txaddress⟩, hi, hn.masked, hn.ppi22, hn.femRxen,
        hn.shorts, hn.sniffer, rfl, rfl⟩
    show preemptive.Triple _ _ (op (.femTxenSet true) >>= fun _ => op (.txen false) >>= fun _ =>
      op (.esb fun e => { e with continuousCarrierEnabled := true }) >>= fun _ => op .mutexUnlock >>= fun _ =>
      return true) _
    refine holding_op (· = .disabled) closed_disabled hc (fun _ _ => trivial) trivial (fun _ h => h)
      (fun _ => rfl) ?_
    refine holding_op RadioState.Up closed_disabled htx (fun _ _ => trivial) trivial ?_ ?_ ?_
    · intro m hr
      exact .inl (congrArg Machine.radio (if_pos hr))
    · intro m
      show transmissions m.taskTxen.esb.log = _
      unfold Machine.taskTxen
      split <;> rfl
    refine holding_op RadioState.Up closed_up htx (fun _ _ => trivial) (fun _ => rfl) (fun _ h => h)
      (fun _ => rfl) ?_
    refine holding_op RadioState.Up closed_up hon.passive (fun _ _ => trivial) trivial (fun _ h => h)
      (fun _ => rfl) ?_
    exact holding_done closed_up hon.passive (fun _ _ => trivial) fun m hm => .inr (hm.carries hon)

/-! ## Other calls -/

/-- The calls that leave the carrier on. -/
def Call.KeepsCarrier : Call → Prop
  | .setContinuousCarrier enable => enable = true
  | .snifferStart => False
  | _ => True

/-- A setter is a call that puts nothing on the air. -/
theorem setting_silent (s : Setting) (e : Esb) :
    transmissions (s.apply e).log = transmissions e.log ∧ (s.apply e).isInit = e.isInit := by
  have hsent : ∀ c : EsbCall, c.starts e = false → transmissions (c.apply e).log = transmissions e.log := by
    intro c hc
    rw [transmissions_apply, (silent hc).sent, List.append_nil]
  cases s with
  | arc n => exact ⟨rfl, rfl⟩
  | ackEnabled b => exact ⟨rfl, rfl⟩
  | channel c =>
    refine ⟨hsent (.setChannel c) rfl, ?_⟩
    simp only [Setting.apply, esbSetChannel]
    split <;> rfl
  | bitrate r =>
    refine ⟨hsent (.setBitrate r) rfl, ?_⟩
    simp only [Setting.apply, esbSetBitrate]
    repeat' split
    all_goals rfl
  | address a => exact ⟨hsent (.setAddress a) rfl, rfl⟩
  | addressPipe1 a => exact ⟨hsent (.setAddressPipe1 a) rfl, rfl⟩
  | packetLossSimulation p a => exact ⟨rfl, rfl⟩

theorem Config.Carrying.setting {c : Config} (h : c.Carrying) (s : Setting) : (c.exec (.esb s.apply)).Carrying := by
  obtain ⟨-, -, -, hsniffer, hcarrier⟩ := setting_kept s c.esb
  have hr := h.registers.setting s
  exact ⟨⟨hr.maxlen, hr.rxaddresses, hr.txaddress⟩, (setting_silent s c.esb).2.trans h.isInit, h.masked, h.ppi22,
    h.femRxen, h.shorts, hsniffer.trans h.sniffer, h.femTxen, hcarrier.trans h.carrier⟩

section Carried

variable {c : Config} {ts : List Transmission}

theorem carried_return {α : Type} (h : c.Carrying) (a : α) : preemptive.Triple (Carries ts)
    (Holding RadioState.Up ts c) (return a : Code α) fun _ => Carries ts :=
  holding_done closed_up h.passive (fun _ hm => hm.carries h) fun _ hm => hm.carries h

theorem carried_op {α : Type} {i : Op} {k : Unit → Code α} (h : c.Carrying) (hi : i.Blind)
    (hradio : ∀ m : Machine, (m.exec i).radio = m.radio)
    (hsent : ∀ m : Machine, transmissions (m.exec i).esb.log = transmissions m.esb.log)
    (hk : preemptive.Triple (Carries ts) (Holding RadioState.Up ts (c.exec i)) (k ()) fun _ => Carries ts) :
    preemptive.Triple (Carries ts) (Holding RadioState.Up ts c) (op i >>= k) fun _ => Carries ts :=
  holding_op RadioState.Up closed_up h.passive (fun _ hm => hm.carries h) hi
    (fun m hm => by rw [hradio]; exact hm) hsent hk

theorem carried_get {α β : Type} {f : Machine → β} {k : β → Code α} (v : β) (h : c.Carrying)
    (hf : ∀ m : Machine, m.config = c → f m = v)
    (hk : preemptive.Triple (Carries ts) (Holding RadioState.Up ts c) (k v) fun _ => Carries ts) :
    preemptive.Triple (Carries ts) (Holding RadioState.Up ts c) (get f >>= k) fun _ => Carries ts :=
  holding_get closed_up h.passive (fun _ hm => hm.carries h) hf hk

theorem carried_end {α : Type} (a : α) : preemptive.Triple (Carries ts) (Carries ts) (return a : Code α)
    fun _ => Carries ts := Platform.Triple.done (stable_carries ts) (fun _ h => h) fun _ h => h

theorem carried_send (h : c.Carrying) (packetDraw ackDraw : UInt32) : preemptive.Triple (Carries ts)
    (Holding RadioState.Up ts c) (esbSendPacket packetDraw ackDraw) fun _ => Carries ts := by
  unfold esbSendPacket
  refine carried_get true h (by rintro m rfl; exact h.isInit) ?_
  refine carried_get true h ?_ (carried_return h false)
  rintro m rfl
  exact Bool.or_eq_true_iff.mpr (.inl h.carrier)

theorem carried_carrier (h : c.Carrying) : preemptive.Triple (Carries ts) (Holding RadioState.Up ts c)
    (esbSetContinuousCarrier true) fun _ => Carries ts := by
  unfold esbSetContinuousCarrier
  refine carried_get true h (by rintro m rfl; exact h.isInit) ?_
  refine carried_get false h (by rintro m rfl; exact h.sniffer) ?_
  exact carried_get true h (by rintro m rfl; exact h.carrier) (carried_return h false)

theorem carried_snifferSend (h : c.Carrying) (address : Bytes.Buf 5) : preemptive.Triple (Carries ts)
    (Holding RadioState.Up ts c) (esbSnifferSend address) fun _ => Carries ts := by
  unfold esbSnifferSend
  exact carried_get false h (by rintro m rfl; exact h.sniffer) (carried_return h false)

theorem carried_snifferStop (h : c.Carrying) : preemptive.Triple (Carries ts) (Holding RadioState.Up ts c)
    esbSnifferStop fun _ => Carries ts := by
  unfold esbSnifferStop
  exact carried_get false h (by rintro m rfl; exact h.sniffer) (carried_return h ())

/-- The sends are refused, the rest is settings. -/
theorem carried_call (h : c.Carrying) {call : Call} (hk : call.KeepsCarrier) :
    preemptive.Triple (Carries ts) (Holding RadioState.Up ts c) call.code fun _ => Carries ts := by
  cases call with
  | sendPacket packet packetDraw ackDraw =>
    exact carried_op h trivial (fun _ => rfl) (fun _ => rfl)
      ((carried_send h packetDraw ackDraw).bind fun _ => carried_end ())
  | setting s =>
    refine carried_op h trivial (fun _ => rfl) (fun _ => rfl) ?_
    refine carried_op h (setting_blind s) (fun _ => rfl) (fun m => (setting_silent s m.esb).1) ?_
    exact carried_op (h.setting s) trivial (fun _ => rfl) (fun _ => rfl) (carried_return (h.setting s) ())
  | setContinuousCarrier enable =>
    obtain rfl : enable = true := hk
    exact (carried_carrier h).bind fun _ => carried_end ()
  | snifferStart => exact hk.elim
  | snifferSend packet address =>
    exact carried_op h trivial (fun _ => rfl) (fun _ => rfl)
      ((carried_snifferSend h address).bind fun _ => carried_end ())
  | snifferStop => exact carried_snifferStop h

end Carried

theorem carried_session {ts : List Transmission} : ∀ {calls : List Call}, (∀ c ∈ calls, c.KeepsCarrier) →
    preemptive.Triple (Carries ts) (Carries ts) (session calls) fun _ => Carries ts
  | [], _ => Platform.Triple.done (stable_carries ts) (fun _ h => h) fun _ h => h
  | c :: cs, hk => by
    refine Platform.Triple.bind ?_ fun _ => carried_session fun c' h => hk c' (List.mem_cons_of_mem c h)
    exact fun m hm => carried_call hm.1 (hk c List.mem_cons_self) m hm.2

/-! ## The carrier off -/

/-- Normal mode again, with the carrier off. -/
def Config.carrierOff (c : Config) : Config :=
  { c with femTxen := false, esb := { c.esb with continuousCarrierEnabled := false, log := [] } }

theorem setContinuousCarrier_off {c : Config} {ts : List Transmission} (h : c.Carrying) :
    preemptive.Triple (fun _ => True) (Holding RadioState.Up ts c) (Call.code (.setContinuousCarrier false))
      fun _ => Holding RadioState.Going ts c.carrierOff := by
  have hoff : c.carrierOff.Passive := passive_of_idleShorts h.masked h.ppi22 h.shorts
  have hmid : Config.Passive { c with femTxen := false } := passive_of_idleShorts h.masked h.ppi22 h.shorts
  have hend : ∀ {α : Type} (a : α), preemptive.Triple (fun _ => True) (Holding RadioState.Going ts c.carrierOff)
      (return a : Code α) fun _ => Holding RadioState.Going ts c.carrierOff := fun a =>
    holding_done closed_going hoff (fun _ _ => trivial) fun _ hm => hm
  suffices hcode : preemptive.Triple (fun _ => True) (Holding RadioState.Up ts c) (esbSetContinuousCarrier false)
      fun _ => Holding RadioState.Going ts c.carrierOff from hcode.bind fun _ => hend ()
  unfold esbSetContinuousCarrier
  refine holding_get (v := true) closed_up h.passive (fun _ _ => trivial) (by rintro m rfl; exact h.isInit) ?_
  refine holding_get (v := false) closed_up h.passive (fun _ _ => trivial) (by rintro m rfl; exact h.sniffer) ?_
  refine holding_get (v := true) closed_up h.passive (fun _ _ => trivial) (by rintro m rfl; exact h.carrier) ?_
  refine holding_op RadioState.Up closed_up h.passive (fun _ _ => trivial) trivial (fun _ hr => hr) (fun _ => rfl) ?_
  show preemptive.Triple _ _ (op .disable >>= fun _ => op (.femTxenSet false) >>= fun _ =>
    op (.esb fun e => { e with continuousCarrierEnabled := false }) >>= fun _ => op .mutexUnlock >>= fun _ =>
    return true) _
  refine holding_op RadioState.Going closed_up h.passive (fun _ _ => trivial) trivial ?_ ?_ ?_
  · intro m hr
    show m.taskDisable.radio.Going
    unfold Machine.taskDisable
    rcases hr with hr | hr <;> rw [hr] <;> exact .inl rfl
  · intro m
    show transmissions m.taskDisable.esb.log = _
    unfold Machine.taskDisable
    split <;> rfl
  refine holding_op RadioState.Going closed_going h.passive (fun _ _ => trivial) trivial (fun _ hr => hr)
    (fun _ => rfl) ?_
  refine holding_op RadioState.Going closed_going hmid (fun _ _ => trivial) (fun _ => rfl) (fun _ hr => hr)
    (fun _ => rfl) ?_
  exact holding_op RadioState.Going closed_going hoff (fun _ _ => trivial) trivial (fun _ hr => hr) (fun _ => rfl)
    (hend true)

/-! ## A carrier session -/

/-- In a sniffer session the carrier stays off. -/
theorem setContinuousCarrier_refused {c : Config} (h : c.Sniffing .carrierless) :
    preemptive.Triple (Kept .carrierless False) (At .any (· = c)) (Call.code (.setContinuousCarrier true))
      fun _ m => m.esb.continuousCarrierEnabled = false := by
  have hA : Stands .carrierless .any (· = c) := h.stands_one trivial
  have hend : ∀ m, At .any (· = c) m → m.esb.continuousCarrierEnabled = false := by
    rintro m ⟨-, rfl⟩
    exact h.carrier
  suffices hcode : preemptive.Triple (Kept .carrierless False) (At .any (· = c)) (esbSetContinuousCarrier true)
      fun _ => At .any (· = c) from hcode.bind fun _ => at_done hA hend
  unfold esbSetContinuousCarrier
  refine at_get hA fun isInit => ?_
  split
  · exact at_done hA fun _ hm => hm
  refine code_get (v := true) hA (fun m hm => (congrArg (·.esb.snifferActive) hm).trans h.sniffer) ?_
  exact at_done hA fun _ hm => hm

/-- A carrier switched on behind any session without one, up to the 200 ms path and to a packet sent in a sniffer
session with `sending` left over: in every state that the hardware and any calls but two lead to, the transmitter
is on with the amplifier and nothing is sent. The call that switches the carrier off leaves normal mode, with the
transmitter on its way down. -/
theorem carrier_on_air {m₀ m₁ m : Machine} {cs cs' : List (Choice Event)} {calls : List Call} {t : Code Unit}
    (h₀ : Between (fun c m => c.Carrierless ∧ c.NothingLeftOver m) m₀) (hs : .stuck ∉ m₀.trace)
    (h₁ : preemptive.run cs (Call.code (.setContinuousCarrier true)) m₀ = some (.done (), m₁))
    (hon : m₁.esb.continuousCarrierEnabled = true) (hk : ∀ c ∈ calls, c.KeepsCarrier)
    (h : preemptive.run cs' (session calls) m₁ = some (t, m)) :
    m.radio.Up ∧ m.femTxen = true ∧ transmissions m.esb.log = transmissions m₀.esb.log ∧
      ∀ cs₂ m₂, preemptive.run cs₂ (Call.code (.setContinuousCarrier false)) m = some (.done (), m₂) →
        m₂.radio.Going ∧ m₂.femTxen = false ∧ m₂.esb.continuousCarrierEnabled = false ∧ NormalMode m₂ ∧
          transmissions m₂.esb.log = transmissions m₀.esb.log := by
  have hcarries : Carries (transmissions m₀.esb.log) m₁ := by
    rcases ended_of_between (fun _ _ => allows_of_nothingLeftOver) h₀ with (⟨hoff, hn⟩ | ⟨-, hn⟩) | hstuck
    · exact ((((setContinuousCarrier_on hn) m₀ ⟨hoff, rfl, rfl⟩).run cs h₁) m₁ .refl).2 hon
    · have hrefused := ((((setContinuousCarrier_refused hn) m₀ ⟨trivial, rfl⟩).run cs h₁) m₁ .refl).2
      exact absurd hon (ne_true_of_eq_false hrefused)
    · exact absurd hstuck hs
  obtain ⟨hc, hm⟩ := ((carried_session hk m₁ hcarries).run cs' h).inv
  refine ⟨hm.radio, hc.femTxen, hm.sent, fun cs₂ m₂ h₂ => ?_⟩
  obtain ⟨hgoing, hconfig, hsent⟩ := ((((setContinuousCarrier_off hc) m hm).run cs₂ h₂) m₂ .refl).2
  have hconf : ∀ {α : Type} (f : Config → α), f m₂.config = f m.config.carrierOff := fun f => congrArg f hconfig
  exact ⟨hgoing, hconf Config.femTxen, hconf (·.esb.continuousCarrierEnabled),
    ⟨(hconf (·.esb.radio.maxlen)).trans hc.registers.maxlen, (hconf (·.esb.radio.rxaddresses)).trans
      hc.registers.rxaddresses, (hconf (·.esb.radio.txaddress)).trans hc.registers.txaddress,
      (hconf Config.shorts).trans hc.shorts, (hconf Config.intDisabled).trans hc.masked,
      (hconf Config.femRxen).trans hc.femRxen⟩, hsent⟩

/-- Behind an acked packet: the carrier goes on, a channel is set and a packet refused, the carrier goes off. -/
theorem carrier_on_air_acked : ∃ m₀ m₁ m m₂, Between (fun c m => c.Carrierless ∧ c.NothingLeftOver m) m₀ ∧
    preemptive.run (threadSteps 8 ++ hardware [.ready]) (Call.code (.setContinuousCarrier true)) m₀ =
      some (.done (), m₁) ∧
    preemptive.run (threadSteps 6 ++ hardware [.tick]) (session [.setting (.channel 10), .sendPacket {} 0 0]) m₁ =
      some (.done (), m) ∧
    preemptive.run (threadSteps 8) (Call.code (.setContinuousCarrier false)) m = some (.done (), m₂) ∧
    m.radio.Up ∧ transmissions m.esb.log = transmissions m₀.esb.log ∧ m₂.radio.Going ∧ NormalMode m₂ := by
  have hrun : ((Call.finish (.sendPacket {} 0 0) (threadSteps 21 ++ hardware ackedAttempt ++ threadSteps 15)
      .boot).bind fun m₀ =>
      (preemptive.finish (threadSteps 8 ++ hardware [.ready]) (Call.code (.setContinuousCarrier true)) m₀).bind
      fun x => (preemptive.finish (threadSteps 6 ++ hardware [.tick])
        (session [.setting (.channel 10), .sendPacket {} 0 0]) x.2).bind fun y =>
      (preemptive.finish (threadSteps 8) (Call.code (.setContinuousCarrier false)) y.2).map fun _ =>
        (decide (.stuck ∈ m₀.trace), x.2.esb.continuousCarrierEnabled)) = some (false, true) := by decide +kernel
  obtain ⟨m₀, hf, hrun⟩ := Option.bind_eq_some_iff.mp hrun
  obtain ⟨⟨⟨⟩, m₁⟩, h₁, hrun⟩ := Option.bind_eq_some_iff.mp hrun
  obtain ⟨⟨⟨⟩, m⟩, h, hrun⟩ := Option.bind_eq_some_iff.mp hrun
  obtain ⟨⟨⟨⟩, m₂⟩, h₂, hm⟩ := Option.map_eq_some_iff.mp hrun
  obtain ⟨hs, hon⟩ := Prod.mk.inj hm
  have hb : Between (fun c m => c.Carrierless ∧ c.NothingLeftOver m) m₀ :=
    Between.boot.finish (c := .sendPacket {} 0 0) ⟨trivial, trivial⟩ hf
  have hk : ∀ c ∈ [Call.setting (.channel 10), .sendPacket {} 0 0], c.KeepsCarrier := by
    intro c hc
    simp only [List.mem_cons, List.not_mem_nil, or_false] at hc
    rcases hc with rfl | rfl <;> trivial
  have h₁ := preemptive.run_of_finish h₁
  have h := preemptive.run_of_finish h
  have h₂ := preemptive.run_of_finish h₂
  obtain ⟨hup, -, hsent, hoff⟩ := carrier_on_air hb (of_decide_eq_false hs) h₁ hon hk h
  obtain ⟨hgoing, -, -, hnormal, -⟩ := hoff _ _ h₂
  exact ⟨m₀, m₁, m, m₂, hb, h₁, h, h₂, hup, hsent, hgoing, hnormal⟩

/-- Behind the 200 ms path the short to RXEN is left, and the end of the ramp-down starts the receiver: TXEN is
lost, and with the carrier said to be on the radio listens. -/
theorem listening_behind_stuck : ¬ ∀ (m₀ m₁ : Machine) (cs : List (Choice Event)),
    Between (fun c m => c.Carrierless ∧ c.NothingLeftOver m) m₀ →
    preemptive.run cs (Call.code (.setContinuousCarrier true)) m₀ = some (.done (), m₁) →
    m₁.esb.continuousCarrierEnabled = true → m₁.radio.Up := by
  intro hall
  have hrun : ((Call.finish (.sendPacket {} 0 0) (threadSteps 21 ++ [.expire] ++ threadSteps 6) .boot).bind fun m₀ =>
      (preemptive.finish (hardware [.rampedDown, .isr] ++ threadSteps 8 ++ hardware [.ready])
        (Call.code (.setContinuousCarrier true)) m₀).map fun x =>
        (x.2.esb.continuousCarrierEnabled, x.2.radio)) = some (true, .rx) := by decide +kernel
  obtain ⟨m₀, hf, hrun⟩ := Option.bind_eq_some_iff.mp hrun
  obtain ⟨⟨⟨⟩, m₁⟩, h₁, hm⟩ := Option.map_eq_some_iff.mp hrun
  obtain ⟨hon, hrx⟩ := Prod.mk.inj hm
  have hb : Between (fun c m => c.Carrierless ∧ c.NothingLeftOver m) m₀ :=
    Between.boot.finish (c := .sendPacket {} 0 0) ⟨trivial, trivial⟩ hf
  rcases hall m₀ m₁ _ hb (preemptive.run_of_finish h₁) hon with h | h <;> rw [hrx] at h <;> cases h

end Crazyradio.Driver
