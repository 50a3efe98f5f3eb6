/-
The firmware on the machine refines the device. Whatever the radio, the timer and a prompt handler
do, and whatever `usb_thread` and `fw_scan` make of what their sends return: as long as no send ends
through the 200 ms path, what they write to the host, their settings and the driver behind them are
those of a run of the device in some surroundings. So what is proved about every run of the device
holds of the instructions.
-/
import Crazyradio.Stack.Model
import Crazyradio.Driver.Calls
import Crazyradio.Usb.Reach

namespace Crazyradio.Stack

open Bytes Threads Clients Usb Driver

/-! ## Normal mode -/

/-- The calls that start neither the carrier nor sniffer mode, and need no sniffer mode. -/
def DriverCall.Normal : DriverCall → Prop
  | .setting _ | .sendPacket _ | .snifferStop => True
  | .setContinuousCarrier enable => enable = false
  | _ => False

/-- The sections that start neither of them. -/
def Job.KeepsNormal : Job → Prop
  | .command (.setup s) => s.decode ≠ .carrier true ∧ s.decode ≠ .sniffer true
  | _ => True

/-- Unless it is a fault, what a program ends with is a device outside sniffer mode. -/
def NormalOk (x : Except Fault Device) : Prop := ∀ d, x = .ok d → d.state.snifferMode = false

theorem normalOk_ok {d : Device} (h : d.state.snifferMode = false) : NormalOk (.ok d) := by
  intro d' hd
  cases hd
  exact h

theorem normalOk_error (f : Fault) : NormalOk (.error f) := by
  rintro d' h
  cases h

theorem normalOk_loadPacket {payload : Buf 128} {off : Nat} {n : Int} {d : Device} (h : d.state.snifferMode = false) :
    NormalOk (loadPacket payload off n d) := by
  unfold loadPacket
  cases memcpy d.usb.packet.data 0 payload off n with
  | error f => exact normalOk_error f
  | ok data => exact normalOk_ok h

theorem normalOk_answer {acked : Bool} {d : Device} (h : d.state.snifferMode = false) : NormalOk (answer acked d) := by
  obtain ⟨b, p, ha⟩ := answer_spec acked d
  rw [ha]
  exact normalOk_ok (((kept_answered (capAck d) _ b p).snifferMode.trans (kept_capAck d).snifferMode).trans h)

/-! ## The calls of a program -/

abbrev WithinNormal (p : Program (Except Fault Device)) : Prop := p.Within DriverCall.Normal NormalOk

abbrev EndsNormal (p : Program Device) : Prop := p.Within DriverCall.Normal fun d => d.state.snifferMode = false

theorem within_return {x : Except Fault Device} (h : NormalOk x) : WithinNormal (return x) := h

theorem EndsNormal.ok {p : Program Device} (h : EndsNormal p) : WithinNormal (p >>= fun d => return .ok d) :=
  h.bind fun _ hd => within_return (normalOk_ok hd)

theorem WithinNormal.andThen {p : Program (Except Fault Device)} {k : Device → Program (Except Fault Device)}
    (hp : WithinNormal p) (hk : ∀ d, d.state.snifferMode = false → WithinNormal (k d)) :
    WithinNormal (andThen p k) := by
  refine hp.bind fun x hx => ?_
  cases x with
  | error f => exact normalOk_error f
  | ok d => exact hk d (hx d rfl)

theorem within_set {α : Type} {Q : α → Prop} {s : Setting} {k : Program α} (h : k.Within DriverCall.Normal Q) :
    (set s >>= fun _ => k).Within DriverCall.Normal Q := ⟨trivial, fun _ => h⟩

theorem within_setIf {α : Type} {Q : α → Prop} {c : Bool} {s : Setting} {k : Program α}
    (h : k.Within DriverCall.Normal Q) : (setIf c s >>= fun _ => k).Within DriverCall.Normal Q := by
  cases c with
  | false => exact h
  | true => exact within_set h

theorem within_request {r : Request} {d : Device} (hc : r ≠ .carrier true) (hs : r ≠ .sniffer true)
    (h : d.state.snifferMode = false) : EndsNormal (request r d) := by
  cases r with
  | channel c => exact within_setIf h
  | address a => exact within_set h
  | datarate n => exact within_setIf (within_setIf h)
  | power p => exact h
  | arc n => exact within_set h
  | ack enabled => exact within_set h
  | carrier enable =>
    cases enable with
    | false => exact ⟨rfl, fun _ => h⟩
    | true => exact absurd rfl hc
  | sniffer on =>
    cases on with
    | false => exact ⟨trivial, fun _ => rfl⟩
    | true => exact absurd rfl hs
  | snifferAddress pipe1 a => cases pipe1 <;> exact within_set h
  | inlineMode v => exact h
  | loss p a => exact within_set h
  | other => exact h

theorem within_usbSend {k : Bool × Device → Program (Except Fault Device)} {d : Device}
    (h : d.state.snifferMode = false) (hk : ∀ r : Bool × Device, r.2.state.snifferMode = false → WithinNormal (k r)) :
    WithinNormal (usbSend d >>= k) := ⟨trivial, fun _ => hk _ h⟩

theorem within_buildPacket {c : DataCommand} {d : Device} (h : d.state.snifferMode = false) :
    WithinNormal (buildPacket c d) := by
  unfold buildPacket
  split
  · exact within_set (within_set (within_set (within_set (normalOk_loadPacket h))))
  split
  · refine WithinNormal.andThen (within_return (normalOk_loadPacket h)) fun d hd => ?_
    exact within_usbSend hd fun r hr => normalOk_loadPacket hr
  · exact normalOk_loadPacket h

theorem within_sendAndAnswer {d : Device} (h : d.state.snifferMode = false) : WithinNormal (sendAndAnswer d) := by
  unfold sendAndAnswer
  split
  · exact within_usbSend h fun r hr => normalOk_answer hr
  · refine normalOk_ok ?_
    rw [invalidAnswer_eq]
    exact h

theorem within_fwScanLoop : ∀ (n channel : Nat) {d : Device}, d.state.snifferMode = false →
    EndsNormal (fwScanLoop n channel d)
  | 0, _, _, h => h
  | n + 1, channel, d, h => by
    refine within_set ⟨trivial, fun r => ?_⟩
    have hd : ({ d with scan := r.2 } : Device).state.snifferMode = false := h
    show EndsNormal (if r.1 then (if _ then _ else _) else _)
    split
    · split
      · exact h
      · exact within_fwScanLoop n (channel + 1) hd
    · exact within_fwScanLoop n (channel + 1) hd

theorem within_job {j : Job} (hj : j.KeepsNormal) {d : Device} (h : d.state.snifferMode = false) :
    WithinNormal (j.program d) := by
  cases j with
  | command c =>
    cases c with
    | setup s => exact EndsNormal.ok (within_request hj.1 hj.2 h)
    | data c =>
      show WithinNormal (if d.state.snifferMode then _ else _)
      rw [if_neg (Bool.eq_false_iff.mp h)]
      exact WithinNormal.andThen (within_buildPacket h) fun d hd => within_sendAndAnswer hd
  | scan start stop data =>
    refine EndsNormal.ok ?_
    unfold fwScan
    simp only
    split
    · exact h
    · exact within_fwScanLoop _ _ h

theorem within_jobs : ∀ (js : List Job), (∀ j ∈ js, j.KeepsNormal) → ∀ {d : Device}, d.state.snifferMode = false →
    WithinNormal (jobs js d)
  | [], _, _, h => normalOk_ok h
  | j :: js, hj, _, h =>
    WithinNormal.andThen (within_job (hj j List.mem_cons_self) h) fun _ hd =>
      within_jobs js (fun j' h' => hj j' (List.mem_cons_of_mem j h')) hd

/-! ## The calls on the machine -/

/-- What happened so far: the surroundings of each send, and the driver. -/
abbrev Exchanged : Type := List Exchange × Esb

/-- The surroundings drew the values the code did. -/
def Drawn (draws : Nat → UInt32 × UInt32) (xs : List Exchange) : Prop :=
  ∀ i x, xs[i]? = some x → x.packetDraw = (draws i).1 ∧ x.ackDraw = (draws i).2

/-- The surroundings begin with these. -/
def Begins (env : Env) (xs : List Exchange) : Prop := ∀ i x, xs[i]? = some x → env i = x

theorem Begins.of_append {env : Env} {xs ys : List Exchange} (h : Begins env ys) (hxs : xs <+: ys) : Begins env xs := by
  obtain ⟨zs, rfl⟩ := hxs
  intro i x hx
  have hi : i < xs.length := (List.getElem?_eq_some_iff.mp hx).1
  exact h i x ((List.getElem?_append_left hi).trans hx)

/-- The number of sends and the driver. -/
def Exchanged.view (s : Exchanged) : Answering := (s.1.length, s.2)

/-- A call does what its callers see, in surroundings that begin with those so far and its own. -/
def ServesCall (draws : Nat → UInt32 × UInt32) (c : DriverCall) (s : Exchanged) (r : c.Result)
    (s' : Exchanged) : Prop :=
  s.1 <+: s'.1 ∧ (Drawn draws s.1 → Drawn draws s'.1) ∧
    ∀ env, Begins env s'.1 → answerCall env c s.view = (r, s'.view)

/-- The machine between two calls. -/
def Stands (s : Exchanged) (n : Nat) (m : Machine) : Prop :=
  (n = s.1.length ∧ s.2.continuousCarrierEnabled = false) ∧ ∃ b, Resting b s.2 m

theorem stable_stands (s : Exchanged) (n : Nat) : prompt.Stable (Stands s n) := by
  rintro ev m m' he ⟨hs, b, h⟩
  exact ⟨hs, b, stable_resting ev m m' he h⟩

theorem drawn_concat {draws : Nat → UInt32 × UInt32} {xs : List Exchange} {x : Exchange} (h : Drawn draws xs)
    (hp : x.packetDraw = (draws xs.length).1) (ha : x.ackDraw = (draws xs.length).2) : Drawn draws (xs ++ [x]) := by
  intro i y hy
  rcases Nat.lt_trichotomy i xs.length with hi | rfl | hi
  · rw [List.getElem?_append_left hi] at hy
    exact h i y hy
  · rw [List.getElem?_concat_length] at hy
    cases hy
    exact ⟨hp, ha⟩
  · rw [List.getElem?_eq_none (by simp; omega)] at hy
    cases hy

theorem callCode_setting (draws : Nat → UInt32 × UInt32) (t : Setting) (s : Exchanged) (n : Nat) :
    prompt.Triple (fun _ => True) (Stands s n) (callCode draws (.setting t) n) fun r m =>
      WasStuck m ∨ ∃ s', ServesCall draws (.setting t) s r.1 s' ∧ Stands s' r.2 m := by
  rintro m ⟨⟨hn, hoff⟩, b, h⟩
  refine ((call_agrees (c := .setting t) trivial b s.2).bind fun _ => ?_) m h
  rintro m₁ (hm | ⟨b', e', hserves, hm⟩)
  · exact (triple_wasStuck _ m₁ hm).post fun _ _ h => .inl h
  · cases hserves
    obtain ⟨-, -, -, -, hkept⟩ := setting_kept t s.2
    refine Platform.Triple.done stable_resting (fun _ _ => trivial) (fun m' h' => .inr ?_) m₁ hm
    exact ⟨(s.1, t.apply s.2), ⟨List.prefix_refl _, id, fun _ _ => rfl⟩,
      ⟨hn, hkept.trans hoff⟩, b, h'⟩

theorem callCode_sendPacket (draws : Nat → UInt32 × UInt32) (b₀ : SendBuffers) (s : Exchanged) (n : Nat) :
    prompt.Triple (fun _ => True) (Stands s n) (callCode draws (.sendPacket b₀) n) fun r m =>
      WasStuck m ∨ ∃ s', ServesCall draws (.sendPacket b₀) s r.1 s' ∧ Stands s' r.2 m := by
  rintro m ⟨⟨hn, hoff⟩, b, h⟩
  suffices ht : prompt.Triple (fun _ => True) (Counted m) (callCode draws (.sendPacket b₀) n) fun r m =>
      WasStuck m ∨ ∃ s', ServesCall draws (.sendPacket b₀) s r.1 s' ∧ Stands s' r.2 m from ht m (.refl m)
  refine Still.op h.still ?_
  refine ((esbSendPacket_agrees (draws n).1 (draws n).2 b₀ s.2).pre fun m' hc => Resting.counted ?_ hc).bind
    fun acked => ?_
  · exact ⟨h.irqEnabled, h.radio, h.ppi22, h.masked, h.rxen, h.sniffer, h.sem, rfl, h.esb⟩
  rintro m₁ (hm | ⟨x, hp, ha, hacked, hm⟩)
  · exact (triple_wasStuck _ m₁ hm).post fun _ _ h => .inl h
  · -- the buffers are read back, and the surroundings of the send are recorded
    refine Platform.Triple.read stable_resting (fun _ _ => trivial) (fun m₂ hm₂ => ?_) m₁ hm
    refine Platform.Triple.done stable_resting (fun _ _ => trivial) (fun m' h' => .inr ?_) m₂ hm₂
    subst hn
    refine ⟨(s.1 ++ [x], (Crazyradio.esbSendPacket x b₀ s.2).2.2), ⟨List.prefix_append _ _, fun hd =>
      drawn_concat hd hp ha, fun env henv => ?_⟩, ⟨?_, ?_⟩, _, h'⟩
    · have hx : env s.1.length = x := henv s.1.length x (List.getElem?_concat_length ..)
      show ((_, _), _, _) = ((acked, m₂.buffers), (s.1 ++ [x]).length, _)
      rw [hx, hacked, hm₂.buffers, List.length_append]
      rfl
    · rw [List.length_append]
      rfl
    · obtain ⟨pid, log, hk⟩ := esbSendPacket_kept x b₀ s.2
      rw [hk]
      exact hoff

/-- With the carrier off, switching it off is an early exit. -/
theorem esbSetContinuousCarrier_exits {b : SendBuffers} {e : Esb} {m : Machine} (h : Resting b e m)
    (hoff : e.continuousCarrierEnabled = false) :
    prompt.Triple (fun _ => True) (Counted m) (Driver.esbSetContinuousCarrier false)
      fun r m' => r = false ∧ Resting b e m' := by
  have hdone : prompt.Triple (fun _ => True) (Counted m) (return false : Code Bool)
      fun r m' => r = false ∧ Resting b e m' := Still.done h.still fun m' hc => ⟨rfl, h.counted hc⟩
  unfold Driver.esbSetContinuousCarrier
  refine Still.get h.still (fun _ _ => rfl) ?_
  rw [h.esb]
  cases e.isInit with
  | false => exact hdone
  | true =>
    refine Still.get h.still (fun _ _ => rfl) ?_
    rw [h.esb, h.sniffer]
    refine Still.get h.still (fun _ _ => rfl) ?_
    rw [h.esb, hoff]
    exact hdone

/-- So is leaving sniffer mode with no session on. -/
theorem esbSnifferStop_exits {b : SendBuffers} {e : Esb} {m : Machine} (h : Resting b e m) :
    prompt.Triple (fun _ => True) (Counted m) Driver.esbSnifferStop fun _ m' => Resting b e m' := by
  unfold Driver.esbSnifferStop
  refine Still.get h.still (fun _ _ => rfl) ?_
  rw [h.esb, h.sniffer]
  exact Still.done h.still fun m' hc => h.counted hc

theorem callCode_carrierOff (draws : Nat → UInt32 × UInt32) (s : Exchanged) (n : Nat) :
    prompt.Triple (fun _ => True) (Stands s n) (callCode draws (.setContinuousCarrier false) n) fun r m =>
      WasStuck m ∨ ∃ s', ServesCall draws (.setContinuousCarrier false) s r.1 s' ∧ Stands s' r.2 m := by
  rintro m ⟨hn, b, h⟩
  have hoff : Crazyradio.esbSetContinuousCarrier false s.2 = (false, s.2) := by
    unfold Crazyradio.esbSetContinuousCarrier
    rw [hn.2]
    split
    · rfl
    split <;> rfl
  refine ((esbSetContinuousCarrier_exits h hn.2).bind fun done => ?_) m (.refl m)
  rintro m₁ ⟨rfl, h₁⟩
  refine Platform.Triple.done stable_resting (fun _ _ => trivial) (fun m' h' => .inr ⟨s, ?_, hn, b, h'⟩) m₁ h₁
  refine ⟨List.prefix_refl _, id, fun env _ => ?_⟩
  show ((Crazyradio.esbSetContinuousCarrier false s.2).1, s.1.length,
    (Crazyradio.esbSetContinuousCarrier false s.2).2) = _
  rw [hoff]
  rfl

theorem callCode_snifferStop (draws : Nat → UInt32 × UInt32) (s : Exchanged) (n : Nat) :
    prompt.Triple (fun _ => True) (Stands s n) (callCode draws .snifferStop n) fun r m =>
      WasStuck m ∨ ∃ s', ServesCall draws .snifferStop s r.1 s' ∧ Stands s' r.2 m := by
  rintro m ⟨hn, b, h⟩
  refine ((esbSnifferStop_exits h).bind fun _ => ?_) m (.refl m)
  intro m₁ h₁
  refine Platform.Triple.done stable_resting (fun _ _ => trivial) (fun m' h' => .inr ⟨s, ?_, hn, b, h'⟩) m₁ h₁
  refine ⟨List.prefix_refl _, id, fun env _ => ?_⟩
  show ((), s.1.length, Crazyradio.esbSnifferStop s.2) = _
  unfold Crazyradio.esbSnifferStop
  rw [h.sniffer]
  rfl

theorem callCode_agrees (draws : Nat → UInt32 × UInt32) (c : DriverCall) (hc : c.Normal) (s : Exchanged) (n : Nat) :
    prompt.Triple (fun _ => True) (Stands s n) (callCode draws c n) fun r m =>
      WasStuck m ∨ ∃ s', ServesCall draws c s r.1 s' ∧ Stands s' r.2 m := by
  cases c with
  | setting t => exact callCode_setting draws t s n
  | sendPacket b => exact callCode_sendPacket draws b s n
  | setContinuousCarrier enable =>
    obtain rfl : enable = false := hc
    exact callCode_carrierOff draws s n
  | snifferStop => exact callCode_snifferStop draws s n
  | _ => exact hc.elim

/-! ## The firmware -/

/-- The surroundings that begin with `xs` and draw `draws`, with nobody answering behind them. -/
def envOf (draws : Nat → UInt32 × UInt32) (xs : List Exchange) : Env := fun n =>
  xs[n]?.getD { Exchange.silent with packetDraw := (draws n).1, ackDraw := (draws n).2 }

theorem begins_envOf (draws : Nat → UInt32 × UInt32) (xs : List Exchange) : Begins (envOf draws xs) xs := by
  intro i x hx
  unfold envOf
  rw [hx]
  rfl

theorem draws_envOf {draws : Nat → UInt32 × UInt32} {xs : List Exchange} (h : Drawn draws xs) (n : Nat) :
    (envOf draws xs n).packetDraw = (draws n).1 ∧ (envOf draws xs n).ackDraw = (draws n).2 := by
  unfold envOf
  cases hx : xs[n]? with
  | none => exact ⟨rfl, rfl⟩
  | some x => exact h n x hx

/-- A run of the firmware's sections over the driver's callers' view, in the surroundings it recorded. -/
theorem jobs_eval {draws : Nat → UInt32 × UInt32} {p : Program (Except Fault Device)} {s s' : Exchanged}
    {x : Except Fault Device} (h : p.Runs (ServesCall draws) s x s') :
    p.eval (answerCall (envOf draws s'.1)) s.view = (x, s'.view) :=
  (h.eval (fun a b => a.1 <+: b.1) (fun _ => List.prefix_refl _) (fun _ _ _ => List.IsPrefix.trans)
    (fun _ _ _ _ hc => hc.1) fun _ _ _ _ hc hb => hc.2.2 _ ((begins_envOf draws s'.1).of_append hb)).1

/-- Any sections that keep to normal mode, executed instruction by instruction on the machine with a prompt
handler, in any run in which no send ends through the 200 ms path: they end as in a run of the device in some
surroundings with the same random values, with the same fault, or with the same settings, results and answers
to the host, and with the machine's driver as the device's. -/
theorem firmware_refines {draws : Nat → UInt32 × UInt32} {js : List Job} (hj : ∀ j ∈ js, j.KeepsNormal)
    {cs : List (Choice Driver.Event)} {x : Except Fault Device} {n : Nat} {m : Machine}
    (h : prompt.run cs (firmware draws js) .boot = some (.done (x, n), m)) (hs : .stuck ∉ m.trace) :
    ∃ env : Env, (∀ i, (env i).packetDraw = (draws i).1 ∧ (env i).ackDraw = (draws i).2) ∧
      boot.run env (js.map Job.act) = x.map fun d => { d with esb := m.esb, sends := n } := by
  have hboot : Stands ([], esbInit {}) 0 .boot := ⟨⟨rfl, rfl⟩, _, resting_boot⟩
  have hsafe := (Client.triple_thread (callCode_agrees draws) stable_stands (fun _ _ _ _ => trivial) triple_wasStuck
    (within_jobs js hj rfl) ([], esbInit {}) 0 .boot hboot).run cs h
  rcases (hsafe m .refl).2 with hstuck | ⟨s', hr, ⟨hn, -⟩, b, hm⟩
  · exact absurd hstuck hs
  · have hdrawn : Drawn draws s'.1 := hr.keeps (fun s => Drawn draws s.1) (fun _ _ _ _ hc => hc.2.1)
      fun i x hx => by cases hx
    refine ⟨envOf draws s'.1, draws_envOf hdrawn, ?_⟩
    have hjobs := outcome_jobs (envOf draws s'.1) js boot (0, esbInit {})
    unfold outcome at hjobs
    rw [show ((0, esbInit {}) : Answering) = Exchanged.view ([], esbInit {}) from rfl, jobs_eval hr] at hjobs
    refine hjobs.symm.trans ?_
    subst hn
    rw [hm.esb]
    rfl

/-- A scan of one channel on which a ping is acked. -/
theorem firmware_refines_acked : ∃ d n m,
    prompt.run (threadSteps 24 ++ hardware ackedAttempt ++ threadSteps 16) (firmware (fun _ => (0, 0)) [.scan 3 3 []])
      .boot = some (.done (.ok d, n), m) ∧ d.state.scanResultLength = 1 ∧
    ∃ env : Env, (∀ i, (env i).packetDraw = 0 ∧ (env i).ackDraw = 0) ∧
      boot.run env [.scan 3 3 []] = .ok { d with esb := m.esb, sends := n } := by
  obtain ⟨d, n, m, h, hd, ht⟩ : ∃ d n m,
      prompt.run (threadSteps 24 ++ hardware ackedAttempt ++ threadSteps 16) (firmware (fun _ => (0, 0)) [.scan 3 3 []])
        .boot = some (.done (.ok d, n), m) ∧ d.state.scanResultLength = 1 ∧
      m.trace = [.txen 0, .verdict false (some { latched := false }), .taken 1 1] := ⟨_, _, _, rfl, rfl, rfl⟩
  have hs : .stuck ∉ m.trace := by
    rw [ht]
    decide
  have hj : ∀ j ∈ [Job.scan 3 3 []], j.KeepsNormal := by
    intro j hj
    obtain rfl := List.mem_singleton.mp hj
    exact trivial
  exact ⟨d, n, m, h, hd, firmware_refines hj h hs⟩

end Crazyradio.Stack
