/-
The order in which host requests reach the radio. Setup and data commands wait in `command_queue`
for `usb_thread`, a channel scan and a reset run in the callback at once. `Serial` handles every
request where it is issued; the two threads end with the same register writes and transmissions
in every run whose scans and resets find nothing waiting.
-/
import Crazyradio.Usb.Transfers

namespace Crazyradio.Usb

open Bytes

/-! ## Requests in issue order -/

/-- One thread that handles every request of the host before it takes the next one. -/
structure Serial where
  dev : Device
  cb : Callback := {}
  halted : Bool := false

def Serial.boot : Serial := { dev := Usb.boot }

def Serial.handle (env : Env) (s : Serial) (c : UsbCommand) : Option Serial :=
  match handleCommand env c s.dev with
  | .ok dev => some { s with dev }
  | .error _ => none

/-- A request of the host, handled where it is issued; the other events are none of its. -/
def Serial.serve (env : Env) (s : Serial) (e : Event) : Option Serial :=
  if s.halted then none
  else
    match e with
    | .out packet =>
      match crazyradioOutCb packet s.cb with
      | (cb, some c) => { s with cb }.handle env (.data c)
      | (cb, none) => some { s with cb }
    | .request setup data =>
      match crazyradioVendorHandler setup data s.dev s.cb with
      | (cb, .queue c) => { s with cb }.handle env (.setup c)
      | (cb, .scan start stop data) => some { s with cb, dev := fwScan env start stop data s.dev }
      | (cb, .reset) => some { s with cb, halted := true }
      | (cb, _) => some { s with cb }
    | _ => some s

def Serial.run (env : Env) (s : Serial) : List Event → Option Serial
  | [] => some s
  | e :: es => do
    let s ← s.serve env e
    s.run env es

/-! ## What the radio depends on -/

/-- The device without the buffers and queues between it and the host. -/
def radioPart (d : Device) : Device :=
  { d with
    state := { d.state with usbAnswer := Buf.fill 128 0 }
    plainAnswer := Buf.fill 33 0
    snifferRxBuffer := {}
    snifferPkt := {}
    snifferQueue := []
    snifferDropCount := 0
    inWrites := [] }

/-- `f` does to the radio the same whatever those buffers hold. -/
def Blind (f : Device → Except Fault Device) : Prop :=
  ∀ d, (f d).map radioPart = (f (radioPart d)).map radioPart

theorem blind_loadPacket (payload : Buf 128) (off : Nat) (n : Int) : Blind (loadPacket payload off n) := by
  intro d
  unfold loadPacket
  show _ = (memcpy d.usb.packet.data 0 payload off n >>= _).map radioPart
  cases memcpy d.usb.packet.data 0 payload off n with
  | error f => rfl
  | ok data => rfl

theorem Blind.bind {f g : Device → Except Fault Device} (hf : Blind f) (hg : Blind g) : Blind fun d => f d >>= g := by
  intro d
  have h := hf d
  show (f d >>= g).map radioPart = (f (radioPart d) >>= g).map radioPart
  cases h₁ : f d with
  | error e =>
    cases h₂ : f (radioPart d) with
    | error e' => rw [h₁, h₂] at h; cases h; rfl
    | ok d' => rw [h₁, h₂] at h; cases h
  | ok d₁ =>
    cases h₂ : f (radioPart d) with
    | error e' => rw [h₁, h₂] at h; cases h
    | ok d₂ =>
      rw [h₁, h₂] at h
      have hr : radioPart d₁ = radioPart d₂ := Except.ok.inj h
      show (g d₁).map radioPart = (g d₂).map radioPart
      rw [hg d₁, hg d₂, hr]

theorem blind_pure {f : Device → Device} (h : ∀ d, radioPart (f d) = radioPart (f (radioPart d))) :
    Blind fun d => .ok (f d) := fun d => congrArg Except.ok (h d)

theorem radioPart_usbSend (env : Env) (d : Device) : radioPart (usbSend env d).2 = (usbSend env (radioPart d)).2 := rfl

theorem radioPart_capAck (d : Device) : radioPart (capAck d) = capAck (radioPart d) := apply_ite radioPart _ _ _

theorem radioPart_guardedSend (env : Env) (d : Device) :
    radioPart (guardedSend env d) = guardedSend env (radioPart d) := by
  unfold guardedSend
  rw [apply_ite radioPart, radioPart_capAck, radioPart_usbSend]
  rfl

theorem blind_buildPacket (env : Env) (c : DataCommand) : Blind (buildPacket env c) := by
  intro d
  unfold buildPacket
  show _ = Except.map radioPart
    (if d.state.inlineMode then _ else if !d.state.ackEnabled && decide (32 < c.length) then _ else _)
  split
  · exact blind_loadPacket c.payload 8 _ (inlineSettings _ d)
  split
  · exact ((blind_loadPacket c.payload 0 _).bind fun d =>
      blind_loadPacket c.payload (c.length / 2) (c.length / 2 : Nat) (usbSend env d).2) d
  · exact blind_loadPacket c.payload 0 _ d

theorem blind_sendAndAnswer (env : Env) : Blind (sendAndAnswer env) := by
  intro d
  obtain ⟨b, p, h⟩ := sendAndAnswer_spec env d
  obtain ⟨b', p', h'⟩ := sendAndAnswer_spec env (radioPart d)
  rw [h, h']
  refine congrArg Except.ok ?_
  show radioPart (guardedSend env d) = radioPart (guardedSend env (radioPart d))
  rw [← radioPart_guardedSend]
  rfl

theorem blind_snifferData (c : DataCommand) : Blind (snifferData c) := by
  intro d
  by_cases h : c.length < 6
  · rw [snifferData, snifferData, if_pos h, if_pos h]
    rfl
  · rw [snifferData_ok (by omega) d, snifferData_ok (by omega) (radioPart d)]
    rfl

theorem radioPart_apply (r : Request) (d : Device) : radioPart (r.apply d) = radioPart (r.apply (radioPart d)) := by
  cases r with
  | sniffer on => cases on <;> rfl
  | snifferAddress pipe1 a => cases pipe1 <;> rfl
  | _ => rfl

/-- A command does to the radio the same whatever the host's buffers and queues hold. -/
theorem blind_handleCommand (env : Env) : ∀ c : UsbCommand, Blind (handleCommand env c)
  | .setup s => blind_pure (f := handleVendorCommand s) fun d => by
    rw [handleVendorCommand_decode, handleVendorCommand_decode, radioPart_apply]
  | .data c => fun d => by
    cases hs : d.state.snifferMode with
    | true =>
      have hd : ∀ d : Device, d.state.snifferMode = true → handleCommand env (.data c) d = snifferData c d :=
        fun d h => if_pos h
      rw [hd d hs, hd (radioPart d) hs]
      exact blind_snifferData c d
    | false =>
      rw [handleCommand_noSniffer env c hs, handleCommand_noSniffer env c (d := radioPart d) hs]
      exact (blind_buildPacket env c).bind (blind_sendAndAnswer env) d

theorem radioPart_fwScanLoop (env : Env) : ∀ (n channel : Nat) (d : Device),
    radioPart (fwScanLoop env n channel d) = fwScanLoop env n channel (radioPart d)
  | 0, _, _ => rfl
  | n + 1, channel, d => by
    have hs : scanSend env ((radioPart d).scanTuned channel) =
        ((scanSend env (d.scanTuned channel)).1, radioPart (scanSend env (d.scanTuned channel)).2) := rfl
    have hhit : ∀ d : Device, radioPart (d.scanHit channel) = (radioPart d).scanHit channel := fun _ => rfl
    rw [fwScanLoop_succ, fwScanLoop_succ, hs, apply_ite radioPart, apply_ite radioPart, radioPart_fwScanLoop,
      radioPart_fwScanLoop, hhit]
    rfl

theorem radioPart_fwScan (env : Env) (start stop : UInt8) (data : List UInt8) (d : Device) :
    radioPart (fwScan env start stop data d) = fwScan env start stop data (radioPart d) := by
  unfold fwScan
  simp only
  rw [apply_ite radioPart, radioPart_fwScanLoop]
  rfl

/-- Devices with the same radio part behave alike. -/
theorem Blind.congr {f : Device → Except Fault Device} (hf : Blind f) {d₁ d₂ : Device}
    (h : radioPart d₁ = radioPart d₂) : (f d₁).map radioPart = (f d₂).map radioPart := by rw [hf d₁, hf d₂, h]

theorem fwScan_congr (env : Env) (start stop : UInt8) (data : List UInt8) {d₁ d₂ : Device}
    (h : radioPart d₁ = radioPart d₂) :
    radioPart (fwScan env start stop data d₁) = radioPart (fwScan env start stop data d₂) := by
  rw [radioPart_fwScan, radioPart_fwScan, h]

/-- What `usb_thread` does at its poll and what the radio receives for the sniffer stay on the host's side. -/
theorem radioPart_pollSniffer {d d' : Device} (h : pollSniffer d = .ok d') : radioPart d' = radioPart d := by
  obtain ⟨queue, b, writes, hp⟩ := pollSniffer_spec d
  cases hp.symm.trans h
  rfl

theorem radioPart_radioIsrSniffer (r : Reception) (d : Device) : radioPart (radioIsrSniffer r d) = radioPart d := by
  unfold radioIsrSniffer snifferRxCallback
  simp only
  split
  · split <;> rfl
  · rfl

/-! ## Commands on their way -/

/-- Commands handled one behind the other. -/
def handleAll (env : Env) : List UsbCommand → Device → Except Fault Device
  | [], d => .ok d
  | c :: cs, d => handleCommand env c d >>= handleAll env cs

theorem handleAll_append (env : Env) : ∀ (cs ds : List UsbCommand) (d : Device),
    handleAll env (cs ++ ds) d = handleAll env cs d >>= handleAll env ds
  | [], _, _ => rfl
  | c :: cs, ds, d => by
    simp only [List.cons_append, handleAll]
    cases handleCommand env c d with
    | error f => rfl
    | ok d' => exact handleAll_append env cs ds d'

theorem blind_handleAll (env : Env) : ∀ cs : List UsbCommand, Blind (handleAll env cs)
  | [] => blind_pure (f := id) fun _ => rfl
  | c :: cs => (blind_handleCommand env c).bind (blind_handleAll env cs)

/-- The device once `usb_thread` has handled what is pending; behind a reset nothing is. -/
def System.drained (env : Env) (s : System) : Except Fault Device :=
  if s.halted then .ok s.dev else handleAll env s.pending s.dev

/-- A request the callback serves itself and that changes the device: a channel scan or a reset. -/
def UsbSetupPacket.atOnce (p : UsbSetupPacket) : Bool :=
  p.isVendor && ((p.bRequest == channelScann && p.toDevice) || p.bRequest == resetToBootloader)

def Event.atOnce : Event → Bool
  | .request setup _ => setup.atOnce
  | _ => false

/-- Every scan and every reset finds the commands before it handled. -/
def InTurn (env : Env) : System → List Event → Prop
  | _, [] => True
  | s, e :: es => (e.atOnce = true → s.pending = []) ∧ ∀ s', s.step env e = some s' → InTurn env s' es

theorem atOnce_scan {setup : UsbSetupPacket} {data : List UInt8} {d : Device} {cb : Callback} {start stop : UInt8}
    {bytes : List UInt8} (h : (crazyradioVendorHandler setup data d cb).2 = .scan start stop bytes) :
    setup.atOnce = true := by
  unfold crazyradioVendorHandler at h
  split at h
  · rename_i hv
    repeat' split at h
    case isFalse.isTrue =>
      rename_i hc
      simp [UsbSetupPacket.atOnce, hv, hc]
    all_goals cases h
  · cases h

theorem atOnce_reset {setup : UsbSetupPacket} {data : List UInt8} {d : Device} {cb : Callback}
    (h : (crazyradioVendorHandler setup data d cb).2 = .reset) : setup.atOnce = true := by
  unfold crazyradioVendorHandler at h
  split at h
  · rename_i hv
    repeat' split at h
    case isFalse.isFalse.isFalse.isFalse.isTrue =>
      rename_i hc
      simp [UsbSetupPacket.atOnce, hv, hc]
    all_goals cases h
  · cases h

/-- Of the device the handler reads only what it replies. -/
theorem vendorHandler_device (setup : UsbSetupPacket) (data : List UInt8) (d d' : Device) (cb : Callback) :
    crazyradioVendorHandler setup data d' cb = crazyradioVendorHandler setup data d cb ∨
      ∃ bytes bytes', crazyradioVendorHandler setup data d cb = (cb, .reply bytes) ∧
        crazyradioVendorHandler setup data d' cb = (cb, .reply bytes') := by
  unfold crazyradioVendorHandler
  split
  · split
    · exact Or.inl rfl
    split
    · exact Or.inl rfl
    split
    · exact Or.inr ⟨_, _, rfl, rfl⟩
    split
    · exact Or.inr ⟨_, _, rfl, rfl⟩
    · exact Or.inl rfl
  · exact Or.inl rfl

/-! ## Agreement -/

/-- Once what is pending is handled, the radio stands where the serial handling has it; a fault of
the serial handling is still to come. -/
def Agrees (env : Env) (s : System) : Option Serial → Prop
  | some q => q.cb = s.cb ∧ q.halted = s.halted ∧ (s.drained env).map radioPart = .ok (radioPart q.dev)
  | none => ∃ f, (s.drained env).map radioPart = .error f

section Agree

variable {env : Env} {s s' : System} {q : Option Serial}

theorem Agrees.congr (h : Agrees env s q) (hc : s'.cb = s.cb) (hh : s'.halted = s.halted)
    (hd : (s'.drained env).map radioPart = (s.drained env).map radioPart) : Agrees env s' q := by
  cases q with
  | none =>
    obtain ⟨f, hf⟩ := h
    exact ⟨f, hd.trans hf⟩
  | some q => exact ⟨h.1.trans hc.symm, h.2.1.trans hh.symm, hd.trans h.2.2⟩

theorem drained_running (h : s.halted = false) : s.drained env = handleAll env s.pending s.dev :=
  if_neg (Bool.eq_false_iff.mp h)

theorem drained_idle (hp : s.pending = []) : s.drained env = .ok s.dev := by
  unfold System.drained
  rw [hp]
  exact ite_self _

/-- A device change behind everything pending, made by both. -/
theorem Agrees.idle (h : Agrees env s q) (hp : s.pending = []) : ∃ q', q = some q' ∧ q'.cb = s.cb ∧
    q'.halted = s.halted ∧ radioPart s.dev = radioPart q'.dev := by
  cases q with
  | none =>
    obtain ⟨f, hf⟩ := h
    rw [drained_idle hp] at hf
    cases hf
  | some q =>
    obtain ⟨hc, hh, hd⟩ := h
    rw [drained_idle hp] at hd
    exact ⟨q, rfl, hc, hh, Except.ok.inj hd⟩

/-- A command queued on one side and handled on the other. -/
theorem Agrees.put (h : Agrees env s q) (hn : s.halted = false) (cb : Callback) (c : UsbCommand) :
    Agrees env { s with cb, queue := s.queue ++ [c] } (q.bind fun q => { q with cb }.handle env c) := by
  have hd : System.drained env { s with cb, queue := s.queue ++ [c] } = s.drained env >>= handleCommand env c := by
    have hp : System.pending { s with cb, queue := s.queue ++ [c] } = s.pending ++ [c] :=
      (List.append_assoc _ _ _).symm
    have hone : handleAll env [c] = handleCommand env c := by
      funext d
      unfold handleAll
      cases handleCommand env c d <;> rfl
    rw [drained_running hn, drained_running (s := { s with cb, queue := s.queue ++ [c] }) hn, hp, handleAll_append,
      hone]
  cases q with
  | none =>
    obtain ⟨f, hf⟩ := h
    refine ⟨f, ?_⟩
    rw [hd]
    cases hs : s.drained env with
    | error f' => rw [hs] at hf; cases hf; rfl
    | ok d => rw [hs] at hf; cases hf
  | some q =>
    obtain ⟨hc, hh, hr⟩ := h
    cases hs : s.drained env with
    | error f => rw [hs] at hr; cases hr
    | ok d =>
      rw [hs] at hr hd
      have hboth := (blind_handleCommand env c).congr (Except.ok.inj hr)
      have hd : System.drained env { s with cb, queue := s.queue ++ [c] } = handleCommand env c d := hd
      rw [← hd] at hboth
      show Agrees env _ ({ q with cb }.handle env c)
      unfold Serial.handle
      simp only
      cases hq : handleCommand env c q.dev with
      | error f => rw [hq] at hboth; exact ⟨f, hboth⟩
      | ok dev => rw [hq] at hboth; exact ⟨rfl, hh, hboth⟩

/-- An OUT packet. -/
theorem Agrees.out {packet : List UInt8} (h : Agrees env s q) (hn : s.halted = false)
    (hs : s.out packet = some s') : Agrees env s' (q.bind fun q => q.serve env (.out packet)) := by
  have hcases := out_cases hs
  rcases hcb : crazyradioOutCb packet s.cb with ⟨cb, out⟩
  rw [hcb] at hcases
  have serve : ∀ q' : Serial, q = some q' → q'.serve env (.out packet) = match (cb, out) with
      | (cb, some c) => { q' with cb }.handle env (.data c)
      | (cb, none) => some { q' with cb } := by
    rintro q' rfl
    unfold Serial.serve
    rw [h.2.1, hn, if_neg Bool.false_ne_true]
    simp only
    rw [h.1, hcb]
  rcases hcases with ⟨rfl, rfl⟩ | ⟨c, rfl, rfl⟩
  · cases q with
    | none => exact h
    | some q =>
      show Agrees env _ (q.serve env (.out packet))
      rw [serve q rfl]
      exact ⟨rfl, h.2⟩
  · have hput := h.put hn cb (.data c)
    cases q with
    | none => exact hput
    | some q =>
      show Agrees env _ (q.serve env (.out packet))
      rw [serve q rfl]
      exact hput

/-- A control request; a scan or a reset needs nothing pending. -/
theorem Agrees.request {setup : UsbSetupPacket} {data : List UInt8} (h : Agrees env s q) (hn : s.halted = false)
    (hp : setup.atOnce = true → s.pending = []) (hs : s.request env setup data = some s') :
    Agrees env s' (q.bind fun q => q.serve env (.request setup data)) := by
  have hcases := request_cases hs
  have hscan : ∀ {start stop bytes}, (crazyradioVendorHandler setup data s.dev s.cb).2 = .scan start stop bytes →
      s.pending = [] := fun h => hp (atOnce_scan h)
  have hreset : (crazyradioVendorHandler setup data s.dev s.cb).2 = .reset → s.pending = [] :=
    fun h => hp (atOnce_reset h)
  have hdevice := fun d' => vendorHandler_device setup data s.dev d' s.cb
  have serve : ∀ q' : Serial, q = some q' → q'.serve env (.request setup data) =
      match crazyradioVendorHandler setup data q'.dev s.cb with
      | (cb, .queue c) => { q' with cb }.handle env (.setup c)
      | (cb, .scan start stop data) => some { q' with cb, dev := fwScan env start stop data q'.dev }
      | (cb, .reset) => some { q' with cb, halted := true }
      | (cb, _) => some { q' with cb } := by
    rintro q' rfl
    unfold Serial.serve
    rw [h.2.1, hn, if_neg Bool.false_ne_true]
    simp only
    rw [h.1]
  rcases hv : crazyradioVendorHandler setup data s.dev s.cb with ⟨cb, action⟩
  rw [hv] at hcases hscan hreset hdevice
  rcases hcases with ⟨c, rfl, rfl⟩ | ⟨start, stop, bytes, rfl, rfl⟩ | ⟨rfl, rfl⟩ | ⟨hq, hsc, hr, rfl⟩
  · have hput := h.put hn cb (.setup c)
    cases q with
    | none => exact hput
    | some q =>
      show Agrees env _ (q.serve env (.request setup data))
      rcases hdevice q.dev with hsame | ⟨_, _, hreply, -⟩
      · rw [serve q rfl, hsame]
        exact hput
      · cases hreply
  · obtain ⟨q, rfl, hc, hh, hd⟩ := h.idle (hscan rfl)
    show Agrees env _ (q.serve env (.request setup data))
    rcases hdevice q.dev with hsame | ⟨_, _, hreply, -⟩
    · rw [serve q rfl, hsame]
      refine ⟨rfl, hh, (congrArg (Except.map radioPart) (drained_idle (by exact hscan rfl))).trans ?_⟩
      exact congrArg Except.ok (fwScan_congr env start stop bytes hd)
    · cases hreply
  · obtain ⟨q, rfl, hc, hh, hd⟩ := h.idle (hreset rfl)
    show Agrees env _ (q.serve env (.request setup data))
    rcases hdevice q.dev with hsame | ⟨_, _, hreply, -⟩
    · rw [serve q rfl, hsame]
      exact ⟨rfl, rfl, congrArg Except.ok hd⟩
    · cases hreply
  · cases q with
    | none => exact h
    | some q =>
      show Agrees env _ (q.serve env (.request setup data))
      rw [serve q rfl]
      rcases hdevice q.dev with hsame | ⟨_, _, hreply, hreply'⟩
      · rw [hsame]
        cases action with
        | queue c => exact absurd rfl (hq c)
        | scan start stop bytes => exact absurd rfl (hsc start stop bytes)
        | reset => exact absurd rfl hr
        | _ => exact ⟨rfl, h.2⟩
      · rw [hreply']
        cases hreply
        exact ⟨rfl, h.2⟩

/-- One step of the two threads. -/
theorem Agrees.step {e : Event} (h : Agrees env s q) (hp : e.atOnce = true → s.pending = [])
    (hs : s.step env e = some s') : Agrees env s' (q.bind fun q => q.serve env e) := by
  have hpend := pending_step hs
  have hstep := hs
  unfold System.step at hs
  split at hs
  · cases hs
  rename_i hn
  have hn : s.halted = false := eq_false_of_ne_true hn
  -- the serial handling does nothing at the other events
  have stay : (∀ q' : Serial, q'.halted = false → q'.serve env e = some q') →
      q.bind (fun q => q.serve env e) = q := by
    intro hsame
    cases q with
    | none => rfl
    | some q => exact hsame q (h.2.1.trans hn)
  cases e with
  | out packet => exact h.out hn hs
  | request setup data => exact h.request hn hp hs
  | fetch =>
    rw [stay fun q' hq => if_neg (Bool.eq_false_iff.mp hq)]
    have hsame : s.pending = s'.pending := (List.append_nil _).symm.trans hpend
    rcases fetch_cases hs with ⟨c, rest, -, -, rfl⟩ | ⟨-, -, rfl⟩
    · refine h.congr rfl rfl ?_
      rw [drained_running hn, drained_running (by exact hn), hsame]
    · refine h.congr rfl rfl ?_
      rw [drained_running hn, drained_running (by exact hn), hsame]
  | handle =>
    rw [stay fun q' hq => if_neg (Bool.eq_false_iff.mp hq)]
    obtain ⟨c, sniffing, dev, pc, hc, hd, hpc, rfl⟩ := handle_cases hs
    refine h.congr rfl rfl ?_
    have hnone : pc.command = none := by rcases hpc with rfl | rfl <;> rfl
    rw [drained_running hn, drained_running (by exact hn)]
    simp only [System.pending, hc, hnone]
    show _ = (handleCommand env c s.dev >>= handleAll env s.queue).map radioPart
    rw [hd]
    rfl
  | poll =>
    rw [stay fun q' hq => if_neg (Bool.eq_false_iff.mp hq)]
    obtain ⟨ht, dev, hd, rfl⟩ := poll_cases hs
    refine h.congr rfl rfl ?_
    rw [drained_running hn, drained_running (by exact hn)]
    simp only [System.pending, ht]
    exact (blind_handleAll env _).congr (radioPart_pollSniffer hd)
  | receive r =>
    rw [stay fun q' hq => if_neg (Bool.eq_false_iff.mp hq)]
    obtain ⟨-, rfl⟩ := receive_cases hstep
    refine h.congr rfl rfl ?_
    rw [drained_running hn, drained_running (by exact hn)]
    exact (blind_handleAll env _).congr (radioPart_radioIsrSniffer r s.dev)

/-- Every run. -/
theorem Agrees.run : ∀ (es : List Event) {s : System} {q : Option Serial}, Agrees env s q → InTurn env s es →
    s.run env es = some s' → Agrees env s' (q.bind fun q => q.run env es)
  | [], s, q, h, _, hs => by
    cases hs
    cases q <;> exact h
  | e :: es, s, q, h, ⟨hp, ht⟩, hs => by
    obtain ⟨s₁, h₁, h₂⟩ := Option.bind_eq_some_iff.mp (show (s.step env e).bind (·.run env es) = some s' from hs)
    have := Agrees.run es (h.step hp h₁) (ht s₁ h₁) h₂
    rw [Option.bind_assoc] at this
    exact this

end Agree

/-! ## Issue order -/

/-- With what is pending handled, the register writes and transmissions since boot are those of the
requests handled one at a time in the order they were issued. -/
def InOrder (env : Env) (es : List Event) (s : System) : Prop :=
  (s.drained env).toOption.map (·.esb.log) = (Serial.boot.run env es).map (·.dev.esb.log)

theorem inOrder_of_agrees {env : Env} {es : List Event} {s : System} (h : Agrees env s (Serial.boot.run env es)) :
    InOrder env es s := by
  unfold InOrder
  revert h
  cases Serial.boot.run env es with
  | none =>
    rintro ⟨f, hf⟩
    cases hs : s.drained env with
    | error f' => rfl
    | ok d => rw [hs] at hf; cases hf
  | some q =>
    rintro ⟨-, -, hd⟩
    cases hs : s.drained env with
    | error f' => rw [hs] at hd; cases hd
    | ok d =>
      rw [hs] at hd
      have hr : radioPart d = radioPart q.dev := Except.ok.inj hd
      exact congrArg some (congrArg (·.esb.log) hr)

/-- In every run whose scans and resets find nothing pending the requests reach the radio in the
order they were issued. -/
theorem inOrder_of_inTurn (env : Env) {es : List Event} {s : System} (h : System.boot.run env es = some s)
    (ht : InTurn env System.boot es) : InOrder env es s := by
  have hboot : Agrees env System.boot (some Serial.boot) := ⟨rfl, rfl, rfl⟩
  exact inOrder_of_agrees (hboot.run es ht h)

/-- A scan of channel 0 behind a handled change of the data rate. -/
theorem inOrder_scan_handled : ∃ s, System.boot.run (fun _ => .silent) [.request (hostRequest setDataRate 1) [], .fetch,
      .handle, .request (hostRequest channelScann 0) []] = some s ∧
    InOrder (fun _ => .silent) [.request (hostRequest setDataRate 1) [], .fetch, .handle,
      .request (hostRequest channelScann 0) []] s := by
  refine ⟨_, rfl, inOrder_of_inTurn _ rfl ⟨fun h => ?_, fun s₁ h₁ => ?_⟩⟩
  · exact nomatch h
  cases h₁
  refine ⟨fun h => (nomatch h), fun s₂ h₂ => ?_⟩
  cases h₂
  refine ⟨fun h => (nomatch h), fun s₃ h₃ => ?_⟩
  cases h₃
  exact ⟨fun _ => rfl, fun _ _ => trivial⟩

/-- A scan behind a data rate still in the queue runs at the old data rate. -/
theorem scan_overtakes : ¬ ∀ (env : Env) (es : List Event) (s : System), System.boot.run env es = some s →
    InOrder env es s := by
  intro h
  -- the first register write behind boot is the scan's, respectively the one of the data rate
  have hqueued : (System.boot.run (fun _ => .silent) [.request (hostRequest setDataRate 1) [],
      .request (hostRequest channelScann 0) []]).map
        (fun s => ((s.drained fun _ => .silent).toOption.map (·.esb.log)).map (·[7]?)) =
      some (some (some (.frequency 2400))) := by decide +kernel
  have hserved : ((Serial.boot.run (fun _ => .silent) [.request (hostRequest setDataRate 1) [],
      .request (hostRequest channelScann 0) []]).map (·.dev.esb.log)).map (·[7]?) =
      some (some (.mode .nrf1Mbit)) := by decide +kernel
  obtain ⟨s, hr, hs⟩ := Option.map_eq_some_iff.mp hqueued
  have hsame := (congrArg (Option.map (·[7]?)) (h _ _ s hr)).symm.trans hs
  rw [hserved] at hsame
  cases hsame

end Crazyradio.Usb
