/-
Every run of the two threads is one of `System`, in which a section is a single step: the one that gives
the lock back.
-/
import Crazyradio.Usb.Commute

namespace Crazyradio.Usb

open Moves

/-! ## The simulation -/

/-- `d` is the device as it is before the section in progress, with all that happened besides. -/
def Firmware.InSection (env : Env) (f : Firmware) (d : Device) : Prop :=
  match f.holder with
  | none => d = f.sys.dev
  | some (.scan setup data left channel tuned) => ∃ start stop bytes,
    crazyradioVendorHandler setup data d f.sys.cb = (f.sys.cb, .scan start stop bytes) ∧
    ¬(setup.toDevice = true ∧ data.length ≠ setup.wLength.toNat) ∧
    scanRest env left channel tuned f.sys.dev = fwScan env start stop bytes d
  | some (.command false) => d = f.sys.dev ∧
    ∃ c sniffing, f.sys.pc = .held c sniffing ∧ (sniffing && skipsPoll c) = false
  | some (.command true) => ∃ c, f.sys.pc = .held (.data c) false ∧
    (sendAndAnswer env f.sys.dev).toOption = dataSection env c d

/-- Which mode the loop of `usb_thread` saw at its head is still the one it is in. -/
def System.HeldMode (s : System) : Prop := ∀ c sniffing, s.pc = .held c sniffing → s.dev.state.snifferMode = sniffing

theorem heldMode_step {env : Env} {s s' : System} {e : Event} (hs : s.HeldMode) (h : s.step env e = some s') :
    s'.HeldMode := by
  have hstep := h
  unfold System.step at h
  split at h
  · cases h
  cases e with
  | out packet =>
    rcases out_cases h with ⟨-, rfl⟩ | ⟨c, -, rfl⟩
    · exact hs
    · exact hs
  | request setup data =>
    rcases request_cases h with ⟨c, -, rfl⟩ | ⟨start, stop, bytes, -, rfl⟩ | ⟨-, rfl⟩ | ⟨-, -, -, rfl⟩
    · exact hs
    · intro c sniffing hp
      exact (kept_fwScan env start stop bytes s.dev).snifferMode.trans (hs c sniffing hp)
    · exact hs
    · exact hs
  | fetch =>
    rcases fetch_cases h with ⟨c, rest, -, -, rfl⟩ | ⟨-, -, rfl⟩
    · intro c' sniffing hp
      cases hp
      rfl
    · intro c sniffing hp
      cases hp
  | handle =>
    obtain ⟨c, sniffing, dev, pc, -, -, rfl | rfl, rfl⟩ := handle_cases h
    · intro c sniffing hp
      cases hp
    · intro c sniffing hp
      cases hp
  | poll =>
    obtain ⟨-, dev, -, rfl⟩ := poll_cases h
    intro c sniffing hp
    cases hp
  | receive r =>
    obtain ⟨-, rfl⟩ := receive_cases hstep
    intro c sniffing hp
    exact (kept_radioIsrSniffer r s.dev).snifferMode.trans (hs c sniffing hp)

/-- The system stands where the firmware does, but for the section in progress. -/
structure Firmware.Stands (env : Env) (f : Firmware) (s : System) : Prop where
  heldMode : s.HeldMode
  dev : ∃ d, s = { f.sys with dev := d } ∧ f.InSection env d

/-- Between sections both are the same. -/
theorem Firmware.Stands.eq {env : Env} {f : Firmware} {s : System} (h : f.Stands env s) (hf : f.holder = none) :
    s = f.sys := by
  obtain ⟨d, rfl, hd⟩ := h.dev
  unfold Firmware.InSection at hd
  rw [hf] at hd
  rw [show d = f.sys.dev from hd]

/-! ### The other thread and the radio -/

theorem vendorHandler_scan {setup : UsbSetupPacket} {data bytes : List UInt8} {d : Device} {cb : Callback}
    {start stop : UInt8} (h : (crazyradioVendorHandler setup data d cb).2 = .scan start stop bytes) :
    crazyradioVendorHandler setup data d cb = (cb, .scan start stop bytes) := by
  unfold crazyradioVendorHandler at h ⊢
  repeat' split at h
  all_goals cases h
  simp_all

/-- Which scan a request asks for does not depend on the device. -/
theorem vendorHandler_scan_device {setup : UsbSetupPacket} {data bytes : List UInt8} {d : Device} {cb : Callback}
    {start stop : UInt8} (h : crazyradioVendorHandler setup data d cb = (cb, .scan start stop bytes)) (d' : Device) :
    crazyradioVendorHandler setup data d' cb = (cb, .scan start stop bytes) := by
  rcases vendorHandler_device setup data d d' cb with he | ⟨b, b', hb, -⟩
  · exact he.trans h
  · rw [h] at hb
    cases hb

section Other

variable {env : Env} {f : Firmware} {d dev : Device}

/-- What another thread or the radio does to the device while a section is in progress could have been
done before it. -/
theorem Firmware.InSection.move {g : Device → Option Device} (h : f.InSection env d) (hg : g f.sys.dev = some dev)
    (hscan : ∀ left channel tuned, Commutes g fun d => some (scanRest env left channel tuned d))
    (hwhole : ∀ start stop data, Commutes g fun d => some (fwScan env start stop data d))
    (hdata : ∀ c, f.sys.pc = .held (.data c) false → Commutes g (fun d => (sendAndAnswer env d).toOption) ∧
      Commutes g (dataSection env c)) :
    ∃ d', g d = some d' ∧ Firmware.InSection env { f with sys := { f.sys with dev } } d' := by
  obtain ⟨sys, holder⟩ := f
  unfold Firmware.InSection at h
  cases holder with
  | none =>
    have hd : d = sys.dev := h
    exact ⟨dev, by rw [hd]; exact hg, rfl⟩
  | some holder =>
    cases holder with
    | scan setup data left channel tuned =>
      obtain ⟨start, stop, bytes, hv, hl, hrest⟩ := h
      obtain ⟨d', hd', he⟩ := (hscan left channel tuned).before (hwhole start stop bytes) (congrArg some hrest) hg rfl
      exact ⟨d', hd', start, stop, bytes, vendorHandler_scan_device hv d', hl, Option.some.inj he⟩
    | command built =>
      cases built with
      | false =>
        obtain ⟨hd, hp⟩ := h
        exact ⟨dev, by rw [hd]; exact hg, rfl, hp⟩
      | true =>
        obtain ⟨c, hp, hrest⟩ := h
        obtain ⟨hr, hw⟩ := hdata c hp
        have hends : (sendAndAnswer env dev).toOption.isSome = true := by
          obtain ⟨b, p, hs⟩ := sendAndAnswer_spec env dev
          rw [hs]
          rfl
        obtain ⟨d', hd', he⟩ := hr.before hw hrest hg hends
        exact ⟨d', hd', c, hp, he⟩

end Other

section Steps

variable {env : Env} {f f' : Firmware} {d : Device}

/-- The system with the device as it is before the section in progress. -/
def Firmware.before (f : Firmware) (d : Device) : System := { f.sys with dev := d }

/-- A move of the firmware and what it commits. -/
def Firmware.Answers (env : Env) (f : Firmware) (m : Move) (d : Device) (f' : Firmware) : Prop :=
  ∃ d', run (System.step env) (f.before d) (f.commit m) = some (f'.before d') ∧ f'.InSection env d'

/-- A move that commits nothing. -/
theorem Firmware.Answers.nothing {m : Move} (hc : f.commit m = []) (hb : f'.before d = f.before d)
    (hd : f'.InSection env d) : f.Answers env m d f' :=
  ⟨d, by rw [hc, hb]; rfl, hd⟩

/-- A move that commits one step. -/
theorem Firmware.Answers.one {m : Move} {e : Event} (d' : Device) (hc : f.commit m = [e])
    (he : (f.before d).step env e = some (f'.before d')) (hd : f'.InSection env d') : f.Answers env m d f' := by
  refine ⟨d', ?_, hd⟩
  rw [hc]
  show ((f.before d).step env e).bind _ = _
  rw [he]
  rfl

/-- A callback that queues does not look at the device. -/
theorem put_device (s : System) (d : Device) (c : UsbCommand) :
    System.put { s with dev := d } c = (s.put c).map fun s => { s with dev := d } := by
  unfold System.put
  show (if s.queue.length < 10 then _ else _) = Option.map _ (if s.queue.length < 10 then _ else _)
  split <;> rfl

theorem out_device (s : System) (d : Device) (packet : List UInt8) :
    System.out packet { s with dev := d } = (s.out packet).map fun s => { s with dev := d } := by
  unfold System.out
  dsimp only
  split
  · rcases crazyradioOutCb packet s.cb with ⟨cb, _ | c⟩
    · rfl
    · exact put_device { s with cb } d (.data c)
  · rfl

theorem request_device {setup : UsbSetupPacket} {data : List UInt8} (s : System) (d : Device)
    (h : ∀ start stop bytes, (crazyradioVendorHandler setup data s.dev s.cb).2 ≠ .scan start stop bytes) :
    System.request env setup data { s with dev := d } =
      (s.request env setup data).map fun s => { s with dev := d } := by
  unfold System.request
  split
  · rfl
  rcases vendorHandler_device setup data s.dev d s.cb with he | ⟨b, b', hb, hb'⟩
  · dsimp only
    rw [he]
    rcases hv : crazyradioVendorHandler setup data s.dev s.cb with ⟨cb, a⟩
    rw [hv] at h
    cases a with
    | queue c => exact put_device { s with cb } d (.setup c)
    | scan start stop bytes => exact absurd rfl (h start stop bytes)
    | _ => rfl
  · dsimp only
    rw [hb, hb']
    rfl

/-- Of the device the head of the loop sees the mode. -/
theorem fetch_device (s : System) {d : Device} (h : d.state.snifferMode = s.dev.state.snifferMode) :
    System.fetch { s with dev := d } = s.fetch.map fun s => { s with dev := d } := by
  obtain ⟨dev, cb, queue, pc, halted⟩ := s
  unfold System.fetch
  cases pc with
  | top =>
    cases queue with
    | nil =>
      simp only [h]
      split <;> rfl
    | cons c rest => simp only [h, Option.map_some]
  | held c sniffing => rfl
  | poll => rfl

theorem Firmware.InSection.callback (h : f.InSection env d) (hc : f.callbackFree = true) {sys : System}
    (hdev : sys.dev = f.sys.dev) (hpc : sys.pc = f.sys.pc) : Firmware.InSection env { f with sys } d := by
  obtain ⟨sys₀, holder⟩ := f
  unfold Firmware.InSection at h ⊢
  cases holder with
  | none => exact Eq.trans h hdev.symm
  | some holder =>
    cases holder with
    | scan setup data left channel tuned => exact absurd hc Bool.false_ne_true
    | command built =>
      cases built with
      | false =>
        obtain ⟨hd, c, sniffing, hp, hk⟩ := h
        exact ⟨hd.trans hdev.symm, c, sniffing, hpc.trans hp, hk⟩
      | true =>
        obtain ⟨c, hp, hs⟩ := h
        refine ⟨c, hpc.trans hp, ?_⟩
        rw [show sys.dev = sys₀.dev from hdev]
        exact hs

theorem answers_out {packet : List UInt8} (hr : f.sys.halted = false) (hd : f.InSection env d)
    (h : f.step env (.out packet) = some f') : f.Answers env (.out packet) d f' := by
  unfold Firmware.step at h
  rw [if_neg (Bool.eq_false_iff.mp hr)] at h
  simp only at h
  split at h
  · rename_i hfree
    obtain ⟨sys, hs, rfl⟩ := Option.map_eq_some_iff.mp h
    have hk : sys.dev = f.sys.dev ∧ sys.pc = f.sys.pc := by
      rcases out_cases hs with ⟨-, rfl⟩ | ⟨c, -, rfl⟩ <;> exact ⟨rfl, rfl⟩
    refine .one d rfl ?_ (hd.callback hfree hk.1 hk.2)
    unfold System.step
    rw [if_neg (show ¬(f.before d).halted = true from Bool.eq_false_iff.mp hr)]
    exact (out_device f.sys d packet).trans (by rw [hs]; rfl)
  · cases h

/-- A request that is not a scan: the handler serves it without the lock. -/
theorem firmware_request (env : Env) {setup : UsbSetupPacket} {data : List UInt8} (f : Firmware)
    (hn : ∀ start stop bytes, (crazyradioVendorHandler setup data f.sys.dev f.sys.cb).2 ≠ .scan start stop bytes) :
    f.request env setup data = (f.sys.request env setup data).map (fun sys => { f with sys }) ∧
      f.commit (.request setup data) = [.request setup data] := by
  unfold Firmware.request Firmware.commit
  cases hv : (crazyradioVendorHandler setup data f.sys.dev f.sys.cb).2 with
  | scan start stop bytes => exact absurd hv (hn start stop bytes)
  | _ => simp only [hv, and_self]

/-- A scan takes the lock and goes to the head of its loop. -/
theorem firmware_scan {setup : UsbSetupPacket} {data bytes : List UInt8} {start stop : UInt8}
    (hv : (crazyradioVendorHandler setup data f.sys.dev f.sys.cb).2 = .scan start stop bytes)
    (h : f.request env setup data = some f') : ¬(setup.toDevice = true ∧ data.length ≠ setup.wLength.toNat) ∧
    f.holder = none ∧ f.commit (.request setup data) = [] ∧ f' = {
      sys := { f.sys with dev := scanBegin start stop bytes f.sys.dev }
      holder := some (.scan setup data (stop.toNat + 1 - start.toNat) start.toNat false) } := by
  unfold Firmware.request at h
  unfold Firmware.commit
  simp only [hv] at h ⊢
  split at h
  · cases h
  split at h
  · cases h
  · rename_i hl hh
    exact ⟨hl, Option.not_isSome_iff_eq_none.mp hh, trivial, (Option.some.inj h).symm⟩

theorem answers_request {setup : UsbSetupPacket} {data : List UInt8} (hr : f.sys.halted = false)
    (hd : f.InSection env d) (h : f.step env (.request setup data) = some f') :
    f.Answers env (.request setup data) d f' := by
  unfold Firmware.step at h
  rw [if_neg (Bool.eq_false_iff.mp hr)] at h
  simp only at h
  split at h
  · rename_i hfree
    by_cases hv : ∃ start stop bytes, (crazyradioVendorHandler setup data f.sys.dev f.sys.cb).2 = .scan start stop bytes
    · obtain ⟨start, stop, bytes, hv⟩ := hv
      obtain ⟨hl, hh, hc, rfl⟩ := firmware_scan hv h
      have hd₀ : d = f.sys.dev := by
        unfold Firmware.InSection at hd
        rw [hh] at hd
        exact hd
      refine .nothing hc rfl ⟨start, stop, bytes, ?_, hl, ?_⟩
      · rw [hd₀]
        exact vendorHandler_scan hv
      · rw [hd₀]
        exact scanRest_begin env start stop bytes f.sys.dev
    · have hn : ∀ start stop bytes,
          (crazyradioVendorHandler setup data f.sys.dev f.sys.cb).2 ≠ .scan start stop bytes :=
        fun start stop bytes he => hv ⟨start, stop, bytes, he⟩
      obtain ⟨hreq, hc⟩ := firmware_request env f hn
      rw [hreq] at h
      obtain ⟨sys, hs, rfl⟩ := Option.map_eq_some_iff.mp h
      have hk : sys.dev = f.sys.dev ∧ sys.pc = f.sys.pc := by
        rcases request_cases hs with ⟨c, -, rfl⟩ | ⟨start, stop, bytes, he, -⟩ | ⟨-, rfl⟩ | ⟨-, -, -, rfl⟩
        · exact ⟨rfl, rfl⟩
        · exact absurd he (hn start stop bytes)
        · exact ⟨rfl, rfl⟩
        · exact ⟨rfl, rfl⟩
      refine .one d hc ?_ (hd.callback hfree hk.1 hk.2)
      unfold System.step
      rw [if_neg (show ¬(f.before d).halted = true from Bool.eq_false_iff.mp hr)]
      exact (request_device f.sys d hn).trans (by rw [hs]; rfl)
  · cases h

theorem answers_tune (hr : f.sys.halted = false) (hd : f.InSection env d) (h : f.step env .tune = some f') :
    f.Answers env .tune d f' := by
  obtain ⟨sys, holder⟩ := f
  unfold Firmware.step at h
  rw [if_neg (Bool.eq_false_iff.mp hr)] at h
  simp only at h
  split at h
  · rename_i setup data left channel
    cases h
    obtain ⟨start, stop, bytes, hv, hl, hrest⟩ := hd
    refine .nothing rfl rfl ⟨start, stop, bytes, hv, hl, ?_⟩
    rw [← hrest]
    exact (fwScanLoop_probe env left channel sys.dev).symm
  · cases h

theorem answers_probe (hr : f.sys.halted = false) (hd : f.InSection env d) (h : f.step env .probe = some f') :
    f.Answers env .probe d f' := by
  obtain ⟨sys, holder⟩ := f
  unfold Firmware.step at h
  rw [if_neg (Bool.eq_false_iff.mp hr)] at h
  simp only at h
  split at h
  · cases h
    obtain ⟨start, stop, bytes, hv, hl, hrest⟩ := hd
    exact .nothing rfl rfl ⟨start, stop, bytes, hv, hl, hrest⟩
  · cases h

theorem answers_endScan (hr : f.sys.halted = false) (hd : f.InSection env d) (h : f.step env .endScan = some f') :
    f.Answers env .endScan d f' := by
  obtain ⟨sys, holder⟩ := f
  unfold Firmware.step at h
  rw [if_neg (Bool.eq_false_iff.mp hr)] at h
  simp only at h
  split at h
  · rename_i setup data channel
    cases h
    obtain ⟨start, stop, bytes, hv, hl, hrest⟩ := hd
    have hdev : sys.dev = fwScan env start stop bytes d := hrest
    refine .one sys.dev rfl ?_ rfl
    have hreq : System.request env setup data { sys with dev := d } =
        some { sys with dev := fwScan env start stop bytes d } := by
      unfold System.request
      rw [if_neg hl]
      dsimp only
      rw [hv]
    unfold System.step
    rw [if_neg (show ¬(Firmware.before _ d).halted = true from Bool.eq_false_iff.mp hr)]
    exact hreq.trans (by rw [← hdev]; rfl)
  · cases h

/-- At the head of its loop and at its poll `usb_thread` is in no section. -/
theorem Firmware.InSection.not_command (h : f.InSection env d) (hp : ∀ c sniffing, f.sys.pc ≠ .held c sniffing)
    (built : Bool) : f.holder ≠ some (.command built) := by
  obtain ⟨sys, holder⟩ := f
  rintro rfl
  cases built with
  | false =>
    obtain ⟨-, c, sniffing, hc, -⟩ := h
    exact hp c sniffing hc
  | true =>
    obtain ⟨c, hc, -⟩ := h
    exact hp _ _ hc

/-- Outside the sections of `usb_thread` it does not matter where `usb_thread` stands. -/
theorem Firmware.InSection.pc (h : f.InSection env d) (hp : ∀ built, f.holder ≠ some (.command built))
    (sys : System) (hdev : sys.dev = f.sys.dev) (hcb : sys.cb = f.sys.cb) :
    Firmware.InSection env { f with sys } d := by
  obtain ⟨sys₀, holder⟩ := f
  unfold Firmware.InSection at h ⊢
  cases holder with
  | none => exact Eq.trans h hdev.symm
  | some holder =>
    cases holder with
    | scan setup data left channel tuned =>
      obtain ⟨start, stop, bytes, hv, hl, hrest⟩ := h
      refine ⟨start, stop, bytes, ?_, hl, ?_⟩
      · rw [show sys.cb = sys₀.cb from hcb]
        exact hv
      · rw [show sys.dev = sys₀.dev from hdev]
        exact hrest
    | command built => exact absurd rfl (hp built)

theorem kept_scanRest (env : Env) (left channel : Nat) (tuned : Bool) (d : Device) :
    Kept d (scanRest env left channel tuned d) := by
  cases tuned with
  | false => exact kept_fwScanLoop env left channel d
  | true =>
    refine Kept.trans ?_ (kept_fwScanLoop env _ _ _)
    have hs := kept_scanSend env d
    unfold scanProbe
    rcases h : scanSend env d with ⟨acked, d'⟩
    rw [h] at hs
    cases acked with
    | true => exact hs.trans ⟨rfl, rfl, rfl, rfl, rfl, rfl, rfl, rfl, rfl, rfl⟩
    | false => exact hs

/-- The mode is that of the device before the section. -/
theorem Firmware.InSection.mode (h : f.InSection env d) (hn : ∀ built, f.holder ≠ some (.command built)) :
    d.state.snifferMode = f.sys.dev.state.snifferMode := by
  obtain ⟨sys, holder⟩ := f
  unfold Firmware.InSection at h
  cases holder with
  | none => rw [show d = sys.dev from h]
  | some holder =>
    cases holder with
    | scan setup data left channel tuned =>
      obtain ⟨start, stop, bytes, -, -, hrest⟩ := h
      have hd := (kept_fwScan env start stop bytes d).snifferMode
      rw [← hrest] at hd
      exact hd.symm.trans (kept_scanRest env left channel tuned sys.dev).snifferMode
    | command built => exact absurd rfl (hn built)

theorem answers_fetch (hr : f.sys.halted = false) (hd : f.InSection env d) (h : f.step env .fetch = some f') :
    f.Answers env .fetch d f' := by
  unfold Firmware.step at h
  rw [if_neg (Bool.eq_false_iff.mp hr)] at h
  simp only at h
  obtain ⟨sys, hs, rfl⟩ := Option.map_eq_some_iff.mp h
  have htop : ∀ c sniffing, f.sys.pc ≠ .held c sniffing := by
    intro c sniffing hp
    rcases fetch_cases hs with ⟨c, rest, ht, -, -⟩ | ⟨ht, -, -⟩
    · rw [hp] at ht; cases ht
    · rw [hp] at ht; cases ht
  have hn := hd.not_command htop
  have hk : sys.dev = f.sys.dev ∧ sys.cb = f.sys.cb := by
    rcases fetch_cases hs with ⟨c, rest, -, -, rfl⟩ | ⟨-, -, rfl⟩ <;> exact ⟨rfl, rfl⟩
  refine .one d rfl ?_ (hd.pc hn _ hk.1 hk.2)
  unfold System.step
  rw [if_neg (show ¬(f.before d).halted = true from Bool.eq_false_iff.mp hr)]
  exact (fetch_device f.sys (hd.mode hn)).trans (by rw [hs]; rfl)

theorem answers_skip (hr : f.sys.halted = false) (hd : f.InSection env d) (hm : (f.before d).HeldMode)
    (h : f.step env .skip = some f') : f.Answers env .skip d f' := by
  obtain ⟨sys, holder⟩ := f
  unfold Firmware.step at h
  rw [if_neg (Bool.eq_false_iff.mp hr)] at h
  simp only at h
  split at h
  · rename_i c hp
    split at h
    · rename_i hskip
      cases h
      have hn : ∀ built, holder ≠ some (.command built) := by
        intro built he
        subst he
        cases built with
        | false =>
          obtain ⟨-, c', sniffing, hp', hk⟩ := hd
          cases hp.symm.trans hp'
          rw [hskip] at hk
          cases hk
        | true =>
          obtain ⟨c', hp', -⟩ := hd
          cases hp.symm.trans hp'
      refine .one d rfl ?_ (hd.pc hn _ rfl rfl)
      cases c with
      | setup s => cases hskip
      | data c =>
        have hlen : c.length < 6 := of_decide_eq_true hskip
        have hmode : d.state.snifferMode = true := hm _ _ hp
        have hh : handleCommand env (.data c) d = .ok d := by
          show (if d.state.snifferMode then snifferData c d else _) = _
          rw [if_pos hmode]
          exact if_pos hlen
        unfold System.step
        rw [if_neg (show ¬(Firmware.before _ d).halted = true from Bool.eq_false_iff.mp hr)]
        dsimp only [System.handle, Firmware.before]
        rw [hp]
        simp only [hh, hskip]
        rfl
    · cases h
  · cases h

theorem answers_lock (hr : f.sys.halted = false) (hd : f.InSection env d) (h : f.step env .lock = some f') :
    f.Answers env .lock d f' := by
  obtain ⟨sys, holder⟩ := f
  unfold Firmware.step at h
  rw [if_neg (Bool.eq_false_iff.mp hr)] at h
  simp only at h
  split at h
  · rename_i c sniffing hp
    split at h
    · cases h
    · rename_i hk
      cases h
      exact .nothing rfl rfl ⟨hd, c, sniffing, hp, Bool.eq_false_iff.mpr hk⟩
  · cases h

theorem answers_build (hr : f.sys.halted = false) (hd : f.InSection env d) (h : f.step env .build = some f') :
    f.Answers env .build d f' := by
  obtain ⟨sys, holder⟩ := f
  unfold Firmware.step at h
  rw [if_neg (Bool.eq_false_iff.mp hr)] at h
  simp only at h
  split at h
  · rename_i c hp
    split at h
    · rename_i dev hb
      cases h
      obtain ⟨rfl, -⟩ := hd
      refine .nothing rfl rfl ⟨c, hp, ?_⟩
      unfold dataSection
      rw [hb]
      rfl
    · cases h
  · cases h

/-- The command taken, handled where the section ends. -/
theorem handle_device {s : System} {c : UsbCommand} {sniffing : Bool} {d dev : Device} (hr : s.halted = false)
    (hp : s.pc = .held c sniffing) (hc : handleCommand env c d = .ok dev) :
    System.step env { s with dev := d } .handle =
      some { s with dev, pc := if sniffing && !skipsPoll c then .poll else .top } := by
  unfold System.step System.handle
  rw [if_neg (Bool.eq_false_iff.mp hr)]
  simp only [hp, hc]

theorem answers_finish (hr : f.sys.halted = false) (hd : f.InSection env d) (hm : (f.before d).HeldMode)
    (h : f.step env .finish = some f') : f.Answers env .finish d f' := by
  obtain ⟨sys, holder⟩ := f
  unfold Firmware.step at h
  rw [if_neg (Bool.eq_false_iff.mp hr)] at h
  simp only at h
  split at h
  · rename_i built
    unfold Firmware.finish at h
    simp only at h
    split at h
    · rename_i s sniffing hp
      cases h
      obtain ⟨rfl, -⟩ := hd
      exact .one _ rfl (handle_device hr hp rfl) rfl
    · rename_i c hp
      obtain ⟨rfl, -⟩ := hd
      split at h
      · rename_i dev hs
        cases h
        refine .one _ rfl (handle_device hr hp ?_) rfl
        have hmode : sys.dev.state.snifferMode = true := hm _ _ hp
        exact (if_pos hmode).trans hs
      · cases h
    · rename_i c hp
      obtain ⟨c', hp', hrest⟩ := hd
      cases hp.symm.trans hp'
      split at h
      · rename_i dev hs
        cases h
        refine .one _ rfl (handle_device hr hp ?_) rfl
        have hsec : dataSection env c d = some dev := by
          rw [← hrest, show sendAndAnswer env sys.dev = .ok dev from hs]
          rfl
        have hmode : d.state.snifferMode = false := hm _ _ hp
        rw [handleCommand_noSniffer env c hmode]
        unfold dataSection at hsec
        rw [← toOption_bind] at hsec
        cases hh : buildPacket env c d >>= sendAndAnswer env with
        | error e => rw [hh] at hsec; cases hsec
        | ok d' => rw [hh] at hsec; cases hsec; rfl
      · cases h
    · cases h
  · cases h

theorem pollStep_eq {d' : Device} (h : pollStep d = some d') : pollSniffer d = .ok d' := by
  unfold pollStep at h
  cases hp : pollSniffer d with
  | error e => rw [hp] at h; cases h
  | ok d₁ => rw [hp] at h; cases h; rfl

theorem answers_poll (hr : f.sys.halted = false) (hd : f.InSection env d) (h : f.step env .poll = some f') :
    f.Answers env .poll d f' := by
  unfold Firmware.step at h
  rw [if_neg (Bool.eq_false_iff.mp hr)] at h
  simp only at h
  obtain ⟨sys, hs, rfl⟩ := Option.map_eq_some_iff.mp h
  obtain ⟨hp, dev, hpoll, rfl⟩ := poll_cases hs
  have htop : ∀ c sniffing, f.sys.pc ≠ .held c sniffing := by
    intro c sniffing hc
    rw [hp] at hc
    cases hc
  have hn := hd.not_command htop
  obtain ⟨d', hd', hin⟩ := hd.move (g := pollStep) (by unfold pollStep; rw [hpoll]; rfl) (poll_scanRest env)
    (poll_fwScan env) fun c hc => absurd hc (htop _ _)
  refine .one _ rfl ?_ (hin.pc hn { f.sys with dev, pc := .top } rfl rfl)
  unfold System.step System.poll
  rw [if_neg (show ¬(f.before d).halted = true from Bool.eq_false_iff.mp hr)]
  dsimp only [Firmware.before]
  rw [hp, pollStep_eq hd']

theorem answers_receive {r : Reception} (hr : f.sys.halted = false) (hd : f.InSection env d)
    (h : f.step env (.receive r) = some f') : f.Answers env (.receive r) d f' := by
  unfold Firmware.step at h
  rw [if_neg (Bool.eq_false_iff.mp hr)] at h
  simp only at h
  split at h
  · rename_i ha
    cases h
    obtain ⟨d', hd', hin⟩ := hd.move (g := receiveStep r) (by unfold receiveStep; rw [if_pos ha])
      (receive_scanRest env r)
      (receive_fwScan env r) fun c _ => ⟨receive_sendAndAnswer env r, receive_dataSection env r c⟩
    refine .one _ rfl ?_ hin
    unfold receiveStep at hd'
    split at hd'
    · rename_i ha'
      cases hd'
      unfold System.step
      rw [if_neg (show ¬(f.before d).halted = true from Bool.eq_false_iff.mp hr)]
      exact if_pos ha'
    · cases hd'
  · cases h

/-- Every move of the firmware is answered by what it commits. -/
theorem firmware_simulation (env : Env) :
    Simulation (Firmware.step env) Firmware.commit (System.step env) (Firmware.Stands env) where
  simulates := by
    rintro f f' t m ⟨hm, d, rfl, hd⟩ h
    have hr : f.sys.halted = false := by
      cases hh : f.sys.halted with
      | false => rfl
      | true =>
        unfold Firmware.step at h
        rw [if_pos hh] at h
        cases h
    have hanswers : f.Answers env m d f' := by
      cases m with
      | out packet => exact answers_out hr hd h
      | request setup data => exact answers_request hr hd h
      | tune => exact answers_tune hr hd h
      | probe => exact answers_probe hr hd h
      | endScan => exact answers_endScan hr hd h
      | fetch => exact answers_fetch hr hd h
      | skip => exact answers_skip hr hd hm h
      | lock => exact answers_lock hr hd h
      | build => exact answers_build hr hd h
      | finish => exact answers_finish hr hd hm h
      | poll => exact answers_poll hr hd h
      | receive r => exact answers_receive hr hd h
    obtain ⟨d', hrun, hd'⟩ := hanswers
    exact ⟨f'.before d', hrun, run_invariant heldMode_step _ hm hrun, d', rfl, hd'⟩

end Steps

/-! ## Atomicity -/

theorem system_run_eq (env : Env) : ∀ (es : List Event) (s : System), s.run env es = run (System.step env) s es
  | [], _ => rfl
  | e :: es, s => by
    show (s.step env e).bind (fun s' => s'.run env es) = (s.step env e).bind fun s' => run (System.step env) s' es
    simp only [system_run_eq env es]

/-- What the moves of a run commit, in order. -/
def committed (env : Env) (ms : List Move) : List Event := commits (Firmware.step env) Firmware.commit Firmware.boot ms

theorem stands_boot (env : Env) : Firmware.boot.Stands env System.boot :=
  ⟨fun c sniffing h => (nomatch (h : Pc.top = .held c sniffing)), _, rfl, rfl⟩

/-- Who takes a step. -/
inductive Actor
  | callback
  | usbThread
  | radio
  deriving DecidableEq

def Event.actor : Event → Actor
  | .out _ | .request .. => .callback
  | .fetch | .handle | .poll => .usbThread
  | .receive _ => .radio

/-- The step of `System` a move belongs to, where it begins one. -/
def Move.event : Move → Option Event
  | .out packet => some (.out packet)
  | .request setup data => some (.request setup data)
  | .fetch => some .fetch
  | .skip | .finish => some .handle
  | .poll => some .poll
  | .receive r => some (.receive r)
  | .tune | .probe | .endScan | .lock | .build => none

/-- The events of one actor. -/
def Event.of? (a : Actor) (e : Event) : Option Event := if e.actor = a then some e else none

/-- The request whose scan is in progress. -/
def Firmware.scanning (f : Firmware) : List Event :=
  match f.holder with
  | some (.scan setup data ..) => [.request setup data]
  | _ => []

theorem scanning_command {f : Firmware} (h : ∀ setup data left channel tuned,
    f.holder ≠ some (.scan setup data left channel tuned)) : f.scanning = [] := by
  unfold Firmware.scanning
  split
  · rename_i hh
    exact absurd hh (h _ _ _ _ _)
  · rfl

theorem scanning_callbackFree {f : Firmware} (h : f.callbackFree = true) : f.scanning = [] := by
  refine scanning_command fun setup data left channel tuned hh => ?_
  unfold Firmware.callbackFree at h
  rw [hh] at h
  exact absurd h Bool.false_ne_true

/-- A scan is taken in where it takes the lock and committed where it gives it back; every other step is
committed at once. -/
theorem commit_cases {env : Env} {f f' : Firmware} {m : Move} (h : f.step env m = some f') :
    (f'.scanning = f.scanning ∧ f.commit m = m.event.toList ∧
      (f.scanning = [] ∨ ∀ e ∈ m.event, e.actor ≠ .callback)) ∨
    (f.scanning = [] ∧ f.commit m = [] ∧ f'.scanning = m.event.toList) ∨
    (m.event = none ∧ f.commit m = f.scanning ∧ f'.scanning = []) := by
  have hr : ¬f.sys.halted = true := by
    intro hh
    unfold Firmware.step at h
    rw [if_pos hh] at h
    cases h
  unfold Firmware.step at h
  rw [if_neg hr] at h
  cases m with
  | out packet =>
    simp only at h
    split at h
    · rename_i hfree
      obtain ⟨sys, -, rfl⟩ := Option.map_eq_some_iff.mp h
      exact .inl ⟨rfl, rfl, .inl (scanning_callbackFree hfree)⟩
    · cases h
  | request setup data =>
    simp only at h
    split at h
    · rename_i hfree
      by_cases hv : ∃ start stop bytes,
          (crazyradioVendorHandler setup data f.sys.dev f.sys.cb).2 = .scan start stop bytes
      · obtain ⟨start, stop, bytes, hv⟩ := hv
        obtain ⟨-, -, hc, rfl⟩ := firmware_scan hv h
        exact .inr (.inl ⟨scanning_callbackFree hfree, hc, rfl⟩)
      · obtain ⟨hreq, hc⟩ := firmware_request env f fun start stop bytes he => hv ⟨start, stop, bytes, he⟩
        rw [hreq] at h
        obtain ⟨sys, -, rfl⟩ := Option.map_eq_some_iff.mp h
        exact .inl ⟨rfl, hc, .inl (scanning_callbackFree hfree)⟩
    · cases h
  | tune =>
    simp only at h
    split at h
    · rename_i hh
      cases h
      refine .inl ⟨?_, rfl, .inr (by simp [Move.event])⟩
      unfold Firmware.scanning
      rw [hh]
    · cases h
  | probe =>
    simp only at h
    split at h
    · rename_i hh
      cases h
      refine .inl ⟨?_, rfl, .inr (by simp [Move.event])⟩
      unfold Firmware.scanning
      rw [hh]
    · cases h
  | endScan =>
    simp only at h
    split at h
    · rename_i hh
      cases h
      refine .inr (.inr ⟨rfl, ?_, rfl⟩)
      unfold Firmware.commit Firmware.scanning
      rw [hh]
    · cases h
  | fetch =>
    obtain ⟨sys, -, rfl⟩ := Option.map_eq_some_iff.mp h
    exact .inl ⟨rfl, rfl, .inr (by simp [Move.event, Event.actor])⟩
  | skip =>
    simp only at h
    split at h
    · split at h
      · cases h
        exact .inl ⟨rfl, rfl, .inr (by simp [Move.event, Event.actor])⟩
      · cases h
    · cases h
  | lock =>
    simp only at h
    split at h
    · rename_i hh _
      split at h
      · cases h
      · cases h
        refine .inl ⟨?_, rfl, .inr (by simp [Move.event])⟩
        unfold Firmware.scanning
        rw [hh]
    · cases h
  | build =>
    simp only at h
    split at h
    · rename_i hh _
      split at h
      · cases h
        refine .inl ⟨?_, rfl, .inr (by simp [Move.event])⟩
        unfold Firmware.scanning
        rw [hh]
      · cases h
    · cases h
  | finish =>
    simp only at h
    split at h
    · rename_i built hh
      have hs : f.scanning = [] := by
        unfold Firmware.scanning
        rw [hh]
      have hf : f'.holder = none := by
        unfold Firmware.finish at h
        simp only at h
        repeat' split at h
        all_goals cases h
        all_goals rfl
      refine .inl ⟨?_, rfl, .inl hs⟩
      rw [hs]
      unfold Firmware.scanning
      rw [hf]
    · cases h
  | poll =>
    obtain ⟨sys, -, rfl⟩ := Option.map_eq_some_iff.mp h
    exact .inl ⟨rfl, rfl, .inr (by simp [Move.event, Event.actor])⟩
  | receive r =>
    simp only at h
    split at h
    · cases h
      exact .inl ⟨rfl, rfl, .inr (by simp [Move.event, Event.actor])⟩
    · cases h

theorem scanning_actor {f : Firmware} {a : Actor} (ha : a ≠ .callback) : f.scanning.filterMap (Event.of? a) = [] := by
  unfold Firmware.scanning
  split
  · show List.filterMap (Event.of? a) [_] = []
    simp [Event.of?, Event.actor, ha.symm]
  · rfl

/-- Of every actor the steps are committed in the order it takes them. -/
theorem commit_ledger (a : Actor) {env : Env} {f f' : Firmware} {m : Move} (h : f.step env m = some f') :
    (f.commit m).filterMap (Event.of? a) ++ f'.scanning.filterMap (Event.of? a) =
      f.scanning.filterMap (Event.of? a) ++ (m.event.bind (Event.of? a)).toList := by
  have hone : m.event.toList.filterMap (Event.of? a) = (m.event.bind (Event.of? a)).toList := by
    cases m.event with
    | none => rfl
    | some e => cases he : Event.of? a e <;> simp [he]
  rcases commit_cases h with ⟨hs, hc, hrest⟩ | ⟨hs, hc, hs'⟩ | ⟨he, hc, hs'⟩
  · rw [hs, hc, hone]
    rcases hrest with hs₀ | hactor
    · rw [hs₀]
      simp
    · by_cases ha : a = .callback
      · have hn : m.event.bind (Event.of? a) = none := by
          cases hm : m.event with
          | none => rfl
          | some e =>
            show Event.of? a e = none
            exact if_neg (by rw [ha]; exact hactor e hm)
        rw [hn]
        simp
      · rw [scanning_actor ha]
        simp
  · rw [hs, hc, hs', hone]
  · rw [he, hc, hs']
    rfl

/-- However the two threads are preempted, and whatever is received meanwhile: between sections the firmware
stands where the system stands that takes every section in one step, at its end, and each thread, and the
radio, takes its steps there in the order in which it took them. -/
theorem sections_atomic (env : Env) {ms : List Move} {f : Firmware}
    (h : run (Firmware.step env) Firmware.boot ms = some f) (hf : f.holder = none) :
    System.boot.run env (committed env ms) = some f.sys ∧
      ∀ a, (committed env ms).filterMap (Event.of? a) = (ms.filterMap Move.event).filterMap (Event.of? a) := by
  constructor
  · obtain ⟨s, hs, hstands⟩ := (firmware_simulation env).run ms (stands_boot env) h
    rw [system_run_eq, ← hstands.eq hf]
    exact hs
  · intro a
    have hl := commits_ledger (k := fun f => f.scanning.filterMap (Event.of? a))
      (fun _ _ _ hstep => commit_ledger a hstep) ms h
    have hend : f.scanning = [] := by
      unfold Firmware.scanning
      rw [hf]
    rw [hend, List.filterMap_nil, List.append_nil] at hl
    rw [List.filterMap_filterMap]
    exact hl

/-- The request for a scan. -/
def scanRequest (start stop : UInt16) : UsbSetupPacket :=
  { bmRequestType := 0x40, bRequest := channelScann, wValue := start, wIndex := stop, wLength := 0 }

/-- The queue is read while a scan is in progress; the command waits for the lock. -/
theorem sections_atomic_scan : ∃ f, run (Firmware.step fun _ => .silent) Firmware.boot
    [.request (hostRequest setRadioArc 0) [], .request (scanRequest 5 5) [], .fetch, .tune, .probe, .endScan, .lock,
      .finish] = some f ∧ f.holder = none ∧ System.boot.run (fun _ => .silent) (committed (fun _ => .silent)
    [.request (hostRequest setRadioArc 0) [], .request (scanRequest 5 5) [], .fetch, .tune, .probe, .endScan, .lock,
      .finish]) = some f.sys :=
  ⟨_, rfl, rfl, (sections_atomic _ rfl rfl).1⟩

end Crazyradio.Usb
