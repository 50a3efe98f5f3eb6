/-
The two threads cannot block each other for good: as long as there is a command to handle or a scan to
end, some move of theirs takes the work further, and no order of their moves can put it off, unless the
command being handled is one whose copies run out of bounds.
-/
import Crazyradio.Usb.Sections

namespace Crazyradio.Usb

open Moves

/-! ## The work in hand -/

/-- The moves of the two threads; the others are the host's and the radio's. -/
def Move.own : Move → Bool
  | .out _ | .request .. | .receive _ => false
  | _ => true

/-- The moves that are not the loop of `usb_thread` itself, which fetches and polls whether there is
anything to do or not. -/
def Move.works : Move → Bool
  | .tune | .probe | .endScan | .skip | .lock | .build | .finish => true
  | _ => false

theorem own_of_works {m : Move} (h : m.works = true) : m.own = true := by cases m <;> first | rfl | cases h

/-- The moves left in the scan in progress: two for a channel, and its end. -/
def Firmware.scanWork (f : Firmware) : Nat :=
  match f.holder with
  | some (.scan _ _ left _ tuned) => 2 * left + (!tuned).toNat
  | _ => 0

/-- The moves left for a command taken: `lock`, `build` and `finish` at most. -/
def Pc.work : Pc → Nat
  | .held .. => 3
  | .top | .poll => 0

def Firmware.commandWork (f : Firmware) : Nat :=
  match f.holder with
  | some (.command built) => if built then 1 else 2
  | _ => f.sys.pc.work

def Firmware.work (f : Firmware) : Nat := f.scanWork + f.commandWork + 3 * f.sys.queue.length

/-- What the threads keep, whatever the host does: a scan has at most 256 channels, the queue at most 10
commands, and the lock of `usb_thread` goes with a command. -/
structure Firmware.Sound (f : Firmware) : Prop where
  scan : ∀ setup data left channel tuned, f.holder = some (.scan setup data left channel tuned) →
    left ≤ 256 ∧ (tuned = true → 0 < left)
  queue : f.sys.queue.length ≤ 10
  command : ∀ built, f.holder = some (.command built) → ∃ c sniffing, f.sys.pc = .held c sniffing ∧
    (sniffing && skipsPoll c) = false ∧ (built = true → ∃ data, c = .data data ∧ sniffing = false)

theorem sound_boot : Firmware.boot.Sound where
  scan _ _ _ _ _ h := nomatch (h : Firmware.boot.holder = _)
  queue := Nat.zero_le _
  command _ h := nomatch (h : Firmware.boot.holder = _)

theorem put_queue {s s' : System} {c : UsbCommand} (h : s.put c = some s') : s'.queue.length ≤ 10 := by
  unfold System.put at h
  split at h
  · cases h
    rw [List.length_append, List.length_singleton]
    omega
  · cases h

theorem out_queue {s s' : System} {packet : List UInt8} (hs : s.queue.length ≤ 10) (h : s.out packet = some s') :
    s'.queue.length ≤ 10 := by
  unfold System.out at h
  split at h
  · split at h
    · exact put_queue h
    · cases h
      exact hs
  · cases h

theorem request_queue {env : Env} {s s' : System} {setup : UsbSetupPacket} {data : List UInt8}
    (hs : s.queue.length ≤ 10) (h : s.request env setup data = some s') : s'.queue.length ≤ 10 := by
  unfold System.request at h
  split at h
  · cases h
  · split at h
    · exact put_queue h
    · cases h
      exact hs
    · cases h
      exact hs
    · cases h
      exact hs

/-! ## The moves of the threads -/

/-- What each move finds and what it leaves. -/
inductive Firmware.Moved (env : Env) (f : Firmware) : Move → Firmware → Prop
  | tune {setup data left channel} (h : f.holder = some (.scan setup data (left + 1) channel false)) :
    Moved env f .tune {
      sys := { f.sys with dev := f.sys.dev.scanTuned channel }
      holder := some (.scan setup data (left + 1) channel true) }
  | probe {setup data left channel} (h : f.holder = some (.scan setup data (left + 1) channel true)) :
    Moved env f .probe {
      sys := { f.sys with dev := (scanProbe env left channel f.sys.dev).1 }
      holder := some (.scan setup data (scanProbe env left channel f.sys.dev).2 (channel + 1) false) }
  | endScan {setup data channel} (h : f.holder = some (.scan setup data 0 channel false)) :
    Moved env f .endScan { f with holder := none }
  | fetch {sys} (h : f.sys.fetch = some sys) : Moved env f .fetch { f with sys }
  | skip {c} (h : f.sys.pc = .held c true) (hs : skipsPoll c = true) :
    Moved env f .skip { f with sys := { f.sys with pc := .top } }
  | lock {c sniffing} (hh : f.holder = none) (hp : f.sys.pc = .held c sniffing)
      (hs : (sniffing && skipsPoll c) = false) : Moved env f .lock { f with holder := some (.command false) }
  | build {c dev} (hh : f.holder = some (.command false)) (hp : f.sys.pc = .held (.data c) false)
      (hb : buildPacket env c f.sys.dev = .ok dev) :
    Moved env f .build { sys := { f.sys with dev }, holder := some (.command true) }
  | finish {built dev pc} (hh : f.holder = some (.command built)) (hp : pc = .top ∨ pc = .poll ∧ built = false) :
    Moved env f .finish { sys := { f.sys with dev, pc }, holder := none }
  | poll {sys} (h : f.sys.poll = some sys) : Moved env f .poll { f with sys }

theorem step_running {env : Env} {f f' : Firmware} {m : Move} (h : f.step env m = some f') :
    f.sys.halted = false := by
  unfold Firmware.step at h
  split at h
  · cases h
  · rename_i hr
    exact Bool.eq_false_iff.mpr hr

theorem finish_holder {env : Env} {f f' : Firmware} {built : Bool} (h : f.finish env built = some f') :
    ∃ dev pc, (pc = .top ∨ pc = .poll ∧ built = false) ∧
      f' = { sys := { f.sys with dev, pc }, holder := none } := by
  have hpc : ∀ b : Bool,
      (if b then Pc.poll else Pc.top) = .top ∨ (if b then Pc.poll else Pc.top) = .poll ∧ false = false := by
    intro b
    cases b
    · exact .inl rfl
    · exact .inr ⟨rfl, rfl⟩
  unfold Firmware.finish at h
  simp only at h
  split at h
  · exact ⟨_, _, hpc _, (Option.some.inj h).symm⟩
  · split at h
    · exact ⟨_, _, hpc _, (Option.some.inj h).symm⟩
    · cases h
  · split at h
    · exact ⟨_, _, .inl rfl, (Option.some.inj h).symm⟩
    · cases h
  · cases h

theorem step_moved {env : Env} {f f' : Firmware} {m : Move} (hm : m.own = true) (h : f.step env m = some f') :
    f.Moved env m f' := by
  have hr := step_running h
  unfold Firmware.step at h
  rw [if_neg (Bool.eq_false_iff.mp hr)] at h
  cases m with
  | out packet => cases hm
  | request setup data => cases hm
  | receive r => cases hm
  | tune =>
    simp only at h
    split at h
    · rename_i hh
      cases h
      exact .tune hh
    · cases h
  | probe =>
    simp only at h
    split at h
    · rename_i hh
      cases h
      exact .probe hh
    · cases h
  | endScan =>
    simp only at h
    split at h
    · rename_i hh
      cases h
      exact .endScan hh
    · cases h
  | fetch =>
    obtain ⟨sys, hs, rfl⟩ := Option.map_eq_some_iff.mp h
    exact .fetch hs
  | skip =>
    simp only at h
    split at h
    · rename_i hp
      split at h
      · rename_i hs
        cases h
        exact .skip hp hs
      · cases h
    · cases h
  | lock =>
    simp only at h
    split at h
    · rename_i hh hp
      split at h
      · cases h
      · rename_i hs
        cases h
        exact .lock hh hp (Bool.eq_false_iff.mpr hs)
    · cases h
  | build =>
    simp only at h
    split at h
    · rename_i hh hp
      split at h
      · rename_i hb
        cases h
        exact .build hh hp hb
      · cases h
    · cases h
  | finish =>
    simp only at h
    split at h
    · rename_i hh
      obtain ⟨dev, pc, hp, rfl⟩ := finish_holder h
      exact .finish hh hp
    · cases h
  | poll =>
    obtain ⟨sys, hs, rfl⟩ := Option.map_eq_some_iff.mp h
    exact .poll hs

/-! ## What the moves keep -/

/-- A callback that leaves the queue within its bound. -/
theorem Firmware.Sound.callback {f : Firmware} (hf : f.Sound) {sys : System} (hp : sys.pc = f.sys.pc)
    (hq : sys.queue.length ≤ 10) : Firmware.Sound { f with sys } where
  scan := hf.scan
  queue := hq
  command built hh := by
    obtain ⟨c, sniffing, hc, hrest⟩ := hf.command built hh
    exact ⟨c, sniffing, hp.trans hc, hrest⟩

/-- A step of `usb_thread` outside its section. -/
theorem Firmware.Sound.thread {f : Firmware} (hf : f.Sound) {sys : System}
    (hn : ∀ built, f.holder ≠ some (.command built))
    (hq : sys.queue.length ≤ 10) : Firmware.Sound { f with sys } where
  scan := hf.scan
  queue := hq
  command built hh := absurd hh (hn built)

/-- At the head of its loop and at the poll `usb_thread` does not hold the lock. -/
theorem Firmware.Sound.unlocked {f : Firmware} (hf : f.Sound) (hp : ∀ c sniffing, f.sys.pc ≠ .held c sniffing) :
    ∀ built, f.holder ≠ some (.command built) := by
  intro built hh
  obtain ⟨c, sniffing, hc, -⟩ := hf.command built hh
  exact hp c sniffing hc

/-- A command that is skipped was not waiting for the radio. -/
theorem Firmware.Sound.skipped {f : Firmware} (hf : f.Sound) {c : UsbCommand} (hp : f.sys.pc = .held c true)
    (hs : skipsPoll c = true) : ∀ built, f.holder ≠ some (.command built) := by
  intro built hh
  obtain ⟨c', sniffing, hc, hk, -⟩ := hf.command built hh
  cases hp.symm.trans hc
  rw [hs] at hk
  cases hk

theorem sound_request {env : Env} {f f' : Firmware} {setup : UsbSetupPacket} {data : List UInt8} (hf : f.Sound)
    (h : f.request env setup data = some f') : f'.Sound := by
  by_cases hv : ∃ start stop bytes, (crazyradioVendorHandler setup data f.sys.dev f.sys.cb).2 = .scan start stop bytes
  · obtain ⟨start, stop, bytes, hv⟩ := hv
    obtain ⟨-, -, -, rfl⟩ := firmware_scan hv h
    refine ⟨fun setup data left channel tuned hh => ?_, hf.queue, fun built hh => ?_⟩
    · cases hh
      have hstop := stop.toNat_lt
      exact ⟨by omega, fun ht => absurd ht Bool.false_ne_true⟩
    · cases hh
  · have hn : ∀ start stop bytes,
        (crazyradioVendorHandler setup data f.sys.dev f.sys.cb).2 ≠ .scan start stop bytes :=
      fun start stop bytes he => hv ⟨start, stop, bytes, he⟩
    rw [(firmware_request env f hn).1] at h
    obtain ⟨sys, hs, rfl⟩ := Option.map_eq_some_iff.mp h
    refine hf.callback ?_ (request_queue hf.queue hs)
    rcases request_cases hs with ⟨c, -, rfl⟩ | ⟨start, stop, bytes, -, rfl⟩ | ⟨-, rfl⟩ | ⟨-, -, -, rfl⟩ <;> rfl

theorem sound_moved {env : Env} {f f' : Firmware} {m : Move} (hf : f.Sound) (h : f.Moved env m f') : f'.Sound := by
  cases h with
  | tune hh =>
    refine ⟨fun setup data left channel tuned he => ?_, hf.queue, fun built he => ?_⟩
    · cases he
      exact ⟨(hf.scan _ _ _ _ _ hh).1, fun _ => Nat.succ_pos _⟩
    · cases he
  | probe hh =>
    rename_i setup data left channel
    refine ⟨fun setup' data' left' channel' tuned he => ?_, hf.queue, fun built he => ?_⟩
    · cases he
      have hl := (hf.scan _ _ _ _ _ hh).1
      refine ⟨?_, fun ht => absurd ht Bool.false_ne_true⟩
      rcases scanProbe_left env left channel f.sys.dev with h0 | h0 <;> omega
    · cases he
  | endScan hh =>
    refine ⟨fun setup data left channel tuned he => ?_, hf.queue, fun built he => ?_⟩
    · cases he
    · cases he
  | fetch hs =>
    have hq := hf.queue
    rcases fetch_cases hs with ⟨c, rest, hp, hr, rfl⟩ | ⟨hp, -, rfl⟩
    · rw [hr, List.length_cons] at hq
      exact hf.thread (hf.unlocked (by simp [hp])) (Nat.le_of_succ_le hq)
    · exact hf.thread (hf.unlocked (by simp [hp])) hq
  | skip hp hs =>
    exact hf.thread (hf.skipped hp hs) hf.queue
  | lock hh hp hs =>
    refine ⟨fun setup data left channel tuned he => ?_, hf.queue, fun built he => ?_⟩
    · cases he
    · cases he
      exact ⟨_, _, hp, hs, fun hb => absurd hb Bool.false_ne_true⟩
  | build hh hp hb =>
    refine ⟨fun setup data left channel tuned he => ?_, hf.queue, fun built he => ?_⟩
    · cases he
    · exact ⟨_, _, hp, rfl, fun _ => ⟨_, rfl, rfl⟩⟩
  | finish hh hp =>
    refine ⟨fun setup data left channel tuned he => ?_, hf.queue, fun built he => ?_⟩
    · cases he
    · cases he
  | poll hs =>
    obtain ⟨hp, dev, -, rfl⟩ := poll_cases hs
    exact hf.thread (hf.unlocked (by simp [hp])) hf.queue

theorem sound_step {env : Env} {f f' : Firmware} {m : Move} (hf : f.Sound) (h : f.step env m = some f') :
    f'.Sound := by
  by_cases hm : m.own = true
  · exact sound_moved hf (step_moved hm h)
  have hr := step_running h
  unfold Firmware.step at h
  rw [if_neg (Bool.eq_false_iff.mp hr)] at h
  cases m with
  | out packet =>
    simp only at h
    split at h
    · obtain ⟨sys, hs, rfl⟩ := Option.map_eq_some_iff.mp h
      refine hf.callback ?_ (out_queue hf.queue hs)
      rcases out_cases hs with ⟨-, rfl⟩ | ⟨c, -, rfl⟩ <;> rfl
    · cases h
  | request setup data =>
    simp only at h
    split at h
    · exact sound_request hf h
    · cases h
  | receive r =>
    simp only at h
    split at h
    · cases h
      exact hf.callback rfl hf.queue
    · cases h
  | tune | probe | endScan | fetch | skip | lock | build | finish | poll => exact absurd rfl hm

/-! ## The work goes down -/

theorem Firmware.commandWork_unlocked {f : Firmware} (hn : ∀ built, f.holder ≠ some (.command built)) :
    f.commandWork = f.sys.pc.work := by
  unfold Firmware.commandWork
  split
  · rename_i built hh
    exact absurd hh (hn built)
  · rfl

theorem commandWork_le (f : Firmware) : f.commandWork ≤ 3 := by
  unfold Firmware.commandWork Pc.work
  split
  · split <;> omega
  · split <;> omega

theorem sound_work {f : Firmware} (hf : f.Sound) : f.work ≤ 546 := by
  have hq := hf.queue
  have hc := commandWork_le f
  have hs : f.scanWork ≤ 513 := by
    unfold Firmware.scanWork
    split
    · rename_i left _ tuned hh
      have hl := (hf.scan _ _ _ _ _ hh).1
      have ht := Bool.toNat_le (!tuned)
      omega
    · exact Nat.zero_le _
  unfold Firmware.work
  omega

/-- What `usb_thread` does outside its section. -/
theorem work_thread {f : Firmware} (sys : System) (hn : ∀ built, f.holder ≠ some (.command built)) :
    Firmware.work { f with sys } + f.sys.pc.work + 3 * f.sys.queue.length =
      f.work + sys.pc.work + 3 * sys.queue.length := by
  have h := Firmware.commandWork_unlocked hn
  have h' : Firmware.commandWork { f with sys } = sys.pc.work := Firmware.commandWork_unlocked hn
  show f.scanWork + Firmware.commandWork { f with sys } + 3 * sys.queue.length + _ + _ =
    f.scanWork + f.commandWork + 3 * f.sys.queue.length + _ + _
  rw [h, h']
  omega

/-- A move of the threads never adds work, and but for the loop of `usb_thread` it does some. -/
theorem work_step {env : Env} {f f' : Firmware} {m : Move} (hf : f.Sound) (hm : m.own = true)
    (h : f.step env m = some f') : f'.work + m.works.toNat ≤ f.work := by
  cases step_moved hm h with
  | tune hh =>
    simp only [Firmware.work, Firmware.scanWork, Firmware.commandWork, hh, Move.works, Bool.toNat_true,
      Bool.not_true, Bool.not_false, Bool.toNat_false]
    omega
  | probe hh =>
    rename_i left channel
    have hl : (scanProbe env left channel f.sys.dev).2 ≤ left := by
      rcases scanProbe_left env left channel f.sys.dev with h0 | h0 <;> omega
    simp only [Firmware.work, Firmware.scanWork, Firmware.commandWork, hh, Move.works, Bool.toNat_true,
      Bool.not_true, Bool.not_false, Bool.toNat_false]
    omega
  | endScan hh =>
    simp only [Firmware.work, Firmware.scanWork, Firmware.commandWork, hh, Move.works, Bool.toNat_true,
      Bool.not_false]
    omega
  | fetch hs =>
    rcases fetch_cases hs with ⟨c, rest, hp, hr, rfl⟩ | ⟨hp, hr, rfl⟩
    · have hw := work_thread { f.sys with queue := rest, pc := .held c f.sys.dev.state.snifferMode }
        (hf.unlocked (by simp [hp]))
      simp only [hp, hr, Pc.work, List.length_cons, Move.works, Bool.toNat_false] at hw ⊢
      omega
    · have hw := work_thread { f.sys with pc := .poll } (hf.unlocked (by simp [hp]))
      simp only [hp, Pc.work, Move.works, Bool.toNat_false] at hw ⊢
      omega
  | skip hp hs =>
    have hw := work_thread { f.sys with pc := .top } (hf.skipped hp hs)
    simp only [hp, Pc.work, Move.works, Bool.toNat_true] at hw ⊢
    omega
  | lock hh hp hs =>
    simp only [Firmware.work, Firmware.scanWork, Firmware.commandWork, hh, hp, Pc.work, Move.works, Bool.toNat_true,
      Bool.false_eq_true, if_false]
    omega
  | build hh hp hb =>
    simp only [Firmware.work, Firmware.scanWork, Firmware.commandWork, hh, Move.works, Bool.toNat_true,
      Bool.false_eq_true, if_false, if_true]
    omega
  | finish hh hp =>
    rename_i built dev pc
    have hpc : pc.work = 0 := by rcases hp with rfl | ⟨rfl, -⟩ <;> rfl
    have hb : 1 ≤ (if built then 1 else 2) := by split <;> omega
    simp only [Firmware.work, Firmware.scanWork, Firmware.commandWork, hh, hpc, Move.works, Bool.toNat_true]
    omega
  | poll hs =>
    obtain ⟨hp, dev, -, rfl⟩ := poll_cases hs
    have hw := work_thread { f.sys with dev, pc := .top } (hf.unlocked (by simp [hp]))
    simp only [hp, Pc.work, Move.works, Bool.toNat_false] at hw ⊢
    omega

/-! ## Rest -/

/-- Nothing is left to do but to wait for the host and the radio. -/
def Firmware.AtRest (f : Firmware) : Prop := f.holder = none ∧ f.sys.pending = []

/-- The command being handled is one whose copies run out of bounds. -/
def Firmware.Faulty (f : Firmware) : Prop :=
  f.holder = some (.command false) ∧ ∃ c, f.sys.pc = .held (.data c) false ∧ f.sys.dev.copies c = false

/-- The poll in front of the next command. -/
def Pc.polls : Pc → Nat
  | .poll => 1
  | .top | .held .. => 0

/-- The moves to rest: the work in hand, and what the loop of `usb_thread` does in between. -/
def Firmware.measure (f : Firmware) : Nat := f.work + f.sys.queue.length + f.sys.pc.polls

theorem sound_measure {f : Firmware} (hf : f.Sound) : f.measure ≤ 557 := by
  have hw := sound_work hf
  have hq := hf.queue
  have hp : f.sys.pc.polls ≤ 1 := by unfold Pc.polls; split <;> omega
  unfold Firmware.measure
  omega

section Measure

variable {env : Env} {f f' : Firmware}

theorem measure_works {m : Move} (hf : f.Sound) (hm : m.works = true) (h : f.step env m = some f') :
    f'.measure < f.measure := by
  have hw := work_step hf (own_of_works hm) h
  rw [hm, Bool.toNat_true] at hw
  cases step_moved (own_of_works hm) h with
  | tune hh => exact Nat.add_lt_add_right (Nat.add_lt_add_right hw _) _
  | probe hh => exact Nat.add_lt_add_right (Nat.add_lt_add_right hw _) _
  | endScan hh => exact Nat.add_lt_add_right (Nat.add_lt_add_right hw _) _
  | fetch hs => cases hm
  | skip hp hs => exact Nat.add_lt_add_of_lt_of_le (Nat.add_lt_add_right hw _) (Nat.zero_le _)
  | lock hh hp hs => exact Nat.add_lt_add_right (Nat.add_lt_add_right hw _) _
  | build hh hp hb => exact Nat.add_lt_add_right (Nat.add_lt_add_right hw _) _
  | finish hh hp =>
    rename_i built dev pc
    rcases hp with rfl | ⟨rfl, rfl⟩
    · exact Nat.add_lt_add_of_lt_of_le (Nat.add_lt_add_right hw _) (Nat.zero_le _)
    · -- the poll comes on top, and a command that was not built leaves two moves out
      simp only [Firmware.measure, Firmware.work, Firmware.scanWork, Firmware.commandWork, hh, Pc.work, Pc.polls,
        Bool.false_eq_true, if_false]
      omega
  | poll hs => cases hm

theorem measure_fetch {c : UsbCommand} {rest : List UsbCommand} (hf : f.Sound) (hp : f.sys.pc = .top)
    (hq : f.sys.queue = c :: rest) (h : f.step env .fetch = some f') : f'.measure < f.measure := by
  have hw := work_step hf rfl h
  cases step_moved rfl h with
  | fetch hs =>
    rcases fetch_cases hs with ⟨c', rest', -, hr, rfl⟩ | ⟨-, hr, rfl⟩
    · simp only [Firmware.measure, hp, hr, Pc.polls, List.length_cons, Move.works, Bool.toNat_false] at hw ⊢
      omega
    · rw [hq] at hr
      cases hr

theorem measure_poll (hf : f.Sound) (h : f.step env .poll = some f') : f'.measure < f.measure := by
  have hw := work_step hf rfl h
  cases step_moved rfl h with
  | poll hs =>
    obtain ⟨hp, dev, -, rfl⟩ := poll_cases hs
    simp only [Firmware.measure, hp, Pc.polls, Move.works, Bool.toNat_false] at hw ⊢
    omega

theorem finish_exists (env : Env) {built : Bool} (hf : f.Sound) (hr : f.sys.halted = false)
    (hh : f.holder = some (.command built)) (hb : ∀ c, f.sys.pc = .held (.data c) false → built = true) :
    ∃ f', f.step env .finish = some f' := by
  have hstep : f.step env .finish = f.finish env built := by
    unfold Firmware.step
    rw [if_neg (Bool.eq_false_iff.mp hr), hh]
  rw [hstep]
  obtain ⟨c, sniffing, hp, -, hdata⟩ := hf.command built hh
  unfold Firmware.finish
  rw [hp]
  cases built with
  | true =>
    obtain ⟨c, rfl, rfl⟩ := hdata rfl
    obtain ⟨b, p, hs⟩ := sendAndAnswer_spec env f.sys.dev
    exact ⟨_, by rw [hs]⟩
  | false =>
    cases c with
    | setup c => exact ⟨_, rfl⟩
    | data c =>
      cases sniffing with
      | true =>
        obtain ⟨d', hs⟩ := snifferData_isOk c f.sys.dev
        exact ⟨_, by simp only [hs]; rfl⟩
      | false => exact absurd (hb c hp) Bool.false_ne_true

/-- Wherever the threads stand, a move of theirs goes on. -/
theorem move_exists (env : Env) (hf : f.Sound) (hr : f.sys.halted = false) :
    (f.AtRest ∨ f.Faulty) ∨ ∃ m f', m.own = true ∧ f.step env m = some f' ∧ f'.measure < f.measure := by
  have hrun : ∀ m, f.step env m = _ := fun m => by unfold Firmware.step; rw [if_neg (Bool.eq_false_iff.mp hr)]
  have hgo : ∀ {m : Move} {f' : Firmware}, m.works = true → f.step env m = some f' →
      ∃ m f', m.own = true ∧ f.step env m = some f' ∧ f'.measure < f.measure :=
    fun hm h => ⟨_, _, own_of_works hm, h, measure_works hf hm h⟩
  cases hh : f.holder with
  | none =>
    cases hp : f.sys.pc with
    | top =>
      cases hq : f.sys.queue with
      | nil => exact .inl (.inl ⟨hh, by simp [System.pending, Pc.command, hp, hq]⟩)
      | cons c rest =>
        have h : f.step env .fetch = some { f with sys := { f.sys with
            queue := rest, pc := .held c f.sys.dev.state.snifferMode } } := by
          rw [hrun]
          simp only [System.fetch, hp, hq, Option.map_some]
        exact .inr ⟨_, _, rfl, h, measure_fetch hf hp hq h⟩
    | held c sniffing =>
      cases hs : sniffing && skipsPoll c with
      | true =>
        obtain ⟨rfl, hs⟩ := Bool.and_eq_true_iff.mp hs
        exact .inr (hgo (m := .skip) rfl (by rw [hrun]; simp only [hp]; exact if_pos hs))
      | false =>
        exact .inr (hgo (m := .lock) rfl (by rw [hrun]; simp only [hh, hp, hs]; exact if_neg Bool.false_ne_true))
    | poll =>
      obtain ⟨queue, b, writes, hs⟩ := pollSniffer_spec f.sys.dev
      have h : ∃ f', f.step env .poll = some f' := ⟨_, by rw [hrun]; simp only [System.poll, hp, hs]; rfl⟩
      obtain ⟨f', h⟩ := h
      exact .inr ⟨_, _, rfl, h, measure_poll hf h⟩
  | some holder =>
    cases holder with
    | scan setup data left channel tuned =>
      cases left with
      | zero =>
        cases tuned with
        | false => exact .inr (hgo (m := .endScan) rfl (by rw [hrun]; simp only [hh]; rfl))
        | true => exact absurd ((hf.scan _ _ _ _ _ hh).2 rfl) (Nat.lt_irrefl 0)
      | succ left =>
        cases tuned with
        | false => exact .inr (hgo (m := .tune) rfl (by rw [hrun]; simp only [hh]; rfl))
        | true => exact .inr (hgo (m := .probe) rfl (by rw [hrun]; simp only [hh]; rfl))
    | command built =>
      by_cases hb : ∀ c, f.sys.pc = .held (.data c) false → built = true
      · obtain ⟨f', h⟩ := finish_exists env hf hr hh hb
        exact .inr (hgo (m := .finish) rfl h)
      · simp only [not_forall] at hb
        obtain ⟨c, hp, hn⟩ := hb
        cases eq_false_of_ne_true hn
        cases hc : f.sys.dev.copies c with
        | false => exact .inl (.inr ⟨hh, c, hp, hc⟩)
        | true =>
          obtain ⟨dev, hd⟩ := (buildPacket_isOk_iff env c f.sys.dev).mpr hc
          exact .inr (hgo (m := .build) rfl (by rw [hrun]; simp only [hh, hp, hd]; rfl))

end Measure

theorem running_moved {env : Env} {f f' : Firmware} {m : Move} (hm : m.own = true) (h : f.step env m = some f') :
    f'.sys.halted = false := by
  have hr := step_running h
  cases step_moved hm h with
  | fetch hs => rcases fetch_cases hs with ⟨c, rest, -, -, rfl⟩ | ⟨-, -, rfl⟩ <;> exact hr
  | poll hs => obtain ⟨-, dev, -, rfl⟩ := poll_cases hs; exact hr
  | _ => exact hr

/-- From every state the threads can be in, as long as the host sends nothing more, no order of their moves
handles commands and channels for ever, and some order leads to rest, or to a command whose copies run
out of bounds. -/
theorem threads_come_to_rest (env : Env) {ms : List Move} {f : Firmware}
    (h : run (Firmware.step env) Firmware.boot ms = some f) (hr : f.sys.halted = false) :
    (∀ ms' f', (∀ m ∈ ms', m.own = true) → run (Firmware.step env) f ms' = some f' → ms'.countP Move.works ≤ 546) ∧
    ∃ ms' f', (∀ m ∈ ms', m.own = true) ∧ ms'.length ≤ 557 ∧ run (Firmware.step env) f ms' = some f' ∧
      (f'.AtRest ∨ f'.Faulty) := by
  have hf : f.Sound := run_invariant (fun hs h => sound_step hs h) ms sound_boot h
  constructor
  · intro ms' f' hown hrun
    have hle := countP_le_measure Move.works Firmware.work (fun hs h => sound_step hs h)
      (fun hs hm h => work_step hs hm h) ms' hf hown hrun
    have hw := sound_work hf
    omega
  · have hmove : ∀ f : Firmware, f.Sound ∧ f.sys.halted = false → (f.AtRest ∨ f.Faulty) ∨ ∃ m f', Move.own m = true ∧
        f.step env m = some f' ∧ (f'.Sound ∧ f'.sys.halted = false) ∧ f'.measure < f.measure := by
      intro f hs
      rcases move_exists env hs.1 hs.2 with hrest | ⟨m, f', hm, hstep, hlt⟩
      · exact .inl hrest
      · exact .inr ⟨m, f', hm, hstep, ⟨sound_step hs.1 hstep, running_moved hm hstep⟩, hlt⟩
    obtain ⟨ms', f', hown, hlen, hrun, -, hrest⟩ :=
      exists_run_of_measure Firmware.measure hmove 557 f (sound_measure hf) ⟨hf, hr⟩
    exact ⟨ms', f', hown, hlen, hrun, hrest⟩

/-- A scan is in progress and `usb_thread` waits for the lock with a command. -/
def scanInProgress : List Move :=
  [.request (hostRequest setRadioArc 0) [], .request (scanRequest 5 5) [], .fetch]

theorem scan_comes_to_rest : ∃ f, run (Firmware.step fun _ => .silent) Firmware.boot scanInProgress = some f ∧
    f.sys.halted = false ∧ ∃ ms' f', (∀ m ∈ ms', m.own = true) ∧ ms'.length ≤ 557 ∧
      run (Firmware.step fun _ => .silent) f ms' = some f' ∧ (f'.AtRest ∨ f'.Faulty) := by
  obtain ⟨f, h⟩ : ∃ f, run (Firmware.step fun _ => .silent) Firmware.boot scanInProgress = some f := ⟨_, rfl⟩
  have hr : f.sys.halted = false := by cases h; rfl
  exact ⟨f, h, hr, (threads_come_to_rest _ h hr).2⟩

end Crazyradio.Usb
