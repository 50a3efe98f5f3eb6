/-
What the LEDs show. `usb_thread` pulses green or red for a packet, green for a record, and switches the blue
LED with sniffer mode; `fw_scan` pulses for each channel it tries. The calls are those of a run of the
device, and the board takes them in from both threads with the timers in between.
-/
import Crazyradio.Usb.Leds
import Crazyradio.Usb.RoundTrip
import Crazyradio.Usb.Scan

namespace Crazyradio.Usb

open Bytes Moves

/-! ## The calls of an act -/

/-- The LED calls of `handle_vendor_command`. -/
def SetupCommand.ledCalls (s : SetupCommand) : List LedCall :=
  let p := s.setupPacket
  if p.bRequest = setRadioMode ∧ p.wLength = 0 then
    if p.wValue = 1 then [.set .blue true] else if p.wValue = 0 then [.set .blue false] else []
  else []

/-- The LED calls at the send guard, with the packet built. -/
def sendLedCalls (env : Env) (d : Device) : List LedCall :=
  if d.state.handled then
    (if (usbSend env d).1 || !d.state.ackEnabled then .pulse .green 50 else .pulse .red 50) ::
      -- the branch without an answer pulses again
      if !d.state.inlineMode && !d.state.ackEnabled then [.pulse .green 50] else []
  else [.pulse .red 50]

/-- The LED calls of `usb_thread` for a data command. -/
def dataLedCalls (env : Env) (c : DataCommand) (d : Device) : List LedCall :=
  if d.state.snifferMode then if c.length < 6 then [] else [.pulse .green 50]
  else
    match buildPacket env c d with
    | .ok d => sendLedCalls env d
    | .error _ => []

/-- The LED calls of `fw_scan`, one for each call of `esb_send_packet`. -/
def scanLedCalls (env : Env) (start stop : UInt8) (data : List UInt8) (d : Device) : List LedCall :=
  (fwScanCalls env start stop data d).map fun c => if c.acked then .pulse .green 50 else .pulse .red 50

/-- The LED calls of an act, with the thread that makes them. -/
def Act.ledCalls (env : Env) (d : Device) : Act → LedThread → List LedCall
  | .command (.setup s), .usbThread => s.ledCalls
  | .command (.data c), .usbThread => dataLedCalls env c d
  | .scan start stop data, .callback => scanLedCalls env start stop data d
  | .poll, .usbThread => if d.snifferQueue.isEmpty then [] else [.pulse .green 50]
  | _, _ => []

/-- The LED calls of a run. -/
def Device.ledCalls (env : Env) (t : LedThread) : Device → List Act → List LedCall
  | _, [] => []
  | d, a :: as =>
    a.ledCalls env d t ++
      match d.act env a with
      | .ok d' => d'.ledCalls env t as
      | .error _ => []

/-- The LED calls of `main`. -/
def startUp : List LedCall := [.pulse .green 500, .pulse .red 500, .pulse .blue 500]

/-- The LED calls of each thread, behind which the device ran through `as`. -/
def firmwareCalls (env : Env) (as : List Act) : LedThread → List LedCall
  | .main => startUp
  | t => boot.ledCalls env t as

/-! ## Which calls there are -/

/-- Only `SET_RADIO_MODE` is decoded to a change of the mode. -/
theorem decode_notMode {s : SetupCommand} (h : ¬(s.setupPacket.bRequest = setRadioMode ∧ s.setupPacket.wLength = 0)) :
    ∀ on, s.decode ≠ .sniffer on := by
  let P : Request → Prop := fun r => ∀ on, r ≠ .sniffer on
  show P s.decode
  unfold SetupCommand.decode
  repeat' refine iteInduction (motive := P) (fun _ => ?_) (fun _ => ?_)
  all_goals first
    | exact absurd ‹_› h
    | exact fun on => nofun

theorem ledCalls_decode (s : SetupCommand) : s.ledCalls = match s.decode with
    | .sniffer on => [.set .blue on]
    | _ => [] := by
  unfold SetupCommand.ledCalls
  simp only
  by_cases h : s.setupPacket.bRequest = setRadioMode ∧ s.setupPacket.wLength = 0
  · rw [if_pos h]
    obtain ⟨hr, hl⟩ := h
    unfold SetupCommand.decode
    simp only [hr, hl]
    by_cases h1 : s.setupPacket.wValue = 1
    · rw [if_pos h1, if_pos h1]
      rfl
    · by_cases h0 : s.setupPacket.wValue = 0
      · rw [if_neg h1, if_pos h0, if_neg h1, if_pos h0]
        rfl
      · rw [if_neg h1, if_neg h0, if_neg h1, if_neg h0]
        rfl
  · rw [if_neg h]
    have hn := decode_notMode h
    cases hd : s.decode with
    | sniffer on => exact absurd hd (hn on)
    | _ => rfl

/-- A pulse of the red or the green LED. -/
def LedCall.Pulses (c : LedCall) : Prop := ∃ colour, colour ≠ .blue ∧ c = .pulse colour 50

theorem pulses_sendLedCalls (env : Env) (d : Device) : ∀ c ∈ sendLedCalls env d, c.Pulses := by
  intro c hc
  unfold sendLedCalls at hc
  split at hc
  · rcases List.mem_cons.mp hc with rfl | hc
    · split
      · exact ⟨.green, by decide, rfl⟩
      · exact ⟨.red, by decide, rfl⟩
    · split at hc
      · rw [List.mem_singleton.mp hc]
        exact ⟨.green, by decide, rfl⟩
      · cases hc
  · rw [List.mem_singleton.mp hc]
    exact ⟨.red, by decide, rfl⟩

theorem pulses_dataLedCalls (env : Env) (c : DataCommand) (d : Device) : ∀ x ∈ dataLedCalls env c d, x.Pulses := by
  intro x hx
  unfold dataLedCalls at hx
  split at hx
  · split at hx
    · cases hx
    · rw [List.mem_singleton.mp hx]
      exact ⟨.green, by decide, rfl⟩
  · split at hx
    · exact pulses_sendLedCalls env _ x hx
    · cases hx

/-- The call can be made by this thread. -/
def LedCall.MadeBy (t : LedThread) (c : LedCall) : Prop := c.Pulses ∨ t = .usbThread ∧ ∃ on, c = .set .blue on

/-- Of the blue LED there are only the calls of `handle_vendor_command`. -/
theorem madeBy_act {env : Env} {d : Device} {a : Act} {t : LedThread} {c : LedCall} (h : c ∈ a.ledCalls env d t) :
    c.MadeBy t := by
  unfold Act.ledCalls at h
  split at h
  · rename_i s
    rw [ledCalls_decode] at h
    split at h
    · exact .inr ⟨rfl, _, List.mem_singleton.mp h⟩
    · cases h
  · exact .inl (pulses_dataLedCalls env _ d c h)
  · obtain ⟨x, -, rfl⟩ := List.mem_map.mp h
    split
    · exact .inl ⟨.green, by decide, rfl⟩
    · exact .inl ⟨.red, by decide, rfl⟩
  · split at h
    · cases h
    · rw [List.mem_singleton.mp h]
      exact .inl ⟨.green, by decide, rfl⟩
  · cases h

theorem madeBy_run {env : Env} {t : LedThread} {c : LedCall} : ∀ {as : List Act} {d : Device},
    c ∈ d.ledCalls env t as → c.MadeBy t
  | [], _, h => nomatch h
  | a :: as, d, h => by
    rcases List.mem_append.mp h with h | h
    · exact madeBy_act h
    · split at h
      · exact madeBy_run h
      · cases h

/-! ## The blue LED -/

/-- The blue LED as a list of calls leaves it, if it was `on`. -/
def blueAfter (on : Bool) : List LedCall → Bool
  | [] => on
  | .set .blue b :: cs => blueAfter b cs
  | _ :: cs => blueAfter on cs

theorem blueAfter_append (on : Bool) : ∀ cs cs' : List LedCall,
    blueAfter on (cs ++ cs') = blueAfter (blueAfter on cs) cs'
  | [], _ => rfl
  | c :: cs, cs' => by
    cases c with
    | pulse c ms => exact blueAfter_append on cs cs'
    | set c b =>
      cases c with
      | blue => exact blueAfter_append b cs cs'
      | _ => exact blueAfter_append on cs cs'

theorem blueAfter_pulses (on : Bool) : ∀ {cs : List LedCall}, (∀ c ∈ cs, c.Pulses) → blueAfter on cs = on
  | [], _ => rfl
  | c :: cs, h => by
    obtain ⟨colour, -, rfl⟩ := h c List.mem_cons_self
    have hcs : ∀ c' ∈ cs, c'.Pulses := fun c' hc' => h c' (List.mem_cons_of_mem _ hc')
    show blueAfter on cs = on
    exact blueAfter_pulses on hcs

/-- Each act leaves the blue LED and sniffer mode the same, if they were. -/
theorem blueAfter_act {env : Env} {a : Act} {d d' : Device} (h : d.act env a = .ok d') :
    blueAfter d.state.snifferMode (a.ledCalls env d .usbThread) = d'.state.snifferMode := by
  cases a with
  | command c =>
    cases c with
    | setup s =>
      obtain rfl := act_setup h
      show blueAfter _ s.ledCalls = _
      rw [ledCalls_decode, snifferMode_apply]
      cases s.decode <;> rfl
    | data c =>
      show blueAfter _ (dataLedCalls env c d) = _
      rw [blueAfter_pulses _ (pulses_dataLedCalls env c d)]
      cases hs : d.state.snifferMode with
      | true =>
        have hd : snifferData c d = .ok d' := (if_pos hs).symm.trans h
        exact ((kept_snifferData hd).snifferMode.trans hs).symm
      | false => exact ((kept_handleCommand_data hs h).snifferMode.trans ((settled_snifferMode d c).trans hs)).symm
  | scan start stop data =>
    cases h
    exact (kept_fwScan env start stop data d).snifferMode.symm
  | poll =>
    rw [← (kept_pollSniffer h).snifferMode]
    show blueAfter _ (if d.snifferQueue.isEmpty then [] else [.pulse .green 50]) = _
    split <;> rfl
  | receive r =>
    have hk : Kept d d' := by
      cases h
      split
      · exact kept_radioIsrSniffer r d
      · exact .refl d
    exact hk.snifferMode.symm

theorem blueAfter_run {env : Env} : ∀ {as : List Act} {d d' : Device}, d.run env as = .ok d' →
    blueAfter d.state.snifferMode (d.ledCalls env .usbThread as) = d'.state.snifferMode
  | [], d, d', h => by
    cases h
    rfl
  | a :: as, d, d', h => by
    obtain ⟨d₁, h₁, h₂⟩ := run_cons.mp h
    simp only [Device.ledCalls, h₁]
    rw [blueAfter_append, blueAfter_act h₁]
    exact blueAfter_run h₂

/-! ## The board behind a run -/

/-- The call a move starts on this thread. -/
def LedMove.calls (t : LedThread) : LedMove → List LedCall
  | .call t' c => if t' = t then [c] else []
  | _ => []

/-- The calls a thread starts, in order. -/
def called (t : LedThread) (ms : List LedMove) : List LedCall := ms.flatMap (LedMove.calls t)

/-- The moves whose calls their threads can make. -/
def LedMove.Fits : LedMove → Prop
  | .call t c => c.MadeBy t
  | _ => True

theorem mem_called {t : LedThread} {c : LedCall} {ms : List LedMove} (h : .call t c ∈ ms) : c ∈ called t ms :=
  List.mem_flatMap.mpr ⟨_, h, by simp [LedMove.calls]⟩

theorem made_of_madeBy {t : LedThread} {c : LedCall} (h : c.MadeBy t) : c.Made := by
  rcases h with ⟨colour, -, rfl⟩ | ⟨-, on, rfl⟩
  · exact (by decide : 50 ≤ 500)
  · rfl

theorem made_firmwareCalls {env : Env} {as : List Act} {t : LedThread} {c : LedCall} (h : c ∈ firmwareCalls env as t) :
    c.Made := by
  cases t with
  | main =>
    simp only [firmwareCalls, startUp, List.mem_cons, List.not_mem_nil, or_false] at h
    rcases h with rfl | rfl | rfl <;> exact Nat.le_refl 500
  | callback => exact made_of_madeBy (madeBy_run h)
  | usbThread => exact made_of_madeBy (madeBy_run h)

/-- The red and the green LED of the firmware. Whatever the device does, and whatever order the calls of its
threads, the pulses of the start and the timers come in, they are on only while their timer runs or a thread
is about to start it, and once no thread is in a call they are off after half a second. -/
theorem leds_go_out {env : Env} {as : List Act} {ms : List LedMove} {l : Leds}
    (hcalls : ∀ t, called t ms <+: firmwareCalls env as t) (h : run Leds.step Leds.init ms = some l) {c : Colour}
    (hc : c ≠ .blue) :
    (l.lit c = true → (∃ left, l.timer c = some left ∧ left ≤ 500) ∨ ∃ t left, l.calls t = [.timerStart c left]) ∧
    ((∀ t, l.calls t = []) → ∀ n, 500 ≤ n →
      ∃ l', run Leds.step l (List.replicate n .tick) = some l' ∧ l'.lit c = false) := by
  refine goes_out (fun m hm => ?_) h hc
  cases m with
  | call t c => exact made_firmwareCalls ((hcalls t).subset (mem_called hm))
  | op t => trivial
  | tick => trivial

theorem sendThenScan_fits : 0 + [(1 : UInt8)].length ≤ 128 := by decide

/-- A packet that is not acked, and a scan of one channel. -/
def sendThenScan : List Act := [.command (.data (DataCommand.empty.store 0 [1] sendThenScan_fits)), .scan 10 10 [0xff]]

/-- `usb_thread` pulses the red LED, and `fw_scan` while it does. -/
def twoPulses : List LedMove :=
  [.call .usbThread (.pulse .red 50), .op .usbThread, .call .callback (.pulse .red 50), .op .callback, .op .usbThread,
    .tick, .op .callback]

theorem leds_go_out_pulses : ∃ l, run Leds.step Leds.init twoPulses = some l ∧ l.lit .red = true ∧
    ∃ l', run Leds.step l (List.replicate 500 .tick) = some l' ∧ l'.lit .red = false := by
  obtain ⟨l, h, hlit, hidle⟩ : ∃ l, run Leds.step Leds.init twoPulses = some l ∧ l.lit .red = true ∧
      ∀ t, l.calls t = [] := ⟨_, rfl, rfl, fun t => by cases t <;> rfl⟩
  have hcalls : ∀ t, called t twoPulses <+: firmwareCalls (fun _ => .silent) sendThenScan t := by
    intro t
    cases t with
    | main => exact List.nil_prefix
    | callback =>
      have hscan : firmwareCalls (fun _ => .silent) sendThenScan .callback = [.pulse .red 50] := by decide +kernel
      rw [hscan]
      exact List.prefix_refl _
    | usbThread =>
      have hsend : firmwareCalls (fun _ => .silent) sendThenScan .usbThread = [.pulse .red 50] := by decide +kernel
      rw [hsend]
      exact List.prefix_refl _
  exact ⟨l, h, hlit, (leds_go_out hcalls h (by decide)).2 hidle 500 (Nat.le_refl _)⟩

/-! ## The blue LED follows sniffer mode -/

/-- The operation is one of `led_set_blue`. -/
def LedOp.setsBlue : LedOp → Bool
  | .pin .blue _ => true
  | .timerStart .blue _ => true
  | _ => false

/-- The timer of the blue LED is not running, and of the calls the threads are in only `led_set_blue`, by
`usb_thread`, concerns it. -/
structure Leds.Steady (l : Leds) : Prop where
  timer : l.timer .blue = none
  calls : ∀ t, (∀ o ∈ l.calls t, o.setsBlue = false) ∨ t = .usbThread ∧ ∃ on, l.calls t = [.pin .blue on]

/-- The blue LED, once `usb_thread` is through with the call it is in. -/
def Leds.blue (l : Leds) : Bool :=
  match l.calls .usbThread with
  | [.pin .blue on] => on
  | _ => l.lit .blue

theorem blue_of_calls {l : Leds} (h : ∀ o ∈ l.calls .usbThread, o.setsBlue = false) : l.blue = l.lit .blue := by
  unfold Leds.blue
  split
  · rename_i on hc
    exact absurd (h (.pin .blue on) (hc ▸ List.mem_cons_self)) Bool.noConfusion
  · rfl

theorem blue_of_pending {l : Leds} {on : Bool} (h : l.calls .usbThread = [.pin .blue on]) : l.blue = on := by
  unfold Leds.blue
  rw [h]

/-- What the blue LED shows depends on its pin and on `usb_thread`. -/
theorem blue_congr {l l' : Leds} (hc : l'.calls .usbThread = l.calls .usbThread) (hb : l'.lit .blue = l.lit .blue) :
    l'.blue = l.blue := by
  unfold Leds.blue
  rw [hc, hb]

theorem setsBlue_ops {c : LedCall} (h : c.Pulses) : ∀ o ∈ c.ops, o.setsBlue = false := by
  obtain ⟨colour, hc, rfl⟩ := h
  intro o ho
  cases colour with
  | blue => exact absurd rfl hc
  | red | green =>
    rcases List.mem_cons.mp ho with rfl | ho
    · rfl
    · rw [List.mem_singleton.mp ho]
      rfl

/-- An operation on another LED. -/
theorem op_otherLed {o : LedOp} (h : o.setsBlue = false) (l : Leds) :
    (l.op o).lit .blue = l.lit .blue ∧ (l.op o).timer .blue = l.timer .blue ∧ (l.op o).calls = l.calls := by
  cases o with
  | pin c on =>
    have hc : Colour.blue ≠ c := by
      rintro rfl
      cases h
    exact ⟨by simp only [Leds.op, Function.update_of_ne hc], rfl, rfl⟩
  | timerStart c ms =>
    have hc : Colour.blue ≠ c := by
      rintro rfl
      cases h
    exact ⟨rfl, by simp only [Leds.op, Function.update_of_ne hc], rfl⟩

theorem steady_call {l : Leds} {t : LedThread} {c : LedCall} (hl : l.Steady) (hc : c.MadeBy t) (ht : l.calls t = []) :
    let l' : Leds := { l with calls := Function.update l.calls t c.ops }
    l'.Steady ∧ l'.blue = blueAfter l.blue (LedMove.calls .usbThread (.call t c)) := by
  intro l'
  have hself : l'.calls t = c.ops := Function.update_self ..
  have hother : ∀ t', t' ≠ t → l'.calls t' = l.calls t' := fun t' h => Function.update_of_ne h ..
  have hidle : l.calls .usbThread = [] → l.blue = l.lit .blue := fun h =>
    blue_of_calls fun o ho => absurd (h ▸ ho) List.not_mem_nil
  refine ⟨⟨hl.timer, fun t' => ?_⟩, ?_⟩
  · by_cases h : t' = t
    · subst h
      rw [hself]
      rcases hc with hc | ⟨ht', on, rfl⟩
      · exact .inl (setsBlue_ops hc)
      · exact .inr ⟨ht', on, rfl⟩
    · rw [hother t' h]
      exact hl.calls t'
  · by_cases h : t = .usbThread
    · subst h
      simp only [LedMove.calls, if_true]
      rcases hc with hc | ⟨-, on, rfl⟩
      · rw [blueAfter_pulses _ fun x hx => List.mem_singleton.mp hx ▸ hc, hidle ht]
        exact blue_of_calls (hself ▸ setsBlue_ops hc)
      · exact blue_of_pending hself
    · simp only [LedMove.calls, if_neg h]
      exact blue_congr (hother _ (Ne.symm h)) rfl

theorem steady_op {l : Leds} {t : LedThread} {o : LedOp} {rest : List LedOp} (hl : l.Steady)
    (ht : l.calls t = o :: rest) :
    let l' : Leds := Leds.op o { l with calls := Function.update l.calls t rest }
    l'.Steady ∧ l'.blue = l.blue := by
  intro l'
  have hcalls : l'.calls = Function.update l.calls t rest := by
    cases o <;> rfl
  have hself : l'.calls t = rest := by rw [hcalls, Function.update_self]
  have hother : ∀ t', t' ≠ t → l'.calls t' = l.calls t' := fun t' h => by rw [hcalls, Function.update_of_ne h]
  have hkept : ∀ t', t' ≠ t →
      (∀ o ∈ l'.calls t', o.setsBlue = false) ∨ t' = .usbThread ∧ ∃ on, l'.calls t' = [.pin .blue on] := by
    intro t' h
    rw [hother t' h]
    exact hl.calls t'
  rcases hl.calls t with hplain | ⟨rfl, on, hpending⟩
  · obtain ⟨hlit, htimer, -⟩ := op_otherLed (hplain o (ht ▸ List.mem_cons_self))
      { l with calls := Function.update l.calls t rest }
    have hrest : ∀ o ∈ l'.calls t, o.setsBlue = false := fun x hx =>
      hplain x (ht ▸ List.mem_cons_of_mem o (hself ▸ hx))
    refine ⟨⟨htimer.trans hl.timer, fun t' => ?_⟩, ?_⟩
    · by_cases h : t' = t
      · subst h
        exact .inl hrest
      · exact hkept t' h
    · by_cases h : t = .usbThread
      · subst h
        rw [blue_of_calls hrest, blue_of_calls hplain]
        exact hlit
      · exact blue_congr (hother _ (Ne.symm h)) hlit
  · -- the pin of the blue LED is set
    cases ht.symm.trans hpending
    refine ⟨⟨hl.timer, fun t' => ?_⟩, ?_⟩
    · by_cases h : t' = .usbThread
      · subst h
        exact .inl fun x hx => absurd (hself ▸ hx) List.not_mem_nil
      · exact hkept t' h
    · rw [blue_of_pending hpending, blue_of_calls fun x hx => absurd (hself ▸ hx) List.not_mem_nil]
      show Function.update l.lit .blue on .blue = on
      exact Function.update_self ..

/-- One move: the blue LED follows the calls of `usb_thread`. -/
theorem steady_step {l l' : Leds} {m : LedMove} (hl : l.Steady) (hm : m.Fits) (h : l.step m = some l') :
    l'.Steady ∧ l'.blue = blueAfter l.blue (m.calls .usbThread) := by
  unfold Leds.step at h
  cases m with
  | call t c =>
    simp only at h
    split at h
    · rename_i ht
      cases h
      exact steady_call hl hm ht
    · cases h
  | op t =>
    simp only at h
    split at h
    · rename_i o rest ht
      cases h
      exact steady_op hl ht
    · cases h
  | tick =>
    cases h
    have htimer : l.tick.timer .blue = none := by
      simp only [Leds.tick, hl.timer]
      rfl
    refine ⟨⟨htimer, hl.calls⟩, blue_congr rfl ?_⟩
    simp only [Leds.tick, hl.timer, expires, Bool.not_false, Bool.and_true]

theorem steady_run : ∀ {ms : List LedMove} {l l' : Leds}, l.Steady → (∀ m ∈ ms, m.Fits) →
    run Leds.step l ms = some l' → l'.Steady ∧ l'.blue = blueAfter l.blue (called .usbThread ms)
  | [], l, l', hl, _, h => by
    cases h
    exact ⟨hl, rfl⟩
  | m :: ms, l, l', hl, hm, h => by
    obtain ⟨l₁, h₁, h₂⟩ := Option.bind_eq_some_iff.mp h
    obtain ⟨hl₁, hb⟩ := steady_step hl (hm m List.mem_cons_self) h₁
    obtain ⟨hl', hb'⟩ := steady_run hl₁ (fun x hx => hm x (List.mem_cons_of_mem m hx)) h₂
    refine ⟨hl', hb'.trans ?_⟩
    show _ = blueAfter l.blue (m.calls .usbThread ++ called .usbThread ms)
    rw [blueAfter_append, hb]

/-- The blue LED shows sniffer mode. If no call comes before the pulses of the start are over, whatever order
the calls that a run of the device makes in its two threads and the timers come in, the blue LED is on exactly
if sniffer mode is, as soon as `usb_thread` is through with its calls. -/
theorem blue_shows_sniffer {env : Env} {as : List Act} {d : Device} {l₀ l : Leds} {ms : List LedMove}
    (h : boot.run env as = .ok d) (hidle : ∀ t, l₀.calls t = []) (hout : l₀.lit .blue = false)
    (htimer : l₀.timer .blue = none) (hcalls : ∀ t, called t ms = boot.ledCalls env t as)
    (hl : run Leds.step l₀ ms = some l) (hdone : l.calls .usbThread = []) : l.lit .blue = d.state.snifferMode := by
  have hsteady : l₀.Steady := ⟨htimer, fun t => .inl fun o ho => absurd (hidle t ▸ ho) List.not_mem_nil⟩
  have hfits : ∀ m ∈ ms, m.Fits := by
    intro m hm
    cases m with
    | call t c =>
      have hc := mem_called hm
      rw [hcalls t] at hc
      exact madeBy_run hc
    | op t => trivial
    | tick => trivial
  obtain ⟨-, hblue⟩ := steady_run hsteady hfits hl
  have hfirst : l₀.blue = boot.state.snifferMode :=
    (blue_of_calls fun o ho => absurd (hidle _ ▸ ho) List.not_mem_nil).trans hout
  have hlast : l.blue = l.lit .blue := blue_of_calls fun o ho => absurd (hdone ▸ ho) List.not_mem_nil
  rw [← hlast, hblue, hcalls, hfirst]
  exact blueAfter_run h

/-- `SET_RADIO_MODE 1` handled and its call made. -/
theorem blue_shows_sniffer_on : ∃ d l,
    boot.run (fun _ => .silent) [.command (.setup { setupPacket := hostRequest setRadioMode 1 })] = .ok d ∧
    run Leds.step Leds.init [.call .usbThread (.set .blue true), .op .usbThread, .tick] = some l ∧
    d.state.snifferMode = true ∧ l.lit .blue = d.state.snifferMode := by
  obtain ⟨d, hd, hmode⟩ : ∃ d, boot.run (fun _ => .silent)
      [.command (.setup { setupPacket := hostRequest setRadioMode 1 })] = .ok d ∧ d.state.snifferMode = true :=
    ⟨_, rfl, rfl⟩
  obtain ⟨l, hl, hdone⟩ : ∃ l, run Leds.step Leds.init [.call .usbThread (.set .blue true), .op .usbThread, .tick] =
      some l ∧ l.calls .usbThread = [] := ⟨_, rfl, rfl⟩
  have hcalls : ∀ t, called t [.call .usbThread (.set .blue true), .op .usbThread, .tick] =
      boot.ledCalls (fun _ => .silent) t [.command (.setup { setupPacket := hostRequest setRadioMode 1 })] := by
    intro t
    cases t <;> decide +kernel
  exact ⟨d, l, hd, hl, hmode, blue_shows_sniffer hd (fun _ => rfl) rfl rfl hcalls hl hdone⟩

/-! ## The colour of a packet -/

/-- The colour is the answer: with auto-ack a data command outside sniffer mode pulses one LED and writes one
answer, and the LED is the green one exactly if the host reads that the packet was acked. -/
theorem led_tells_answer {env : Env} {c : DataCommand} {d d' : Device} (hs : d.state.snifferMode = false)
    (hack : (d.settled c).state.ackEnabled = true) (h : handleCommand env (.data c) d = .ok d') : ∃ colour w,
    Act.ledCalls env d (.command (.data c)) .usbThread = [.pulse colour 50] ∧ d'.inWrites = d.inWrites ++ [w] ∧
      (Answer.decode d.state.format w).map Answer.acked = some (decide (colour = .green)) := by
  obtain ⟨d₁, b, p, hb, rfl⟩ := handleCommand_data_cases hs h
  have hkept := kept_buildPacket hb
  have hack₁ : d₁.state.ackEnabled = true := hkept.ackEnabled.trans hack
  have hsettled : (d.settled c).state.format = d.state.format := by
    unfold Device.settled
    split <;> rfl
  have hformat : d₁.state.format = d.state.format := by
    rw [← hsettled]
    unfold State.format
    rw [hkept.inlineMode, hkept.inlineRssiMode]
  have hcalls : Act.ledCalls env d (.command (.data c)) .usbThread = sendLedCalls env d₁ := by
    show dataLedCalls env c d = _
    unfold dataLedCalls
    rw [hs, hb]
    rfl
  have hwrites : ∀ w, guardedBytes env d₁ = some w →
      ((guardedSend env d₁).answered (guardedBytes env d₁) b p).inWrites = d.inWrites ++ [w] := by
    intro w hw
    show (guardedSend env d₁).inWrites ++ _ = _
    rw [inWrites_guardedSend, inWrites_buildPacket hb, hw]
    rfl
  rw [hcalls, ← hformat]
  unfold sendLedCalls
  cases hg : d₁.state.handled with
  | true =>
    obtain ⟨w, hw, hr⟩ := reports_answer (usbSend env d₁).1 (d := (usbSend env d₁).2) hack₁
    have hbytes : guardedBytes env d₁ = some w := (if_pos hg).trans hw
    rw [if_pos rfl, hack₁, Bool.not_true, Bool.and_false, Bool.or_false, if_neg Bool.false_ne_true]
    have hread := decode_reports hr
    cases hacked : (usbSend env d₁).1 with
    | true =>
      rw [hacked] at hread
      exact ⟨.green, w, rfl, hwrites w hbytes, hread⟩
    | false =>
      rw [hacked] at hread
      exact ⟨.red, w, rfl, hwrites w hbytes, hread⟩
  | false =>
    have hbytes : guardedBytes env d₁ = some (invalidBytes d₁.state) := if_neg (Bool.eq_false_iff.mp hg)
    exact ⟨.red, _, rfl, hwrites _ hbytes, decode_reports (reports_invalid d₁.state)⟩

/-- An inline command of a header alone, acked with five bytes: green. -/
theorem led_tells_answer_acked : ∃ d', handleCommand (receiving true) (.data headerOnly) inlineDevice = .ok d' ∧
    ∃ colour w, Act.ledCalls (receiving true) inlineDevice (.command (.data headerOnly)) .usbThread =
        [.pulse colour 50] ∧ d'.inWrites = inlineDevice.inWrites ++ [w] ∧
      (Answer.decode inlineDevice.state.format w).map Answer.acked = some (decide (colour = .green)) := by
  obtain ⟨d', hd⟩ : ∃ d', handleCommand (receiving true) (.data headerOnly) inlineDevice = .ok d' := ⟨_, rfl⟩
  exact ⟨d', hd, led_tells_answer rfl rfl hd⟩

end Crazyradio.Usb
