/-
Good acks and the ack timeout. `ackWatch` observes a run: when the END of an attempt's packet was
captured, whether the address of its ack has matched within 500 µs of that, and what `radio_isr` then
makes of it. A window that opens in time turns the match into a capture of CC1, which the counter
comes back to only after 2^32 µs (`OnTime`); so a good ack is lost only to a COMPARE1 latched before,
or where `radio_isr` was late and wrote over the capture.
-/
import Crazyradio.Driver.Timeout

namespace Crazyradio.Driver

open Bytes Threads Platform

/-! ## The observer -/

/-- What becomes of an attempt whose receive window was open while the thread waited for it. -/
structure Report where
  timeout : Bool
  window : Window
  /-- microseconds from the END of the packet to the verdict -/
  sinceEnd : Nat
  /-- the address of the ack matched less than 500 µs behind the END of the packet -/
  matched : Bool
  /-- it had when the window opened -/
  early : Bool
  crcOk : Bool
  deriving DecidableEq

structure AckWatch where
  /-- microseconds since CC2 captured the END of the attempt's packet, if it did -/
  sinceEnd : Option Nat := none
  matched : Bool := false
  early : Bool := false
  /-- a receive window is open, and the thread did nothing since it opened -/
  waiting : Bool := false
  reports : List Report := []

/-- CC1 is still to come: it is 500 µs behind the END. -/
def AckWatch.inTime (w : AckWatch) : Bool := w.sinceEnd.any (· < 500)

/-- What `radio_isr` makes of the attempt. -/
def AckWatch.isr (m : Machine) (w : AckWatch) : AckWatch :=
  if m.esb.snifferActive then w
  else if m.sending then
    if m.esb.ackEnabled then { w with early := w.matched, waiting := w.sinceEnd.isSome } else w
  else
    match w.waiting, m.window, w.sinceEnd with
    | true, some window, some sinceEnd =>
      let report : Report :=
        { timeout := m.timer.compare1, window, sinceEnd, matched := w.matched, early := w.early, crcOk := m.crcStatus }
      { w with waiting := false, reports := w.reports ++ [report] }
    | _, _, _ => { w with waiting := false }

/-- It watches the sends of the thread, the ends of packets, ADDRESS in a reception and `radio_isr`. -/
def ackWatch : Observer Op Event Machine AckWatch where
  exec i _ w :=
    match i with
    | .sending => { reports := w.reports }
    | .timerClear => { w with sinceEnd := none, waiting := false }
    | _ => { w with waiting := false }
  event e m w :=
    match e with
    | .tick => { w with sinceEnd := w.sinceEnd.map (· + 1) }
    | .endTx | .endRx .. => if m.ppi27 then { w with sinceEnd := some 0 } else w
    | .address => if m.radio = .rx then { w with matched := w.matched || w.inTime } else w
    | .isr => w.isr m
    | _ => w

/-- The reports of a session's run. -/
def reports (calls : List Call) (cs : List (Choice Event)) : List Report :=
  (platform.observe ackWatch cs (session calls) .boot {}).reports

/-! ## The verdict and its condition -/

/-- A good ack came in time. -/
def Report.GoodAck (r : Report) : Prop := r.matched = true ∧ r.crcOk = true

instance (r : Report) : Decidable r.GoodAck := inferInstanceAs (Decidable (_ ∧ _))

/-- `radio_isr` was late, or the counter has gone all the way round. -/
def Report.Late (r : Report) : Prop := r.early = true ∨ UInt32.size ≤ r.sinceEnd

/-- What every report says: `timeout` is COMPARE1, and where nothing was late the counter does not come to
CC1 once the address has matched. -/
structure Report.Exact (r : Report) : Prop where
  timeout : r.timeout = (r.window.latched || r.window.reached)
  kept : r.matched = true → ¬r.Late → r.window.reached = false

/-- Where COMPARE1 was not latched before the window opened, unless the counter came to CC1 anyway, a good
ack is told from a timeout if nothing was late or the counter did not come to CC1. -/
theorem Report.Exact.told_iff {r : Report} (h : r.Exact) (hf : r.window.latched = true → r.window.reached = true) :
    (r.GoodAck → r.timeout = false) ↔ (r.GoodAck → r.Late → r.window.reached = false) := by
  rw [h.timeout, Bool.or_eq_false_iff]
  constructor
  · intro hr hg _
    exact (hr hg).2
  · intro hr hg
    have hreached : r.window.reached = false := by
      by_cases hl : r.Late
      · exact hr hg hl
      · exact h.kept hg.1 hl
    exact ⟨eq_false_of_ne_true fun hl => Bool.false_ne_true (hreached.symm.trans (hf hl)), hreached⟩

/-! ## An open window -/

/-- The counter and CC1 in a window, `n` microseconds behind the END: before any capture CC1 is 500 µs
behind it; behind a capture the counter has moved on from CC1 by some `k`. -/
def OnTime (counter cc1 : UInt32) (reached : Bool) (n : Nat) (matched early : Bool) : Prop :=
  (counter + 500 = cc1 + UInt32.ofNat n ∧ (n < 500 → reached = false) ∧ matched = early) ∨
  ∃ k ≤ n, counter = cc1 + UInt32.ofNat k ∧ (n < 500 → reached = false) ∧
    (matched = true → early = false → n < UInt32.size → reached = false)

section OnTime

variable {counter cc1 : UInt32} {reached matched early : Bool} {n : Nat}

theorem ofNat_succ (k : Nat) : UInt32.ofNat (k + 1) = UInt32.ofNat k + 1 := UInt32.ofNat_add k 1

theorem OnTime.kept (h : OnTime counter cc1 reached n matched early) (hm : matched = true) (he : early = false)
    (hn : n < UInt32.size) : reached = false := by
  rcases h with ⟨-, -, h⟩ | ⟨k, -, -, -, h⟩
  · rw [hm, he] at h
    exact nomatch h
  · exact h hm he hn

/-- One microsecond; the counter comes to CC1 500 µs behind the END, or a whole round behind a capture. -/
theorem OnTime.tick (h : OnTime counter cc1 reached n matched early) :
    OnTime (counter + 1) cc1 (reached || decide (counter + 1 = cc1)) (n + 1) matched early := by
  rcases h with ⟨hc, hr, hm⟩ | ⟨k, hk, hc, hr, hm⟩
  · refine .inl ⟨by rw [ofNat_succ]; grind, fun hn => ?_, hm⟩
    have hne : counter + 1 ≠ cc1 := by
      intro hq
      have h500 : (500 : UInt32) = UInt32.ofNat (n + 1) := by rw [ofNat_succ]; grind
      have := congrArg UInt32.toNat h500
      rw [UInt32.toNat_ofNat'] at this
      change 500 = _ at this
      omega
    rw [hr (by omega), decide_eq_false hne]
    rfl
  · have hsize : UInt32.size = 4294967296 := rfl
    have hne : n + 1 < UInt32.size → counter + 1 ≠ cc1 := by
      intro hn hq
      have h0 : (0 : UInt32) = UInt32.ofNat (k + 1) := by rw [ofNat_succ]; grind
      have := congrArg UInt32.toNat h0
      rw [UInt32.toNat_ofNat'] at this
      change 0 = _ at this
      omega
    refine .inr ⟨k + 1, by omega, by rw [ofNat_succ]; grind, fun hn => ?_, fun h1 h2 h3 => ?_⟩
    · rw [hr (by omega), decide_eq_false (hne (by omega))]
      rfl
    · rw [hm h1 h2 (by omega), decide_eq_false (hne h3)]
      rfl

/-- ADDRESS captures CC1, and is a match in time only in the first 500 µs. -/
theorem OnTime.capture (h : OnTime counter cc1 reached n matched early) {matched' : Bool}
    (hm : matched' = true → matched = true ∨ n < 500) : OnTime counter counter reached n matched' early := by
  have hreached : n < 500 → reached = false := by
    rcases h with ⟨-, h, -⟩ | ⟨k, -, -, h, -⟩
    · exact h
    · exact h
  refine .inr ⟨0, Nat.zero_le n, (UInt32.add_zero counter).symm, hreached, fun h1 h2 h3 => ?_⟩
  rcases hm h1 with hm | hn
  · exact h.kept hm h2 h3
  · exact hreached hn

end OnTime

/-! ## The invariant -/

/-- The notes go with the machine: CC2 is the time of the END, and an open window is on time. -/
structure WatchInv (m : Machine) (w : AckWatch) : Prop where
  windows : WindowInv m
  ended : ∀ n, w.sinceEnd = some n → m.timer.counter = m.timer.cc2 + UInt32.ofNat n
  waiting : w.waiting = true → ∃ window n, m.window = some window ∧ w.sinceEnd = some n ∧ m.ppi26 = true ∧
    m.ppi27 = false ∧ OnTime m.timer.counter m.timer.cc1 window.reached n w.matched w.early
  reports : ∀ r ∈ w.reports, r.Exact ∧ .verdict r.timeout (some r.window) ∈ m.trace

/-- The reports stay true while the trace grows. -/
theorem WatchInv.reported {m m' : Machine} {w : AckWatch} (h : WatchInv m w) (hx : Extends m m') :
    ∀ r ∈ w.reports, r.Exact ∧ .verdict r.timeout (some r.window) ∈ m'.trace := by
  obtain ⟨es, hes⟩ := hx
  intro r hr
  obtain ⟨hexact, htrace⟩ := h.reports r hr
  rw [hes]
  exact ⟨hexact, List.mem_append_left es htrace⟩

/-! ## Moves -/

/-- Nothing a window depends on changed. -/
structure Clock (m m' : Machine) : Prop where
  timer : m'.timer = m.timer
  window : m'.window = m.window
  ppi26 : m'.ppi26 = m.ppi26
  ppi27 : m'.ppi27 = m.ppi27

theorem Clock.trans {a b c : Machine} (h : Clock a b) (h' : Clock b c) : Clock a c :=
  ⟨h'.timer.trans h.timer, h'.window.trans h.window, h'.ppi26.trans h.ppi26, h'.ppi27.trans h.ppi27⟩

theorem clock_rel : RadioRel Clock where
  refl _ := ⟨rfl, rfl, rfl, rfl⟩
  trans h h' := h.trans h'
  radio _ _ := ⟨rfl, rfl, rfl, rfl⟩
  raiseDisabled _ := ⟨rfl, rfl, rfl, rfl⟩
  transmit _ _ := ⟨rfl, rfl, rfl, rfl⟩
  latch _ := ⟨rfl, rfl, rfl, rfl⟩
  buffers _ _ := ⟨rfl, rfl, rfl, rfl⟩
  snifferRxBuffer _ _ := ⟨rfl, rfl, rfl, rfl⟩
  result _ _ _ := ⟨rfl, rfl, rfl, rfl⟩

/-- No instruction but the clear of TIMER0 touches the timer. -/
theorem timer_exec {i : Op} (h : i ≠ .timerClear) (m : Machine) : (m.exec i).timer = m.timer := by
  have htxen : ∀ m : Machine, m.taskTxen.timer = m.timer := by
    intro m
    unfold Machine.taskTxen
    split <;> rfl
  cases i with
  | txen ofAttempt =>
    cases ofAttempt with
    | true => exact htxen _
    | false => exact htxen m
  | rxen => exact (clock_rel.taskRxen m).timer
  | disable => exact (clock_rel.taskDisable m).timer
  | ppiEnable c => cases c <;> rfl
  | ppiDisable c => cases c <;> rfl
  | semTake ofAttempt => cases ofAttempt <;> rfl
  | timerClear => exact absurd rfl h
  | _ => rfl

/-- One microsecond. -/
theorem tick_spec (m : Machine) : m.tick.timer.counter = m.timer.counter + 1 ∧ m.tick.timer.cc1 = m.timer.cc1 ∧
    m.tick.timer.cc2 = m.timer.cc2 ∧ m.tick.ppi26 = m.ppi26 ∧ m.tick.ppi27 = m.ppi27 ∧
    m.tick.window =
      if m.timer.counter + 1 = m.timer.cc1 then m.window.map fun w => { w with reached := true } else m.window := by
  unfold Machine.tick Machine.raiseCompare1
  simp only
  split
  · split
    · have hc := clock_rel.taskDisable
        { m with timer := { m.timer with counter := m.timer.counter + 1 } }.matchCc1
      rw [hc.timer, hc.window, hc.ppi26, hc.ppi27]
      exact ⟨rfl, rfl, rfl, rfl, rfl, rfl⟩
    · exact ⟨rfl, rfl, rfl, rfl, rfl, rfl⟩
  · exact ⟨rfl, rfl, rfl, rfl, rfl, rfl⟩

/-- The capture at the END of a packet. -/
theorem timer_captureEnd (m : Machine) :
    m.captureEnd.timer = if m.ppi27 then { m.timer with cc2 := m.timer.counter } else m.timer := by
  unfold Machine.captureEnd
  split <;> rfl

theorem watchInv_exec (i : Op) (m : Machine) (w : AckWatch) (h : WatchInv m w) :
    WatchInv (m.exec i) (ackWatch.exec i m w) := by
  have hw := windowInv_exec i m h.windows
  have hr := h.reported (exec_extends i m)
  by_cases hc : i = .timerClear
  · subst hc
    exact ⟨hw, nofun, nofun, hr⟩
  by_cases hs : i = .sending
  · subst hs
    exact ⟨hw, nofun, nofun, hr⟩
  · have hnote : ackWatch.exec i m w = { w with waiting := false } := by
      cases i <;> first | rfl | exact absurd rfl hc | exact absurd rfl hs
    rw [hnote]
    refine ⟨hw, fun n hn => ?_, nofun, hr⟩
    rw [timer_exec hc]
    exact h.ended n hn

theorem watchInv_tick {m : Machine} {w : AckWatch} (h : WatchInv m w) :
    WatchInv m.tick { w with sinceEnd := w.sinceEnd.map (· + 1) } := by
  obtain ⟨hcount, hcc1, hcc2, h26, h27, hwin⟩ := tick_spec m
  refine ⟨windowInv_tick h.windows, fun n hn => ?_, fun hw => ?_, h.reported (event_extends (e := .tick) rfl)⟩
  · obtain ⟨k, hk, rfl⟩ := Option.map_eq_some_iff.mp hn
    rw [hcount, hcc2, ofNat_succ, h.ended k hk]
    grind
  · obtain ⟨window, n, hm, hn, hp26, hp27, ht⟩ := h.waiting hw
    rw [hcount, hcc1, h26, h27, hwin, hm, hn]
    refine ⟨{ window with reached := window.reached || decide (m.timer.counter + 1 = m.timer.cc1) }, n + 1, ?_, rfl,
      hp26, hp27, ht.tick⟩
    split
    · rename_i hq
      simp [hq]
    · rename_i hq
      simp [hq]

/-- The radio goes on, with the timer and the window as they are. -/
theorem WatchInv.clock {m m' : Machine} {w : AckWatch} (h : WatchInv m w) (hw : WindowInv m') (hx : Extends m m')
    (hc : Clock m m') : WatchInv m' w := by
  refine ⟨hw, ?_, ?_, h.reported hx⟩
  · rw [hc.timer]
    exact h.ended
  · rw [hc.timer, hc.window, hc.ppi26, hc.ppi27]
    exact h.waiting

theorem watchInv_address {m m' : Machine} {w : AckWatch} (h : WatchInv m w) (he : m.event .address = some m') :
    WatchInv m' (if m.radio = .rx then { w with matched := w.matched || w.inTime } else w) := by
  have hw := windowInv_event .address m m' he h.windows
  have hx := event_extends he
  have hm : m' = if m.ppi26 then { m with timer := { m.timer with cc1 := m.timer.counter } } else m := by
    simp only [Machine.event, Machine.address] at he
    split at he
    · exact (Option.some.inj he).symm
    · cases he
  -- the notes but for `matched`, which is set in time only
  obtain ⟨matched, hn, hmatched⟩ : ∃ matched,
      (if m.radio = .rx then { w with matched := w.matched || w.inTime } else w) = { w with matched } ∧
        (matched = true → w.matched = true ∨ w.inTime = true) := by
    split
    · exact ⟨_, rfl, fun h => Bool.or_eq_true_iff.mp h⟩
    · exact ⟨w.matched, rfl, Or.inl⟩
  rw [hn]
  refine ⟨hw, fun n hs => ?_, fun hwait => ?_, h.reported hx⟩
  · have he := h.ended n hs
    rw [hm]
    split <;> exact he
  · obtain ⟨window, n, hwin, hs, hp26, hp27, ht⟩ := h.waiting hwait
    rw [hm.trans (if_pos hp26)]
    refine ⟨window, n, hwin, hs, hp26, hp27, ht.capture fun hm' => ?_⟩
    refine (hmatched hm').imp_right fun hi => ?_
    unfold AckWatch.inTime at hi
    rw [hs] at hi
    exact of_decide_eq_true hi

theorem watchInv_end {e : Event} {m m' : Machine} {w : AckWatch} (h : WatchInv m w) (he : m.event e = some m')
    (hend : e.isEnd = true) : WatchInv m' (if m.ppi27 then { w with sinceEnd := some 0 } else w) := by
  have hw := windowInv_event e m m' he h.windows
  have hx := event_extends he
  obtain ⟨m₁, h₁, h₂⟩ : ∃ m₁, Clock m m₁ ∧ Clock m₁.captureEnd m' := by
    have hc := clock_rel.event he (by rintro rfl; cases hend) (by rintro rfl; cases hend) (by rintro rfl; cases hend)
    rwa [hend, if_pos rfl] at hc
  have ht : m'.timer = if m.ppi27 then { m.timer with cc2 := m.timer.counter } else m.timer := by
    rw [h₂.timer, timer_captureEnd, h₁.timer, h₁.ppi27]
  cases hp : m.ppi27 with
  | true =>
    -- CC2 is captured anew, and no window is open
    rw [hp, if_pos rfl] at ht
    rw [if_pos rfl]
    refine ⟨hw, fun n hn => ?_, fun hwait => ?_, h.reported hx⟩
    · cases hn
      rw [ht]
      exact (UInt32.add_zero _).symm
    · obtain ⟨-, -, -, -, -, hp27, -⟩ := h.waiting hwait
      exact absurd (hp.symm.trans hp27) nofun
  | false =>
    rw [hp, if_neg Bool.false_ne_true] at ht
    rw [if_neg Bool.false_ne_true]
    have hcap : Clock m₁ m₁.captureEnd := by
      have hf : m₁.captureEnd = m₁ := if_neg (by rw [h₁.ppi27, hp]; exact Bool.false_ne_true)
      rw [hf]
      exact clock_rel.refl m₁
    exact h.clock hw hx (h₁.trans (hcap.trans h₂))

theorem extends_radioIsr (m : Machine) : Extends m m.radioIsr := by
  rcases radioIsr_cases m with hm | hm | hm | hm <;> rw [hm]
  · exact extends_same rfl
  · exact extends_same rfl
  · exact extends_same rfl
  · exact ⟨_, rfl⟩

theorem isrSent_timer (m : Machine) : m.isrSent.timer = { m.timer with cc1 := m.timer.cc2 + 500 } := by
  rw [Machine.isrSent]

/-- The handler sets CC1 only. -/
theorem radioIsr_timer (m : Machine) :
    m.radioIsr.timer.counter = m.timer.counter ∧ m.radioIsr.timer.cc2 = m.timer.cc2 := by
  rcases radioIsr_cases m with hm | hm | hm | hm <;> rw [hm]
  · exact ⟨rfl, rfl⟩
  · rw [isrSent_timer]
    exact ⟨rfl, rfl⟩
  · exact ⟨rfl, rfl⟩
  · exact ⟨rfl, rfl⟩

theorem watchInv_isr {m : Machine} {w : AckWatch} (h : WatchInv m w) : WatchInv m.radioIsr (w.isr m) := by
  have hw := windowInv_radioIsr h.windows
  have hx := extends_radioIsr m
  have hr := h.reported hx
  have hended : ∀ n, w.sinceEnd = some n → m.radioIsr.timer.counter = m.radioIsr.timer.cc2 + UInt32.ofNat n := by
    rw [(radioIsr_timer m).1, (radioIsr_timer m).2]
    exact h.ended
  unfold AckWatch.isr
  by_cases hn : m.esb.snifferActive = true
  · rw [if_pos hn]
    rw [radioIsr_sniffing hn] at hw hx ⊢
    exact h.clock hw hx ⟨rfl, rfl, rfl, rfl⟩
  rw [if_neg hn]
  have hn := eq_false_of_ne_true hn
  by_cases hs : m.sending = true
  · rw [if_pos hs]
    by_cases ha : m.esb.ackEnabled = true
    · -- the window opens, with CC1 500 µs behind the END
      rw [if_pos ha]
      rw [radioIsr_sent hn hs ha] at hw hr hended ⊢
      refine ⟨hw, hended, fun hwait => ?_, hr⟩
      obtain ⟨n, hsince⟩ := Option.isSome_iff_exists.mp hwait
      refine ⟨_, n, rfl, hsince, rfl, rfl, .inl ⟨?_, fun _ => rfl, rfl⟩⟩
      have hcount : m.timer.counter = m.timer.cc2 + UInt32.ofNat n := h.ended n hsince
      rw [isrSent_timer]
      show m.timer.counter + 500 = m.timer.cc2 + 500 + UInt32.ofNat n
      rw [hcount]
      grind
    · rw [if_neg ha]
      rw [radioIsr_given hn hs (eq_false_of_ne_true ha)] at hw hx ⊢
      exact h.clock hw hx ⟨rfl, rfl, rfl, rfl⟩
  · rw [if_neg hs]
    have hisr := radioIsr_received hn (eq_false_of_ne_true hs)
    split
    · -- the verdict on the window
      rename_i hwait hwin hsince
      refine ⟨hw, hended, nofun, fun r hmem => ?_⟩
      rcases List.mem_append.mp hmem with hmem | hmem
      · exact hr r hmem
      · obtain rfl := List.mem_singleton.mp hmem
        obtain ⟨window, n, hwin', hsince', -, -, ht⟩ := h.waiting hwait
        rw [hwin] at hwin'
        rw [hsince] at hsince'
        cases hwin'
        cases hsince'
        refine ⟨⟨h.windows.latch _ hwin, fun hmatched hlate => ?_⟩, ?_⟩
        · have hearly : w.early = false := eq_false_of_ne_true fun he => hlate (.inl he)
          exact ht.kept hmatched hearly (Nat.lt_of_not_le fun hle => hlate (.inr hle))
        · rw [hisr, ← hwin]
          exact List.mem_append_right m.trace List.mem_cons_self
    · exact ⟨hw, hended, nofun, hr⟩

theorem watchInv_event (e : Event) (m m' : Machine) (w : AckWatch) (he : m.event e = some m') (h : WatchInv m w) :
    WatchInv m' (ackWatch.event e m w) := by
  have hradio : e ≠ .tick → e ≠ .address → e ≠ .isr → e.isEnd = false → WatchInv m' w := by
    intro ht ha hi hend
    have hc := clock_rel.event he ht ha hi
    rw [hend] at hc
    exact h.clock (windowInv_event e m m' he h.windows) (event_extends he) hc
  cases e with
  | tick =>
    cases he
    exact watchInv_tick h
  | address => exact watchInv_address h he
  | endTx => exact watchInv_end h he rfl
  | endRx f crcOk rssi => exact watchInv_end h he rfl
  | isr =>
    obtain ⟨-, -, rfl⟩ := event_isr he
    exact watchInv_isr h
  | ready => exact hradio nofun nofun nofun rfl
  | rampedDown => exact hradio nofun nofun nofun rfl

/-! ## Every run -/

/-- In a run of the driver `timeout` says that the counter came to CC1 in the window, and no good ack is
taken for a timeout, exactly if no window opens with COMPARE1 latched but for those in which the counter
then comes to CC1, and it does not come to CC1 in the window of a good ack that was late. -/
theorem timely_iff_fresh {calls : List Call} {cs : List (Choice Event)} {t : Code Unit} {m : Machine}
    (h : platform.run cs (session calls) .boot = some (t, m)) :
    ((∀ e ∈ m.trace, e.Timely) ∧ ∀ r ∈ reports calls cs, r.GoodAck → r.timeout = false) ↔
      (∀ e ∈ m.trace, e.Fresh) ∧ ∀ r ∈ reports calls cs, r.GoodAck → r.Late → r.window.reached = false := by
  have hboot : WatchInv Machine.boot {} := ⟨windowInv_boot, nofun, nofun, nofun⟩
  have hw : WatchInv m (platform.observe ackWatch cs (session calls) .boot {}) :=
    platform.observe_invariant watchInv_exec watchInv_event cs h hboot
  have htimely : (∀ e ∈ m.trace, e.Timely) ↔ ∀ e ∈ m.trace, e.Fresh :=
    forall₂_congr fun e he => (hw.windows.verdicts e he).timely_iff
  rw [htimely]
  refine and_congr_right fun hfresh => forall₂_congr fun r hr => ?_
  obtain ⟨hexact, htrace⟩ := hw.reports r hr
  exact hexact.told_iff (hfresh _ htrace)

/-- One acked call from boot. -/
def ackedSend : List (Choice Event) := threadSteps 21 ++ hardware ackedAttempt

/-- Its ack is told from a timeout. -/
theorem timely_acked : ∃ (t : Code Unit) (m : Machine),
    platform.run ackedSend (session [.sendPacket {} 0 0]) .boot = some (t, m) ∧
    reports [.sendPacket {} 0 0] ackedSend = [⟨false, { latched := false }, 1, true, false, true⟩] ∧
    (∀ e ∈ m.trace, e.Timely) ∧ ∀ r ∈ reports [.sendPacket {} 0 0] ackedSend, r.GoodAck → r.timeout = false := by
  have hrun : (platform.run ackedSend (session [.sendPacket {} 0 0]) .boot).map (·.2.trace) =
      some [.txen 0, .verdict false (some { latched := false })] := by decide +kernel
  have hreports : reports [.sendPacket {} 0 0] ackedSend = [⟨false, { latched := false }, 1, true, false, true⟩] := by
    decide +kernel
  obtain ⟨p, hp, ht⟩ := Option.map_eq_some_iff.mp hrun
  refine ⟨p.1, p.2, hp, hreports, (timely_iff_fresh hp).mpr ⟨fun e he => ?_, fun r hr _ hl => ?_⟩⟩
  · rw [ht] at he
    simp only [List.mem_cons, List.not_mem_nil, or_false] at he
    rcases he with rfl | rfl
    · trivial
    · exact fun hl => (nomatch hl)
  · rw [hreports, List.mem_singleton] at hr
    rw [hr]

/-- A call that is acked, a sniffer session that clears TIMER0 and lasts until the counter passes the CC1
of the exchange before it, and another call that is acked. -/
def staleCalls : List Call := [.sendPacket {} 0 0, .snifferStart, .snifferStop, .sendPacket {} 0 0]

def staleSteps : List (Choice Event) :=
  ackedSend ++ threadSteps 28 ++ hardware [.tick, .tick, .tick] ++ threadSteps 5 ++ hardware [.rampedDown, .isr] ++
    threadSteps 31 ++ hardware ackedAttempt

/-- The second ack is taken for a timeout. -/
theorem stale_timeout : ¬ ∀ (calls : List Call) (cs : List (Choice Event)) (t : Code Unit) (m : Machine),
    platform.run cs (session calls) .boot = some (t, m) →
    (∀ e ∈ m.trace, e.Timely) ∧ ∀ r ∈ reports calls cs, r.GoodAck → r.timeout = false := by
  intro h
  have hrun : (platform.run staleSteps (session staleCalls) .boot).isSome = true := by decide +kernel
  obtain ⟨p, hp⟩ := Option.isSome_iff_exists.mp hrun
  have hlost : ⟨true, { latched := true }, 1, true, false, true⟩ ∈ reports staleCalls staleSteps := by decide +kernel
  have hkept := (h staleCalls staleSteps p.1 p.2 hp).2 _ hlost (by decide)
  exact nomatch hkept

end Crazyradio.Driver
