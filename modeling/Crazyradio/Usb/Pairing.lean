/-
Answers and data commands over a whole run. `Device.report` is what the answer to the packet built
says, and `expects` the format the host reads it in, if it expects one. In a run the IN endpoint
gets exactly these answers and the records polled in sniffer mode if and only if every act `Pairs`;
one that does not faults or writes too much, which no later act makes up for.
-/
import Crazyradio.Usb.Answers
import Crazyradio.Usb.Records

namespace Crazyradio.Usb

/-! ## The answer to one packet -/

/-- The format of the answer a data command is to get, if any. -/
def HostView.expects (v : HostView) : Option AnswerFormat :=
  if v.format = .plain ∧ v.ackEnabled = false then none else some v.format

/-- What is to be said of a packet handed to the driver: without an inline header nothing but a zero
byte if it was not acked. -/
def sentReport (acked : Bool) (d : Device) : Answer :=
  let r := inlineReport acked d
  if d.state.inlineMode || acked then r else { r with payload := [] }

/-- What is to be said of a packet with settings that are not handled. -/
def invalidReport : Answer :=
  { acked := false, rssiLt64dbm := false, invalidSettings := true, retries := 0, rssiDbm := 0, payload := [] }

/-- What the answer to the packet built in `d` is to say. -/
def Device.report (env : Env) (d : Device) : Answer :=
  if d.state.handled then sentReport (usbSend env d).1 (capAck (usbSend env d).2) else invalidReport

theorem plainBytes_eq (acked : Bool) {d : Device} (hi : d.state.inlineMode = false) (ha : d.state.ackEnabled = true) :
    plainBytes acked d = some ((sentReport acked d).encode .plain) := by
  unfold plainBytes sentReport
  rw [ha, hi]
  cases acked with
  | false => rfl
  | true =>
    have hr : d.usb.retry &&& 15 &&& 15 = d.usb.retry &&& 15 := by rw [UInt8.and_assoc, UInt8.and_self]
    simp [Answer.encode, Answer.status, inlineReport, inlineTail, ha, hr]

theorem invalidBytes_eq (s : State) : invalidBytes s = invalidReport.encode s.format := by
  unfold invalidBytes
  cases hi : s.inlineMode with
  | true =>
    rw [← inlineHeader_append hi, if_pos rfl]
    exact (List.append_nil _).symm
  | false => rw [State.format_plain hi]; rfl

theorem plain_iff {v : HostView} {d : Device} (h : Settled v d) :
    v.format = .plain ↔ d.state.inlineMode = false := by rw [← h.1.format, State.format_eq_plain_iff]

/-- Behind the guard the answer expected is written, unless none is and the settings are not handled. -/
theorem guardedBytes_eq (env : Env) {v : HostView} {d : Device} (h : Settled v d)
    (hc : v.expects ≠ none ∨ v.passesGuard) :
    guardedBytes env d = v.expects.map (d.report env).encode := by
  have hf := plain_iff h
  unfold guardedBytes Device.report
  by_cases hg : d.state.handled = true
  · let D := (usbSend env d).2
    have hDi : (capAck D).state.inlineMode = d.state.inlineMode := congrArg State.inlineMode (capAck_state D)
    have hDa : (capAck D).state.ackEnabled = d.state.ackEnabled := congrArg State.ackEnabled (capAck_state D)
    have hDf : (capAck D).state.format = v.format := (congrArg State.format (capAck_state D)).trans h.1.format
    rw [if_pos hg, if_pos hg]
    unfold answerBytes HostView.expects
    show (if d.state.inlineMode = true then _ else _) = _
    cases hi : d.state.inlineMode with
    | true =>
      have hn : ¬(v.format = .plain ∧ v.ackEnabled = false) := fun hn => by rw [hf.mp hn.1] at hi; exact nomatch hi
      rw [if_pos rfl, if_neg hn, inlineBytes_eq _ (hDi.trans hi) (capAck_length_le D), hDf]
      unfold sentReport
      rw [hDi, hi]
      rfl
    | false =>
      rw [if_neg Bool.false_ne_true, hf.mpr hi, ← h.1.ack]
      cases ha : d.state.ackEnabled with
      | false => unfold plainBytes; rw [hDa, ha]; rfl
      | true => exact plainBytes_eq _ (hDi.trans hi) (hDa.trans ha)
  · have he : v.expects ≠ none := hc.resolve_right fun hp => hg (h.1.handled_iff.mpr hp)
    unfold HostView.expects at he ⊢
    split at he
    · exact absurd rfl he
    · rename_i hn
      rw [if_neg hg, if_neg hg, if_neg hn, invalidBytes_eq, h.1.format]
      rfl

/-! ## One data command -/

/-- The command's copies go through, and where no answer is expected the settings are handled. -/
def HostView.Answerable (v : HostView) (c : DataCommand) : Prop :=
  if v.format = .plain then v.ackEnabled = true ∨ v.passesGuard ∧ c.length ≠ 128
  else 8 ≤ (inlineModeOutHeader c.payload).length.toNat

/-- The writes an act is to make: the answer to a data command outside sniffer mode, and the first
record of the queue in sniffer mode. -/
def Act.answers (env : Env) (v : HostView) (d : Device) : Act → List (List UInt8)
  | .command (.data c) =>
    if v.sniffer then []
    else
      match buildPacket env c d with
      | .ok d' => (v.expects.map (d'.report env).encode).toList
      | .error _ => []
  | .poll => if v.sniffer then (d.snifferQueue.head?.map recordWrites).getD [] else []
  | _ => []

/-- When an act writes what it is to write: a data command is answerable, and a poll outside sniffer
mode finds no record left in the queue. -/
def Act.Pairs (v : HostView) (d : Device) : Act → Prop
  | .command (.data c) => v.sniffer = false → v.Answerable c
  | .poll => v.sniffer = false → d.snifferQueue = []
  | _ => True

/-- The copies of a data command outside sniffer mode go through where it is answerable. -/
theorem copies_of_answerable {v : HostView} {c : DataCommand} {d : Device} (h : Settled v d) (hc : v.Answerable c) :
    d.copies c = true := by
  have hf := plain_iff h
  unfold Device.copies Device.broadcasts
  unfold HostView.Answerable at hc
  cases hi : d.state.inlineMode with
  | true =>
    rw [if_neg (by rw [hf, hi]; exact Bool.noConfusion)] at hc
    rw [if_pos rfl, decide_eq_true_iff]
    exact hc
  | false =>
    rw [if_pos (hf.mpr hi), ← h.1.ack] at hc
    rw [if_neg Bool.false_ne_true]
    rcases hc with hc | ⟨-, hc⟩
    · rw [hc]; rfl
    · rw [decide_eq_false hc, Bool.and_false]; rfl

/-- Where the copies go through and the command is still not answerable, no answer is expected and the
settings are not handled. -/
theorem not_answerable {v : HostView} {c : DataCommand} {d : Device} (h : Settled v d) (hc : ¬v.Answerable c)
    (hp : d.copies c = true) : v.format = .plain ∧ v.ackEnabled = false ∧ ¬v.passesGuard := by
  have hf := plain_iff h
  unfold Device.copies Device.broadcasts at hp
  unfold HostView.Answerable at hc
  by_cases hi : v.format = .plain
  · rw [if_pos hi] at hc
    rw [hf.mp hi, if_neg Bool.false_ne_true, h.1.ack] at hp
    have ha : v.ackEnabled = false := eq_false_of_ne_true fun ha => hc (.inl ha)
    refine ⟨hi, ha, fun hg => hc (.inr ⟨hg, fun hl => ?_⟩)⟩
    rw [ha, hl] at hp
    exact nomatch hp
  · rw [if_neg hi] at hc
    have hd : d.state.inlineMode = true := eq_true_of_ne_false fun hd => hi (hf.mpr hd)
    rw [hd, if_pos rfl, decide_eq_true_iff] at hp
    exact absurd hp hc

/-- The settings of an inline header change neither the format nor whether an answer is expected. -/
theorem expects_after {v : HostView} (hs : v.sniffer = false) (c : DataCommand) :
    (v.after (.command (.data c))).expects = v.expects ∧
      (v.format = .plain → v.after (.command (.data c)) = v) := by
  have hv : v.inline = true ↔ v.format ≠ .plain := by unfold HostView.inline; rw [hs]; simp
  rw [HostView.after_data]
  by_cases hi : v.inline = true
  · have hp := hv.mp hi
    refine ⟨?_, fun h => absurd h hp⟩
    rw [if_pos hi]
    unfold HostView.expects
    have hf : ((inlineModeOutHeader c.payload).select v).format = v.format := rfl
    rw [hf, if_neg fun hn => hp hn.1, if_neg fun hn => hp hn.1]
  · rw [if_neg hi]
    exact ⟨rfl, fun _ => rfl⟩

/-! ## One act -/

theorem inWrites_radioIsrSniffer (r : Reception) (d : Device) : (radioIsrSniffer r d).inWrites = d.inWrites := by
  unfold radioIsrSniffer snifferRxCallback
  simp only
  split
  · split <;> rfl
  · rfl

/-- The act adds the writes it is to make if it pairs, and more if not. -/
def Writes (env : Env) (v : HostView) (d d' : Device) (a : Act) : Prop :=
  ∃ ws, d'.inWrites = d.inWrites ++ ws ∧ (a.Pairs v d → ws = a.answers env v d) ∧
    (¬a.Pairs v d → (a.answers env v d).length < ws.length)

/-- An act that is to write nothing and does not. -/
theorem writes_nothing {env : Env} {v : HostView} {d d' : Device} {a : Act} (hp : a.Pairs v d)
    (ha : a.answers env v d = []) (hw : d'.inWrites = d.inWrites) : Writes env v d d' a :=
  ⟨[], by rw [hw, List.append_nil], fun _ => ha.symm, fun h => absurd hp h⟩

theorem writes_data {env : Env} {v : HostView} {c : DataCommand} {d d' : Device} (h : Settled v d)
    (hs : v.sniffer = false) (hd : handleCommand env (.data c) d = .ok d') :
    Writes env v d d' (.command (.data c)) := by
  have hsd : d.state.snifferMode = false := h.1.sniffer.trans hs
  have hcp := (handleCommand_data_isOk_iff env c hsd).mp ⟨d', hd⟩
  obtain ⟨d₁, b, p, hb, rfl⟩ := handleCommand_data_cases hsd hd
  obtain ⟨hex, hplain⟩ := expects_after hs c
  have h₁ : Settled (v.after (.command (.data c))) d₁ := (settled_settings h hsd c).of_kept (kept_buildPacket hb)
  have ha : Act.answers env v d (.command (.data c)) = (v.expects.map (d₁.report env).encode).toList := by
    simp only [Act.answers, hb, hs, Bool.false_eq_true, if_false]
  refine ⟨(guardedBytes env d₁).toList, ?_, fun hc => ?_, fun hc => ?_⟩
  · show (guardedSend env d₁).inWrites ++ _ = _
    rw [inWrites_guardedSend, inWrites_buildPacket hb]
  · have hc : v.Answerable c := hc hs
    rw [ha, ← hex, guardedBytes_eq env h₁ ?_]
    rw [hex]
    unfold HostView.expects HostView.Answerable at *
    split
    · rename_i hn
      rw [if_pos hn.1, hn.2, or_iff_right Bool.false_ne_true] at hc
      rw [hplain hn.1]
      exact .inr hc.1
    · exact .inl (by simp)
  · -- a broadcast the guard refuses gets the zero byte of the `else` branch
    have hc : ¬v.Answerable c := fun h => hc fun _ => h
    obtain ⟨hf, hack, hg⟩ := not_answerable h hc hcp
    rw [hplain hf] at h₁
    have hn : v.expects = none := if_pos ⟨hf, hack⟩
    have hw : guardedBytes env d₁ = some (invalidBytes d₁.state) := if_neg fun hd => hg (h₁.1.handled_iff.mp hd)
    rw [ha, hn, hw]
    exact Nat.zero_lt_one

theorem writes_act {env : Env} {v : HostView} {d d' : Device} {a : Act} (h : Settled v d)
    (hd : d.act env a = .ok d') : Writes env v d d' a := by
  cases a with
  | command c =>
    cases c with
    | setup s =>
      obtain rfl := act_setup hd
      exact writes_nothing trivial rfl (inWrites_apply s.decode d)
    | data c =>
      cases hs : v.sniffer with
      | false => exact writes_data h hs hd
      | true =>
        have hd : snifferData c d = .ok d' := (if_pos (h.1.sniffer.trans hs)).symm.trans hd
        exact writes_nothing (fun hn => nomatch hs.symm.trans hn) (if_pos hs) (sessionKept_snifferData hd).writes
  | scan start stop data =>
    cases hd
    exact writes_nothing trivial rfl (sessionKept_fwScan env start stop data d).writes
  | poll =>
    have hd : pollSniffer d = .ok d' := hd
    cases hq : d.snifferQueue with
    | nil =>
      unfold pollSniffer at hd
      rw [hq] at hd
      cases hd
      refine writes_nothing (fun _ => hq) ?_ rfl
      simp [Act.answers, hq]
    | cons p rest =>
      obtain ⟨b, hp⟩ := pollSniffer_cons hq
      rw [hp] at hd
      cases hd
      refine ⟨recordWrites p, rfl, fun hc => ?_, fun hc => ?_⟩
      · have hs : v.sniffer = true := eq_true_of_ne_false fun hs => List.cons_ne_nil p rest (hq.symm.trans (hc hs))
        simp [Act.answers, hq, hs]
      · -- a record left from sniffer mode
        have hs : v.sniffer = false := eq_false_of_ne_true fun hs => hc fun hn => nomatch hs.symm.trans hn
        simp [Act.answers, hs, recordWrites]
  | receive r =>
    cases hd
    refine writes_nothing trivial rfl ?_
    split
    · exact inWrites_radioIsrSniffer r d
    · rfl

/-- An act that pairs goes through. -/
theorem act_isOk {env : Env} {v : HostView} {d : Device} {a : Act} (h : Settled v d) (hp : a.Pairs v d) :
    ∃ d', d.act env a = .ok d' := by
  cases a with
  | command c =>
    cases c with
    | setup s => exact ⟨_, rfl⟩
    | data c =>
      show ∃ d', handleCommand env (.data c) d = .ok d'
      cases hs : v.sniffer with
      | false =>
        exact (handleCommand_data_isOk_iff env c (h.1.sniffer.trans hs)).mpr (copies_of_answerable h (hp hs))
      | true =>
        obtain ⟨d', hd⟩ := snifferData_isOk c d
        exact ⟨d', (if_pos (h.1.sniffer.trans hs)).trans hd⟩
  | scan start stop data => exact ⟨_, rfl⟩
  | poll =>
    obtain ⟨q, b, w, hp⟩ := pollSniffer_spec d
    exact ⟨_, hp⟩
  | receive r => exact ⟨_, rfl⟩

/-! ## Runs -/

/-- Every act of the run pairs in the state it finds. -/
def AllPair (env : Env) : HostView → Device → List Act → Prop
  | _, _, [] => True
  | v, d, a :: as => a.Pairs v d ∧ ∀ d', d.act env a = .ok d' → AllPair env (v.after a) d' as

/-- The writes a run is to make. -/
def expectedWrites (env : Env) : HostView → Device → List Act → List (List UInt8)
  | _, _, [] => []
  | v, d, a :: as =>
    match d.act env a with
    | .ok d' => a.answers env v d ++ expectedWrites env (v.after a) d' as
    | .error _ => []

theorem run_isOk (env : Env) : ∀ (as : List Act) {v : HostView} {d : Device}, Settled v d → AllPair env v d as →
    ∃ d', d.run env as = .ok d'
  | [], _, d, _, _ => ⟨d, rfl⟩
  | a :: as, v, d, h, ⟨hp, hrest⟩ => by
    obtain ⟨d₁, hd⟩ : ∃ d₁, d.act env a = .ok d₁ := act_isOk h hp
    obtain ⟨d', hr⟩ := run_isOk env as (settled_act env h hd) (hrest d₁ hd)
    refine ⟨d', ?_⟩
    rw [Device.run, hd]
    exact hr

/-- A run adds the writes it is to make if every act pairs, and more if one does not. -/
theorem writes_run (env : Env) : ∀ (as : List Act) {v : HostView} {d d' : Device}, Settled v d →
    d.run env as = .ok d' → ∃ ws, d'.inWrites = d.inWrites ++ ws ∧
      (AllPair env v d as → ws = expectedWrites env v d as) ∧
      (¬AllPair env v d as → (expectedWrites env v d as).length < ws.length)
  | [], v, d, d', _, hr => by
    cases hr
    exact ⟨[], (List.append_nil _).symm, fun _ => rfl, fun h => absurd trivial h⟩
  | a :: as, v, d, d', h, hr => by
    unfold Device.run at hr
    cases hd : d.act env a with
    | error f =>
      rw [hd] at hr
      cases hr
    | ok d₁ =>
      rw [hd] at hr
      obtain ⟨ws₁, hw₁, heq₁, hlt₁⟩ := writes_act h hd
      obtain ⟨ws, hw, heq, hlt⟩ := writes_run env as (settled_act env h hd) hr
      have hall : AllPair env v d (a :: as) ↔ a.Pairs v d ∧ AllPair env (v.after a) d₁ as := by
        refine and_congr_right fun _ => ⟨fun hn => hn d₁ hd, fun hn d₂ hd₂ => ?_⟩
        rw [hd] at hd₂
        cases hd₂
        exact hn
      have hexp : expectedWrites env v d (a :: as) = a.answers env v d ++ expectedWrites env (v.after a) d₁ as := by
        rw [expectedWrites, hd]
      rw [hexp, hall, List.length_append]
      refine ⟨ws₁ ++ ws, by rw [hw, hw₁, List.append_assoc], ?_, fun hn => ?_⟩
      · rintro ⟨h₁, h₂⟩
        rw [heq₁ h₁, heq h₂]
      · rw [List.length_append]
        -- neither part writes too little, and one of them too much
        have hle₁ : (a.answers env v d).length ≤ ws₁.length := by
          by_cases h₁ : a.Pairs v d
          · exact Nat.le_of_eq (congrArg List.length (heq₁ h₁).symm)
          · exact Nat.le_of_lt (hlt₁ h₁)
        have hle : (expectedWrites env (v.after a) d₁ as).length ≤ ws.length := by
          by_cases h₂ : AllPair env (v.after a) d₁ as
          · exact Nat.le_of_eq (congrArg List.length (heq h₂).symm)
          · exact Nat.le_of_lt (hlt h₂)
        by_cases h₁ : a.Pairs v d
        · have := hlt fun h₂ => hn ⟨h₁, h₂⟩
          omega
        · have := hlt₁ h₁
          omega

/-- The run goes through, and what it writes since boot is what it is to write. -/
def AnswersPair (env : Env) (as : List Act) : Prop :=
  ∃ d, boot.run env as = .ok d ∧ d.inWrites = expectedWrites env {} boot as

/-- Answers and commands pair one-to-one in exactly the runs all of whose acts pair. -/
theorem answersPair_iff (env : Env) (as : List Act) : AnswersPair env as ↔ AllPair env {} boot as := by
  have hboot : Settled {} boot := ⟨tracks_boot, devInv_boot⟩
  constructor
  · rintro ⟨d, hr, hw⟩
    obtain ⟨ws, hws, -, hlt⟩ := writes_run env as hboot hr
    by_contra hn
    have hws : d.inWrites = ws := hws
    have := hlt hn
    rw [← hw, hws] at this
    exact Nat.lt_irrefl _ this
  · intro h
    obtain ⟨d, hr⟩ := run_isOk env as hboot h
    obtain ⟨ws, hws, heq, -⟩ := writes_run env as hboot hr
    exact ⟨d, hr, hws.trans (heq h)⟩

/-- A byte sent with auto-ack disabled and 250K selected. -/
def byteAt250K : List Act :=
  [.command (.setup { setupPacket := hostRequest ackEnable 0 }),
    .command (.setup { setupPacket := hostRequest setDataRate 0 }),
    .command (.data (DataCommand.empty.store 0 [1] (by decide)))]

/-- No act is handled in sniffer mode. -/
def SnifferOff (as : List Act) : Prop := ∀ n < as.length, (HostView.afterAll {} (as.take n)).sniffer = false

instance (as : List Act) : Decidable (SnifferOff as) := inferInstanceAs (Decidable (∀ n < as.length, _))

/-- It is answered though no answer is expected. -/
theorem answer_to_broadcast : ¬ ∀ (env : Env) (as : List Act), SnifferOff as → AnswersPair env as := by
  intro hall
  have hoff : SnifferOff byteAt250K := by decide
  obtain ⟨d, hr, hw⟩ := hall (fun _ => .silent) byteAt250K hoff
  have hgot : (boot.run (fun _ => .silent) byteAt250K).map Device.inWrites = .ok [[0]] := rfl
  have hdue : expectedWrites (fun _ => .silent) {} boot byteAt250K = [] := rfl
  rw [hr, Except.map, hw, hdue] at hgot
  exact nomatch hgot

end Crazyradio.Usb
