/-
What the host's requests decide. The two threads handle the commands the host issues in the order of
issue, each once, whatever the interleaving; so once nothing is pending the settings are decided by the
requests alone, with scans, receptions and polls anywhere in between.
-/
import Crazyradio.Usb.DataStage
import Crazyradio.Usb.Order
import Crazyradio.Usb.Separation

namespace Crazyradio.Usb

open Bytes

/-! ## What is issued -/

/-- The event goes into a command: an OUT packet, or a request that is queued. -/
def Event.issues : Event → Bool
  | .out _ => true
  | .request setup _ => setup.isVendor && queues setup
  | _ => false

/-- The command an action of the vendor handler queues. -/
def VendorAction.commands : VendorAction → List UsbCommand
  | .queue c => [.setup c]
  | _ => []

/-- What the callbacks make of an event: their statics, and the command they queue. -/
def issue (cb : Callback) : Event → Callback × List UsbCommand
  | .out packet => ((crazyradioOutCb packet cb).1, ((crazyradioOutCb packet cb).2.map .data).toList)
  | .request setup data =>
    ((crazyradioVendorHandler setup data boot cb).1, (crazyradioVendorHandler setup data boot cb).2.commands)
  | _ => (cb, [])

/-- The commands issued in a run, by its host events. -/
def issued (cb : Callback) : List Event → List UsbCommand
  | [] => []
  | e :: es => (issue cb e).2 ++ issued (issue cb e).1 es

/-- A request that is not queued leaves the statics alone. -/
theorem vendorHandler_statics {setup : UsbSetupPacket} (h : (setup.isVendor && queues setup) = false)
    (data : List UInt8)
    (d : Device) (cb : Callback) : (crazyradioVendorHandler setup data d cb).1 = cb := by
  unfold crazyradioVendorHandler
  split
  · rename_i hv
    rw [hv, Bool.true_and] at h
    rw [h, if_neg Bool.false_ne_true]
    repeat' split
    all_goals rfl
  · rfl

theorem issue_silent {e : Event} (h : e.issues = false) (cb : Callback) : issue cb e = (cb, []) := by
  cases e with
  | out packet => cases h
  | request setup data =>
    simp only [issue, vendorHandler_statics h]
    cases hr : (crazyradioVendorHandler setup data boot cb).2 with
    | queue c =>
      -- only what is let through is queued
      have hq := (vendorHandler_queue_iff setup data boot cb).mp ⟨c, hr⟩
      rw [show (setup.isVendor && queues setup) = false from h] at hq
      cases hq
    | _ => rfl
  | _ => rfl

/-- The others make no difference. -/
theorem issued_filter : ∀ (es : List Event) (cb : Callback), issued cb (es.filter Event.issues) = issued cb es
  | [], _ => rfl
  | e :: es, cb => by
    cases h : e.issues with
    | true =>
      rw [List.filter_cons_of_pos h]
      exact congrArg ((issue cb e).2 ++ ·) (issued_filter es _)
    | false =>
      rw [List.filter_cons_of_neg (Bool.eq_false_iff.mp h), issued_filter es cb]
      show _ = (issue cb e).2 ++ issued (issue cb e).1 es
      rw [issue_silent h]
      rfl

/-- A step issues what the callbacks make of its event. -/
theorem issue_step {env : Env} {s s' : System} {e : Event} (h : s.step env e = some s') :
    issue s.cb e = (s'.cb, s.queued e) := by
  have hstep := h
  unfold System.step at h
  split at h
  · cases h
  cases e with
  | out packet =>
    rcases out_cases h with ⟨hn, rfl⟩ | ⟨c, hc, rfl⟩
    · simp only [issue, System.queued, hn]
    · simp only [issue, System.queued, hc]
  | request setup data =>
    have hcb : s'.cb = (crazyradioVendorHandler setup data s.dev s.cb).1 := by
      rcases request_cases h with ⟨c, -, rfl⟩ | ⟨start, stop, bytes, -, rfl⟩ | ⟨-, rfl⟩ | ⟨-, -, -, rfl⟩ <;> rfl
    rw [hcb]
    -- of the device only replies depend
    rcases vendorHandler_device setup data boot s.dev s.cb with heq | ⟨bytes, bytes', hb, hd⟩
    · simp only [issue, System.queued, heq]
      rfl
    · simp only [issue, System.queued, hb, hd]
      rfl
  | fetch => rcases fetch_cases h with ⟨c, rest, -, -, rfl⟩ | ⟨-, -, rfl⟩ <;> rfl
  | handle =>
    obtain ⟨c, sniffing, dev, pc, -, -, -, rfl⟩ := handle_cases h
    rfl
  | poll =>
    obtain ⟨-, dev, -, rfl⟩ := poll_cases h
    rfl
  | receive r =>
    obtain ⟨-, rfl⟩ := receive_cases hstep
    rfl

/-! ## What is handled -/

/-- The commands a run handles. -/
def System.handledAll (env : Env) : System → List Event → List UsbCommand
  | _, [] => []
  | s, e :: es =>
    (s.handled e).toList ++
      match s.step env e with
      | some s' => s'.handledAll env es
      | none => []

/-- What waited or is issued is handled in that order, or waits. -/
theorem handled_run {env : Env} : ∀ (es : List Event) {s s' : System}, s.run env es = some s' →
    s.pending ++ issued s.cb es = s.handledAll env es ++ s'.pending
  | [], s, s', h => by
    cases h
    exact List.append_nil _
  | e :: es, s, s', h => by
    obtain ⟨s₁, h₁, h₂⟩ := Option.bind_eq_some_iff.mp h
    have ih := handled_run es h₂
    show s.pending ++ ((issue s.cb e).2 ++ issued (issue s.cb e).1 es) = ((s.handled e).toList ++ _) ++ s'.pending
    rw [issue_step h₁, h₁, ← List.append_assoc, pending_step h₁, List.append_assoc, ih, List.append_assoc]

/-- The acts of one step, with the command it handles. -/
theorem step_acts_command {env : Env} {s s' : System} {e : Event} (h : s.step env e = some s') :
    ∃ as : List Act, s.dev.run env as = .ok s'.dev ∧ as.filterMap Act.command? = (s.handled e).toList := by
  have one : ∀ {a : Act} {d' : Device}, s.dev.act env a = .ok d' → s.dev.run env [a] = .ok d' := by
    intro a d' hd
    unfold Device.run
    rw [hd]
    rfl
  have hstep := h
  unfold System.step at h
  split at h
  · cases h
  cases e with
  | out packet => rcases out_cases h with ⟨-, rfl⟩ | ⟨c, -, rfl⟩ <;> exact ⟨[], rfl, rfl⟩
  | request setup data =>
    rcases request_cases h with ⟨c, -, rfl⟩ | ⟨start, stop, bytes, -, rfl⟩ | ⟨-, rfl⟩ | ⟨-, -, -, rfl⟩
    · exact ⟨[], rfl, rfl⟩
    · exact ⟨[.scan start stop bytes], one rfl, rfl⟩
    · exact ⟨[], rfl, rfl⟩
    · exact ⟨[], rfl, rfl⟩
  | fetch => rcases fetch_cases h with ⟨c, rest, -, -, rfl⟩ | ⟨-, -, rfl⟩ <;> exact ⟨[], rfl, rfl⟩
  | handle =>
    obtain ⟨c, sniffing, dev, pc, hp, hd, -, rfl⟩ := handle_cases h
    refine ⟨[.command c], one hd, ?_⟩
    simp only [System.handled, hp, Pc.command]
    rfl
  | poll =>
    obtain ⟨-, dev, hd, rfl⟩ := poll_cases h
    exact ⟨[.poll], one hd, rfl⟩
  | receive r =>
    obtain ⟨ha, rfl⟩ := receive_cases hstep
    exact ⟨[.receive r], one (by simp only [Device.act, if_pos ha]; rfl), rfl⟩

theorem run_acts_commands {env : Env} : ∀ (es : List Event) {s s' : System}, s.run env es = some s' →
    ∃ as : List Act, s.dev.run env as = .ok s'.dev ∧ as.filterMap Act.command? = s.handledAll env es
  | [], s, s', h => by
    cases h
    exact ⟨[], rfl, rfl⟩
  | e :: es, s, s', h => by
    obtain ⟨s₁, h₁, h₂⟩ := Option.bind_eq_some_iff.mp h
    obtain ⟨as, ha, hc⟩ := step_acts_command h₁
    obtain ⟨bs, hb, hc'⟩ := run_acts_commands es h₂
    refine ⟨as ++ bs, ?_, ?_⟩
    · rw [run_append, ha]
      exact hb
    · rw [List.filterMap_append, hc, hc']
      show _ = (s.handled e).toList ++ _
      rw [h₁]

/-! ## Settings follow requests -/

/-- Two settings, each handled at once. -/
def handledAtOnce : List Event :=
  [.request (hostRequest ackEnable 0) [], .fetch, .handle,
    .request (hostRequest setRadioChannel 80) [], .fetch, .handle]

/-- The same behind a scan, which comes while both wait. -/
def handledBehindScan : List Event :=
  [.request (hostRequest ackEnable 0) [], .request (hostRequest channelScann 0) [],
    .request (hostRequest setRadioChannel 80) [], .fetch, .handle, .fetch, .handle]

end Crazyradio.Usb
