/-
What the host reads back. The callback thread answers two requests itself: `CHANNEL_SCANN` to the host with
`state.scan_result`, and `GET_SNIFFER_DROP_COUNT`. Between a scan and its reading, and between the start of a
sniffer session and a reading of its counter, both threads go on.
-/
import Crazyradio.Usb.Records
import Crazyradio.Usb.Requests

namespace Crazyradio.Usb

open Bytes

/-- What a request of the host is answered with. -/
def System.reply (s : System) (setup : UsbSetupPacket) : Option (List UInt8) :=
  match (crazyradioVendorHandler setup [] s.dev s.cb).2 with
  | .reply bytes => some bytes
  | _ => none

/-! ## The scan result -/

/-- A scan request. -/
def UsbSetupPacket.scans (p : UsbSetupPacket) : Bool := p.isVendor && decide (p.bRequest = channelScann) && p.toDevice

/-- A request for the scan result. -/
def UsbSetupPacket.readsScan (p : UsbSetupPacket) : Bool :=
  p.isVendor && decide (p.bRequest = channelScann) && !p.toDevice

def Event.scans : Event → Bool
  | .request setup _ => setup.scans
  | _ => false

/-- The scan result is left alone. -/
structure ResultKept (d d' : Device) : Prop where
  result : d'.state.scanResult = d.state.scanResult
  length : d'.state.scanResultLength = d.state.scanResultLength

theorem ResultKept.refl (d : Device) : ResultKept d d := ⟨rfl, rfl⟩

theorem ResultKept.trans {a b c : Device} (h : ResultKept a b) (h' : ResultKept b c) : ResultKept a c :=
  ⟨h'.result.trans h.result, h'.length.trans h.length⟩

theorem ResultKept.scanned {d d' : Device} (h : ResultKept d d') : d'.scanned = d.scanned := by
  unfold Device.scanned
  rw [h.result, h.length]

theorem resultKept_apply (r : Request) (d : Device) : ResultKept d (r.apply d) := by
  cases r with
  | sniffer on => cases on <;> exact ⟨rfl, rfl⟩
  | snifferAddress pipe1 a => cases pipe1 <;> exact ⟨rfl, rfl⟩
  | _ => exact ⟨rfl, rfl⟩

theorem resultKept_guardedSend (env : Env) (d : Device) : ResultKept d (guardedSend env d) := by
  unfold guardedSend
  split
  · exact ⟨by rw [capAck_state]; rfl, by rw [capAck_state]; rfl⟩
  · exact .refl d

theorem resultKept_handleCommand {env : Env} {c : UsbCommand} {d d' : Device} (h : handleCommand env c d = .ok d') :
    ResultKept d d' := by
  cases c with
  | setup s =>
    have hset : d.act env (.command (.setup s)) = .ok d' := h
    obtain rfl := act_setup hset
    exact resultKept_apply _ d
  | data c =>
    cases hs : d.state.snifferMode with
    | true =>
      have h : snifferData c d = .ok d' := (if_pos hs).symm.trans h
      rcases snifferData_cases h with ⟨-, rfl⟩ | ⟨-, rfl⟩ <;> exact ⟨rfl, rfl⟩
    | false =>
      obtain ⟨d₁, b, p, hb, rfl⟩ := handleCommand_data_cases hs h
      have hbuilt : ResultKept d d₁ := by
        rcases buildPacket_cases hb with ⟨-, -, rfl⟩ | ⟨-, -, -, rfl⟩ | ⟨-, -, rfl⟩ <;> exact ⟨rfl, rfl⟩
      exact hbuilt.trans ((resultKept_guardedSend env d₁).trans ⟨rfl, rfl⟩)

theorem resultKept_radioIsrSniffer (r : Reception) (d : Device) : ResultKept d (radioIsrSniffer r d) := by
  unfold radioIsrSniffer snifferRxCallback
  simp only
  split
  · split <;> exact ⟨rfl, rfl⟩
  · exact ⟨rfl, rfl⟩

/-- Only scan requests scan. -/
theorem scans_of_scan {setup : UsbSetupPacket} {data bytes : List UInt8} {d : Device} {cb : Callback}
    {start stop : UInt8} (h : (crazyradioVendorHandler setup data d cb).2 = .scan start stop bytes) :
    setup.scans = true ∧ start = setup.wValue.toUInt8 ∧ stop = setup.wIndex.toUInt8 ∧ bytes = data := by
  unfold crazyradioVendorHandler at h
  unfold UsbSetupPacket.scans
  repeat' split at h
  all_goals cases h
  simp_all

/-- Whatever a step other than a scan does, the scan result stays. -/
theorem resultKept_step {env : Env} {s s' : System} {e : Event} (he : e.scans = false) (h : s.step env e = some s') :
    ResultKept s.dev s'.dev := by
  have hstep := h
  unfold System.step at h
  split at h
  · cases h
  cases e with
  | out packet => rcases out_cases h with ⟨-, rfl⟩ | ⟨c, -, rfl⟩ <;> exact .refl _
  | request setup data =>
    rcases request_cases h with ⟨c, -, rfl⟩ | ⟨start, stop, bytes, hb, rfl⟩ | ⟨-, rfl⟩ | ⟨-, -, -, rfl⟩
    · exact .refl _
    · exact absurd ((scans_of_scan hb).1.symm.trans he) Bool.noConfusion
    · exact .refl _
    · exact .refl _
  | fetch => rcases fetch_cases h with ⟨c, rest, -, -, rfl⟩ | ⟨-, -, rfl⟩ <;> exact .refl _
  | handle =>
    obtain ⟨c, sniffing, dev, pc, -, hd, -, rfl⟩ := handle_cases h
    exact resultKept_handleCommand hd
  | poll =>
    obtain ⟨-, dev, hd, rfl⟩ := poll_cases h
    obtain ⟨q, b, w, hp⟩ := pollSniffer_spec s.dev
    cases hp.symm.trans hd
    exact ⟨rfl, rfl⟩
  | receive r =>
    obtain ⟨-, rfl⟩ := receive_cases hstep
    exact resultKept_radioIsrSniffer r s.dev

theorem resultKept_run {env : Env} : ∀ {es : List Event} {s s' : System}, (∀ e ∈ es, e.scans = false) →
    s.run env es = some s' → ResultKept s.dev s'.dev
  | [], s, s', _, h => by
    cases h
    exact .refl _
  | e :: es, s, s', he, h => by
    obtain ⟨s₁, h₁, h₂⟩ := Option.bind_eq_some_iff.mp h
    exact (resultKept_step (he e List.mem_cons_self) h₁).trans
      (resultKept_run (fun x hx => he x (List.mem_cons_of_mem e hx)) h₂)

/-- A scan request that is accepted has scanned when the callback returns. -/
theorem scanned_request {env : Env} {s s' : System} {setup : UsbSetupPacket} {data : List UInt8}
    (hs : setup.scans = true) (h : s.step env (.request setup data) = some s') :
    s'.dev = fwScan env setup.wValue.toUInt8 setup.wIndex.toUInt8 data s.dev := by
  simp only [UsbSetupPacket.scans, Bool.and_eq_true, decide_eq_true_iff] at hs
  obtain ⟨⟨hv, hc⟩, hd⟩ := hs
  have hq : queues setup = false := by
    unfold queues
    rw [hc]
    rfl
  have hr : crazyradioVendorHandler setup data s.dev s.cb =
      (s.cb, .scan setup.wValue.toUInt8 setup.wIndex.toUInt8 data) := by
    unfold crazyradioVendorHandler
    rw [if_pos hv, if_neg (Bool.eq_false_iff.mp hq), if_pos ⟨hc, hd⟩]
  unfold System.step at h
  split at h
  · cases h
  · unfold System.request at h
    simp only [hr] at h
    split at h
    · cases h
    · cases h
      rfl

theorem reply_scanned {s : System} {read : UsbSetupPacket} (h : read.readsScan = true) :
    s.reply read = some (s.dev.scanned.take read.wLength.toNat) := by
  simp only [UsbSetupPacket.readsScan, Bool.and_eq_true, decide_eq_true_iff, Bool.not_eq_true'] at h
  obtain ⟨⟨hv, hc⟩, hd⟩ := h
  have hq : queues read = false := by
    unfold queues
    rw [hc]
    rfl
  unfold System.reply crazyradioVendorHandler
  rw [if_pos hv, if_neg (Bool.eq_false_iff.mp hq), if_neg (fun h => absurd (hd.symm.trans h.2) Bool.noConfusion),
    if_pos hc]
  show some (s.dev.state.scanResult.read 0 _) = some ((s.dev.state.scanResult.read 0 _).take _)
  unfold Buf.read
  rw [List.take_take, Nat.min_comm]

/-- A scan read back: after an accepted scan, and whatever both threads do until the next one, the host
reads the channels that answered, the first 63 of them in order, cut to the length it asks for. -/
theorem scan_read_back {env : Env} {s s₁ s₂ : System} {setup read : UsbSetupPacket} {data : List UInt8}
    {es : List Event} (hs : setup.scans = true) (h₁ : s.step env (.request setup data) = some s₁)
    (hes : ∀ e ∈ es, e.scans = false) (h₂ : s₁.run env es = some s₂) (hr : read.readsScan = true) :
    s₂.reply read = some (((s.dev.scanReports env setup.wValue.toUInt8 setup.wIndex.toUInt8).map UInt8.ofNat).take
      read.wLength.toNat) := by
  rw [reply_scanned hr, (resultKept_run hes h₂).scanned, scanned_request hs h₁, fwScan_scanned]

/-- A scan request of channels 10 to 12. -/
def scanOfThree : UsbSetupPacket := { bRequest := channelScann, wValue := 10, wIndex := 12, wLength := 1 }

/-- With a byte sent in between. -/
theorem scan_read_back_three : ∃ s₁ s₂, System.boot.step (fun _ => answering) (.request scanOfThree [0xff]) = some s₁ ∧
    s₁.run (fun _ => answering) [.out [1], .fetch, .handle] = some s₂ ∧
    s₂.reply { scanOfThree with bmRequestType := 0xc0, wLength := 63 } = some [10, 11, 12] := by
  have hrun : ((System.boot.step (fun _ => answering) (.request scanOfThree [0xff])).bind fun s₁ =>
      s₁.run (fun _ => answering) [.out [1], .fetch, .handle]).isSome = true := by decide +kernel
  obtain ⟨s₂, hrun⟩ := Option.isSome_iff_exists.mp hrun
  obtain ⟨s₁, h₁, h₂⟩ := Option.bind_eq_some_iff.mp hrun
  have hreports : (System.boot.dev.scanReports (fun _ => answering) scanOfThree.wValue.toUInt8
      scanOfThree.wIndex.toUInt8).map UInt8.ofNat = [10, 11, 12] := by decide +kernel
  have hes : ∀ e ∈ [Event.out [1], .fetch, .handle], e.scans = false := by
    intro e he
    simp only [List.mem_cons, List.not_mem_nil, or_false] at he
    rcases he with rfl | rfl | rfl <;> rfl
  have hscan : scanOfThree.scans = true := rfl
  have hasks : ({ scanOfThree with bmRequestType := 0xc0, wLength := 63 } : UsbSetupPacket).readsScan = true := rfl
  have hread := scan_read_back hscan h₁ hes h₂ hasks
  rw [hreports] at hread
  exact ⟨s₁, s₂, h₁, h₂, hread⟩

/-! ## The drop counter -/

/-- A request for the drop counter. -/
def UsbSetupPacket.readsDrops (p : UsbSetupPacket) : Bool :=
  p.isVendor && decide (p.bRequest = getSnifferDropCount) && !p.toDevice

/-- The receptions with valid CRC an event brings to a full queue. -/
def System.turnsAway (s : System) : Event → Nat
  | .receive r => if r.crcOk && decide (8 ≤ s.dev.snifferQueue.length) then 1 else 0
  | _ => 0

/-- The same for a run. -/
def System.turnedAway (env : Env) : System → List Event → Nat
  | _, [] => 0
  | s, e :: es =>
    s.turnsAway e +
      match s.step env e with
      | some s' => s'.turnedAway env es
      | none => 0

theorem refused_offers (s : System) (r : Reception) :
    refused (Act.offers s.dev (.receive r)) = s.turnsAway (.receive r) := by
  simp only [Act.offers, System.turnsAway]
  cases r.crcOk with
  | false => rfl
  | true =>
    by_cases hroom : s.dev.snifferQueue.length < 8
    · rw [decide_eq_true hroom, decide_eq_false (by omega)]
      rfl
    · rw [decide_eq_false hroom, decide_eq_true (by omega)]
      rfl

/-- A step of a session that handles no `SET_RADIO_MODE`. -/
theorem drops_step {env : Env} {s s' : System} {e : Event} (hs : Session s.dev)
    (hk : ∀ c ∈ s.handled e, (Act.command c).KeepsMode) (h : s.step env e = some s') :
    Session s'.dev ∧ s'.dev.snifferDropCount = s.dev.snifferDropCount + UInt32.ofNat (s.turnsAway e) := by
  have same : ∀ {d' : Device}, Session d' ∧ Conserved s.dev d' [] →
      Session d' ∧ d'.snifferDropCount = s.dev.snifferDropCount + UInt32.ofNat 0 := fun ⟨hs', _, _, _, hc⟩ => ⟨hs', hc⟩
  have hsame : Session s.dev ∧ Conserved s.dev s.dev [] := ⟨hs, .of_same rfl rfl rfl⟩
  have hstep := h
  unfold System.step at h
  split at h
  · cases h
  cases e with
  | out packet => rcases out_cases h with ⟨-, rfl⟩ | ⟨c, -, rfl⟩ <;> exact same hsame
  | request setup data =>
    rcases request_cases h with ⟨c, -, rfl⟩ | ⟨start, stop, bytes, -, rfl⟩ | ⟨-, rfl⟩ | ⟨-, -, -, rfl⟩
    · exact same hsame
    · exact same (@conserved_act env (.scan start stop bytes) _ _ hs trivial rfl)
    · exact same hsame
    · exact same hsame
  | fetch => rcases fetch_cases h with ⟨c, rest, -, -, rfl⟩ | ⟨-, -, rfl⟩ <;> exact same hsame
  | handle =>
    obtain ⟨c, sniffing, dev, pc, hp, hd, -, rfl⟩ := handle_cases h
    have hc : c ∈ s.handled .handle := by
      show c ∈ s.pc.command
      rw [hp]
      rfl
    exact same (@conserved_act env (.command c) _ _ hs (hk c hc) hd)
  | poll =>
    obtain ⟨-, dev, hd, rfl⟩ := poll_cases h
    exact same (@conserved_act env .poll _ _ hs trivial hd)
  | receive r =>
    obtain ⟨ha, rfl⟩ := receive_cases hstep
    have hact : s.dev.act env (.receive r) = .ok (radioIsrSniffer r s.dev) := by
      simp only [Device.act, if_pos ha]
      rfl
    obtain ⟨hs', -, -, -, hc⟩ := conserved_act (a := .receive r) hs trivial hact
    rw [refused_offers] at hc
    exact ⟨hs', hc⟩

theorem drops_run {env : Env} : ∀ {es : List Event} {s s' : System}, Session s.dev →
    (∀ c ∈ s.handledAll env es, (Act.command c).KeepsMode) → s.run env es = some s' →
    s'.dev.snifferDropCount = s.dev.snifferDropCount + UInt32.ofNat (s.turnedAway env es)
  | [], s, s', _, _, h => by
    cases h
    exact (UInt32.add_zero _).symm
  | e :: es, s, s', hs, hk, h => by
    obtain ⟨s₁, h₁, h₂⟩ := Option.bind_eq_some_iff.mp h
    unfold System.handledAll at hk
    rw [h₁] at hk
    obtain ⟨hs₁, hc⟩ := drops_step hs
      (fun c hc => hk c (List.mem_append_left _ (Option.mem_toList.mpr hc))) h₁
    have ih := drops_run hs₁ (fun c hc => hk c (List.mem_append_right _ hc)) h₂
    have hsum : s.turnedAway env (e :: es) = s.turnsAway e + s₁.turnedAway env es := by
      simp only [System.turnedAway, h₁]
    rw [ih, hc, UInt32.add_assoc, ← UInt32.ofNat_add, hsum]

theorem reply_drops {s : System} {read : UsbSetupPacket} (h : read.readsDrops = true) (hl : 4 ≤ read.wLength) :
    s.reply read = some (leBytes s.dev.snifferDropCount) := by
  simp only [UsbSetupPacket.readsDrops, Bool.and_eq_true, decide_eq_true_iff, Bool.not_eq_true'] at h
  obtain ⟨⟨hv, hc⟩, hd⟩ := h
  have hl : 4 ≤ read.wLength.toNat := UInt16.le_iff_toNat_le.mp hl
  have hq : queues read = false := by
    unfold queues
    rw [hc]
    rfl
  have hscan : read.bRequest ≠ channelScann := by
    rw [hc]
    decide
  unfold System.reply crazyradioVendorHandler
  rw [if_pos hv, if_neg (Bool.eq_false_iff.mp hq), if_neg (fun h => hscan h.1), if_neg hscan,
    if_pos ⟨hc, Bool.eq_false_iff.mp hd⟩, Nat.min_eq_left hl]
  rfl

/-- The counter as the host reads it. -/
def decodeCount : List UInt8 → Option UInt32
  | [b0, b1, b2, b3] => some (leValue b0 b1 b2 b3)
  | _ => none

/-- The drop counter read back: in every run from the handling of a `SET_RADIO_MODE 1` to the next
`SET_RADIO_MODE`, the host decodes how many receptions with valid CRC came while the queue was full,
modulo `2 ^ 32`. -/
theorem drops_read_back {env : Env} {s s₁ s₂ : System} {c : SetupCommand} {sniffing : Bool} {es : List Event}
    {read : UsbSetupPacket} (hs : Reachable env s) (hoff : s.dev.state.snifferMode = false)
    (hp : s.pc = .held (.setup c) sniffing) (hc : c.decode = .sniffer true) (h₁ : s.step env .handle = some s₁)
    (hk : ∀ c ∈ s₁.handledAll env es, (Act.command c).KeepsMode) (h₂ : s₁.run env es = some s₂)
    (hr : read.readsDrops = true) (hl : 4 ≤ read.wLength) :
    (s₂.reply read).bind decodeCount = some (UInt32.ofNat (s₁.turnedAway env es)) := by
  obtain ⟨v, hv⟩ := (reachable_devReachable hs).settled
  have hsession := session_start hv.2 hoff
  have hdev : s₁.dev = (Request.sniffer true).apply s.dev := by
    unfold System.step at h₁
    split at h₁
    · cases h₁
    obtain ⟨c', sniffing', dev, pc, hp', hd, -, rfl⟩ := handle_cases h₁
    cases hp.symm.trans hp'
    rw [← hc]
    have hset : s.dev.act env (.command (.setup c)) = .ok dev := hd
    exact act_setup hset
  rw [← hdev] at hsession
  have hcount := drops_run hsession hk h₂
  have hzero : s₁.dev.snifferDropCount = 0 := by
    rw [hdev]
    rfl
  rw [hzero, UInt32.zero_add] at hcount
  rw [reply_drops hr hl, hcount]
  exact congrArg some (leValue_leBytes _)

/-- `usb_thread` with a `SET_RADIO_MODE 1` to handle. -/
def sniffRequested : System :=
  { System.boot with
    cb := { vendorCommand := { setupPacket := hostRequest setRadioMode 1 } }
    pc := .held (.setup { setupPacket := hostRequest setRadioMode 1 }) false }

/-- Nine receptions with nothing polled: the last one is counted. -/
theorem drops_read_back_nine : ∃ s₁ s₂, sniffRequested.step (fun _ => .silent) .handle = some s₁ ∧
    s₁.run (fun _ => .silent) (List.replicate 9 (.receive shortReception)) = some s₂ ∧
    (s₂.reply { bmRequestType := 0xc0, bRequest := getSnifferDropCount, wLength := 4 }).bind decodeCount = some 1 := by
  have hreach : Reachable (fun _ => .silent) sniffRequested :=
    ⟨[.request (hostRequest setRadioMode 1) [], .fetch], rfl⟩
  have hrun : ((sniffRequested.step (fun _ => .silent) .handle).bind fun s₁ =>
      (s₁.run (fun _ => .silent) (List.replicate 9 (.receive shortReception))).map fun _ =>
        ((s₁.handledAll (fun _ => .silent) (List.replicate 9 (.receive shortReception))).isEmpty,
          s₁.turnedAway (fun _ => .silent) (List.replicate 9 (.receive shortReception)))) = some (true, 1) := by
    decide +kernel
  obtain ⟨s₁, h₁, hrun⟩ := Option.bind_eq_some_iff.mp hrun
  obtain ⟨s₂, h₂, hrun⟩ := Option.map_eq_some_iff.mp hrun
  obtain ⟨hk, hn⟩ := Prod.mk.inj hrun
  have hasks : ({ bmRequestType := 0xc0, bRequest := getSnifferDropCount, wLength := 4 } : UsbSetupPacket).readsDrops =
      true := rfl
  have hread := drops_read_back hreach rfl rfl rfl h₁
    (fun c hc => absurd (List.isEmpty_iff.mp hk ▸ hc) List.not_mem_nil) h₂ hasks (by decide)
  rw [hn] at hread
  exact ⟨s₁, s₂, h₁, h₂, hread⟩

end Crazyradio.Usb
