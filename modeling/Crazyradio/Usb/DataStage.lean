/-
Setup commands and their data stage. `crazyradio_vendor_handler` fills a static command, its data only
for host-to-device requests; `handle_vendor_command` goes by `wLength` alone. A device-to-host request
with the number and the length of a command that takes data is applied with the bytes an earlier
request left there.
-/
import Crazyradio.Usb.Stream

namespace Crazyradio.Usb

open Bytes

/-! ## What a command takes from its data -/

/-- The bytes a request takes from the data of its command. -/
def Request.dataUsed : Request → Option (List UInt8)
  | .address a => some a.bytes
  | .snifferAddress _ a => some a.bytes
  | .loss packetLoss ackLoss => some [packetLoss, ackLoss]
  | _ => none

/-- The number and the length of a command that takes data. -/
def UsbSetupPacket.takesData (p : UsbSetupPacket) : Bool :=
  p.bRequest == setRadioAddress && p.wLength == 5 ||
    p.bRequest == setSnifferAddress && p.wLength == 5 && decide (p.wValue ≤ 1) ||
    p.bRequest == setPacketLossSimulation && p.wLength == 2

/-- The address registers with the copy of the driver, and the loss percentages are left alone. -/
structure AddressKept (d d' : Device) : Prop where
  base0 : d'.esb.radio.base0 = d.esb.radio.base0
  base1 : d'.esb.radio.base1 = d.esb.radio.base1
  prefix0 : d'.esb.radio.prefix0 = d.esb.radio.prefix0
  current : d'.esb.currentPipe0Address = d.esb.currentPipe0Address
  packetLoss : d'.esb.packetLossPercent = d.esb.packetLossPercent
  ackLoss : d'.esb.ackLossPercent = d.esb.ackLossPercent

/-- The address a setup command carries is what its data starts with. -/
theorem setupAddress_bytes (s : SetupCommand) : s.address.bytes = s.data.read 0 5 := by
  have h : s.address.read 0 5 = s.data.read 0 5 := Buf.read_blit _ (s.data.length_read (by omega)) _
  rw [← h, Buf.read, List.drop_zero, List.take_of_length_le (Nat.le_of_eq s.address.size)]

theorem lossBytes (b : Buf 16) : [b.get 0, b.get 1] = b.read 0 2 := by
  obtain ⟨bytes, hb⟩ := b
  obtain - | ⟨x, - | ⟨y, ys⟩⟩ := bytes
  · simp at hb
  · simp at hb
  · rfl

/-- A command uses data only if it takes some, and then the first `wLength` bytes. -/
theorem decode_dataUsed (s : SetupCommand) : ∀ bytes ∈ s.decode.dataUsed,
    s.setupPacket.takesData = true ∧ bytes = s.data.read 0 s.setupPacket.wLength.toNat := by
  let P : Request → Prop := fun r => ∀ bytes ∈ r.dataUsed,
    s.setupPacket.takesData = true ∧ bytes = s.data.read 0 s.setupPacket.wLength.toNat
  have unused : ∀ {r : Request}, r.dataUsed = none → P r := by
    intro r hr bytes hb
    rw [hr] at hb
    exact nomatch hb
  show P s.decode
  unfold SetupCommand.decode
  refine iteInduction (motive := P) (fun _ => unused rfl) fun _ => ?_
  refine iteInduction (motive := P) (fun h => ?_) fun _ => ?_
  · rintro bytes ⟨⟩
    unfold UsbSetupPacket.takesData
    rw [setupAddress_bytes, h.1, h.2]
    exact ⟨rfl, rfl⟩
  repeat refine iteInduction (motive := P) (fun _ => unused rfl) fun _ => ?_
  refine iteInduction (motive := P) (fun _ => ?_) fun _ => ?_
  · repeat refine iteInduction (motive := P) (fun _ => unused rfl) fun _ => ?_
    exact unused rfl
  refine iteInduction (motive := P) (fun h => ?_) fun _ => ?_
  · have used : ∀ pipe1, s.setupPacket.wValue ≤ 1 → P (.snifferAddress pipe1 s.address) := by
      rintro pipe1 hv bytes ⟨⟩
      unfold UsbSetupPacket.takesData
      rw [setupAddress_bytes, h.1, h.2, decide_eq_true hv]
      exact ⟨rfl, rfl⟩
    refine iteInduction (motive := P) (fun hv => used false (by rw [hv]; decide)) fun _ => ?_
    refine iteInduction (motive := P) (fun hv => used true (by rw [hv]; decide)) fun _ => ?_
    exact unused rfl
  refine iteInduction (motive := P) (fun _ => unused rfl) fun _ => ?_
  refine iteInduction (motive := P) (fun h => ?_) fun _ => unused rfl
  rintro bytes ⟨⟩
  unfold UsbSetupPacket.takesData
  rw [lossBytes, h.1, h.2]
  exact ⟨rfl, rfl⟩

/-- A command that takes data uses it. -/
theorem dataUsed_of_takesData {s : SetupCommand} (h : s.setupPacket.takesData = true) : s.decode.dataUsed ≠ none := by
  unfold UsbSetupPacket.takesData at h
  simp only [Bool.or_eq_true, Bool.and_eq_true, beq_iff_eq, decide_eq_true_iff] at h
  unfold SetupCommand.decode
  rcases h with (⟨hb, hl⟩ | ⟨⟨hb, hl⟩, hv⟩) | ⟨hb, hl⟩
  · simp [hb, hl, setRadioAddress, setRadioChannel, Request.dataUsed]
  · have hv : s.setupPacket.wValue = 0 ∨ s.setupPacket.wValue = 1 := by
      rw [← UInt16.toNat_inj, ← UInt16.toNat_inj]
      have := UInt16.le_iff_toNat_le.mp hv
      simp at this ⊢
      omega
    rcases hv with hv | hv <;>
      simp [hb, hl, hv, setSnifferAddress, setRadioChannel, setRadioAddress, setDataRate, setRadioPower, setRadioArd,
        setRadioArc, ackEnable, setContCarrier, setMode, setRadioMode, Request.dataUsed]
  · simp [hb, hl, setPacketLossSimulation, setSnifferAddress, setRadioChannel, setRadioAddress, setDataRate,
      setRadioPower, setRadioArd, setRadioArc, ackEnable, setContCarrier, setMode, setRadioMode, setInlineMode,
      Request.dataUsed]

/-- A request that uses no data changes no address and no percentage. -/
theorem addressKept_apply {r : Request} (h : r.dataUsed = none) (d : Device) : AddressKept d (r.apply d) := by
  cases r with
  | address a => exact nomatch h
  | snifferAddress pipe1 a => exact nomatch h
  | loss p a => exact nomatch h
  | channel c =>
    simp only [Request.apply, esbSetChannel]
    split
    · split <;> exact ⟨rfl, rfl, rfl, rfl, rfl, rfl⟩
    · exact ⟨rfl, rfl, rfl, rfl, rfl, rfl⟩
  | datarate n =>
    simp only [Request.apply, esbSetBitrate]
    repeat' split
    all_goals exact ⟨rfl, rfl, rfl, rfl, rfl, rfl⟩
  | carrier enable =>
    obtain ⟨carrier, log, he⟩ := esbSetContinuousCarrier_kept enable d.esb
    simp only [Request.apply]
    rw [he]
    exact ⟨rfl, rfl, rfl, rfl, rfl, rfl⟩
  | sniffer on =>
    cases on with
    | true =>
      simp only [Request.apply, esbSnifferStart]
      split <;> exact ⟨rfl, rfl, rfl, rfl, rfl, rfl⟩
    | false =>
      simp only [Request.apply, esbSnifferStop]
      split <;> exact ⟨rfl, rfl, rfl, rfl, rfl, rfl⟩
  | _ => exact ⟨rfl, rfl, rfl, rfl, rfl, rfl⟩

/-! ## Requests and their commands -/

/-- The data stage of a request: only a request to the device has one. -/
def dataStage (setup : UsbSetupPacket) (data : List UInt8) : List UInt8 := if setup.toDevice then data else []

/-- The requests of a run that are queued, with their data stages. -/
def queuedRequests (es : List Event) : List (UsbSetupPacket × List UInt8) :=
  es.filterMap fun
    | .request setup data => if setup.isVendor && queues setup then some (setup, dataStage setup data) else none
    | _ => none

/-- A setup command. -/
def UsbCommand.setup? : UsbCommand → Option SetupCommand
  | .setup c => some c
  | .data _ => none

/-- The setup commands on their way to `usb_thread`. -/
def System.setups (s : System) : List SetupCommand := s.pending.filterMap UsbCommand.setup?

/-- The setup command a step handles. -/
def System.handledSetup (s : System) : Event → Option SetupCommand
  | .handle => s.pc.command.bind UsbCommand.setup?
  | _ => none

/-- The setup commands a run handles. -/
def System.handledSetups (env : Env) : System → List Event → List SetupCommand
  | _, [] => []
  | s, e :: es =>
    (s.handledSetup e).toList ++
      match s.step env e with
      | some s' => s'.handledSetups env es
      | none => []

/-- A command takes its bytes from the data stage of its own request, and without one it changes
neither the addresses nor the percentages. -/
structure OwnDataStage (r : UsbSetupPacket × List UInt8) (c : SetupCommand) : Prop where
  used : ∀ bytes ∈ c.decode.dataUsed, bytes = r.2
  kept : r.2 = [] → ∀ d : Device, AddressKept d (handleVendorCommand c d)

/-- The command is the one the handler queues for the request. -/
def QueuedFor (r : UsbSetupPacket × List UInt8) (c : SetupCommand) : Prop :=
  ∃ (data : List UInt8) (d : Device) (cb : Callback), r.2 = dataStage r.1 data ∧
    (crazyradioVendorHandler r.1 data d cb).2 = .queue c ∧ (r.1.toDevice = true → data.length = r.1.wLength.toNat)

/-- The handler queues a request exactly if it is a vendor request it lets through. -/
theorem vendorHandler_queue_iff (setup : UsbSetupPacket) (data : List UInt8) (d : Device) (cb : Callback) :
    (∃ c, (crazyradioVendorHandler setup data d cb).2 = .queue c) ↔ (setup.isVendor && queues setup) = true := by
  rw [Bool.and_eq_true]
  constructor
  · rintro ⟨c, hc⟩
    obtain ⟨hv, hq, -⟩ := vendorHandler_queue hc
    exact ⟨hv, hq⟩
  · rintro ⟨hv, hq⟩
    unfold crazyradioVendorHandler
    rw [if_pos hv, if_pos hq]
    exact ⟨_, rfl⟩

/-- A request to the device of 1 to 16 bytes fills its command with them. -/
theorem vendorHandler_fills {setup : UsbSetupPacket} {data : List UInt8} {d : Device} {cb : Callback} {c : SetupCommand}
    (h : (crazyradioVendorHandler setup data d cb).2 = .queue c) (hd : setup.toDevice = true)
    (hlen : data.length = setup.wLength.toNat) (h0 : 0 < setup.wLength.toNat) (h16 : setup.wLength.toNat ≤ 16) :
    c.data.read 0 setup.wLength.toNat = data := by
  have hmin : min setup.wLength.toNat 16 = setup.wLength.toNat := Nat.min_eq_left h16
  have hfill : setup.toDevice && decide (0 < min setup.wLength.toNat 16) := by rw [hd, hmin, decide_eq_true h0]; rfl
  obtain ⟨hv, hq, -⟩ := vendorHandler_queue h
  unfold crazyradioVendorHandler at h
  rw [if_pos hv, if_pos hq] at h
  cases h
  simp only [if_pos hfill]
  have htake : data.take (min setup.wLength.toNat 16) = data := by rw [hmin, ← hlen, List.take_length]
  rw [Buf.read_blit _ (by rw [htake, hlen])]
  exact htake

/-- A request that takes data has 2 or 5 bytes of it. -/
theorem wLength_of_takesData {p : UsbSetupPacket} (h : p.takesData = true) :
    0 < p.wLength.toNat ∧ p.wLength.toNat ≤ 16 := by
  have hl : p.wLength = 5 ∨ p.wLength = 2 := by
    unfold UsbSetupPacket.takesData at h
    simp only [Bool.or_eq_true, Bool.and_eq_true, beq_iff_eq] at h
    rcases h with (⟨-, hl⟩ | ⟨⟨-, hl⟩, -⟩) | ⟨-, hl⟩
    · exact .inl hl
    · exact .inl hl
    · exact .inr hl
  rcases hl with hl | hl <;> rw [hl] <;> decide

/-- A command acts on its own data stage exactly if its request takes no data or is one to the device. -/
theorem ownDataStage_iff {r : UsbSetupPacket × List UInt8} {c : SetupCommand} (h : QueuedFor r c) :
    OwnDataStage r c ↔ (r.1.takesData = true → r.1.toDevice = true) := by
  obtain ⟨setup, stage⟩ := r
  obtain ⟨data, d, cb, hstage, hc, hlen⟩ := h
  have hsetup : c.setupPacket = setup := (vendorHandler_queue hc).2.2
  simp only at hstage hlen ⊢
  constructor
  · intro own ht
    refine Decidable.byContradiction fun hd => ?_
    -- the bytes it uses are not the data stage it does not have
    obtain ⟨bytes, hb⟩ := Option.ne_none_iff_exists'.mp (dataUsed_of_takesData (hsetup ▸ ht))
    obtain ⟨-, hread⟩ := decode_dataUsed c bytes hb
    have hnil : bytes = [] := (own.used bytes hb).trans (hstage.trans (if_neg hd))
    obtain ⟨h0, h16⟩ := wLength_of_takesData ht
    have hl := c.data.length_read (show 0 + setup.wLength.toNat ≤ 16 by omega)
    rw [hsetup, hnil] at hread
    rw [← hread] at hl
    exact absurd hl (Nat.ne_of_lt h0)
  · intro hd
    have hused : ∀ bytes ∈ c.decode.dataUsed, bytes = stage ∧ stage ≠ [] := by
      intro bytes hb
      obtain ⟨ht, hread⟩ := decode_dataUsed c bytes hb
      rw [hsetup] at ht hread
      obtain ⟨h0, h16⟩ := wLength_of_takesData ht
      have hdata : stage = data := hstage.trans (if_pos (hd ht))
      refine ⟨hread.trans ((vendorHandler_fills hc (hd ht) (hlen (hd ht)) h0 h16).trans hdata.symm), ?_⟩
      rw [hdata]
      exact List.ne_nil_of_length_pos (by rw [hlen (hd ht)]; exact h0)
    refine ⟨fun bytes hb => (hused bytes hb).1, fun hnil d => ?_⟩
    rw [handleVendorCommand_decode]
    refine addressKept_apply (Option.eq_none_iff_forall_ne_some.mpr fun bytes hb => ?_) d
    exact (hused bytes hb).2 hnil

/-! ## Whole runs -/

/-- A step queues a command for each request it lets through. -/
theorem queuedFor_step {env : Env} {s s' : System} {e : Event} (h : s.step env e = some s') :
    List.Forall₂ QueuedFor (queuedRequests [e]) ((s.queued e).filterMap UsbCommand.setup?) := by
  cases e with
  | out packet =>
    simp only [System.queued]
    cases (crazyradioOutCb packet s.cb).2 <;> exact .nil
  | request setup data =>
    have hlen : setup.toDevice = true → data.length = setup.wLength.toNat := by
      intro hd
      simp only [System.step, System.request] at h
      split at h
      · cases h
      split at h
      · cases h
      · rename_i hn
        exact Decidable.byContradiction fun hne => hn ⟨hd, hne⟩
    have hqueue := vendorHandler_queue_iff setup data s.dev s.cb
    by_cases hq : (setup.isVendor && queues setup) = true
    · obtain ⟨c, hc⟩ := hqueue.mpr hq
      simp only [queuedRequests, List.filterMap_cons, if_pos hq, List.filterMap_nil, System.queued, hc]
      exact .cons ⟨data, s.dev, s.cb, rfl, hc, hlen⟩ .nil
    · rw [queued_request fun c hc => hq (hqueue.mp ⟨c, hc⟩)]
      simp only [queuedRequests, List.filterMap_cons, if_neg hq, List.filterMap_nil]
      exact .nil
  | fetch | handle | poll | receive r => exact .nil

theorem handledSetup_eq (s : System) (e : Event) : s.handledSetup e = (s.handled e).bind UsbCommand.setup? := by
  cases e <;> rfl

/-- One step: what was waiting or is queued now is handled now or waits. -/
theorem setups_step {env : Env} {s s' : System} {e : Event} (h : s.step env e = some s') :
    ∃ cs : List SetupCommand, List.Forall₂ QueuedFor (queuedRequests [e]) cs ∧
      s.setups ++ cs = (s.handledSetup e).toList ++ s'.setups := by
  refine ⟨_, queuedFor_step h, ?_⟩
  rw [handledSetup_eq]
  exact pending_step_filterMap UsbCommand.setup? h

/-- A run: the commands handled and then those that wait are the ones queued for the requests. -/
theorem setups_run {env : Env} {es : List Event} : ∀ {s s' : System}, s.run env es = some s' →
    ∃ cs : List SetupCommand, List.Forall₂ QueuedFor (queuedRequests es) cs ∧
      s.setups ++ cs = s.handledSetups env es ++ s'.setups := by
  induction es with
  | nil =>
    rintro s s' ⟨⟩
    exact ⟨[], .nil, List.append_nil _⟩
  | cons e es ih =>
    intro s s' h
    obtain ⟨s₁, h₁, h₂⟩ := Option.bind_eq_some_iff.mp h
    obtain ⟨cs, hcs, hs⟩ := setups_step h₁
    obtain ⟨cs', hcs', hs'⟩ := ih h₂
    refine ⟨cs ++ cs', ?_, ?_⟩
    · rw [show queuedRequests (e :: es) = queuedRequests [e] ++ queuedRequests es from
        List.filterMap_append (l := [e])]
      exact List.rel_append hcs hcs'
    · rw [← List.append_assoc, hs, List.append_assoc, hs', System.handledSetups, h₁, List.append_assoc]

/-- In a run from boot the setup commands, handled or waiting, act each on its own data stage exactly if
every request that takes data is one to the device. -/
theorem ownDataStages_iff {env : Env} {es : List Event} {s' : System} (hr : System.boot.run env es = some s') :
    List.Forall₂ OwnDataStage (queuedRequests es) (System.boot.handledSetups env es ++ s'.setups) ↔
      ∀ r ∈ queuedRequests es, r.1.takesData = true → r.1.toDevice = true := by
  obtain ⟨cs, hcs, hs⟩ := setups_run hr
  rw [← hs]
  show List.Forall₂ OwnDataStage _ cs ↔ _
  clear hs hr
  generalize queuedRequests es = rs at hcs ⊢
  induction hcs with
  | nil => exact iff_of_true .nil (fun r hr => nomatch hr)
  | cons h _ ih => rw [List.forall₂_cons, List.forall_mem_cons, ih, ownDataStage_iff h]

/-- `SET_RADIO_ADDRESS` with its five bytes. -/
def addressRequest (bmRequestType : UInt8) (data : List UInt8) : Event :=
  .request { bmRequestType, bRequest := setRadioAddress, wLength := 5 } data

theorem ownDataStages_iff_address : ∃ s',
    System.boot.run (fun _ => .silent) [addressRequest 0x40 [1, 2, 3, 4, 5], .fetch, .handle] = some s' ∧
    (List.Forall₂ OwnDataStage (queuedRequests [addressRequest 0x40 [1, 2, 3, 4, 5], .fetch, .handle])
      (System.boot.handledSetups (fun _ => .silent) [addressRequest 0x40 [1, 2, 3, 4, 5], .fetch, .handle] ++
        s'.setups) ↔
      ∀ r ∈ queuedRequests [addressRequest 0x40 [1, 2, 3, 4, 5], .fetch, .handle],
        r.1.takesData = true → r.1.toDevice = true) :=
  ⟨_, rfl, ownDataStages_iff rfl⟩

/-- A device-to-host request applies the address an earlier request left. -/
theorem address_reapplied : ¬ ∀ (env : Env) (es : List Event) (s' : System), System.boot.run env es = some s' →
    List.Forall₂ OwnDataStage (queuedRequests es) (System.boot.handledSetups env es ++ s'.setups) := by
  intro hall
  have h := hall (fun _ => .silent) [addressRequest 0x40 [1, 2, 3, 4, 5], .fetch, .handle, addressRequest 0xc0 [],
    .fetch, .handle] _ rfl
  obtain - | ⟨-, h⟩ := h
  obtain - | ⟨h, -⟩ := h
  exact nomatch h.used [1, 2, 3, 4, 5] rfl

end Crazyradio.Usb
