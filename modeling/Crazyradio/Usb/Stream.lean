/-
The OUT stream. `crazyradio_out_cb` collects packets into transfers in every mode: a packet of 64
bytes leaves a transfer open, and the next packet is appended to it. In sniffer mode each transfer is
a message, in normal mode each packet should be a command of its own.
-/
import Mathlib.Data.List.Forall2
import Crazyradio.Lib.Packets
import Crazyradio.Usb.Transfers

namespace Crazyradio.Usb

open Bytes Packets

/-! ## The callback -/

/-- The bytes of a command. -/
def DataCommand.bytes (c : DataCommand) : List UInt8 := c.payload.read 0 c.length

theorem DataCommand.length_bytes (c : DataCommand) : c.bytes.length = c.length :=
  c.payload.length_read (by have := c.length_le; omega)

/-- What the callback holds of a transfer that is not complete. -/
def Callback.open (cb : Callback) : List UInt8 := if cb.accumulating then cb.outCommand.bytes else []

theorem Holds.bytes_eq {old : Buf 128} {off : Nat} {xs : List UInt8} {c : DataCommand} (ho : off ≤ 128)
    (h : Holds old off xs c) : c.bytes = (old.bytes.take off ++ xs).take 128 := by
  have hsize := old.size
  have hl := h.length
  have hpre : (old.bytes.take off ++ xs.take (128 - off)).length = c.length := by
    rw [List.length_append, List.length_take, hl]
    omega
  unfold DataCommand.bytes Buf.read
  rw [List.drop_zero, h.bytes, ← hpre, List.take_left, List.take_append, List.take_take, List.length_take]
  congr 2 <;> omega

/-- The callback for one packet: the packet goes to what is open, cut to the array, and only a packet
that is not full ends the transfer. -/
theorem outCb_bytes (cb : Callback) {packet : List UInt8} (hp : packet.length ≤ 64) :
    ∃ c : DataCommand, c.bytes = (cb.open ++ packet).take 128 ∧
      crazyradioOutCb packet cb =
        if packet.length < 64 then ({ cb with outCommand := c, accumulating := false }, some c)
        else ({ cb with outCommand := c, accumulating := true }, none) := by
  have hle := cb.outCommand.length_le
  obtain ⟨outCommand, accumulating, vendorCommand⟩ := cb
  cases accumulating with
  | true =>
    have hacc : (⟨outCommand, true, vendorCommand⟩ : Callback).accumulating = true := rfl
    obtain ⟨c, hc, hcb⟩ := outCb_accumulating hacc packet
    exact ⟨c, hc.bytes_eq hle, hcb⟩
  | false =>
    have hacc : (⟨outCommand, false, vendorCommand⟩ : Callback).accumulating = false := rfl
    obtain ⟨c, hc, hcb⟩ := outCb_first hacc packet hp
    exact ⟨c, hc.bytes_eq (Nat.zero_le 128), hcb⟩

/-- A transfer that is open has a full packet behind it. -/
def Callback.OpenLong (cb : Callback) : Prop := cb.accumulating = true → 64 ≤ cb.outCommand.length

theorem openLong_out (cb : Callback) {packet : List UInt8} (hp : packet.length ≤ 64) :
    (crazyradioOutCb packet cb).1.OpenLong := by
  obtain ⟨c, hc, hcb⟩ := outCb_bytes cb hp
  rw [hcb]
  split
  · exact nofun
  · intro _
    show 64 ≤ c.length
    rw [← c.length_bytes, hc, List.length_take, List.length_append]
    omega

/-- The handler of control requests leaves the OUT callback's statics alone. -/
theorem vendorHandler_out (setup : UsbSetupPacket) (data : List UInt8) (d : Device) (cb : Callback) :
    ∃ v, (crazyradioVendorHandler setup data d cb).1 = { cb with vendorCommand := v } := by
  unfold crazyradioVendorHandler
  split
  · split
    · exact ⟨_, rfl⟩
    · repeat' split
      all_goals exact ⟨cb.vendorCommand, rfl⟩
  · exact ⟨cb.vendorCommand, rfl⟩

/-! ## Runs of the two threads -/

/-- What a step does to the OUT callback: a packet goes through it, anything else leaves it alone. -/
theorem step_callback {env : Env} {s s' : System} {e : Event} (h : s.step env e = some s') :
    (∃ packet : List UInt8, e = .out packet ∧ packet.length ≤ 64 ∧ s'.cb = (crazyradioOutCb packet s.cb).1) ∨
      (∀ packet, e ≠ .out packet) ∧ ∃ v, s'.cb = { s.cb with vendorCommand := v } := by
  have hstep := h
  unfold System.step at h
  split at h
  · cases h
  cases e with
  | out packet =>
    have hp : packet.length ≤ 64 := by
      by_contra hp
      exact nomatch (if_neg hp : s.out packet = none).symm.trans h
    refine .inl ⟨packet, rfl, hp, ?_⟩
    rcases out_cases h with ⟨-, rfl⟩ | ⟨c, -, rfl⟩ <;> rfl
  | request setup data =>
    obtain ⟨v, hv⟩ := vendorHandler_out setup data s.dev s.cb
    refine .inr ⟨nofun, v, ?_⟩
    rcases request_cases h with ⟨c, -, rfl⟩ | ⟨_, _, _, -, rfl⟩ | ⟨-, rfl⟩ | ⟨-, -, -, rfl⟩ <;> exact hv
  | fetch =>
    refine .inr ⟨nofun, s.cb.vendorCommand, ?_⟩
    rcases fetch_cases h with ⟨c, rest, -, -, rfl⟩ | ⟨-, -, rfl⟩ <;> rfl
  | handle =>
    obtain ⟨c, sniffing, dev, pc, -, -, -, rfl⟩ := handle_cases h
    exact .inr ⟨nofun, s.cb.vendorCommand, rfl⟩
  | poll =>
    obtain ⟨-, dev, -, rfl⟩ := poll_cases h
    exact .inr ⟨nofun, s.cb.vendorCommand, rfl⟩
  | receive r =>
    obtain ⟨-, rfl⟩ := receive_cases hstep
    exact .inr ⟨nofun, s.cb.vendorCommand, rfl⟩

theorem openLong_step {env : Env} {s s' : System} {e : Event} (ho : s.cb.OpenLong) (h : s.step env e = some s') :
    s'.cb.OpenLong := by
  rcases step_callback h with ⟨packet, -, hp, hcb⟩ | ⟨-, v, hcb⟩
  · rw [hcb]; exact openLong_out s.cb hp
  · rw [hcb]; exact ho

theorem openLong_reachable {env : Env} {s : System} (h : Reachable env s) : s.cb.OpenLong := by
  obtain ⟨es, hr⟩ := h
  have run : ∀ (es : List Event) {s s' : System}, s.cb.OpenLong → s.run env es = some s' → s'.cb.OpenLong := by
    intro es
    induction es with
    | nil =>
      rintro s s' ho ⟨⟩
      exact ho
    | cons e es ih =>
      intro s s' ho h
      obtain ⟨s₁, h₁, h₂⟩ := Option.bind_eq_some_iff.mp h
      exact ih (openLong_step ho h₁) h₂
  exact run es (fun hopen => absurd hopen Bool.false_ne_true) hr

theorem Reachable.step {env : Env} {s s' : System} {e : Event} (h : Reachable env s) (he : s.step env e = some s') :
    Reachable env s' := by
  obtain ⟨es, hr⟩ := h
  refine ⟨es ++ [e], ?_⟩
  rw [system_run_append, hr]
  simp only [Option.bind_some, System.run, he]
  rfl

/-- The OUT packets of a run. -/
def outPackets (es : List Event) : List (List UInt8) :=
  es.filterMap fun
    | .out packet => some packet
    | _ => none

theorem outPackets_skip {e : Event} (h : ∀ packet, e ≠ .out packet) (es : List Event) :
    outPackets (e :: es) = outPackets es := by
  unfold outPackets
  rw [List.filterMap_cons_none]
  split
  · exact absurd rfl (h _)
  · rfl

/-- Every step of a run is one of `P`. -/
def System.Along (env : Env) (P : System → Event → System → Prop) : System → List Event → Prop
  | _, [] => True
  | s, e :: es => ∀ s', s.step env e = some s' → P s e s' ∧ s'.Along env P es

/-! ## Commands of one packet -/

/-- An OUT packet is queued at once, as a command of its own. -/
def SelfContained (s : System) : Event → System → Prop
  | .out packet, s' => ∃ c, s'.queue = s.queue ++ [.data c] ∧ c.bytes = packet
  | _, _ => True

/-- A packet is a command of its own exactly if it is not full and finds no transfer open: an open one
has more bytes than a packet that ends it. -/
theorem selfContained_out {env : Env} {s s' : System} {packet : List UInt8} (ho : s.cb.OpenLong)
    (h : s.step env (.out packet) = some s') :
    (SelfContained s (.out packet) s' ↔ s.cb.accumulating = false ∧ packet.length < 64) ∧
      s'.cb.accumulating = decide (¬packet.length < 64) := by
  have hp : packet.length ≤ 64 := by
    rcases step_callback h with ⟨p, he, hp, -⟩ | ⟨hn, -⟩
    · cases he; exact hp
    · exact absurd rfl (hn packet)
  have hout : s.out packet = some s' := by
    unfold System.step at h
    split at h
    · cases h
    · exact h
  obtain ⟨c, hc, hcb⟩ := outCb_bytes s.cb hp
  by_cases hl : packet.length < 64
  · rw [if_pos hl] at hcb
    rcases out_cases hout with ⟨hn, -⟩ | ⟨c', hc', rfl⟩
    · rw [hcb] at hn; exact nomatch hn
    rw [hcb] at hc' ⊢
    cases hc'
    refine ⟨?_, (decide_eq_false (not_not_intro hl)).symm⟩
    have hself : SelfContained s (.out packet) { s with
        cb := { s.cb with outCommand := c, accumulating := false }, queue := s.queue ++ [.data c] } ↔
        c.bytes = packet := by
      constructor
      · rintro ⟨c', hq, hb⟩
        have hq := List.append_cancel_left hq
        cases hq
        exact hb
      · exact fun hb => ⟨c, rfl, hb⟩
    rw [hself, hc]
    unfold Callback.open
    cases ha : s.cb.accumulating with
    | false => simp [hl, List.take_of_length_le (show packet.length ≤ 128 by omega)]
    | true =>
      refine iff_of_false (fun hb => ?_) (by simp)
      -- the bytes that were open are still in front
      have hlen := congrArg List.length hb
      have h64 := ho ha
      rw [if_pos rfl, List.length_take, List.length_append, s.cb.outCommand.length_bytes] at hlen
      omega
  · rw [if_neg hl] at hcb
    rcases out_cases hout with ⟨-, rfl⟩ | ⟨c', hc', -⟩
    · rw [hcb]
      refine ⟨iff_of_false ?_ (fun hx => hl hx.2), (decide_eq_true hl).symm⟩
      rintro ⟨c', hq, -⟩
      have hq := congrArg List.length hq
      simp at hq
    · rw [hcb] at hc'; exact nomatch hc'

/-- In a run from a reachable state every OUT packet is a command of its own exactly if there is none,
or none of them is full and the first one finds no transfer open. -/
theorem selfContained_iff {env : Env} {s s' : System} {es : List Event} (h : Reachable env s)
    (hr : s.run env es = some s') : s.Along env SelfContained es ↔
      outPackets es = [] ∨ s.cb.accumulating = false ∧ ∀ p ∈ outPackets es, p.length < 64 := by
  have ho := openLong_reachable h
  clear h
  induction es generalizing s with
  | nil => exact iff_of_true trivial (.inl rfl)
  | cons e es ih =>
    obtain ⟨s₁, h₁, h₂⟩ := Option.bind_eq_some_iff.mp hr
    have ih := ih h₂ (openLong_step ho h₁)
    have halong : s.Along env SelfContained (e :: es) ↔ SelfContained s e s₁ ∧ s₁.Along env SelfContained es := by
      constructor
      · exact fun ha => ha s₁ h₁
      · rintro ha s₂ h₂
        cases h₁.symm.trans h₂
        exact ha
    refine (halong.trans (and_congr_right' ih)).trans ?_
    rcases step_callback h₁ with ⟨packet, rfl, -, -⟩ | ⟨hn, v, hcb⟩
    · obtain ⟨hself, hacc⟩ := selfContained_out ho h₁
      have hcons : outPackets (.out packet :: es) = packet :: outPackets es := rfl
      rw [hself, hacc, hcons, List.forall_mem_cons]
      simp only [decide_eq_false_iff_not, not_not, List.cons_ne_nil, false_or]
      constructor
      · rintro ⟨⟨ha, hp⟩, hnil | ⟨-, hall⟩⟩
        · exact ⟨ha, hp, by rw [hnil]; exact fun _ hx => nomatch hx⟩
        · exact ⟨ha, hp, hall⟩
      · rintro ⟨ha, hp, hall⟩
        exact ⟨⟨ha, hp⟩, .inr ⟨hp, hall⟩⟩
    · have hself : SelfContained s e s₁ := by
        unfold SelfContained
        split
        · exact absurd rfl (hn _)
        · trivial
      rw [hcb, outPackets_skip hn]
      exact and_iff_right hself

/-- A packet of one byte is a command of its own. -/
theorem selfContained_iff_short : ∃ s', System.boot.run (fun _ => .silent) [.out [1]] = some s' ∧
    (System.boot.Along (fun _ => .silent) SelfContained [.out [1]] ↔
      outPackets [.out [1]] = [] ∨ System.boot.cb.accumulating = false ∧ ∀ p ∈ outPackets [.out [1]], p.length < 64) :=
  ⟨_, rfl, selfContained_iff ⟨[], rfl⟩ rfl⟩

/-- A packet of 64 bytes waits for the next one. -/
theorem full_packet_waits : ¬ ∀ (env : Env) (s s' : System) (es : List Event), Reachable env s →
    s.run env es = some s' → (∀ p ∈ outPackets es, p ≠ []) → s.Along env SelfContained es := by
  intro hall
  have h := hall (fun _ => .silent) System.boot _ [.out (List.replicate 64 1)] ⟨[], rfl⟩ rfl
    (fun p hp => by rw [List.mem_singleton.mp hp]; exact List.cons_ne_nil _ _)
  obtain ⟨⟨c, hq, -⟩, -⟩ := h _ rfl
  exact nomatch hq

/-! ## Messages of sniffer mode -/

/-- A message to send in sniffer mode. -/
structure SnifferMessage where
  address : List UInt8
  payload : List UInt8
  deriving DecidableEq

/-- The message in a transfer: 128 bytes are kept, and fewer than 6 are no message. -/
def decodeTransfer (xs : List UInt8) : Option SnifferMessage :=
  if (xs.take 128).length < 6 then none else some ⟨(xs.take 128).take 5, ((xs.take 128).drop 5).take 63⟩

/-- The call of `esb_sniffer_send` a step makes: the address and the packet it is given. -/
def System.snifferCall (s : System) : Event → Option SnifferMessage
  | .handle =>
    match s.pc with
    | .held (.data c) _ =>
      if s.dev.state.snifferMode ∧ 6 ≤ c.length then
        let packet := (s.dev.snifferLoad c).usb.packet
        some ⟨c.snifferAddress.bytes, packet.data.read 0 packet.length.toNat⟩
      else none
    | _ => none
  | _ => none

/-- The calls of `esb_sniffer_send` of a run. -/
def System.snifferCalls (env : Env) : System → List Event → List SnifferMessage
  | _, [] => []
  | s, e :: es =>
    (s.snifferCall e).toList ++
      match s.step env e with
      | some s' => s'.snifferCalls env es
      | none => []

/-- The message in a command. -/
def UsbCommand.message : UsbCommand → Option SnifferMessage
  | .data c => decodeTransfer c.bytes
  | .setup _ => none

/-- The messages on their way to `usb_thread`. -/
def System.messages (s : System) : List SnifferMessage := s.pending.filterMap UsbCommand.message

/-- The request asks for normal mode. -/
def UsbSetupPacket.leavesSniffer (p : UsbSetupPacket) : Bool :=
  p.bRequest == setRadioMode && p.wLength == 0 && p.wValue == 0

/-- The command asks for normal mode. -/
def UsbCommand.leavesSniffer : UsbCommand → Bool
  | .setup c => c.setupPacket.leavesSniffer
  | .data _ => false

/-- The event is a request for normal mode. -/
def Event.leavesSniffer : Event → Bool
  | .request setup _ => setup.leavesSniffer
  | _ => false

/-- Sniffer mode is on and nothing on its way to `usb_thread` changes that. -/
structure System.Sniffing (s : System) : Prop where
  mode : s.dev.state.snifferMode = true
  pending : ∀ c ∈ s.pending, c.leavesSniffer = false

/-! ### What the arguments are -/

theorem decodeTransfer_short {c : DataCommand} (h : c.length < 6) : decodeTransfer c.bytes = none := by
  refine if_pos ?_
  rw [List.length_take, c.length_bytes]
  omega

theorem decodeTransfer_take (xs ys : List UInt8) : decodeTransfer (xs.take 128 ++ ys) = decodeTransfer (xs ++ ys) := by
  have h : (xs.take 128 ++ ys).take 128 = (xs ++ ys).take 128 := by
    rw [List.take_append, List.take_append, List.take_take, Nat.min_self, List.length_take]
    congr 2
    omega
  unfold decodeTransfer
  rw [h]

theorem load_payload (d : Device) (payload : Buf 128) {off n : Nat} (h : n ≤ 63) (ho : off + n ≤ 128) :
    (d.load payload off n h).usb.packet.data.read 0 (d.load payload off n h).usb.packet.length.toNat =
      payload.read off n := by
  have hn : (UInt8.ofNat n).toNat = n := by rw [UInt8.toNat_ofNat']; omega
  show (d.load payload off n h).usb.packet.data.read 0 (UInt8.ofNat n).toNat = _
  rw [hn]
  exact d.usb.packet.data.read_blit (payload.length_read ho) (by rw [payload.length_read ho]; omega)

theorem snifferAddress_bytes (c : DataCommand) : c.snifferAddress.bytes = c.payload.read 0 5 := by
  have h : c.snifferAddress.read 0 5 = c.payload.read 0 5 := Buf.read_blit _ (c.payload.length_read (by omega)) _
  rw [← h, Buf.read, List.drop_zero, List.take_of_length_le (Nat.le_of_eq c.snifferAddress.size)]

/-- The arguments of a call are the message in the command. -/
theorem snifferCall_eq (c : DataCommand) (d : Device) (h : 6 ≤ c.length) :
    some (SnifferMessage.mk c.snifferAddress.bytes
      ((d.snifferLoad c).usb.packet.data.read 0 (d.snifferLoad c).usb.packet.length.toNat)) =
      decodeTransfer c.bytes := by
  have hle := c.length_le
  have hb : c.bytes.take 128 = c.bytes := List.take_of_length_le (by rw [c.length_bytes]; exact hle)
  unfold decodeTransfer
  rw [hb, if_neg (by rw [c.length_bytes]; omega)]
  congr 2
  · rw [snifferAddress_bytes]
    exact (c.payload.read_zero_take (by omega)).symm
  · rw [Device.snifferLoad, load_payload d c.payload (Nat.min_le_right _ _) (by omega),
      c.payload.read_of_zero c.length (by omega), ← List.take_take]
    exact List.take_of_length_le (by rw [List.length_take, List.length_drop, Buf.length_read _ (by omega)]; omega)

/-! ### What a step queues and handles -/

/-- A request that does not ask for normal mode keeps the device in sniffer mode. -/
theorem apply_snifferMode {r : Request} (h : r ≠ .sniffer false) {d : Device} (hs : d.state.snifferMode = true) :
    (r.apply d).state.snifferMode = true := by
  cases r with
  | sniffer on =>
    cases on with
    | true => rfl
    | false => exact absurd rfl h
  | snifferAddress pipe1 a => cases pipe1 <;> exact hs
  | _ => exact hs

/-- Only `SET_RADIO_MODE 0` is decoded as leaving sniffer mode. -/
theorem decode_leavesSniffer {s : SetupCommand} (h : s.setupPacket.leavesSniffer = false) :
    s.decode ≠ .sniffer false := by
  let P : Request → Prop := fun r => r ≠ .sniffer false
  have mode : s.setupPacket.bRequest = setRadioMode ∧ s.setupPacket.wLength = 0 → s.setupPacket.wValue ≠ 0 := by
    rintro ⟨hb, hl⟩ hv
    unfold UsbSetupPacket.leavesSniffer at h
    rw [hb, hl, hv] at h
    exact Bool.noConfusion h
  show P s.decode
  unfold SetupCommand.decode
  repeat' refine iteInduction (motive := P) (fun _ => ?_) (fun _ => ?_)
  all_goals first
    | (intro hr; cases hr; done)
    | rename_i hm _ hv
      exact absurd hv (mode hm)

/-- A command that does not ask for normal mode keeps the device in sniffer mode. -/
theorem handleCommand_snifferMode {env : Env} {c : UsbCommand} {d d' : Device} (hc : c.leavesSniffer = false)
    (hs : d.state.snifferMode = true) (h : handleCommand env c d = .ok d') : d'.state.snifferMode = true := by
  cases c with
  | setup s =>
    cases h
    rw [handleVendorCommand_decode]
    exact apply_snifferMode (decode_leavesSniffer hc) hs
  | data c => exact (kept_snifferData ((if_pos hs).symm.trans h)).snifferMode.trans hs

/-- The messages in the transfers that packets complete behind what the callback holds. -/
def Callback.decode (cb : Callback) (ps : List (List UInt8)) : List SnifferMessage :=
  (transfersFrom 64 cb.open ps).filterMap decodeTransfer

/-- Bytes the callback drops are none a message has. -/
theorem decode_open_take (xs : List UInt8) (ps : List (List UInt8)) :
    (transfersFrom 64 (xs.take 128) ps).filterMap decodeTransfer =
      (transfersFrom 64 xs ps).filterMap decodeTransfer := by
  rw [transfersFrom_eq 64 ps (xs.take 128), transfersFrom_eq 64 ps xs]
  cases transfers 64 ps with
  | nil => rfl
  | cons ys yss => simp only [List.modifyHead_cons, List.filterMap_cons, decodeTransfer_take]

/-- A packet through the callback: the command it queues, if any, has the message of the transfer it
ends, and what the callback holds then goes on in the same way. -/
theorem outCb_decode (cb : Callback) {packet : List UInt8} (hp : packet.length ≤ 64) (ps : List (List UInt8)) :
    cb.decode (packet :: ps) =
      ((crazyradioOutCb packet cb).2.map UsbCommand.data).toList.filterMap UsbCommand.message ++
        (crazyradioOutCb packet cb).1.decode ps := by
  obtain ⟨c, hc, hcb⟩ := outCb_bytes cb hp
  have hm : decodeTransfer c.bytes = decodeTransfer (cb.open ++ packet) := by
    have h := decodeTransfer_take (cb.open ++ packet) []
    rw [List.append_nil, List.append_nil] at h
    rw [hc, h]
  rw [hcb]
  unfold Callback.decode
  by_cases hl : packet.length < 64
  · rw [transfersFrom, if_pos hl, if_pos hl, List.filterMap_cons, ← hm]
    cases hd : decodeTransfer c.bytes <;> simp [UsbCommand.message, hd, Callback.open]
  · rw [transfersFrom, if_neg hl, if_neg hl, ← decode_open_take, ← hc]
    rfl

/-- A request that is no `SET_RADIO_MODE 0` queues none. -/
theorem queued_stays {s : System} {e : Event} (he : e.leavesSniffer = false) :
    ∀ c ∈ s.queued e, c.leavesSniffer = false := by
  intro c hc
  cases e with
  | out packet =>
    obtain ⟨d, -, rfl⟩ := Option.map_eq_some_iff.mp (Option.mem_toList.mp hc)
    rfl
  | request setup data =>
    simp only [System.queued] at hc
    split at hc
    · rename_i c' hr
      rw [List.mem_singleton.mp hc]
      show c'.setupPacket.leavesSniffer = false
      rw [(vendorHandler_queue hr).2.2]
      exact he
    · cases hc
  | fetch | handle | poll | receive r => cases hc

/-- Only packets queue messages. -/
theorem queued_message {s : System} {e : Event} (hn : ∀ packet, e ≠ .out packet) :
    (s.queued e).filterMap UsbCommand.message = [] := by
  cases e with
  | out packet => exact absurd rfl (hn packet)
  | request setup data =>
    simp only [System.queued]
    split <;> rfl
  | fetch | handle | poll | receive r => rfl

/-- The call made for a command in sniffer mode is the message in it. -/
theorem snifferCall_handled {s : System} (hs : s.dev.state.snifferMode = true) (e : Event) :
    s.snifferCall e = (s.handled e).bind UsbCommand.message := by
  cases e with
  | handle =>
    unfold System.snifferCall System.handled
    cases s.pc with
    | held c sniffing =>
      cases c with
      | setup c => rfl
      | data c =>
        simp only [hs, true_and]
        split
        · rename_i hl
          exact snifferCall_eq c s.dev hl
        · rename_i hl
          exact (decodeTransfer_short (Nat.lt_of_not_le hl)).symm
    | top | poll => rfl
  | out packet | request setup data | fetch | poll | receive r => rfl

/-! ### One step -/

/-- Sniffer mode stays on. -/
theorem snifferMode_step {env : Env} {s s' : System} {e : Event} (hs : s.Sniffing) (h : s.step env e = some s') :
    s'.dev.state.snifferMode = true := by
  have hmode := hs.mode
  have hstep := h
  unfold System.step at h
  split at h
  · cases h
  cases e with
  | out packet => rcases out_cases h with ⟨-, rfl⟩ | ⟨c, -, rfl⟩ <;> exact hmode
  | request setup data =>
    rcases request_cases h with ⟨c, -, rfl⟩ | ⟨start, stop, bytes, -, rfl⟩ | ⟨-, rfl⟩ | ⟨-, -, -, rfl⟩
    · exact hmode
    · exact (kept_fwScan env start stop bytes s.dev).snifferMode.trans hmode
    · exact hmode
    · exact hmode
  | fetch => rcases fetch_cases h with ⟨c, rest, -, -, rfl⟩ | ⟨-, -, rfl⟩ <;> exact hmode
  | handle =>
    obtain ⟨c, sniffing, dev, pc, hp, hd, -, rfl⟩ := handle_cases h
    have hc : c ∈ s.pending := by simp [System.pending, Pc.command, hp]
    exact handleCommand_snifferMode (hs.pending c hc) hmode hd
  | poll =>
    obtain ⟨-, dev, hd, rfl⟩ := poll_cases h
    exact (kept_pollSniffer hd).snifferMode.trans hmode
  | receive r =>
    obtain ⟨-, rfl⟩ := receive_cases hstep
    exact (kept_radioIsrSniffer r s.dev).snifferMode.trans hmode

theorem System.Sniffing.step {env : Env} {s s' : System} {e : Event} (hs : s.Sniffing) (he : e.leavesSniffer = false)
    (h : s.step env e = some s') : s'.Sniffing := by
  refine ⟨snifferMode_step hs h, fun c hc => ?_⟩
  have hmem : c ∈ s.pending ++ s.queued e := by
    rw [pending_step h]
    exact List.mem_append_right _ hc
  rcases List.mem_append.mp hmem with hc | hc
  · exact hs.pending c hc
  · exact queued_stays he c hc

/-- What a step queues are the messages of the transfers it completes. -/
theorem decode_step {env : Env} {s s' : System} {e : Event} (h : s.step env e = some s') (ps : List (List UInt8)) :
    s.cb.decode (outPackets [e] ++ ps) = (s.queued e).filterMap UsbCommand.message ++ s'.cb.decode ps := by
  rcases step_callback h with ⟨packet, rfl, hp, hcb⟩ | ⟨hn, v, hcb⟩
  · rw [hcb]
    exact outCb_decode s.cb hp ps
  · rw [outPackets_skip hn, queued_message hn, hcb]
    rfl

/-- One step in sniffer mode: the call it makes is the next message, and what a packet completes comes
behind all others. -/
theorem stream_step {env : Env} {s s' : System} {e : Event} (hs : s.Sniffing) (h : s.step env e = some s')
    (ps : List (List UInt8)) : s.messages ++ s.cb.decode (outPackets [e] ++ ps) =
      (s.snifferCall e).toList ++ s'.messages ++ s'.cb.decode ps := by
  rw [decode_step h, ← List.append_assoc, System.messages, pending_step_filterMap UsbCommand.message h,
    snifferCall_handled hs.mode]
  rfl

theorem outPackets_cons (e : Event) (es : List Event) : outPackets (e :: es) = outPackets [e] ++ outPackets es :=
  List.filterMap_append (l := [e])

/-- A run in sniffer mode: the messages waiting at its start and those in the transfers it completes
are the calls it makes and, behind them, the messages waiting at its end. -/
theorem stream_run {env : Env} : ∀ {es : List Event} {s s' : System}, s.Sniffing →
    (∀ e ∈ es, e.leavesSniffer = false) → s.run env es = some s' →
    s.messages ++ s.cb.decode (outPackets es) = s.snifferCalls env es ++ s'.messages
  | [], s, s', _, _, hr => by
    cases hr
    exact List.append_nil _
  | e :: es, s, s', hs, he, hr => by
    obtain ⟨s₁, h₁, h₂⟩ := Option.bind_eq_some_iff.mp hr
    have ih := stream_run (hs.step (he e List.mem_cons_self) h₁) (fun x hx => he x (List.mem_cons_of_mem e hx)) h₂
    rw [outPackets_cons, stream_step hs h₁, List.append_assoc, ih, System.snifferCalls, h₁, List.append_assoc]

/-! ### On the air -/

/-- The transmission carries the message to its address. -/
def SentAs (m : SnifferMessage) (t : Transmission) : Prop :=
  t.payload = m.payload ∧ ∃ address : Buf 5, address.bytes = m.address ∧
    t.radio.base0 = bytewiseBitswap (addressBase address) ∧ ∃ prefix0, t.radio.prefix0 = pipe0Prefix address prefix0

/-- A call puts its message on the air. -/
theorem sentAs_handle {c : DataCommand} {d d' : Device} (hv : DevInv d) (hs : d.state.snifferMode = true)
    (hd : snifferData c d = .ok d') : ∃ ts, transmissions d'.esb.log = transmissions d.esb.log ++ ts ∧
      List.Forall₂ SentAs (decodeTransfer c.bytes).toList ts := by
  rcases snifferData_sent hv hs hd with ⟨hl, rfl⟩ | ⟨hl, ht⟩
  · rw [decodeTransfer_short hl]
    exact ⟨[], (List.append_nil _).symm, .nil⟩
  · refine ⟨_, ht, ?_⟩
    rw [← snifferCall_eq c d hl]
    refine .cons ⟨?_, c.snifferAddress, rfl, rfl, _, rfl⟩ .nil
    have hm : d.esb.radio.maxlen = 63 := by rw [hv.maxlen, hs]; rfl
    have hn : (d.snifferLoad c).usb.packet.length.toNat ≤ 63 := by
      show (UInt8.ofNat (min (c.length - 5) 63)).toNat ≤ 63
      rw [UInt8.toNat_ofNat']
      omega
    show (d.snifferLoad c).usb.packet.data.read 0 (min _ d.esb.radio.maxlen) = _
    rw [hm, Nat.min_eq_left hn]

/-- In sniffer mode nothing goes on the air but what the calls of `esb_sniffer_send` send. -/
theorem sentAs_step {env : Env} {s s' : System} {e : Event} (hv : DevReachable env s.dev) (hs : s.Sniffing)
    (h : s.step env e = some s') : ∃ ts, transmissions s'.dev.esb.log = transmissions s.dev.esb.log ++ ts ∧
      List.Forall₂ SentAs (s.snifferCall e).toList ts := by
  obtain ⟨v, hset⟩ := hv.settled
  have silent : ∀ {d : Device}, Emits s.dev.esb d.esb False → ∃ ts,
      transmissions d.esb.log = transmissions s.dev.esb.log ++ ts ∧ List.Forall₂ SentAs [] ts := by
    intro d hd
    exact ⟨[], by rw [hd.silent_iff.mpr id, List.append_nil], .nil⟩
  have hstep := h
  unfold System.step at h
  split at h
  · cases h
  cases e with
  | out packet => rcases out_cases h with ⟨-, rfl⟩ | ⟨c, -, rfl⟩ <;> exact silent (.refl _)
  | request setup data =>
    rcases request_cases h with ⟨c, -, rfl⟩ | ⟨start, stop, bytes, -, rfl⟩ | ⟨-, rfl⟩ | ⟨-, -, -, rfl⟩
    · exact silent (.refl _)
    · -- the sends of a scan are refused
      have hact : s.dev.act env (.scan start stop bytes) = .ok (fwScan env start stop bytes s.dev) := rfl
      have hscan := emits_act hset hact
      have hon : s.dev.esb.snifferActive = true := hset.2.sniffer.trans hs.mode
      refine silent (hscan.congr (iff_false_intro ?_))
      rintro ⟨i, -, hi⟩
      simp [Device.passes, Esb.sends, Esb.refuses, hon] at hi
    · exact silent (.refl _)
    · exact silent (.refl _)
  | fetch => rcases fetch_cases h with ⟨c, rest, -, -, rfl⟩ | ⟨-, -, rfl⟩ <;> exact silent (.refl _)
  | handle =>
    obtain ⟨c, sniffing, dev, pc, hp, hd, -, rfl⟩ := handle_cases h
    rw [snifferCall_handled hs.mode, System.handled, hp]
    cases c with
    | setup c =>
      cases hd
      refine silent ?_
      rw [handleVendorCommand_decode]
      exact emits_apply c.decode s.dev
    | data c => exact sentAs_handle hset.2 hs.mode ((if_pos hs.mode).symm.trans hd)
  | poll =>
    obtain ⟨-, dev, hd, rfl⟩ := poll_cases h
    have hact : s.dev.act env .poll = .ok dev := hd
    exact silent (emits_act hset hact)
  | receive r =>
    obtain ⟨-, rfl⟩ := receive_cases hstep
    refine silent ?_
    rw [log_radioIsrSniffer]
    exact .refl _

/-- Over a run in sniffer mode, what goes on the air is one packet for each call, in order. -/
theorem sentAs_run {env : Env} : ∀ {es : List Event} {s s' : System}, Reachable env s → s.Sniffing →
    (∀ e ∈ es, e.leavesSniffer = false) → s.run env es = some s' →
    ∃ ts, transmissions s'.dev.esb.log = transmissions s.dev.esb.log ++ ts ∧
      List.Forall₂ SentAs (s.snifferCalls env es) ts
  | [], s, s', _, _, _, hr => by
    cases hr
    exact ⟨[], (List.append_nil _).symm, .nil⟩
  | e :: es, s, s', h, hs, he, hr => by
    obtain ⟨s₁, h₁, h₂⟩ := Option.bind_eq_some_iff.mp hr
    obtain ⟨ts, hts, hsent⟩ := sentAs_step (reachable_devReachable h) hs h₁
    have hs₁ := hs.step (he e List.mem_cons_self) h₁
    obtain ⟨us, hus, hmore⟩ := sentAs_run (h.step h₁) hs₁ (fun x hx => he x (List.mem_cons_of_mem e hx)) h₂
    refine ⟨ts ++ us, by rw [hus, hts, List.append_assoc], ?_⟩
    rw [System.snifferCalls, h₁]
    exact List.rel_append hsent hmore

/-! ### The law of the stream -/

/-- The calls of a run and the messages still waiting are those waiting before and, in order, those in
the transfers its packets make up. -/
def SnifferStream (env : Env) (s : System) (es : List Event) (s' : System) : Prop :=
  s.snifferCalls env es ++ s'.messages = s.messages ++ (transfers 64 (outPackets es)).filterMap decodeTransfer

instance (env : Env) (s : System) (es : List Event) (s' : System) : Decidable (SnifferStream env s es s') :=
  inferInstanceAs (Decidable (_ = _))

/-- A transfer left open does not show: the first transfer to be completed has the same bytes in front
with it and without it, as far as a message reaches. -/
def System.Aligned (s : System) (ps : List (List UInt8)) : Prop :=
  s.cb.accumulating = true → ∀ xs ∈ (transfers 64 ps).head?, (s.cb.outCommand.bytes ++ xs).take 68 = xs.take 68

/-- What the host sends: an address of 5 bytes and 1 to 63 bytes. -/
structure SnifferMessage.WellFormed (m : SnifferMessage) : Prop where
  address : m.address.length = 5
  payload_pos : 1 ≤ m.payload.length
  payload_le : m.payload.length ≤ 63

/-- The OUT packets of a message. -/
def SnifferMessage.packets (m : SnifferMessage) : List (List UInt8) := transferPackets (m.address ++ m.payload)

/-- A message is in the first 68 bytes of its transfer. -/
theorem decodeTransfer_eq (xs : List UInt8) : decodeTransfer xs =
    if (xs.take 68).length < 6 then none else some ⟨(xs.take 68).take 5, (xs.take 68).drop 5⟩ := by
  have h5 : (xs.take 128).take 5 = (xs.take 68).take 5 := by
    rw [List.take_take, List.take_take]
    rfl
  have h63 : ((xs.take 128).drop 5).take 63 = (xs.take 68).drop 5 := by
    rw [List.drop_take, List.take_take, List.drop_take]
    rfl
  unfold decodeTransfer
  rw [h5, h63]
  refine if_congr ?_ rfl rfl
  rw [List.length_take, List.length_take]
  omega

/-- Bytes in front of a transfer change its message unless they repeat it. -/
theorem decodeTransfer_append_iff {acc : List UInt8} (h : 64 ≤ acc.length) (xs : List UInt8) :
    decodeTransfer (acc ++ xs) = decodeTransfer xs ↔ (acc ++ xs).take 68 = xs.take 68 := by
  have hlong : ¬((acc ++ xs).take 68).length < 6 := by
    rw [List.length_take, List.length_append]
    omega
  rw [decodeTransfer_eq, decodeTransfer_eq, if_neg hlong]
  constructor
  · intro he
    split at he
    · exact nomatch he
    · simp only [Option.some.injEq, SnifferMessage.mk.injEq] at he
      rw [← List.take_append_drop 5 ((acc ++ xs).take 68), he.1, he.2, List.take_append_drop]
  · intro he
    rw [← he, if_neg hlong]

theorem SnifferMessage.WellFormed.decode {m : SnifferMessage} (h : m.WellFormed) :
    decodeTransfer (m.address ++ m.payload) = some m := by
  obtain ⟨ha, hp, hl⟩ := h
  have hlen : (m.address ++ m.payload).length = 5 + m.payload.length := by rw [List.length_append, ha]
  rw [decodeTransfer_eq, List.take_of_length_le (by omega), if_neg (by omega), ← ha, List.take_left, List.drop_left]

/-- A transfer is split as the USB host splits a message. -/
theorem transferPackets_eq_split : ∀ (n : Nat) (xs : List UInt8), xs.length = n → transferPackets xs = split 64 xs := by
  intro n
  induction n using Nat.strongRecOn with
  | ind n ih =>
    intro xs hn
    have hsplit : split 64 xs = chunks 64 xs ++ if endsFull 64 xs then [[]] else [] := rfl
    by_cases hl : xs.length < 64
    · have hne : ¬endsFull 64 xs := by unfold endsFull; omega
      rw [transferPackets_short hl, hsplit, if_neg hne, chunks_short (by omega)]
      rfl
    · have hdrop : (xs.drop 64).length = n - 64 := by rw [List.length_drop, hn]
      rw [transferPackets_long (by omega), ih (n - 64) (by omega) _ hdrop, hsplit]
      by_cases heq : xs.length = 64
      · have hnil : xs.drop 64 = [] := List.drop_of_length_le (by omega)
        have he : endsFull 64 xs := by unfold endsFull; omega
        have hempty : split 64 ([] : List UInt8) = [[]] := by rw [split, chunks_short (by decide)]; rfl
        rw [if_pos he, chunks_short (by omega), hnil, List.take_of_length_le (by omega), hempty]
        rfl
      · have hends : endsFull 64 (xs.drop 64) ↔ endsFull 64 xs := by
          unfold endsFull
          rw [List.length_drop]
          omega
        rw [chunks_long (by decide) (by omega), split, List.cons_append]
        simp only [hends]

/-- Messages come out of their packets as they went in. -/
theorem decode_packets {ms : List SnifferMessage} (h : ∀ m ∈ ms, m.WellFormed) :
    (transfers 64 (ms.flatMap SnifferMessage.packets)).filterMap decodeTransfer = ms := by
  have hp : ms.flatMap SnifferMessage.packets = (ms.map fun m => m.address ++ m.payload).flatMap (split 64) := by
    rw [List.flatMap_map]
    exact List.flatMap_congr fun m _ => transferPackets_eq_split _ _ rfl
  rw [hp, transfers_split (by decide), List.filterMap_map]
  refine (List.filterMap_congr (g := some) fun m hm => (h m hm).decode).trans ?_
  exact List.filterMap_some

/-- In a run in sniffer mode the calls of `esb_sniffer_send` are the messages of the OUT stream exactly
if no transfer was left open that shows in the first message. Without an open transfer, messages the
host splits into packets are sent unchanged and in order. Each call puts one packet on the air, with its payload
to its address, and nothing else is sent. -/
theorem snifferStream_iff {env : Env} {s s' : System} {es : List Event} (h : Reachable env s) (hs : s.Sniffing)
    (he : ∀ e ∈ es, e.leavesSniffer = false) (hr : s.run env es = some s') :
    (SnifferStream env s es s' ↔ s.Aligned (outPackets es)) ∧
      (∀ ms : List SnifferMessage, (∀ m ∈ ms, m.WellFormed) → outPackets es = ms.flatMap SnifferMessage.packets →
        s.cb.accumulating = false → s.snifferCalls env es ++ s'.messages = s.messages ++ ms) ∧
      ∃ ts, transmissions s'.dev.esb.log = transmissions s.dev.esb.log ++ ts ∧
        List.Forall₂ SentAs (s.snifferCalls env es) ts := by
  have hlaw := stream_run hs he hr
  refine ⟨?_, ?_, sentAs_run h hs he hr⟩
  · unfold SnifferStream System.Aligned
    rw [← hlaw, List.append_cancel_left_eq, Callback.decode, transfersFrom_eq]
    unfold Callback.open
    cases ha : s.cb.accumulating with
    | false =>
      have hid : (fun xs : List UInt8 => (if false = true then s.cb.outCommand.bytes else []) ++ xs) = id := rfl
      rw [hid, List.modifyHead_id]
      exact iff_of_true rfl (fun hx => Bool.noConfusion hx)
    | true =>
      have h64 : 64 ≤ s.cb.outCommand.bytes.length := by
        rw [DataCommand.length_bytes]
        exact openLong_reachable h ha
      cases transfers 64 (outPackets es) with
      | nil => exact iff_of_true rfl fun _ _ hx => nomatch hx
      | cons xs xss =>
        simp only [List.modifyHead_cons, List.head?_cons, Option.mem_some_iff, forall_eq', if_true, true_implies]
        rw [← decodeTransfer_append_iff h64, List.filterMap_cons, List.filterMap_cons]
        cases decodeTransfer (s.cb.outCommand.bytes ++ xs) <;> cases decodeTransfer xs <;> simp
  · rintro ms hms hp ha
    rw [← hlaw, hp, Callback.decode, Callback.open, ha]
    exact congrArg (s.messages ++ ·) (decode_packets hms)

/-- From boot into sniffer mode. -/
def enterSniffer : List Event := [.request (hostRequest setRadioMode 1) [], .fetch, .handle]

/-- A packet of 7 bytes in sniffer mode. -/
theorem snifferStream_iff_short : ∃ s s', System.boot.run (fun _ => .silent) enterSniffer = some s ∧
    s.run (fun _ => .silent) [.out [1, 2, 3, 4, 5, 6, 7], .fetch, .handle] = some s' ∧
    (SnifferStream (fun _ => .silent) s [.out [1, 2, 3, 4, 5, 6, 7], .fetch, .handle] s' ↔
        s.Aligned (outPackets [.out [1, 2, 3, 4, 5, 6, 7], .fetch, .handle])) ∧
      (∀ ms : List SnifferMessage, (∀ m ∈ ms, m.WellFormed) →
        outPackets [.out [1, 2, 3, 4, 5, 6, 7], .fetch, .handle] = ms.flatMap SnifferMessage.packets →
        s.cb.accumulating = false →
        s.snifferCalls (fun _ => .silent) [.out [1, 2, 3, 4, 5, 6, 7], .fetch, .handle] ++ s'.messages =
          s.messages ++ ms) ∧
      ∃ ts, transmissions s'.dev.esb.log = transmissions s.dev.esb.log ++ ts ∧ List.Forall₂ SentAs
        (s.snifferCalls (fun _ => .silent) [.out [1, 2, 3, 4, 5, 6, 7], .fetch, .handle]) ts :=
  ⟨_, _, rfl, rfl, snifferStream_iff ⟨enterSniffer, rfl⟩ ⟨rfl, by decide⟩ (by decide) rfl⟩

/-- Behind a packet of 64 bytes in normal mode, the first message of sniffer mode goes to the address in
that packet. -/
theorem open_transfer_prepended : ¬ ∀ (env : Env) (s s' : System) (es : List Event), Reachable env s → s.Sniffing →
    (∀ e ∈ es, e.leavesSniffer = false) → s.run env es = some s' → SnifferStream env s es s' := by
  intro hall
  have h := hall (fun _ => .silent) _ _ [.out [1, 2, 3, 4, 5, 6, 7]]
    ⟨.out (List.replicate 64 9) :: enterSniffer, rfl⟩ ⟨rfl, by decide⟩ (by decide) rfl
  exact absurd h (by decide +kernel)

end Crazyradio.Usb
