/-
Two-packet broadcasts. Without auto-ack a data command of more than 32 bytes is split into two
packets of `length / 2` bytes each: the first one is sent right away, the second one behind the
guard. An odd length loses its last byte.
-/
import Crazyradio.Usb.Calls

namespace Crazyradio.Usb

open Bytes

/-! ## The calls of a data command -/

/-- The calls of `esb_send_packet` while the packet of a data command is built. -/
def buildCalls (env : Env) (c : DataCommand) (d : Device) : List EsbCall :=
  if d.state.inlineMode then []
  else if d.broadcasts c then
    match loadPacket c.payload 0 (c.length / 2 : Nat) d with
    | .ok d => [.sendPacket (env d.sends) d.usb]
    | .error _ => []
  else []

/-- The call behind the send guard. -/
def guardedCalls (env : Env) (d : Device) : List EsbCall :=
  if d.state.handled then [.sendPacket (env d.sends) d.usb] else []

/-- The calls of `esb_send_packet` for a data command outside sniffer mode, in order. -/
def sendCalls (env : Env) (c : DataCommand) (d : Device) : List EsbCall :=
  buildCalls env c d ++
    match buildPacket env c d with
    | .ok d => guardedCalls env d
    | .error _ => []

theorem sends_guardedSend (env : Env) (d : Device) :
    (guardedSend env d).esb = d.esb.after (guardedCalls env d) ∧
      (guardedSend env d).sends = d.sends + (guardedCalls env d).length := by
  cases h : d.state.handled with
  | true =>
    rw [guardedSend_pos h, guardedCalls, if_pos h, capAck_esb]
    refine ⟨rfl, ?_⟩
    unfold capAck
    split <;> rfl
  | false =>
    rw [guardedSend_neg h, guardedCalls, if_neg (Bool.eq_false_iff.mp h)]
    exact ⟨rfl, rfl⟩

section Calls

variable {env : Env} {c : DataCommand} {d : Device}

theorem buildCalls_broadcast (hi : d.state.inlineMode = false) (hb : d.broadcasts c = true) (hl : c.length / 2 ≤ 63) :
    buildCalls env c d = [.sendPacket (env d.sends) (d.load c.payload 0 (c.length / 2) hl).usb] := by
  have := half_le c
  rw [buildCalls, if_neg (Bool.eq_false_iff.mp hi), if_pos hb, loadPacket_ok c.payload hl (by omega)]
  rfl

theorem buildCalls_plain (hi : d.state.inlineMode = false) (hb : d.broadcasts c = false) : buildCalls env c d = [] := by
  rw [buildCalls, if_neg (Bool.eq_false_iff.mp hi), if_neg (Bool.eq_false_iff.mp hb)]

theorem sendCalls_ok {d₁ : Device} (h : buildPacket env c d = .ok d₁) :
    sendCalls env c d = buildCalls env c d ++ guardedCalls env d₁ := by rw [sendCalls, h]

/-- The driver behind a command is the one behind these calls. -/
theorem sendCalls_after {d' : Device} (hs : d.state.snifferMode = false) (hi : d.state.inlineMode = false)
    (h : handleCommand env (.data c) d = .ok d') :
    d'.esb = d.esb.after (sendCalls env c d) ∧ d'.sends = d.sends + (sendCalls env c d).length := by
  obtain ⟨d₁, b, p, hb, rfl⟩ := handleCommand_data_cases hs h
  obtain ⟨he, hn⟩ := sends_guardedSend env d₁
  have hd : d₁.esb = d.esb.after (buildCalls env c d) ∧ d₁.sends = d.sends + (buildCalls env c d).length := by
    rcases buildPacket_cases hb with ⟨hi', -, -⟩ | ⟨-, hc, hl, rfl⟩ | ⟨-, hc, rfl⟩
    · exact absurd (hi'.symm.trans hi) Bool.noConfusion
    · rw [buildCalls_broadcast hi hc hl]
      exact ⟨rfl, rfl⟩
    · rw [buildCalls_plain hi hc]
      exact ⟨rfl, rfl⟩
  rw [sendCalls_ok hb, Esb.after_append, List.length_append, ← hd.1, ← Nat.add_assoc, ← hd.2]
  exact ⟨he, hn⟩

/-! ## The two halves -/

theorem payload_load (d : Device) (payload : Buf 128) {off n : Nat} (h : n ≤ 63) (ho : off + n ≤ 128) :
    (d.load payload off n h).usb.packet.payload = payload.read off n := by
  have hn : (UInt8.ofNat n).toNat = n := by simp; omega
  show ((d.load payload off n h).usb.packet.data).read 0 (UInt8.ofNat n).toNat = _
  rw [hn]
  have hl : (payload.read off n).length = n := payload.length_read ho
  exact d.usb.packet.data.read_blit hl (by omega)

/-- What the two calls of a broadcast hand over: the command's bytes from 0 and from the half on, as
many as the halved length says. -/
theorem sendCalls_broadcast (env : Env) {c : DataCommand} {d : Device} (hi : d.state.inlineMode = false)
    (hb : d.broadcasts c = true) (hh : d.state.handled = true) (hl : c.length / 2 ≤ 63) :
    ∃ (d₁ : Device) (x₁ x₂ : Exchange) (b₁ b₂ : SendBuffers), buildPacket env c d = .ok d₁ ∧
      sendCalls env c d = [.sendPacket x₁ b₁, .sendPacket x₂ b₂] ∧
      b₁.packet.payload = c.payload.read 0 (c.length / 2) ∧
      b₂.packet.payload = c.payload.read (c.length / 2) (c.length / 2) := by
  have hc := half_le c
  have hd := buildPacket_broadcast env c d hi hb hl
  refine ⟨_, env d.sends, env (d.sends + 1), _, _, hd, ?_, payload_load d c.payload hl (by omega),
    payload_load (usbSend env (d.load c.payload 0 (c.length / 2) hl)).2 c.payload hl hc⟩
  rw [sendCalls_ok hd, buildCalls_broadcast hi hb hl]
  exact congrArg ([_] ++ ·) (if_pos hh)

end Calls

/-- Exactly two calls of `esb_send_packet` with at most 32 bytes each, which together are the bytes of
the command. -/
def BroadcastExact (env : Env) (c : DataCommand) (d : Device) : Prop :=
  (∃ d', handleCommand env (.data c) d = .ok d' ∧ d'.esb = d.esb.after (sendCalls env c d) ∧
      d'.sends = d.sends + 2) ∧
    ∃ (x₁ x₂ : Exchange) (b₁ b₂ : SendBuffers), sendCalls env c d = [.sendPacket x₁ b₁, .sendPacket x₂ b₂] ∧
      (b₁.packet.payload).length ≤ 32 ∧ (b₂.packet.payload).length ≤ 32 ∧
      b₁.packet.payload ++ b₂.packet.payload = c.payload.read 0 c.length

/-- The two halves are the command exactly when its length is even. -/
theorem halves_eq_iff (c : DataCommand) :
    c.payload.read 0 (c.length / 2) ++ c.payload.read (c.length / 2) (c.length / 2) = c.payload.read 0 c.length ↔
      c.length % 2 = 0 := by
  have hc := half_le c
  have hl := c.length_le
  have hr := c.payload.read_append 0 (c.length / 2) (c.length / 2)
  rw [Nat.zero_add] at hr
  rw [hr]
  constructor
  · intro h
    have hlen := congrArg List.length h
    rw [c.payload.length_read (by omega), c.payload.length_read (by omega)] at hlen
    omega
  · intro h
    rw [show c.length / 2 + c.length / 2 = c.length by omega]

section Exact

variable {env : Env} {c : DataCommand} {d : Device}

/-- A broadcast under supported settings: two calls, which hand over the two halves. -/
theorem broadcastExact_iff_halves (hs : d.state.snifferMode = false) (hi : d.state.inlineMode = false)
    (hb : d.broadcasts c = true) (hh : d.state.handled = true) (hl : c.length ≤ 64) :
    BroadcastExact env c d ↔
      c.payload.read 0 (c.length / 2) ++ c.payload.read (c.length / 2) (c.length / 2) =
        c.payload.read 0 c.length := by
  obtain ⟨d₁, x₁, x₂, b₁, b₂, hd, hcalls, h₁, h₂⟩ := sendCalls_broadcast env hi hb hh (by omega)
  constructor
  · rintro ⟨-, x₁', x₂', b₁', b₂', hcalls', -, -, happ⟩
    cases hcalls.symm.trans hcalls'
    rw [← h₁, ← h₂]
    exact happ
  · intro happ
    obtain ⟨b, p, hok⟩ := handleCommand_data env hs hd
    obtain ⟨he, hn⟩ := sendCalls_after hs hi hok
    refine ⟨⟨_, hok, he, by rw [hn, hcalls]; rfl⟩, x₁, x₂, b₁, b₂, hcalls, ?_, ?_, by rw [h₁, h₂, happ]⟩
    · have := c.payload.length_read_le 0 (c.length / 2)
      rw [h₁]
      omega
    · have := c.payload.length_read_le (c.length / 2) (c.length / 2)
      rw [h₂]
      omega

/-- A two-packet broadcast loses nothing exactly when its length is even. -/
theorem broadcast_exact_iff (hs : d.state.snifferMode = false) (hi : d.state.inlineMode = false)
    (ha : d.state.ackEnabled = false) (hh : d.state.handled = true) (hlo : 33 ≤ c.length) (hhi : c.length ≤ 64) :
    BroadcastExact env c d ↔ c.length % 2 = 0 := by
  have hb : d.broadcasts c = true := by
    rw [Device.broadcasts, ha, decide_eq_true (show 32 < c.length by omega)]
    rfl
  rw [broadcastExact_iff_halves hs hi hb hh hhi]
  exact halves_eq_iff c

end Exact

/-- The device once the host switched auto-ack off. -/
def unacked : Device := (Request.ack false).apply boot

theorem broadcast_exact_64 :
    BroadcastExact (fun _ => .silent) ⟨Buf.fill 128 7, 64, by decide⟩ unacked ↔ 64 % 2 = 0 :=
  broadcast_exact_iff rfl rfl rfl rfl (by decide) (by decide)

/-- Of 33 bytes the last one is not sent. -/
theorem broadcast_drops_last : ¬ ∀ (env : Env) (as : List Act) (c : DataCommand) (d : Device),
    boot.run env as = .ok d → d.state.snifferMode = false → d.state.inlineMode = false →
      d.state.ackEnabled = false → d.state.handled = true → 33 ≤ c.length → c.length ≤ 64 →
      BroadcastExact env c d := by
  intro h
  have hx := h (fun _ => .silent) [.command (.setup { setupPacket := { bRequest := ackEnable } })]
    ⟨Buf.fill 128 7, 33, by decide⟩ unacked rfl rfl rfl rfl rfl (by decide) (by decide)
  have hodd := (broadcastExact_iff_halves rfl rfl rfl rfl (by decide)).mp hx
  exact absurd ((halves_eq_iff _).mp hodd) (by decide)

end Crazyradio.Usb
