/-
The device as a user of the driver: whatever commands, scans and receptions it goes through, its
driver is one behind a sequence of calls of the functions of `esb.h`, so what holds behind all calls
holds in every state of the device. The packets of every run are numbered one after the other.
-/
import Crazyradio.Usb.Modes

namespace Crazyradio.Usb

open Bytes

/-! ## Acts as calls -/

/-- The driver gets from one state to the other by calls. -/
def ByCalls (e e' : Esb) : Prop := ∃ calls, e' = e.after calls

theorem ByCalls.refl (e : Esb) : ByCalls e e := ⟨[], rfl⟩

theorem ByCalls.one (c : EsbCall) (e : Esb) : ByCalls e (c.apply e) := ⟨[c], rfl⟩

theorem ByCalls.trans {a b c : Esb} (h : ByCalls a b) (h' : ByCalls b c) : ByCalls a c := by
  obtain ⟨cs, rfl⟩ := h
  obtain ⟨cs', rfl⟩ := h'
  exact ⟨cs ++ cs', (a.after_append cs cs').symm⟩

theorem byCalls_driver : DriverRel ByCalls where
  refl := .refl
  trans h h' := h.trans h'
  send x b e := .one (.sendPacket x b) e
  channel channel e := .one (.setChannel channel) e
  bitrate bitrate e := .one (.setBitrate bitrate) e
  ackEnabled enabled e := .one (.setAckEnabled enabled) e
  address address e := .one (.setAddress address) e

theorem byCalls_apply (r : Request) (d : Device) : ByCalls d.esb (r.apply d).esb := by
  rcases apply_call r d with h | ⟨c, h, -⟩ <;> rw [h]
  · exact .refl d.esb
  · exact .one c d.esb

theorem byCalls_act {env : Env} {d d' : Device} {a : Act} (h : d.act env a = .ok d') : ByCalls d.esb d'.esb := by
  cases a with
  | command c =>
    cases c with
    | setup s =>
      obtain rfl := act_setup h
      exact byCalls_apply s.decode d
    | data c =>
      cases hs : d.state.snifferMode with
      | false => exact byCalls_driver.data hs h
      | true =>
        rcases snifferData_cases ((if_pos hs).symm.trans h) with ⟨-, rfl⟩ | ⟨-, rfl⟩
        · exact .refl _
        · exact .one (.snifferSend (d.snifferLoad c).usb.packet c.snifferAddress) d.esb
  | scan start stop data =>
    cases h
    exact byCalls_driver.scan env start stop data d
  | poll =>
    rw [esb_poll h]
    exact .refl d.esb
  | receive r =>
    rw [esb_receive h]
    exact .refl d.esb

theorem byCalls_run {env : Env} {as : List Act} {d : Device} (h : boot.run env as = .ok d) :
    ByCalls (esbInit {}) d.esb := by
  induction as using List.reverseRecOn generalizing d with
  | nil =>
    cases h
    exact .refl _
  | append_singleton as a ih =>
    obtain ⟨d₁, h₁, ha⟩ := run_concat.mp h
    exact (ih h₁).trans (byCalls_act ha)

/-! ## Packet identifiers -/

end Crazyradio.Usb
