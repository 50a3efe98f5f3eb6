/-
Any calls of the driver, one behind the other: what they make of its statics and registers, and the
packets each of them puts on the air. Whatever `usb_thread` and `fw_scan` do with the driver is such
a sequence.
-/
import Crazyradio.Esb.Call
import Mathlib.Data.List.Induction

namespace Crazyradio

open Bytes

/-! ## Calls -/

/-- A call of the driver once `esb_init` is through; a send comes with its surroundings and with what
its pointers point to. -/
inductive EsbCall
  | sendPacket (x : Exchange) (b : SendBuffers)
  | setArc (value : Nat)
  | setAckEnabled (enabled : Bool)
  | setChannel (channel : UInt8)
  | setBitrate (bitrate : UInt8)
  | setAddress (address : Buf 5)
  | setAddressPipe1 (address : Buf 5)
  | setPacketLossSimulation (packetLoss ackLoss : UInt8)
  | setContinuousCarrier (enable : Bool)
  | snifferStart (cb : EsbSnifferRxCb)
  | snifferSend (packet : EsbPacket) (address : Buf 5)
  | snifferStop

def EsbCall.apply : EsbCall → Esb → Esb
  | .sendPacket x b, e => (esbSendPacket x b e).2.2
  | .setArc value, e => esbSetArc value e
  | .setAckEnabled enabled, e => esbSetAckEnabled enabled e
  | .setChannel channel, e => esbSetChannel channel e
  | .setBitrate bitrate, e => esbSetBitrate bitrate e
  | .setAddress address, e => esbSetAddress address e
  | .setAddressPipe1 address, e => esbSetAddressPipe1 address e
  | .setPacketLossSimulation packetLoss ackLoss, e => esbSetPacketLossSimulation packetLoss ackLoss e
  | .setContinuousCarrier enable, e => (esbSetContinuousCarrier enable e).2
  | .snifferStart cb, e => esbSnifferStart cb e
  | .snifferSend packet address, e => (esbSnifferSend packet address e).2.2
  | .snifferStop, e => esbSnifferStop e

/-- The driver behind calls. -/
def Esb.after (e : Esb) (calls : List EsbCall) : Esb := calls.foldl (fun e c => c.apply e) e

@[simp] theorem Esb.after_nil (e : Esb) : e.after [] = e := rfl

theorem Esb.after_cons (e : Esb) (c : EsbCall) (calls : List EsbCall) :
    e.after (c :: calls) = (c.apply e).after calls := rfl

theorem Esb.after_append (e : Esb) (calls calls' : List EsbCall) :
    e.after (calls ++ calls') = (e.after calls).after calls' := List.foldl_append

theorem Esb.after_concat (e : Esb) (calls : List EsbCall) (c : EsbCall) :
    e.after (calls ++ [c]) = c.apply (e.after calls) := e.after_append calls [c]

/-! ## The packets of a call -/

/-- The bytes of a packet handed to the driver. -/
def EsbPacket.payload (p : EsbPacket) : List UInt8 := p.data.read 0 p.length.toNat

/-- The packets a call puts on the air. -/
def EsbCall.sent (c : EsbCall) (e : Esb) : List Transmission :=
  (transmissions (c.apply e).log).drop (transmissions e.log).length

/-- The log grows, and these are the packets in what is new. -/
theorem EsbCall.sent_eq {c : EsbCall} {e : Esb} {log : List RadioEvent} (h : (c.apply e).log = e.log ++ log) :
    c.sent e = transmissions log := by
  unfold EsbCall.sent
  rw [h, transmissions_append, List.drop_left]

theorem EsbCall.sent_nil {c : EsbCall} {e : Esb} {log : List RadioEvent} (h : (c.apply e).log = e.log ++ log)
    (hn : transmissions log = []) : c.sent e = [] := (EsbCall.sent_eq h).trans hn

/-- A send that gets past its early exits puts its packet on the air once for each attempt. -/
theorem sent_sendPacket {x : Exchange} {e : Esb} (h : e.sends x.packetDraw = true) (b : SendBuffers) :
    (EsbCall.sendPacket x b).sent e =
      List.replicate (x.retries e + 1) (onAir e.radio { b.packet with s1 := ackS1 e.pid }) := by
  rw [← transmissions_onAir]
  exact EsbCall.sent_eq (by simp only [EsbCall.apply, esbSendPacket_esb h])

/-- A sniffer-mode send puts one packet on the air. -/
theorem sent_snifferSend {e : Esb} (h : e.snifferActive = true) (packet : EsbPacket) (address : Buf 5) :
    (EsbCall.snifferSend packet address).sent e = [snifferTransmission packet address e] := by
  obtain ⟨r, log, he, -, ht⟩ := esbSnifferSend_active h packet address
  rw [← ht]
  exact EsbCall.sent_eq (by simp only [EsbCall.apply, he])

theorem sent_snifferSend_inactive {e : Esb} (h : e.snifferActive = false) (packet : EsbPacket) (address : Buf 5) :
    (EsbCall.snifferSend packet address).sent e = [] := by
  refine EsbCall.sent_nil ?_ (rfl : transmissions [] = [])
  simp only [EsbCall.apply, esbSnifferSend_inactive h, List.append_nil]

end Crazyradio
