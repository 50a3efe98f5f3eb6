/-
`usb_thread` on one command: building the radio packet from a data command (inline, two-packet
broadcast, plain and sniffer), the guard in front of the send, the answers on the IN endpoint,
and the records of the sniffer queue.
-/
import Crazyradio.Usb.Vendor

namespace Crazyradio.Usb

open Bytes

/-! ## Inline header -/

/-- `inline_mode_out_header`, with its bit fields decoded. -/
structure InlineModeOutHeader where
  length : UInt8
  datarate : Fin 4
  ackEnabled : Bool
  channel : UInt8
  address : Buf 5

/-- The first eight bytes of a payload read as a header; bit fields start at bit 0. -/
def inlineModeOutHeader (payload : Buf 128) : InlineModeOutHeader :=
  { length := payload.get 0
    datarate := ⟨(payload.get 1).toNat % 4, Nat.mod_lt _ (by decide)⟩
    ackEnabled := decide ((payload.get 1).toNat / 16 % 2 = 1)
    channel := payload.get 2
    address := (Buf.fill 5 0).blit 0 (payload.read 3 5) (by have := payload.length_read_le 3 5; omega) }

/-- The settings part of the inline branch. -/
def inlineSettings (h : InlineModeOutHeader) (d : Device) : Device :=
  let datarate := UInt8.ofNat h.datarate
  let esb := esbSetChannel h.channel d.esb
  -- the header's data rate is passed on as an esbBitrate_t
  let esb := esbSetBitrate datarate esb
  let esb := esbSetAckEnabled h.ackEnabled esb
  let esb := esbSetAddress h.address esb
  { d with
    esb
    state := { d.state with channel := h.channel, datarate, ackEnabled := h.ackEnabled } }

/-! ## Building the packet -/

/-- `memcpy(packet.data, &payload[off], n)` and `packet.length = n`. -/
def loadPacket (payload : Buf 128) (off : Nat) (n : Int) (d : Device) : Except Fault Device := do
  let data ← memcpy d.usb.packet.data 0 payload off n
  return { d with usb := { d.usb with packet := { d.usb.packet with data, length := UInt8.ofNat n.toNat } } }

/-- `payload_length` of the inline branch: the subtraction is unsigned and read back as `int`, so
a header length below 8 leaves a negative number. -/
def inlinePayloadLength (h : InlineModeOutHeader) : Int :=
  let payloadLength : Int := h.length.toNat - 8
  if 32 + 8 < payloadLength then 32 + 8 else payloadLength

/-- The packet of a data command outside sniffer mode; a two-packet broadcast sends its first half
right here. -/
def buildPacket (env : Env) (c : DataCommand) (d : Device) : Except Fault Device :=
  if d.state.inlineMode then
    let h := inlineModeOutHeader c.payload
    loadPacket c.payload 8 (inlinePayloadLength h) (inlineSettings h d)
  else if !d.state.ackEnabled && decide (32 < c.length) then do
    let d ← loadPacket c.payload 0 (c.length / 2 : Nat) d
    let d := (usbSend env d).2
    loadPacket c.payload (c.length / 2) (c.length / 2 : Nat) d
  else loadPacket c.payload 0 (min c.length 32 : Nat) d

/-! ## Answers -/

/-- The guard in front of the send: `state.datarate != 0 && state.channel <= 100`. -/
def State.handled (s : State) : Bool := decide (s.datarate ≠ 0) && decide (s.channel ≤ 100)

/-- The second byte of both inline IN headers. -/
def inlineFlags (ackReceived rssiLt64dbm invalidSettings : Bool) (arcCounter : UInt8) : UInt8 :=
  let bit (b : Bool) (v : UInt8) : UInt8 := if b then v else 0
  bit ackReceived 1 ||| bit rssiLt64dbm 2 ||| bit invalidSettings 4 ||| (arcCounter <<< 4)

/-- The size of the IN header in effect: `inline_mode_in_header` or `inline_rssi_mode_in_header`. -/
def State.headerSize (s : State) : Nat := if s.inlineRssiMode then 3 else 2

/-- The IN header in effect. -/
def State.inlineHeader (s : State) (length flags rssiDbm : UInt8) : List UInt8 :=
  if s.inlineRssiMode then [length, flags, rssiDbm] else [length, flags]

theorem State.length_inlineHeader (s : State) (length flags rssiDbm : UInt8) :
    (s.inlineHeader length flags rssiDbm).length = s.headerSize := by
  unfold inlineHeader headerSize; split <;> rfl

theorem State.headerSize_le (s : State) : s.headerSize ≤ 3 := by unfold headerSize; split <;> omega

/-- The answer of the two inline branches, built in `state.usb_answer`. -/
def inlineAnswer (acked : Bool) (d : Device) : Except Fault Device := do
  let s := d.state
  let ack := d.usb.ack
  let length := ack.length + UInt8.ofNat s.headerSize
  let flags := inlineFlags acked (s.ackEnabled && decide (d.usb.rssi < 64)) (!s.handled)
    (if s.ackEnabled then d.usb.retry &&& 0x0f else 0)
  let answer := s.usbAnswer.blit 0 (s.inlineHeader length flags d.usb.rssi) (by
    rw [s.length_inlineHeader]; have := s.headerSize_le; omega)
  -- Shift the ack data
  let shifted :=
    if acked && decide (0 < ack.length) then memcpy answer s.headerSize ack.data 0 ack.length.toNat
    else pure answer
  let answer ← shifted
  return usbWrite (answer.read 0 length.toNat) { d with state := { s with usbAnswer := answer } }

/-- The answer outside inline mode: none without auto-ack, the status byte and the ack payload in
`usb_answer[33]`, or one zero byte. -/
def plainAnswer (acked : Bool) (d : Device) : Except Fault Device := do
  let ack := d.usb.ack
  if !d.state.ackEnabled then return d
  else if acked && decide (ack.length ≤ 32) then
    let weak : UInt8 := if d.usb.rssi < 64 then 2 else 0
    let status := ((d.usb.retry &&& 0x0f) <<< 4) ||| weak ||| 1
    let answer ← memcpy (d.plainAnswer.set 0 status) 1 ack.data 0 ack.length.toNat
    return usbWrite (answer.read 0 (ack.length.toNat + 1)) { d with plainAnswer := answer }
  else return usbWrite [0] d

/-- The ack length cut to 32. -/
def capAck (d : Device) : Device :=
  if 32 < d.usb.ack.length then { d with usb := { d.usb with ack := { d.usb.ack with length := 32 } } } else d

/-- The answer to a packet handed to the driver. -/
def answer (acked : Bool) (d : Device) : Except Fault Device :=
  let d := capAck d
  if d.state.inlineMode then inlineAnswer acked d else plainAnswer acked d

/-- The answer when the settings are not handled. -/
def invalidAnswer (d : Device) : Device :=
  let s := d.state
  if s.inlineMode then
    usbWrite (s.inlineHeader (UInt8.ofNat s.headerSize) (inlineFlags false false true 0) 0) d
  else usbWrite [0] d

/-- The send guard, the send and the answer. -/
def sendAndAnswer (env : Env) (d : Device) : Except Fault Device :=
  if d.state.handled then
    let (acked, d) := usbSend env d
    answer acked d
  else return invalidAnswer d

/-! ## One command, one record -/

/-- A data command in sniffer mode: five address bytes and the payload. -/
def snifferData (c : DataCommand) (d : Device) : Except Fault Device :=
  if c.length < 6 then return d
  else do
    let address ← memcpy (Buf.fill 5 0) 0 c.payload 0 5
    let payloadLength := UInt8.ofNat (c.length - 5)
    let payloadLength := if 63 < payloadLength then 63 else payloadLength
    let d ← loadPacket c.payload 5 payloadLength.toNat d
    let (_, packet, esb) := esbSnifferSend d.usb.packet address d.esb
    return { d with esb, usb := { d.usb with packet } }

/-- The part of `usb_thread`'s loop that handles a command. -/
def handleCommand (env : Env) : UsbCommand → Device → Except Fault Device
  | .setup setup, d => return handleVendorCommand setup d
  | .data c, d =>
    if d.state.snifferMode then snifferData c d
    else do
      let d ← buildPacket env c d
      sendAndAnswer env d

/-- A 32-bit value as it lies in memory. -/
def leBytes (v : UInt32) : List UInt8 :=
  [v.toUInt8, (v >>> 8).toUInt8, (v >>> 16).toUInt8, (v >>> 24).toUInt8]

/-- The end of an iteration in sniffer mode: one record of the queue goes to the IN endpoint, with
an empty write behind a record of exactly one bulk packet. -/
def pollSniffer (d : Device) : Except Fault Device :=
  match d.snifferQueue with
  | [] => return d
  | pkt :: rest => do
    let totalLength := 7 + pkt.length
    let answer := d.state.usbAnswer.blit 0 ([totalLength, pkt.rssi, pkt.pipe] ++ leBytes pkt.timestampUs)
      (by simp [leBytes])
    let answer ← memcpy answer 7 pkt.data 0 pkt.length.toNat
    let d := { d with snifferQueue := rest, state := { d.state with usbAnswer := answer } }
    let d := usbWrite (answer.read 0 totalLength.toNat) d
    return if totalLength.toNat = crazyradioBulkEpMps then usbWrite [] d else d

end Crazyradio.Usb
