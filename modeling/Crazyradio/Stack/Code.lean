/-
The sections of `legacy_usb.c` under `usb_radio_mutex` as programs over the calls of `esb.h`:
`usb_thread` on one command, and `fw_scan`. What a program does next may depend on what its calls
returned. With the driver's code for each call (`callCode`) it is a thread on the machine. A `Device`
lends the programs everything but its driver, which is on the other side of the calls.
-/
import Crazyradio.Lib.Client
import Crazyradio.Driver.Code
import Crazyradio.Usb.Request

namespace Crazyradio.Stack

open Bytes Threads Clients Usb

/-! ## Calls -/

/-- A call of the driver, with what its pointers point to. -/
inductive DriverCall
  | setting (s : Driver.Setting)
  | sendPacket (b : SendBuffers)
  | setContinuousCarrier (enable : Bool)
  | snifferStart
  | snifferSend (packet : EsbPacket) (address : Buf 5)
  | snifferStop

/-- What a call returns, with what its pointers point to then. -/
abbrev DriverCall.Result : DriverCall → Type
  | .setting _ => Unit
  | .sendPacket _ => Bool × SendBuffers
  | .setContinuousCarrier _ => Bool
  | .snifferStart => Unit
  | .snifferSend _ _ => Bool × EsbPacket
  | .snifferStop => Unit

abbrev Program : Type → Type := Client DriverCall DriverCall.Result

def call (c : DriverCall) : Program c.Result := Client.ask c

def set (s : Driver.Setting) : Program Unit := call (.setting s)

def setIf (c : Bool) (s : Driver.Setting) : Program Unit := if c then set s else return ()

/-- The second program where the first does not end in a fault. -/
def andThen (p : Program (Except Fault Device)) (k : Device → Program (Except Fault Device)) :
    Program (Except Fault Device) := do
  match ← p with
  | .ok d => k d
  | .error f => return .error f

/-- `esb_send_packet` called by `usb_thread`. -/
def usbSend (d : Device) : Program (Bool × Device) := do
  let r ← call (.sendPacket d.usb)
  return (r.1, { d with usb := r.2 })

/-- `esb_send_packet` called by `fw_scan`. -/
def scanSend (d : Device) : Program (Bool × Device) := do
  let r ← call (.sendPacket d.scan)
  return (r.1, { d with scan := r.2 })

/-! ## Setup commands -/

/-- `handle_vendor_command`, once the command is decoded. -/
def request : Request → Device → Program Device
  | .channel c, d => do
    setIf (c ≤ 100) (.channel c.toUInt8)
    return { d with state := { d.state with channel := c.toUInt8, inlineMode := false } }
  | .address a, d => do
    set (.address a)
    return { d with state := { d.state with inlineMode := false } }
  | .datarate r, d => do
    setIf (r = 1) (.bitrate radioBitrate1M)
    setIf (r = 2) (.bitrate radioBitrate2M)
    return { d with state := { d.state with datarate := r.toUInt8, inlineMode := false } }
  | .power p, d => return femSetPower (powerMapping.getD (min p.toNat 3) 0) d
  | .arc n, d => do
    set (.arc (n &&& 0x0f).toNat)
    return d
  | .ack enabled, d => do
    set (.ackEnabled enabled)
    return { d with state := { d.state with ackEnabled := enabled, inlineMode := false, inlineRssiMode := false } }
  | .carrier enable, d => do
    discard (call (.setContinuousCarrier enable))
    return d
  | .sniffer true, d => do
    call .snifferStart
    return { d with
      state := { d.state with snifferMode := true, inlineMode := false, inlineRssiMode := false }
      snifferQueue := []
      snifferDropCount := 0 }
  | .sniffer false, d => do
    call .snifferStop
    return { d with state := { d.state with snifferMode := false } }
  | .snifferAddress false a, d => do
    set (.address a)
    return d
  | .snifferAddress true a, d => do
    set (.addressPipe1 a)
    return d
  | .inlineMode v, d => return { d with
      state := { d.state with
        inlineMode := decide (v ≠ 0)
        inlineRssiMode := decide (v = inlineModeOnWithRssi) } }
  | .loss packetLoss ackLoss, d => do
    set (.packetLossSimulation packetLoss ackLoss)
    return d
  | .other, d => return d

/-! ## Data commands -/

/-- The settings part of the inline branch. -/
def inlineSettings (h : InlineModeOutHeader) (d : Device) : Program Device := do
  let datarate := UInt8.ofNat h.datarate
  set (.channel h.channel)
  set (.bitrate datarate)
  set (.ackEnabled h.ackEnabled)
  set (.address h.address)
  return { d with state := { d.state with channel := h.channel, datarate, ackEnabled := h.ackEnabled } }

/-- The packet of a data command outside sniffer mode, with the first half of a two-packet broadcast sent. -/
def buildPacket (c : DataCommand) (d : Device) : Program (Except Fault Device) :=
  if d.state.inlineMode then do
    let h := inlineModeOutHeader c.payload
    let d ← inlineSettings h d
    return loadPacket c.payload 8 (inlinePayloadLength h) d
  else if !d.state.ackEnabled && decide (32 < c.length) then
    andThen (return loadPacket c.payload 0 (c.length / 2 : Nat) d) fun d => do
      let r ← usbSend d
      return loadPacket c.payload (c.length / 2) (c.length / 2 : Nat) r.2
  else return loadPacket c.payload 0 (min c.length 32 : Nat) d

/-- The send guard, the send and the answer. -/
def sendAndAnswer (d : Device) : Program (Except Fault Device) :=
  if d.state.handled then do
    let r ← usbSend d
    return answer r.1 r.2
  else return .ok (invalidAnswer d)

/-- A data command in sniffer mode. -/
def snifferData (c : DataCommand) (d : Device) : Program (Except Fault Device) :=
  if c.length < 6 then return .ok d
  else
    let payloadLength := UInt8.ofNat (c.length - 5)
    let payloadLength := if 63 < payloadLength then 63 else payloadLength
    match memcpy (Buf.fill 5 0) 0 c.payload 0 5 with
    | .error f => return .error f
    | .ok address =>
      andThen (return loadPacket c.payload 5 payloadLength.toNat d) fun d => do
        let r ← call (.snifferSend d.usb.packet address)
        return .ok { d with usb := { d.usb with packet := r.2 } }

/-- The part of `usb_thread`'s loop that handles a command. -/
def handleCommand : UsbCommand → Device → Program (Except Fault Device)
  | .setup s, d => do
    let d ← request s.decode d
    return .ok d
  | .data c, d =>
    if d.state.snifferMode then snifferData c d
    else andThen (buildPacket c d) sendAndAnswer

/-! ## Channel scan -/

/-- The loop of `fw_scan` with `n` channels left, the next one being `channel`. -/
def fwScanLoop : Nat → Nat → Device → Program Device
  | 0, _, d => return d
  | n + 1, channel, d => do
    set (.channel (UInt8.ofNat channel))
    let r ← scanSend d
    if r.1 then
      let d := { r.2 with
        state := { r.2.state with
          scanResult := r.2.state.scanResult.set r.2.state.scanResultLength (UInt8.ofNat channel)
          scanResultLength := r.2.state.scanResultLength + 1 } }
      if esbMaxPayloadLength ≤ d.state.scanResultLength then return d else fwScanLoop n (channel + 1) d
    else fwScanLoop n (channel + 1) r.2

theorem scanPayload_fits (data : List UInt8) : 0 + (data.take 32).length ≤ 63 := by
  have : (data.take 32).length ≤ 32 := List.length_take_le 32 data
  omega

/-- `fw_scan`. -/
def fwScan (start stop : UInt8) (data : List UInt8) (d : Device) : Program Device :=
  let d := { d with state := { d.state with scanResultLength := 0 } }
  if stop < start then return d
  else
    let payload := data.take 32
    let packet := { d.scan.packet with
      data := d.scan.packet.data.blit 0 payload (scanPayload_fits data)
      length := UInt8.ofNat payload.length }
    fwScanLoop (stop.toNat + 1 - start.toNat) start.toNat { d with scan := { d.scan with packet } }

/-! ## Sections -/

/-- A section under `usb_radio_mutex`. -/
inductive Job
  | command (c : UsbCommand)
  | scan (start stop : UInt8) (data : List UInt8)

/-- The act the device model makes of it. -/
def Job.act : Job → Act
  | .command c => .command c
  | .scan start stop data => .scan start stop data

def Job.program : Job → Device → Program (Except Fault Device)
  | .command c, d => handleCommand c d
  | .scan start stop data, d => do
    let d ← fwScan start stop data d
    return .ok d

/-- Sections one behind the other. -/
def jobs : List Job → Device → Program (Except Fault Device)
  | [], d => return .ok d
  | j :: js, d => andThen (j.program d) (jobs js)

/-! ## On the machine -/

/-- The driver's code for a call. `n` counts the sends, which draw the values `draws` from `sys_rand32_get`. -/
def callCode (draws : Nat → UInt32 × UInt32) : (c : DriverCall) → Nat → Driver.Code (c.Result × Nat)
  | .setting s, n => do
    (Driver.Call.setting s).code
    return ((), n)
  | .sendPacket b, n => do
    Driver.op (.buffers fun _ => b)
    let acked ← Driver.esbSendPacket (draws n).1 (draws n).2
    let b ← Driver.get (·.buffers)
    return ((acked, b), n + 1)
  | .setContinuousCarrier enable, n => do
    let done ← Driver.esbSetContinuousCarrier enable
    return (done, n)
  | .snifferStart, n => do
    Driver.esbSnifferStart .snifferRxCallback
    return ((), n)
  | .snifferSend packet address, n => do
    Driver.op (.buffers fun b => { b with packet })
    let sent ← Driver.esbSnifferSend address
    let b ← Driver.get (·.buffers)
    return ((sent, b.packet), n)
  | .snifferStop, n => do
    Driver.esbSnifferStop
    return ((), n)

/-- The firmware's sections, instruction by instruction. -/
def firmware (draws : Nat → UInt32 × UInt32) (js : List Job) : Driver.Code (Except Fault Device × Nat) :=
  (jobs js boot).thread (callCode draws) 0

end Crazyradio.Stack
