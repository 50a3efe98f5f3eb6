/-
The firmware as two threads over the device: the USB callback thread (`crazyradio_out_cb`,
`crazyradio_vendor_handler`) and `usb_thread`, joined by `command_queue`. One step is one callback,
one pass of `usb_thread` between two points where it can be preempted, or one reception in sniffer
mode. What happens to the device alone is a sequence of `Act`s, the sections under
`usb_radio_mutex`, whatever the interleaving.
-/
import Crazyradio.Usb.Data

namespace Crazyradio.Usb

open Bytes

/-! ## Sniffer receptions -/

/-- A run of the sniffer branch of `radio_isr`: what the radio and the timer report to it. There is one for
each frame received, and one that `esb_sniffer_stop` causes with its DISABLE, in which the frame, its CRC
status and its RSSI are those of what was received last, be it the ack of an earlier send. -/
structure Reception where
  frame : RxFrame
  crcOk : Bool
  rssi : UInt8
  rxmatch : UInt8
  timestamp : UInt32

/-- `sniffer_rx_callback`: the queue holds 8 records. -/
def snifferRxCallback (pkt : EsbSnifferPacket) (d : Device) : Device :=
  if d.snifferQueue.length < 8 then { d with snifferQueue := d.snifferQueue ++ [pkt] }
  else { d with snifferDropCount := d.snifferDropCount + 1 }

/-- The record `radio_isr` fills for a reception. -/
def snifferRecord (pkt : EsbSnifferPacket) (buffer : EsbPacket) (r : Reception) : EsbSnifferPacket :=
  let length : UInt8 := if 63 < buffer.length then 63 else buffer.length
  have h : length.toNat ≤ 63 := by
    simp only [length]; split
    · decide
    · rename_i hl; simpa [UInt8.lt_iff_toNat_lt] using hl
  { length
    rssi := r.rssi
    pipe := r.rxmatch
    timestampUs := r.timestamp
    data := pkt.data.blit 0 (buffer.data.read 0 length.toNat) (by
      have := buffer.data.length_read_le 0 length.toNat; omega)
    length_le := h }

/-- The sniffer branch of `radio_isr`. -/
def radioIsrSniffer (r : Reception) (d : Device) : Device :=
  let d := { d with snifferRxBuffer := d.snifferRxBuffer.receive d.esb.radio.maxlen r.frame }
  if r.crcOk && d.esb.snifferCallback.isSome then
    let pkt := snifferRecord d.snifferPkt d.snifferRxBuffer r
    snifferRxCallback pkt { d with snifferPkt := pkt }
  else d

/-! ## Acts on the device -/

/-- A section under `usb_radio_mutex`, a record sent to the host, or a reception. -/
inductive Act
  | command (c : UsbCommand)
  | scan (start stop : UInt8) (data : List UInt8)
  | poll
  | receive (r : Reception)

def Device.act (env : Env) (d : Device) : Act → Except Fault Device
  | .command c => handleCommand env c d
  | .scan start stop data => return fwScan env start stop data d
  | .poll => pollSniffer d
  | .receive r => return if d.esb.snifferActive then radioIsrSniffer r d else d

def Device.run (env : Env) (d : Device) : List Act → Except Fault Device
  | [] => return d
  | a :: as => do
    let d ← d.act env a
    d.run env as

/-- The setup requests `crazyradio_vendor_handler` queues for `usb_thread`. -/
def queues (p : UsbSetupPacket) : Bool :=
  [setRadioChannel, setRadioAddress, setDataRate, setRadioPower, setRadioArd, setRadioArc, ackEnable,
    setContCarrier, setMode, setSnifferAddress, setPacketLossSimulation].contains p.bRequest ||
  (p.bRequest == setInlineMode && decide (p.wValue ≤ inlineModeOnWithRssi)) ||
  (p.bRequest == setRadioMode && decide (p.wValue ≤ 1))

/-- A vendor request of the host without a data stage. -/
def hostRequest (bRequest : UInt8) (wValue : UInt16) : UsbSetupPacket := { bRequest, wValue }

/-- The acts that can reach the device: of setup commands only the queued ones. -/
def Act.Accepted : Act → Prop
  | .command (.setup s) => queues s.setupPacket = true
  | _ => True

/-- The device states some run from boot ends in. -/
def DevReachable (env : Env) (d : Device) : Prop :=
  ∃ as : List Act, (∀ a ∈ as, a.Accepted) ∧ boot.run env as = .ok d

/-! ## The USB callback thread -/

def DataCommand.empty : DataCommand := ⟨Buf.fill 128 0, 0, by decide⟩

/-- `bytes` read into the payload from index `off` on, and the length that results. -/
def DataCommand.store (c : DataCommand) (off : Nat) (bytes : List UInt8) (h : off + bytes.length ≤ 128) :
    DataCommand :=
  ⟨c.payload.blit off bytes h, off + bytes.length, h⟩

/-- The statics of the two callbacks. -/
structure Callback where
  outCommand : DataCommand := DataCommand.empty
  accumulating : Bool := false
  vendorCommand : SetupCommand := { setupPacket := { bmRequestType := 0, bRequest := 0 } }

/-- `crazyradio_out_cb` for one OUT packet: the statics behind it and the command it queues. -/
def crazyradioOutCb (packet : List UInt8) (cb : Callback) : Callback × Option DataCommand :=
  if cb.accumulating then
    let offset := cb.outCommand.length
    let space := 128 - offset
    let command :=
      if h : packet.length ≤ space then
        cb.outCommand.store offset packet (by have := cb.outCommand.length_le; omega)
      else
        -- what does not fit is read into a scratch buffer
        cb.outCommand.store offset (packet.take space) (by
          have := cb.outCommand.length_le
          have := List.length_take_le space packet; omega)
    if packet.length < crazyradioBulkEpMps then
      ({ cb with outCommand := command, accumulating := false }, some command)
    else ({ cb with outCommand := command }, none)
  else
    let command :=
      if h : 128 < packet.length then
        cb.outCommand.store 0 (packet.take 128) (by have := List.length_take_le 128 packet; omega)
      else cb.outCommand.store 0 packet (by omega)
    if packet.length = crazyradioBulkEpMps then
      ({ cb with outCommand := command, accumulating := true }, none)
    else ({ cb with outCommand := command }, some command)

/-- `usb_reqtype_is_to_device`. -/
def UsbSetupPacket.toDevice (p : UsbSetupPacket) : Bool := decide (p.bmRequestType < 0x80)

/-- `USB_REQTYPE_GET_TYPE(..) == USB_REQTYPE_TYPE_VENDOR`. -/
def UsbSetupPacket.isVendor (p : UsbSetupPacket) : Bool := decide (p.bmRequestType.toNat / 32 % 4 = 2)

/-- What `crazyradio_vendor_handler` does with a request. -/
inductive VendorAction
  | ignore
  | queue (c : SetupCommand)
  | scan (start stop : UInt8) (data : List UInt8)
  | reply (bytes : List UInt8)
  | reset
  | notSupported

/-- `crazyradio_vendor_handler`; `data` is the data stage received, of `len` bytes. -/
def crazyradioVendorHandler (setup : UsbSetupPacket) (data : List UInt8) (d : Device) (cb : Callback) :
    Callback × VendorAction :=
  if setup.isVendor then
    if queues setup then
      let length := min setup.wLength.toNat 16
      let command := { cb.vendorCommand with setupPacket := setup }
      let command :=
        if setup.toDevice && decide (0 < length) then
          { command with
            data := command.data.blit 0 (data.take length) (by
              have := List.length_take_le length data
              have : length ≤ 16 := Nat.min_le_right _ _; omega)
            length }
        else command
      ({ cb with vendorCommand := command }, .queue command)
    else if setup.bRequest = channelScann ∧ setup.toDevice then
      (cb, .scan setup.wValue.toUInt8 setup.wIndex.toUInt8 data)
    else if setup.bRequest = channelScann then
      (cb, .reply (d.state.scanResult.read 0 (min d.state.scanResultLength setup.wLength.toNat)))
    else if setup.bRequest = getSnifferDropCount ∧ ¬ setup.toDevice then
      (cb, .reply ((leBytes d.snifferDropCount).take (min 4 setup.wLength.toNat)))
    else if setup.bRequest = resetToBootloader then (cb, .reset)
    else (cb, .notSupported)
  else (cb, .ignore)

/-! ## The two threads -/

/-- Where `usb_thread` stands: at the head of its loop, with a command taken from the queue
(`sniffing` as the head of the loop saw it), or at the poll that ends an iteration in sniffer
mode. -/
inductive Pc
  | top
  | held (c : UsbCommand) (sniffing : Bool)
  | poll

/-- Both threads, the queue between them and the device. -/
structure System where
  dev : Device
  cb : Callback := {}
  queue : List UsbCommand := []
  pc : Pc := .top
  halted : Bool := false

def System.boot : System := { dev := Usb.boot }

/-- One step of the system. -/
inductive Event
  | out (packet : List UInt8)
  | request (setup : UsbSetupPacket) (data : List UInt8)
  | fetch
  | handle
  | poll
  | receive (r : Reception)

/-- `k_msgq_put(&command_queue, .., K_FOREVER)`: the callback waits while the queue is full. -/
def System.put (s : System) (c : UsbCommand) : Option System :=
  if s.queue.length < 10 then some { s with queue := s.queue ++ [c] } else none

/-- `crazyradio_out_cb`; a bulk packet has at most 64 bytes. -/
def System.out (packet : List UInt8) (s : System) : Option System :=
  if packet.length ≤ crazyradioBulkEpMps then
    match crazyradioOutCb packet s.cb with
    | (cb, some c) => { s with cb }.put (.data c)
    | (cb, none) => some { s with cb }
  else none

/-- `crazyradio_vendor_handler`; the data stage of a request to the device has `wLength` bytes. -/
def System.request (env : Env) (setup : UsbSetupPacket) (data : List UInt8) (s : System) : Option System :=
  if setup.toDevice ∧ data.length ≠ setup.wLength.toNat then none
  else
    match crazyradioVendorHandler setup data s.dev s.cb with
    | (cb, .queue c) => { s with cb }.put (.setup c)
    | (cb, .scan start stop data) => some { s with cb, dev := fwScan env start stop data s.dev }
    | (cb, .reset) => some { s with cb, halted := true }
    | (cb, _) => some { s with cb }

/-- The head of `usb_thread`'s loop: outside sniffer mode it waits for a command, in sniffer mode
it goes on to the poll without one. -/
def System.fetch (s : System) : Option System :=
  match s.pc, s.queue with
  | .top, c :: rest => some { s with queue := rest, pc := .held c s.dev.state.snifferMode }
  | .top, [] => if s.dev.state.snifferMode then some { s with pc := .poll } else none
  | _, _ => none

/-- A data command too short for sniffer mode starts the next iteration at once. -/
def skipsPoll : UsbCommand → Bool
  | .data c => decide (c.length < 6)
  | .setup _ => false

/-- The command taken is handled; a fault ends the run. -/
def System.handle (env : Env) (s : System) : Option System :=
  match s.pc with
  | .held c sniffing =>
    match handleCommand env c s.dev with
    | .ok dev => some { s with dev, pc := if sniffing && !skipsPoll c then .poll else .top }
    | .error _ => none
  | _ => none

def System.poll (s : System) : Option System :=
  match s.pc with
  | .poll =>
    match pollSniffer s.dev with
    | .ok dev => some { s with dev, pc := .top }
    | .error _ => none
  | _ => none

def System.step (env : Env) (s : System) (e : Event) : Option System :=
  if s.halted then none
  else
    match e with
    | .out packet => s.out packet
    | .request setup data => s.request env setup data
    | .fetch => s.fetch
    | .handle => s.handle env
    | .poll => s.poll
    | .receive r => if s.dev.esb.snifferActive then some { s with dev := radioIsrSniffer r s.dev } else none

def System.run (env : Env) (s : System) : List Event → Option System
  | [] => some s
  | e :: es => do
    let s ← s.step env e
    s.run env es

/-- The states of the system some run from boot ends in. -/
def Reachable (env : Env) (s : System) : Prop := ∃ es : List Event, System.boot.run env es = some s

end Crazyradio.Usb
