/-
The data of `legacy_usb.c`: commands, the selected settings, and the device as `usb_thread` and
`fw_scan` act on it. Both hold `usb_radio_mutex` while they do, so a run of the device is a
sequence of such sections.
-/
import Crazyradio.Esb.Send

namespace Crazyradio.Usb

open Bytes

/-! ## Commands -/

/-- `CRAZYRADIO_BULK_EP_MPS`. -/
abbrev crazyradioBulkEpMps : Nat := 64

/-- `struct usb_setup_packet`. -/
structure UsbSetupPacket where
  bmRequestType : UInt8 := 0x40
  bRequest : UInt8
  wValue : UInt16 := 0
  wIndex : UInt16 := 0
  wLength : UInt16 := 0
  deriving DecidableEq

/-- `struct data_command`; `crazyradio_out_cb` never counts more bytes than the array holds. -/
structure DataCommand where
  payload : Buf 128
  length : Nat
  length_le : length ≤ 128

/-- `struct setup_command`. -/
structure SetupCommand where
  setupPacket : UsbSetupPacket
  length : Nat := 0
  data : Buf 16 := Buf.fill 16 0

/-- `struct usb_command`: the union with its tag. -/
inductive UsbCommand
  | data (c : DataCommand)
  | setup (c : SetupCommand)

def setRadioChannel : UInt8 := 0x01
def setRadioAddress : UInt8 := 0x02
def setDataRate : UInt8 := 0x03
def setRadioPower : UInt8 := 0x04
def setRadioArd : UInt8 := 0x05
def setRadioArc : UInt8 := 0x06
def ackEnable : UInt8 := 0x10
def setContCarrier : UInt8 := 0x20
def channelScann : UInt8 := 0x21
def setMode : UInt8 := 0x22
def setInlineMode : UInt8 := 0x23
def setRadioMode : UInt8 := 0x24
def setSnifferAddress : UInt8 := 0x25
def getSnifferDropCount : UInt8 := 0x26
def setPacketLossSimulation : UInt8 := 0x30
def resetToBootloader : UInt8 := 0xff

/-- `INLINE_MODE_ON_WITH_RSSI`. -/
def inlineModeOnWithRssi : UInt16 := 2

/-! ## State -/

/-- `state`: the selected settings, the scan result and the answer buffer. -/
structure State where
  datarate : UInt8 := 2
  channel : UInt8 := 42
  ackEnabled : Bool := true
  scanResult : Buf 63 := Buf.fill 63 0
  scanResultLength : Nat := 0
  inlineMode : Bool := false
  inlineRssiMode : Bool := false
  snifferMode : Bool := false
  usbAnswer : Buf 128 := Buf.fill 128 0

/-- What the sections under `usb_radio_mutex` act on: the driver, `state`, the objects
`usb_thread` and `fw_scan` hand to `esb_send_packet` (for `usb_thread` its `packet`, `ack`, `rssi`
and `arc_counter`), the plain answer buffer, the front-end's gain register and the sniffer queue
with its drop counter. `inWrites` are the buffers given to `usb_write` on the IN endpoint and
`sends` the calls of `esb_send_packet`, both since boot. `rssi` and `arc_counter` are locals the source
leaves uninitialised; they start at 0 here, and only the answers before the first call of
`esb_send_packet` that completes show that. -/
structure Device where
  esb : Esb
  state : State := {}
  usb : SendBuffers := {}
  scan : SendBuffers := {}
  plainAnswer : Buf 33 := Buf.fill 33 0
  femConfreg0 : UInt8 := 0
  snifferRxBuffer : EsbPacket := {}
  snifferPkt : EsbSnifferPacket := {}
  snifferQueue : List EsbSnifferPacket := []
  snifferDropCount : UInt32 := 0
  inWrites : List (List UInt8) := []
  sends : Nat := 0

/-- The device once `main` initialised the driver. -/
def boot : Device := { esb := esbInit {} }

/-- The surroundings of every call of `esb_send_packet`, by its number. -/
abbrev Env := Nat → Exchange

/-- `esb_send_packet` called by `usb_thread`. -/
def usbSend (env : Env) (d : Device) : Bool × Device :=
  let (acked, usb, esb) := esbSendPacket (env d.sends) d.usb d.esb
  (acked, { d with usb, esb, sends := d.sends + 1 })

/-- `esb_send_packet` called by `fw_scan`. -/
def scanSend (env : Env) (d : Device) : Bool × Device :=
  let (acked, scan, esb) := esbSendPacket (env d.sends) d.scan d.esb
  (acked, { d with scan, esb, sends := d.sends + 1 })

/-- `usb_write` on the IN endpoint. -/
def usbWrite (bytes : List UInt8) (d : Device) : Device := { d with inWrites := d.inWrites ++ [bytes] }

end Crazyradio.Usb
