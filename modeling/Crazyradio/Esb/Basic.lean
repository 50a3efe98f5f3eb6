/-
The radio driver of `esb.c` as its callers see it: its statics, the radio's configuration
registers, and the functions that change them. Every call is one critical section of
`radio_busy`. The log records, in order, every write to a configuration register and every radio
task that puts something on the air; a task that starts a packet records the packet as the radio
sends it, with the registers in effect.
-/
import Crazyradio.Lib.Buffer

namespace Crazyradio

open Bytes

/-! ## Packets -/

/-- `ESB_MAX_PAYLOAD_LENGTH`. -/
abbrev esbMaxPayloadLength : Nat := 63

/-- `struct esbPacket_s`. -/
structure EsbPacket where
  length : UInt8 := 0
  s1 : UInt8 := 0
  data : Buf 63 := Buf.fill 63 0

theorem zero_le_payload : (0 : UInt8).toNat ≤ 63 := by decide

/-- `struct esbSnifferPacket_s`; the interrupt handler clamps the length to the array. -/
structure EsbSnifferPacket where
  length : UInt8 := 0
  rssi : UInt8 := 0
  pipe : UInt8 := 0
  timestampUs : UInt32 := 0
  data : Buf 63 := Buf.fill 63 0
  length_le : length.toNat ≤ 63 := by exact zero_le_payload

/-- What the radio receives: a 6-bit length field, the 3-bit S1 field and the payload. -/
structure RxFrame where
  length : UInt8
  s1 : UInt8
  payload : Buf 63
  length_le : length.toNat ≤ 63

/-- The radio writes a received frame at the packet pointer: the length and S1 fields as
received, and no more than `MAXLEN` payload bytes. -/
def EsbPacket.receive (p : EsbPacket) (maxlen : Nat) (f : RxFrame) : EsbPacket :=
  { length := f.length
    s1 := f.s1
    data := p.data.blit 0 (f.payload.read 0 (min f.length.toNat maxlen)) (by
      have := f.payload.length_read_le 0 (min f.length.toNat maxlen)
      have := f.length_le; omega) }

/-! ## Registers, statics and the log -/

/-- The two values of `RADIO.MODE` the driver writes. -/
inductive RadioMode
  | nrf1Mbit
  | nrf2Mbit
  deriving DecidableEq

/-- The radio's configuration registers. -/
structure Radio where
  frequency : Nat := 2402
  mode : RadioMode := .nrf1Mbit
  base0 : UInt32 := 0
  base1 : UInt32 := 0
  prefix0 : UInt32 := 0
  txaddress : UInt8 := 0
  rxaddresses : UInt8 := 0
  maxlen : Nat := 0
  deriving DecidableEq

/-- A packet the radio starts sending, with the registers in effect; of the payload the radio
sends at most `MAXLEN` bytes. -/
structure Transmission where
  radio : Radio
  s1 : UInt8
  length : UInt8
  payload : List UInt8
  deriving DecidableEq

/-- A write to a configuration register, or a radio task. -/
inductive RadioEvent
  | frequency (f : Nat)
  | mode (m : RadioMode)
  | base0 (v : UInt32)
  | base1 (v : UInt32)
  | prefix0 (v : UInt32)
  | txaddress (v : UInt8)
  | rxaddresses (v : UInt8)
  | packetConfigure (maxlen : Nat)
  | transmit (t : Transmission)
  | carrier
  | rxen
  | disable
  deriving DecidableEq

/-- The callbacks a sniffer session can have. -/
inductive EsbSnifferRxCb
  | snifferRxCallback
  deriving DecidableEq

/-- The statics of `esb.c`, the radio's configuration registers and the log. -/
structure Esb where
  isInit : Bool := false
  pid : UInt8 := 0
  ackEnabled : Bool := true
  arc : Nat := 3
  packetLossPercent : Nat := 0
  ackLossPercent : Nat := 0
  continuousCarrierEnabled : Bool := false
  snifferActive : Bool := false
  snifferCallback : Option EsbSnifferRxCb := none
  currentPipe0Address : Buf 5 := Buf.fill 5 0xe7
  radio : Radio := {}
  log : List RadioEvent := []

def Esb.record (e : Esb) (ev : RadioEvent) : Esb := { e with log := e.log ++ [ev] }

/-- The packets put on the air so far, by a radio that obeys every TXEN. -/
def transmissions (log : List RadioEvent) : List Transmission :=
  log.filterMap fun
    | .transmit t => some t
    | _ => none

@[simp] theorem transmissions_append (a b : List RadioEvent) :
    transmissions (a ++ b) = transmissions a ++ transmissions b := List.filterMap_append

/-! ## Register writes -/

def nrfRadioFrequencySet (f : Nat) (e : Esb) : Esb :=
  { e with radio := { e.radio with frequency := f } }.record (.frequency f)

def nrfRadioModeSet (m : RadioMode) (e : Esb) : Esb :=
  { e with radio := { e.radio with mode := m } }.record (.mode m)

def nrfRadioBase0Set (v : UInt32) (e : Esb) : Esb :=
  { e with radio := { e.radio with base0 := v } }.record (.base0 v)

def nrfRadioBase1Set (v : UInt32) (e : Esb) : Esb :=
  { e with radio := { e.radio with base1 := v } }.record (.base1 v)

def nrfRadioPrefix0Set (v : UInt32) (e : Esb) : Esb :=
  { e with radio := { e.radio with prefix0 := v } }.record (.prefix0 v)

def nrfRadioTxaddressSet (v : UInt8) (e : Esb) : Esb :=
  { e with radio := { e.radio with txaddress := v } }.record (.txaddress v)

def nrfRadioRxaddressesSet (v : UInt8) (e : Esb) : Esb :=
  { e with radio := { e.radio with rxaddresses := v } }.record (.rxaddresses v)

/-- `nrf_radio_packet_configure`: of the packet configuration only `MAXLEN` ever changes. -/
def nrfRadioPacketConfigure (maxlen : Nat) (e : Esb) : Esb :=
  { e with radio := { e.radio with maxlen := maxlen } }.record (.packetConfigure maxlen)

/-- The packet as the radio sends it with the registers `r`. -/
def onAir (r : Radio) (p : EsbPacket) : Transmission :=
  { radio := r, s1 := p.s1, length := p.length, payload := p.data.read 0 (min p.length.toNat r.maxlen) }

/-- `NRF_RADIO_TASK_TXEN` with the packet pointer at `p` and READY starting the packet. -/
def transmit (p : EsbPacket) (e : Esb) : Esb := e.record (.transmit (onAir e.radio p))

/-! ## Settings -/

/-- `esb_init`, from the reset values of statics and registers. -/
def esbInit (e : Esb) : Esb :=
  let e := nrfRadioPacketConfigure 32 e
  let e := nrfRadioModeSet .nrf2Mbit e
  let e := nrfRadioFrequencySet 2442 e
  let e := nrfRadioBase0Set 0xe7e7e7e7 e
  let e := nrfRadioPrefix0Set 0x000000e7 e
  let e := nrfRadioTxaddressSet 0 e
  let e := nrfRadioRxaddressesSet 0x01 e
  { e with ackEnabled := true, arc := 3, isInit := true }

def esbSetArc (value : Nat) (e : Esb) : Esb := { e with arc := value &&& 15 }

def esbSetAckEnabled (enabled : Bool) (e : Esb) : Esb := { e with ackEnabled := enabled }

def esbSetChannel (channel : UInt8) (e : Esb) : Esb :=
  if channel ≤ 100 then nrfRadioFrequencySet (2400 + channel.toNat) e else e

/-- `radioBitrate1M` of `esbBitrate_t`. -/
def radioBitrate1M : UInt8 := 0
/-- `radioBitrate2M` of `esbBitrate_t`. -/
def radioBitrate2M : UInt8 := 1

/-- The argument is an `esbBitrate_t`, to which C converts any integer: the switch has no default. -/
def esbSetBitrate (bitrate : UInt8) (e : Esb) : Esb :=
  if bitrate = radioBitrate1M then nrfRadioModeSet .nrf1Mbit e
  else if bitrate = radioBitrate2M then nrfRadioModeSet .nrf2Mbit e
  else e

def swapBits (inp : UInt32) : UInt32 :=
  let byte : UInt32 := inp &&& 0x000000FF
  (List.range 8).foldl (fun retval i =>
    retval ||| (((byte >>> UInt32.ofNat i) &&& 0x01) <<< UInt32.ofNat (7 - i))) 0

def bytewiseBitswap (inp : UInt32) : UInt32 :=
  (swapBits (inp >>> 24) <<< 24) ||| (swapBits (inp >>> 16) <<< 16) ||| (swapBits (inp >>> 8) <<< 8) |||
    swapBits inp

/-- `address[1]<<24 | address[2]<<16 | address[3]<<8 | address[4]`. -/
def addressBase (address : Buf 5) : UInt32 :=
  ((address.get 1).toUInt32 <<< 24) ||| ((address.get 2).toUInt32 <<< 16) |||
    ((address.get 3).toUInt32 <<< 8) ||| (address.get 4).toUInt32

def setPipe0AddressNolock (address : Buf 5) (e : Esb) : Esb :=
  let e := nrfRadioBase0Set (bytewiseBitswap (addressBase address)) e
  nrfRadioPrefix0Set ((e.radio.prefix0 &&& 0xffffff00) ||| (swapBits (address.get 0).toUInt32 &&& 0x0ff)) e

def esbSetAddress (address : Buf 5) (e : Esb) : Esb :=
  let e := { e with currentPipe0Address := address }
  let e := nrfRadioBase0Set (bytewiseBitswap (addressBase address)) e
  nrfRadioPrefix0Set ((e.radio.prefix0 &&& 0xffffff00) ||| (swapBits (address.get 0).toUInt32 &&& 0x0ff)) e

def esbSetAddressPipe1 (address : Buf 5) (e : Esb) : Esb :=
  let e := nrfRadioBase1Set (bytewiseBitswap (addressBase address)) e
  nrfRadioPrefix0Set ((e.radio.prefix0 &&& 0xffff00ff) |||
    ((swapBits (address.get 0).toUInt32 &&& (0xff : UInt32)) <<< (8 : UInt32))) e

def esbSetPacketLossSimulation (packetLoss ackLoss : UInt8) (e : Esb) : Esb :=
  { e with packetLossPercent := packetLoss.toNat, ackLossPercent := ackLoss.toNat }

/-! ## Carrier and sniffer sessions -/

/-- `esb_set_continuous_carrier`; the result says whether anything changed. -/
def esbSetContinuousCarrier (enable : Bool) (e : Esb) : Bool × Esb :=
  if !e.isInit then (false, e)
  else if e.snifferActive then (false, e)
  else if enable = e.continuousCarrierEnabled then (false, e)
  else
    let e := if enable then e.record .carrier else e.record .disable
    (true, { e with continuousCarrierEnabled := enable })

def esbSnifferStart (cb : EsbSnifferRxCb) (e : Esb) : Esb :=
  if !e.isInit || e.snifferActive then e
  else
    let e := { e with snifferActive := true, snifferCallback := some cb }
    let e := nrfRadioPacketConfigure 63 e
    let e := nrfRadioRxaddressesSet 0x03 e
    e.record .rxen

/-- `esb_sniffer_stop`. Its DISABLE runs `radio_isr` once more while `sniffer_active` is still set, with the
frame and the CRC status of whatever was received last; that run is a reception of its own, in front of
the call (`Usb.Reception`). -/
def esbSnifferStop (e : Esb) : Esb :=
  if !e.snifferActive then e
  else
    let e := e.record .disable
    let e := nrfRadioRxaddressesSet 0x01 e
    let e := { e with snifferActive := false, snifferCallback := none }
    nrfRadioPacketConfigure 32 e

/-- `esb_sniffer_send`, with the packet as its `s1` field is left. A transmission whose end is not
seen within 200 ms is cleaned up like any other, so the outcome leaves no trace here. -/
def esbSnifferSend (packet : EsbPacket) (address : Buf 5) (e : Esb) : Bool × EsbPacket × Esb :=
  if !e.snifferActive then (false, packet, e)
  else
    let savedAddress := e.currentPipe0Address
    let e := { e with snifferActive := false }
    let e := e.record .disable
    let e := setPipe0AddressNolock address e
    let e := nrfRadioTxaddressSet 0 e
    let packet := { packet with s1 := (e.pid &&& 3) <<< 1 }
    let e := { e with pid := e.pid + 1 }
    let e := transmit packet e
    let e := setPipe0AddressNolock savedAddress e
    let e := { e with snifferActive := true }
    (true, packet, e.record .rxen)

end Crazyradio
