/-
`handle_vendor_command`, the setup commands as `usb_thread` handles them, and `fw_scan`, the one
request that runs in the USB callback thread.
-/
import Crazyradio.Usb.Device

namespace Crazyradio.Usb

open Bytes

/-! ## Setup commands -/

/-- The first five bytes of a command's data. -/
def SetupCommand.address (s : SetupCommand) : Buf 5 :=
  (Buf.fill 5 0).blit 0 (s.data.read 0 5) (by have := s.data.length_read_le 0 5; omega)

/-- `power_mapping`. -/
def powerMapping : List UInt8 := [1, 10, 20, 31]

/-- `fem_set_power`: the value written to the front-end's gain register. -/
def femSetPower (power : UInt8) (d : Device) : Device := { d with femConfreg0 := (power &&& 0x1f) <<< 2 }

/-- `handle_vendor_command`. -/
def handleVendorCommand (setup : SetupCommand) (d : Device) : Device :=
  let p := setup.setupPacket
  if p.bRequest = setRadioChannel ∧ p.wLength = 0 then
    let esb := if p.wValue ≤ 100 then esbSetChannel p.wValue.toUInt8 d.esb else d.esb
    { d with esb, state := { d.state with channel := p.wValue.toUInt8, inlineMode := false } }
  else if p.bRequest = setRadioAddress ∧ p.wLength = 5 then
    { d with
      esb := esbSetAddress setup.address d.esb
      state := { d.state with inlineMode := false } }
  else if p.bRequest = setDataRate ∧ p.wLength = 0 ∧ p.wValue < 3 then
    let esb :=
      if p.wValue = 1 then esbSetBitrate radioBitrate1M d.esb
      else if p.wValue = 2 then esbSetBitrate radioBitrate2M d.esb
      else d.esb
    { d with esb, state := { d.state with datarate := p.wValue.toUInt8, inlineMode := false } }
  else if p.bRequest = setRadioPower ∧ p.wLength = 0 then
    femSetPower (powerMapping.getD (min p.wValue.toNat 3) 0) d
  else if p.bRequest = setRadioArd ∧ p.wLength = 0 then d
  else if p.bRequest = setRadioArc ∧ p.wLength = 0 then
    { d with esb := esbSetArc (p.wValue &&& 0x0f).toNat d.esb }
  else if p.bRequest = ackEnable ∧ p.wLength = 0 then
    let enabled := decide (p.wValue ≠ 0)
    { d with
      esb := esbSetAckEnabled enabled d.esb
      state := { d.state with ackEnabled := enabled, inlineMode := false, inlineRssiMode := false } }
  else if p.bRequest = setContCarrier ∧ p.wLength = 0 then
    { d with esb := (esbSetContinuousCarrier (decide (p.wValue ≠ 0)) d.esb).2 }
  else if p.bRequest = setMode ∧ p.wLength = 0 then d
  else if p.bRequest = setRadioMode ∧ p.wLength = 0 then
    if p.wValue = 1 then
      { d with
        state := { d.state with snifferMode := true, inlineMode := false, inlineRssiMode := false }
        snifferQueue := []
        snifferDropCount := 0
        esb := esbSnifferStart .snifferRxCallback d.esb }
    else if p.wValue = 0 then
      { d with esb := esbSnifferStop d.esb, state := { d.state with snifferMode := false } }
    else d
  else if p.bRequest = setSnifferAddress ∧ p.wLength = 5 then
    if p.wValue = 0 then { d with esb := esbSetAddress setup.address d.esb }
    else if p.wValue = 1 then { d with esb := esbSetAddressPipe1 setup.address d.esb }
    else d
  else if p.bRequest = setInlineMode ∧ p.wLength = 0 then
    { d with
      state := { d.state with
        inlineMode := decide (p.wValue ≠ 0)
        inlineRssiMode := decide (p.wValue = inlineModeOnWithRssi) } }
  else if p.bRequest = setPacketLossSimulation ∧ p.wLength = 2 then
    { d with esb := esbSetPacketLossSimulation (setup.data.get 0) (setup.data.get 1) d.esb }
  else d

/-! ## Channel scan -/

/-- The loop of `fw_scan` with `n` channels left, the next one being `channel`. -/
def fwScanLoop (env : Env) : Nat → Nat → Device → Device
  | 0, _, d => d
  | n + 1, channel, d =>
    let d := { d with esb := esbSetChannel (UInt8.ofNat channel) d.esb }
    match scanSend env d with
    | (true, d) =>
      let d := { d with
        state := { d.state with
          scanResult := d.state.scanResult.set d.state.scanResultLength (UInt8.ofNat channel)
          scanResultLength := d.state.scanResultLength + 1 } }
      if esbMaxPayloadLength ≤ d.state.scanResultLength then d else fwScanLoop env n (channel + 1) d
    | (false, d) => fwScanLoop env n (channel + 1) d

/-- `fw_scan`; `data` is the request's data stage, at most 32 bytes of which are sent. -/
def fwScan (env : Env) (start stop : UInt8) (data : List UInt8) (d : Device) : Device :=
  let d := { d with state := { d.state with scanResultLength := 0 } }
  if stop < start then d
  else
    let payload := data.take 32
    let packet := { d.scan.packet with
      data := d.scan.packet.data.blit 0 payload (by
        have : payload.length ≤ 32 := List.length_take_le 32 data
        omega)
      length := UInt8.ofNat payload.length }
    fwScanLoop env (stop.toNat + 1 - start.toNat) start.toNat { d with scan := { d.scan with packet } }

end Crazyradio.Usb
