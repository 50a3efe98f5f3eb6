/-
The two threads as they can be preempted. `usb_radio_mutex` is held over the loop of `fw_scan`, which
the callback thread leaves between any two calls of the driver, and over the handling of a command;
while one thread is in its section the other one goes on up to the lock, and receptions go on as well.
-/
import Crazyradio.Lib.Moves
import Crazyradio.Usb.Scan

namespace Crazyradio.Usb

open Bytes Moves

/-! ## The threads -/

/-- Where the thread that holds `usb_radio_mutex` stands in its section. -/
inductive Holder
  /-- the callback thread in the loop of `fw_scan` for this request: `left` channels to go, the next one
  being `channel`, which the radio is tuned to or not -/
  | scan (setup : UsbSetupPacket) (data : List UInt8) (left channel : Nat) (tuned : Bool)
  /-- `usb_thread` with the command it took; the packet of a data command is built or not -/
  | command (built : Bool)

/-- Both threads, with the lock. -/
structure Firmware where
  sys : System
  holder : Option Holder := none

def Firmware.boot : Firmware := { sys := System.boot }

/-- What a thread, or the radio, does next. -/
inductive Move
  | out (packet : List UInt8)
  | request (setup : UsbSetupPacket) (data : List UInt8)
  | tune
  | probe
  | endScan
  | fetch
  | skip
  | lock
  | build
  | finish
  | poll
  | receive (r : Reception)

/-- The callback thread is not in `fw_scan`. -/
def Firmware.callbackFree (f : Firmware) : Bool :=
  match f.holder with
  | some (.scan ..) => false
  | _ => true

/-- What `fw_scan` does in front of its loop. -/
def scanBegin (start stop : UInt8) (data : List UInt8) (d : Device) : Device :=
  if stop < start then { d with state := { d.state with scanResultLength := 0 } } else d.scanReady data

/-- `esb_send_packet` for one channel of a scan and what is made of it: the device, and the number of
channels left behind this one. -/
def scanProbe (env : Env) (left channel : Nat) (d : Device) : Device × Nat :=
  match scanSend env d with
  | (true, d) => (d.scanHit channel, if esbMaxPayloadLength ≤ d.state.scanResultLength + 1 then 0 else left)
  | (false, d) => (d, left)

/-- `crazyradio_vendor_handler`; a scan waits for the lock. -/
def Firmware.request (env : Env) (setup : UsbSetupPacket) (data : List UInt8) (f : Firmware) : Option Firmware :=
  match (crazyradioVendorHandler setup data f.sys.dev f.sys.cb).2 with
  | .scan start stop bytes =>
    if setup.toDevice ∧ data.length ≠ setup.wLength.toNat then none
    else if f.holder.isSome then none
    else some {
      sys := { f.sys with dev := scanBegin start stop bytes f.sys.dev }
      holder := some (.scan setup data (stop.toNat + 1 - start.toNat) start.toNat false) }
  | _ => (f.sys.request env setup data).map fun sys => { f with sys }

/-- `usb_thread` at the end of its section. -/
def Firmware.finish (env : Env) (built : Bool) (f : Firmware) : Option Firmware :=
  let leave (c : UsbCommand) (sniffing : Bool) : Except Fault Device → Option Firmware
    | .ok dev => some
      { sys := { f.sys with dev, pc := if sniffing && !skipsPoll c then .poll else .top }, holder := none }
    | .error _ => none
  match f.sys.pc, built with
  | .held (.setup s) sniffing, false => leave (.setup s) sniffing (.ok (handleVendorCommand s f.sys.dev))
  | .held (.data c) true, false => leave (.data c) true (snifferData c f.sys.dev)
  | .held (.data c) false, true => leave (.data c) false (sendAndAnswer env f.sys.dev)
  | _, _ => none

def Firmware.step (env : Env) (f : Firmware) (m : Move) : Option Firmware :=
  if f.sys.halted then none
  else
    match m with
    | .out packet => if f.callbackFree then (f.sys.out packet).map fun sys => { f with sys } else none
    | .request setup data => if f.callbackFree then f.request env setup data else none
    | .tune =>
      match f.holder with
      | some (.scan setup data (left + 1) channel false) => some {
        sys := { f.sys with dev := f.sys.dev.scanTuned channel }
        holder := some (.scan setup data (left + 1) channel true) }
      | _ => none
    | .probe =>
      match f.holder with
      | some (.scan setup data (left + 1) channel true) =>
        let (dev, left) := scanProbe env left channel f.sys.dev
        some { sys := { f.sys with dev }, holder := some (.scan setup data left (channel + 1) false) }
      | _ => none
    | .endScan =>
      match f.holder with
      | some (.scan _ _ 0 _ false) => some { f with holder := none }
      | _ => none
    | .fetch => f.sys.fetch.map fun sys => { f with sys }
    | .skip =>
      -- `continue` in front of the lock
      match f.sys.pc with
      | .held c true => if skipsPoll c then some { f with sys := { f.sys with pc := .top } } else none
      | _ => none
    | .lock =>
      match f.holder, f.sys.pc with
      | none, .held c sniffing =>
        if sniffing && skipsPoll c then none else some { f with holder := some (.command false) }
      | _, _ => none
    | .build =>
      match f.holder, f.sys.pc with
      | some (.command false), .held (.data c) false =>
        match buildPacket env c f.sys.dev with
        | .ok dev => some { sys := { f.sys with dev }, holder := some (.command true) }
        | .error _ => none
      | _, _ => none
    | .finish =>
      match f.holder with
      | some (.command built) => f.finish env built
      | _ => none
    | .poll => f.sys.poll.map fun sys => { f with sys }
    | .receive r =>
      if f.sys.dev.esb.snifferActive then some { f with sys := { f.sys with dev := radioIsrSniffer r f.sys.dev } }
      else none

/-- The steps of `System` a move stands for: a section counts where it ends. -/
def Firmware.commit (f : Firmware) : Move → List Event
  | .out packet => [.out packet]
  | .request setup data =>
    match (crazyradioVendorHandler setup data f.sys.dev f.sys.cb).2 with
    | .scan .. => []
    | _ => [.request setup data]
  | .endScan =>
    match f.holder with
    | some (.scan setup data ..) => [.request setup data]
    | _ => []
  | .fetch => [.fetch]
  | .skip | .finish => [.handle]
  | .poll => [.poll]
  | .receive r => [.receive r]
  | .tune | .probe | .lock | .build => []

end Crazyradio.Usb
