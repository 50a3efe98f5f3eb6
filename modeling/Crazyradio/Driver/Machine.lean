/-
What the code of `esb.c` runs on: its statics, the radio with its shorts and its one interrupt,
TIMER0, the PPI channels, the front-end pins and `radioXferDone`. The instructions of the thread
are `Op`, what the hardware does by itself and `radio_isr` are `Event`. Next to the state the
machine keeps notes nothing reads: who caused a completion, the receive window that is open, and
the trace of what the properties are about.
-/
import Crazyradio.Esb.Send
import Crazyradio.Lib.Thread

namespace Crazyradio.Driver

open Bytes Threads

/-! ## State -/

/-- `RADIO.STATE`. -/
inductive RadioState
  | disabled
  | rxRu
  | rxIdle
  | rx
  | rxDisable
  | txRu
  | txIdle
  | tx
  | txDisable
  deriving DecidableEq

/-- `RADIO.SHORTS`, or a mask of it. -/
structure Shorts where
  readyStart : Bool := false
  endDisable : Bool := false
  disabledRxen : Bool := false
  addressRssistart : Bool := false
  disabledRssistop : Bool := false
  deriving DecidableEq

def Shorts.enable (s mask : Shorts) : Shorts :=
  { readyStart := s.readyStart || mask.readyStart
    endDisable := s.endDisable || mask.endDisable
    disabledRxen := s.disabledRxen || mask.disabledRxen
    addressRssistart := s.addressRssistart || mask.addressRssistart
    disabledRssistop := s.disabledRssistop || mask.disabledRssistop }

def Shorts.disable (s mask : Shorts) : Shorts :=
  { readyStart := s.readyStart && !mask.readyStart
    endDisable := s.endDisable && !mask.endDisable
    disabledRxen := s.disabledRxen && !mask.disabledRxen
    addressRssistart := s.addressRssistart && !mask.addressRssistart
    disabledRssistop := s.disabledRssistop && !mask.disabledRssistop }

/-- TIMER0: 32 bits at 1 MHz, with the latched event of its compare register 1. -/
structure Timer0 where
  counter : UInt32 := 0
  cc1 : UInt32 := 0
  cc2 : UInt32 := 0
  compare1 : Bool := false

/-- The PPI channels in use: COMPARE1 to RADIO DISABLE, RADIO ADDRESS to CAPTURE1, RADIO END to
CAPTURE2. -/
inductive PpiChannel
  | channel22
  | channel26
  | channel27

/-- What `RADIO.PACKETPTR` points at. -/
inductive PacketPtr
  | packet
  | ackBuffer
  | snifferRxBuffer
  deriving DecidableEq

/-- The receive window of an attempt, from the end of its packet to the end of the reception:
COMPARE1 was latched when it opened, and the counter reached CC1 in it. -/
structure Window where
  latched : Bool
  reached : Bool := false
  deriving DecidableEq

/-- What happened, in order. -/
inductive TraceEvent
  /-- an attempt triggers TXEN, with this count of `radioXferDone` -/
  | txen (sem : Nat)
  /-- an attempt takes `radioXferDone`, given for the radio activity of another one or its own -/
  | taken (attempt cause : Nat)
  /-- a call ends through the 200 ms path -/
  | stuck
  /-- `radio_isr` sets `timeout` and closes the receive window, if one is open -/
  | verdict (timeout : Bool) (window : Option Window)
  deriving DecidableEq

structure Machine where
  esb : Esb
  /-- what the pointers of the call point to; `ackBuffer` is its `ack` -/
  buffers : SendBuffers := {}
  snifferRxBuffer : EsbPacket := {}
  sending : Bool := false
  timeout : Bool := false
  /-- the count of the semaphore, limited to 1 -/
  radioXferDone : Nat := 0
  radioBusy : Bool := false
  radio : RadioState := .disabled
  shorts : Shorts := {}
  /-- INTENSET.DISABLED and EVENTS_DISABLED -/
  intDisabled : Bool := false
  eventDisabled : Bool := false
  packetptr : PacketPtr := .packet
  /-- the packet pointer as the START of a reception latched it -/
  rxptr : PacketPtr := .packet
  crcStatus : Bool := false
  rssiSample : UInt8 := 0
  timer : Timer0 := {}
  ppi22 : Bool := false
  ppi26 : Bool := false
  ppi27 : Bool := false
  femTxen : Bool := false
  femRxen : Bool := false
  irqEnabled : Bool := false
  /-- attempts so far, the one the radio last started for, the one behind the last DISABLED event
  and the one behind the last give -/
  attempt : Nat := 0
  activity : Nat := 0
  eventCause : Nat := 0
  giveCause : Nat := 0
  /-- the receive window that is open -/
  window : Option Window := none
  trace : List TraceEvent := []

namespace Machine

def note (e : TraceEvent) (m : Machine) : Machine := { m with trace := m.trace ++ [e] }

/-! ## Radio tasks -/

/-- The DISABLED event, with the short to RXEN. -/
def raiseDisabled (m : Machine) : Machine :=
  { m with
    eventDisabled := true
    eventCause := m.activity
    radio := if m.shorts.disabledRxen then .rxRu else .disabled }

/-- DISABLE; a radio that is off raises its event at once. -/
def taskDisable (m : Machine) : Machine :=
  match m.radio with
  | .disabled => m.raiseDisabled
  | .rxRu | .rxIdle | .rx => { m with radio := .rxDisable }
  | .txRu | .txIdle | .tx => { m with radio := .txDisable }
  | .rxDisable | .txDisable => m

/-- TXEN, which only a radio that is off obeys. -/
def taskTxen (m : Machine) : Machine :=
  if m.radio = .disabled then { m with radio := .txRu, activity := m.attempt } else m

def taskRxen (m : Machine) : Machine := if m.radio = .disabled then { m with radio := .rxRu } else m

/-- The packet a pointer points at. -/
def pointed (m : Machine) : PacketPtr → EsbPacket
  | .packet => m.buffers.packet
  | .ackBuffer => m.buffers.ack
  | .snifferRxBuffer => m.snifferRxBuffer

/-- A frame written where the reception started. -/
def receive (f : RxFrame) (m : Machine) : Machine :=
  let p := (m.pointed m.rxptr).receive m.esb.radio.maxlen f
  match m.rxptr with
  | .packet => { m with buffers := { m.buffers with packet := p } }
  | .ackBuffer => { m with buffers := { m.buffers with ack := p } }
  | .snifferRxBuffer => { m with snifferRxBuffer := p }

/-! ## The semaphore -/

/-- `k_sem_give(&radioXferDone)`. -/
def semGive (m : Machine) : Machine := { m with radioXferDone := 1, giveCause := m.eventCause }

/-! ## The interrupt handler -/

/-- The branch of `radio_isr` for a packet sent: the radio is switching to RX, the timeout is set up. -/
def isrSent (m : Machine) : Machine :=
  { m with
    femTxen := false
    femRxen := true
    packetptr := .ackBuffer
    timer := { m.timer with cc1 := m.timer.cc2 + 500 }
    ppi27 := false
    ppi26 := true
    ppi22 := true
    shorts := m.shorts.disable { disabledRxen := true }
    sending := false
    timeout := false
    window := some { latched := m.timer.compare1 } }

/-- The branch of `radio_isr` for a packet received or a timeout. -/
def isrReceived (m : Machine) : Machine :=
  { m with
    femRxen := false
    timeout := m.timer.compare1
    timer := { m.timer with compare1 := false }
    ppi26 := false
    ppi22 := false
    window := none }.semGive.note (.verdict m.timer.compare1 m.window)

/-- `radio_isr`; what it hands to the sniffer callback is not part of the machine. -/
def radioIsr (m : Machine) : Machine :=
  let m := { m with eventDisabled := false }
  if m.esb.snifferActive then { m with packetptr := .snifferRxBuffer }
  else if m.sending then
    if m.esb.ackEnabled then m.isrSent else m.semGive
  else m.isrReceived

/-- The interrupt is enabled and requested. -/
def pending (m : Machine) : Bool := m.irqEnabled && (m.intDisabled && m.eventDisabled)

/-! ## What happens by itself -/

/-- COMPARE1 latches. -/
def matchCc1 (m : Machine) : Machine :=
  { m with timer := { m.timer with compare1 := true }, window := m.window.map fun w => { w with reached := true } }

/-- COMPARE1, with its channel to DISABLE. -/
def raiseCompare1 (m : Machine) : Machine := if m.ppi22 then m.matchCc1.taskDisable else m.matchCc1

/-- One microsecond. -/
def tick (m : Machine) : Machine :=
  let m := { m with timer := { m.timer with counter := m.timer.counter + 1 } }
  if m.timer.counter = m.timer.cc1 then m.raiseCompare1 else m

/-- START: the radio sends what the packet pointer points at, or listens. -/
def taskStart (m : Machine) : Machine :=
  match m.radio with
  | .txIdle => { m with radio := .tx, esb := transmit (m.pointed m.packetptr) m.esb }
  | .rxIdle => { m with radio := .rx, rxptr := m.packetptr }
  | _ => m

/-- READY, with the short to START. -/
def ready (m : Machine) : Option Machine :=
  let start (m : Machine) : Machine := if m.shorts.readyStart then m.taskStart else m
  match m.radio with
  | .txRu => some (start { m with radio := .txIdle })
  | .rxRu => some (start { m with radio := .rxIdle })
  | _ => none

/-- ADDRESS, of a packet sent or received, with the capture of CC1. -/
def address (m : Machine) : Option Machine :=
  if m.radio = .tx ∨ m.radio = .rx then
    some (if m.ppi26 then { m with timer := { m.timer with cc1 := m.timer.counter } } else m)
  else none

/-- The capture of CC2 at END. -/
def captureEnd (m : Machine) : Machine :=
  if m.ppi27 then { m with timer := { m.timer with cc2 := m.timer.counter } } else m

/-- END, with the short to DISABLE. -/
def raiseEnd (m : Machine) : Machine :=
  if m.shorts.endDisable then m.captureEnd.taskDisable else m.captureEnd

def endTx (m : Machine) : Option Machine :=
  if m.radio = .tx then some { m with radio := .txIdle }.raiseEnd else none

def endRx (f : RxFrame) (crcOk : Bool) (rssi : UInt8) (m : Machine) : Option Machine :=
  if m.radio = .rx then some { m.receive f with radio := .rxIdle, crcStatus := crcOk, rssiSample := rssi }.raiseEnd
  else none

/-- The end of a ramp-down. -/
def rampedDown (m : Machine) : Option Machine :=
  if m.radio = .rxDisable ∨ m.radio = .txDisable then some m.raiseDisabled else none

end Machine

inductive Event
  | tick
  | ready
  | address
  | endTx
  | endRx (f : RxFrame) (crcOk : Bool) (rssi : UInt8)
  | rampedDown
  | isr

def Machine.event : Event → Machine → Option Machine
  | .tick, m => some m.tick
  | .ready, m => m.ready
  | .address, m => m.address
  | .endTx, m => m.endTx
  | .endRx f crcOk rssi, m => m.endRx f crcOk rssi
  | .rampedDown, m => m.rampedDown
  | .isr, m => if m.pending then some m.radioIsr else none

/-! ## Instructions -/

/-- The instructions of `esb.c`, by what they touch. `txen` and `semTake` say whether they belong
to an attempt of `esb_send_packet`. -/
inductive Op
  | nop
  | radioEventClear
  | radioIntEnable
  | radioIntDisable
  | shortsEnable (mask : Shorts)
  | shortsDisable (mask : Shorts)
  | shortsSet (mask : Shorts)
  | packetptrSet (p : PacketPtr)
  | txen (ofAttempt : Bool)
  | rxen
  | disable
  | ppiEnable (c : PpiChannel)
  | ppiDisable (c : PpiChannel)
  | timerClear
  | femTxenSet (enable : Bool)
  | femRxenSet (enable : Bool)
  | semTake (ofAttempt : Bool)
  | semReset
  | mutexLock
  | mutexUnlock
  | irqEnable
  | irqDisable
  /-- `sending = true` -/
  | sending
  /-- the warning of the 200 ms path of `esb_send_packet` -/
  | logStuck
  /-- statics and configuration registers -/
  | esb (f : Esb → Esb)
  /-- what the call's pointers point to -/
  | buffers (f : SendBuffers → SendBuffers)
  /-- `*rssi = nrf_radio_rssi_sample_get(..)` -/
  | storeRssi

def Machine.ppiSet (c : PpiChannel) (on : Bool) (m : Machine) : Machine :=
  match c with
  | .channel22 => { m with ppi22 := on }
  | .channel26 => { m with ppi26 := on }
  | .channel27 => { m with ppi27 := on }

def Machine.exec : Op → Machine → Machine
  | .nop, m => m
  | .radioEventClear, m => { m with eventDisabled := false }
  | .radioIntEnable, m => { m with intDisabled := true }
  | .radioIntDisable, m => { m with intDisabled := false }
  | .shortsEnable mask, m => { m with shorts := m.shorts.enable mask }
  | .shortsDisable mask, m => { m with shorts := m.shorts.disable mask }
  | .shortsSet mask, m => { m with shorts := mask }
  | .packetptrSet p, m => { m with packetptr := p }
  | .txen ofAttempt, m =>
    if ofAttempt then ({ m with attempt := m.attempt + 1 }.note (.txen m.radioXferDone)).taskTxen else m.taskTxen
  | .rxen, m => m.taskRxen
  | .disable, m => m.taskDisable
  | .ppiEnable c, m => m.ppiSet c true
  | .ppiDisable c, m => m.ppiSet c false
  | .timerClear, m => { m with timer := { m.timer with counter := 0 } }
  | .femTxenSet enable, m => { m with femTxen := enable }
  | .femRxenSet enable, m => { m with femRxen := enable }
  | .semTake ofAttempt, m =>
    let m' := { m with radioXferDone := m.radioXferDone - 1 }
    if ofAttempt then m'.note (.taken m.attempt m.giveCause) else m'
  | .semReset, m => { m with radioXferDone := 0 }
  | .mutexLock, m => { m with radioBusy := true }
  | .mutexUnlock, m => { m with radioBusy := false }
  | .irqEnable, m => { m with irqEnabled := true }
  | .irqDisable, m => { m with irqEnabled := false }
  | .sending, m => { m with sending := true, window := none }
  | .logStuck, m => m.note .stuck
  | .esb f, m => { m with esb := f m.esb }
  | .buffers f, m => { m with buffers := f m.buffers }
  | .storeRssi, m => { m with buffers := { m.buffers with rssi := m.rssiSample } }

/-- The processor with its peripherals. -/
def platform : Platform Op Event Machine := { exec := Machine.exec, event := Machine.event }

/-- The machine once `esb_init` is through. -/
def Machine.boot : Machine :=
  { esb := esbInit {}, shorts := { addressRssistart := true, disabledRssistop := true }, irqEnabled := true }

end Crazyradio.Driver
