/-
The functions of `esb.c` that drive the radio, as threads: `esb_send_packet` with its attempt loop
and its 200 ms path, the continuous carrier, sniffer sessions and the settings. A session is any
sequence of calls, one behind the other.
-/
import Crazyradio.Driver.Machine

namespace Crazyradio.Driver

open Bytes Threads

abbrev Code : Type → Type := Thread Op Machine

def op (i : Op) : Code Unit := .step i (.done ())

def opIf (c : Bool) (i : Op) : Code Unit := if c then op i else .done ()

/-- A static or a register as it is now. -/
def get {α : Type} (f : Machine → α) : Code α := .read fun m => .done (f m)

/-- `k_sem_take(&radioXferDone, K_MSEC(200)) == 0`. -/
def semTake (ofAttempt : Bool) : Code Bool :=
  .wait true (fun m => decide (0 < m.radioXferDone)) (.semTake ofAttempt) .done

/-- `k_sleep(K_USEC(200))`, enough for the radio to ramp down. -/
def sleep200us : Code Unit :=
  .wait false (fun m => decide (m.radio ≠ .rxDisable) && decide (m.radio ≠ .txDisable)) .nop fun _ => .done ()

/-! ## Sending a packet -/

/-- The two shorts of a packet that is sent and switches the radio off. -/
def packetShorts : Shorts := { readyStart := true, endDisable := true }

/-- One attempt up to `k_sem_take`. -/
def startAttempt : Code Unit := do
  op .radioEventClear
  op .radioIntEnable
  op (.shortsEnable packetShorts)
  opIf (← get (·.esb.ackEnabled)) (.shortsEnable { disabledRxen := true })
  op (.ppiEnable .channel27)
  op (.ppiEnable .channel26)
  op (.packetptrSet .packet)
  op (.buffers fun b => { b with ack := { b.ack with length := 0 } })
  op (.femTxenSet true)
  op .sending
  op (.txen true)

/-- The 200 ms path. -/
def resetRadio : Code Unit := do
  op .logStuck
  op .irqDisable
  op .disable
  op .semReset
  op .mutexUnlock
  op .irqEnable

/-- One attempt behind `k_sem_take`. -/
def endAttempt : Code Unit := do
  op .radioIntDisable
  op (.shortsDisable packetShorts)
  opIf (← get (·.esb.ackEnabled)) (.shortsDisable { disabledRxen := true })
  op (.ppiDisable .channel27)
  op (.ppiDisable .channel26)

/-- `ack_received` of an attempt. -/
def checkAck : Code Bool := do
  if ← get (·.timeout) then return false
  else if ← get (·.crcStatus) then get (·.esb.ackEnabled)
  else return false

/-- The do-while loop, with `left` standing for `arc - arc_counter` at its head: `ack_received` and
`arc_counter` behind it, or nothing where the 200 ms path ended the call. -/
def attempts : Nat → Nat → Code (Option (Bool × Nat))
  | left, arcCounter => do
    startAttempt
    if ← semTake true then
      endAttempt
      let ackReceived ← checkAck
      if ackReceived || !(← get (·.esb.ackEnabled)) then return some (ackReceived, arcCounter + 1)
      else
        match left with
        | 0 => return some (ackReceived, arcCounter + 1)
        | left + 1 => attempts left (arcCounter + 1)
    else
      resetRadio
      return none

/-- `esb_send_packet`; the two arguments are the values of `sys_rand32_get`. -/
def esbSendPacket (packetDraw ackDraw : UInt32) : Code Bool := do
  if !(← get (·.esb.isInit)) then return false
  else if ← get (fun m => m.esb.continuousCarrierEnabled || m.esb.snifferActive) then return false
  else
    op .mutexLock
    if lossHits (← get (·.esb.packetLossPercent)) packetDraw then
      op .mutexUnlock
      return false
    else
      let pid ← get (·.esb.pid)
      op (.buffers fun b => { b with packet := { b.packet with s1 := ackS1 pid } })
      op (.esb fun e => { e with pid := e.pid + 1 })
      match ← attempts (← get (·.esb.arc)) 0 with
      | none => return false
      | some (ackReceived, arcCounter) =>
        op .storeRssi
        op (.buffers fun b => { b with retry := UInt8.ofNat (arcCounter - 1) })
        let dropped := lossHits (← get (·.esb.ackLossPercent)) ackDraw
        op .mutexUnlock
        return ackReceived && !dropped

/-! ## Carrier and sniffer -/

/-- The carrier is switched on or off. -/
def carrierTask (enable : Bool) : Code Unit :=
  if enable then do
    op (.femTxenSet true)
    op (.txen false)
  else do
    op .disable
    op (.femTxenSet false)

/-- `esb_set_continuous_carrier`. -/
def esbSetContinuousCarrier (enable : Bool) : Code Bool := do
  if !(← get (·.esb.isInit)) then return false
  else if ← get (·.esb.snifferActive) then return false
  else if enable = (← get (·.esb.continuousCarrierEnabled)) then return false
  else
    op .mutexLock
    carrierTask enable
    op (.esb fun e => { e with continuousCarrierEnabled := enable })
    op .mutexUnlock
    return true

/-- The shorts of a sniffer session. -/
def snifferShorts : Shorts := ⟨true, true, true, true, true⟩

/-- The shorts `esb_init` leaves. -/
def idleShorts : Shorts := { addressRssistart := true, disabledRssistop := true }

/-- `esb_sniffer_start`. -/
def esbSnifferStart (cb : EsbSnifferRxCb) : Code Unit := do
  if ← get (fun m => !m.esb.isInit || m.esb.snifferActive) then return ()
  else
    op .mutexLock
    op (.esb fun e => { e with snifferActive := true })
    op (.esb fun e => { e with snifferCallback := some cb })
    op (.esb (nrfRadioPacketConfigure 63))
    op (.esb (nrfRadioRxaddressesSet 0x03))
    op (.packetptrSet .snifferRxBuffer)
    op (.shortsSet snifferShorts)
    op .radioEventClear
    op .radioIntEnable
    op (.femRxenSet true)
    op .timerClear
    op .rxen
    op .mutexUnlock

/-- The 200 ms path of `esb_sniffer_send`. -/
def resetTransmitter : Code Unit := do
  op .disable
  sleep200us
  op .semReset

/-- The wait for the end of a packet sent in sniffer mode. -/
def awaitEnd : Code Unit := do
  if ← semTake false then return () else resetTransmitter

/-- `esb_sniffer_send`. -/
def esbSnifferSend (address : Buf 5) : Code Bool := do
  if !(← get (·.esb.snifferActive)) then return false
  else
    op .mutexLock
    let savedAddress ← get (·.esb.currentPipe0Address)
    op (.esb fun e => { e with snifferActive := false })
    op (.shortsDisable { disabledRxen := true })
    op .disable
    sleep200us
    op .radioIntDisable
    op .radioEventClear
    op (.femRxenSet false)
    op .semReset
    op (.esb (setPipe0AddressNolock address))
    op (.esb (nrfRadioTxaddressSet 0))
    let pid ← get (·.esb.pid)
    op (.buffers fun b => { b with packet := { b.packet with s1 := (pid &&& 3) <<< 1 } })
    op (.esb fun e => { e with pid := e.pid + 1 })
    op (.shortsSet packetShorts)
    op (.packetptrSet .packet)
    op .radioEventClear
    op .radioIntEnable
    op (.femTxenSet true)
    op (.txen false)
    awaitEnd
    op .radioIntDisable
    op (.shortsSet {})
    op (.femTxenSet false)
    op .radioEventClear
    op (.esb (setPipe0AddressNolock savedAddress))
    op (.esb fun e => { e with snifferActive := true })
    op (.packetptrSet .snifferRxBuffer)
    op (.shortsSet snifferShorts)
    op .radioEventClear
    op .radioIntEnable
    op (.femRxenSet true)
    op .rxen
    op .mutexUnlock
    return true

/-- `esb_sniffer_stop`. -/
def esbSnifferStop : Code Unit := do
  if !(← get (·.esb.snifferActive)) then return ()
  else
    op .mutexLock
    op (.shortsDisable { disabledRxen := true })
    op .disable
    sleep200us
    op (.shortsSet idleShorts)
    op .radioIntDisable
    op .radioEventClear
    op (.femRxenSet false)
    op (.esb (nrfRadioRxaddressesSet 0x01))
    op (.esb fun e => { e with snifferActive := false })
    op (.esb fun e => { e with snifferCallback := none })
    op (.esb (nrfRadioPacketConfigure 32))
    op .mutexUnlock

/-! ## Settings and sessions -/

/-- The setters, which change statics and configuration registers under `radio_busy`. -/
inductive Setting
  | arc (value : Nat)
  | ackEnabled (enabled : Bool)
  | channel (channel : UInt8)
  | bitrate (bitrate : UInt8)
  | address (address : Buf 5)
  | addressPipe1 (address : Buf 5)
  | packetLossSimulation (packetLoss ackLoss : UInt8)

def Setting.apply : Setting → Esb → Esb
  | .arc n => esbSetArc n
  | .ackEnabled b => esbSetAckEnabled b
  | .channel c => esbSetChannel c
  | .bitrate r => esbSetBitrate r
  | .address a => esbSetAddress a
  | .addressPipe1 a => esbSetAddressPipe1 a
  | .packetLossSimulation p a => esbSetPacketLossSimulation p a

/-- A call of the driver; the caller fills its packet first. -/
inductive Call
  | sendPacket (packet : EsbPacket) (packetDraw ackDraw : UInt32)
  | setting (s : Setting)
  | setContinuousCarrier (enable : Bool)
  | snifferStart
  | snifferSend (packet : EsbPacket) (address : Buf 5)
  | snifferStop

def Call.code : Call → Code Unit
  | .sendPacket packet packetDraw ackDraw => do
    op (.buffers fun b => { b with packet })
    discard (esbSendPacket packetDraw ackDraw)
  | .setting s => do
    op .mutexLock
    op (.esb s.apply)
    op .mutexUnlock
  | .setContinuousCarrier enable => discard (esbSetContinuousCarrier enable)
  | .snifferStart => esbSnifferStart .snifferRxCallback
  | .snifferSend packet address => do
    op (.buffers fun b => { b with packet })
    discard (esbSnifferSend address)
  | .snifferStop => esbSnifferStop

/-- Calls one behind the other. -/
def session : List Call → Code Unit
  | [] => return ()
  | c :: cs => do
    c.code
    session cs

/-- The machines a session of these calls can be in, wherever the hardware and the handler moved. -/
def Reachable (calls : List Call) (m : Machine) : Prop :=
  ∃ (cs : List (Choice Event)) (t : Code Unit), platform.run cs (session calls) .boot = some (t, m)

/-! ## Schedules -/

/-- The next `n` steps of the thread. -/
def threadSteps (n : Nat) : List (Choice Event) := List.replicate n .thread

/-- These events, one behind the other. -/
def hardware (es : List Event) : List (Choice Event) := es.map .event

/-- An attempt that is acked: the packet goes out, the handler runs, the ack comes in, the handler
runs. -/
def ackedAttempt : List Event :=
  [.ready, .tick, .address, .tick, .endTx, .rampedDown, .isr, .ready, .tick, .address,
    .endRx ⟨0, 0, Buf.fill 63 0, by decide⟩ true 0, .rampedDown, .isr]

end Crazyradio.Driver
