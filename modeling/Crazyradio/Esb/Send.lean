/-
`esb_send_packet` as its callers see it. What the radio and the interrupt handler do while the
function waits is an input: for each attempt whether `radioXferDone` was given within 200 ms, what
was received into the ack buffer and what the handler made of it. The interplay behind one attempt
(shorts, timer, interrupts) is the subject of `Crazyradio.Driver`.
-/
import Crazyradio.Esb.Basic

namespace Crazyradio

open Bytes

/-! ## Inputs and outputs -/

/-- One pass of the attempt loop: `k_sem_take` runs into its 200 ms timeout, or it succeeds with
the handler's `timeout` flag and the CRC status as given. `rx` is what was received into the ack
buffer since the attempt started, if anything. -/
inductive Attempt
  | stuck (rx : Option RxFrame)
  | done (rx : Option RxFrame) (timeout crcOk : Bool)

/-- What is received during an attempt. -/
def Attempt.rx : Attempt → Option RxFrame
  | .stuck rx => rx
  | .done rx _ _ => rx

/-- The surroundings of one call: the two values of `sys_rand32_get`, the attempts in order and
what RSSISAMPLE holds at the end, which is the sample of the last reception: one of an earlier call, or
of a sniffer session, if this call receives nothing. -/
structure Exchange where
  packetDraw : UInt32
  attempts : Nat → Attempt
  rssi : UInt8
  ackDraw : UInt32

/-- Surroundings in which every attempt runs into the ack timeout. -/
def Exchange.silent : Exchange :=
  { packetDraw := 0, attempts := fun _ => .done none true false, rssi := 0, ackDraw := 0 }

/-- What the four pointers of a call point to: `packet`, `ack`, `rssi` and `retry`. -/
structure SendBuffers where
  packet : EsbPacket := {}
  ack : EsbPacket := {}
  rssi : UInt8 := 0
  retry : UInt8 := 0

/-! ## The function -/

/-- The ack buffer once an attempt received `rx`; without auto-ack the radio never switches to
reception. -/
def receiveAck (rx : Option RxFrame) (ack : EsbPacket) (e : Esb) : EsbPacket :=
  match rx with
  | some f => if e.ackEnabled then ack.receive e.radio.maxlen f else ack
  | none => ack

/-- How the attempt loop ends: in the 200 ms path, or behind it with the loop's two variables. -/
structure LoopResult where
  stuck : Bool
  arcCounter : Nat
  ackReceived : Bool
  ack : EsbPacket
  esb : Esb

/-- The do-while loop of `esb_send_packet`. At its head `left` is `arc - arc_counter`, so its
condition `arc_counter <= arc`, tested after the increment, says that `left` was not 0. The log gets the
tasks as they are triggered; what the 200 ms path leaves on and which TXEN the radio obeys is in
`Esb.Effect`. -/
def attemptLoop (packet : EsbPacket) : Nat → (Nat → Attempt) → Nat → EsbPacket → Esb → LoopResult
  | left, attempts, arcCounter, ack, e =>
    let e := transmit packet e
    let ack := { ack with length := 0 }
    match attempts 0 with
    | .stuck rx =>
      { stuck := true, arcCounter, ackReceived := false, ack := receiveAck rx ack e, esb := e.record .disable }
    | .done rx timeout crcOk =>
      let ack := receiveAck rx ack e
      let ackReceived := !timeout && crcOk && e.ackEnabled
      let arcCounter := arcCounter + 1
      if ackReceived || !e.ackEnabled then { stuck := false, arcCounter, ackReceived, ack, esb := e }
      else
        match left with
        | 0 => { stuck := false, arcCounter, ackReceived, ack, esb := e }
        | left + 1 => attemptLoop packet left (fun n => attempts (n + 1)) arcCounter ack e

/-- A call is refused before anything happens. -/
def Esb.refuses (e : Esb) : Bool := !e.isInit || (e.continuousCarrierEnabled || e.snifferActive)

/-- A loss simulation of `percent` hits with the random value `draw`. -/
def lossHits (percent : Nat) (draw : UInt32) : Bool := decide (percent ≠ 0) && decide (draw.toNat % 100 < percent)

/-- `S1` of a packet that asks for an ack: `PID(2) | ACK flag`. -/
def ackS1 (pid : UInt8) : UInt8 := ((pid &&& 3) <<< 1) ||| 1

/-- `esb_send_packet`, with what its pointers hold before and after. -/
def esbSendPacket (x : Exchange) (b : SendBuffers) (e : Esb) : Bool × SendBuffers × Esb :=
  if e.refuses then (false, b, e)
  else if lossHits e.packetLossPercent x.packetDraw then (false, b, e)
  else
    let packet := { b.packet with s1 := ackS1 e.pid }
    let e := { e with pid := e.pid + 1 }
    let r := attemptLoop packet e.arc x.attempts 0 b.ack e
    if r.stuck then (false, { b with packet, ack := r.ack }, r.esb)
    else
      -- arc_counter is at least 1 here: the loop body ran
      let b := { packet, ack := r.ack, rssi := x.rssi, retry := UInt8.ofNat (r.arcCounter - 1) }
      if lossHits r.esb.ackLossPercent x.ackDraw then (false, b, r.esb) else (r.ackReceived, b, r.esb)

end Crazyradio
