/-
One call of `esb_send_packet` in closed form: which attempt is the last one, how many go on the air
and what the call leaves behind. Callers reason from `esbSendPacket_sends` and the early exits, and
never unfold the attempt loop.
-/
import Crazyradio.Esb.Send

namespace Crazyradio

open Bytes

/-! ## The last attempt -/

/-- The attempt runs into the 200 ms timeout. -/
def Attempt.isStuck : Attempt → Bool
  | .stuck _ => true
  | .done .. => false

/-- The attempt counts as acked. -/
def Attempt.acked (ackEnabled : Bool) : Attempt → Bool
  | .stuck _ => false
  | .done _ timeout crcOk => !timeout && crcOk && ackEnabled

/-- The loop does not go on behind the attempt. -/
def Attempt.ends (ackEnabled : Bool) (a : Attempt) : Bool :=
  a.isStuck || (a.acked ackEnabled || !ackEnabled)

/-- The number of attempts that are followed by another one, at most `left`. -/
def retries (ackEnabled : Bool) : Nat → (Nat → Attempt) → Nat
  | 0, _ => 0
  | left + 1, attempts =>
    if (attempts 0).ends ackEnabled then 0
    else retries ackEnabled left (fun n => attempts (n + 1)) + 1

/-! ## The loop -/

/-- `n` transmissions of one packet in a row. -/
def transmitTimes (n : Nat) (p : EsbPacket) (e : Esb) : Esb :=
  { e with log := e.log ++ List.replicate n (.transmit (onAir e.radio p)) }

theorem transmitTimes_transmit (n : Nat) (p : EsbPacket) (e : Esb) :
    transmitTimes n p (transmit p e) = transmitTimes (n + 1) p e := by
  simp only [transmitTimes, transmit, Esb.record, List.append_assoc, List.replicate_succ]
  rfl

theorem transmissions_replicate (n : Nat) (t : Transmission) :
    transmissions (List.replicate n (.transmit t)) = List.replicate n t := by
  induction n with
  | zero => rfl
  | succ n ih =>
    rw [List.replicate_succ, List.replicate_succ, ← ih]
    rfl

/-- How the loop ends when this attempt is the last one and `n` precede it. -/
def Attempt.result (n : Nat) (ack : EsbPacket) (e : Esb) : Attempt → LoopResult
  | .stuck rx =>
    { stuck := true, arcCounter := n, ackReceived := false, ack := receiveAck rx ack e, esb := e.record .disable }
  | .done rx timeout crcOk =>
    { stuck := false, arcCounter := n + 1, ackReceived := !timeout && crcOk && e.ackEnabled
      ack := receiveAck rx ack e, esb := e }

/-- An attempt the loop ends with. -/
theorem attemptLoop_ends {attempts : Nat → Attempt} {left : Nat} {e : Esb}
    (h : left = 0 ∨ (attempts 0).ends e.ackEnabled = true) (packet : EsbPacket) (n : Nat) (ack : EsbPacket) :
    attemptLoop packet left attempts n ack e =
      (attempts 0).result n { ack with length := 0 } (transmit packet e) := by
  unfold attemptLoop
  revert h
  generalize attempts 0 = a
  intro h
  cases a with
  | stuck rx => rfl
  | done rx timeout crcOk =>
    rcases h with rfl | h
    · simp only [ite_self]; rfl
    · exact if_pos h

/-- An attempt that is followed by another one. -/
theorem attemptLoop_again {attempts : Nat → Attempt} {e : Esb} (h : (attempts 0).ends e.ackEnabled = false)
    (packet : EsbPacket) (left n : Nat) (ack : EsbPacket) : ∃ ack' : EsbPacket,
      attemptLoop packet (left + 1) attempts n ack e =
        attemptLoop packet left (fun k => attempts (k + 1)) (n + 1) ack' (transmit packet e) := by
  rw [attemptLoop]
  revert h
  generalize attempts 0 = a
  intro h
  cases a with
  | stuck rx => exact nomatch h
  | done rx timeout crcOk => exact ⟨_, if_neg (Bool.eq_false_iff.mp h)⟩

/-- Behind the loop: the last attempt decides its variables, and each attempt sent the packet once.
Of the ack buffer only what the last attempt received on top is known. -/
theorem attemptLoop_spec (packet : EsbPacket) : ∀ (left : Nat) (attempts : Nat → Attempt) (n : Nat)
    (ack : EsbPacket) (e : Esb), ∃ old : EsbPacket,
      attemptLoop packet left attempts n ack e =
        (attempts (retries e.ackEnabled left attempts)).result (n + retries e.ackEnabled left attempts)
          { old with length := 0 } (transmitTimes (retries e.ackEnabled left attempts + 1) packet e)
  | 0, attempts, n, ack, e => ⟨ack, attemptLoop_ends (Or.inl rfl) packet n ack⟩
  | left + 1, attempts, n, ack, e => by
    unfold retries
    by_cases h : (attempts 0).ends e.ackEnabled = true
    · rw [if_pos h]
      exact ⟨ack, attemptLoop_ends (Or.inr h) packet n ack⟩
    · rw [if_neg h]
      obtain ⟨ack', h'⟩ := attemptLoop_again (eq_false_of_ne_true h) packet left n ack
      obtain ⟨old, ho⟩ := attemptLoop_spec packet left (fun k => attempts (k + 1)) (n + 1) ack' (transmit packet e)
      refine ⟨old, h'.trans (ho.trans ?_)⟩
      rw [transmitTimes_transmit, Nat.add_assoc, Nat.add_comm 1]
      rfl

/-! ## The call -/

/-- The call gets past its two early exits, with this value for the packet-loss simulation. -/
def Esb.sends (e : Esb) (packetDraw : UInt32) : Bool :=
  !e.refuses && !lossHits e.packetLossPercent packetDraw

theorem esbSendPacket_exit {x : Exchange} {b : SendBuffers} {e : Esb} (h : e.sends x.packetDraw = false) :
    esbSendPacket x b e = (false, b, e) := by
  unfold esbSendPacket
  split
  · rfl
  · rename_i hr
    rw [if_pos]
    simpa [Esb.sends, eq_false_of_ne_true hr] using h

/-- The repetitions of a call that gets past its early exits. -/
def Exchange.retries (x : Exchange) (e : Esb) : Nat := Crazyradio.retries e.ackEnabled e.arc x.attempts

/-- The last attempt of a call that gets past its early exits. -/
def Exchange.last (x : Exchange) (e : Esb) : Attempt := x.attempts (x.retries e)

/-- What the call makes of the loop's result. -/
def LoopResult.finish (x : Exchange) (b : SendBuffers) (r : LoopResult) : Bool × SendBuffers × Esb :=
  if r.stuck then (false, { b with ack := r.ack }, r.esb)
  else (r.ackReceived && !lossHits r.esb.ackLossPercent x.ackDraw,
    { b with ack := r.ack, rssi := x.rssi, retry := UInt8.ofNat (r.arcCounter - 1) }, r.esb)

theorem esbSendPacket_finish {x : Exchange} {e : Esb} (h : e.sends x.packetDraw = true) (b : SendBuffers) :
    esbSendPacket x b e =
      (attemptLoop { b.packet with s1 := ackS1 e.pid } e.arc x.attempts 0 b.ack { e with pid := e.pid + 1 }).finish x
        { b with packet := { b.packet with s1 := ackS1 e.pid } } := by
  obtain ⟨hr, hl⟩ : e.refuses = false ∧ lossHits e.packetLossPercent x.packetDraw = false := by
    simpa [Esb.sends] using h
  unfold esbSendPacket LoopResult.finish
  rw [hr, hl]
  simp only [Bool.false_eq_true, if_false]
  split
  · rfl
  · split
    · rename_i hloss; rw [hloss, Bool.not_true, Bool.and_false]
    · rename_i hloss; rw [eq_false_of_ne_true hloss, Bool.not_false, Bool.and_true]

/-- A call whose loop ends without the 200 ms path. -/
theorem esbSendPacket_loop {x : Exchange} {b : SendBuffers} {e : Esb} (h : e.sends x.packetDraw = true)
    {l : LoopResult} (hl : attemptLoop { b.packet with s1 := ackS1 e.pid } e.arc x.attempts 0 b.ack
      { e with pid := e.pid + 1 } = l) (hs : l.stuck = false) : esbSendPacket x b e =
        (l.ackReceived && !lossHits l.esb.ackLossPercent x.ackDraw,
          { packet := { b.packet with s1 := ackS1 e.pid }, ack := l.ack, rssi := x.rssi
            retry := UInt8.ofNat (l.arcCounter - 1) }, l.esb) := by
  rw [esbSendPacket_finish h b, hl]
  exact if_neg (Bool.eq_false_iff.mp hs)

/-- A call that gets past its early exits sends the packet once for each attempt, and its loop
ends as the last attempt does. -/
theorem esbSendPacket_sends {x : Exchange} {e : Esb} (h : e.sends x.packetDraw = true) (b : SendBuffers) :
    ∃ old : EsbPacket, esbSendPacket x b e =
      ((x.last e).result (x.retries e) { old with length := 0 }
        { transmitTimes (x.retries e + 1) { b.packet with s1 := ackS1 e.pid } e with pid := e.pid + 1 }).finish x
        { b with packet := { b.packet with s1 := ackS1 e.pid } } := by
  obtain ⟨old, ho⟩ := attemptLoop_spec { b.packet with s1 := ackS1 e.pid } e.arc x.attempts 0 b.ack
    { e with pid := e.pid + 1 }
  refine ⟨old, (esbSendPacket_finish h b).trans ?_⟩
  rw [ho, Nat.zero_add]
  rfl

/-- The packet goes out once for each attempt, and the 200 ms path switches the radio off. -/
def Exchange.onAir (x : Exchange) (b : SendBuffers) (e : Esb) : List RadioEvent :=
  List.replicate (x.retries e + 1) (.transmit (Crazyradio.onAir e.radio { b.packet with s1 := ackS1 e.pid })) ++
    if (x.last e).isStuck then [.disable] else []

theorem transmissions_onAir (x : Exchange) (b : SendBuffers) (e : Esb) : transmissions (x.onAir b e) =
    List.replicate (x.retries e + 1) (Crazyradio.onAir e.radio { b.packet with s1 := ackS1 e.pid }) := by
  unfold Exchange.onAir
  rw [transmissions_append, transmissions_replicate]
  cases (x.last e).isStuck <;> exact List.append_nil _

/-- What a call does to the driver. -/
theorem esbSendPacket_esb {x : Exchange} {e : Esb} (h : e.sends x.packetDraw = true) (b : SendBuffers) :
    (esbSendPacket x b e).2.2 = { e with pid := e.pid + 1, log := e.log ++ x.onAir b e } := by
  obtain ⟨old, ho⟩ := esbSendPacket_sends h b
  rw [ho]
  unfold Exchange.onAir
  cases x.last e with
  | stuck rx => rw [← List.append_assoc]; rfl
  | done rx timeout crcOk =>
    rw [if_neg (show ¬(Attempt.done rx timeout crcOk).isStuck = true from Bool.false_ne_true), List.append_nil]
    rfl

/-- What an attempt receives into the ack buffer; without auto-ack the radio does not listen. -/
def Attempt.received (ackEnabled : Bool) (a : Attempt) : Option RxFrame := if ackEnabled then a.rx else none

/-- Some attempt of the call received something, so that the signal strength read at its end is its own. -/
def Exchange.sampled (x : Exchange) (e : Esb) : Bool :=
  (List.range (x.retries e + 1)).any fun n => ((x.attempts n).received e.ackEnabled).isSome

/-- The length field of an attempt's reception, 0 if there is none. -/
def Attempt.receivedLength (ackEnabled : Bool) (a : Attempt) : UInt8 :=
  match a.received ackEnabled with
  | some f => f.length
  | none => 0

/-- The payload of an attempt's reception, as far as it reaches the ack buffer. -/
def Attempt.payload (ackEnabled : Bool) (maxlen : Nat) (a : Attempt) : List UInt8 :=
  match a.received ackEnabled with
  | some f => f.payload.read 0 (min f.length.toNat maxlen)
  | none => []

theorem receiveAck_length (a : Attempt) (old : EsbPacket) (e : Esb) :
    (receiveAck a.rx { old with length := 0 } e).length = a.receivedLength e.ackEnabled := by
  unfold receiveAck Attempt.receivedLength Attempt.received
  cases a.rx with
  | none => simp
  | some f => cases e.ackEnabled <;> rfl

/-- The frame's payload is at the start of the packet. -/
theorem EsbPacket.read_receive (p : EsbPacket) {maxlen : Nat} (f : RxFrame) :
    (p.receive maxlen f).data.read 0 (min f.length.toNat maxlen) = f.payload.read 0 (min f.length.toNat maxlen) := by
  have hle := f.length_le
  have hl : (f.payload.read 0 (min f.length.toNat maxlen)).length = min f.length.toNat maxlen :=
    f.payload.length_read (by omega)
  exact Buf.read_blit _ hl (by omega)

/-- The start of the ack buffer is what the attempt received. -/
theorem receiveAck_data (a : Attempt) (old : EsbPacket) (e : Esb) :
    let ack := receiveAck a.rx { old with length := 0 } e
    ack.data.read 0 (min ack.length.toNat e.radio.maxlen) = a.payload e.ackEnabled e.radio.maxlen := by
  unfold receiveAck Attempt.payload Attempt.received
  cases a.rx with
  | none => simp
  | some f =>
    cases e.ackEnabled with
    | false => simp
    | true => exact EsbPacket.read_receive { old with length := 0 } f

/-- What a call that gets past its early exits leaves in the caller's buffers. -/
structure Produced (x : Exchange) (e : Esb) (acked : Bool) (b : SendBuffers) : Prop where
  acked : acked = ((x.last e).acked e.ackEnabled && !lossHits e.ackLossPercent x.ackDraw)
  length : b.ack.length = (x.last e).receivedLength e.ackEnabled
  data : b.ack.data.read 0 (min b.ack.length.toNat e.radio.maxlen) = (x.last e).payload e.ackEnabled e.radio.maxlen
  rssi : (x.last e).isStuck = false → b.rssi = x.rssi
  retry : (x.last e).isStuck = false → b.retry = UInt8.ofNat (x.retries e)

theorem esbSendPacket_produced {x : Exchange} {e : Esb} (h : e.sends x.packetDraw = true) (b : SendBuffers) :
    Produced x e (esbSendPacket x b e).1 (esbSendPacket x b e).2.1 := by
  obtain ⟨old, ho⟩ := esbSendPacket_sends h b
  have hl := receiveAck_length (x.last e) old e
  have hd := receiveAck_data (x.last e) old e
  rw [ho]
  revert hl hd
  cases hx : x.last e with
  | stuck rx =>
    intro hl hd
    constructor <;> rw [hx]
    · rfl
    · exact hl
    · exact hd
    · rintro ⟨⟩ -- the stuck path reports neither
    · rintro ⟨⟩
  | done rx timeout crcOk =>
    intro hl hd
    constructor <;> rw [hx]
    · rfl
    · exact hl
    · exact hd
    · exact fun _ => rfl
    · exact fun _ => rfl

/-- The call returns true: it gets past its early exits, and the ack of its last attempt is not lost in
simulation. -/
def Exchange.acks (x : Exchange) (e : Esb) : Bool :=
  e.sends x.packetDraw && ((x.last e).acked e.ackEnabled && !lossHits e.ackLossPercent x.ackDraw)

theorem esbSendPacket_acks (x : Exchange) (b : SendBuffers) (e : Esb) : (esbSendPacket x b e).1 = x.acks e := by
  unfold Exchange.acks
  cases h : e.sends x.packetDraw with
  | false => rw [esbSendPacket_exit h, Bool.false_and]
  | true => rw [(esbSendPacket_produced h b).acked, Bool.true_and]

/-! ## The sniffer-mode send -/

/-- The prefix register with a new pipe-0 byte. -/
def pipe0Prefix (address : Buf 5) (prefix0 : UInt32) : UInt32 :=
  (prefix0 &&& 0xffffff00) ||| (swapBits (address.get 0).toUInt32 &&& 0x0ff)

theorem setPipe0AddressNolock_eq (address : Buf 5) (e : Esb) : setPipe0AddressNolock address e =
    { e with
      radio := { e.radio with
        base0 := bytewiseBitswap (addressBase address), prefix0 := pipe0Prefix address e.radio.prefix0 }
      log := e.log ++
        [.base0 (bytewiseBitswap (addressBase address)), .prefix0 (pipe0Prefix address e.radio.prefix0)] } := by
  simp only [setPipe0AddressNolock, nrfRadioBase0Set, nrfRadioPrefix0Set, Esb.record, List.append_assoc]
  rfl

theorem esbSnifferSend_inactive {e : Esb} (h : e.snifferActive = false) (packet : EsbPacket) (address : Buf 5) :
    esbSnifferSend packet address e = (false, packet, e) := if_pos (by rw [h]; rfl)

/-- What a sniffer-mode send puts on the air: the caller's packet without the ack flag, to the
caller's address. -/
def snifferTransmission (packet : EsbPacket) (address : Buf 5) (e : Esb) : Transmission :=
  onAir
    { e.radio with
      base0 := bytewiseBitswap (addressBase address), prefix0 := pipe0Prefix address e.radio.prefix0, txaddress := 0 }
    { packet with s1 := (e.pid &&& 3) <<< 1 }

/-- A sniffer-mode send puts one packet on the air, whatever the settings are; of the rest of the
driver only the PID and the pipe-0 registers change. -/
theorem esbSnifferSend_active {e : Esb} (h : e.snifferActive = true) (packet : EsbPacket) (address : Buf 5) :
    ∃ (r : Radio) (log : List RadioEvent),
      (esbSnifferSend packet address e).2.2 = { e with pid := e.pid + 1, radio := r, log := e.log ++ log } ∧
      r.maxlen = e.radio.maxlen ∧ transmissions log = [snifferTransmission packet address e] := by
  unfold esbSnifferSend snifferTransmission
  rw [h]
  simp only [setPipe0AddressNolock_eq, nrfRadioTxaddressSet, transmit, Esb.record, List.append_assoc,
    Bool.not_true, Bool.false_eq_true, if_false]
  exact ⟨_, _, rfl, rfl, rfl⟩

end Crazyradio
