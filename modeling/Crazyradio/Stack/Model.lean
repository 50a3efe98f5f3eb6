/-
The programs of `Crazyradio.Stack.Code` over the driver's sequential functions are the acts of the
device. A call is answered by the function its callers see, with the surroundings numbered from
power-up, and what a program does to the rest of the device is what the act does.
-/
import Crazyradio.Stack.Code
import Crazyradio.Usb.Scan

namespace Crazyradio.Stack

open Bytes Threads Clients Usb

/-! ## Calls answered -/

/-- The driver, and the number of sends so far. -/
abbrev Answering : Type := Nat × Esb

/-- A call as its callers see it. -/
def answerCall (env : Env) : (c : DriverCall) → Answering → c.Result × Answering
  | .setting s, (n, e) => ((), n, s.apply e)
  | .sendPacket b, (n, e) =>
    let r := esbSendPacket (env n) b e
    ((r.1, r.2.1), n + 1, r.2.2)
  | .setContinuousCarrier enable, (n, e) =>
    let r := esbSetContinuousCarrier enable e
    (r.1, n, r.2)
  | .snifferStart, (n, e) => ((), n, esbSnifferStart .snifferRxCallback e)
  | .snifferSend packet address, (n, e) =>
    let r := esbSnifferSend packet address e
    ((r.1, r.2.1), n, r.2.2)
  | .snifferStop, (n, e) => ((), n, esbSnifferStop e)

/-- The device with this driver. -/
def plug (d : Device) (s : Answering) : Device := { d with esb := s.2, sends := s.1 }

section Answered

variable (env : Env)

/-- The device behind a program. -/
def ended (p : Program Device) (s : Answering) : Device :=
  plug (p.eval (answerCall env) s).1 (p.eval (answerCall env) s).2

/-- The same where the program may end in a fault. -/
def outcome (p : Program (Except Fault Device)) (s : Answering) : Except Fault Device :=
  (p.eval (answerCall env) s).1.map fun d => plug d (p.eval (answerCall env) s).2

theorem outcome_return (x : Except Fault Device) (s : Answering) :
    outcome env (return x) s = x.map fun d => plug d s := rfl

theorem outcome_ok (p : Program Device) (s : Answering) :
    outcome env (p >>= fun d => return .ok d) s = .ok (ended env p s) := by
  unfold outcome ended
  rw [Client.eval_bind]
  rfl

theorem outcome_andThen {p : Program (Except Fault Device)} {k : Device → Program (Except Fault Device)}
    {g : Device → Except Fault Device} (hk : ∀ d s, outcome env (k d) s = g (plug d s)) (s : Answering) :
    outcome env (andThen p k) s = outcome env p s >>= g := by
  unfold outcome andThen
  rw [Client.eval_bind]
  cases (p.eval (answerCall env) s).1 with
  | error f => rfl
  | ok d => exact hk d _

/-! ## Sends and settings -/

theorem eval_scanSend (d : Device) (s : Answering) :
    (((scanSend d).eval (answerCall env) s).1.1,
      plug ((scanSend d).eval (answerCall env) s).1.2 ((scanSend d).eval (answerCall env) s).2) =
      Usb.scanSend env (plug d s) := rfl

theorem ended_request (r : Request) (d : Device) (s : Answering) :
    ended env (request r d) s = r.apply (plug d s) := by
  cases r with
  | channel c =>
    unfold request setIf Request.apply
    by_cases hc : c ≤ 100 <;> simp only [hc] <;> rfl
  | datarate n =>
    unfold request setIf Request.apply
    by_cases h1 : n = 1
    · subst h1
      rfl
    · by_cases h2 : n = 2 <;> simp only [h1, h2] <;> rfl
  | sniffer on => cases on <;> rfl
  | snifferAddress pipe1 a => cases pipe1 <;> rfl
  | _ => rfl

/-! ## What does not look at the driver -/

/-- What a `memcpy` fails on does not depend on what is done behind it. -/
theorem bind_ok_map {α : Type} {x : Except Fault α} {u v : α → Device} {h : Device → Device}
    (huv : ∀ a, u a = h (v a)) :
    (x >>= fun a => (return u a : Except Fault Device)) =
      (x >>= fun a => (return v a : Except Fault Device)).map h := by
  cases x with
  | error f => rfl
  | ok a => exact congrArg Except.ok (huv a)

theorem loadPacket_plug (payload : Buf 128) (off : Nat) (n : Int) (d : Device) (s : Answering) :
    loadPacket payload off n (plug d s) = (loadPacket payload off n d).map fun d => plug d s := by
  unfold loadPacket
  exact bind_ok_map fun _ => rfl

theorem inlineAnswer_plug (acked : Bool) (d : Device) (s : Answering) :
    inlineAnswer acked (plug d s) = (inlineAnswer acked d).map fun d => plug d s := by
  unfold inlineAnswer
  exact bind_ok_map fun _ => rfl

theorem plainAnswer_plug (acked : Bool) (d : Device) (s : Answering) :
    plainAnswer acked (plug d s) = (plainAnswer acked d).map fun d => plug d s := by
  unfold plainAnswer
  show (if !d.state.ackEnabled then _ else if acked && decide (d.usb.ack.length ≤ 32) then _ else _) =
    Except.map _ (if !d.state.ackEnabled then _ else if acked && decide (d.usb.ack.length ≤ 32) then _ else _)
  cases d.state.ackEnabled with
  | false => rfl
  | true =>
    cases acked && decide (d.usb.ack.length ≤ 32) with
    | false => rfl
    | true => exact bind_ok_map fun _ => rfl

theorem answer_plug (acked : Bool) (d : Device) (s : Answering) :
    answer acked (plug d s) = (answer acked d).map fun d => plug d s := by
  have hcap : capAck (plug d s) = plug (capAck d) s := by
    unfold capAck plug
    split <;> rfl
  unfold answer
  simp only [hcap]
  show (if (capAck d).state.inlineMode then _ else _) = _
  split
  · exact inlineAnswer_plug acked (capAck d) s
  · exact plainAnswer_plug acked (capAck d) s

theorem invalidAnswer_plug (d : Device) (s : Answering) : invalidAnswer (plug d s) = plug (invalidAnswer d) s := by
  unfold invalidAnswer
  show (if d.state.inlineMode then _ else _) = plug (if d.state.inlineMode then _ else _) s
  cases d.state.inlineMode <;> rfl

/-! ## Commands -/

theorem outcome_buildPacket (c : DataCommand) (d : Device) (s : Answering) :
    outcome env (buildPacket c d) s = Usb.buildPacket env c (plug d s) := by
  unfold buildPacket Usb.buildPacket
  show outcome env (if d.state.inlineMode then _ else
      if !d.state.ackEnabled && decide (32 < c.length) then _ else _) s =
    (if d.state.inlineMode then _ else if !d.state.ackEnabled && decide (32 < c.length) then _ else _)
  cases d.state.inlineMode with
  | true => exact (loadPacket_plug c.payload 8 _ _ _).symm
  | false =>
    cases !d.state.ackEnabled && decide (32 < c.length) with
    | true =>
      -- a broadcast, whose first half goes out before the second one is loaded
      refine (outcome_andThen env (g := fun d =>
        loadPacket c.payload (c.length / 2) (c.length / 2 : Nat) (Usb.usbSend env d).2) (fun d s => ?_) s).trans ?_
      · exact (loadPacket_plug c.payload (c.length / 2) _ _ _).symm
      · rw [outcome_return, ← loadPacket_plug]
        rfl
    | false => exact (loadPacket_plug c.payload 0 _ _ _).symm

theorem outcome_sendAndAnswer (d : Device) (s : Answering) :
    outcome env (sendAndAnswer d) s = Usb.sendAndAnswer env (plug d s) := by
  unfold sendAndAnswer Usb.sendAndAnswer
  show outcome env (if d.state.handled then _ else _) s = (if d.state.handled then _ else _)
  cases d.state.handled with
  | true => exact (answer_plug _ _ _).symm
  | false => exact congrArg Except.ok (invalidAnswer_plug d s).symm

theorem outcome_snifferData (c : DataCommand) (d : Device) (s : Answering) :
    outcome env (snifferData c d) s = Usb.snifferData c (plug d s) := by
  unfold snifferData Usb.snifferData
  split
  · rfl
  cases memcpy (Buf.fill 5 0) 0 c.payload 0 5 with
  | error f => rfl
  | ok address =>
    refine (outcome_andThen env (g := fun d => .ok { d with
      esb := (esbSnifferSend d.usb.packet address d.esb).2.2
      usb := { d.usb with packet := (esbSnifferSend d.usb.packet address d.esb).2.1 } }) (fun d s => rfl) s).trans ?_
    · rw [outcome_return, ← loadPacket_plug]
      rfl

theorem outcome_handleCommand (c : UsbCommand) (d : Device) (s : Answering) :
    outcome env (handleCommand c d) s = Usb.handleCommand env c (plug d s) := by
  cases c with
  | setup p =>
    refine (outcome_ok env (request p.decode d) s).trans ?_
    rw [ended_request]
    exact congrArg Except.ok (handleVendorCommand_decode p (plug d s)).symm
  | data c =>
    show outcome env (if d.state.snifferMode then _ else _) s = (if d.state.snifferMode then _ else _)
    cases d.state.snifferMode with
    | true => exact outcome_snifferData env c d s
    | false =>
      refine (outcome_andThen env (outcome_sendAndAnswer env) s).trans ?_
      rw [outcome_buildPacket]
      rfl

/-! ## Channel scan -/

theorem ended_fwScanLoop : ∀ (n channel : Nat) (d : Device) (s : Answering),
    ended env (fwScanLoop n channel d) s = Usb.fwScanLoop env n channel (plug d s)
  | 0, _, _, _ => rfl
  | n + 1, channel, d, s => by
    let s₁ : Answering := (s.1, esbSetChannel (UInt8.ofNat channel) s.2)
    rw [fwScanLoop_succ, show (plug d s).scanTuned channel = plug d s₁ from rfl, ← eval_scanSend]
    generalize hr : (scanSend d).eval (answerCall env) s₁ = r
    have hloop : ended env (fwScanLoop (n + 1) channel d) s = ended env (if r.1.1 then
        if esbMaxPayloadLength ≤ r.1.2.state.scanResultLength + 1 then return r.1.2.scanHit channel
        else fwScanLoop n (channel + 1) (r.1.2.scanHit channel)
      else fwScanLoop n (channel + 1) r.1.2) r.2 := by
      rw [← hr]
      rfl
    rw [hloop]
    cases r.1.1 with
    | false => exact ended_fwScanLoop n (channel + 1) r.1.2 r.2
    | true =>
      show ended env (if esbMaxPayloadLength ≤ r.1.2.state.scanResultLength + 1 then _ else _) r.2 =
        (if esbMaxPayloadLength ≤ r.1.2.state.scanResultLength + 1 then _ else _)
      split
      · rfl
      · exact ended_fwScanLoop n (channel + 1) (r.1.2.scanHit channel) r.2

theorem ended_fwScan (start stop : UInt8) (data : List UInt8) (d : Device) (s : Answering) :
    ended env (fwScan start stop data d) s = Usb.fwScan env start stop data (plug d s) := by
  unfold fwScan Usb.fwScan
  simp only
  split
  · rfl
  · exact ended_fwScanLoop env _ _ _ s

/-! ## Sections -/

theorem outcome_job (j : Job) (d : Device) (s : Answering) :
    outcome env (j.program d) s = (plug d s).act env j.act := by
  cases j with
  | command c => exact outcome_handleCommand env c d s
  | scan start stop data =>
    refine (outcome_ok env (fwScan start stop data d) s).trans ?_
    rw [ended_fwScan]
    rfl

/-- Over the driver as its callers see it the programs run the acts of the device. -/
theorem outcome_jobs : ∀ (js : List Job) (d : Device) (s : Answering),
    outcome env (jobs js d) s = (plug d s).run env (js.map Job.act)
  | [], _, _ => rfl
  | j :: js, d, s => by
    refine (outcome_andThen env (g := fun d => d.run env (js.map Job.act)) (outcome_jobs js) s).trans ?_
    rw [outcome_job]
    rfl

end Answered

end Crazyradio.Stack
