/-
How the radio stands at TXEN, on the machine. The carrier's TXEN does what `RadioEvent.effect` says, and
sessions without the carrier and the 200 ms path leave the radio idle. A session with that path shows the
other standings: sends that take a PID and start nothing, and a carrier that sends what it finds.
-/
import Crazyradio.Driver.Carrier
import Crazyradio.Esb.Effect

namespace Crazyradio.Driver

open Bytes Threads

/-! ## Standings -/

/-- The standing of the machine's radio. -/
def Machine.standing (m : Machine) : Standing :=
  if m.radio = .disabled then
    if m.shorts.readyStart then .armed (onAir m.esb.radio (m.pointed m.packetptr))
    else if m.ppi22 then .timed else .idle
  else .busy

theorem standing_disabled {m : Machine} (h : m.radio = .disabled) : m.standing =
    if m.shorts.readyStart then .armed (onAir m.esb.radio (m.pointed m.packetptr))
    else if m.ppi22 then .timed else .idle := if_pos h

/-- With READY→START off, TXEN brings a radio that was off up to the carrier. -/
theorem ready_carrier {m : Machine} (hr : m.radio = .disabled) (hs : m.shorts.readyStart = false) :
    m.taskTxen.ready = some { m with radio := .txIdle, activity := m.attempt } := by
  have ht : m.taskTxen = { m with radio := .txRu, activity := m.attempt } := if_pos hr
  rw [ht]
  exact congrArg some (if_neg (by rw [hs]; exact Bool.false_ne_true))

/-- The transmitter up to its READY behind TXEN: a radio that is not off does not obey, one with READY→START
on sends the packet it finds, and any other one has the carrier, which COMPARE1 takes away if PPI channel 22
is on. -/
theorem txen_ready (m : Machine) : match m.standing with
    | .busy => m.taskTxen = m
    | .armed left => ∃ m', m.taskTxen.ready = some m' ∧ m'.radio = .tx ∧
        transmissions m'.esb.log = transmissions m.esb.log ++ [left]
    | .timed => ∃ m', m.taskTxen.ready = some m' ∧ m'.radio = .txIdle ∧ m'.raiseCompare1.radio = .txDisable ∧
        transmissions m'.esb.log = transmissions m.esb.log
    | .idle => ∃ m', m.taskTxen.ready = some m' ∧ m'.radio = .txIdle ∧ m'.raiseCompare1.radio = .txIdle ∧
        transmissions m'.esb.log = transmissions m.esb.log := by
  by_cases hr : m.radio = .disabled
  · rw [standing_disabled hr]
    cases hs : m.shorts.readyStart with
    | true =>
      have ht : m.taskTxen = { m with radio := .txRu, activity := m.attempt } := if_pos hr
      rw [ht]
      refine ⟨_, rfl, ?_, ?_⟩
      · simp only [hs, if_true]
        rfl
      · simp only [hs, if_true]
        exact transmissions_append _ _
    | false =>
      -- with the carrier up, COMPARE1 is DISABLE through the channel only
      have hready := ready_carrier hr hs
      rw [if_neg Bool.false_ne_true]
      by_cases hp : m.ppi22 = true
      · rw [if_pos hp]
        exact ⟨_, hready, rfl, congrArg Machine.radio (if_pos hp), rfl⟩
      · rw [if_neg hp]
        exact ⟨_, hready, rfl, congrArg Machine.radio (if_neg hp), rfl⟩
  · have ht : m.taskTxen = m := if_neg hr
    unfold Machine.standing
    rw [if_neg hr]
    exact ht

/-- Between the calls of a session without the carrier, in which no call ended through the 200 ms path and
none left anything over, the radio stands idle in normal mode. -/
theorem standing_idle {m : Machine} (h : Between (fun c m => c.Carrierless ∧ c.NothingLeftOver m) m)
    (hs : .stuck ∉ m.trace) (ha : m.esb.snifferActive = false) : m.standing = .idle := by
  rcases ended_of_between (fun _ _ => allows_of_nothingLeftOver) h with (⟨hoff, hn⟩ | ⟨-, hn⟩) | hstuck
  · have hshorts : m.shorts.readyStart = false := congrArg Shorts.readyStart hn.shorts
    have hppi : m.ppi22 = false := hn.ppi22
    rw [standing_disabled hoff, hshorts, hppi]
    rfl
  · exact absurd hn.sniffer (ne_true_of_eq_false ha)
  · exact absurd hstuck hs

/-! ## Behind the 200 ms path -/

/-- A packet of one byte. -/
def onePacket (b : UInt8) : EsbPacket := { length := 1, data := (Buf.fill 63 0).set 0 b }

/-- A packet that starts and whose end is not seen. -/
def stuckStarted : List (Choice Event) := threadSteps 21 ++ hardware [.ready] ++ [.expire] ++ threadSteps 6

/-- Behind it the radio comes up as a receiver, by the short that was left on, and the TXEN of the next
packet is lost. -/
def stuckUnstarted : List (Choice Event) :=
  hardware [.rampedDown, .isr, .ready] ++ threadSteps 21 ++ [.expire] ++ threadSteps 6

/-- Four sends that get stuck, a sniffer session, which takes back what they left, and a send that is acked. -/
def pidRepeats : List (Call × List (Choice Event)) :=
  [(.sendPacket (onePacket 1) 0 0, stuckStarted), (.sendPacket (onePacket 2) 0 0, stuckUnstarted),
    (.sendPacket (onePacket 3) 0 0, stuckUnstarted), (.sendPacket (onePacket 4) 0 0, stuckUnstarted),
    (.snifferStart, hardware [.rampedDown, .isr, .ready] ++ threadSteps 14),
    (.snifferStop, threadSteps 4 ++ hardware [.rampedDown, .isr] ++ threadSteps 10),
    (.sendPacket (onePacket 5) 0 0, threadSteps 21 ++ hardware ackedAttempt ++ threadSteps 15)]

/-- The same calls as the driver's callers see them, and the standings of the radio at their TXENs. -/
def repeatedCalls : List EsbCall :=
  let stuck : Exchange := { Exchange.silent with attempts := fun _ => .stuck none }
  let acked : Exchange :=
    { Exchange.silent with attempts := fun _ => .done (some ⟨0, 0, Buf.fill 63 0, zero_le_payload⟩) false true }
  [.sendPacket stuck { packet := onePacket 1 }, .sendPacket stuck { packet := onePacket 2 },
    .sendPacket stuck { packet := onePacket 3 }, .sendPacket stuck { packet := onePacket 4 },
    .snifferStart .snifferRxCallback, .snifferStop, .sendPacket acked { packet := onePacket 5 }]

def repeatedStandings : Standings := fun n => if n = 0 ∨ n = 4 then .idle else .busy

/-- A packet that is sent, whose ack is waited for, and the carrier behind it: READY→START, left on, starts
what the packet pointer was left at, and END→DISABLE switches the transmitter off with the carrier recorded
as on. -/
theorem carrier_sends_leftover : ∃ m₀ m, finishAll [(.sendPacket (onePacket 1) 0 0,
      threadSteps 21 ++ hardware [.ready, .endTx, .rampedDown, .isr, .ready] ++ [.expire] ++ threadSteps 6)] .boot =
        some m₀ ∧
    finishAll [(.setContinuousCarrier true, hardware [.rampedDown, .isr] ++ threadSteps 8 ++ hardware [.ready, .endTx])]
      m₀ = some m ∧
    (transmissions m.esb.log).length = (transmissions m₀.esb.log).length + 1 ∧
    m.esb.continuousCarrierEnabled = true ∧ m.radio = .txDisable := by
  have hrun : ((finishAll [(.sendPacket (onePacket 1) 0 0,
      threadSteps 21 ++ hardware [.ready, .endTx, .rampedDown, .isr, .ready] ++ [.expire] ++ threadSteps 6)] .boot).bind
        fun m₀ => (finishAll [(.setContinuousCarrier true,
          hardware [.rampedDown, .isr] ++ threadSteps 8 ++ hardware [.ready, .endTx])] m₀).map fun m =>
          ((transmissions m.esb.log).length, (transmissions m₀.esb.log).length, m.esb.continuousCarrierEnabled,
            m.radio)) = some (2, 1, true, .txDisable) := by decide +kernel
  obtain ⟨m₀, h₀, hrun⟩ := Option.bind_eq_some_iff.mp hrun
  obtain ⟨m, hf, hm⟩ := Option.map_eq_some_iff.mp hrun
  obtain ⟨hl, hm⟩ := Prod.mk.inj hm
  obtain ⟨hl₀, hm⟩ := Prod.mk.inj hm
  obtain ⟨hon, hr⟩ := Prod.mk.inj hm
  exact ⟨m₀, m, h₀, hf, by rw [hl, hl₀], hon, hr⟩

end Crazyradio.Driver
