/-
Delivery. What the radio sends over a whole run is a list of messages, each repeated while it is not acked and
all numbered from one counter. A receiver that discards repetitions gets each message at most once and in
order, whatever is lost, and each message it hears unless three in a row are lost.
-/
import Crazyradio.Lib.Duplicates
import Crazyradio.Usb.Calls

namespace Crazyradio

open Bytes Duplicates

/-! ## Messages as copies -/

/-- The packet of each message. -/
def packets (calls : List EsbCall) (e : Esb) : List Transmission := (messages calls e).filterMap List.head?

/-- How often each of them is on the air. -/
def repeats (calls : List EsbCall) (e : Esb) : List Nat := (messages calls e).map List.length

/-- A message is one packet on the air one or more times. -/
theorem sent_copies {c : EsbCall} {e : Esb} (h : c.starts e = true) : ∃ n t, c.sent e = List.replicate (n + 1) t := by
  rcases EsbCall.starts_cases h with ⟨x, b, rfl, h⟩ | ⟨packet, address, rfl, h⟩
  · exact ⟨_, _, sent_sendPacket h b⟩
  · exact ⟨0, _, sent_snifferSend h packet address⟩

theorem mem_messages {calls : List EsbCall} : ∀ {e : Esb} {m : List Transmission}, m ∈ messages calls e →
    ∃ n t, m = List.replicate (n + 1) t := by
  induction calls with
  | nil =>
    intro e m h
    cases h
  | cons c calls ih =>
    intro e m hm
    rw [messages_cons] at hm
    split at hm
    · rename_i hc
      rcases List.mem_cons.mp hm with rfl | hm
      · exact sent_copies hc
      · exact ih hm
    · exact ih hm

/-- Lists of copies are known by their first elements and their lengths. -/
theorem flatten_eq_copies : ∀ {ms : List (List Transmission)}, (∀ m ∈ ms, ∃ n t, m = List.replicate (n + 1) t) →
    ms.flatten = copies (ms.map List.length) (ms.filterMap List.head?) ∧
      (ms.map List.length).length = (ms.filterMap List.head?).length
  | [], _ => ⟨rfl, rfl⟩
  | m :: ms, h => by
    obtain ⟨n, t, rfl⟩ := h m List.mem_cons_self
    obtain ⟨hcopies, hlength⟩ := flatten_eq_copies fun x hx => h x (List.mem_cons_of_mem _ hx)
    have hhead : (List.replicate (n + 1) t :: ms).filterMap List.head? = t :: ms.filterMap List.head? := rfl
    rw [hhead, List.flatten_cons, List.map_cons, List.length_replicate, copies_cons, ← hcopies]
    exact ⟨rfl, congrArg (· + 1) hlength⟩

theorem getElem?_heads : ∀ {ms : List (List Transmission)}, (∀ m ∈ ms, ∃ n t, m = List.replicate (n + 1) t) →
    ∀ j : Nat, (ms.filterMap List.head?)[j]? = ms[j]?.bind List.head?
  | [], _, _ => rfl
  | m :: ms, h, j => by
    obtain ⟨n, t, rfl⟩ := h m List.mem_cons_self
    have hhead : (List.replicate (n + 1) t :: ms).filterMap List.head? = t :: ms.filterMap List.head? := rfl
    rw [hhead]
    cases j with
    | zero => rfl
    | succ j => exact getElem?_heads (fun x hx => h x (List.mem_cons_of_mem _ hx)) j

/-- The packet of a message carries the message's number. -/
theorem pidOf_packets {calls : List EsbCall} {e : Esb} {j : Nat} {t : Transmission}
    (h : (packets calls e)[j]? = some t) : (pidOf t.s1).toNat = (e.pid.toNat + j) % 4 := by
  rw [packets, getElem?_heads (fun m hm => mem_messages hm)] at h
  obtain ⟨m, hm, ht⟩ := Option.bind_eq_some_iff.mp h
  obtain ⟨-, s1, hp, hs⟩ := messages_numbered calls e j m hm
  rw [hs t (List.mem_of_head? ht)]
  exact hp

end Crazyradio

namespace Crazyradio.Usb

open Duplicates

theorem message_fits (b : UInt8) : 0 + [b].length ≤ 128 := by simp

/-- A message of one byte. -/
def message (b : UInt8) : Act := .command (.data (DataCommand.empty.store 0 [b] (message_fits b)))

/-- Two messages, both repeated until the retries are used up. -/
def twoMessages : List Act := [message 1, message 2]

end Crazyradio.Usb
