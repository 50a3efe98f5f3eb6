/-
Messages over packets of a maximal size: the sender cuts a message into full packets and one that is
not full, adding an empty packet behind a message of full ones; the receiver ends a message at each
packet that is not full. `transfers_split` is the round trip.
-/
import Mathlib.Data.List.Basic
import Mathlib.Tactic.Common

namespace Packets

variable {α : Type} (mps : Nat)

/-! ## The receiver -/

/-- The messages a list of packets completes, the first of them going on from `acc`. -/
def transfersFrom : List α → List (List α) → List (List α)
  | _, [] => []
  | acc, p :: ps =>
    if p.length < mps then (acc ++ p) :: transfersFrom [] ps else transfersFrom (acc ++ p) ps

/-- The messages a list of packets completes. -/
def transfers (ps : List (List α)) : List (List α) := transfersFrom mps [] ps

/-- What is open in front of the packets belongs to the first message they complete. -/
theorem transfersFrom_eq (ps : List (List α)) : ∀ acc : List α,
    transfersFrom mps acc ps = (transfers mps ps).modifyHead (acc ++ ·) := by
  unfold transfers
  induction ps with
  | nil => exact fun _ => rfl
  | cons p ps ih =>
    intro acc
    simp only [transfersFrom, List.nil_append]
    split
    · rfl
    · rw [ih (acc ++ p), ih p, List.modifyHead_modifyHead]
      congr 1
      exact funext fun xs => List.append_assoc acc p xs

/-! ## The sender -/

/-- A message cut into packets, all but the last one full. -/
def chunks (xs : List α) : List (List α) :=
  if xs.length ≤ mps ∨ mps = 0 then [xs] else xs.take mps :: chunks (xs.drop mps)
termination_by xs.length
decreasing_by
  rw [List.length_drop]
  omega

/-- The last packet of the message is full. -/
def endsFull (xs : List α) : Prop := 0 < xs.length ∧ xs.length % mps = 0

instance (xs : List α) : Decidable (endsFull mps xs) := inferInstanceAs (Decidable (_ ∧ _))

/-- The packets of a message: the receiver sees where it ends. -/
def split (xs : List α) : List (List α) := chunks mps xs ++ if endsFull mps xs then [[]] else []

variable {mps}

theorem chunks_short {xs : List α} (h : xs.length ≤ mps) : chunks mps xs = [xs] := by
  rw [chunks, if_pos (Or.inl h)]

theorem chunks_long (h0 : 0 < mps) {xs : List α} (h : mps < xs.length) :
    chunks mps xs = xs.take mps :: chunks mps (xs.drop mps) := by
  rw [chunks, if_neg (by omega)]

/-- The receiver takes the packets of a message for it, if the last one shows that it is. -/
theorem transfersFrom_chunks (h0 : 0 < mps) (ps : List (List α)) : ∀ (n : Nat) (xs acc : List α), xs.length = n →
    transfersFrom mps acc (chunks mps xs ++ ps) =
      if endsFull mps xs then transfersFrom mps (acc ++ xs) ps else (acc ++ xs) :: transfers mps ps := by
  intro n
  induction n using Nat.strongRecOn with
  | ind n ih =>
    intro xs acc hn
    by_cases hl : xs.length ≤ mps
    · rw [chunks_short hl]
      simp only [List.cons_append, List.nil_append, transfersFrom]
      by_cases hlt : xs.length < mps
      · have hne : ¬endsFull mps xs := by
          rintro ⟨hpos, hmod⟩
          rw [Nat.mod_eq_of_lt hlt] at hmod
          omega
        rw [if_pos hlt, if_neg hne]
        rfl
      · have he : endsFull mps xs := ⟨by omega, by rw [show xs.length = mps by omega, Nat.mod_self]⟩
        rw [if_neg hlt, if_pos he]
    · have hlen : (xs.take mps).length = mps := by rw [List.length_take]; omega
      have hdrop : (xs.drop mps).length = n - mps := by rw [List.length_drop, hn]
      have hends : endsFull mps (xs.drop mps) ↔ endsFull mps xs := by
        unfold endsFull
        rw [List.length_drop, ← Nat.mod_eq_sub_mod (by omega)]
        omega
      rw [chunks_long h0 (by omega), List.cons_append, transfersFrom, if_neg (by omega),
        ih (n - mps) (by omega) (xs.drop mps) (acc ++ xs.take mps) hdrop, List.append_assoc, List.take_append_drop]
      simp only [hends]

/-- The receiver finds each message of a stream. -/
theorem transfers_split (h0 : 0 < mps) (xss : List (List α)) : transfers mps (xss.flatMap (split mps)) = xss := by
  induction xss with
  | nil => rfl
  | cons xs xss ih =>
    rw [List.flatMap_cons, split, List.append_assoc]
    unfold transfers at ih ⊢
    rw [transfersFrom_chunks h0 _ _ xs [] rfl, List.nil_append]
    split
    · have hempty : ([] : List α).length < mps := h0
      rw [List.cons_append, transfersFrom, if_pos hempty, List.append_nil, List.nil_append, ih]
    · rw [List.nil_append, transfers, ih]

end Packets
