/-
Searches that go through a list in order and stop with the hit that fills their result: which part of
the list such a search tries, what it finds there and where it ends.
-/
import Mathlib.Data.List.Basic
import Mathlib.Tactic.Common

namespace Search

variable {α : Type}

/-- The part of the list that a search for `p` tries which stops with its `m`-th hit. -/
def tried (p : α → Bool) : Nat → List α → List α
  | 0, _ => []
  | _ + 1, [] => []
  | m + 1, a :: l => a :: tried p (if p a then m else m + 1) l

variable (p : α → Bool)

theorem tried_zero (l : List α) : tried p 0 l = [] := by rw [tried]

theorem tried_nil (m : Nat) : tried p m [] = [] := by cases m <;> rfl

theorem tried_hit {a : α} (h : p a = true) (m : Nat) (l : List α) : tried p (m + 1) (a :: l) = a :: tried p m l := by
  rw [tried, if_pos h]

theorem tried_miss {a : α} (h : p a = false) (m : Nat) (l : List α) :
    tried p (m + 1) (a :: l) = a :: tried p (m + 1) l := by
  rw [tried, if_neg (Bool.eq_false_iff.mp h)]

/-- The hits are the first `m` there are. -/
theorem filter_tried : ∀ (m : Nat) (l : List α), (tried p m l).filter p = (l.filter p).take m
  | 0, l => by rw [List.take_zero, tried_zero, List.filter_nil]
  | m + 1, [] => rfl
  | m + 1, a :: l => by
    cases h : p a with
    | true =>
      rw [tried_hit p h, List.filter_cons_of_pos h, List.filter_cons_of_pos h, filter_tried m l]
      rfl
    | false =>
      rw [tried_miss p h, List.filter_cons_of_neg (Bool.eq_false_iff.mp h),
        List.filter_cons_of_neg (Bool.eq_false_iff.mp h), filter_tried (m + 1) l]

theorem tried_prefix : ∀ (m : Nat) (l : List α), tried p m l <+: l
  | 0, l => by
    rw [tried_zero]
    exact List.nil_prefix
  | m + 1, [] => List.nil_prefix
  | m + 1, a :: l => by
    rw [tried]
    exact List.cons_prefix_cons.mpr ⟨rfl, tried_prefix _ l⟩

/-- In a range the search tries a range. -/
theorem tried_range' (p : Nat → Bool) (m start n : Nat) :
    ∃ k, tried p m (List.range' start n) = List.range' start k := by
  have hp := tried_prefix p m (List.range' start n)
  have hlen : (tried p m (List.range' start n)).length ≤ n := by
    have := hp.length_le
    rwa [List.length_range'] at this
  have h := List.prefix_iff_eq_take.mp hp
  rw [List.take_range'_of_length_ge hlen] at h
  exact ⟨_, h⟩

/-- With fewer than `m` hits the whole list is tried. -/
theorem tried_all : ∀ {m : Nat} {l : List α}, (l.filter p).length < m → tried p m l = l
  | m + 1, [], _ => rfl
  | m + 1, a :: l, h => by
    cases ha : p a with
    | true =>
      rw [List.filter_cons_of_pos ha, List.length_cons] at h
      rw [tried_hit p ha, tried_all (by omega)]
    | false =>
      rw [List.filter_cons_of_neg (Bool.eq_false_iff.mp ha)] at h
      rw [tried_miss p ha, tried_all h]

/-- The search ends with the `m`-th hit, or with the list. -/
theorem getLast?_tried : ∀ (m : Nat) (l : List α),
    (tried p (m + 1) l).getLast? = ((l.filter p)[m]?).or l.getLast?
  | m, [] => rfl
  | m, a :: l => by
    cases h : p a with
    | false =>
      rw [tried_miss p h, List.filter_cons_of_neg (Bool.eq_false_iff.mp h), List.getLast?_cons, List.getLast?_cons,
        getLast?_tried m l]
      cases (l.filter p)[m]? <;> rfl
    | true =>
      rw [tried_hit p h, List.filter_cons_of_pos h, List.getLast?_cons]
      cases m with
      | zero =>
        rw [tried_zero]
        rfl
      | succ m =>
        rw [List.getElem?_cons_succ, List.getLast?_cons, getLast?_tried m l]
        cases (l.filter p)[m]? <;> rfl

/-- In an increasing list the search tries what lies up to the `m`-th hit, or everything. -/
theorem tried_eq_filter (p : Nat → Bool) : ∀ {l : List Nat}, l.Pairwise (· < ·) → ∀ m : Nat,
    tried p (m + 1) l = l.filter fun x => ((l.filter p)[m]?).all fun last => decide (x ≤ last)
  | [], _, m => rfl
  | a :: l, h, m => by
    obtain ⟨ha, hl⟩ := List.pairwise_cons.mp h
    -- the head lies below every hit in the tail
    have hhead : ∀ n : Nat, ((a :: l).filter fun x => ((l.filter p)[n]?).all fun last => decide (x ≤ last)) =
        a :: l.filter fun x => ((l.filter p)[n]?).all fun last => decide (x ≤ last) := by
      intro n
      refine List.filter_cons_of_pos ?_
      cases hn : (l.filter p)[n]? with
      | none => rfl
      | some last =>
        have := ha last (List.mem_of_mem_filter (List.mem_of_getElem? hn))
        exact decide_eq_true (Nat.le_of_lt this)
    cases hp : p a with
    | false =>
      rw [tried_miss p hp, List.filter_cons_of_neg (Bool.eq_false_iff.mp hp), tried_eq_filter p hl m, hhead]
    | true =>
      rw [tried_hit p hp, List.filter_cons_of_pos hp]
      cases m with
      | zero =>
        have hnil : (l.filter fun x => decide (x ≤ a)) = [] := List.filter_eq_nil_iff.mpr fun x hx => by
          rw [decide_eq_true_eq]
          have := ha x hx
          omega
        rw [tried_zero, List.getElem?_cons_zero]
        have hself : ((a :: l).filter fun x => decide (x ≤ a)) = a :: l.filter fun x => decide (x ≤ a) :=
          List.filter_cons_of_pos (decide_eq_true (Nat.le_refl a))
        exact (hself.trans (congrArg (a :: ·) hnil)).symm
      | succ m =>
        rw [List.getElem?_cons_succ, tried_eq_filter p hl m, hhead]

/-- The first `m` members of an increasing list stay below a bound exactly when there are `m` members
below it or none above. -/
theorem take_le_iff {b : Nat} : ∀ {l : List Nat}, l.Pairwise (· < ·) → ∀ m : Nat,
    (∀ c ∈ l.take m, c ≤ b) ↔ m ≤ (l.filter (fun c => decide (c ≤ b))).length ∨ ∀ c ∈ l, c ≤ b
  | [], _, m => by simp
  | a :: l, h, 0 => by simp
  | a :: l, h, m + 1 => by
    obtain ⟨ha, hl⟩ := List.pairwise_cons.mp h
    rw [List.take_succ_cons, List.forall_mem_cons, List.forall_mem_cons, take_le_iff hl m]
    by_cases hab : a ≤ b
    · have hcons : ((a :: l).filter fun c => decide (c ≤ b)) = a :: l.filter fun c => decide (c ≤ b) :=
        List.filter_cons_of_pos (decide_eq_true hab)
      rw [hcons, List.length_cons, Nat.add_le_add_iff_right, and_iff_right hab, and_iff_right hab]
    · have hnil : ((a :: l).filter fun c => decide (c ≤ b)) = [] := by
        refine List.filter_eq_nil_iff.mpr fun c hc => ?_
        rw [decide_eq_true_eq]
        rcases List.mem_cons.mp hc with rfl | hc
        · exact hab
        · have := ha c hc
          omega
      rw [hnil]
      simp [hab]

end Search
