/-
Duplicates on a lossy link. The sender puts each of its packets on the link one or more times, the link loses
copies, and the receiver discards a packet with the key of the one it accepted last. It then accepts each
packet at most once and in order (`accepted_sublist`), and of packets numbered modulo `k` each one it hears,
unless `k - 1` in a row are lost (`accepted_eq_heard`).
-/
import Mathlib.Data.List.Destutter
import Mathlib.Data.List.Forall2
import Mathlib.Data.Nat.ModEq

namespace Duplicates

variable {α κ : Type}

/-! ## The link -/

/-- Each packet as often as `ns` says, one behind the other. -/
def copies (ns : List Nat) (ts : List α) : List α := (List.zipWith List.replicate ns ts).flatten

/-- The packets of which there is a copy. -/
def heard : List Nat → List α → List α
  | n :: ns, t :: ts => if n = 0 then heard ns ts else t :: heard ns ts
  | _, _ => []

@[simp] theorem copies_cons (n : Nat) (ns : List Nat) (t : α) (ts : List α) :
    copies (n :: ns) (t :: ts) = List.replicate n t ++ copies ns ts := rfl

@[simp] theorem copies_nil (ts : List α) : copies [] ts = [] := rfl

@[simp] theorem copies_nil_right (ns : List Nat) : copies ns ([] : List α) = [] := by cases ns <;> rfl

@[simp] theorem heard_nil (ts : List α) : heard [] ts = [] := rfl

@[simp] theorem heard_nil_right (ns : List Nat) : heard ns ([] : List α) = [] := by cases ns <;> rfl

@[simp] theorem heard_zero (ns : List Nat) (t : α) (ts : List α) : heard (0 :: ns) (t :: ts) = heard ns ts := rfl

@[simp] theorem heard_succ (n : Nat) (ns : List Nat) (t : α) (ts : List α) :
    heard ((n + 1) :: ns) (t :: ts) = t :: heard ns ts := rfl

/-- What comes through of some copies are copies, of each packet no more than there were. -/
theorem sublist_copies : ∀ {ns : List Nat} {ts l : List α}, ns.length = ts.length → l.Sublist (copies ns ts) →
    ∃ ms : List Nat, List.Forall₂ (· ≤ ·) ms ns ∧ l = copies ms ts
  | [], _, l, _, h => ⟨[], .nil, List.sublist_nil.mp h⟩
  | n :: ns, [], l, hlen, _ => nomatch hlen
  | n :: ns, t :: ts, l, hlen, h => by
    obtain ⟨l₁, l₂, rfl, h₁, h₂⟩ := List.sublist_append_iff.mp h
    obtain ⟨m, hm, rfl⟩ := List.sublist_replicate_iff.mp h₁
    obtain ⟨ms, hms, rfl⟩ := sublist_copies (Nat.succ.inj hlen) h₂
    exact ⟨m :: ms, .cons hm hms, rfl⟩

/-! ## Numbered packets -/

variable (key : α → κ) {num : α → Nat} {k : Nat}

/-- Behind a packet numbered `p`, with `g` lost since, what is heard next differs in its key. -/
theorem isChain_heard (hkey : ∀ a b, key a = key b → num a = num b) :
    ∀ {ns : List Nat} {ts : List α} {a : α} {p g : Nat},
    num a = p % k → (∀ j t, ts[j]? = some t → num t = (p + 1 + g + j) % k) → g + 1 < k →
    ¬List.replicate (k - 1) 0 <:+: List.replicate g 0 ++ ns → (a :: heard ns ts).IsChain fun a b => key a ≠ key b
  | [], ts, a, _, _, _, _, _, _ => List.isChain_singleton a
  | n :: ns, [], a, _, _, _, _, _, _ => by
    rw [heard_nil_right]
    exact List.isChain_singleton a
  | 0 :: ns, t :: ts, a, p, g, ha, hts, hg, hlost => by
    have hrow : List.replicate g 0 ++ 0 :: ns = List.replicate (g + 1) 0 ++ ns := by
      rw [List.replicate_succ', List.append_assoc]
      rfl
    rw [hrow] at hlost
    have hg' : g + 1 + 1 < k := by
      by_contra hge
      have hk : k - 1 = g + 1 := by omega
      exact hlost ⟨[], ns, by rw [hk]; rfl⟩
    rw [heard_zero]
    refine isChain_heard hkey ha (fun j t' ht => ?_) hg' hlost
    rw [hts (j + 1) t' ht]
    congr 1
    omega
  | (n + 1) :: ns, t :: ts, a, p, g, ha, hts, hg, hlost => by
    have ht : num t = (p + 1 + g) % k := hts 0 t rfl
    have hne : key a ≠ key t := by
      intro h
      have hnum : p % k = (p + 1 + g) % k := ha.symm.trans ((hkey a t h).trans ht)
      have hmod : p + 0 ≡ p + (1 + g) [MOD k] := by
        rw [Nat.add_zero, ← Nat.add_assoc]
        exact hnum
      have hzero : 0 % k = (1 + g) % k := Nat.ModEq.add_left_cancel' p hmod
      rw [Nat.mod_eq_of_lt (by omega : 1 + g < k), Nat.zero_mod] at hzero
      omega
    have hnext : ¬List.replicate (k - 1) 0 <:+: List.replicate 0 0 ++ ns := fun hrow =>
      hlost (hrow.trans ⟨List.replicate g 0 ++ [n + 1], [], by simp⟩)
    refine List.IsChain.cons_cons hne (isChain_heard hkey ht (fun j t' ht' => ?_) (by omega) hnext)
    rw [hts (j + 1) t' ht']
    congr 1
    omega

theorem isChain_heard_first (hkey : ∀ a b, key a = key b → num a = num b) (hk : 1 < k) :
    ∀ {ns : List Nat} {ts : List α} {s : Nat}, (∀ j t, ts[j]? = some t → num t = (s + j) % k) →
    ¬List.replicate (k - 1) 0 <:+: ns → (heard ns ts).IsChain fun a b => key a ≠ key b
  | [], ts, _, _, _ => List.isChain_nil
  | n :: ns, [], _, _, _ => by
    rw [heard_nil_right]
    exact List.isChain_nil
  | 0 :: ns, t :: ts, s, hts, hlost => by
    rw [heard_zero]
    refine isChain_heard_first hkey hk (s := s + 1) (fun j t' ht => ?_) fun hrow =>
      hlost (hrow.trans (List.suffix_cons 0 ns).isInfix)
    rw [hts (j + 1) t' ht]
    congr 1
    omega
  | (n + 1) :: ns, t :: ts, s, hts, hlost => by
    have hnext : ¬List.replicate (k - 1) 0 <:+: List.replicate 0 0 ++ ns := fun hrow =>
      hlost (hrow.trans (List.suffix_cons (n + 1) ns).isInfix)
    rw [heard_succ]
    refine isChain_heard key hkey (hts 0 t rfl) (fun j t' ht => ?_) hk hnext
    rw [hts (j + 1) t' ht]
    congr 1
    omega

/-! ## The receiver -/

variable [DecidableEq κ]

/-- What a receiver accepts that discards a packet with the key of the one accepted last. -/
def accepted (l : List α) : List α := l.destutter fun a b => key a ≠ key b

/-- Repetitions of the packet accepted last make no difference. -/
theorem destutter'_replicate {a t : α} (h : key a = key t) (l : List α) : ∀ n : Nat,
    (List.replicate n t ++ l).destutter' (fun a b => key a ≠ key b) a = l.destutter' (fun a b => key a ≠ key b) a
  | 0 => rfl
  | n + 1 => by
    rw [List.replicate_succ, List.cons_append, List.destutter'_cons_neg _ (not_not_intro h)]
    exact destutter'_replicate h l n

theorem destutter'_copies : ∀ (ns : List Nat) (ts : List α) (a : α),
    (copies ns ts).destutter' (fun a b => key a ≠ key b) a = (heard ns ts).destutter' (fun a b => key a ≠ key b) a
  | [], ts, a => by rw [copies_nil, heard_nil]
  | n :: ns, [], a => by rw [copies_nil_right, heard_nil_right]
  | 0 :: ns, t :: ts, a => destutter'_copies ns ts a
  | (n + 1) :: ns, t :: ts, a => by
    show (t :: (List.replicate n t ++ copies ns ts)).destutter' _ a = (t :: heard ns ts).destutter' _ a
    by_cases h : key a = key t
    · rw [List.destutter'_cons_neg _ (not_not_intro h), List.destutter'_cons_neg _ (not_not_intro h),
        destutter'_replicate key h, destutter'_copies ns ts a]
    · rw [List.destutter'_cons_pos _ h, List.destutter'_cons_pos _ h, destutter'_replicate key rfl,
        destutter'_copies ns ts t]

/-- Copies are accepted like the packets themselves. -/
theorem accepted_copies : ∀ (ns : List Nat) (ts : List α), accepted key (copies ns ts) = accepted key (heard ns ts)
  | [], ts => by rw [copies_nil, heard_nil]
  | n :: ns, [] => by rw [copies_nil_right, heard_nil_right]
  | 0 :: ns, t :: ts => accepted_copies ns ts
  | (n + 1) :: ns, t :: ts => by
    show (List.replicate n t ++ copies ns ts).destutter' _ t = (heard ns ts).destutter' _ t
    rw [destutter'_replicate key rfl, destutter'_copies]

/-- At most once, in order. -/
theorem accepted_sublist (ns : List Nat) (ts : List α) : (accepted key (copies ns ts)).Sublist (heard ns ts) := by
  rw [accepted_copies]
  exact List.destutter_sublist _ _

/-- What is heard is accepted exactly if no two packets heard one behind the other have the same key. -/
theorem accepted_eq_heard_iff (ns : List Nat) (ts : List α) :
    accepted key (copies ns ts) = heard ns ts ↔ (heard ns ts).IsChain fun a b => key a ≠ key b := by
  rw [accepted_copies]
  exact List.destutter_eq_self_iff _ _

/-- Numbered packets are accepted whenever they are heard, unless `k - 1` in a row are lost. -/
theorem accepted_eq_heard (hkey : ∀ a b, key a = key b → num a = num b) (hk : 1 < k) {ns : List Nat} {ts : List α}
    {s : Nat} (hts : ∀ j t, ts[j]? = some t → num t = (s + j) % k) (hlost : ¬List.replicate (k - 1) 0 <:+: ns) :
    accepted key (copies ns ts) = heard ns ts :=
  (accepted_eq_heard_iff key ns ts).mpr (isChain_heard_first key hkey hk hts hlost)

end Duplicates
