/-
Byte arrays of a fixed size and the checked copy between them. A `Buf n` is a C array of `n`
bytes: its length is part of the value, so no operation can grow or shrink it. `memcpy` copies
only when source and destination ranges lie inside their arrays; any other size, in particular a
negative one, is a fault, so a program that never faults never copies out of bounds.
-/
import Mathlib.Data.List.Basic
import Mathlib.Tactic.Common

namespace Bytes

/-! ## Buffers -/

/-- An array of `n` bytes. -/
structure Buf (n : Nat) where
  bytes : List UInt8
  size : bytes.length = n
  deriving DecidableEq

namespace Buf

variable {n : Nat}

@[ext] theorem ext_bytes {a b : Buf n} (h : a.bytes = b.bytes) : a = b := by
  cases a; cases b; cases h; rfl

/-- The array holding `v` everywhere. -/
def fill (n : Nat) (v : UInt8) : Buf n := ⟨List.replicate n v, List.length_replicate⟩

/-- The byte at index `i` (0 outside the array). -/
def get (b : Buf n) (i : Nat) : UInt8 := b.bytes.getD i 0

/-- The `len` bytes from index `off` on. -/
def read (b : Buf n) (off len : Nat) : List UInt8 := (b.bytes.drop off).take len

/-- One byte stored at index `i` (nothing outside the array). -/
def set (b : Buf n) (i : Nat) (v : UInt8) : Buf n := ⟨b.bytes.set i v, by rw [List.length_set, b.size]⟩

/-- The bytes `xs` stored from index `off` on. -/
def blit (b : Buf n) (off : Nat) (xs : List UInt8) (h : off + xs.length ≤ n) : Buf n :=
  ⟨b.bytes.take off ++ xs ++ b.bytes.drop (off + xs.length), by
    rw [List.length_append, List.length_append, List.length_take, List.length_drop, b.size]; omega⟩

@[simp] theorem read_zero_len (b : Buf n) (off : Nat) : b.read off 0 = [] := by simp [read]

theorem length_read (b : Buf n) {off len : Nat} (h : off + len ≤ n) : (b.read off len).length = len := by
  rw [read, List.length_take, List.length_drop, b.size]; omega

theorem length_read_le (b : Buf n) (off len : Nat) : (b.read off len).length ≤ len := by
  rw [read, List.length_take]; omega

/-- What was stored is read back. -/
theorem read_blit (b : Buf n) {off len : Nat} {xs : List UInt8} (hl : xs.length = len) (h : off + xs.length ≤ n) :
    (b.blit off xs h).read off len = xs := by
  subst hl
  have hl : (b.bytes.take off).length = off := by rw [List.length_take, b.size]; omega
  rw [read, blit]
  simp only [List.append_assoc]
  rw [List.drop_append_of_le_length (by omega), List.drop_of_length_le (by omega), List.nil_append,
    List.take_append_of_le_length (Nat.le_refl _), List.take_length]

/-- A range that ends with the stored bytes: what lies before them, then the bytes. -/
theorem read_zero_blit (b : Buf n) {off len : Nat} {xs : List UInt8} (hl : xs.length = len)
    (h : off + xs.length ≤ n) : (b.blit off xs h).read 0 (off + len) = b.read 0 off ++ xs := by
  subst hl
  have hl : (b.bytes.take off ++ xs).length = off + xs.length := by
    rw [List.length_append, List.length_take, b.size]; omega
  simp only [read, blit, List.drop_zero]
  rw [List.take_append_of_le_length (by omega), List.take_of_length_le (by omega)]

/-- A range from the start that runs past bytes stored there: the bytes, then what lay behind them. -/
theorem read_blit_zero (b : Buf n) {len : Nat} {xs : List UInt8} (hl : xs.length = len) (h : 0 + xs.length ≤ n)
    (k : Nat) : (b.blit 0 xs h).read 0 (len + k) = xs ++ b.read len k := by
  subst hl
  simp only [read, blit, List.drop_zero, List.take_zero, List.nil_append, Nat.zero_add]
  exact List.take_length_add_append k

theorem read_set_zero (b : Buf n) (h : 0 < n) (v : UInt8) : (b.set 0 v).read 0 1 = [v] := by
  obtain ⟨bytes, hb⟩ := b
  cases bytes with
  | nil => simp at hb; omega
  | cons x xs => rfl

/-- A byte stored behind a range makes the range longer. -/
theorem read_set (b : Buf n) {len : Nat} (h : len < n) (v : UInt8) :
    (b.set len v).read 0 (len + 1) = b.read 0 len ++ [v] := by
  have hl : len < b.bytes.length := by rw [b.size]; exact h
  have hlen : (b.bytes.take len).length = len := by rw [List.length_take]; omega
  rw [read, read, List.drop_zero, List.drop_zero]
  show (b.bytes.set len v).take (len + 1) = _
  rw [List.set_eq_take_append_cons_drop, if_pos hl, List.take_append, hlen, List.take_take,
    Nat.min_eq_right (Nat.le_succ len), Nat.add_sub_cancel_left]
  rfl

/-- A whole array stored over another one. -/
theorem blit_all (b a : Buf n) (xs : List UInt8) (hx : xs = a.bytes) (h : 0 + xs.length ≤ n) : b.blit 0 xs h = a := by
  subst hx
  ext1
  simp [blit, a.size, b.size]

theorem read_zero_take (b : Buf n) {len k : Nat} (h : k ≤ len) : (b.read 0 len).take k = b.read 0 k := by
  rw [read, read, List.take_take, Nat.min_eq_left h]

/-- A range inside one that starts at 0. -/
theorem read_of_zero (b : Buf n) {off len : Nat} (total : Nat) (h : off + len ≤ total) :
    b.read off len = ((b.read 0 total).drop off).take len := by
  rw [read, read, List.drop_zero, List.drop_take, List.take_take, Nat.min_eq_left (by omega)]

/-- Two ranges that meet are one. -/
theorem read_append (b : Buf n) (off len len' : Nat) :
    b.read off len ++ b.read (off + len) len' = b.read off (len + len') := by
  rw [read, read, read, List.take_add, List.drop_drop]

theorem get_eq_read (b : Buf n) {i len : Nat} (h : i < len) : b.get i = (b.read 0 len).getD i 0 := by
  rw [get, read, List.drop_zero]
  simp only [List.getD_eq_getElem?_getD]
  rw [List.getElem?_take_of_lt h]

end Buf

/-! ## The checked copy -/

/-- A copy of `n` bytes from `srcOff` in an array of `srcSize` to `dstOff` in one of `dstSize`. -/
structure Copy where
  dstSize : Nat
  dstOff : Nat
  srcSize : Nat
  srcOff : Nat
  n : Int
  deriving DecidableEq

/-- The size is not negative and both ranges lie inside their arrays. -/
def Copy.InBounds (c : Copy) : Prop :=
  0 ≤ c.n ∧ c.dstOff + c.n ≤ c.dstSize ∧ c.srcOff + c.n ≤ c.srcSize

instance (c : Copy) : Decidable c.InBounds := inferInstanceAs (Decidable (_ ∧ _ ∧ _))

/-- Where a run stops: a copy outside its arrays. -/
inductive Fault
  | outOfBounds (c : Copy)
  deriving DecidableEq

/-- `memcpy(&dst[dstOff], &src[srcOff], n)`. -/
def memcpy {d s : Nat} (dst : Buf d) (dstOff : Nat) (src : Buf s) (srcOff : Nat) (n : Int) :
    Except Fault (Buf d) :=
  if h : Copy.InBounds ⟨d, dstOff, s, srcOff, n⟩ then
    .ok (dst.blit dstOff (src.read srcOff n.toNat) (by
      have := src.length_read_le srcOff n.toNat
      obtain ⟨h0, h1, -⟩ := h
      simp only at h0 h1; omega))
  else .error (.outOfBounds ⟨d, dstOff, s, srcOff, n⟩)

section Memcpy

variable {d s : Nat} (dst : Buf d) (dstOff : Nat) (src : Buf s) (srcOff : Nat)

/-- A copy succeeds exactly when it is in bounds. -/
theorem memcpy_isOk_iff (n : Int) :
    (∃ b, memcpy dst dstOff src srcOff n = .ok b) ↔ Copy.InBounds ⟨d, dstOff, s, srcOff, n⟩ := by
  unfold memcpy
  split
  · rename_i h
    constructor
    · intro _; exact h
    · intro _; exact ⟨_, rfl⟩
  · rename_i h
    constructor
    · rintro ⟨b, hb⟩; cases hb
    · intro h'; exact absurd h' h

theorem memcpy_error {n : Int} (h : ¬ Copy.InBounds ⟨d, dstOff, s, srcOff, n⟩) :
    memcpy dst dstOff src srcOff n = .error (.outOfBounds ⟨d, dstOff, s, srcOff, n⟩) := by
  rw [memcpy, dif_neg h]

theorem blit_read_fits {len : Nat} (hd : dstOff + len ≤ d) :
    dstOff + (src.read srcOff len).length ≤ d := by
  have := src.length_read_le srcOff len; omega

/-- A copy in bounds stores the bytes read. -/
theorem memcpy_ok {len : Nat} (hd : dstOff + len ≤ d) (hs : srcOff + len ≤ s) :
    memcpy dst dstOff src srcOff len = .ok (dst.blit dstOff (src.read srcOff len)
      (blit_read_fits dstOff src srcOff hd)) := by
  rw [memcpy, dif_pos ⟨by simp, by simp only; omega, by simp only; omega⟩]
  rfl

end Memcpy

end Bytes
