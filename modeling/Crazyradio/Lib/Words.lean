/-
The bytes of a 32-bit word, and bytes with their bits in reverse order. A word is put together from
its bytes by shifts, and one byte of it is replaced under a mask; both are described by the bytes
that result.
-/
import Mathlib.Data.List.Basic
import Mathlib.Tactic.Common

namespace Words

/-! ## Bytes of a word -/

/-- Byte `i` of a word, the lowest one being byte 0. -/
def byteOf (w : UInt32) (i : Nat) : UInt8 := ⟨w.toBitVec.extractLsb' (8 * i) 8⟩

/-- A byte is known by its bits. -/
theorem byteOf_eq {w : UInt32} {i : Nat} {b : UInt8}
    (h : ∀ j < 8, w.toBitVec.getLsbD (8 * i + j) = b.toBitVec.getLsbD j) : byteOf w i = b := by
  rw [← UInt8.toBitVec_inj]
  apply BitVec.eq_of_getLsbD_eq
  intro j hj
  simpa [byteOf, hj] using h j hj

theorem toUInt8_eq_byteOf (w : UInt32) : w.toUInt8 = byteOf w 0 := by
  symm
  refine byteOf_eq fun j hj => ?_
  simp [hj]

/-- The lowest byte under its mask. -/
theorem and_low (w : UInt32) : w &&& 0x000000ff = (byteOf w 0).toUInt32 := by
  rw [← toUInt8_eq_byteOf, ← UInt32.toNat_inj, UInt32.toNat_and, UInt8.toNat_toUInt32, UInt32.toNat_toUInt8]
  exact Nat.and_two_pow_sub_one_eq_mod w.toNat 8

@[simp] theorem byteOf_toUInt32 (b : UInt8) : byteOf b.toUInt32 0 = b := by
  rw [← toUInt8_eq_byteOf]
  simp

/-- Byte 0 behind a shift. -/
theorem byteOf_shiftRight (w : UInt32) : byteOf (w >>> 8) 0 = byteOf w 1 ∧ byteOf (w >>> 16) 0 = byteOf w 2 ∧
    byteOf (w >>> 24) 0 = byteOf w 3 := by
  refine ⟨?_, ?_, ?_⟩
  all_goals
    refine byteOf_eq fun j hj => ?_
    simp [byteOf, hj]

/-! ## Words from bytes -/

/-- The word with these bytes, the highest one first. -/
def ofBytes (b₃ b₂ b₁ b₀ : UInt8) : UInt32 :=
  (b₃.toUInt32 <<< 24) ||| (b₂.toUInt32 <<< 16) ||| (b₁.toUInt32 <<< 8) ||| b₀.toUInt32

theorem getLsbD_ofBytes (b₃ b₂ b₁ b₀ : UInt8) (i : Nat) : (ofBytes b₃ b₂ b₁ b₀).toBitVec.getLsbD i =
    if i < 8 then b₀.toBitVec.getLsbD i else if i < 16 then b₁.toBitVec.getLsbD (i - 8)
    else if i < 24 then b₂.toBitVec.getLsbD (i - 16) else b₃.toBitVec.getLsbD (i - 24) := by
  have high := fun (b : UInt8) (k : Nat) (hk : 8 ≤ k) => BitVec.getLsbD_of_ge b.toBitVec k hk
  simp only [ofBytes, UInt32.toBitVec_or, UInt32.toBitVec_shiftLeft, UInt8.toBitVec_toUInt32, BitVec.getLsbD_or]
  simp only [BitVec.shiftLeft_eq', BitVec.getLsbD_shiftLeft, BitVec.getLsbD_setWidth]
  simp
  grind

/-- What was put together is read back. -/
theorem byteOf_ofBytes (b₃ b₂ b₁ b₀ : UInt8) :
    byteOf (ofBytes b₃ b₂ b₁ b₀) 0 = b₀ ∧ byteOf (ofBytes b₃ b₂ b₁ b₀) 1 = b₁ ∧
      byteOf (ofBytes b₃ b₂ b₁ b₀) 2 = b₂ ∧ byteOf (ofBytes b₃ b₂ b₁ b₀) 3 = b₃ := by
  refine ⟨?_, ?_, ?_, ?_⟩
  all_goals
    refine byteOf_eq fun j hj => ?_
    rw [getLsbD_ofBytes]
    simp (disch := omega) only [if_pos, if_neg]
    exact congrArg _ (by omega)

/-- A word is known by its bytes. -/
theorem eq_of_bytes {v w : UInt32} (h : ∀ i : Fin 4, byteOf v i = byteOf w i) : v = w := by
  rw [← UInt32.toBitVec_inj]
  apply BitVec.eq_of_getLsbD_eq
  intro k hk
  have hb := congrArg (fun b : UInt8 => b.toBitVec.getLsbD (k % 8)) (h ⟨k / 8, by omega⟩)
  have hk : 8 * (k / 8) + k % 8 = k := Nat.div_add_mod k 8
  simpa [byteOf, hk, Nat.mod_lt] using hb

/-! ## One byte replaced -/

/-- The word with byte `i` replaced. -/
def setByte (w : UInt32) (i : Nat) (b : UInt8) : UInt32 :=
  (w &&& ~~~(0xff <<< UInt32.ofNat (8 * i))) ||| (b.toUInt32 <<< UInt32.ofNat (8 * i))

theorem getLsbD_mask : ∀ i : Fin 4, ∀ k : Fin 32,
    (~~~((0xff : UInt32) <<< UInt32.ofNat (8 * i))).toBitVec.getLsbD k =
      !(decide (8 * i.val ≤ k) && decide (k.val < 8 * i + 8)) := by decide

theorem getLsbD_setByte (w : UInt32) (b : UInt8) (i : Fin 4) (k : Fin 32) : (setByte w i b).toBitVec.getLsbD k =
    if 8 * i.val ≤ k ∧ k < 8 * i.val + 8 then b.toBitVec.getLsbD (k - 8 * i) else w.toBitVec.getLsbD k := by
  have high := fun (k : Nat) (hk : 8 ≤ k) => BitVec.getLsbD_of_ge b.toBitVec k hk
  have hs : 8 * i.val % 32 = 8 * i.val := by omega
  rw [setByte, UInt32.toBitVec_or, UInt32.toBitVec_and, BitVec.getLsbD_or, BitVec.getLsbD_and, getLsbD_mask i k,
    UInt32.toBitVec_shiftLeft, UInt8.toBitVec_toUInt32]
  simp [hs]
  grind

/-- The byte is replaced and the others stay. -/
theorem byteOf_setByte (w : UInt32) (b : UInt8) (i j : Fin 4) :
    byteOf (setByte w i b) j = if i = j then b else byteOf w j := by
  refine byteOf_eq fun k hk => ?_
  rw [getLsbD_setByte w b i ⟨8 * j + k, by omega⟩]
  by_cases h : i = j
  · subst h
    rw [if_pos rfl, if_pos ⟨by simp, by simp; omega⟩]
    simp
  · have hne : i.val ≠ j.val := fun he => h (Fin.ext he)
    rw [if_neg h, if_neg (by simp only; omega)]
    simp [byteOf, hk]

/-! ## Reversed bytes -/

/-- The byte with its bits in reverse order. -/
def reverseByte (b : UInt8) : UInt8 := ⟨b.toBitVec.reverse⟩

@[simp] theorem reverseByte_reverseByte (b : UInt8) : reverseByte (reverseByte b) = b := by
  rw [← UInt8.toBitVec_inj]
  exact BitVec.reverse_reverse_eq

/-! ## Halves of a byte -/

theorem shiftRight_ofNat : ∀ r f : Fin 16,
    (((UInt8.ofNat r &&& 0x0f) <<< 4) ||| UInt8.ofNat f) >>> 4 = UInt8.ofNat r := by decide

/-- The upper half of a byte put together from two. -/
theorem shiftRight_halves {r f : UInt8} (hr : r < 16) (hf : f < 16) : (((r &&& 0x0f) <<< 4) ||| f) >>> 4 = r := by
  have h := shiftRight_ofNat ⟨r.toNat, UInt8.lt_iff_toNat_lt.mp hr⟩ ⟨f.toNat, UInt8.lt_iff_toNat_lt.mp hf⟩
  simpa using h

end Words
