import Mathlib.Algebra.Order.Ring.Int

/-!
# Fields of a word

A field of a word is the `l` bits from bit `s` on. It is read by shifting it down and
masking it (`bits`), or by the same with sign extension (`sbits`), and written by masking
a value and shifting it up (`place`). What matters of a value that is written is its low
`l` bits, so a field that was read, however it was extended, truncated or split on the
way, is written back as the bits it came from (`place_bits`, `place_of_low_eq`).

`Known m v` is what is known of a word after some of its bits were tested: the bits under
`m` are those of `v`.
-/

namespace AotOpt.Lib

variable {w : ℕ}

/-- The word whose low `l` bits are set. -/
def lowMask (w l : ℕ) : BitVec w := BitVec.ofNat w (2 ^ l - 1)

/-- The word whose `l` bits from bit `s` on are set. -/
def fieldMask (w s l : ℕ) : BitVec w := lowMask w l <<< s

/-- The `l` bits of `x` from bit `s` on. -/
def bits (x : BitVec w) (s l : ℕ) : BitVec w := (x >>> s) &&& lowMask w l

/-- The same bits, sign extended. -/
def sbits (x : BitVec w) (s l : ℕ) : BitVec w := (x <<< (w - l - s)).sshiftRight (w - l)

/-- The low `l` bits of `v`, moved to bit `s`. -/
def place (v : BitVec w) (s l : ℕ) : BitVec w := (v &&& lowMask w l) <<< s

/-! ### Bit by bit -/

theorem getLsbD_lowMask (l i : ℕ) : (lowMask w l).getLsbD i = (decide (i < w) && decide (i < l)) := by
  simp [lowMask, BitVec.getLsbD_ofNat, Nat.testBit_two_pow_sub_one]

theorem getLsbD_bits (x : BitVec w) (s l i : ℕ) :
    (bits x s l).getLsbD i = (decide (i < l) && x.getLsbD (s + i)) := by
  simp only [bits, BitVec.getLsbD_and, BitVec.getLsbD_ushiftRight, getLsbD_lowMask]
  by_cases hi : i < w
  · simp [hi, Bool.and_comm]
  · simp [hi, BitVec.getLsbD_of_ge x (s + i) (by omega)]

/-- Below the field's length the sign extension makes no difference. -/
theorem getLsbD_sbits (x : BitVec w) {s l i : ℕ} (hl : s + l ≤ w) (hi : i < l) :
    (sbits x s l).getLsbD i = x.getLsbD (s + i) := by
  simp only [sbits, BitVec.getLsbD_sshiftRight, BitVec.getLsbD_shiftLeft]
  rw [decide_eq_false (show ¬w ≤ i by omega), if_pos (by omega),
    decide_eq_true (show w - l + i < w by omega),
    decide_eq_false (show ¬w - l + i < w - l - s by omega),
    show w - l + i - (w - l - s) = s + i by omega]
  simp

/-- Above it all bits are the highest bit of the field. -/
theorem getLsbD_sbits_of_le (x : BitVec w) {s l i : ℕ} (hpos : 0 < l) (hl : s + l ≤ w) (hi : l ≤ i)
    (hiw : i < w) : (sbits x s l).getLsbD i = x.getLsbD (s + (l - 1)) := by
  simp only [sbits, BitVec.getLsbD_sshiftRight]
  rw [decide_eq_false (show ¬w ≤ i by omega), if_neg (by omega), BitVec.msb_eq_getLsbD_last,
    BitVec.getLsbD_shiftLeft, decide_eq_true (show w - 1 < w by omega),
    decide_eq_false (show ¬w - 1 < w - l - s by omega),
    show w - 1 - (w - l - s) = s + (l - 1) by omega]
  simp

/-! ### Reading and writing back -/

/-- Two values with the same low bits are written alike. -/
theorem place_of_low_eq {u v : BitVec w} {l : ℕ} (s : ℕ)
    (h : ∀ i < l, u.getLsbD i = v.getLsbD i) : place u s l = place v s l := by
  have : u &&& lowMask w l = v &&& lowMask w l := by
    apply BitVec.eq_of_getLsbD_eq
    intro i hi
    by_cases hil : i < l
    · simp [getLsbD_lowMask, h i hil]
    · simp [getLsbD_lowMask, hil]
  rw [place, place, this]

/-- **A field that is read and written back** is the word under the field's mask. -/
theorem place_bits (x : BitVec w) (s l : ℕ) : place (bits x s l) s l = x &&& fieldMask w s l := by
  apply BitVec.eq_of_getLsbD_eq
  intro i hi
  simp only [place, fieldMask, BitVec.getLsbD_shiftLeft, BitVec.getLsbD_and, getLsbD_bits,
    getLsbD_lowMask]
  by_cases h : i < s
  · simp [h]
  · rw [show s + (i - s) = i by omega]
    by_cases hl : i - s < l
    · simp [hi, h, hl, show i - s < w by omega]
    · simp [hl]

/-- A word that has `v` in a field has the bits of `v` there. -/
theorem getLsbD_of_field {x v : BitVec w} {s l i : ℕ} (h : x &&& fieldMask w s l = place v s l)
    (hl : s + l ≤ w) (hi : i < l) : x.getLsbD (s + i) = v.getLsbD i := by
  have hbit := congrArg (·.getLsbD (s + i)) h
  simp only [fieldMask, place, BitVec.getLsbD_and, BitVec.getLsbD_shiftLeft, getLsbD_lowMask] at hbit
  rw [Nat.add_sub_cancel_left, decide_eq_true (show s + i < w by omega),
    decide_eq_true (show i < w by omega), decide_eq_true hi,
    decide_eq_false (show ¬s + i < s by omega)] at hbit
  simpa using hbit

theorem place_and_fieldMask (v : BitVec w) (s l : ℕ) : place v s l &&& fieldMask w s l = place v s l := by
  rw [place, fieldMask, ← BitVec.shiftLeft_and_distrib, BitVec.and_assoc, BitVec.and_self]

/-- What a word has under one of two masks, when the other part lies beside it. -/
theorem and_eq_of_or {x m n a b : BitVec w} (h : x &&& (m ||| n) = a ||| b) (ha : a &&& m = a)
    (hb : b &&& m = 0) : x &&& m = a := by
  have hx : x &&& m = (x &&& (m ||| n)) &&& m := by
    apply BitVec.eq_of_getLsbD_eq
    intro i _
    simp only [BitVec.getLsbD_and, BitVec.getLsbD_or]
    cases x.getLsbD i <;> cases m.getLsbD i <;> simp
  rw [hx, h, BitVec.and_or_distrib_right, ha, hb]
  exact BitVec.or_zero

/-- Two parts under two masks. -/
theorem or_and_or {a b m n : BitVec w} (ha : a &&& m = a) (hb : b &&& n = b) :
    (a ||| b) &&& (m ||| n) = a ||| b := by
  rw [← ha, ← hb]
  apply BitVec.eq_of_getLsbD_eq
  intro i _
  simp only [BitVec.getLsbD_and, BitVec.getLsbD_or]
  cases a.getLsbD i <;> cases m.getLsbD i <;> cases b.getLsbD i <;> cases n.getLsbD i <;> rfl

/-- A part under a mask lies beside everything that the mask does. -/
theorem and_eq_zero_of_and_eq {a m n : BitVec w} (ha : a &&& m = a) (h : m &&& n = 0) : a &&& n = 0 := by
  rw [← ha, BitVec.and_assoc, h]
  exact BitVec.and_zero

/-! ### What is known of a word -/

/-- The bits under `mask` are those of `value`. -/
structure Known (w : ℕ) where
  mask : BitVec w
  value : BitVec w

namespace Known

/-- What is known of a word before any test. -/
def none : Known w := ⟨0, 0⟩

/-- `x` is a word of which `k` is true. -/
def Holds (k : Known w) (x : BitVec w) : Prop := x &&& k.mask = k.value

/-- What is known after `x &&& m = v` was found too. -/
def add (k : Known w) (m v : BitVec w) : Known w := ⟨k.mask ||| m, k.value ||| v⟩

theorem holds_none (x : BitVec w) : (none : Known w).Holds x := by simp [Holds, none]

theorem Holds.add {k : Known w} {x m v : BitVec w} (h : k.Holds x) (hx : x &&& m = v) :
    (k.add m v).Holds x := by
  rw [Holds] at h
  rw [Holds, Known.add, BitVec.and_or_distrib_left, h, hx]

/-- Testing a field that is shifted down is testing the word under the mask shifted up. -/
theorem and_of_shiftRight {x m v : BitVec w} {s : ℕ} (h : (x >>> s) &&& m = v) :
    x &&& (m <<< s) = v <<< s := by
  apply BitVec.eq_of_getLsbD_eq
  intro i hi
  simp only [← h, BitVec.getLsbD_and, BitVec.getLsbD_shiftLeft, BitVec.getLsbD_ushiftRight]
  by_cases his : i < s
  · simp [his]
  · rw [show s + (i - s) = i by omega]
    cases x.getLsbD i <;> simp [his]

/-- A word is what is known of it and the rest. -/
theorem Holds.or_eq {k : Known w} {x m : BitVec w} (h : k.Holds x)
    (hm : k.mask ||| m = BitVec.allOnes w) : k.value ||| (x &&& m) = x := by
  rw [← h, ← BitVec.and_or_distrib_left, hm, BitVec.and_allOnes]

end Known

/-! ### Values that fit in a field -/

/-- An unsigned value of `l` bits has no others. -/
theorem getLsbD_of_toNat_lt {v : BitVec w} {l i : ℕ} (h : v.toNat < 2 ^ l) (hi : l ≤ i) :
    v.getLsbD i = false :=
  Nat.testBit_lt_two_pow (Nat.lt_of_lt_of_le h (Nat.pow_le_pow_right (by decide) hi))

/-- A signed value of `l` bits repeats the highest of them. -/
theorem getLsbD_of_toInt {v : BitVec w} {l i : ℕ} (hlo : -(2 ^ (l - 1)) ≤ v.toInt)
    (hhi : v.toInt < 2 ^ (l - 1)) (hi : l - 1 ≤ i) (hiw : i < w) :
    v.getLsbD i = v.getLsbD (l - 1) := by
  have hpow : ((2 : ℤ) ^ (l - 1)) = ((2 ^ (l - 1) : ℕ) : ℤ) := by push_cast; rfl
  have hpoww : ((2 : ℤ) ^ w) = ((2 ^ w : ℕ) : ℤ) := by push_cast; rfl
  have hlt := v.isLt
  rw [hpow] at hlo hhi
  rw [BitVec.toInt_eq_toNat_cond] at hlo hhi
  split at hhi
  · next hpos =>
    rw [if_pos hpos] at hlo
    have hsmall : v.toNat < 2 ^ (l - 1) := by omega
    rw [getLsbD_of_toNat_lt hsmall hi, getLsbD_of_toNat_lt hsmall le_rfl]
  · next hneg =>
    rw [if_neg hneg] at hlo
    -- the bits of the complement are all low
    have hsmall : (~~~v).toNat < 2 ^ (l - 1) := by
      rw [BitVec.toNat_not]
      omega
    have hbit : ∀ j, l - 1 ≤ j → j < w → v.getLsbD j = true := by
      intro j hj hjw
      have := getLsbD_of_toNat_lt hsmall hj
      simpa [BitVec.getLsbD_not, hjw] using this
    rw [hbit i hi hiw, hbit (l - 1) le_rfl (by omega)]

/-- A value that repeats the highest of `l` bits is a signed value of `l` bits. -/
theorem toInt_of_getLsbD {v : BitVec w} {l : ℕ} (hl : 0 < l) (hlw : l ≤ w)
    (h : ∀ i, l ≤ i → i < w → v.getLsbD i = v.getLsbD (l - 1)) :
    -(2 ^ (l - 1)) ≤ v.toInt ∧ v.toInt < 2 ^ (l - 1) := by
  have hv : v = (v.setWidth l).signExtend w := by
    apply BitVec.eq_of_getLsbD_eq
    intro i hi
    rw [BitVec.getLsbD_signExtend, decide_eq_true hi, Bool.true_and]
    by_cases hil : i < l
    · rw [if_pos hil, BitVec.getLsbD_setWidth, decide_eq_true hil, Bool.true_and]
    · rw [if_neg hil, h i (not_lt.mp hil) hi, BitVec.msb_eq_getLsbD_last, BitVec.getLsbD_setWidth,
        decide_eq_true (by omega), Bool.true_and]
  have hint : v.toInt = (v.setWidth l).toInt := by
    conv_lhs => rw [hv]
    rw [BitVec.toInt_signExtend_of_le hlw]
  rw [hint]
  obtain ⟨k, rfl⟩ : ∃ k, l = k + 1 := ⟨l - 1, by omega⟩
  have hlo := BitVec.le_two_mul_toInt (x := v.setWidth (k + 1))
  have hhi := BitVec.two_mul_toInt_lt (x := v.setWidth (k + 1))
  rw [pow_succ] at hlo hhi
  rw [Nat.add_sub_cancel]
  omega

end AotOpt.Lib
