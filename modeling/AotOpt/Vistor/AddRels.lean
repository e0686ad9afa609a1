import AotOpt.AotClass.TB
import AotOpt.Basic.Memory

/-!
# Adding the relocations to a block

`TB_AddRels_Vistor::visit` copies the entries from `rel_start_index` to `rel_end_index`,
inclusive, of the relocation table to the block. The indices are `int32_t` and are widened to
`u_int64_t`. Before it copies anything it reserves space for as many entries as the two indices
are apart, and one more; of a range that ends two or more before it starts this is a number below
zero, which is taken for a length that no vector can have.

* `loop_ok`, `loop_eq_ok` — when the copying ends without reading past the table, and what it
  copies.
* `visit_ok`, `rangeReadable_of_visit` — the visit ends if and only if space can be reserved and
  the entries from the first index to the last are there.
-/

namespace AotOpt.AddRelsVistor

variable {ι : Type}

/-- The loop of `visit` on the table `rels`. A turn that reads inside the table moves
`start_index` on, so that as many turns as the table has entries, and one more, are
enough. -/
def loop (rels : List AOTRel) (endIndex : BitVec 64) : ℕ → BitVec 64 → Res (List RelSlot)
  | 0, _ => .error .depth
  | fuel + 1, startIndex =>
    if startIndex ≤ endIndex then
      match rels[startIndex.toNat]? with
      | some rel => do
        let rest ← loop rels endIndex fuel (startIndex + 1)
        .ok (⟨rel, true⟩ :: rest)
      | none => .error .outOfBounds
    else .ok []

/-- `max_size()` of a `std::vector<AOT_rel>`. -/
def maxSizeRels : ℕ := (2 ^ 63 - 1) / sizeofAOTRel

/-- `max_size()` of a `std::vector<bool>`: whole words of 64 bits. -/
def maxSizeRelsValid : ℕ := 2 ^ 63 - 64

/-- `reserve(n)` of a vector. There is memory for every length up to `max_size()`. -/
def reserve (maxSize : ℕ) (n : BitVec 64) : Res Unit :=
  if n.toNat ≤ maxSize then .ok () else .error .lengthError

/-- `visit`. -/
def visit (rels : List AOTRel) (tb : TB ι) : Res (TB ι) := do
  let startIndex := tb.originAotTb.relStartIndex.signExtend 64
  let endIndex := tb.originAotTb.relEndIndex.signExtend 64
  reserve maxSizeRels (endIndex - startIndex + 1)
  reserve maxSizeRelsValid (endIndex - startIndex + 1)
  let new ← loop rels endIndex (rels.length + 1) startIndex
  .ok { tb with rels := tb.rels ++ new }

section Loop

variable {rels : List AOTRel} {endIndex : BitVec 64}

theorem toNat_add_one {x : BitVec 64} (h : x.toNat + 1 < 2 ^ 64) : (x + 1).toNat = x.toNat + 1 := by
  have h1 : (1 : BitVec 64).toNat = 1 := rfl
  rw [BitVec.toNat_add, h1, Nat.mod_eq_of_lt h]

/-- **The loop copies** the `count` entries up to `endIndex` when they are in the table. -/
theorem loop_ok (hlen : rels.length < 2 ^ 64) : ∀ {count fuel : ℕ} {startIndex : BitVec 64},
    startIndex.toNat + count = endIndex.toNat + 1 → startIndex.toNat + count ≤ rels.length →
      count < fuel → loop rels endIndex fuel startIndex =
        .ok (((rels.drop startIndex.toNat).take count).map (⟨·, true⟩))
  | 0, fuel + 1, startIndex, hc, _, _ => by
    have hlt : ¬startIndex ≤ endIndex := by rw [BitVec.le_def]; omega
    rw [loop, if_neg hlt]
    rfl
  | count + 1, fuel + 1, startIndex, hc, hin, hf => by
    have hle : startIndex ≤ endIndex := by rw [BitVec.le_def]; omega
    have hs : startIndex.toNat < rels.length := by omega
    have hs1 := toNat_add_one (x := startIndex) (by omega)
    have ih : loop rels endIndex fuel (startIndex + 1) =
        .ok (((rels.drop (startIndex + 1).toNat).take count).map (⟨·, true⟩)) :=
      loop_ok hlen (by omega) (by omega) (by omega)
    rw [loop, if_pos hle, List.getElem?_eq_getElem hs]
    simp only
    rw [ih, ok_bind, hs1, List.drop_eq_getElem_cons hs, List.take_succ_cons, List.map_cons]

/-- A loop that ends has copied nothing, or entries that are all in the table. -/
theorem loop_eq_ok (hlen : rels.length < 2 ^ 64) : ∀ {fuel : ℕ} {startIndex : BitVec 64}
    {new : List RelSlot}, loop rels endIndex fuel startIndex = .ok new →
      (endIndex < startIndex ∧ new = []) ∨
        (startIndex ≤ endIndex ∧ endIndex.toNat < rels.length ∧
          startIndex.toNat + new.length = endIndex.toNat + 1)
  | 0, _, _, h => by cases h
  | fuel + 1, startIndex, new, h => by
    rw [loop] at h
    split at h
    · next hle =>
      split at h
      · next rel hrel =>
        obtain ⟨rest, hrest, h⟩ := bind_eq_ok.mp h
        rw [Except.ok.injEq] at h
        have hs := (List.getElem?_eq_some_iff.mp hrel).1
        have hs1 := toNat_add_one (x := startIndex) (by omega)
        rw [BitVec.le_def] at hle
        rcases loop_eq_ok hlen hrest with ⟨hlt, rfl⟩ | ⟨-, hin, hcount⟩
        · rw [BitVec.lt_def, hs1] at hlt
          refine .inr ⟨BitVec.le_def.mpr hle, by omega, ?_⟩
          rw [← h, List.length_singleton]
          omega
        · rw [hs1] at hcount
          refine .inr ⟨BitVec.le_def.mpr hle, hin, ?_⟩
          rw [← h, List.length_cons]
          omega
      · cases h
    · next hle =>
      rw [Except.ok.injEq] at h
      exact .inl ⟨BitVec.not_le.mp hle, h.symm⟩

end Loop

/-- Space can be reserved for the entries. -/
def Reservable (startIndex endIndex : BitVec 64) : Prop :=
  (endIndex - startIndex + 1).toNat ≤ maxSizeRels

instance (startIndex endIndex : BitVec 64) : Decidable (Reservable startIndex endIndex) :=
  inferInstanceAs (Decidable (_ ≤ _))

theorem reserve_eq_ok {maxSize : ℕ} {n : BitVec 64} {u : Unit} :
    reserve maxSize n = .ok u ↔ n.toNat ≤ maxSize := by
  rw [reserve]
  by_cases h : n.toNat ≤ maxSize
  · simp [h]
  · simp [h]

/-- Space can be reserved for the entries of a range, empty or not. -/
theorem reservable_of_count {startIndex endIndex : BitVec 64} {count : ℕ}
    (h : startIndex.toNat + count = endIndex.toNat + 1) (hcount : count ≤ maxSizeRels) :
    Reservable startIndex endIndex := by
  have hmax : maxSizeRels < 2 ^ 64 := by decide
  have h1 : (1 : BitVec 64).toNat = 1 := rfl
  rw [Reservable, BitVec.toNat_add, BitVec.toNat_sub, h1]
  omega

/-- The length that is asked for is not negative. -/
theorem reservable_iff {startIndex endIndex : BitVec 32} :
    Reservable (startIndex.signExtend 64) (endIndex.signExtend 64) ↔
      startIndex.toInt ≤ endIndex.toInt + 1 := by
  have hmax : maxSizeRels < 2 ^ 63 := by decide
  have hmin : 2 ^ 32 ≤ maxSizeRels := by decide
  have hstart := startIndex.isLt
  have hend := endIndex.isLt
  have h1 : (1 : BitVec 64).toNat = 1 := rfl
  rw [Reservable, BitVec.toNat_add, BitVec.toNat_sub, h1, BitVec.toNat_signExtend,
    BitVec.toNat_signExtend, BitVec.toNat_setWidth, BitVec.toNat_setWidth, BitVec.msb_eq_decide,
    BitVec.msb_eq_decide, BitVec.toInt_eq_toNat_cond, BitVec.toInt_eq_toNat_cond]
  simp only [decide_eq_true_eq]
  split_ifs <;> omega

/-- **What the visit does** when it ends. -/
theorem visit_eq_ok {rels : List AOTRel} {tb tb' : TB ι} : visit rels tb = .ok tb' ↔
    Reservable (tb.originAotTb.relStartIndex.signExtend 64) (tb.originAotTb.relEndIndex.signExtend 64) ∧
      ∃ new, loop rels (tb.originAotTb.relEndIndex.signExtend 64) (rels.length + 1)
          (tb.originAotTb.relStartIndex.signExtend 64) = .ok new ∧
        tb' = { tb with rels := tb.rels ++ new } := by
  have hmax : maxSizeRels ≤ maxSizeRelsValid := by decide
  constructor
  · intro h
    obtain ⟨_, hreserve, h⟩ := bind_eq_ok.mp h
    obtain ⟨_, -, h⟩ := bind_eq_ok.mp h
    obtain ⟨new, hnew, h⟩ := bind_eq_ok.mp h
    exact ⟨reserve_eq_ok.mp hreserve, new, hnew, (Except.ok.inj h).symm⟩
  · rintro ⟨hreserve, new, hnew, rfl⟩
    exact bind_eq_ok.mpr ⟨(), reserve_eq_ok.mpr hreserve,
      bind_eq_ok.mpr ⟨(), reserve_eq_ok.mpr (hreserve.trans hmax), bind_eq_ok.mpr ⟨new, hnew, rfl⟩⟩⟩

/-- The range ends at most one before it starts, so that space can be reserved for its entries, and
they are in the table. -/
def RangeReadable (rels : List AOTRel) (aotTb : AOTTB) : Prop :=
  aotTb.relStartIndex.toInt ≤ aotTb.relEndIndex.toInt + 1 ∧
    (aotTb.relStartIndex.signExtend 64 ≤ aotTb.relEndIndex.signExtend 64 →
      (aotTb.relEndIndex.signExtend 64).toNat < rels.length)

instance (rels : List AOTRel) (aotTb : AOTTB) : Decidable (RangeReadable rels aotTb) :=
  inferInstanceAs (Decidable (_ ∧ (_ → _)))

/-- The visit of a block whose entries are in the table. -/
theorem visit_ok {rels : List AOTRel} (hlen : rels.length < 2 ^ 64) (tb : TB ι)
    (h : RangeReadable rels tb.originAotTb) :
    ∃ new, visit rels tb = .ok { tb with rels := tb.rels ++ new } := by
  have hloop : ∃ new, loop rels (tb.originAotTb.relEndIndex.signExtend 64) (rels.length + 1)
      (tb.originAotTb.relStartIndex.signExtend 64) = .ok new := by
    by_cases hle : tb.originAotTb.relStartIndex.signExtend 64 ≤
        tb.originAotTb.relEndIndex.signExtend 64
    · have hin := h.2 hle
      rw [BitVec.le_def] at hle
      obtain ⟨count, hcount⟩ := Nat.exists_eq_add_of_le (hle.trans (Nat.le_succ _))
      exact ⟨_, loop_ok hlen hcount.symm (by omega) (by omega)⟩
    · exact ⟨[], by rw [loop, if_neg hle]⟩
  obtain ⟨new, hnew⟩ := hloop
  exact ⟨new, visit_eq_ok.mpr ⟨reservable_iff.mpr h.1, new, hnew, rfl⟩⟩

/-- What was copied without reading past the table is in the table. -/
theorem rangeReadable_of_visit {rels : List AOTRel} (hlen : rels.length < 2 ^ 64) {tb tb' : TB ι}
    (h : visit rels tb = .ok tb') : RangeReadable rels tb.originAotTb := by
  obtain ⟨hreserve, new, hnew, -⟩ := visit_eq_ok.mp h
  refine ⟨reservable_iff.mp hreserve, fun hle => ?_⟩
  rcases loop_eq_ok hlen hnew with ⟨hlt, -⟩ | ⟨-, hin, -⟩
  · exact absurd hle (BitVec.not_le.mpr hlt)
  · exact hin

/-- A range that ends two before it starts. -/
example : visit [] (.new { (default : AOTTB) with relStartIndex := 2 } .empty 0 : TB ℕ) =
    .error .lengthError := rfl

end AotOpt.AddRelsVistor
