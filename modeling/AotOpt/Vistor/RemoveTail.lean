import AotOpt.AotClass.AOTFile
import AotOpt.AotClass.Guarded

/-!
# Removing what follows a linked branch

`RemoveTailVistor::visit`: the instructions behind the branch of a slot that is linked, up to
the branch of the other slot or the end, are deleted with their relocations.

* `ordered_visit` — the pass does not stop on a block that has its branches in order, and
  leaves them in order.
-/

namespace AotOpt.RemoveTailVistor

open Lib

variable {ι : Type}

/-- `remove_tail_of`. The indices are `int32_t`. -/
def removeTailOf (tb : TB ι) (which : Fin 2) : Res (TB ι) := do
  let branchInsnIndex : BitVec 32 := (tb.originAotTb.jmpTargetArg which >>> 2).setWidth 32
  let totalInsnCount : BitVec 32 := tb.disInsns.totalSize.setWidth 32
  let remain : BitVec 32 :=
    if which = 0 && tb.originAotTb.slotValid 1 then
      ((tb.originAotTb.jmpTargetArg 1 >>> 2) - branchInsnIndex.signExtend 64 - 1).setWidth 32
    else totalInsnCount - branchInsnIndex - 1
  let insn ← tb.disInsns.get (branchInsnIndex.signExtend 64)
  assert (insn.data.opc = .OPC_B)
  if (tb.branch (which = 1)).isSome then do
    let i := branchInsnIndex + 1
    -- `while(remain > 0)`
    let (_, tb) ← tb.deleteRun (tb.disInsns.next insn.addr) (i.signExtend 64) remain.toInt.toNat
    .ok tb
  else .ok tb

/-- `visit`. -/
def visit (tb : TB ι) : Res (TB ι) :=
  if tb.originAotTb.slotValid 0 && tb.originAotTb.slotValid 1 && tb.trueBranch.isSome
      && tb.falseBranch.isSome then do
    let tb ← removeTailOf tb 0
    removeTailOf tb 1
  else if tb.originAotTb.slotValid 0 && tb.falseBranch.isSome then removeTailOf tb 0
  else if tb.originAotTb.slotValid 1 && tb.trueBranch.isSome then removeTailOf tb 1
  else .ok tb

/-! ### The branches stay -/

theorem signExtend_ofNat {s : ℕ} (h : s < 2 ^ 31) :
    (BitVec.ofNat 32 s).signExtend 64 = BitVec.ofNat 64 s := by
  rw [BitVec.signExtend_eq_setWidth_of_msb_false]
  · exact BitVec.eq_of_toNat_eq (by simp; omega)
  · rw [BitVec.msb_eq_false_iff_two_mul_lt]
    simp
    omega

theorem toNat_toInt_ofNat {c : ℕ} (h : c < 2 ^ 31) : (BitVec.ofNat 32 c).toInt.toNat = c := by
  rw [BitVec.toInt_eq_toNat_of_lt (by simp; omega)]
  simp
  omega

variable {tb tb₀ : TB ι} {which : Fin 2}

/-- The branch of each valid slot is there, the one of slot 0 in front of the one of slot 1. -/
structure SlotsInOrder (tb : TB ι) : Prop where
  -- `code_size` counts the bytes in 32 bits
  length_lt : tb.disInsns.nodes.length < 2 ^ 30
  slot : ∀ j, tb.originAotTb.slotValid j → tb.opcAt (tb.originAotTb.slotIndex j) = some .OPC_B
  slots_lt : tb.originAotTb.slotValid 0 → tb.originAotTb.slotValid 1 →
    tb.originAotTb.slotIndex 0 < tb.originAotTb.slotIndex 1

theorem slotsInOrder_of_ordered (h : tb.Ordered) : SlotsInOrder tb := ⟨h.length_lt, h.slot, h.slots_lt⟩

/-- The passes find the branch of a slot. -/
theorem SlotsInOrder.get (h : SlotsInOrder tb) {k : ℕ} {n : ListNode LoongArchInsInfo}
    (hn : tb.disInsns.nodes[k]? = some n) : tb.disInsns.get (BitVec.ofNat 64 k) = .ok n := by
  have hlen := h.length_lt
  have hk := (List.getElem?_eq_some_iff.mp hn).1
  refine TB.get_of_nodes (by omega) ?_
  rw [BitVec.toNat_ofNat, Nat.mod_eq_of_lt (by omega), hn]

/-- When `c` instructions behind the branch of slot `which`, at position `s`, are still to be
deleted: the branch of the other slot stands in front, or right behind these. -/
structure Deleting (tb₀ : TB ι) (which : Fin 2) (s c : ℕ) (tb : TB ι) : Prop where
  ordered : tb.Ordered
  valid : ∀ j, tb.originAotTb.slotValid j = tb₀.originAotTb.slotValid j
  index : tb.originAotTb.slotIndex which = s
  other : ∀ j ≠ which, tb.originAotTb.slotValid j →
    tb.originAotTb.slotIndex j < s ∨ tb.originAotTb.slotIndex j = s + 1 + c

/-- One of them is deleted. -/
theorem Deleting.deleteAt {s c : ℕ} (h : Deleting tb₀ which s (c + 1) tb)
    {n : ListNode LoongArchInsInfo} (hv : tb₀.originAotTb.slotValid which)
    (hn : tb.disInsns.nodes[s + 1]? = some n) :
    Deleting tb₀ which s c (tb.deleteAt n (BitVec.ofNat 64 (s + 1))) := by
  have hlt := (List.getElem?_eq_some_iff.mp hn).1
  have hlen := h.ordered.length_lt
  have hi : (BitVec.ofNat 64 (s + 1)).toNat = s + 1 := by
    rw [BitVec.toNat_ofNat, Nat.mod_eq_of_lt (by omega)]
  have hindex := h.index
  have hr : TB.Removed tb (tb.deleteAt n (BitVec.ofNat 64 (s + 1))) (s + 1) := by
    refine TB.removed_deleteAt hn (by omega) fun j hj => ?_
    by_cases hw : j = which
    · subst hw
      omega
    · have := h.other j hw hj
      omega
  refine ⟨h.ordered.removed hr fun h0 h1 => .inr ?_, fun j => (hr.valid j).trans (h.valid j),
    ?_, fun j hw hj => ?_⟩
  · have := h.ordered.slots_lt h0 h1
    by_cases hw : (0 : Fin 2) = which
    · rw [hw]
      omega
    · have hw1 : which = 1 := by omega
      rw [hw1] at hindex
      omega
  · rw [hr.index which (by rw [h.valid, hv]), hindex, shiftDel_of_le (by omega)]
  · rw [hr.valid] at hj
    rw [hr.index j hj]
    rcases h.other j hw hj with h | h
    · rw [shiftDel_of_le (by omega)]
      exact .inl h
    · rw [shiftDel_of_lt (by omega)]
      omega

/-- How many instructions `remove_tail_of` deletes. -/
def tailLength (tb : TB ι) (which : Fin 2) : ℕ :=
  (if which = 0 && tb.originAotTb.slotValid 1 then tb.originAotTb.slotIndex 1
    else tb.disInsns.nodes.length) - tb.originAotTb.slotIndex which - 1

/-- The branch of slot 1 limits what is deleted behind the branch of slot 0. -/
theorem slotIndex_lt_of_limit (h : SlotsInOrder tb) (hv : tb.originAotTb.slotValid which)
    (hlimit : (decide (which = 0) && tb.originAotTb.slotValid 1) = true) :
    tb.originAotTb.slotIndex which < tb.originAotTb.slotIndex 1 ∧
      tb.originAotTb.slotIndex 1 < tb.disInsns.nodes.length := by
  rw [Bool.and_eq_true, decide_eq_true_eq] at hlimit
  obtain ⟨rfl, h1⟩ := hlimit
  exact ⟨h.slots_lt hv h1, TB.lt_of_opcAt (h.slot 1 h1)⟩

/-- What is deleted lies in the list. -/
theorem tail_le (h : SlotsInOrder tb) (hv : tb.originAotTb.slotValid which) :
    tb.originAotTb.slotIndex which + 1 + tailLength tb which ≤ tb.disInsns.nodes.length := by
  have hs := TB.lt_of_opcAt (h.slot which hv)
  rw [tailLength]
  split_ifs with hlimit
  · have := slotIndex_lt_of_limit h hv hlimit
    omega
  · omega

/-- `remain`, as `remove_tail_of` computes it. -/
theorem remain_eq (h : SlotsInOrder tb) (hv : tb.originAotTb.slotValid which) :
    (if (decide (which = 0) && tb.originAotTb.slotValid 1) = true then
      (BitVec.ofNat 64 (tb.originAotTb.slotIndex 1) -
        BitVec.ofNat 64 (tb.originAotTb.slotIndex which) - 1).setWidth 32
    else tb.disInsns.totalSize.setWidth 32 - BitVec.ofNat 32 (tb.originAotTb.slotIndex which) - 1) =
      BitVec.ofNat 32 (tailLength tb which) := by
  have hlen := h.length_lt
  have hs := TB.lt_of_opcAt (h.slot which hv)
  rw [tailLength, LinkList.totalSize]
  split_ifs with hlimit
  · have := slotIndex_lt_of_limit h hv hlimit
    bv_omega
  · bv_omega

/-- Before the first deletion. -/
theorem deleting_start (h : tb.Ordered) (hv : tb.originAotTb.slotValid which) :
    Deleting tb which (tb.originAotTb.slotIndex which) (tailLength tb which) tb := by
  refine ⟨h, fun _ => rfl, rfl, fun j hw hj => ?_⟩
  rcases Fin.exists_fin_two.mp ⟨which, rfl⟩ with rfl | rfl
  · obtain rfl : j = 1 := by omega
    have := h.slots_lt hv hj
    rw [tailLength, hj, decide_eq_true rfl, Bool.and_self, if_pos rfl]
    omega
  · obtain rfl : j = 0 := by omega
    exact .inl (h.slots_lt hj hv)

/-- What `remove_tail_of` runs: the deletions behind the branch, if the slot is linked. -/
theorem removeTailOf_eq (h : SlotsInOrder tb) (hv : tb.originAotTb.slotValid which) :
    removeTailOf tb which = if (tb.branch (which = 1)).isSome then
      tb.deleteRun (.first (tb.disInsns.nodes.drop (tb.originAotTb.slotIndex which + 1)))
        (BitVec.ofNat 64 (tb.originAotTb.slotIndex which + 1)) (tailLength tb which) >>= fun r => .ok r.2
      else .ok tb := by
  have hlen := h.length_lt
  have hlast := tail_le h hv
  obtain ⟨n, hn, hopc⟩ := TB.opcAt_eq_some.mp (h.slot which hv)
  have hidx : (tb.originAotTb.jmpTargetArg which >>> 2).setWidth 32 =
      BitVec.ofNat 32 (tb.originAotTb.slotIndex which) := by
    rw [AOTTB.jmpTargetArg_shift, BitVec.setWidth_ofNat_of_le (by decide)]
  have hnext : tb.disInsns.next n.addr =
      .first (tb.disInsns.nodes.drop (tb.originAotTb.slotIndex which + 1)) :=
    LinkList.next_of_nodes hn
  have hi : BitVec.ofNat 32 (tb.originAotTb.slotIndex which) + 1 =
      BitVec.ofNat 32 (tb.originAotTb.slotIndex which + 1) := by
    rw [BitVec.ofNat_add]
    rfl
  rw [removeTailOf, hidx, signExtend_ofNat (by omega), AOTTB.jmpTargetArg_shift, remain_eq h hv,
    h.get hn]
  simp only [ok_bind, hopc, decide_true, assert_true]
  rw [hnext, hi, signExtend_ofNat (by omega), toNat_toInt_ofNat (by omega)]

/-- **`remove_tail_of`** does not stop and leaves the branches in order. -/
theorem ordered_removeTailOf (h : tb.Ordered) (hv : tb.originAotTb.slotValid which) :
    ∃ tb', removeTailOf tb which = .ok tb' ∧ tb'.Ordered ∧
      ∀ j, tb'.originAotTb.slotValid j = tb.originAotTb.slotValid j := by
  have hs := slotsInOrder_of_ordered h
  rw [removeTailOf_eq hs hv]
  split_ifs with hlink
  · obtain ⟨p, tb', hrun, h', -⟩ :=
      TB.deleteRun_ok (fun c tb n h hn => h.deleteAt hv hn) _ (deleting_start h hv) (tail_le hs hv)
    rw [hrun, ok_bind]
    exact ⟨tb', rfl, h'.ordered, h'.valid⟩
  · exact ⟨tb, rfl, h, fun _ => rfl⟩

/-- **`visit` of a block with its branches in order** does not stop and leaves them in
order. -/
theorem ordered_visit (h : tb.Ordered) : ∃ tb', visit tb = .ok tb' ∧ tb'.Ordered := by
  unfold visit
  split_ifs with h2 h0 h1
  · simp only [Bool.and_eq_true] at h2
    obtain ⟨tb₁, hok₁, hord₁, hvalid⟩ := ordered_removeTailOf h h2.1.1.1
    obtain ⟨tb₂, hok₂, hord₂, -⟩ := ordered_removeTailOf hord₁ ((hvalid 1).trans h2.1.1.2)
    exact ⟨tb₂, by rw [hok₁, ok_bind, hok₂], hord₂⟩
  · rw [Bool.and_eq_true] at h0
    obtain ⟨tb₁, hok₁, hord₁, -⟩ := ordered_removeTailOf h h0.1
    exact ⟨tb₁, hok₁, hord₁⟩
  · rw [Bool.and_eq_true] at h1
    obtain ⟨tb₁, hok₁, hord₁, -⟩ := ordered_removeTailOf h h1.1
    exact ⟨tb₁, hok₁, hord₁⟩
  · exact ⟨tb, rfl, h⟩

end AotOpt.RemoveTailVistor
