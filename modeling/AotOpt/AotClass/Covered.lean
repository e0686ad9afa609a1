import AotOpt.AotClass.Relocations

/-!
# Which instructions a relocation covers

The instructions of a block, each with whether a valid relocation covers it. What a deletion
leaves keeps its mark, if the instruction that is deleted has none (`markFrom_delete`), and
`in_scope_of_rel` of two instructions is whether one of them is marked.
-/

namespace AotOpt

variable {ι : Type}

/-- A valid relocation covers the instruction with index `k`. -/
def coveredAt (rels : List RelSlot) (k : ℕ) : Bool := rels.any fun r => r.valid && r.Covers k

theorem coveredAt_iff {rels : List RelSlot} {k : ℕ} :
    coveredAt rels k = true ↔ ∃ r ∈ rels, r.valid ∧ r.Covers k := by
  simp [coveredAt]

/-- The nodes from index `k` on with their marks. -/
def markFrom (rels : List RelSlot) : ℕ → List (ListNode LoongArchInsInfo) →
    List (ListNode LoongArchInsInfo × Bool)
  | _, [] => []
  | k, n :: nodes => (n, coveredAt rels k) :: markFrom rels (k + 1) nodes

/-- The nodes of a block with their marks. -/
def TB.marked (tb : TB ι) : List (ListNode LoongArchInsInfo × Bool) :=
  markFrom tb.rels 0 tb.disInsns.nodes

section Marks

variable {rels rels' : List RelSlot} {len k : ℕ} {nodes : List (ListNode LoongArchInsInfo)}

theorem markFrom_append : ∀ (nodes nodes' : List (ListNode LoongArchInsInfo)) (k : ℕ),
    markFrom rels k (nodes ++ nodes') = markFrom rels k nodes ++ markFrom rels (k + nodes.length) nodes'
  | [], _, _ => rfl
  | n :: nodes, nodes', k => by
    rw [List.cons_append, markFrom, markFrom, markFrom_append nodes nodes', List.cons_append,
      List.length_cons, show k + 1 + nodes.length = k + (nodes.length + 1) by omega]

@[simp] theorem map_fst_markFrom : ∀ (nodes : List (ListNode LoongArchInsInfo)) (k : ℕ),
    (markFrom rels k nodes).map Prod.fst = nodes
  | [], _ => rfl
  | n :: nodes, k => by rw [markFrom, List.map_cons, map_fst_markFrom nodes]

theorem markFrom_congr : ∀ {nodes : List (ListNode LoongArchInsInfo)} {k k' : ℕ},
    (∀ j < nodes.length, coveredAt rels (k + j) = coveredAt rels' (k' + j)) →
      markFrom rels k nodes = markFrom rels' k' nodes
  | [], _, _, _ => rfl
  | n :: nodes, k, k', h => by
    have hhead := h 0 (Nat.zero_lt_succ _)
    have htail : ∀ j < nodes.length, coveredAt rels (k + 1 + j) = coveredAt rels' (k' + 1 + j) := by
      intro j hj
      have := h (j + 1) (Nat.succ_lt_succ hj)
      rwa [Nat.add_assoc, Nat.add_comm 1 j, Nat.add_assoc k', Nat.add_comm 1 j]
    rw [markFrom, markFrom, markFrom_congr htail]
    exact congrArg (fun b => (n, b) :: markFrom rels' (k' + 1) nodes) hhead

/-- What a relocation covers after a deletion of an instruction that it does not cover. -/
theorem RelSlot.covers_afterDelete_iff {r : RelSlot} (hv : r.valid)
    (hal : r.rel.tcOffset.toNat % 4 = 0) (hno : ¬r.Covers k) (j : ℕ) :
    (r.afterDelete k).Covers j ↔ r.Covers (if j < k then j else j + 1) := by
  rw [Covers, first_afterDelete hv hal, count_afterDelete, Covers, Lib.shiftDel]
  rw [Covers] at hno
  split_ifs <;> omega

theorem coveredAt_afterDelete (h : RelsApart rels len) (hno : coveredAt rels k = false) (j : ℕ) :
    coveredAt (rels.map (RelSlot.afterDelete k)) j = coveredAt rels (if j < k then j else j + 1) := by
  rw [Bool.eq_iff_iff, coveredAt, List.any_map, List.any_eq_true, coveredAt_iff]
  have hno : ∀ r ∈ rels, r.valid → ¬r.Covers k := fun r hr hv hc => by
    rw [coveredAt_iff.mpr ⟨r, hr, hv, hc⟩] at hno
    cases hno
  refine exists_congr fun r => and_congr_right fun hr => ?_
  rw [Function.comp_apply, Bool.and_eq_true, decide_eq_true_eq, RelSlot.valid_afterDelete]
  constructor
  · rintro ⟨⟨hv, hk⟩, hc⟩
    exact ⟨hv, (RelSlot.covers_afterDelete_iff hv (h.aligned r hr hv) hk j).mp hc⟩
  · rintro ⟨hv, hc⟩
    have hk := hno r hr hv
    exact ⟨⟨hv, hk⟩, (RelSlot.covers_afterDelete_iff hv (h.aligned r hr hv) hk j).mpr hc⟩

/-- The marks in front of a deletion stay. -/
theorem markFrom_delete_front (h : RelsApart rels len) (hno : coveredAt rels k = false) {i : ℕ}
    (hle : i + nodes.length ≤ k) :
    markFrom (rels.map (RelSlot.afterDelete k)) i nodes = markFrom rels i nodes :=
  markFrom_congr fun j hj => by rw [coveredAt_afterDelete h hno, if_pos (by omega)]

/-- The marks behind a deletion move with their nodes. -/
theorem markFrom_delete_behind (h : RelsApart rels len) (hno : coveredAt rels k = false) :
    markFrom (rels.map (RelSlot.afterDelete k)) k nodes = markFrom rels (k + 1) nodes :=
  markFrom_congr fun j _ => by
    rw [coveredAt_afterDelete h hno, if_neg (by omega), show k + j + 1 = k + 1 + j by omega]

end Marks

/-- **`in_scope_of_rel`** of two instructions. -/
theorem TB.inScopeOfRel_two {tb : TB ι} {len k : ℕ} (h : RelsApart tb.rels len) (hlen : len < 2 ^ 30)
    (hk : k < 2 ^ 30) :
    tb.inScopeOfRel (BitVec.ofNat 32 k) 2 = (coveredAt tb.rels k || coveredAt tb.rels (k + 1)) := by
  rw [Bool.eq_iff_iff, Bool.or_eq_true, coveredAt_iff, coveredAt_iff, inScopeOfRel, List.any_eq_true,
    ← exists_or]
  refine exists_congr fun r => ?_
  rw [← and_or_left]
  refine and_congr_right fun hr => ?_
  rw [← and_or_left, Bool.and_eq_true]
  refine and_congr_right fun hv => ?_
  have htc := RelSlot.toNat_tcOffset (h.aligned r hr hv)
  have hpos := h.nonempty r hr hv
  have hinside := h.inside r hr hv
  have hstart : (r.rel.tcOffset / 4).toNat = r.first := by
    rw [BitVec.toNat_udiv, htc]
    exact Nat.mul_div_cancel_left _ (by decide)
  have hend : (r.rel.tcOffset / 4 + r.rel.relSlotsNum - 1).toNat = r.first + r.count - 1 := by
    rw [RelSlot.count] at hpos hinside ⊢
    bv_omega
  have hlast : (BitVec.ofNat 32 k + 2 - 1).toNat = k + 1 := by bv_omega
  have hk32 : (BitVec.ofNat 32 k).toNat = k := by bv_omega
  rw [Bool.not_eq_true', Bool.or_eq_false_iff, decide_eq_false_iff_not, decide_eq_false_iff_not,
    BitVec.lt_def, BitVec.lt_def, hstart, hend, hlast, hk32, RelSlot.Covers, RelSlot.Covers]
  omega

end AotOpt
