import AotOpt.AotClass.Edit
import AotOpt.Lib.Run
import AotOpt.Vistor.DisThenAs

/-!
# The jump slots along edits

A block has two jump slots, each with two byte offsets into the code: `jmp_target_arg`, the
branch of the slot, and `jmp_reset_offsets`. An edit moves the first like every other
position (`slotIndex_shiftSlotsDelete`, `slotIndex_shiftSlotsAdd`), and leaves the second as
it is, so that it denotes its instruction only as long as no edit moves that instruction.

* `resetOffsets_along_edits` — after every step of a run of edits each reset offset denotes
  its instruction, as long as that is there, if and only if no step inserts an instruction
  at or in front of it or deletes instructions in front of it.
-/

namespace AotOpt

open Lib

variable {ι : Type}

/-! ### Slots by instruction index -/

namespace AOTTB

/-- `jmp_target_arg[j] / 4`. -/
def slotIndex (t : AOTTB) (j : Fin 2) : ℕ := (t.jmpTargetArg j).toNat / 4

/-- `jmp_reset_offsets[j] / 4`. -/
def resetIndex (t : AOTTB) (j : Fin 2) : ℕ := (t.jmpResetOffsets j).toNat / 4

/-- `jmp_target_arg[j] >> 2`. -/
theorem jmpTargetArg_shift (t : AOTTB) (j : Fin 2) :
    t.jmpTargetArg j >>> 2 = BitVec.ofNat 64 (t.slotIndex j) := by
  refine BitVec.eq_of_toNat_eq ?_
  have := (t.jmpTargetArg j).isLt
  rw [BitVec.toNat_ushiftRight, Nat.shiftRight_eq_div_pow, BitVec.toNat_ofNat, slotIndex,
    Nat.mod_eq_of_lt (by omega)]

end AOTTB

namespace TB

variable {t : AOTTB} {offset : BitVec 64} {k : ℕ} {j : Fin 2}

@[simp] theorem jmpResetOffsets_shiftSlotsDelete :
    (shiftSlotsDelete offset t).jmpResetOffsets = t.jmpResetOffsets := rfl

@[simp] theorem jmpResetOffsets_shiftSlotsAdd :
    (shiftSlotsAdd offset t).jmpResetOffsets = t.jmpResetOffsets := rfl

@[simp] theorem slotValid_shiftSlotsDelete :
    (shiftSlotsDelete offset t).slotValid j = t.slotValid j := rfl

@[simp] theorem slotValid_shiftSlotsAdd :
    (shiftSlotsAdd offset t).slotValid j = t.slotValid j := rfl

/-- A deletion of another instruction moves the branch of a slot as it moves the
instruction. -/
theorem slotIndex_shiftSlotsDelete (hoff : offset.toNat = 4 * k) (hv : t.slotValid j)
    (hne : t.slotIndex j ≠ k) :
    (shiftSlotsDelete offset t).slotIndex j = shiftDel k (t.slotIndex j) := by
  have h4 : (4 : BitVec 64).toNat = 4 := rfl
  have hgt : t.jmpTargetArg j > offset ↔ k < t.slotIndex j := by
    rw [gt_iff_lt, BitVec.lt_def, hoff, AOTTB.slotIndex]
    rw [AOTTB.slotIndex] at hne
    omega
  rw [AOTTB.slotIndex, shiftSlotsDelete]
  simp only [hv, Bool.true_and, decide_eq_true_eq]
  split_ifs with h
  · have hk := hgt.mp h
    rw [shiftDel_of_lt hk, BitVec.toNat_sub, h4]
    rw [AOTTB.slotIndex] at hk ⊢
    have := (t.jmpTargetArg j).isLt
    omega
  · rw [shiftDel_of_le (not_lt.mp fun hk => h (hgt.mpr hk)), AOTTB.slotIndex]

/-- An insertion moves the branch of a slot as it moves the instruction. -/
theorem slotIndex_shiftSlotsAdd (hoff : offset.toNat = 4 * k) (hv : t.slotValid j)
    (hlt : t.slotIndex j < 2 ^ 61) :
    (shiftSlotsAdd offset t).slotIndex j = shiftIns k (t.slotIndex j) := by
  have h4 : (4 : BitVec 64).toNat = 4 := rfl
  have hge : t.jmpTargetArg j ≥ offset ↔ k ≤ t.slotIndex j := by
    rw [ge_iff_le, BitVec.le_def, hoff, AOTTB.slotIndex]
    omega
  rw [AOTTB.slotIndex, shiftSlotsAdd]
  simp only [hv, Bool.true_and, decide_eq_true_eq]
  split_ifs with h
  · rw [shiftIns_of_le (hge.mp h), BitVec.toNat_add, h4]
    rw [AOTTB.slotIndex] at hlt ⊢
    omega
  · rw [shiftIns_of_lt (not_le.mp fun hk => h (hge.mpr hk)), AOTTB.slotIndex]

end TB

/-! ### What an edit does to the nodes -/

namespace Edit

/-- The position of the node a pointer points to. -/
def posOf (tb : TB ι) : Ptr → ℕ
  | .node a => tb.disInsns.pos a
  | _ => 0

/-- The position of the first instruction that the edit deletes, and how many it deletes. -/
def deleted (tb : TB ι) : Edit → ℕ × ℕ
  | .deleteIthInsn p i => if tb.rels.any (·.hit (i <<< 2)) then (0, 0) else (posOf tb p, 1)
  | .deleteIthInsnAlongwithRel p _ => (posOf tb p, 1)
  | .deleteIthRel i =>
    match tb.rels[i.toNat]? with
    | some r => if r.valid then ((r.rel.tcOffset >>> 2).toNat, r.rel.relSlotsNum.toNat) else (0, 0)
    | none => (0, 0)
  | _ => (0, 0)

end Edit

/-- The parts of a block that the reset offsets are about. -/
structure SameSlots (tb tb' : TB ι) : Prop where
  fresh_le : tb.disInsns.fresh ≤ tb'.disInsns.fresh
  resetOffsets : tb'.originAotTb.jmpResetOffsets = tb.originAotTb.jmpResetOffsets

theorem SameSlots.trans {tb tb' tb'' : TB ι} (h : SameSlots tb tb') (h' : SameSlots tb' tb'') :
    SameSlots tb tb'' :=
  ⟨h.fresh_le.trans h'.fresh_le, h'.resetOffsets.trans h.resetOffsets⟩

theorem TB.deleteRun_addrs {q : ℕ} {i : BitVec 64} {p : Ptr} {tb' : TB ι} :
    ∀ {count : ℕ} {tb : TB ι},
      tb.deleteRun (.first (tb.disInsns.nodes.drop q)) i count = .ok (p, tb') →
        SameSlots tb tb' ∧ tb'.disInsns.addrs = cut tb.disInsns.addrs q count
  | 0, tb, h => by
    rw [deleteRun, Except.ok.injEq, Prod.mk.injEq] at h
    obtain ⟨-, rfl⟩ := h
    exact ⟨⟨le_rfl, rfl⟩, (cut_zero _ _).symm⟩
  | count + 1, tb, h => by
    obtain ⟨n, hn, h⟩ := tb.deleteRun_eq_ok.mp h
    obtain ⟨hs, hcut⟩ := deleteRun_addrs h
    have hq : q < tb.disInsns.addrs.length := by
      rw [LinkList.length_addrs]
      exact (List.getElem?_eq_some_iff.mp hn).1
    have h1 : SameSlots tb (tb.deleteAt n i) := ⟨le_rfl, rfl⟩
    refine ⟨h1.trans hs, ?_⟩
    rw [hcut, disInsns_deleteAt, LinkList.addrs_remove (LinkList.addrs_of_nodes hn),
      cut_eraseIdx hq]

theorem Edit.Step.delete_addrs {tb tb' : TB ι} {p q : Ptr} {i : BitVec 64}
    (h : tb.deleteIthInsnAlongwithRel p i = .ok (q, tb')) :
    SameSlots tb tb' ∧ tb'.disInsns.addrs = cut tb.disInsns.addrs (Edit.posOf tb p) 1 := by
  obtain ⟨k, n, hn, rfl, -, rfl⟩ := tb.deleteIthInsnAlongwithRel_eq_ok.mp h
  refine ⟨⟨le_rfl, rfl⟩, ?_⟩
  rw [TB.disInsns_deleteAt, LinkList.addrs_remove (LinkList.addrs_of_nodes hn), cut_one,
    Edit.posOf, LinkList.pos_of_nodes hn]

theorem Edit.Step.add_addrs {tb tb' : TB ι} {p q : Ptr} {insn : LoongArchInsInfo}
    {index : BitVec 32} (h : tb.addInsn p insn index = .ok (q, tb')) :
    SameSlots tb tb' ∧ ∃ k, tb.disInsns.posAfter p = some k ∧
      tb'.disInsns.addrs = tb.disInsns.addrs.insertIdx k tb.disInsns.fresh := by
  obtain ⟨-, k, hk, -, rfl⟩ := tb.addInsn_eq_ok.mp h
  exact ⟨⟨Nat.le_succ _, rfl⟩, k, hk, LinkList.addrs_insertAt _ _⟩

/-- **Every edit** that does not stop inserts a new node, or cuts out some nodes that
stand one behind the other. -/
theorem Edit.Step.cases {tb tb' : TB ι} {e : Edit} (h : Edit.Step tb e tb') :
    SameSlots tb tb' ∧
      ((∃ k, e.insertPos tb = some k ∧ (e.deleted tb).2 = 0 ∧
          tb'.disInsns.addrs = tb.disInsns.addrs.insertIdx k tb.disInsns.fresh) ∨
        (e.insertPos tb = none ∧
          tb'.disInsns.addrs = cut tb.disInsns.addrs (e.deleted tb).1 (e.deleted tb).2)) := by
  cases e with
  | addInsn p insn index =>
    obtain ⟨⟨q, tb₁⟩, hok, rfl⟩ := map_eq_ok.mp h
    obtain ⟨hs, k, hk, ha⟩ := Edit.Step.add_addrs hok
    exact ⟨hs, .inl ⟨k, hk, rfl, ha⟩⟩
  | addInsnAtTail insn index =>
    obtain ⟨⟨q, tb₁⟩, hok, rfl⟩ := map_eq_ok.mp h
    obtain ⟨hs, k, hk, ha⟩ := Edit.Step.add_addrs hok
    exact ⟨hs, .inl ⟨k, hk, rfl, ha⟩⟩
  | deleteIthInsn p i =>
    obtain ⟨⟨q, tb₁⟩, hok, rfl⟩ := map_eq_ok.mp h
    rcases tb.deleteIthInsn_eq_ok.mp hok with ⟨hhit, -, rfl⟩ | ⟨hhit, hok⟩
    · refine ⟨⟨le_rfl, rfl⟩, .inr ⟨rfl, ?_⟩⟩
      rw [Edit.deleted, if_pos hhit, cut_zero]
    · obtain ⟨hs, ha⟩ := Edit.Step.delete_addrs hok
      refine ⟨hs, .inr ⟨rfl, ?_⟩⟩
      rw [Edit.deleted, if_neg (by simp [hhit])]
      exact ha
  | deleteIthInsnAlongwithRel p i =>
    obtain ⟨⟨q, tb₁⟩, hok, rfl⟩ := map_eq_ok.mp h
    obtain ⟨hs, ha⟩ := Edit.Step.delete_addrs hok
    exact ⟨hs, .inr ⟨rfl, ha⟩⟩
  | deleteIthRel i =>
    obtain ⟨⟨q, tb₁⟩, hok, rfl⟩ := map_eq_ok.mp h
    obtain ⟨r, hr, ⟨hv, rfl⟩ | ⟨hv, p, -, hrun⟩⟩ := tb.deleteIthRel_eq_ok hok
    · refine ⟨⟨le_rfl, rfl⟩, .inr ⟨rfl, ?_⟩⟩
      simp [Edit.deleted, hr, hv, cut_zero]
    · obtain ⟨hs, ha⟩ := TB.deleteRun_addrs hrun
      refine ⟨hs, .inr ⟨rfl, ?_⟩⟩
      simp only [Edit.deleted, hr, hv, if_true]
      exact ha

/-! ### The reset offsets -/

/-- Each valid reset offset of `tb` denotes the node it denoted in `tb₀`, as long as that
is in the list. -/
structure ResetDenotes (tb₀ tb : TB ι) : Prop extends SameSlots tb₀ tb where
  denotes : ∀ j, tb.originAotTb.slotValid j → ∀ a : ℕ,
    tb₀.disInsns.addrs[tb₀.originAotTb.resetIndex j]? = some a → a ∈ tb.disInsns.addrs →
      tb.disInsns.addrs[tb.originAotTb.resetIndex j]? = some a

/-- The edit inserts nothing at position `k` or in front of it, and deletes nothing in
front of it without deleting it too. -/
def Edit.KeepsPlace (tb : TB ι) (e : Edit) (k : ℕ) : Prop :=
  (∀ p, e.insertPos tb = some p → k < p) ∧
    ((e.deleted tb).2 = 0 ∨ k < (e.deleted tb).1 + (e.deleted tb).2)

/-- The edit keeps every node in place that a valid reset offset denoted in `tb₀` and
that is still in the list. -/
def Edit.KeepsResets (tb₀ tb : TB ι) (e : Edit) : Prop :=
  ∀ j, tb.originAotTb.slotValid j → ∀ a : ℕ,
    tb₀.disInsns.addrs[tb₀.originAotTb.resetIndex j]? = some a → a ∈ tb.disInsns.addrs →
      e.KeepsPlace tb (tb.originAotTb.resetIndex j)

/-- **One edit** keeps the reset offsets right if and only if it keeps their nodes in
place. -/
theorem Edit.Step.resetDenotes_iff {tb₀ tb tb' : TB ι} {e : Edit} (h : ResetDenotes tb₀ tb)
    (hs : Edit.Step tb e tb') : ResetDenotes tb₀ tb' ↔ e.KeepsResets tb₀ tb := by
  obtain ⟨hsame, hcases⟩ := hs.cases
  have hvalid : ∀ j, tb'.originAotTb.slotValid j = tb.originAotTb.slotValid j := fun j => by
    rw [AOTTB.slotValid, AOTTB.slotValid, hsame.resetOffsets]
  have hindex : ∀ j, tb'.originAotTb.resetIndex j = tb.originAotTb.resetIndex j := fun j => by
    rw [AOTTB.resetIndex, AOTTB.resetIndex, hsame.resetOffsets]
  -- what is asked of one slot
  have hone : ∀ j, tb.originAotTb.slotValid j → ∀ a : ℕ,
      tb₀.disInsns.addrs[tb₀.originAotTb.resetIndex j]? = some a →
        ((a ∈ tb'.disInsns.addrs → tb'.disInsns.addrs[tb.originAotTb.resetIndex j]? = some a) ↔
          (a ∈ tb.disInsns.addrs → e.KeepsPlace tb (tb.originAotTb.resetIndex j))) := by
    intro j hj a ha
    have hfresh : a < tb.disInsns.fresh := by
      obtain ⟨n, hn, rfl⟩ := List.mem_map.mp (List.mem_of_getElem? ha)
      exact (tb₀.disInsns.lt_fresh n hn).trans_le h.fresh_le
    have hgone : a ∉ tb.disInsns.addrs → a ∉ tb'.disInsns.addrs := by
      intro hn
      rcases hcases with ⟨k, -, -, haddrs⟩ | ⟨-, haddrs⟩ <;> rw [haddrs]
      · intro hm
        rcases List.eq_or_mem_of_mem_insertIdx hm with rfl | hm
        · exact absurd hfresh (lt_irrefl _)
        · exact hn hm
      · intro hm
        rcases List.mem_append.mp hm with hm | hm
        · exact hn (List.mem_of_mem_take hm)
        · exact hn (List.mem_of_mem_drop hm)
    by_cases hm : a ∈ tb.disInsns.addrs
    · have hat := h.denotes j hj a ha hm
      simp only [hm, true_implies]
      rcases hcases with ⟨k, hpos, hdel, haddrs⟩ | ⟨hpos, haddrs⟩
      · have hm' : a ∈ tb'.disInsns.addrs := by
          rw [haddrs]
          have h' := getElem?_insertIdx_shift tb.disInsns.addrs tb.disInsns.fresh k
            (tb.originAotTb.resetIndex j)
          rw [hat] at h'
          exact List.mem_of_getElem? h'
        have hnd := tb'.disInsns.nodup_addrs
        simp only [hm', true_implies]
        rw [haddrs] at hnd ⊢
        rw [insertIdx_stays_iff hnd hat]
        simp [Edit.KeepsPlace, hpos, hdel]
      · rw [haddrs, cut_stays_iff tb.disInsns.nodup_addrs hat]
        simp [Edit.KeepsPlace, hpos]
    · simp [hm, hgone hm]
  constructor
  · intro h' j hj a ha
    refine (hone j hj a ha).mp fun hm => ?_
    rw [← hindex j]
    exact h'.denotes j ((hvalid j).trans hj) a ha hm
  · intro hk
    refine ⟨h.toSameSlots.trans hsame, fun j hj a ha hm => ?_⟩
    rw [hvalid j] at hj
    rw [hindex j]
    exact (hone j hj a ha).mpr (hk j hj a ha) hm

/-- **The reset offsets along edits**: they denote their instructions after every step of
a run of edits if and only if every step keeps these instructions in place. -/
theorem resetOffsets_along_edits (tb : TB ι) (es : List Edit) :
    AllStates Edit.Step (ResetDenotes tb) tb es ↔ AllSteps Edit.Step (Edit.KeepsResets tb) tb es :=
  allStates_iff_allSteps (B := fun _ _ => True) (fun _ _ _ _ h hs => hs.resetDenotes_iff h)
    (AllSteps.of_forall fun _ _ => trivial)
    ⟨⟨le_rfl, rfl⟩, fun _ _ _ ha _ => ha⟩

open DisassmbleVistor in
/-- Deleting the `nop` in front of the `b` leaves the reset offset of slot 0 behind the
`b`. -/
theorem resetOffsets_wrong_after_delete :
    let aotTb : AOTTB :=
      { (default : AOTTB) with jmpResetOffsets := fun j => if j = 0 then 4 else 0xffff }
    ¬AllStates Edit.Step (ResetDenotes (nopThenB aotTb)) (nopThenB aotTb)
      [.deleteIthInsn (.node 0) 0] := by
  intro aotTb h
  have hnode : (nopThenB aotTb).disInsns.nodes[0]? = some ⟨0, disassemble 0x03400000⟩ := by
    rw [nodes_nopThenB]; rfl
  have hhit : (nopThenB aotTb).rels.any (·.hit ((0 : BitVec 64) <<< 2)) = false := by
    rw [nopThenB, rels_visit]; rfl
  have horigin : (nopThenB aotTb).originAotTb = aotTb := originAotTb_visit _
  have hdel : (nopThenB aotTb).deleteIthInsn (.node 0) 0 = .ok (_, _) :=
    ((nopThenB aotTb).deleteIthInsn_eq_ok).mpr <| .inr ⟨hhit,
      (nopThenB aotTb).deleteIthInsnAlongwithRel_eq_ok.mpr ⟨0, _, hnode, rfl, rfl, rfl⟩⟩
  have hs : Edit.Step (nopThenB aotTb) (.deleteIthInsn (.node 0) 0) _ :=
    map_eq_ok.mpr ⟨_, hdel, rfl⟩
  have hkeep := (hs.resetDenotes_iff h.head).mp (h.2 _ hs)
  have hindex : aotTb.resetIndex 0 = 1 := by decide
  have hplace := hkeep 0 (by rw [horigin]; decide) 1
    (by rw [horigin, hindex, LinkList.getElem?_addrs, nodes_nopThenB]; rfl)
    (by rw [LinkList.addrs, nodes_nopThenB]; simp)
  rw [Edit.KeepsPlace, Edit.deleted, if_neg (by rw [hhit]; decide), Edit.posOf, horigin,
    LinkList.pos_of_nodes hnode, hindex] at hplace
  exact absurd hplace.2 (by decide)

end AotOpt
