import AotOpt.Vistor.FixBranch
import AotOpt.Vistor.RemoveNon

/-!
# Removing nops and the targets of branches

The `offs` of a branch counts instructions. `RemoveNonVistor` deletes nops without looking at
it, and `FixBranchVistor`, which runs afterwards, assigns to few of the branches. Every
other branch goes to its old target, or to what is left behind it, only if no nop was
deleted between the branch and its target.

* `targets_kept_iff` — for any block, which branches keep their targets.
* `controlFlow_kept_iff` — the two passes do not stop on an admitted block, and keep the
  control flow of a block if and only if no deleted nop lies between a branch and its target.
-/

namespace AotOpt

open Lib

variable {ι : Type}

namespace TB

/-- The `b` or `bne` of node `a` is at position `p`, and its target, index plus `offs`, is the
instruction at position `q`. -/
def BranchTo (tb : TB ι) (a p q : ℕ) : Prop :=
  ∃ insn, tb.disInsns.nodes[p]? = some ⟨a, insn⟩ ∧ isBOrBne insn.opc ∧
    (q : ℤ) = p + insn.offs.toInt ∧ q < tb.disInsns.nodes.length

/-- The first node from position `q` on that `tb'` still has. -/
def firstRetained (tb tb' : TB ι) (q : ℕ) : Option ℕ :=
  (tb.disInsns.addrs.drop q).find? fun a => a ∈ tb'.disInsns.addrs

end TB

/-- **The control flow of `tb` is kept**: every branch to an instruction, if `FixBranchVistor`
does not retarget it in `tb₁`, goes to that instruction in `tb₂`, or to the first one behind it
that is left. -/
def ControlFlowKept (tb tb₁ tb₂ : TB ι) : Prop :=
  ∀ a p q, tb.BranchTo a p q → ¬FixBranchVistor.Retargets tb₁ a →
    ∃ p' q' c, tb₂.BranchTo a p' q' ∧ tb₂.disInsns.addrs[q']? = some c ∧
      tb.firstRetained tb₂ q = some c

/-- Nothing between positions `p` and `q` is a nop that `RemoveNonVistor` deletes, and not all
from `q` on are. -/
def TB.Unmoved (tb : TB ι) (p q : ℕ) : Prop :=
  (∀ k, min p q ≤ k → k < max p q →
      (RemoveNonVistor.removed tb.rels 0 tb.disInsns.nodes)[k]? = some false) ∧
    ∃ k, q ≤ k ∧ (RemoveNonVistor.removed tb.rels 0 tb.disInsns.nodes)[k]? = some false

/-- No deleted nop lies between a branch that is not retargeted and its target. -/
def TargetsUnmoved (tb tb₁ : TB ι) : Prop :=
  ∀ a p q, tb.BranchTo a p q → ¬FixBranchVistor.Retargets tb₁ a → tb.Unmoved p q

/-! ### What the two passes leave -/

section

variable {tb tb₁ tb₂ : TB ι}

theorem RemoveNonVistor.nodes_of_ok (h : RemoveNonVistor.visit tb = .ok tb₁) :
    tb₁.disInsns.nodes = unmarked (removed tb.rels 0 tb.disInsns.nodes) tb.disInsns.nodes := by
  obtain ⟨tb', hok, -, hnodes⟩ := visit_ok (P := fun _ : TB ι => True)
    (fun _ _ _ _ _ _ => trivial) tb trivial
  rw [hok, Except.ok.injEq] at h
  rw [← h, hnodes]

theorem addrs_of_ok (h₁ : RemoveNonVistor.visit tb = .ok tb₁)
    (h₂ : FixBranchVistor.visit tb₁ = .ok tb₂) : tb₂.disInsns.addrs =
      unmarked (RemoveNonVistor.removed tb.rels 0 tb.disInsns.nodes) tb.disInsns.addrs := by
  rw [(FixBranchVistor.visit_changes h₂).addrs, LinkList.addrs, RemoveNonVistor.nodes_of_ok h₁,
    map_unmarked]
  rfl

/-- A branch that is not retargeted stays as it is, at its rank. -/
theorem branch_of_ok (h₁ : RemoveNonVistor.visit tb = .ok tb₁)
    (h₂ : FixBranchVistor.visit tb₁ = .ok tb₂) {p a : ℕ} {insn : LoongArchInsInfo}
    (hn : tb.disInsns.nodes[p]? = some ⟨a, insn⟩) (hb : isBOrBne insn.opc)
    (ha : ¬FixBranchVistor.Retargets tb₁ a) :
    tb₂.disInsns.nodes[rank (RemoveNonVistor.removed tb.rels 0 tb.disInsns.nodes) p]? =
      some ⟨a, insn⟩ := by
  have hkept := RemoveNonVistor.removed_eq_false tb.rels 0 hn hb
  have hn₁ := (getElem?_unmarked tb.disInsns.nodes hkept).trans hn
  rw [← RemoveNonVistor.nodes_of_ok h₁] at hn₁
  obtain ⟨d, hd, -, hsame⟩ := (FixBranchVistor.visit_changes h₂).nodes _ _ hn₁
  rw [hd, hsame ha]

/-- The first node that is left is the one at the rank. -/
theorem firstRetained_of_ok (h₁ : RemoveNonVistor.visit tb = .ok tb₁)
    (h₂ : FixBranchVistor.visit tb₁ = .ok tb₂) (q : ℕ) : tb.firstRetained tb₂ q =
      tb₂.disInsns.addrs[rank (RemoveNonVistor.removed tb.rels 0 tb.disInsns.nodes) q]? := by
  rw [TB.firstRetained, addrs_of_ok h₁ h₂]
  refine find?_unmarked tb.disInsns.nodup_addrs ?_ q
  rw [RemoveNonVistor.length_removed, LinkList.length_addrs]

/-- There is one if and only if something from `q` on is not deleted. -/
theorem firstRetained_isSome_iff (h₁ : RemoveNonVistor.visit tb = .ok tb₁)
    (h₂ : FixBranchVistor.visit tb₁ = .ok tb₂) (q : ℕ) : (tb.firstRetained tb₂ q).isSome ↔
      ∃ k, q ≤ k ∧ (RemoveNonVistor.removed tb.rels 0 tb.disInsns.nodes)[k]? = some false := by
  have hlen : (RemoveNonVistor.removed tb.rels 0 tb.disInsns.nodes).length =
      tb.disInsns.addrs.length := by
    rw [RemoveNonVistor.length_removed, LinkList.length_addrs]
  rw [TB.firstRetained, List.find?_isSome]
  constructor
  · rintro ⟨a, ha, hleft⟩
    obtain ⟨k, hk⟩ := List.mem_iff_getElem?.mp ha
    rw [List.getElem?_drop] at hk
    rw [decide_eq_true_iff, addrs_of_ok h₁ h₂] at hleft
    exact ⟨q + k, Nat.le_add_right _ _, (mem_unmarked_iff tb.disInsns.nodup_addrs hlen hk).mp hleft⟩
  · rintro ⟨k, hqk, hk⟩
    have hlt := (List.getElem?_eq_some_iff.mp hk).1
    have ha := List.getElem?_eq_getElem (hlen ▸ hlt : k < tb.disInsns.addrs.length)
    refine ⟨tb.disInsns.addrs[k], List.mem_iff_getElem?.mpr ⟨k - q, ?_⟩, ?_⟩
    · rw [List.getElem?_drop, Nat.add_sub_cancel' hqk]
      exact ha
    · rw [decide_eq_true_iff, addrs_of_ok h₁ h₂]
      exact (mem_unmarked_iff tb.disInsns.nodup_addrs hlen ha).mpr hk

/-! ### The targets -/

/-- **One branch** keeps its target if and only if no deleted nop lies between them. -/
theorem target_kept_iff (h₁ : RemoveNonVistor.visit tb = .ok tb₁)
    (h₂ : FixBranchVistor.visit tb₁ = .ok tb₂) {a p q : ℕ} (hb : tb.BranchTo a p q)
    (ha : ¬FixBranchVistor.Retargets tb₁ a) :
    (∃ p' q' c, tb₂.BranchTo a p' q' ∧ tb₂.disInsns.addrs[q']? = some c ∧
      tb.firstRetained tb₂ q = some c) ↔ tb.Unmoved p q := by
  obtain ⟨insn, hn, hopc, hq, hqlt⟩ := hb
  have hn₂ := branch_of_ok h₁ h₂ hn hopc ha
  have hlen := RemoveNonVistor.length_removed tb.disInsns.nodes tb.rels 0
  have hp := (List.getElem?_eq_some_iff.mp hn).1
  rw [TB.Unmoved, ← rank_sub_iff (by omega) (by omega), ← firstRetained_isSome_iff h₁ h₂]
  constructor
  · rintro ⟨p', q', c, ⟨insn', hn', -, hq', -⟩, hc, hfirst⟩
    refine ⟨?_, by rw [hfirst]; rfl⟩
    -- the branch is found at its rank, and its target is what is found at the rank of `q`
    have hp' : tb₂.disInsns.addrs[p']? = some a := LinkList.addrs_of_nodes hn'
    obtain rfl := pos_unique tb₂.disInsns.nodup_addrs hp' (LinkList.addrs_of_nodes hn₂)
    have hinsn : insn' = insn := by
      rw [hn₂, Option.some.injEq, ListNode.mk.injEq] at hn'
      exact hn'.2.symm
    rw [firstRetained_of_ok h₁ h₂] at hfirst
    have htarget := pos_unique tb₂.disInsns.nodup_addrs hc hfirst
    rw [hinsn] at hq'
    omega
  · rintro ⟨hrank, hsome⟩
    obtain ⟨c, hc⟩ := Option.isSome_iff_exists.mp hsome
    have hc' := hc
    rw [firstRetained_of_ok h₁ h₂] at hc'
    refine ⟨_, _, c, ⟨insn, hn₂, hopc, by omega, ?_⟩, hc', hc⟩
    rw [← LinkList.length_addrs]
    exact (List.getElem?_eq_some_iff.mp hc').1

/-- **The branches of a block** keep their targets if and only if no deleted nop lies between a
branch and its target. -/
theorem targets_kept_iff (h₁ : RemoveNonVistor.visit tb = .ok tb₁)
    (h₂ : FixBranchVistor.visit tb₁ = .ok tb₂) :
    ControlFlowKept tb tb₁ tb₂ ↔ TargetsUnmoved tb tb₁ :=
  forall₃_congr fun _ _ _ => forall_congr' fun hb => forall_congr' fun ha =>
    target_kept_iff h₁ h₂ hb ha

end

open DisassmbleVistor in
/-- **Removing nops and fixing branches.** The two passes do not stop on a block that was
disassembled and admitted, whatever its relocations and links. They keep the control flow of
a block if and only if no deleted nop lies between a branch that is not retargeted and its
target. -/
theorem controlFlow_kept_iff :
    (∀ tb : TB ι, tb.Blank → (startTB tb).pipeholeAvailable = true →
      ∃ tb₁ tb₂, RemoveNonVistor.visit (startTB tb) = .ok tb₁ ∧ FixBranchVistor.visit tb₁ = .ok tb₂) ∧
    ∀ tb tb₁ tb₂ : TB ι, RemoveNonVistor.visit tb = .ok tb₁ → FixBranchVistor.visit tb₁ = .ok tb₂ →
      (ControlFlowKept tb tb₁ tb₂ ↔ TargetsUnmoved tb tb₁) := by
  refine ⟨fun tb hblank ha => ?_, fun _ _ _ h₁ h₂ => targets_kept_iff h₁ h₂⟩
  obtain ⟨tb₁, h₁, hg⟩ := RemoveNonVistor.guarded_visit (guarded_startTB hblank ha)
  obtain ⟨tb₂, h₂⟩ := FixBranchVistor.visit_ok (.of_guarded hg)
  exact ⟨tb₁, tb₂, h₁, h₂⟩

/-! ### A branch over a nop -/

section BranchOverNop

open DisassmbleVistor

/-- A disassembled block of a `b` over a `nop` to an `addi.d`, without valid slots. -/
def branchOverNop : TB ℕ :=
  startTB (.new { (default : AOTTB) with jmpResetOffsets := fun _ => TB_JMP_RESET_OFFSET_INVALID }
    ⟨12, [0x50000800, 0x03400000, 0x02c00084], rfl⟩ 0)

theorem nodes_branchOverNop : branchOverNop.disInsns.nodes =
    [⟨0, disassemble 0x50000800⟩, ⟨1, disassemble 0x03400000⟩, ⟨2, disassemble 0x02c00084⟩] := by
  show (visit _).disInsns.nodes = _
  rw [nodes_visit]
  rfl

/-- The two passes over this block. -/
theorem controlFlow_branchOverNop_iff : ∃ tb₁ tb₂, RemoveNonVistor.visit branchOverNop = .ok tb₁ ∧
    FixBranchVistor.visit tb₁ = .ok tb₂ ∧
      (ControlFlowKept branchOverNop tb₁ tb₂ ↔ TargetsUnmoved branchOverNop tb₁) := by
  obtain ⟨tb₁, tb₂, h₁, h₂⟩ := controlFlow_kept_iff.1 _ (TB.blank_new _ _ _)
    (show branchOverNop.pipeholeAvailable = true by decide)
  exact ⟨tb₁, tb₂, h₁, h₂, controlFlow_kept_iff.2 _ _ _ h₁ h₂⟩

/-- The `nop` is deleted and the `b` keeps its `offs`, so that it goes behind the end. -/
theorem controlFlow_not_kept : branchOverNop.pipeholeAvailable = true ∧
    ∃ tb₁ tb₂, RemoveNonVistor.visit branchOverNop = .ok tb₁ ∧
      FixBranchVistor.visit tb₁ = .ok tb₂ ∧ ¬ControlFlowKept branchOverNop tb₁ tb₂ := by
  have ha : branchOverNop.pipeholeAvailable = true := by decide
  have hinvalid : ∀ (tb : TB ℕ) (q : ℕ) (n : ListNode LoongArchInsInfo),
      (∀ j, tb.originAotTb.slotValid j = false) → tb.disInsns.nodes[q]? = some n →
        RemoveNonVistor.isNop n.data →
          ∀ j, (tb.deleteAt n (BitVec.ofNat 64 q)).originAotTb.slotValid j = false :=
    fun _ _ _ h _ _ => h
  obtain ⟨tb₁, h₁, hv, -⟩ := RemoveNonVistor.visit_ok hinvalid branchOverNop
    (fun j => by rw [branchOverNop, startTB]; dsimp only; rw [originAotTb_visit]; rfl)
  obtain ⟨tb', h₁', hg⟩ := RemoveNonVistor.guarded_visit (guarded_startTB (TB.blank_new _ _ _) ha)
  obtain rfl : tb₁ = tb' := Except.ok.inj (h₁.symm.trans h₁')
  obtain ⟨tb₂, h₂⟩ := FixBranchVistor.visit_ok (.of_guarded hg)
  refine ⟨ha, tb₁, tb₂, h₁, h₂, fun hkept => ?_⟩
  have hbranch : branchOverNop.BranchTo 0 0 2 := by
    refine ⟨disassemble 0x50000800, ?_, by decide, by decide, ?_⟩
    · rw [nodes_branchOverNop]
      rfl
    · rw [nodes_branchOverNop]
      decide
  have hno : ¬FixBranchVistor.Retargets tb₁ 0 := by
    rintro (⟨h0, -⟩ | ⟨k, -, -, hk, -⟩)
    · rw [hv] at h0
      cases h0
    · rw [hv] at hk
      cases hk
  have hunmoved := ((targets_kept_iff h₁ h₂).mp hkept 0 0 2 hbranch hno).1 1 (by decide) (by decide)
  rw [nodes_branchOverNop] at hunmoved
  exact absurd hunmoved (by decide)

end BranchOverNop

end AotOpt
