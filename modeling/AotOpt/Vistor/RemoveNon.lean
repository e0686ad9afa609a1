import AotOpt.AotClass.Guarded
import AotOpt.AotClass.Relocations
import AotOpt.Lib.Keep

/-!
# Removing the nops

`RemoveNonVistor::visit`: every `andi $zero, $zero, 0` is handed to `delete_ith_insn`, which
keeps those that a relocation covers.

* `removed_iff` — which nops are deleted, told from the relocations before the pass.
* `visit_ok` — the pass does not stop, leaves the instructions that are not marked, and
  keeps what each deletion keeps.
* `guarded_visit`, `ordered_visit` — it keeps the branches that the passes rely on.
-/

namespace AotOpt.RemoveNonVistor

open Lib

variable {ι : Type}

/-- The test for a nop. -/
def isNop (insn : LoongArchInsInfo) : Bool :=
  insn.opc = .OPC_ANDI && insn.dstReg = 0 && insn.srcsRegs 0 = 0 && insn.ui = 0

/-- The loop of `visit`: `iter` points to the first of the nodes, and they are what follows
in the list. -/
def loop (tb : TB ι) (i : BitVec 64) : List (ListNode LoongArchInsInfo) → Res (TB ι)
  | [] => .ok tb
  | iter :: nodes =>
    if isNop iter.data then do
      let (next, tb) ← tb.deleteIthInsn (.node iter.addr) i
      -- when `next` is `iter`, the instruction was kept
      if next = .node iter.addr then loop tb (i + 1) nodes else loop tb i nodes
    else loop tb (i + 1) nodes

/-- `visit`. -/
def visit (tb : TB ι) : Res (TB ι) := loop tb 0 tb.disInsns.nodes

/-! ### What is left -/

/-- Which instructions are deleted: the nops that no relocation covers, when their turn comes
and the relocations behind the deleted ones have moved. -/
def removed (rels : List RelSlot) (i : BitVec 64) : List (ListNode LoongArchInsInfo) → List Bool
  | [] => []
  | iter :: nodes =>
    if isNop iter.data && !rels.any (·.hit (i <<< 2)) then
      true :: removed (TB.shiftRelsDelete (i <<< 2) rels) i nodes
    else false :: removed rels (i + 1) nodes

theorem length_removed : ∀ (nodes : List (ListNode LoongArchInsInfo)) (rels : List RelSlot)
    (i : BitVec 64), (removed rels i nodes).length = nodes.length
  | [], _, _ => rfl
  | iter :: nodes, rels, i => by
    rw [removed]
    split_ifs
    · rw [List.length_cons, length_removed nodes, List.length_cons]
    · rw [List.length_cons, length_removed nodes, List.length_cons]

theorem opc_of_isNop {insn : LoongArchInsInfo} (h : isNop insn) : insn.opc = .OPC_ANDI := by
  simp only [isNop, Bool.and_eq_true, decide_eq_true_eq] at h
  exact h.1.1.1

/-- The branches are never deleted. -/
theorem removed_eq_false : ∀ {nodes : List (ListNode LoongArchInsInfo)} (rels : List RelSlot)
    (i : BitVec 64) {k : ℕ} {n : ListNode LoongArchInsInfo}, nodes[k]? = some n →
      isBOrBne n.data.opc → (removed rels i nodes)[k]? = some false
  | iter :: nodes, rels, i, 0, n, hn, hs => by
    obtain rfl : iter = n := by simpa using hn
    rw [removed, if_neg, List.getElem?_cons_zero]
    intro h
    rw [Bool.and_eq_true] at h
    rw [opc_of_isNop h.1] at hs
    cases hs
  | iter :: nodes, rels, i, k + 1, n, hn, hs => by
    rw [List.getElem?_cons_succ] at hn
    rw [removed]
    split_ifs
    · exact removed_eq_false _ _ hn hs
    · exact removed_eq_false _ _ hn hs
  | [], _, _, _, _, hn, _ => by simp at hn

/-- A relocation that does not cover a deleted instruction covers, of what follows, the same
instructions as before. -/
theorem covers_afterDelete {r : RelSlot} {i k : ℕ} (hal : r.valid → r.rel.tcOffset.toNat % 4 = 0)
    (hno : r.valid → ¬r.Covers i) : ((r.afterDelete i).valid → ¬(r.afterDelete i).Covers (i + k)) ↔
      (r.valid → ¬r.Covers (i + (k + 1))) := by
  by_cases hv : r.valid
  · have hcount : (r.afterDelete i).count = r.count := by
      unfold RelSlot.afterDelete
      split_ifs <;> rfl
    have hcovers : (r.afterDelete i).Covers (i + k) ↔ r.Covers (i + (k + 1)) := by
      have hno := hno hv
      rw [RelSlot.Covers, RelSlot.first_afterDelete hv (hal hv), RelSlot.count_afterDelete,
        RelSlot.Covers, shiftDel]
      rw [RelSlot.Covers] at hno
      split_ifs <;> omega
    rw [RelSlot.valid_afterDelete, hcovers]
    simp [hv, hno hv]
  · have hv' : ¬(r.afterDelete i).valid = true := fun h => hv (RelSlot.valid_afterDelete.mp h).1
    simp [hv, hv']

/-- **Which nops are deleted**: with relocations as they should be, the nops that none of them
covers before the pass. -/
theorem removed_iff : ∀ {nodes : List (ListNode LoongArchInsInfo)} {rels : List RelSlot} {i len : ℕ},
    RelsOk rels len → i + nodes.length ≤ len → len < 2 ^ 30 → ∀ k,
      (removed rels (BitVec.ofNat 64 i) nodes)[k]? = some true ↔
        ∃ n, nodes[k]? = some n ∧ isNop n.data ∧ ∀ r ∈ rels, r.valid → ¬r.Covers (i + k)
  | [], _, _, _, _, _, _, _ => by simp [removed]
  | iter :: nodes, rels, i, len, hrels, hle, hlen, k => by
    rw [List.length_cons] at hle
    have hoff := toNat_offset64 (show i < 2 ^ 30 by omega)
    have hany : rels.any (·.hit (BitVec.ofNat 64 i <<< 2)) = false ↔
        ∀ r ∈ rels, r.valid → ¬r.Covers i := by
      rw [List.any_eq_false]
      refine forall₂_congr fun r hr => ?_
      rw [hrels.relsApart.hit_iff hlen hoff hr, not_and]
    have hnext : BitVec.ofNat 64 i + 1 = BitVec.ofNat 64 (i + 1) := (BitVec.ofNat_add _ _).symm
    rw [removed]
    split_ifs with hdel
    · rw [Bool.and_eq_true, Bool.not_eq_true'] at hdel
      have hno := hany.mp hdel.2
      cases k with
      | zero => simpa [hdel.1] using hno
      | succ k =>
        have hrels' := hrels.delete (show i < len by omega)
        rw [← hrels.relsApart.delete_eq hlen hoff, TB.dropRel_eq_self hdel.2] at hrels'
        rw [List.getElem?_cons_succ, List.getElem?_cons_succ,
          removed_iff hrels' (by omega) (by omega), ← TB.dropRel_eq_self hdel.2,
          hrels.relsApart.delete_eq hlen hoff, TB.dropRel_eq_self hdel.2]
        simp only [List.forall_mem_map]
        refine exists_congr fun n => and_congr_right fun _ => and_congr_right fun _ =>
          forall₂_congr fun r hr => covers_afterDelete (hrels.aligned r hr) (hno r hr)
    · cases k with
      | zero =>
        simp only [List.getElem?_cons_zero, Option.some.injEq, Bool.false_eq_true, false_iff]
        rintro ⟨n, rfl, hnop, hno⟩
        rw [hnop, hany.mpr hno] at hdel
        exact hdel rfl
      | succ k =>
        rw [List.getElem?_cons_succ, List.getElem?_cons_succ, hnext,
          removed_iff hrels (by omega) hlen]
        have hk : i + 1 + k = i + (k + 1) := by omega
        rw [hk]

section Loop

variable {P : TB ι → Prop}

/-- One turn of the loop on a nop that is deleted: `iter` moves on, `i` does not. -/
theorem loop_delete {tb : TB ι} {pre nodes : List (ListNode LoongArchInsInfo)}
    {iter : ListNode LoongArchInsInfo} {i : BitVec 64} (hnodes : tb.disInsns.nodes = pre ++ iter :: nodes)
    (hnop : isNop iter.data) (hhit : tb.rels.any (·.hit (i <<< 2)) = false) :
    loop tb i (iter :: nodes) = loop (tb.deleteAt iter i) i nodes := by
  have hdel : tb.deleteIthInsn (.node iter.addr) i = .ok (.first nodes, tb.deleteAt iter i) := by
    refine tb.deleteIthInsn_eq_ok.mpr (.inr ⟨hhit, tb.deleteIthInsnAlongwithRel_eq_ok.mpr
      ⟨pre.length, iter, LinkList.nodes_mid hnodes, rfl, ?_, rfl⟩⟩)
    rw [← LinkList.next_of_nodes (LinkList.nodes_mid hnodes), LinkList.next_mid hnodes]
  have hne : Ptr.first nodes ≠ .node iter.addr := by
    have hd := tb.disInsns.nodup
    rw [hnodes, List.map_append, List.map_cons, List.nodup_middle, List.nodup_cons, List.mem_append,
      not_or] at hd
    cases nodes with
    | nil => rintro ⟨⟩
    | cons m ms =>
      rw [Ptr.first, ne_eq, Ptr.node.injEq]
      intro e
      exact hd.1.2 (List.mem_map.mpr ⟨m, List.mem_cons_self, e⟩)
  rw [loop, if_pos hnop, hdel, ok_bind]
  dsimp only
  rw [if_neg hne]

/-- One turn of the loop on a nop that a relocation covers. -/
theorem loop_keep {tb : TB ι} {nodes : List (ListNode LoongArchInsInfo)}
    {iter : ListNode LoongArchInsInfo} {i : BitVec 64}
    (h : isNop iter.data = false ∨ tb.rels.any (·.hit (i <<< 2)) = true) :
    loop tb i (iter :: nodes) = loop tb (i + 1) nodes := by
  rw [loop]
  split_ifs with hnop
  · have hhit := h.resolve_left (by simp [hnop])
    rw [tb.deleteIthInsn_eq_ok.mpr (.inl ⟨hhit, rfl, rfl⟩), ok_bind]
    dsimp only
    rw [if_pos rfl]
  · rfl

/-- **The loop** from a position on does not stop, leaves what is not marked, and keeps what
each deletion of a nop keeps. -/
theorem loop_ok (hP : ∀ (tb : TB ι) (q : ℕ) (n : ListNode LoongArchInsInfo), P tb →
      tb.disInsns.nodes[q]? = some n → isNop n.data → P (tb.deleteAt n (BitVec.ofNat 64 q))) :
    ∀ (nodes pre : List (ListNode LoongArchInsInfo)) {tb : TB ι},
      P tb → tb.disInsns.nodes = pre ++ nodes →
        ∃ tb', loop tb (BitVec.ofNat 64 pre.length) nodes = .ok tb' ∧ P tb' ∧
          tb'.disInsns.nodes =
            pre ++ unmarked (removed tb.rels (BitVec.ofNat 64 pre.length) nodes) nodes
  | [], _, tb, h, hnodes => ⟨tb, rfl, h, hnodes⟩
  | iter :: nodes, pre, tb, h, hnodes => by
    by_cases hdel : (isNop iter.data &&
        !tb.rels.any (·.hit (BitVec.ofNat 64 pre.length <<< 2))) = true
    · rw [Bool.and_eq_true, Bool.not_eq_true'] at hdel
      obtain ⟨hnop, hhit⟩ := hdel
      obtain ⟨tb', hok, hP', hnodes'⟩ := loop_ok hP nodes pre
        (hP tb _ iter h (LinkList.nodes_mid hnodes) hnop) (LinkList.nodes_remove_mid hnodes)
      refine ⟨tb', (loop_delete hnodes hnop hhit).trans hok, hP', ?_⟩
      rw [hnodes', removed, if_pos (by rw [hnop, hhit]; rfl), TB.rels_deleteAt,
        TB.dropRel_eq_self hhit]
      rfl
    · have hnext : BitVec.ofNat 64 pre.length + 1 = BitVec.ofNat 64 (pre ++ [iter]).length := by
        rw [List.length_append, BitVec.ofNat_add]
        rfl
      obtain ⟨tb', hok, hP', hnodes'⟩ := loop_ok hP nodes (pre ++ [iter]) h
        (by rw [hnodes, List.append_assoc]; rfl)
      refine ⟨tb', ?_, hP', ?_⟩
      · rw [loop_keep (by simpa [Classical.or_iff_not_imp_left] using hdel), hnext]
        exact hok
      · rw [hnodes', removed, if_neg hdel, hnext, List.append_assoc]
        rfl

/-- **`visit`** does not stop, leaves what is not marked, and keeps what each deletion of a
nop keeps. -/
theorem visit_ok (hP : ∀ (tb : TB ι) (q : ℕ) (n : ListNode LoongArchInsInfo), P tb →
      tb.disInsns.nodes[q]? = some n → isNop n.data → P (tb.deleteAt n (BitVec.ofNat 64 q)))
    (tb : TB ι) (h : P tb) : ∃ tb', visit tb = .ok tb' ∧ P tb' ∧
      tb'.disInsns.nodes = unmarked (removed tb.rels 0 tb.disInsns.nodes) tb.disInsns.nodes :=
  loop_ok hP tb.disInsns.nodes [] h rfl

end Loop

/-! ### The branches stay -/

/-- A nop is deleted at its own index. -/
theorem removed_deleteAt {tb : TB ι} (h : tb.Guarded) {q : ℕ} {n : ListNode LoongArchInsInfo}
    (hn : tb.disInsns.nodes[q]? = some n) (hnop : isNop n.data) :
    TB.Removed tb (tb.deleteAt n (BitVec.ofNat 64 q)) q ∧ tb.opcAt q ≠ some .OPC_BNE := by
  have hopc := opc_of_isNop hnop
  refine ⟨h.removed_exact hn (by rw [hopc]; rintro ⟨⟩), ?_⟩
  rw [TB.opcAt_of_nodes hn, hopc]
  rintro ⟨⟩

theorem guarded_visit {tb : TB ι} (h : tb.Guarded) : ∃ tb', visit tb = .ok tb' ∧ tb'.Guarded := by
  have hstep : ∀ (tb : TB ι) (q : ℕ) (n : ListNode LoongArchInsInfo), tb.Guarded →
      tb.disInsns.nodes[q]? = some n → isNop n.data → (tb.deleteAt n (BitVec.ofNat 64 q)).Guarded := by
    intro tb q n h hn hnop
    obtain ⟨hr, hne⟩ := removed_deleteAt h hn hnop
    refine h.removed hr fun h0 h1 => ?_
    obtain ⟨k, hk⟩ := h.bne h0 h1
    exact ⟨k, fun e => hne (e ▸ hk), hk⟩
  obtain ⟨tb', hok, h', -⟩ := visit_ok hstep tb h
  exact ⟨tb', hok, h'⟩

theorem ordered_visit {tb : TB ι} (h : tb.Ordered) : ∃ tb', visit tb = .ok tb' ∧ tb'.Ordered := by
  have hstep : ∀ (tb : TB ι) (q : ℕ) (n : ListNode LoongArchInsInfo), tb.Ordered →
      tb.disInsns.nodes[q]? = some n → isNop n.data → (tb.deleteAt n (BitVec.ofNat 64 q)).Ordered := by
    intro tb q n h hn hnop
    obtain ⟨hr, hne⟩ := removed_deleteAt h.toGuarded hn hnop
    exact h.removed hr fun _ _ => .inl hne
  obtain ⟨tb', hok, h', -⟩ := visit_ok hstep tb h
  exact ⟨tb', hok, h'⟩

end AotOpt.RemoveNonVistor
