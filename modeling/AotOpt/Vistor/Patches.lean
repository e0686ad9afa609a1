import AotOpt.Vistor.AddiPasses
import AotOpt.Vistor.Lu12iOriLu32iMeaning
import AotOpt.Vistor.Passes

/-!
# What the passes write

The seven passes delete instructions, and what they write of the others is one of four things
(`Patch`): a new `addi.d` in the place of a `lu12i.w`, a new immediate of a `st.d`, `ld.d` or
`addi.d`, and a new distance of a `b` or `bne`. Every value that is written fits in its field.
`Patched` says so of a block before and after: what is left is a part of what there was, in the
same order, patched.

* `Pass.patched` — one pass.
* `patched_runPasses` — any sequence of passes.
-/

namespace AotOpt

open Lib LoongArchInsInfo

variable {ι : Type}

/-! ### One instruction -/

/-- What a pass may make of an instruction. -/
inductive Patch (insn : LoongArchInsInfo) : LoongArchInsInfo → Prop where
  | addi (hopc : insn.opc = .OPC_LU12I_W) {reg : BitVec 8} (hreg : reg.toNat < 32) {imm : BitVec 32}
      (himm : -2048 ≤ imm.toInt ∧ imm.toInt < 2048) : Patch insn (addiInsn insn.dstReg reg imm)
  | si (hopc : insn.opc = .OPC_ST_D ∨ insn.opc = .OPC_LD_D ∨ insn.opc = .OPC_ADDI_D) {v : BitVec 32}
      (hv : -2048 ≤ v.toInt ∧ v.toInt < 2048) : Patch insn (insn.set .si v)
  | offsB (hopc : insn.opc = .OPC_B) {v : BitVec 32} (hv : -(2 ^ 25) ≤ v.toInt ∧ v.toInt < 2 ^ 25) :
      Patch insn (insn.set .offs v)
  | offsBne (hopc : insn.opc = .OPC_BNE) {v : BitVec 32}
      (hv : -(2 ^ 15) ≤ v.toInt ∧ v.toInt < 2 ^ 15) : Patch insn (insn.set .offs v)

/-- A node after the passes and before. -/
def PatchOf (n' n : ListNode LoongArchInsInfo) : Prop :=
  n'.addr = n.addr ∧ Relation.ReflTransGen Patch n.data n'.data

theorem PatchOf.refl (n : ListNode LoongArchInsInfo) : PatchOf n n := ⟨rfl, .refl⟩

theorem PatchOf.trans {n n' n'' : ListNode LoongArchInsInfo} (h : PatchOf n' n) (h' : PatchOf n'' n') :
    PatchOf n'' n :=
  ⟨h'.1.trans h.1, h.2.trans h'.2⟩

theorem PatchOf.of_patch {n : ListNode LoongArchInsInfo} {d : LoongArchInsInfo} (h : Patch n.data d) :
    PatchOf ⟨n.addr, d⟩ n :=
  ⟨rfl, .single h⟩

instance patchOf_refl : Std.Refl PatchOf := ⟨PatchOf.refl⟩

instance patchOf_trans : IsTrans (ListNode LoongArchInsInfo) PatchOf := ⟨fun _ _ _ h h' => h'.trans h⟩

/-! ### A list of them -/

/-- What is left of the nodes, patched. -/
abbrev PatchedList (l' l : List (ListNode LoongArchInsInfo)) : Prop := List.SublistForall₂ PatchOf l' l

namespace PatchedList

variable {l l' l'' : List (ListNode LoongArchInsInfo)}

theorem refl (l : List (ListNode LoongArchInsInfo)) : PatchedList l l :=
  List.SublistForall₂.is_refl.refl l

theorem trans (h : PatchedList l' l) (h' : PatchedList l'' l') : PatchedList l'' l :=
  List.SublistForall₂.is_trans.trans _ _ _ h' h

theorem of_sublist (h : l'.Sublist l) : PatchedList l' l := h.sublistForall₂

theorem of_forall₂ (h : List.Forall₂ PatchOf l' l) : PatchedList l' l :=
  List.sublistForall₂_iff.mpr ⟨l, h, List.Sublist.refl l⟩

theorem append {k k' : List (ListNode LoongArchInsInfo)} (h : PatchedList l' l) (h' : PatchedList k' k) :
    PatchedList (l' ++ k') (l ++ k) := by
  obtain ⟨m, hm, hsub⟩ := List.sublistForall₂_iff.mp h
  obtain ⟨m', hm', hsub'⟩ := List.sublistForall₂_iff.mp h'
  exact List.sublistForall₂_iff.mpr ⟨m ++ m', List.rel_append hm hm', hsub.append hsub'⟩

theorem of_map {f : ListNode LoongArchInsInfo → ListNode LoongArchInsInfo}
    (h : ∀ n ∈ l, PatchOf (f n) n) : PatchedList (l.map f) l := by
  apply of_forall₂
  rw [List.forall₂_map_left_iff, List.forall₂_same]
  exact h

/-- Every node comes from one that there was. -/
theorem exists_of_mem (h : PatchedList l' l) {n' : ListNode LoongArchInsInfo} (hn' : n' ∈ l') :
    ∃ n ∈ l, PatchOf n' n := by
  induction h with
  | nil => cases hn'
  | cons hr _ ih =>
    rcases List.mem_cons.mp hn' with rfl | hn'
    · exact ⟨_, List.mem_cons_self, hr⟩
    · obtain ⟨n, hn, hpatch⟩ := ih hn'
      exact ⟨n, List.mem_cons_of_mem _ hn, hpatch⟩
  | cons_right _ ih =>
    obtain ⟨n, hn, hpatch⟩ := ih hn'
    exact ⟨n, List.mem_cons_of_mem _ hn, hpatch⟩

/-- No node is added and none changes its place. -/
theorem addrs_sublist (h : PatchedList l' l) : (l'.map (·.addr)).Sublist (l.map (·.addr)) := by
  induction h with
  | nil => simp
  | cons hr _ ih =>
    rw [List.map_cons, List.map_cons, hr.1]
    exact ih.cons_cons _
  | cons_right _ ih => exact ih.cons _

theorem length_le (h : PatchedList l' l) : l'.length ≤ l.length := by
  simpa using h.addrs_sublist.length_le

end PatchedList

/-! ### A block -/

namespace TB

/-- The valid relocations are aligned and start in the first `2 ^ 27` bytes. -/
def RelsLow (tb : TB ι) : Prop :=
  ∀ r ∈ tb.rels, r.valid → r.rel.tcOffset.toNat % 4 = 0 ∧ r.rel.tcOffset.toNat < 2 ^ 27

/-- A relocation after the passes and before: it may have been moved, but not to behind. -/
def MovedRel (r' r : RelSlot) : Prop :=
  r.rel.tcOffset.toNat % 4 = 0 →
    r'.rel.tcOffset.toNat % 4 = 0 ∧ r'.rel.tcOffset.toNat ≤ r.rel.tcOffset.toNat

/-- What is left of the valid relocations, moved. -/
def MovedRels (rels' rels : List RelSlot) : Prop :=
  ∀ r' ∈ rels', r'.valid → ∃ r ∈ rels, r.valid ∧ MovedRel r' r

theorem MovedRels.refl (rels : List RelSlot) : MovedRels rels rels :=
  fun r hr hv => ⟨r, hr, hv, fun hal => ⟨hal, le_rfl⟩⟩

theorem MovedRels.trans {rels rels' rels'' : List RelSlot} (h : MovedRels rels' rels)
    (h' : MovedRels rels'' rels') : MovedRels rels'' rels := by
  intro r'' hr'' hv''
  obtain ⟨r', hr', hv', hmoved'⟩ := h' r'' hr'' hv''
  obtain ⟨r, hr, hv, hmoved⟩ := h r' hr' hv'
  refine ⟨r, hr, hv, fun hal => ?_⟩
  obtain ⟨hal', hle⟩ := hmoved hal
  obtain ⟨hal'', hle'⟩ := hmoved' hal'
  exact ⟨hal'', hle'.trans hle⟩

/-- A relocation behind a deletion is moved by one instruction, and never in front of the block. -/
theorem movedRels_shiftRelsDelete (i : BitVec 64) (rels : List RelSlot) :
    MovedRels (shiftRelsDelete (i <<< 2) rels) rels := by
  intro r' hr' hv
  obtain ⟨r, hr, rfl⟩ := List.mem_map.mp hr'
  split_ifs at hv ⊢ with hlt
  · rw [Bool.and_eq_true, decide_eq_true_eq] at hlt
    refine ⟨r, hr, hlt.1, fun hal => ?_⟩
    have hpos : 4 ≤ r.rel.tcOffset.toNat := by
      have := hlt.2
      rw [BitVec.lt_def, BitVec.toNat_setWidth_of_le (by decide)] at this
      omega
    have hsub : (r.rel.tcOffset - 4).toNat = r.rel.tcOffset.toNat - 4 := by
      rw [BitVec.toNat_sub_of_le hpos]
      rfl
    dsimp only
    rw [hsub]
    omega
  · exact ⟨r, hr, hv, fun hal => ⟨hal, le_rfl⟩⟩

/-- What has become of a block: instructions were deleted or patched. -/
structure Patched (tb tb' : TB ι) : Prop where
  nodes : PatchedList tb'.disInsns.nodes tb.disInsns.nodes
  rels : MovedRels tb'.rels tb.rels
  inside : tb.RelsInside → tb'.RelsInside
  place : tb'.originAotTb.offsetInSegment = tb.originAotTb.offsetInSegment

namespace Patched

variable {tb tb' tb'' : TB ι}

theorem refl (tb : TB ι) : Patched tb tb := ⟨.refl _, .refl _, id, rfl⟩

theorem trans (h : Patched tb tb') (h' : Patched tb' tb'') : Patched tb tb'' :=
  ⟨h.nodes.trans h'.nodes, h.rels.trans h'.rels, h'.inside ∘ h.inside, h'.place.trans h.place⟩

/-- Relocations that are low stay low. -/
theorem relsLow (h : Patched tb tb') (hlow : tb.RelsLow) : tb'.RelsLow := by
  intro r' hr' hv'
  obtain ⟨r, hr, hv, hmoved⟩ := h.rels r' hr' hv'
  obtain ⟨hal, hlt⟩ := hlow r hr hv
  obtain ⟨hal', hle⟩ := hmoved hal
  exact ⟨hal', hle.trans_lt hlt⟩

/-- No relocation becomes valid. -/
theorem not_valid (h : Patched tb tb') (hrels : ∀ r ∈ tb.rels, r.valid = false) :
    ∀ r ∈ tb'.rels, r.valid = false := by
  intro r' hr'
  by_contra hv
  obtain ⟨r, hr, hvalid, -⟩ := h.rels r' hr' (by simpa using hv)
  rw [hrels r hr] at hvalid
  cases hvalid

theorem mem_dropRel {offset : BitVec 64} : ∀ {rels : List RelSlot} {r : RelSlot},
    r ∈ dropRel offset rels → r.valid → r ∈ rels
  | [], _, h, _ => by cases h
  | r₀ :: rels, r, h, hv => by
    rw [dropRel] at h
    split_ifs at h
    · rcases List.mem_cons.mp h with rfl | h
      · cases hv
      · exact List.mem_cons_of_mem _ h
    · rcases List.mem_cons.mp h with rfl | h
      · exact List.mem_cons_self
      · exact List.mem_cons_of_mem _ (mem_dropRel h hv)

/-- A deletion, at whatever index in the code. -/
theorem deleteAt (tb : TB ι) {q : ℕ} {n : ListNode LoongArchInsInfo} (hn : tb.disInsns.nodes[q]? = some n)
    {i : BitVec 64} (hi : i.toNat < tb.disInsns.nodes.length) : Patched tb (tb.deleteAt n i) := by
  refine ⟨?_, ?_, fun h => h.deleteAt hn hi, rfl⟩
  · rw [disInsns_deleteAt, LinkList.nodes_remove (LinkList.addrs_of_nodes hn)]
    exact .of_sublist (List.eraseIdx_sublist _ _)
  · rw [rels_deleteAt]
    refine .trans (fun r hr hv => ?_) (movedRels_shiftRelsDelete i _)
    exact MovedRels.refl tb.rels r (mem_dropRel hr hv) hv

/-- An assignment. -/
theorem updateInsn (tb : TB ι) {a : ℕ} {f : LoongArchInsInfo → LoongArchInsInfo}
    (hf : ∀ n ∈ tb.disInsns.nodes, n.addr = a → Patch n.data (f n.data)) :
    Patched tb (tb.updateInsn a f) := by
  have hlen : (tb.updateInsn a f).disInsns.nodes.length = tb.disInsns.nodes.length :=
    LinkList.length_update a f
  refine ⟨?_, .refl _, fun h => ⟨hlen ▸ h.apart, hlen ▸ h.length_lt⟩, rfl⟩
  show PatchedList (tb.disInsns.update a f).nodes tb.disInsns.nodes
  rw [LinkList.nodes_update]
  apply PatchedList.of_map
  intro n hn
  by_cases ha : n.addr = a
  · rw [if_pos ha]
    exact .of_patch (hf n hn ha)
  · rw [if_neg ha]
    exact .refl n

/-- An assignment to the node at a position. -/
theorem updateInsn_of_nodes {q : ℕ} {n : ListNode LoongArchInsInfo} (hn : tb.disInsns.nodes[q]? = some n)
    {f : LoongArchInsInfo → LoongArchInsInfo} (hf : Patch n.data (f n.data)) :
    Patched tb (tb.updateInsn n.addr f) := by
  apply updateInsn
  intro m hm ha
  obtain ⟨k, hk⟩ := List.mem_iff_getElem?.mp hm
  have hpos : k = q := pos_unique tb.disInsns.nodup_addrs (LinkList.addrs_of_nodes hk)
    (ha ▸ LinkList.addrs_of_nodes hn)
  rw [hpos, hn, Option.some.injEq] at hk
  exact hk ▸ hf

/-- A loop that deletes instructions. -/
theorem deleteRun {i : BitVec 64} {q : Ptr} : ∀ {count : ℕ} {tb tb' : TB ι} {p : Ptr},
    i.toNat + count ≤ tb.disInsns.nodes.length → tb.deleteRun p i count = .ok (q, tb') → Patched tb tb'
  | 0, tb, tb', p, _, h => by
    rw [TB.deleteRun, Except.ok.injEq, Prod.mk.injEq] at h
    exact h.2 ▸ .refl tb
  | count + 1, tb, tb', p, hle, h => by
    obtain ⟨⟨next, tb₁⟩, h1, h2⟩ := bind_eq_ok.mp h
    obtain ⟨k, n, hn, -, -, rfl⟩ := tb.deleteIthInsnAlongwithRel_eq_ok.mp h1
    have hlen : (tb.deleteAt n i).disInsns.nodes.length = tb.disInsns.nodes.length - 1 := by
      rw [disInsns_deleteAt, LinkList.nodes_remove (LinkList.addrs_of_nodes hn),
        List.length_eraseIdx_of_lt (List.getElem?_eq_some_iff.mp hn).1]
    exact (deleteAt tb hn (by omega)).trans (deleteRun (by omega) h2)

end Patched

end TB

/-! ### Two passes that only delete -/

theorem RemoveNonVistor.patched_visit (tb : TB ι) :
    ∃ tb', visit tb = .ok tb' ∧ tb.Patched tb' := by
  obtain ⟨tb', hok, h, -⟩ := visit_ok (P := tb.Patched)
    (fun tb₁ q n h hn _ => h.trans (.deleteAt tb₁ hn (by
      rw [BitVec.toNat_ofNat]
      exact (Nat.mod_le _ _).trans_lt (List.getElem?_eq_some_iff.mp hn).1))) tb (.refl tb)
  exact ⟨tb', hok, h⟩

namespace RemoveTailVistor

variable {tb tb' : TB ι}

theorem patched_removeTailOf (h : tb.Ordered) {which : Fin 2} (hv : tb.originAotTb.slotValid which)
    (hok : removeTailOf tb which = .ok tb') : tb.Patched tb' := by
  have hs := slotsInOrder_of_ordered h
  have hle := tail_le hs hv
  have hlt := h.length_lt
  rw [removeTailOf_eq hs hv] at hok
  split_ifs at hok
  · obtain ⟨⟨q, tb₁⟩, hrun, hok⟩ := bind_eq_ok.mp hok
    rw [← Except.ok.inj hok]
    refine .deleteRun ?_ hrun
    rw [BitVec.toNat_ofNat, Nat.mod_eq_of_lt (by omega)]
    exact hle
  · exact Except.ok.inj hok ▸ .refl tb

theorem patched_visit (h : tb.Ordered) (hok : visit tb = .ok tb') : tb.Patched tb' := by
  rw [visit] at hok
  split_ifs at hok with h2 h0 h1
  · simp only [Bool.and_eq_true] at h2
    obtain ⟨tb₁, hok₁, hord₁, hvalid⟩ := ordered_removeTailOf h h2.1.1.1
    rw [hok₁, ok_bind] at hok
    exact (patched_removeTailOf h h2.1.1.1 hok₁).trans
      (patched_removeTailOf hord₁ ((hvalid 1).trans h2.1.1.2) hok)
  · rw [Bool.and_eq_true] at h0
    exact patched_removeTailOf h h0.1 hok
  · rw [Bool.and_eq_true] at h1
    exact patched_removeTailOf h h1.1 hok
  · exact Except.ok.inj hok ▸ .refl tb

end RemoveTailVistor

/-! ### Loads of immediates -/

namespace LoadImm

variable (P : LoadImm)

/-- What the loop over the registers finds. -/
theorem closeReg_spec {constSet : ConstRegSet} {curImm imm : BitVec 64} {i : BitVec 8} :
    ∀ {is : List (BitVec 8)}, closeReg constSet curImm is = .ok (some (i, imm)) →
      i ∈ is ∧ canSubstitueWithAddiInsn (curImm - imm) = true
  | [], h => by cases h
  | j :: is, h => by
    rw [closeReg] at h
    split_ifs at h
    · obtain ⟨imm', -, h⟩ := bind_eq_ok.mp h
      split_ifs at h with hcan
      · cases h
        exact ⟨List.mem_cons_self, hcan⟩
      · exact (closeReg_spec h).imp_left (List.mem_cons_of_mem _)
    · exact (closeReg_spec h).imp_left (List.mem_cons_of_mem _)

theorem toNat_lt_of_mem_regs {i : BitVec 8} (h : i ∈ regs) : i.toNat < 32 := by
  obtain ⟨k, hk, rfl⟩ := List.mem_map.mp h
  rw [List.mem_range'_1] at hk
  rw [BitVec.toNat_ofNat, Nat.mod_eq_of_lt (by omega)]
  omega

/-- A pattern begins with a `lu12i.w`. -/
def StartsWithLu12iW : Prop :=
  ∀ node nodes, P.isPattern (node :: nodes) = true → node.data.opc = .OPC_LU12I_W

/-- Where a walk has come to: the nodes that follow, and an index that is not past them. -/
def At (tb : TB ι) (cur : BitVec 32) (nodes : List (ListNode LoongArchInsInfo)) : Prop :=
  ∃ pre, tb.disInsns.nodes = pre ++ nodes ∧ cur.toNat ≤ pre.length

theorem At.pass {tb : TB ι} {cur : BitVec 32} {nodes : List (ListNode LoongArchInsInfo)} {k : ℕ}
    (h : At tb cur nodes) (hk : k ≤ nodes.length) : At tb (cur + BitVec.ofNat 32 k) (nodes.drop k) := by
  obtain ⟨pre, hnodes, hcur⟩ := h
  refine ⟨pre ++ nodes.take k, by rw [List.append_assoc, List.take_append_drop, hnodes], ?_⟩
  rw [List.length_append, List.length_take_of_le hk]
  exact toNat_add_ofNat_le hcur

theorem At.passOne {tb : TB ι} {cur : BitVec 32} {node : ListNode LoongArchInsInfo}
    {nodes : List (ListNode LoongArchInsInfo)} (h : At tb cur (node :: nodes)) : At tb (cur + 1) nodes :=
  h.pass (k := 1) (Nat.le_add_left 1 _)

variable {P} in
/-- A pattern is passed. -/
theorem At.passPattern {tb : TB ι} {cur : BitVec 32} {node : ListNode LoongArchInsInfo}
    {nodes : List (ListNode LoongArchInsInfo)} (h : At tb cur (node :: nodes))
    (hpat : P.isPattern (node :: nodes) = true) :
    At tb (cur + BitVec.ofNat 32 P.insnCount) (nodes.drop (P.insnCount - 1)) := by
  have hpass := h.pass (P.pattern_spec _ hpat).1
  rwa [← Nat.sub_add_cancel P.insnCount_pos, List.drop_succ_cons, Nat.sub_add_cancel P.insnCount_pos]
    at hpass

/-- **`substitue_with_addi_insn`** of a `lu12i.w`. -/
theorem patched_substitue {tb tb' : TB ι} {ns nodes : List (ListNode LoongArchInsInfo)}
    {node : ListNode LoongArchInsInfo} {cur : BitVec 32} (h : At tb cur (node :: (ns ++ nodes)))
    (hopc : node.data.opc = .OPC_LU12I_W) {reg : BitVec 8} (hreg : reg.toNat < 32) {imm : BitVec 32}
    (himm : -2048 ≤ imm.toInt ∧ imm.toInt < 2048)
    (hok : substitueWithAddiInsn node (ns.length + 1) reg imm tb cur = .ok tb') :
    tb.Patched tb' ∧ At tb' (cur + 1) nodes := by
  obtain ⟨pre, h, hcur⟩ := h
  have hdrop : Ptr.first (ns ++ nodes) = .first (tb.disInsns.nodes.drop (pre.length + 1)) := by
    rw [h]
    simp
  rw [substitueWithAddiInsn, LinkList.next_mid h, Nat.add_sub_cancel, hdrop] at hok
  obtain ⟨⟨q, tb₁⟩, hrun, hok⟩ := bind_eq_ok.mp hok
  have hlen : pre.length + 1 + ns.length ≤ tb.disInsns.nodes.length := by
    rw [h]
    simp
    omega
  obtain ⟨q', tb₂, hrun', -, hnodes⟩ := TB.deleteRun_ok (P := fun _ _ => True) (fun _ _ _ _ _ => trivial)
    (i := (cur + 1).setWidth 64) ns.length trivial hlen
  have hsame : tb₁ = tb₂ := by
    rw [hrun] at hrun'
    exact (Prod.mk.inj (Except.ok.inj hrun')).2
  have hnodes₁ : tb₁.disInsns.nodes = pre ++ node :: nodes := by
    rw [hsame, hnodes, h]
    have h1 : pre.length + 1 + ns.length = (pre ++ node :: ns).length := by simp; omega
    have h2 : pre ++ node :: (ns ++ nodes) = (pre ++ node :: ns) ++ nodes := by simp
    rw [h1, h2, List.drop_left]
    simp [List.take_append]
  have hcur₁ : (cur + BitVec.ofNat 32 1).toNat ≤ pre.length + 1 := toNat_add_ofNat_le hcur
  have hindex : ((cur + 1).setWidth 64).toNat + ns.length ≤ tb.disInsns.nodes.length := by
    rw [BitVec.toNat_setWidth_of_le (by decide)]
    exact (Nat.add_le_add_right hcur₁ _).trans hlen
  rw [← Except.ok.inj hok]
  refine ⟨(TB.Patched.deleteRun hindex hrun).trans
    (.updateInsn_of_nodes (LinkList.nodes_mid hnodes₁) (.addi hopc hreg himm)),
    pre ++ [⟨node.addr, addiInsn node.data.dstReg reg imm⟩], ?_, ?_⟩
  · rw [List.append_assoc]
    exact LinkList.nodes_update_mid _ hnodes₁
  · rw [List.length_append]
    exact hcur₁

variable {P} in
/-- **The inner loop** patches. -/
theorem patched_optPattern (hP : P.StartsWithLu12iW) : ∀ (turns : ℕ) {tb tb' : TB ι}
    {nodes nodes' : List (ListNode LoongArchInsInfo)} {cur cur' : BitVec 32}
    {constSet constSet' : ConstRegSet}, At tb cur nodes →
      P.optPattern turns tb cur constSet nodes = .ok (tb', cur', constSet', nodes') →
        tb.Patched tb' ∧ At tb' cur' nodes'
  | turns, tb, tb', [], nodes', cur, cur', constSet, constSet', h, hok => by
    rw [optPattern] at hok
    cases hok
    exact ⟨.refl tb, h⟩
  | 0, tb, tb', node :: nodes, nodes', cur, cur', constSet, constSet', h, hok => by
    rw [optPattern] at hok
    · cases hok
    · simp
  | turns + 1, tb, tb', node :: nodes, nodes', cur, cur', constSet, constSet', h, hok => by
    rw [optPattern] at hok
    split_ifs at hok with hpat hstop
    · rw [Bool.and_eq_true] at hpat
      obtain ⟨imm, -, hok⟩ := bind_eq_ok.mp hok
      obtain ⟨close, hclose, hok⟩ := bind_eq_ok.mp hok
      cases close with
      | none => exact patched_optPattern hP turns (h.passPattern hpat.1) hok
      | some r =>
        obtain ⟨i, imm'⟩ := r
        obtain ⟨tb₁, hsub, hok⟩ := bind_eq_ok.mp hok
        obtain ⟨hi, hcan⟩ := closeReg_spec hclose
        obtain ⟨-, -, hcount, -⟩ := P.isPattern_cases hpat.1
        obtain ⟨hlo, hhi⟩ := Lu12iOriLu32iVistor.toInt_setWidth_of_can hcan
        rw [← List.take_append_drop (P.insnCount - 1) nodes] at h
        rw [← hcount] at hsub
        obtain ⟨hpatch, h₁⟩ := patched_substitue h (hP node nodes hpat.1) (toNat_lt_of_mem_regs hi)
          ⟨hlo, by omega⟩ hsub
        obtain ⟨hpatch', hnodes'⟩ := patched_optPattern hP turns h₁ hok
        exact ⟨hpatch.trans hpatch', hnodes'⟩
    · cases hok
      exact ⟨.refl tb, h⟩
    · dsimp only at hok
      split_ifs at hok
      · cases hok
        exact ⟨.refl tb, h.passOne⟩
      · exact patched_optPattern hP turns h.passOne hok

variable {P} in
/-- **The loop** patches. -/
theorem patched_visitFrom (hP : P.StartsWithLu12iW) : ∀ (turns : ℕ) {tb tb' : TB ι}
    {nodes : List (ListNode LoongArchInsInfo)} {cur : BitVec 32} {constSet : ConstRegSet},
    At tb cur nodes → P.visitFrom turns tb cur constSet nodes = .ok tb' → tb.Patched tb'
  | turns, tb, tb', [], cur, constSet, h, hok => by
    rw [visitFrom] at hok
    exact Except.ok.inj hok ▸ .refl tb
  | 0, tb, tb', iter :: nodes, cur, constSet, h, hok => by
    rw [visitFrom] at hok
    · cases hok
    · simp
  | turns + 1, tb, tb', iter :: nodes, cur, constSet, h, hok => by
    rw [visitFrom] at hok
    split_ifs at hok with hstop hpat
    · exact Except.ok.inj hok ▸ .refl tb
    · obtain ⟨imm, -, hok⟩ := bind_eq_ok.mp hok
      obtain ⟨⟨tb₁, cur₁, constSet₁, nodes₁⟩, hopt, hok⟩ := bind_eq_ok.mp hok
      obtain ⟨hpatch, h₁⟩ := patched_optPattern hP _ (h.passPattern hpat) hopt
      exact hpatch.trans (patched_visitFrom hP turns h₁ hok)
    · exact patched_visitFrom hP turns h.passOne hok

variable {P} in
theorem patched_visit (hP : P.StartsWithLu12iW) {tb tb' : TB ι} (hok : P.visit tb = .ok tb') :
    tb.Patched tb' :=
  patched_visitFrom hP _ ⟨[], rfl, le_rfl⟩ hok

end LoadImm

theorem Lu12iOriLu32iVistor.startsWithLu12iW : lu12iOriLu32i.StartsWithLu12iW := by
  intro node nodes h
  obtain ⟨x, y, z, rest, heq, hx, -⟩ := isPattern_cases h
  obtain ⟨rfl, -⟩ := List.cons.inj heq
  exact hx

theorem Lu12iOriVistor.startsWithLu12iW : lu12iOri.StartsWithLu12iW := by
  intro node nodes h
  change isLu12iOriPattern (node :: nodes) = true at h
  unfold isLu12iOriPattern at h
  split at h
  · next n₀ n₁ rest heq =>
    obtain ⟨rfl, -⟩ := List.cons.inj heq
    simp only [Bool.and_eq_true, decide_eq_true_eq] at h
    exact h.1.1.1
  · cases h

/-! ### Runs of stores and loads -/

theorem toInt_ofInt_si {x : ℤ} (h : -2048 ≤ x ∧ x < 2048) :
    -2048 ≤ (BitVec.ofInt 32 x).toInt ∧ (BitVec.ofInt 32 x).toInt < 2048 := by
  rw [BitVec.toInt_ofInt, Int.bmod_eq_of_le (by omega) (by omega)]
  exact h

namespace AddiRun

variable {P : AddiRun}

/-- The accesses are those of one of the two passes. -/
structure StoreOrLoad (P : AddiRun) : Prop where
  fits : P.Fits
  opc : P.opc = .OPC_ST_D ∨ P.opc = .OPC_LD_D

section StoreOrLoad

variable (hP : P.StoreOrLoad) {reg : BitVec 8}
include hP

/-- An access gets another offset. -/
theorem StoreOrLoad.patch_access {n : ListNode LoongArchInsInfo} (hn : n.data.opc = P.opc) {k : ℕ}
    (hk : k < P.max) : PatchOf (withSi n (BitVec.ofInt 32 ((P.first + k) * P.step))) n := by
  refine .of_patch (.si ?_ (toInt_ofInt_si (hP.fits.access k hk)))
  rw [hn]
  exact hP.opc.imp_right .inl

/-- An addition gets another immediate. -/
theorem StoreOrLoad.patch_add {n : ListNode LoongArchInsInfo} (hn : n.data.opc = .OPC_ADDI_D) {k : ℕ}
    (hk : k ≤ P.max) : PatchOf (withSi n (BitVec.ofInt 32 (k * P.step))) n :=
  .of_patch (.si (.inr (.inr hn)) (toInt_ofInt_si (hP.fits.add k hk)))

/-- A chunk of a run. -/
theorem forall₂_planChunk {c : ℕ} (hc : c ≤ P.max) :
    ∀ {ps : List (ListNode LoongArchInsInfo × ListNode LoongArchInsInfo)} {k : ℕ} (insnIndex : BitVec 32),
      (∀ p ∈ ps, P.IsPair reg p) → k + ps.length ≤ P.max →
        List.Forall₂ PatchOf
          ((P.planChunk (BitVec.ofInt 32 (c * P.step)) insnIndex (P.first + k) ps).map (·.1)) (unpair ps)
  | [], k, _, _, _ => by simp [planChunk, unpair]
  | [p], k, _, h, hlen => by
    have hp := h p (by simp)
    have hk : k < P.max := by
      simp only [List.length_cons, List.length_nil] at hlen
      omega
    simpa [planChunk, unpair] using ⟨hP.patch_access hp.opc hk, hP.patch_add hp.addi hc⟩
  | p :: p' :: ps, k, insnIndex, h, hlen => by
    have hp := h p (by simp)
    have hk : k < P.max := by
      simp only [List.length_cons] at hlen
      omega
    have ih := forall₂_planChunk hc (k := k + 1) (insnIndex + 1)
      (fun q hq => h q (List.mem_cons_of_mem _ hq)) (by simp only [List.length_cons] at hlen ⊢; omega)
    have hnext : P.first + ((k + 1 : ℕ) : ℤ) = P.first + k + 1 := by push_cast; ring
    rw [hnext] at ih
    exact .cons (hP.patch_access hp.opc hk) (.cons (.refl p.2) ih)

/-- A run. -/
theorem forall₂_planRun (ps : List (ListNode LoongArchInsInfo × ListNode LoongArchInsInfo))
    (insnIndex : BitVec 32) (h : ∀ p ∈ ps, P.IsPair reg p) :
    List.Forall₂ PatchOf ((P.planRun insnIndex ps).map (·.1)) (unpair ps) := by
  have hmax := P.max_pos
  have hsplit := unpair_append (ps.take (min ps.length P.max)) (ps.drop (min ps.length P.max))
  rw [List.take_append_drop] at hsplit
  have hchunk := forall₂_planChunk hP (Nat.min_le_right ps.length P.max) (k := 0) insnIndex
    (fun p hp => h p (List.mem_of_mem_take hp) : ∀ p ∈ ps.take (min ps.length P.max), P.IsPair reg p)
    (by rw [List.length_take]; omega)
  rw [Nat.cast_zero, add_zero] at hchunk
  rw [planRun, List.map_append, hsplit]
  refine List.rel_append hchunk ?_
  split_ifs with hmore
  · exact forall₂_planRun _ _ fun p hp => h p (List.mem_of_mem_drop hp)
  · rw [Nat.min_eq_left (not_lt.mp hmore), List.drop_length]
    exact .nil
termination_by ps.length

/-- A block. -/
theorem forall₂_planFrom : ∀ {qs : List Piece} (cur : BitVec 32), (∀ q ∈ qs, q.Ok P) →
    List.Forall₂ PatchOf ((P.planFrom cur qs).map (·.1)) (qs.flatMap Piece.nodes)
  | [], _, _ => .nil
  | .other n :: qs, cur, h =>
    .cons (.refl n) (forall₂_planFrom (cur + 1) fun q hq => h q (List.mem_cons_of_mem _ hq))
  | .run ps :: qs, cur, h => by
    have ih := forall₂_planFrom (cur + BitVec.ofNat 32 (ps.length + 1))
      fun q hq => h q (List.mem_cons_of_mem _ hq)
    obtain ⟨-, reg, hreg⟩ := h _ List.mem_cons_self
    rw [planFrom, List.map_append, List.flatMap_cons]
    refine List.rel_append ?_ ih
    split_ifs
    · exact forall₂_planRun hP ps cur hreg
    · rw [List.map_map]
      show List.Forall₂ PatchOf ((unpair ps).map id) (unpair ps)
      rw [List.map_id, List.forall₂_same]
      exact fun n _ => .refl n

end StoreOrLoad

/-- The requests that are carried out delete nodes of the plan. -/
theorem carry_sublist : ∀ (es : List (ListNode LoongArchInsInfo × Option (BitVec 32)))
    (rels : List RelSlot), (carry rels es).1.Sublist (es.map (·.1))
  | [], _ => List.nil_sublist _
  | (n, none) :: es, rels => (carry_sublist es rels).cons_cons n
  | (n, some i) :: es, rels => by
    rw [carry]
    split_ifs
    · exact (carry_sublist es rels).cons_cons n
    · exact (carry_sublist es _).cons n

/-- The requests are at indices that are not past their nodes, if the first entry is at position `k` or
behind it. -/
def NotPast : ℕ → List (ListNode LoongArchInsInfo × Option (BitVec 32)) → Prop
  | _, [] => True
  | k, (_, none) :: es => NotPast (k + 1) es
  | k, (_, some i) :: es => i.toNat ≤ k ∧ NotPast k es

theorem NotPast.mono : ∀ {k l : ℕ} (es : List (ListNode LoongArchInsInfo × Option (BitVec 32))),
    NotPast k es → k ≤ l → NotPast l es
  | _, _, [], _, _ => trivial
  | _, _, (_, none) :: es, h, hle => NotPast.mono es h (Nat.succ_le_succ hle)
  | _, _, (_, some _) :: es, h, hle => ⟨h.1.trans hle, NotPast.mono es h.2 hle⟩

theorem notPast_append (k : ℕ) (es es' : List (ListNode LoongArchInsInfo × Option (BitVec 32))) :
    NotPast k (es ++ es') ↔ NotPast k es ∧ NotPast (k + (kept es).length) es' := by
  induction es generalizing k with
  | nil => simp [NotPast, kept]
  | cons e es ih =>
    obtain ⟨n, i⟩ := e
    cases i with
    | none =>
      rw [List.cons_append, NotPast, NotPast, ih, kept_cons_none, List.length_cons]
      rw [Nat.add_assoc, Nat.add_comm 1]
    | some i => rw [List.cons_append, NotPast, NotPast, ih, kept_cons_some, and_assoc]

theorem notPast_keep (k : ℕ) (ns : List (ListNode LoongArchInsInfo)) : NotPast k (ns.map (·, none)) := by
  induction ns generalizing k with
  | nil => trivial
  | cons n ns ih => exact ih (k + 1)

section NotPast

variable (P)

/-- A chunk of a run. All accesses are kept, and the last addition. -/
theorem notPast_planChunk (addiImm : BitVec 32) :
    ∀ (ps : List (ListNode LoongArchInsInfo × ListNode LoongArchInsInfo)) {k : ℕ} {insnIndex : BitVec 32}
      (i : ℤ), ps ≠ [] → insnIndex.toNat ≤ k → NotPast k (P.planChunk addiImm insnIndex i ps) ∧
        (kept (P.planChunk addiImm insnIndex i ps)).length = ps.length + 1
  | [], _, _, _, hne, _ => absurd rfl hne
  | [p], _, _, _, _, _ => by simp [planChunk, NotPast, kept]
  | p :: p' :: ps, k, insnIndex, i, _, hk => by
    have hindex : (insnIndex + BitVec.ofNat 32 1).toNat ≤ k + 1 := toNat_add_ofNat_le hk
    obtain ⟨ih, hlen⟩ := notPast_planChunk addiImm (p' :: ps) (i + 1) (List.cons_ne_nil _ _) hindex
    rw [planChunk]
    refine ⟨⟨hindex, ih⟩, ?_⟩
    rw [kept_cons_none, kept_cons_some, List.length_cons, List.length_cons]
    exact congrArg (· + 1) hlen

/-- A run. -/
theorem notPast_planRun (ps : List (ListNode LoongArchInsInfo × ListNode LoongArchInsInfo)) {k : ℕ}
    {insnIndex : BitVec 32} (hne : ps ≠ []) (hk : insnIndex.toNat ≤ k) :
    NotPast k (P.planRun insnIndex ps) ∧ ps.length + 1 ≤ (kept (P.planRun insnIndex ps)).length := by
  have hmax := P.max_pos
  have hpos : 0 < ps.length := List.length_pos_iff.mpr hne
  have htake : (ps.take (min ps.length P.max)).length = min ps.length P.max :=
    List.length_take_of_le (Nat.min_le_left _ _)
  obtain ⟨hchunk, hlen⟩ := P.notPast_planChunk
    (BitVec.ofInt 32 ((min ps.length P.max : ℕ) * P.step)) _ P.first
    (List.length_pos_iff.mp (by omega : 0 < (ps.take (min ps.length P.max)).length)) hk
  rw [planRun, notPast_append, kept_append, List.length_append, hlen, htake]
  split_ifs with hmore
  · have hdrop : 0 < (ps.drop (min ps.length P.max)).length := by
      rw [List.length_drop]
      omega
    have hindex : (insnIndex + BitVec.ofNat 32 (min ps.length P.max - 1)).toNat ≤
        k + (min ps.length P.max + 1) := by
      have := toNat_add_ofNat_le (l := min ps.length P.max - 1) hk
      omega
    obtain ⟨hrest, hrestlen⟩ := notPast_planRun _ (List.length_pos_iff.mp hdrop) hindex
    rw [List.length_drop] at hrestlen
    exact ⟨⟨hchunk, hrest⟩, by omega⟩
  · exact ⟨⟨hchunk, trivial⟩, by omega⟩
termination_by ps.length

/-- **The requests of a block** are not past their nodes. -/
theorem notPast_planFrom : ∀ (qs : List Piece) {k : ℕ} {cur : BitVec 32}, (∀ q ∈ qs, q.Ok P) →
    cur.toNat ≤ k → NotPast k (P.planFrom cur qs)
  | [], _, _, _, _ => trivial
  | .other n :: qs, k, cur, h, hk =>
    notPast_planFrom qs (fun q hq => h q (List.mem_cons_of_mem _ hq))
      (toNat_add_ofNat_le hk : (cur + BitVec.ofNat 32 1).toNat ≤ k + 1)
  | .run ps :: qs, k, cur, h, hk => by
    have hne := (h _ List.mem_cons_self).1
    have hrun : NotPast k (if ps.length ≠ 1 then P.planRun cur ps else (unpair ps).map (·, none)) ∧
        ps.length + 1 ≤ (kept (if ps.length ≠ 1 then P.planRun cur ps else
          (unpair ps).map (·, none))).length := by
      split_ifs with h1
      · exact P.notPast_planRun ps hne hk
      · obtain ⟨p, rfl⟩ := List.length_eq_one_iff.mp (not_not.mp h1)
        exact ⟨notPast_keep _ _, by rw [kept_keep]; exact le_rfl⟩
    rw [planFrom, notPast_append]
    refine ⟨hrun.1, notPast_planFrom qs (fun q hq => h q (List.mem_cons_of_mem _ hq)) ?_⟩
    exact (toNat_add_ofNat_le hk).trans (Nat.add_le_add_left hrun.2 k)

end NotPast

/-- **The deletions** leave the relocations inside the code. -/
theorem relsApart_carry : ∀ (es : List (ListNode LoongArchInsInfo × Option (BitVec 32)))
    {rels : List RelSlot} {k l : ℕ}, NotPast k es → k + es.length + l < 2 ^ 30 →
      RelsApart rels (k + es.length + l) →
        RelsApart (carry rels es).2 (k + (carry rels es).1.length + l)
  | [], rels, k, l, _, _, hrels => hrels
  | (n, none) :: es, rels, k, l, h, hlt, hrels => by
    rw [List.length_cons] at hlt hrels
    have hlen : k + (es.length + 1) + l = k + 1 + es.length + l := by omega
    rw [hlen] at hlt hrels
    have ih := relsApart_carry es h hlt hrels
    rw [carry, List.length_cons]
    rwa [Nat.add_right_comm k 1] at ih
  | (n, some i) :: es, rels, k, l, h, hlt, hrels => by
    rw [List.length_cons] at hlt hrels
    rw [carry]
    split_ifs with hrefused
    · have hlen : k + (es.length + 1) + l = k + 1 + es.length + l := by omega
      rw [hlen] at hlt hrels
      have ih := relsApart_carry es (h.2.mono es (Nat.le_succ k)) hlt hrels
      rw [List.length_cons]
      rwa [Nat.add_right_comm k 1] at ih
    · have hoff : (i.setWidth 64 <<< 2).toNat = 4 * i.toNat := by
        have := h.1
        rw [BitVec.toNat_shiftLeft, Nat.shiftLeft_eq, BitVec.toNat_setWidth_of_le (by decide)]
        omega
      have hdelete := hrels.delete_eq hlt hoff
      rw [TB.dropRel_eq_self (Bool.not_eq_true _ ▸ hrefused)] at hdelete
      have hnext := hrels.delete (k := i.toNat) (by have := h.1; omega)
      have hlen : k + (es.length + 1) + l - 1 = k + es.length + l := by omega
      rw [hlen] at hnext
      rw [hdelete]
      exact relsApart_carry es h.2 (by omega) hnext

theorem movedRels_carry : ∀ (es : List (ListNode LoongArchInsInfo × Option (BitVec 32)))
    (rels : List RelSlot), TB.MovedRels (carry rels es).2 rels
  | [], rels => .refl rels
  | (_, none) :: es, rels => movedRels_carry es rels
  | (n, some i) :: es, rels => by
    rw [carry]
    split_ifs
    · exact movedRels_carry es rels
    · exact (TB.movedRels_shiftRelsDelete _ rels).trans (movedRels_carry es _)

section Place

variable (P)

theorem place_optLoop {addiImm : BitVec 32} : ∀ {count : ℕ} {tb tb' : TB ι} {insnIndex insnIndex' : BitVec 32}
    {i : ℤ} {nodes nodes' : List (ListNode LoongArchInsInfo)},
    P.optLoop addiImm count tb insnIndex i nodes = .ok (tb', insnIndex', nodes') →
      tb'.originAotTb.offsetInSegment = tb.originAotTb.offsetInSegment
  | 0, tb, tb', _, _, _, _, _, h => by
    rw [optLoop] at h
    cases h
    rfl
  | count + 1, tb, tb', _, _, _, curInsn :: addiInsn :: nodes, _, h => by
    rw [optLoop] at h
    dsimp only at h
    split_ifs at h
    · have hrest := place_optLoop h
      exact hrest
    · obtain ⟨⟨p, tb₁⟩, hdelete, h⟩ := bind_eq_ok.mp h
      have hrest : tb'.originAotTb.offsetInSegment = tb₁.originAotTb.offsetInSegment := place_optLoop h
      rw [hrest]
      rcases TB.deleteIthInsn_eq_ok _ |>.mp hdelete with ⟨-, -, rfl⟩ | ⟨-, hdelete⟩
      · rfl
      · obtain ⟨-, n, -, -, -, rfl⟩ := TB.deleteIthInsnAlongwithRel_eq_ok _ |>.mp hdelete
        rfl
  | _ + 1, _, _, _, _, _, [], _, h => by
    rw [optLoop] at h
    · cases h
    · simp
  | _ + 1, _, _, _, _, _, [_], _, h => by
    rw [optLoop] at h
    · cases h
    · simp

theorem place_optSequence (total : ℕ) {tb tb' : TB ι} {nodes : List (ListNode LoongArchInsInfo)}
    {insnIndex : BitVec 32} (h : P.optSequence tb nodes total insnIndex = .ok tb') :
    tb'.originAotTb.offsetInSegment = tb.originAotTb.offsetInSegment := by
  have hmax := P.max_pos
  rw [optSequence] at h
  obtain ⟨⟨tb₁, idx₁, nodes₁⟩, hloop, h⟩ := bind_eq_ok.mp h
  dsimp only at h
  split_ifs at h
  · exact (place_optSequence (total - P.max) h).trans (P.place_optLoop hloop)
  · exact Except.ok.inj h ▸ P.place_optLoop hloop
termination_by total

theorem place_visitFrom : ∀ (nodes : List (ListNode LoongArchInsInfo)) {tb tb' : TB ι} {cur : BitVec 32},
    P.visitFrom tb cur nodes = .ok tb' →
      tb'.originAotTb.offsetInSegment = tb.originAotTb.offsetInSegment
  | [], tb, tb', _, h => by
    rw [visitFrom] at h
    exact Except.ok.inj h ▸ rfl
  | iter :: nodes, tb, tb', _, h => by
    rw [visitFrom] at h
    split_ifs at h
    · exact Except.ok.inj h ▸ rfl
    · obtain ⟨tb₁, hrun, h⟩ := bind_eq_ok.mp h
      refine (place_visitFrom _ h).trans ?_
      split_ifs at hrun
      · exact P.place_optSequence _ hrun
      · exact Except.ok.inj hrun ▸ rfl
    · exact place_visitFrom nodes h
termination_by nodes => nodes.length

end Place

/-- **A visit** patches the accesses and the additions. -/
theorem patched_visit (hP : P.StoreOrLoad) (tb : TB ι) : ∃ tb', P.visit tb = .ok tb' ∧ tb.Patched tb' := by
  have hinit : tb.disInsns.nodes = [] ++ tb.disInsns.nodes := rfl
  obtain ⟨tb', rest, hok, hsplit, -, h⟩ := P.visitFrom_eq tb.disInsns.nodes 0 hinit
  refine ⟨tb', hok, ?_, ?_, fun hinside => ?_, P.place_visitFrom _ hok⟩
  · have hplan := forall₂_planFrom hP 0 (P.ok_pieces tb.disInsns.nodes)
    have hpieces := (PatchedList.of_forall₂ hplan).trans (.of_sublist (carry_sublist _ tb.rels))
    have hlist := hpieces.append (.refl rest)
    rw [← hsplit] at hlist
    rw [h.nodes]
    exact hlist
  · rw [h.rels]
    exact movedRels_carry _ tb.rels
  · have hlen := (forall₂_planFrom hP 0 (P.ok_pieces tb.disInsns.nodes)).length_eq
    have hpast := P.notPast_planFrom _ (P.ok_pieces tb.disInsns.nodes)
      (show (0 : BitVec 32).toNat ≤ 0 from le_rfl)
    have hold := congrArg List.length hsplit
    rw [List.length_append, ← hlen, List.length_map] at hold
    have hapart := hinside.apart
    have hlt := hinside.length_lt
    rw [hold, ← Nat.zero_add (P.planFrom 0 _).length] at hapart hlt
    have hnew := relsApart_carry _ hpast hlt hapart
    rw [← h.rels] at hnew
    have hnodes : tb'.disInsns.nodes.length =
        0 + (carry tb.rels (P.planFrom 0 (P.pieces tb.disInsns.nodes))).1.length + rest.length := by
      rw [h.nodes, List.nil_append, List.length_append, Nat.zero_add]
    refine ⟨hnodes ▸ hnew, ?_⟩
    have := (carry_sublist (P.planFrom 0 (P.pieces tb.disInsns.nodes)) tb.rels).length_le
    rw [List.length_map] at this
    omega

end AddiRun

theorem StAddiVistor.storeOrLoad : stAddi.StoreOrLoad := ⟨fits_stAddi, .inl rfl⟩

theorem LdAddiVistor.storeOrLoad : ldAddi.StoreOrLoad := ⟨fits_ldAddi, .inr rfl⟩

/-! ### Branches -/

namespace FixBranchVistor

variable {tb tb' : TB ι}

/-- A distance between two indices of a block. -/
theorem toInt_sub_index {a b : ℕ} (ha : a < 2 ^ 15) (hb : b < 2 ^ 15) :
    -(2 ^ 15) ≤ (BitVec.ofNat 32 a - BitVec.ofNat 32 b).toInt ∧
      (BitVec.ofNat 32 a - BitVec.ofNat 32 b).toInt < 2 ^ 15 := by
  have hval : ∀ {c : ℕ}, c < 2 ^ 15 → (BitVec.ofNat 32 c).toInt = c := by
    intro c hc
    rw [BitVec.toInt_eq_toNat_of_lt (by rw [BitVec.toNat_ofNat]; omega), BitVec.toNat_ofNat,
      Nat.mod_eq_of_lt (by omega)]
  rw [BitVec.toInt_sub, hval ha, hval hb, Int.bmod_eq_of_le (by omega) (by omega)]
  omega

/-- `lastBne` finds a `bne` at its index. -/
theorem lastBne_eq_some : ∀ {nodes pre : List (ListNode LoongArchInsInfo)} {a : ℕ} {i : BitVec 32}
    {bne : Option (ℕ × BitVec 32)},
    lastBne (BitVec.ofNat 32 pre.length) bne nodes = some (a, i) → bne = some (a, i) ∨
      ∃ (k : ℕ) (n : ListNode LoongArchInsInfo), (pre ++ nodes)[k]? = some n ∧ n.addr = a ∧
        n.data.opc = .OPC_BNE ∧ i = BitVec.ofNat 32 k
  | [], pre, a, i, bne, h => .inl h
  | n :: nodes, pre, a, i, bne, h => by
    have hlen : BitVec.ofNat 32 pre.length + 1 = BitVec.ofNat 32 (pre ++ [n]).length := by
      rw [List.length_append, BitVec.ofNat_add]
      rfl
    have happ : (pre ++ [n]) ++ nodes = pre ++ n :: nodes := by simp
    rw [lastBne, hlen] at h
    rcases lastBne_eq_some h with h | h
    · split_ifs at h with hopc
      · rw [Option.some.injEq, Prod.mk.injEq] at h
        exact .inr ⟨pre.length, n, by simp, h.1, hopc, h.2.symm⟩
      · exact .inl h
    · rw [happ] at h
      exact .inr h

/-- What the search finds is a valid relocation behind the offset. -/
theorem mem_of_findClosest {o : BitVec 32} {c : AOTRel}
    (h : findClosestLoadTbAddrRelEntry tb o = some c) :
    ∃ r ∈ tb.rels, r.valid ∧ r.rel = c ∧ o.toNat < c.tcOffset.toNat := by
  rw [findClosest_eq_argmin] at h
  obtain ⟨r, hr, rfl⟩ := List.mem_map.mp (List.argmin_mem h)
  simp only [List.mem_filter, Bool.and_eq_true, decide_eq_true_eq] at hr
  exact ⟨r, hr.1, hr.2.1.2, rfl, hr.2.2⟩

/-- `fix_bne` of a block whose indices fit into the field of a `bne`. -/
theorem patched_fixBne (h : tb.Guarded) (hlen : tb.disInsns.nodes.length ≤ 2 ^ 15)
    (h1 : tb.originAotTb.slotValid 1) (hok : fixBne tb = .ok tb') : tb.Patched tb' := by
  obtain ⟨-, -, hok⟩ := bind_eq_ok.mp hok
  dsimp only at hok
  split at hok
  · cases hok
  · next a i hlast =>
    rcases @lastBne_eq_some _ [] _ _ _ hlast with hnone | ⟨k, n, hn, rfl, hopc, rfl⟩
    · cases hnone
    · have hslot := TB.lt_of_opcAt (h.slot 1 h1)
      have hk := (List.getElem?_eq_some_iff.mp hn).1
      have hidx : (tb.originAotTb.jmpTargetArg 1 >>> 2).setWidth 32 =
          BitVec.ofNat 32 (tb.originAotTb.slotIndex 1) := by
        rw [AOTTB.jmpTargetArg_shift, BitVec.setWidth_ofNat_of_le (by decide)]
      rw [List.nil_append] at hn hk
      rw [← Except.ok.inj hok, hidx]
      exact .updateInsn_of_nodes hn (.offsBne hopc (toInt_sub_index (by omega) (by omega)))

/-- `__fix_b` of a block with low relocations. -/
theorem patched_fixBOf (h : tb.Guarded) (hlow : tb.RelsLow) {k : Bool} (hok : fixBOf tb k = .ok tb') :
    tb.Patched tb' := by
  obtain ⟨n, hget, hok⟩ := bind_eq_ok.mp hok
  obtain ⟨_, hopc, hok⟩ := bind_eq_ok.mp hok
  have hn := TB.get_eq_ok hget
  have hlt := (List.getElem?_eq_some_iff.mp hn).1
  have hlen := h.length_lt
  split at hok
  · exact Except.ok.inj hok ▸ .refl tb
  · next c hc =>
    obtain ⟨r, hr, hv, rfl, hbehind⟩ := mem_of_findClosest hc
    rw [BitVec.toNat_ushiftRight, Nat.shiftRight_eq_div_pow] at hlt
    rw [BitVec.toNat_setWidth, Nat.mod_eq_of_lt (by omega)] at hbehind
    have hbound := (hlow r hr hv).2
    rw [← Except.ok.inj hok]
    refine .updateInsn_of_nodes hn (.offsB (of_decide_eq_true (assert_eq_ok.mp hopc)) ?_)
    rw [toInt_branchOffs hbehind]
    omega

theorem patched_visit (h : tb.Guarded) (hlen : tb.disInsns.nodes.length ≤ 2 ^ 15) (hlow : tb.RelsLow)
    (hok : visit tb = .ok tb') : tb.Patched tb' := by
  obtain ⟨tb₁, h1, h2⟩ := bind_eq_ok.mp hok
  have hbne : tb.Patched tb₁ ∧ tb₁.Guarded := by
    split_ifs at h1 with hv
    · rw [Bool.and_eq_true] at hv
      exact ⟨patched_fixBne h hlen hv.2 h1, h.assigned (fixBne_changes hv.1 hv.2 h1).assigned⟩
    · exact Except.ok.inj h1 ▸ ⟨.refl tb, h⟩
  refine hbne.1.trans ?_
  split_ifs at h2 with hlink
  · obtain ⟨k, hk, hk'⟩ := one_link_iff.mp hlink
    rw [fixB_eq hk hk'] at h2
    split_ifs at h2
    · exact patched_fixBOf hbne.2 (hbne.1.relsLow hlow) h2
    · exact Except.ok.inj h2 ▸ .refl tb₁
  · exact Except.ok.inj h2 ▸ .refl tb₁

end FixBranchVistor

/-! ### Any sequence of passes -/

/-- **Each pass** patches a block that is short and has its branches in order. -/
theorem Pass.patched {tb tb' : TB ι} (h : tb.Ordered) (hlen : tb.disInsns.nodes.length ≤ 2 ^ 15)
    (hlow : tb.RelsLow) : ∀ {pass : Pass}, pass.visit tb = .ok tb' → tb.Patched tb'
  | .removeNon, hok => by
    obtain ⟨tb₁, h1, hpatch⟩ := RemoveNonVistor.patched_visit tb
    rw [Pass.visit, h1] at hok
    exact Except.ok.inj hok ▸ hpatch
  | .lu12iOriLu32i, hok => LoadImm.patched_visit Lu12iOriLu32iVistor.startsWithLu12iW hok
  | .lu12iOri, hok => LoadImm.patched_visit Lu12iOriVistor.startsWithLu12iW hok
  | .stAddi, hok => by
    obtain ⟨tb₁, h1, hpatch⟩ := AddiRun.patched_visit StAddiVistor.storeOrLoad tb
    rw [Pass.visit, StAddiVistor.visit, h1] at hok
    exact Except.ok.inj hok ▸ hpatch
  | .ldAddi, hok => by
    obtain ⟨tb₁, h1, hpatch⟩ := AddiRun.patched_visit LdAddiVistor.storeOrLoad tb
    rw [Pass.visit, LdAddiVistor.visit, h1] at hok
    exact Except.ok.inj hok ▸ hpatch
  | .removeTail, hok => RemoveTailVistor.patched_visit h hok
  | .fixBranch, hok => FixBranchVistor.patched_visit h.toGuarded hlen hlow hok

/-- **Any sequence of passes** patches such a block. -/
theorem patched_runPasses : ∀ (passes : List Pass) {tb : TB ι}, tb.Ordered →
    tb.disInsns.nodes.length ≤ 2 ^ 15 → tb.RelsLow →
      ∃ tb', runPasses tb passes = .ok tb' ∧ tb.Patched tb'
  | [], tb, _, _, _ => ⟨tb, rfl, .refl tb⟩
  | pass :: passes, tb, h, hlen, hlow => by
    obtain ⟨tb₁, hok₁, h₁⟩ := pass.ordered_visit h
    have hpatch := Pass.patched h hlen hlow hok₁
    obtain ⟨tb', hok, hpatch'⟩ := patched_runPasses passes h₁ (hpatch.nodes.length_le.trans hlen)
      (hpatch.relsLow hlow)
    refine ⟨tb', ?_, hpatch.trans hpatch'⟩
    rw [runPasses, List.foldlM_cons, hok₁]
    exact hok

end AotOpt
