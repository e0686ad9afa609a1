import AotOpt.Vistor.Scan

/-!
# Loads of immediates

`Lu12i_Ori_Lu32i_Vistor` and `Lu12i_Ori_Vistor`: an immediate that is loaded with three or two
instructions becomes one `addi.d` when a register is known to hold a value close to it. The
two passes differ in the values of `LoadImm`, and in a check of one of them for relocations.

A loop that walks over the list is given the nodes from `iter` on. They are as they were
when the pass began: what is rewritten or deleted lies in front of them.

* `ordered_visit` — a pass does not stop on a block that has its branches in order, and
  leaves them in order.
-/

namespace AotOpt

variable {ι : Type}

/-- `ConstRegSet`. -/
structure ConstRegSet where
  size : ℤ
  regs : BitVec 8 → BitVec 64
  isConst : BitVec 8 → Bool

namespace ConstRegSet

/-- `ConstRegSet()`. -/
def empty : ConstRegSet := ⟨0, fun _ => 0, fun _ => false⟩

variable (s : ConstRegSet)

/-- `kill`. -/
def kill (which : BitVec 8) : ConstRegSet :=
  if s.isConst which then
    { s with isConst := Function.update s.isConst which false, size := s.size - 1 }
  else s

/-- `set`. -/
def set (which : BitVec 8) (imm : BitVec 64) : ConstRegSet :=
  if which = 0 then s
  else
    let s := { s with regs := Function.update s.regs which imm }
    if s.isConst which then s
    else { s with isConst := Function.update s.isConst which true, size := s.size + 1 }

/-- `get`. -/
def get (which : BitVec 8) : Res (BitVec 64) :=
  if s.isConst which then .ok (s.regs which) else .error .exit

end ConstRegSet

/-! ### What the instructions load -/

/-- `simulate_lu12i_w`. -/
def simulateLu12iW (si : BitVec 32) : BitVec 64 := si.signExtend 64 <<< 12

/-- `simulate_ori`. -/
def simulateOri (reg imm : BitVec 64) : BitVec 64 := reg ||| (imm &&& 0xfff)

/-- `simulate_lu32i_d`. -/
def simulateLu32iD (reg : BitVec 64) (si : BitVec 32) : BitVec 64 :=
  (reg &&& 0x00000000ffffffff) ||| (si.signExtend 64 <<< 32)

/-- `can_substitue_with_addi_insn`. -/
def canSubstitueWithAddiInsn (imm : BitVec 64) : Bool := -2048 ≤ imm.toInt && imm.toInt ≤ 2047

/-- The instruction that `substitue_with_addi_insn` makes. -/
def addiInsn (dstReg srcReg : BitVec 8) (imm : BitVec 32) : LoongArchInsInfo :=
  ((({ LoongArchInsInfo.zero with opc := .OPC_ADDI_D } : LoongArchInsInfo).set .dstReg dstReg).set
    (.srcsRegs 0) srcReg).set .si imm

/-- `substitue_with_addi_insn`. -/
def substitueWithAddiInsn (node : ListNode LoongArchInsInfo) (insnCount : ℕ) (srcReg : BitVec 8)
    (imm : BitVec 32) (tb : TB ι) (curIndex : BitVec 32) : Res (TB ι) := do
  let cur := curIndex + 1
  let (_, tb) ← tb.deleteRun (tb.disInsns.next node.addr) (cur.setWidth 64) (insnCount - 1)
  .ok (tb.updateInsn node.addr fun insn => addiInsn insn.dstReg srcReg imm)

/-! ### The two passes -/

/-- What the two passes differ in. -/
structure LoadImm where
  /-- How many instructions load the immediate. -/
  insnCount : ℕ
  /-- They are the ones the nodes begin with. -/
  isPattern : List (ListNode LoongArchInsInfo) → Bool
  /-- What they load. -/
  res : List (ListNode LoongArchInsInfo) → Res (BitVec 64)
  /-- Whether a pattern that a relocation covers is left as it is. -/
  checksRel : Bool
  insnCount_pos : 0 < insnCount := by decide
  /-- A pattern has that many instructions, none of them a `b` or `bne`, and loads something. -/
  pattern_spec : ∀ nodes, isPattern nodes = true → insnCount ≤ nodes.length ∧
    (∀ m ∈ nodes.take insnCount, isBOrBne m.data.opc = false) ∧ ∃ imm, res nodes = .ok imm

namespace LoadImm

variable (P : LoadImm)

/-- The loop over the registers: the first that is known to be close to the immediate, and what
it holds. -/
def closeReg (constSet : ConstRegSet) (curImm : BitVec 64) :
    List (BitVec 8) → Res (Option (BitVec 8 × BitVec 64))
  | [] => .ok none
  | i :: is =>
    if constSet.isConst i then do
      let imm ← constSet.get i
      if canSubstitueWithAddiInsn (curImm - imm) then .ok (some (i, imm))
      else closeReg constSet curImm is
    else closeReg constSet curImm is

/-- The registers from 1 to 31. -/
def regs : List (BitVec 8) := (List.range' 1 31).map (BitVec.ofNat 8)

/-- The loop of `opt_lu12i_ori_lu32i_pattern` and `opt_lu12i_ori_parttern`: the block, the
index, the constants, and the nodes from which `visit` goes on. -/
def optPattern : ℕ → TB ι → BitVec 32 → ConstRegSet → List (ListNode LoongArchInsInfo) →
    Res (TB ι × BitVec 32 × ConstRegSet × List (ListNode LoongArchInsInfo))
  | _, tb, cur, constSet, [] => .ok (tb, cur, constSet, [])
  | 0, _, _, _, _ => .error .depth
  | turns + 1, tb, cur, constSet, node :: nodes =>
    if P.isPattern (node :: nodes) && !(P.checksRel && tb.inScopeOfRel cur 2) then do
      let curImm ← P.res (node :: nodes)
      let close ← closeReg constSet curImm regs
      match close with
      | some (i, imm) => do
        let tb ← substitueWithAddiInsn node P.insnCount i ((curImm - imm).setWidth 32) tb cur
        -- the `addi.d` has the destination register of the instruction it replaces
        optPattern turns tb (cur + 1) (constSet.set node.data.dstReg curImm)
          (nodes.drop (P.insnCount - 1))
      | none =>
        optPattern turns tb (cur + BitVec.ofNat 32 P.insnCount)
          (constSet.set node.data.dstReg curImm) (nodes.drop (P.insnCount - 1))
    else if isBOrBne node.data.opc then .ok (tb, cur, constSet, node :: nodes)
    else
      let constSet := constSet.kill node.data.dstReg
      if constSet.size = 0 then .ok (tb, cur + 1, constSet, nodes)
      else optPattern turns tb (cur + 1) constSet nodes

/-- The loop of `visit`. -/
def visitFrom : ℕ → TB ι → BitVec 32 → ConstRegSet → List (ListNode LoongArchInsInfo) → Res (TB ι)
  | _, tb, _, _, [] => .ok tb
  | 0, _, _, _, _ => .error .depth
  | turns + 1, tb, cur, constSet, iter :: nodes =>
    if isBOrBne iter.data.opc then .ok tb
    else if P.isPattern (iter :: nodes) then do
      let imm ← P.res (iter :: nodes)
      let constSet := constSet.set iter.data.dstReg imm
      let (tb, cur, constSet, nodes) ← P.optPattern nodes.length tb
        (cur + BitVec.ofNat 32 P.insnCount) constSet (nodes.drop (P.insnCount - 1))
      visitFrom turns tb cur constSet nodes
    else visitFrom turns tb (cur + 1) constSet nodes

/-- `visit`. -/
def visit (tb : TB ι) : Res (TB ι) :=
  P.visitFrom tb.disInsns.nodes.length tb 0 .empty tb.disInsns.nodes

end LoadImm

namespace Lu12iOriLu32iVistor

/-- `is_lu12i_ori_lu32i_pattern`. -/
def isLu12iOriLu32iPattern : List (ListNode LoongArchInsInfo) → Bool
  | n₀ :: n₁ :: n₂ :: _ =>
    n₀.data.opc = .OPC_LU12I_W && n₁.data.opc = .OPC_ORI && n₁.data.dstReg = n₀.data.dstReg
      && n₁.data.srcsRegs 0 = n₀.data.dstReg && n₂.data.opc = .OPC_LU32I_D
      && n₂.data.dstReg = n₀.data.dstReg
  | _ => false

/-- `get_lu12i_ori_lu32i_res`. -/
def getLu12iOriLu32iRes : List (ListNode LoongArchInsInfo) → Res (BitVec 64)
  | lu12iInsn :: oriInsn :: lu32iInsn :: _ =>
    .ok (simulateLu32iD
      (simulateOri (simulateLu12iW lu12iInsn.data.si) (oriInsn.data.ui.setWidth 64)) lu32iInsn.data.si)
  | _ => .error .sentinel

theorem pattern_spec (nodes : List (ListNode LoongArchInsInfo))
    (h : isLu12iOriLu32iPattern nodes = true) : 3 ≤ nodes.length ∧
      (∀ m ∈ nodes.take 3, isBOrBne m.data.opc = false) ∧ ∃ imm, getLu12iOriLu32iRes nodes = .ok imm := by
  unfold isLu12iOriLu32iPattern at h
  split at h
  · next n₀ n₁ n₂ _ =>
    simp only [Bool.and_eq_true, decide_eq_true_eq] at h
    refine ⟨by simp, fun m hm => ?_, _, rfl⟩
    simp only [List.take_succ_cons, List.take_zero, List.mem_cons, List.not_mem_nil, or_false] at hm
    rcases hm with rfl | rfl | rfl
    · rw [h.1.1.1.1.1]; rfl
    · rw [h.1.1.1.1.2]; rfl
    · rw [h.1.2]; rfl
  · cases h

/-- The values of `Lu12i_Ori_Lu32i_Vistor`. -/
def lu12iOriLu32i : LoadImm where
  insnCount := 3
  isPattern := isLu12iOriLu32iPattern
  res := getLu12iOriLu32iRes
  checksRel := false
  pattern_spec := pattern_spec

/-- `Lu12i_Ori_Lu32i_Vistor::visit`. -/
def visit (tb : TB ι) : Res (TB ι) := lu12iOriLu32i.visit tb

end Lu12iOriLu32iVistor

namespace Lu12iOriVistor

/-- `is_lu12i_ori_pattern`. -/
def isLu12iOriPattern : List (ListNode LoongArchInsInfo) → Bool
  | n₀ :: n₁ :: _ =>
    n₀.data.opc = .OPC_LU12I_W && n₁.data.opc = .OPC_ORI && n₁.data.dstReg = n₀.data.dstReg
      && n₁.data.srcsRegs 0 = n₀.data.dstReg
  | _ => false

/-- `get_lu12i_ori_res`. -/
def getLu12iOriRes : List (ListNode LoongArchInsInfo) → Res (BitVec 64)
  | lu12iInsn :: oriInsn :: _ =>
    .ok (simulateOri (simulateLu12iW lu12iInsn.data.si) (oriInsn.data.ui.setWidth 64))
  | _ => .error .sentinel

theorem pattern_spec (nodes : List (ListNode LoongArchInsInfo))
    (h : isLu12iOriPattern nodes = true) : 2 ≤ nodes.length ∧
      (∀ m ∈ nodes.take 2, isBOrBne m.data.opc = false) ∧ ∃ imm, getLu12iOriRes nodes = .ok imm := by
  unfold isLu12iOriPattern at h
  split at h
  · next n₀ n₁ _ =>
    simp only [Bool.and_eq_true, decide_eq_true_eq] at h
    refine ⟨by simp, fun m hm => ?_, _, rfl⟩
    simp only [List.take_succ_cons, List.take_zero, List.mem_cons, List.not_mem_nil, or_false] at hm
    rcases hm with rfl | rfl
    · rw [h.1.1.1]; rfl
    · rw [h.1.1.2]; rfl
  · cases h

/-- The values of `Lu12i_Ori_Vistor`. -/
def lu12iOri : LoadImm where
  insnCount := 2
  isPattern := isLu12iOriPattern
  res := getLu12iOriRes
  checksRel := true
  pattern_spec := pattern_spec

/-- `Lu12i_Ori_Vistor::visit`. -/
def visit (tb : TB ι) : Res (TB ι) := lu12iOri.visit tb

end Lu12iOriVistor

/-! ### The branches stay -/

section Substitute

variable {tb : TB ι} {pre ns nodes : List (ListNode LoongArchInsInfo)}
  {node : ListNode LoongArchInsInfo}

/-- **`substitue_with_addi_insn`** deletes what follows of the pattern and rewrites its first
instruction, which is passed. -/
theorem substitueWithAddiInsn_ok (h : Scanned tb pre (node :: (ns ++ nodes)))
    (hnode : isBOrBne node.data.opc = false) (hns : ∀ m ∈ ns, isBOrBne m.data.opc = false)
    {cur : BitVec 32} (hcur : cur.toNat ≤ pre.length) (srcReg : BitVec 8) (imm : BitVec 32) :
    ∃ tb' pre', substitueWithAddiInsn node (ns.length + 1) srcReg imm tb cur = .ok tb' ∧
      Scanned tb' pre' nodes ∧ pre'.length = pre.length + 1 := by
  have hidx : ((cur + 1).setWidth 64).toNat ≤ (pre ++ [node]).length := by
    rw [BitVec.toNat_setWidth_of_le (by decide)]
    exact toNat_add_one_le hcur node
  obtain ⟨p, tb₁, hrun, h₁⟩ := (h.passOne hnode).deleteRun hns hidx
  have h₂ := h₁.back.update hnode (f := fun insn => addiInsn insn.dstReg srcReg imm) rfl
  refine ⟨_, _, ?_, h₂, by simp⟩
  rw [substitueWithAddiInsn, LinkList.next_mid h.nodes, Nat.add_sub_cancel, hrun]
  rfl

end Substitute

namespace LoadImm

variable (P : LoadImm)

/-- The loop over the registers gets no register that is not constant. -/
theorem closeReg_ok (constSet : ConstRegSet) (curImm : BitVec 64) :
    ∀ is : List (BitVec 8), ∃ r, closeReg constSet curImm is = .ok r
  | [] => ⟨none, rfl⟩
  | i :: is => by
    obtain ⟨r, hr⟩ := closeReg_ok constSet curImm is
    rw [closeReg, ConstRegSet.get]
    split_ifs with hconst
    · rw [ok_bind]
      split_ifs
      · exact ⟨_, rfl⟩
      · exact ⟨r, hr⟩
    · exact ⟨r, hr⟩

/-- The instructions of a pattern. -/
theorem isPattern_cases {node : ListNode LoongArchInsInfo} {nodes : List (ListNode LoongArchInsInfo)}
    (h : P.isPattern (node :: nodes) = true) : isBOrBne node.data.opc = false ∧
      (∀ m ∈ nodes.take (P.insnCount - 1), isBOrBne m.data.opc = false) ∧
        (nodes.take (P.insnCount - 1)).length + 1 = P.insnCount ∧ ∃ imm, P.res (node :: nodes) = .ok imm := by
  obtain ⟨hlen, hplain, hres⟩ := P.pattern_spec _ h
  obtain ⟨k, hk⟩ : ∃ k, P.insnCount = k + 1 := ⟨P.insnCount - 1, by have := P.insnCount_pos; omega⟩
  rw [hk, List.take_succ_cons] at hplain
  rw [hk, List.length_cons] at hlen
  rw [hk, Nat.add_sub_cancel, List.length_take_of_le (by omega)]
  exact ⟨hplain node List.mem_cons_self, fun m hm => hplain m (List.mem_cons_of_mem _ hm), rfl, hres⟩

/-- A pattern is passed. -/
theorem pass_pattern {tb : TB ι} {pre nodes : List (ListNode LoongArchInsInfo)}
    {node : ListNode LoongArchInsInfo} {cur : BitVec 32} (h : Scanned tb pre (node :: nodes))
    (hcur : cur.toNat ≤ pre.length) (hpat : P.isPattern (node :: nodes) = true) :
    ∃ pre', Scanned tb pre' (nodes.drop (P.insnCount - 1)) ∧
      (cur + BitVec.ofNat 32 P.insnCount).toNat ≤ pre'.length := by
  obtain ⟨hnode, hns, hcount, -⟩ := P.isPattern_cases hpat
  have h' : Scanned tb pre ((node :: nodes.take (P.insnCount - 1)) ++ nodes.drop (P.insnCount - 1)) := by
    rw [List.cons_append, List.take_append_drop]
    exact h
  refine ⟨_, h'.pass ?_, ?_⟩
  · intro m hm
    rcases List.mem_cons.mp hm with rfl | hm
    · exact hnode
    · exact hns m hm
  · rw [List.length_append, List.length_cons, hcount]
    exact toNat_add_ofNat_le hcur

/-- **The inner loop** does not stop. -/
theorem optPattern_ok : ∀ (turns : ℕ) {tb : TB ι} {pre nodes : List (ListNode LoongArchInsInfo)}
    {cur : BitVec 32} (constSet : ConstRegSet), nodes.length ≤ turns → Scanned tb pre nodes →
      cur.toNat ≤ pre.length → ∃ tb' cur' constSet' pre' nodes',
        P.optPattern turns tb cur constSet nodes = .ok (tb', cur', constSet', nodes') ∧
          Scanned tb' pre' nodes' ∧ cur'.toNat ≤ pre'.length ∧ nodes'.length ≤ nodes.length
  | turns, tb, pre, [], cur, constSet, _, h, hcur =>
    ⟨tb, cur, constSet, pre, [], by rw [optPattern], h, hcur, le_rfl⟩
  | turns + 1, tb, pre, node :: nodes, cur, constSet, hturns, h, hcur => by
    have hlen : nodes.length ≤ turns := by simpa using hturns
    have hdrop : (nodes.drop (P.insnCount - 1)).length ≤ nodes.length := by
      rw [List.length_drop]
      omega
    rw [optPattern]
    split_ifs with hpat hstop
    · rw [Bool.and_eq_true] at hpat
      obtain ⟨hnode, hns, hcount, imm, himm⟩ := P.isPattern_cases hpat.1
      obtain ⟨close, hclose⟩ := closeReg_ok constSet imm regs
      rw [himm, ok_bind, hclose, ok_bind]
      cases close with
      | none =>
        obtain ⟨pre₁, h₁, hcur₁⟩ := P.pass_pattern h hcur hpat.1
        obtain ⟨tb', cur', constSet', pre', nodes', hok, h', hcur', hle⟩ := optPattern_ok turns
          (constSet.set node.data.dstReg imm) (hdrop.trans hlen) h₁ hcur₁
        exact ⟨tb', cur', constSet', pre', nodes', hok, h', hcur', by rw [List.length_cons]; omega⟩
      | some r =>
        rw [← List.take_append_drop (P.insnCount - 1) nodes] at h
        obtain ⟨tb₁, pre₁, hsub, h₁, hpre₁⟩ := substitueWithAddiInsn_ok h hnode hns hcur r.1
          ((imm - r.2).setWidth 32)
        rw [hcount] at hsub
        obtain ⟨tb', cur', constSet', pre', nodes', hok, h', hcur', hle⟩ := optPattern_ok turns
          (constSet.set node.data.dstReg imm) (hdrop.trans hlen) h₁
          (hpre₁ ▸ toNat_add_ofNat_le hcur : (cur + BitVec.ofNat 32 1).toNat ≤ pre₁.length)
        refine ⟨tb', cur', constSet', pre', nodes', ?_, h', hcur', by rw [List.length_cons]; omega⟩
        dsimp only
        rw [hsub, ok_bind]
        exact hok
    · exact ⟨tb, cur, constSet, pre, node :: nodes, rfl, h, hcur, le_rfl⟩
    · have h₁ := h.passOne (by simpa using hstop)
      have hcur₁ := toNat_add_one_le hcur node
      dsimp only
      split_ifs
      · exact ⟨tb, cur + 1, _, _, nodes, rfl, h₁, hcur₁, by simp⟩
      · obtain ⟨tb', cur', constSet', pre', nodes', hok, h', hcur', hle⟩ := optPattern_ok turns
          (constSet.kill node.data.dstReg) hlen h₁ hcur₁
        exact ⟨tb', cur', constSet', pre', nodes', hok, h', hcur', by rw [List.length_cons]; omega⟩

/-- **The loop** from where the walk has come to does not stop. -/
theorem visitFrom_ok : ∀ (turns : ℕ) {tb : TB ι} {pre nodes : List (ListNode LoongArchInsInfo)}
    {cur : BitVec 32} (constSet : ConstRegSet), nodes.length ≤ turns → Scanned tb pre nodes →
      cur.toNat ≤ pre.length → ∃ tb', P.visitFrom turns tb cur constSet nodes = .ok tb' ∧ tb'.Ordered
  | turns, tb, pre, [], cur, constSet, _, h, hcur => ⟨tb, by rw [visitFrom], h.ordered⟩
  | turns + 1, tb, pre, iter :: nodes, cur, constSet, hturns, h, hcur => by
    have hlen : nodes.length ≤ turns := by simpa using hturns
    rw [visitFrom]
    split_ifs with hstop hpat
    · exact ⟨tb, rfl, h.ordered⟩
    · obtain ⟨-, -, -, imm, himm⟩ := P.isPattern_cases hpat
      obtain ⟨pre₁, h₁, hcur₁⟩ := P.pass_pattern h hcur hpat
      have hdrop : (nodes.drop (P.insnCount - 1)).length ≤ nodes.length := by
        rw [List.length_drop]
        omega
      obtain ⟨tb₂, cur₂, constSet₂, pre₂, nodes₂, hok, h₂, hcur₂, hle⟩ := P.optPattern_ok nodes.length
        (constSet.set iter.data.dstReg imm) hdrop h₁ hcur₁
      rw [himm, ok_bind]
      dsimp only
      rw [hok, ok_bind]
      exact visitFrom_ok turns constSet₂ (hle.trans (hdrop.trans hlen)) h₂ hcur₂
    · exact visitFrom_ok turns constSet hlen (h.passOne (by simpa using hstop))
        (toNat_add_one_le hcur iter)

/-- **`visit` of a block with its branches in order** does not stop and leaves them in
order. -/
theorem ordered_visit {tb : TB ι} (h : tb.Ordered) : ∃ tb', P.visit tb = .ok tb' ∧ tb'.Ordered :=
  P.visitFrom_ok _ .empty le_rfl (.start h) (Nat.zero_le _)

end LoadImm

end AotOpt
