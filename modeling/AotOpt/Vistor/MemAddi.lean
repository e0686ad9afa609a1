import AotOpt.Vistor.Scan

/-!
# Runs of memory accesses and additions

`St_Addi_Vistor` and `Ld_Addi_Vistor`: a run of pairs of a `st.d` or `ld.d` over a base
register and an `addi.d` that moves the base register on becomes the accesses with growing
immediates and one `addi.d` for each 256 or 255 pairs. The two passes differ in the values
of `AddiRun` only.

A loop that walks over the list is given the nodes from `iter` on. They are as they were
when the pass began: what is rewritten or deleted lies in front of `iter`.

* `ordered_visit` — a pass does not stop on a block that has its branches in order, and
  leaves them in order.
-/

namespace AotOpt

variable {ι : Type}

/-- The values in which the two passes differ. -/
structure AddiRun where
  /-- The opcode of the accesses. -/
  opc : LoongArchOpc
  /-- Their immediate. -/
  si : ℤ
  /-- The immediate of the additions. -/
  step : ℤ
  /-- How many pairs one addition is left for. -/
  max : ℕ
  /-- Which multiple of `step` the first access gets. -/
  first : ℤ
  opc_plain : isBOrBne opc = false := by rfl
  max_pos : 0 < max := by decide

namespace AddiRun

variable (P : AddiRun)

/-- `is_st_addi_pattern`, `is_ld_addi_pattern`, of the node the nodes begin with. -/
def isPattern : List (ListNode LoongArchInsInfo) → Bool
  | cur :: next :: _ =>
    cur.data.opc = P.opc && cur.data.si = BitVec.ofInt 32 P.si
      && next.data.opc = .OPC_ADDI_D && next.data.si = BitVec.ofInt 32 P.step
      && next.data.dstReg = cur.data.srcsRegs 0 && next.data.srcsRegs 0 = cur.data.srcsRegs 0
  | _ => false

/-- The inner loop of `visit`: how many pairs over the register follow. -/
def countPairs (reg : BitVec 8) : List (ListNode LoongArchInsInfo) → ℕ
  | iter :: next :: nodes =>
    if P.isPattern (iter :: next :: nodes) && iter.data.srcsRegs 0 = reg then
      countPairs reg nodes + 1
    else 0
  | _ => 0

/-- The loop of `opt_sequence_of_st_addi` and `opt_sequence_of_ld_addi`. -/
def optLoop (addiImm : BitVec 32) : ℕ → TB ι → BitVec 32 → ℤ → List (ListNode LoongArchInsInfo) →
    Res (TB ι × BitVec 32 × List (ListNode LoongArchInsInfo))
  | 0, tb, insnIndex, _, nodes => .ok (tb, insnIndex, nodes)
  | count + 1, tb, insnIndex, i, curInsn :: addiInsn :: nodes => do
    let tb := tb.updateInsn curInsn.addr (·.set .si (BitVec.ofInt 32 (i * P.step)))
    let addiInsnIndex := insnIndex + 1
    if count = 0 then
      optLoop addiImm count (tb.updateInsn addiInsn.addr (·.set .si addiImm)) insnIndex (i + 1) nodes
    else do
      let (_, tb) ← tb.deleteIthInsn (.node addiInsn.addr) (addiInsnIndex.setWidth 64)
      optLoop addiImm count tb addiInsnIndex (i + 1) nodes
  | _ + 1, _, _, _, _ => .error .sentinel

/-- `opt_sequence_of_st_addi`, `opt_sequence_of_ld_addi`. -/
def optSequence (tb : TB ι) (insn : List (ListNode LoongArchInsInfo)) (total : ℕ)
    (insnIndex : BitVec 32) : Res (TB ι) := do
  let count := min total P.max
  let (tb, insnIndex, curInsn) ←
    P.optLoop (BitVec.ofInt 32 (count * P.step)) count tb insnIndex P.first insn
  if P.max < total then optSequence tb curInsn (total - P.max) insnIndex else .ok tb
termination_by total
decreasing_by
  have := P.max_pos
  omega

/-- The loop of `visit`. -/
def visitFrom (tb : TB ι) (cur : BitVec 32) : List (ListNode LoongArchInsInfo) → Res (TB ι)
  | [] => .ok tb
  | iter :: nodes =>
    if isBOrBne iter.data.opc then .ok tb
    else if P.isPattern (iter :: nodes) then do
      let count := 1 + P.countPairs (iter.data.srcsRegs 0) (nodes.drop 1)
      let tb ← (if count ≠ 1 then P.optSequence tb (iter :: nodes) count cur else .ok tb : Res (TB ι))
      visitFrom tb (cur + BitVec.ofNat 32 (count + 1)) (nodes.drop (2 * count - 1))
    else visitFrom tb (cur + 1) nodes
termination_by nodes => nodes.length

/-- `visit`. -/
def visit (tb : TB ι) : Res (TB ι) := P.visitFrom tb 0 tb.disInsns.nodes

end AddiRun

namespace StAddiVistor

/-- The values of `St_Addi_Vistor`; 256 is `__MAX_ST_D`. -/
def stAddi : AddiRun where
  opc := .OPC_ST_D
  si := -8
  step := -8
  max := 256
  first := 1

/-- `is_st_addi_pattern`. -/
def isStAddiPattern : List (ListNode LoongArchInsInfo) → Bool := stAddi.isPattern

/-- `opt_sequence_of_st_addi`. -/
def optSequenceOfStAddi (tb : TB ι) (insn : List (ListNode LoongArchInsInfo)) (total : ℕ)
    (stInsnIndex : BitVec 32) : Res (TB ι) :=
  stAddi.optSequence tb insn total stInsnIndex

/-- `St_Addi_Vistor::visit`. -/
def visit (tb : TB ι) : Res (TB ι) := stAddi.visit tb

end StAddiVistor

namespace LdAddiVistor

/-- The values of `Ld_Addi_Vistor`; 255 is `__MAX_LD_D`. -/
def ldAddi : AddiRun where
  opc := .OPC_LD_D
  si := 0
  step := 8
  max := 255
  first := 0

/-- `is_ld_addi_pattern`. -/
def isLdAddiPattern : List (ListNode LoongArchInsInfo) → Bool := ldAddi.isPattern

/-- `opt_sequence_of_ld_addi`. -/
def optSequenceOfLdAddi (tb : TB ι) (insn : List (ListNode LoongArchInsInfo)) (total : ℕ)
    (ldInsnIndex : BitVec 32) : Res (TB ι) :=
  ldAddi.optSequence tb insn total ldInsnIndex

/-- `Ld_Addi_Vistor::visit`. -/
def visit (tb : TB ι) : Res (TB ι) := ldAddi.visit tb

end LdAddiVistor

/-! ### The branches stay -/

namespace AddiRun

variable (P : AddiRun) {tb : TB ι} {pre nodes : List (ListNode LoongArchInsInfo)}

/-- The two instructions of a pair. -/
theorem isPattern_cases (h : P.isPattern nodes = true) : ∃ cur next rest, nodes = cur :: next :: rest ∧
    isBOrBne cur.data.opc = false ∧ isBOrBne next.data.opc = false := by
  unfold isPattern at h
  split at h
  · next cur next rest =>
    simp only [Bool.and_eq_true, decide_eq_true_eq] at h
    refine ⟨cur, next, rest, rfl, ?_, ?_⟩
    · rw [h.1.1.1.1.1]
      exact P.opc_plain
    · rw [h.1.1.1.2]
      rfl
  · cases h

/-- The pairs that are counted are there. -/
theorem countPairs_spec (reg : BitVec 8) : ∀ nodes : List (ListNode LoongArchInsInfo),
    2 * P.countPairs reg nodes ≤ nodes.length ∧
      ∀ m ∈ nodes.take (2 * P.countPairs reg nodes), isBOrBne m.data.opc = false
  | [] => by simp [countPairs]
  | [_] => by simp [countPairs]
  | iter :: next :: nodes => by
    obtain ⟨hlen, hplain⟩ := countPairs_spec reg nodes
    rw [countPairs]
    split_ifs with h
    · rw [Bool.and_eq_true] at h
      obtain ⟨_, _, _, heq, hiter, hnext⟩ := P.isPattern_cases h.1
      simp only [List.cons.injEq] at heq
      obtain ⟨rfl, rfl, rfl⟩ := heq
      refine ⟨by simp only [List.length_cons]; omega, fun m hm => ?_⟩
      rw [Nat.mul_add, List.take_succ_cons, List.take_succ_cons, List.mem_cons, List.mem_cons] at hm
      rcases hm with rfl | rfl | hm
      · exact hiter
      · exact hnext
      · exact hplain m hm
    · simp

/-- **One chunk of a run**: the accesses are passed, and one addition. -/
theorem optLoop_ok (addiImm : BitVec 32) : ∀ (count : ℕ) {tb : TB ι}
    {pre nodes : List (ListNode LoongArchInsInfo)} {insnIndex : BitVec 32} (i : ℤ),
    Scanned tb pre nodes → insnIndex.toNat ≤ pre.length → 2 * count ≤ nodes.length →
    (∀ m ∈ nodes.take (2 * count), isBOrBne m.data.opc = false) →
    ∃ tb' insnIndex' pre', P.optLoop addiImm count tb insnIndex i nodes =
        .ok (tb', insnIndex', nodes.drop (2 * count)) ∧
      Scanned tb' pre' (nodes.drop (2 * count)) ∧ insnIndex'.toNat ≤ pre'.length ∧
        (0 < count → pre.length + count + 1 ≤ pre'.length)
  | 0, tb, pre, nodes, insnIndex, i, h, hidx, _, _ =>
    ⟨tb, insnIndex, pre, by simp [optLoop], by simpa using h, hidx, by simp⟩
  | count + 1, tb, pre, curInsn :: addiInsn :: nodes, insnIndex, i, h, hidx, hlen, hplain => by
    have htake : (curInsn :: addiInsn :: nodes).take (2 * (count + 1)) =
        curInsn :: addiInsn :: nodes.take (2 * count) := rfl
    rw [htake] at hplain
    have hcur := hplain curInsn List.mem_cons_self
    have haddi := hplain addiInsn (List.mem_cons_of_mem _ List.mem_cons_self)
    have h1 := h.update (f := (·.set .si (BitVec.ofInt 32 (i * P.step)))) hcur hcur
    have hdrop : (curInsn :: addiInsn :: nodes).drop (2 * (count + 1)) = nodes.drop (2 * count) := rfl
    rw [optLoop, hdrop]
    dsimp only
    split_ifs with hlast
    · subst hlast
      have h2 := h1.update (f := (·.set .si addiImm)) haddi haddi
      rw [optLoop]
      refine ⟨_, _, _, rfl, h2, ?_, fun _ => ?_⟩
      · simp only [List.length_append, List.length_singleton]
        omega
      · simp only [List.length_append, List.length_singleton]
        omega
    · have hidx1 : (insnIndex + 1).toNat ≤ pre.length + 1 := toNat_add_ofNat_le hidx
      obtain ⟨p, tb₁, pre₁, hdel, h2, hpre₁⟩ := h1.deleteIthInsn (i := (insnIndex + 1).setWidth 64) haddi
        (by rw [BitVec.toNat_setWidth_of_le (by decide), List.length_append]; exact hidx1)
      rw [List.length_append, List.length_singleton] at hpre₁
      rw [List.length_cons, List.length_cons] at hlen
      obtain ⟨tb', idx', pre', hok, h', hidx', hpre'⟩ := optLoop_ok addiImm count (i + 1) h2
        (hidx1.trans hpre₁) (by omega)
        (fun m hm => hplain m (List.mem_cons_of_mem _ (List.mem_cons_of_mem _ hm)))
      rw [hdel, ok_bind]
      exact ⟨tb', idx', pre', hok, h', hidx', fun _ => by have := hpre' (by omega); omega⟩
  | count + 1, _, _, [], _, _, _, _, hlen, _ => by simp at hlen
  | count + 1, _, _, [_], _, _, _, _, hlen, _ => by simp at hlen; omega

/-- **A run** is passed. -/
theorem optSequence_ok (total : ℕ) {tb : TB ι} {pre nodes : List (ListNode LoongArchInsInfo)}
    {insnIndex : BitVec 32} (h : Scanned tb pre nodes) (hidx : insnIndex.toNat ≤ pre.length)
    (hpos : 0 < total) (hlen : 2 * total ≤ nodes.length)
    (hplain : ∀ m ∈ nodes.take (2 * total), isBOrBne m.data.opc = false) :
    ∃ tb' pre', P.optSequence tb nodes total insnIndex = .ok tb' ∧
      Scanned tb' pre' (nodes.drop (2 * total)) ∧ pre.length + total + 1 ≤ pre'.length := by
  have hmax := P.max_pos
  have hle : 2 * min total P.max ≤ 2 * total := by omega
  obtain ⟨tb₁, idx₁, pre₁, hok₁, h₁, hidx₁, hpre₁⟩ := P.optLoop_ok
    (BitVec.ofInt 32 ((min total P.max : ℕ) * P.step)) (min total P.max) P.first h hidx (by omega)
    (fun m hm => hplain m ((List.take_subset_take_left _ hle) hm))
  have hpre₁ := hpre₁ (by omega)
  rw [optSequence, hok₁, ok_bind]
  dsimp only
  split_ifs with hmore
  · have hmin : min total P.max = P.max := by omega
    rw [hmin] at h₁ hpre₁ ⊢
    have hrest : ∀ m ∈ (nodes.drop (2 * P.max)).take (2 * (total - P.max)),
        isBOrBne m.data.opc = false := by
      intro m hm
      rw [show 2 * (total - P.max) = 2 * total - 2 * P.max by omega, ← List.drop_take] at hm
      exact hplain m (List.mem_of_mem_drop hm)
    obtain ⟨tb', pre', hok, h', hpre'⟩ := optSequence_ok (total - P.max) h₁ hidx₁ (by omega)
      (by rw [List.length_drop]; omega) hrest
    rw [List.drop_drop, show 2 * P.max + 2 * (total - P.max) = 2 * total by omega] at h'
    exact ⟨tb', pre', hok, h', by omega⟩
  · have hmin : min total P.max = total := by omega
    rw [hmin] at h₁ hpre₁
    exact ⟨tb₁, pre₁, rfl, h₁, hpre₁⟩
termination_by total

/-- A run that has one pair is passed as it is. -/
theorem passRun_ok {count : ℕ} {cur : BitVec 32} (h : Scanned tb pre nodes)
    (hcur : cur.toNat ≤ pre.length) (hpos : 0 < count) (hlen : 2 * count ≤ nodes.length)
    (hplain : ∀ m ∈ nodes.take (2 * count), isBOrBne m.data.opc = false) :
    ∃ tb' pre', (if count ≠ 1 then P.optSequence tb nodes count cur else .ok tb : Res (TB ι)) = .ok tb' ∧
      Scanned tb' pre' (nodes.drop (2 * count)) ∧ pre.length + count + 1 ≤ pre'.length := by
  split_ifs with hone
  · exact P.optSequence_ok count h hcur hpos hlen hplain
  · refine ⟨tb, pre ++ nodes.take (2 * count), rfl, ?_, ?_⟩
    · rw [← List.take_append_drop (2 * count) nodes] at h
      exact h.pass hplain
    · rw [List.length_append, List.length_take_of_le hlen]
      omega

/-- The run that begins with a pattern. -/
theorem run_spec {iter : ListNode LoongArchInsInfo} (h : P.isPattern (iter :: nodes) = true) {count : ℕ}
    (hcount : count = 1 + P.countPairs (iter.data.srcsRegs 0) (nodes.drop 1)) :
    2 * count ≤ (iter :: nodes).length ∧
      (∀ m ∈ (iter :: nodes).take (2 * count), isBOrBne m.data.opc = false) ∧
        nodes.drop (2 * count - 1) = (iter :: nodes).drop (2 * count) := by
  obtain ⟨_, next, rest, heq, hiter, hnext⟩ := P.isPattern_cases h
  obtain ⟨rfl, rfl⟩ := List.cons.inj heq
  obtain ⟨hlen, hplain⟩ := P.countPairs_spec (iter.data.srcsRegs 0) rest
  rw [List.drop_succ_cons, List.drop_zero] at hcount
  refine ⟨by simp only [List.length_cons]; omega, fun m hm => ?_, ?_⟩
  · rw [show 2 * count = 2 * P.countPairs (iter.data.srcsRegs 0) rest + 1 + 1 by omega,
      List.take_succ_cons, List.take_succ_cons, List.mem_cons, List.mem_cons] at hm
    rcases hm with rfl | rfl | hm
    exacts [hiter, hnext, hplain m hm]
  · conv_rhs => rw [show 2 * count = 2 * count - 1 + 1 by omega, List.drop_succ_cons]

/-- **The loop** from where the walk has come to does not stop. -/
theorem visitFrom_ok : ∀ (nodes : List (ListNode LoongArchInsInfo)) {tb : TB ι}
    {pre : List (ListNode LoongArchInsInfo)} {cur : BitVec 32}, Scanned tb pre nodes →
      cur.toNat ≤ pre.length → ∃ tb', P.visitFrom tb cur nodes = .ok tb' ∧ tb'.Ordered
  | [], tb, _, _, h, _ => ⟨tb, by rw [visitFrom], h.ordered⟩
  | iter :: nodes, tb, pre, cur, h, hcur => by
    rw [visitFrom]
    split_ifs with hstop hpat
    · exact ⟨tb, rfl, h.ordered⟩
    · generalize hcount : 1 + P.countPairs (iter.data.srcsRegs 0) (nodes.drop 1) = count
      obtain ⟨hlen, hplain, hdrop⟩ := P.run_spec hpat hcount.symm
      obtain ⟨tb₁, pre₁, hok, h₁, hpre₁⟩ := P.passRun_ok h hcur (by omega) hlen hplain
      dsimp only
      rw [hok, ok_bind, hdrop]
      refine visitFrom_ok _ h₁ ((toNat_add_ofNat_le hcur).trans ?_)
      omega
    · exact visitFrom_ok nodes (h.passOne (by simpa using hstop)) (toNat_add_one_le hcur iter)
termination_by nodes => nodes.length

/-- **`visit` of a block with its branches in order** does not stop and leaves them in
order. -/
theorem ordered_visit (h : tb.Ordered) : ∃ tb', P.visit tb = .ok tb' ∧ tb'.Ordered :=
  P.visitFrom_ok _ (.start h) (Nat.zero_le _)

end AddiRun

end AotOpt
