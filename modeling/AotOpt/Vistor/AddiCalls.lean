import AotOpt.Vistor.AddiPasses

/-!
# The indices at which additions are deleted

`opt_sequence_of_st_addi` and `opt_sequence_of_ld_addi` count the index of the next addition
along by hand. Here the loops also list the calls of `delete_ith_insn` that they make, each
with the block it is made on.

A chunk leaves one addition, and the next chunk of the same run begins two instructions
further on, but is given the index at which the chunk ended. The index of `visit` then falls
behind by one for each further chunk.

* `erase_visitCalls` — listing the calls changes nothing.
* `exact_visitCalls_iff` — in a block without valid relocations every index is where the node
  is if and only if the runs are in step.
-/

namespace AotOpt

open DisassmbleVistor

variable {ι : Type}

/-- A call `delete_ith_insn(node, i)`, and the block it is made on. -/
structure DeleteCall (ι : Type) where
  tb : TB ι
  node : Ptr
  i : BitVec 64

/-- The index is the position of the node. -/
def DeleteCall.Exact (c : DeleteCall ι) : Prop :=
  ∃ n : ListNode LoongArchInsInfo, c.tb.disInsns.nodes[c.i.toNat]? = some n ∧ c.node = .node n.addr

theorem DeleteCall.exact_iff {tb : TB ι} {pre rest : List (ListNode LoongArchInsInfo)}
    {n : ListNode LoongArchInsInfo} (h : tb.disInsns.nodes = pre ++ n :: rest) (i : BitVec 64) :
    (DeleteCall.mk tb (.node n.addr) i).Exact ↔ i.toNat = pre.length := by
  constructor
  · rintro ⟨m, hm, heq⟩
    have haddr : m.addr = n.addr := (Ptr.node.inj heq).symm
    have hpos := LinkList.pos_of_nodes hm
    rw [haddr, LinkList.pos_of_nodes (LinkList.nodes_mid h)] at hpos
    exact hpos.symm
  · intro hi
    exact ⟨n, by rw [hi]; exact LinkList.nodes_mid h, rfl⟩

namespace AddiRun

variable (P : AddiRun)

/-! ### The loops with their calls -/

/-- The loop of `opt_sequence_of_st_addi` and `opt_sequence_of_ld_addi`. -/
def optLoopCalls (addiImm : BitVec 32) : ℕ → TB ι → BitVec 32 → ℤ → List (ListNode LoongArchInsInfo) →
    Res (List (DeleteCall ι) × TB ι × BitVec 32 × List (ListNode LoongArchInsInfo))
  | 0, tb, insnIndex, _, nodes => .ok ([], tb, insnIndex, nodes)
  | count + 1, tb, insnIndex, i, curInsn :: addiInsn :: nodes => do
    let tb := tb.updateInsn curInsn.addr (·.set .si (BitVec.ofInt 32 (i * P.step)))
    let addiInsnIndex := insnIndex + 1
    if count = 0 then
      optLoopCalls addiImm count (tb.updateInsn addiInsn.addr (·.set .si addiImm)) insnIndex (i + 1) nodes
    else do
      let call := ⟨tb, .node addiInsn.addr, addiInsnIndex.setWidth 64⟩
      let (_, tb) ← tb.deleteIthInsn (.node addiInsn.addr) (addiInsnIndex.setWidth 64)
      let (calls, r) ← optLoopCalls addiImm count tb addiInsnIndex (i + 1) nodes
      .ok (call :: calls, r)
  | _ + 1, _, _, _, _ => .error .sentinel

/-- `opt_sequence_of_st_addi`, `opt_sequence_of_ld_addi`. -/
def optSequenceCalls (tb : TB ι) (insn : List (ListNode LoongArchInsInfo)) (total : ℕ)
    (insnIndex : BitVec 32) : Res (List (DeleteCall ι) × TB ι) := do
  let count := min total P.max
  let (calls, tb, insnIndex, curInsn) ←
    P.optLoopCalls (BitVec.ofInt 32 (count * P.step)) count tb insnIndex P.first insn
  if P.max < total then do
    let (calls', tb) ← optSequenceCalls tb curInsn (total - P.max) insnIndex
    .ok (calls ++ calls', tb)
  else .ok (calls, tb)
termination_by total
decreasing_by
  have := P.max_pos
  omega

/-- The loop of `visit`. -/
def visitCallsFrom (tb : TB ι) (cur : BitVec 32) : List (ListNode LoongArchInsInfo) →
    Res (List (DeleteCall ι) × TB ι)
  | [] => .ok ([], tb)
  | iter :: nodes =>
    if isBOrBne iter.data.opc then .ok ([], tb)
    else if P.isPattern (iter :: nodes) then do
      let count := 1 + P.countPairs (iter.data.srcsRegs 0) (nodes.drop 1)
      let (calls, tb) ← (if count ≠ 1 then P.optSequenceCalls tb (iter :: nodes) count cur
        else .ok ([], tb) : Res (List (DeleteCall ι) × TB ι))
      let (calls', tb) ← visitCallsFrom tb (cur + BitVec.ofNat 32 (count + 1)) (nodes.drop (2 * count - 1))
      .ok (calls ++ calls', tb)
    else visitCallsFrom tb (cur + 1) nodes
termination_by nodes => nodes.length

/-- `visit`. -/
def visitCalls (tb : TB ι) : Res (List (DeleteCall ι) × TB ι) :=
  P.visitCallsFrom tb 0 tb.disInsns.nodes

/-! ### Listing the calls changes nothing -/

theorem erase_optLoopCalls (addiImm : BitVec 32) : ∀ (count : ℕ) (tb : TB ι) (insnIndex : BitVec 32)
    (i : ℤ) (nodes : List (ListNode LoongArchInsInfo)),
    (P.optLoopCalls addiImm count tb insnIndex i nodes).map (·.2) =
      P.optLoop addiImm count tb insnIndex i nodes := by
  intro count
  induction count with
  | zero =>
    intro tb insnIndex i nodes
    rw [optLoopCalls, optLoop]
    rfl
  | succ count ih =>
    intro tb insnIndex i nodes
    rcases nodes with _ | ⟨curInsn, _ | ⟨addiInsn, nodes⟩⟩
    · rfl
    · rfl
    · rw [optLoopCalls, optLoop]
      dsimp only
      split_ifs
      · exact ih _ _ _ _
      · rw [res_map_bind]
        refine bind_congr fun a => ?_
        rw [res_map_bind, ← ih]
        cases P.optLoopCalls addiImm count a.2 (insnIndex + 1) (i + 1) nodes <;> rfl

theorem erase_optSequenceCalls (total : ℕ) (tb : TB ι) (insn : List (ListNode LoongArchInsInfo))
    (insnIndex : BitVec 32) :
    (P.optSequenceCalls tb insn total insnIndex).map (·.2) = P.optSequence tb insn total insnIndex := by
  have hmax := P.max_pos
  rw [optSequenceCalls, optSequence, res_map_bind, ← erase_optLoopCalls]
  cases P.optLoopCalls (BitVec.ofInt 32 ((min total P.max : ℕ) * P.step)) (min total P.max) tb insnIndex
    P.first insn with
  | error e => rfl
  | ok r =>
    show Except.map _ (if _ then _ else _) = if _ then _ else _
    split_ifs
    · rw [← erase_optSequenceCalls (total - P.max), res_map_bind]
      cases P.optSequenceCalls r.2.1 r.2.2.2 (total - P.max) r.2.2.1 <;> rfl
    · rfl
termination_by total

theorem erase_visitCallsFrom : ∀ (nodes : List (ListNode LoongArchInsInfo)) (tb : TB ι) (cur : BitVec 32),
    (P.visitCallsFrom tb cur nodes).map (·.2) = P.visitFrom tb cur nodes
  | [], tb, cur => by rw [visitCallsFrom, visitFrom]; rfl
  | iter :: nodes, tb, cur => by
    rw [visitCallsFrom, visitFrom]
    split_ifs with hstop hpat
    · rfl
    · dsimp only
      have hrun : ∀ count : ℕ, Except.map (·.2)
          (if count ≠ 1 then P.optSequenceCalls tb (iter :: nodes) count cur
            else .ok ([], tb) : Res (List (DeleteCall ι) × TB ι)) =
          (if count ≠ 1 then P.optSequence tb (iter :: nodes) count cur else .ok tb : Res (TB ι)) := by
        intro count
        split_ifs
        · exact P.erase_optSequenceCalls count tb (iter :: nodes) cur
        · rfl
      rw [res_map_bind, ← hrun]
      cases (if 1 + P.countPairs (iter.data.srcsRegs 0) (nodes.drop 1) ≠ 1 then P.optSequenceCalls tb
          (iter :: nodes) (1 + P.countPairs (iter.data.srcsRegs 0) (nodes.drop 1)) cur
        else .ok ([], tb) : Res (List (DeleteCall ι) × TB ι)) with
      | error e => rfl
      | ok r =>
        show Except.map _ (_ >>= _) = P.visitFrom r.2 _ _
        rw [← erase_visitCallsFrom, res_map_bind]
        cases P.visitCallsFrom r.2 (cur + BitVec.ofNat 32
          (1 + P.countPairs (iter.data.srcsRegs 0) (nodes.drop 1) + 1))
          (nodes.drop (2 * (1 + P.countPairs (iter.data.srcsRegs 0) (nodes.drop 1)) - 1)) <;> rfl
    · exact erase_visitCallsFrom nodes tb (cur + 1)
termination_by nodes => nodes.length

/-- **The visit with its calls** is the visit. -/
theorem erase_visitCalls (tb : TB ι) : (P.visitCalls tb).map (·.2) = P.visit tb :=
  P.erase_visitCallsFrom _ _ _

/-! ### The requests and the positions -/

/-- Each deletion is requested at the position that the node then has, if the first entry is at
position `k`. -/
def InStep : ℕ → List (ListNode LoongArchInsInfo × Option (BitVec 32)) → Prop
  | _, [] => True
  | k, (_, none) :: es => InStep (k + 1) es
  | k, (_, some i) :: es => i.toNat = k ∧ InStep k es

theorem inStep_append (k : ℕ) (es es' : List (ListNode LoongArchInsInfo × Option (BitVec 32))) :
    InStep k (es ++ es') ↔ InStep k es ∧ InStep (k + (kept es).length) es' := by
  induction es generalizing k with
  | nil => simp [InStep, kept]
  | cons e es ih =>
    obtain ⟨n, i⟩ := e
    cases i with
    | none =>
      rw [List.cons_append, InStep, InStep, ih, kept_cons_none, List.length_cons]
      rw [Nat.add_assoc, Nat.add_comm 1]
    | some i => rw [List.cons_append, InStep, InStep, ih, kept_cons_some, and_assoc]

theorem inStep_keep (k : ℕ) (ns : List (ListNode LoongArchInsInfo)) : InStep k (ns.map (·, none)) := by
  induction ns generalizing k with
  | nil => trivial
  | cons n ns ih => exact ih (k + 1)

/-- The calls were made for the requests of `es`, which begin behind `pre`. -/
def Called (pre : List (ListNode LoongArchInsInfo)) (calls : List (DeleteCall ι))
    (es : List (ListNode LoongArchInsInfo × Option (BitVec 32))) : Prop :=
  (∀ c ∈ calls, c.Exact) ↔ InStep pre.length es

section Called

variable {tb tb' : TB ι} {pre rest : List (ListNode LoongArchInsInfo)} {calls calls' : List (DeleteCall ι)}
  {es es' : List (ListNode LoongArchInsInfo × Option (BitVec 32))}

theorem Called.keep (ns : List (ListNode LoongArchInsInfo)) :
    Called pre ([] : List (DeleteCall ι)) (ns.map (·, none)) := by
  simp [Called, inStep_keep]

theorem Called.append (h : Called pre calls es) (h' : Called (pre ++ kept es) calls' es') :
    Called pre (calls ++ calls') (es ++ es') := by
  rw [Called] at h h' ⊢
  rw [List.forall_mem_append, h, h', inStep_append, List.length_append]

theorem Called.request {n : ListNode LoongArchInsInfo} (h : tb.disInsns.nodes = pre ++ n :: rest)
    (i : BitVec 32) : Called pre [⟨tb, .node n.addr, i.setWidth 64⟩] [(n, some i)] := by
  rw [Called, List.forall_mem_singleton, DeleteCall.exact_iff h,
    BitVec.toNat_setWidth_of_le (by decide)]
  exact (and_iff_left trivial).symm

/-- Without valid relocations every request is carried out. -/
theorem Carried.nodes_kept (h : Carried tb tb' pre rest es) (hrels : ∀ r ∈ tb.rels, r.valid = false) :
    tb'.disInsns.nodes = pre ++ kept es ++ rest := by
  rw [h.nodes, carry_of_accepted (accepted_of_not_valid hrels)]

theorem Carried.trans_kept {tb'' : TB ι} {rest' : List (ListNode LoongArchInsInfo)}
    (h : Carried tb tb' pre rest' es) (hrels : ∀ r ∈ tb.rels, r.valid = false)
    (h' : Carried tb' tb'' (pre ++ kept es) rest es') : Carried tb tb'' pre rest (es ++ es') := by
  rw [← carry_of_accepted (accepted_of_not_valid hrels)] at h'
  exact h.trans h'

theorem not_valid_carry : ∀ {es : List (ListNode LoongArchInsInfo × Option (BitVec 32))}
    {rels : List RelSlot}, (∀ r ∈ rels, r.valid = false) → ∀ r ∈ (carry rels es).2, r.valid = false
  | [], _, h => h
  | (_, none) :: _, _, h => by
    rw [carry]
    exact not_valid_carry h
  | (_, some i) :: es, rels, h => by
    rw [carry]
    split_ifs
    · exact not_valid_carry h
    · refine not_valid_carry fun r hr => ?_
      obtain ⟨r₀, hr₀, rfl⟩ := List.mem_map.mp hr
      simp [h r₀ hr₀]

theorem Carried.not_valid (h : Carried tb tb' pre rest es) (hrels : ∀ r ∈ tb.rels, r.valid = false) :
    ∀ r ∈ tb'.rels, r.valid = false := by
  rw [h.rels]
  exact not_valid_carry hrels

end Called

/-- **One chunk** of a run. -/
theorem optLoopCalls_eq (addiImm : BitVec 32) :
    ∀ (ps : List (ListNode LoongArchInsInfo × ListNode LoongArchInsInfo)) {tb : TB ι}
      {pre rest : List (ListNode LoongArchInsInfo)} (insnIndex : BitVec 32) (i : ℤ),
      (∀ r ∈ tb.rels, r.valid = false) → tb.disInsns.nodes = pre ++ (unpair ps ++ rest) →
      ∃ calls tb', P.optLoopCalls addiImm ps.length tb insnIndex i (unpair ps ++ rest) =
          .ok (calls, tb', insnIndex + BitVec.ofNat 32 (ps.length - 1), rest) ∧
        Carried tb tb' pre rest (P.planChunk addiImm insnIndex i ps) ∧
        Called pre calls (P.planChunk addiImm insnIndex i ps)
  | [], tb, pre, rest, insnIndex, i, _, h =>
    ⟨[], tb, by simp [optLoopCalls, unpair], .nil h, by simp [Called, planChunk, InStep]⟩
  | [p], tb, pre, rest, insnIndex, i, _, h => by
    have h1 := Carried.withSi h (BitVec.ofInt 32 (i * P.step))
    have h2 := Carried.withSi h1.nodes addiImm
    refine ⟨[], _, ?_, h1.trans h2, Called.keep [_, _]⟩
    simp [optLoopCalls, unpair]
  | p :: p' :: ps, tb, pre, rest, insnIndex, i, hrels, h => by
    have h1 := Carried.withSi h (BitVec.ofInt 32 (i * P.step))
    obtain ⟨q, tb₂, hdel, h2⟩ := Carried.request h1.nodes (insnIndex + 1)
    have h12 := h1.trans h2
    obtain ⟨calls, tb', hok, h', hcalls⟩ := optLoopCalls_eq addiImm (p' :: ps) (insnIndex + 1) (i + 1)
      (h12.not_valid hrels) (h12.nodes_kept hrels)
    have hkeep : Called pre ([] : List (DeleteCall ι))
        [(withSi p.1 (BitVec.ofInt 32 (i * P.step)), none)] := .keep [_]
    have hcall := hkeep.append (Called.request h1.nodes (insnIndex + 1))
    refine ⟨_, tb', ?_, h12.trans_kept hrels h', hcall.append hcalls⟩
    have hidx : insnIndex + 1 + BitVec.ofNat 32 ((p' :: ps).length - 1) =
        insnIndex + BitVec.ofNat 32 ((p :: p' :: ps).length - 1) := by
      simp only [List.length_cons, Nat.add_sub_cancel]
      rw [BitVec.add_assoc, Nat.add_comm ps.length, BitVec.ofNat_add]
      rfl
    rw [hidx] at hok
    show P.optLoopCalls addiImm ((p' :: ps).length + 1) tb insnIndex i
      (p.1 :: p.2 :: (unpair (p' :: ps) ++ rest)) = _
    rw [optLoopCalls, if_neg (by simp)]
    dsimp only
    rw [hdel, ok_bind, hok]
    rfl

/-- **A run**. -/
theorem optSequenceCalls_eq (ps : List (ListNode LoongArchInsInfo × ListNode LoongArchInsInfo))
    {tb : TB ι} {pre rest : List (ListNode LoongArchInsInfo)} (insnIndex : BitVec 32)
    (hrels : ∀ r ∈ tb.rels, r.valid = false) (h : tb.disInsns.nodes = pre ++ (unpair ps ++ rest)) :
    ∃ calls tb', P.optSequenceCalls tb (unpair ps ++ rest) ps.length insnIndex = .ok (calls, tb') ∧
      Carried tb tb' pre rest (P.planRun insnIndex ps) ∧ Called pre calls (P.planRun insnIndex ps) := by
  have hmax := P.max_pos
  have hsplit : unpair ps ++ rest =
      unpair (ps.take (min ps.length P.max)) ++ (unpair (ps.drop (min ps.length P.max)) ++ rest) := by
    rw [← List.append_assoc, ← unpair_append, List.take_append_drop]
  rw [hsplit] at h
  obtain ⟨calls₁, tb₁, hok₁, h₁, hcalls₁⟩ := P.optLoopCalls_eq
    (BitVec.ofInt 32 ((min ps.length P.max : ℕ) * P.step)) _ insnIndex P.first hrels h
  rw [List.length_take, Nat.min_eq_left (Nat.min_le_left _ _), ← hsplit] at hok₁
  rw [optSequenceCalls, hok₁, ok_bind, planRun]
  dsimp only
  split_ifs with hmore
  · have hmin : min ps.length P.max = P.max := Nat.min_eq_right hmore.le
    rw [hmin] at h₁ hcalls₁ ⊢
    obtain ⟨calls, tb', hok, h', hcalls⟩ := optSequenceCalls_eq (ps.drop P.max)
      (insnIndex + BitVec.ofNat 32 (P.max - 1)) (h₁.not_valid hrels) (h₁.nodes_kept hrels)
    rw [List.length_drop] at hok
    exact ⟨calls₁ ++ calls, tb', by rw [hok]; rfl, h₁.trans_kept hrels h', hcalls₁.append hcalls⟩
  · have hmin : min ps.length P.max = ps.length := Nat.min_eq_left (not_lt.mp hmore)
    rw [hmin, List.drop_length] at h₁
    rw [hmin] at hcalls₁ ⊢
    rw [List.append_nil]
    exact ⟨calls₁, tb₁, rfl, h₁, hcalls₁⟩
termination_by ps.length

/-- A run, or the pair that is passed as it is. -/
theorem passRunCalls_eq (ps : List (ListNode LoongArchInsInfo × ListNode LoongArchInsInfo)) {tb : TB ι}
    {pre rest : List (ListNode LoongArchInsInfo)} (cur : BitVec 32)
    (hrels : ∀ r ∈ tb.rels, r.valid = false) (h : tb.disInsns.nodes = pre ++ (unpair ps ++ rest)) :
    ∃ calls tb', (if ps.length ≠ 1 then P.optSequenceCalls tb (unpair ps ++ rest) ps.length cur
        else .ok ([], tb) : Res (List (DeleteCall ι) × TB ι)) = .ok (calls, tb') ∧
      Carried tb tb' pre rest
        (if ps.length ≠ 1 then P.planRun cur ps else (unpair ps).map (·, none)) ∧
      Called pre calls (if ps.length ≠ 1 then P.planRun cur ps else (unpair ps).map (·, none)) := by
  split_ifs
  · exact P.optSequenceCalls_eq ps cur hrels h
  · exact ⟨[], tb, rfl, .keep _ h, .keep _⟩

/-- **The loop** from where the walk has come to. -/
theorem visitCallsFrom_eq : ∀ (nodes : List (ListNode LoongArchInsInfo)) {tb : TB ι}
    {pre : List (ListNode LoongArchInsInfo)} (cur : BitVec 32), (∀ r ∈ tb.rels, r.valid = false) →
    tb.disInsns.nodes = pre ++ nodes →
    ∃ calls tb', P.visitCallsFrom tb cur nodes = .ok (calls, tb') ∧
      Called pre calls (P.planFrom cur (P.pieces nodes))
  | [], tb, pre, cur, _, _ => ⟨[], tb, by rw [visitCallsFrom], by rw [pieces]; exact .keep []⟩
  | iter :: nodes, tb, pre, cur, hrels, h => by
    rw [visitCallsFrom, pieces]
    split_ifs with hstop hpat
    · exact ⟨[], tb, rfl, .keep []⟩
    · dsimp only
      obtain ⟨hlength, hsplit⟩ := P.pieces_cons hpat rfl
      rw [hsplit] at h
      obtain ⟨calls₁, tb₁, hok, h₁, hcalls₁⟩ := P.passRunCalls_eq _ cur hrels h
      rw [hlength, ← hsplit] at hok
      rw [hok, ok_bind]
      obtain ⟨calls, tb', hok', hcalls⟩ := visitCallsFrom_eq
        (nodes.drop (2 * (1 + P.countPairs (iter.data.srcsRegs 0) (nodes.drop 1)) - 1))
        (cur + BitVec.ofNat 32 (1 + P.countPairs (iter.data.srcsRegs 0) (nodes.drop 1) + 1))
        (h₁.not_valid hrels) (h₁.nodes_kept hrels)
      refine ⟨calls₁ ++ calls, tb', by rw [hok']; rfl, ?_⟩
      rw [planFrom]
      simpa only [hlength] using hcalls₁.append hcalls
    · have h₁ := Carried.keep [iter] h
      obtain ⟨calls, tb', hok', hcalls⟩ := visitCallsFrom_eq nodes (cur + 1) hrels
        (h₁.nodes_kept hrels)
      exact ⟨calls, tb', hok', (Called.keep [iter]).append hcalls⟩
termination_by nodes => nodes.length

/-! ### Which runs are in step -/

/-- The runs are in step: a run that is longer than one chunk has one pair more, and the runs
after it have one pair. -/
def RunsInStep : List Piece → Prop
  | [] => True
  | .other _ :: qs => RunsInStep qs
  | .run ps :: qs =>
    if ps.length ≤ P.max then RunsInStep qs
    else ps.length = P.max + 1 ∧ ∀ ps', Piece.run ps' ∈ qs → ps'.length = 1

theorem length_kept_planChunk (addiImm : BitVec 32) :
    ∀ {ps : List (ListNode LoongArchInsInfo × ListNode LoongArchInsInfo)} (insnIndex : BitVec 32)
      (i : ℤ), ps ≠ [] → (kept (P.planChunk addiImm insnIndex i ps)).length = ps.length + 1
  | [], _, _, h => absurd rfl h
  | [p], _, _, _ => rfl
  | p :: p' :: ps, insnIndex, i, _ => by
    rw [planChunk, kept_cons_none, kept_cons_some, List.length_cons,
      length_kept_planChunk addiImm _ _ (List.cons_ne_nil p' ps)]
    rfl

theorem toNat_add_one_eq {s : BitVec 32} {k : ℕ} (hk : k + 1 < 2 ^ 32) :
    (s + 1).toNat = k + 1 ↔ s.toNat = k := by bv_omega

/-- **A chunk** of at least two pairs has to begin at its index. -/
theorem inStep_planChunk (addiImm : BitVec 32) :
    ∀ {ps : List (ListNode LoongArchInsInfo × ListNode LoongArchInsInfo)} (insnIndex : BitVec 32)
      (i : ℤ) {k : ℕ}, k + ps.length < 2 ^ 32 →
      (InStep k (P.planChunk addiImm insnIndex i ps) ↔ (2 ≤ ps.length → insnIndex.toNat = k))
  | [], _, _, _, _ => by simp [planChunk, InStep]
  | [p], _, _, _, _ => by simp [planChunk, InStep]
  | p :: p' :: ps, insnIndex, i, k, hk => by
    have hlen : (p :: p' :: ps).length = (p' :: ps).length + 1 := rfl
    have ih : InStep (k + 1) (P.planChunk addiImm (insnIndex + 1) (i + 1) (p' :: ps)) ↔ _ :=
      inStep_planChunk addiImm (insnIndex + 1) (i + 1) (by omega)
    have htwo : 2 ≤ (p :: p' :: ps).length := by
      rw [hlen, List.length_cons]
      omega
    rw [planChunk, InStep, InStep, ih, toNat_add_one_eq (by omega)]
    constructor
    · intro h _
      exact h.1
    · intro h
      exact ⟨h htwo, fun _ => h htwo⟩

/-- A run keeps its accesses and one addition for each chunk. -/
theorem length_kept_planRun (ps : List (ListNode LoongArchInsInfo × ListNode LoongArchInsInfo))
    (insnIndex : BitVec 32) (hps : ps ≠ []) :
    (kept (P.planRun insnIndex ps)).length = ps.length + ((ps.length - 1) / P.max + 1) := by
  have hmax := P.max_pos
  have hpos := List.length_pos_of_ne_nil hps
  rw [planRun, kept_append, List.length_append, length_kept_planChunk _ _ _ _
    (List.ne_nil_of_length_pos (by rw [List.length_take]; omega)), List.length_take]
  split_ifs with hmore
  · have hrest : 0 < (ps.drop (min ps.length P.max)).length := by
      rw [List.length_drop]
      omega
    have hdiv : (ps.length - 1) / P.max = (ps.length - 1 - P.max) / P.max + 1 :=
      Nat.div_eq_sub_div hmax (by omega)
    rw [length_kept_planRun _ _ (List.ne_nil_of_length_pos hrest), List.length_drop, hdiv,
      Nat.min_eq_right hmore.le, Nat.sub_right_comm]
    omega
  · rw [Nat.div_eq_of_lt (by omega), Nat.min_eq_left (not_lt.mp hmore), Nat.min_self]
    rfl
termination_by ps.length
decreasing_by
  simp only [List.length_drop]
  omega

/-- What a run keeps is at least its accesses and one addition, and no more than there was. -/
theorem length_kept_planRun_bounds {ps : List (ListNode LoongArchInsInfo × ListNode LoongArchInsInfo)}
    (insnIndex : BitVec 32) (hps : ps ≠ []) :
    ps.length + 1 ≤ (kept (P.planRun insnIndex ps)).length ∧
      (kept (P.planRun insnIndex ps)).length ≤ 2 * ps.length := by
  have hpos := List.length_pos_of_ne_nil hps
  have hdiv : (ps.length - 1) / P.max ≤ ps.length - 1 := Nat.div_le_self _ _
  rw [P.length_kept_planRun ps insnIndex hps]
  generalize (ps.length - 1) / P.max = q at hdiv ⊢
  omega

/-- **A run whose index is behind** has to have one pair. -/
theorem inStep_planRun_behind (hmax : 2 ≤ P.max)
    (ps : List (ListNode LoongArchInsInfo × ListNode LoongArchInsInfo)) {c k : ℕ} (hps : ps ≠ [])
    (hc : c < k) (hk : k + 2 * ps.length < 2 ^ 32) :
    InStep k (P.planRun (BitVec.ofNat 32 c) ps) ↔ ps.length = 1 := by
  have hpos := List.length_pos_of_ne_nil hps
  have hne : (BitVec.ofNat 32 c).toNat ≠ k := by
    rw [BitVec.toNat_ofNat, Nat.mod_eq_of_lt (by omega)]
    omega
  rw [planRun, inStep_append, P.inStep_planChunk _ _ _ (by rw [List.length_take]; omega),
    List.length_take]
  constructor
  · rintro ⟨hchunk, -⟩
    by_contra hlen
    exact hne (hchunk (by omega))
  · intro hlen
    rw [if_neg (by omega)]
    exact ⟨fun htwo => absurd htwo (by omega), trivial⟩

/-- **A run whose index is right** may have one pair more than a chunk. -/
theorem inStep_planRun (hmax : 2 ≤ P.max)
    (ps : List (ListNode LoongArchInsInfo × ListNode LoongArchInsInfo)) {k : ℕ} (hps : ps ≠ [])
    (hk : k + 2 * ps.length < 2 ^ 32) :
    InStep k (P.planRun (BitVec.ofNat 32 k) ps) ↔ ps.length ≤ P.max + 1 := by
  have hpos := List.length_pos_of_ne_nil hps
  have hkeep : ps.take (min ps.length P.max) ≠ [] :=
    List.ne_nil_of_length_pos (by rw [List.length_take]; omega)
  have heq : (BitVec.ofNat 32 k).toNat = k := by
    rw [BitVec.toNat_ofNat, Nat.mod_eq_of_lt (by omega)]
  rw [planRun, inStep_append, P.inStep_planChunk _ _ _ (by rw [List.length_take]; omega),
    P.length_kept_planChunk _ _ _ hkeep, List.length_take, and_iff_right fun _ => heq]
  split_ifs with hmore
  · have hlen : (ps.drop (min ps.length P.max)).length = ps.length - P.max := by
      rw [List.length_drop, Nat.min_eq_right hmore.le]
    have hidx : BitVec.ofNat 32 k + BitVec.ofNat 32 (min ps.length P.max - 1) =
        BitVec.ofNat 32 (k + (min ps.length P.max - 1)) := (BitVec.ofNat_add _ _).symm
    rw [hidx, P.inStep_planRun_behind hmax _ (List.ne_nil_of_length_pos (by omega)) (by omega)
      (by omega), hlen]
    omega
  · exact ⟨fun _ => by omega, fun _ => trivial⟩

/-- What a run keeps, or the pair that is passed as it is. -/
theorem length_kept_piece {ps : List (ListNode LoongArchInsInfo × ListNode LoongArchInsInfo)}
    (cur : BitVec 32) (hps : ps ≠ []) :
    ps.length + 1 ≤ (kept (if ps.length ≠ 1 then P.planRun cur ps else (unpair ps).map (·, none))).length ∧
      (kept (if ps.length ≠ 1 then P.planRun cur ps else (unpair ps).map (·, none))).length ≤
        2 * ps.length := by
  split_ifs with hone
  · exact P.length_kept_planRun_bounds cur hps
  · obtain ⟨p, rfl⟩ := List.length_eq_one_iff.mp (not_not.mp hone)
    rw [kept_keep]
    exact ⟨le_rfl, le_rfl⟩

theorem length_unpair (ps : List (ListNode LoongArchInsInfo × ListNode LoongArchInsInfo)) :
    (unpair ps).length = 2 * ps.length := by
  induction ps with
  | nil => rfl
  | cons p ps ih =>
    show (unpair ps).length + 2 = 2 * (ps.length + 1)
    omega

theorem ofNat_add_ofNat (c n : ℕ) : BitVec.ofNat 32 c + BitVec.ofNat 32 n = BitVec.ofNat 32 (c + n) :=
  (BitVec.ofNat_add c n).symm

/-- **Once the index is behind** it stays behind. -/
theorem inStep_planFrom_behind (hmax : 2 ≤ P.max) : ∀ {qs : List Piece} {c k : ℕ},
    (∀ q ∈ qs, q.Ok P) → c < k → k + (qs.flatMap Piece.nodes).length < 2 ^ 32 →
    (InStep k (P.planFrom (BitVec.ofNat 32 c) qs) ↔ ∀ ps, Piece.run ps ∈ qs → ps.length = 1)
  | [], _, _, _, _, _ => by simp [planFrom, InStep]
  | .other n :: qs, c, k, hok, hc, hk => by
    rw [List.flatMap_cons, List.length_append, show (Piece.other n).nodes.length = 1 from rfl] at hk
    have ih : InStep (k + 1) (P.planFrom (BitVec.ofNat 32 (c + 1)) qs) ↔ _ :=
      inStep_planFrom_behind hmax (fun q hq => hok q (List.mem_cons_of_mem _ hq)) (by omega) (by omega)
    rw [planFrom, InStep, show BitVec.ofNat 32 c + 1 = BitVec.ofNat 32 (c + 1) from ofNat_add_ofNat c 1,
      ih]
    simp
  | .run ps :: qs, c, k, hok, hc, hk => by
    obtain ⟨hps, -⟩ := hok _ List.mem_cons_self
    rw [List.flatMap_cons, List.length_append, show (Piece.run ps).nodes.length = 2 * ps.length from
      length_unpair ps] at hk
    obtain ⟨hlow, hhigh⟩ := P.length_kept_piece (BitVec.ofNat 32 c) hps
    have ih := inStep_planFrom_behind hmax (fun q hq => hok q (List.mem_cons_of_mem _ hq))
      (show c + (ps.length + 1) < k + (kept (if ps.length ≠ 1 then P.planRun (BitVec.ofNat 32 c) ps else
        (unpair ps).map (·, none))).length by omega) (by omega)
    rw [planFrom, inStep_append, ofNat_add_ofNat, ih]
    have hrun : InStep k (if ps.length ≠ 1 then P.planRun (BitVec.ofNat 32 c) ps else
        (unpair ps).map (·, none)) ↔ ps.length = 1 := by
      split_ifs with hone
      · exact P.inStep_planRun_behind hmax ps hps hc (by omega)
      · exact iff_of_true (inStep_keep k _) (not_not.mp hone)
    rw [hrun]
    simp

/-- **From where the index is right.** -/
theorem inStep_planFrom (hmax : 2 ≤ P.max) : ∀ {qs : List Piece} {k : ℕ},
    (∀ q ∈ qs, q.Ok P) → k + (qs.flatMap Piece.nodes).length < 2 ^ 32 →
    (InStep k (P.planFrom (BitVec.ofNat 32 k) qs) ↔ P.RunsInStep qs)
  | [], _, _, _ => by simp [planFrom, InStep, RunsInStep]
  | .other n :: qs, k, hok, hk => by
    rw [List.flatMap_cons, List.length_append, show (Piece.other n).nodes.length = 1 from rfl] at hk
    have ih : InStep (k + 1) (P.planFrom (BitVec.ofNat 32 (k + 1)) qs) ↔ _ :=
      inStep_planFrom hmax (fun q hq => hok q (List.mem_cons_of_mem _ hq)) (by omega)
    rw [planFrom, InStep, show BitVec.ofNat 32 k + 1 = BitVec.ofNat 32 (k + 1) from ofNat_add_ofNat k 1,
      ih, RunsInStep]
  | .run ps :: qs, k, hok, hk => by
    have hqs : ∀ q ∈ qs, q.Ok P := fun q hq => hok q (List.mem_cons_of_mem _ hq)
    obtain ⟨hps, -⟩ := hok _ List.mem_cons_self
    have hpos := List.length_pos_of_ne_nil hps
    rw [List.flatMap_cons, List.length_append, show (Piece.run ps).nodes.length = 2 * ps.length from
      length_unpair ps] at hk
    obtain ⟨-, hhigh⟩ := P.length_kept_piece (BitVec.ofNat 32 k) hps
    rw [planFrom, inStep_append, ofNat_add_ofNat, RunsInStep]
    by_cases hone : ps.length = 1
    · have hkept : (kept ((unpair ps).map (·, (none : Option (BitVec 32))))).length = ps.length + 1 := by
        rw [kept_keep, length_unpair]
        omega
      rw [if_neg (not_not.mpr hone), hkept, if_pos (by omega), and_iff_right (inStep_keep k _)]
      exact inStep_planFrom hmax hqs (by omega)
    · rw [if_pos hone] at hhigh ⊢
      rw [P.inStep_planRun hmax ps hps (by omega)]
      have hkept := P.length_kept_planRun ps (BitVec.ofNat 32 k) hps
      split_ifs with hchunk
      · rw [Nat.div_eq_of_lt (by omega)] at hkept
        rw [hkept, and_iff_right (by omega)]
        exact inStep_planFrom hmax hqs (by omega)
      · have hdiv : 1 ≤ (ps.length - 1) / P.max := (Nat.one_le_div_iff P.max_pos).mpr (by omega)
        rw [P.inStep_planFrom_behind hmax hqs (by omega) (by omega)]
        refine and_congr ?_ Iff.rfl
        omega

/-- A run that is longer than one chunk and one pair is not in step. -/
theorem not_runsInStep {iter : ListNode LoongArchInsInfo} {nodes : List (ListNode LoongArchInsInfo)}
    (hpat : P.isPattern (iter :: nodes) = true)
    (hcount : P.max < P.countPairs (iter.data.srcsRegs 0) (nodes.drop 1)) :
    ¬P.RunsInStep (P.pieces (iter :: nodes)) := by
  obtain ⟨_, _, _, heq, hplain, -⟩ := P.isPattern_cases hpat
  obtain ⟨rfl, -⟩ := List.cons.inj heq
  obtain ⟨hlength, -⟩ := P.pieces_cons hpat rfl
  rw [pieces, if_neg (by rw [hplain]; exact Bool.false_ne_true), if_pos hpat]
  dsimp only
  rw [RunsInStep, hlength, if_neg (by omega)]
  rintro ⟨hlen, -⟩
  omega

/-- **A visit of a block without valid relocations** deletes at the positions of the nodes if
and only if the runs are in step. -/
theorem exact_visitCalls_iff (hmax : 2 ≤ P.max) {tb : TB ι} (hrels : ∀ r ∈ tb.rels, r.valid = false)
    (hlen : tb.disInsns.nodes.length < 2 ^ 32) :
    ∃ calls tb', P.visitCalls tb = .ok (calls, tb') ∧ P.visit tb = .ok tb' ∧
      ((∀ c ∈ calls, c.Exact) ↔ P.RunsInStep (P.pieces tb.disInsns.nodes)) := by
  have hnodes : tb.disInsns.nodes = [] ++ tb.disInsns.nodes := rfl
  obtain ⟨calls, tb', hok, hcalls⟩ := P.visitCallsFrom_eq tb.disInsns.nodes 0 hrels hnodes
  obtain ⟨_, rest, -, hsplit, -⟩ := P.visitFrom_eq tb.disInsns.nodes 0 hnodes
  have hle := congrArg List.length hsplit
  rw [List.length_append] at hle
  have herase : P.visit tb = .ok tb' := by
    rw [← P.erase_visitCalls, visitCalls, hok]
    rfl
  refine ⟨calls, tb', hok, herase, hcalls.trans ?_⟩
  exact P.inStep_planFrom hmax (P.ok_pieces _) (by rw [List.length_nil]; omega)

end AddiRun

open StAddiVistor LdAddiVistor

/-- **The two passes** delete at the positions of the nodes if and only if their runs are in step:
no run has more than 257 (256 for loads) pairs, and after one with so many no run has two. -/
theorem AddiRun.deletes_at_positions_iff (tb : TB ι) (hrels : ∀ r ∈ tb.rels, r.valid = false)
    (hlen : tb.disInsns.nodes.length < 2 ^ 32) :
    (∃ calls tb', stAddi.visitCalls tb = .ok (calls, tb') ∧ StAddiVistor.visit tb = .ok tb' ∧
      ((∀ c ∈ calls, c.Exact) ↔ stAddi.RunsInStep (stAddi.pieces tb.disInsns.nodes))) ∧
    ∃ calls tb', ldAddi.visitCalls tb = .ok (calls, tb') ∧ LdAddiVistor.visit tb = .ok tb' ∧
      ((∀ c ∈ calls, c.Exact) ↔ ldAddi.RunsInStep (ldAddi.pieces tb.disInsns.nodes)) :=
  ⟨stAddi.exact_visitCalls_iff fits_stAddi.two_le_max hrels hlen,
    ldAddi.exact_visitCalls_iff fits_ldAddi.two_le_max hrels hlen⟩

theorem AddiRun.deletes_at_positions_pushTwo :
    (∃ calls tb', stAddi.visitCalls pushTwo = .ok (calls, tb') ∧
      StAddiVistor.visit pushTwo = .ok tb' ∧
      ((∀ c ∈ calls, c.Exact) ↔ stAddi.RunsInStep (stAddi.pieces pushTwo.disInsns.nodes))) ∧
    ∃ calls tb', ldAddi.visitCalls pushTwo = .ok (calls, tb') ∧ LdAddiVistor.visit pushTwo = .ok tb' ∧
      ((∀ c ∈ calls, c.Exact) ↔ ldAddi.RunsInStep (ldAddi.pieces pushTwo.disInsns.nodes)) :=
  AddiRun.deletes_at_positions_iff pushTwo (fun _ h => by cases h) (by decide)

/-- The code of 258 times `st.d $a0, $sp, -8; addi.d $sp, $sp, -8`, and a `b`. -/
def pushManyWords : List (BitVec 32) :=
  (List.replicate 258 [0x29ffe064, 0x02ffe063]).flatten ++ [0x50000000]

/-- A disassembled block with this code, without successors. -/
def pushMany : TB ℕ :=
  startTB (.new { (default : AOTTB) with jmpResetOffsets := fun _ => TB_JMP_RESET_OFFSET_INVALID }
    ⟨2068, pushManyWords, by decide +kernel⟩ 0)

/-- The second chunk of the run deletes at indices that are 2 too small. -/
theorem AddiRun.deletes_behind_pushMany : pushMany.pipeholeAvailable = true ∧ pushMany.rels = [] ∧
    ∃ calls tb', stAddi.visitCalls pushMany = .ok (calls, tb') ∧
      StAddiVistor.visit pushMany = .ok tb' ∧ ¬∀ c ∈ calls, c.Exact := by
  have hrels : pushMany.rels = [] := rels_startTB _
  have hnodes : pushMany.disInsns.nodes = pushManyWords.zipIdx.map fun e => ⟨e.2, disassemble e.1⟩ :=
    nodes_startTB _ _ _
  have hlen : pushMany.disInsns.nodes.length < 2 ^ 32 := by
    rw [hnodes, List.length_map]
    decide +kernel
  have hvalid : ∀ r ∈ pushMany.rels, r.valid = false := by simp [hrels]
  obtain ⟨calls, tb', hcalls, hok, hiff⟩ :=
    stAddi.exact_visitCalls_iff fits_stAddi.two_le_max hvalid hlen
  refine ⟨by decide +kernel, hrels, calls, tb', hcalls, hok, fun hexact => ?_⟩
  have hwords : pushManyWords.zipIdx = (0x29ffe064, 0) :: pushManyWords.zipIdx.drop 1 := by
    decide +kernel
  rw [hiff, hnodes, hwords, List.map_cons] at hexact
  exact stAddi.not_runsInStep (by decide +kernel) (by decide +kernel) hexact

end AotOpt
