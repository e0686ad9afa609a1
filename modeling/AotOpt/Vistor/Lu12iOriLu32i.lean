import AotOpt.AotClass.RelView
import AotOpt.Vistor.LoadImm

/-!
# What `Lu12i_Ori_Lu32i_Vistor` makes of a block

The pass does not ask for relocations, so what it makes of a block is fixed by the instructions
alone. `items` lists it: an instruction that stays, or three instructions `lu12i.w`, `ori`,
`lu32i.d` that become an `addi.d` over a register known to hold a constant.

* `visit_eq` — what a visit makes of a block is what the items say, and the valid relocations
  stay as they are if they cover no instruction that is replaced.
-/

namespace AotOpt.Lu12iOriLu32iVistor

variable {ι : Type}

/-! ### The plan -/

/-- What three instructions load, by `get_lu12i_ori_lu32i_res`. -/
def patternImm (x y z : ListNode LoongArchInsInfo) : BitVec 64 :=
  simulateLu32iD (simulateOri (simulateLu12iW x.data.si) (y.data.ui.setWidth 64)) z.data.si

/-- What becomes of an instruction or a pattern. -/
inductive Item where
  | keep (n : ListNode LoongArchInsInfo)
  /-- The pattern becomes an `addi.d` over a register that is known to hold `imm`. -/
  | subst (x y z : ListNode LoongArchInsInfo) (reg : BitVec 8) (imm : BitVec 64)

namespace Item

/-- What there was. -/
def before : Item → List (ListNode LoongArchInsInfo)
  | .keep n => [n]
  | .subst x y z _ _ => [x, y, z]

/-- What there is. -/
def after : Item → List (ListNode LoongArchInsInfo)
  | .keep n => [n]
  | .subst x y z reg imm =>
    [⟨x.addr, addiInsn x.data.dstReg reg ((patternImm x y z - imm).setWidth 32)⟩]

/-- What is not there any more. -/
def replaced : Item → List (ListNode LoongArchInsInfo)
  | .keep _ => []
  | .subst x y z _ _ => [x, y, z]

end Item

/-- What becomes of a pattern: in the inner loop an `addi.d`, if a register is close. -/
def patternItems (inner : Bool) (s : ConstRegSet) (x y z : ListNode LoongArchInsInfo) : List Item :=
  match inner, LoadImm.closeReg s (patternImm x y z) LoadImm.regs with
  | true, .ok (some (i, imm)) => [.subst x y z i imm]
  | _, _ => [.keep x, .keep y, .keep z]

section PatternItems

variable {s : ConstRegSet} {x y z : ListNode LoongArchInsInfo}

theorem patternItems_false : patternItems false s x y z = [.keep x, .keep y, .keep z] := rfl

theorem patternItems_none (h : LoadImm.closeReg s (patternImm x y z) LoadImm.regs = .ok none) :
    patternItems true s x y z = [.keep x, .keep y, .keep z] := by
  unfold patternItems
  rw [h]

theorem patternItems_some {r : BitVec 8 × BitVec 64}
    (h : LoadImm.closeReg s (patternImm x y z) LoadImm.regs = .ok (some r)) :
    patternItems true s x y z = [.subst x y z r.1 r.2] := by
  unfold patternItems
  rw [h]

end PatternItems

/-- What becomes of the instructions up to the first `b` or `bne`, in the inner loop or in the outer
one. -/
def items (inner : Bool) (s : ConstRegSet) : List (ListNode LoongArchInsInfo) → List Item
  | x :: y :: z :: nodes =>
    if isBOrBne x.data.opc then []
    else if isLu12iOriLu32iPattern [x, y, z] then
      patternItems inner s x y z ++ items true (s.set x.data.dstReg (patternImm x y z)) nodes
    else if inner then
      .keep x :: items ((s.kill x.data.dstReg).size ≠ 0) (s.kill x.data.dstReg) (y :: z :: nodes)
    else .keep x :: items false s (y :: z :: nodes)
  -- no pattern fits any more
  | nodes => (nodes.takeWhile fun n => !isBOrBne n.data.opc).map .keep

/-- The instructions of a pattern. -/
theorem isPattern_cases {nodes : List (ListNode LoongArchInsInfo)}
    (h : isLu12iOriLu32iPattern nodes = true) : ∃ x y z rest, nodes = x :: y :: z :: rest ∧
      x.data.opc = .OPC_LU12I_W ∧ y.data.opc = .OPC_ORI ∧ z.data.opc = .OPC_LU32I_D ∧
      y.data.dstReg = x.data.dstReg ∧ y.data.srcsRegs 0 = x.data.dstReg ∧ z.data.dstReg = x.data.dstReg := by
  unfold isLu12iOriLu32iPattern at h
  split at h
  · next x y z rest =>
    simp only [Bool.and_eq_true, decide_eq_true_eq] at h
    obtain ⟨⟨⟨⟨⟨hx, hy⟩, hdst⟩, hsrc⟩, hz⟩, hdst'⟩ := h
    exact ⟨x, y, z, rest, rfl, hx, hy, hz, hdst, hsrc, hdst'⟩
  · cases h

section Items

variable {inner : Bool} {s : ConstRegSet} {x : ListNode LoongArchInsInfo}
  {nodes : List (ListNode LoongArchInsInfo)}

@[simp] theorem items_nil : items inner s [] = [] := rfl

theorem items_stop (h : isBOrBne x.data.opc = true) : items inner s (x :: nodes) = [] := by
  match nodes with
  | [] => simp [items, h]
  | [_] => simp [items, h]
  | _ :: _ :: _ => rw [items, if_pos h]

theorem items_inner (h : ¬isBOrBne x.data.opc = true)
    (hpat : ¬isLu12iOriLu32iPattern (x :: nodes) = true) :
    items true s (x :: nodes) =
      .keep x :: items ((s.kill x.data.dstReg).size ≠ 0) (s.kill x.data.dstReg) nodes := by
  match nodes with
  | [] => simp [items, h]
  | [_] => simp [items, h]
  | y :: z :: nodes => rw [items, if_neg h, if_neg (show ¬isLu12iOriLu32iPattern [x, y, z] = true from hpat),
      if_pos rfl]

theorem items_outer (h : ¬isBOrBne x.data.opc = true)
    (hpat : ¬isLu12iOriLu32iPattern (x :: nodes) = true) :
    items false s (x :: nodes) = .keep x :: items false s nodes := by
  match nodes with
  | [] => simp [items, h]
  | [_] => simp [items, h]
  | y :: z :: nodes => rw [items, if_neg h, if_neg (show ¬isLu12iOriLu32iPattern [x, y, z] = true from hpat),
      if_neg Bool.false_ne_true]

theorem items_pattern {y z : ListNode LoongArchInsInfo}
    (hpat : isLu12iOriLu32iPattern (x :: y :: z :: nodes) = true) :
    items inner s (x :: y :: z :: nodes) = patternItems inner s x y z ++
      items true (s.set x.data.dstReg (patternImm x y z)) nodes := by
  have hplain : ¬isBOrBne x.data.opc = true := by
    obtain ⟨_, _, _, _, heq, hx, -⟩ := isPattern_cases hpat
    obtain ⟨rfl, -⟩ := List.cons.inj heq
    rw [hx]
    decide
  rw [items, if_neg hplain, if_pos (show isLu12iOriLu32iPattern [x, y, z] = true from hpat)]

end Items

/-! ### The loops follow the plan -/

/-- From `tb` to `tb'` the relocations stay, if they cover none of the nodes. -/
def RelsKept (tb tb' : TB ι) (ns : List (ListNode LoongArchInsInfo)) : Prop :=
  tb.RelsFit → (∀ n ∈ ns, ¬tb.CoversNode n) → tb'.RelsFit ∧ tb'.relView = tb.relView

theorem RelsKept.refl (tb : TB ι) : RelsKept tb tb [] := fun h _ => ⟨h, rfl⟩

theorem RelsKept.trans {tb tb' tb'' : TB ι} {ns ns' : List (ListNode LoongArchInsInfo)}
    (h : RelsKept tb tb' ns) (h' : RelsKept tb' tb'' ns') : RelsKept tb tb'' (ns ++ ns') := by
  intro hfit hno
  rw [List.forall_mem_append] at hno
  obtain ⟨hfit', hview⟩ := h hfit hno.1
  obtain ⟨hfit'', hview'⟩ := h' hfit' fun n hn => by
    rw [TB.coversNode_of_relView_eq hview]
    exact hno.2 n hn
  exact ⟨hfit'', hview'.trans hview⟩

/-- What has become of `tb` and its nodes `pre` and `nodes` on the way from the one to the other. -/
structure Rewrites (tb tb' : TB ι) (pre pre' nodes nodes' : List (ListNode LoongArchInsInfo))
    (its : List Item) : Prop where
  nodes_eq : tb'.disInsns.nodes = pre' ++ nodes'
  front : pre' = pre ++ its.flatMap Item.after
  behind : nodes = its.flatMap Item.before ++ nodes'
  rels : RelsKept tb tb' (its.flatMap Item.replaced)

section Rewrites

variable {tb tb' tb'' : TB ι} {pre pre' pre'' nodes nodes' nodes'' : List (ListNode LoongArchInsInfo)}
  {its its' : List Item} {n x y z : ListNode LoongArchInsInfo}

theorem Rewrites.refl (h : tb.disInsns.nodes = pre ++ nodes) : Rewrites tb tb pre pre nodes nodes [] :=
  ⟨h, (List.append_nil _).symm, rfl, .refl tb⟩

theorem Rewrites.trans (h : Rewrites tb tb' pre pre' nodes nodes' its)
    (h' : Rewrites tb' tb'' pre' pre'' nodes' nodes'' its') :
    Rewrites tb tb'' pre pre'' nodes nodes'' (its ++ its') where
  nodes_eq := h'.nodes_eq
  front := by rw [h'.front, h.front, List.flatMap_append, List.append_assoc]
  behind := by rw [h.behind, h'.behind, List.flatMap_append, List.append_assoc]
  rels := by
    rw [List.flatMap_append]
    exact h.rels.trans h'.rels

/-- An instruction is passed. -/
theorem Rewrites.keep (h : tb.disInsns.nodes = pre ++ n :: nodes) :
    Rewrites tb tb pre (pre ++ [n]) (n :: nodes) nodes [.keep n] :=
  ⟨by rw [h]; simp, rfl, rfl, .refl tb⟩

theorem Rewrites.keepThree (h : tb.disInsns.nodes = pre ++ x :: y :: z :: nodes) :
    Rewrites tb tb pre (pre ++ [x, y, z]) (x :: y :: z :: nodes) nodes [.keep x, .keep y, .keep z] :=
  ⟨by rw [h]; simp, rfl, rfl, .refl tb⟩

/-- A deletion of the node behind `pre`. -/
theorem relsKept_deleteAt (h : tb.disInsns.nodes = pre ++ n :: nodes) (hpos : 0 < pre.length) :
    RelsKept tb (tb.deleteAt n ((BitVec.ofNat 32 pre.length).setWidth 64)) [n] := by
  intro hfit hno
  have hlen := hfit.lt
  rw [h, List.length_append, List.length_cons] at hlen
  have hn := LinkList.nodes_mid h
  have hoff : ((BitVec.ofNat 32 pre.length).setWidth 64 <<< 2).toNat = 4 * pre.length := by
    rw [BitVec.toNat_shiftLeft, BitVec.toNat_setWidth, BitVec.toNat_ofNat, Nat.shiftLeft_eq]
    omega
  exact ⟨hfit.deleteAt hpos hn hoff,
    TB.relView_deleteAt_eq_self hfit hpos hn hoff (hno n (List.mem_singleton_self n))⟩

/-- An assignment to the node behind `pre`. -/
theorem relsKept_updateInsn (h : tb.disInsns.nodes = pre ++ n :: nodes)
    (f : LoongArchInsInfo → LoongArchInsInfo) : RelsKept tb (tb.updateInsn n.addr f) [n] := by
  intro hfit hno
  have hmem : n ∈ tb.disInsns.nodes := List.mem_of_getElem? (LinkList.nodes_mid h)
  exact ⟨hfit.updateInsn n.addr f,
    TB.relView_updateInsn_eq_self hmem (hno n (List.mem_singleton_self n)) f⟩

theorem deleteIthInsnAlongwithRel_mid (h : tb.disInsns.nodes = pre ++ n :: nodes) (k : BitVec 64) :
    tb.deleteIthInsnAlongwithRel (.node n.addr) k = .ok (.first nodes, tb.deleteAt n k) :=
  tb.deleteIthInsnAlongwithRel_eq_ok.mpr ⟨_, n, LinkList.nodes_mid h, rfl, (LinkList.next_mid h).symm.trans
    (LinkList.next_of_nodes (LinkList.nodes_mid h)), rfl⟩

theorem nodes_deleteAt_mid (h : tb.disInsns.nodes = pre ++ n :: nodes) (k : BitVec 64) :
    (tb.deleteAt n k).disInsns.nodes = pre ++ nodes := by
  rw [TB.disInsns_deleteAt, LinkList.nodes_remove_mid h]

/-- A pattern becomes an `addi.d`. -/
theorem Rewrites.subst (h : tb.disInsns.nodes = pre ++ x :: y :: z :: nodes) (i : BitVec 8)
    (imm : BitVec 64) :
    ∃ tb', substitueWithAddiInsn x 3 i ((patternImm x y z - imm).setWidth 32) tb
        (BitVec.ofNat 32 pre.length) = .ok tb' ∧
      Rewrites tb tb'
        pre (pre ++ [⟨x.addr, addiInsn x.data.dstReg i ((patternImm x y z - imm).setWidth 32)⟩])
        (x :: y :: z :: nodes) nodes [.subst x y z i imm] := by
  have hidx : BitVec.ofNat 32 pre.length + 1 = BitVec.ofNat 32 (pre ++ [x]).length := by
    rw [List.length_append, BitVec.ofNat_add]
    rfl
  have hy : tb.disInsns.nodes = (pre ++ [x]) ++ y :: z :: nodes := by rw [h]; simp
  generalize hk : (BitVec.ofNat 32 (pre ++ [x]).length).setWidth 64 = k
  have hz : (tb.deleteAt y k).disInsns.nodes = (pre ++ [x]) ++ z :: nodes := nodes_deleteAt_mid hy k
  have hx : ((tb.deleteAt y k).deleteAt z k).disInsns.nodes = pre ++ x :: nodes := by
    rw [nodes_deleteAt_mid hz k, List.append_assoc]
    rfl
  have hrun : tb.deleteRun (tb.disInsns.next x.addr) k 2 =
      .ok (.first nodes, (tb.deleteAt y k).deleteAt z k) := by
    have hdely := deleteIthInsnAlongwithRel_mid hy k
    have hdelz := deleteIthInsnAlongwithRel_mid hz k
    rw [LinkList.next_mid h, Ptr.first, TB.deleteRun, hdely, ok_bind]
    show TB.deleteRun (tb.deleteAt y k) (.node z.addr) k 1 = _
    rw [TB.deleteRun, hdelz]
    rfl
  refine ⟨_, by rw [substitueWithAddiInsn, hidx, hk, hrun]; rfl, ?_, rfl, rfl, ?_⟩
  · rw [List.append_assoc]
    exact LinkList.nodes_update_mid _ hx
  · have hpos : 0 < (pre ++ [x]).length := by simp
    have hkept := ((hk ▸ relsKept_deleteAt hy hpos).trans (hk ▸ relsKept_deleteAt hz hpos)).trans
      (relsKept_updateInsn hx fun insn => addiInsn insn.dstReg i ((patternImm x y z - imm).setWidth 32))
    refine fun hfit hno => hkept hfit fun n hn => hno n ?_
    simp only [List.cons_append, List.nil_append, List.mem_cons, List.not_mem_nil, or_false] at hn
    rcases hn with rfl | rfl | rfl
    · simp [Item.replaced]
    · simp [Item.replaced]
    · simp [Item.replaced]

end Rewrites

/-- An index behind more nodes. -/
theorem ofNat_length_add (pre ns : List (ListNode LoongArchInsInfo)) :
    BitVec.ofNat 32 pre.length + BitVec.ofNat 32 ns.length = BitVec.ofNat 32 (pre ++ ns).length := by
  rw [List.length_append, BitVec.ofNat_add]

section Inner

variable {tb tb₁ : TB ι} {pre pre₁ nodes nodes₁ : List (ListNode LoongArchInsInfo)}
  {x y z : ListNode LoongArchInsInfo} {s s₁ : ConstRegSet} {its : List Item} {turns : ℕ}

/-- The inner loop goes on from here as the items say, and the outer one behind it. -/
def InnerFollows (turns : ℕ) (tb : TB ι) (pre nodes : List (ListNode LoongArchInsInfo))
    (s : ConstRegSet) : Prop :=
  ∃ tb' pre' nodes' its s', lu12iOriLu32i.optPattern turns tb (BitVec.ofNat 32 pre.length) s nodes =
      .ok (tb', BitVec.ofNat 32 pre'.length, s', nodes') ∧
    Rewrites tb tb' pre pre' nodes nodes' its ∧ nodes'.length ≤ nodes.length ∧
      items true s nodes = its ++ items false s' nodes'

/-- **One turn** in front of the others. -/
theorem InnerFollows.turn (hfollows : InnerFollows turns tb₁ pre₁ nodes₁ s₁)
    (h : Rewrites tb tb₁ pre pre₁ nodes nodes₁ its) (hle : nodes₁.length ≤ nodes.length)
    (hturn : lu12iOriLu32i.optPattern (turns + 1) tb (BitVec.ofNat 32 pre.length) s nodes =
      lu12iOriLu32i.optPattern turns tb₁ (BitVec.ofNat 32 pre₁.length) s₁ nodes₁)
    (hitems : items true s nodes = its ++ items true s₁ nodes₁) :
    InnerFollows (turns + 1) tb pre nodes s := by
  obtain ⟨tb', pre', nodes', its', s', hok, h', hle', hits⟩ := hfollows
  refine ⟨tb', pre', nodes', its ++ its', s', hturn.trans hok, h.trans h', hle'.trans hle, ?_⟩
  rw [hitems, hits, List.append_assoc]

/-- The loop does not ask for relocations. -/
theorem optPattern_cond (tb : TB ι) (nodes pre : List (ListNode LoongArchInsInfo)) :
    (lu12iOriLu32i.isPattern nodes && !(lu12iOriLu32i.checksRel &&
      tb.inScopeOfRel (BitVec.ofNat 32 pre.length) 2)) = isLu12iOriLu32iPattern nodes :=
  Bool.and_true _

/-- A pattern is kept, when no register is close. -/
theorem innerFollows_kept (h : tb.disInsns.nodes = pre ++ x :: y :: z :: nodes)
    (hpat : isLu12iOriLu32iPattern (x :: y :: z :: nodes) = true)
    (hclose : LoadImm.closeReg s (patternImm x y z) LoadImm.regs = .ok none)
    (hfollows : InnerFollows turns tb (pre ++ [x, y, z]) nodes (s.set x.data.dstReg (patternImm x y z))) :
    InnerFollows (turns + 1) tb pre (x :: y :: z :: nodes) s := by
  have hres : lu12iOriLu32i.res (x :: y :: z :: nodes) = .ok (patternImm x y z) := rfl
  refine hfollows.turn (Rewrites.keepThree h) (by simp only [List.length_cons]; omega) ?_ ?_
  · rw [LoadImm.optPattern, optPattern_cond, if_pos hpat, hres, ok_bind, hclose, ok_bind,
      ← ofNat_length_add pre [x, y, z]]
    rfl
  · rw [items_pattern hpat, patternItems_none hclose]

/-- It is replaced, when one is. -/
theorem innerFollows_replaced {r : BitVec 8 × BitVec 64}
    (h : tb.disInsns.nodes = pre ++ x :: y :: z :: nodes)
    (hpat : isLu12iOriLu32iPattern (x :: y :: z :: nodes) = true)
    (hclose : LoadImm.closeReg s (patternImm x y z) LoadImm.regs = .ok (some r))
    (hfollows : ∀ tb₁ : TB ι, ∀ n, tb₁.disInsns.nodes = (pre ++ [n]) ++ nodes →
      InnerFollows turns tb₁ (pre ++ [n]) nodes (s.set x.data.dstReg (patternImm x y z))) :
    InnerFollows (turns + 1) tb pre (x :: y :: z :: nodes) s := by
  obtain ⟨tb₁, hsub, h₁⟩ := Rewrites.subst h r.1 r.2
  have hres : lu12iOriLu32i.res (x :: y :: z :: nodes) = .ok (patternImm x y z) := rfl
  have hsub' : substitueWithAddiInsn x lu12iOriLu32i.insnCount r.1
      ((patternImm x y z - r.2).setWidth 32) tb (BitVec.ofNat 32 pre.length) = .ok tb₁ := hsub
  refine (hfollows tb₁ _ h₁.nodes_eq).turn h₁ (by simp only [List.length_cons]; omega) ?_ ?_
  · rw [LoadImm.optPattern, optPattern_cond, if_pos hpat, hres, ok_bind, hclose, ok_bind,
      ← ofNat_length_add pre [_]]
    dsimp only
    rw [hsub', ok_bind]
    rfl
  · rw [items_pattern hpat, patternItems_some hclose]

/-- Any other instruction. -/
theorem innerFollows_single (h : tb.disInsns.nodes = pre ++ x :: nodes)
    (hpat : ¬isLu12iOriLu32iPattern (x :: nodes) = true)
    (hfollows : InnerFollows turns tb (pre ++ [x]) nodes (s.kill x.data.dstReg)) :
    InnerFollows (turns + 1) tb pre (x :: nodes) s := by
  by_cases hstop : isBOrBne x.data.opc = true
  · refine ⟨tb, pre, x :: nodes, [], s, ?_, .refl h, le_rfl, ?_⟩
    · rw [LoadImm.optPattern, optPattern_cond, if_neg hpat, if_pos hstop]
    · rw [items_stop hstop, items_stop hstop]
      rfl
  · have h₁ := Rewrites.keep h
    have hidx : BitVec.ofNat 32 pre.length + 1 = BitVec.ofNat 32 (pre ++ [x]).length :=
      ofNat_length_add pre [x]
    by_cases hsize : (s.kill x.data.dstReg).size = 0
    · refine ⟨tb, pre ++ [x], nodes, _, s.kill x.data.dstReg, ?_, h₁, by simp, ?_⟩
      · rw [LoadImm.optPattern, optPattern_cond, if_neg hpat, if_neg hstop, hidx]
        exact if_pos hsize
      · rw [items_inner hstop hpat, decide_eq_false (not_not.mpr hsize)]
        rfl
    · refine hfollows.turn h₁ (Nat.le_succ _) ?_ ?_
      · rw [LoadImm.optPattern, optPattern_cond, if_neg hpat, if_neg hstop, hidx]
        exact if_neg hsize
      · rw [items_inner hstop hpat, decide_eq_true hsize]
        rfl

end Inner

/-- **The inner loop**. -/
theorem innerFollows : ∀ (turns : ℕ) {tb : TB ι} {pre nodes : List (ListNode LoongArchInsInfo)}
    (s : ConstRegSet), nodes.length ≤ turns → tb.disInsns.nodes = pre ++ nodes →
      InnerFollows turns tb pre nodes s
  | turns, tb, pre, [], s, _, h => ⟨tb, pre, [], [], s, by rw [LoadImm.optPattern], .refl h, le_rfl, rfl⟩
  | turns + 1, tb, pre, x :: nodes, s, hturns, h => by
    have hturns : nodes.length ≤ turns := Nat.le_of_succ_le_succ hturns
    by_cases hpat : isLu12iOriLu32iPattern (x :: nodes) = true
    · obtain ⟨_, y, z, rest, heq, -⟩ := isPattern_cases hpat
      obtain ⟨rfl, rfl⟩ := List.cons.inj heq
      simp only [List.length_cons] at hturns
      obtain ⟨close, hclose⟩ := LoadImm.closeReg_ok s (patternImm x y z) LoadImm.regs
      cases close with
      | none =>
        exact innerFollows_kept h hpat hclose
          (innerFollows turns _ (by omega) (Rewrites.keepThree h).nodes_eq)
      | some r =>
        exact innerFollows_replaced h hpat hclose fun _ _ h₁ => innerFollows turns _ (by omega) h₁
    · exact innerFollows_single h hpat (innerFollows turns _ hturns (Rewrites.keep h).nodes_eq)

/-- **The outer loop** from where the walk has come to. -/
theorem visitFrom_eq : ∀ (turns : ℕ) {tb : TB ι} {pre nodes : List (ListNode LoongArchInsInfo)}
    (s : ConstRegSet), nodes.length ≤ turns → tb.disInsns.nodes = pre ++ nodes →
    ∃ tb' pre' rest, lu12iOriLu32i.visitFrom turns tb (BitVec.ofNat 32 pre.length) s nodes = .ok tb' ∧
      Rewrites tb tb' pre pre' nodes rest (items false s nodes) ∧
        ∀ n ∈ rest.head?, isBOrBne n.data.opc = true
  | turns, tb, pre, [], s, _, h => ⟨tb, pre, [], by rw [LoadImm.visitFrom], .refl h, by simp⟩
  | turns + 1, tb, pre, x :: nodes, s, hturns, h => by
    have hturns : nodes.length ≤ turns := Nat.le_of_succ_le_succ hturns
    rw [LoadImm.visitFrom]
    by_cases hstop : isBOrBne x.data.opc = true
    · rw [if_pos hstop, items_stop hstop]
      exact ⟨tb, pre, x :: nodes, rfl, .refl h, by simpa using hstop⟩
    · rw [if_neg hstop]
      by_cases hpat : isLu12iOriLu32iPattern (x :: nodes) = true
      · obtain ⟨_, y, z, rest, heq, -⟩ := isPattern_cases hpat
        obtain ⟨rfl, rfl⟩ := List.cons.inj heq
        have hres : lu12iOriLu32i.res (x :: y :: z :: rest) = .ok (patternImm x y z) := rfl
        have h₁ := Rewrites.keepThree h
        simp only [List.length_cons] at hturns
        obtain ⟨tb₁, pre₁, nodes₁, its, s₁, hok₁, h₂, hle, hits⟩ := innerFollows (y :: z :: rest).length
          (s.set x.data.dstReg (patternImm x y z)) (by simp only [List.length_cons]; omega) h₁.nodes_eq
        obtain ⟨tb', pre', rest', hok, h', hrest⟩ := visitFrom_eq turns s₁ (by omega) h₂.nodes_eq
        rw [← ofNat_length_add pre [x, y, z]] at hok₁
        rw [if_pos (show lu12iOriLu32i.isPattern (x :: y :: z :: rest) = true from hpat), hres, ok_bind,
          items_pattern hpat, hits, patternItems_false]
        refine ⟨tb', pre', rest', ?_, (h₁.trans h₂).trans h', hrest⟩
        exact (congrArg (· >>= _) hok₁).trans hok
      · have h₁ := Rewrites.keep h
        have hidx : BitVec.ofNat 32 pre.length + 1 = BitVec.ofNat 32 (pre ++ [x]).length :=
          ofNat_length_add pre [x]
        obtain ⟨tb', pre', rest, hok, h', hrest⟩ := visitFrom_eq turns s hturns h₁.nodes_eq
        rw [if_neg (show ¬lu12iOriLu32i.isPattern (x :: nodes) = true from hpat), hidx,
          items_outer hstop hpat]
        exact ⟨tb', pre', rest, hok, h₁.trans h', hrest⟩

/-- What a block becomes. -/
abbrev plan (nodes : List (ListNode LoongArchInsInfo)) : List Item := items false .empty nodes

/-- **A visit** makes of a block what the plan says, up to the first `b` or `bne`. -/
theorem visit_eq (tb : TB ι) : ∃ tb' rest, visit tb = .ok tb' ∧
    (∀ n ∈ rest.head?, isBOrBne n.data.opc = true) ∧
    tb.disInsns.nodes = (plan tb.disInsns.nodes).flatMap Item.before ++ rest ∧
    tb'.disInsns.nodes = (plan tb.disInsns.nodes).flatMap Item.after ++ rest ∧
    RelsKept tb tb' ((plan tb.disInsns.nodes).flatMap Item.replaced) := by
  have hnodes : tb.disInsns.nodes = [] ++ tb.disInsns.nodes := rfl
  obtain ⟨tb', pre', rest, hok, h, hrest⟩ := visitFrom_eq tb.disInsns.nodes.length .empty le_rfl hnodes
  refine ⟨tb', rest, hok, hrest, h.behind, ?_, h.rels⟩
  rw [h.nodes_eq, h.front]
  rfl

end AotOpt.Lu12iOriLu32iVistor
