import AotOpt.AotClass.Covered
import AotOpt.Vistor.LoadImm

/-!
# What `Lu12i_Ori_Vistor` makes of a block

The pass goes through the instructions in one of two loops, with the constants it knows. `items`
lists what it makes of them: an instruction that stays, or a pair `lu12i.w`, `ori` that becomes an
`addi.d` over a register known to hold a constant. Both loops know a register after a pair, but
only the inner one asks whether a relocation covers the pair; `Known` has beside the constants the
pair under a relocation that a register is known from.

* `visit_eq` — what a visit makes of a block is what the items say.
-/

namespace AotOpt.Lu12iOriVistor

variable {ι : Type}

/-! ### The plan -/

/-- The constants, and of a register that is known from a pair under a relocation the pair. -/
structure Known where
  consts : ConstRegSet
  source : BitVec 8 → Option (ListNode LoongArchInsInfo × ListNode LoongArchInsInfo)

namespace Known

/-- Nothing is known. -/
def empty : Known := ⟨.empty, fun _ => none⟩

variable (K : Known)

/-- The register is not known any more. -/
def kill (which : BitVec 8) : Known := { K with consts := K.consts.kill which }

/-- The register is known. -/
def set (which : BitVec 8) (imm : BitVec 64)
    (source : Option (ListNode LoongArchInsInfo × ListNode LoongArchInsInfo)) : Known :=
  ⟨K.consts.set which imm, Function.update K.source which source⟩

end Known

/-- What a pair loads, by `get_lu12i_ori_res`. -/
def pairImm (x y : ListNode LoongArchInsInfo) : BitVec 64 :=
  simulateOri (simulateLu12iW x.data.si) (y.data.ui.setWidth 64)

/-- What becomes of an instruction or a pair. -/
inductive Item where
  | keep (n : ListNode LoongArchInsInfo) (marked : Bool)
  /-- The pair becomes an `addi.d` over a register that is known to hold `imm`. -/
  | subst (x y : ListNode LoongArchInsInfo) (reg : BitVec 8) (imm : BitVec 64)
      (source : Option (ListNode LoongArchInsInfo × ListNode LoongArchInsInfo))

/-- What there was. -/
def Item.before : Item → List (ListNode LoongArchInsInfo × Bool)
  | .keep n marked => [(n, marked)]
  | .subst x y _ _ _ => [(x, false), (y, false)]

/-- What there is. -/
def Item.after : Item → List (ListNode LoongArchInsInfo × Bool)
  | .keep n marked => [(n, marked)]
  | .subst x y reg imm _ =>
    [(⟨x.addr, addiInsn x.data.dstReg reg ((pairImm x y - imm).setWidth 32)⟩, false)]

/-- What is known after a pair. -/
def Known.pair (K : Known) (x y : ListNode LoongArchInsInfo × Bool) : Known :=
  K.set x.1.data.dstReg (pairImm x.1 y.1) (if x.2 || y.2 then some (x.1, y.1) else none)

/-- What becomes of a pair: in the inner loop an `addi.d`, if a register is close. -/
def pairItems (inner : Bool) (K : Known) (x y : ListNode LoongArchInsInfo × Bool) : List Item :=
  match inner, LoadImm.closeReg K.consts (pairImm x.1 y.1) LoadImm.regs with
  | true, .ok (some (i, imm)) => [.subst x.1 y.1 i imm (K.source i)]
  | _, _ => [.keep x.1 x.2, .keep y.1 y.2]

section PairItems

variable {K : Known} {x y : ListNode LoongArchInsInfo × Bool}

theorem pairItems_false : pairItems false K x y = [.keep x.1 x.2, .keep y.1 y.2] := rfl

theorem pairItems_none
    (h : LoadImm.closeReg K.consts (pairImm x.1 y.1) LoadImm.regs = .ok none) :
    pairItems true K x y = [.keep x.1 x.2, .keep y.1 y.2] := by
  unfold pairItems
  rw [h]

theorem pairItems_some {r : BitVec 8 × BitVec 64}
    (h : LoadImm.closeReg K.consts (pairImm x.1 y.1) LoadImm.regs = .ok (some r)) :
    pairItems true K x y = [.subst x.1 y.1 r.1 r.2 (K.source r.1)] := by
  unfold pairItems
  rw [h]

end PairItems

/-- What becomes of the marked instructions up to the first `b` or `bne`, in the inner loop or in
the outer one. -/
def items (inner : Bool) (K : Known) : List (ListNode LoongArchInsInfo × Bool) → List Item
  | [] => []
  | [x] => if isBOrBne x.1.data.opc then [] else [.keep x.1 x.2]
  | x :: y :: nodes =>
    if isBOrBne x.1.data.opc then []
    else if isLu12iOriPattern [x.1, y.1] && !(inner && (x.2 || y.2)) then
      pairItems inner K x y ++ items true (K.pair x y) nodes
    else if inner then
      .keep x.1 x.2 ::
        items ((K.kill x.1.data.dstReg).consts.size ≠ 0) (K.kill x.1.data.dstReg) (y :: nodes)
    else .keep x.1 x.2 :: items false K (y :: nodes)

/-! ### The loops follow the plan -/

/-- What has become of `tb` and its nodes `pre` and `nodes` on the way from the one to the other. -/
structure Rewrites (tb tb' : TB ι) (pre pre' nodes nodes' : List (ListNode LoongArchInsInfo))
    (its : List Item) : Prop where
  nodes_eq : tb'.disInsns.nodes = pre' ++ nodes'
  front : markFrom tb'.rels 0 pre' = markFrom tb.rels 0 pre ++ its.flatMap Item.after
  behind : markFrom tb.rels pre.length nodes =
    its.flatMap Item.before ++ markFrom tb'.rels pre'.length nodes'
  apart : RelsApart tb'.rels tb'.disInsns.nodes.length
  lt : tb'.disInsns.nodes.length < 2 ^ 30

section Rewrites

variable {tb tb' tb'' : TB ι} {pre pre' pre'' nodes nodes' nodes'' : List (ListNode LoongArchInsInfo)}
  {its its' : List Item} {n x y : ListNode LoongArchInsInfo}

theorem Rewrites.refl (h : tb.disInsns.nodes = pre ++ nodes)
    (happart : RelsApart tb.rels tb.disInsns.nodes.length) (hlt : tb.disInsns.nodes.length < 2 ^ 30) :
    Rewrites tb tb pre pre nodes nodes [] :=
  ⟨h, (List.append_nil _).symm, rfl, happart, hlt⟩

theorem Rewrites.trans (h : Rewrites tb tb' pre pre' nodes nodes' its)
    (h' : Rewrites tb' tb'' pre' pre'' nodes' nodes'' its') :
    Rewrites tb tb'' pre pre'' nodes nodes'' (its ++ its') :=
  ⟨h'.nodes_eq, by rw [h'.front, h.front, List.flatMap_append, List.append_assoc],
    by rw [h.behind, h'.behind, List.flatMap_append, List.append_assoc], h'.apart, h'.lt⟩

/-- An instruction is passed. -/
theorem Rewrites.keep (h : Rewrites tb tb pre pre (n :: nodes) (n :: nodes) []) :
    Rewrites tb tb pre (pre ++ [n]) (n :: nodes) nodes [.keep n (coveredAt tb.rels pre.length)] := by
  refine ⟨by rw [h.nodes_eq]; simp, ?_, ?_, h.apart, h.lt⟩
  · rw [markFrom_append, Nat.zero_add]
    rfl
  · rw [List.length_append]
    rfl

/-- A pair becomes an `addi.d`. -/
theorem Rewrites.subst (h : Rewrites tb tb pre pre (x :: y :: nodes) (x :: y :: nodes) [])
    (hx : coveredAt tb.rels pre.length = false) (hy : coveredAt tb.rels (pre.length + 1) = false)
    (i : BitVec 8) (imm : BitVec 64)
    (source : Option (ListNode LoongArchInsInfo × ListNode LoongArchInsInfo)) :
    ∃ tb', substitueWithAddiInsn x 2 i ((pairImm x y - imm).setWidth 32) tb
        (BitVec.ofNat 32 pre.length) = .ok tb' ∧
      Rewrites tb tb'
        pre (pre ++ [⟨x.addr, addiInsn x.data.dstReg i ((pairImm x y - imm).setWidth 32)⟩])
        (x :: y :: nodes) nodes [.subst x y i imm source] := by
  have hlen : pre.length + 1 < tb.disInsns.nodes.length := by
    rw [h.nodes_eq]
    simp only [List.length_append, List.length_cons]
    omega
  have hlt := h.lt
  have hnodes : tb.disInsns.nodes = (pre ++ [x]) ++ y :: nodes := by rw [h.nodes_eq]; simp
  have hoff : (((BitVec.ofNat 32 pre.length + 1).setWidth 64) <<< 2).toNat = 4 * (pre.length + 1) := by
    rw [BitVec.toNat_shiftLeft, BitVec.toNat_setWidth, BitVec.toNat_add, BitVec.toNat_ofNat,
      Nat.shiftLeft_eq]
    change (pre.length % 2 ^ 32 + 1) % 2 ^ 32 % 2 ^ 64 * 2 ^ 2 % 2 ^ 64 = _
    omega
  generalize hi : (BitVec.ofNat 32 pre.length + 1).setWidth 64 = k at hoff
  have hrels : (tb.deleteAt y k).rels = tb.rels.map (RelSlot.afterDelete (pre.length + 1)) :=
    h.apart.delete_eq hlt hoff
  have hrun : tb.deleteRun (tb.disInsns.next x.addr) k 1 = .ok (.first nodes, tb.deleteAt y k) := by
    have hy : tb.deleteIthInsnAlongwithRel (.node y.addr) k = .ok (.first nodes, tb.deleteAt y k) :=
      tb.deleteIthInsnAlongwithRel_eq_ok.mpr ⟨_, y, LinkList.nodes_mid hnodes, rfl,
        (LinkList.next_mid hnodes).symm.trans (LinkList.next_of_nodes (LinkList.nodes_mid hnodes)), rfl⟩
    rw [LinkList.next_mid h.nodes_eq, Ptr.first, TB.deleteRun, hy]
    rfl
  have hdel : (tb.deleteAt y k).disInsns.nodes = pre ++ x :: nodes := by
    rw [TB.disInsns_deleteAt, LinkList.nodes_remove_mid hnodes, List.append_assoc]
    rfl
  have hok : substitueWithAddiInsn x 2 i ((pairImm x y - imm).setWidth 32) tb
      (BitVec.ofNat 32 pre.length) = .ok ((tb.deleteAt y k).updateInsn x.addr fun insn =>
        addiInsn insn.dstReg i ((pairImm x y - imm).setWidth 32)) := by
    rw [substitueWithAddiInsn, hi, hrun]
    rfl
  have hnodes' := LinkList.nodes_update_mid
    (fun insn => addiInsn insn.dstReg i ((pairImm x y - imm).setWidth 32)) hdel
  have hlen' : (pre ++ x :: nodes).length = tb.disInsns.nodes.length - 1 := by
    rw [h.nodes_eq]
    simp only [List.length_append, List.length_cons]
    omega
  refine ⟨_, hok, hnodes'.trans (by rw [List.append_assoc]; rfl), ?_, ?_, ?_, ?_⟩
  · show markFrom (tb.deleteAt y k).rels 0 _ = _
    rw [hrels, markFrom_append, markFrom_delete_front h.apart hy (by omega), Nat.zero_add, markFrom,
      coveredAt_afterDelete h.apart hy, if_pos (Nat.lt_succ_self _), hx]
    rfl
  · show _ = _ ++ markFrom (tb.deleteAt y k).rels _ nodes
    rw [hrels, List.length_append, List.length_singleton, markFrom_delete_behind h.apart hy, markFrom,
      markFrom, hx, hy]
    rfl
  · show RelsApart (tb.deleteAt y k).rels (LinkList.nodes (LinkList.update _ _ _)).length
    rw [hrels, hnodes', List.length_append, List.length_cons]
    rw [List.length_append, List.length_cons] at hlen'
    rw [hlen']
    exact h.apart.delete hlen
  · show (LinkList.nodes (LinkList.update _ _ _)).length < _
    rw [hnodes', List.length_append, List.length_cons]
    rw [List.length_append, List.length_cons] at hlen'
    omega

theorem Rewrites.behind_subst {i : BitVec 8} {imm : BitVec 64}
    {source : Option (ListNode LoongArchInsInfo × ListNode LoongArchInsInfo)}
    (h : Rewrites tb tb' pre pre' (x :: y :: nodes) nodes [.subst x y i imm source]) :
    markFrom tb.rels (pre.length + 1 + 1) nodes = markFrom tb'.rels pre'.length nodes := by
  have hbehind := h.behind
  rw [markFrom, markFrom] at hbehind
  exact (List.cons.inj (List.cons.inj hbehind).2).2

end Rewrites

theorem ofNat_add_one (pre : List (ListNode LoongArchInsInfo)) (n : ListNode LoongArchInsInfo) :
    BitVec.ofNat 32 pre.length + 1 = BitVec.ofNat 32 (pre ++ [n]).length := by
  rw [List.length_append, BitVec.ofNat_add]
  rfl

theorem ofNat_add_two (pre : List (ListNode LoongArchInsInfo)) (x y : ListNode LoongArchInsInfo) :
    BitVec.ofNat 32 pre.length + BitVec.ofNat 32 2 = BitVec.ofNat 32 ((pre ++ [x]) ++ [y]).length := by
  rw [List.length_append, List.length_append, Nat.add_assoc, BitVec.ofNat_add]
  rfl

theorem isBOrBne_of_isPattern {x y : ListNode LoongArchInsInfo} (h : isLu12iOriPattern [x, y] = true) :
    isBOrBne x.data.opc = false :=
  (lu12iOri.isPattern_cases (show lu12iOri.isPattern (x :: [y]) = true from h)).1

/-- Where a loop can begin. -/
theorem Rewrites.restart {tb tb' : TB ι} {pre pre' nodes nodes' : List (ListNode LoongArchInsInfo)}
    {its : List Item} (h : Rewrites tb tb' pre pre' nodes nodes' its) :
    Rewrites tb' tb' pre' pre' nodes' nodes' [] :=
  .refl h.nodes_eq h.apart h.lt

section Inner

variable {tb tb₁ : TB ι} {pre pre₁ nodes nodes₁ : List (ListNode LoongArchInsInfo)}
  {x y : ListNode LoongArchInsInfo} {K K₁ : Known} {its : List Item} {turns : ℕ}

/-- The inner loop goes on from here as the items say, and the outer one behind it. -/
def InnerFollows (turns : ℕ) (tb : TB ι) (pre nodes : List (ListNode LoongArchInsInfo)) (K : Known) :
    Prop :=
  ∃ tb' pre' nodes' its K', lu12iOri.optPattern turns tb (BitVec.ofNat 32 pre.length) K.consts nodes =
      .ok (tb', BitVec.ofNat 32 pre'.length, K'.consts, nodes') ∧
    Rewrites tb tb' pre pre' nodes nodes' its ∧ nodes'.length ≤ nodes.length ∧
      items true K (markFrom tb.rels pre.length nodes) =
        its ++ items false K' (markFrom tb'.rels pre'.length nodes')

/-- **One turn** in front of the others. -/
theorem InnerFollows.turn (hfollows : InnerFollows turns tb₁ pre₁ nodes₁ K₁)
    (h : Rewrites tb tb₁ pre pre₁ nodes nodes₁ its) (hle : nodes₁.length ≤ nodes.length)
    (hturn : lu12iOri.optPattern (turns + 1) tb (BitVec.ofNat 32 pre.length) K.consts nodes =
      lu12iOri.optPattern turns tb₁ (BitVec.ofNat 32 pre₁.length) K₁.consts nodes₁)
    (hitems : items true K (markFrom tb.rels pre.length nodes) =
      its ++ items true K₁ (markFrom tb₁.rels pre₁.length nodes₁)) :
    InnerFollows (turns + 1) tb pre nodes K := by
  obtain ⟨tb', pre', nodes', its', K', hok, h', hle', hits⟩ := hfollows
  refine ⟨tb', pre', nodes', its ++ its', K', hturn.trans hok, h.trans h', hle'.trans hle, ?_⟩
  rw [hitems, hits, List.append_assoc]

/-- The last instruction. -/
theorem innerFollows_last (h : Rewrites tb tb pre pre [x] [x] []) :
    InnerFollows (turns + 1) tb pre [x] K := by
  have hpat : (lu12iOri.isPattern [x] && !(lu12iOri.checksRel &&
      tb.inScopeOfRel (BitVec.ofNat 32 pre.length) 2)) = false := rfl
  rw [InnerFollows, LoadImm.optPattern, if_neg (hpat ▸ Bool.false_ne_true), markFrom, markFrom, items]
  by_cases hstop : isBOrBne x.data.opc = true
  · rw [if_pos hstop, if_pos hstop]
    refine ⟨tb, pre, [x], [], K, rfl, h, le_rfl, ?_⟩
    rw [markFrom, markFrom, items, if_pos hstop]
    rfl
  · rw [if_neg hstop, if_neg hstop, ofNat_add_one pre x]
    refine ⟨tb, pre ++ [x], [], _, K.kill x.data.dstReg, ?_, h.keep, by simp, rfl⟩
    dsimp only
    split_ifs
    · rfl
    · rw [LoadImm.optPattern]
      rfl

/-- What the loop asks of two instructions, `in_scope_of_rel` included. -/
theorem Rewrites.optPattern_cond (h : Rewrites tb tb pre pre (x :: y :: nodes) (x :: y :: nodes) []) :
    (lu12iOri.isPattern (x :: y :: nodes) && !(lu12iOri.checksRel &&
      tb.inScopeOfRel (BitVec.ofNat 32 pre.length) 2)) = (isLu12iOriPattern [x, y] &&
        !(true && (coveredAt tb.rels pre.length || coveredAt tb.rels (pre.length + 1)))) := by
  have hscope : tb.inScopeOfRel (BitVec.ofNat 32 pre.length) 2 =
      (coveredAt tb.rels pre.length || coveredAt tb.rels (pre.length + 1)) := by
    refine TB.inScopeOfRel_two h.apart h.lt ?_
    have := h.lt
    rw [h.nodes_eq, List.length_append] at this
    omega
  rw [hscope]
  rfl

section Pair

variable (h : Rewrites tb tb pre pre (x :: y :: nodes) (x :: y :: nodes) [])
  (hpat : isLu12iOriPattern [x, y] = true) (hx : coveredAt tb.rels pre.length = false)
  (hy : coveredAt tb.rels (pre.length + 1) = false)
include h hpat hx hy

/-- The pair is one for the loop. -/
theorem optPattern_cond_pair : (lu12iOri.isPattern (x :: y :: nodes) && !(lu12iOri.checksRel &&
    tb.inScopeOfRel (BitVec.ofNat 32 pre.length) 2)) = true := by
  rw [h.optPattern_cond, hpat, hx, hy]
  rfl

omit h in
/-- The items of the pair and what is behind it. -/
theorem items_pair : items true K (markFrom tb.rels pre.length (x :: y :: nodes)) =
    pairItems true K (x, false) (y, false) ++
      items true (K.pair (x, false) (y, false)) (markFrom tb.rels (pre.length + 1 + 1) nodes) := by
  rw [markFrom, markFrom, items, hx, hy, if_neg (isBOrBne_of_isPattern hpat ▸ Bool.false_ne_true),
    if_pos (by rw [hpat]; rfl)]

/-- A pair is kept, when no register is close. -/
theorem innerFollows_pairKept (hclose : LoadImm.closeReg K.consts (pairImm x y) LoadImm.regs = .ok none)
    (hfollows : InnerFollows turns tb (pre ++ [x] ++ [y]) nodes (K.pair (x, false) (y, false))) :
    InnerFollows (turns + 1) tb pre (x :: y :: nodes) K := by
  have h₂ := h.keep.trans h.keep.restart.keep
  have hlen₁ : (pre ++ [x]).length = pre.length + 1 := List.length_append
  have hlen₂ : (pre ++ [x] ++ [y]).length = pre.length + 1 + 1 := by simp
  refine hfollows.turn h₂ (by simp only [List.length_cons]; omega) ?_ ?_
  · have hres : lu12iOri.res (x :: y :: nodes) = .ok (pairImm x y) := rfl
    rw [LoadImm.optPattern, if_pos (optPattern_cond_pair h hpat hx hy), hres, ok_bind, hclose, ok_bind,
      ← ofNat_add_two pre x y]
    rfl
  · have hitems : pairItems true K (x, false) (y, false) = [.keep x false, .keep y false] :=
      pairItems_none hclose
    rw [items_pair hpat hx hy, hitems, hlen₁, hx, hy, hlen₂]
    rfl

/-- It is replaced, when one is. -/
theorem innerFollows_pairReplaced {r : BitVec 8 × BitVec 64}
    (hclose : LoadImm.closeReg K.consts (pairImm x y) LoadImm.regs = .ok (some r))
    (hfollows : ∀ tb₁ : TB ι, ∀ n, Rewrites tb tb₁ pre (pre ++ [n]) (x :: y :: nodes) nodes
        [.subst x y r.1 r.2 (K.source r.1)] →
      InnerFollows turns tb₁ (pre ++ [n]) nodes (K.pair (x, false) (y, false))) :
    InnerFollows (turns + 1) tb pre (x :: y :: nodes) K := by
  obtain ⟨tb₁, hsub, h₁⟩ := h.subst hx hy r.1 r.2 (K.source r.1)
  refine (hfollows tb₁ _ h₁).turn h₁ (by simp only [List.length_cons]; omega) ?_ ?_
  · have hres : lu12iOri.res (x :: y :: nodes) = .ok (pairImm x y) := rfl
    have hsub' : substitueWithAddiInsn x lu12iOri.insnCount r.1 ((pairImm x y - r.2).setWidth 32) tb
        (BitVec.ofNat 32 pre.length) = .ok tb₁ := hsub
    rw [LoadImm.optPattern, if_pos (optPattern_cond_pair h hpat hx hy), hres, ok_bind, hclose, ok_bind,
      ← ofNat_add_one pre]
    dsimp only
    rw [hsub', ok_bind]
    rfl
  · have hitems : pairItems true K (x, false) (y, false) = [.subst x y r.1 r.2 (K.source r.1)] :=
      pairItems_some hclose
    rw [items_pair hpat hx hy, hitems, h₁.behind_subst]

end Pair

/-- Any other instruction. -/
theorem innerFollows_single (h : Rewrites tb tb pre pre (x :: y :: nodes) (x :: y :: nodes) [])
    (hpat : ¬(isLu12iOriPattern [x, y] &&
      !(true && (coveredAt tb.rels pre.length || coveredAt tb.rels (pre.length + 1)))) = true)
    (hfollows : InnerFollows turns tb (pre ++ [x]) (y :: nodes) (K.kill x.data.dstReg)) :
    InnerFollows (turns + 1) tb pre (x :: y :: nodes) K := by
  have hmarks : markFrom tb.rels (pre ++ [x]).length (y :: nodes) =
      (y, coveredAt tb.rels (pre.length + 1)) :: markFrom tb.rels (pre.length + 1 + 1) nodes := by
    rw [List.length_append, markFrom]
    rfl
  by_cases hstop : isBOrBne x.data.opc = true
  · refine ⟨tb, pre, x :: y :: nodes, [], K, ?_, h, le_rfl, ?_⟩
    · rw [LoadImm.optPattern, h.optPattern_cond, if_neg hpat, if_pos hstop]
    · rw [markFrom, markFrom, items, items, if_pos hstop, if_pos hstop]
      rfl
  · by_cases hsize : (K.kill x.data.dstReg).consts.size = 0
    · have hinner : decide ((K.kill x.data.dstReg).consts.size ≠ 0) = false :=
        decide_eq_false (not_not.mpr hsize)
      refine ⟨tb, pre ++ [x], y :: nodes, _, K.kill x.data.dstReg, ?_, h.keep, by simp, ?_⟩
      · rw [LoadImm.optPattern, h.optPattern_cond, if_neg hpat, if_neg hstop, ofNat_add_one pre x]
        exact if_pos hsize
      · rw [hmarks, markFrom, markFrom, items, if_neg hstop, if_neg hpat, if_pos rfl, hinner]
        rfl
    · have hinner : decide ((K.kill x.data.dstReg).consts.size ≠ 0) = true := decide_eq_true hsize
      refine hfollows.turn h.keep (by simp) ?_ ?_
      · rw [LoadImm.optPattern, h.optPattern_cond, if_neg hpat, if_neg hstop, ofNat_add_one pre x]
        exact if_neg hsize
      · rw [hmarks, markFrom, markFrom, items, if_neg hstop, if_neg hpat, if_pos rfl, hinner]
        rfl

end Inner

/-- **The inner loop**. -/
theorem innerFollows : ∀ (turns : ℕ) {tb : TB ι} {pre nodes : List (ListNode LoongArchInsInfo)}
    (K : Known), nodes.length ≤ turns → Rewrites tb tb pre pre nodes nodes [] →
      InnerFollows turns tb pre nodes K
  | turns, tb, pre, [], K, _, h => ⟨tb, pre, [], [], K, by rw [LoadImm.optPattern], h, le_rfl, rfl⟩
  | turns + 1, tb, pre, [x], K, _, h => innerFollows_last h
  | turns + 1, tb, pre, x :: y :: nodes, K, hturns, h => by
    rw [List.length_cons, List.length_cons] at hturns
    by_cases hpat : (isLu12iOriPattern [x, y] &&
        !(true && (coveredAt tb.rels pre.length || coveredAt tb.rels (pre.length + 1)))) = true
    · obtain ⟨hpair, hno⟩ := Bool.and_eq_true .. ▸ hpat
      rw [Bool.true_and, Bool.not_eq_true', Bool.or_eq_false_iff] at hno
      obtain ⟨close, hclose⟩ := LoadImm.closeReg_ok K.consts (pairImm x y) LoadImm.regs
      cases close with
      | none =>
        exact innerFollows_pairKept h hpair hno.1 hno.2 hclose
          (innerFollows turns _ (by omega) (h.keep.trans h.keep.restart.keep).restart)
      | some r =>
        exact innerFollows_pairReplaced h hpair hno.1 hno.2 hclose fun _ _ h₁ =>
          innerFollows turns _ (by omega) h₁.restart
    · exact innerFollows_single h hpat
        (innerFollows turns _ (by rw [List.length_cons]; omega) h.keep.restart)

/-- **The outer loop** from where the walk has come to. -/
theorem visitFrom_eq : ∀ (turns : ℕ) {tb : TB ι} {pre nodes : List (ListNode LoongArchInsInfo)}
    (K : Known), nodes.length ≤ turns → Rewrites tb tb pre pre nodes nodes [] →
    ∃ tb' pre' rest, lu12iOri.visitFrom turns tb (BitVec.ofNat 32 pre.length) K.consts nodes =
        .ok tb' ∧
      Rewrites tb tb' pre pre' nodes rest (items false K (markFrom tb.rels pre.length nodes)) ∧
        ∀ n ∈ rest.head?, isBOrBne n.data.opc = true
  | turns, tb, pre, [], K, _, h => ⟨tb, pre, [], by rw [LoadImm.visitFrom], h, by simp⟩
  | turns + 1, tb, pre, [x], K, _, h => by
    have hpat : lu12iOri.isPattern [x] = false := rfl
    rw [LoadImm.visitFrom, hpat, if_neg Bool.false_ne_true, markFrom, markFrom, items]
    split_ifs with hstop
    · exact ⟨tb, pre, [x], rfl, h, by simpa using hstop⟩
    · exact ⟨tb, pre ++ [x], [], by rw [LoadImm.visitFrom], h.keep, by simp⟩
  | turns + 1, tb, pre, x :: y :: nodes, K, hturns, h => by
    rw [List.length_cons, List.length_cons] at hturns
    have hmarks : markFrom tb.rels (pre ++ [x]).length (y :: nodes) =
        (y, coveredAt tb.rels (pre.length + 1)) :: markFrom tb.rels (pre.length + 1 + 1) nodes := by
      rw [List.length_append, markFrom]
      rfl
    have hpat : lu12iOri.isPattern (x :: y :: nodes) = (isLu12iOriPattern [x, y] &&
        !(false && (coveredAt tb.rels pre.length || coveredAt tb.rels (pre.length + 1)))) :=
      (Bool.and_true _).symm
    rw [LoadImm.visitFrom, hpat, markFrom, markFrom, items]
    by_cases hstop : isBOrBne x.data.opc = true
    · rw [if_pos hstop, if_pos hstop]
      exact ⟨tb, pre, x :: y :: nodes, rfl, h, by simpa using hstop⟩
    · rw [if_neg hstop, if_neg hstop]
      by_cases hpair : (isLu12iOriPattern [x, y] &&
          !(false && (coveredAt tb.rels pre.length || coveredAt tb.rels (pre.length + 1)))) = true
      · rw [if_pos hpair, if_pos hpair]
        have h₂ := h.keep.trans h.keep.restart.keep
        have hlen₁ : (pre ++ [x]).length = pre.length + 1 := List.length_append
        have hlen₂ : (pre ++ [x] ++ [y]).length = pre.length + 1 + 1 := by simp
        obtain ⟨tb₁, pre₁, nodes₁, its, K₁, hok₁, h₁, hle, hits⟩ := innerFollows (y :: nodes).length
          (K.pair (x, coveredAt tb.rels pre.length) (y, coveredAt tb.rels (pre.length + 1)))
          (Nat.le_succ _) h₂.restart
        obtain ⟨tb', pre', rest, hok, h', hrest⟩ := visitFrom_eq turns K₁ (by omega) h₁.restart
        refine ⟨tb', pre', rest, ?_, ?_, hrest⟩
        · rw [← ofNat_add_two pre x y] at hok₁
          have hres : lu12iOri.res (x :: y :: nodes) = .ok (pairImm x y) := rfl
          have hinner : lu12iOri.optPattern (y :: nodes).length tb _
              (K.consts.set x.data.dstReg (pairImm x y)) nodes = _ := hok₁
          rw [hres, ok_bind]
          dsimp only
          exact (congrArg (· >>= _) hinner).trans hok
        · rw [hlen₂] at hits
          rw [pairItems_false, hits]
          rw [hlen₁] at h₂
          exact (h₂.trans h₁).trans h'
      · rw [if_neg hpair, if_neg hpair, if_neg Bool.false_ne_true]
        obtain ⟨tb', pre', rest, hok, h', hrest⟩ := visitFrom_eq turns K (by simpa using hturns)
          h.keep.restart
        refine ⟨tb', pre', rest, ?_, ?_, hrest⟩
        · rw [ofNat_add_one pre x]
          exact hok
        · rw [hmarks] at h'
          exact h.keep.trans h'

/-- **A visit** makes of a block what the items say, up to the first `b` or `bne`. -/
theorem visit_eq {tb : TB ι} (happart : RelsApart tb.rels tb.disInsns.nodes.length)
    (hlt : tb.disInsns.nodes.length < 2 ^ 30) : ∃ tb' rest, visit tb = .ok tb' ∧
      (∀ n ∈ rest.head?, isBOrBne n.1.data.opc = true) ∧
      tb.marked = (items false .empty tb.marked).flatMap Item.before ++ rest ∧
      tb'.marked = (items false .empty tb.marked).flatMap Item.after ++ rest := by
  have hstart : Rewrites tb tb [] [] tb.disInsns.nodes tb.disInsns.nodes [] := .refl rfl happart hlt
  obtain ⟨tb', pre', rest, hok, h, hrest⟩ := visitFrom_eq tb.disInsns.nodes.length .empty le_rfl hstart
  refine ⟨tb', markFrom tb'.rels pre'.length rest, hok, ?_, h.behind, ?_⟩
  · cases rest with
    | nil => simp [markFrom]
    | cons n rest => simpa [markFrom] using hrest
  · rw [TB.marked, h.nodes_eq, markFrom_append, h.front, Nat.zero_add]
    rfl

end AotOpt.Lu12iOriVistor
