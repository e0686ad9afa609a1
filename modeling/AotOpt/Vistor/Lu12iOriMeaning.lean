import AotOpt.Vistor.Disassemble
import AotOpt.Vistor.Lu12iOriInForce
import AotOpt.Vistor.Meaning

/-!
# What `Lu12i_Ori_Vistor` keeps

The loader rewrites the instructions that a relocation covers, each to leave some value in its
destination register. Whatever these values are, the code of a block computes after a visit what
it did before, if no `addi.d` has a base that comes from such an instruction. The pass checks this
for the pairs that its inner loop comes to, but not for the pair with which its outer loop
enters it.

* `lu12iOri_sound_iff` — when a visit keeps what a block computes.
-/

namespace AotOpt.Lu12iOriVistor

open Lib DisassmbleVistor

variable {ι σ : Type}

/-! ### The machine -/

/-- An immediate of 20 bits. -/
def Si20 (si : BitVec 32) : Prop := -2 ^ 19 ≤ si.toInt ∧ si.toInt < 2 ^ 19

instance (si : BitVec 32) : Decidable (Si20 si) := by
  unfold Si20
  infer_instance

/-- `lu12i.w`. -/
def lu12iW (insn : LoongArchInsInfo) (m : Cpu σ) : Cpu σ :=
  m.set insn.dstReg ((insn.si.setWidth 20 ++ 0#12).signExtend 64)

/-- `ori`. -/
def ori (insn : LoongArchInsInfo) (m : Cpu σ) : Cpu σ :=
  m.set insn.dstReg (m.get (insn.srcsRegs 0) ||| (insn.ui.setWidth 12).setWidth 64)

/-- What an instruction does. Under a relocation it leaves in its destination register what the
loader makes it leave. -/
def meaning (other : LoongArchInsInfo → Cpu σ → Cpu σ) (w : ℕ → BitVec 64) (n : MarkedNode)
    (m : Cpu σ) : Cpu σ :=
  if n.2 then m.set n.1.data.dstReg (w n.1.addr)
  else if n.1.data.opc = .OPC_LU12I_W then lu12iW n.1.data m
  else if n.1.data.opc = .OPC_ORI then ori n.1.data m
  else if n.1.data.opc = .OPC_ADDI_D then addiD n.1.data m
  else other n.1.data m

/-- Of the general registers at most the destination register is written. -/
def WritesDst (other : LoongArchInsInfo → Cpu σ → Cpu σ) : Prop :=
  ∀ insn m r, r ≠ insn.dstReg → (other insn m).get r = m.get r

/-- The instructions up to the first `b` or `bne`. -/
def straightMarked (nodes : List MarkedNode) : List MarkedNode :=
  nodes.takeWhile fun n => !isBOrBne n.1.data.opc

/-- Whatever the loader and the other instructions do, the code of `tb'` up to the first `b` or
`bne` leaves the same in the general registers as that of `tb`. -/
def SameRegs (tb tb' : TB ι) : Prop :=
  ∀ {σ : Type} (other : LoongArchInsInfo → Cpu σ → Cpu σ) (w : ℕ → BitVec 64) (m : Cpu σ),
    WritesDst other → ∀ r, (m.exec (meaning other w) (straightMarked tb'.marked)).get r =
      (m.exec (meaning other w) (straightMarked tb.marked)).get r

/-- No `addi.d` that has replaced a pair has as its base the register of an earlier pair under a
relocation, nothing between the two pairs writing to it. -/
def BasesUnrelocated (tb tb' : TB ι) : Prop :=
  ∀ p u v mid x y post n, tb.marked = p ++ u :: v :: (mid ++ x :: y :: post) →
    isLu12iOriPattern [u.1, v.1] = true → (∀ k ∈ mid, k.1.data.dstReg ≠ u.1.data.dstReg) →
    isLu12iOriPattern [x.1, y.1] = true → n ∈ tb'.disInsns.nodes → n.addr = x.1.addr →
    n.data.opc = .OPC_ADDI_D → n.data.srcsRegs 0 = u.1.data.dstReg → (u.2 || v.2) = false

/-! ### What a pair loads -/

theorem simulateLu12iW_eq {si : BitVec 32} (h : Si20 si) :
    simulateLu12iW si = (si.setWidth 20 ++ 0#12).signExtend 64 := by
  obtain ⟨hlo, hhi⟩ := h
  have hsi : (si.setWidth 20).toInt = si.toInt := by
    rw [BitVec.toInt_setWidth, BitVec.toInt_eq_toNat_bmod] at *
    simp only [Int.bmod] at *
    omega
  have htwo : (BitVec.twoPow 64 12).toInt = 2 ^ 12 := rfl
  apply BitVec.eq_of_toInt_eq
  rw [simulateLu12iW, BitVec.shiftLeft_eq_mul_twoPow, BitVec.toInt_mul, htwo,
    BitVec.toInt_signExtend_of_le (by decide), BitVec.toInt_signExtend_of_le (by decide),
    BitVec.toInt_append, hsi]
  change (si.toInt * 2 ^ 12).bmod (2 ^ 64) = 2 ^ 12 * si.toInt + 0
  rw [Int.bmod_eq_of_le (by omega) (by omega)]
  omega

theorem simulateOri_eq (reg : BitVec 64) (ui : BitVec 16) :
    simulateOri reg (ui.setWidth 64) = reg ||| (ui.setWidth 12).setWidth 64 := by
  refine congrArg (reg ||| ·) (BitVec.eq_of_toNat_eq ?_)
  have hmod : (ui.toNat % 2 ^ 64 &&& 4095) = ui.toNat % 2 ^ 64 % 2 ^ 12 :=
    Nat.and_two_pow_sub_one_eq_mod _ 12
  rw [BitVec.toNat_and, BitVec.toNat_setWidth, BitVec.toNat_setWidth, BitVec.toNat_setWidth]
  change (ui.toNat % 2 ^ 64 &&& 4095) = _
  rw [hmod]
  omega

theorem range_of_can {imm : BitVec 64} (h : canSubstitueWithAddiInsn imm = true) :
    -2048 ≤ imm.toInt ∧ imm.toInt ≤ 2047 := by
  rw [canSubstitueWithAddiInsn, Bool.and_eq_true, decide_eq_true_eq, decide_eq_true_eq] at h
  exact h

theorem simm12_setWidth {imm : BitVec 64} (h : canSubstitueWithAddiInsn imm = true) :
    simm12 (imm.setWidth 32) = imm := by
  obtain ⟨hlo, hhi⟩ := range_of_can h
  have himm : imm.setWidth 32 = BitVec.ofInt 32 imm.toInt := by
    apply BitVec.eq_of_toInt_eq
    rw [BitVec.toInt_setWidth, BitVec.toInt_ofInt, BitVec.toInt_eq_toNat_bmod, Int.bmod_bmod_of_dvd]
    decide
  rw [himm, simm12_ofInt ⟨hlo, Int.lt_add_one_of_le hhi⟩, BitVec.ofInt_toInt]

/-- A `lu12i.w` and an `ori` over its register load the immediate of the two. -/
theorem ori_lu12iW {x y : LoongArchInsInfo} (hdst : y.dstReg = x.dstReg)
    (hsrc : y.srcsRegs 0 = x.dstReg) (hsi : Si20 x.si) (m : Cpu σ) :
    ori y (lu12iW x m) =
      m.set x.dstReg (simulateOri (simulateLu12iW x.si) (y.ui.setWidth 64)) := by
  rw [ori, lu12iW, hdst, hsrc, simulateOri_eq, simulateLu12iW_eq hsi]
  by_cases hzero : x.dstReg = 0
  · rw [hzero, Machine.set_zero, Machine.set_zero, Machine.set_zero]
  · rw [Machine.get_set_self hzero, Machine.set_set]

/-- An `addi.d` over a register that holds `imm'`. -/
theorem addiD_addiInsn {dst reg : BitVec 8} {imm imm' : BitVec 64} {m : Cpu σ}
    (hget : m.get reg = imm') (hclose : canSubstitueWithAddiInsn (imm - imm') = true) :
    addiD (addiInsn dst reg ((imm - imm').setWidth 32)) m = m.set dst imm := by
  have hexec : addiD (addiInsn dst reg ((imm - imm').setWidth 32)) m =
      m.set dst (m.get reg + simm12 ((imm - imm').setWidth 32)) := rfl
  rw [hexec, hget, simm12_setWidth hclose, BitVec.add_comm, BitVec.sub_add_cancel]

section Meaning

variable {other : LoongArchInsInfo → Cpu σ → Cpu σ} {w : ℕ → BitVec 64} {m : Cpu σ}
  {x y n : MarkedNode}

theorem get_meaning_of_ne (hother : WritesDst other) {r : BitVec 8} (h : r ≠ n.1.data.dstReg) :
    (meaning other w n m).get r = m.get r := by
  rw [meaning]
  split_ifs
  · exact Machine.get_set_of_ne h _
  · exact Machine.get_set_of_ne h _
  · exact Machine.get_set_of_ne h _
  · exact Machine.get_set_of_ne h _
  · exact hother _ _ _ h

/-- **A pair** that no relocation covers loads its immediate. -/
theorem meaning_pair (hpat : isLu12iOriPattern [x.1, y.1] = true) (hx : x.2 = false)
    (hy : y.2 = false) (hsi : Si20 x.1.data.si) :
    meaning other w y (meaning other w x m) = m.set x.1.data.dstReg (pairImm x.1 y.1) := by
  obtain ⟨hlu, hori, hdst, hsrc⟩ := opc_of_isPattern hpat
  rw [meaning, hy, if_neg Bool.false_ne_true, if_neg (by rw [hori]; decide), if_pos hori, meaning, hx,
    if_neg Bool.false_ne_true, if_pos hlu, ori_lu12iW hdst hsrc hsi, pairImm]

/-! ### The constants hold -/

/-- The registers hold what is known of them, other than from a pair under a relocation. -/
def Sound (K : Known) (m : Cpu σ) : Prop :=
  ∀ r, K.consts.isConst r = true → K.source r = none → m.get r = K.consts.regs r

variable {K : Known}

theorem Sound.kill (h : Sound K m) (hother : WritesDst other) :
    Sound (K.kill n.1.data.dstReg) (meaning other w n m) := by
  intro r hconst hsource
  obtain ⟨hconst, hne⟩ := (isConst_kill ..).mp hconst
  rw [get_meaning_of_ne hother (Ne.symm hne), h r hconst hsource, Known.kill, regs_kill]

theorem Sound.pair (h : Sound K m) (hother : WritesDst other)
    (hzero : ∀ {r}, K.consts.isConst r = true → r ≠ 0)
    (hpat : isLu12iOriPattern [x.1, y.1] = true) (hsi : Si20 x.1.data.si) :
    Sound (K.pair x y) (meaning other w y (meaning other w x m)) := by
  intro r hconst hsource
  have hdst := (opc_of_isPattern hpat).2.2.1
  change (K.consts.set x.1.data.dstReg (pairImm x.1 y.1)).isConst r = true at hconst
  change Function.update K.source x.1.data.dstReg (if x.2 || y.2 then some (x.1, y.1) else none) r =
    none at hsource
  change _ = (K.consts.set x.1.data.dstReg (pairImm x.1 y.1)).regs r
  rw [isConst_set] at hconst
  by_cases hr : r = x.1.data.dstReg
  · subst hr
    have hne : x.1.data.dstReg ≠ 0 := hconst.elim hzero And.right
    have hno : (x.2 || y.2) = false := by
      by_contra hrel
      rw [Function.update_self, if_pos ((Bool.not_eq_false _).mp hrel)] at hsource
      cases hsource
    obtain ⟨hx, hy⟩ := Bool.or_eq_false_iff.mp hno
    rw [meaning_pair hpat hx hy hsi, Machine.get_set_self hne, regs_set_self _ hne]
  · rw [Function.update_of_ne hr] at hsource
    rw [regs_set_of_ne _ hr, get_meaning_of_ne hother (hdst ▸ hr), get_meaning_of_ne hother hr]
    exact h r (hconst.resolve_right fun heq => hr heq.1.symm) hsource

theorem before_pairItems {inner : Bool} (hrec : (inner && (x.2 || y.2)) = false) :
    (pairItems inner K x y).flatMap Item.before = [x, y] := by
  cases inner with
  | false => rfl
  | true =>
    rw [Bool.true_and, Bool.or_eq_false_iff] at hrec
    obtain ⟨close, hclose⟩ := LoadImm.closeReg_ok K.consts (pairImm x.1 y.1) LoadImm.regs
    cases close with
    | none =>
      rw [pairItems_none hclose]
      rfl
    | some r =>
      rw [pairItems_some hclose]
      exact congrArg₂ (fun a b => [(x.1, a), (y.1, b)]) hrec.1.symm hrec.2.symm

/-- What becomes of a pair loads its immediate, if the base of the `addi.d` is not from a pair under
a relocation. -/
theorem exec_pairItems {inner : Bool} {pre nodes : List MarkedNode} (h : At inner K pre nodes)
    (hsound : Sound K m) (hpat : isLu12iOriPattern [x.1, y.1] = true)
    (hrec : (inner && (x.2 || y.2)) = false) (hsi : Si20 x.1.data.si)
    (hnone : ∀ a b reg imm source, .subst a b reg imm source ∈ pairItems inner K x y → source = none) :
    m.exec (meaning other w) ((pairItems inner K x y).flatMap Item.after) =
      meaning other w y (meaning other w x m) := by
  cases inner with
  | false => rfl
  | true =>
    rw [Bool.true_and, Bool.or_eq_false_iff] at hrec
    obtain ⟨close, hclose⟩ := LoadImm.closeReg_ok K.consts (pairImm x.1 y.1) LoadImm.regs
    cases close with
    | none =>
      rw [pairItems_none hclose]
      rfl
    | some r =>
      obtain ⟨reg, imm⟩ := r
      rw [pairItems_some hclose] at hnone ⊢
      have hsource := hnone _ _ _ _ _ (List.mem_singleton_self _)
      obtain ⟨p, u, v, hbase, rfl, rfl⟩ := h.knows.closeReg_eq_some_iff.mp hclose
      have hne := ne_zero_of_mem_regs _ hbase.mem_regs
      have hconst := (h.knows.isConst_iff _).mpr ⟨hne, p, u, v, hbase.holds, rfl⟩
      have hget := hsound _ hconst hsource
      rw [(h.knows.value p u v hbase.holds hne).1] at hget
      rw [meaning_pair hpat hrec.1 hrec.2 hsi]
      exact addiD_addiInsn hget hbase.close

/-- **The plan** computes what the block computes. -/
theorem exec_items (hother : WritesDst other) : ∀ {nodes : List MarkedNode} {inner : Bool} {K : Known}
    {pre : List MarkedNode} {m : Cpu σ}, At inner K pre nodes → Sound K m →
    (∀ n ∈ nodes, n.1.data.opc = .OPC_LU12I_W → Si20 n.1.data.si) →
    (∀ a b reg imm source, .subst a b reg imm source ∈ items inner K nodes → source = none) →
      m.exec (meaning other w) ((items inner K nodes).flatMap Item.after) =
        m.exec (meaning other w) ((items inner K nodes).flatMap Item.before)
  | [], inner, K, pre, m, _, _, _, _ => by rw [items]; rfl
  | [x], inner, K, pre, m, _, _, _, _ => by
    rw [items]
    split_ifs <;> rfl
  | x :: y :: nodes, inner, K, pre, m, h, hsound, hsi, hnone => by
    have hsi' := fun n hn => hsi n (List.mem_cons_of_mem x hn)
    rw [items] at hnone ⊢
    split_ifs at hnone ⊢ with hstop hpair hinner
    · rfl
    · rw [Bool.and_eq_true, Bool.not_eq_true'] at hpair
      have hsix := hsi x List.mem_cons_self (opc_of_isPattern hpair.1).1
      have hzero : ∀ {r}, K.consts.isConst r = true → r ≠ 0 := fun hr => ((h.knows.isConst_iff _).mp hr).1
      rw [List.flatMap_append, List.flatMap_append, Machine.exec_append, Machine.exec_append,
        before_pairItems hpair.2, exec_pairItems h hsound hpair.1 hpair.2 hsix
          fun a b reg imm source hmem => hnone a b reg imm source (List.mem_append_left _ hmem)]
      exact exec_items hother (h.pair hpair.1 hpair.2) (hsound.pair hother hzero hpair.1 hsix)
        (fun n hn => hsi' n (List.mem_cons_of_mem _ hn))
        fun a b reg imm source hmem => hnone a b reg imm source (List.mem_append_right _ hmem)
    · subst hinner
      exact exec_items hother (h.keep (rel_of_not_pair hpair nodes)) (hsound.kill hother) hsi'
        fun a b reg imm source hmem => hnone a b reg imm source (List.mem_cons_of_mem _ hmem)
    · obtain rfl := (Bool.not_eq_true _).mp hinner
      have hidle := idle_iff.mp (h.inner_iff.mp rfl)
      refine exec_items hother (h.skip (not_pattern_of_not_pair hpair nodes)) (fun r hconst => ?_) hsi'
        fun a b reg imm source hmem => hnone a b reg imm source (List.mem_cons_of_mem _ hmem)
      obtain ⟨-, p, u, v, huv, -⟩ := (h.knows.isConst_iff r).mp hconst
      exact absurd huv (hidle p u v)

end Meaning

/-! ### A visit -/

theorem straightMarked_append {ns rest : List MarkedNode}
    (hplain : ∀ n ∈ ns, isBOrBne n.1.data.opc = false)
    (hrest : ∀ n ∈ rest.head?, isBOrBne n.1.data.opc = true) : straightMarked (ns ++ rest) = ns := by
  have hend : rest.takeWhile (fun n => !isBOrBne n.1.data.opc) = [] := by
    cases rest with
    | nil => rfl
    | cons n rest => simp [hrest n rfl]
  rw [straightMarked, List.takeWhile_append_of_pos (by simpa using hplain), hend, List.append_nil]

/-- No instruction of the item is a `b` or `bne`. -/
def Item.Plain (it : Item) : Prop :=
  (∀ n ∈ it.before, isBOrBne n.1.data.opc = false) ∧ ∀ n ∈ it.after, isBOrBne n.1.data.opc = false

theorem Item.plain_keep {n : MarkedNode} (h : ¬isBOrBne n.1.data.opc = true) :
    (Item.keep n.1 n.2).Plain := by
  simpa [Item.Plain, Item.before, Item.after] using h

theorem plain_pairItems {inner : Bool} {K : Known} {x y : MarkedNode}
    (hpat : isLu12iOriPattern [x.1, y.1] = true) : ∀ it ∈ pairItems inner K x y, it.Plain := by
  obtain ⟨hx, hy, -, -⟩ := opc_of_isPattern hpat
  have hx : ¬isBOrBne x.1.data.opc = true := by rw [hx]; decide
  have hy : ¬isBOrBne y.1.data.opc = true := by rw [hy]; decide
  intro it hit
  unfold pairItems at hit
  split at hit
  · obtain rfl := List.mem_singleton.mp hit
    refine ⟨?_, ?_⟩
    · simpa [Item.before] using And.intro hx hy
    · intro n hn
      obtain rfl := List.mem_singleton.mp hn
      rfl
  · simp only [List.mem_cons, List.not_mem_nil, or_false] at hit
    rcases hit with rfl | rfl
    · exact Item.plain_keep hx
    · exact Item.plain_keep hy

theorem plain_items : ∀ {nodes : List MarkedNode} {inner : Bool} {K : Known},
    ∀ it ∈ items inner K nodes, it.Plain
  | [], inner, K, it, hit => by
    rw [items] at hit
    cases hit
  | [x], inner, K, it, hit => by
    rw [items] at hit
    split_ifs at hit with hstop
    · cases hit
    · obtain rfl := List.mem_singleton.mp hit
      exact Item.plain_keep hstop
  | x :: y :: nodes, inner, K, it, hit => by
    rw [items] at hit
    split_ifs at hit with hstop hpair hinner
    · cases hit
    · rw [Bool.and_eq_true] at hpair
      rcases List.mem_append.mp hit with hit | hit
      · exact plain_pairItems hpair.1 it hit
      · exact plain_items it hit
    · rcases List.mem_cons.mp hit with rfl | hit
      · exact Item.plain_keep hstop
      · exact plain_items it hit
    · rcases List.mem_cons.mp hit with rfl | hit
      · exact Item.plain_keep hstop
      · exact plain_items it hit

/-- What a visit makes of the instructions up to the first `b` or `bne`. -/
theorem straightMarked_visit {tb : TB ι} (happart : RelsApart tb.rels tb.disInsns.nodes.length)
    (hlt : tb.disInsns.nodes.length < 2 ^ 30) : ∃ tb' rest, visit tb = .ok tb' ∧
      straightMarked tb.marked = (items false .empty tb.marked).flatMap Item.before ∧
      straightMarked tb'.marked = (items false .empty tb.marked).flatMap Item.after ∧
      tb.marked = (items false .empty tb.marked).flatMap Item.before ++ rest ∧
      tb'.marked = (items false .empty tb.marked).flatMap Item.after ++ rest := by
  obtain ⟨tb', rest, hok, hrest, hbefore, hafter⟩ := visit_eq happart hlt
  refine ⟨tb', rest, hok, ?_, ?_, hbefore, hafter⟩
  · conv_lhs => rw [hbefore]
    refine straightMarked_append (fun n hn => ?_) hrest
    obtain ⟨it, hit, hn⟩ := List.mem_flatMap.mp hn
    exact (plain_items it hit).1 n hn
  · rw [hafter]
    refine straightMarked_append (fun n hn => ?_) hrest
    obtain ⟨it, hit, hn⟩ := List.mem_flatMap.mp hn
    exact (plain_items it hit).2 n hn

/-! ### Where the bases come from -/

/-- A list is split at one address in one way. -/
theorem split_unique {p p' post post' : List MarkedNode} {x x' : MarkedNode}
    (hnodup : ((p ++ x :: post).map (·.1.addr)).Nodup) (h : p ++ x :: post = p' ++ x' :: post')
    (haddr : x.1.addr = x'.1.addr) : p = p' ∧ x = x' ∧ post = post' := by
  have key : ∀ {p p' post post' : List MarkedNode} {x x' : MarkedNode} {ns : List MarkedNode},
      ((p ++ x :: post).map (·.1.addr)).Nodup → x.1.addr = x'.1.addr → p' = p ++ ns →
      x :: post = ns ++ x' :: post' → p = p' ∧ x = x' ∧ post = post' := by
    rintro p p' post post' x x' ns hnodup haddr rfl hns
    cases ns with
    | nil =>
      obtain ⟨rfl, rfl⟩ := List.cons.inj hns
      exact ⟨(List.append_nil p).symm, rfl, rfl⟩
    | cons n ns =>
      obtain ⟨rfl, rfl⟩ := List.cons.inj hns
      rw [List.map_append, List.map_cons, List.nodup_append, List.nodup_cons] at hnodup
      exact absurd (haddr ▸ List.mem_map_of_mem (by simp)) hnodup.2.1.1
  rcases List.append_eq_append_iff.mp h with ⟨ns, hp, hns⟩ | ⟨ns, hp, hns⟩
  · exact key hnodup haddr hp hns
  · rw [h] at hnodup
    obtain ⟨rfl, rfl, rfl⟩ := key hnodup haddr.symm hp hns
    exact ⟨rfl, rfl, rfl⟩

theorem nodup_marked (tb : TB ι) : (tb.marked.map (·.1.addr)).Nodup := by
  have h : tb.marked.map (·.1.addr) = (tb.marked.map Prod.fst).map (·.addr) := by
    rw [List.map_map]
    rfl
  rw [h, TB.marked, map_fst_markFrom]
  exact tb.disInsns.nodup

theorem mem_nodes_iff {tb : TB ι} {n : ListNode LoongArchInsInfo} :
    n ∈ tb.disInsns.nodes ↔ ∃ mark, (n, mark) ∈ tb.marked := by
  have hnodes : tb.marked.map Prod.fst = tb.disInsns.nodes := map_fst_markFrom _ 0
  rw [← hnodes, List.mem_map]
  exact ⟨fun ⟨k, hk, hn⟩ => ⟨k.2, hn ▸ hk⟩, fun ⟨mark, hmem⟩ => ⟨_, hmem, rfl⟩⟩

/-- An `addi.d` where there was a `lu12i.w` replaces a pair. -/
theorem exists_subst {tb tb' : TB ι} {rest p post : List MarkedNode} {x : MarkedNode}
    {n : ListNode LoongArchInsInfo}
    (hbefore : tb.marked = (items false .empty tb.marked).flatMap Item.before ++ rest)
    (hafter : tb'.marked = (items false .empty tb.marked).flatMap Item.after ++ rest)
    (hx : tb.marked = p ++ x :: post) (hlu : x.1.data.opc = .OPC_LU12I_W)
    (hn : n ∈ tb'.disInsns.nodes) (haddr : n.addr = x.1.addr) (hopc : n.data.opc = .OPC_ADDI_D) :
    ∃ y reg imm source, .subst x.1 y reg imm source ∈ items false .empty tb.marked ∧
      n.data.srcsRegs 0 = reg := by
  -- the node is not one of those that stay
  have hnew : ∀ mark, (n, mark) ∉ tb.marked := by
    intro mark hmem
    obtain ⟨q, q', hq⟩ := List.append_of_mem hmem
    have hnodup := nodup_marked tb
    rw [hq] at hnodup
    obtain ⟨-, rfl, -⟩ := split_unique hnodup (hq.symm.trans hx) haddr
    rw [hlu] at hopc
    cases hopc
  obtain ⟨mark, hmem⟩ := mem_nodes_iff.mp hn
  rw [hafter] at hmem
  rcases List.mem_append.mp hmem with hmem | hmem
  · obtain ⟨it, hit, hmem⟩ := List.mem_flatMap.mp hmem
    have hold : ∀ k ∈ it.before, k ∈ tb.marked := fun k hk => by
      rw [hbefore]
      exact List.mem_append_left _ (List.mem_flatMap.mpr ⟨it, hit, hk⟩)
    cases it with
    | keep k mark' =>
      obtain ⟨rfl, rfl⟩ := Prod.mk.inj (List.mem_singleton.mp hmem)
      exact absurd (hold _ (List.mem_singleton_self _)) (hnew mark)
    | subst a b reg imm source =>
      obtain ⟨rfl, -⟩ := Prod.mk.inj (List.mem_singleton.mp hmem)
      have ha := hold (a, false) List.mem_cons_self
      obtain ⟨q, q', hq⟩ := List.append_of_mem ha
      have hnodup := nodup_marked tb
      rw [hq] at hnodup
      obtain ⟨-, rfl, -⟩ := split_unique hnodup (hq.symm.trans hx) haddr
      exact ⟨b, reg, imm, source, hit, rfl⟩
  · exact absurd (hbefore ▸ List.mem_append_right _ hmem) (hnew mark)

/-- No base comes from a relocation if and only if the block is clean. -/
theorem basesUnrelocated_iff {tb tb' : TB ι} {rest : List MarkedNode}
    (hbefore : tb.marked = (items false .empty tb.marked).flatMap Item.before ++ rest)
    (hafter : tb'.marked = (items false .empty tb.marked).flatMap Item.after ++ rest) :
    BasesUnrelocated tb tb' ↔ Clean tb.marked := by
  have hnodup := nodup_marked tb
  constructor
  · intro h q a b u v hsite
    obtain ⟨post, hsplit⟩ := hsite.split
    obtain ⟨p, hbase⟩ := hsite.base
    obtain ⟨mid, hq, hpat, hmid⟩ := hbase.holds.split
    have hne := ne_zero_of_mem_regs _ hbase.mem_regs
    have hmem := (mem_items_iff (.start tb.marked)).mpr ⟨q, u, v, hsite, rfl, rfl, rfl⟩
    have hnode : (⟨a.addr, addiInsn a.data.dstReg u.1.data.dstReg
        ((pairImm a b - pairImm u.1 v.1).setWidth 32)⟩ : ListNode LoongArchInsInfo) ∈
          tb'.disInsns.nodes := by
      refine mem_nodes_iff.mpr ⟨false, ?_⟩
      rw [hafter]
      exact List.mem_append_left _ (List.mem_flatMap.mpr ⟨_, hmem, List.mem_singleton_self _⟩)
    refine h p u v mid (a, false) (b, false) post _ ?_ hpat ?_ hsite.pattern hnode rfl rfl rfl
    · rw [hsplit]
      rw [List.nil_append] at hq
      rw [hq]
      simp
    · rcases hmid with rfl | hmid
      · simp
      · exact hmid.2
  · intro h p u v mid x y post n hsplit hpat hmid hpat' hn haddr hopc hsrc
    have hsplit' : tb.marked = (p ++ u :: v :: mid) ++ x :: y :: post := by
      rw [hsplit]
      simp
    obtain ⟨b, reg, imm, source, hmem, hreg⟩ := exists_subst hbefore hafter hsplit'
      (opc_of_isPattern hpat').1 hn haddr hopc
    obtain ⟨q, u', v', hsite, hregu, -, -⟩ := (mem_items_iff (.start tb.marked)).mp hmem
    obtain ⟨post', hq⟩ := hsite.split
    rw [hsplit'] at hnodup
    obtain ⟨rfl, -, -⟩ := split_unique hnodup (hsplit'.symm.trans hq) rfl
    obtain ⟨p', hbase⟩ := hsite.base
    obtain ⟨mid', hq', hpatu, hmidu⟩ := hbase.holds.split
    rw [List.nil_append] at hq'
    have hmidu : ∀ k ∈ mid', k.1.data.dstReg ≠ u'.1.data.dstReg := by
      rcases hmidu with rfl | hmidu
      · simp
      · exact hmidu.2
    obtain ⟨-, rfl, rfl⟩ := eq_of_inForce hq' hpat hmid hpatu hmidu
      (hsrc.symm.trans (hreg.trans hregu))
    exact h _ _ _ _ _ hsite

/-- **`Lu12i_Ori_Vistor::visit`**: the code up to the first `b` or `bne` leaves the same in the
general registers, and no `addi.d` has its base from a pair under a relocation, if and only if the
block is clean. -/
theorem lu12iOri_sound_iff (tb : TB ι) (happart : RelsApart tb.rels tb.disInsns.nodes.length)
    (hlt : tb.disInsns.nodes.length < 2 ^ 30)
    (hsi : ∀ n ∈ tb.disInsns.nodes, n.data.opc = .OPC_LU12I_W → Si20 n.data.si) :
    ∃ tb', visit tb = .ok tb' ∧
      ((SameRegs tb tb' ∧ BasesUnrelocated tb tb') ↔ Clean tb.marked) := by
  obtain ⟨tb', rest, hok, hold, hnew, hbefore, hafter⟩ := straightMarked_visit happart hlt
  have hbases := basesUnrelocated_iff hbefore hafter
  refine ⟨tb', hok, fun h => hbases.mp h.2, fun h => ⟨?_, hbases.mpr h⟩⟩
  intro σ other w m hother r
  have hsi' : ∀ n ∈ tb.marked, n.1.data.opc = .OPC_LU12I_W → Si20 n.1.data.si := fun n hn =>
    hsi n.1 (mem_nodes_iff.mpr ⟨n.2, hn⟩)
  have hnothing : Sound Known.empty m := fun r hconst => by cases hconst
  rw [hold, hnew, exec_items hother (.start tb.marked) hnothing hsi' (clean_iff.mp h)]

/-- `lu12i.w $a0, 1; ori $a0, $a0, 0`, a `lu12i.w`, `ori $a1, $a1, 4`, `lu12i.w $a2, 2;
ori $a2, $a2, 8`, and a `b`. -/
def threeLoadsWords (lu12i : BitVec 32) : List (BitVec 32) :=
  [0x14000024, 0x03800084, lu12i, 0x038010a5, 0x14000046, 0x038020c6, 0x50000000]

/-- A disassembled block of these. -/
def threeLoadsCode (lu12i : BitVec 32) : TB ℕ :=
  startTB (.new { (default : AOTTB) with jmpResetOffsets := fun _ => TB_JMP_RESET_OFFSET_INVALID }
    ⟨28, threeLoadsWords lu12i, show 7 = _ from rfl⟩ 0)

theorem nodes_threeLoadsCode (lu12i : BitVec 32) : (threeLoadsCode lu12i).disInsns.nodes =
    (threeLoadsWords lu12i).zipIdx.map fun e => ⟨e.2, disassemble e.1⟩ :=
  nodes_visit _ _ _

/-- This block, with a relocation of the first pair. -/
def threeLoads (lu12i : BitVec 32) : TB ℕ :=
  { threeLoadsCode lu12i with rels := [⟨⟨.LOAD_TB_ADDR, 0, 2, 0, 0⟩, true⟩] }

theorem nodes_threeLoads (lu12i : BitVec 32) : (threeLoads lu12i).disInsns.nodes =
    (threeLoadsWords lu12i).zipIdx.map fun e => ⟨e.2, disassemble e.1⟩ :=
  (show _ = (threeLoadsCode lu12i).disInsns.nodes from rfl).trans (nodes_threeLoadsCode lu12i)

theorem marked_threeLoads (lu12i : BitVec 32) : (threeLoads lu12i).marked =
    [(⟨0, disassemble 0x14000024⟩, true), (⟨1, disassemble 0x03800084⟩, true),
      (⟨2, disassemble lu12i⟩, false), (⟨3, disassemble 0x038010a5⟩, false),
      (⟨4, disassemble 0x14000046⟩, false), (⟨5, disassemble 0x038020c6⟩, false),
      (⟨6, disassemble 0x50000000⟩, false)] := by
  rw [TB.marked, nodes_threeLoads]
  rfl

theorem relsApart_threeLoads (lu12i : BitVec 32) :
    RelsApart (threeLoads lu12i).rels (threeLoads lu12i).disInsns.nodes.length := by
  have hrels : (threeLoads lu12i).rels = [⟨⟨.LOAD_TB_ADDR, 0, 2, 0, 0⟩, true⟩] := rfl
  have hlen : (threeLoads lu12i).disInsns.nodes.length = 7 := congrArg List.length (nodes_threeLoads _)
  rw [hrels, hlen]
  exact ⟨by decide, by decide, by decide, List.pairwise_singleton _ _⟩

/-- Of the two pairs without a relocation the second is close to the first. -/
theorem lu12iOri_sound_threeLoads : ∃ tb', visit (threeLoads 0x14000045) = .ok tb' ∧
    SameRegs (threeLoads 0x14000045) tb' ∧ BasesUnrelocated (threeLoads 0x14000045) tb' := by
  have hsi : ∀ n ∈ (threeLoads 0x14000045).disInsns.nodes, n.data.opc = .OPC_LU12I_W →
      Si20 n.data.si := by
    rw [nodes_threeLoads]
    decide
  obtain ⟨tb', hok, hiff⟩ := lu12iOri_sound_iff (threeLoads 0x14000045) (relsApart_threeLoads _)
    (by rw [nodes_threeLoads]; decide) hsi
  refine ⟨tb', hok, hiff.mpr ?_⟩
  rw [marked_threeLoads]
  decide

/-- The `addi.d` that replaces the second pair has its base from the first, which the loader makes
load something else. -/
theorem lu12iOri_base_relocated : (threeLoads 0x14000025).pipeholeAvailable = true ∧
    RelsApart (threeLoads 0x14000025).rels (threeLoads 0x14000025).disInsns.nodes.length ∧
    ∃ tb', visit (threeLoads 0x14000025) = .ok tb' ∧ ¬SameRegs (threeLoads 0x14000025) tb' ∧
      ¬BasesUnrelocated (threeLoads 0x14000025) tb' := by
  obtain ⟨tb', rest, hok, hold, hnew, hbefore, hafter⟩ :=
    straightMarked_visit (relsApart_threeLoads 0x14000025) (by rw [nodes_threeLoads]; decide)
  refine ⟨by decide, relsApart_threeLoads _, tb', hok, fun hsame => ?_, fun hbases => ?_⟩
  · have hm := hsame (fun _ m => m) (fun _ => 0) (⟨fun _ => 0, fun _ => 0, ()⟩ : Cpu Unit)
      (fun _ _ _ _ => rfl) 5
    rw [hold, hnew, marked_threeLoads] at hm
    exact absurd hm (by decide)
  · have hclean := (basesUnrelocated_iff hbefore hafter).mp hbases
    rw [marked_threeLoads] at hclean
    exact absurd hclean (by decide)

end AotOpt.Lu12iOriVistor
