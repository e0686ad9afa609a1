import AotOpt.Vistor.AddiPasses
import AotOpt.Vistor.Lu12iOriLu32iMeaning
import AotOpt.Vistor.Reread

/-!
# What the passes keep

One machine for all passes: the instructions that they rewrite do what the instruction set says,
and the others do anything that depends on their operands only. A block without relocations
computes after any sequence of the passes what it computed before, up to its first `b` or `bne`,
and so do the words that are written of it. No `st.d` may store the register that it is based on,
and no `ld.d` load it: these are what the runs of accesses break.

* `Pass.sameEffect` — one pass.
* `sameEffect_words` — any sequence of passes, told from the words.
-/

namespace AotOpt

open Lib LoongArchInsInfo DisassmbleVistor
open Lu12iOriVistor (WritesDst lu12iW ori Si20 straightMarked)
open Lu12iOriLu32iVistor (lu32iD SiFits)

variable {ι σ : Type}

/-! ### The machine -/

/-- `andi`. -/
def andi (insn : LoongArchInsInfo) (m : Cpu σ) : Cpu σ :=
  m.set insn.dstReg (m.get (insn.srcsRegs 0) &&& (insn.ui.setWidth 12).setWidth 64)

/-- What an instruction does. -/
def insnMeaning (other : LoongArchInsInfo → Cpu σ → Cpu σ) (insn : LoongArchInsInfo) (m : Cpu σ) :
    Cpu σ :=
  match insn.opc with
  | .OPC_ST_D => storeD insn.dstReg (m.get (insn.srcsRegs 0) + simm12 insn.si) m
  | .OPC_LD_D => loadD insn.dstReg (m.get (insn.srcsRegs 0) + simm12 insn.si) m
  | .OPC_ADDI_D => addiD insn m
  | .OPC_LU12I_W => lu12iW insn m
  | .OPC_ORI => ori insn m
  | .OPC_LU32I_D => lu32iD insn m
  | .OPC_ANDI => andi insn m
  | _ => other insn m

/-- What a word does. -/
def wordMeaning (other : LoongArchInsInfo → Cpu σ → Cpu σ) (word : BitVec 32) (m : Cpu σ) : Cpu σ :=
  insnMeaning other (disassemble word) m

/-- The words up to the first `b` or `bne`. -/
def straightWords (words : List (BitVec 32)) : List (BitVec 32) :=
  words.takeWhile fun word => !isBOrBne (disassemble word).opc

/-- What the other instructions do depends on their operands only, and of the general registers at
most the destination register is written. -/
structure Admits (other : LoongArchInsInfo → Cpu σ → Cpu σ) : Prop where
  writesDst : WritesDst other
  sameInsn : ∀ insn insn', insn.SameInsn insn' → other insn = other insn'

section Machine

variable {other : LoongArchInsInfo → Cpu σ → Cpu σ}

theorem writesDst_insnMeaning (h : WritesDst other) : WritesDst (insnMeaning other) := by
  intro insn m r hr
  unfold insnMeaning
  split
  · rfl
  · exact Machine.get_set_of_ne hr _
  · exact Machine.get_set_of_ne hr _
  · exact Machine.get_set_of_ne hr _
  · exact Machine.get_set_of_ne hr _
  · exact Machine.get_set_of_ne hr _
  · exact Machine.get_set_of_ne hr _
  · exact h insn m r hr

/-- A nop does nothing. -/
theorem insnMeaning_nop {insn : LoongArchInsInfo} (h : RemoveNonVistor.isNop insn) (m : Cpu σ) :
    insnMeaning other insn m = m := by
  have hopc := RemoveNonVistor.opc_of_isNop h
  have hdst : insn.dstReg = 0 := by
    simp only [RemoveNonVistor.isNop, Bool.and_eq_true, decide_eq_true_eq] at h
    exact h.1.1.2
  have handi : insnMeaning other insn m = andi insn m := by simp [insnMeaning, hopc]
  rw [handi, andi, hdst, Machine.set_zero]

/-- The machine of `St_Addi_Vistor`. -/
theorem stAddi_meaning :
    StAddiVistor.stAddi.meaning storeD (insnMeaning other) = insnMeaning other := by
  funext insn m
  rw [AddiRun.meaning]
  split_ifs with hst haddi
  · have hst : insn.opc = .OPC_ST_D := hst
    simp [insnMeaning, hst]
  · simp [insnMeaning, haddi]
  · rfl

/-- The machine of `Ld_Addi_Vistor`. -/
theorem ldAddi_meaning :
    LdAddiVistor.ldAddi.meaning loadD (insnMeaning other) = insnMeaning other := by
  funext insn m
  rw [AddiRun.meaning]
  split_ifs with hld haddi
  · have hld : insn.opc = .OPC_LD_D := hld
    simp [insnMeaning, hld]
  · simp [insnMeaning, haddi]
  · rfl

/-- The machine of `Lu12i_Ori_Lu32i_Vistor`. -/
theorem lu12iOriLu32i_meaning :
    Lu12iOriLu32iVistor.meaning (insnMeaning other) = insnMeaning other := by
  funext insn m
  rw [Lu12iOriLu32iVistor.meaning]
  split_ifs with h h h h
  · simp [insnMeaning, h]
  · simp [insnMeaning, h]
  · simp [insnMeaning, h]
  · simp [insnMeaning, h]
  · rfl

/-- The machine of `Lu12i_Ori_Vistor`, where no relocation is. -/
theorem lu12iOri_meaning (w : ℕ → BitVec 64) (n : ListNode LoongArchInsInfo) (m : Cpu σ) :
    Lu12iOriVistor.meaning (insnMeaning other) w (n, false) m = insnMeaning other n.data m := by
  rw [Lu12iOriVistor.meaning, if_neg Bool.false_ne_true]
  dsimp only
  split_ifs with h h h
  · simp [insnMeaning, h]
  · simp [insnMeaning, h]
  · simp [insnMeaning, h]
  · rfl

end Machine

/-! ### The straight part -/

section Straight

variable {n : ListNode LoongArchInsInfo} {pre rest : List (ListNode LoongArchInsInfo)}

theorem straight_cons_branch (h : isBOrBne n.data.opc = true) (nodes : List (ListNode LoongArchInsInfo)) :
    straight (n :: nodes) = [] := by
  simp [straight, h]

theorem straight_cons (h : isBOrBne n.data.opc = false) (nodes : List (ListNode LoongArchInsInfo)) :
    straight (n :: nodes) = n.data :: straight nodes := by
  simp [straight, h]

/-- What is behind a branch does not matter. -/
theorem straight_append_branch (h : isBOrBne n.data.opc = true) :
    straight (pre ++ n :: rest) = straight pre := by
  induction pre with
  | nil => exact straight_cons_branch h rest
  | cons m pre ih =>
    cases hm : isBOrBne m.data.opc with
    | true => rw [List.cons_append, straight_cons_branch hm, straight_cons_branch hm]
    | false => rw [List.cons_append, straight_cons hm, straight_cons hm, ih]

end Straight

/-! ### One pass -/

/-- The code of `tb'` up to the first `b` or `bne` computes what that of `tb` does. -/
def SameEffect (tb tb' : TB ι) : Prop :=
  ∀ {σ : Type} (other : LoongArchInsInfo → Cpu σ → Cpu σ) (m : Cpu σ), WritesDst other →
    m.exec (insnMeaning other) (straight tb'.disInsns.nodes) =
      m.exec (insnMeaning other) (straight tb.disInsns.nodes)

theorem SameEffect.trans {tb tb' tb'' : TB ι} (h : SameEffect tb tb') (h' : SameEffect tb' tb'') :
    SameEffect tb tb'' :=
  fun other m hother => (h' other m hother).trans (h other m hother)

theorem SameEffect.of_straight {tb tb' : TB ι}
    (h : straight tb'.disInsns.nodes = straight tb.disInsns.nodes) : SameEffect tb tb' :=
  fun _ _ _ => by rw [h]

/-- No `st.d` stores the register it is based on, and no `ld.d` loads it. -/
def LoongArchInsInfo.Steady (insn : LoongArchInsInfo) : Prop :=
  (insn.opc = .OPC_ST_D → StAddiVistor.Postponable insn) ∧
    (insn.opc = .OPC_LD_D → LdAddiVistor.Postponable insn)

/-- What the passes need of a block to keep what it computes. -/
structure Ready (tb : TB ι) : Prop where
  ordered : tb.Ordered
  length_le : tb.disInsns.nodes.length ≤ 2 ^ 15
  rels : ∀ r ∈ tb.rels, r.valid = false
  kept : ∀ n ∈ tb.disInsns.nodes, n.data.Kept
  steady : ∀ n ∈ tb.disInsns.nodes, n.data.Steady

section Passes

variable {tb tb' : TB ι}

theorem exec_unmarked_removed {other : LoongArchInsInfo → Cpu σ → Cpu σ} :
    ∀ (nodes : List (ListNode LoongArchInsInfo)) (rels : List RelSlot) (i : BitVec 64) (m : Cpu σ),
      m.exec (insnMeaning other) (straight (unmarked (RemoveNonVistor.removed rels i nodes) nodes)) =
        m.exec (insnMeaning other) (straight nodes)
  | [], _, _, _ => rfl
  | n :: nodes, rels, i, m => by
    rw [RemoveNonVistor.removed]
    split_ifs with hdel
    · rw [Bool.and_eq_true] at hdel
      have hplain : isBOrBne n.data.opc = false := by
        rw [RemoveNonVistor.opc_of_isNop hdel.1]
        rfl
      rw [straight_cons hplain, Machine.exec_cons, insnMeaning_nop hdel.1]
      exact exec_unmarked_removed nodes _ i m
    · show m.exec _ (straight (n :: unmarked _ nodes)) = _
      cases hn : isBOrBne n.data.opc with
      | true => rw [straight_cons_branch hn, straight_cons_branch hn]
      | false =>
        rw [straight_cons hn, straight_cons hn, Machine.exec_cons, Machine.exec_cons]
        exact exec_unmarked_removed nodes rels (i + 1) _

/-- `RemoveNonVistor` deletes nops. -/
theorem RemoveNonVistor.sameEffect_visit (h : RemoveNonVistor.visit tb = .ok tb') : SameEffect tb tb' := by
  obtain ⟨tb₁, hok, -, hnodes⟩ := visit_ok (P := fun _ => True) (fun _ _ _ _ _ _ => trivial) tb trivial
  obtain rfl : tb₁ = tb' := by
    rw [h] at hok
    exact (Except.ok.inj hok).symm
  intro σ other m _
  rw [hnodes]
  exact exec_unmarked_removed _ _ _ m

/-- `remove_tail_of` deletes behind a `b`. -/
theorem RemoveTailVistor.straight_removeTailOf {which : Fin 2} (h : tb.Ordered)
    (hv : tb.originAotTb.slotValid which) (hok : removeTailOf tb which = .ok tb') :
    straight tb'.disInsns.nodes = straight tb.disInsns.nodes := by
  have hs := slotsInOrder_of_ordered h
  rw [removeTailOf_eq hs hv] at hok
  split_ifs at hok
  · obtain ⟨q, tb₁, hrun, -, hnodes⟩ := TB.deleteRun_ok (P := fun _ _ => True)
      (fun _ _ _ _ _ => trivial) (i := BitVec.ofNat 64 (tb.originAotTb.slotIndex which + 1)) _ trivial
      (tail_le hs hv)
    rw [hrun, ok_bind] at hok
    obtain ⟨n, hn, hopc⟩ := TB.opcAt_eq_some.mp (hs.slot which hv)
    have hb : isBOrBne n.data.opc = true := by
      rw [hopc]
      rfl
    have htake : tb.disInsns.nodes.take (tb.originAotTb.slotIndex which + 1) =
        tb.disInsns.nodes.take (tb.originAotTb.slotIndex which) ++ [n] := by
      rw [List.take_add_one, hn]
      rfl
    have hall := List.take_append_drop (tb.originAotTb.slotIndex which + 1) tb.disInsns.nodes
    rw [htake, List.append_assoc] at hall
    rw [← Except.ok.inj hok, hnodes, htake, List.append_assoc]
    conv_rhs => rw [← hall]
    exact (straight_append_branch hb).trans (straight_append_branch hb).symm
  · rw [← Except.ok.inj hok]

theorem RemoveTailVistor.sameEffect_visit (h : tb.Ordered) (hok : visit tb = .ok tb') :
    SameEffect tb tb' := by
  apply SameEffect.of_straight
  rw [visit] at hok
  split_ifs at hok with h2 h0 h1
  · simp only [Bool.and_eq_true] at h2
    obtain ⟨tb₁, hok₁, hord₁, hvalid⟩ := ordered_removeTailOf h h2.1.1.1
    rw [hok₁, ok_bind] at hok
    rw [straight_removeTailOf hord₁ ((hvalid 1).trans h2.1.1.2) hok,
      straight_removeTailOf h h2.1.1.1 hok₁]
  · rw [Bool.and_eq_true] at h0
    exact straight_removeTailOf h h0.1 hok
  · rw [Bool.and_eq_true] at h1
    exact straight_removeTailOf h h1.1 hok
  · rw [← Except.ok.inj hok]

namespace FixBranchVistor

/-- An assignment to a branch does not matter. -/
theorem straight_updateInsn {q : ℕ} {n : ListNode LoongArchInsInfo} (hn : tb.disInsns.nodes[q]? = some n)
    (hb : isBOrBne n.data.opc = true) (v : BitVec Field.offs.width) :
    straight (tb.updateInsn n.addr (·.set .offs v)).disInsns.nodes = straight tb.disInsns.nodes := by
  have hq := (List.getElem?_eq_some_iff.mp hn).1
  have hnode : tb.disInsns.nodes[q] = n := (List.getElem?_eq_some_iff.mp hn).2
  have hsplit : tb.disInsns.nodes = tb.disInsns.nodes.take q ++ n :: tb.disInsns.nodes.drop (q + 1) := by
    rw [← hnode, List.getElem_cons_drop, List.take_append_drop]
  have hnodes := LinkList.nodes_update_mid (·.set .offs v) hsplit
  have hset : isBOrBne (n.data.set .offs v).opc = true := hb
  have hnew : straight (tb.updateInsn n.addr (·.set .offs v)).disInsns.nodes =
      straight (tb.disInsns.nodes.take q) := by
    show straight (tb.disInsns.update n.addr (·.set .offs v)).nodes = _
    rw [hnodes]
    exact straight_append_branch hset
  rw [hnew]
  conv_rhs => rw [hsplit]
  exact (straight_append_branch hb).symm

theorem straight_fixBne (hok : fixBne tb = .ok tb') :
    straight tb'.disInsns.nodes = straight tb.disInsns.nodes := by
  obtain ⟨-, -, hok⟩ := bind_eq_ok.mp hok
  dsimp only at hok
  split at hok
  · cases hok
  · next a i hlast =>
    rcases @lastBne_eq_some _ [] _ _ _ hlast with hnone | ⟨k, n, hn, rfl, hopc, -⟩
    · cases hnone
    · rw [← Except.ok.inj hok]
      exact straight_updateInsn hn (by rw [hopc]; rfl) _

theorem straight_fixBOf {k : Bool} (hok : fixBOf tb k = .ok tb') :
    straight tb'.disInsns.nodes = straight tb.disInsns.nodes := by
  obtain ⟨n, hget, hok⟩ := bind_eq_ok.mp hok
  obtain ⟨_, hopc, hok⟩ := bind_eq_ok.mp hok
  have hopc : n.data.opc = .OPC_B := of_decide_eq_true (assert_eq_ok.mp hopc)
  split at hok
  · rw [← Except.ok.inj hok]
  · rw [← Except.ok.inj hok]
    exact straight_updateInsn (TB.get_eq_ok hget) (by rw [hopc]; rfl) _

/-- `FixBranchVistor` assigns to branches. -/
theorem sameEffect_visit (hok : visit tb = .ok tb') : SameEffect tb tb' := by
  apply SameEffect.of_straight
  obtain ⟨tb₁, h1, h2⟩ := bind_eq_ok.mp hok
  have hbne : straight tb₁.disInsns.nodes = straight tb.disInsns.nodes := by
    split_ifs at h1
    · exact straight_fixBne h1
    · rw [← Except.ok.inj h1]
  rw [← hbne]
  split_ifs at h2 with hlink
  · obtain ⟨k, hk, hk'⟩ := one_link_iff.mp hlink
    rw [fixB_eq hk hk'] at h2
    split_ifs at h2
    · exact straight_fixBOf h2
    · rw [← Except.ok.inj h2]
  · rw [← Except.ok.inj h2]

end FixBranchVistor

/-- Blocks in which every access may be postponed have good runs. -/
theorem AddiRun.goodRuns_of_forall (P : AddiRun) {good : LoongArchInsInfo → Prop} (tb : TB ι)
    (h : ∀ n ∈ tb.disInsns.nodes, n.data.opc = P.opc → good n.data) :
    P.GoodRuns good tb.disInsns.nodes := by
  intro ps hps _ k hk _
  obtain ⟨_, rest, -, hsplit, -⟩ := P.visit_eq tb
  obtain ⟨-, reg, hpairs⟩ := P.ok_pieces tb.disInsns.nodes _ hps
  have hmem : (ps[k]).1 ∈ unpair ps := List.mem_flatMap.mpr ⟨ps[k], List.getElem_mem hk, by simp⟩
  refine h _ ?_ (hpairs _ (List.getElem_mem hk)).opc
  rw [hsplit]
  exact List.mem_append_left _ (List.mem_flatMap.mpr ⟨_, hps, hmem⟩)

theorem StAddiVistor.sameEffect_visit (h : Ready tb) (hok : visit tb = .ok tb') : SameEffect tb tb' := by
  have hgood : stAddi.GoodRuns Postponable tb.disInsns.nodes :=
    stAddi.goodRuns_of_forall tb fun n hn => (h.steady n hn).1
  have hsame : stAddi.SameStraight storeD tb.disInsns.nodes tb'.disInsns.nodes :=
    AddiRun.sameStraight_visit fits_stAddi (fun _ hp => hp.movable) hok
      (AddiRun.accepts_of_not_valid h.rels) hgood
  intro σ other m _
  rw [← stAddi_meaning]
  exact hsame (insnMeaning other) m

theorem LdAddiVistor.sameEffect_visit (h : Ready tb) (hok : visit tb = .ok tb') : SameEffect tb tb' := by
  have hgood : ldAddi.GoodRuns Postponable tb.disInsns.nodes :=
    ldAddi.goodRuns_of_forall tb fun n hn => (h.steady n hn).2
  have hsame : ldAddi.SameStraight loadD tb.disInsns.nodes tb'.disInsns.nodes :=
    AddiRun.sameStraight_visit fits_ldAddi (fun _ hp => hp.movable) hok
      (AddiRun.accepts_of_not_valid h.rels) hgood
  intro σ other m _
  rw [← ldAddi_meaning]
  exact hsame (insnMeaning other) m

/-- The immediates of instructions that can be encoded fit. -/
theorem LoongArchInsInfo.Kept.si20 {insn : LoongArchInsInfo} (h : insn.Kept)
    (hopc : insn.opc = .OPC_LU12I_W ∨ insn.opc = .OPC_LU32I_D) : Si20 insn.si := by
  have hinsn : insn.Encodable := h.encodable (by rcases hopc with hopc | hopc <;> rw [hopc] <;> decide)
  have hpack : Pack.field .si (.of 5 20) ∈ insn.packs := by
    unfold packs
    rcases hopc with hopc | hopc
    · rw [hopc]
      decide
    · rw [hopc]
      decide
  have hfits : insn.FieldFits .si 20 := hinsn.fits _ hpack
  exact hfits

theorem Ready.siFits (h : Ready tb) : SiFits tb.disInsns.nodes :=
  fun n hn hopc => (h.kept n hn).si20 hopc

theorem Lu12iOriLu32iVistor.sameEffect_visit (h : Ready tb) (hok : visit tb = .ok tb') :
    SameEffect tb tb' := by
  obtain ⟨tb₁, rest, hok₁, hrest, hbefore, hafter, -⟩ := visit_eq tb
  obtain rfl : tb₁ = tb' := by
    rw [hok] at hok₁
    exact (Except.ok.inj hok₁).symm
  have hspec : ∀ it ∈ plan tb.disInsns.nodes, it.Plain ∧ it.Close := spec_items tb.disInsns.nodes
  have hplain : ∀ n ∈ (plan tb.disInsns.nodes).flatMap Item.before, isBOrBne n.data.opc = false := by
    intro n hn
    obtain ⟨it, hit, hn⟩ := List.mem_flatMap.mp hn
    exact (hspec it hit).1.1 n hn
  have hplain' : ∀ n ∈ (plan tb.disInsns.nodes).flatMap Item.after, isBOrBne n.data.opc = false := by
    intro n hn
    obtain ⟨it, hit, hn⟩ := List.mem_flatMap.mp hn
    exact (hspec it hit).1.2 n hn
  intro σ other m hother
  have hnothing : Sound .empty m := fun r hconst => by cases hconst
  conv_rhs => rw [hbefore]
  rw [hafter, straight_append hplain hrest, straight_append hplain' hrest, ← lu12iOriLu32i_meaning]
  exact exec_items (writesDst_insnMeaning hother) tb.disInsns.nodes Lu12iOriVistor.counted_empty hnothing
    (fun _ _ => rfl) h.siFits

namespace Lu12iOriVistor

/-- Without relocations no instruction is marked. -/
theorem not_marked (hrels : ∀ r ∈ tb.rels, r.valid = false) : ∀ n ∈ tb.marked, n.2 = false := by
  have hcov : ∀ k, coveredAt tb.rels k = false := by
    intro k
    by_contra hk
    obtain ⟨r, hr, hv, -⟩ := coveredAt_iff.mp (by simpa using hk)
    rw [hrels r hr] at hv
    cases hv
  have hall : ∀ (nodes : List (ListNode LoongArchInsInfo)) (k : ℕ), ∀ n ∈ markFrom tb.rels k nodes,
      n.2 = false := by
    intro nodes
    induction nodes with
    | nil =>
      intro k n hn
      cases hn
    | cons n₀ nodes ih =>
      intro k n hn
      rcases List.mem_cons.mp hn with rfl | hn
      · exact hcov k
      · exact ih (k + 1) n hn
  exact hall _ 0

/-- The machine on instructions that are not marked. -/
theorem exec_straightMarked {other : LoongArchInsInfo → Cpu σ → Cpu σ} {w : ℕ → BitVec 64} :
    ∀ (nodes : List (ListNode LoongArchInsInfo × Bool)) (m : Cpu σ), (∀ n ∈ nodes, n.2 = false) →
      m.exec (meaning (insnMeaning other) w) (straightMarked nodes) =
        m.exec (insnMeaning other) (straight (nodes.map Prod.fst))
  | [], _, _ => rfl
  | (n, mark) :: nodes, m, h => by
    obtain rfl : mark = false := h _ List.mem_cons_self
    rw [straightMarked, List.map_cons]
    cases hn : isBOrBne n.data.opc with
    | true => simp [straight_cons_branch, hn]
    | false =>
      have ih : Machine.exec (meaning (insnMeaning other) w) (straightMarked nodes)
          (insnMeaning other n.data m) = _ :=
        exec_straightMarked nodes _ fun n hn => h n (List.mem_cons_of_mem _ hn)
      rw [straight_cons hn, List.takeWhile_cons_of_pos (by simp [hn]), Machine.exec_cons,
        Machine.exec_cons, lu12iOri_meaning]
      exact ih

theorem sameEffect_visit (h : Ready tb) (hok : visit tb = .ok tb') (hpatch : tb.Patched tb') :
    SameEffect tb tb' := by
  have hlen := h.length_le
  have happart : RelsApart tb.rels tb.disInsns.nodes.length := by
    have hno : ∀ r ∈ tb.rels, ¬r.valid = true := fun r hr => by simp [h.rels r hr]
    refine ⟨fun r hr hv => absurd hv (hno r hr), fun r hr hv => absurd hv (hno r hr),
      fun r hr hv => absurd hv (hno r hr), ?_⟩
    rw [List.pairwise_iff_forall_sublist]
    intro r r' hsub hv
    exact absurd hv (hno r (hsub.subset List.mem_cons_self))
  obtain ⟨tb₁, rest, hok₁, hold, hnew, -, -⟩ := straightMarked_visit happart (by omega)
  obtain rfl : tb₁ = tb' := by
    rw [hok] at hok₁
    exact (Except.ok.inj hok₁).symm
  have hmarked := not_marked h.rels
  have hclean : Clean tb.marked := by
    intro q a b u v hsite
    obtain ⟨post, hsplit⟩ := hsite.split
    obtain ⟨p, hbase⟩ := hsite.base
    obtain ⟨mid, hq, -, -⟩ := hbase.holds.split
    have hu : u ∈ tb.marked := by
      rw [hsplit]
      rw [List.nil_append] at hq
      simp [hq]
    have hv : v ∈ tb.marked := by
      rw [hsplit]
      rw [List.nil_append] at hq
      simp [hq]
    rw [hmarked u hu, hmarked v hv, Bool.or_self]
  have hsi : ∀ n ∈ tb.marked, n.1.data.opc = .OPC_LU12I_W → Si20 n.1.data.si := fun n hn hopc =>
    (h.kept n.1 (mem_nodes_iff.mpr ⟨n.2, hn⟩)).si20 (.inl hopc)
  intro σ other m hother
  have hnothing : Sound Known.empty m := fun r hconst => by cases hconst
  have hexec : m.exec (meaning (insnMeaning other) fun _ => 0) (straightMarked tb₁.marked) =
      m.exec (meaning (insnMeaning other) fun _ => 0) (straightMarked tb.marked) := by
    rw [hold, hnew, exec_items (writesDst_insnMeaning hother) (.start tb.marked) hnothing hsi
      (clean_iff.mp hclean)]
  rw [exec_straightMarked _ _ hmarked, exec_straightMarked _ _ (not_marked (hpatch.not_valid h.rels)),
    TB.marked, TB.marked, map_fst_markFrom, map_fst_markFrom] at hexec
  exact hexec

end Lu12iOriVistor

/-- **Each pass** keeps what the block computes. -/
theorem Pass.sameEffect (h : Ready tb) : ∀ {pass : Pass}, pass.visit tb = .ok tb' → SameEffect tb tb'
  | .removeNon, hok => RemoveNonVistor.sameEffect_visit hok
  | .lu12iOriLu32i, hok => Lu12iOriLu32iVistor.sameEffect_visit h hok
  | .lu12iOri, hok =>
    Lu12iOriVistor.sameEffect_visit h hok (LoadImm.patched_visit Lu12iOriVistor.startsWithLu12iW hok)
  | .stAddi, hok => StAddiVistor.sameEffect_visit h hok
  | .ldAddi, hok => LdAddiVistor.sameEffect_visit h hok
  | .removeTail, hok => RemoveTailVistor.sameEffect_visit h.ordered hok
  | .fixBranch, hok => FixBranchVistor.sameEffect_visit hok

end Passes

/-! ### Any sequence of passes -/

/-- A patch changes neither what is stored or loaded nor the base. -/
theorem LoongArchInsInfo.Steady.patch {insn insn' : LoongArchInsInfo} (h : insn.Steady)
    (hp : Patch insn insn') : insn'.Steady := by
  cases hp with
  | addi =>
    constructor
    · intro hopc
      cases hopc
    · intro hopc
      cases hopc
  | si => exact h
  | offsB => exact h
  | offsBne => exact h

theorem LoongArchInsInfo.Steady.patches {insn insn' : LoongArchInsInfo} (h : insn.Steady)
    (hp : Relation.ReflTransGen Patch insn insn') : insn'.Steady := by
  induction hp with
  | refl => exact h
  | tail _ hpatch ih => exact ih.patch hpatch

theorem Ready.relsLow {tb : TB ι} (h : Ready tb) : tb.RelsLow := by
  intro r hr hv
  rw [h.rels r hr] at hv
  cases hv

/-- A block that was patched is as the passes need it. -/
theorem Ready.patched {tb tb' : TB ι} (h : Ready tb) (hpatch : tb.Patched tb') (hord : tb'.Ordered) :
    Ready tb' where
  ordered := hord
  length_le := hpatch.nodes.length_le.trans h.length_le
  rels := hpatch.not_valid h.rels
  kept := hpatch.kept h.kept
  steady n' hn' := by
    obtain ⟨n, hn, hp⟩ := hpatch.nodes.exists_of_mem hn'
    exact (h.steady n hn).patches hp.2

/-- **Any sequence of passes** keeps what the block computes. -/
theorem sameEffect_runPasses : ∀ (passes : List Pass) {tb : TB ι}, Ready tb →
    ∃ tb', runPasses tb passes = .ok tb' ∧ Ready tb' ∧ SameEffect tb tb'
  | [], tb, h => ⟨tb, rfl, h, SameEffect.of_straight rfl⟩
  | pass :: passes, tb, h => by
    obtain ⟨tb₁, hok₁, hord₁⟩ := pass.ordered_visit h.ordered
    have hpatch := Pass.patched h.ordered h.length_le h.relsLow hok₁
    obtain ⟨tb', hok, h', hsame⟩ := sameEffect_runPasses passes (h.patched hpatch hord₁)
    refine ⟨tb', ?_, h', SameEffect.trans (Pass.sameEffect h hok₁) hsame⟩
    rw [runPasses, List.foldlM_cons, hok₁]
    exact hok

/-! ### The words -/

section Words

variable {other : LoongArchInsInfo → Cpu σ → Cpu σ}

/-- The operands of an opcode. -/
theorem LoongArchInsInfo.SameInsn.operand {insn insn' : LoongArchInsInfo} (h : insn.SameInsn insn')
    {opc : LoongArchOpc} (hopc : insn'.opc = opc) {f : Field}
    (hf : ∃ p ∈ encodefuncs (insn2format opc), p.source = f) : insn.operand f = insn'.operand f := by
  obtain ⟨p, hp, rfl⟩ := hf
  apply h.2
  rw [packs, hopc]
  exact hp

/-- What an instruction does depends on its operands only. -/
theorem insnMeaning_congr (h : Admits other) {insn insn' : LoongArchInsInfo} (hs : insn.SameInsn insn') :
    insnMeaning other insn = insnMeaning other insn' := by
  have hopc := hs.1
  have hdst : ∀ {opc}, insn'.opc = opc → (∃ p ∈ encodefuncs (insn2format opc), p.source = .dstReg) →
      insn.dstReg = insn'.dstReg := fun ho hf => hs.operand ho hf
  have hsrc : ∀ {opc}, insn'.opc = opc →
      (∃ p ∈ encodefuncs (insn2format opc), p.source = .srcsRegs 0) →
      insn.srcsRegs 0 = insn'.srcsRegs 0 := fun ho hf => hs.operand ho hf
  have hsi : ∀ {opc}, insn'.opc = opc → (∃ p ∈ encodefuncs (insn2format opc), p.source = .si) →
      insn.si = insn'.si := fun ho hf => hs.operand ho hf
  have hui : ∀ {opc}, insn'.opc = opc → (∃ p ∈ encodefuncs (insn2format opc), p.source = .ui) →
      insn.ui = insn'.ui := fun ho hf => hs.operand ho hf
  funext m
  unfold insnMeaning
  rw [hopc]
  split
  · next ho => rw [hdst ho (by decide), hsrc ho (by decide), hsi ho (by decide)]
  · next ho => rw [hdst ho (by decide), hsrc ho (by decide), hsi ho (by decide)]
  · next ho => rw [addiD, addiD, hdst ho (by decide), hsrc ho (by decide), hsi ho (by decide)]
  · next ho => rw [lu12iW, lu12iW, hdst ho (by decide), hsi ho (by decide)]
  · next ho => rw [ori, ori, hdst ho (by decide), hsrc ho (by decide), hui ho (by decide)]
  · next ho => rw [lu32iD, lu32iD, hdst ho (by decide), hsi ho (by decide)]
  · next ho => rw [andi, andi, hdst ho (by decide), hsrc ho (by decide), hui ho (by decide)]
  · rw [h.sameInsn insn insn' hs]

/-- Words that are read as the nodes. -/
theorem exec_straightWords (h : Admits other) {words : List (BitVec 32)}
    {nodes : List (ListNode LoongArchInsInfo)}
    (hread : List.Forall₂ (fun word n => (disassemble word).SameInsn n.data) words nodes) (m : Cpu σ) :
    m.exec (wordMeaning other) (straightWords words) = m.exec (insnMeaning other) (straight nodes) := by
  induction hread generalizing m with
  | nil => rfl
  | @cons word n words nodes hword _ ih =>
    have hbranch : isBOrBne (disassemble word).opc = isBOrBne n.data.opc := by rw [hword.1]
    rw [straightWords]
    cases hn : isBOrBne n.data.opc with
    | true =>
      rw [straight_cons_branch hn, List.takeWhile_cons_of_neg (by rw [hbranch, hn]; decide)]
      rfl
    | false =>
      rw [straight_cons hn, List.takeWhile_cons_of_pos (by rw [hbranch, hn]; decide), Machine.exec_cons,
        Machine.exec_cons, wordMeaning, insnMeaning_congr h hword]
      exact ih _

end Words

/-- No word is a `st.d` that stores the register it is based on, or a `ld.d` that loads it. -/
def SteadyWords (words : List (BitVec 32)) : Prop := ∀ word ∈ words, (disassemble word).Steady

/-- **Any sequence of passes** on a block without relocations that was disassembled and admitted,
with at most `2 ^ 15` words and no access to the register it is based on: the words that are written
of it compute, up to the first `b` or `bne`, what its words computed. -/
theorem sameEffect_words (tb : TB ι) (hblank : tb.Blank) (ha : (startTB tb).pipeholeAvailable = true)
    (hbne : (startTB tb).BneFirst) (hlen : tb.code.words.length ≤ 2 ^ 15)
    (hrels : ∀ r ∈ tb.rels, r.valid = false) (hsteady : SteadyWords tb.code.words)
    (passes : List Pass) (insnPtr : ℕ) (targetTb : AOTTB) (w : Writer) :
    ∃ tb' words, runPasses (startTB tb) passes = .ok tb' ∧
      (TBWriter.handleAssemble tb' insnPtr targetTb w).2.buf.code =
        w.buf.code ++ words.zipIdx.map (fun e => (insnPtr + 4 * e.2, e.1)) ∧
      ∀ {σ : Type} (other : LoongArchInsInfo → Cpu σ → Cpu σ) (m : Cpu σ), Admits other →
        m.exec (wordMeaning other) (straightWords words) =
          m.exec (wordMeaning other) (straightWords tb.code.words) := by
  have hready : Ready (startTB tb) := by
    refine ⟨ordered_startTB hblank ha hbne, ?_, ?_, kept_startTB hblank, ?_⟩
    · rw [length_of_blank hblank]
      exact hlen
    · rw [rels_startTB]
      exact hrels
    · rw [nodes_of_blank hblank]
      intro n hn
      obtain ⟨e, he, rfl⟩ := List.mem_map.mp hn
      exact hsteady e.1 (List.fst_mem_of_mem_zipIdx he)
  obtain ⟨tb', hok, hready', hsame⟩ := sameEffect_runPasses passes hready
  refine ⟨tb', tb'.disInsns.nodes.map fun n => encode n.data, hok, ?_, fun other m hother => ?_⟩
  · rw [TBWriter.handleAssemble, TBWriter.emit_eq]
  · rw [exec_straightWords hother (sameInsn_encode hready'.kept),
      exec_straightWords hother (sameInsn_code hblank)]
    exact hsame other m hother.writesDst

/-- `andi $zero, $zero, 0`, `lu12i.w` and `ori` of two registers, two pushes and a `b`. -/
def loadsAndPushes : List (BitVec 32) :=
  [0x03400000, 0x14000024, 0x03800084, 0x14000025, 0x038010a5, 0x29ffe064, 0x02ffe063, 0x29ffe065,
    0x02ffe063, 0x50000000]

theorem steady_of_opc {word : BitVec 32} (hst : (disassemble word).opc ≠ .OPC_ST_D)
    (hld : (disassemble word).opc ≠ .OPC_LD_D) : (disassemble word).Steady :=
  ⟨fun hopc => absurd hopc hst, fun hopc => absurd hopc hld⟩

/-- The pushes store other registers than the one they move. -/
theorem steady_loadsAndPushes : SteadyWords loadsAndPushes := by
  intro word hword
  simp only [loadsAndPushes, List.mem_cons, List.not_mem_nil, or_false] at hword
  rcases hword with rfl | rfl | rfl | rfl | rfl | rfl | rfl | rfl | rfl | rfl
  · exact steady_of_opc (by decide) (by decide)
  · exact steady_of_opc (by decide) (by decide)
  · exact steady_of_opc (by decide) (by decide)
  · exact steady_of_opc (by decide) (by decide)
  · exact steady_of_opc (by decide) (by decide)
  · exact ⟨fun _ => ⟨by decide, by decide⟩, fun hopc => by cases hopc⟩
  · exact steady_of_opc (by decide) (by decide)
  · exact ⟨fun _ => ⟨by decide, by decide⟩, fun hopc => by cases hopc⟩
  · exact steady_of_opc (by decide) (by decide)
  · exact steady_of_opc (by decide) (by decide)

/-- Four passes over these. -/
theorem sameEffect_loadsAndPushes :
    let tb : TB ℕ := .new { (default : AOTTB) with
      jmpResetOffsets := fun j => if j = 0 then 36 else TB_JMP_RESET_OFFSET_INVALID
      jmpTargetArg := fun _ => 36 } ⟨40, loadsAndPushes, rfl⟩ 0
    ∃ tb' words, runPasses (startTB tb) [.removeNon, .lu12iOri, .stAddi, .fixBranch] = .ok tb' ∧
      (TBWriter.handleAssemble tb' 0 default ⟨.zero, 0⟩).2.buf.code =
        [] ++ words.zipIdx.map (fun e => (0 + 4 * e.2, e.1)) ∧
      ∀ {σ : Type} (other : LoongArchInsInfo → Cpu σ → Cpu σ) (m : Cpu σ), Admits other →
        m.exec (wordMeaning other) (straightWords words) =
          m.exec (wordMeaning other) (straightWords loadsAndPushes) := by
  intro tb
  refine sameEffect_words tb (TB.blank_new _ _ _) (by decide) ?_ (by decide) ?_ steady_loadsAndPushes _ 0
    default _
  · intro _ h1
    cases h1
  · intro r hr
    cases hr

end AotOpt
