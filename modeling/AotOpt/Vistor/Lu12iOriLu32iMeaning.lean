import AotOpt.Vistor.Differences
import AotOpt.Vistor.Lu12iOriLu32i
import AotOpt.Vistor.Lu12iOriMeaning

/-!
# What `Lu12i_Ori_Lu32i_Vistor` keeps

A pattern of three instructions loads a constant of 52 bits with sign. The constants that the pass
knows are those that the registers hold: the inner loop forgets a register when an instruction
names it as destination, and the outer loop knows none.

* `lu12iOriLu32i_sound` — the code up to the first `b` or `bne` computes after a visit what it did
  before; the immediates of the new `addi.d` fit into 12 bits, and no difference overflows.
-/

namespace AotOpt.Lu12iOriLu32iVistor

open Lib DisassmbleVistor
open Lu12iOriVistor (Si20 WritesDst lu12iW ori ori_lu12iW addiD_addiInsn range_of_can isConst_kill
  isConst_set regs_kill regs_set_self regs_set_of_ne Counted counted_empty closeReg_eq)

variable {ι σ : Type}

/-! ### The machine -/

/-- `lu32i.d`. -/
def lu32iD (insn : LoongArchInsInfo) (m : Cpu σ) : Cpu σ :=
  m.set insn.dstReg ((insn.si.setWidth 20).signExtend 32 ++ (m.get insn.dstReg).setWidth 32)

/-- What an instruction does. -/
def meaning (other : LoongArchInsInfo → Cpu σ → Cpu σ) (insn : LoongArchInsInfo) (m : Cpu σ) : Cpu σ :=
  if insn.opc = .OPC_LU12I_W then lu12iW insn m
  else if insn.opc = .OPC_ORI then ori insn m
  else if insn.opc = .OPC_LU32I_D then lu32iD insn m
  else if insn.opc = .OPC_ADDI_D then addiD insn m
  else other insn m

/-- The immediates of 20 bits are of 20 bits. -/
def SiFits (nodes : List (ListNode LoongArchInsInfo)) : Prop :=
  ∀ n ∈ nodes, n.data.opc = .OPC_LU12I_W ∨ n.data.opc = .OPC_LU32I_D → Si20 n.data.si

/-- Whatever the other instructions do, the code of `tb'` up to the first `b` or `bne` leaves what
that of `tb` leaves. -/
def SameStraight (tb tb' : TB ι) : Prop :=
  ∀ {σ : Type} (other : LoongArchInsInfo → Cpu σ → Cpu σ) (m : Cpu σ), WritesDst other →
    m.exec (meaning other) (straight tb'.disInsns.nodes) =
      m.exec (meaning other) (straight tb.disInsns.nodes)

/-- Every node of `tb'` that was not in `tb` is an `addi.d` with an immediate of 12 bits. -/
def InsertsAddi (tb tb' : TB ι) : Prop :=
  ∀ n ∈ tb'.disInsns.nodes, n ∉ tb.disInsns.nodes →
    n.data.opc = .OPC_ADDI_D ∧ -2048 ≤ n.data.si.toInt ∧ n.data.si.toInt ≤ 2047

/-- The difference is the one of the two numbers. -/
def NoOverflow (d : BitVec 64 × BitVec 64) : Prop := (d.1 - d.2).toInt = d.1.toInt - d.2.toInt

/-! ### What a pattern loads -/

theorem setWidth_signExtend_of_si20 {si : BitVec 32} (h : Si20 si) :
    (si.setWidth 20).signExtend 32 = si := by
  obtain ⟨hlo, hhi⟩ := h
  apply BitVec.eq_of_toInt_eq
  rw [BitVec.toInt_signExtend_of_le (by decide), BitVec.toInt_setWidth]
  rw [BitVec.toInt_eq_toNat_bmod] at *
  simp only [Int.bmod] at *
  omega

theorem simulateLu32iD_eq (reg : BitVec 64) (si : BitVec 32) :
    simulateLu32iD reg si = si ++ reg.setWidth 32 := by
  ext i hi
  have hmask : (0xffffffff#64)[i] = decide (i < 32) := by
    rw [show 0xffffffff#64 = (BitVec.allOnes 32).setWidth 64 from rfl, BitVec.getElem_setWidth,
      BitVec.getLsbD_allOnes]
  change ((reg &&& 0xffffffff#64) ||| (si.signExtend 64 <<< 32))[i] = _
  rw [BitVec.getElem_or, BitVec.getElem_and, hmask, BitVec.getElem_append]
  by_cases h : i < 32
  · simp [h, BitVec.getLsbD_eq_getElem hi]
  · have hsub : i - 32 < 32 := by omega
    simp [h, hsub, BitVec.getElem_signExtend]

theorem patternImm_eq (x y z : ListNode LoongArchInsInfo) : patternImm x y z =
    z.data.si ++ (simulateOri (simulateLu12iW x.data.si) (y.data.ui.setWidth 64)).setWidth 32 :=
  simulateLu32iD_eq _ _

/-- A number of 52 bits with sign. -/
def Imm52 (imm : BitVec 64) : Prop := -2 ^ 51 ≤ imm.toInt ∧ imm.toInt < 2 ^ 51

theorem imm52_patternImm {x y z : ListNode LoongArchInsInfo} (h : Si20 z.data.si) :
    Imm52 (patternImm x y z) := by
  obtain ⟨hlo, hhi⟩ := h
  have htoInt : (patternImm x y z).toInt = 2 ^ 32 * z.data.si.toInt +
      ((simulateOri (simulateLu12iW x.data.si) (y.data.ui.setWidth 64)).setWidth 32).toNat := by
    rw [patternImm_eq, BitVec.toInt_append]
    rfl
  have hlt := ((simulateOri (simulateLu12iW x.data.si) (y.data.ui.setWidth 64)).setWidth 32).isLt
  rw [Imm52, htoInt]
  omega

theorem noOverflow_of_imm52 {d : BitVec 64 × BitVec 64} (h : Imm52 d.1) (h' : Imm52 d.2) :
    NoOverflow d := by
  obtain ⟨hlo, hhi⟩ := h
  obtain ⟨hlo', hhi'⟩ := h'
  rw [NoOverflow, BitVec.toInt_sub, Int.bmod_eq_of_le (by omega) (by omega)]

theorem toInt_setWidth_of_can {imm : BitVec 64} (h : canSubstitueWithAddiInsn imm = true) :
    -2048 ≤ (imm.setWidth 32).toInt ∧ (imm.setWidth 32).toInt ≤ 2047 := by
  obtain ⟨hlo, hhi⟩ := range_of_can h
  have himm : (imm.setWidth 32).toInt = imm.toInt := by
    rw [BitVec.toInt_setWidth, BitVec.toInt_eq_toNat_bmod] at *
    simp only [Int.bmod] at *
    omega
  rw [himm]
  exact ⟨hlo, hhi⟩

section Meaning

variable {other : LoongArchInsInfo → Cpu σ → Cpu σ} {m : Cpu σ} {x y z n : ListNode LoongArchInsInfo}
  {s : ConstRegSet}

theorem get_meaning_of_ne (hother : WritesDst other) {r : BitVec 8} (h : r ≠ n.data.dstReg) :
    (meaning other n.data m).get r = m.get r := by
  rw [meaning]
  split_ifs
  · exact Machine.get_set_of_ne h _
  · exact Machine.get_set_of_ne h _
  · exact Machine.get_set_of_ne h _
  · exact Machine.get_set_of_ne h _
  · exact hother _ _ _ h

/-- **A pattern** loads its immediate. -/
theorem meaning_pattern (hpat : isLu12iOriLu32iPattern [x, y, z] = true) (hx : Si20 x.data.si)
    (hz : Si20 z.data.si) :
    meaning other z.data (meaning other y.data (meaning other x.data m)) =
      m.set x.data.dstReg (patternImm x y z) := by
  obtain ⟨_, _, _, _, heq, hlu, hori, hlu32, hdst, hsrc, hdst'⟩ := isPattern_cases hpat
  simp only [List.cons.injEq] at heq
  obtain ⟨rfl, rfl, rfl, -⟩ := heq
  have hmx : meaning other x.data m = lu12iW x.data m := if_pos hlu
  have hmy : ∀ m : Cpu σ, meaning other y.data m = ori y.data m := fun m => by
    rw [meaning, if_neg (by rw [hori]; decide), if_pos hori]
  have hmz : ∀ m : Cpu σ, meaning other z.data m = lu32iD z.data m := fun m => by
    rw [meaning, if_neg (by rw [hlu32]; decide), if_neg (by rw [hlu32]; decide), if_pos hlu32]
  rw [hmx, hmy, hmz, ori_lu12iW hdst hsrc hx, lu32iD, hdst']
  by_cases hzero : x.data.dstReg = 0
  · rw [hzero, Machine.set_zero, Machine.set_zero, Machine.set_zero]
  · rw [Machine.get_set_self hzero, Machine.set_set, setWidth_signExtend_of_si20 hz, patternImm_eq]

/-! ### The constants hold -/

/-- The registers hold what is known of them. -/
def Sound (s : ConstRegSet) (m : Cpu σ) : Prop := ∀ r, s.isConst r = true → m.get r = s.regs r

theorem Sound.kill (h : Sound s m) (hother : WritesDst other) :
    Sound (s.kill n.data.dstReg) (meaning other n.data m) := by
  intro r hconst
  obtain ⟨hconst, hne⟩ := (isConst_kill ..).mp hconst
  rw [get_meaning_of_ne hother (Ne.symm hne), h r hconst, regs_kill]

theorem Sound.set (h : Sound s m) (r : BitVec 8) (imm : BitVec 64) : Sound (s.set r imm) (m.set r imm) := by
  by_cases hzero : r = 0
  · rw [ConstRegSet.set, if_pos hzero, hzero, Machine.set_zero]
    exact h
  · intro q hconst
    by_cases hq : q = r
    · rw [hq, Machine.get_set_self hzero, regs_set_self _ hzero]
    · rw [Machine.get_set_of_ne hq, regs_set_of_ne _ hq]
      exact h q (((isConst_set ..).mp hconst).resolve_right fun heq => hq heq.1.symm)

/-- The register that is found is known and close. -/
theorem closeReg_some {imm : BitVec 64} {r : BitVec 8 × BitVec 64}
    (h : LoadImm.closeReg s imm LoadImm.regs = .ok (some r)) :
    s.isConst r.1 = true ∧ r.2 = s.regs r.1 ∧ canSubstitueWithAddiInsn (imm - r.2) = true := by
  rw [closeReg_eq, Except.ok.injEq, Option.map_eq_some_iff] at h
  obtain ⟨i, hi, rfl⟩ := h
  have hfound := List.find?_some hi
  rw [Bool.and_eq_true] at hfound
  exact ⟨hfound.1, rfl, hfound.2⟩

theorem before_patternItems {inner : Bool} :
    (patternItems inner s x y z).flatMap Item.before = [x, y, z] := by
  unfold patternItems
  split <;> rfl

/-- What becomes of a pattern loads its immediate. -/
theorem exec_patternItems {inner : Bool} (hsound : Sound s m)
    (hpat : isLu12iOriLu32iPattern [x, y, z] = true) (hx : Si20 x.data.si) (hz : Si20 z.data.si) :
    m.exec (meaning other) (((patternItems inner s x y z).flatMap Item.after).map (·.data)) =
      m.set x.data.dstReg (patternImm x y z) := by
  have hthree : meaning other z.data (meaning other y.data (meaning other x.data m)) =
      m.set x.data.dstReg (patternImm x y z) := meaning_pattern hpat hx hz
  cases inner with
  | false => exact hthree
  | true =>
    obtain ⟨close, hclose⟩ := LoadImm.closeReg_ok s (patternImm x y z) LoadImm.regs
    cases close with
    | none =>
      rw [patternItems_none hclose]
      exact hthree
    | some r =>
      obtain ⟨hconst, himm, hcan⟩ := closeReg_some hclose
      have hget := (hsound _ hconst).trans himm.symm
      rw [patternItems_some hclose]
      exact addiD_addiInsn hget hcan

/-- **The plan** computes what the block computes. -/
theorem exec_items (hother : WritesDst other) : ∀ (nodes : List (ListNode LoongArchInsInfo))
    {inner : Bool} {s : ConstRegSet} {m : Cpu σ}, Counted s → Sound s m →
    (inner = false → ∀ r, s.isConst r = false) → SiFits nodes →
      m.exec (meaning other) (((items inner s nodes).flatMap Item.after).map (·.data)) =
        m.exec (meaning other) (((items inner s nodes).flatMap Item.before).map (·.data))
  | [], _, _, _, _, _, _, _ => rfl
  | x :: nodes, inner, s, m, hcount, hsound, houter, hsi => by
    have hsi' : SiFits nodes := fun n hn => hsi n (List.mem_cons_of_mem _ hn)
    by_cases hstop : isBOrBne x.data.opc = true
    · rw [items_stop hstop]
      rfl
    by_cases hpat : isLu12iOriLu32iPattern (x :: nodes) = true
    · obtain ⟨_, y, z, rest, heq, hx, -, hz, -⟩ := isPattern_cases hpat
      obtain ⟨rfl, rfl⟩ := List.cons.inj heq
      have hsix := hsi x List.mem_cons_self (.inl hx)
      have hsiz := hsi z (by simp) (.inr hz)
      rw [items_pattern hpat, List.flatMap_append, List.flatMap_append, List.map_append, List.map_append,
        Machine.exec_append, Machine.exec_append, exec_patternItems hsound hpat hsix hsiz,
        before_patternItems]
      have hthree : meaning other z.data (meaning other y.data (meaning other x.data m)) =
          m.set x.data.dstReg (patternImm x y z) := meaning_pattern hpat hsix hsiz
      show _ = Machine.exec _ _ (meaning other z.data (meaning other y.data (meaning other x.data m)))
      rw [hthree]
      exact exec_items hother rest (hcount.set _ _) (hsound.set _ _) (fun h => by cases h)
        fun n hn => hsi' n (by simp [hn])
    · cases inner with
      | true =>
        rw [items_inner hstop hpat]
        refine exec_items hother nodes (hcount.kill _) (hsound.kill hother) (fun hsize => ?_) hsi'
        exact (hcount.kill _).size_eq_zero_iff.mp (not_not.mp (of_decide_eq_false hsize))
      | false =>
        have hnone := houter rfl
        rw [items_outer hstop hpat]
        refine exec_items hother nodes hcount (fun r hconst => ?_) houter hsi'
        rw [hnone r] at hconst
        cases hconst
termination_by nodes => nodes.length

end Meaning

/-! ### A visit -/

/-- No instruction of the item is a `b` or `bne`. -/
def Item.Plain (it : Item) : Prop :=
  (∀ n ∈ it.before, isBOrBne n.data.opc = false) ∧ ∀ n ∈ it.after, isBOrBne n.data.opc = false

theorem Item.plain_keep {n : ListNode LoongArchInsInfo} (h : ¬isBOrBne n.data.opc = true) :
    (Item.keep n).Plain := by
  simpa [Item.Plain, Item.before, Item.after] using h

/-- An `addi.d` has replaced a pattern, and its immediate is small. -/
def Item.Close : Item → Prop
  | .keep _ => True
  | .subst x y z _ imm => canSubstitueWithAddiInsn (patternImm x y z - imm) = true

theorem spec_patternItems {inner : Bool} {s : ConstRegSet} {x y z : ListNode LoongArchInsInfo}
    (hpat : isLu12iOriLu32iPattern [x, y, z] = true) :
    ∀ it ∈ patternItems inner s x y z, it.Plain ∧ it.Close := by
  obtain ⟨_, _, _, _, heq, hx, hy, hz, -⟩ := isPattern_cases hpat
  simp only [List.cons.injEq] at heq
  obtain ⟨rfl, rfl, rfl, -⟩ := heq
  have hx : ¬isBOrBne x.data.opc = true := by rw [hx]; decide
  have hy : ¬isBOrBne y.data.opc = true := by rw [hy]; decide
  have hz : ¬isBOrBne z.data.opc = true := by rw [hz]; decide
  intro it hit
  unfold patternItems at hit
  split at hit
  · next hclose =>
    obtain rfl := List.mem_singleton.mp hit
    refine ⟨⟨?_, fun n hn => ?_⟩, (closeReg_some hclose).2.2⟩
    · simpa [Item.before] using And.intro hx (And.intro hy hz)
    · obtain rfl := List.mem_singleton.mp hn
      rfl
  · simp only [List.mem_cons, List.not_mem_nil, or_false] at hit
    rcases hit with rfl | rfl | rfl
    · exact ⟨Item.plain_keep hx, trivial⟩
    · exact ⟨Item.plain_keep hy, trivial⟩
    · exact ⟨Item.plain_keep hz, trivial⟩

theorem spec_items : ∀ (nodes : List (ListNode LoongArchInsInfo)) {inner : Bool} {s : ConstRegSet},
    ∀ it ∈ items inner s nodes, it.Plain ∧ it.Close
  | [], _, _ => by simp
  | x :: nodes, inner, s => by
    by_cases hstop : isBOrBne x.data.opc = true
    · rw [items_stop hstop]
      exact List.forall_mem_nil _
    by_cases hpat : isLu12iOriLu32iPattern (x :: nodes) = true
    · obtain ⟨_, y, z, rest, heq, -⟩ := isPattern_cases hpat
      obtain ⟨rfl, rfl⟩ := List.cons.inj heq
      rw [items_pattern hpat]
      exact List.forall_mem_append.mpr ⟨spec_patternItems hpat, spec_items rest⟩
    · have hx : (Item.keep x).Plain ∧ (Item.keep x).Close := ⟨Item.plain_keep hstop, trivial⟩
      cases inner with
      | true =>
        rw [items_inner hstop hpat]
        exact List.forall_mem_cons.mpr ⟨hx, spec_items nodes⟩
      | false =>
        rw [items_outer hstop hpat]
        exact List.forall_mem_cons.mpr ⟨hx, spec_items nodes⟩
termination_by nodes => nodes.length

/-- What is new is an `addi.d`. -/
theorem mem_after {it : Item} (h : it.Close) {n : ListNode LoongArchInsInfo} (hn : n ∈ it.after) :
    n ∈ it.before ∨ n.data.opc = .OPC_ADDI_D ∧ -2048 ≤ n.data.si.toInt ∧ n.data.si.toInt ≤ 2047 := by
  cases it with
  | keep m => exact .inl hn
  | subst x y z reg imm =>
    obtain rfl := List.mem_singleton.mp hn
    exact .inr ⟨rfl, toInt_setWidth_of_can h⟩

/-- The patterns of a block load numbers of 52 bits. -/
theorem loads_imm52 {nodes : List (ListNode LoongArchInsInfo)} (h : SiFits nodes) :
    lu12iOriLu32i.Loads Imm52 nodes := by
  intro ns hns hpat imm hres
  obtain ⟨x, y, z, rest, rfl, -, -, hz, -⟩ := isPattern_cases hpat
  obtain rfl : patternImm x y z = imm := Except.ok.inj hres
  exact imm52_patternImm (h z (hns.subset (by simp)) (.inr hz))

/-- **`Lu12i_Ori_Lu32i_Vistor::visit`** keeps what the code up to the first `b` or `bne` computes,
inserts no `addi.d` whose immediate does not fit, and takes no difference that overflows. -/
theorem lu12iOriLu32i_sound (tb : TB ι) (hsi : SiFits tb.disInsns.nodes) :
    ∃ tb' diffs, visit tb = .ok tb' ∧ lu12iOriLu32i.visitDiffs tb = .ok (diffs, tb') ∧
      SameStraight tb tb' ∧ InsertsAddi tb tb' ∧ ∀ d ∈ diffs, NoOverflow d := by
  obtain ⟨tb', rest, hok, hrest, hbefore, hafter, -⟩ := visit_eq tb
  obtain ⟨diffs, hdiffs, hsmall⟩ := LoadImm.visitDiffs_spec (loads_imm52 hsi) hok
  have hspec : ∀ it ∈ plan tb.disInsns.nodes, it.Plain ∧ it.Close := spec_items tb.disInsns.nodes
  refine ⟨tb', diffs, hok, hdiffs, ?_, ?_, fun d hd => ?_⟩
  · intro σ other m hother
    have hnothing : Sound .empty m := fun r hconst => by cases hconst
    have hplain : ∀ n ∈ (plan tb.disInsns.nodes).flatMap Item.before, isBOrBne n.data.opc = false := by
      intro n hn
      obtain ⟨it, hit, hn⟩ := List.mem_flatMap.mp hn
      exact (hspec it hit).1.1 n hn
    have hplain' : ∀ n ∈ (plan tb.disInsns.nodes).flatMap Item.after, isBOrBne n.data.opc = false := by
      intro n hn
      obtain ⟨it, hit, hn⟩ := List.mem_flatMap.mp hn
      exact (hspec it hit).1.2 n hn
    conv_rhs => rw [hbefore]
    rw [hafter, straight_append hplain hrest, straight_append hplain' hrest]
    exact exec_items hother tb.disInsns.nodes counted_empty hnothing (fun _ _ => rfl) hsi
  · intro n hn hnew
    rw [hafter] at hn
    rw [hbefore] at hnew
    rcases List.mem_append.mp hn with hn | hn
    · obtain ⟨it, hit, hn⟩ := List.mem_flatMap.mp hn
      refine (mem_after (hspec it hit).2 hn).resolve_left fun hold => hnew ?_
      exact List.mem_append_left _ (List.mem_flatMap.mpr ⟨it, hit, hold⟩)
    · exact absurd (List.mem_append_right _ hn) hnew
  · exact noOverflow_of_imm52 (hsmall d hd).1 (hsmall d hd).2

/-! ### Disassembled blocks -/

/-- The leaves of the decoder for `lu12i.w` and `lu32i.d` read an immediate of 20 bits. -/
def leafSi20 (acts : List (List Operand)) (opc : LoongArchOpc) (_ : Known 32) : Bool :=
  !(opc = .OPC_LU12I_W || opc = .OPC_LU32I_D) || acts = [decodeExtractFormat34]

theorem decodeTree_leafSi20 : decodeTree.all leafSi20 [] .none = true := by decide +kernel

theorem si20_sextract32 (insn : BitVec 32) : Si20 (sextract32 insn (.of 5 20)) := by
  have htoInt : (sextract32 insn (.of 5 20)).toInt = (insn <<< 7).toInt / 4096 := by
    rw [sextract32, BitVec.toInt_sshiftRight, Int.shiftRight_eq_div_pow]
    rfl
  have hle := BitVec.le_toInt (insn <<< 7)
  have hlt := BitVec.toInt_lt (x := insn <<< 7)
  rw [Si20, htoInt]
  omega

/-- The immediates that are disassembled fit. -/
theorem si20_disassemble {insn : BitVec 32}
    (h : (disassemble insn).opc = .OPC_LU12I_W ∨ (disassemble insn).opc = .OPC_LU32I_D) :
    Si20 (disassemble insn).si := by
  rcases hrun : decodeTree.run insn with ⟨acts, result⟩
  cases result with
  | none =>
    have hopc : (disassemble insn).opc = .OPC_INVALID := by
      rw [opc_disassemble, decode, hrun]
      exact opc_foldl_decodeExtract acts .zero
    rw [hopc] at h
    rcases h with h | h <;> cases h
  | some opc =>
    have hopc : (disassemble insn).opc = opc := by rw [opc_disassemble, decode, hrun]
    obtain ⟨_, hleaf, -⟩ := CaseTree.of_all decodeTree_leafSi20 hrun
    rw [hopc] at h
    have hacts : acts = [decodeExtractFormat34] := by
      simp only [leafSi20, Bool.or_eq_true, Bool.not_eq_true', decide_eq_true_eq, Bool.or_eq_false_iff,
        decide_eq_false_iff_not] at hleaf
      exact hleaf.resolve_left fun hno => h.elim hno.1 hno.2
    have hsi : (disassemble insn).si = sextract32 insn (.of 5 20) := by
      show (decode .zero insn).2.si = _
      rw [decode, hrun, hacts]
      exact BitVec.setWidth_eq _
    rw [hsi]
    exact si20_sextract32 insn

theorem siFits_startTB (aotTb : AOTTB) (code : Code) (x86Addr : BitVec 64) :
    SiFits (startTB (TB.new aotTb code x86Addr : TB ι)).disInsns.nodes := by
  rw [nodes_startTB]
  intro n hn h
  obtain ⟨e, -, rfl⟩ := List.mem_map.mp hn
  exact si20_disassemble h

/-- `lu12i.w $a0, 1; ori $a0, $a0, 0; lu32i.d $a0, 2; lu12i.w $a1, 1; ori $a1, $a1, 4;
lu32i.d $a1, 2` and a `b`. -/
def twoPatternsWords : List (BitVec 32) :=
  [0x14000024, 0x03800084, 0x16000044, 0x14000025, 0x038010a5, 0x16000045, 0x50000000]

/-- A disassembled block of these. -/
def twoPatterns : TB ℕ :=
  startTB (.new { (default : AOTTB) with jmpResetOffsets := fun _ => TB_JMP_RESET_OFFSET_INVALID }
    ⟨28, twoPatternsWords, rfl⟩ 0)

theorem lu12iOriLu32i_sound_twoPatterns :
    ∃ tb' diffs, visit twoPatterns = .ok tb' ∧ lu12iOriLu32i.visitDiffs twoPatterns = .ok (diffs, tb') ∧
      SameStraight twoPatterns tb' ∧ InsertsAddi twoPatterns tb' ∧ ∀ d ∈ diffs, NoOverflow d :=
  lu12iOriLu32i_sound twoPatterns (siFits_startTB _ _ _)

end AotOpt.Lu12iOriLu32iVistor
