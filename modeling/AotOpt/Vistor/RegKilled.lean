import AotOpt.Disassembler.Decode
import AotOpt.Disassembler.GenRequire

/-!
# Which register an instruction kills

`is_reg_killed` of `Vistor/util.cpp`. It names stores, which write no general register, and asks
`gen_require_func_table` about every other instruction. The table has an entry for each format,
and the function uses the number of the opcode as the index, where `print_one_insn` uses
`insn2format[insn.opc]`. Most opcodes have numbers behind the end of the table; the others find
the entry of a format that has nothing to do with them.

* `isRegKilled_exact_iff` — the instructions about which the answer is right.
-/

namespace AotOpt

/-- The stores that `is_reg_killed` names. -/
def namedStores : List LoongArchOpc :=
  [.OPC_ST_D, .OPC_ST_W, .OPC_ST_H, .OPC_ST_B, .OPC_STX_B, .OPC_STX_H, .OPC_STX_W, .OPC_STX_D,
    .OPC_STPTR_W, .OPC_STR_D, .OPC_STGT_B, .OPC_STGT_D, .OPC_STGT_W, .OPC_STGT_H, .OPC_STLE_B,
    .OPC_STLE_D, .OPC_STLE_H, .OPC_STLE_W]

/-- `is_reg_killed`. -/
def isRegKilled (insn : LoongArchInsInfo) (reg : BitVec 8) : Res Bool :=
  if reg = 0 ∨ insn.opc ∈ namedStores then .ok false
  else do
    let genRequire ← genRequireLookup insn.opc.ctorIdx
    let res := genRequire.run insn .zero
    if res.kill = reg then return true
    return false

/-! ### What it should find -/

/-- The stores: `dst_reg` is the register that is stored. -/
def isStore (opc : LoongArchOpc) : Bool :=
  opc ∈ namedStores ||
    opc ∈ [.OPC_STPTR_D, .OPC_STR_W, .OPC_STL_W, .OPC_STL_D]

/-- The instruction writes the general register `dst_reg`. -/
def LoongArchInsInfo.HasGeneralDst (insn : LoongArchInsInfo) : Prop :=
  (genRequireFuncTable (insn2format insn.opc)).kills = true ∧ isStore insn.opc = false

instance (insn : LoongArchInsInfo) : Decidable insn.HasGeneralDst := by
  unfold LoongArchInsInfo.HasGeneralDst
  infer_instance

/-- The opcodes that write a general register and have the number of a format that does not. -/
def misread : List LoongArchOpc :=
  [.OPC_CLZ_W, .OPC_CTO_W, .OPC_CTZ_W, .OPC_CLO_D, .OPC_CTO_D, .OPC_REVB_2H, .OPC_REVB_4H,
    .OPC_REVB_2W, .OPC_BITREV_D, .OPC_EXT_W_B, .OPC_RDTIMEL_W, .OPC_RDTIMEH_W, .OPC_RDTIME_D,
    .OPC_ALSL_W, .OPC_ADD_W, .OPC_ADD_D, .OPC_SUB_W, .OPC_SUB_D, .OPC_SLTU, .OPC_MASKEQZ,
    .OPC_MASKNEZ, .OPC_NOR, .OPC_OR, .OPC_XOR, .OPC_ANDN, .OPC_SRL_W, .OPC_SRA_W, .OPC_ROTR_W,
    .OPC_ROTR_D, .OPC_MULH_WU, .OPC_MUL_D, .OPC_MULH_DU, .OPC_MULW_D_W, .OPC_MOD_W, .OPC_CRC_W_H_W,
    .OPC_CRC_W_W_W, .OPC_CRC_W_D_W, .OPC_CRCC_W_B_W, .OPC_CRCC_W_H_W, .OPC_CRCC_W_W_W,
    .OPC_CRCC_W_D_W, .OPC_ALSL_D, .OPC_SLLI_W, .OPC_SLLI_D, .OPC_SRLI_W, .OPC_SRLI_D, .OPC_SRAI_W,
    .OPC_SRAI_D, .OPC_ROTRI_W, .OPC_ROTRI_D, .OPC_BSTRINS_W, .OPC_BSTRPICK_W, .OPC_BSTRINS_D,
    .OPC_BSTRPICK_D]

/-- Where the answer about the register is right. -/
def LoongArchInsInfo.ReadsOwnEntry (insn : LoongArchInsInfo) (reg : BitVec 8) : Prop :=
  insn.opc ∈ namedStores ∨
    insn.opc.ctorIdx < genRequireFuncTableSize ∧ (insn.dstReg = reg → insn.opc ∉ misread)

/-! ### The entry that is found -/

/-- A register other than 0 is killed if it is the one that is written. -/
theorem kill_run_eq {reg : BitVec 8} (hreg : reg ≠ 0) (g : GenRequire) (insn : LoongArchInsInfo) :
    (g.run insn .zero).kill = reg ↔ g.kills = true ∧ insn.dstReg = reg := by
  rw [GenRequire.run, RegInfo.zero]
  cases g.kills with
  | false => simpa using hreg.symm
  | true => simp

/-- What a small number finds, against what the format says. -/
theorem kills_ofNat : ∀ i < genRequireFuncTableSize,
    (genRequireFuncTable (.ofNat i)).kills =
        ((genRequireFuncTable (insn2format (.ofNat i))).kills && !(misread.contains (.ofNat i))) ∧
      isStore (.ofNat i) = false := by
  decide +kernel

theorem kills_of_mem_misread : ∀ opc ∈ misread,
    (genRequireFuncTable (insn2format opc)).kills = true := by
  decide +kernel

theorem isStore_of_mem {opc : LoongArchOpc} (h : opc ∈ namedStores) : isStore opc = true := by
  simp [isStore, h]

/-- The entry of an opcode with a small number. -/
theorem kills_ctorIdx {opc : LoongArchOpc} (h : opc.ctorIdx < genRequireFuncTableSize) :
    ((genRequireFuncTable (.ofNat opc.ctorIdx)).kills = true ↔
        (genRequireFuncTable (insn2format opc)).kills = true ∧ opc ∉ misread) ∧
      isStore opc = false := by
  have hentry := kills_ofNat opc.ctorIdx h
  rw [LoongArchOpc.ofNat_ctorIdx] at hentry
  refine ⟨?_, hentry.2⟩
  rw [hentry.1]
  simp

/-! ### The answer -/

theorem isRegKilled_store {insn : LoongArchInsInfo} (reg : BitVec 8) (h : insn.opc ∈ namedStores) :
    isRegKilled insn reg = .ok false := if_pos (.inr h)

/-- What is found when the entry is inside the table. -/
theorem isRegKilled_inside {insn : LoongArchInsInfo} {reg : BitVec 8} (hreg : reg ≠ 0)
    (hstore : insn.opc ∉ namedStores) (hlt : insn.opc.ctorIdx < genRequireFuncTableSize) :
    isRegKilled insn reg =
      .ok (decide ((genRequireFuncTable (.ofNat insn.opc.ctorIdx)).kills = true ∧
        insn.dstReg = reg)) := by
  rw [isRegKilled, if_neg (not_or.mpr ⟨hreg, hstore⟩), genRequireLookup, if_pos hlt, ok_bind]
  have hkill := kill_run_eq hreg (genRequireFuncTable (.ofNat insn.opc.ctorIdx)) insn
  by_cases h : (genRequireFuncTable (.ofNat insn.opc.ctorIdx)).kills = true ∧ insn.dstReg = reg
  · rw [if_pos (hkill.mpr h), decide_eq_true h]
    rfl
  · rw [if_neg (hkill.not.mpr h), decide_eq_false h]
    rfl

/-- What is found when it is not. -/
theorem isRegKilled_outside {insn : LoongArchInsInfo} {reg : BitVec 8} (hreg : reg ≠ 0)
    (hstore : insn.opc ∉ namedStores) (hlt : ¬insn.opc.ctorIdx < genRequireFuncTableSize) :
    isRegKilled insn reg = .error .outOfBounds := by
  rw [isRegKilled, if_neg (not_or.mpr ⟨hreg, hstore⟩), genRequireLookup, if_neg hlt, error_bind]

/-- **`is_reg_killed`** looks up an entry of the table and finds the general register that the
instruction writes: for the stores that it names, and for the opcodes with small numbers whose
entry writes a general register whenever they do. -/
theorem isRegKilled_exact_iff (insn : LoongArchInsInfo) (reg : BitVec 8) (hreg : reg ≠ 0) :
    isRegKilled insn reg = .ok (decide (insn.HasGeneralDst ∧ insn.dstReg = reg)) ↔
      insn.ReadsOwnEntry reg := by
  by_cases hstore : insn.opc ∈ namedStores
  · have hnone : ¬(insn.HasGeneralDst ∧ insn.dstReg = reg) := by
      intro h
      exact Bool.false_ne_true (h.1.2.symm.trans (isStore_of_mem hstore))
    rw [isRegKilled_store reg hstore, decide_eq_false hnone]
    exact iff_of_true rfl (.inl hstore)
  by_cases hlt : insn.opc.ctorIdx < genRequireFuncTableSize
  · obtain ⟨hkills, hnot⟩ := kills_ctorIdx hlt
    have hmis := kills_of_mem_misread insn.opc
    rw [isRegKilled_inside hreg hstore hlt, Except.ok.injEq, decide_eq_decide, hkills]
    unfold LoongArchInsInfo.HasGeneralDst LoongArchInsInfo.ReadsOwnEntry
    tauto
  · rw [isRegKilled_outside hreg hstore hlt]
    refine iff_of_false (fun h => by cases h) fun h => ?_
    rcases h with h | h
    · exact hstore h
    · exact hlt h.1

/-- `clo.w $a0, $a1`. -/
def cloW : LoongArchInsInfo := (decode .zero 0x000010a4#32).2

theorem isRegKilled_exact_cloW :
    (4#8 ≠ 0 ∧ cloW.ReadsOwnEntry 4#8) ∧ isRegKilled cloW 4#8 = .ok true := by
  have hreg : 4#8 ≠ 0 := by decide
  have hentry : cloW.ReadsOwnEntry 4#8 := by
    unfold LoongArchInsInfo.ReadsOwnEntry
    decide +kernel
  have hdst : cloW.HasGeneralDst ∧ cloW.dstReg = 4#8 := by decide +kernel
  refine ⟨⟨hreg, hentry⟩, ?_⟩
  rw [(isRegKilled_exact_iff cloW 4#8 hreg).mpr hentry, decide_eq_true hdst]

/-- `or $a0, $a1, $a2`. -/
def orA0 : LoongArchInsInfo := (decode .zero 0x001518a4#32).2

/-- `addi.d $a0, $a1, 1`. -/
def addiDA0 : LoongArchInsInfo := (decode .zero 0x02c004a4#32).2

/-- `or` finds the entry of a format of branches, and `addi.d` none. -/
theorem isRegKilled_or_addiD :
    ((decode .zero 0x001518a4#32).1 = true ∧ (orA0.HasGeneralDst ∧ orA0.dstReg = 4#8) ∧
        isRegKilled orA0 4#8 = .ok false) ∧
      (decode .zero 0x02c004a4#32).1 = true ∧ (addiDA0.HasGeneralDst ∧ addiDA0.dstReg = 4#8) ∧
        isRegKilled addiDA0 4#8 = .error .outOfBounds := by
  decide +kernel

end AotOpt
