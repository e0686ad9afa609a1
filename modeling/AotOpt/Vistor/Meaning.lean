import AotOpt.Lib.Machine
import AotOpt.Vistor.Scan

/-!
# What instructions do

The machine on which the code of a block is run: the general registers, the memory, and
whatever else an instruction depends on. The instructions that the passes rewrite are given by
what the instruction set says of them. The passes stop at the first `b` or `bne`, so the code that
is run is the part in front of it.
-/

namespace AotOpt

open Lib LoongArchInsInfo

/-- The general registers, the memory, and whatever else an instruction depends on. -/
abbrev Cpu (σ : Type) := Machine (BitVec 8) σ

/-- An immediate of 12 bits, as the instruction's word has it. -/
def simm12 (si : BitVec 32) : BitVec 64 := (si.setWidth 12).signExtend 64

theorem simm12_ofInt {z : ℤ} (h : -2048 ≤ z ∧ z < 2048) :
    simm12 (BitVec.ofInt 32 z) = BitVec.ofInt 64 z := by
  apply BitVec.eq_of_toInt_eq
  rw [simm12, BitVec.toInt_signExtend_of_le (by decide), BitVec.toInt_setWidth, BitVec.toInt_ofInt,
    BitVec.toNat_ofInt]
  simp only [Int.bmod]
  omega

variable {σ : Type}

/-- `st.d` of a register. -/
def storeD (rd : BitVec 8) (a : BitVec 64) (m : Cpu σ) : Cpu σ := m.store a (m.get rd)

/-- `ld.d` of a register. -/
def loadD (rd : BitVec 8) (a : BitVec 64) (m : Cpu σ) : Cpu σ := m.set rd (m.load a)

/-- `addi.d`. -/
def addiD (insn : LoongArchInsInfo) (m : Cpu σ) : Cpu σ :=
  m.set insn.dstReg (m.get (insn.srcsRegs 0) + simm12 insn.si)

/-- The instructions up to the first `b` or `bne`. -/
def straight (nodes : List (ListNode LoongArchInsInfo)) : List LoongArchInsInfo :=
  (nodes.map (·.data)).takeWhile fun insn => !isBOrBne insn.opc

theorem straight_append {ns rest : List (ListNode LoongArchInsInfo)}
    (hplain : ∀ n ∈ ns, isBOrBne n.data.opc = false)
    (hrest : ∀ n ∈ rest.head?, isBOrBne n.data.opc = true) :
    straight (ns ++ rest) = ns.map (·.data) := by
  have hend : (rest.map (·.data)).takeWhile (fun insn => !isBOrBne insn.opc) = [] := by
    cases rest with
    | nil => rfl
    | cons n rest => simp [hrest n rfl]
  rw [straight, List.map_append, List.takeWhile_append_of_pos (by simpa using hplain), hend,
    List.append_nil]

end AotOpt
