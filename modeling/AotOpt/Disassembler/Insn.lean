import AotOpt.Disassembler.Opcode
import Mathlib.Logic.Function.Basic

/-!
# Instructions

`LoongArchInsInfo` of `Disassmbler/disassmbler.hpp`: an opcode, the operand fields the
opcode's format uses, and the word the instruction was read from. The operand fields are
a function of the field's name, so that the decoder, the encoder and the passes set and
read them by one operation.

* `operand_set_self`, `operand_set_of_ne` — what a field holds after an assignment.
-/

namespace AotOpt

/-- The arrays of operands have three entries. -/
instance neZero_three : NeZero 3 := ⟨by decide⟩

/-- The operand fields of `LoongArchInsInfo`. -/
inductive Field where
  | dstReg | dstLsxReg | dstLasxReg | dstFcsr | dstSccrach | dstFreg | dstCfreg
  | srcsRegs (k : Fin 3) | lsxSrc (k : Fin 3) | srcsFcsrregs (k : Fin 3)
  | sccrachRegs (k : Fin 3) | srcsCfregs (k : Fin 3) | srcsFregs (k : Fin 3)
  | csr | sa | msb | lsb | code | code2 | level | level3 | seq | fcond | hint
  | op | ptr | cond | ui
  /-- `_ui`. -/
  | ui2
  | si | offs
  deriving DecidableEq

/-- How many bits the field's type has: `u_int8_t`, `u_int16_t` or `int32_t`. -/
def Field.width : Field → ℕ
  | .csr | .code | .level | .level3 | .hint | .ui | .ui2 => 16
  | .si | .offs => 32
  | _ => 8

/-- `LoongArchInsInfo`. -/
@[ext]
structure LoongArchInsInfo where
  opc : LoongArchOpc
  operand : (f : Field) → BitVec f.width
  /-- `origin_binary`. -/
  originBinary : BitVec 32

namespace LoongArchInsInfo

/-- What `memset(info, 0, sizeof(LoongArchInsInfo))` makes. -/
def zero : LoongArchInsInfo := ⟨.OPC_INVALID, fun _ => 0, 0⟩

instance : Inhabited LoongArchInsInfo := ⟨zero⟩

variable (info : LoongArchInsInfo)

/-- `info->f = v`. -/
def set (f : Field) (v : BitVec f.width) : LoongArchInsInfo :=
  { info with operand := Function.update info.operand f v }

/-- `info->f` as a `uint32_t`. -/
def read (f : Field) : BitVec 32 := (info.operand f).setWidth 32

/-- `info->dst_reg`. -/
def dstReg : BitVec 8 := info.operand .dstReg

/-- `info->srcs_regs[k]`. -/
def srcsRegs (k : Fin 3) : BitVec 8 := info.operand (.srcsRegs k)

/-- `info->ui`. -/
def ui : BitVec 16 := info.operand .ui

/-- `info->si`. -/
def si : BitVec 32 := info.operand .si

/-- `info->offs`. -/
def offs : BitVec 32 := info.operand .offs

@[simp] theorem opc_set (f : Field) (v : BitVec f.width) : (info.set f v).opc = info.opc := rfl

@[simp] theorem originBinary_set (f : Field) (v : BitVec f.width) :
    (info.set f v).originBinary = info.originBinary := rfl

@[simp] theorem operand_set_self (f : Field) (v : BitVec f.width) : (info.set f v).operand f = v :=
  Function.update_self _ _ _

theorem operand_set_of_ne {f g : Field} (h : g ≠ f) (v : BitVec f.width) :
    (info.set f v).operand g = info.operand g :=
  Function.update_of_ne h _ _

@[simp] theorem si_set_si (v : BitVec 32) : (info.set .si v).si = v := info.operand_set_self .si v

@[simp] theorem dstReg_set_si (v : BitVec 32) : (info.set .si v).dstReg = info.dstReg :=
  info.operand_set_of_ne (show Field.dstReg ≠ .si by decide) v

@[simp] theorem srcsRegs_set_si (v : BitVec 32) (k : Fin 3) :
    (info.set .si v).srcsRegs k = info.srcsRegs k :=
  info.operand_set_of_ne (show Field.srcsRegs k ≠ .si by simp) v

end LoongArchInsInfo

end AotOpt
