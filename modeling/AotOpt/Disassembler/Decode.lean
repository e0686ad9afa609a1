import AotOpt.Disassembler.Insn
import AotOpt.Lib.CaseTree

/-!
# Decoding

`decode` of `Disassembler/disassembler.cpp`. A `decode_extract_*` function is the list of
its assignments to the operand fields (the operand count and the `opnds` array, which
nothing reads but the printer, are left out), and the nested `switch` statements are a
decision tree whose actions are these functions.
-/

namespace AotOpt

open Lib

/-! ### Reading a field of an instruction word -/

/-- A field of a word: `length` bits from bit `start` on, as the assertions of `extract32`,
`sextract32`, `deposit32` and `encode32` ask. -/
structure Bits where
  start : ℕ
  length : ℕ
  pos : 0 < length
  lt : length < 32
  le : start + length ≤ 32
  deriving DecidableEq

/-- The field with this start and length. -/
def Bits.of (start length : ℕ)
    (h : decide (0 < length ∧ length < 32 ∧ start + length ≤ 32) = true := by exact Eq.refl true) :
    Bits :=
  ⟨start, length, (of_decide_eq_true h).1, (of_decide_eq_true h).2.1, (of_decide_eq_true h).2.2⟩

/-- `extract32`. -/
def extract32 (value : BitVec 32) (b : Bits) : BitVec 32 :=
  (value >>> b.start) &&& (~~~0#32 >>> (32 - b.length))

/-- `sextract32`. -/
def sextract32 (value : BitVec 32) (b : Bits) : BitVec 32 :=
  (value <<< (32 - b.length - b.start)).sshiftRight (32 - b.length)

/-- `deposit32`. -/
def deposit32 (value : BitVec 32) (b : Bits) (fieldval : BitVec 32) : BitVec 32 :=
  let mask := (~~~0#32 >>> (32 - b.length)) <<< b.start
  (value &&& ~~~mask) ||| ((fieldval <<< b.start) &&& mask)

/-- An assignment of a `decode_extract_*` function. -/
inductive Operand where
  /-- `info->f = extract32(insn, start, length)`. -/
  | ext (f : Field) (b : Bits)
  /-- `info->f = sextract32(insn, start, length)`. -/
  | sext (f : Field) (b : Bits)
  /-- `info->f = deposit32(extract32(insn, lo), 16, 16, sextract32(insn, hi))`. -/
  | deposit (f : Field) (lo hi : Bits)
  deriving DecidableEq

/-- The field the assignment is to. -/
def Operand.target : Operand → Field
  | .ext f _ | .sext f _ | .deposit f _ _ => f

/-- The value that is assigned, before it is converted to the field's type. -/
def Operand.value (insn : BitVec 32) : Operand → BitVec 32
  | .ext _ b => extract32 insn b
  | .sext _ b => sextract32 insn b
  | .deposit _ lo hi => deposit32 (extract32 insn lo) (.of 16 16) (sextract32 insn hi)

/-- The assignments in order. -/
def decodeExtract (ops : List Operand) (info : LoongArchInsInfo) (insn : BitVec 32) :
    LoongArchInsInfo :=
  ops.foldl (fun info o => info.set o.target ((o.value insn).setWidth o.target.width)) info

/-! ### The formats -/

def decodeExtractCv : List Operand := [.ext (.lsxSrc 0) (.of 5 5), .ext .dstCfreg (.of 0 3)]

def decodeExtractFormat0 : List Operand := [.ext .dstReg (.of 0 5), .ext (.srcsRegs 0) (.of 5 5)]

def decodeExtractFormat1 : List Operand :=
  [.ext (.srcsRegs 0) (.of 5 5), .ext (.srcsRegs 1) (.of 10 5)]

def decodeExtractFormat10 : List Operand :=
  [.ext .dstFreg (.of 0 5), .ext (.srcsFregs 0) (.of 5 5), .ext (.srcsFregs 1) (.of 10 5)]

def decodeExtractFormat11 : List Operand :=
  [.ext .dstFreg (.of 0 5), .ext (.srcsFregs 0) (.of 5 5)]

def decodeExtractFormat12 : List Operand :=
  [.ext .dstFreg (.of 0 5), .ext (.srcsRegs 0) (.of 5 5)]

def decodeExtractFormat13 : List Operand :=
  [.ext .dstReg (.of 0 5), .ext (.srcsFregs 0) (.of 5 5)]

def decodeExtractFormat14 : List Operand :=
  [.ext .dstFcsr (.of 0 5), .ext (.srcsRegs 0) (.of 5 5)]

def decodeExtractFormat15 : List Operand :=
  [.ext .dstReg (.of 0 5), .ext (.srcsFcsrregs 0) (.of 5 5)]

def decodeExtractFormat16 : List Operand :=
  [.ext .dstCfreg (.of 0 3), .ext (.srcsFregs 0) (.of 5 5)]

def decodeExtractFormat17 : List Operand :=
  [.ext .dstFreg (.of 0 5), .ext (.srcsCfregs 0) (.of 5 3)]

def decodeExtractFormat18 : List Operand :=
  [.ext .dstCfreg (.of 0 3), .ext (.srcsRegs 0) (.of 5 5)]

def decodeExtractFormat19 : List Operand :=
  [.ext .dstReg (.of 0 5), .ext (.srcsCfregs 0) (.of 5 3)]

def decodeExtractFormat2 : List Operand :=
  [.ext .dstReg (.of 0 5), .ext (.srcsRegs 0) (.of 5 5), .ext (.srcsRegs 1) (.of 10 5), .ext .sa
   (.of 15 2)]

def decodeExtractFormat20 : List Operand :=
  [.ext .dstReg (.of 0 5), .ext (.srcsRegs 0) (.of 5 5), .sext .si (.of 10 12)]

def decodeExtractFormat21 : List Operand :=
  [.ext .dstReg (.of 0 5), .ext (.srcsRegs 0) (.of 5 5), .ext .ui (.of 10 12)]

def decodeExtractFormat22 : List Operand := [.ext .dstReg (.of 0 5), .ext .csr (.of 10 14)]

def decodeExtractFormat23 : List Operand :=
  [.ext .dstReg (.of 0 5), .ext (.srcsRegs 0) (.of 5 5), .ext .csr (.of 10 14)]

def decodeExtractFormat24 : List Operand :=
  [.ext .code2 (.of 0 5), .ext (.srcsRegs 0) (.of 5 5), .sext .si (.of 10 12)]

def decodeExtractFormat25 : List Operand :=
  [.ext .dstReg (.of 0 5), .ext (.srcsRegs 0) (.of 5 5), .ext .level (.of 10 8)]

def decodeExtractFormat26 : List Operand := [.ext (.srcsRegs 0) (.of 5 5), .ext .seq (.of 10 8)]

def decodeExtractFormat27 : List Operand := []

def decodeExtractFormat28 : List Operand := [.ext .level3 (.of 0 15)]

def decodeExtractFormat29 : List Operand :=
  [.ext .op (.of 0 5), .ext (.srcsRegs 0) (.of 5 5), .ext (.srcsRegs 1) (.of 10 5)]

def decodeExtractFormat3 : List Operand :=
  [.ext .dstReg (.of 0 5), .ext (.srcsRegs 0) (.of 5 5), .ext (.srcsRegs 1) (.of 10 5), .ext .sa
   (.of 15 3)]

def decodeExtractFormat30 : List Operand :=
  [.ext .dstFreg (.of 0 5), .ext (.srcsFregs 0) (.of 5 5), .ext (.srcsFregs 1) (.of 10 5), .ext
   (.srcsFregs 2) (.of 15 5)]

def decodeExtractFormat31 : List Operand :=
  [.ext .dstCfreg (.of 0 3), .ext (.srcsFregs 0) (.of 5 5), .ext (.srcsFregs 1) (.of 10 5)]

def decodeExtractFormat32 : List Operand :=
  [.ext .dstFreg (.of 0 5), .ext (.srcsFregs 0) (.of 5 5), .ext (.srcsFregs 1) (.of 10 5), .ext
   (.srcsCfregs 0) (.of 15 3)]

def decodeExtractFormat33 : List Operand :=
  [.ext .dstReg (.of 0 5), .ext (.srcsRegs 0) (.of 5 5), .sext .si (.of 10 16)]

def decodeExtractFormat34 : List Operand := [.ext .dstReg (.of 0 5), .sext .si (.of 5 20)]

def decodeExtractFormat35 : List Operand :=
  [.ext .dstReg (.of 0 5), .ext (.srcsRegs 0) (.of 5 5), .sext .si (.of 10 14)]

def decodeExtractFormat36 : List Operand :=
  [.ext .hint (.of 0 5), .ext (.srcsRegs 0) (.of 5 5), .sext .si (.of 10 12)]

def decodeExtractFormat37 : List Operand :=
  [.ext .dstFreg (.of 0 5), .ext (.srcsRegs 0) (.of 5 5), .sext .si (.of 10 12)]

def decodeExtractFormat38 : List Operand :=
  [.ext .hint (.of 0 5), .ext (.srcsRegs 0) (.of 5 5), .ext (.srcsRegs 1) (.of 10 5)]

def decodeExtractFormat39 : List Operand :=
  [.ext .dstFreg (.of 0 5), .ext (.srcsRegs 0) (.of 5 5), .ext (.srcsRegs 1) (.of 10 5)]

def decodeExtractFormat4 : List Operand :=
  [.ext .dstReg (.of 0 5), .ext (.srcsRegs 0) (.of 5 5), .ext (.srcsRegs 1) (.of 10 5)]

def decodeExtractFormat40 : List Operand := [.ext .hint (.of 0 15)]

def decodeExtractFormat41 : List Operand := [.ext .hint (.of 0 15)]

def decodeExtractFormat42 : List Operand :=
  [.ext (.srcsRegs 0) (.of 5 5), .deposit .offs (.of 10 16) (.of 0 5)]

def decodeExtractFormat43 : List Operand :=
  [.ext (.srcsCfregs 0) (.of 5 3), .deposit .offs (.of 10 16) (.of 0 5)]

def decodeExtractFormat44 : List Operand :=
  [.ext .dstReg (.of 0 5), .ext (.srcsRegs 0) (.of 5 5), .sext .offs (.of 10 16)]

def decodeExtractFormat45 : List Operand := [.deposit .offs (.of 10 16) (.of 0 10)]

def decodeExtractFormat46 : List Operand :=
  [.ext (.srcsRegs 0) (.of 5 5), .ext .dstSccrach (.of 0 2)]

def decodeExtractFormat47 : List Operand :=
  [.ext (.sccrachRegs 0) (.of 5 2), .ext .dstReg (.of 0 5)]

def decodeExtractFormat48 : List Operand := [.ext .ptr (.of 5 3)]

def decodeExtractFormat49 : List Operand := [.ext .dstReg (.of 0 5)]

def decodeExtractFormat5 : List Operand := [.ext .code (.of 0 15)]

def decodeExtractFormat50 : List Operand := [.ext (.srcsRegs 0) (.of 5 5)]

def decodeExtractFormat51 : List Operand :=
  [.sext .si (.of 10 5), .ext (.srcsRegs 0) (.of 5 5), .ext .dstReg (.of 0 5)]

def decodeExtractFormat52 : List Operand :=
  [.ext .cond (.of 10 4), .ext (.srcsRegs 0) (.of 5 5), .ext .dstReg (.of 0 5)]

def decodeExtractFormat53 : List Operand := [.ext .cond (.of 10 4), .ext .dstReg (.of 0 5)]

def decodeExtractFormat54 : List Operand :=
  [.ext (.srcsRegs 0) (.of 10 5), .ext (.srcsRegs 1) (.of 5 5), .ext .cond (.of 0 4)]

def decodeExtractFormat55 : List Operand := [.ext .cond (.of 10 4), .ext (.srcsRegs 0) (.of 5 5)]

def decodeExtractFormat56 : List Operand :=
  [.ext .ui (.of 10 3), .ext (.srcsRegs 0) (.of 5 5), .ext .dstReg (.of 0 5)]

def decodeExtractFormat57 : List Operand :=
  [.ext .ui (.of 10 4), .ext (.srcsRegs 0) (.of 5 5), .ext .dstReg (.of 0 5)]

def decodeExtractFormat58 : List Operand := [.ext .ui (.of 10 3), .ext (.srcsRegs 0) (.of 5 5)]

def decodeExtractFormat59 : List Operand := [.ext .ui (.of 10 4), .ext (.srcsRegs 0) (.of 5 5)]

def decodeExtractFormat6 : List Operand :=
  [.ext .dstReg (.of 0 5), .ext (.srcsRegs 0) (.of 5 5), .ext .ui (.of 10 5)]

def decodeExtractFormat60 : List Operand := [.ext .ui (.of 10 5), .ext (.srcsRegs 0) (.of 5 5)]

def decodeExtractFormat61 : List Operand := [.ext .ui (.of 10 6), .ext (.srcsRegs 0) (.of 5 5)]

def decodeExtractFormat62 : List Operand :=
  [.ext .ui (.of 10 8), .ext .op (.of 5 5), .ext .dstReg (.of 0 5)]

def decodeExtractFormat63 : List Operand := [.ext .ui (.of 10 8), .ext .dstReg (.of 0 5)]

def decodeExtractFormat64 : List Operand := [.deposit .offs (.of 10 16) (.of 0 5)]

def decodeExtractFormat7 : List Operand :=
  [.ext .dstReg (.of 0 5), .ext (.srcsRegs 0) (.of 5 5), .ext .ui (.of 10 6)]

def decodeExtractFormat8 : List Operand :=
  [.ext .dstReg (.of 0 5), .ext (.srcsRegs 0) (.of 5 5), .ext .msb (.of 16 5), .ext .lsb (.of 10
   5)]

def decodeExtractFormat9 : List Operand :=
  [.ext .dstReg (.of 0 5), .ext (.srcsRegs 0) (.of 5 5), .ext .msb (.of 16 6), .ext .lsb (.of 10
   6)]

def decodeExtractRvUi1 : List Operand :=
  [.ext .ui (.of 10 1), .ext (.lsxSrc 0) (.of 5 5), .ext .dstReg (.of 0 5)]

def decodeExtractRvUi2 : List Operand :=
  [.ext .ui (.of 10 2), .ext (.lsxSrc 0) (.of 5 5), .ext .dstReg (.of 0 5)]

def decodeExtractRvUi3 : List Operand :=
  [.ext .ui (.of 10 3), .ext (.lsxSrc 0) (.of 5 5), .ext .dstReg (.of 0 5)]

def decodeExtractRvUi4 : List Operand :=
  [.ext .ui (.of 10 4), .ext (.lsxSrc 0) (.of 5 5), .ext .dstReg (.of 0 5)]

def decodeExtractVI13 : List Operand := [.ext .ui (.of 5 13), .ext .dstLsxReg (.of 0 5)]

def decodeExtractVr : List Operand := [.ext (.srcsRegs 0) (.of 5 5), .ext .dstLsxReg (.of 0 5)]

def decodeExtractVrI10 : List Operand :=
  [.ext (.srcsRegs 0) (.of 5 5), .ext .dstLsxReg (.of 0 5), .sext .si (.of 10 10)]

def decodeExtractVrI11 : List Operand :=
  [.ext (.srcsRegs 0) (.of 5 5), .ext .dstLsxReg (.of 0 5), .sext .si (.of 10 11)]

def decodeExtractVrI12 : List Operand :=
  [.sext .si (.of 10 12), .ext (.srcsRegs 0) (.of 5 5), .ext .dstLsxReg (.of 0 5)]

def decodeExtractVrI8i1 : List Operand :=
  [.ext .ui2 (.of 18 1), .ext (.srcsRegs 0) (.of 5 5), .ext .dstLsxReg (.of 0 5), .sext .si (.of
   10 8)]

def decodeExtractVrI8i2 : List Operand :=
  [.ext .ui2 (.of 18 2), .ext (.srcsRegs 0) (.of 5 5), .ext .dstLsxReg (.of 0 5), .sext .si (.of
   10 8)]

def decodeExtractVrI8i3 : List Operand :=
  [.ext .ui2 (.of 18 3), .ext (.srcsRegs 0) (.of 5 5), .ext .dstLsxReg (.of 0 5), .sext .si (.of
   10 8)]

def decodeExtractVrI8i4 : List Operand :=
  [.ext .ui2 (.of 18 4), .sext .si (.of 10 8), .ext (.srcsRegs 0) (.of 5 5), .ext .dstLsxReg (.of
   0 5)]

def decodeExtractVrI9 : List Operand :=
  [.ext (.srcsRegs 0) (.of 5 5), .ext .dstLsxReg (.of 0 5), .sext .si (.of 10 9)]

def decodeExtractVrUi1 : List Operand :=
  [.ext .ui (.of 10 1), .ext (.srcsRegs 0) (.of 5 5), .ext .dstLsxReg (.of 0 5)]

def decodeExtractVrUi2 : List Operand :=
  [.ext .ui (.of 10 2), .ext (.srcsRegs 0) (.of 5 5), .ext .dstLsxReg (.of 0 5)]

def decodeExtractVrUi3 : List Operand :=
  [.ext .ui (.of 10 3), .ext (.srcsRegs 0) (.of 5 5), .ext .dstLsxReg (.of 0 5)]

def decodeExtractVrUi4 : List Operand :=
  [.ext .ui (.of 10 4), .ext (.srcsRegs 0) (.of 5 5), .ext .dstLsxReg (.of 0 5)]

def decodeExtractVrr : List Operand :=
  [.ext (.srcsRegs 0) (.of 10 5), .ext (.srcsRegs 1) (.of 5 5), .ext .dstLsxReg (.of 0 5)]

def decodeExtractVv : List Operand := [.ext (.lsxSrc 0) (.of 5 5), .ext .dstLsxReg (.of 0 5)]

def decodeExtractVvI5 : List Operand :=
  [.sext .si (.of 10 5), .ext (.lsxSrc 0) (.of 5 5), .ext .dstLsxReg (.of 0 5)]

def decodeExtractVvUi1 : List Operand :=
  [.ext .ui (.of 10 1), .ext (.lsxSrc 0) (.of 5 5), .ext .dstLsxReg (.of 0 5)]

def decodeExtractVvUi2 : List Operand :=
  [.ext .ui (.of 10 2), .ext (.lsxSrc 0) (.of 5 5), .ext .dstLsxReg (.of 0 5)]

def decodeExtractVvUi3 : List Operand :=
  [.ext .ui (.of 10 3), .ext (.lsxSrc 0) (.of 5 5), .ext .dstLsxReg (.of 0 5)]

def decodeExtractVvUi4 : List Operand :=
  [.ext .ui (.of 10 4), .ext (.lsxSrc 0) (.of 5 5), .ext .dstLsxReg (.of 0 5)]

def decodeExtractVvUi5 : List Operand :=
  [.ext .ui (.of 10 5), .ext (.lsxSrc 0) (.of 5 5), .ext .dstLsxReg (.of 0 5)]

def decodeExtractVvUi6 : List Operand :=
  [.ext .ui (.of 10 6), .ext (.lsxSrc 0) (.of 5 5), .ext .dstLsxReg (.of 0 5)]

def decodeExtractVvUi7 : List Operand :=
  [.ext .ui (.of 10 7), .ext (.lsxSrc 0) (.of 5 5), .ext .dstLsxReg (.of 0 5)]

def decodeExtractVvUi8 : List Operand :=
  [.ext .ui (.of 10 8), .ext (.lsxSrc 0) (.of 5 5), .ext .dstLsxReg (.of 0 5)]

def decodeExtractVvr : List Operand :=
  [.ext (.srcsRegs 0) (.of 10 5), .ext (.lsxSrc 0) (.of 5 5), .ext .dstLsxReg (.of 0 5)]

def decodeExtractVvv : List Operand :=
  [.ext (.lsxSrc 0) (.of 10 5), .ext (.lsxSrc 1) (.of 5 5), .ext .dstLsxReg (.of 0 5)]

def decodeExtractVvvFcond : List Operand :=
  [.ext .fcond (.of 15 5), .ext (.lsxSrc 0) (.of 10 5), .ext (.lsxSrc 1) (.of 5 5), .ext
   .dstLsxReg (.of 0 5)]

def decodeExtractVvvv : List Operand :=
  [.ext (.lsxSrc 0) (.of 15 5), .ext (.lsxSrc 1) (.of 10 5), .ext (.lsxSrc 2) (.of 5 5), .ext
   .dstLsxReg (.of 0 5)]

def decodeExtractXrI12 : List Operand :=
  [.sext .si (.of 10 12), .ext (.srcsRegs 0) (.of 5 5), .ext .dstLasxReg (.of 0 5)]

/-! ### The decision tree -/

/-- Decision trees on an instruction word that extract operands and find an opcode. -/
abbrev DecodeTree := CaseTree 32 (List Operand) LoongArchOpc

def decodeCase0x0_0x0_0x0 : DecodeTree :=
  .switch 15 0x7 <|
    .case 0x0 (.switch 10 0x1f <|
      .case 0x2 (.act decodeExtractFormat46 <| .switch 2 0x7 <|
        .case 0x0 (.ret .OPC_GR2SCR) <|
        .done) <|
      .case 0x3 (.act decodeExtractFormat47 <| .switch 7 0x7 <|
        .case 0x0 (.ret .OPC_SRC2GR) <|
        .done) <|
      .case 0x4 (.act decodeExtractFormat0 (.ret .OPC_CLO_W)) <|
      .case 0x5 (.act decodeExtractFormat0 (.ret .OPC_CLZ_W)) <|
      .case 0x6 (.act decodeExtractFormat0 (.ret .OPC_CTO_W)) <|
      .case 0x7 (.act decodeExtractFormat0 (.ret .OPC_CTZ_W)) <|
      .case 0x8 (.act decodeExtractFormat0 (.ret .OPC_CLO_D)) <|
      .case 0x9 (.act decodeExtractFormat0 (.ret .OPC_CLZ_D)) <|
      .case 0xa (.act decodeExtractFormat0 (.ret .OPC_CTO_D)) <|
      .case 0xb (.act decodeExtractFormat0 (.ret .OPC_CTZ_D)) <|
      .case 0xc (.act decodeExtractFormat0 (.ret .OPC_REVB_2H)) <|
      .case 0xd (.act decodeExtractFormat0 (.ret .OPC_REVB_4H)) <|
      .case 0xe (.act decodeExtractFormat0 (.ret .OPC_REVB_2W)) <|
      .case 0xf (.act decodeExtractFormat0 (.ret .OPC_REVB_D)) <|
      .case 0x10 (.act decodeExtractFormat0 (.ret .OPC_REVH_2W)) <|
      .case 0x11 (.act decodeExtractFormat0 (.ret .OPC_REVH_D)) <|
      .case 0x12 (.act decodeExtractFormat0 (.ret .OPC_BITREV_4B)) <|
      .case 0x13 (.act decodeExtractFormat0 (.ret .OPC_BITREV_8B)) <|
      .case 0x14 (.act decodeExtractFormat0 (.ret .OPC_BITREV_W)) <|
      .case 0x15 (.act decodeExtractFormat0 (.ret .OPC_BITREV_D)) <|
      .case 0x16 (.act decodeExtractFormat0 (.ret .OPC_EXT_W_H)) <|
      .case 0x17 (.act decodeExtractFormat0 (.ret .OPC_EXT_W_B)) <|
      .case 0x18 (.act decodeExtractFormat0 (.ret .OPC_RDTIMEL_W)) <|
      .case 0x19 (.act decodeExtractFormat0 (.ret .OPC_RDTIMEH_W)) <|
      .case 0x1a (.act decodeExtractFormat0 (.ret .OPC_RDTIME_D)) <|
      .case 0x1b (.act decodeExtractFormat0 (.ret .OPC_CPUCFG)) <|
      .case 0x1c (.act decodeExtractFormat48 <| .switch 0 0x31f <|
        .case 0x0 (.ret .OPC_X86MTTOP) <|
        .done) <|
      .case 0x1d (.act decodeExtractFormat49 <| .switch 5 0x1f <|
        .case 0x0 (.ret .OPC_X86MFTOP) <|
        .done) <|
      .case 0x1e (.act decodeExtractFormat0 (.ret .OPC_SETX86LOOPE)) <|
      .case 0x1f (.act decodeExtractFormat0 (.ret .OPC_SETX86LOOPNE)) <|
      .done) <|
    .case 0x1 (.switch 0 0x7c1f <|
      .case 0x0 (.act decodeExtractFormat50 (.ret .OPC_X86INC_B)) <|
      .case 0x1 (.act decodeExtractFormat50 (.ret .OPC_X86INC_H)) <|
      .case 0x2 (.act decodeExtractFormat50 (.ret .OPC_X86INC_W)) <|
      .case 0x3 (.act decodeExtractFormat50 (.ret .OPC_X86INC_D)) <|
      .case 0x4 (.act decodeExtractFormat50 (.ret .OPC_X86DEC_B)) <|
      .case 0x5 (.act decodeExtractFormat50 (.ret .OPC_X86DEC_H)) <|
      .case 0x6 (.act decodeExtractFormat50 (.ret .OPC_X86DEC_W)) <|
      .case 0x7 (.act decodeExtractFormat50 (.ret .OPC_X86DEC_D)) <|
      .case 0x8 (.act decodeExtractFormat27 <| .switch 5 0x1f <|
        .case 0x0 (.ret .OPC_X86SETTM) <|
        .case 0x1 (.ret .OPC_X86CLRTM) <|
        .done) <|
      .case 0x9 (.act decodeExtractFormat27 <| .switch 5 0x1f <|
        .case 0x0 (.ret .OPC_X86INCTOP) <|
        .case 0x1 (.ret .OPC_X86DECTOP) <|
        .done) <|
      .done) <|
    .case 0x2 (.act decodeExtractFormat1 <| .switch 0 0x1f <|
      .case 0x0 (.ret .OPC_ASRTLE_D) <|
      .done) <|
    .case 0x3 (.act decodeExtractFormat1 <| .switch 0 0x1f <|
      .case 0x0 (.ret .OPC_ASRTGT_D) <|
      .done) <|
    .done

def decodeCase0x0_0x0_0xf : DecodeTree :=
  .switch 0 0x38010 <|
    .case 0x10 (.act decodeExtractFormat54 (.ret .OPC_ARMROTR_W)) <|
    .case 0x8010 (.act decodeExtractFormat54 (.ret .OPC_ARMSLLI_W)) <|
    .case 0x10010 (.act decodeExtractFormat54 (.ret .OPC_ARMSRLI_W)) <|
    .case 0x18010 (.act decodeExtractFormat54 (.ret .OPC_ARMSRAI_W)) <|
    .case 0x20010 (.act decodeExtractFormat54 (.ret .OPC_ARMROTRI_W)) <|
    .case 0x28000 (.act decodeExtractFormat1 <| .switch 0 0xf <|
      .case 0x0 (.ret .OPC_X86MUL_B) <|
      .case 0x1 (.ret .OPC_X86MUL_H) <|
      .case 0x2 (.ret .OPC_X86MUL_W) <|
      .case 0x3 (.ret .OPC_X86MUL_D) <|
      .case 0x4 (.ret .OPC_X86MUL_BU) <|
      .case 0x5 (.ret .OPC_X86MUL_HU) <|
      .case 0x6 (.ret .OPC_X86MUL_WU) <|
      .case 0x7 (.ret .OPC_X86MUL_DU) <|
      .done) <|
    .case 0x30000 (.act decodeExtractFormat1 <| .switch 0 0xf <|
      .case 0x0 (.ret .OPC_X86ADD_WU) <|
      .case 0x1 (.ret .OPC_X86ADD_DU) <|
      .case 0x2 (.ret .OPC_X86SUB_WU) <|
      .case 0x3 (.ret .OPC_X86SUB_DU) <|
      .case 0x4 (.ret .OPC_X86ADD_B) <|
      .case 0x5 (.ret .OPC_X86ADD_H) <|
      .case 0x6 (.ret .OPC_X86ADD_W) <|
      .case 0x7 (.ret .OPC_X86ADD_D) <|
      .case 0x8 (.ret .OPC_X86SUB_B) <|
      .case 0x9 (.ret .OPC_X86SUB_H) <|
      .case 0xa (.ret .OPC_X86SUB_W) <|
      .case 0xb (.ret .OPC_X86SUB_D) <|
      .case 0xc (.ret .OPC_X86ADC_B) <|
      .case 0xd (.ret .OPC_X86ADC_H) <|
      .case 0xe (.ret .OPC_X86ADC_W) <|
      .case 0xf (.ret .OPC_X86ADC_D) <|
      .done) <|
    .case 0x30010 (.act decodeExtractFormat1 <| .switch 0 0xf <|
      .case 0x0 (.ret .OPC_X86SBC_B) <|
      .case 0x1 (.ret .OPC_X86SBC_H) <|
      .case 0x2 (.ret .OPC_X86SBC_W) <|
      .case 0x3 (.ret .OPC_X86SBC_D) <|
      .case 0x4 (.ret .OPC_X86SLL_B) <|
      .case 0x5 (.ret .OPC_X86SLL_H) <|
      .case 0x6 (.ret .OPC_X86SLL_W) <|
      .case 0x7 (.ret .OPC_X86SLL_D) <|
      .case 0x8 (.ret .OPC_X86SRL_B) <|
      .case 0x9 (.ret .OPC_X86SRL_H) <|
      .case 0xa (.ret .OPC_X86SRL_W) <|
      .case 0xb (.ret .OPC_X86SRL_D) <|
      .case 0xc (.ret .OPC_X86SRA_B) <|
      .case 0xd (.ret .OPC_X86SRA_H) <|
      .case 0xe (.ret .OPC_X86SRA_W) <|
      .case 0xf (.ret .OPC_X86SRA_D) <|
      .done) <|
    .case 0x38000 (.act decodeExtractFormat1 <| .switch 0 0xf <|
      .case 0x0 (.ret .OPC_X86ROTR_B) <|
      .case 0x1 (.ret .OPC_X86ROTR_H) <|
      .case 0x2 (.ret .OPC_X86ROTR_D) <|
      .case 0x3 (.ret .OPC_X86ROTR_W) <|
      .case 0x4 (.ret .OPC_X86ROTL_B) <|
      .case 0x5 (.ret .OPC_X86ROTL_H) <|
      .case 0x6 (.ret .OPC_X86ROTL_W) <|
      .case 0x7 (.ret .OPC_X86ROTL_D) <|
      .case 0x8 (.ret .OPC_X86RCR_B) <|
      .case 0x9 (.ret .OPC_X86RCR_H) <|
      .case 0xa (.ret .OPC_X86RCR_W) <|
      .case 0xb (.ret .OPC_X86RCR_D) <|
      .case 0xc (.ret .OPC_X86RCL_B) <|
      .case 0xd (.ret .OPC_X86RCL_H) <|
      .case 0xe (.ret .OPC_X86RCL_W) <|
      .case 0xf (.ret .OPC_X86RCL_D) <|
      .done) <|
    .case 0x38010 (.switch 0 0xf <|
      .case 0x0 (.act decodeExtractFormat1 (.ret .OPC_X86AND_B)) <|
      .case 0x1 (.act decodeExtractFormat1 (.ret .OPC_X86AND_H)) <|
      .case 0x2 (.act decodeExtractFormat1 (.ret .OPC_X86AND_W)) <|
      .case 0x3 (.act decodeExtractFormat1 (.ret .OPC_X86AND_D)) <|
      .case 0x4 (.act decodeExtractFormat1 (.ret .OPC_X86OR_B)) <|
      .case 0x5 (.act decodeExtractFormat1 (.ret .OPC_X86OR_H)) <|
      .case 0x6 (.act decodeExtractFormat1 (.ret .OPC_X86OR_W)) <|
      .case 0x7 (.act decodeExtractFormat1 (.ret .OPC_X86OR_D)) <|
      .case 0x8 (.act decodeExtractFormat1 (.ret .OPC_X86XOR_B)) <|
      .case 0x9 (.act decodeExtractFormat1 (.ret .OPC_X86XOR_H)) <|
      .case 0xa (.act decodeExtractFormat1 (.ret .OPC_X86XOR_W)) <|
      .case 0xb (.act decodeExtractFormat1 (.ret .OPC_X86XOR_D)) <|
      .case 0xc (.act decodeExtractFormat55 <| .switch 14 0x1 <|
        .case 0x1 (.ret .OPC_ARMNOT_W) <|
        .done) <|
      .case 0xd (.act decodeExtractFormat55 <| .switch 14 0x1 <|
        .case 0x1 (.ret .OPC_ARMMOV_W) <|
        .done) <|
      .case 0xe (.act decodeExtractFormat55 <| .switch 14 0x1 <|
        .case 0x1 (.ret .OPC_ARMMOV_D) <|
        .done) <|
      .case 0xf (.act decodeExtractFormat55 <| .switch 14 0x1 <|
        .case 0x1 (.ret .OPC_ARMRRX_W) <|
        .done) <|
      .done) <|
    .done

def decodeCase0x0_0x0 : DecodeTree :=
  .switch 18 0xf <|
    .case 0x0 decodeCase0x0_0x0_0x0 <|
    .case 0x1 (.act decodeExtractFormat2 <| .switch 17 0x1 <|
      .case 0x0 (.ret .OPC_ALSL_W) <|
      .case 0x1 (.ret .OPC_ALSL_WU) <|
      .done) <|
    .case 0x2 (.act decodeExtractFormat2 <| .switch 17 0x1 <|
      .case 0x0 (.ret .OPC_BYTEPICK_W) <|
      .done) <|
    .case 0x3 (.act decodeExtractFormat3 (.ret .OPC_BYTEPICK_D)) <|
    .case 0x4 (.act decodeExtractFormat4 <| .switch 15 0x7 <|
      .case 0x0 (.ret .OPC_ADD_W) <|
      .case 0x1 (.ret .OPC_ADD_D) <|
      .case 0x2 (.ret .OPC_SUB_W) <|
      .case 0x3 (.ret .OPC_SUB_D) <|
      .case 0x4 (.ret .OPC_SLT) <|
      .case 0x5 (.ret .OPC_SLTU) <|
      .case 0x6 (.ret .OPC_MASKEQZ) <|
      .case 0x7 (.ret .OPC_MASKNEZ) <|
      .done) <|
    .case 0x5 (.act decodeExtractFormat4 <| .switch 15 0x7 <|
      .case 0x0 (.ret .OPC_NOR) <|
      .case 0x1 (.ret .OPC_AND) <|
      .case 0x2 (.ret .OPC_OR) <|
      .case 0x3 (.ret .OPC_XOR) <|
      .case 0x4 (.ret .OPC_ORN) <|
      .case 0x5 (.ret .OPC_ANDN) <|
      .case 0x6 (.ret .OPC_SLL_W) <|
      .case 0x7 (.ret .OPC_SRL_W) <|
      .done) <|
    .case 0x6 (.act decodeExtractFormat4 <| .switch 15 0x7 <|
      .case 0x0 (.ret .OPC_SRA_W) <|
      .case 0x1 (.ret .OPC_SLL_D) <|
      .case 0x2 (.ret .OPC_SRL_D) <|
      .case 0x3 (.ret .OPC_SRA_D) <|
      .case 0x4 (.ret .OPC_ROTR_B) <|
      .case 0x5 (.ret .OPC_ROTR_H) <|
      .case 0x6 (.ret .OPC_ROTR_W) <|
      .case 0x7 (.ret .OPC_ROTR_D) <|
      .done) <|
    .case 0x7 (.act decodeExtractFormat4 <| .switch 15 0x7 <|
      .case 0x0 (.ret .OPC_MUL_W) <|
      .case 0x1 (.ret .OPC_MULH_W) <|
      .case 0x2 (.ret .OPC_MULH_WU) <|
      .case 0x3 (.ret .OPC_MUL_D) <|
      .case 0x4 (.ret .OPC_MULH_D) <|
      .case 0x5 (.ret .OPC_MULH_DU) <|
      .case 0x6 (.ret .OPC_MULW_D_W) <|
      .case 0x7 (.ret .OPC_MULW_D_WU) <|
      .done) <|
    .case 0x8 (.act decodeExtractFormat4 <| .switch 15 0x7 <|
      .case 0x0 (.ret .OPC_DIV_W) <|
      .case 0x1 (.ret .OPC_MOD_W) <|
      .case 0x2 (.ret .OPC_DIV_WU) <|
      .case 0x3 (.ret .OPC_MOD_WU) <|
      .case 0x4 (.ret .OPC_DIV_D) <|
      .case 0x5 (.ret .OPC_MOD_D) <|
      .case 0x6 (.ret .OPC_DIV_DU) <|
      .case 0x7 (.ret .OPC_MOD_DU) <|
      .done) <|
    .case 0x9 (.act decodeExtractFormat4 <| .switch 15 0x7 <|
      .case 0x0 (.ret .OPC_CRC_W_B_W) <|
      .case 0x1 (.ret .OPC_CRC_W_H_W) <|
      .case 0x2 (.ret .OPC_CRC_W_W_W) <|
      .case 0x3 (.ret .OPC_CRC_W_D_W) <|
      .case 0x4 (.ret .OPC_CRCC_W_B_W) <|
      .case 0x5 (.ret .OPC_CRCC_W_H_W) <|
      .case 0x6 (.ret .OPC_CRCC_W_W_W) <|
      .case 0x7 (.ret .OPC_CRCC_W_D_W) <|
      .done) <|
    .case 0xa (.switch 15 0x7 <|
      .case 0x2 (.act decodeExtractFormat51 (.ret .OPC_ADDU12I_D)) <|
      .case 0x3 (.act decodeExtractFormat51 (.ret .OPC_ADDU12I_W)) <|
      .case 0x4 (.act decodeExtractFormat5 (.ret .OPC_BREAK)) <|
      .case 0x5 (.act decodeExtractFormat5 (.ret .OPC_DBCL)) <|
      .case 0x6 (.act decodeExtractFormat5 (.ret .OPC_SYSCALL)) <|
      .case 0x7 (.act decodeExtractFormat5 (.ret .OPC_HVCL)) <|
      .done) <|
    .case 0xb (.act decodeExtractFormat2 <| .switch 17 0x1 <|
      .case 0x0 (.ret .OPC_ALSL_D) <|
      .done) <|
    .case 0xc (.act decodeExtractFormat4 <| .switch 15 0x7 <|
      .case 0x0 (.ret .OPC_ADC_B) <|
      .case 0x1 (.ret .OPC_ADC_H) <|
      .case 0x2 (.ret .OPC_ADC_W) <|
      .case 0x3 (.ret .OPC_ADC_D) <|
      .case 0x4 (.ret .OPC_SBC_B) <|
      .case 0x5 (.ret .OPC_SBC_H) <|
      .case 0x6 (.ret .OPC_SBC_W) <|
      .case 0x7 (.ret .OPC_SBC_D) <|
      .done) <|
    .case 0xd (.switch 15 0x7 <|
      .case 0x0 (.act decodeExtractFormat4 (.ret .OPC_RCR_B)) <|
      .case 0x1 (.act decodeExtractFormat4 (.ret .OPC_RCR_H)) <|
      .case 0x2 (.act decodeExtractFormat4 (.ret .OPC_RCR_W)) <|
      .case 0x3 (.act decodeExtractFormat4 (.ret .OPC_RCR_D)) <|
      .case 0x4 (.act decodeExtractFormat52 <| .switch 14 0x1 <|
        .case 0x1 (.ret .OPC_ARMMOVE) <|
        .done) <|
      .case 0x5 (.act decodeExtractFormat53 <| .switch 0 0x43e0 <|
        .case 0x0 (.ret .OPC_SETX86J) <|
        .case 0x4000 (.ret .OPC_SETARMJ) <|
        .done) <|
      .case 0x6 (.act decodeExtractFormat54 <| .switch 4 0x1 <|
        .case 0x1 (.ret .OPC_ARMADD_W) <|
        .done) <|
      .case 0x7 (.act decodeExtractFormat54 <| .switch 4 0x1 <|
        .case 0x1 (.ret .OPC_ARMSUB_W) <|
        .done) <|
      .done) <|
    .case 0xe (.act decodeExtractFormat54 <| .switch 0 0x38010 <|
      .case 0x10 (.ret .OPC_ARMADC_W) <|
      .case 0x8010 (.ret .OPC_ARMSBC_W) <|
      .case 0x10010 (.ret .OPC_ARMAND_W) <|
      .case 0x18010 (.ret .OPC_ARMOR_W) <|
      .case 0x20010 (.ret .OPC_ARMXOR_W) <|
      .case 0x28010 (.ret .OPC_ARMSLL_W) <|
      .case 0x30010 (.ret .OPC_ARMSRL_W) <|
      .case 0x38010 (.ret .OPC_ARMSRA_W) <|
      .done) <|
    .case 0xf decodeCase0x0_0x0_0xf <|
    .done

def decodeCase0x0_0x1_0x0 : DecodeTree :=
  .switch 18 0x7 <|
    .case 0x0 (.switch 16 0x3 <|
      .case 0x0 (.act decodeExtractFormat6 <| .switch 15 0x1 <|
        .case 0x1 (.ret .OPC_SLLI_W) <|
        .done) <|
      .case 0x1 (.act decodeExtractFormat7 (.ret .OPC_SLLI_D)) <|
      .done) <|
    .case 0x1 (.switch 16 0x3 <|
      .case 0x0 (.act decodeExtractFormat6 <| .switch 15 0x1 <|
        .case 0x1 (.ret .OPC_SRLI_W) <|
        .done) <|
      .case 0x1 (.act decodeExtractFormat7 (.ret .OPC_SRLI_D)) <|
      .done) <|
    .case 0x2 (.switch 16 0x3 <|
      .case 0x0 (.act decodeExtractFormat6 <| .switch 15 0x1 <|
        .case 0x1 (.ret .OPC_SRAI_W) <|
        .done) <|
      .case 0x1 (.act decodeExtractFormat7 (.ret .OPC_SRAI_D)) <|
      .done) <|
    .case 0x3 (.switch 16 0x3 <|
      .case 0x0 (.switch 15 0x1 <|
        .case 0x0 (.switch 14 0x1 <|
          .case 0x0 (.act decodeExtractFormat56 <| .switch 13 0x1 <|
            .case 0x1 (.ret .OPC_ROTRI_B) <|
            .done) <|
          .case 0x1 (.act decodeExtractFormat57 (.ret .OPC_ROTRI_H)) <|
          .done) <|
        .case 0x1 (.act decodeExtractFormat6 (.ret .OPC_ROTRI_W)) <|
        .done) <|
      .case 0x1 (.act decodeExtractFormat7 (.ret .OPC_ROTRI_D)) <|
      .done) <|
    .case 0x4 (.switch 16 0x3 <|
      .case 0x0 (.switch 15 0x1 <|
        .case 0x0 (.switch 14 0x1 <|
          .case 0x0 (.act decodeExtractFormat56 <| .switch 13 0x1 <|
            .case 0x1 (.ret .OPC_RCRI_B) <|
            .done) <|
          .case 0x1 (.act decodeExtractFormat57 (.ret .OPC_RCRI_H)) <|
          .done) <|
        .case 0x1 (.act decodeExtractFormat6 (.ret .OPC_RCRI_W)) <|
        .done) <|
      .case 0x1 (.act decodeExtractFormat7 (.ret .OPC_RCRI_D)) <|
      .done) <|
    .case 0x5 (.switch 0 0x3001f <|
      .case 0x0 (.act decodeExtractFormat58 <| .switch 13 0x7 <|
        .case 0x1 (.ret .OPC_X86SLLI_B) <|
        .done) <|
      .case 0x1 (.act decodeExtractFormat59 <| .switch 14 0x3 <|
        .case 0x1 (.ret .OPC_X86SLLI_H) <|
        .done) <|
      .case 0x2 (.act decodeExtractFormat60 <| .switch 15 0x1 <|
        .case 0x1 (.ret .OPC_X86SLLI_W) <|
        .done) <|
      .case 0x4 (.act decodeExtractFormat58 <| .switch 13 0x7 <|
        .case 0x1 (.ret .OPC_X86SRLI_B) <|
        .done) <|
      .case 0x5 (.act decodeExtractFormat59 <| .switch 14 0x3 <|
        .case 0x1 (.ret .OPC_X86SRLI_H) <|
        .done) <|
      .case 0x6 (.act decodeExtractFormat60 <| .switch 15 0x1 <|
        .case 0x1 (.ret .OPC_X86SRLI_W) <|
        .done) <|
      .case 0x8 (.act decodeExtractFormat58 <| .switch 13 0x7 <|
        .case 0x1 (.ret .OPC_X86SRAI_B) <|
        .done) <|
      .case 0x9 (.act decodeExtractFormat59 <| .switch 14 0x3 <|
        .case 0x1 (.ret .OPC_X86SRAI_H) <|
        .done) <|
      .case 0xa (.act decodeExtractFormat60 <| .switch 15 0x1 <|
        .case 0x1 (.ret .OPC_X86SRAI_W) <|
        .done) <|
      .case 0xc (.act decodeExtractFormat58 <| .switch 13 0x7 <|
        .case 0x1 (.ret .OPC_X86ROTRI_B) <|
        .done) <|
      .case 0xd (.act decodeExtractFormat59 <| .switch 14 0x3 <|
        .case 0x1 (.ret .OPC_X86ROTRI_H) <|
        .done) <|
      .case 0xe (.act decodeExtractFormat60 <| .switch 15 0x1 <|
        .case 0x1 (.ret .OPC_X86ROTRI_W) <|
        .done) <|
      .case 0x10 (.act decodeExtractFormat58 <| .switch 13 0x7 <|
        .case 0x1 (.ret .OPC_X86RCRI_B) <|
        .done) <|
      .case 0x11 (.act decodeExtractFormat59 <| .switch 14 0x3 <|
        .case 0x1 (.ret .OPC_X86RCRI_H) <|
        .done) <|
      .case 0x12 (.act decodeExtractFormat60 <| .switch 15 0x1 <|
        .case 0x1 (.ret .OPC_X86RCRI_W) <|
        .done) <|
      .case 0x14 (.act decodeExtractFormat58 <| .switch 13 0x7 <|
        .case 0x1 (.ret .OPC_X86ROTLI_B) <|
        .done) <|
      .case 0x15 (.act decodeExtractFormat59 <| .switch 14 0x3 <|
        .case 0x1 (.ret .OPC_X86ROTLI_H) <|
        .done) <|
      .case 0x16 (.act decodeExtractFormat60 <| .switch 15 0x1 <|
        .case 0x1 (.ret .OPC_X86ROTLI_W) <|
        .done) <|
      .case 0x18 (.act decodeExtractFormat58 <| .switch 13 0x7 <|
        .case 0x1 (.ret .OPC_X86RCLI_B) <|
        .done) <|
      .case 0x19 (.act decodeExtractFormat59 <| .switch 14 0x3 <|
        .case 0x1 (.ret .OPC_X86RCLI_H) <|
        .done) <|
      .case 0x1a (.act decodeExtractFormat60 <| .switch 15 0x1 <|
        .case 0x1 (.ret .OPC_X86RCLI_W) <|
        .done) <|
      .case 0x10003 (.act decodeExtractFormat61 (.ret .OPC_X86SLLI_D)) <|
      .case 0x10007 (.act decodeExtractFormat61 (.ret .OPC_X86SRLI_D)) <|
      .case 0x1000b (.act decodeExtractFormat61 (.ret .OPC_X86SRAI_D)) <|
      .case 0x1000f (.act decodeExtractFormat61 (.ret .OPC_X86ROTRI_D)) <|
      .case 0x10013 (.act decodeExtractFormat61 (.ret .OPC_X86RCRI_D)) <|
      .case 0x10017 (.act decodeExtractFormat61 (.ret .OPC_X86ROTLI_D)) <|
      .case 0x1001b (.act decodeExtractFormat61 (.ret .OPC_X86RCLI_D)) <|
      .done) <|
    .case 0x6 (.act decodeExtractFormat62 (.ret .OPC_X86SETTAG)) <|
    .case 0x7 (.act decodeExtractFormat63 <| .switch 5 0x1f <|
      .case 0x0 (.ret .OPC_X86MFFLAG) <|
      .case 0x1 (.ret .OPC_X86MTFLAG) <|
      .case 0x2 (.ret .OPC_ARMMFFLAG) <|
      .case 0x3 (.ret .OPC_ARMMTFLAG) <|
      .done) <|
    .done

def decodeCase0x0_0x1 : DecodeTree :=
  .switch 21 0x1 <|
    .case 0x0 decodeCase0x0_0x1_0x0 <|
    .case 0x1 (.act decodeExtractFormat8 <| .switch 15 0x1 <|
      .case 0x0 (.ret .OPC_BSTRINS_W) <|
      .case 0x1 (.ret .OPC_BSTRPICK_W) <|
      .done) <|
    .done

def decodeCase0x0_0x4 : DecodeTree :=
  .switch 15 0x7f <|
    .case 0x1 (.act decodeExtractFormat10 (.ret .OPC_FADD_S)) <|
    .case 0x2 (.act decodeExtractFormat10 (.ret .OPC_FADD_D)) <|
    .case 0x5 (.act decodeExtractFormat10 (.ret .OPC_FSUB_S)) <|
    .case 0x6 (.act decodeExtractFormat10 (.ret .OPC_FSUB_D)) <|
    .case 0x9 (.act decodeExtractFormat10 (.ret .OPC_FMUL_S)) <|
    .case 0xa (.act decodeExtractFormat10 (.ret .OPC_FMUL_D)) <|
    .case 0xd (.act decodeExtractFormat10 (.ret .OPC_FDIV_S)) <|
    .case 0xe (.act decodeExtractFormat10 (.ret .OPC_FDIV_D)) <|
    .case 0x11 (.act decodeExtractFormat10 (.ret .OPC_FMAX_S)) <|
    .case 0x12 (.act decodeExtractFormat10 (.ret .OPC_FMAX_D)) <|
    .case 0x15 (.act decodeExtractFormat10 (.ret .OPC_FMIN_S)) <|
    .case 0x16 (.act decodeExtractFormat10 (.ret .OPC_FMIN_D)) <|
    .case 0x19 (.act decodeExtractFormat10 (.ret .OPC_FMAXA_S)) <|
    .case 0x1a (.act decodeExtractFormat10 (.ret .OPC_FMAXA_D)) <|
    .case 0x1d (.act decodeExtractFormat10 (.ret .OPC_FMINA_S)) <|
    .case 0x1e (.act decodeExtractFormat10 (.ret .OPC_FMINA_D)) <|
    .case 0x21 (.act decodeExtractFormat10 (.ret .OPC_FSCALEB_S)) <|
    .case 0x22 (.act decodeExtractFormat10 (.ret .OPC_FSCALEB_D)) <|
    .case 0x25 (.act decodeExtractFormat10 (.ret .OPC_FCOPYSIGN_S)) <|
    .case 0x26 (.act decodeExtractFormat10 (.ret .OPC_FCOPYSIGN_D)) <|
    .case 0x28 (.act decodeExtractFormat11 <| .switch 10 0x1f <|
      .case 0x1 (.ret .OPC_FABS_S) <|
      .case 0x2 (.ret .OPC_FABS_D) <|
      .case 0x5 (.ret .OPC_FNEG_S) <|
      .case 0x6 (.ret .OPC_FNEG_D) <|
      .case 0x9 (.ret .OPC_FLOGB_S) <|
      .case 0xa (.ret .OPC_FLOGB_D) <|
      .case 0xd (.ret .OPC_FCLASS_S) <|
      .case 0xe (.ret .OPC_FCLASS_D) <|
      .case 0x11 (.ret .OPC_FSQRT_S) <|
      .case 0x12 (.ret .OPC_FSQRT_D) <|
      .case 0x15 (.ret .OPC_FRECIP_S) <|
      .case 0x16 (.ret .OPC_FRECIP_D) <|
      .case 0x19 (.ret .OPC_FRSQRT_S) <|
      .case 0x1a (.ret .OPC_FRSQRT_D) <|
      .done) <|
    .case 0x29 (.switch 10 0x1f <|
      .case 0x5 (.act decodeExtractFormat11 (.ret .OPC_FMOV_S)) <|
      .case 0x6 (.act decodeExtractFormat11 (.ret .OPC_FMOV_D)) <|
      .case 0x9 (.act decodeExtractFormat12 (.ret .OPC_MOVGR2FR_W)) <|
      .case 0xa (.act decodeExtractFormat12 (.ret .OPC_MOVGR2FR_D)) <|
      .case 0xb (.act decodeExtractFormat12 (.ret .OPC_MOVGR2FRH_W)) <|
      .case 0xd (.act decodeExtractFormat13 (.ret .OPC_MOVFR2GR_S)) <|
      .case 0xe (.act decodeExtractFormat13 (.ret .OPC_MOVFR2GR_D)) <|
      .case 0xf (.act decodeExtractFormat13 (.ret .OPC_MOVFRH2GR_S)) <|
      .case 0x10 (.act decodeExtractFormat14 (.ret .OPC_MOVGR2FCSR)) <|
      .case 0x12 (.act decodeExtractFormat15 (.ret .OPC_MOVFCSR2GR)) <|
      .case 0x14 (.act decodeExtractFormat16 <| .switch 3 0x3 <|
        .case 0x0 (.ret .OPC_MOVFR2CF) <|
        .done) <|
      .case 0x15 (.act decodeExtractFormat17 <| .switch 8 0x3 <|
        .case 0x0 (.ret .OPC_MOVCF2FR) <|
        .done) <|
      .case 0x16 (.act decodeExtractFormat18 <| .switch 3 0x3 <|
        .case 0x0 (.ret .OPC_MOVGR2CF) <|
        .done) <|
      .case 0x17 (.act decodeExtractFormat19 <| .switch 8 0x3 <|
        .case 0x0 (.ret .OPC_MOVCF2GR) <|
        .done) <|
      .case 0x18 (.act decodeExtractFormat11 (.ret .OPC_FCVT_LD_D)) <|
      .case 0x19 (.act decodeExtractFormat11 (.ret .OPC_FCVT_UD_D)) <|
      .done) <|
    .case 0x2a (.act decodeExtractFormat10 (.ret .OPC_FCVT_D_LC)) <|
    .case 0x32 (.act decodeExtractFormat11 <| .switch 10 0x1f <|
      .case 0x6 (.ret .OPC_FCVT_S_D) <|
      .case 0x9 (.ret .OPC_FCVT_D_S) <|
      .done) <|
    .case 0x34 (.act decodeExtractFormat11 <| .switch 10 0x1f <|
      .case 0x1 (.ret .OPC_FTINTRM_W_S) <|
      .case 0x2 (.ret .OPC_FTINTRM_W_D) <|
      .case 0x9 (.ret .OPC_FTINTRM_L_S) <|
      .case 0xa (.ret .OPC_FTINTRM_L_D) <|
      .case 0x11 (.ret .OPC_FTINTRP_W_S) <|
      .case 0x12 (.ret .OPC_FTINTRP_W_D) <|
      .case 0x19 (.ret .OPC_FTINTRP_L_S) <|
      .case 0x1a (.ret .OPC_FTINTRP_L_D) <|
      .done) <|
    .case 0x35 (.act decodeExtractFormat11 <| .switch 10 0x1f <|
      .case 0x1 (.ret .OPC_FTINTRZ_W_S) <|
      .case 0x2 (.ret .OPC_FTINTRZ_W_D) <|
      .case 0x9 (.ret .OPC_FTINTRZ_L_S) <|
      .case 0xa (.ret .OPC_FTINTRZ_L_D) <|
      .case 0x11 (.ret .OPC_FTINTRNE_W_S) <|
      .case 0x12 (.ret .OPC_FTINTRNE_W_D) <|
      .case 0x19 (.ret .OPC_FTINTRNE_L_S) <|
      .case 0x1a (.ret .OPC_FTINTRNE_L_D) <|
      .done) <|
    .case 0x36 (.act decodeExtractFormat11 <| .switch 10 0x1f <|
      .case 0x1 (.ret .OPC_FTINT_W_S) <|
      .case 0x2 (.ret .OPC_FTINT_W_D) <|
      .case 0x9 (.ret .OPC_FTINT_L_S) <|
      .case 0xa (.ret .OPC_FTINT_L_D) <|
      .done) <|
    .case 0x3a (.act decodeExtractFormat11 <| .switch 10 0x1f <|
      .case 0x4 (.ret .OPC_FFINT_S_W) <|
      .case 0x6 (.ret .OPC_FFINT_S_L) <|
      .case 0x8 (.ret .OPC_FFINT_D_W) <|
      .case 0xa (.ret .OPC_FFINT_D_L) <|
      .done) <|
    .case 0x3c (.act decodeExtractFormat11 <| .switch 10 0x1f <|
      .case 0x11 (.ret .OPC_FRINT_S) <|
      .case 0x12 (.ret .OPC_FRINT_D) <|
      .done) <|
    .done

def decodeCase0x0 : DecodeTree :=
  .switch 22 0xf <|
    .case 0x0 decodeCase0x0_0x0 <|
    .case 0x1 decodeCase0x0_0x1 <|
    .case 0x2 (.act decodeExtractFormat9 (.ret .OPC_BSTRINS_D)) <|
    .case 0x3 (.act decodeExtractFormat9 (.ret .OPC_BSTRPICK_D)) <|
    .case 0x4 decodeCase0x0_0x4 <|
    .case 0x8 (.act decodeExtractFormat20 (.ret .OPC_SLTI)) <|
    .case 0x9 (.act decodeExtractFormat20 (.ret .OPC_SLTUI)) <|
    .case 0xa (.act decodeExtractFormat20 (.ret .OPC_ADDI_W)) <|
    .case 0xb (.act decodeExtractFormat20 (.ret .OPC_ADDI_D)) <|
    .case 0xc (.act decodeExtractFormat20 (.ret .OPC_LU52I_D)) <|
    .case 0xd (.act decodeExtractFormat21 (.ret .OPC_ANDI)) <|
    .case 0xe (.act decodeExtractFormat21 (.ret .OPC_ORI)) <|
    .case 0xf (.act decodeExtractFormat21 (.ret .OPC_XORI)) <|
    .done

def decodeCase0x1 : DecodeTree :=
  .switch 24 0x3 <|
    .case 0x0 (.ite 0x3e0 0x0 (.act decodeExtractFormat22 (.ret .OPC_CSRRD)) <|
    .ite 0x3e0 0x20 (.act decodeExtractFormat22 (.ret .OPC_CSRWR)) <|
    .act decodeExtractFormat23 (.ret .OPC_CSRXCHG)) <|
    .case 0x1 (.ite 0x3e0 0x0 (.act decodeExtractFormat22 (.ret .OPC_GCSRRD)) <|
    .ite 0x3e0 0x20 (.act decodeExtractFormat22 (.ret .OPC_GCSRWR)) <|
    .act decodeExtractFormat23 (.ret .OPC_GCSRXCHG)) <|
    .case 0x2 (.switch 22 0x3 <|
      .case 0x0 (.act decodeExtractFormat24 (.ret .OPC_CACOP)) <|
      .case 0x1 (.switch 18 0xf <|
        .case 0x0 (.act decodeExtractFormat25 (.ret .OPC_LDDIR)) <|
        .case 0x1 (.act decodeExtractFormat26 <| .switch 0 0x1f <|
          .case 0x0 (.ret .OPC_LDPTE) <|
          .done) <|
        .case 0x2 (.switch 15 0x7 <|
          .case 0x0 (.switch 10 0x1f <|
            .case 0x0 (.act decodeExtractFormat0 (.ret .OPC_IOCSRRD_B)) <|
            .case 0x1 (.act decodeExtractFormat0 (.ret .OPC_IOCSRRD_H)) <|
            .case 0x2 (.act decodeExtractFormat0 (.ret .OPC_IOCSRRD_W)) <|
            .case 0x3 (.act decodeExtractFormat0 (.ret .OPC_IOCSRRD_D)) <|
            .case 0x4 (.act decodeExtractFormat0 (.ret .OPC_IOCSRWR_B)) <|
            .case 0x5 (.act decodeExtractFormat0 (.ret .OPC_IOCSRWR_H)) <|
            .case 0x6 (.act decodeExtractFormat0 (.ret .OPC_IOCSRWR_W)) <|
            .case 0x7 (.act decodeExtractFormat0 (.ret .OPC_IOCSRWR_D)) <|
            .case 0x8 (.act decodeExtractFormat27 <| .switch 0 0x3ff <|
              .case 0x0 (.ret .OPC_TLBCLR) <|
              .case 0x1 (.ret .OPC_GTLBCLR) <|
              .done) <|
            .case 0x9 (.act decodeExtractFormat27 <| .switch 0 0x3ff <|
              .case 0x0 (.ret .OPC_TLBFLUSH) <|
              .case 0x1 (.ret .OPC_GTLBFLUSH) <|
              .done) <|
            .case 0xa (.act decodeExtractFormat27 <| .switch 0 0x3ff <|
              .case 0x0 (.ret .OPC_TLBSRCH) <|
              .case 0x1 (.ret .OPC_GTLBSRCH) <|
              .done) <|
            .case 0xb (.act decodeExtractFormat27 <| .switch 0 0x3ff <|
              .case 0x0 (.ret .OPC_TLBRD) <|
              .case 0x1 (.ret .OPC_GTLBRD) <|
              .done) <|
            .case 0xc (.act decodeExtractFormat27 <| .switch 0 0x3ff <|
              .case 0x0 (.ret .OPC_TLBWR) <|
              .case 0x1 (.ret .OPC_GTLBWR) <|
              .done) <|
            .case 0xd (.act decodeExtractFormat27 <| .switch 0 0x3ff <|
              .case 0x0 (.ret .OPC_TLBFILL) <|
              .case 0x1 (.ret .OPC_GTLBFILL) <|
              .done) <|
            .case 0xe (.act decodeExtractFormat27 <| .switch 0 0x3ff <|
              .case 0x0 (.ret .OPC_ERTN) <|
              .done) <|
            .done) <|
          .case 0x1 (.act decodeExtractFormat28 (.ret .OPC_IDLE)) <|
          .case 0x2 (.switch 10 0x1f <|
            .case 0x8 (.act decodeExtractFormat0 (.ret .OPC_SCFGR_W)) <|
            .case 0x9 (.act decodeExtractFormat0 (.ret .OPC_SCFGR_D)) <|
            .case 0xa (.act decodeExtractFormat0 (.ret .OPC_SCFGW_W)) <|
            .case 0xb (.act decodeExtractFormat0 (.ret .OPC_SCFGW_D)) <|
            .case 0xc (.act decodeExtractFormat27 <| .switch 0 0x3ff <|
              .case 0x0 (.ret .OPC_SNOP) <|
              .done) <|
            .done) <|
          .case 0x3 (.act decodeExtractFormat29 (.ret .OPC_INVTLB)) <|
          .done) <|
        .done) <|
      .done) <|
    .done

def decodeCase0x2 : DecodeTree :=
  .switch 20 0x3f <|
    .case 0x1 (.act decodeExtractFormat30 (.ret .OPC_FMADD_S)) <|
    .case 0x2 (.act decodeExtractFormat30 (.ret .OPC_FMADD_D)) <|
    .case 0x5 (.act decodeExtractFormat30 (.ret .OPC_FMSUB_S)) <|
    .case 0x6 (.act decodeExtractFormat30 (.ret .OPC_FMSUB_D)) <|
    .case 0x9 (.act decodeExtractFormat30 (.ret .OPC_FNMADD_S)) <|
    .case 0xa (.act decodeExtractFormat30 (.ret .OPC_FNMADD_D)) <|
    .case 0xd (.act decodeExtractFormat30 (.ret .OPC_FNMSUB_S)) <|
    .case 0xe (.act decodeExtractFormat30 (.ret .OPC_FNMSUB_D)) <|
    .case 0x11 (.act decodeExtractVvvv (.ret .OPC_VFMADD_S)) <|
    .case 0x12 (.act decodeExtractVvvv (.ret .OPC_VFMADD_D)) <|
    .case 0x15 (.act decodeExtractVvvv (.ret .OPC_VFMSUB_S)) <|
    .case 0x16 (.act decodeExtractVvvv (.ret .OPC_VFMSUB_D)) <|
    .case 0x19 (.act decodeExtractVvvv (.ret .OPC_VFNMADD_S)) <|
    .case 0x1a (.act decodeExtractVvvv (.ret .OPC_VFNMADD_D)) <|
    .case 0x1d (.act decodeExtractVvvv (.ret .OPC_VFNMSUB_S)) <|
    .case 0x1e (.act decodeExtractVvvv (.ret .OPC_VFNMSUB_D)) <|
    .done

def decodeCase0x3 : DecodeTree :=
  .switch 20 0x3f <|
    .case 0x1 (.act decodeExtractFormat31 <| .switch 0 0xf8018 <|
      .case 0x0 (.ret .OPC_FCMP_CAF_S) <|
      .case 0x8000 (.ret .OPC_FCMP_SAF_S) <|
      .case 0x10000 (.ret .OPC_FCMP_CLT_S) <|
      .case 0x18000 (.ret .OPC_FCMP_STL_S) <|
      .case 0x20000 (.ret .OPC_FCMP_CEQ_S) <|
      .case 0x28000 (.ret .OPC_FCMP_SEQ_S) <|
      .case 0x30000 (.ret .OPC_FCMP_CLE_S) <|
      .case 0x38000 (.ret .OPC_FCMP_SLE_S) <|
      .case 0x40000 (.ret .OPC_FCMP_CUN_S) <|
      .case 0x48000 (.ret .OPC_FCMP_SUN_S) <|
      .case 0x50000 (.ret .OPC_FCMP_CULT_S) <|
      .case 0x58000 (.ret .OPC_FCMP_SULT_S) <|
      .case 0x60000 (.ret .OPC_FCMP_CUEQ_S) <|
      .case 0x68000 (.ret .OPC_FCMP_SUEQ_S) <|
      .case 0x70000 (.ret .OPC_FCMP_CULE_S) <|
      .case 0x78000 (.ret .OPC_FCMP_SULE_S) <|
      .case 0x80000 (.ret .OPC_FCMP_CNE_S) <|
      .case 0x88000 (.ret .OPC_FCMP_SNE_S) <|
      .case 0xa0000 (.ret .OPC_FCMP_COR_S) <|
      .case 0xa8000 (.ret .OPC_FCMP_SOR_S) <|
      .case 0xc0000 (.ret .OPC_FCMP_CUNE_S) <|
      .case 0xc8000 (.ret .OPC_FCMP_SUNE_S) <|
      .done) <|
    .case 0x2 (.act decodeExtractFormat31 <| .switch 0 0xf8018 <|
      .case 0x0 (.ret .OPC_FCMP_CAF_D) <|
      .case 0x8000 (.ret .OPC_FCMP_SAF_D) <|
      .case 0x10000 (.ret .OPC_FCMP_CLT_D) <|
      .case 0x18000 (.ret .OPC_FCMP_STL_D) <|
      .case 0x20000 (.ret .OPC_FCMP_CEQ_D) <|
      .case 0x28000 (.ret .OPC_FCMP_SEQ_D) <|
      .case 0x30000 (.ret .OPC_FCMP_CLE_D) <|
      .case 0x38000 (.ret .OPC_FCMP_SLE_D) <|
      .case 0x40000 (.ret .OPC_FCMP_CUN_D) <|
      .case 0x48000 (.ret .OPC_FCMP_SUN_D) <|
      .case 0x50000 (.ret .OPC_FCMP_CULT_D) <|
      .case 0x58000 (.ret .OPC_FCMP_SULT_D) <|
      .case 0x60000 (.ret .OPC_FCMP_CUEQ_D) <|
      .case 0x68000 (.ret .OPC_FCMP_SUEQ_D) <|
      .case 0x70000 (.ret .OPC_FCMP_CULE_D) <|
      .case 0x78000 (.ret .OPC_FCMP_SULE_D) <|
      .case 0x80000 (.ret .OPC_FCMP_CNE_D) <|
      .case 0x88000 (.ret .OPC_FCMP_SNE_D) <|
      .case 0xa0000 (.ret .OPC_FCMP_COR_D) <|
      .case 0xa8000 (.ret .OPC_FCMP_SOR_D) <|
      .case 0xc0000 (.ret .OPC_FCMP_CUNE_D) <|
      .case 0xc8000 (.ret .OPC_FCMP_SUNE_D) <|
      .done) <|
    .case 0x5 (.act decodeExtractVvvFcond (.ret .OPC_VFCMP_COND_S)) <|
    .case 0x6 (.act decodeExtractVvvFcond (.ret .OPC_VFCMP_COND_D)) <|
    .case 0x10 (.act decodeExtractFormat32 <| .switch 18 0x3 <|
      .case 0x0 (.ret .OPC_FSEL) <|
      .done) <|
    .case 0x11 (.act decodeExtractVvvv (.ret .OPC_VBITSEL_V)) <|
    .case 0x15 (.act decodeExtractVvvv (.ret .OPC_VSHUF_B)) <|
    .done

def decodeCase0x8 : DecodeTree :=
  .act decodeExtractFormat35 <| .switch 24 0x3 <|
    .case 0x0 (.ret .OPC_LL_W) <|
    .case 0x1 (.ret .OPC_SC_W) <|
    .case 0x2 (.ret .OPC_LL_D) <|
    .case 0x3 (.ret .OPC_SC_D) <|
    .done

def decodeCase0x9 : DecodeTree :=
  .act decodeExtractFormat35 <| .switch 24 0x3 <|
    .case 0x0 (.ret .OPC_LDPTR_W) <|
    .case 0x1 (.ret .OPC_STPTR_W) <|
    .case 0x2 (.ret .OPC_LDPTR_D) <|
    .case 0x3 (.ret .OPC_STPTR_D) <|
    .done

def decodeCase0xa : DecodeTree :=
  .switch 22 0xf <|
    .case 0x0 (.act decodeExtractFormat20 (.ret .OPC_LD_B)) <|
    .case 0x1 (.act decodeExtractFormat20 (.ret .OPC_LD_H)) <|
    .case 0x2 (.act decodeExtractFormat20 (.ret .OPC_LD_W)) <|
    .case 0x3 (.act decodeExtractFormat20 (.ret .OPC_LD_D)) <|
    .case 0x4 (.act decodeExtractFormat20 (.ret .OPC_ST_B)) <|
    .case 0x5 (.act decodeExtractFormat20 (.ret .OPC_ST_H)) <|
    .case 0x6 (.act decodeExtractFormat20 (.ret .OPC_ST_W)) <|
    .case 0x7 (.act decodeExtractFormat20 (.ret .OPC_ST_D)) <|
    .case 0x8 (.act decodeExtractFormat20 (.ret .OPC_LD_BU)) <|
    .case 0x9 (.act decodeExtractFormat20 (.ret .OPC_LD_HU)) <|
    .case 0xa (.act decodeExtractFormat20 (.ret .OPC_LD_WU)) <|
    .case 0xb (.act decodeExtractFormat36 (.ret .OPC_PRELD)) <|
    .case 0xc (.act decodeExtractFormat37 (.ret .OPC_FLD_S)) <|
    .case 0xd (.act decodeExtractFormat37 (.ret .OPC_FST_S)) <|
    .case 0xe (.act decodeExtractFormat37 (.ret .OPC_FLD_D)) <|
    .case 0xf (.act decodeExtractFormat37 (.ret .OPC_FST_D)) <|
    .done

def decodeCase0xb : DecodeTree :=
  .switch 22 0xf <|
    .case 0x0 (.act decodeExtractVrI12 (.ret .OPC_VLD)) <|
    .case 0x1 (.act decodeExtractVrI12 (.ret .OPC_VST)) <|
    .case 0x2 (.act decodeExtractXrI12 (.ret .OPC_XVLD)) <|
    .case 0x3 (.act decodeExtractXrI12 (.ret .OPC_XVST)) <|
    .case 0x8 (.act decodeExtractFormat20 (.ret .OPC_LDL_W)) <|
    .case 0x9 (.act decodeExtractFormat20 (.ret .OPC_LDR_W)) <|
    .case 0xa (.act decodeExtractFormat20 (.ret .OPC_LDL_D)) <|
    .case 0xb (.act decodeExtractFormat20 (.ret .OPC_LDR_D)) <|
    .case 0xc (.act decodeExtractFormat20 (.ret .OPC_STL_W)) <|
    .case 0xd (.act decodeExtractFormat20 (.ret .OPC_STR_W)) <|
    .case 0xe (.act decodeExtractFormat20 (.ret .OPC_STL_D)) <|
    .case 0xf (.act decodeExtractFormat20 (.ret .OPC_STR_D)) <|
    .done

def decodeCase0xc : DecodeTree :=
  .switch 22 0xf <|
    .case 0x0 (.switch 20 0x3 <|
      .case 0x1 (.act decodeExtractVrI9 <| .switch 19 0x1 <|
        .case 0x0 (.ret .OPC_VLDREPL_D) <|
        .done) <|
      .case 0x2 (.act decodeExtractVrI10 (.ret .OPC_VLDREPL_W)) <|
      .done) <|
    .case 0x1 (.act decodeExtractVrI11 <| .switch 21 0x1 <|
      .case 0x0 (.ret .OPC_VLDREPL_H) <|
      .done) <|
    .case 0x2 (.act decodeExtractVrI12 (.ret .OPC_VLDREPL_B)) <|
    .case 0x4 (.switch 20 0x3 <|
      .case 0x1 (.act decodeExtractVrI8i1 <| .switch 19 0x1 <|
        .case 0x0 (.ret .OPC_VSTELM_D) <|
        .done) <|
      .case 0x2 (.act decodeExtractVrI8i2 (.ret .OPC_VSTELM_W)) <|
      .done) <|
    .case 0x5 (.act decodeExtractVrI8i3 <| .switch 21 0x1 <|
      .case 0x0 (.ret .OPC_VSTELM_H) <|
      .done) <|
    .case 0x6 (.act decodeExtractVrI8i4 (.ret .OPC_VSTELM_B)) <|
    .done

def decodeCase0xe : DecodeTree :=
  .switch 15 0x7ff <|
    .case 0x0 (.act decodeExtractFormat4 (.ret .OPC_LDX_B)) <|
    .case 0x8 (.act decodeExtractFormat4 (.ret .OPC_LDX_H)) <|
    .case 0x10 (.act decodeExtractFormat4 (.ret .OPC_LDX_W)) <|
    .case 0x18 (.act decodeExtractFormat4 (.ret .OPC_LDX_D)) <|
    .case 0x20 (.act decodeExtractFormat4 (.ret .OPC_STX_B)) <|
    .case 0x28 (.act decodeExtractFormat4 (.ret .OPC_STX_H)) <|
    .case 0x30 (.act decodeExtractFormat4 (.ret .OPC_STX_W)) <|
    .case 0x38 (.act decodeExtractFormat4 (.ret .OPC_STX_D)) <|
    .case 0x40 (.act decodeExtractFormat4 (.ret .OPC_LDX_BU)) <|
    .case 0x48 (.act decodeExtractFormat4 (.ret .OPC_LDX_HU)) <|
    .case 0x50 (.act decodeExtractFormat4 (.ret .OPC_LDX_WU)) <|
    .case 0x58 (.act decodeExtractFormat38 (.ret .OPC_PRELDX)) <|
    .case 0x60 (.act decodeExtractFormat39 (.ret .OPC_FLDX_S)) <|
    .case 0x68 (.act decodeExtractFormat39 (.ret .OPC_FLDX_D)) <|
    .case 0x70 (.act decodeExtractFormat39 (.ret .OPC_FSTX_S)) <|
    .case 0x78 (.act decodeExtractFormat39 (.ret .OPC_FSTX_D)) <|
    .case 0x80 (.act decodeExtractVrr (.ret .OPC_VLDX)) <|
    .case 0x88 (.act decodeExtractVrr (.ret .OPC_VSTX)) <|
    .case 0xc0 (.act decodeExtractFormat4 (.ret .OPC_AMSWAP_W)) <|
    .case 0xc1 (.act decodeExtractFormat4 (.ret .OPC_AMSWAP_D)) <|
    .case 0xc2 (.act decodeExtractFormat4 (.ret .OPC_AMADD_W)) <|
    .case 0xc3 (.act decodeExtractFormat4 (.ret .OPC_AMADD_D)) <|
    .case 0xc4 (.act decodeExtractFormat4 (.ret .OPC_AMAND_W)) <|
    .case 0xc5 (.act decodeExtractFormat4 (.ret .OPC_AMAND_D)) <|
    .case 0xc6 (.act decodeExtractFormat4 (.ret .OPC_AMOR_W)) <|
    .case 0xc7 (.act decodeExtractFormat4 (.ret .OPC_AMOR_D)) <|
    .case 0xc8 (.act decodeExtractFormat4 (.ret .OPC_AMXOR_W)) <|
    .case 0xc9 (.act decodeExtractFormat4 (.ret .OPC_AMXOR_D)) <|
    .case 0xca (.act decodeExtractFormat4 (.ret .OPC_AMMAX_W)) <|
    .case 0xcb (.act decodeExtractFormat4 (.ret .OPC_AMMAX_D)) <|
    .case 0xcc (.act decodeExtractFormat4 (.ret .OPC_AMMIN_W)) <|
    .case 0xcd (.act decodeExtractFormat4 (.ret .OPC_AMMIN_D)) <|
    .case 0xce (.act decodeExtractFormat4 (.ret .OPC_AMMAX_WU)) <|
    .case 0xcf (.act decodeExtractFormat4 (.ret .OPC_AMMAX_DU)) <|
    .case 0xd0 (.act decodeExtractFormat4 (.ret .OPC_AMMIN_WU)) <|
    .case 0xd1 (.act decodeExtractFormat4 (.ret .OPC_AMMIN_DU)) <|
    .case 0xd2 (.act decodeExtractFormat4 (.ret .OPC_AMSWAP_DB_W)) <|
    .case 0xd3 (.act decodeExtractFormat4 (.ret .OPC_AMSWAP_DB_D)) <|
    .case 0xd4 (.act decodeExtractFormat4 (.ret .OPC_AMADD_DB_W)) <|
    .case 0xd5 (.act decodeExtractFormat4 (.ret .OPC_AMADD_DB_D)) <|
    .case 0xd6 (.act decodeExtractFormat4 (.ret .OPC_AMAND_DB_W)) <|
    .case 0xd7 (.act decodeExtractFormat4 (.ret .OPC_AMAND_DB_D)) <|
    .case 0xd8 (.act decodeExtractFormat4 (.ret .OPC_AMOR_DB_W)) <|
    .case 0xd9 (.act decodeExtractFormat4 (.ret .OPC_AMOR_DB_D)) <|
    .case 0xda (.act decodeExtractFormat4 (.ret .OPC_AMXOR_DB_W)) <|
    .case 0xdb (.act decodeExtractFormat4 (.ret .OPC_AMXOR_DB_D)) <|
    .case 0xdc (.act decodeExtractFormat4 (.ret .OPC_AMMAX_DB_W)) <|
    .case 0xdd (.act decodeExtractFormat4 (.ret .OPC_AMMAX_DB_D)) <|
    .case 0xde (.act decodeExtractFormat4 (.ret .OPC_AMMIN_DB_W)) <|
    .case 0xdf (.act decodeExtractFormat4 (.ret .OPC_AMMIN_DB_D)) <|
    .case 0xe0 (.act decodeExtractFormat4 (.ret .OPC_AMMAX_DB_WU)) <|
    .case 0xe1 (.act decodeExtractFormat4 (.ret .OPC_AMMAX_DB_DU)) <|
    .case 0xe2 (.act decodeExtractFormat4 (.ret .OPC_AMMIN_DB_WU)) <|
    .case 0xe3 (.act decodeExtractFormat4 (.ret .OPC_AMMIN_DB_DU)) <|
    .case 0xe4 (.act decodeExtractFormat40 (.ret .OPC_DBAR)) <|
    .case 0xe5 (.act decodeExtractFormat41 (.ret .OPC_IBAR)) <|
    .case 0xe8 (.act decodeExtractFormat39 (.ret .OPC_FLDGT_S)) <|
    .case 0xe9 (.act decodeExtractFormat39 (.ret .OPC_FLDGT_D)) <|
    .case 0xea (.act decodeExtractFormat39 (.ret .OPC_FLDLE_S)) <|
    .case 0xeb (.act decodeExtractFormat39 (.ret .OPC_FLDLE_D)) <|
    .case 0xec (.act decodeExtractFormat39 (.ret .OPC_FSTGT_S)) <|
    .case 0xed (.act decodeExtractFormat39 (.ret .OPC_FSTGT_D)) <|
    .case 0xee (.act decodeExtractFormat39 (.ret .OPC_FSTLE_S)) <|
    .case 0xef (.act decodeExtractFormat39 (.ret .OPC_FSTLE_D)) <|
    .case 0xf0 (.act decodeExtractFormat4 (.ret .OPC_LDGT_B)) <|
    .case 0xf1 (.act decodeExtractFormat4 (.ret .OPC_LDGT_H)) <|
    .case 0xf2 (.act decodeExtractFormat4 (.ret .OPC_LDGT_W)) <|
    .case 0xf3 (.act decodeExtractFormat4 (.ret .OPC_LDGT_D)) <|
    .case 0xf4 (.act decodeExtractFormat4 (.ret .OPC_LDLE_B)) <|
    .case 0xf5 (.act decodeExtractFormat4 (.ret .OPC_LDLE_H)) <|
    .case 0xf6 (.act decodeExtractFormat4 (.ret .OPC_LDLE_W)) <|
    .case 0xf7 (.act decodeExtractFormat4 (.ret .OPC_LDLE_D)) <|
    .case 0xf8 (.act decodeExtractFormat4 (.ret .OPC_STGT_B)) <|
    .case 0xf9 (.act decodeExtractFormat4 (.ret .OPC_STGT_H)) <|
    .case 0xfa (.act decodeExtractFormat4 (.ret .OPC_STGT_W)) <|
    .case 0xfb (.act decodeExtractFormat4 (.ret .OPC_STGT_D)) <|
    .case 0xfc (.act decodeExtractFormat4 (.ret .OPC_STLE_B)) <|
    .case 0xfd (.act decodeExtractFormat4 (.ret .OPC_STLE_H)) <|
    .case 0xfe (.act decodeExtractFormat4 (.ret .OPC_STLE_W)) <|
    .case 0xff (.act decodeExtractFormat4 (.ret .OPC_STLE_D)) <|
    .done

def decodeCase0x12 : DecodeTree :=
  .switch 8 0x3 <|
    .case 0x0 (.act decodeExtractFormat43 (.ret .OPC_BCEQZ)) <|
    .case 0x1 (.act decodeExtractFormat43 (.ret .OPC_BCNEZ)) <|
    .case 0x2 (.act decodeExtractFormat64 <| .switch 5 0x7 <|
      .case 0x0 (.ret .OPC_JISCR0) <|
      .done) <|
    .case 0x3 (.act decodeExtractFormat64 <| .switch 5 0x7 <|
      .case 0x0 (.ret .OPC_JISCR1) <|
      .done) <|
    .done

def decodeCase0x1c_0xa7 : DecodeTree :=
  .switch 10 0xff <|
    .case 0x0 (.act decodeExtractVv (.ret .OPC_VCLO_B)) <|
    .case 0x1 (.act decodeExtractVv (.ret .OPC_VCLO_H)) <|
    .case 0x2 (.act decodeExtractVv (.ret .OPC_VCLO_W)) <|
    .case 0x3 (.act decodeExtractVv (.ret .OPC_VCLO_D)) <|
    .case 0x4 (.act decodeExtractVv (.ret .OPC_VCLZ_B)) <|
    .case 0x5 (.act decodeExtractVv (.ret .OPC_VCLZ_H)) <|
    .case 0x6 (.act decodeExtractVv (.ret .OPC_VCLZ_W)) <|
    .case 0x7 (.act decodeExtractVv (.ret .OPC_VCLZ_D)) <|
    .case 0x8 (.act decodeExtractVv (.ret .OPC_VPCNT_B)) <|
    .case 0x9 (.act decodeExtractVv (.ret .OPC_VPCNT_H)) <|
    .case 0xa (.act decodeExtractVv (.ret .OPC_VPCNT_W)) <|
    .case 0xb (.act decodeExtractVv (.ret .OPC_VPCNT_D)) <|
    .case 0xc (.act decodeExtractVv (.ret .OPC_VNEG_B)) <|
    .case 0xd (.act decodeExtractVv (.ret .OPC_VNEG_H)) <|
    .case 0xe (.act decodeExtractVv (.ret .OPC_VNEG_W)) <|
    .case 0xf (.act decodeExtractVv (.ret .OPC_VNEG_D)) <|
    .case 0x10 (.act decodeExtractVv (.ret .OPC_VMSKLTZ_B)) <|
    .case 0x11 (.act decodeExtractVv (.ret .OPC_VMSKLTZ_H)) <|
    .case 0x12 (.act decodeExtractVv (.ret .OPC_VMSKLTZ_W)) <|
    .case 0x13 (.act decodeExtractVv (.ret .OPC_VMSKLTZ_D)) <|
    .case 0x14 (.act decodeExtractVv (.ret .OPC_VMSKGEZ_B)) <|
    .case 0x18 (.act decodeExtractVv (.ret .OPC_VMSKNZ_B)) <|
    .case 0x26 (.act decodeExtractCv <| .switch 3 0x3 <|
      .case 0x0 (.ret .OPC_VSETEQZ_V) <|
      .done) <|
    .case 0x27 (.act decodeExtractCv <| .switch 3 0x3 <|
      .case 0x0 (.ret .OPC_VSETNEZ_V) <|
      .done) <|
    .case 0x28 (.act decodeExtractCv <| .switch 3 0x3 <|
      .case 0x0 (.ret .OPC_VSETANYEQZ_B) <|
      .done) <|
    .case 0x29 (.act decodeExtractCv <| .switch 3 0x3 <|
      .case 0x0 (.ret .OPC_VSETANYEQZ_H) <|
      .done) <|
    .case 0x2a (.act decodeExtractCv <| .switch 3 0x3 <|
      .case 0x0 (.ret .OPC_VSETANYEQZ_W) <|
      .done) <|
    .case 0x2b (.act decodeExtractCv <| .switch 3 0x3 <|
      .case 0x0 (.ret .OPC_VSETANYEQZ_D) <|
      .done) <|
    .case 0x2c (.act decodeExtractCv <| .switch 3 0x3 <|
      .case 0x0 (.ret .OPC_VSETALLNEZ_B) <|
      .done) <|
    .case 0x2d (.act decodeExtractCv <| .switch 3 0x3 <|
      .case 0x0 (.ret .OPC_VSETALLNEZ_H) <|
      .done) <|
    .case 0x2e (.act decodeExtractCv <| .switch 3 0x3 <|
      .case 0x0 (.ret .OPC_VSETALLNEZ_W) <|
      .done) <|
    .case 0x2f (.act decodeExtractCv <| .switch 3 0x3 <|
      .case 0x0 (.ret .OPC_VSETALLNEZ_D) <|
      .done) <|
    .case 0x31 (.act decodeExtractVv (.ret .OPC_VFLOGB_S)) <|
    .case 0x32 (.act decodeExtractVv (.ret .OPC_VFLOGB_D)) <|
    .case 0x35 (.act decodeExtractVv (.ret .OPC_VFCLASS_S)) <|
    .case 0x36 (.act decodeExtractVv (.ret .OPC_VFCLASS_D)) <|
    .case 0x39 (.act decodeExtractVv (.ret .OPC_VFSQRT_S)) <|
    .case 0x3a (.act decodeExtractVv (.ret .OPC_VFSQRT_D)) <|
    .case 0x3d (.act decodeExtractVv (.ret .OPC_VFRECIP_S)) <|
    .case 0x3e (.act decodeExtractVv (.ret .OPC_VFRECIP_D)) <|
    .case 0x41 (.act decodeExtractVv (.ret .OPC_VFRSQRT_S)) <|
    .case 0x42 (.act decodeExtractVv (.ret .OPC_VFRSQRT_D)) <|
    .case 0x4d (.act decodeExtractVv (.ret .OPC_VFRINT_S)) <|
    .case 0x4e (.act decodeExtractVv (.ret .OPC_VFRINT_D)) <|
    .case 0x51 (.act decodeExtractVv (.ret .OPC_VFRINTRM_S)) <|
    .case 0x52 (.act decodeExtractVv (.ret .OPC_VFRINTRM_D)) <|
    .case 0x55 (.act decodeExtractVv (.ret .OPC_VFRINTRP_S)) <|
    .case 0x56 (.act decodeExtractVv (.ret .OPC_VFRINTRP_D)) <|
    .case 0x59 (.act decodeExtractVv (.ret .OPC_VFRINTRZ_S)) <|
    .case 0x5a (.act decodeExtractVv (.ret .OPC_VFRINTRZ_D)) <|
    .case 0x5d (.act decodeExtractVv (.ret .OPC_VFRINTRNE_S)) <|
    .case 0x5e (.act decodeExtractVv (.ret .OPC_VFRINTRNE_D)) <|
    .case 0x7a (.act decodeExtractVv (.ret .OPC_VFCVTL_S_H)) <|
    .case 0x7b (.act decodeExtractVv (.ret .OPC_VFCVTH_S_H)) <|
    .case 0x7c (.act decodeExtractVv (.ret .OPC_VFCVTL_D_S)) <|
    .case 0x7d (.act decodeExtractVv (.ret .OPC_VFCVTH_D_S)) <|
    .case 0x80 (.act decodeExtractVv (.ret .OPC_VFFINT_S_W)) <|
    .case 0x81 (.act decodeExtractVv (.ret .OPC_VFFINT_S_WU)) <|
    .case 0x82 (.act decodeExtractVv (.ret .OPC_VFFINT_D_L)) <|
    .case 0x83 (.act decodeExtractVv (.ret .OPC_VFFINT_D_LU)) <|
    .case 0x84 (.act decodeExtractVv (.ret .OPC_VFFINTL_D_W)) <|
    .case 0x85 (.act decodeExtractVv (.ret .OPC_VFFINTH_D_W)) <|
    .case 0x8c (.act decodeExtractVv (.ret .OPC_VFTINT_W_S)) <|
    .case 0x8d (.act decodeExtractVv (.ret .OPC_VFTINT_L_D)) <|
    .case 0x8e (.act decodeExtractVv (.ret .OPC_VFTINTRM_W_S)) <|
    .case 0x8f (.act decodeExtractVv (.ret .OPC_VFTINTRM_L_D)) <|
    .case 0x90 (.act decodeExtractVv (.ret .OPC_VFTINTRP_W_S)) <|
    .case 0x91 (.act decodeExtractVv (.ret .OPC_VFTINTRP_L_D)) <|
    .case 0x92 (.act decodeExtractVv (.ret .OPC_VFTINTRZ_W_S)) <|
    .case 0x93 (.act decodeExtractVv (.ret .OPC_VFTINTRZ_L_D)) <|
    .case 0x94 (.act decodeExtractVv (.ret .OPC_VFTINTRNE_W_S)) <|
    .case 0x95 (.act decodeExtractVv (.ret .OPC_VFTINTRNE_L_D)) <|
    .case 0x96 (.act decodeExtractVv (.ret .OPC_VFTINT_WU_S)) <|
    .case 0x97 (.act decodeExtractVv (.ret .OPC_VFTINT_LU_D)) <|
    .case 0x9c (.act decodeExtractVv (.ret .OPC_VFTINTRZ_WU_S)) <|
    .case 0x9d (.act decodeExtractVv (.ret .OPC_VFTINTRZ_LU_D)) <|
    .case 0xa0 (.act decodeExtractVv (.ret .OPC_VFTINTL_L_S)) <|
    .case 0xa1 (.act decodeExtractVv (.ret .OPC_VFTINTH_L_S)) <|
    .case 0xa2 (.act decodeExtractVv (.ret .OPC_VFTINTRML_L_S)) <|
    .case 0xa3 (.act decodeExtractVv (.ret .OPC_VFTINTRMH_L_S)) <|
    .case 0xa4 (.act decodeExtractVv (.ret .OPC_VFTINTRPL_L_S)) <|
    .case 0xa5 (.act decodeExtractVv (.ret .OPC_VFTINTRPH_L_S)) <|
    .case 0xa6 (.act decodeExtractVv (.ret .OPC_VFTINTRZL_L_S)) <|
    .case 0xa7 (.act decodeExtractVv (.ret .OPC_VFTINTRZH_L_S)) <|
    .case 0xa8 (.act decodeExtractVv (.ret .OPC_VFTINTRNEL_L_S)) <|
    .case 0xa9 (.act decodeExtractVv (.ret .OPC_VFTINTRNEH_L_S)) <|
    .case 0xb8 (.act decodeExtractVv (.ret .OPC_VEXTH_H_B)) <|
    .case 0xb9 (.act decodeExtractVv (.ret .OPC_VEXTH_W_H)) <|
    .case 0xba (.act decodeExtractVv (.ret .OPC_VEXTH_D_W)) <|
    .case 0xbb (.act decodeExtractVv (.ret .OPC_VEXTH_Q_D)) <|
    .case 0xbc (.act decodeExtractVv (.ret .OPC_VEXTH_HU_BU)) <|
    .case 0xbd (.act decodeExtractVv (.ret .OPC_VEXTH_WU_HU)) <|
    .case 0xbe (.act decodeExtractVv (.ret .OPC_VEXTH_DU_WU)) <|
    .case 0xbf (.act decodeExtractVv (.ret .OPC_VEXTH_QU_DU)) <|
    .case 0xc0 (.act decodeExtractVr (.ret .OPC_VREPLGR2VR_B)) <|
    .case 0xc1 (.act decodeExtractVr (.ret .OPC_VREPLGR2VR_H)) <|
    .case 0xc2 (.act decodeExtractVr (.ret .OPC_VREPLGR2VR_W)) <|
    .case 0xc3 (.act decodeExtractVr (.ret .OPC_VREPLGR2VR_D)) <|
    .done

def decodeCase0x1c : DecodeTree :=
  .switch 18 0xff <|
    .case 0x0 (.act decodeExtractVvv <| .switch 15 0x7 <|
      .case 0x0 (.ret .OPC_VSEQ_B) <|
      .case 0x1 (.ret .OPC_VSEQ_H) <|
      .case 0x2 (.ret .OPC_VSEQ_W) <|
      .case 0x3 (.ret .OPC_VSEQ_D) <|
      .case 0x4 (.ret .OPC_VSLE_B) <|
      .case 0x5 (.ret .OPC_VSLE_H) <|
      .case 0x6 (.ret .OPC_VSLE_W) <|
      .case 0x7 (.ret .OPC_VSLE_D) <|
      .done) <|
    .case 0x1 (.act decodeExtractVvv <| .switch 15 0x7 <|
      .case 0x0 (.ret .OPC_VSLE_BU) <|
      .case 0x1 (.ret .OPC_VSLE_HU) <|
      .case 0x2 (.ret .OPC_VSLE_WU) <|
      .case 0x3 (.ret .OPC_VSLE_DU) <|
      .case 0x4 (.ret .OPC_VSLT_B) <|
      .case 0x5 (.ret .OPC_VSLT_H) <|
      .case 0x6 (.ret .OPC_VSLT_W) <|
      .case 0x7 (.ret .OPC_VSLT_D) <|
      .done) <|
    .case 0x2 (.act decodeExtractVvv <| .switch 15 0x7 <|
      .case 0x0 (.ret .OPC_VSLT_BU) <|
      .case 0x1 (.ret .OPC_VSLT_HU) <|
      .case 0x2 (.ret .OPC_VSLT_WU) <|
      .case 0x3 (.ret .OPC_VSLT_DU) <|
      .case 0x4 (.ret .OPC_VADD_B) <|
      .case 0x5 (.ret .OPC_VADD_H) <|
      .case 0x6 (.ret .OPC_VADD_W) <|
      .case 0x7 (.ret .OPC_VADD_D) <|
      .done) <|
    .case 0x3 (.act decodeExtractVvv <| .switch 15 0x7 <|
      .case 0x0 (.ret .OPC_VSUB_B) <|
      .case 0x1 (.ret .OPC_VSUB_H) <|
      .case 0x2 (.ret .OPC_VSUB_W) <|
      .case 0x3 (.ret .OPC_VSUB_D) <|
      .done) <|
    .case 0x7 (.act decodeExtractVvv <| .switch 15 0x7 <|
      .case 0x4 (.ret .OPC_VADDWEV_H_B) <|
      .case 0x5 (.ret .OPC_VADDWEV_W_H) <|
      .case 0x6 (.ret .OPC_VADDWEV_D_W) <|
      .case 0x7 (.ret .OPC_VADDWEV_Q_D) <|
      .done) <|
    .case 0x8 (.act decodeExtractVvv <| .switch 15 0x7 <|
      .case 0x0 (.ret .OPC_VSUBWEV_H_B) <|
      .case 0x1 (.ret .OPC_VSUBWEV_W_H) <|
      .case 0x2 (.ret .OPC_VSUBWEV_D_W) <|
      .case 0x3 (.ret .OPC_VSUBWEV_Q_D) <|
      .case 0x4 (.ret .OPC_VADDWOD_H_B) <|
      .case 0x5 (.ret .OPC_VADDWOD_W_H) <|
      .case 0x6 (.ret .OPC_VADDWOD_D_W) <|
      .case 0x7 (.ret .OPC_VADDWOD_Q_D) <|
      .done) <|
    .case 0x9 (.act decodeExtractVvv <| .switch 15 0x7 <|
      .case 0x0 (.ret .OPC_VSUBWOD_H_B) <|
      .case 0x1 (.ret .OPC_VSUBWOD_W_H) <|
      .case 0x2 (.ret .OPC_VSUBWOD_D_W) <|
      .case 0x3 (.ret .OPC_VSUBWOD_Q_D) <|
      .done) <|
    .case 0xb (.act decodeExtractVvv <| .switch 15 0x7 <|
      .case 0x4 (.ret .OPC_VADDWEV_H_BU) <|
      .case 0x5 (.ret .OPC_VADDWEV_W_HU) <|
      .case 0x6 (.ret .OPC_VADDWEV_D_WU) <|
      .case 0x7 (.ret .OPC_VADDWEV_Q_DU) <|
      .done) <|
    .case 0xc (.act decodeExtractVvv <| .switch 15 0x7 <|
      .case 0x0 (.ret .OPC_VSUBWEV_H_BU) <|
      .case 0x1 (.ret .OPC_VSUBWEV_W_HU) <|
      .case 0x2 (.ret .OPC_VSUBWEV_D_WU) <|
      .case 0x3 (.ret .OPC_VSUBWEV_Q_DU) <|
      .case 0x4 (.ret .OPC_VADDWOD_H_BU) <|
      .case 0x5 (.ret .OPC_VADDWOD_W_HU) <|
      .case 0x6 (.ret .OPC_VADDWOD_D_WU) <|
      .case 0x7 (.ret .OPC_VADDWOD_Q_DU) <|
      .done) <|
    .case 0xd (.act decodeExtractVvv <| .switch 15 0x7 <|
      .case 0x0 (.ret .OPC_VSUBWOD_H_BU) <|
      .case 0x1 (.ret .OPC_VSUBWOD_W_HU) <|
      .case 0x2 (.ret .OPC_VSUBWOD_D_WU) <|
      .case 0x3 (.ret .OPC_VSUBWOD_Q_DU) <|
      .done) <|
    .case 0xf (.act decodeExtractVvv <| .switch 15 0x7 <|
      .case 0x4 (.ret .OPC_VADDWEV_H_BU_B) <|
      .case 0x5 (.ret .OPC_VADDWEV_W_HU_H) <|
      .case 0x6 (.ret .OPC_VADDWEV_D_WU_W) <|
      .case 0x7 (.ret .OPC_VADDWEV_Q_DU_D) <|
      .done) <|
    .case 0x10 (.act decodeExtractVvv <| .switch 15 0x7 <|
      .case 0x0 (.ret .OPC_VADDWOD_H_BU_B) <|
      .case 0x1 (.ret .OPC_VADDWOD_W_HU_H) <|
      .case 0x2 (.ret .OPC_VADDWOD_D_WU_W) <|
      .case 0x3 (.ret .OPC_VADDWOD_Q_DU_D) <|
      .done) <|
    .case 0x11 (.act decodeExtractVvv <| .switch 15 0x7 <|
      .case 0x4 (.ret .OPC_VSADD_B) <|
      .case 0x5 (.ret .OPC_VSADD_H) <|
      .case 0x6 (.ret .OPC_VSADD_W) <|
      .case 0x7 (.ret .OPC_VSADD_D) <|
      .done) <|
    .case 0x12 (.act decodeExtractVvv <| .switch 15 0x7 <|
      .case 0x0 (.ret .OPC_VSSUB_B) <|
      .case 0x1 (.ret .OPC_VSSUB_H) <|
      .case 0x2 (.ret .OPC_VSSUB_W) <|
      .case 0x3 (.ret .OPC_VSSUB_D) <|
      .case 0x4 (.ret .OPC_VSADD_BU) <|
      .case 0x5 (.ret .OPC_VSADD_HU) <|
      .case 0x6 (.ret .OPC_VSADD_WU) <|
      .case 0x7 (.ret .OPC_VSADD_DU) <|
      .done) <|
    .case 0x13 (.act decodeExtractVvv <| .switch 15 0x7 <|
      .case 0x0 (.ret .OPC_VSSUB_BU) <|
      .case 0x1 (.ret .OPC_VSSUB_HU) <|
      .case 0x2 (.ret .OPC_VSSUB_WU) <|
      .case 0x3 (.ret .OPC_VSSUB_DU) <|
      .done) <|
    .case 0x15 (.act decodeExtractVvv <| .switch 15 0x7 <|
      .case 0x0 (.ret .OPC_VHADDW_H_B) <|
      .case 0x1 (.ret .OPC_VHADDW_W_H) <|
      .case 0x2 (.ret .OPC_VHADDW_D_W) <|
      .case 0x3 (.ret .OPC_VHADDW_Q_D) <|
      .case 0x4 (.ret .OPC_VHSUBW_H_B) <|
      .case 0x5 (.ret .OPC_VHSUBW_W_H) <|
      .case 0x6 (.ret .OPC_VHSUBW_D_W) <|
      .case 0x7 (.ret .OPC_VHSUBW_Q_D) <|
      .done) <|
    .case 0x16 (.act decodeExtractVvv <| .switch 15 0x7 <|
      .case 0x0 (.ret .OPC_VHADDW_HU_BU) <|
      .case 0x1 (.ret .OPC_VHADDW_WU_HU) <|
      .case 0x2 (.ret .OPC_VHADDW_DU_WU) <|
      .case 0x3 (.ret .OPC_VHADDW_QU_DU) <|
      .case 0x4 (.ret .OPC_VHSUBW_HU_BU) <|
      .case 0x5 (.ret .OPC_VHSUBW_WU_HU) <|
      .case 0x6 (.ret .OPC_VHSUBW_DU_WU) <|
      .case 0x7 (.ret .OPC_VHSUBW_QU_DU) <|
      .done) <|
    .case 0x17 (.act decodeExtractVvv <| .switch 15 0x7 <|
      .case 0x0 (.ret .OPC_VADDA_B) <|
      .case 0x1 (.ret .OPC_VADDA_H) <|
      .case 0x2 (.ret .OPC_VADDA_W) <|
      .case 0x3 (.ret .OPC_VADDA_D) <|
      .done) <|
    .case 0x18 (.act decodeExtractVvv <| .switch 15 0x7 <|
      .case 0x0 (.ret .OPC_VABSD_B) <|
      .case 0x1 (.ret .OPC_VABSD_H) <|
      .case 0x2 (.ret .OPC_VABSD_W) <|
      .case 0x3 (.ret .OPC_VABSD_D) <|
      .case 0x4 (.ret .OPC_VABSD_BU) <|
      .case 0x5 (.ret .OPC_VABSD_HU) <|
      .case 0x6 (.ret .OPC_VABSD_WU) <|
      .case 0x7 (.ret .OPC_VABSD_DU) <|
      .done) <|
    .case 0x19 (.act decodeExtractVvv <| .switch 15 0x7 <|
      .case 0x0 (.ret .OPC_VAVG_B) <|
      .case 0x1 (.ret .OPC_VAVG_H) <|
      .case 0x2 (.ret .OPC_VAVG_W) <|
      .case 0x3 (.ret .OPC_VAVG_D) <|
      .case 0x4 (.ret .OPC_VAVG_BU) <|
      .case 0x5 (.ret .OPC_VAVG_HU) <|
      .case 0x6 (.ret .OPC_VAVG_WU) <|
      .case 0x7 (.ret .OPC_VAVG_DU) <|
      .done) <|
    .case 0x1a (.act decodeExtractVvv <| .switch 15 0x7 <|
      .case 0x0 (.ret .OPC_VAVGR_B) <|
      .case 0x1 (.ret .OPC_VAVGR_H) <|
      .case 0x2 (.ret .OPC_VAVGR_W) <|
      .case 0x3 (.ret .OPC_VAVGR_D) <|
      .case 0x4 (.ret .OPC_VAVGR_BU) <|
      .case 0x5 (.ret .OPC_VAVGR_HU) <|
      .case 0x6 (.ret .OPC_VAVGR_WU) <|
      .case 0x7 (.ret .OPC_VAVGR_DU) <|
      .done) <|
    .case 0x1c (.act decodeExtractVvv <| .switch 15 0x7 <|
      .case 0x0 (.ret .OPC_VMAX_B) <|
      .case 0x1 (.ret .OPC_VMAX_H) <|
      .case 0x2 (.ret .OPC_VMAX_W) <|
      .case 0x3 (.ret .OPC_VMAX_D) <|
      .case 0x4 (.ret .OPC_VMIN_B) <|
      .case 0x5 (.ret .OPC_VMIN_H) <|
      .case 0x6 (.ret .OPC_VMIN_W) <|
      .case 0x7 (.ret .OPC_VMIN_D) <|
      .done) <|
    .case 0x1d (.act decodeExtractVvv <| .switch 15 0x7 <|
      .case 0x0 (.ret .OPC_VMAX_BU) <|
      .case 0x1 (.ret .OPC_VMAX_HU) <|
      .case 0x2 (.ret .OPC_VMAX_WU) <|
      .case 0x3 (.ret .OPC_VMAX_DU) <|
      .case 0x4 (.ret .OPC_VMIN_BU) <|
      .case 0x5 (.ret .OPC_VMIN_HU) <|
      .case 0x6 (.ret .OPC_VMIN_WU) <|
      .case 0x7 (.ret .OPC_VMIN_DU) <|
      .done) <|
    .case 0x21 (.act decodeExtractVvv <| .switch 15 0x7 <|
      .case 0x0 (.ret .OPC_VMUL_B) <|
      .case 0x1 (.ret .OPC_VMUL_H) <|
      .case 0x2 (.ret .OPC_VMUL_W) <|
      .case 0x3 (.ret .OPC_VMUL_D) <|
      .case 0x4 (.ret .OPC_VMUH_B) <|
      .case 0x5 (.ret .OPC_VMUH_H) <|
      .case 0x6 (.ret .OPC_VMUH_W) <|
      .case 0x7 (.ret .OPC_VMUH_D) <|
      .done) <|
    .case 0x22 (.act decodeExtractVvv <| .switch 15 0x7 <|
      .case 0x0 (.ret .OPC_VMUH_BU) <|
      .case 0x1 (.ret .OPC_VMUH_HU) <|
      .case 0x2 (.ret .OPC_VMUH_WU) <|
      .case 0x3 (.ret .OPC_VMUH_DU) <|
      .done) <|
    .case 0x24 (.act decodeExtractVvv <| .switch 15 0x7 <|
      .case 0x0 (.ret .OPC_VMULWEV_H_B) <|
      .case 0x1 (.ret .OPC_VMULWEV_W_H) <|
      .case 0x2 (.ret .OPC_VMULWEV_D_W) <|
      .case 0x3 (.ret .OPC_VMULWEV_Q_D) <|
      .case 0x4 (.ret .OPC_VMULWOD_H_B) <|
      .case 0x5 (.ret .OPC_VMULWOD_W_H) <|
      .case 0x6 (.ret .OPC_VMULWOD_D_W) <|
      .case 0x7 (.ret .OPC_VMULWOD_Q_D) <|
      .done) <|
    .case 0x26 (.act decodeExtractVvv <| .switch 15 0x7 <|
      .case 0x0 (.ret .OPC_VMULWEV_H_BU) <|
      .case 0x1 (.ret .OPC_VMULWEV_W_HU) <|
      .case 0x2 (.ret .OPC_VMULWEV_D_WU) <|
      .case 0x3 (.ret .OPC_VMULWEV_Q_DU) <|
      .case 0x4 (.ret .OPC_VMULWOD_H_BU) <|
      .case 0x5 (.ret .OPC_VMULWOD_W_HU) <|
      .case 0x6 (.ret .OPC_VMULWOD_D_WU) <|
      .case 0x7 (.ret .OPC_VMULWOD_Q_DU) <|
      .done) <|
    .case 0x28 (.act decodeExtractVvv <| .switch 15 0x7 <|
      .case 0x0 (.ret .OPC_VMULWEV_H_BU_B) <|
      .case 0x1 (.ret .OPC_VMULWEV_W_HU_H) <|
      .case 0x2 (.ret .OPC_VMULWEV_D_WU_W) <|
      .case 0x3 (.ret .OPC_VMULWEV_Q_DU_D) <|
      .case 0x4 (.ret .OPC_VMULWOD_H_BU_B) <|
      .case 0x5 (.ret .OPC_VMULWOD_W_HU_H) <|
      .case 0x6 (.ret .OPC_VMULWOD_D_WU_W) <|
      .case 0x7 (.ret .OPC_VMULWOD_Q_DU_D) <|
      .done) <|
    .case 0x2a (.act decodeExtractVvv <| .switch 15 0x7 <|
      .case 0x0 (.ret .OPC_VMADD_B) <|
      .case 0x1 (.ret .OPC_VMADD_H) <|
      .case 0x2 (.ret .OPC_VMADD_W) <|
      .case 0x3 (.ret .OPC_VMADD_D) <|
      .case 0x4 (.ret .OPC_VMSUB_B) <|
      .case 0x5 (.ret .OPC_VMSUB_H) <|
      .case 0x6 (.ret .OPC_VMSUB_W) <|
      .case 0x7 (.ret .OPC_VMSUB_D) <|
      .done) <|
    .case 0x2b (.act decodeExtractVvv <| .switch 15 0x7 <|
      .case 0x0 (.ret .OPC_VMADDWEV_H_B) <|
      .case 0x1 (.ret .OPC_VMADDWEV_W_H) <|
      .case 0x2 (.ret .OPC_VMADDWEV_D_W) <|
      .case 0x3 (.ret .OPC_VMADDWEV_Q_D) <|
      .case 0x4 (.ret .OPC_VMADDWOD_H_B) <|
      .case 0x5 (.ret .OPC_VMADDWOD_W_H) <|
      .case 0x6 (.ret .OPC_VMADDWOD_D_W) <|
      .case 0x7 (.ret .OPC_VMADDWOD_Q_D) <|
      .done) <|
    .case 0x2d (.act decodeExtractVvv <| .switch 15 0x7 <|
      .case 0x0 (.ret .OPC_VMADDWEV_H_BU) <|
      .case 0x1 (.ret .OPC_VMADDWEV_W_HU) <|
      .case 0x2 (.ret .OPC_VMADDWEV_D_WU) <|
      .case 0x3 (.ret .OPC_VMADDWEV_Q_DU) <|
      .case 0x4 (.ret .OPC_VMADDWOD_H_BU) <|
      .case 0x5 (.ret .OPC_VMADDWOD_W_HU) <|
      .case 0x6 (.ret .OPC_VMADDWOD_D_WU) <|
      .case 0x7 (.ret .OPC_VMADDWOD_Q_DU) <|
      .done) <|
    .case 0x2f (.act decodeExtractVvv <| .switch 15 0x7 <|
      .case 0x0 (.ret .OPC_VMADDWEV_H_BU_B) <|
      .case 0x1 (.ret .OPC_VMADDWEV_W_HU_H) <|
      .case 0x2 (.ret .OPC_VMADDWEV_D_WU_W) <|
      .case 0x3 (.ret .OPC_VMADDWEV_Q_DU_D) <|
      .case 0x4 (.ret .OPC_VMADDWOD_H_BU_B) <|
      .case 0x5 (.ret .OPC_VMADDWOD_W_HU_H) <|
      .case 0x6 (.ret .OPC_VMADDWOD_D_WU_W) <|
      .case 0x7 (.ret .OPC_VMADDWOD_Q_DU_D) <|
      .done) <|
    .case 0x38 (.act decodeExtractVvv <| .switch 15 0x7 <|
      .case 0x0 (.ret .OPC_VDIV_B) <|
      .case 0x1 (.ret .OPC_VDIV_H) <|
      .case 0x2 (.ret .OPC_VDIV_W) <|
      .case 0x3 (.ret .OPC_VDIV_D) <|
      .case 0x4 (.ret .OPC_VMOD_B) <|
      .case 0x5 (.ret .OPC_VMOD_H) <|
      .case 0x6 (.ret .OPC_VMOD_W) <|
      .case 0x7 (.ret .OPC_VMOD_D) <|
      .done) <|
    .case 0x39 (.act decodeExtractVvv <| .switch 15 0x7 <|
      .case 0x0 (.ret .OPC_VDIV_BU) <|
      .case 0x1 (.ret .OPC_VDIV_HU) <|
      .case 0x2 (.ret .OPC_VDIV_WU) <|
      .case 0x3 (.ret .OPC_VDIV_DU) <|
      .case 0x4 (.ret .OPC_VMOD_BU) <|
      .case 0x5 (.ret .OPC_VMOD_HU) <|
      .case 0x6 (.ret .OPC_VMOD_WU) <|
      .case 0x7 (.ret .OPC_VMOD_DU) <|
      .done) <|
    .case 0x3a (.act decodeExtractVvv <| .switch 15 0x7 <|
      .case 0x0 (.ret .OPC_VSLL_B) <|
      .case 0x1 (.ret .OPC_VSLL_H) <|
      .case 0x2 (.ret .OPC_VSLL_W) <|
      .case 0x3 (.ret .OPC_VSLL_D) <|
      .case 0x4 (.ret .OPC_VSRL_B) <|
      .case 0x5 (.ret .OPC_VSRL_H) <|
      .case 0x6 (.ret .OPC_VSRL_W) <|
      .case 0x7 (.ret .OPC_VSRL_D) <|
      .done) <|
    .case 0x3b (.act decodeExtractVvv <| .switch 15 0x7 <|
      .case 0x0 (.ret .OPC_VSRA_B) <|
      .case 0x1 (.ret .OPC_VSRA_H) <|
      .case 0x2 (.ret .OPC_VSRA_W) <|
      .case 0x3 (.ret .OPC_VSRA_D) <|
      .case 0x4 (.ret .OPC_VROTR_B) <|
      .case 0x5 (.ret .OPC_VROTR_H) <|
      .case 0x6 (.ret .OPC_VROTR_W) <|
      .case 0x7 (.ret .OPC_VROTR_D) <|
      .done) <|
    .case 0x3c (.act decodeExtractVvv <| .switch 15 0x7 <|
      .case 0x0 (.ret .OPC_VSRLR_B) <|
      .case 0x1 (.ret .OPC_VSRLR_H) <|
      .case 0x2 (.ret .OPC_VSRLR_W) <|
      .case 0x3 (.ret .OPC_VSRLR_D) <|
      .case 0x4 (.ret .OPC_VSRAR_B) <|
      .case 0x5 (.ret .OPC_VSRAR_H) <|
      .case 0x6 (.ret .OPC_VSRAR_W) <|
      .case 0x7 (.ret .OPC_VSRAR_D) <|
      .done) <|
    .case 0x3d (.act decodeExtractVvv <| .switch 15 0x7 <|
      .case 0x1 (.ret .OPC_VSRLN_B_H) <|
      .case 0x2 (.ret .OPC_VSRLN_H_W) <|
      .case 0x3 (.ret .OPC_VSRLN_W_D) <|
      .case 0x5 (.ret .OPC_VSRAN_B_H) <|
      .case 0x6 (.ret .OPC_VSRAN_H_W) <|
      .case 0x7 (.ret .OPC_VSRAN_W_D) <|
      .done) <|
    .case 0x3e (.act decodeExtractVvv <| .switch 15 0x7 <|
      .case 0x1 (.ret .OPC_VSRLRN_B_H) <|
      .case 0x2 (.ret .OPC_VSRLRN_H_W) <|
      .case 0x3 (.ret .OPC_VSRLRN_W_D) <|
      .case 0x5 (.ret .OPC_VSRARN_B_H) <|
      .case 0x6 (.ret .OPC_VSRARN_H_W) <|
      .case 0x7 (.ret .OPC_VSRARN_W_D) <|
      .done) <|
    .case 0x3f (.act decodeExtractVvv <| .switch 15 0x7 <|
      .case 0x1 (.ret .OPC_VSSRLN_B_H) <|
      .case 0x2 (.ret .OPC_VSSRLN_H_W) <|
      .case 0x3 (.ret .OPC_VSSRLN_W_D) <|
      .case 0x5 (.ret .OPC_VSSRAN_B_H) <|
      .case 0x6 (.ret .OPC_VSSRAN_H_W) <|
      .case 0x7 (.ret .OPC_VSSRAN_W_D) <|
      .done) <|
    .case 0x40 (.act decodeExtractVvv <| .switch 15 0x7 <|
      .case 0x1 (.ret .OPC_VSSRLRN_B_H) <|
      .case 0x2 (.ret .OPC_VSSRLRN_H_W) <|
      .case 0x3 (.ret .OPC_VSSRLRN_W_D) <|
      .case 0x5 (.ret .OPC_VSSRARN_B_H) <|
      .case 0x6 (.ret .OPC_VSSRARN_H_W) <|
      .case 0x7 (.ret .OPC_VSSRARN_W_D) <|
      .done) <|
    .case 0x41 (.act decodeExtractVvv <| .switch 15 0x7 <|
      .case 0x1 (.ret .OPC_VSSRLN_BU_H) <|
      .case 0x2 (.ret .OPC_VSSRLN_HU_W) <|
      .case 0x3 (.ret .OPC_VSSRLN_WU_D) <|
      .case 0x5 (.ret .OPC_VSSRAN_BU_H) <|
      .case 0x6 (.ret .OPC_VSSRAN_HU_W) <|
      .case 0x7 (.ret .OPC_VSSRAN_WU_D) <|
      .done) <|
    .case 0x42 (.act decodeExtractVvv <| .switch 15 0x7 <|
      .case 0x1 (.ret .OPC_VSSRLRN_BU_H) <|
      .case 0x2 (.ret .OPC_VSSRLRN_HU_W) <|
      .case 0x3 (.ret .OPC_VSSRLRN_WU_D) <|
      .case 0x5 (.ret .OPC_VSSRARN_BU_H) <|
      .case 0x6 (.ret .OPC_VSSRARN_HU_W) <|
      .case 0x7 (.ret .OPC_VSSRARN_WU_D) <|
      .done) <|
    .case 0x43 (.act decodeExtractVvv <| .switch 15 0x7 <|
      .case 0x0 (.ret .OPC_VBITCLR_B) <|
      .case 0x1 (.ret .OPC_VBITCLR_H) <|
      .case 0x2 (.ret .OPC_VBITCLR_W) <|
      .case 0x3 (.ret .OPC_VBITCLR_D) <|
      .case 0x4 (.ret .OPC_VBITSET_B) <|
      .case 0x5 (.ret .OPC_VBITSET_H) <|
      .case 0x6 (.ret .OPC_VBITSET_W) <|
      .case 0x7 (.ret .OPC_VBITSET_D) <|
      .done) <|
    .case 0x44 (.act decodeExtractVvv <| .switch 15 0x7 <|
      .case 0x0 (.ret .OPC_VBITREV_B) <|
      .case 0x1 (.ret .OPC_VBITREV_H) <|
      .case 0x2 (.ret .OPC_VBITREV_W) <|
      .case 0x3 (.ret .OPC_VBITREV_D) <|
      .done) <|
    .case 0x45 (.act decodeExtractVvv <| .switch 15 0x7 <|
      .case 0x4 (.ret .OPC_VPACKEV_B) <|
      .case 0x5 (.ret .OPC_VPACKEV_H) <|
      .case 0x6 (.ret .OPC_VPACKEV_W) <|
      .case 0x7 (.ret .OPC_VPACKEV_D) <|
      .done) <|
    .case 0x46 (.act decodeExtractVvv <| .switch 15 0x7 <|
      .case 0x0 (.ret .OPC_VPACKOD_B) <|
      .case 0x1 (.ret .OPC_VPACKOD_H) <|
      .case 0x2 (.ret .OPC_VPACKOD_W) <|
      .case 0x3 (.ret .OPC_VPACKOD_D) <|
      .case 0x4 (.ret .OPC_VILVL_B) <|
      .case 0x5 (.ret .OPC_VILVL_H) <|
      .case 0x6 (.ret .OPC_VILVL_W) <|
      .case 0x7 (.ret .OPC_VILVL_D) <|
      .done) <|
    .case 0x47 (.act decodeExtractVvv <| .switch 15 0x7 <|
      .case 0x0 (.ret .OPC_VILVH_B) <|
      .case 0x1 (.ret .OPC_VILVH_H) <|
      .case 0x2 (.ret .OPC_VILVH_W) <|
      .case 0x3 (.ret .OPC_VILVH_D) <|
      .case 0x4 (.ret .OPC_VPICKEV_B) <|
      .case 0x5 (.ret .OPC_VPICKEV_H) <|
      .case 0x6 (.ret .OPC_VPICKEV_W) <|
      .case 0x7 (.ret .OPC_VPICKEV_D) <|
      .done) <|
    .case 0x48 (.switch 15 0x7 <|
      .case 0x0 (.act decodeExtractVvv (.ret .OPC_VPICKOD_B)) <|
      .case 0x1 (.act decodeExtractVvv (.ret .OPC_VPICKOD_H)) <|
      .case 0x2 (.act decodeExtractVvv (.ret .OPC_VPICKOD_W)) <|
      .case 0x3 (.act decodeExtractVvv (.ret .OPC_VPICKOD_D)) <|
      .case 0x4 (.act decodeExtractVvr (.ret .OPC_VREPLVE_B)) <|
      .case 0x5 (.act decodeExtractVvr (.ret .OPC_VREPLVE_H)) <|
      .case 0x6 (.act decodeExtractVvr (.ret .OPC_VREPLVE_W)) <|
      .case 0x7 (.act decodeExtractVvr (.ret .OPC_VREPLVE_D)) <|
      .done) <|
    .case 0x49 (.act decodeExtractVvv <| .switch 15 0x7 <|
      .case 0x4 (.ret .OPC_VAND_V) <|
      .case 0x5 (.ret .OPC_VOR_V) <|
      .case 0x6 (.ret .OPC_VXOR_V) <|
      .case 0x7 (.ret .OPC_VNOR_V) <|
      .done) <|
    .case 0x4a (.act decodeExtractVvv <| .switch 15 0x7 <|
      .case 0x0 (.ret .OPC_VANDN_V) <|
      .case 0x1 (.ret .OPC_VORN_V) <|
      .case 0x6 (.ret .OPC_VFRSTP_B) <|
      .case 0x7 (.ret .OPC_VFRSTP_H) <|
      .done) <|
    .case 0x4b (.act decodeExtractVvv <| .switch 15 0x7 <|
      .case 0x2 (.ret .OPC_VADD_Q) <|
      .case 0x3 (.ret .OPC_VSUB_Q) <|
      .case 0x4 (.ret .OPC_VSIGNCOV_B) <|
      .case 0x5 (.ret .OPC_VSIGNCOV_H) <|
      .case 0x6 (.ret .OPC_VSIGNCOV_W) <|
      .case 0x7 (.ret .OPC_VSIGNCOV_D) <|
      .done) <|
    .case 0x4c (.act decodeExtractVvv <| .switch 15 0x7 <|
      .case 0x1 (.ret .OPC_VFADD_S) <|
      .case 0x2 (.ret .OPC_VFADD_D) <|
      .case 0x5 (.ret .OPC_VFSUB_S) <|
      .case 0x6 (.ret .OPC_VFSUB_D) <|
      .done) <|
    .case 0x4e (.act decodeExtractVvv <| .switch 15 0x7 <|
      .case 0x1 (.ret .OPC_VFMUL_S) <|
      .case 0x2 (.ret .OPC_VFMUL_D) <|
      .case 0x5 (.ret .OPC_VFDIV_S) <|
      .case 0x6 (.ret .OPC_VFDIV_D) <|
      .done) <|
    .case 0x4f (.act decodeExtractVvv <| .switch 15 0x7 <|
      .case 0x1 (.ret .OPC_VFMAX_S) <|
      .case 0x2 (.ret .OPC_VFMAX_D) <|
      .case 0x5 (.ret .OPC_VFMIN_S) <|
      .case 0x6 (.ret .OPC_VFMIN_D) <|
      .done) <|
    .case 0x50 (.act decodeExtractVvv <| .switch 15 0x7 <|
      .case 0x1 (.ret .OPC_VFMAXA_S) <|
      .case 0x2 (.ret .OPC_VFMAXA_D) <|
      .case 0x5 (.ret .OPC_VFMINA_S) <|
      .case 0x6 (.ret .OPC_VFMINA_D) <|
      .done) <|
    .case 0x51 (.act decodeExtractVvv <| .switch 15 0x7 <|
      .case 0x4 (.ret .OPC_VFCVT_H_S) <|
      .case 0x5 (.ret .OPC_VFCVT_S_D) <|
      .done) <|
    .case 0x52 (.act decodeExtractVvv <| .switch 15 0x7 <|
      .case 0x0 (.ret .OPC_VFFINT_S_L) <|
      .case 0x3 (.ret .OPC_VFTINT_W_D) <|
      .case 0x4 (.ret .OPC_VFTINTRM_W_D) <|
      .case 0x5 (.ret .OPC_VFTINTRP_W_D) <|
      .case 0x6 (.ret .OPC_VFTINTRZ_W_D) <|
      .case 0x7 (.ret .OPC_VFTINTRNE_W_D) <|
      .done) <|
    .case 0x5e (.act decodeExtractVvv <| .switch 15 0x7 <|
      .case 0x5 (.ret .OPC_VSHUF_H) <|
      .case 0x6 (.ret .OPC_VSHUF_W) <|
      .case 0x7 (.ret .OPC_VSHUF_D) <|
      .done) <|
    .case 0xa0 (.act decodeExtractVvI5 <| .switch 15 0x7 <|
      .case 0x0 (.ret .OPC_VSEQI_B) <|
      .case 0x1 (.ret .OPC_VSEQI_H) <|
      .case 0x2 (.ret .OPC_VSEQI_W) <|
      .case 0x3 (.ret .OPC_VSEQI_D) <|
      .case 0x4 (.ret .OPC_VSLEI_B) <|
      .case 0x5 (.ret .OPC_VSLEI_H) <|
      .case 0x6 (.ret .OPC_VSLEI_W) <|
      .case 0x7 (.ret .OPC_VSLEI_D) <|
      .done) <|
    .case 0xa1 (.switch 15 0x7 <|
      .case 0x0 (.act decodeExtractVvUi5 (.ret .OPC_VSLEI_BU)) <|
      .case 0x1 (.act decodeExtractVvUi5 (.ret .OPC_VSLEI_HU)) <|
      .case 0x2 (.act decodeExtractVvUi5 (.ret .OPC_VSLEI_WU)) <|
      .case 0x3 (.act decodeExtractVvUi5 (.ret .OPC_VSLEI_DU)) <|
      .case 0x4 (.act decodeExtractVvI5 (.ret .OPC_VSLTI_B)) <|
      .case 0x5 (.act decodeExtractVvI5 (.ret .OPC_VSLTI_H)) <|
      .case 0x6 (.act decodeExtractVvI5 (.ret .OPC_VSLTI_W)) <|
      .case 0x7 (.act decodeExtractVvI5 (.ret .OPC_VSLTI_D)) <|
      .done) <|
    .case 0xa2 (.act decodeExtractVvUi5 <| .switch 15 0x7 <|
      .case 0x0 (.ret .OPC_VSLTI_BU) <|
      .case 0x1 (.ret .OPC_VSLTI_HU) <|
      .case 0x2 (.ret .OPC_VSLTI_WU) <|
      .case 0x3 (.ret .OPC_VSLTI_DU) <|
      .case 0x4 (.ret .OPC_VADDI_BU) <|
      .case 0x5 (.ret .OPC_VADDI_HU) <|
      .case 0x6 (.ret .OPC_VADDI_WU) <|
      .case 0x7 (.ret .OPC_VADDI_DU) <|
      .done) <|
    .case 0xa3 (.act decodeExtractVvUi5 <| .switch 15 0x7 <|
      .case 0x0 (.ret .OPC_VSUBI_BU) <|
      .case 0x1 (.ret .OPC_VSUBI_HU) <|
      .case 0x2 (.ret .OPC_VSUBI_WU) <|
      .case 0x3 (.ret .OPC_VSUBI_DU) <|
      .case 0x4 (.ret .OPC_VBSLL_V) <|
      .case 0x5 (.ret .OPC_VBSRL_V) <|
      .done) <|
    .case 0xa4 (.act decodeExtractVvI5 <| .switch 15 0x7 <|
      .case 0x0 (.ret .OPC_VMAXI_B) <|
      .case 0x1 (.ret .OPC_VMAXI_H) <|
      .case 0x2 (.ret .OPC_VMAXI_W) <|
      .case 0x3 (.ret .OPC_VMAXI_D) <|
      .case 0x4 (.ret .OPC_VMINI_B) <|
      .case 0x5 (.ret .OPC_VMINI_H) <|
      .case 0x6 (.ret .OPC_VMINI_W) <|
      .case 0x7 (.ret .OPC_VMINI_D) <|
      .done) <|
    .case 0xa5 (.act decodeExtractVvUi5 <| .switch 15 0x7 <|
      .case 0x0 (.ret .OPC_VMAXI_BU) <|
      .case 0x1 (.ret .OPC_VMAXI_HU) <|
      .case 0x2 (.ret .OPC_VMAXI_WU) <|
      .case 0x3 (.ret .OPC_VMAXI_DU) <|
      .case 0x4 (.ret .OPC_VMINI_BU) <|
      .case 0x5 (.ret .OPC_VMINI_HU) <|
      .case 0x6 (.ret .OPC_VMINI_WU) <|
      .case 0x7 (.ret .OPC_VMINI_DU) <|
      .done) <|
    .case 0xa6 (.act decodeExtractVvUi5 <| .switch 15 0x7 <|
      .case 0x4 (.ret .OPC_VFRSTPI_B) <|
      .case 0x5 (.ret .OPC_VFRSTPI_H) <|
      .done) <|
    .case 0xa7 decodeCase0x1c_0xa7 <|
    .case 0xa8 (.switch 16 0x3 <|
      .case 0x0 (.switch 15 0x1 <|
        .case 0x0 (.switch 14 0x1 <|
          .case 0x0 (.act decodeExtractVvUi3 <| .switch 13 0x1 <|
            .case 0x1 (.ret .OPC_VROTRI_B) <|
            .done) <|
          .case 0x1 (.act decodeExtractVvUi4 (.ret .OPC_VROTRI_H)) <|
          .done) <|
        .case 0x1 (.act decodeExtractVvUi5 (.ret .OPC_VROTRI_W)) <|
        .done) <|
      .case 0x1 (.act decodeExtractVvUi6 (.ret .OPC_VROTRI_D)) <|
      .done) <|
    .case 0xa9 (.switch 16 0x3 <|
      .case 0x0 (.switch 15 0x1 <|
        .case 0x0 (.switch 14 0x1 <|
          .case 0x0 (.act decodeExtractVvUi3 <| .switch 13 0x1 <|
            .case 0x1 (.ret .OPC_VSRLRI_B) <|
            .done) <|
          .case 0x1 (.act decodeExtractVvUi4 (.ret .OPC_VSRLRI_H)) <|
          .done) <|
        .case 0x1 (.act decodeExtractVvUi5 (.ret .OPC_VSRLRI_W)) <|
        .done) <|
      .case 0x1 (.act decodeExtractVvUi6 (.ret .OPC_VSRLRI_D)) <|
      .done) <|
    .case 0xaa (.switch 16 0x3 <|
      .case 0x0 (.switch 15 0x1 <|
        .case 0x0 (.switch 14 0x1 <|
          .case 0x0 (.act decodeExtractVvUi3 <| .switch 13 0x1 <|
            .case 0x1 (.ret .OPC_VSRARI_B) <|
            .done) <|
          .case 0x1 (.act decodeExtractVvUi4 (.ret .OPC_VSRARI_H)) <|
          .done) <|
        .case 0x1 (.act decodeExtractVvUi5 (.ret .OPC_VSRARI_W)) <|
        .done) <|
      .case 0x1 (.act decodeExtractVvUi6 (.ret .OPC_VSRARI_D)) <|
      .done) <|
    .case 0xba (.switch 14 0xf <|
      .case 0xe (.act decodeExtractVrUi4 (.ret .OPC_VINSGR2VR_B)) <|
      .case 0xf (.switch 13 0x1 <|
        .case 0x0 (.act decodeExtractVrUi3 (.ret .OPC_VINSGR2VR_H)) <|
        .case 0x1 (.switch 12 0x1 <|
          .case 0x0 (.act decodeExtractVrUi2 (.ret .OPC_VINSGR2VR_W)) <|
          .case 0x1 (.act decodeExtractVrUi1 <| .switch 11 0x1 <|
            .case 0x0 (.ret .OPC_VINSGR2VR_D) <|
            .done) <|
          .done) <|
        .done) <|
      .done) <|
    .case 0xbb (.switch 14 0xf <|
      .case 0xe (.act decodeExtractRvUi4 (.ret .OPC_VPICKVE2GR_B)) <|
      .case 0xf (.switch 13 0x1 <|
        .case 0x0 (.act decodeExtractRvUi3 (.ret .OPC_VPICKVE2GR_H)) <|
        .case 0x1 (.switch 12 0x1 <|
          .case 0x0 (.act decodeExtractRvUi2 (.ret .OPC_VPICKVE2GR_W)) <|
          .case 0x1 (.act decodeExtractRvUi1 <| .switch 11 0x1 <|
            .case 0x0 (.ret .OPC_VPICKVE2GR_D) <|
            .done) <|
          .done) <|
        .done) <|
      .done) <|
    .case 0xbc (.switch 14 0xf <|
      .case 0xe (.act decodeExtractRvUi4 (.ret .OPC_VPICKVE2GR_BU)) <|
      .case 0xf (.switch 13 0x1 <|
        .case 0x0 (.act decodeExtractRvUi3 (.ret .OPC_VPICKVE2GR_HU)) <|
        .case 0x1 (.switch 12 0x1 <|
          .case 0x0 (.act decodeExtractRvUi2 (.ret .OPC_VPICKVE2GR_WU)) <|
          .case 0x1 (.act decodeExtractRvUi1 <| .switch 11 0x1 <|
            .case 0x0 (.ret .OPC_VPICKVE2GR_DU) <|
            .done) <|
          .done) <|
        .done) <|
      .done) <|
    .case 0xbd (.switch 14 0xf <|
      .case 0xe (.act decodeExtractVvUi4 (.ret .OPC_VREPLVEI_B)) <|
      .case 0xf (.switch 13 0x1 <|
        .case 0x0 (.act decodeExtractVvUi3 (.ret .OPC_VREPLVEI_H)) <|
        .case 0x1 (.switch 12 0x1 <|
          .case 0x0 (.act decodeExtractVvUi2 (.ret .OPC_VREPLVEI_W)) <|
          .case 0x1 (.act decodeExtractVvUi1 <| .switch 11 0x1 <|
            .case 0x0 (.ret .OPC_VREPLVEI_D) <|
            .done) <|
          .done) <|
        .done) <|
      .done) <|
    .case 0xc2 (.switch 15 0x7 <|
      .case 0x0 (.switch 14 0x1 <|
        .case 0x0 (.act decodeExtractVvUi3 <| .switch 13 0x1 <|
          .case 0x1 (.ret .OPC_VSLLWIL_H_B) <|
          .done) <|
        .case 0x1 (.act decodeExtractVvUi4 (.ret .OPC_VSLLWIL_W_H)) <|
        .done) <|
      .case 0x1 (.act decodeExtractVvUi5 (.ret .OPC_VSLLWIL_D_W)) <|
      .case 0x2 (.act decodeExtractVv <| .switch 10 0x1f <|
        .case 0x0 (.ret .OPC_VEXTL_Q_D) <|
        .done) <|
      .done) <|
    .case 0xc3 (.switch 15 0x7 <|
      .case 0x0 (.switch 14 0x1 <|
        .case 0x0 (.act decodeExtractVvUi3 <| .switch 13 0x1 <|
          .case 0x1 (.ret .OPC_VSLLWIL_HU_BU) <|
          .done) <|
        .case 0x1 (.act decodeExtractVvUi4 (.ret .OPC_VSLLWIL_WU_HU)) <|
        .done) <|
      .case 0x1 (.act decodeExtractVvUi5 (.ret .OPC_VSLLWIL_DU_WU)) <|
      .case 0x2 (.act decodeExtractVv <| .switch 10 0x1f <|
        .case 0x0 (.ret .OPC_VEXTL_QU_DU) <|
        .done) <|
      .done) <|
    .case 0xc4 (.switch 16 0x3 <|
      .case 0x0 (.switch 15 0x1 <|
        .case 0x0 (.switch 14 0x1 <|
          .case 0x0 (.act decodeExtractVvUi3 <| .switch 13 0x1 <|
            .case 0x1 (.ret .OPC_VBITCLRI_B) <|
            .done) <|
          .case 0x1 (.act decodeExtractVvUi4 (.ret .OPC_VBITCLRI_H)) <|
          .done) <|
        .case 0x1 (.act decodeExtractVvUi5 (.ret .OPC_VBITCLRI_W)) <|
        .done) <|
      .case 0x1 (.act decodeExtractVvUi6 (.ret .OPC_VBITCLRI_D)) <|
      .done) <|
    .case 0xc5 (.switch 16 0x3 <|
      .case 0x0 (.switch 15 0x1 <|
        .case 0x0 (.switch 14 0x1 <|
          .case 0x0 (.act decodeExtractVvUi3 <| .switch 13 0x1 <|
            .case 0x1 (.ret .OPC_VBITSETI_B) <|
            .done) <|
          .case 0x1 (.act decodeExtractVvUi4 (.ret .OPC_VBITSETI_H)) <|
          .done) <|
        .case 0x1 (.act decodeExtractVvUi5 (.ret .OPC_VBITSETI_W)) <|
        .done) <|
      .case 0x1 (.act decodeExtractVvUi6 (.ret .OPC_VBITSETI_D)) <|
      .done) <|
    .case 0xc6 (.switch 16 0x3 <|
      .case 0x0 (.switch 15 0x1 <|
        .case 0x0 (.switch 14 0x1 <|
          .case 0x0 (.act decodeExtractVvUi3 <| .switch 13 0x1 <|
            .case 0x1 (.ret .OPC_VBITREVI_B) <|
            .done) <|
          .case 0x1 (.act decodeExtractVvUi4 (.ret .OPC_VBITREVI_H)) <|
          .done) <|
        .case 0x1 (.act decodeExtractVvUi5 (.ret .OPC_VBITREVI_W)) <|
        .done) <|
      .case 0x1 (.act decodeExtractVvUi6 (.ret .OPC_VBITREVI_D)) <|
      .done) <|
    .case 0xc9 (.switch 16 0x3 <|
      .case 0x0 (.switch 15 0x1 <|
        .case 0x0 (.switch 14 0x1 <|
          .case 0x0 (.act decodeExtractVvUi3 <| .switch 13 0x1 <|
            .case 0x1 (.ret .OPC_VSAT_B) <|
            .done) <|
          .case 0x1 (.act decodeExtractVvUi4 (.ret .OPC_VSAT_H)) <|
          .done) <|
        .case 0x1 (.act decodeExtractVvUi5 (.ret .OPC_VSAT_W)) <|
        .done) <|
      .case 0x1 (.act decodeExtractVvUi6 (.ret .OPC_VSAT_D)) <|
      .done) <|
    .case 0xca (.switch 16 0x3 <|
      .case 0x0 (.switch 15 0x1 <|
        .case 0x0 (.switch 14 0x1 <|
          .case 0x0 (.act decodeExtractVvUi3 <| .switch 13 0x1 <|
            .case 0x1 (.ret .OPC_VSAT_BU) <|
            .done) <|
          .case 0x1 (.act decodeExtractVvUi4 (.ret .OPC_VSAT_HU)) <|
          .done) <|
        .case 0x1 (.act decodeExtractVvUi5 (.ret .OPC_VSAT_WU)) <|
        .done) <|
      .case 0x1 (.act decodeExtractVvUi6 (.ret .OPC_VSAT_DU)) <|
      .done) <|
    .case 0xcb (.switch 16 0x3 <|
      .case 0x0 (.switch 15 0x1 <|
        .case 0x0 (.switch 14 0x1 <|
          .case 0x0 (.act decodeExtractVvUi3 <| .switch 13 0x1 <|
            .case 0x1 (.ret .OPC_VSLLI_B) <|
            .done) <|
          .case 0x1 (.act decodeExtractVvUi4 (.ret .OPC_VSLLI_H)) <|
          .done) <|
        .case 0x1 (.act decodeExtractVvUi5 (.ret .OPC_VSLLI_W)) <|
        .done) <|
      .case 0x1 (.act decodeExtractVvUi6 (.ret .OPC_VSLLI_D)) <|
      .done) <|
    .case 0xcc (.switch 16 0x3 <|
      .case 0x0 (.switch 15 0x1 <|
        .case 0x0 (.switch 14 0x1 <|
          .case 0x0 (.act decodeExtractVvUi3 <| .switch 13 0x1 <|
            .case 0x1 (.ret .OPC_VSRLI_B) <|
            .done) <|
          .case 0x1 (.act decodeExtractVvUi4 (.ret .OPC_VSRLI_H)) <|
          .done) <|
        .case 0x1 (.act decodeExtractVvUi5 (.ret .OPC_VSRLI_W)) <|
        .done) <|
      .case 0x1 (.act decodeExtractVvUi6 (.ret .OPC_VSRLI_D)) <|
      .done) <|
    .case 0xcd (.switch 16 0x3 <|
      .case 0x0 (.switch 15 0x1 <|
        .case 0x0 (.switch 14 0x1 <|
          .case 0x0 (.act decodeExtractVvUi3 <| .switch 13 0x1 <|
            .case 0x1 (.ret .OPC_VSRAI_B) <|
            .done) <|
          .case 0x1 (.act decodeExtractVvUi4 (.ret .OPC_VSRAI_H)) <|
          .done) <|
        .case 0x1 (.act decodeExtractVvUi5 (.ret .OPC_VSRAI_W)) <|
        .done) <|
      .case 0x1 (.act decodeExtractVvUi6 (.ret .OPC_VSRAI_D)) <|
      .done) <|
    .case 0xd0 (.switch 17 0x1 <|
      .case 0x0 (.switch 16 0x1 <|
        .case 0x0 (.switch 15 0x1 <|
          .case 0x0 (.act decodeExtractVvUi4 <| .switch 14 0x1 <|
            .case 0x1 (.ret .OPC_VSRLNI_B_H) <|
            .done) <|
          .case 0x1 (.act decodeExtractVvUi5 (.ret .OPC_VSRLNI_H_W)) <|
          .done) <|
        .case 0x1 (.act decodeExtractVvUi6 (.ret .OPC_VSRLNI_W_D)) <|
        .done) <|
      .case 0x1 (.act decodeExtractVvUi7 (.ret .OPC_VSRLNI_D_Q)) <|
      .done) <|
    .case 0xd1 (.switch 17 0x1 <|
      .case 0x0 (.switch 16 0x1 <|
        .case 0x0 (.switch 15 0x1 <|
          .case 0x0 (.act decodeExtractVvUi4 <| .switch 14 0x1 <|
            .case 0x1 (.ret .OPC_VSRLRNI_B_H) <|
            .done) <|
          .case 0x1 (.act decodeExtractVvUi5 (.ret .OPC_VSRLRNI_H_W)) <|
          .done) <|
        .case 0x1 (.act decodeExtractVvUi6 (.ret .OPC_VSRLRNI_W_D)) <|
        .done) <|
      .case 0x1 (.act decodeExtractVvUi7 (.ret .OPC_VSRLRNI_D_Q)) <|
      .done) <|
    .case 0xd2 (.switch 17 0x1 <|
      .case 0x0 (.switch 16 0x1 <|
        .case 0x0 (.switch 15 0x1 <|
          .case 0x0 (.act decodeExtractVvUi4 <| .switch 14 0x1 <|
            .case 0x1 (.ret .OPC_VSSRLNI_B_H) <|
            .done) <|
          .case 0x1 (.act decodeExtractVvUi5 (.ret .OPC_VSSRLNI_H_W)) <|
          .done) <|
        .case 0x1 (.act decodeExtractVvUi6 (.ret .OPC_VSSRLNI_W_D)) <|
        .done) <|
      .case 0x1 (.act decodeExtractVvUi7 (.ret .OPC_VSSRLNI_D_Q)) <|
      .done) <|
    .case 0xd3 (.switch 17 0x1 <|
      .case 0x0 (.switch 16 0x1 <|
        .case 0x0 (.switch 15 0x1 <|
          .case 0x0 (.act decodeExtractVvUi4 <| .switch 14 0x1 <|
            .case 0x1 (.ret .OPC_VSSRLNI_BU_H) <|
            .done) <|
          .case 0x1 (.act decodeExtractVvUi5 (.ret .OPC_VSSRLNI_HU_W)) <|
          .done) <|
        .case 0x1 (.act decodeExtractVvUi6 (.ret .OPC_VSSRLNI_WU_D)) <|
        .done) <|
      .case 0x1 (.act decodeExtractVvUi7 (.ret .OPC_VSSRLNI_DU_Q)) <|
      .done) <|
    .case 0xd4 (.switch 17 0x1 <|
      .case 0x0 (.switch 16 0x1 <|
        .case 0x0 (.switch 15 0x1 <|
          .case 0x0 (.act decodeExtractVvUi4 <| .switch 14 0x1 <|
            .case 0x1 (.ret .OPC_VSSRLRNI_B_H) <|
            .done) <|
          .case 0x1 (.act decodeExtractVvUi5 (.ret .OPC_VSSRLRNI_H_W)) <|
          .done) <|
        .case 0x1 (.act decodeExtractVvUi6 (.ret .OPC_VSSRLRNI_W_D)) <|
        .done) <|
      .case 0x1 (.act decodeExtractVvUi7 (.ret .OPC_VSSRLRNI_D_Q)) <|
      .done) <|
    .case 0xd5 (.switch 17 0x1 <|
      .case 0x0 (.switch 16 0x1 <|
        .case 0x0 (.switch 15 0x1 <|
          .case 0x0 (.act decodeExtractVvUi4 <| .switch 14 0x1 <|
            .case 0x1 (.ret .OPC_VSSRLRNI_BU_H) <|
            .done) <|
          .case 0x1 (.act decodeExtractVvUi5 (.ret .OPC_VSSRLRNI_HU_W)) <|
          .done) <|
        .case 0x1 (.act decodeExtractVvUi6 (.ret .OPC_VSSRLRNI_WU_D)) <|
        .done) <|
      .case 0x1 (.act decodeExtractVvUi7 (.ret .OPC_VSSRLRNI_DU_Q)) <|
      .done) <|
    .case 0xd6 (.switch 17 0x1 <|
      .case 0x0 (.switch 16 0x1 <|
        .case 0x0 (.switch 15 0x1 <|
          .case 0x0 (.act decodeExtractVvUi4 <| .switch 14 0x1 <|
            .case 0x1 (.ret .OPC_VSRANI_B_H) <|
            .done) <|
          .case 0x1 (.act decodeExtractVvUi5 (.ret .OPC_VSRANI_H_W)) <|
          .done) <|
        .case 0x1 (.act decodeExtractVvUi6 (.ret .OPC_VSRANI_W_D)) <|
        .done) <|
      .case 0x1 (.act decodeExtractVvUi7 (.ret .OPC_VSRANI_D_Q)) <|
      .done) <|
    .case 0xd7 (.switch 17 0x1 <|
      .case 0x0 (.switch 16 0x1 <|
        .case 0x0 (.switch 15 0x1 <|
          .case 0x0 (.act decodeExtractVvUi4 <| .switch 14 0x1 <|
            .case 0x1 (.ret .OPC_VSRARNI_B_H) <|
            .done) <|
          .case 0x1 (.act decodeExtractVvUi5 (.ret .OPC_VSRARNI_H_W)) <|
          .done) <|
        .case 0x1 (.act decodeExtractVvUi6 (.ret .OPC_VSRARNI_W_D)) <|
        .done) <|
      .case 0x1 (.act decodeExtractVvUi7 (.ret .OPC_VSRARNI_D_Q)) <|
      .done) <|
    .case 0xd8 (.switch 17 0x1 <|
      .case 0x0 (.switch 16 0x1 <|
        .case 0x0 (.switch 15 0x1 <|
          .case 0x0 (.act decodeExtractVvUi4 <| .switch 14 0x1 <|
            .case 0x1 (.ret .OPC_VSSRANI_B_H) <|
            .done) <|
          .case 0x1 (.act decodeExtractVvUi5 (.ret .OPC_VSSRANI_H_W)) <|
          .done) <|
        .case 0x1 (.act decodeExtractVvUi6 (.ret .OPC_VSSRANI_W_D)) <|
        .done) <|
      .case 0x1 (.act decodeExtractVvUi7 (.ret .OPC_VSSRANI_D_Q)) <|
      .done) <|
    .case 0xd9 (.switch 17 0x1 <|
      .case 0x0 (.switch 16 0x1 <|
        .case 0x0 (.switch 15 0x1 <|
          .case 0x0 (.act decodeExtractVvUi4 <| .switch 14 0x1 <|
            .case 0x1 (.ret .OPC_VSSRANI_BU_H) <|
            .done) <|
          .case 0x1 (.act decodeExtractVvUi5 (.ret .OPC_VSSRANI_HU_W)) <|
          .done) <|
        .case 0x1 (.act decodeExtractVvUi6 (.ret .OPC_VSSRANI_WU_D)) <|
        .done) <|
      .case 0x1 (.act decodeExtractVvUi7 (.ret .OPC_VSSRANI_DU_Q)) <|
      .done) <|
    .case 0xda (.switch 17 0x1 <|
      .case 0x0 (.switch 16 0x1 <|
        .case 0x0 (.switch 15 0x1 <|
          .case 0x0 (.act decodeExtractVvUi4 <| .switch 14 0x1 <|
            .case 0x1 (.ret .OPC_VSSRARNI_B_H) <|
            .done) <|
          .case 0x1 (.act decodeExtractVvUi5 (.ret .OPC_VSSRARNI_H_W)) <|
          .done) <|
        .case 0x1 (.act decodeExtractVvUi6 (.ret .OPC_VSSRARNI_W_D)) <|
        .done) <|
      .case 0x1 (.act decodeExtractVvUi7 (.ret .OPC_VSSRARNI_D_Q)) <|
      .done) <|
    .case 0xdb (.switch 17 0x1 <|
      .case 0x0 (.switch 16 0x1 <|
        .case 0x0 (.switch 15 0x1 <|
          .case 0x0 (.act decodeExtractVvUi4 <| .switch 14 0x1 <|
            .case 0x1 (.ret .OPC_VSSRARNI_BU_H) <|
            .done) <|
          .case 0x1 (.act decodeExtractVvUi5 (.ret .OPC_VSSRARNI_HU_W)) <|
          .done) <|
        .case 0x1 (.act decodeExtractVvUi6 (.ret .OPC_VSSRARNI_WU_D)) <|
        .done) <|
      .case 0x1 (.act decodeExtractVvUi7 (.ret .OPC_VSSRARNI_DU_Q)) <|
      .done) <|
    .case 0xe0 (.act decodeExtractVvUi8 (.ret .OPC_VEXTRINS_D)) <|
    .case 0xe1 (.act decodeExtractVvUi8 (.ret .OPC_VEXTRINS_W)) <|
    .case 0xe2 (.act decodeExtractVvUi8 (.ret .OPC_VEXTRINS_H)) <|
    .case 0xe3 (.act decodeExtractVvUi8 (.ret .OPC_VEXTRINS_B)) <|
    .case 0xe4 (.act decodeExtractVvUi8 (.ret .OPC_VSHUF4I_B)) <|
    .case 0xe5 (.act decodeExtractVvUi8 (.ret .OPC_VSHUF4I_H)) <|
    .case 0xe6 (.act decodeExtractVvUi8 (.ret .OPC_VSHUF4I_W)) <|
    .case 0xe7 (.act decodeExtractVvUi8 (.ret .OPC_VSHUF4I_D)) <|
    .case 0xf1 (.act decodeExtractVvUi8 (.ret .OPC_VBITSELI_B)) <|
    .case 0xf4 (.act decodeExtractVvUi8 (.ret .OPC_VANDI_B)) <|
    .case 0xf5 (.act decodeExtractVvUi8 (.ret .OPC_VORI_B)) <|
    .case 0xf6 (.act decodeExtractVvUi8 (.ret .OPC_VXORI_B)) <|
    .case 0xf7 (.act decodeExtractVvUi8 (.ret .OPC_VNORI_B)) <|
    .case 0xf8 (.act decodeExtractVI13 (.ret .OPC_VLDI)) <|
    .case 0xf9 (.act decodeExtractVvUi8 (.ret .OPC_VPERMI_W)) <|
    .done

/-- The nested `switch` statements of `decode`. -/
def decodeTree : DecodeTree :=
  .switch 26 0x3f <|
    .case 0x0 decodeCase0x0 <|
    .case 0x1 decodeCase0x1 <|
    .case 0x2 decodeCase0x2 <|
    .case 0x3 decodeCase0x3 <|
    .case 0x4 (.act decodeExtractFormat33 (.ret .OPC_ADDU16I_D)) <|
    .case 0x5 (.act decodeExtractFormat34 <| .switch 25 0x1 <|
      .case 0x0 (.ret .OPC_LU12I_W) <|
      .case 0x1 (.ret .OPC_LU32I_D) <|
      .done) <|
    .case 0x6 (.act decodeExtractFormat34 <| .switch 25 0x1 <|
      .case 0x0 (.ret .OPC_PCADDI) <|
      .case 0x1 (.ret .OPC_PCALAU12I) <|
      .done) <|
    .case 0x7 (.act decodeExtractFormat34 <| .switch 25 0x1 <|
      .case 0x0 (.ret .OPC_PCADDU12I) <|
      .case 0x1 (.ret .OPC_PCADDU18I) <|
      .done) <|
    .case 0x8 decodeCase0x8 <|
    .case 0x9 decodeCase0x9 <|
    .case 0xa decodeCase0xa <|
    .case 0xb decodeCase0xb <|
    .case 0xc decodeCase0xc <|
    .case 0xe decodeCase0xe <|
    .case 0x10 (.act decodeExtractFormat42 (.ret .OPC_BEQZ)) <|
    .case 0x11 (.act decodeExtractFormat42 (.ret .OPC_BNEZ)) <|
    .case 0x12 decodeCase0x12 <|
    .case 0x13 (.act decodeExtractFormat44 (.ret .OPC_JIRL)) <|
    .case 0x14 (.act decodeExtractFormat45 (.ret .OPC_B)) <|
    .case 0x15 (.act decodeExtractFormat45 (.ret .OPC_BL)) <|
    .case 0x16 (.act decodeExtractFormat44 (.ret .OPC_BEQ)) <|
    .case 0x17 (.act decodeExtractFormat44 (.ret .OPC_BNE)) <|
    .case 0x18 (.act decodeExtractFormat44 (.ret .OPC_BLT)) <|
    .case 0x19 (.act decodeExtractFormat44 (.ret .OPC_BGE)) <|
    .case 0x1a (.act decodeExtractFormat44 (.ret .OPC_BLTU)) <|
    .case 0x1b (.act decodeExtractFormat44 (.ret .OPC_BGEU)) <|
    .case 0x1c decodeCase0x1c <|
    .done

/-- `decode`: the instruction with the operands met on the way, and whether an opcode was
found. -/
def decode (info : LoongArchInsInfo) (insn : BitVec 32) : Bool × LoongArchInsInfo :=
  let (extracts, result) := decodeTree.run insn
  let info := extracts.foldl (fun info ops => decodeExtract ops info insn) info
  match result with
  | some opc => (true, { info with opc := opc })
  | none => (false, info)

end AotOpt
