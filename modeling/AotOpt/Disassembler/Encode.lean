import AotOpt.Disassembler.Decode

/-!
# Encoding

`encode` of `Disassembler/disassembler.cpp`: the base word of the opcode (`opc2bin`), into
which the `encode_encode_*` function of the opcode's format (`insn2format`, `encodefuncs`)
writes the operand fields.
-/

namespace AotOpt

/-! ### Writing a field of an instruction word -/

/-- `encode32`. -/
def encode32 (pinsn : BitVec 32) (field : BitVec 32) (b : Bits) : BitVec 32 :=
  let mask := (1#32 <<< b.length) - 1
  pinsn ||| ((field &&& mask) <<< b.start)

/-- The loop of `encode32_muti_field`. -/
def encode32MutiFieldLoop (pinsn : BitVec 32) (field : BitVec 32) : List Bits → BitVec 32
  | [] => pinsn
  | b :: bs =>
    let mask := (1#32 <<< b.length) - 1
    encode32MutiFieldLoop (encode32 pinsn (field &&& mask) b) (field >>> b.length) bs

/-- `encode32_muti_field`. -/
def encode32MutiField (pinsn : BitVec 32) (field : BitVec 32) (startAndLen : List Bits) : BitVec 32 :=
  let totalLen := (startAndLen.map (·.length)).sum
  let mask := (1#32 <<< totalLen) - 1
  encode32MutiFieldLoop pinsn (field &&& mask) startAndLen

/-- A call of an `encode_encode_*` function. -/
inductive Pack where
  /-- `encode32(pinsn, info->f, start, len)`. -/
  | field (f : Field) (b : Bits)
  /-- `encode32_muti_field(pinsn, info->f, start_and_len, size)`. -/
  | multi (f : Field) (startAndLen : List Bits)
  deriving DecidableEq

/-- What the call makes of the word. -/
def Pack.run (info : LoongArchInsInfo) (pinsn : BitVec 32) : Pack → BitVec 32
  | .field f b => encode32 pinsn (info.read f) b
  | .multi f bs => encode32MutiField pinsn (info.read f) bs

/-! ### The formats -/

def encodeEncodeCv : List Pack := [.field (.lsxSrc 0) (.of 5 5), .field .dstCfreg (.of 0 3)]

def encodeEncodeFormat0 : List Pack := [.field .dstReg (.of 0 5), .field (.srcsRegs 0) (.of 5 5)]

def encodeEncodeFormat1 : List Pack :=
  [.field (.srcsRegs 0) (.of 5 5), .field (.srcsRegs 1) (.of 10 5)]

def encodeEncodeFormat10 : List Pack :=
  [.field .dstFreg (.of 0 5), .field (.srcsFregs 0) (.of 5 5), .field (.srcsFregs 1) (.of 10 5)]

def encodeEncodeFormat11 : List Pack :=
  [.field .dstFreg (.of 0 5), .field (.srcsFregs 0) (.of 5 5)]

def encodeEncodeFormat12 : List Pack :=
  [.field .dstFreg (.of 0 5), .field (.srcsRegs 0) (.of 5 5)]

def encodeEncodeFormat13 : List Pack :=
  [.field .dstReg (.of 0 5), .field (.srcsFregs 0) (.of 5 5)]

def encodeEncodeFormat14 : List Pack :=
  [.field .dstFcsr (.of 0 5), .field (.srcsRegs 0) (.of 5 5)]

def encodeEncodeFormat15 : List Pack :=
  [.field .dstReg (.of 0 5), .field (.srcsFcsrregs 0) (.of 5 5)]

def encodeEncodeFormat16 : List Pack :=
  [.field .dstCfreg (.of 0 3), .field (.srcsFregs 0) (.of 5 5)]

def encodeEncodeFormat17 : List Pack :=
  [.field .dstFreg (.of 0 5), .field (.srcsCfregs 0) (.of 5 3)]

def encodeEncodeFormat18 : List Pack :=
  [.field .dstCfreg (.of 0 3), .field (.srcsRegs 0) (.of 5 5)]

def encodeEncodeFormat19 : List Pack :=
  [.field .dstReg (.of 0 5), .field (.srcsCfregs 0) (.of 5 3)]

def encodeEncodeFormat2 : List Pack :=
  [.field .dstReg (.of 0 5), .field (.srcsRegs 0) (.of 5 5), .field (.srcsRegs 1) (.of 10 5),
   .field .sa (.of 15 2)]

def encodeEncodeFormat20 : List Pack :=
  [.field .dstReg (.of 0 5), .field (.srcsRegs 0) (.of 5 5), .field .si (.of 10 12)]

def encodeEncodeFormat21 : List Pack :=
  [.field .dstReg (.of 0 5), .field (.srcsRegs 0) (.of 5 5), .field .ui (.of 10 12)]

def encodeEncodeFormat22 : List Pack := [.field .dstReg (.of 0 5), .field .csr (.of 10 14)]

def encodeEncodeFormat23 : List Pack :=
  [.field .dstReg (.of 0 5), .field (.srcsRegs 0) (.of 5 5), .field .csr (.of 10 14)]

def encodeEncodeFormat24 : List Pack :=
  [.field .code2 (.of 0 5), .field (.srcsRegs 0) (.of 5 5), .field .si (.of 10 12)]

def encodeEncodeFormat25 : List Pack :=
  [.field .dstReg (.of 0 5), .field (.srcsRegs 0) (.of 5 5), .field .level (.of 10 8)]

def encodeEncodeFormat26 : List Pack := [.field (.srcsRegs 0) (.of 5 5), .field .seq (.of 10 8)]

def encodeEncodeFormat27 : List Pack := []

def encodeEncodeFormat28 : List Pack := [.field .level3 (.of 0 15)]

def encodeEncodeFormat29 : List Pack :=
  [.field .op (.of 0 5), .field (.srcsRegs 0) (.of 5 5), .field (.srcsRegs 1) (.of 10 5)]

def encodeEncodeFormat3 : List Pack :=
  [.field .dstReg (.of 0 5), .field (.srcsRegs 0) (.of 5 5), .field (.srcsRegs 1) (.of 10 5),
   .field .sa (.of 15 3)]

def encodeEncodeFormat30 : List Pack :=
  [.field .dstFreg (.of 0 5), .field (.srcsFregs 0) (.of 5 5), .field (.srcsFregs 1) (.of 10 5),
   .field (.srcsFregs 2) (.of 15 5)]

def encodeEncodeFormat31 : List Pack :=
  [.field .dstCfreg (.of 0 3), .field (.srcsFregs 0) (.of 5 5), .field (.srcsFregs 1) (.of 10 5)]

def encodeEncodeFormat32 : List Pack :=
  [.field .dstFreg (.of 0 5), .field (.srcsFregs 0) (.of 5 5), .field (.srcsFregs 1) (.of 10 5),
   .field (.srcsCfregs 0) (.of 15 3)]

def encodeEncodeFormat33 : List Pack :=
  [.field .dstReg (.of 0 5), .field (.srcsRegs 0) (.of 5 5), .field .si (.of 10 16)]

def encodeEncodeFormat34 : List Pack := [.field .dstReg (.of 0 5), .field .si (.of 5 20)]

def encodeEncodeFormat35 : List Pack :=
  [.field .dstReg (.of 0 5), .field (.srcsRegs 0) (.of 5 5), .field .si (.of 10 14)]

def encodeEncodeFormat36 : List Pack :=
  [.field .hint (.of 0 5), .field (.srcsRegs 0) (.of 5 5), .field .si (.of 10 12)]

def encodeEncodeFormat37 : List Pack :=
  [.field .dstFreg (.of 0 5), .field (.srcsRegs 0) (.of 5 5), .field .si (.of 10 12)]

def encodeEncodeFormat38 : List Pack :=
  [.field .hint (.of 0 5), .field (.srcsRegs 0) (.of 5 5), .field (.srcsRegs 1) (.of 10 5)]

def encodeEncodeFormat39 : List Pack :=
  [.field .dstFreg (.of 0 5), .field (.srcsRegs 0) (.of 5 5), .field (.srcsRegs 1) (.of 10 5)]

def encodeEncodeFormat4 : List Pack :=
  [.field .dstReg (.of 0 5), .field (.srcsRegs 0) (.of 5 5), .field (.srcsRegs 1) (.of 10 5)]

def encodeEncodeFormat40 : List Pack := [.field .hint (.of 0 15)]

def encodeEncodeFormat41 : List Pack := [.field .hint (.of 0 15)]

def encodeEncodeFormat42 : List Pack :=
  [.field (.srcsRegs 0) (.of 5 5), .multi .offs [.of 10 16, .of 0 5]]

def encodeEncodeFormat43 : List Pack :=
  [.field (.srcsCfregs 0) (.of 5 3), .multi .offs [.of 10 16, .of 0 5]]

def encodeEncodeFormat44 : List Pack :=
  [.field .dstReg (.of 0 5), .field (.srcsRegs 0) (.of 5 5), .field .offs (.of 10 16)]

def encodeEncodeFormat45 : List Pack := [.multi .offs [.of 10 16, .of 0 10]]

def encodeEncodeFormat46 : List Pack :=
  [.field (.srcsRegs 0) (.of 5 5), .field .dstSccrach (.of 0 2)]

def encodeEncodeFormat47 : List Pack :=
  [.field (.sccrachRegs 0) (.of 5 2), .field .dstReg (.of 0 5)]

def encodeEncodeFormat48 : List Pack := [.field .ptr (.of 5 3)]

def encodeEncodeFormat49 : List Pack := [.field .dstReg (.of 0 5)]

def encodeEncodeFormat5 : List Pack := [.field .code (.of 0 15)]

def encodeEncodeFormat50 : List Pack := [.field (.srcsRegs 0) (.of 5 5)]

def encodeEncodeFormat51 : List Pack :=
  [.field .si (.of 10 5), .field (.srcsRegs 0) (.of 5 5), .field .dstReg (.of 0 5)]

def encodeEncodeFormat52 : List Pack :=
  [.field .cond (.of 10 4), .field (.srcsRegs 0) (.of 5 5), .field .dstReg (.of 0 5)]

def encodeEncodeFormat53 : List Pack := [.field .cond (.of 10 4), .field .dstReg (.of 0 5)]

def encodeEncodeFormat54 : List Pack :=
  [.field (.srcsRegs 0) (.of 10 5), .field (.srcsRegs 1) (.of 5 5), .field .cond (.of 0 4)]

def encodeEncodeFormat55 : List Pack := [.field .cond (.of 10 4), .field (.srcsRegs 0) (.of 5 5)]

def encodeEncodeFormat56 : List Pack :=
  [.field .ui (.of 10 3), .field (.srcsRegs 0) (.of 5 5), .field .dstReg (.of 0 5)]

def encodeEncodeFormat57 : List Pack :=
  [.field .ui (.of 10 4), .field (.srcsRegs 0) (.of 5 5), .field .dstReg (.of 0 5)]

def encodeEncodeFormat58 : List Pack := [.field .ui (.of 10 3), .field (.srcsRegs 0) (.of 5 5)]

def encodeEncodeFormat59 : List Pack := [.field .ui (.of 10 4), .field (.srcsRegs 0) (.of 5 5)]

def encodeEncodeFormat6 : List Pack :=
  [.field .dstReg (.of 0 5), .field (.srcsRegs 0) (.of 5 5), .field .ui (.of 10 5)]

def encodeEncodeFormat60 : List Pack := [.field .ui (.of 10 5), .field (.srcsRegs 0) (.of 5 5)]

def encodeEncodeFormat61 : List Pack := [.field .ui (.of 10 6), .field (.srcsRegs 0) (.of 5 5)]

def encodeEncodeFormat62 : List Pack :=
  [.field .ui (.of 10 8), .field .op (.of 5 5), .field .dstReg (.of 0 5)]

def encodeEncodeFormat63 : List Pack := [.field .ui (.of 10 8), .field .dstReg (.of 0 5)]

def encodeEncodeFormat64 : List Pack := [.multi .offs [.of 10 16, .of 0 5]]

def encodeEncodeFormat7 : List Pack :=
  [.field .dstReg (.of 0 5), .field (.srcsRegs 0) (.of 5 5), .field .ui (.of 10 6)]

def encodeEncodeFormat8 : List Pack :=
  [.field .dstReg (.of 0 5), .field (.srcsRegs 0) (.of 5 5), .field .msb (.of 16 5), .field .lsb
   (.of 10 5)]

def encodeEncodeFormat9 : List Pack :=
  [.field .dstReg (.of 0 5), .field (.srcsRegs 0) (.of 5 5), .field .msb (.of 16 6), .field .lsb
   (.of 10 6)]

def encodeEncodeRvUi1 : List Pack :=
  [.field .ui (.of 10 1), .field (.lsxSrc 0) (.of 5 5), .field .dstReg (.of 0 5)]

def encodeEncodeRvUi2 : List Pack :=
  [.field .ui (.of 10 2), .field (.lsxSrc 0) (.of 5 5), .field .dstReg (.of 0 5)]

def encodeEncodeRvUi3 : List Pack :=
  [.field .ui (.of 10 3), .field (.lsxSrc 0) (.of 5 5), .field .dstReg (.of 0 5)]

def encodeEncodeRvUi4 : List Pack :=
  [.field .ui (.of 10 4), .field (.lsxSrc 0) (.of 5 5), .field .dstReg (.of 0 5)]

def encodeEncodeVI13 : List Pack := [.field .ui (.of 5 13), .field .dstLsxReg (.of 0 5)]

def encodeEncodeVr : List Pack := [.field (.srcsRegs 0) (.of 5 5), .field .dstLsxReg (.of 0 5)]

def encodeEncodeVrI10 : List Pack :=
  [.field (.srcsRegs 0) (.of 5 5), .field .dstLsxReg (.of 0 5), .field .si (.of 10 10)]

def encodeEncodeVrI11 : List Pack :=
  [.field (.srcsRegs 0) (.of 5 5), .field .dstLsxReg (.of 0 5), .field .si (.of 10 11)]

def encodeEncodeVrI12 : List Pack :=
  [.field .si (.of 10 12), .field (.srcsRegs 0) (.of 5 5), .field .dstLsxReg (.of 0 5)]

def encodeEncodeVrI8i1 : List Pack :=
  [.field .ui2 (.of 18 1), .field (.srcsRegs 0) (.of 5 5), .field .dstLsxReg (.of 0 5), .field .si
   (.of 10 8)]

def encodeEncodeVrI8i2 : List Pack :=
  [.field .ui2 (.of 18 2), .field (.srcsRegs 0) (.of 5 5), .field .dstLsxReg (.of 0 5), .field .si
   (.of 10 8)]

def encodeEncodeVrI8i3 : List Pack :=
  [.field .ui2 (.of 18 3), .field (.srcsRegs 0) (.of 5 5), .field .dstLsxReg (.of 0 5), .field .si
   (.of 10 8)]

def encodeEncodeVrI8i4 : List Pack :=
  [.field .ui2 (.of 18 4), .field .si (.of 10 8), .field (.srcsRegs 0) (.of 5 5), .field
   .dstLsxReg (.of 0 5)]

def encodeEncodeVrI9 : List Pack :=
  [.field (.srcsRegs 0) (.of 5 5), .field .dstLsxReg (.of 0 5), .field .si (.of 10 9)]

def encodeEncodeVrUi1 : List Pack :=
  [.field .ui (.of 10 1), .field (.srcsRegs 0) (.of 5 5), .field .dstLsxReg (.of 0 5)]

def encodeEncodeVrUi2 : List Pack :=
  [.field .ui (.of 10 2), .field (.srcsRegs 0) (.of 5 5), .field .dstLsxReg (.of 0 5)]

def encodeEncodeVrUi3 : List Pack :=
  [.field .ui (.of 10 3), .field (.srcsRegs 0) (.of 5 5), .field .dstLsxReg (.of 0 5)]

def encodeEncodeVrUi4 : List Pack :=
  [.field .ui (.of 10 4), .field (.srcsRegs 0) (.of 5 5), .field .dstLsxReg (.of 0 5)]

def encodeEncodeVrr : List Pack :=
  [.field (.srcsRegs 0) (.of 10 5), .field (.srcsRegs 1) (.of 5 5), .field .dstLsxReg (.of 0 5)]

def encodeEncodeVv : List Pack := [.field (.lsxSrc 0) (.of 5 5), .field .dstLsxReg (.of 0 5)]

def encodeEncodeVvI5 : List Pack :=
  [.field .si (.of 10 5), .field (.lsxSrc 0) (.of 5 5), .field .dstLsxReg (.of 0 5)]

def encodeEncodeVvUi1 : List Pack :=
  [.field .ui (.of 10 1), .field (.lsxSrc 0) (.of 5 5), .field .dstLsxReg (.of 0 5)]

def encodeEncodeVvUi2 : List Pack :=
  [.field .ui (.of 10 2), .field (.lsxSrc 0) (.of 5 5), .field .dstLsxReg (.of 0 5)]

def encodeEncodeVvUi3 : List Pack :=
  [.field .ui (.of 10 3), .field (.lsxSrc 0) (.of 5 5), .field .dstLsxReg (.of 0 5)]

def encodeEncodeVvUi4 : List Pack :=
  [.field .ui (.of 10 4), .field (.lsxSrc 0) (.of 5 5), .field .dstLsxReg (.of 0 5)]

def encodeEncodeVvUi5 : List Pack :=
  [.field .ui (.of 10 5), .field (.lsxSrc 0) (.of 5 5), .field .dstLsxReg (.of 0 5)]

def encodeEncodeVvUi6 : List Pack :=
  [.field .ui (.of 10 6), .field (.lsxSrc 0) (.of 5 5), .field .dstLsxReg (.of 0 5)]

def encodeEncodeVvUi7 : List Pack :=
  [.field .ui (.of 10 7), .field (.lsxSrc 0) (.of 5 5), .field .dstLsxReg (.of 0 5)]

def encodeEncodeVvUi8 : List Pack :=
  [.field .ui (.of 10 8), .field (.lsxSrc 0) (.of 5 5), .field .dstLsxReg (.of 0 5)]

def encodeEncodeVvr : List Pack :=
  [.field (.srcsRegs 0) (.of 10 5), .field (.lsxSrc 0) (.of 5 5), .field .dstLsxReg (.of 0 5)]

def encodeEncodeVvv : List Pack :=
  [.field (.lsxSrc 0) (.of 10 5), .field (.lsxSrc 1) (.of 5 5), .field .dstLsxReg (.of 0 5)]

def encodeEncodeVvvFcond : List Pack :=
  [.field .fcond (.of 15 5), .field (.lsxSrc 0) (.of 10 5), .field (.lsxSrc 1) (.of 5 5), .field
   .dstLsxReg (.of 0 5)]

def encodeEncodeVvvv : List Pack :=
  [.field (.lsxSrc 0) (.of 15 5), .field (.lsxSrc 1) (.of 10 5), .field (.lsxSrc 2) (.of 5 5),
   .field .dstLsxReg (.of 0 5)]

def encodeEncodeXrI12 : List Pack :=
  [.field .si (.of 10 12), .field (.srcsRegs 0) (.of 5 5), .field .dstLasxReg (.of 0 5)]

/-! ### The tables -/

/-- `opc2bin`. -/
def opc2bin : LoongArchOpc → BitVec 32
  | .OPC_INVALID => 0
  | .OPC_GR2SCR => 2048
  | .OPC_SRC2GR => 3072
  | .OPC_CLO_W => 4096
  | .OPC_CLZ_W => 5120
  | .OPC_CTO_W => 6144
  | .OPC_CTZ_W => 7168
  | .OPC_CLO_D => 8192
  | .OPC_CLZ_D => 9216
  | .OPC_CTO_D => 10240
  | .OPC_CTZ_D => 11264
  | .OPC_REVB_2H => 12288
  | .OPC_REVB_4H => 13312
  | .OPC_REVB_2W => 14336
  | .OPC_REVB_D => 15360
  | .OPC_REVH_2W => 16384
  | .OPC_REVH_D => 17408
  | .OPC_BITREV_4B => 18432
  | .OPC_BITREV_8B => 19456
  | .OPC_BITREV_W => 20480
  | .OPC_BITREV_D => 21504
  | .OPC_EXT_W_H => 22528
  | .OPC_EXT_W_B => 23552
  | .OPC_RDTIMEL_W => 24576
  | .OPC_RDTIMEH_W => 25600
  | .OPC_RDTIME_D => 26624
  | .OPC_CPUCFG => 27648
  | .OPC_X86MTTOP => 28672
  | .OPC_X86MFTOP => 29696
  | .OPC_SETX86LOOPE => 30720
  | .OPC_SETX86LOOPNE => 31744
  | .OPC_X86INC_B => 32768
  | .OPC_X86INC_H => 32769
  | .OPC_X86INC_W => 32770
  | .OPC_X86INC_D => 32771
  | .OPC_X86DEC_B => 32772
  | .OPC_X86DEC_H => 32773
  | .OPC_X86DEC_W => 32774
  | .OPC_X86DEC_D => 32775
  | .OPC_X86SETTM => 32776
  | .OPC_X86CLRTM => 32808
  | .OPC_X86INCTOP => 32777
  | .OPC_X86DECTOP => 32809
  | .OPC_ASRTLE_D => 65536
  | .OPC_ASRTGT_D => 98304
  | .OPC_ALSL_W => 262144
  | .OPC_ALSL_WU => 393216
  | .OPC_BYTEPICK_W => 524288
  | .OPC_BYTEPICK_D => 786432
  | .OPC_ADD_W => 1048576
  | .OPC_ADD_D => 1081344
  | .OPC_SUB_W => 1114112
  | .OPC_SUB_D => 1146880
  | .OPC_SLT => 1179648
  | .OPC_SLTU => 1212416
  | .OPC_MASKEQZ => 1245184
  | .OPC_MASKNEZ => 1277952
  | .OPC_NOR => 1310720
  | .OPC_AND => 1343488
  | .OPC_OR => 1376256
  | .OPC_XOR => 1409024
  | .OPC_ORN => 1441792
  | .OPC_ANDN => 1474560
  | .OPC_SLL_W => 1507328
  | .OPC_SRL_W => 1540096
  | .OPC_SRA_W => 1572864
  | .OPC_SLL_D => 1605632
  | .OPC_SRL_D => 1638400
  | .OPC_SRA_D => 1671168
  | .OPC_ROTR_B => 1703936
  | .OPC_ROTR_H => 1736704
  | .OPC_ROTR_W => 1769472
  | .OPC_ROTR_D => 1802240
  | .OPC_MUL_W => 1835008
  | .OPC_MULH_W => 1867776
  | .OPC_MULH_WU => 1900544
  | .OPC_MUL_D => 1933312
  | .OPC_MULH_D => 1966080
  | .OPC_MULH_DU => 1998848
  | .OPC_MULW_D_W => 2031616
  | .OPC_MULW_D_WU => 2064384
  | .OPC_DIV_W => 2097152
  | .OPC_MOD_W => 2129920
  | .OPC_DIV_WU => 2162688
  | .OPC_MOD_WU => 2195456
  | .OPC_DIV_D => 2228224
  | .OPC_MOD_D => 2260992
  | .OPC_DIV_DU => 2293760
  | .OPC_MOD_DU => 2326528
  | .OPC_CRC_W_B_W => 2359296
  | .OPC_CRC_W_H_W => 2392064
  | .OPC_CRC_W_W_W => 2424832
  | .OPC_CRC_W_D_W => 2457600
  | .OPC_CRCC_W_B_W => 2490368
  | .OPC_CRCC_W_H_W => 2523136
  | .OPC_CRCC_W_W_W => 2555904
  | .OPC_CRCC_W_D_W => 2588672
  | .OPC_ADDU12I_D => 2686976
  | .OPC_ADDU12I_W => 2719744
  | .OPC_BREAK => 2752512
  | .OPC_DBCL => 2785280
  | .OPC_SYSCALL => 2818048
  | .OPC_HVCL => 2850816
  | .OPC_ALSL_D => 2883584
  | .OPC_ADC_B => 3145728
  | .OPC_ADC_H => 3178496
  | .OPC_ADC_W => 3211264
  | .OPC_ADC_D => 3244032
  | .OPC_SBC_B => 3276800
  | .OPC_SBC_H => 3309568
  | .OPC_SBC_W => 3342336
  | .OPC_SBC_D => 3375104
  | .OPC_RCR_B => 3407872
  | .OPC_RCR_H => 3440640
  | .OPC_RCR_W => 3473408
  | .OPC_RCR_D => 3506176
  | .OPC_ARMMOVE => 3555328
  | .OPC_SETX86J => 3571712
  | .OPC_SETARMJ => 3588096
  | .OPC_ARMADD_W => 3604496
  | .OPC_ARMSUB_W => 3637264
  | .OPC_ARMADC_W => 3670032
  | .OPC_ARMSBC_W => 3702800
  | .OPC_ARMAND_W => 3735568
  | .OPC_ARMOR_W => 3768336
  | .OPC_ARMXOR_W => 3801104
  | .OPC_ARMSLL_W => 3833872
  | .OPC_ARMSRL_W => 3866640
  | .OPC_ARMSRA_W => 3899408
  | .OPC_ARMROTR_W => 3932176
  | .OPC_ARMSLLI_W => 3964944
  | .OPC_ARMSRLI_W => 3997712
  | .OPC_ARMSRAI_W => 4030480
  | .OPC_ARMROTRI_W => 4063248
  | .OPC_X86MUL_B => 4096000
  | .OPC_X86MUL_H => 4096001
  | .OPC_X86MUL_W => 4096002
  | .OPC_X86MUL_D => 4096003
  | .OPC_X86MUL_BU => 4096004
  | .OPC_X86MUL_HU => 4096005
  | .OPC_X86MUL_WU => 4096006
  | .OPC_X86MUL_DU => 4096007
  | .OPC_X86ADD_WU => 4128768
  | .OPC_X86ADD_DU => 4128769
  | .OPC_X86SUB_WU => 4128770
  | .OPC_X86SUB_DU => 4128771
  | .OPC_X86ADD_B => 4128772
  | .OPC_X86ADD_H => 4128773
  | .OPC_X86ADD_W => 4128774
  | .OPC_X86ADD_D => 4128775
  | .OPC_X86SUB_B => 4128776
  | .OPC_X86SUB_H => 4128777
  | .OPC_X86SUB_W => 4128778
  | .OPC_X86SUB_D => 4128779
  | .OPC_X86ADC_B => 4128780
  | .OPC_X86ADC_H => 4128781
  | .OPC_X86ADC_W => 4128782
  | .OPC_X86ADC_D => 4128783
  | .OPC_X86SBC_B => 4128784
  | .OPC_X86SBC_H => 4128785
  | .OPC_X86SBC_W => 4128786
  | .OPC_X86SBC_D => 4128787
  | .OPC_X86SLL_B => 4128788
  | .OPC_X86SLL_H => 4128789
  | .OPC_X86SLL_W => 4128790
  | .OPC_X86SLL_D => 4128791
  | .OPC_X86SRL_B => 4128792
  | .OPC_X86SRL_H => 4128793
  | .OPC_X86SRL_W => 4128794
  | .OPC_X86SRL_D => 4128795
  | .OPC_X86SRA_B => 4128796
  | .OPC_X86SRA_H => 4128797
  | .OPC_X86SRA_W => 4128798
  | .OPC_X86SRA_D => 4128799
  | .OPC_X86ROTR_B => 4161536
  | .OPC_X86ROTR_H => 4161537
  | .OPC_X86ROTR_D => 4161538
  | .OPC_X86ROTR_W => 4161539
  | .OPC_X86ROTL_B => 4161540
  | .OPC_X86ROTL_H => 4161541
  | .OPC_X86ROTL_W => 4161542
  | .OPC_X86ROTL_D => 4161543
  | .OPC_X86RCR_B => 4161544
  | .OPC_X86RCR_H => 4161545
  | .OPC_X86RCR_W => 4161546
  | .OPC_X86RCR_D => 4161547
  | .OPC_X86RCL_B => 4161548
  | .OPC_X86RCL_H => 4161549
  | .OPC_X86RCL_W => 4161550
  | .OPC_X86RCL_D => 4161551
  | .OPC_X86AND_B => 4161552
  | .OPC_X86AND_H => 4161553
  | .OPC_X86AND_W => 4161554
  | .OPC_X86AND_D => 4161555
  | .OPC_X86OR_B => 4161556
  | .OPC_X86OR_H => 4161557
  | .OPC_X86OR_W => 4161558
  | .OPC_X86OR_D => 4161559
  | .OPC_X86XOR_B => 4161560
  | .OPC_X86XOR_H => 4161561
  | .OPC_X86XOR_W => 4161562
  | .OPC_X86XOR_D => 4161563
  | .OPC_ARMNOT_W => 4177948
  | .OPC_ARMMOV_W => 4177949
  | .OPC_ARMMOV_D => 4177950
  | .OPC_ARMRRX_W => 4177951
  | .OPC_SLLI_W => 4227072
  | .OPC_SLLI_D => 4259840
  | .OPC_SRLI_W => 4489216
  | .OPC_SRLI_D => 4521984
  | .OPC_SRAI_W => 4751360
  | .OPC_SRAI_D => 4784128
  | .OPC_ROTRI_B => 4988928
  | .OPC_ROTRI_H => 4997120
  | .OPC_ROTRI_W => 5013504
  | .OPC_ROTRI_D => 5046272
  | .OPC_RCRI_B => 5251072
  | .OPC_RCRI_H => 5259264
  | .OPC_RCRI_W => 5275648
  | .OPC_RCRI_D => 5308416
  | .OPC_X86SLLI_B => 5513216
  | .OPC_X86SLLI_H => 5521409
  | .OPC_X86SLLI_W => 5537794
  | .OPC_X86SRLI_B => 5513220
  | .OPC_X86SRLI_H => 5521413
  | .OPC_X86SRLI_W => 5537798
  | .OPC_X86SRAI_B => 5513224
  | .OPC_X86SRAI_H => 5521417
  | .OPC_X86SRAI_W => 5537802
  | .OPC_X86ROTRI_B => 5513228
  | .OPC_X86ROTRI_H => 5521421
  | .OPC_X86ROTRI_W => 5537806
  | .OPC_X86RCRI_B => 5513232
  | .OPC_X86RCRI_H => 5521425
  | .OPC_X86RCRI_W => 5537810
  | .OPC_X86ROTLI_B => 5513236
  | .OPC_X86ROTLI_H => 5521429
  | .OPC_X86ROTLI_W => 5537814
  | .OPC_X86RCLI_B => 5513240
  | .OPC_X86RCLI_H => 5521433
  | .OPC_X86RCLI_W => 5537818
  | .OPC_X86SLLI_D => 5570563
  | .OPC_X86SRLI_D => 5570567
  | .OPC_X86SRAI_D => 5570571
  | .OPC_X86ROTRI_D => 5570575
  | .OPC_X86RCRI_D => 5570579
  | .OPC_X86ROTLI_D => 5570583
  | .OPC_X86RCLI_D => 5570587
  | .OPC_X86SETTAG => 5767168
  | .OPC_X86MFFLAG => 6029312
  | .OPC_X86MTFLAG => 6029344
  | .OPC_ARMMFFLAG => 6029376
  | .OPC_ARMMTFLAG => 6029408
  | .OPC_BSTRINS_W => 6291456
  | .OPC_BSTRPICK_W => 6324224
  | .OPC_BSTRINS_D => 8388608
  | .OPC_BSTRPICK_D => 12582912
  | .OPC_FADD_S => 16809984
  | .OPC_FADD_D => 16842752
  | .OPC_FSUB_S => 16941056
  | .OPC_FSUB_D => 16973824
  | .OPC_FMUL_S => 17072128
  | .OPC_FMUL_D => 17104896
  | .OPC_FDIV_S => 17203200
  | .OPC_FDIV_D => 17235968
  | .OPC_FMAX_S => 17334272
  | .OPC_FMAX_D => 17367040
  | .OPC_FMIN_S => 17465344
  | .OPC_FMIN_D => 17498112
  | .OPC_FMAXA_S => 17596416
  | .OPC_FMAXA_D => 17629184
  | .OPC_FMINA_S => 17727488
  | .OPC_FMINA_D => 17760256
  | .OPC_FSCALEB_S => 17858560
  | .OPC_FSCALEB_D => 17891328
  | .OPC_FCOPYSIGN_S => 17989632
  | .OPC_FCOPYSIGN_D => 18022400
  | .OPC_FABS_S => 18088960
  | .OPC_FABS_D => 18089984
  | .OPC_FNEG_S => 18093056
  | .OPC_FNEG_D => 18094080
  | .OPC_FLOGB_S => 18097152
  | .OPC_FLOGB_D => 18098176
  | .OPC_FCLASS_S => 18101248
  | .OPC_FCLASS_D => 18102272
  | .OPC_FSQRT_S => 18105344
  | .OPC_FSQRT_D => 18106368
  | .OPC_FRECIP_S => 18109440
  | .OPC_FRECIP_D => 18110464
  | .OPC_FRSQRT_S => 18113536
  | .OPC_FRSQRT_D => 18114560
  | .OPC_FMOV_S => 18125824
  | .OPC_FMOV_D => 18126848
  | .OPC_MOVGR2FR_W => 18129920
  | .OPC_MOVGR2FR_D => 18130944
  | .OPC_MOVGR2FRH_W => 18131968
  | .OPC_MOVFR2GR_S => 18134016
  | .OPC_MOVFR2GR_D => 18135040
  | .OPC_MOVFRH2GR_S => 18136064
  | .OPC_MOVGR2FCSR => 18137088
  | .OPC_MOVFCSR2GR => 18139136
  | .OPC_MOVFR2CF => 18141184
  | .OPC_MOVCF2FR => 18142208
  | .OPC_MOVGR2CF => 18143232
  | .OPC_MOVCF2GR => 18144256
  | .OPC_FCVT_LD_D => 18145280
  | .OPC_FCVT_UD_D => 18146304
  | .OPC_FCVT_D_LC => 18153472
  | .OPC_FCVT_S_D => 18421760
  | .OPC_FCVT_D_S => 18424832
  | .OPC_FTINTRM_W_S => 18482176
  | .OPC_FTINTRM_W_D => 18483200
  | .OPC_FTINTRM_L_S => 18490368
  | .OPC_FTINTRM_L_D => 18491392
  | .OPC_FTINTRP_W_S => 18498560
  | .OPC_FTINTRP_W_D => 18499584
  | .OPC_FTINTRP_L_S => 18506752
  | .OPC_FTINTRP_L_D => 18507776
  | .OPC_FTINTRZ_W_S => 18514944
  | .OPC_FTINTRZ_W_D => 18515968
  | .OPC_FTINTRZ_L_S => 18523136
  | .OPC_FTINTRZ_L_D => 18524160
  | .OPC_FTINTRNE_W_S => 18531328
  | .OPC_FTINTRNE_W_D => 18532352
  | .OPC_FTINTRNE_L_S => 18539520
  | .OPC_FTINTRNE_L_D => 18540544
  | .OPC_FTINT_W_S => 18547712
  | .OPC_FTINT_W_D => 18548736
  | .OPC_FTINT_L_S => 18555904
  | .OPC_FTINT_L_D => 18556928
  | .OPC_FFINT_S_W => 18681856
  | .OPC_FFINT_S_L => 18683904
  | .OPC_FFINT_D_W => 18685952
  | .OPC_FFINT_D_L => 18688000
  | .OPC_FRINT_S => 18760704
  | .OPC_FRINT_D => 18761728
  | .OPC_SLTI => 33554432
  | .OPC_SLTUI => 37748736
  | .OPC_ADDI_W => 41943040
  | .OPC_ADDI_D => 46137344
  | .OPC_LU52I_D => 50331648
  | .OPC_ANDI => 54525952
  | .OPC_ORI => 58720256
  | .OPC_XORI => 62914560
  | .OPC_CSRRD => 67108864
  | .OPC_CSRWR => 67108896
  | .OPC_CSRXCHG => 67108864
  | .OPC_GCSRRD => 83886080
  | .OPC_GCSRWR => 83886112
  | .OPC_GCSRXCHG => 83886080
  | .OPC_CACOP => 100663296
  | .OPC_LDDIR => 104857600
  | .OPC_LDPTE => 105119744
  | .OPC_IOCSRRD_B => 105381888
  | .OPC_IOCSRRD_H => 105382912
  | .OPC_IOCSRRD_W => 105383936
  | .OPC_IOCSRRD_D => 105384960
  | .OPC_IOCSRWR_B => 105385984
  | .OPC_IOCSRWR_H => 105387008
  | .OPC_IOCSRWR_W => 105388032
  | .OPC_IOCSRWR_D => 105389056
  | .OPC_TLBCLR => 105390080
  | .OPC_GTLBCLR => 105390081
  | .OPC_TLBFLUSH => 105391104
  | .OPC_GTLBFLUSH => 105391105
  | .OPC_TLBSRCH => 105392128
  | .OPC_GTLBSRCH => 105392129
  | .OPC_TLBRD => 105393152
  | .OPC_GTLBRD => 105393153
  | .OPC_TLBWR => 105394176
  | .OPC_GTLBWR => 105394177
  | .OPC_TLBFILL => 105395200
  | .OPC_GTLBFILL => 105395201
  | .OPC_ERTN => 105396224
  | .OPC_IDLE => 105414656
  | .OPC_SCFGR_W => 105455616
  | .OPC_SCFGR_D => 105456640
  | .OPC_SCFGW_W => 105457664
  | .OPC_SCFGW_D => 105458688
  | .OPC_SNOP => 105459712
  | .OPC_INVTLB => 105480192
  | .OPC_FMADD_S => 135266304
  | .OPC_FMADD_D => 136314880
  | .OPC_FMSUB_S => 139460608
  | .OPC_FMSUB_D => 140509184
  | .OPC_FNMADD_S => 143654912
  | .OPC_FNMADD_D => 144703488
  | .OPC_FNMSUB_S => 147849216
  | .OPC_FNMSUB_D => 148897792
  | .OPC_VFMADD_S => 152043520
  | .OPC_VFMADD_D => 153092096
  | .OPC_VFMSUB_S => 156237824
  | .OPC_VFMSUB_D => 157286400
  | .OPC_VFNMADD_S => 160432128
  | .OPC_VFNMADD_D => 161480704
  | .OPC_VFNMSUB_S => 164626432
  | .OPC_VFNMSUB_D => 165675008
  | .OPC_FCMP_CAF_S => 202375168
  | .OPC_FCMP_SAF_S => 202407936
  | .OPC_FCMP_CLT_S => 202440704
  | .OPC_FCMP_STL_S => 202473472
  | .OPC_FCMP_CEQ_S => 202506240
  | .OPC_FCMP_SEQ_S => 202539008
  | .OPC_FCMP_CLE_S => 202571776
  | .OPC_FCMP_SLE_S => 202604544
  | .OPC_FCMP_CUN_S => 202637312
  | .OPC_FCMP_SUN_S => 202670080
  | .OPC_FCMP_CULT_S => 202702848
  | .OPC_FCMP_SULT_S => 202735616
  | .OPC_FCMP_CUEQ_S => 202768384
  | .OPC_FCMP_SUEQ_S => 202801152
  | .OPC_FCMP_CULE_S => 202833920
  | .OPC_FCMP_SULE_S => 202866688
  | .OPC_FCMP_CNE_S => 202899456
  | .OPC_FCMP_SNE_S => 202932224
  | .OPC_FCMP_COR_S => 203030528
  | .OPC_FCMP_SOR_S => 203063296
  | .OPC_FCMP_CUNE_S => 203161600
  | .OPC_FCMP_SUNE_S => 203194368
  | .OPC_FCMP_CAF_D => 203423744
  | .OPC_FCMP_SAF_D => 203456512
  | .OPC_FCMP_CLT_D => 203489280
  | .OPC_FCMP_STL_D => 203522048
  | .OPC_FCMP_CEQ_D => 203554816
  | .OPC_FCMP_SEQ_D => 203587584
  | .OPC_FCMP_CLE_D => 203620352
  | .OPC_FCMP_SLE_D => 203653120
  | .OPC_FCMP_CUN_D => 203685888
  | .OPC_FCMP_SUN_D => 203718656
  | .OPC_FCMP_CULT_D => 203751424
  | .OPC_FCMP_SULT_D => 203784192
  | .OPC_FCMP_CUEQ_D => 203816960
  | .OPC_FCMP_SUEQ_D => 203849728
  | .OPC_FCMP_CULE_D => 203882496
  | .OPC_FCMP_SULE_D => 203915264
  | .OPC_FCMP_CNE_D => 203948032
  | .OPC_FCMP_SNE_D => 203980800
  | .OPC_FCMP_COR_D => 204079104
  | .OPC_FCMP_SOR_D => 204111872
  | .OPC_FCMP_CUNE_D => 204210176
  | .OPC_FCMP_SUNE_D => 204242944
  | .OPC_VFCMP_COND_S => 206569472
  | .OPC_VFCMP_COND_D => 207618048
  | .OPC_FSEL => 218103808
  | .OPC_VBITSEL_V => 219152384
  | .OPC_VSHUF_B => 223346688
  | .OPC_ADDU16I_D => 268435456
  | .OPC_LU12I_W => 335544320
  | .OPC_LU32I_D => 369098752
  | .OPC_PCADDI => 402653184
  | .OPC_PCALAU12I => 436207616
  | .OPC_PCADDU12I => 469762048
  | .OPC_PCADDU18I => 503316480
  | .OPC_LL_W => 536870912
  | .OPC_SC_W => 553648128
  | .OPC_LL_D => 570425344
  | .OPC_SC_D => 587202560
  | .OPC_LDPTR_W => 603979776
  | .OPC_STPTR_W => 620756992
  | .OPC_LDPTR_D => 637534208
  | .OPC_STPTR_D => 654311424
  | .OPC_LD_B => 671088640
  | .OPC_LD_H => 675282944
  | .OPC_LD_W => 679477248
  | .OPC_LD_D => 683671552
  | .OPC_ST_B => 687865856
  | .OPC_ST_H => 692060160
  | .OPC_ST_W => 696254464
  | .OPC_ST_D => 700448768
  | .OPC_LD_BU => 704643072
  | .OPC_LD_HU => 708837376
  | .OPC_LD_WU => 713031680
  | .OPC_PRELD => 717225984
  | .OPC_FLD_S => 721420288
  | .OPC_FST_S => 725614592
  | .OPC_FLD_D => 729808896
  | .OPC_FST_D => 734003200
  | .OPC_VLD => 738197504
  | .OPC_VST => 742391808
  | .OPC_XVLD => 746586112
  | .OPC_XVST => 750780416
  | .OPC_LDL_W => 771751936
  | .OPC_LDR_W => 775946240
  | .OPC_LDL_D => 780140544
  | .OPC_LDR_D => 784334848
  | .OPC_STL_W => 788529152
  | .OPC_STR_W => 792723456
  | .OPC_STL_D => 796917760
  | .OPC_STR_D => 801112064
  | .OPC_VLDREPL_D => 806354944
  | .OPC_VLDREPL_W => 807403520
  | .OPC_VLDREPL_H => 809500672
  | .OPC_VLDREPL_B => 813694976
  | .OPC_VSTELM_D => 823132160
  | .OPC_VSTELM_W => 824180736
  | .OPC_VSTELM_H => 826277888
  | .OPC_VSTELM_B => 830472192
  | .OPC_LDX_B => 939524096
  | .OPC_LDX_H => 939786240
  | .OPC_LDX_W => 940048384
  | .OPC_LDX_D => 940310528
  | .OPC_STX_B => 940572672
  | .OPC_STX_H => 940834816
  | .OPC_STX_W => 941096960
  | .OPC_STX_D => 941359104
  | .OPC_LDX_BU => 941621248
  | .OPC_LDX_HU => 941883392
  | .OPC_LDX_WU => 942145536
  | .OPC_PRELDX => 942407680
  | .OPC_FLDX_S => 942669824
  | .OPC_FLDX_D => 942931968
  | .OPC_FSTX_S => 943194112
  | .OPC_FSTX_D => 943456256
  | .OPC_VLDX => 943718400
  | .OPC_VSTX => 943980544
  | .OPC_AMSWAP_W => 945815552
  | .OPC_AMSWAP_D => 945848320
  | .OPC_AMADD_W => 945881088
  | .OPC_AMADD_D => 945913856
  | .OPC_AMAND_W => 945946624
  | .OPC_AMAND_D => 945979392
  | .OPC_AMOR_W => 946012160
  | .OPC_AMOR_D => 946044928
  | .OPC_AMXOR_W => 946077696
  | .OPC_AMXOR_D => 946110464
  | .OPC_AMMAX_W => 946143232
  | .OPC_AMMAX_D => 946176000
  | .OPC_AMMIN_W => 946208768
  | .OPC_AMMIN_D => 946241536
  | .OPC_AMMAX_WU => 946274304
  | .OPC_AMMAX_DU => 946307072
  | .OPC_AMMIN_WU => 946339840
  | .OPC_AMMIN_DU => 946372608
  | .OPC_AMSWAP_DB_W => 946405376
  | .OPC_AMSWAP_DB_D => 946438144
  | .OPC_AMADD_DB_W => 946470912
  | .OPC_AMADD_DB_D => 946503680
  | .OPC_AMAND_DB_W => 946536448
  | .OPC_AMAND_DB_D => 946569216
  | .OPC_AMOR_DB_W => 946601984
  | .OPC_AMOR_DB_D => 946634752
  | .OPC_AMXOR_DB_W => 946667520
  | .OPC_AMXOR_DB_D => 946700288
  | .OPC_AMMAX_DB_W => 946733056
  | .OPC_AMMAX_DB_D => 946765824
  | .OPC_AMMIN_DB_W => 946798592
  | .OPC_AMMIN_DB_D => 946831360
  | .OPC_AMMAX_DB_WU => 946864128
  | .OPC_AMMAX_DB_DU => 946896896
  | .OPC_AMMIN_DB_WU => 946929664
  | .OPC_AMMIN_DB_DU => 946962432
  | .OPC_DBAR => 946995200
  | .OPC_IBAR => 947027968
  | .OPC_FLDGT_S => 947126272
  | .OPC_FLDGT_D => 947159040
  | .OPC_FLDLE_S => 947191808
  | .OPC_FLDLE_D => 947224576
  | .OPC_FSTGT_S => 947257344
  | .OPC_FSTGT_D => 947290112
  | .OPC_FSTLE_S => 947322880
  | .OPC_FSTLE_D => 947355648
  | .OPC_LDGT_B => 947388416
  | .OPC_LDGT_H => 947421184
  | .OPC_LDGT_W => 947453952
  | .OPC_LDGT_D => 947486720
  | .OPC_LDLE_B => 947519488
  | .OPC_LDLE_H => 947552256
  | .OPC_LDLE_W => 947585024
  | .OPC_LDLE_D => 947617792
  | .OPC_STGT_B => 947650560
  | .OPC_STGT_H => 947683328
  | .OPC_STGT_W => 947716096
  | .OPC_STGT_D => 947748864
  | .OPC_STLE_B => 947781632
  | .OPC_STLE_H => 947814400
  | .OPC_STLE_W => 947847168
  | .OPC_STLE_D => 947879936
  | .OPC_BEQZ => 1073741824
  | .OPC_BNEZ => 1140850688
  | .OPC_BCEQZ => 1207959552
  | .OPC_BCNEZ => 1207959808
  | .OPC_JISCR0 => 1207960064
  | .OPC_JISCR1 => 1207960320
  | .OPC_JIRL => 1275068416
  | .OPC_B => 1342177280
  | .OPC_BL => 1409286144
  | .OPC_BEQ => 1476395008
  | .OPC_BNE => 1543503872
  | .OPC_BLT => 1610612736
  | .OPC_BGE => 1677721600
  | .OPC_BLTU => 1744830464
  | .OPC_BGEU => 1811939328
  | .OPC_VSEQ_B => 1879048192
  | .OPC_VSEQ_H => 1879080960
  | .OPC_VSEQ_W => 1879113728
  | .OPC_VSEQ_D => 1879146496
  | .OPC_VSLE_B => 1879179264
  | .OPC_VSLE_H => 1879212032
  | .OPC_VSLE_W => 1879244800
  | .OPC_VSLE_D => 1879277568
  | .OPC_VSLE_BU => 1879310336
  | .OPC_VSLE_HU => 1879343104
  | .OPC_VSLE_WU => 1879375872
  | .OPC_VSLE_DU => 1879408640
  | .OPC_VSLT_B => 1879441408
  | .OPC_VSLT_H => 1879474176
  | .OPC_VSLT_W => 1879506944
  | .OPC_VSLT_D => 1879539712
  | .OPC_VSLT_BU => 1879572480
  | .OPC_VSLT_HU => 1879605248
  | .OPC_VSLT_WU => 1879638016
  | .OPC_VSLT_DU => 1879670784
  | .OPC_VADD_B => 1879703552
  | .OPC_VADD_H => 1879736320
  | .OPC_VADD_W => 1879769088
  | .OPC_VADD_D => 1879801856
  | .OPC_VSUB_B => 1879834624
  | .OPC_VSUB_H => 1879867392
  | .OPC_VSUB_W => 1879900160
  | .OPC_VSUB_D => 1879932928
  | .OPC_VADDWEV_H_B => 1881014272
  | .OPC_VADDWEV_W_H => 1881047040
  | .OPC_VADDWEV_D_W => 1881079808
  | .OPC_VADDWEV_Q_D => 1881112576
  | .OPC_VSUBWEV_H_B => 1881145344
  | .OPC_VSUBWEV_W_H => 1881178112
  | .OPC_VSUBWEV_D_W => 1881210880
  | .OPC_VSUBWEV_Q_D => 1881243648
  | .OPC_VADDWOD_H_B => 1881276416
  | .OPC_VADDWOD_W_H => 1881309184
  | .OPC_VADDWOD_D_W => 1881341952
  | .OPC_VADDWOD_Q_D => 1881374720
  | .OPC_VSUBWOD_H_B => 1881407488
  | .OPC_VSUBWOD_W_H => 1881440256
  | .OPC_VSUBWOD_D_W => 1881473024
  | .OPC_VSUBWOD_Q_D => 1881505792
  | .OPC_VADDWEV_H_BU => 1882062848
  | .OPC_VADDWEV_W_HU => 1882095616
  | .OPC_VADDWEV_D_WU => 1882128384
  | .OPC_VADDWEV_Q_DU => 1882161152
  | .OPC_VSUBWEV_H_BU => 1882193920
  | .OPC_VSUBWEV_W_HU => 1882226688
  | .OPC_VSUBWEV_D_WU => 1882259456
  | .OPC_VSUBWEV_Q_DU => 1882292224
  | .OPC_VADDWOD_H_BU => 1882324992
  | .OPC_VADDWOD_W_HU => 1882357760
  | .OPC_VADDWOD_D_WU => 1882390528
  | .OPC_VADDWOD_Q_DU => 1882423296
  | .OPC_VSUBWOD_H_BU => 1882456064
  | .OPC_VSUBWOD_W_HU => 1882488832
  | .OPC_VSUBWOD_D_WU => 1882521600
  | .OPC_VSUBWOD_Q_DU => 1882554368
  | .OPC_VADDWEV_H_BU_B => 1883111424
  | .OPC_VADDWEV_W_HU_H => 1883144192
  | .OPC_VADDWEV_D_WU_W => 1883176960
  | .OPC_VADDWEV_Q_DU_D => 1883209728
  | .OPC_VADDWOD_H_BU_B => 1883242496
  | .OPC_VADDWOD_W_HU_H => 1883275264
  | .OPC_VADDWOD_D_WU_W => 1883308032
  | .OPC_VADDWOD_Q_DU_D => 1883340800
  | .OPC_VSADD_B => 1883635712
  | .OPC_VSADD_H => 1883668480
  | .OPC_VSADD_W => 1883701248
  | .OPC_VSADD_D => 1883734016
  | .OPC_VSSUB_B => 1883766784
  | .OPC_VSSUB_H => 1883799552
  | .OPC_VSSUB_W => 1883832320
  | .OPC_VSSUB_D => 1883865088
  | .OPC_VSADD_BU => 1883897856
  | .OPC_VSADD_HU => 1883930624
  | .OPC_VSADD_WU => 1883963392
  | .OPC_VSADD_DU => 1883996160
  | .OPC_VSSUB_BU => 1884028928
  | .OPC_VSSUB_HU => 1884061696
  | .OPC_VSSUB_WU => 1884094464
  | .OPC_VSSUB_DU => 1884127232
  | .OPC_VHADDW_H_B => 1884553216
  | .OPC_VHADDW_W_H => 1884585984
  | .OPC_VHADDW_D_W => 1884618752
  | .OPC_VHADDW_Q_D => 1884651520
  | .OPC_VHSUBW_H_B => 1884684288
  | .OPC_VHSUBW_W_H => 1884717056
  | .OPC_VHSUBW_D_W => 1884749824
  | .OPC_VHSUBW_Q_D => 1884782592
  | .OPC_VHADDW_HU_BU => 1884815360
  | .OPC_VHADDW_WU_HU => 1884848128
  | .OPC_VHADDW_DU_WU => 1884880896
  | .OPC_VHADDW_QU_DU => 1884913664
  | .OPC_VHSUBW_HU_BU => 1884946432
  | .OPC_VHSUBW_WU_HU => 1884979200
  | .OPC_VHSUBW_DU_WU => 1885011968
  | .OPC_VHSUBW_QU_DU => 1885044736
  | .OPC_VADDA_B => 1885077504
  | .OPC_VADDA_H => 1885110272
  | .OPC_VADDA_W => 1885143040
  | .OPC_VADDA_D => 1885175808
  | .OPC_VABSD_B => 1885339648
  | .OPC_VABSD_H => 1885372416
  | .OPC_VABSD_W => 1885405184
  | .OPC_VABSD_D => 1885437952
  | .OPC_VABSD_BU => 1885470720
  | .OPC_VABSD_HU => 1885503488
  | .OPC_VABSD_WU => 1885536256
  | .OPC_VABSD_DU => 1885569024
  | .OPC_VAVG_B => 1885601792
  | .OPC_VAVG_H => 1885634560
  | .OPC_VAVG_W => 1885667328
  | .OPC_VAVG_D => 1885700096
  | .OPC_VAVG_BU => 1885732864
  | .OPC_VAVG_HU => 1885765632
  | .OPC_VAVG_WU => 1885798400
  | .OPC_VAVG_DU => 1885831168
  | .OPC_VAVGR_B => 1885863936
  | .OPC_VAVGR_H => 1885896704
  | .OPC_VAVGR_W => 1885929472
  | .OPC_VAVGR_D => 1885962240
  | .OPC_VAVGR_BU => 1885995008
  | .OPC_VAVGR_HU => 1886027776
  | .OPC_VAVGR_WU => 1886060544
  | .OPC_VAVGR_DU => 1886093312
  | .OPC_VMAX_B => 1886388224
  | .OPC_VMAX_H => 1886420992
  | .OPC_VMAX_W => 1886453760
  | .OPC_VMAX_D => 1886486528
  | .OPC_VMIN_B => 1886519296
  | .OPC_VMIN_H => 1886552064
  | .OPC_VMIN_W => 1886584832
  | .OPC_VMIN_D => 1886617600
  | .OPC_VMAX_BU => 1886650368
  | .OPC_VMAX_HU => 1886683136
  | .OPC_VMAX_WU => 1886715904
  | .OPC_VMAX_DU => 1886748672
  | .OPC_VMIN_BU => 1886781440
  | .OPC_VMIN_HU => 1886814208
  | .OPC_VMIN_WU => 1886846976
  | .OPC_VMIN_DU => 1886879744
  | .OPC_VMUL_B => 1887698944
  | .OPC_VMUL_H => 1887731712
  | .OPC_VMUL_W => 1887764480
  | .OPC_VMUL_D => 1887797248
  | .OPC_VMUH_B => 1887830016
  | .OPC_VMUH_H => 1887862784
  | .OPC_VMUH_W => 1887895552
  | .OPC_VMUH_D => 1887928320
  | .OPC_VMUH_BU => 1887961088
  | .OPC_VMUH_HU => 1887993856
  | .OPC_VMUH_WU => 1888026624
  | .OPC_VMUH_DU => 1888059392
  | .OPC_VMULWEV_H_B => 1888485376
  | .OPC_VMULWEV_W_H => 1888518144
  | .OPC_VMULWEV_D_W => 1888550912
  | .OPC_VMULWEV_Q_D => 1888583680
  | .OPC_VMULWOD_H_B => 1888616448
  | .OPC_VMULWOD_W_H => 1888649216
  | .OPC_VMULWOD_D_W => 1888681984
  | .OPC_VMULWOD_Q_D => 1888714752
  | .OPC_VMULWEV_H_BU => 1889009664
  | .OPC_VMULWEV_W_HU => 1889042432
  | .OPC_VMULWEV_D_WU => 1889075200
  | .OPC_VMULWEV_Q_DU => 1889107968
  | .OPC_VMULWOD_H_BU => 1889140736
  | .OPC_VMULWOD_W_HU => 1889173504
  | .OPC_VMULWOD_D_WU => 1889206272
  | .OPC_VMULWOD_Q_DU => 1889239040
  | .OPC_VMULWEV_H_BU_B => 1889533952
  | .OPC_VMULWEV_W_HU_H => 1889566720
  | .OPC_VMULWEV_D_WU_W => 1889599488
  | .OPC_VMULWEV_Q_DU_D => 1889632256
  | .OPC_VMULWOD_H_BU_B => 1889665024
  | .OPC_VMULWOD_W_HU_H => 1889697792
  | .OPC_VMULWOD_D_WU_W => 1889730560
  | .OPC_VMULWOD_Q_DU_D => 1889763328
  | .OPC_VMADD_B => 1890058240
  | .OPC_VMADD_H => 1890091008
  | .OPC_VMADD_W => 1890123776
  | .OPC_VMADD_D => 1890156544
  | .OPC_VMSUB_B => 1890189312
  | .OPC_VMSUB_H => 1890222080
  | .OPC_VMSUB_W => 1890254848
  | .OPC_VMSUB_D => 1890287616
  | .OPC_VMADDWEV_H_B => 1890320384
  | .OPC_VMADDWEV_W_H => 1890353152
  | .OPC_VMADDWEV_D_W => 1890385920
  | .OPC_VMADDWEV_Q_D => 1890418688
  | .OPC_VMADDWOD_H_B => 1890451456
  | .OPC_VMADDWOD_W_H => 1890484224
  | .OPC_VMADDWOD_D_W => 1890516992
  | .OPC_VMADDWOD_Q_D => 1890549760
  | .OPC_VMADDWEV_H_BU => 1890844672
  | .OPC_VMADDWEV_W_HU => 1890877440
  | .OPC_VMADDWEV_D_WU => 1890910208
  | .OPC_VMADDWEV_Q_DU => 1890942976
  | .OPC_VMADDWOD_H_BU => 1890975744
  | .OPC_VMADDWOD_W_HU => 1891008512
  | .OPC_VMADDWOD_D_WU => 1891041280
  | .OPC_VMADDWOD_Q_DU => 1891074048
  | .OPC_VMADDWEV_H_BU_B => 1891368960
  | .OPC_VMADDWEV_W_HU_H => 1891401728
  | .OPC_VMADDWEV_D_WU_W => 1891434496
  | .OPC_VMADDWEV_Q_DU_D => 1891467264
  | .OPC_VMADDWOD_H_BU_B => 1891500032
  | .OPC_VMADDWOD_W_HU_H => 1891532800
  | .OPC_VMADDWOD_D_WU_W => 1891565568
  | .OPC_VMADDWOD_Q_DU_D => 1891598336
  | .OPC_VDIV_B => 1893728256
  | .OPC_VDIV_H => 1893761024
  | .OPC_VDIV_W => 1893793792
  | .OPC_VDIV_D => 1893826560
  | .OPC_VMOD_B => 1893859328
  | .OPC_VMOD_H => 1893892096
  | .OPC_VMOD_W => 1893924864
  | .OPC_VMOD_D => 1893957632
  | .OPC_VDIV_BU => 1893990400
  | .OPC_VDIV_HU => 1894023168
  | .OPC_VDIV_WU => 1894055936
  | .OPC_VDIV_DU => 1894088704
  | .OPC_VMOD_BU => 1894121472
  | .OPC_VMOD_HU => 1894154240
  | .OPC_VMOD_WU => 1894187008
  | .OPC_VMOD_DU => 1894219776
  | .OPC_VSLL_B => 1894252544
  | .OPC_VSLL_H => 1894285312
  | .OPC_VSLL_W => 1894318080
  | .OPC_VSLL_D => 1894350848
  | .OPC_VSRL_B => 1894383616
  | .OPC_VSRL_H => 1894416384
  | .OPC_VSRL_W => 1894449152
  | .OPC_VSRL_D => 1894481920
  | .OPC_VSRA_B => 1894514688
  | .OPC_VSRA_H => 1894547456
  | .OPC_VSRA_W => 1894580224
  | .OPC_VSRA_D => 1894612992
  | .OPC_VROTR_B => 1894645760
  | .OPC_VROTR_H => 1894678528
  | .OPC_VROTR_W => 1894711296
  | .OPC_VROTR_D => 1894744064
  | .OPC_VSRLR_B => 1894776832
  | .OPC_VSRLR_H => 1894809600
  | .OPC_VSRLR_W => 1894842368
  | .OPC_VSRLR_D => 1894875136
  | .OPC_VSRAR_B => 1894907904
  | .OPC_VSRAR_H => 1894940672
  | .OPC_VSRAR_W => 1894973440
  | .OPC_VSRAR_D => 1895006208
  | .OPC_VSRLN_B_H => 1895071744
  | .OPC_VSRLN_H_W => 1895104512
  | .OPC_VSRLN_W_D => 1895137280
  | .OPC_VSRAN_B_H => 1895202816
  | .OPC_VSRAN_H_W => 1895235584
  | .OPC_VSRAN_W_D => 1895268352
  | .OPC_VSRLRN_B_H => 1895333888
  | .OPC_VSRLRN_H_W => 1895366656
  | .OPC_VSRLRN_W_D => 1895399424
  | .OPC_VSRARN_B_H => 1895464960
  | .OPC_VSRARN_H_W => 1895497728
  | .OPC_VSRARN_W_D => 1895530496
  | .OPC_VSSRLN_B_H => 1895596032
  | .OPC_VSSRLN_H_W => 1895628800
  | .OPC_VSSRLN_W_D => 1895661568
  | .OPC_VSSRAN_B_H => 1895727104
  | .OPC_VSSRAN_H_W => 1895759872
  | .OPC_VSSRAN_W_D => 1895792640
  | .OPC_VSSRLRN_B_H => 1895858176
  | .OPC_VSSRLRN_H_W => 1895890944
  | .OPC_VSSRLRN_W_D => 1895923712
  | .OPC_VSSRARN_B_H => 1895989248
  | .OPC_VSSRARN_H_W => 1896022016
  | .OPC_VSSRARN_W_D => 1896054784
  | .OPC_VSSRLN_BU_H => 1896120320
  | .OPC_VSSRLN_HU_W => 1896153088
  | .OPC_VSSRLN_WU_D => 1896185856
  | .OPC_VSSRAN_BU_H => 1896251392
  | .OPC_VSSRAN_HU_W => 1896284160
  | .OPC_VSSRAN_WU_D => 1896316928
  | .OPC_VSSRLRN_BU_H => 1896382464
  | .OPC_VSSRLRN_HU_W => 1896415232
  | .OPC_VSSRLRN_WU_D => 1896448000
  | .OPC_VSSRARN_BU_H => 1896513536
  | .OPC_VSSRARN_HU_W => 1896546304
  | .OPC_VSSRARN_WU_D => 1896579072
  | .OPC_VBITCLR_B => 1896611840
  | .OPC_VBITCLR_H => 1896644608
  | .OPC_VBITCLR_W => 1896677376
  | .OPC_VBITCLR_D => 1896710144
  | .OPC_VBITSET_B => 1896742912
  | .OPC_VBITSET_H => 1896775680
  | .OPC_VBITSET_W => 1896808448
  | .OPC_VBITSET_D => 1896841216
  | .OPC_VBITREV_B => 1896873984
  | .OPC_VBITREV_H => 1896906752
  | .OPC_VBITREV_W => 1896939520
  | .OPC_VBITREV_D => 1896972288
  | .OPC_VPACKEV_B => 1897267200
  | .OPC_VPACKEV_H => 1897299968
  | .OPC_VPACKEV_W => 1897332736
  | .OPC_VPACKEV_D => 1897365504
  | .OPC_VPACKOD_B => 1897398272
  | .OPC_VPACKOD_H => 1897431040
  | .OPC_VPACKOD_W => 1897463808
  | .OPC_VPACKOD_D => 1897496576
  | .OPC_VILVL_B => 1897529344
  | .OPC_VILVL_H => 1897562112
  | .OPC_VILVL_W => 1897594880
  | .OPC_VILVL_D => 1897627648
  | .OPC_VILVH_B => 1897660416
  | .OPC_VILVH_H => 1897693184
  | .OPC_VILVH_W => 1897725952
  | .OPC_VILVH_D => 1897758720
  | .OPC_VPICKEV_B => 1897791488
  | .OPC_VPICKEV_H => 1897824256
  | .OPC_VPICKEV_W => 1897857024
  | .OPC_VPICKEV_D => 1897889792
  | .OPC_VPICKOD_B => 1897922560
  | .OPC_VPICKOD_H => 1897955328
  | .OPC_VPICKOD_W => 1897988096
  | .OPC_VPICKOD_D => 1898020864
  | .OPC_VREPLVE_B => 1898053632
  | .OPC_VREPLVE_H => 1898086400
  | .OPC_VREPLVE_W => 1898119168
  | .OPC_VREPLVE_D => 1898151936
  | .OPC_VAND_V => 1898315776
  | .OPC_VOR_V => 1898348544
  | .OPC_VXOR_V => 1898381312
  | .OPC_VNOR_V => 1898414080
  | .OPC_VANDN_V => 1898446848
  | .OPC_VORN_V => 1898479616
  | .OPC_VFRSTP_B => 1898643456
  | .OPC_VFRSTP_H => 1898676224
  | .OPC_VADD_Q => 1898774528
  | .OPC_VSUB_Q => 1898807296
  | .OPC_VSIGNCOV_B => 1898840064
  | .OPC_VSIGNCOV_H => 1898872832
  | .OPC_VSIGNCOV_W => 1898905600
  | .OPC_VSIGNCOV_D => 1898938368
  | .OPC_VFADD_S => 1899003904
  | .OPC_VFADD_D => 1899036672
  | .OPC_VFSUB_S => 1899134976
  | .OPC_VFSUB_D => 1899167744
  | .OPC_VFMUL_S => 1899528192
  | .OPC_VFMUL_D => 1899560960
  | .OPC_VFDIV_S => 1899659264
  | .OPC_VFDIV_D => 1899692032
  | .OPC_VFMAX_S => 1899790336
  | .OPC_VFMAX_D => 1899823104
  | .OPC_VFMIN_S => 1899921408
  | .OPC_VFMIN_D => 1899954176
  | .OPC_VFMAXA_S => 1900052480
  | .OPC_VFMAXA_D => 1900085248
  | .OPC_VFMINA_S => 1900183552
  | .OPC_VFMINA_D => 1900216320
  | .OPC_VFCVT_H_S => 1900412928
  | .OPC_VFCVT_S_D => 1900445696
  | .OPC_VFFINT_S_L => 1900544000
  | .OPC_VFTINT_W_D => 1900642304
  | .OPC_VFTINTRM_W_D => 1900675072
  | .OPC_VFTINTRP_W_D => 1900707840
  | .OPC_VFTINTRZ_W_D => 1900740608
  | .OPC_VFTINTRNE_W_D => 1900773376
  | .OPC_VSHUF_H => 1903853568
  | .OPC_VSHUF_W => 1903886336
  | .OPC_VSHUF_D => 1903919104
  | .OPC_VSEQI_B => 1920991232
  | .OPC_VSEQI_H => 1921024000
  | .OPC_VSEQI_W => 1921056768
  | .OPC_VSEQI_D => 1921089536
  | .OPC_VSLEI_B => 1921122304
  | .OPC_VSLEI_H => 1921155072
  | .OPC_VSLEI_W => 1921187840
  | .OPC_VSLEI_D => 1921220608
  | .OPC_VSLEI_BU => 1921253376
  | .OPC_VSLEI_HU => 1921286144
  | .OPC_VSLEI_WU => 1921318912
  | .OPC_VSLEI_DU => 1921351680
  | .OPC_VSLTI_B => 1921384448
  | .OPC_VSLTI_H => 1921417216
  | .OPC_VSLTI_W => 1921449984
  | .OPC_VSLTI_D => 1921482752
  | .OPC_VSLTI_BU => 1921515520
  | .OPC_VSLTI_HU => 1921548288
  | .OPC_VSLTI_WU => 1921581056
  | .OPC_VSLTI_DU => 1921613824
  | .OPC_VADDI_BU => 1921646592
  | .OPC_VADDI_HU => 1921679360
  | .OPC_VADDI_WU => 1921712128
  | .OPC_VADDI_DU => 1921744896
  | .OPC_VSUBI_BU => 1921777664
  | .OPC_VSUBI_HU => 1921810432
  | .OPC_VSUBI_WU => 1921843200
  | .OPC_VSUBI_DU => 1921875968
  | .OPC_VBSLL_V => 1921908736
  | .OPC_VBSRL_V => 1921941504
  | .OPC_VMAXI_B => 1922039808
  | .OPC_VMAXI_H => 1922072576
  | .OPC_VMAXI_W => 1922105344
  | .OPC_VMAXI_D => 1922138112
  | .OPC_VMINI_B => 1922170880
  | .OPC_VMINI_H => 1922203648
  | .OPC_VMINI_W => 1922236416
  | .OPC_VMINI_D => 1922269184
  | .OPC_VMAXI_BU => 1922301952
  | .OPC_VMAXI_HU => 1922334720
  | .OPC_VMAXI_WU => 1922367488
  | .OPC_VMAXI_DU => 1922400256
  | .OPC_VMINI_BU => 1922433024
  | .OPC_VMINI_HU => 1922465792
  | .OPC_VMINI_WU => 1922498560
  | .OPC_VMINI_DU => 1922531328
  | .OPC_VFRSTPI_B => 1922695168
  | .OPC_VFRSTPI_H => 1922727936
  | .OPC_VCLO_B => 1922826240
  | .OPC_VCLO_H => 1922827264
  | .OPC_VCLO_W => 1922828288
  | .OPC_VCLO_D => 1922829312
  | .OPC_VCLZ_B => 1922830336
  | .OPC_VCLZ_H => 1922831360
  | .OPC_VCLZ_W => 1922832384
  | .OPC_VCLZ_D => 1922833408
  | .OPC_VPCNT_B => 1922834432
  | .OPC_VPCNT_H => 1922835456
  | .OPC_VPCNT_W => 1922836480
  | .OPC_VPCNT_D => 1922837504
  | .OPC_VNEG_B => 1922838528
  | .OPC_VNEG_H => 1922839552
  | .OPC_VNEG_W => 1922840576
  | .OPC_VNEG_D => 1922841600
  | .OPC_VMSKLTZ_B => 1922842624
  | .OPC_VMSKLTZ_H => 1922843648
  | .OPC_VMSKLTZ_W => 1922844672
  | .OPC_VMSKLTZ_D => 1922845696
  | .OPC_VMSKGEZ_B => 1922846720
  | .OPC_VMSKNZ_B => 1922850816
  | .OPC_VSETEQZ_V => 1922865152
  | .OPC_VSETNEZ_V => 1922866176
  | .OPC_VSETANYEQZ_B => 1922867200
  | .OPC_VSETANYEQZ_H => 1922868224
  | .OPC_VSETANYEQZ_W => 1922869248
  | .OPC_VSETANYEQZ_D => 1922870272
  | .OPC_VSETALLNEZ_B => 1922871296
  | .OPC_VSETALLNEZ_H => 1922872320
  | .OPC_VSETALLNEZ_W => 1922873344
  | .OPC_VSETALLNEZ_D => 1922874368
  | .OPC_VFLOGB_S => 1922876416
  | .OPC_VFLOGB_D => 1922877440
  | .OPC_VFCLASS_S => 1922880512
  | .OPC_VFCLASS_D => 1922881536
  | .OPC_VFSQRT_S => 1922884608
  | .OPC_VFSQRT_D => 1922885632
  | .OPC_VFRECIP_S => 1922888704
  | .OPC_VFRECIP_D => 1922889728
  | .OPC_VFRSQRT_S => 1922892800
  | .OPC_VFRSQRT_D => 1922893824
  | .OPC_VFRINT_S => 1922905088
  | .OPC_VFRINT_D => 1922906112
  | .OPC_VFRINTRM_S => 1922909184
  | .OPC_VFRINTRM_D => 1922910208
  | .OPC_VFRINTRP_S => 1922913280
  | .OPC_VFRINTRP_D => 1922914304
  | .OPC_VFRINTRZ_S => 1922917376
  | .OPC_VFRINTRZ_D => 1922918400
  | .OPC_VFRINTRNE_S => 1922921472
  | .OPC_VFRINTRNE_D => 1922922496
  | .OPC_VFCVTL_S_H => 1922951168
  | .OPC_VFCVTH_S_H => 1922952192
  | .OPC_VFCVTL_D_S => 1922953216
  | .OPC_VFCVTH_D_S => 1922954240
  | .OPC_VFFINT_S_W => 1922957312
  | .OPC_VFFINT_S_WU => 1922958336
  | .OPC_VFFINT_D_L => 1922959360
  | .OPC_VFFINT_D_LU => 1922960384
  | .OPC_VFFINTL_D_W => 1922961408
  | .OPC_VFFINTH_D_W => 1922962432
  | .OPC_VFTINT_W_S => 1922969600
  | .OPC_VFTINT_L_D => 1922970624
  | .OPC_VFTINTRM_W_S => 1922971648
  | .OPC_VFTINTRM_L_D => 1922972672
  | .OPC_VFTINTRP_W_S => 1922973696
  | .OPC_VFTINTRP_L_D => 1922974720
  | .OPC_VFTINTRZ_W_S => 1922975744
  | .OPC_VFTINTRZ_L_D => 1922976768
  | .OPC_VFTINTRNE_W_S => 1922977792
  | .OPC_VFTINTRNE_L_D => 1922978816
  | .OPC_VFTINT_WU_S => 1922979840
  | .OPC_VFTINT_LU_D => 1922980864
  | .OPC_VFTINTRZ_WU_S => 1922985984
  | .OPC_VFTINTRZ_LU_D => 1922987008
  | .OPC_VFTINTL_L_S => 1922990080
  | .OPC_VFTINTH_L_S => 1922991104
  | .OPC_VFTINTRML_L_S => 1922992128
  | .OPC_VFTINTRMH_L_S => 1922993152
  | .OPC_VFTINTRPL_L_S => 1922994176
  | .OPC_VFTINTRPH_L_S => 1922995200
  | .OPC_VFTINTRZL_L_S => 1922996224
  | .OPC_VFTINTRZH_L_S => 1922997248
  | .OPC_VFTINTRNEL_L_S => 1922998272
  | .OPC_VFTINTRNEH_L_S => 1922999296
  | .OPC_VEXTH_H_B => 1923014656
  | .OPC_VEXTH_W_H => 1923015680
  | .OPC_VEXTH_D_W => 1923016704
  | .OPC_VEXTH_Q_D => 1923017728
  | .OPC_VEXTH_HU_BU => 1923018752
  | .OPC_VEXTH_WU_HU => 1923019776
  | .OPC_VEXTH_DU_WU => 1923020800
  | .OPC_VEXTH_QU_DU => 1923021824
  | .OPC_VREPLGR2VR_B => 1923022848
  | .OPC_VREPLGR2VR_H => 1923023872
  | .OPC_VREPLGR2VR_W => 1923024896
  | .OPC_VREPLGR2VR_D => 1923025920
  | .OPC_VROTRI_B => 1923096576
  | .OPC_VROTRI_H => 1923104768
  | .OPC_VROTRI_W => 1923121152
  | .OPC_VROTRI_D => 1923153920
  | .OPC_VSRLRI_B => 1923358720
  | .OPC_VSRLRI_H => 1923366912
  | .OPC_VSRLRI_W => 1923383296
  | .OPC_VSRLRI_D => 1923416064
  | .OPC_VSRARI_B => 1923620864
  | .OPC_VSRARI_H => 1923629056
  | .OPC_VSRARI_W => 1923645440
  | .OPC_VSRARI_D => 1923678208
  | .OPC_VINSGR2VR_B => 1928036352
  | .OPC_VINSGR2VR_H => 1928052736
  | .OPC_VINSGR2VR_W => 1928060928
  | .OPC_VINSGR2VR_D => 1928065024
  | .OPC_VPICKVE2GR_B => 1928298496
  | .OPC_VPICKVE2GR_H => 1928314880
  | .OPC_VPICKVE2GR_W => 1928323072
  | .OPC_VPICKVE2GR_D => 1928327168
  | .OPC_VPICKVE2GR_BU => 1928560640
  | .OPC_VPICKVE2GR_HU => 1928577024
  | .OPC_VPICKVE2GR_WU => 1928585216
  | .OPC_VPICKVE2GR_DU => 1928589312
  | .OPC_VREPLVEI_B => 1928822784
  | .OPC_VREPLVEI_H => 1928839168
  | .OPC_VREPLVEI_W => 1928847360
  | .OPC_VREPLVEI_D => 1928851456
  | .OPC_VSLLWIL_H_B => 1929912320
  | .OPC_VSLLWIL_W_H => 1929920512
  | .OPC_VSLLWIL_D_W => 1929936896
  | .OPC_VEXTL_Q_D => 1929969664
  | .OPC_VSLLWIL_HU_BU => 1930174464
  | .OPC_VSLLWIL_WU_HU => 1930182656
  | .OPC_VSLLWIL_DU_WU => 1930199040
  | .OPC_VEXTL_QU_DU => 1930231808
  | .OPC_VBITCLRI_B => 1930436608
  | .OPC_VBITCLRI_H => 1930444800
  | .OPC_VBITCLRI_W => 1930461184
  | .OPC_VBITCLRI_D => 1930493952
  | .OPC_VBITSETI_B => 1930698752
  | .OPC_VBITSETI_H => 1930706944
  | .OPC_VBITSETI_W => 1930723328
  | .OPC_VBITSETI_D => 1930756096
  | .OPC_VBITREVI_B => 1930960896
  | .OPC_VBITREVI_H => 1930969088
  | .OPC_VBITREVI_W => 1930985472
  | .OPC_VBITREVI_D => 1931018240
  | .OPC_VSAT_B => 1931747328
  | .OPC_VSAT_H => 1931755520
  | .OPC_VSAT_W => 1931771904
  | .OPC_VSAT_D => 1931804672
  | .OPC_VSAT_BU => 1932009472
  | .OPC_VSAT_HU => 1932017664
  | .OPC_VSAT_WU => 1932034048
  | .OPC_VSAT_DU => 1932066816
  | .OPC_VSLLI_B => 1932271616
  | .OPC_VSLLI_H => 1932279808
  | .OPC_VSLLI_W => 1932296192
  | .OPC_VSLLI_D => 1932328960
  | .OPC_VSRLI_B => 1932533760
  | .OPC_VSRLI_H => 1932541952
  | .OPC_VSRLI_W => 1932558336
  | .OPC_VSRLI_D => 1932591104
  | .OPC_VSRAI_B => 1932795904
  | .OPC_VSRAI_H => 1932804096
  | .OPC_VSRAI_W => 1932820480
  | .OPC_VSRAI_D => 1932853248
  | .OPC_VSRLNI_B_H => 1933590528
  | .OPC_VSRLNI_H_W => 1933606912
  | .OPC_VSRLNI_W_D => 1933639680
  | .OPC_VSRLNI_D_Q => 1933705216
  | .OPC_VSRLRNI_B_H => 1933852672
  | .OPC_VSRLRNI_H_W => 1933869056
  | .OPC_VSRLRNI_W_D => 1933901824
  | .OPC_VSRLRNI_D_Q => 1933967360
  | .OPC_VSSRLNI_B_H => 1934114816
  | .OPC_VSSRLNI_H_W => 1934131200
  | .OPC_VSSRLNI_W_D => 1934163968
  | .OPC_VSSRLNI_D_Q => 1934229504
  | .OPC_VSSRLNI_BU_H => 1934376960
  | .OPC_VSSRLNI_HU_W => 1934393344
  | .OPC_VSSRLNI_WU_D => 1934426112
  | .OPC_VSSRLNI_DU_Q => 1934491648
  | .OPC_VSSRLRNI_B_H => 1934639104
  | .OPC_VSSRLRNI_H_W => 1934655488
  | .OPC_VSSRLRNI_W_D => 1934688256
  | .OPC_VSSRLRNI_D_Q => 1934753792
  | .OPC_VSSRLRNI_BU_H => 1934901248
  | .OPC_VSSRLRNI_HU_W => 1934917632
  | .OPC_VSSRLRNI_WU_D => 1934950400
  | .OPC_VSSRLRNI_DU_Q => 1935015936
  | .OPC_VSRANI_B_H => 1935163392
  | .OPC_VSRANI_H_W => 1935179776
  | .OPC_VSRANI_W_D => 1935212544
  | .OPC_VSRANI_D_Q => 1935278080
  | .OPC_VSRARNI_B_H => 1935425536
  | .OPC_VSRARNI_H_W => 1935441920
  | .OPC_VSRARNI_W_D => 1935474688
  | .OPC_VSRARNI_D_Q => 1935540224
  | .OPC_VSSRANI_B_H => 1935687680
  | .OPC_VSSRANI_H_W => 1935704064
  | .OPC_VSSRANI_W_D => 1935736832
  | .OPC_VSSRANI_D_Q => 1935802368
  | .OPC_VSSRANI_BU_H => 1935949824
  | .OPC_VSSRANI_HU_W => 1935966208
  | .OPC_VSSRANI_WU_D => 1935998976
  | .OPC_VSSRANI_DU_Q => 1936064512
  | .OPC_VSSRARNI_B_H => 1936211968
  | .OPC_VSSRARNI_H_W => 1936228352
  | .OPC_VSSRARNI_W_D => 1936261120
  | .OPC_VSSRARNI_D_Q => 1936326656
  | .OPC_VSSRARNI_BU_H => 1936474112
  | .OPC_VSSRARNI_HU_W => 1936490496
  | .OPC_VSSRARNI_WU_D => 1936523264
  | .OPC_VSSRARNI_DU_Q => 1936588800
  | .OPC_VEXTRINS_D => 1937768448
  | .OPC_VEXTRINS_W => 1938030592
  | .OPC_VEXTRINS_H => 1938292736
  | .OPC_VEXTRINS_B => 1938554880
  | .OPC_VSHUF4I_B => 1938817024
  | .OPC_VSHUF4I_H => 1939079168
  | .OPC_VSHUF4I_W => 1939341312
  | .OPC_VSHUF4I_D => 1939603456
  | .OPC_VBITSELI_B => 1942224896
  | .OPC_VANDI_B => 1943011328
  | .OPC_VORI_B => 1943273472
  | .OPC_VXORI_B => 1943535616
  | .OPC_VNORI_B => 1943797760
  | .OPC_VLDI => 1944059904
  | .OPC_VPERMI_W => 1944322048

/-- `insn2format`. -/
def insn2format : LoongArchOpc → Formats
  | .OPC_INVALID => .cv
  | .OPC_CLO_W => .format_0
  | .OPC_CLZ_W => .format_0
  | .OPC_CTO_W => .format_0
  | .OPC_CTZ_W => .format_0
  | .OPC_CLO_D => .format_0
  | .OPC_CLZ_D => .format_0
  | .OPC_CTO_D => .format_0
  | .OPC_CTZ_D => .format_0
  | .OPC_REVB_2H => .format_0
  | .OPC_REVB_4H => .format_0
  | .OPC_REVB_2W => .format_0
  | .OPC_REVB_D => .format_0
  | .OPC_REVH_2W => .format_0
  | .OPC_REVH_D => .format_0
  | .OPC_BITREV_4B => .format_0
  | .OPC_BITREV_8B => .format_0
  | .OPC_BITREV_W => .format_0
  | .OPC_BITREV_D => .format_0
  | .OPC_EXT_W_H => .format_0
  | .OPC_EXT_W_B => .format_0
  | .OPC_RDTIMEL_W => .format_0
  | .OPC_RDTIMEH_W => .format_0
  | .OPC_RDTIME_D => .format_0
  | .OPC_CPUCFG => .format_0
  | .OPC_ASRTLE_D => .format_1
  | .OPC_ASRTGT_D => .format_1
  | .OPC_ALSL_W => .format_2
  | .OPC_ALSL_WU => .format_2
  | .OPC_BYTEPICK_W => .format_2
  | .OPC_BYTEPICK_D => .format_3
  | .OPC_ADD_W => .format_4
  | .OPC_ADD_D => .format_4
  | .OPC_SUB_W => .format_4
  | .OPC_SUB_D => .format_4
  | .OPC_SLT => .format_4
  | .OPC_SLTU => .format_4
  | .OPC_MASKEQZ => .format_4
  | .OPC_MASKNEZ => .format_4
  | .OPC_NOR => .format_4
  | .OPC_AND => .format_4
  | .OPC_OR => .format_4
  | .OPC_XOR => .format_4
  | .OPC_ORN => .format_4
  | .OPC_ANDN => .format_4
  | .OPC_SLL_W => .format_4
  | .OPC_SRL_W => .format_4
  | .OPC_SRA_W => .format_4
  | .OPC_SLL_D => .format_4
  | .OPC_SRL_D => .format_4
  | .OPC_SRA_D => .format_4
  | .OPC_ROTR_W => .format_4
  | .OPC_ROTR_D => .format_4
  | .OPC_MUL_W => .format_4
  | .OPC_MULH_W => .format_4
  | .OPC_MULH_WU => .format_4
  | .OPC_MUL_D => .format_4
  | .OPC_MULH_D => .format_4
  | .OPC_MULH_DU => .format_4
  | .OPC_MULW_D_W => .format_4
  | .OPC_MULW_D_WU => .format_4
  | .OPC_DIV_W => .format_4
  | .OPC_MOD_W => .format_4
  | .OPC_DIV_WU => .format_4
  | .OPC_MOD_WU => .format_4
  | .OPC_DIV_D => .format_4
  | .OPC_MOD_D => .format_4
  | .OPC_DIV_DU => .format_4
  | .OPC_MOD_DU => .format_4
  | .OPC_CRC_W_B_W => .format_4
  | .OPC_CRC_W_H_W => .format_4
  | .OPC_CRC_W_W_W => .format_4
  | .OPC_CRC_W_D_W => .format_4
  | .OPC_CRCC_W_B_W => .format_4
  | .OPC_CRCC_W_H_W => .format_4
  | .OPC_CRCC_W_W_W => .format_4
  | .OPC_CRCC_W_D_W => .format_4
  | .OPC_BREAK => .format_5
  | .OPC_DBCL => .format_5
  | .OPC_SYSCALL => .format_5
  | .OPC_ALSL_D => .format_2
  | .OPC_SLLI_W => .format_6
  | .OPC_SLLI_D => .format_7
  | .OPC_SRLI_W => .format_6
  | .OPC_SRLI_D => .format_7
  | .OPC_SRAI_W => .format_6
  | .OPC_SRAI_D => .format_7
  | .OPC_ROTRI_W => .format_6
  | .OPC_ROTRI_D => .format_7
  | .OPC_BSTRINS_W => .format_8
  | .OPC_BSTRPICK_W => .format_8
  | .OPC_BSTRINS_D => .format_9
  | .OPC_BSTRPICK_D => .format_9
  | .OPC_FADD_S => .format_10
  | .OPC_FADD_D => .format_10
  | .OPC_FSUB_S => .format_10
  | .OPC_FSUB_D => .format_10
  | .OPC_FMUL_S => .format_10
  | .OPC_FMUL_D => .format_10
  | .OPC_FDIV_S => .format_10
  | .OPC_FDIV_D => .format_10
  | .OPC_FMAX_S => .format_10
  | .OPC_FMAX_D => .format_10
  | .OPC_FMIN_S => .format_10
  | .OPC_FMIN_D => .format_10
  | .OPC_FMAXA_S => .format_10
  | .OPC_FMAXA_D => .format_10
  | .OPC_FMINA_S => .format_10
  | .OPC_FMINA_D => .format_10
  | .OPC_FSCALEB_S => .format_10
  | .OPC_FSCALEB_D => .format_10
  | .OPC_FCOPYSIGN_S => .format_10
  | .OPC_FCOPYSIGN_D => .format_10
  | .OPC_FABS_S => .format_11
  | .OPC_FABS_D => .format_11
  | .OPC_FNEG_S => .format_11
  | .OPC_FNEG_D => .format_11
  | .OPC_FLOGB_S => .format_11
  | .OPC_FLOGB_D => .format_11
  | .OPC_FCLASS_S => .format_11
  | .OPC_FCLASS_D => .format_11
  | .OPC_FSQRT_S => .format_11
  | .OPC_FSQRT_D => .format_11
  | .OPC_FRECIP_S => .format_11
  | .OPC_FRECIP_D => .format_11
  | .OPC_FRSQRT_S => .format_11
  | .OPC_FRSQRT_D => .format_11
  | .OPC_FMOV_S => .format_11
  | .OPC_FMOV_D => .format_11
  | .OPC_MOVGR2FR_W => .format_12
  | .OPC_MOVGR2FR_D => .format_12
  | .OPC_MOVGR2FRH_W => .format_12
  | .OPC_MOVFR2GR_S => .format_13
  | .OPC_MOVFR2GR_D => .format_13
  | .OPC_MOVFRH2GR_S => .format_13
  | .OPC_MOVGR2FCSR => .format_14
  | .OPC_MOVFCSR2GR => .format_15
  | .OPC_MOVFR2CF => .format_16
  | .OPC_MOVCF2FR => .format_17
  | .OPC_MOVGR2CF => .format_18
  | .OPC_MOVCF2GR => .format_19
  | .OPC_FCVT_S_D => .format_11
  | .OPC_FCVT_D_S => .format_11
  | .OPC_FTINTRM_W_S => .format_11
  | .OPC_FTINTRM_W_D => .format_11
  | .OPC_FTINTRM_L_S => .format_11
  | .OPC_FTINTRM_L_D => .format_11
  | .OPC_FTINTRP_W_S => .format_11
  | .OPC_FTINTRP_W_D => .format_11
  | .OPC_FTINTRP_L_S => .format_11
  | .OPC_FTINTRP_L_D => .format_11
  | .OPC_FTINTRZ_W_S => .format_11
  | .OPC_FTINTRZ_W_D => .format_11
  | .OPC_FTINTRZ_L_S => .format_11
  | .OPC_FTINTRZ_L_D => .format_11
  | .OPC_FTINTRNE_W_S => .format_11
  | .OPC_FTINTRNE_W_D => .format_11
  | .OPC_FTINTRNE_L_S => .format_11
  | .OPC_FTINTRNE_L_D => .format_11
  | .OPC_FTINT_W_S => .format_11
  | .OPC_FTINT_W_D => .format_11
  | .OPC_FTINT_L_S => .format_11
  | .OPC_FTINT_L_D => .format_11
  | .OPC_FFINT_S_W => .format_11
  | .OPC_FFINT_S_L => .format_11
  | .OPC_FFINT_D_W => .format_11
  | .OPC_FFINT_D_L => .format_11
  | .OPC_FRINT_S => .format_11
  | .OPC_FRINT_D => .format_11
  | .OPC_SLTI => .format_20
  | .OPC_SLTUI => .format_20
  | .OPC_ADDI_W => .format_20
  | .OPC_ADDI_D => .format_20
  | .OPC_LU52I_D => .format_20
  | .OPC_ANDI => .format_21
  | .OPC_ORI => .format_21
  | .OPC_XORI => .format_21
  | .OPC_CSRRD => .format_22
  | .OPC_CSRWR => .format_22
  | .OPC_CSRXCHG => .format_23
  | .OPC_CACOP => .format_24
  | .OPC_LDDIR => .format_25
  | .OPC_LDPTE => .format_26
  | .OPC_IOCSRRD_B => .format_0
  | .OPC_IOCSRRD_H => .format_0
  | .OPC_IOCSRRD_W => .format_0
  | .OPC_IOCSRRD_D => .format_0
  | .OPC_IOCSRWR_B => .format_0
  | .OPC_IOCSRWR_H => .format_0
  | .OPC_IOCSRWR_W => .format_0
  | .OPC_IOCSRWR_D => .format_0
  | .OPC_TLBCLR => .format_27
  | .OPC_TLBFLUSH => .format_27
  | .OPC_TLBSRCH => .format_27
  | .OPC_TLBRD => .format_27
  | .OPC_TLBWR => .format_27
  | .OPC_TLBFILL => .format_27
  | .OPC_ERTN => .format_27
  | .OPC_IDLE => .format_28
  | .OPC_INVTLB => .format_29
  | .OPC_FMADD_S => .format_30
  | .OPC_FMADD_D => .format_30
  | .OPC_FMSUB_S => .format_30
  | .OPC_FMSUB_D => .format_30
  | .OPC_FNMADD_S => .format_30
  | .OPC_FNMADD_D => .format_30
  | .OPC_FNMSUB_S => .format_30
  | .OPC_FNMSUB_D => .format_30
  | .OPC_FCMP_CAF_S => .format_31
  | .OPC_FCMP_SAF_S => .format_31
  | .OPC_FCMP_CLT_S => .format_31
  | .OPC_FCMP_STL_S => .format_31
  | .OPC_FCMP_CEQ_S => .format_31
  | .OPC_FCMP_SEQ_S => .format_31
  | .OPC_FCMP_CLE_S => .format_31
  | .OPC_FCMP_SLE_S => .format_31
  | .OPC_FCMP_CUN_S => .format_31
  | .OPC_FCMP_SUN_S => .format_31
  | .OPC_FCMP_CULT_S => .format_31
  | .OPC_FCMP_SULT_S => .format_31
  | .OPC_FCMP_CUEQ_S => .format_31
  | .OPC_FCMP_SUEQ_S => .format_31
  | .OPC_FCMP_CULE_S => .format_31
  | .OPC_FCMP_SULE_S => .format_31
  | .OPC_FCMP_CNE_S => .format_31
  | .OPC_FCMP_SNE_S => .format_31
  | .OPC_FCMP_COR_S => .format_31
  | .OPC_FCMP_SOR_S => .format_31
  | .OPC_FCMP_CUNE_S => .format_31
  | .OPC_FCMP_SUNE_S => .format_31
  | .OPC_FCMP_CAF_D => .format_31
  | .OPC_FCMP_SAF_D => .format_31
  | .OPC_FCMP_CLT_D => .format_31
  | .OPC_FCMP_STL_D => .format_31
  | .OPC_FCMP_CEQ_D => .format_31
  | .OPC_FCMP_SEQ_D => .format_31
  | .OPC_FCMP_CLE_D => .format_31
  | .OPC_FCMP_SLE_D => .format_31
  | .OPC_FCMP_CUN_D => .format_31
  | .OPC_FCMP_SUN_D => .format_31
  | .OPC_FCMP_CULT_D => .format_31
  | .OPC_FCMP_SULT_D => .format_31
  | .OPC_FCMP_CUEQ_D => .format_31
  | .OPC_FCMP_SUEQ_D => .format_31
  | .OPC_FCMP_CULE_D => .format_31
  | .OPC_FCMP_SULE_D => .format_31
  | .OPC_FCMP_CNE_D => .format_31
  | .OPC_FCMP_SNE_D => .format_31
  | .OPC_FCMP_COR_D => .format_31
  | .OPC_FCMP_SOR_D => .format_31
  | .OPC_FCMP_CUNE_D => .format_31
  | .OPC_FCMP_SUNE_D => .format_31
  | .OPC_FSEL => .format_32
  | .OPC_ADDU16I_D => .format_33
  | .OPC_LU12I_W => .format_34
  | .OPC_LU32I_D => .format_34
  | .OPC_PCADDI => .format_34
  | .OPC_PCALAU12I => .format_34
  | .OPC_PCADDU12I => .format_34
  | .OPC_PCADDU18I => .format_34
  | .OPC_LL_W => .format_35
  | .OPC_SC_W => .format_35
  | .OPC_LL_D => .format_35
  | .OPC_SC_D => .format_35
  | .OPC_LDPTR_W => .format_35
  | .OPC_STPTR_W => .format_35
  | .OPC_LDPTR_D => .format_35
  | .OPC_STPTR_D => .format_35
  | .OPC_LD_B => .format_20
  | .OPC_LD_H => .format_20
  | .OPC_LD_W => .format_20
  | .OPC_LD_D => .format_20
  | .OPC_ST_B => .format_20
  | .OPC_ST_H => .format_20
  | .OPC_ST_W => .format_20
  | .OPC_ST_D => .format_20
  | .OPC_LD_BU => .format_20
  | .OPC_LD_HU => .format_20
  | .OPC_LD_WU => .format_20
  | .OPC_PRELD => .format_36
  | .OPC_FLD_S => .format_37
  | .OPC_FST_S => .format_37
  | .OPC_FLD_D => .format_37
  | .OPC_FST_D => .format_37
  | .OPC_LDX_B => .format_4
  | .OPC_LDX_H => .format_4
  | .OPC_LDX_W => .format_4
  | .OPC_LDX_D => .format_4
  | .OPC_STX_B => .format_4
  | .OPC_STX_H => .format_4
  | .OPC_STX_W => .format_4
  | .OPC_STX_D => .format_4
  | .OPC_LDX_BU => .format_4
  | .OPC_LDX_HU => .format_4
  | .OPC_LDX_WU => .format_4
  | .OPC_PRELDX => .format_38
  | .OPC_FLDX_S => .format_39
  | .OPC_FLDX_D => .format_39
  | .OPC_FSTX_S => .format_39
  | .OPC_FSTX_D => .format_39
  | .OPC_AMSWAP_W => .format_4
  | .OPC_AMSWAP_D => .format_4
  | .OPC_AMADD_W => .format_4
  | .OPC_AMADD_D => .format_4
  | .OPC_AMAND_W => .format_4
  | .OPC_AMAND_D => .format_4
  | .OPC_AMOR_W => .format_4
  | .OPC_AMOR_D => .format_4
  | .OPC_AMXOR_W => .format_4
  | .OPC_AMXOR_D => .format_4
  | .OPC_AMMAX_W => .format_4
  | .OPC_AMMAX_D => .format_4
  | .OPC_AMMIN_W => .format_4
  | .OPC_AMMIN_D => .format_4
  | .OPC_AMMAX_WU => .format_4
  | .OPC_AMMAX_DU => .format_4
  | .OPC_AMMIN_WU => .format_4
  | .OPC_AMMIN_DU => .format_4
  | .OPC_AMSWAP_DB_W => .format_4
  | .OPC_AMSWAP_DB_D => .format_4
  | .OPC_AMADD_DB_W => .format_4
  | .OPC_AMADD_DB_D => .format_4
  | .OPC_AMAND_DB_W => .format_4
  | .OPC_AMAND_DB_D => .format_4
  | .OPC_AMOR_DB_W => .format_4
  | .OPC_AMOR_DB_D => .format_4
  | .OPC_AMXOR_DB_W => .format_4
  | .OPC_AMXOR_DB_D => .format_4
  | .OPC_AMMAX_DB_W => .format_4
  | .OPC_AMMAX_DB_D => .format_4
  | .OPC_AMMIN_DB_W => .format_4
  | .OPC_AMMIN_DB_D => .format_4
  | .OPC_AMMAX_DB_WU => .format_4
  | .OPC_AMMAX_DB_DU => .format_4
  | .OPC_AMMIN_DB_WU => .format_4
  | .OPC_AMMIN_DB_DU => .format_4
  | .OPC_DBAR => .format_40
  | .OPC_IBAR => .format_41
  | .OPC_FLDGT_S => .format_39
  | .OPC_FLDGT_D => .format_39
  | .OPC_FLDLE_S => .format_39
  | .OPC_FLDLE_D => .format_39
  | .OPC_FSTGT_S => .format_39
  | .OPC_FSTGT_D => .format_39
  | .OPC_FSTLE_S => .format_39
  | .OPC_FSTLE_D => .format_39
  | .OPC_LDGT_B => .format_4
  | .OPC_LDGT_H => .format_4
  | .OPC_LDGT_W => .format_4
  | .OPC_LDGT_D => .format_4
  | .OPC_LDLE_B => .format_4
  | .OPC_LDLE_H => .format_4
  | .OPC_LDLE_W => .format_4
  | .OPC_LDLE_D => .format_4
  | .OPC_STGT_B => .format_4
  | .OPC_STGT_H => .format_4
  | .OPC_STGT_W => .format_4
  | .OPC_STGT_D => .format_4
  | .OPC_STLE_B => .format_4
  | .OPC_STLE_H => .format_4
  | .OPC_STLE_W => .format_4
  | .OPC_STLE_D => .format_4
  | .OPC_BEQZ => .format_42
  | .OPC_BNEZ => .format_42
  | .OPC_BCEQZ => .format_43
  | .OPC_BCNEZ => .format_43
  | .OPC_JIRL => .format_44
  | .OPC_B => .format_45
  | .OPC_BL => .format_45
  | .OPC_BEQ => .format_44
  | .OPC_BNE => .format_44
  | .OPC_BLT => .format_44
  | .OPC_BGE => .format_44
  | .OPC_BLTU => .format_44
  | .OPC_BGEU => .format_44
  | .OPC_GR2SCR => .format_46
  | .OPC_SRC2GR => .format_47
  | .OPC_X86MTTOP => .format_48
  | .OPC_X86MFTOP => .format_49
  | .OPC_SETX86LOOPE => .format_0
  | .OPC_SETX86LOOPNE => .format_0
  | .OPC_X86INC_B => .format_50
  | .OPC_X86INC_H => .format_50
  | .OPC_X86INC_W => .format_50
  | .OPC_X86INC_D => .format_50
  | .OPC_X86DEC_B => .format_50
  | .OPC_X86DEC_H => .format_50
  | .OPC_X86DEC_W => .format_50
  | .OPC_X86DEC_D => .format_50
  | .OPC_X86SETTM => .format_27
  | .OPC_X86CLRTM => .format_27
  | .OPC_X86INCTOP => .format_27
  | .OPC_X86DECTOP => .format_27
  | .OPC_ROTR_B => .format_4
  | .OPC_ROTR_H => .format_4
  | .OPC_ADDU12I_W => .format_51
  | .OPC_ADDU12I_D => .format_51
  | .OPC_HVCL => .format_5
  | .OPC_ADC_B => .format_4
  | .OPC_ADC_H => .format_4
  | .OPC_ADC_W => .format_4
  | .OPC_ADC_D => .format_4
  | .OPC_SBC_B => .format_4
  | .OPC_SBC_H => .format_4
  | .OPC_SBC_W => .format_4
  | .OPC_SBC_D => .format_4
  | .OPC_RCR_B => .format_4
  | .OPC_RCR_H => .format_4
  | .OPC_RCR_W => .format_4
  | .OPC_RCR_D => .format_4
  | .OPC_ARMMOVE => .format_52
  | .OPC_SETX86J => .format_53
  | .OPC_SETARMJ => .format_53
  | .OPC_ARMADD_W => .format_54
  | .OPC_ARMSUB_W => .format_54
  | .OPC_ARMADC_W => .format_54
  | .OPC_ARMSBC_W => .format_54
  | .OPC_ARMAND_W => .format_54
  | .OPC_ARMOR_W => .format_54
  | .OPC_ARMXOR_W => .format_54
  | .OPC_ARMSLL_W => .format_54
  | .OPC_ARMSRL_W => .format_54
  | .OPC_ARMSRA_W => .format_54
  | .OPC_ARMROTR_W => .format_54
  | .OPC_ARMSLLI_W => .format_54
  | .OPC_ARMSRLI_W => .format_54
  | .OPC_ARMSRAI_W => .format_54
  | .OPC_ARMROTRI_W => .format_54
  | .OPC_X86MUL_B => .format_1
  | .OPC_X86MUL_H => .format_1
  | .OPC_X86MUL_W => .format_1
  | .OPC_X86MUL_D => .format_1
  | .OPC_X86MUL_BU => .format_1
  | .OPC_X86MUL_HU => .format_1
  | .OPC_X86MUL_WU => .format_1
  | .OPC_X86MUL_DU => .format_1
  | .OPC_X86ADD_WU => .format_1
  | .OPC_X86ADD_DU => .format_1
  | .OPC_X86SUB_WU => .format_1
  | .OPC_X86SUB_DU => .format_1
  | .OPC_X86ADD_B => .format_1
  | .OPC_X86ADD_H => .format_1
  | .OPC_X86ADD_W => .format_1
  | .OPC_X86ADD_D => .format_1
  | .OPC_X86SUB_B => .format_1
  | .OPC_X86SUB_H => .format_1
  | .OPC_X86SUB_W => .format_1
  | .OPC_X86SUB_D => .format_1
  | .OPC_X86ADC_B => .format_1
  | .OPC_X86ADC_H => .format_1
  | .OPC_X86ADC_W => .format_1
  | .OPC_X86ADC_D => .format_1
  | .OPC_X86SBC_B => .format_1
  | .OPC_X86SBC_H => .format_1
  | .OPC_X86SBC_W => .format_1
  | .OPC_X86SBC_D => .format_1
  | .OPC_X86SLL_B => .format_1
  | .OPC_X86SLL_H => .format_1
  | .OPC_X86SLL_W => .format_1
  | .OPC_X86SLL_D => .format_1
  | .OPC_X86SRL_B => .format_1
  | .OPC_X86SRL_H => .format_1
  | .OPC_X86SRL_W => .format_1
  | .OPC_X86SRL_D => .format_1
  | .OPC_X86SRA_B => .format_1
  | .OPC_X86SRA_H => .format_1
  | .OPC_X86SRA_W => .format_1
  | .OPC_X86SRA_D => .format_1
  | .OPC_X86ROTR_B => .format_1
  | .OPC_X86ROTR_H => .format_1
  | .OPC_X86ROTR_D => .format_1
  | .OPC_X86ROTR_W => .format_1
  | .OPC_X86ROTL_B => .format_1
  | .OPC_X86ROTL_H => .format_1
  | .OPC_X86ROTL_W => .format_1
  | .OPC_X86ROTL_D => .format_1
  | .OPC_X86RCR_B => .format_1
  | .OPC_X86RCR_H => .format_1
  | .OPC_X86RCR_W => .format_1
  | .OPC_X86RCR_D => .format_1
  | .OPC_X86RCL_B => .format_1
  | .OPC_X86RCL_H => .format_1
  | .OPC_X86RCL_W => .format_1
  | .OPC_X86RCL_D => .format_1
  | .OPC_X86AND_B => .format_1
  | .OPC_X86AND_H => .format_1
  | .OPC_X86AND_W => .format_1
  | .OPC_X86AND_D => .format_1
  | .OPC_X86OR_B => .format_1
  | .OPC_X86OR_H => .format_1
  | .OPC_X86OR_W => .format_1
  | .OPC_X86OR_D => .format_1
  | .OPC_X86XOR_B => .format_1
  | .OPC_X86XOR_H => .format_1
  | .OPC_X86XOR_W => .format_1
  | .OPC_X86XOR_D => .format_1
  | .OPC_ARMNOT_W => .format_55
  | .OPC_ARMMOV_W => .format_55
  | .OPC_ARMMOV_D => .format_55
  | .OPC_ARMRRX_W => .format_55
  | .OPC_ROTRI_B => .format_56
  | .OPC_ROTRI_H => .format_57
  | .OPC_RCRI_B => .format_56
  | .OPC_RCRI_H => .format_57
  | .OPC_RCRI_W => .format_6
  | .OPC_RCRI_D => .format_7
  | .OPC_X86SLLI_B => .format_58
  | .OPC_X86SLLI_H => .format_59
  | .OPC_X86SLLI_W => .format_60
  | .OPC_X86SLLI_D => .format_61
  | .OPC_X86SRLI_B => .format_58
  | .OPC_X86SRLI_H => .format_59
  | .OPC_X86SRLI_W => .format_60
  | .OPC_X86SRLI_D => .format_61
  | .OPC_X86SRAI_B => .format_58
  | .OPC_X86SRAI_H => .format_59
  | .OPC_X86SRAI_W => .format_60
  | .OPC_X86SRAI_D => .format_61
  | .OPC_X86ROTRI_B => .format_58
  | .OPC_X86ROTRI_H => .format_59
  | .OPC_X86ROTRI_W => .format_60
  | .OPC_X86ROTRI_D => .format_61
  | .OPC_X86RCRI_B => .format_58
  | .OPC_X86RCRI_H => .format_59
  | .OPC_X86RCRI_W => .format_60
  | .OPC_X86RCRI_D => .format_61
  | .OPC_X86ROTLI_B => .format_58
  | .OPC_X86ROTLI_H => .format_59
  | .OPC_X86ROTLI_W => .format_60
  | .OPC_X86ROTLI_D => .format_61
  | .OPC_X86RCLI_B => .format_58
  | .OPC_X86RCLI_H => .format_59
  | .OPC_X86RCLI_W => .format_60
  | .OPC_X86RCLI_D => .format_61
  | .OPC_X86SETTAG => .format_62
  | .OPC_X86MFFLAG => .format_63
  | .OPC_X86MTFLAG => .format_63
  | .OPC_ARMMFFLAG => .format_63
  | .OPC_ARMMTFLAG => .format_63
  | .OPC_FCVT_LD_D => .format_11
  | .OPC_FCVT_UD_D => .format_11
  | .OPC_FCVT_D_LC => .format_10
  | .OPC_GCSRRD => .format_22
  | .OPC_GCSRWR => .format_22
  | .OPC_GCSRXCHG => .format_23
  | .OPC_GTLBCLR => .format_27
  | .OPC_GTLBFLUSH => .format_27
  | .OPC_GTLBSRCH => .format_27
  | .OPC_GTLBRD => .format_27
  | .OPC_GTLBWR => .format_27
  | .OPC_GTLBFILL => .format_27
  | .OPC_SCFGR_W => .format_0
  | .OPC_SCFGR_D => .format_0
  | .OPC_SCFGW_W => .format_0
  | .OPC_SCFGW_D => .format_0
  | .OPC_SNOP => .format_27
  | .OPC_LDL_W => .format_20
  | .OPC_LDR_W => .format_20
  | .OPC_LDL_D => .format_20
  | .OPC_LDR_D => .format_20
  | .OPC_STL_W => .format_20
  | .OPC_STR_W => .format_20
  | .OPC_STL_D => .format_20
  | .OPC_STR_D => .format_20
  | .OPC_JISCR0 => .format_64
  | .OPC_JISCR1 => .format_64
  | .OPC_VADD_B => .vvv
  | .OPC_VADD_H => .vvv
  | .OPC_VADD_W => .vvv
  | .OPC_VADD_D => .vvv
  | .OPC_VADD_Q => .vvv
  | .OPC_VSUB_B => .vvv
  | .OPC_VSUB_H => .vvv
  | .OPC_VSUB_W => .vvv
  | .OPC_VSUB_D => .vvv
  | .OPC_VSUB_Q => .vvv
  | .OPC_VADDI_BU => .vv_ui5
  | .OPC_VADDI_HU => .vv_ui5
  | .OPC_VADDI_WU => .vv_ui5
  | .OPC_VADDI_DU => .vv_ui5
  | .OPC_VSUBI_BU => .vv_ui5
  | .OPC_VSUBI_HU => .vv_ui5
  | .OPC_VSUBI_WU => .vv_ui5
  | .OPC_VSUBI_DU => .vv_ui5
  | .OPC_VNEG_B => .vv
  | .OPC_VNEG_H => .vv
  | .OPC_VNEG_W => .vv
  | .OPC_VNEG_D => .vv
  | .OPC_VSADD_B => .vvv
  | .OPC_VSADD_H => .vvv
  | .OPC_VSADD_W => .vvv
  | .OPC_VSADD_D => .vvv
  | .OPC_VSADD_BU => .vvv
  | .OPC_VSADD_HU => .vvv
  | .OPC_VSADD_WU => .vvv
  | .OPC_VSADD_DU => .vvv
  | .OPC_VSSUB_B => .vvv
  | .OPC_VSSUB_H => .vvv
  | .OPC_VSSUB_W => .vvv
  | .OPC_VSSUB_D => .vvv
  | .OPC_VSSUB_BU => .vvv
  | .OPC_VSSUB_HU => .vvv
  | .OPC_VSSUB_WU => .vvv
  | .OPC_VSSUB_DU => .vvv
  | .OPC_VHADDW_H_B => .vvv
  | .OPC_VHADDW_W_H => .vvv
  | .OPC_VHADDW_D_W => .vvv
  | .OPC_VHADDW_Q_D => .vvv
  | .OPC_VHADDW_HU_BU => .vvv
  | .OPC_VHADDW_WU_HU => .vvv
  | .OPC_VHADDW_DU_WU => .vvv
  | .OPC_VHADDW_QU_DU => .vvv
  | .OPC_VHSUBW_H_B => .vvv
  | .OPC_VHSUBW_W_H => .vvv
  | .OPC_VHSUBW_D_W => .vvv
  | .OPC_VHSUBW_Q_D => .vvv
  | .OPC_VHSUBW_HU_BU => .vvv
  | .OPC_VHSUBW_WU_HU => .vvv
  | .OPC_VHSUBW_DU_WU => .vvv
  | .OPC_VHSUBW_QU_DU => .vvv
  | .OPC_VADDWEV_H_B => .vvv
  | .OPC_VADDWEV_W_H => .vvv
  | .OPC_VADDWEV_D_W => .vvv
  | .OPC_VADDWEV_Q_D => .vvv
  | .OPC_VADDWOD_H_B => .vvv
  | .OPC_VADDWOD_W_H => .vvv
  | .OPC_VADDWOD_D_W => .vvv
  | .OPC_VADDWOD_Q_D => .vvv
  | .OPC_VSUBWEV_H_B => .vvv
  | .OPC_VSUBWEV_W_H => .vvv
  | .OPC_VSUBWEV_D_W => .vvv
  | .OPC_VSUBWEV_Q_D => .vvv
  | .OPC_VSUBWOD_H_B => .vvv
  | .OPC_VSUBWOD_W_H => .vvv
  | .OPC_VSUBWOD_D_W => .vvv
  | .OPC_VSUBWOD_Q_D => .vvv
  | .OPC_VADDWEV_H_BU => .vvv
  | .OPC_VADDWEV_W_HU => .vvv
  | .OPC_VADDWEV_D_WU => .vvv
  | .OPC_VADDWEV_Q_DU => .vvv
  | .OPC_VADDWOD_H_BU => .vvv
  | .OPC_VADDWOD_W_HU => .vvv
  | .OPC_VADDWOD_D_WU => .vvv
  | .OPC_VADDWOD_Q_DU => .vvv
  | .OPC_VSUBWEV_H_BU => .vvv
  | .OPC_VSUBWEV_W_HU => .vvv
  | .OPC_VSUBWEV_D_WU => .vvv
  | .OPC_VSUBWEV_Q_DU => .vvv
  | .OPC_VSUBWOD_H_BU => .vvv
  | .OPC_VSUBWOD_W_HU => .vvv
  | .OPC_VSUBWOD_D_WU => .vvv
  | .OPC_VSUBWOD_Q_DU => .vvv
  | .OPC_VADDWEV_H_BU_B => .vvv
  | .OPC_VADDWEV_W_HU_H => .vvv
  | .OPC_VADDWEV_D_WU_W => .vvv
  | .OPC_VADDWEV_Q_DU_D => .vvv
  | .OPC_VADDWOD_H_BU_B => .vvv
  | .OPC_VADDWOD_W_HU_H => .vvv
  | .OPC_VADDWOD_D_WU_W => .vvv
  | .OPC_VADDWOD_Q_DU_D => .vvv
  | .OPC_VAVG_B => .vvv
  | .OPC_VAVG_H => .vvv
  | .OPC_VAVG_W => .vvv
  | .OPC_VAVG_D => .vvv
  | .OPC_VAVG_BU => .vvv
  | .OPC_VAVG_HU => .vvv
  | .OPC_VAVG_WU => .vvv
  | .OPC_VAVG_DU => .vvv
  | .OPC_VAVGR_B => .vvv
  | .OPC_VAVGR_H => .vvv
  | .OPC_VAVGR_W => .vvv
  | .OPC_VAVGR_D => .vvv
  | .OPC_VAVGR_BU => .vvv
  | .OPC_VAVGR_HU => .vvv
  | .OPC_VAVGR_WU => .vvv
  | .OPC_VAVGR_DU => .vvv
  | .OPC_VABSD_B => .vvv
  | .OPC_VABSD_H => .vvv
  | .OPC_VABSD_W => .vvv
  | .OPC_VABSD_D => .vvv
  | .OPC_VABSD_BU => .vvv
  | .OPC_VABSD_HU => .vvv
  | .OPC_VABSD_WU => .vvv
  | .OPC_VABSD_DU => .vvv
  | .OPC_VADDA_B => .vvv
  | .OPC_VADDA_H => .vvv
  | .OPC_VADDA_W => .vvv
  | .OPC_VADDA_D => .vvv
  | .OPC_VMAX_B => .vvv
  | .OPC_VMAX_H => .vvv
  | .OPC_VMAX_W => .vvv
  | .OPC_VMAX_D => .vvv
  | .OPC_VMAXI_B => .vv_i5
  | .OPC_VMAXI_H => .vv_i5
  | .OPC_VMAXI_W => .vv_i5
  | .OPC_VMAXI_D => .vv_i5
  | .OPC_VMAX_BU => .vvv
  | .OPC_VMAX_HU => .vvv
  | .OPC_VMAX_WU => .vvv
  | .OPC_VMAX_DU => .vvv
  | .OPC_VMAXI_BU => .vv_ui5
  | .OPC_VMAXI_HU => .vv_ui5
  | .OPC_VMAXI_WU => .vv_ui5
  | .OPC_VMAXI_DU => .vv_ui5
  | .OPC_VMIN_B => .vvv
  | .OPC_VMIN_H => .vvv
  | .OPC_VMIN_W => .vvv
  | .OPC_VMIN_D => .vvv
  | .OPC_VMINI_B => .vv_i5
  | .OPC_VMINI_H => .vv_i5
  | .OPC_VMINI_W => .vv_i5
  | .OPC_VMINI_D => .vv_i5
  | .OPC_VMIN_BU => .vvv
  | .OPC_VMIN_HU => .vvv
  | .OPC_VMIN_WU => .vvv
  | .OPC_VMIN_DU => .vvv
  | .OPC_VMINI_BU => .vv_ui5
  | .OPC_VMINI_HU => .vv_ui5
  | .OPC_VMINI_WU => .vv_ui5
  | .OPC_VMINI_DU => .vv_ui5
  | .OPC_VMUL_B => .vvv
  | .OPC_VMUL_H => .vvv
  | .OPC_VMUL_W => .vvv
  | .OPC_VMUL_D => .vvv
  | .OPC_VMUH_B => .vvv
  | .OPC_VMUH_H => .vvv
  | .OPC_VMUH_W => .vvv
  | .OPC_VMUH_D => .vvv
  | .OPC_VMUH_BU => .vvv
  | .OPC_VMUH_HU => .vvv
  | .OPC_VMUH_WU => .vvv
  | .OPC_VMUH_DU => .vvv
  | .OPC_VMULWEV_H_B => .vvv
  | .OPC_VMULWEV_W_H => .vvv
  | .OPC_VMULWEV_D_W => .vvv
  | .OPC_VMULWEV_Q_D => .vvv
  | .OPC_VMULWOD_H_B => .vvv
  | .OPC_VMULWOD_W_H => .vvv
  | .OPC_VMULWOD_D_W => .vvv
  | .OPC_VMULWOD_Q_D => .vvv
  | .OPC_VMULWEV_H_BU => .vvv
  | .OPC_VMULWEV_W_HU => .vvv
  | .OPC_VMULWEV_D_WU => .vvv
  | .OPC_VMULWEV_Q_DU => .vvv
  | .OPC_VMULWOD_H_BU => .vvv
  | .OPC_VMULWOD_W_HU => .vvv
  | .OPC_VMULWOD_D_WU => .vvv
  | .OPC_VMULWOD_Q_DU => .vvv
  | .OPC_VMULWEV_H_BU_B => .vvv
  | .OPC_VMULWEV_W_HU_H => .vvv
  | .OPC_VMULWEV_D_WU_W => .vvv
  | .OPC_VMULWEV_Q_DU_D => .vvv
  | .OPC_VMULWOD_H_BU_B => .vvv
  | .OPC_VMULWOD_W_HU_H => .vvv
  | .OPC_VMULWOD_D_WU_W => .vvv
  | .OPC_VMULWOD_Q_DU_D => .vvv
  | .OPC_VMADD_B => .vvv
  | .OPC_VMADD_H => .vvv
  | .OPC_VMADD_W => .vvv
  | .OPC_VMADD_D => .vvv
  | .OPC_VMSUB_B => .vvv
  | .OPC_VMSUB_H => .vvv
  | .OPC_VMSUB_W => .vvv
  | .OPC_VMSUB_D => .vvv
  | .OPC_VMADDWEV_H_B => .vvv
  | .OPC_VMADDWEV_W_H => .vvv
  | .OPC_VMADDWEV_D_W => .vvv
  | .OPC_VMADDWEV_Q_D => .vvv
  | .OPC_VMADDWOD_H_B => .vvv
  | .OPC_VMADDWOD_W_H => .vvv
  | .OPC_VMADDWOD_D_W => .vvv
  | .OPC_VMADDWOD_Q_D => .vvv
  | .OPC_VMADDWEV_H_BU => .vvv
  | .OPC_VMADDWEV_W_HU => .vvv
  | .OPC_VMADDWEV_D_WU => .vvv
  | .OPC_VMADDWEV_Q_DU => .vvv
  | .OPC_VMADDWOD_H_BU => .vvv
  | .OPC_VMADDWOD_W_HU => .vvv
  | .OPC_VMADDWOD_D_WU => .vvv
  | .OPC_VMADDWOD_Q_DU => .vvv
  | .OPC_VMADDWEV_H_BU_B => .vvv
  | .OPC_VMADDWEV_W_HU_H => .vvv
  | .OPC_VMADDWEV_D_WU_W => .vvv
  | .OPC_VMADDWEV_Q_DU_D => .vvv
  | .OPC_VMADDWOD_H_BU_B => .vvv
  | .OPC_VMADDWOD_W_HU_H => .vvv
  | .OPC_VMADDWOD_D_WU_W => .vvv
  | .OPC_VMADDWOD_Q_DU_D => .vvv
  | .OPC_VDIV_B => .vvv
  | .OPC_VDIV_H => .vvv
  | .OPC_VDIV_W => .vvv
  | .OPC_VDIV_D => .vvv
  | .OPC_VDIV_BU => .vvv
  | .OPC_VDIV_HU => .vvv
  | .OPC_VDIV_WU => .vvv
  | .OPC_VDIV_DU => .vvv
  | .OPC_VMOD_B => .vvv
  | .OPC_VMOD_H => .vvv
  | .OPC_VMOD_W => .vvv
  | .OPC_VMOD_D => .vvv
  | .OPC_VMOD_BU => .vvv
  | .OPC_VMOD_HU => .vvv
  | .OPC_VMOD_WU => .vvv
  | .OPC_VMOD_DU => .vvv
  | .OPC_VSAT_B => .vv_ui3
  | .OPC_VSAT_H => .vv_ui4
  | .OPC_VSAT_W => .vv_ui5
  | .OPC_VSAT_D => .vv_ui6
  | .OPC_VSAT_BU => .vv_ui3
  | .OPC_VSAT_HU => .vv_ui4
  | .OPC_VSAT_WU => .vv_ui5
  | .OPC_VSAT_DU => .vv_ui6
  | .OPC_VEXTH_H_B => .vv
  | .OPC_VEXTH_W_H => .vv
  | .OPC_VEXTH_D_W => .vv
  | .OPC_VEXTH_Q_D => .vv
  | .OPC_VEXTH_HU_BU => .vv
  | .OPC_VEXTH_WU_HU => .vv
  | .OPC_VEXTH_DU_WU => .vv
  | .OPC_VEXTH_QU_DU => .vv
  | .OPC_VSIGNCOV_B => .vvv
  | .OPC_VSIGNCOV_H => .vvv
  | .OPC_VSIGNCOV_W => .vvv
  | .OPC_VSIGNCOV_D => .vvv
  | .OPC_VMSKLTZ_B => .vv
  | .OPC_VMSKLTZ_H => .vv
  | .OPC_VMSKLTZ_W => .vv
  | .OPC_VMSKLTZ_D => .vv
  | .OPC_VMSKGEZ_B => .vv
  | .OPC_VMSKNZ_B => .vv
  | .OPC_VLDI => .v_i13
  | .OPC_VAND_V => .vvv
  | .OPC_VOR_V => .vvv
  | .OPC_VXOR_V => .vvv
  | .OPC_VNOR_V => .vvv
  | .OPC_VANDN_V => .vvv
  | .OPC_VORN_V => .vvv
  | .OPC_VANDI_B => .vv_ui8
  | .OPC_VORI_B => .vv_ui8
  | .OPC_VXORI_B => .vv_ui8
  | .OPC_VNORI_B => .vv_ui8
  | .OPC_VSLL_B => .vvv
  | .OPC_VSLL_H => .vvv
  | .OPC_VSLL_W => .vvv
  | .OPC_VSLL_D => .vvv
  | .OPC_VSLLI_B => .vv_ui3
  | .OPC_VSLLI_H => .vv_ui4
  | .OPC_VSLLI_W => .vv_ui5
  | .OPC_VSLLI_D => .vv_ui6
  | .OPC_VSRL_B => .vvv
  | .OPC_VSRL_H => .vvv
  | .OPC_VSRL_W => .vvv
  | .OPC_VSRL_D => .vvv
  | .OPC_VSRLI_B => .vv_ui3
  | .OPC_VSRLI_H => .vv_ui4
  | .OPC_VSRLI_W => .vv_ui5
  | .OPC_VSRLI_D => .vv_ui6
  | .OPC_VSRA_B => .vvv
  | .OPC_VSRA_H => .vvv
  | .OPC_VSRA_W => .vvv
  | .OPC_VSRA_D => .vvv
  | .OPC_VSRAI_B => .vv_ui3
  | .OPC_VSRAI_H => .vv_ui4
  | .OPC_VSRAI_W => .vv_ui5
  | .OPC_VSRAI_D => .vv_ui6
  | .OPC_VROTR_B => .vvv
  | .OPC_VROTR_H => .vvv
  | .OPC_VROTR_W => .vvv
  | .OPC_VROTR_D => .vvv
  | .OPC_VROTRI_B => .vv_ui3
  | .OPC_VROTRI_H => .vv_ui4
  | .OPC_VROTRI_W => .vv_ui5
  | .OPC_VROTRI_D => .vv_ui6
  | .OPC_VSLLWIL_H_B => .vv_ui3
  | .OPC_VSLLWIL_W_H => .vv_ui4
  | .OPC_VSLLWIL_D_W => .vv_ui5
  | .OPC_VEXTL_Q_D => .vv
  | .OPC_VSLLWIL_HU_BU => .vv_ui3
  | .OPC_VSLLWIL_WU_HU => .vv_ui4
  | .OPC_VSLLWIL_DU_WU => .vv_ui5
  | .OPC_VEXTL_QU_DU => .vv
  | .OPC_VSRLR_B => .vvv
  | .OPC_VSRLR_H => .vvv
  | .OPC_VSRLR_W => .vvv
  | .OPC_VSRLR_D => .vvv
  | .OPC_VSRLRI_B => .vv_ui3
  | .OPC_VSRLRI_H => .vv_ui4
  | .OPC_VSRLRI_W => .vv_ui5
  | .OPC_VSRLRI_D => .vv_ui6
  | .OPC_VSRAR_B => .vvv
  | .OPC_VSRAR_H => .vvv
  | .OPC_VSRAR_W => .vvv
  | .OPC_VSRAR_D => .vvv
  | .OPC_VSRARI_B => .vv_ui3
  | .OPC_VSRARI_H => .vv_ui4
  | .OPC_VSRARI_W => .vv_ui5
  | .OPC_VSRARI_D => .vv_ui6
  | .OPC_VSRLN_B_H => .vvv
  | .OPC_VSRLN_H_W => .vvv
  | .OPC_VSRLN_W_D => .vvv
  | .OPC_VSRAN_B_H => .vvv
  | .OPC_VSRAN_H_W => .vvv
  | .OPC_VSRAN_W_D => .vvv
  | .OPC_VSRLNI_B_H => .vv_ui4
  | .OPC_VSRLNI_H_W => .vv_ui5
  | .OPC_VSRLNI_W_D => .vv_ui6
  | .OPC_VSRLNI_D_Q => .vv_ui7
  | .OPC_VSRANI_B_H => .vv_ui4
  | .OPC_VSRANI_H_W => .vv_ui5
  | .OPC_VSRANI_W_D => .vv_ui6
  | .OPC_VSRANI_D_Q => .vv_ui7
  | .OPC_VSRLRN_B_H => .vvv
  | .OPC_VSRLRN_H_W => .vvv
  | .OPC_VSRLRN_W_D => .vvv
  | .OPC_VSRARN_B_H => .vvv
  | .OPC_VSRARN_H_W => .vvv
  | .OPC_VSRARN_W_D => .vvv
  | .OPC_VSRLRNI_B_H => .vv_ui4
  | .OPC_VSRLRNI_H_W => .vv_ui5
  | .OPC_VSRLRNI_W_D => .vv_ui6
  | .OPC_VSRLRNI_D_Q => .vv_ui7
  | .OPC_VSRARNI_B_H => .vv_ui4
  | .OPC_VSRARNI_H_W => .vv_ui5
  | .OPC_VSRARNI_W_D => .vv_ui6
  | .OPC_VSRARNI_D_Q => .vv_ui7
  | .OPC_VSSRLN_B_H => .vvv
  | .OPC_VSSRLN_H_W => .vvv
  | .OPC_VSSRLN_W_D => .vvv
  | .OPC_VSSRAN_B_H => .vvv
  | .OPC_VSSRAN_H_W => .vvv
  | .OPC_VSSRAN_W_D => .vvv
  | .OPC_VSSRLN_BU_H => .vvv
  | .OPC_VSSRLN_HU_W => .vvv
  | .OPC_VSSRLN_WU_D => .vvv
  | .OPC_VSSRAN_BU_H => .vvv
  | .OPC_VSSRAN_HU_W => .vvv
  | .OPC_VSSRAN_WU_D => .vvv
  | .OPC_VSSRLNI_B_H => .vv_ui4
  | .OPC_VSSRLNI_H_W => .vv_ui5
  | .OPC_VSSRLNI_W_D => .vv_ui6
  | .OPC_VSSRLNI_D_Q => .vv_ui7
  | .OPC_VSSRANI_B_H => .vv_ui4
  | .OPC_VSSRANI_H_W => .vv_ui5
  | .OPC_VSSRANI_W_D => .vv_ui6
  | .OPC_VSSRANI_D_Q => .vv_ui7
  | .OPC_VSSRLNI_BU_H => .vv_ui4
  | .OPC_VSSRLNI_HU_W => .vv_ui5
  | .OPC_VSSRLNI_WU_D => .vv_ui6
  | .OPC_VSSRLNI_DU_Q => .vv_ui7
  | .OPC_VSSRANI_BU_H => .vv_ui4
  | .OPC_VSSRANI_HU_W => .vv_ui5
  | .OPC_VSSRANI_WU_D => .vv_ui6
  | .OPC_VSSRANI_DU_Q => .vv_ui7
  | .OPC_VSSRLRN_B_H => .vvv
  | .OPC_VSSRLRN_H_W => .vvv
  | .OPC_VSSRLRN_W_D => .vvv
  | .OPC_VSSRARN_B_H => .vvv
  | .OPC_VSSRARN_H_W => .vvv
  | .OPC_VSSRARN_W_D => .vvv
  | .OPC_VSSRLRN_BU_H => .vvv
  | .OPC_VSSRLRN_HU_W => .vvv
  | .OPC_VSSRLRN_WU_D => .vvv
  | .OPC_VSSRARN_BU_H => .vvv
  | .OPC_VSSRARN_HU_W => .vvv
  | .OPC_VSSRARN_WU_D => .vvv
  | .OPC_VSSRLRNI_B_H => .vv_ui4
  | .OPC_VSSRLRNI_H_W => .vv_ui5
  | .OPC_VSSRLRNI_W_D => .vv_ui6
  | .OPC_VSSRLRNI_D_Q => .vv_ui7
  | .OPC_VSSRARNI_B_H => .vv_ui4
  | .OPC_VSSRARNI_H_W => .vv_ui5
  | .OPC_VSSRARNI_W_D => .vv_ui6
  | .OPC_VSSRARNI_D_Q => .vv_ui7
  | .OPC_VSSRLRNI_BU_H => .vv_ui4
  | .OPC_VSSRLRNI_HU_W => .vv_ui5
  | .OPC_VSSRLRNI_WU_D => .vv_ui6
  | .OPC_VSSRLRNI_DU_Q => .vv_ui7
  | .OPC_VSSRARNI_BU_H => .vv_ui4
  | .OPC_VSSRARNI_HU_W => .vv_ui5
  | .OPC_VSSRARNI_WU_D => .vv_ui6
  | .OPC_VSSRARNI_DU_Q => .vv_ui7
  | .OPC_VCLO_B => .vv
  | .OPC_VCLO_H => .vv
  | .OPC_VCLO_W => .vv
  | .OPC_VCLO_D => .vv
  | .OPC_VCLZ_B => .vv
  | .OPC_VCLZ_H => .vv
  | .OPC_VCLZ_W => .vv
  | .OPC_VCLZ_D => .vv
  | .OPC_VPCNT_B => .vv
  | .OPC_VPCNT_H => .vv
  | .OPC_VPCNT_W => .vv
  | .OPC_VPCNT_D => .vv
  | .OPC_VBITCLR_B => .vvv
  | .OPC_VBITCLR_H => .vvv
  | .OPC_VBITCLR_W => .vvv
  | .OPC_VBITCLR_D => .vvv
  | .OPC_VBITCLRI_B => .vv_ui3
  | .OPC_VBITCLRI_H => .vv_ui4
  | .OPC_VBITCLRI_W => .vv_ui5
  | .OPC_VBITCLRI_D => .vv_ui6
  | .OPC_VBITSET_B => .vvv
  | .OPC_VBITSET_H => .vvv
  | .OPC_VBITSET_W => .vvv
  | .OPC_VBITSET_D => .vvv
  | .OPC_VBITSETI_B => .vv_ui3
  | .OPC_VBITSETI_H => .vv_ui4
  | .OPC_VBITSETI_W => .vv_ui5
  | .OPC_VBITSETI_D => .vv_ui6
  | .OPC_VBITREV_B => .vvv
  | .OPC_VBITREV_H => .vvv
  | .OPC_VBITREV_W => .vvv
  | .OPC_VBITREV_D => .vvv
  | .OPC_VBITREVI_B => .vv_ui3
  | .OPC_VBITREVI_H => .vv_ui4
  | .OPC_VBITREVI_W => .vv_ui5
  | .OPC_VBITREVI_D => .vv_ui6
  | .OPC_VFRSTP_B => .vvv
  | .OPC_VFRSTP_H => .vvv
  | .OPC_VFRSTPI_B => .vv_ui5
  | .OPC_VFRSTPI_H => .vv_ui5
  | .OPC_VFADD_S => .vvv
  | .OPC_VFADD_D => .vvv
  | .OPC_VFSUB_S => .vvv
  | .OPC_VFSUB_D => .vvv
  | .OPC_VFMUL_S => .vvv
  | .OPC_VFMUL_D => .vvv
  | .OPC_VFDIV_S => .vvv
  | .OPC_VFDIV_D => .vvv
  | .OPC_VFMADD_S => .vvvv
  | .OPC_VFMADD_D => .vvvv
  | .OPC_VFMSUB_S => .vvvv
  | .OPC_VFMSUB_D => .vvvv
  | .OPC_VFNMADD_S => .vvvv
  | .OPC_VFNMADD_D => .vvvv
  | .OPC_VFNMSUB_S => .vvvv
  | .OPC_VFNMSUB_D => .vvvv
  | .OPC_VFMAX_S => .vvv
  | .OPC_VFMAX_D => .vvv
  | .OPC_VFMIN_S => .vvv
  | .OPC_VFMIN_D => .vvv
  | .OPC_VFMAXA_S => .vvv
  | .OPC_VFMAXA_D => .vvv
  | .OPC_VFMINA_S => .vvv
  | .OPC_VFMINA_D => .vvv
  | .OPC_VFLOGB_S => .vv
  | .OPC_VFLOGB_D => .vv
  | .OPC_VFCLASS_S => .vv
  | .OPC_VFCLASS_D => .vv
  | .OPC_VFSQRT_S => .vv
  | .OPC_VFSQRT_D => .vv
  | .OPC_VFRECIP_S => .vv
  | .OPC_VFRECIP_D => .vv
  | .OPC_VFRSQRT_S => .vv
  | .OPC_VFRSQRT_D => .vv
  | .OPC_VFCVTL_S_H => .vv
  | .OPC_VFCVTH_S_H => .vv
  | .OPC_VFCVTL_D_S => .vv
  | .OPC_VFCVTH_D_S => .vv
  | .OPC_VFCVT_H_S => .vvv
  | .OPC_VFCVT_S_D => .vvv
  | .OPC_VFRINT_S => .vv
  | .OPC_VFRINT_D => .vv
  | .OPC_VFRINTRM_S => .vv
  | .OPC_VFRINTRM_D => .vv
  | .OPC_VFRINTRP_S => .vv
  | .OPC_VFRINTRP_D => .vv
  | .OPC_VFRINTRZ_S => .vv
  | .OPC_VFRINTRZ_D => .vv
  | .OPC_VFRINTRNE_S => .vv
  | .OPC_VFRINTRNE_D => .vv
  | .OPC_VFTINT_W_S => .vv
  | .OPC_VFTINT_L_D => .vv
  | .OPC_VFTINTRM_W_S => .vv
  | .OPC_VFTINTRM_L_D => .vv
  | .OPC_VFTINTRP_W_S => .vv
  | .OPC_VFTINTRP_L_D => .vv
  | .OPC_VFTINTRZ_W_S => .vv
  | .OPC_VFTINTRZ_L_D => .vv
  | .OPC_VFTINTRNE_W_S => .vv
  | .OPC_VFTINTRNE_L_D => .vv
  | .OPC_VFTINT_WU_S => .vv
  | .OPC_VFTINT_LU_D => .vv
  | .OPC_VFTINTRZ_WU_S => .vv
  | .OPC_VFTINTRZ_LU_D => .vv
  | .OPC_VFTINT_W_D => .vvv
  | .OPC_VFTINTRM_W_D => .vvv
  | .OPC_VFTINTRP_W_D => .vvv
  | .OPC_VFTINTRZ_W_D => .vvv
  | .OPC_VFTINTRNE_W_D => .vvv
  | .OPC_VFTINTL_L_S => .vv
  | .OPC_VFTINTH_L_S => .vv
  | .OPC_VFTINTRML_L_S => .vv
  | .OPC_VFTINTRMH_L_S => .vv
  | .OPC_VFTINTRPL_L_S => .vv
  | .OPC_VFTINTRPH_L_S => .vv
  | .OPC_VFTINTRZL_L_S => .vv
  | .OPC_VFTINTRZH_L_S => .vv
  | .OPC_VFTINTRNEL_L_S => .vv
  | .OPC_VFTINTRNEH_L_S => .vv
  | .OPC_VFFINT_S_W => .vv
  | .OPC_VFFINT_S_WU => .vv
  | .OPC_VFFINT_D_L => .vv
  | .OPC_VFFINT_D_LU => .vv
  | .OPC_VFFINTL_D_W => .vv
  | .OPC_VFFINTH_D_W => .vv
  | .OPC_VFFINT_S_L => .vvv
  | .OPC_VSEQ_B => .vvv
  | .OPC_VSEQ_H => .vvv
  | .OPC_VSEQ_W => .vvv
  | .OPC_VSEQ_D => .vvv
  | .OPC_VSEQI_B => .vv_i5
  | .OPC_VSEQI_H => .vv_i5
  | .OPC_VSEQI_W => .vv_i5
  | .OPC_VSEQI_D => .vv_i5
  | .OPC_VSLE_B => .vvv
  | .OPC_VSLE_H => .vvv
  | .OPC_VSLE_W => .vvv
  | .OPC_VSLE_D => .vvv
  | .OPC_VSLEI_B => .vv_i5
  | .OPC_VSLEI_H => .vv_i5
  | .OPC_VSLEI_W => .vv_i5
  | .OPC_VSLEI_D => .vv_i5
  | .OPC_VSLE_BU => .vvv
  | .OPC_VSLE_HU => .vvv
  | .OPC_VSLE_WU => .vvv
  | .OPC_VSLE_DU => .vvv
  | .OPC_VSLEI_BU => .vv_ui5
  | .OPC_VSLEI_HU => .vv_ui5
  | .OPC_VSLEI_WU => .vv_ui5
  | .OPC_VSLEI_DU => .vv_ui5
  | .OPC_VSLT_B => .vvv
  | .OPC_VSLT_H => .vvv
  | .OPC_VSLT_W => .vvv
  | .OPC_VSLT_D => .vvv
  | .OPC_VSLTI_B => .vv_i5
  | .OPC_VSLTI_H => .vv_i5
  | .OPC_VSLTI_W => .vv_i5
  | .OPC_VSLTI_D => .vv_i5
  | .OPC_VSLT_BU => .vvv
  | .OPC_VSLT_HU => .vvv
  | .OPC_VSLT_WU => .vvv
  | .OPC_VSLT_DU => .vvv
  | .OPC_VSLTI_BU => .vv_ui5
  | .OPC_VSLTI_HU => .vv_ui5
  | .OPC_VSLTI_WU => .vv_ui5
  | .OPC_VSLTI_DU => .vv_ui5
  | .OPC_VFCMP_COND_S => .vvv_fcond
  | .OPC_VFCMP_COND_D => .vvv_fcond
  | .OPC_VBITSEL_V => .vvvv
  | .OPC_VBITSELI_B => .vv_ui8
  | .OPC_VSETEQZ_V => .cv
  | .OPC_VSETNEZ_V => .cv
  | .OPC_VSETANYEQZ_B => .cv
  | .OPC_VSETANYEQZ_H => .cv
  | .OPC_VSETANYEQZ_W => .cv
  | .OPC_VSETANYEQZ_D => .cv
  | .OPC_VSETALLNEZ_B => .cv
  | .OPC_VSETALLNEZ_H => .cv
  | .OPC_VSETALLNEZ_W => .cv
  | .OPC_VSETALLNEZ_D => .cv
  | .OPC_VINSGR2VR_B => .vr_ui4
  | .OPC_VINSGR2VR_H => .vr_ui3
  | .OPC_VINSGR2VR_W => .vr_ui2
  | .OPC_VINSGR2VR_D => .vr_ui1
  | .OPC_VPICKVE2GR_B => .rv_ui4
  | .OPC_VPICKVE2GR_H => .rv_ui3
  | .OPC_VPICKVE2GR_W => .rv_ui2
  | .OPC_VPICKVE2GR_D => .rv_ui1
  | .OPC_VPICKVE2GR_BU => .rv_ui4
  | .OPC_VPICKVE2GR_HU => .rv_ui3
  | .OPC_VPICKVE2GR_WU => .rv_ui2
  | .OPC_VPICKVE2GR_DU => .rv_ui1
  | .OPC_VREPLGR2VR_B => .vr
  | .OPC_VREPLGR2VR_H => .vr
  | .OPC_VREPLGR2VR_W => .vr
  | .OPC_VREPLGR2VR_D => .vr
  | .OPC_VREPLVE_B => .vvr
  | .OPC_VREPLVE_H => .vvr
  | .OPC_VREPLVE_W => .vvr
  | .OPC_VREPLVE_D => .vvr
  | .OPC_VREPLVEI_B => .vv_ui4
  | .OPC_VREPLVEI_H => .vv_ui3
  | .OPC_VREPLVEI_W => .vv_ui2
  | .OPC_VREPLVEI_D => .vv_ui1
  | .OPC_VBSLL_V => .vv_ui5
  | .OPC_VBSRL_V => .vv_ui5
  | .OPC_VPACKEV_B => .vvv
  | .OPC_VPACKEV_H => .vvv
  | .OPC_VPACKEV_W => .vvv
  | .OPC_VPACKEV_D => .vvv
  | .OPC_VPACKOD_B => .vvv
  | .OPC_VPACKOD_H => .vvv
  | .OPC_VPACKOD_W => .vvv
  | .OPC_VPACKOD_D => .vvv
  | .OPC_VPICKEV_B => .vvv
  | .OPC_VPICKEV_H => .vvv
  | .OPC_VPICKEV_W => .vvv
  | .OPC_VPICKEV_D => .vvv
  | .OPC_VPICKOD_B => .vvv
  | .OPC_VPICKOD_H => .vvv
  | .OPC_VPICKOD_W => .vvv
  | .OPC_VPICKOD_D => .vvv
  | .OPC_VILVL_B => .vvv
  | .OPC_VILVL_H => .vvv
  | .OPC_VILVL_W => .vvv
  | .OPC_VILVL_D => .vvv
  | .OPC_VILVH_B => .vvv
  | .OPC_VILVH_H => .vvv
  | .OPC_VILVH_W => .vvv
  | .OPC_VILVH_D => .vvv
  | .OPC_VSHUF_B => .vvvv
  | .OPC_VSHUF_H => .vvv
  | .OPC_VSHUF_W => .vvv
  | .OPC_VSHUF_D => .vvv
  | .OPC_VSHUF4I_B => .vv_ui8
  | .OPC_VSHUF4I_H => .vv_ui8
  | .OPC_VSHUF4I_W => .vv_ui8
  | .OPC_VSHUF4I_D => .vv_ui8
  | .OPC_VPERMI_W => .vv_ui8
  | .OPC_VEXTRINS_D => .vv_ui8
  | .OPC_VEXTRINS_W => .vv_ui8
  | .OPC_VEXTRINS_H => .vv_ui8
  | .OPC_VEXTRINS_B => .vv_ui8
  | .OPC_VLD => .vr_i12
  | .OPC_VST => .vr_i12
  | .OPC_VLDX => .vrr
  | .OPC_VSTX => .vrr
  | .OPC_VLDREPL_D => .vr_i9
  | .OPC_VLDREPL_W => .vr_i10
  | .OPC_VLDREPL_H => .vr_i11
  | .OPC_VLDREPL_B => .vr_i12
  | .OPC_VSTELM_D => .vr_i8i1
  | .OPC_VSTELM_W => .vr_i8i2
  | .OPC_VSTELM_H => .vr_i8i3
  | .OPC_VSTELM_B => .vr_i8i4
  | .OPC_XVLD => .xr_i12
  | .OPC_XVST => .xr_i12

/-- `encodefuncs`. -/
def encodefuncs : Formats → List Pack
  | .cv => encodeEncodeCv
  | .format_0 => encodeEncodeFormat0
  | .format_1 => encodeEncodeFormat1
  | .format_10 => encodeEncodeFormat10
  | .format_11 => encodeEncodeFormat11
  | .format_12 => encodeEncodeFormat12
  | .format_13 => encodeEncodeFormat13
  | .format_14 => encodeEncodeFormat14
  | .format_15 => encodeEncodeFormat15
  | .format_16 => encodeEncodeFormat16
  | .format_17 => encodeEncodeFormat17
  | .format_18 => encodeEncodeFormat18
  | .format_19 => encodeEncodeFormat19
  | .format_2 => encodeEncodeFormat2
  | .format_20 => encodeEncodeFormat20
  | .format_21 => encodeEncodeFormat21
  | .format_22 => encodeEncodeFormat22
  | .format_23 => encodeEncodeFormat23
  | .format_24 => encodeEncodeFormat24
  | .format_25 => encodeEncodeFormat25
  | .format_26 => encodeEncodeFormat26
  | .format_27 => encodeEncodeFormat27
  | .format_28 => encodeEncodeFormat28
  | .format_29 => encodeEncodeFormat29
  | .format_3 => encodeEncodeFormat3
  | .format_30 => encodeEncodeFormat30
  | .format_31 => encodeEncodeFormat31
  | .format_32 => encodeEncodeFormat32
  | .format_33 => encodeEncodeFormat33
  | .format_34 => encodeEncodeFormat34
  | .format_35 => encodeEncodeFormat35
  | .format_36 => encodeEncodeFormat36
  | .format_37 => encodeEncodeFormat37
  | .format_38 => encodeEncodeFormat38
  | .format_39 => encodeEncodeFormat39
  | .format_4 => encodeEncodeFormat4
  | .format_40 => encodeEncodeFormat40
  | .format_41 => encodeEncodeFormat41
  | .format_42 => encodeEncodeFormat42
  | .format_43 => encodeEncodeFormat43
  | .format_44 => encodeEncodeFormat44
  | .format_45 => encodeEncodeFormat45
  | .format_46 => encodeEncodeFormat46
  | .format_47 => encodeEncodeFormat47
  | .format_48 => encodeEncodeFormat48
  | .format_49 => encodeEncodeFormat49
  | .format_5 => encodeEncodeFormat5
  | .format_50 => encodeEncodeFormat50
  | .format_51 => encodeEncodeFormat51
  | .format_52 => encodeEncodeFormat52
  | .format_53 => encodeEncodeFormat53
  | .format_54 => encodeEncodeFormat54
  | .format_55 => encodeEncodeFormat55
  | .format_56 => encodeEncodeFormat56
  | .format_57 => encodeEncodeFormat57
  | .format_58 => encodeEncodeFormat58
  | .format_59 => encodeEncodeFormat59
  | .format_6 => encodeEncodeFormat6
  | .format_60 => encodeEncodeFormat60
  | .format_61 => encodeEncodeFormat61
  | .format_62 => encodeEncodeFormat62
  | .format_63 => encodeEncodeFormat63
  | .format_64 => encodeEncodeFormat64
  | .format_7 => encodeEncodeFormat7
  | .format_8 => encodeEncodeFormat8
  | .format_9 => encodeEncodeFormat9
  | .rv_ui1 => encodeEncodeRvUi1
  | .rv_ui2 => encodeEncodeRvUi2
  | .rv_ui3 => encodeEncodeRvUi3
  | .rv_ui4 => encodeEncodeRvUi4
  | .v_i13 => encodeEncodeVI13
  | .vr => encodeEncodeVr
  | .vr_i10 => encodeEncodeVrI10
  | .vr_i11 => encodeEncodeVrI11
  | .vr_i12 => encodeEncodeVrI12
  | .vr_i8i1 => encodeEncodeVrI8i1
  | .vr_i8i2 => encodeEncodeVrI8i2
  | .vr_i8i3 => encodeEncodeVrI8i3
  | .vr_i8i4 => encodeEncodeVrI8i4
  | .vr_i9 => encodeEncodeVrI9
  | .vr_ui1 => encodeEncodeVrUi1
  | .vr_ui2 => encodeEncodeVrUi2
  | .vr_ui3 => encodeEncodeVrUi3
  | .vr_ui4 => encodeEncodeVrUi4
  | .vrr => encodeEncodeVrr
  | .vv => encodeEncodeVv
  | .vv_i5 => encodeEncodeVvI5
  | .vv_ui1 => encodeEncodeVvUi1
  | .vv_ui2 => encodeEncodeVvUi2
  | .vv_ui3 => encodeEncodeVvUi3
  | .vv_ui4 => encodeEncodeVvUi4
  | .vv_ui5 => encodeEncodeVvUi5
  | .vv_ui6 => encodeEncodeVvUi6
  | .vv_ui7 => encodeEncodeVvUi7
  | .vv_ui8 => encodeEncodeVvUi8
  | .vvr => encodeEncodeVvr
  | .vvv => encodeEncodeVvv
  | .vvv_fcond => encodeEncodeVvvFcond
  | .vvvv => encodeEncodeVvvv
  | .xr_i12 => encodeEncodeXrI12

/-- `encode`. -/
def encode (info : LoongArchInsInfo) : BitVec 32 :=
  if info.opc = .OPC_INVALID then info.originBinary
  else (encodefuncs (insn2format info.opc)).foldl (Pack.run info) (opc2bin info.opc)

end AotOpt
