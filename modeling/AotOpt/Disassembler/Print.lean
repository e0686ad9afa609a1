import AotOpt.Basic.Aot
import AotOpt.Disassembler.Encodable

/-!
# Printing an instruction

The `print_*` functions of `Disassembler/disassembler.cpp`: the name of the opcode (`opcode_name`)
and then the operand fields that the format has, a register by its name and any other field by its
value. A table of names is not asked how long it is, and two of the fields can hold more than their
table has names for: `movgr2fcsr` and `movfcsr2gr` have five bits for one of four control registers.

* `Encodable.hasNames` — the instructions that can be encoded have names in the tables, but for these.
* `printOneInsn_ok` — an instruction with names in the tables is printed.
-/

namespace AotOpt

/-! ### Names -/

/-- The tables of names. -/
inductive NameTable where
  | gprName | fprName | lsxName | lasxName | scrName | fcsrName | ccName
  deriving DecidableEq

/-- What is in them. -/
def NameTable.names : NameTable → List String
  | .gprName =>
    ["$zero", "$itmp5", "$bt_tp", "$bt_sp", "$bt_a0", "$bt_a1", "$x86_r8", "$x86_r9", "$x86_r10",
     "$x86_r11", "$x86_eflag", "$itemp6", "$itemp0", "$itemp1", "$itemp2", "$itemp3", "$itemp4",
     "$x86_r12", "$x86_r13", "$x86_r14", "$x86_r15", "$next_x86_addr", "$last_exec_tb", "$x86_eax",
     "$x86_ecx", "$x86_edx", "$x86_ebx", "$x86_esp", "$x86_ebp", "$x86_esi", "$x86_edi", "$la_env"]
  | .fprName =>
    ["$fa0", "$fa1", "$fa2", "$fa3", "$fa4", "$fa5", "$fa6", "$fa7", "$ft0", "$ft1", "$ft2", "$ft3",
     "$ft4", "$ft5", "$ft6", "$ft7", "$ft8", "$ft9", "$ft10", "$ft11", "$ft12", "$ft13", "$ft14",
     "$ft15", "$fs0", "$fs1", "$fs2", "$fs3", "$fs4", "$fs5", "$fs6", "$s7"]
  | .lsxName =>
    ["$V0", "$V1", "$V2", "$V3", "$V4", "$V5", "$V6", "$V7", "$V8", "$V9", "$V10", "$V11", "$V12",
     "$V13", "$V14", "$V15", "$V16", "$V17", "$V18", "$V19", "$V20", "$V21", "$V22", "$V23", "$V24",
     "$V25", "$V26", "$V27", "$V28", "$V29", "$V30", "$V31"]
  | .lasxName =>
    ["$X0", "$X1", "$X2", "$X3", "$X4", "$X5", "$X6", "$X7", "$X8", "$X9", "$X10", "$X11", "$X12",
     "$X13", "$X14", "$X15", "$X16", "$X17", "$X18", "$X19", "$X20", "$X21", "$X22", "$X23", "$X24",
     "$X25", "$X26", "$X27", "$X28", "$X29", "$X30", "$X31"]
  | .scrName => ["$ss0", "$ss1", "$ss2", "$ss3"]
  | .fcsrName => ["fcsr0", "fcsr1", "fcsr2", "fcsr3"]
  | .ccName => ["$fcc0", "$fcc1", "$fcc2", "$fcc3", "$fcc4", "$fcc5", "$fcc6", "$fcc7"]

/-- `opcode_name`. It has no entry for `OPC_INVALID`, which is never looked up. -/
def opcodeName : LoongArchOpc → String
  | .OPC_INVALID => ""
  | .OPC_CLO_W => "clo.w"
  | .OPC_CLZ_W => "clz.w"
  | .OPC_CTO_W => "cto.w"
  | .OPC_CTZ_W => "ctz.w"
  | .OPC_CLO_D => "clo.d"
  | .OPC_CLZ_D => "clz.d"
  | .OPC_CTO_D => "cto.d"
  | .OPC_CTZ_D => "ctz.d"
  | .OPC_REVB_2H => "revb.2h"
  | .OPC_REVB_4H => "revb.4h"
  | .OPC_REVB_2W => "revb.2w"
  | .OPC_REVB_D => "revb.d"
  | .OPC_REVH_2W => "revh.2w"
  | .OPC_REVH_D => "revh.d"
  | .OPC_BITREV_4B => "bitrev.4b"
  | .OPC_BITREV_8B => "bitrev.8b"
  | .OPC_BITREV_W => "bitrev.w"
  | .OPC_BITREV_D => "bitrev.d"
  | .OPC_EXT_W_H => "ext.w.h"
  | .OPC_EXT_W_B => "ext.w.b"
  | .OPC_RDTIMEL_W => "rdtimel.w"
  | .OPC_RDTIMEH_W => "rdtimeh.w"
  | .OPC_RDTIME_D => "rdtime.d"
  | .OPC_CPUCFG => "cpucfg"
  | .OPC_ASRTLE_D => "asrtle.d"
  | .OPC_ASRTGT_D => "asrtgt.d"
  | .OPC_ALSL_W => "alsl.w"
  | .OPC_ALSL_WU => "alsl.wu"
  | .OPC_BYTEPICK_W => "bytepick.w"
  | .OPC_BYTEPICK_D => "bytepick.d"
  | .OPC_ADD_W => "add.w"
  | .OPC_ADD_D => "add.d"
  | .OPC_SUB_W => "sub.w"
  | .OPC_SUB_D => "sub.d"
  | .OPC_SLT => "slt"
  | .OPC_SLTU => "sltu"
  | .OPC_MASKEQZ => "maskeqz"
  | .OPC_MASKNEZ => "masknez"
  | .OPC_NOR => "nor"
  | .OPC_AND => "and"
  | .OPC_OR => "or"
  | .OPC_XOR => "xor"
  | .OPC_ORN => "orn"
  | .OPC_ANDN => "andn"
  | .OPC_SLL_W => "sll.w"
  | .OPC_SRL_W => "srl.w"
  | .OPC_SRA_W => "sra.w"
  | .OPC_SLL_D => "sll.d"
  | .OPC_SRL_D => "srl.d"
  | .OPC_SRA_D => "sra.d"
  | .OPC_ROTR_W => "rotr.w"
  | .OPC_ROTR_D => "rotr.d"
  | .OPC_MUL_W => "mul.w"
  | .OPC_MULH_W => "mulh.w"
  | .OPC_MULH_WU => "mulh.wu"
  | .OPC_MUL_D => "mul.d"
  | .OPC_MULH_D => "mulh.d"
  | .OPC_MULH_DU => "mulh.du"
  | .OPC_MULW_D_W => "mulw.d.w"
  | .OPC_MULW_D_WU => "mulw.d.wu"
  | .OPC_DIV_W => "div.w"
  | .OPC_MOD_W => "mod.w"
  | .OPC_DIV_WU => "div.wu"
  | .OPC_MOD_WU => "mod.wu"
  | .OPC_DIV_D => "div.d"
  | .OPC_MOD_D => "mod.d"
  | .OPC_DIV_DU => "div.du"
  | .OPC_MOD_DU => "mod.du"
  | .OPC_CRC_W_B_W => "crc.w.b.w"
  | .OPC_CRC_W_H_W => "crc.w.h.w"
  | .OPC_CRC_W_W_W => "crc.w.w.w"
  | .OPC_CRC_W_D_W => "crc.w.d.w"
  | .OPC_CRCC_W_B_W => "crcc.w.b.w"
  | .OPC_CRCC_W_H_W => "crcc.w.h.w"
  | .OPC_CRCC_W_W_W => "crcc.w.w.w"
  | .OPC_CRCC_W_D_W => "crcc.w.d.w"
  | .OPC_BREAK => "break"
  | .OPC_DBCL => "dbcl"
  | .OPC_SYSCALL => "syscall"
  | .OPC_ALSL_D => "alsl.d"
  | .OPC_SLLI_W => "slli.w"
  | .OPC_SLLI_D => "slli.d"
  | .OPC_SRLI_W => "srli.w"
  | .OPC_SRLI_D => "srli.d"
  | .OPC_SRAI_W => "srai.w"
  | .OPC_SRAI_D => "srai.d"
  | .OPC_ROTRI_W => "rotri.w"
  | .OPC_ROTRI_D => "rotri.d"
  | .OPC_BSTRINS_W => "bstrins.w"
  | .OPC_BSTRPICK_W => "bstrpick.w"
  | .OPC_BSTRINS_D => "bstrins.d"
  | .OPC_BSTRPICK_D => "bstrpick.d"
  | .OPC_FADD_S => "fadd.s"
  | .OPC_FADD_D => "fadd.d"
  | .OPC_FSUB_S => "fsub.s"
  | .OPC_FSUB_D => "fsub.d"
  | .OPC_FMUL_S => "fmul.s"
  | .OPC_FMUL_D => "fmul.d"
  | .OPC_FDIV_S => "fdiv.s"
  | .OPC_FDIV_D => "fdiv.d"
  | .OPC_FMAX_S => "fmax.s"
  | .OPC_FMAX_D => "fmax.d"
  | .OPC_FMIN_S => "fmin.s"
  | .OPC_FMIN_D => "fmin.d"
  | .OPC_FMAXA_S => "fmaxa.s"
  | .OPC_FMAXA_D => "fmaxa.d"
  | .OPC_FMINA_S => "fmina.s"
  | .OPC_FMINA_D => "fmina.d"
  | .OPC_FSCALEB_S => "fscaleb.s"
  | .OPC_FSCALEB_D => "fscaleb.d"
  | .OPC_FCOPYSIGN_S => "fcopysign.s"
  | .OPC_FCOPYSIGN_D => "fcopysign.d"
  | .OPC_FABS_S => "fabs.s"
  | .OPC_FABS_D => "fabs.d"
  | .OPC_FNEG_S => "fneg.s"
  | .OPC_FNEG_D => "fneg.d"
  | .OPC_FLOGB_S => "flogb.s"
  | .OPC_FLOGB_D => "flogb.d"
  | .OPC_FCLASS_S => "fclass.s"
  | .OPC_FCLASS_D => "fclass.d"
  | .OPC_FSQRT_S => "fsqrt.s"
  | .OPC_FSQRT_D => "fsqrt.d"
  | .OPC_FRECIP_S => "frecip.s"
  | .OPC_FRECIP_D => "frecip.d"
  | .OPC_FRSQRT_S => "frsqrt.s"
  | .OPC_FRSQRT_D => "frsqrt.d"
  | .OPC_FMOV_S => "fmov.s"
  | .OPC_FMOV_D => "fmov.d"
  | .OPC_MOVGR2FR_W => "movgr2fr.w"
  | .OPC_MOVGR2FR_D => "movgr2fr.d"
  | .OPC_MOVGR2FRH_W => "movgr2frh.w"
  | .OPC_MOVFR2GR_S => "movfr2gr.s"
  | .OPC_MOVFR2GR_D => "movfr2gr.d"
  | .OPC_MOVFRH2GR_S => "movfrh2gr.s"
  | .OPC_MOVGR2FCSR => "movgr2fcsr"
  | .OPC_MOVFCSR2GR => "movfcsr2gr"
  | .OPC_MOVFR2CF => "movfr2cf"
  | .OPC_MOVCF2FR => "movcf2fr"
  | .OPC_MOVGR2CF => "movgr2cf"
  | .OPC_MOVCF2GR => "movcf2gr"
  | .OPC_FCVT_S_D => "fcvt.s.d"
  | .OPC_FCVT_D_S => "fcvt.d.s"
  | .OPC_FTINTRM_W_S => "ftintrm.w.s"
  | .OPC_FTINTRM_W_D => "ftintrm.w.d"
  | .OPC_FTINTRM_L_S => "ftintrm.l.s"
  | .OPC_FTINTRM_L_D => "ftintrm.l.d"
  | .OPC_FTINTRP_W_S => "ftintrp.w.s"
  | .OPC_FTINTRP_W_D => "ftintrp.w.d"
  | .OPC_FTINTRP_L_S => "ftintrp.l.s"
  | .OPC_FTINTRP_L_D => "ftintrp.l.d"
  | .OPC_FTINTRZ_W_S => "ftintrz.w.s"
  | .OPC_FTINTRZ_W_D => "ftintrz.w.d"
  | .OPC_FTINTRZ_L_S => "ftintrz.l.s"
  | .OPC_FTINTRZ_L_D => "ftintrz.l.d"
  | .OPC_FTINTRNE_W_S => "ftintrne.w.s"
  | .OPC_FTINTRNE_W_D => "ftintrne.w.d"
  | .OPC_FTINTRNE_L_S => "ftintrne.l.s"
  | .OPC_FTINTRNE_L_D => "ftintrne.l.d"
  | .OPC_FTINT_W_S => "ftint.w.s"
  | .OPC_FTINT_W_D => "ftint.w.d"
  | .OPC_FTINT_L_S => "ftint.l.s"
  | .OPC_FTINT_L_D => "ftint.l.d"
  | .OPC_FFINT_S_W => "ffint.s.w"
  | .OPC_FFINT_S_L => "ffint.s.l"
  | .OPC_FFINT_D_W => "ffint.d.w"
  | .OPC_FFINT_D_L => "ffint.d.l"
  | .OPC_FRINT_S => "frint.s"
  | .OPC_FRINT_D => "frint.d"
  | .OPC_SLTI => "slti"
  | .OPC_SLTUI => "sltui"
  | .OPC_ADDI_W => "addi.w"
  | .OPC_ADDI_D => "addi.d"
  | .OPC_LU52I_D => "lu52i.d"
  | .OPC_ANDI => "andi"
  | .OPC_ORI => "ori"
  | .OPC_XORI => "xori"
  | .OPC_CSRRD => "csrrd"
  | .OPC_CSRWR => "csrwr"
  | .OPC_CSRXCHG => "csrxchg"
  | .OPC_CACOP => "cacop"
  | .OPC_LDDIR => "lddir"
  | .OPC_LDPTE => "ldpte"
  | .OPC_IOCSRRD_B => "iocsrrd.b"
  | .OPC_IOCSRRD_H => "iocsrrd.h"
  | .OPC_IOCSRRD_W => "iocsrrd.w"
  | .OPC_IOCSRRD_D => "iocsrrd.d"
  | .OPC_IOCSRWR_B => "iocsrwr.b"
  | .OPC_IOCSRWR_H => "iocsrwr.h"
  | .OPC_IOCSRWR_W => "iocsrwr.w"
  | .OPC_IOCSRWR_D => "iocsrwr.d"
  | .OPC_TLBCLR => "tlbclr"
  | .OPC_TLBFLUSH => "tlbflush"
  | .OPC_TLBSRCH => "tlbsrch"
  | .OPC_TLBRD => "tlbrd"
  | .OPC_TLBWR => "tlbwr"
  | .OPC_TLBFILL => "tlbfill"
  | .OPC_ERTN => "ertn"
  | .OPC_IDLE => "idle"
  | .OPC_INVTLB => "invtlb"
  | .OPC_FMADD_S => "fmadd.s"
  | .OPC_FMADD_D => "fmadd.d"
  | .OPC_FMSUB_S => "fmsub.s"
  | .OPC_FMSUB_D => "fmsub.d"
  | .OPC_FNMADD_S => "fnmadd.s"
  | .OPC_FNMADD_D => "fnmadd.d"
  | .OPC_FNMSUB_S => "fnmsub.s"
  | .OPC_FNMSUB_D => "fnmsub.d"
  | .OPC_FCMP_CAF_S => "fcmp.caf.s"
  | .OPC_FCMP_SAF_S => "fcmp.saf.s"
  | .OPC_FCMP_CLT_S => "fcmp.clt.s"
  | .OPC_FCMP_STL_S => "fcmp.stl.s"
  | .OPC_FCMP_CEQ_S => "fcmp.ceq.s"
  | .OPC_FCMP_SEQ_S => "fcmp.seq.s"
  | .OPC_FCMP_CLE_S => "fcmp.cle.s"
  | .OPC_FCMP_SLE_S => "fcmp.sle.s"
  | .OPC_FCMP_CUN_S => "fcmp.cun.s"
  | .OPC_FCMP_SUN_S => "fcmp.sun.s"
  | .OPC_FCMP_CULT_S => "fcmp.cult.s"
  | .OPC_FCMP_SULT_S => "fcmp.sult.s"
  | .OPC_FCMP_CUEQ_S => "fcmp.cueq.s"
  | .OPC_FCMP_SUEQ_S => "fcmp.sueq.s"
  | .OPC_FCMP_CULE_S => "fcmp.cule.s"
  | .OPC_FCMP_SULE_S => "fcmp.sule.s"
  | .OPC_FCMP_CNE_S => "fcmp.cne.s"
  | .OPC_FCMP_SNE_S => "fcmp.sne.s"
  | .OPC_FCMP_COR_S => "fcmp.cor.s"
  | .OPC_FCMP_SOR_S => "fcmp.sor.s"
  | .OPC_FCMP_CUNE_S => "fcmp.cune.s"
  | .OPC_FCMP_SUNE_S => "fcmp.sune.s"
  | .OPC_FCMP_CAF_D => "fcmp.caf.d"
  | .OPC_FCMP_SAF_D => "fcmp.saf.d"
  | .OPC_FCMP_CLT_D => "fcmp.clt.d"
  | .OPC_FCMP_STL_D => "fcmp.stl.d"
  | .OPC_FCMP_CEQ_D => "fcmp.ceq.d"
  | .OPC_FCMP_SEQ_D => "fcmp.seq.d"
  | .OPC_FCMP_CLE_D => "fcmp.cle.d"
  | .OPC_FCMP_SLE_D => "fcmp.sle.d"
  | .OPC_FCMP_CUN_D => "fcmp.cun.d"
  | .OPC_FCMP_SUN_D => "fcmp.sun.d"
  | .OPC_FCMP_CULT_D => "fcmp.cult.d"
  | .OPC_FCMP_SULT_D => "fcmp.sult.d"
  | .OPC_FCMP_CUEQ_D => "fcmp.cueq.d"
  | .OPC_FCMP_SUEQ_D => "fcmp.sueq.d"
  | .OPC_FCMP_CULE_D => "fcmp.cule.d"
  | .OPC_FCMP_SULE_D => "fcmp.sule.d"
  | .OPC_FCMP_CNE_D => "fcmp.cne.d"
  | .OPC_FCMP_SNE_D => "fcmp.sne.d"
  | .OPC_FCMP_COR_D => "fcmp.cor.d"
  | .OPC_FCMP_SOR_D => "fcmp.sor.d"
  | .OPC_FCMP_CUNE_D => "fcmp.cune.d"
  | .OPC_FCMP_SUNE_D => "fcmp.sune.d"
  | .OPC_FSEL => "fsel"
  | .OPC_ADDU16I_D => "addu16i.d"
  | .OPC_LU12I_W => "lu12i.w"
  | .OPC_LU32I_D => "lu32i.d"
  | .OPC_PCADDI => "pcaddi"
  | .OPC_PCALAU12I => "pcalau12i"
  | .OPC_PCADDU12I => "pcaddu12i"
  | .OPC_PCADDU18I => "pcaddu18i"
  | .OPC_LL_W => "ll.w"
  | .OPC_SC_W => "sc.w"
  | .OPC_LL_D => "ll.d"
  | .OPC_SC_D => "sc.d"
  | .OPC_LDPTR_W => "ldptr.w"
  | .OPC_STPTR_W => "stptr.w"
  | .OPC_LDPTR_D => "ldptr.d"
  | .OPC_STPTR_D => "stptr.d"
  | .OPC_LD_B => "ld.b"
  | .OPC_LD_H => "ld.h"
  | .OPC_LD_W => "ld.w"
  | .OPC_LD_D => "ld.d"
  | .OPC_ST_B => "st.b"
  | .OPC_ST_H => "st.h"
  | .OPC_ST_W => "st.w"
  | .OPC_ST_D => "st.d"
  | .OPC_LD_BU => "ld.bu"
  | .OPC_LD_HU => "ld.hu"
  | .OPC_LD_WU => "ld.wu"
  | .OPC_PRELD => "preld"
  | .OPC_FLD_S => "fld.s"
  | .OPC_FST_S => "fst.s"
  | .OPC_FLD_D => "fld.d"
  | .OPC_FST_D => "fst.d"
  | .OPC_LDX_B => "ldx.b"
  | .OPC_LDX_H => "ldx.h"
  | .OPC_LDX_W => "ldx.w"
  | .OPC_LDX_D => "ldx.d"
  | .OPC_STX_B => "stx.b"
  | .OPC_STX_H => "stx.h"
  | .OPC_STX_W => "stx.w"
  | .OPC_STX_D => "stx.d"
  | .OPC_LDX_BU => "ldx.bu"
  | .OPC_LDX_HU => "ldx.hu"
  | .OPC_LDX_WU => "ldx.wu"
  | .OPC_PRELDX => "preldx"
  | .OPC_FLDX_S => "fldx.s"
  | .OPC_FLDX_D => "fldx.d"
  | .OPC_FSTX_S => "fstx.s"
  | .OPC_FSTX_D => "fstx.d"
  | .OPC_AMSWAP_W => "amswap.w"
  | .OPC_AMSWAP_D => "amswap.d"
  | .OPC_AMADD_W => "amadd.w"
  | .OPC_AMADD_D => "amadd.d"
  | .OPC_AMAND_W => "amand.w"
  | .OPC_AMAND_D => "amand.d"
  | .OPC_AMOR_W => "amor.w"
  | .OPC_AMOR_D => "amor.d"
  | .OPC_AMXOR_W => "amxor.w"
  | .OPC_AMXOR_D => "amxor.d"
  | .OPC_AMMAX_W => "ammax.w"
  | .OPC_AMMAX_D => "ammax.d"
  | .OPC_AMMIN_W => "ammin.w"
  | .OPC_AMMIN_D => "ammin.d"
  | .OPC_AMMAX_WU => "ammax.wu"
  | .OPC_AMMAX_DU => "ammax.du"
  | .OPC_AMMIN_WU => "ammin.wu"
  | .OPC_AMMIN_DU => "ammin.du"
  | .OPC_AMSWAP_DB_W => "amswap.db.w"
  | .OPC_AMSWAP_DB_D => "amswap.db.d"
  | .OPC_AMADD_DB_W => "amadd.db.w"
  | .OPC_AMADD_DB_D => "amadd.db.d"
  | .OPC_AMAND_DB_W => "amand.db.w"
  | .OPC_AMAND_DB_D => "amand.db.d"
  | .OPC_AMOR_DB_W => "amor.db.w"
  | .OPC_AMOR_DB_D => "amor.db.d"
  | .OPC_AMXOR_DB_W => "amxor.db.w"
  | .OPC_AMXOR_DB_D => "amxor.db.d"
  | .OPC_AMMAX_DB_W => "ammax.db.w"
  | .OPC_AMMAX_DB_D => "ammax.db.d"
  | .OPC_AMMIN_DB_W => "ammin.db.w"
  | .OPC_AMMIN_DB_D => "ammin.db.d"
  | .OPC_AMMAX_DB_WU => "ammax.db.wu"
  | .OPC_AMMAX_DB_DU => "ammax.db.du"
  | .OPC_AMMIN_DB_WU => "ammin.db.wu"
  | .OPC_AMMIN_DB_DU => "ammin.db.du"
  | .OPC_DBAR => "dbar"
  | .OPC_IBAR => "ibar"
  | .OPC_FLDGT_S => "fldgt.s"
  | .OPC_FLDGT_D => "fldgt.d"
  | .OPC_FLDLE_S => "fldle.s"
  | .OPC_FLDLE_D => "fldle.d"
  | .OPC_FSTGT_S => "fstgt.s"
  | .OPC_FSTGT_D => "fstgt.d"
  | .OPC_FSTLE_S => "fstle.s"
  | .OPC_FSTLE_D => "fstle.d"
  | .OPC_LDGT_B => "ldgt.b"
  | .OPC_LDGT_H => "ldgt.h"
  | .OPC_LDGT_W => "ldgt.w"
  | .OPC_LDGT_D => "ldgt.d"
  | .OPC_LDLE_B => "ldle.b"
  | .OPC_LDLE_H => "ldle.h"
  | .OPC_LDLE_W => "ldle.w"
  | .OPC_LDLE_D => "ldle.d"
  | .OPC_STGT_B => "stgt.b"
  | .OPC_STGT_H => "stgt.h"
  | .OPC_STGT_W => "stgt.w"
  | .OPC_STGT_D => "stgt.d"
  | .OPC_STLE_B => "stle.b"
  | .OPC_STLE_H => "stle.h"
  | .OPC_STLE_W => "stle.w"
  | .OPC_STLE_D => "stle.d"
  | .OPC_BEQZ => "beqz"
  | .OPC_BNEZ => "bnez"
  | .OPC_BCEQZ => "bceqz"
  | .OPC_BCNEZ => "bcnez"
  | .OPC_JIRL => "jirl"
  | .OPC_B => "b"
  | .OPC_BL => "bl"
  | .OPC_BEQ => "beq"
  | .OPC_BNE => "bne"
  | .OPC_BLT => "blt"
  | .OPC_BGE => "bge"
  | .OPC_BLTU => "bltu"
  | .OPC_BGEU => "bgeu"
  | .OPC_GR2SCR => "gr2scr"
  | .OPC_SRC2GR => "src2gr"
  | .OPC_X86MTTOP => "x86mttop"
  | .OPC_X86MFTOP => "x86mftop"
  | .OPC_SETX86LOOPE => "setx86loope"
  | .OPC_SETX86LOOPNE => "setx86loopne"
  | .OPC_X86INC_B => "x86inc.b"
  | .OPC_X86INC_H => "x86inc.h"
  | .OPC_X86INC_W => "x86inc.w"
  | .OPC_X86INC_D => "x86inc.d"
  | .OPC_X86DEC_B => "x86dec.b"
  | .OPC_X86DEC_H => "x86dec.h"
  | .OPC_X86DEC_W => "x86dec.w"
  | .OPC_X86DEC_D => "x86dec.d"
  | .OPC_X86SETTM => "x86settm"
  | .OPC_X86CLRTM => "x86clrtm"
  | .OPC_X86INCTOP => "x86inctop"
  | .OPC_X86DECTOP => "x86dectop"
  | .OPC_ROTR_B => "rotr.b"
  | .OPC_ROTR_H => "rotr.h"
  | .OPC_ADDU12I_W => "addu12i.w"
  | .OPC_ADDU12I_D => "addu12i.d"
  | .OPC_HVCL => "hvcl"
  | .OPC_ADC_B => "adc.b"
  | .OPC_ADC_H => "adc.h"
  | .OPC_ADC_W => "adc.w"
  | .OPC_ADC_D => "adc.d"
  | .OPC_SBC_B => "sbc.b"
  | .OPC_SBC_H => "sbc.h"
  | .OPC_SBC_W => "sbc.w"
  | .OPC_SBC_D => "sbc.d"
  | .OPC_RCR_B => "rcr.b"
  | .OPC_RCR_H => "rcr.h"
  | .OPC_RCR_W => "rcr.w"
  | .OPC_RCR_D => "rcr.d"
  | .OPC_ARMMOVE => "armmove"
  | .OPC_SETX86J => "setx86j"
  | .OPC_SETARMJ => "setarmj"
  | .OPC_ARMADD_W => "armadd.w"
  | .OPC_ARMSUB_W => "armsub.w"
  | .OPC_ARMADC_W => "armadc.w"
  | .OPC_ARMSBC_W => "armsbc.w"
  | .OPC_ARMAND_W => "armand.w"
  | .OPC_ARMOR_W => "armor.w"
  | .OPC_ARMXOR_W => "armxor.w"
  | .OPC_ARMSLL_W => "armsll.w"
  | .OPC_ARMSRL_W => "armsrl.w"
  | .OPC_ARMSRA_W => "armsra.w"
  | .OPC_ARMROTR_W => "armrotr.w"
  | .OPC_ARMSLLI_W => "armslli.w"
  | .OPC_ARMSRLI_W => "armsrli.w"
  | .OPC_ARMSRAI_W => "armsrai.w"
  | .OPC_ARMROTRI_W => "armrotri.w"
  | .OPC_X86MUL_B => "x86mul.b"
  | .OPC_X86MUL_H => "x86mul.h"
  | .OPC_X86MUL_W => "x86mul.w"
  | .OPC_X86MUL_D => "x86mul.d"
  | .OPC_X86MUL_BU => "x86mul.bu"
  | .OPC_X86MUL_HU => "x86mul.hu"
  | .OPC_X86MUL_WU => "x86mul.wu"
  | .OPC_X86MUL_DU => "x86mul.du"
  | .OPC_X86ADD_WU => "x86add.wu"
  | .OPC_X86ADD_DU => "x86add.du"
  | .OPC_X86SUB_WU => "x86sub.wu"
  | .OPC_X86SUB_DU => "x86sub.du"
  | .OPC_X86ADD_B => "x86add.b"
  | .OPC_X86ADD_H => "x86add.h"
  | .OPC_X86ADD_W => "x86add.w"
  | .OPC_X86ADD_D => "x86add.d"
  | .OPC_X86SUB_B => "x86sub.b"
  | .OPC_X86SUB_H => "x86sub.h"
  | .OPC_X86SUB_W => "x86sub.w"
  | .OPC_X86SUB_D => "x86sub.d"
  | .OPC_X86ADC_B => "x86adc.b"
  | .OPC_X86ADC_H => "x86adc.h"
  | .OPC_X86ADC_W => "x86adc.w"
  | .OPC_X86ADC_D => "x86adc.d"
  | .OPC_X86SBC_B => "x86sbc.b"
  | .OPC_X86SBC_H => "x86sbc.h"
  | .OPC_X86SBC_W => "x86sbc.w"
  | .OPC_X86SBC_D => "x86sbc.d"
  | .OPC_X86SLL_B => "x86sll.b"
  | .OPC_X86SLL_H => "x86sll.h"
  | .OPC_X86SLL_W => "x86sll.w"
  | .OPC_X86SLL_D => "x86sll.d"
  | .OPC_X86SRL_B => "x86srl.b"
  | .OPC_X86SRL_H => "x86srl.h"
  | .OPC_X86SRL_W => "x86srl.w"
  | .OPC_X86SRL_D => "x86srl.d"
  | .OPC_X86SRA_B => "x86sra.b"
  | .OPC_X86SRA_H => "x86sra.h"
  | .OPC_X86SRA_W => "x86sra.w"
  | .OPC_X86SRA_D => "x86sra.d"
  | .OPC_X86ROTR_B => "x86rotr.b"
  | .OPC_X86ROTR_H => "x86rotr.h"
  | .OPC_X86ROTR_D => "x86rotr.d"
  | .OPC_X86ROTR_W => "x86rotr.w"
  | .OPC_X86ROTL_B => "x86rotl.b"
  | .OPC_X86ROTL_H => "x86rotl.h"
  | .OPC_X86ROTL_W => "x86rotl.w"
  | .OPC_X86ROTL_D => "x86rotl.d"
  | .OPC_X86RCR_B => "x86rcr.b"
  | .OPC_X86RCR_H => "x86rcr.h"
  | .OPC_X86RCR_W => "x86rcr.w"
  | .OPC_X86RCR_D => "x86rcr.d"
  | .OPC_X86RCL_B => "x86rcl.b"
  | .OPC_X86RCL_H => "x86rcl.h"
  | .OPC_X86RCL_W => "x86rcl.w"
  | .OPC_X86RCL_D => "x86rcl.d"
  | .OPC_X86AND_B => "x86and.b"
  | .OPC_X86AND_H => "x86and.h"
  | .OPC_X86AND_W => "x86and.w"
  | .OPC_X86AND_D => "x86and.d"
  | .OPC_X86OR_B => "x86or.b"
  | .OPC_X86OR_H => "x86or.h"
  | .OPC_X86OR_W => "x86or.w"
  | .OPC_X86OR_D => "x86or.d"
  | .OPC_X86XOR_B => "x86xor.b"
  | .OPC_X86XOR_H => "x86xor.h"
  | .OPC_X86XOR_W => "x86xor.w"
  | .OPC_X86XOR_D => "x86xor.d"
  | .OPC_ARMNOT_W => "armnot.w"
  | .OPC_ARMMOV_W => "armmov.w"
  | .OPC_ARMMOV_D => "armmov.d"
  | .OPC_ARMRRX_W => "armrrx.w"
  | .OPC_ROTRI_B => "rotri.b"
  | .OPC_ROTRI_H => "rotri.h"
  | .OPC_RCRI_B => "rcri.b"
  | .OPC_RCRI_H => "rcri.h"
  | .OPC_RCRI_W => "rcri.w"
  | .OPC_RCRI_D => "rcri.d"
  | .OPC_X86SLLI_B => "x86slli.b"
  | .OPC_X86SLLI_H => "x86slli.h"
  | .OPC_X86SLLI_W => "x86slli.w"
  | .OPC_X86SLLI_D => "x86slli.d"
  | .OPC_X86SRLI_B => "x86srli.b"
  | .OPC_X86SRLI_H => "x86srli.h"
  | .OPC_X86SRLI_W => "x86srli.w"
  | .OPC_X86SRLI_D => "x86srli.d"
  | .OPC_X86SRAI_B => "x86srai.b"
  | .OPC_X86SRAI_H => "x86srai.h"
  | .OPC_X86SRAI_W => "x86srai.w"
  | .OPC_X86SRAI_D => "x86srai.d"
  | .OPC_X86ROTRI_B => "x86rotri.b"
  | .OPC_X86ROTRI_H => "x86rotri.h"
  | .OPC_X86ROTRI_W => "x86rotri.w"
  | .OPC_X86ROTRI_D => "x86rotri.d"
  | .OPC_X86RCRI_B => "x86rcri.b"
  | .OPC_X86RCRI_H => "x86rcri.h"
  | .OPC_X86RCRI_W => "x86rcri.w"
  | .OPC_X86RCRI_D => "x86rcri.d"
  | .OPC_X86ROTLI_B => "x86rotli.b"
  | .OPC_X86ROTLI_H => "x86rotli.h"
  | .OPC_X86ROTLI_W => "x86rotli.w"
  | .OPC_X86ROTLI_D => "x86rotli.d"
  | .OPC_X86RCLI_B => "x86rcli.b"
  | .OPC_X86RCLI_H => "x86rcli.h"
  | .OPC_X86RCLI_W => "x86rcli.w"
  | .OPC_X86RCLI_D => "x86rcli.d"
  | .OPC_X86SETTAG => "x86settag"
  | .OPC_X86MFFLAG => "x86mfflag"
  | .OPC_X86MTFLAG => "x86mtflag"
  | .OPC_ARMMFFLAG => "armmfflag"
  | .OPC_ARMMTFLAG => "armmtflag"
  | .OPC_FCVT_LD_D => "fcvt.ld.d"
  | .OPC_FCVT_UD_D => "fcvt.ud.d"
  | .OPC_FCVT_D_LC => "fcvt.d.lc"
  | .OPC_GCSRRD => "gcsrrd"
  | .OPC_GCSRWR => "gcsrwr"
  | .OPC_GCSRXCHG => "gcsrxchg"
  | .OPC_GTLBCLR => "gtlbclr"
  | .OPC_GTLBFLUSH => "gtlbflush"
  | .OPC_GTLBSRCH => "gtlbsrch"
  | .OPC_GTLBRD => "gtlbrd"
  | .OPC_GTLBWR => "gtlbwr"
  | .OPC_GTLBFILL => "gtlbfill"
  | .OPC_SCFGR_W => "scfgr.w"
  | .OPC_SCFGR_D => "scfgr.d"
  | .OPC_SCFGW_W => "scfgw.w"
  | .OPC_SCFGW_D => "scfgw.d"
  | .OPC_SNOP => "snop"
  | .OPC_LDL_W => "ldl.w"
  | .OPC_LDR_W => "ldr.w"
  | .OPC_LDL_D => "ldl.d"
  | .OPC_LDR_D => "ldr.d"
  | .OPC_STL_W => "stl.w"
  | .OPC_STR_W => "str.w"
  | .OPC_STL_D => "stl.d"
  | .OPC_STR_D => "str.d"
  | .OPC_JISCR0 => "jiscr0"
  | .OPC_JISCR1 => "jiscr1"
  | .OPC_VADD_B => "vadd.b"
  | .OPC_VADD_H => "vadd.h"
  | .OPC_VADD_W => "vadd.w"
  | .OPC_VADD_D => "vadd.d"
  | .OPC_VADD_Q => "vadd.q"
  | .OPC_VSUB_B => "vsub.b"
  | .OPC_VSUB_H => "vsub.h"
  | .OPC_VSUB_W => "vsub.w"
  | .OPC_VSUB_D => "vsub.d"
  | .OPC_VSUB_Q => "vsub.q"
  | .OPC_VADDI_BU => "vaddi.bu"
  | .OPC_VADDI_HU => "vaddi.hu"
  | .OPC_VADDI_WU => "vaddi.wu"
  | .OPC_VADDI_DU => "vaddi.du"
  | .OPC_VSUBI_BU => "vsubi.bu"
  | .OPC_VSUBI_HU => "vsubi.hu"
  | .OPC_VSUBI_WU => "vsubi.wu"
  | .OPC_VSUBI_DU => "vsubi.du"
  | .OPC_VNEG_B => "vneg.b"
  | .OPC_VNEG_H => "vneg.h"
  | .OPC_VNEG_W => "vneg.w"
  | .OPC_VNEG_D => "vneg.d"
  | .OPC_VSADD_B => "vsadd.b"
  | .OPC_VSADD_H => "vsadd.h"
  | .OPC_VSADD_W => "vsadd.w"
  | .OPC_VSADD_D => "vsadd.d"
  | .OPC_VSADD_BU => "vsadd.bu"
  | .OPC_VSADD_HU => "vsadd.hu"
  | .OPC_VSADD_WU => "vsadd.wu"
  | .OPC_VSADD_DU => "vsadd.du"
  | .OPC_VSSUB_B => "vssub.b"
  | .OPC_VSSUB_H => "vssub.h"
  | .OPC_VSSUB_W => "vssub.w"
  | .OPC_VSSUB_D => "vssub.d"
  | .OPC_VSSUB_BU => "vssub.bu"
  | .OPC_VSSUB_HU => "vssub.hu"
  | .OPC_VSSUB_WU => "vssub.wu"
  | .OPC_VSSUB_DU => "vssub.du"
  | .OPC_VHADDW_H_B => "vhaddw.h.b"
  | .OPC_VHADDW_W_H => "vhaddw.w.h"
  | .OPC_VHADDW_D_W => "vhaddw.d.w"
  | .OPC_VHADDW_Q_D => "vhaddw.q.d"
  | .OPC_VHADDW_HU_BU => "vhaddw.hu.bu"
  | .OPC_VHADDW_WU_HU => "vhaddw.wu.hu"
  | .OPC_VHADDW_DU_WU => "vhaddw.du.wu"
  | .OPC_VHADDW_QU_DU => "vhaddw.qu.du"
  | .OPC_VHSUBW_H_B => "vhsubw.h.b"
  | .OPC_VHSUBW_W_H => "vhsubw.w.h"
  | .OPC_VHSUBW_D_W => "vhsubw.d.w"
  | .OPC_VHSUBW_Q_D => "vhsubw.q.d"
  | .OPC_VHSUBW_HU_BU => "vhsubw.hu.bu"
  | .OPC_VHSUBW_WU_HU => "vhsubw.wu.hu"
  | .OPC_VHSUBW_DU_WU => "vhsubw.du.wu"
  | .OPC_VHSUBW_QU_DU => "vhsubw.qu.du"
  | .OPC_VADDWEV_H_B => "vaddwev.h.b"
  | .OPC_VADDWEV_W_H => "vaddwev.w.h"
  | .OPC_VADDWEV_D_W => "vaddwev.d.w"
  | .OPC_VADDWEV_Q_D => "vaddwev.q.d"
  | .OPC_VADDWOD_H_B => "vaddwod.h.b"
  | .OPC_VADDWOD_W_H => "vaddwod.w.h"
  | .OPC_VADDWOD_D_W => "vaddwod.d.w"
  | .OPC_VADDWOD_Q_D => "vaddwod.q.d"
  | .OPC_VSUBWEV_H_B => "vsubwev.h.b"
  | .OPC_VSUBWEV_W_H => "vsubwev.w.h"
  | .OPC_VSUBWEV_D_W => "vsubwev.d.w"
  | .OPC_VSUBWEV_Q_D => "vsubwev.q.d"
  | .OPC_VSUBWOD_H_B => "vsubwod.h.b"
  | .OPC_VSUBWOD_W_H => "vsubwod.w.h"
  | .OPC_VSUBWOD_D_W => "vsubwod.d.w"
  | .OPC_VSUBWOD_Q_D => "vsubwod.q.d"
  | .OPC_VADDWEV_H_BU => "vaddwev.h.bu"
  | .OPC_VADDWEV_W_HU => "vaddwev.w.hu"
  | .OPC_VADDWEV_D_WU => "vaddwev.d.wu"
  | .OPC_VADDWEV_Q_DU => "vaddwev.q.du"
  | .OPC_VADDWOD_H_BU => "vaddwod.h.bu"
  | .OPC_VADDWOD_W_HU => "vaddwod.w.hu"
  | .OPC_VADDWOD_D_WU => "vaddwod.d.wu"
  | .OPC_VADDWOD_Q_DU => "vaddwod.q.du"
  | .OPC_VSUBWEV_H_BU => "vsubwev.h.bu"
  | .OPC_VSUBWEV_W_HU => "vsubwev.w.hu"
  | .OPC_VSUBWEV_D_WU => "vsubwev.d.wu"
  | .OPC_VSUBWEV_Q_DU => "vsubwev.q.du"
  | .OPC_VSUBWOD_H_BU => "vsubwod.h.bu"
  | .OPC_VSUBWOD_W_HU => "vsubwod.w.hu"
  | .OPC_VSUBWOD_D_WU => "vsubwod.d.wu"
  | .OPC_VSUBWOD_Q_DU => "vsubwod.q.du"
  | .OPC_VADDWEV_H_BU_B => "vaddwev.h.bu.b"
  | .OPC_VADDWEV_W_HU_H => "vaddwev.w.hu.h"
  | .OPC_VADDWEV_D_WU_W => "vaddwev.d.wu.w"
  | .OPC_VADDWEV_Q_DU_D => "vaddwev.q.du.d"
  | .OPC_VADDWOD_H_BU_B => "vaddwod.h.bu.b"
  | .OPC_VADDWOD_W_HU_H => "vaddwod.w.hu.h"
  | .OPC_VADDWOD_D_WU_W => "vaddwod.d.wu.w"
  | .OPC_VADDWOD_Q_DU_D => "vaddwod.q.du.d"
  | .OPC_VAVG_B => "vavg.b"
  | .OPC_VAVG_H => "vavg.h"
  | .OPC_VAVG_W => "vavg.w"
  | .OPC_VAVG_D => "vavg.d"
  | .OPC_VAVG_BU => "vavg.bu"
  | .OPC_VAVG_HU => "vavg.hu"
  | .OPC_VAVG_WU => "vavg.wu"
  | .OPC_VAVG_DU => "vavg.du"
  | .OPC_VAVGR_B => "vavgr.b"
  | .OPC_VAVGR_H => "vavgr.h"
  | .OPC_VAVGR_W => "vavgr.w"
  | .OPC_VAVGR_D => "vavgr.d"
  | .OPC_VAVGR_BU => "vavgr.bu"
  | .OPC_VAVGR_HU => "vavgr.hu"
  | .OPC_VAVGR_WU => "vavgr.wu"
  | .OPC_VAVGR_DU => "vavgr.du"
  | .OPC_VABSD_B => "vabsd.b"
  | .OPC_VABSD_H => "vabsd.h"
  | .OPC_VABSD_W => "vabsd.w"
  | .OPC_VABSD_D => "vabsd.d"
  | .OPC_VABSD_BU => "vabsd.bu"
  | .OPC_VABSD_HU => "vabsd.hu"
  | .OPC_VABSD_WU => "vabsd.wu"
  | .OPC_VABSD_DU => "vabsd.du"
  | .OPC_VADDA_B => "vadda.b"
  | .OPC_VADDA_H => "vadda.h"
  | .OPC_VADDA_W => "vadda.w"
  | .OPC_VADDA_D => "vadda.d"
  | .OPC_VMAX_B => "vmax.b"
  | .OPC_VMAX_H => "vmax.h"
  | .OPC_VMAX_W => "vmax.w"
  | .OPC_VMAX_D => "vmax.d"
  | .OPC_VMAXI_B => "vmaxi.b"
  | .OPC_VMAXI_H => "vmaxi.h"
  | .OPC_VMAXI_W => "vmaxi.w"
  | .OPC_VMAXI_D => "vmaxi.d"
  | .OPC_VMAX_BU => "vmax.bu"
  | .OPC_VMAX_HU => "vmax.hu"
  | .OPC_VMAX_WU => "vmax.wu"
  | .OPC_VMAX_DU => "vmax.du"
  | .OPC_VMAXI_BU => "vmaxi.bu"
  | .OPC_VMAXI_HU => "vmaxi.hu"
  | .OPC_VMAXI_WU => "vmaxi.wu"
  | .OPC_VMAXI_DU => "vmaxi.du"
  | .OPC_VMIN_B => "vmin.b"
  | .OPC_VMIN_H => "vmin.h"
  | .OPC_VMIN_W => "vmin.w"
  | .OPC_VMIN_D => "vmin.d"
  | .OPC_VMINI_B => "vmini.b"
  | .OPC_VMINI_H => "vmini.h"
  | .OPC_VMINI_W => "vmini.w"
  | .OPC_VMINI_D => "vmini.d"
  | .OPC_VMIN_BU => "vmin.bu"
  | .OPC_VMIN_HU => "vmin.hu"
  | .OPC_VMIN_WU => "vmin.wu"
  | .OPC_VMIN_DU => "vmin.du"
  | .OPC_VMINI_BU => "vmini.bu"
  | .OPC_VMINI_HU => "vmini.hu"
  | .OPC_VMINI_WU => "vmini.wu"
  | .OPC_VMINI_DU => "vmini.du"
  | .OPC_VMUL_B => "vmul.b"
  | .OPC_VMUL_H => "vmul.h"
  | .OPC_VMUL_W => "vmul.w"
  | .OPC_VMUL_D => "vmul.d"
  | .OPC_VMUH_B => "vmuh.b"
  | .OPC_VMUH_H => "vmuh.h"
  | .OPC_VMUH_W => "vmuh.w"
  | .OPC_VMUH_D => "vmuh.d"
  | .OPC_VMUH_BU => "vmuh.bu"
  | .OPC_VMUH_HU => "vmuh.hu"
  | .OPC_VMUH_WU => "vmuh.wu"
  | .OPC_VMUH_DU => "vmuh.du"
  | .OPC_VMULWEV_H_B => "vmulwev.h.b"
  | .OPC_VMULWEV_W_H => "vmulwev.w.h"
  | .OPC_VMULWEV_D_W => "vmulwev.d.w"
  | .OPC_VMULWEV_Q_D => "vmulwev.q.d"
  | .OPC_VMULWOD_H_B => "vmulwod.h.b"
  | .OPC_VMULWOD_W_H => "vmulwod.w.h"
  | .OPC_VMULWOD_D_W => "vmulwod.d.w"
  | .OPC_VMULWOD_Q_D => "vmulwod.q.d"
  | .OPC_VMULWEV_H_BU => "vmulwev.h.bu"
  | .OPC_VMULWEV_W_HU => "vmulwev.w.hu"
  | .OPC_VMULWEV_D_WU => "vmulwev.d.wu"
  | .OPC_VMULWEV_Q_DU => "vmulwev.q.du"
  | .OPC_VMULWOD_H_BU => "vmulwod.h.bu"
  | .OPC_VMULWOD_W_HU => "vmulwod.w.hu"
  | .OPC_VMULWOD_D_WU => "vmulwod.d.wu"
  | .OPC_VMULWOD_Q_DU => "vmulwod.q.du"
  | .OPC_VMULWEV_H_BU_B => "vmulwev.h.bu.b"
  | .OPC_VMULWEV_W_HU_H => "vmulwev.w.hu.h"
  | .OPC_VMULWEV_D_WU_W => "vmulwev.d.wu.w"
  | .OPC_VMULWEV_Q_DU_D => "vmulwev.q.du.d"
  | .OPC_VMULWOD_H_BU_B => "vmulwod.h.bu.b"
  | .OPC_VMULWOD_W_HU_H => "vmulwod.w.hu.h"
  | .OPC_VMULWOD_D_WU_W => "vmulwod.d.wu.w"
  | .OPC_VMULWOD_Q_DU_D => "vmulwod.q.du.d"
  | .OPC_VMADD_B => "vmadd.b"
  | .OPC_VMADD_H => "vmadd.h"
  | .OPC_VMADD_W => "vmadd.w"
  | .OPC_VMADD_D => "vmadd.d"
  | .OPC_VMSUB_B => "vmsub.b"
  | .OPC_VMSUB_H => "vmsub.h"
  | .OPC_VMSUB_W => "vmsub.w"
  | .OPC_VMSUB_D => "vmsub.d"
  | .OPC_VMADDWEV_H_B => "vmaddwev.h.b"
  | .OPC_VMADDWEV_W_H => "vmaddwev.w.h"
  | .OPC_VMADDWEV_D_W => "vmaddwev.d.w"
  | .OPC_VMADDWEV_Q_D => "vmaddwev.q.d"
  | .OPC_VMADDWOD_H_B => "vmaddwod.h.b"
  | .OPC_VMADDWOD_W_H => "vmaddwod.w.h"
  | .OPC_VMADDWOD_D_W => "vmaddwod.d.w"
  | .OPC_VMADDWOD_Q_D => "vmaddwod.q.d"
  | .OPC_VMADDWEV_H_BU => "vmaddwev.h.bu"
  | .OPC_VMADDWEV_W_HU => "vmaddwev.w.hu"
  | .OPC_VMADDWEV_D_WU => "vmaddwev.d.wu"
  | .OPC_VMADDWEV_Q_DU => "vmaddwev.q.du"
  | .OPC_VMADDWOD_H_BU => "vmaddwod.h.bu"
  | .OPC_VMADDWOD_W_HU => "vmaddwod.w.hu"
  | .OPC_VMADDWOD_D_WU => "vmaddwod.d.wu"
  | .OPC_VMADDWOD_Q_DU => "vmaddwod.q.du"
  | .OPC_VMADDWEV_H_BU_B => "vmaddwev.h.bu.b"
  | .OPC_VMADDWEV_W_HU_H => "vmaddwev.w.hu.h"
  | .OPC_VMADDWEV_D_WU_W => "vmaddwev.d.wu.w"
  | .OPC_VMADDWEV_Q_DU_D => "vmaddwev.q.du.d"
  | .OPC_VMADDWOD_H_BU_B => "vmaddwod.h.bu.b"
  | .OPC_VMADDWOD_W_HU_H => "vmaddwod.w.hu.h"
  | .OPC_VMADDWOD_D_WU_W => "vmaddwod.d.wu.w"
  | .OPC_VMADDWOD_Q_DU_D => "vmaddwod.q.du.d"
  | .OPC_VDIV_B => "vdiv.b"
  | .OPC_VDIV_H => "vdiv.h"
  | .OPC_VDIV_W => "vdiv.w"
  | .OPC_VDIV_D => "vdiv.d"
  | .OPC_VDIV_BU => "vdiv.bu"
  | .OPC_VDIV_HU => "vdiv.hu"
  | .OPC_VDIV_WU => "vdiv.wu"
  | .OPC_VDIV_DU => "vdiv.du"
  | .OPC_VMOD_B => "vmod.b"
  | .OPC_VMOD_H => "vmod.h"
  | .OPC_VMOD_W => "vmod.w"
  | .OPC_VMOD_D => "vmod.d"
  | .OPC_VMOD_BU => "vmod.bu"
  | .OPC_VMOD_HU => "vmod.hu"
  | .OPC_VMOD_WU => "vmod.wu"
  | .OPC_VMOD_DU => "vmod.du"
  | .OPC_VSAT_B => "vsat.b"
  | .OPC_VSAT_H => "vsat.h"
  | .OPC_VSAT_W => "vsat.w"
  | .OPC_VSAT_D => "vsat.d"
  | .OPC_VSAT_BU => "vsat.bu"
  | .OPC_VSAT_HU => "vsat.hu"
  | .OPC_VSAT_WU => "vsat.wu"
  | .OPC_VSAT_DU => "vsat.du"
  | .OPC_VEXTH_H_B => "vexth.h.b"
  | .OPC_VEXTH_W_H => "vexth.w.h"
  | .OPC_VEXTH_D_W => "vexth.d.w"
  | .OPC_VEXTH_Q_D => "vexth.q.d"
  | .OPC_VEXTH_HU_BU => "vexth.hu.bu"
  | .OPC_VEXTH_WU_HU => "vexth.wu.hu"
  | .OPC_VEXTH_DU_WU => "vexth.du.wu"
  | .OPC_VEXTH_QU_DU => "vexth.qu.du"
  | .OPC_VSIGNCOV_B => "vsigncov.b"
  | .OPC_VSIGNCOV_H => "vsigncov.h"
  | .OPC_VSIGNCOV_W => "vsigncov.w"
  | .OPC_VSIGNCOV_D => "vsigncov.d"
  | .OPC_VMSKLTZ_B => "vmskltz.b"
  | .OPC_VMSKLTZ_H => "vmskltz.h"
  | .OPC_VMSKLTZ_W => "vmskltz.w"
  | .OPC_VMSKLTZ_D => "vmskltz.d"
  | .OPC_VMSKGEZ_B => "vmskgez.b"
  | .OPC_VMSKNZ_B => "vmsknz.b"
  | .OPC_VLDI => "vldi"
  | .OPC_VAND_V => "vand.v"
  | .OPC_VOR_V => "vor.v"
  | .OPC_VXOR_V => "vxor.v"
  | .OPC_VNOR_V => "vnor.v"
  | .OPC_VANDN_V => "vandn.v"
  | .OPC_VORN_V => "vorn.v"
  | .OPC_VANDI_B => "vandi.b"
  | .OPC_VORI_B => "vori.b"
  | .OPC_VXORI_B => "vxori.b"
  | .OPC_VNORI_B => "vnori.b"
  | .OPC_VSLL_B => "vsll.b"
  | .OPC_VSLL_H => "vsll.h"
  | .OPC_VSLL_W => "vsll.w"
  | .OPC_VSLL_D => "vsll.d"
  | .OPC_VSLLI_B => "vslli.b"
  | .OPC_VSLLI_H => "vslli.h"
  | .OPC_VSLLI_W => "vslli.w"
  | .OPC_VSLLI_D => "vslli.d"
  | .OPC_VSRL_B => "vsrl.b"
  | .OPC_VSRL_H => "vsrl.h"
  | .OPC_VSRL_W => "vsrl.w"
  | .OPC_VSRL_D => "vsrl.d"
  | .OPC_VSRLI_B => "vsrli.b"
  | .OPC_VSRLI_H => "vsrli.h"
  | .OPC_VSRLI_W => "vsrli.w"
  | .OPC_VSRLI_D => "vsrli.d"
  | .OPC_VSRA_B => "vsra.b"
  | .OPC_VSRA_H => "vsra.h"
  | .OPC_VSRA_W => "vsra.w"
  | .OPC_VSRA_D => "vsra.d"
  | .OPC_VSRAI_B => "vsrai.b"
  | .OPC_VSRAI_H => "vsrai.h"
  | .OPC_VSRAI_W => "vsrai.w"
  | .OPC_VSRAI_D => "vsrai.d"
  | .OPC_VROTR_B => "vrotr.b"
  | .OPC_VROTR_H => "vrotr.h"
  | .OPC_VROTR_W => "vrotr.w"
  | .OPC_VROTR_D => "vrotr.d"
  | .OPC_VROTRI_B => "vrotri.b"
  | .OPC_VROTRI_H => "vrotri.h"
  | .OPC_VROTRI_W => "vrotri.w"
  | .OPC_VROTRI_D => "vrotri.d"
  | .OPC_VSLLWIL_H_B => "vsllwil.h.b"
  | .OPC_VSLLWIL_W_H => "vsllwil.w.h"
  | .OPC_VSLLWIL_D_W => "vsllwil.d.w"
  | .OPC_VEXTL_Q_D => "vextl.q.d"
  | .OPC_VSLLWIL_HU_BU => "vsllwil.hu.bu"
  | .OPC_VSLLWIL_WU_HU => "vsllwil.wu.hu"
  | .OPC_VSLLWIL_DU_WU => "vsllwil.du.wu"
  | .OPC_VEXTL_QU_DU => "vextl.qu.du"
  | .OPC_VSRLR_B => "vsrlr.b"
  | .OPC_VSRLR_H => "vsrlr.h"
  | .OPC_VSRLR_W => "vsrlr.w"
  | .OPC_VSRLR_D => "vsrlr.d"
  | .OPC_VSRLRI_B => "vsrlri.b"
  | .OPC_VSRLRI_H => "vsrlri.h"
  | .OPC_VSRLRI_W => "vsrlri.w"
  | .OPC_VSRLRI_D => "vsrlri.d"
  | .OPC_VSRAR_B => "vsrar.b"
  | .OPC_VSRAR_H => "vsrar.h"
  | .OPC_VSRAR_W => "vsrar.w"
  | .OPC_VSRAR_D => "vsrar.d"
  | .OPC_VSRARI_B => "vsrari.b"
  | .OPC_VSRARI_H => "vsrari.h"
  | .OPC_VSRARI_W => "vsrari.w"
  | .OPC_VSRARI_D => "vsrari.d"
  | .OPC_VSRLN_B_H => "vsrln.b.h"
  | .OPC_VSRLN_H_W => "vsrln.h.w"
  | .OPC_VSRLN_W_D => "vsrln.w.d"
  | .OPC_VSRAN_B_H => "vsran.b.h"
  | .OPC_VSRAN_H_W => "vsran.h.w"
  | .OPC_VSRAN_W_D => "vsran.w.d"
  | .OPC_VSRLNI_B_H => "vsrlni.b.h"
  | .OPC_VSRLNI_H_W => "vsrlni.h.w"
  | .OPC_VSRLNI_W_D => "vsrlni.w.d"
  | .OPC_VSRLNI_D_Q => "vsrlni.d.q"
  | .OPC_VSRANI_B_H => "vsrani.b.h"
  | .OPC_VSRANI_H_W => "vsrani.h.w"
  | .OPC_VSRANI_W_D => "vsrani.w.d"
  | .OPC_VSRANI_D_Q => "vsrani.d.q"
  | .OPC_VSRLRN_B_H => "vsrlrn.b.h"
  | .OPC_VSRLRN_H_W => "vsrlrn.h.w"
  | .OPC_VSRLRN_W_D => "vsrlrn.w.d"
  | .OPC_VSRARN_B_H => "vsrarn.b.h"
  | .OPC_VSRARN_H_W => "vsrarn.h.w"
  | .OPC_VSRARN_W_D => "vsrarn.w.d"
  | .OPC_VSRLRNI_B_H => "vsrlrni.b.h"
  | .OPC_VSRLRNI_H_W => "vsrlrni.h.w"
  | .OPC_VSRLRNI_W_D => "vsrlrni.w.d"
  | .OPC_VSRLRNI_D_Q => "vsrlrni.d.q"
  | .OPC_VSRARNI_B_H => "vsrarni.b.h"
  | .OPC_VSRARNI_H_W => "vsrarni.h.w"
  | .OPC_VSRARNI_W_D => "vsrarni.w.d"
  | .OPC_VSRARNI_D_Q => "vsrarni.d.q"
  | .OPC_VSSRLN_B_H => "vssrln.b.h"
  | .OPC_VSSRLN_H_W => "vssrln.h.w"
  | .OPC_VSSRLN_W_D => "vssrln.w.d"
  | .OPC_VSSRAN_B_H => "vssran.b.h"
  | .OPC_VSSRAN_H_W => "vssran.h.w"
  | .OPC_VSSRAN_W_D => "vssran.w.d"
  | .OPC_VSSRLN_BU_H => "vssrln.bu.h"
  | .OPC_VSSRLN_HU_W => "vssrln.hu.w"
  | .OPC_VSSRLN_WU_D => "vssrln.wu.d"
  | .OPC_VSSRAN_BU_H => "vssran.bu.h"
  | .OPC_VSSRAN_HU_W => "vssran.hu.w"
  | .OPC_VSSRAN_WU_D => "vssran.wu.d"
  | .OPC_VSSRLNI_B_H => "vssrlni.b.h"
  | .OPC_VSSRLNI_H_W => "vssrlni.h.w"
  | .OPC_VSSRLNI_W_D => "vssrlni.w.d"
  | .OPC_VSSRLNI_D_Q => "vssrlni.d.q"
  | .OPC_VSSRANI_B_H => "vssrani.b.h"
  | .OPC_VSSRANI_H_W => "vssrani.h.w"
  | .OPC_VSSRANI_W_D => "vssrani.w.d"
  | .OPC_VSSRANI_D_Q => "vssrani.d.q"
  | .OPC_VSSRLNI_BU_H => "vssrlni.bu.h"
  | .OPC_VSSRLNI_HU_W => "vssrlni.hu.w"
  | .OPC_VSSRLNI_WU_D => "vssrlni.wu.d"
  | .OPC_VSSRLNI_DU_Q => "vssrlni.du.q"
  | .OPC_VSSRANI_BU_H => "vssrani.bu.h"
  | .OPC_VSSRANI_HU_W => "vssrani.hu.w"
  | .OPC_VSSRANI_WU_D => "vssrani.wu.d"
  | .OPC_VSSRANI_DU_Q => "vssrani.du.q"
  | .OPC_VSSRLRN_B_H => "vssrlrn.b.h"
  | .OPC_VSSRLRN_H_W => "vssrlrn.h.w"
  | .OPC_VSSRLRN_W_D => "vssrlrn.w.d"
  | .OPC_VSSRARN_B_H => "vssrarn.b.h"
  | .OPC_VSSRARN_H_W => "vssrarn.h.w"
  | .OPC_VSSRARN_W_D => "vssrarn.w.d"
  | .OPC_VSSRLRN_BU_H => "vssrlrn.bu.h"
  | .OPC_VSSRLRN_HU_W => "vssrlrn.hu.w"
  | .OPC_VSSRLRN_WU_D => "vssrlrn.wu.d"
  | .OPC_VSSRARN_BU_H => "vssrarn.bu.h"
  | .OPC_VSSRARN_HU_W => "vssrarn.hu.w"
  | .OPC_VSSRARN_WU_D => "vssrarn.wu.d"
  | .OPC_VSSRLRNI_B_H => "vssrlrni.b.h"
  | .OPC_VSSRLRNI_H_W => "vssrlrni.h.w"
  | .OPC_VSSRLRNI_W_D => "vssrlrni.w.d"
  | .OPC_VSSRLRNI_D_Q => "vssrlrni.d.q"
  | .OPC_VSSRARNI_B_H => "vssrarni.b.h"
  | .OPC_VSSRARNI_H_W => "vssrarni.h.w"
  | .OPC_VSSRARNI_W_D => "vssrarni.w.d"
  | .OPC_VSSRARNI_D_Q => "vssrarni.d.q"
  | .OPC_VSSRLRNI_BU_H => "vssrlrni.bu.h"
  | .OPC_VSSRLRNI_HU_W => "vssrlrni.hu.w"
  | .OPC_VSSRLRNI_WU_D => "vssrlrni.wu.d"
  | .OPC_VSSRLRNI_DU_Q => "vssrlrni.du.q"
  | .OPC_VSSRARNI_BU_H => "vssrarni.bu.h"
  | .OPC_VSSRARNI_HU_W => "vssrarni.hu.w"
  | .OPC_VSSRARNI_WU_D => "vssrarni.wu.d"
  | .OPC_VSSRARNI_DU_Q => "vssrarni.du.q"
  | .OPC_VCLO_B => "vclo.b"
  | .OPC_VCLO_H => "vclo.h"
  | .OPC_VCLO_W => "vclo.w"
  | .OPC_VCLO_D => "vclo.d"
  | .OPC_VCLZ_B => "vclz.b"
  | .OPC_VCLZ_H => "vclz.h"
  | .OPC_VCLZ_W => "vclz.w"
  | .OPC_VCLZ_D => "vclz.d"
  | .OPC_VPCNT_B => "vpcnt.b"
  | .OPC_VPCNT_H => "vpcnt.h"
  | .OPC_VPCNT_W => "vpcnt.w"
  | .OPC_VPCNT_D => "vpcnt.d"
  | .OPC_VBITCLR_B => "vbitclr.b"
  | .OPC_VBITCLR_H => "vbitclr.h"
  | .OPC_VBITCLR_W => "vbitclr.w"
  | .OPC_VBITCLR_D => "vbitclr.d"
  | .OPC_VBITCLRI_B => "vbitclri.b"
  | .OPC_VBITCLRI_H => "vbitclri.h"
  | .OPC_VBITCLRI_W => "vbitclri.w"
  | .OPC_VBITCLRI_D => "vbitclri.d"
  | .OPC_VBITSET_B => "vbitset.b"
  | .OPC_VBITSET_H => "vbitset.h"
  | .OPC_VBITSET_W => "vbitset.w"
  | .OPC_VBITSET_D => "vbitset.d"
  | .OPC_VBITSETI_B => "vbitseti.b"
  | .OPC_VBITSETI_H => "vbitseti.h"
  | .OPC_VBITSETI_W => "vbitseti.w"
  | .OPC_VBITSETI_D => "vbitseti.d"
  | .OPC_VBITREV_B => "vbitrev.b"
  | .OPC_VBITREV_H => "vbitrev.h"
  | .OPC_VBITREV_W => "vbitrev.w"
  | .OPC_VBITREV_D => "vbitrev.d"
  | .OPC_VBITREVI_B => "vbitrevi.b"
  | .OPC_VBITREVI_H => "vbitrevi.h"
  | .OPC_VBITREVI_W => "vbitrevi.w"
  | .OPC_VBITREVI_D => "vbitrevi.d"
  | .OPC_VFRSTP_B => "vfrstp.b"
  | .OPC_VFRSTP_H => "vfrstp.h"
  | .OPC_VFRSTPI_B => "vfrstpi.b"
  | .OPC_VFRSTPI_H => "vfrstpi.h"
  | .OPC_VFADD_S => "vfadd.s"
  | .OPC_VFADD_D => "vfadd.d"
  | .OPC_VFSUB_S => "vfsub.s"
  | .OPC_VFSUB_D => "vfsub.d"
  | .OPC_VFMUL_S => "vfmul.s"
  | .OPC_VFMUL_D => "vfmul.d"
  | .OPC_VFDIV_S => "vfdiv.s"
  | .OPC_VFDIV_D => "vfdiv.d"
  | .OPC_VFMADD_S => "vfmadd.s"
  | .OPC_VFMADD_D => "vfmadd.d"
  | .OPC_VFMSUB_S => "vfmsub.s"
  | .OPC_VFMSUB_D => "vfmsub.d"
  | .OPC_VFNMADD_S => "vfnmadd.s"
  | .OPC_VFNMADD_D => "vfnmadd.d"
  | .OPC_VFNMSUB_S => "vfnmsub.s"
  | .OPC_VFNMSUB_D => "vfnmsub.d"
  | .OPC_VFMAX_S => "vfmax.s"
  | .OPC_VFMAX_D => "vfmax.d"
  | .OPC_VFMIN_S => "vfmin.s"
  | .OPC_VFMIN_D => "vfmin.d"
  | .OPC_VFMAXA_S => "vfmaxa.s"
  | .OPC_VFMAXA_D => "vfmaxa.d"
  | .OPC_VFMINA_S => "vfmina.s"
  | .OPC_VFMINA_D => "vfmina.d"
  | .OPC_VFLOGB_S => "vflogb.s"
  | .OPC_VFLOGB_D => "vflogb.d"
  | .OPC_VFCLASS_S => "vfclass.s"
  | .OPC_VFCLASS_D => "vfclass.d"
  | .OPC_VFSQRT_S => "vfsqrt.s"
  | .OPC_VFSQRT_D => "vfsqrt.d"
  | .OPC_VFRECIP_S => "vfrecip.s"
  | .OPC_VFRECIP_D => "vfrecip.d"
  | .OPC_VFRSQRT_S => "vfrsqrt.s"
  | .OPC_VFRSQRT_D => "vfrsqrt.d"
  | .OPC_VFCVTL_S_H => "vfcvtl.s.h"
  | .OPC_VFCVTH_S_H => "vfcvth.s.h"
  | .OPC_VFCVTL_D_S => "vfcvtl.d.s"
  | .OPC_VFCVTH_D_S => "vfcvth.d.s"
  | .OPC_VFCVT_H_S => "vfcvt.h.s"
  | .OPC_VFCVT_S_D => "vfcvt.s.d"
  | .OPC_VFRINT_S => "vfrint.s"
  | .OPC_VFRINT_D => "vfrint.d"
  | .OPC_VFRINTRM_S => "vfrintrm.s"
  | .OPC_VFRINTRM_D => "vfrintrm.d"
  | .OPC_VFRINTRP_S => "vfrintrp.s"
  | .OPC_VFRINTRP_D => "vfrintrp.d"
  | .OPC_VFRINTRZ_S => "vfrintrz.s"
  | .OPC_VFRINTRZ_D => "vfrintrz.d"
  | .OPC_VFRINTRNE_S => "vfrintrne.s"
  | .OPC_VFRINTRNE_D => "vfrintrne.d"
  | .OPC_VFTINT_W_S => "vftint.w.s"
  | .OPC_VFTINT_L_D => "vftint.l.d"
  | .OPC_VFTINTRM_W_S => "vftintrm.w.s"
  | .OPC_VFTINTRM_L_D => "vftintrm.l.d"
  | .OPC_VFTINTRP_W_S => "vftintrp.w.s"
  | .OPC_VFTINTRP_L_D => "vftintrp.l.d"
  | .OPC_VFTINTRZ_W_S => "vftintrz.w.s"
  | .OPC_VFTINTRZ_L_D => "vftintrz.l.d"
  | .OPC_VFTINTRNE_W_S => "vftintrne.w.s"
  | .OPC_VFTINTRNE_L_D => "vftintrne.l.d"
  | .OPC_VFTINT_WU_S => "vftint.wu.s"
  | .OPC_VFTINT_LU_D => "vftint.lu.d"
  | .OPC_VFTINTRZ_WU_S => "vftintrz.wu.s"
  | .OPC_VFTINTRZ_LU_D => "vftintrz.lu.d"
  | .OPC_VFTINT_W_D => "vftint.w.d"
  | .OPC_VFTINTRM_W_D => "vftintrm.w.d"
  | .OPC_VFTINTRP_W_D => "vftintrp.w.d"
  | .OPC_VFTINTRZ_W_D => "vftintrz.w.d"
  | .OPC_VFTINTRNE_W_D => "vftintrne.w.d"
  | .OPC_VFTINTL_L_S => "vftintl.l.s"
  | .OPC_VFTINTH_L_S => "vftinth.l.s"
  | .OPC_VFTINTRML_L_S => "vftintrml.l.s"
  | .OPC_VFTINTRMH_L_S => "vftintrmh.l.s"
  | .OPC_VFTINTRPL_L_S => "vftintrpl.l.s"
  | .OPC_VFTINTRPH_L_S => "vftintrph.l.s"
  | .OPC_VFTINTRZL_L_S => "vftintrzl.l.s"
  | .OPC_VFTINTRZH_L_S => "vftintrzh.l.s"
  | .OPC_VFTINTRNEL_L_S => "vftintrnel.l.s"
  | .OPC_VFTINTRNEH_L_S => "vftintrneh.l.s"
  | .OPC_VFFINT_S_W => "vffint.s.w"
  | .OPC_VFFINT_S_WU => "vffint.s.wu"
  | .OPC_VFFINT_D_L => "vffint.d.l"
  | .OPC_VFFINT_D_LU => "vffint.d.lu"
  | .OPC_VFFINTL_D_W => "vffintl.d.w"
  | .OPC_VFFINTH_D_W => "vffinth.d.w"
  | .OPC_VFFINT_S_L => "vffint.s.l"
  | .OPC_VSEQ_B => "vseq.b"
  | .OPC_VSEQ_H => "vseq.h"
  | .OPC_VSEQ_W => "vseq.w"
  | .OPC_VSEQ_D => "vseq.d"
  | .OPC_VSEQI_B => "vseqi.b"
  | .OPC_VSEQI_H => "vseqi.h"
  | .OPC_VSEQI_W => "vseqi.w"
  | .OPC_VSEQI_D => "vseqi.d"
  | .OPC_VSLE_B => "vsle.b"
  | .OPC_VSLE_H => "vsle.h"
  | .OPC_VSLE_W => "vsle.w"
  | .OPC_VSLE_D => "vsle.d"
  | .OPC_VSLEI_B => "vslei.b"
  | .OPC_VSLEI_H => "vslei.h"
  | .OPC_VSLEI_W => "vslei.w"
  | .OPC_VSLEI_D => "vslei.d"
  | .OPC_VSLE_BU => "vsle.bu"
  | .OPC_VSLE_HU => "vsle.hu"
  | .OPC_VSLE_WU => "vsle.wu"
  | .OPC_VSLE_DU => "vsle.du"
  | .OPC_VSLEI_BU => "vslei.bu"
  | .OPC_VSLEI_HU => "vslei.hu"
  | .OPC_VSLEI_WU => "vslei.wu"
  | .OPC_VSLEI_DU => "vslei.du"
  | .OPC_VSLT_B => "vslt.b"
  | .OPC_VSLT_H => "vslt.h"
  | .OPC_VSLT_W => "vslt.w"
  | .OPC_VSLT_D => "vslt.d"
  | .OPC_VSLTI_B => "vslti.b"
  | .OPC_VSLTI_H => "vslti.h"
  | .OPC_VSLTI_W => "vslti.w"
  | .OPC_VSLTI_D => "vslti.d"
  | .OPC_VSLT_BU => "vslt.bu"
  | .OPC_VSLT_HU => "vslt.hu"
  | .OPC_VSLT_WU => "vslt.wu"
  | .OPC_VSLT_DU => "vslt.du"
  | .OPC_VSLTI_BU => "vslti.bu"
  | .OPC_VSLTI_HU => "vslti.hu"
  | .OPC_VSLTI_WU => "vslti.wu"
  | .OPC_VSLTI_DU => "vslti.du"
  | .OPC_VFCMP_COND_S => "vfcmp.cond.s"
  | .OPC_VFCMP_COND_D => "vfcmp.cond.d"
  | .OPC_VBITSEL_V => "vbitsel.v"
  | .OPC_VBITSELI_B => "vbitseli.b"
  | .OPC_VSETEQZ_V => "vseteqz.v"
  | .OPC_VSETNEZ_V => "vsetnez.v"
  | .OPC_VSETANYEQZ_B => "vsetanyeqz.b"
  | .OPC_VSETANYEQZ_H => "vsetanyeqz.h"
  | .OPC_VSETANYEQZ_W => "vsetanyeqz.w"
  | .OPC_VSETANYEQZ_D => "vsetanyeqz.d"
  | .OPC_VSETALLNEZ_B => "vsetallnez.b"
  | .OPC_VSETALLNEZ_H => "vsetallnez.h"
  | .OPC_VSETALLNEZ_W => "vsetallnez.w"
  | .OPC_VSETALLNEZ_D => "vsetallnez.d"
  | .OPC_VINSGR2VR_B => "vinsgr2vr.b"
  | .OPC_VINSGR2VR_H => "vinsgr2vr.h"
  | .OPC_VINSGR2VR_W => "vinsgr2vr.w"
  | .OPC_VINSGR2VR_D => "vinsgr2vr.d"
  | .OPC_VPICKVE2GR_B => "vpickve2gr.b"
  | .OPC_VPICKVE2GR_H => "vpickve2gr.h"
  | .OPC_VPICKVE2GR_W => "vpickve2gr.w"
  | .OPC_VPICKVE2GR_D => "vpickve2gr.d"
  | .OPC_VPICKVE2GR_BU => "vpickve2gr.bu"
  | .OPC_VPICKVE2GR_HU => "vpickve2gr.hu"
  | .OPC_VPICKVE2GR_WU => "vpickve2gr.wu"
  | .OPC_VPICKVE2GR_DU => "vpickve2gr.du"
  | .OPC_VREPLGR2VR_B => "vreplgr2vr.b"
  | .OPC_VREPLGR2VR_H => "vreplgr2vr.h"
  | .OPC_VREPLGR2VR_W => "vreplgr2vr.w"
  | .OPC_VREPLGR2VR_D => "vreplgr2vr.d"
  | .OPC_VREPLVE_B => "vreplve.b"
  | .OPC_VREPLVE_H => "vreplve.h"
  | .OPC_VREPLVE_W => "vreplve.w"
  | .OPC_VREPLVE_D => "vreplve.d"
  | .OPC_VREPLVEI_B => "vreplvei.b"
  | .OPC_VREPLVEI_H => "vreplvei.h"
  | .OPC_VREPLVEI_W => "vreplvei.w"
  | .OPC_VREPLVEI_D => "vreplvei.d"
  | .OPC_VBSLL_V => "vbsll.v"
  | .OPC_VBSRL_V => "vbsrl.v"
  | .OPC_VPACKEV_B => "vpackev.b"
  | .OPC_VPACKEV_H => "vpackev.h"
  | .OPC_VPACKEV_W => "vpackev.w"
  | .OPC_VPACKEV_D => "vpackev.d"
  | .OPC_VPACKOD_B => "vpackod.b"
  | .OPC_VPACKOD_H => "vpackod.h"
  | .OPC_VPACKOD_W => "vpackod.w"
  | .OPC_VPACKOD_D => "vpackod.d"
  | .OPC_VPICKEV_B => "vpickev.b"
  | .OPC_VPICKEV_H => "vpickev.h"
  | .OPC_VPICKEV_W => "vpickev.w"
  | .OPC_VPICKEV_D => "vpickev.d"
  | .OPC_VPICKOD_B => "vpickod.b"
  | .OPC_VPICKOD_H => "vpickod.h"
  | .OPC_VPICKOD_W => "vpickod.w"
  | .OPC_VPICKOD_D => "vpickod.d"
  | .OPC_VILVL_B => "vilvl.b"
  | .OPC_VILVL_H => "vilvl.h"
  | .OPC_VILVL_W => "vilvl.w"
  | .OPC_VILVL_D => "vilvl.d"
  | .OPC_VILVH_B => "vilvh.b"
  | .OPC_VILVH_H => "vilvh.h"
  | .OPC_VILVH_W => "vilvh.w"
  | .OPC_VILVH_D => "vilvh.d"
  | .OPC_VSHUF_B => "vshuf.b"
  | .OPC_VSHUF_H => "vshuf.h"
  | .OPC_VSHUF_W => "vshuf.w"
  | .OPC_VSHUF_D => "vshuf.d"
  | .OPC_VSHUF4I_B => "vshuf4i.b"
  | .OPC_VSHUF4I_H => "vshuf4i.h"
  | .OPC_VSHUF4I_W => "vshuf4i.w"
  | .OPC_VSHUF4I_D => "vshuf4i.d"
  | .OPC_VPERMI_W => "vpermi.w"
  | .OPC_VEXTRINS_D => "vextrins.d"
  | .OPC_VEXTRINS_W => "vextrins.w"
  | .OPC_VEXTRINS_H => "vextrins.h"
  | .OPC_VEXTRINS_B => "vextrins.b"
  | .OPC_VLD => "vld"
  | .OPC_VST => "vst"
  | .OPC_VLDX => "vldx"
  | .OPC_VSTX => "vstx"
  | .OPC_VLDREPL_D => "vldrepl.d"
  | .OPC_VLDREPL_W => "vldrepl.w"
  | .OPC_VLDREPL_H => "vldrepl.h"
  | .OPC_VLDREPL_B => "vldrepl.b"
  | .OPC_VSTELM_D => "vstelm.d"
  | .OPC_VSTELM_W => "vstelm.w"
  | .OPC_VSTELM_H => "vstelm.h"
  | .OPC_VSTELM_B => "vstelm.b"
  | .OPC_XVLD => "xvld"
  | .OPC_XVST => "xvst"

/-! ### The formats -/

/-- An output of a `print_*` function. -/
inductive PrintItem where
  /-- `out<<names[info->f]`. -/
  | name (names : NameTable) (f : Field)
  /-- `out<<std::dec<<info->f`. -/
  | value (f : Field)
  deriving DecidableEq

def printCv : List PrintItem := [.name .lsxName (.lsxSrc 0), .name .ccName .dstCfreg]

def printFormat0 : List PrintItem := [.name .gprName .dstReg, .name .gprName (.srcsRegs 0)]

def printFormat1 : List PrintItem := [.name .gprName (.srcsRegs 0), .name .gprName (.srcsRegs 1)]

def printFormat10 : List PrintItem :=
  [.name .fprName .dstFreg, .name .fprName (.srcsFregs 0), .name .fprName (.srcsFregs 1)]

def printFormat11 : List PrintItem := [.name .fprName .dstFreg, .name .fprName (.srcsFregs 0)]

def printFormat12 : List PrintItem := [.name .fprName .dstFreg, .name .gprName (.srcsRegs 0)]

def printFormat13 : List PrintItem := [.name .gprName .dstReg, .name .fprName (.srcsFregs 0)]

def printFormat14 : List PrintItem := [.name .fcsrName .dstFcsr, .name .gprName (.srcsRegs 0)]

def printFormat15 : List PrintItem := [.name .gprName .dstReg, .name .fcsrName (.srcsFcsrregs 0)]

def printFormat16 : List PrintItem := [.name .ccName .dstCfreg, .name .fprName (.srcsFregs 0)]

def printFormat17 : List PrintItem := [.name .fprName .dstFreg, .name .ccName (.srcsCfregs 0)]

def printFormat18 : List PrintItem := [.name .ccName .dstCfreg, .name .gprName (.srcsRegs 0)]

def printFormat19 : List PrintItem := [.name .gprName .dstReg, .name .ccName (.srcsCfregs 0)]

def printFormat2 : List PrintItem :=
  [.name .gprName .dstReg, .name .gprName (.srcsRegs 0), .name .gprName (.srcsRegs 1), .value .sa]

def printFormat20 : List PrintItem := [.name .gprName .dstReg, .name .gprName (.srcsRegs 0), .value .si]

def printFormat21 : List PrintItem := [.name .gprName .dstReg, .name .gprName (.srcsRegs 0), .value .ui]

def printFormat22 : List PrintItem := [.name .gprName .dstReg, .value .csr]

def printFormat23 : List PrintItem :=
  [.name .gprName .dstReg, .name .gprName (.srcsRegs 0), .value .csr]

def printFormat24 : List PrintItem := [.value .code2, .name .gprName (.srcsRegs 0), .value .si]

def printFormat25 : List PrintItem :=
  [.name .gprName .dstReg, .name .gprName (.srcsRegs 0), .value .level]

def printFormat26 : List PrintItem := [.name .gprName (.srcsRegs 0), .value .seq]

def printFormat27 : List PrintItem := []

def printFormat28 : List PrintItem := [.value .level3]

def printFormat29 : List PrintItem :=
  [.value .op, .name .gprName (.srcsRegs 0), .name .gprName (.srcsRegs 1)]

def printFormat3 : List PrintItem :=
  [.name .gprName .dstReg, .name .gprName (.srcsRegs 0), .name .gprName (.srcsRegs 1), .value .sa]

def printFormat30 : List PrintItem :=
  [.name .fprName .dstFreg, .name .fprName (.srcsFregs 0), .name .fprName (.srcsFregs 1),
   .name .fprName (.srcsFregs 2)]

def printFormat31 : List PrintItem :=
  [.name .ccName .dstCfreg, .name .fprName (.srcsFregs 0), .name .fprName (.srcsFregs 1)]

def printFormat32 : List PrintItem :=
  [.name .fprName .dstFreg, .name .fprName (.srcsFregs 0), .name .fprName (.srcsFregs 1),
   .name .ccName (.srcsCfregs 0)]

def printFormat33 : List PrintItem := [.name .gprName .dstReg, .name .gprName (.srcsRegs 0), .value .si]

def printFormat34 : List PrintItem := [.name .gprName .dstReg, .value .si]

def printFormat35 : List PrintItem := [.name .gprName .dstReg, .name .gprName (.srcsRegs 0), .value .si]

def printFormat36 : List PrintItem := [.value .hint, .name .gprName (.srcsRegs 0), .value .si]

def printFormat37 : List PrintItem :=
  [.name .fprName .dstFreg, .name .gprName (.srcsRegs 0), .value .si]

def printFormat38 : List PrintItem :=
  [.value .hint, .name .gprName (.srcsRegs 0), .name .gprName (.srcsRegs 1)]

def printFormat39 : List PrintItem :=
  [.name .fprName .dstFreg, .name .gprName (.srcsRegs 0), .name .gprName (.srcsRegs 1)]

def printFormat4 : List PrintItem :=
  [.name .gprName .dstReg, .name .gprName (.srcsRegs 0), .name .gprName (.srcsRegs 1)]

def printFormat40 : List PrintItem := [.value .hint]

def printFormat41 : List PrintItem := [.value .hint]

def printFormat42 : List PrintItem := [.name .gprName (.srcsRegs 0), .value .offs]

def printFormat43 : List PrintItem := [.name .ccName (.srcsCfregs 0), .value .offs]

def printFormat44 : List PrintItem :=
  [.name .gprName .dstReg, .name .gprName (.srcsRegs 0), .value .offs]

def printFormat45 : List PrintItem := [.value .offs]

def printFormat46 : List PrintItem := [.name .gprName (.srcsRegs 0), .name .scrName .dstSccrach]

def printFormat47 : List PrintItem := [.name .scrName (.sccrachRegs 0), .name .gprName .dstReg]

def printFormat48 : List PrintItem := [.value .ptr]

def printFormat49 : List PrintItem := [.name .gprName .dstReg]

def printFormat5 : List PrintItem := [.value .code]

def printFormat50 : List PrintItem := [.name .gprName (.srcsRegs 0)]

def printFormat51 : List PrintItem := [.value .si, .name .gprName (.srcsRegs 0), .name .gprName .dstReg]

def printFormat52 : List PrintItem :=
  [.value .cond, .name .gprName (.srcsRegs 0), .name .gprName .dstReg]

def printFormat53 : List PrintItem := [.value .cond, .name .gprName .dstReg]

def printFormat54 : List PrintItem :=
  [.name .gprName (.srcsRegs 0), .name .gprName (.srcsRegs 1), .value .cond]

def printFormat55 : List PrintItem := [.value .cond, .name .gprName (.srcsRegs 0)]

def printFormat56 : List PrintItem := [.value .ui, .name .gprName (.srcsRegs 0), .name .gprName .dstReg]

def printFormat57 : List PrintItem := [.value .ui, .name .gprName (.srcsRegs 0), .name .gprName .dstReg]

def printFormat58 : List PrintItem := [.value .ui, .name .gprName (.srcsRegs 0)]

def printFormat59 : List PrintItem := [.value .ui, .name .gprName (.srcsRegs 0)]

def printFormat6 : List PrintItem := [.name .gprName .dstReg, .name .gprName (.srcsRegs 0), .value .ui]

def printFormat60 : List PrintItem := [.value .ui, .name .gprName (.srcsRegs 0)]

def printFormat61 : List PrintItem := [.value .ui, .name .gprName (.srcsRegs 0)]

def printFormat62 : List PrintItem := [.value .ui, .value .op, .name .gprName .dstReg]

def printFormat63 : List PrintItem := [.value .ui, .name .gprName .dstReg]

def printFormat64 : List PrintItem := [.value .offs]

def printFormat7 : List PrintItem := [.name .gprName .dstReg, .name .gprName (.srcsRegs 0), .value .ui]

def printFormat8 : List PrintItem :=
  [.name .gprName .dstReg, .name .gprName (.srcsRegs 0), .value .msb, .value .lsb]

def printFormat9 : List PrintItem :=
  [.name .gprName .dstReg, .name .gprName (.srcsRegs 0), .value .msb, .value .lsb]

def printRvUi1 : List PrintItem := [.value .ui, .name .lsxName (.lsxSrc 0), .name .gprName .dstReg]

def printRvUi2 : List PrintItem := [.value .ui, .name .lsxName (.lsxSrc 0), .name .gprName .dstReg]

def printRvUi3 : List PrintItem := [.value .ui, .name .lsxName (.lsxSrc 0), .name .gprName .dstReg]

def printRvUi4 : List PrintItem := [.value .ui, .name .lsxName (.lsxSrc 0), .name .gprName .dstReg]

def printVI13 : List PrintItem := [.value .ui, .name .lsxName .dstLsxReg]

def printVr : List PrintItem := [.name .gprName (.srcsRegs 0), .name .lsxName .dstLsxReg]

def printVrI10 : List PrintItem := [.name .gprName (.srcsRegs 0), .name .lsxName .dstLsxReg, .value .si]

def printVrI11 : List PrintItem := [.name .gprName (.srcsRegs 0), .name .lsxName .dstLsxReg, .value .si]

def printVrI12 : List PrintItem := [.value .si, .name .gprName (.srcsRegs 0), .name .lsxName .dstLsxReg]

def printVrI8i1 : List PrintItem :=
  [.value .ui2, .name .gprName (.srcsRegs 0), .name .lsxName .dstLsxReg, .value .si]

def printVrI8i2 : List PrintItem :=
  [.value .ui2, .name .gprName (.srcsRegs 0), .name .lsxName .dstLsxReg, .value .si]

def printVrI8i3 : List PrintItem :=
  [.value .ui2, .name .gprName (.srcsRegs 0), .name .lsxName .dstLsxReg, .value .si]

def printVrI8i4 : List PrintItem :=
  [.value .ui2, .value .si, .name .gprName (.srcsRegs 0), .name .lsxName .dstLsxReg]

def printVrI9 : List PrintItem := [.name .gprName (.srcsRegs 0), .name .lsxName .dstLsxReg, .value .si]

def printVrUi1 : List PrintItem := [.value .ui, .name .gprName (.srcsRegs 0), .name .lsxName .dstLsxReg]

def printVrUi2 : List PrintItem := [.value .ui, .name .gprName (.srcsRegs 0), .name .lsxName .dstLsxReg]

def printVrUi3 : List PrintItem := [.value .ui, .name .gprName (.srcsRegs 0), .name .lsxName .dstLsxReg]

def printVrUi4 : List PrintItem := [.value .ui, .name .gprName (.srcsRegs 0), .name .lsxName .dstLsxReg]

def printVrr : List PrintItem :=
  [.name .gprName (.srcsRegs 0), .name .gprName (.srcsRegs 1), .name .lsxName .dstLsxReg]

def printVv : List PrintItem := [.name .lsxName (.lsxSrc 0), .name .lsxName .dstLsxReg]

def printVvI5 : List PrintItem := [.value .si, .name .lsxName (.lsxSrc 0), .name .lsxName .dstLsxReg]

def printVvUi1 : List PrintItem := [.value .ui, .name .lsxName (.lsxSrc 0), .name .lsxName .dstLsxReg]

def printVvUi2 : List PrintItem := [.value .ui, .name .lsxName (.lsxSrc 0), .name .lsxName .dstLsxReg]

def printVvUi3 : List PrintItem := [.value .ui, .name .lsxName (.lsxSrc 0), .name .lsxName .dstLsxReg]

def printVvUi4 : List PrintItem := [.value .ui, .name .lsxName (.lsxSrc 0), .name .lsxName .dstLsxReg]

def printVvUi5 : List PrintItem := [.value .ui, .name .lsxName (.lsxSrc 0), .name .lsxName .dstLsxReg]

def printVvUi6 : List PrintItem := [.value .ui, .name .lsxName (.lsxSrc 0), .name .lsxName .dstLsxReg]

def printVvUi7 : List PrintItem := [.value .ui, .name .lsxName (.lsxSrc 0), .name .lsxName .dstLsxReg]

def printVvUi8 : List PrintItem := [.value .ui, .name .lsxName (.lsxSrc 0), .name .lsxName .dstLsxReg]

def printVvr : List PrintItem :=
  [.name .gprName (.srcsRegs 0), .name .lsxName (.lsxSrc 0), .name .lsxName .dstLsxReg]

def printVvv : List PrintItem :=
  [.name .lsxName (.lsxSrc 0), .name .lsxName (.lsxSrc 1), .name .lsxName .dstLsxReg]

def printVvvFcond : List PrintItem :=
  [.value .fcond, .name .lsxName (.lsxSrc 0), .name .lsxName (.lsxSrc 1), .name .lsxName .dstLsxReg]

def printVvvv : List PrintItem :=
  [.name .lsxName (.lsxSrc 0), .name .lsxName (.lsxSrc 1), .name .lsxName (.lsxSrc 2),
   .name .lsxName .dstLsxReg]

def printXrI12 : List PrintItem :=
  [.value .si, .name .gprName (.srcsRegs 0), .name .lasxName .dstLasxReg]

/-- `print_func_table`: what a format prints behind the name of the opcode. -/
def printFuncTable : Formats → List PrintItem
  | .cv => printCv
  | .format_0 => printFormat0
  | .format_1 => printFormat1
  | .format_10 => printFormat10
  | .format_11 => printFormat11
  | .format_12 => printFormat12
  | .format_13 => printFormat13
  | .format_14 => printFormat14
  | .format_15 => printFormat15
  | .format_16 => printFormat16
  | .format_17 => printFormat17
  | .format_18 => printFormat18
  | .format_19 => printFormat19
  | .format_2 => printFormat2
  | .format_20 => printFormat20
  | .format_21 => printFormat21
  | .format_22 => printFormat22
  | .format_23 => printFormat23
  | .format_24 => printFormat24
  | .format_25 => printFormat25
  | .format_26 => printFormat26
  | .format_27 => printFormat27
  | .format_28 => printFormat28
  | .format_29 => printFormat29
  | .format_3 => printFormat3
  | .format_30 => printFormat30
  | .format_31 => printFormat31
  | .format_32 => printFormat32
  | .format_33 => printFormat33
  | .format_34 => printFormat34
  | .format_35 => printFormat35
  | .format_36 => printFormat36
  | .format_37 => printFormat37
  | .format_38 => printFormat38
  | .format_39 => printFormat39
  | .format_4 => printFormat4
  | .format_40 => printFormat40
  | .format_41 => printFormat41
  | .format_42 => printFormat42
  | .format_43 => printFormat43
  | .format_44 => printFormat44
  | .format_45 => printFormat45
  | .format_46 => printFormat46
  | .format_47 => printFormat47
  | .format_48 => printFormat48
  | .format_49 => printFormat49
  | .format_5 => printFormat5
  | .format_50 => printFormat50
  | .format_51 => printFormat51
  | .format_52 => printFormat52
  | .format_53 => printFormat53
  | .format_54 => printFormat54
  | .format_55 => printFormat55
  | .format_56 => printFormat56
  | .format_57 => printFormat57
  | .format_58 => printFormat58
  | .format_59 => printFormat59
  | .format_6 => printFormat6
  | .format_60 => printFormat60
  | .format_61 => printFormat61
  | .format_62 => printFormat62
  | .format_63 => printFormat63
  | .format_64 => printFormat64
  | .format_7 => printFormat7
  | .format_8 => printFormat8
  | .format_9 => printFormat9
  | .rv_ui1 => printRvUi1
  | .rv_ui2 => printRvUi2
  | .rv_ui3 => printRvUi3
  | .rv_ui4 => printRvUi4
  | .v_i13 => printVI13
  | .vr => printVr
  | .vr_i10 => printVrI10
  | .vr_i11 => printVrI11
  | .vr_i12 => printVrI12
  | .vr_i8i1 => printVrI8i1
  | .vr_i8i2 => printVrI8i2
  | .vr_i8i3 => printVrI8i3
  | .vr_i8i4 => printVrI8i4
  | .vr_i9 => printVrI9
  | .vr_ui1 => printVrUi1
  | .vr_ui2 => printVrUi2
  | .vr_ui3 => printVrUi3
  | .vr_ui4 => printVrUi4
  | .vrr => printVrr
  | .vv => printVv
  | .vv_i5 => printVvI5
  | .vv_ui1 => printVvUi1
  | .vv_ui2 => printVvUi2
  | .vv_ui3 => printVvUi3
  | .vv_ui4 => printVvUi4
  | .vv_ui5 => printVvUi5
  | .vv_ui6 => printVvUi6
  | .vv_ui7 => printVvUi7
  | .vv_ui8 => printVvUi8
  | .vvr => printVvr
  | .vvv => printVvv
  | .vvv_fcond => printVvvFcond
  | .vvvv => printVvvv
  | .xr_i12 => printXrI12

/-- What is printed, word by word: names, numbers in decimal, and `u_int8_t` values, which a stream
takes for characters. The blanks and the ends of lines are left out. -/
inductive Word where
  | text (s : String)
  | number (n : ℤ)
  | character (c : BitVec 8)
  deriving DecidableEq

/-- What an output prints. -/
def PrintItem.run (info : LoongArchInsInfo) : PrintItem → Res Word
  | .name names f =>
    match names.names[(info.operand f).toNat]? with
    | some s => .ok (.text s)
    | none => .error .outOfBounds
  | .value f =>
    if f.width = 8 then .ok (.character ((info.operand f).setWidth 8))
    else .ok (.number (info.read f).toInt)

/-- `print_one_insn`. -/
def DisassmblePrinterVistor.printOneInsn (info : LoongArchInsInfo) : Res (List Word) :=
  if info.opc ≠ .OPC_INVALID then do
    let words ← (printFuncTable (insn2format info.opc)).mapM (PrintItem.run info)
    .ok (.text (opcodeName info.opc) :: words)
  else .ok [.text "Invalid insn"]

/-- `andi $zero, $zero, 0`. -/
example : DisassmblePrinterVistor.printOneInsn (decode .zero 0x03400000).2 =
    .ok [.text "andi", .text "$zero", .text "$zero", .number 0] := rfl

/-! ### Instructions that have names -/

/-- The table has a name for the field. -/
def PrintItem.InTable (info : LoongArchInsInfo) : PrintItem → Prop
  | .name names f => (info.operand f).toNat < names.names.length
  | .value _ => True

instance (info : LoongArchInsInfo) : ∀ item : PrintItem, Decidable (item.InTable info)
  | .name _ _ => inferInstanceAs (Decidable (_ < _))
  | .value _ => inferInstanceAs (Decidable True)

theorem PrintItem.run_ok {info : LoongArchInsInfo} {item : PrintItem} :
    (∃ word, item.run info = .ok word) ↔ item.InTable info := by
  cases item with
  | name names f =>
    rw [run, InTable]
    by_cases h : (info.operand f).toNat < names.names.length
    · simp [h]
    · simp [h]
  | value f =>
    rw [run, InTable]
    by_cases h : f.width = 8
    · simp [h]
    · simp [h]

namespace LoongArchInsInfo

/-- The tables have names for the fields that are printed by name. -/
def HasNames (info : LoongArchInsInfo) : Prop :=
  info.opc ≠ .OPC_INVALID → ∀ item ∈ printFuncTable (insn2format info.opc), item.InTable info

instance (info : LoongArchInsInfo) : Decidable info.HasNames := inferInstanceAs (Decidable (_ → _))

/-- The control register of `movgr2fcsr` and `movfcsr2gr`, which have a format each, is one of the four
that have names. -/
def ControlNamed (info : LoongArchInsInfo) : Prop :=
  (insn2format info.opc = .format_14 → (info.operand .dstFcsr).toNat < 4) ∧
    (insn2format info.opc = .format_15 → (info.operand (.srcsFcsrregs 0)).toNat < 4)

instance (info : LoongArchInsInfo) : Decidable info.ControlNamed := inferInstanceAs (Decidable (_ ∧ _))

variable {info : LoongArchInsInfo}

/-- **An instruction is printed** if and only if it has names. -/
theorem printOneInsn_ok :
    (∃ text, DisassmblePrinterVistor.printOneInsn info = .ok text) ↔ info.HasNames := by
  rw [DisassmblePrinterVistor.printOneInsn, HasNames]
  by_cases hopc : info.opc = .OPC_INVALID
  · simp [hopc]
  · simp only [hopc, ne_eq, not_false_eq_true, if_true, forall_const, ← PrintItem.run_ok, ← exists_mapM_iff,
      bind_eq_ok, Except.ok.injEq]
    constructor
    · rintro ⟨text, words, hwords, -⟩
      exact ⟨words, hwords⟩
    · rintro ⟨words, hwords⟩
      exact ⟨_, words, hwords, rfl⟩

/-- A format encodes the fields that it prints by name, in no more bits than there are names for. -/
def NamesFit (fmt : Formats) : PrintItem → Prop
  | .name names f =>
    f.signed = false ∧ ∃ p ∈ encodefuncs fmt, p.source = f ∧ 2 ^ p.length ≤ names.names.length
  | .value _ => True

instance (fmt : Formats) : ∀ item : PrintItem, Decidable (NamesFit fmt item)
  | .name _ _ => inferInstanceAs (Decidable (_ ∧ _))
  | .value _ => inferInstanceAs (Decidable True)

/-- **The tables are long enough**, but for the control registers. -/
theorem namesFit_of_ne {fmt : Formats} (h14 : fmt ≠ .format_14) (h15 : fmt ≠ .format_15) :
    ∀ item ∈ printFuncTable fmt, NamesFit fmt item := by
  cases fmt
  case format_14 => exact absurd rfl h14
  case format_15 => exact absurd rfl h15
  all_goals decide

/-- An instruction that can be encoded has names, if its control register has. -/
theorem Encodable.hasNames (h : info.Encodable) (hcontrol : info.ControlNamed) : info.HasNames := by
  intro _ item hitem
  have hgpr : ∀ {f : Field}, f.signed = false → Pack.field f (.of 5 5) ∈ info.packs ∨
      Pack.field f (.of 0 5) ∈ info.packs → (info.operand f).toNat < 2 ^ 5 := by
    rintro f hf (hp | hp)
    · exact FieldFits.unsigned (h.fits _ hp) hf
    · exact FieldFits.unsigned (h.fits _ hp) hf
  by_cases h14 : insn2format info.opc = .format_14
  · rw [h14] at hitem
    simp only [printFuncTable, printFormat14, List.mem_cons, List.not_mem_nil, or_false] at hitem
    rcases hitem with rfl | rfl
    · exact hcontrol.1 h14
    · exact hgpr rfl (.inl (by rw [packs, h14]; decide))
  · by_cases h15 : insn2format info.opc = .format_15
    · rw [h15] at hitem
      simp only [printFuncTable, printFormat15, List.mem_cons, List.not_mem_nil, or_false] at hitem
      rcases hitem with rfl | rfl
      · exact hgpr rfl (.inr (by rw [packs, h15]; decide))
      · exact hcontrol.2 h15
    · have hfit := namesFit_of_ne h14 h15 item hitem
      cases item with
      | name names f =>
        obtain ⟨hf, p, hp, rfl, hlen⟩ := hfit
        exact (FieldFits.unsigned (h.fits p hp) hf).trans_le hlen
      | value f => trivial

/-- No signed field is printed by name. -/
theorem unsigned_of_name {fmt : Formats} {names : NameTable} {f : Field}
    (h : .name names f ∈ printFuncTable fmt) : f.signed = false := by
  by_cases h14 : fmt = .format_14
  · simp only [h14, printFuncTable, printFormat14, List.mem_cons, List.not_mem_nil, or_false,
      PrintItem.name.injEq] at h
    rcases h with ⟨-, rfl⟩ | ⟨-, rfl⟩ <;> rfl
  · by_cases h15 : fmt = .format_15
    · simp only [h15, printFuncTable, printFormat15, List.mem_cons, List.not_mem_nil, or_false,
        PrintItem.name.injEq] at h
      rcases h with ⟨-, rfl⟩ | ⟨-, rfl⟩ <;> rfl
    · exact (namesFit_of_ne h14 h15 _ h).1

/-- An assignment to a signed field changes no name. -/
theorem hasNames_set {f : Field} (hf : f.signed = true) (v : BitVec f.width) :
    (info.set f v).HasNames ↔ info.HasNames := by
  refine forall_congr' fun _ => forall₂_congr fun item hitem => ?_
  cases item with
  | name names g =>
    have hne : g ≠ f := by
      rintro rfl
      rw [unsigned_of_name hitem] at hf
      cases hf
    rw [PrintItem.InTable, PrintItem.InTable, info.operand_set_of_ne hne]
  | value g => exact Iff.rfl

end LoongArchInsInfo

end AotOpt
