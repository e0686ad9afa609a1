import AotOpt.Basic.Aot
import AotOpt.Disassembler.Encode

/-!
# Which registers an instruction uses

The functions `*_gen_require` of `Disassembler/disassembler.cpp`, one for each format, enter the
general register that an instruction of the format writes and those that it reads. They are called
through `gen_require_func_table`, which is indexed by the number of the format.

* `genRequireLookup_ctorIdx` — the number of a format is an index of the table.
* `length_requireSet_le` — no instruction needs more room than `require_set` has.
-/

namespace AotOpt

/-- `reg_info`: the first `gr_count` entries of `require_set` are the list. -/
structure RegInfo where
  kill : BitVec 8
  requireSet : List (BitVec 8)
  deriving DecidableEq

/-- What `memset(&res, 0, sizeof(reg_info))` makes. -/
def RegInfo.zero : RegInfo := ⟨0, []⟩

/-- A `*_gen_require`: whether `dst_reg` is written, and which `srcs_regs` are read. -/
structure GenRequire where
  kills : Bool
  requires : List (Fin 3)

/-- A call. -/
def GenRequire.run (g : GenRequire) (insn : LoongArchInsInfo) (info : RegInfo) : RegInfo where
  kill := if g.kills then insn.dstReg else info.kill
  requireSet := info.requireSet ++ g.requires.map insn.srcsRegs

def cvGenRequire : GenRequire := ⟨false, []⟩

def format0GenRequire : GenRequire := ⟨true, [0]⟩

def format1GenRequire : GenRequire := ⟨false, [0, 1]⟩

def format10GenRequire : GenRequire := ⟨false, []⟩

def format11GenRequire : GenRequire := ⟨false, []⟩

def format12GenRequire : GenRequire := ⟨false, [0]⟩

def format13GenRequire : GenRequire := ⟨true, []⟩

def format14GenRequire : GenRequire := ⟨false, [0]⟩

def format15GenRequire : GenRequire := ⟨true, []⟩

def format16GenRequire : GenRequire := ⟨false, []⟩

def format17GenRequire : GenRequire := ⟨false, []⟩

def format18GenRequire : GenRequire := ⟨false, [0]⟩

def format19GenRequire : GenRequire := ⟨true, []⟩

def format2GenRequire : GenRequire := ⟨true, [0, 1]⟩

def format20GenRequire : GenRequire := ⟨true, [0]⟩

def format21GenRequire : GenRequire := ⟨true, [0]⟩

def format22GenRequire : GenRequire := ⟨true, []⟩

def format23GenRequire : GenRequire := ⟨true, [0]⟩

def format24GenRequire : GenRequire := ⟨false, [0]⟩

def format25GenRequire : GenRequire := ⟨true, [0]⟩

def format26GenRequire : GenRequire := ⟨false, [0]⟩

def format27GenRequire : GenRequire := ⟨false, []⟩

def format28GenRequire : GenRequire := ⟨false, []⟩

def format29GenRequire : GenRequire := ⟨false, [0, 1]⟩

def format3GenRequire : GenRequire := ⟨true, [0, 1]⟩

def format30GenRequire : GenRequire := ⟨false, []⟩

def format31GenRequire : GenRequire := ⟨false, []⟩

def format32GenRequire : GenRequire := ⟨false, []⟩

def format33GenRequire : GenRequire := ⟨true, [0]⟩

def format34GenRequire : GenRequire := ⟨true, []⟩

def format35GenRequire : GenRequire := ⟨true, [0]⟩

def format36GenRequire : GenRequire := ⟨false, [0]⟩

def format37GenRequire : GenRequire := ⟨false, [0]⟩

def format38GenRequire : GenRequire := ⟨false, [0, 1]⟩

def format39GenRequire : GenRequire := ⟨false, [0, 1]⟩

def format4GenRequire : GenRequire := ⟨true, [0, 1]⟩

def format40GenRequire : GenRequire := ⟨false, []⟩

def format41GenRequire : GenRequire := ⟨false, []⟩

def format42GenRequire : GenRequire := ⟨false, [0]⟩

def format43GenRequire : GenRequire := ⟨false, []⟩

def format44GenRequire : GenRequire := ⟨true, [0]⟩

def format45GenRequire : GenRequire := ⟨false, []⟩

def format46GenRequire : GenRequire := ⟨false, [0]⟩

def format47GenRequire : GenRequire := ⟨true, []⟩

def format48GenRequire : GenRequire := ⟨false, []⟩

def format49GenRequire : GenRequire := ⟨true, []⟩

def format5GenRequire : GenRequire := ⟨false, []⟩

def format50GenRequire : GenRequire := ⟨false, [0]⟩

def format51GenRequire : GenRequire := ⟨true, [0]⟩

def format52GenRequire : GenRequire := ⟨true, [0]⟩

def format53GenRequire : GenRequire := ⟨true, []⟩

def format54GenRequire : GenRequire := ⟨false, [0, 1]⟩

def format55GenRequire : GenRequire := ⟨false, [0]⟩

def format56GenRequire : GenRequire := ⟨true, [0]⟩

def format57GenRequire : GenRequire := ⟨true, [0]⟩

def format58GenRequire : GenRequire := ⟨false, [0]⟩

def format59GenRequire : GenRequire := ⟨false, [0]⟩

def format6GenRequire : GenRequire := ⟨true, [0]⟩

def format60GenRequire : GenRequire := ⟨false, [0]⟩

def format61GenRequire : GenRequire := ⟨false, [0]⟩

def format62GenRequire : GenRequire := ⟨true, []⟩

def format63GenRequire : GenRequire := ⟨true, []⟩

def format64GenRequire : GenRequire := ⟨false, []⟩

def format7GenRequire : GenRequire := ⟨true, [0]⟩

def format8GenRequire : GenRequire := ⟨true, [0]⟩

def format9GenRequire : GenRequire := ⟨true, [0]⟩

def rvUi1GenRequire : GenRequire := ⟨true, []⟩

def rvUi2GenRequire : GenRequire := ⟨true, []⟩

def rvUi3GenRequire : GenRequire := ⟨true, []⟩

def rvUi4GenRequire : GenRequire := ⟨true, []⟩

def vI13GenRequire : GenRequire := ⟨false, []⟩

def vrGenRequire : GenRequire := ⟨false, [0]⟩

def vrI10GenRequire : GenRequire := ⟨false, [0]⟩

def vrI11GenRequire : GenRequire := ⟨false, [0]⟩

def vrI12GenRequire : GenRequire := ⟨false, [0]⟩

def vrI8i1GenRequire : GenRequire := ⟨false, [0]⟩

def vrI8i2GenRequire : GenRequire := ⟨false, [0]⟩

def vrI8i3GenRequire : GenRequire := ⟨false, [0]⟩

def vrI8i4GenRequire : GenRequire := ⟨false, [0]⟩

def vrI9GenRequire : GenRequire := ⟨false, [0]⟩

def vrUi1GenRequire : GenRequire := ⟨false, [0]⟩

def vrUi2GenRequire : GenRequire := ⟨false, [0]⟩

def vrUi3GenRequire : GenRequire := ⟨false, [0]⟩

def vrUi4GenRequire : GenRequire := ⟨false, [0]⟩

def vrrGenRequire : GenRequire := ⟨false, [0, 1]⟩

def vvGenRequire : GenRequire := ⟨false, []⟩

def vvI5GenRequire : GenRequire := ⟨false, []⟩

def vvUi1GenRequire : GenRequire := ⟨false, []⟩

def vvUi2GenRequire : GenRequire := ⟨false, []⟩

def vvUi3GenRequire : GenRequire := ⟨false, []⟩

def vvUi4GenRequire : GenRequire := ⟨false, []⟩

def vvUi5GenRequire : GenRequire := ⟨false, []⟩

def vvUi6GenRequire : GenRequire := ⟨false, []⟩

def vvUi7GenRequire : GenRequire := ⟨false, []⟩

def vvUi8GenRequire : GenRequire := ⟨false, []⟩

def vvrGenRequire : GenRequire := ⟨false, [0]⟩

def vvvGenRequire : GenRequire := ⟨false, []⟩

def vvvFcondGenRequire : GenRequire := ⟨false, []⟩

def vvvvGenRequire : GenRequire := ⟨false, []⟩

def xrI12GenRequire : GenRequire := ⟨false, [0]⟩

/-- `gen_require_func_table`, by format. -/
def genRequireFuncTable : Formats → GenRequire
  | .cv => cvGenRequire
  | .format_0 => format0GenRequire
  | .format_1 => format1GenRequire
  | .format_10 => format10GenRequire
  | .format_11 => format11GenRequire
  | .format_12 => format12GenRequire
  | .format_13 => format13GenRequire
  | .format_14 => format14GenRequire
  | .format_15 => format15GenRequire
  | .format_16 => format16GenRequire
  | .format_17 => format17GenRequire
  | .format_18 => format18GenRequire
  | .format_19 => format19GenRequire
  | .format_2 => format2GenRequire
  | .format_20 => format20GenRequire
  | .format_21 => format21GenRequire
  | .format_22 => format22GenRequire
  | .format_23 => format23GenRequire
  | .format_24 => format24GenRequire
  | .format_25 => format25GenRequire
  | .format_26 => format26GenRequire
  | .format_27 => format27GenRequire
  | .format_28 => format28GenRequire
  | .format_29 => format29GenRequire
  | .format_3 => format3GenRequire
  | .format_30 => format30GenRequire
  | .format_31 => format31GenRequire
  | .format_32 => format32GenRequire
  | .format_33 => format33GenRequire
  | .format_34 => format34GenRequire
  | .format_35 => format35GenRequire
  | .format_36 => format36GenRequire
  | .format_37 => format37GenRequire
  | .format_38 => format38GenRequire
  | .format_39 => format39GenRequire
  | .format_4 => format4GenRequire
  | .format_40 => format40GenRequire
  | .format_41 => format41GenRequire
  | .format_42 => format42GenRequire
  | .format_43 => format43GenRequire
  | .format_44 => format44GenRequire
  | .format_45 => format45GenRequire
  | .format_46 => format46GenRequire
  | .format_47 => format47GenRequire
  | .format_48 => format48GenRequire
  | .format_49 => format49GenRequire
  | .format_5 => format5GenRequire
  | .format_50 => format50GenRequire
  | .format_51 => format51GenRequire
  | .format_52 => format52GenRequire
  | .format_53 => format53GenRequire
  | .format_54 => format54GenRequire
  | .format_55 => format55GenRequire
  | .format_56 => format56GenRequire
  | .format_57 => format57GenRequire
  | .format_58 => format58GenRequire
  | .format_59 => format59GenRequire
  | .format_6 => format6GenRequire
  | .format_60 => format60GenRequire
  | .format_61 => format61GenRequire
  | .format_62 => format62GenRequire
  | .format_63 => format63GenRequire
  | .format_64 => format64GenRequire
  | .format_7 => format7GenRequire
  | .format_8 => format8GenRequire
  | .format_9 => format9GenRequire
  | .rv_ui1 => rvUi1GenRequire
  | .rv_ui2 => rvUi2GenRequire
  | .rv_ui3 => rvUi3GenRequire
  | .rv_ui4 => rvUi4GenRequire
  | .v_i13 => vI13GenRequire
  | .vr => vrGenRequire
  | .vr_i10 => vrI10GenRequire
  | .vr_i11 => vrI11GenRequire
  | .vr_i12 => vrI12GenRequire
  | .vr_i8i1 => vrI8i1GenRequire
  | .vr_i8i2 => vrI8i2GenRequire
  | .vr_i8i3 => vrI8i3GenRequire
  | .vr_i8i4 => vrI8i4GenRequire
  | .vr_i9 => vrI9GenRequire
  | .vr_ui1 => vrUi1GenRequire
  | .vr_ui2 => vrUi2GenRequire
  | .vr_ui3 => vrUi3GenRequire
  | .vr_ui4 => vrUi4GenRequire
  | .vrr => vrrGenRequire
  | .vv => vvGenRequire
  | .vv_i5 => vvI5GenRequire
  | .vv_ui1 => vvUi1GenRequire
  | .vv_ui2 => vvUi2GenRequire
  | .vv_ui3 => vvUi3GenRequire
  | .vv_ui4 => vvUi4GenRequire
  | .vv_ui5 => vvUi5GenRequire
  | .vv_ui6 => vvUi6GenRequire
  | .vv_ui7 => vvUi7GenRequire
  | .vv_ui8 => vvUi8GenRequire
  | .vvr => vvrGenRequire
  | .vvv => vvvGenRequire
  | .vvv_fcond => vvvFcondGenRequire
  | .vvvv => vvvvGenRequire
  | .xr_i12 => xrI12GenRequire

/-- How many entries the table has. -/
def genRequireFuncTableSize : ℕ := 100

/-- `gen_require_func_table[index]`. -/
def genRequireLookup (index : ℕ) : Res GenRequire :=
  if index < genRequireFuncTableSize then .ok (genRequireFuncTable (.ofNat index))
  else .error .outOfBounds

/-- There are as many entries as formats. -/
theorem Formats.ctorIdx_lt (f : Formats) : f.ctorIdx < genRequireFuncTableSize := by
  cases f <;> decide

/-- **The number of a format** is the index of its function. -/
theorem genRequireLookup_ctorIdx (f : Formats) :
    genRequireLookup f.ctorIdx = .ok (genRequireFuncTable f) := by
  rw [genRequireLookup, if_pos f.ctorIdx_lt, Formats.ofNat_ctorIdx]

/-- `require_set` has four entries, and two are enough. -/
theorem length_requireSet_le (f : Formats) (insn : LoongArchInsInfo) :
    ((genRequireFuncTable f).run insn .zero).requireSet.length ≤ 2 := by
  have h : (genRequireFuncTable f).requires.length ≤ 2 := by cases f <;> decide
  rw [GenRequire.run, RegInfo.zero, List.nil_append, List.length_map]
  exact h

end AotOpt
