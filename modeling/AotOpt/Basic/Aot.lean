import Mathlib.Algebra.Order.Ring.Int
import Mathlib.Data.BitVec
import Mathlib.Data.Fintype.Basic
import Mathlib.Data.List.Forall2

/-!
# The AOT file format

The structures of `Basic/aot.hpp`: the header of an AOT file, its segments, the
translated blocks of a segment and their relocations. Machine integers are bit
vectors of the width the C++ type has; `int32_t` and `int` are bit vectors read in two's
complement (`toInt`).
-/

namespace AotOpt

/-- `TB_JMP_RESET_OFFSET_INVALID`. -/
def TB_JMP_RESET_OFFSET_INVALID : BitVec 16 := 0xffff#16

/-- `AOT_Header`. -/
structure AOTHeader where
  /-- Where the segment table starts. -/
  segtabOffset : BitVec 32
  /-- How many segments there are. -/
  segnum : BitVec 32
  /-- Where the relocation table starts. -/
  reltableOffset : BitVec 32
  /-- How many relocations there are. -/
  reltableNum : BitVec 32
  deriving DecidableEq, Inhabited

/-- There are two slots. -/
instance neZero_two : NeZero 2 := ⟨by decide⟩

/-- `AOT_TB`. The arrays of two are indexed by the slot: `0` is the false branch, `1` the
true branch. -/
structure AOTTB where
  offsetInSegment : BitVec 32
  tbCacheAddr : BitVec 64
  tbCacheOffset : BitVec 32
  tbCacheSize : BitVec 32
  size : BitVec 32
  flags : BitVec 32
  /-- `0xffff` marks a slot that is not there. -/
  jmpResetOffsets : Fin 2 → BitVec 16
  /-- The byte offset of the slot's branch in the code. -/
  jmpTargetArg : Fin 2 → BitVec 64
  /-- The offset in the segment of the block the slot goes to. -/
  x86Offset : Fin 2 → BitVec 32
  /-- First entry of the block in the relocation table. -/
  relStartIndex : BitVec 32
  /-- Last entry of the block in the relocation table, inclusive. -/
  relEndIndex : BitVec 32
  segmentIdx : BitVec 32
  fallthruSegmentIdx : BitVec 32
  targetSegmentIdx : BitVec 32
  deriving DecidableEq, Inhabited

/-- `aot_rel_kind`. -/
inductive AOTRelKind where
  | B_PROLOGUE | B_EPILOGUE | B_NATIVE_JMP_GLUE2
  | LOAD_TB_ADDR | LOAD_RIP_OFF | LOAD_CALL_TARGET | LOAD_SYSCALL_OPTIMIZE_CONFIRM
  | LOAD_HELPER_BEGIN
  | LOAD_HELPER_TRACE_SESSION_BEGIN | LOAD_HELPER_UPDATE_MXCSR_STATUS
  | LOAD_HELPER_FPATAN | LOAD_HELPER_FPTAN | LOAD_HELPER_FPREM | LOAD_HELPER_FPREM1
  | LOAD_HELPER_FRNDINT | LOAD_HELPER_F2XM1 | LOAD_HELPER_FXTRACT | LOAD_HELPER_FYL2X
  | LOAD_HELPER_FYL2XP1 | LOAD_HELPER_FSINCOS | LOAD_HELPER_FSIN | LOAD_HELPER_FCOS
  | LOAD_HELPER_FBLD_ST0 | LOAD_HELPER_FBST_ST0 | LOAD_HELPER_FXSAVE | LOAD_HELPER_FXRSTOR
  | LOAD_HELPER_CONVERT_FPREGS_X80_TO_64 | LOAD_HELPER_CONVERT_FPREGS_64_TO_X80
  | LOAD_HELPER_UPDATE_FP_STATUS | LOAD_HELPER_CPUID | LOAD_HELPER_RAISE_INT
  | LOAD_HELPER_RAISE_SYSCALL
  | LOAD_HOST_POW | LOAD_HOST_SIN | LOAD_HOST_COS | LOAD_HOST_ATAN2 | LOAD_HOST_LOGB
  | LOAD_HOST_LOG2 | LOAD_HOST_SINCOS | LOAD_HOST_PFTABLE | LOAD_HOST_LATLOCK
  | LOAD_HOST_RAISE_EX
  | LOAD_HELPER_END
  | LOAD_TUNNEL_ADDR_BEGIN
  deriving DecidableEq

/-- `rel_kind2name`; `none` is a null pointer. -/
def relKind2name : AOTRelKind → Option String
  | .B_PROLOGUE => some "B_PROLOGUE"
  | .B_EPILOGUE => some "B_EPILOGUE"
  | .B_NATIVE_JMP_GLUE2 => some "B_NATIVE_JMP_GLUE2"
  | .LOAD_TB_ADDR => some "LOAD_TB_ADDR"
  | .LOAD_RIP_OFF => some "LOAD_RIP_OFF"
  | .LOAD_CALL_TARGET => some "LOAD_CALL_TARGET"
  | .LOAD_SYSCALL_OPTIMIZE_CONFIRM => some "LOAD_SYSCALL_OPTIMIZE_CONFIRM"
  | .LOAD_HELPER_BEGIN => none
  | .LOAD_HELPER_TRACE_SESSION_BEGIN => some "LOAD_HELPER_TRACE_SESSION_BEGIN"
  | .LOAD_HELPER_UPDATE_MXCSR_STATUS => some "LOAD_HELPER_UPDATE_MXCSR_STATUS"
  | .LOAD_HELPER_FPATAN => some "LOAD_HELPER_FPATAN"
  | .LOAD_HELPER_FPTAN => some "LOAD_HELPER_FPTAN"
  | .LOAD_HELPER_FPREM => some "LOAD_HELPER_FPREM"
  | .LOAD_HELPER_FPREM1 => some "LOAD_HELPER_FPREM1"
  | .LOAD_HELPER_FRNDINT => some "LOAD_HELPER_FRNDINT"
  | .LOAD_HELPER_F2XM1 => some "LOAD_HELPER_F2XM1"
  | .LOAD_HELPER_FXTRACT => some "LOAD_HELPER_FXTRACT"
  | .LOAD_HELPER_FYL2X => some "LOAD_HELPER_FYL2X"
  | .LOAD_HELPER_FYL2XP1 => some "LOAD_HELPER_FYL2XP1"
  | .LOAD_HELPER_FSINCOS => some "LOAD_HELPER_FSINCOS"
  | .LOAD_HELPER_FSIN => some "LOAD_HELPER_FSIN"
  | .LOAD_HELPER_FCOS => some "LOAD_HELPER_FCOS"
  | .LOAD_HELPER_FBLD_ST0 => some "LOAD_HELPER_FBLD_ST0"
  | .LOAD_HELPER_FBST_ST0 => some "LOAD_HELPER_FBST_ST0"
  | .LOAD_HELPER_FXSAVE => some "LOAD_HELPER_FXSAVE"
  | .LOAD_HELPER_FXRSTOR => some "LOAD_HELPER_FXRSTOR"
  | .LOAD_HELPER_CONVERT_FPREGS_X80_TO_64 => some "LOAD_HELPER_CONVERT_FPREGS_X80_TO_64"
  | .LOAD_HELPER_CONVERT_FPREGS_64_TO_X80 => some "LOAD_HELPER_CONVERT_FPREGS_64_TO_X80"
  | .LOAD_HELPER_UPDATE_FP_STATUS => some "LOAD_HELPER_UPDATE_FP_STATUS"
  | .LOAD_HELPER_CPUID => some "LOAD_HELPER_CPUID"
  | .LOAD_HELPER_RAISE_INT => some "LOAD_HELPER_RAISE_INT"
  | .LOAD_HELPER_RAISE_SYSCALL => some "LOAD_HELPER_RAISE_SYSCALL"
  | .LOAD_HOST_POW => some "LOAD_HOST_POW"
  | .LOAD_HOST_SIN => some "LOAD_HOST_SIN"
  | .LOAD_HOST_COS => some "LOAD_HOST_COS"
  | .LOAD_HOST_ATAN2 => some "LOAD_HOST_ATAN2"
  | .LOAD_HOST_LOGB => some "LOAD_HOST_LOGB"
  | .LOAD_HOST_LOG2 => some "LOAD_HOST_LOG2"
  | .LOAD_HOST_SINCOS => some "LOAD_HOST_SINCOS"
  | .LOAD_HOST_PFTABLE => some "LOAD_HOST_PFTABLE"
  | .LOAD_HOST_LATLOCK => some "LOAD_HOST_LATLOCK"
  | .LOAD_HOST_RAISE_EX => some "LOAD_HOST_RAISE_EX"
  | .LOAD_HELPER_END => some "LOAD_HELPER_END"
  | .LOAD_TUNNEL_ADDR_BEGIN => some "LOAD_TUNNEL_ADDR_BEGIN"

/-- `AOT_rel`: a relocation of `relSlotsNum` instructions from byte offset `tcOffset` on. -/
structure AOTRel where
  kind : AOTRelKind
  tcOffset : BitVec 32
  relSlotsNum : BitVec 32
  x86RipOffset : BitVec 32
  extraAddend : BitVec 64
  deriving DecidableEq

/-- `AOT_SegInfo`. -/
structure AOTSegInfo where
  file : BitVec 64
  fileOffset : BitVec 64
  segBegin : BitVec 64
  segEnd : BitVec 64
  deriving DecidableEq, Inhabited

/-- `AOT_Segment`. -/
structure AOTSegment where
  info : AOTSegInfo
  libNameOffset : BitVec 32
  tbOffset : BitVec 32
  tbNums : BitVec 32
  ismap : Bool
  deriving DecidableEq, Inhabited

/-! ### How a run can stop -/

/-- What stops the program other than a normal end. -/
inductive Fault where
  /-- An `assert` fails. -/
  | assertion
  /-- `exit(1)`. -/
  | exit
  /-- The data of a list sentinel, or a pointer that is not in the list, is used. -/
  | sentinel
  /-- A vector is read past its end. -/
  | outOfBounds
  /-- `std::length_error` is thrown, which nothing catches. -/
  | lengthError
  /-- The bound on the recursion of the model is used up. -/
  | depth
  deriving DecidableEq

/-- The result of a function that may stop. -/
abbrev Res := Except Fault

@[simp] theorem ok_bind {α β : Type} (a : α) (f : α → Res β) : (.ok a >>= f) = f a := rfl

@[simp] theorem error_bind {α β : Type} (e : Fault) (f : α → Res β) :
    ((.error e : Res α) >>= f) = .error e := rfl

theorem bind_eq_ok {α β : Type} {x : Res α} {f : α → Res β} {b : β} :
    (x >>= f) = .ok b ↔ ∃ a, x = .ok a ∧ f a = .ok b := by
  cases x <;> simp

theorem map_eq_ok {α β : Type} {x : Res α} {f : α → β} {b : β} :
    f <$> x = .ok b ↔ ∃ a, x = .ok a ∧ f a = b := by
  cases x <;> simp [Functor.map, Except.map]

theorem res_map_bind {α β γ : Type} (x : Res α) (f : α → Res β) (g : β → γ) :
    (x >>= f).map g = x >>= fun a => (f a).map g := by cases x <;> rfl

theorem map_eq_ok_iff {α β : Type} {x : Res α} {f : α → β} {b : β} :
    x.map f = .ok b ↔ ∃ a, x = .ok a ∧ f a = b := by
  cases x <;> simp [Except.map]

/-- The results of a list of calls that all end. -/
theorem mapM_eq_ok {α β : Type} {f : α → Res β} : ∀ {l : List α} {bs : List β},
    l.mapM f = .ok bs ↔ List.Forall₂ (fun a b => f a = .ok b) l bs
  | [], bs => by simp [pure, Except.pure, eq_comm]
  | a :: l, bs => by
    rw [List.mapM_cons, bind_eq_ok]
    constructor
    · rintro ⟨b, hb, h⟩
      obtain ⟨bs', hbs, h⟩ := bind_eq_ok.mp h
      rw [← Except.ok.inj h]
      exact .cons hb (mapM_eq_ok.mp hbs)
    · intro h
      cases h with
      | cons hb hbs => exact ⟨_, hb, bind_eq_ok.mpr ⟨_, mapM_eq_ok.mpr hbs, rfl⟩⟩

theorem exists_mapM_iff {α β : Type} {f : α → Res β} {l : List α} :
    (∃ bs, l.mapM f = .ok bs) ↔ ∀ a ∈ l, ∃ b, f a = .ok b := by
  simp only [mapM_eq_ok]
  induction l with
  | nil => simp
  | cons a l ih =>
    rw [List.forall_mem_cons, ← ih]
    constructor
    · rintro ⟨bs, h⟩
      cases h with
      | cons hb hbs => exact ⟨⟨_, hb⟩, _, hbs⟩
    · rintro ⟨⟨b, hb⟩, bs, hbs⟩
      exact ⟨b :: bs, .cons hb hbs⟩

/-- `assert`. -/
def assert (b : Bool) : Res Unit := if b then .ok () else .error .assertion

@[simp] theorem assert_true : assert true = .ok () := rfl

@[simp] theorem assert_eq_ok {b : Bool} {u : Unit} : assert b = .ok u ↔ b = true := by
  cases b <;> simp [assert]

end AotOpt
