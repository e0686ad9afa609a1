import AotOpt.AotClass.TB
import Mathlib.Logic.Function.Basic

/-!
# AOT files

Loading a file and linking its blocks: `TB::TB`, `Segment` and `AOT_File` of
`AOT_class/aot_class.cpp`. A file is what `fread` gives for its tables; a block is
identified by its place in the order in which the blocks are loaded. The address of a block
is computed from a `u_int32_t` segment begin, and the key under which it is stored in
`x86AddrToTb` from the 64-bit one.
-/

namespace AotOpt

/-- `Segment`: its entry of the segment table, its library name and its blocks. -/
structure Segment (β : Type) where
  seg : AOTSegment
  libName : List (BitVec 8)
  tbs : List β

/-- A loaded file, with the blocks its pointers point to and the global `x86AddrToTb`. -/
structure AOTFile (ι : Type) where
  rels : List AOTRel
  segs : List (Segment ι)
  tb : ι → TB ι
  x86AddrToTb : BitVec 64 → Option ι

/-! ### Loading -/

/-- What is read for a block: its entry and its code. -/
structure TBImage where
  aotTb : AOTTB
  code : Code
  size_eq : code.size = aotTb.tbCacheSize

/-- What is read for a segment. -/
structure SegmentImage where
  seg : AOTSegment
  libName : List (BitVec 8)
  tbs : List TBImage

/-- What is read for a file. -/
structure Image where
  segs : List SegmentImage
  rels : List AOTRel
  /-- `reltable_num` is a `u_int32_t`. -/
  length_rels : rels.length < 2 ^ 32

/-- A file without relocations. -/
def Image.ofSegs (segs : List SegmentImage) : Image := ⟨segs, [], by decide⟩

/-- The blocks that are loaded, and the map of their addresses. -/
structure Loading where
  tbs : List (TB ℕ)
  x86AddrToTb : BitVec 64 → Option ℕ

/-- `aot_tb->offset_in_segment + SegBegin`, in 32 bits. -/
def AOTTB.x86AddrAt (aotTb : AOTTB) (segBegin : BitVec 32) : BitVec 64 :=
  (aotTb.offsetInSegment + segBegin).setWidth 64

/-- `seg_begin + offset_in_segment`, in 64 bits. -/
def AOTTB.keyAt (aotTb : AOTTB) (segBegin : BitVec 64) : BitVec 64 :=
  segBegin + aotTb.offsetInSegment.setWidth 64

namespace Loading

/-- `x86AddrToTb[seg_begin + offset_in_segment] = tb`, of a block that is new. -/
def store (segBegin : BitVec 64) (tb : TB ℕ) (l : Loading) : Loading where
  tbs := l.tbs ++ [tb]
  x86AddrToTb := Function.update l.x86AddrToTb (tb.originAotTb.keyAt segBegin) (some l.tbs.length)

/-- One turn of the loop of `Segment`: the block is made by `TB(f, aot_tb, SegBegin)`, whose
last parameter is a `u_int32_t`, and stored. -/
def loadTB (segBegin : BitVec 64) (img : TBImage) (l : Loading) : Res Loading :=
  let x86Addr := img.aotTb.x86AddrAt (segBegin.setWidth 32)
  match l.x86AddrToTb x86Addr with
  | some _ => .error .exit
  | none => .ok (l.store segBegin (.new img.aotTb img.code x86Addr))

/-- The loop of `Segment`. -/
def loadTBs (segBegin : BitVec 64) : List TBImage → Loading → Res Loading
  | [], l => .ok l
  | img :: imgs, l => do
    let l' ← loadTB segBegin img l
    loadTBs segBegin imgs l'

/-- The loop of `AOT_File` over the segments. -/
def loadSegments : List SegmentImage → Loading → Res (List (Segment ℕ) × Loading)
  | [], l => .ok ([], l)
  | s :: ss, l => do
    let l' ← loadTBs s.seg.info.segBegin s.tbs l
    let (segs, l'') ← loadSegments ss l'
    .ok (⟨s.seg, s.libName, List.range' l.tbs.length s.tbs.length⟩ :: segs, l'')

end Loading

namespace AOTFile

/-- `AOT_File(FILE*)`, at the start of a process. -/
def load (image : Image) : Res (AOTFile ℕ) := do
  let (segs, l) ← Loading.loadSegments image.segs ⟨[], fun _ => none⟩
  .ok
    { rels := image.rels
      segs := segs
      tb := fun i => l.tbs.getD i (.new default .empty 0)
      x86AddrToTb := l.x86AddrToTb }

variable {ι : Type} (f : AOTFile ι)

/-- The blocks of all segments. -/
def ids : List ι := f.segs.flatMap (·.tbs)

/-- A write to a block. -/
def setTB [DecidableEq ι] (i : ι) (tb : TB ι) : AOTFile ι := { f with tb := Function.update f.tb i tb }

@[simp] theorem tb_setTB_self [DecidableEq ι] (i : ι) (tb : TB ι) : (f.setTB i tb).tb i = tb :=
  Function.update_self _ _ _

theorem tb_setTB_of_ne [DecidableEq ι] {f : AOTFile ι} {i j : ι} (h : j ≠ i) (tb : TB ι) :
    (f.setTB i tb).tb j = f.tb j :=
  Function.update_of_ne h _ _

end AOTFile

/-! ### Linking -/

/-- The slot of a branch: `is_true_branch? 1:0`. -/
def slotOf (isTrueBranch : Bool) : Fin 2 := if isTrueBranch then 1 else 0

namespace TB

variable {ι : Type} (tb : TB ι)

/-- `true_branch` or `false_branch`. -/
def branch (isTrueBranch : Bool) : Option ι := if isTrueBranch then tb.trueBranch else tb.falseBranch

/-- An assignment to `true_branch` or `false_branch`. -/
def setBranch (isTrueBranch : Bool) (next : ι) : TB ι :=
  if isTrueBranch then { tb with trueBranch := some next } else { tb with falseBranch := some next }

/-- `parents.push_back`. -/
def addParent (parent : ι) : TB ι := { tb with parents := tb.parents ++ [parent] }

end TB

namespace AOTFile

variable {ι : Type} [DecidableEq ι] (f : AOTFile ι)

/-- `SetNextTB`. -/
def setNextTB (tb branch : ι) (isTrueBranch : Bool) : Res (AOTFile ι) := do
  assert ((f.tb tb).branch isTrueBranch).isNone
  let f := f.setTB tb ((f.tb tb).setBranch isTrueBranch branch)
  .ok (f.setTB branch ((f.tb branch).addParent tb))

/-- **`SetNextTB` that does not stop.** -/
theorem setNextTB_eq_ok {f f' : AOTFile ι} {tb branch : ι} {isTrueBranch : Bool} :
    f.setNextTB tb branch isTrueBranch = .ok f' ↔ (f.tb tb).branch isTrueBranch = none ∧
      f' = (f.setTB tb ((f.tb tb).setBranch isTrueBranch branch)).setTB branch
        (((f.setTB tb ((f.tb tb).setBranch isTrueBranch branch)).tb branch).addParent tb) := by
  rw [setNextTB, bind_eq_ok]
  simp only [assert_eq_ok, Option.isNone_iff_eq_none, Except.ok.injEq, exists_const]
  exact and_congr_right fun _ => eq_comm

/-- Where a slot of a block of the segment goes, if there is a block. -/
def target (seg : AOTSegment) (aotTb : AOTTB) (isTrueBranch : Bool) : Option ι :=
  f.x86AddrToTb ((aotTb.x86Offset (slotOf isTrueBranch)).setWidth 64 + seg.info.segBegin)

/-- `TB_Link`. -/
def tbLink (seg : AOTSegment) (tb : ι) (isTrueBranch : Bool) : Res (AOTFile ι) :=
  match f.target seg (f.tb tb).originAotTb isTrueBranch with
  | some nextTb => f.setNextTB tb nextTb isTrueBranch
  | none => .ok f

/-- One turn of the loop of `settle_all_tb`. -/
def settleTb (seg : AOTSegment) (f : AOTFile ι) (tb : ι) : Res (AOTFile ι) :=
  let originTb := (f.tb tb).originAotTb
  if originTb.slotValid 1 && originTb.slotValid 0 then do
    let f ← f.tbLink seg tb true
    f.tbLink seg tb false
  else if originTb.slotValid 1 then f.tbLink seg tb true
  else if originTb.slotValid 0 then f.tbLink seg tb false
  else .ok f

/-- `settle_all_tb`. -/
def settleAllTb (seg : Segment ι) : Res (AOTFile ι) := seg.tbs.foldlM (settleTb seg.seg) f

end AOTFile

end AotOpt
