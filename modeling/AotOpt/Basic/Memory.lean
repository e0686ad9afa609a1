import AotOpt.Basic.Aot
import AotOpt.Lib.Bytes

/-!
# The AOT file format in memory

How the structures of `Basic/aot.hpp` lie in memory: each field with its distance from the start and
its bytes (`fields`), and the structure that given bytes are (`ofBytes`). What fills up between the
fields is not mentioned.
-/

namespace AotOpt

open Lib

/-- `PATH_MAX`. -/
def PATH_MAX : ℕ := 4096

/-! ### The header -/

/-- `sizeof(AOT_Header)`. -/
def sizeofAOTHeader : ℕ := 16

namespace AOTHeader

/-- The fields. -/
def fields (hdr : AOTHeader) : Fields :=
  [(0, le 4 hdr.segtabOffset.toNat), (4, le 4 hdr.segnum.toNat),
    (8, le 4 hdr.reltableOffset.toNat), (12, le 4 hdr.reltableNum.toNat)]

/-- The header that the bytes are. -/
def ofBytes (b : ℕ → BitVec 8) : AOTHeader where
  segtabOffset := num 32 4 b 0
  segnum := num 32 4 b 4
  reltableOffset := num 32 4 b 8
  reltableNum := num 32 4 b 12

theorem fits_fields (hdr : AOTHeader) : Fits 0 hdr.fields sizeofAOTHeader := by
  simp [fields, Fits, sizeofAOTHeader]

theorem ofBytes_of_holdsAll {b : ℕ → BitVec 8} {hdr : AOTHeader} (h : HoldsAll b 0 hdr.fields) :
    ofBytes b = hdr := by
  obtain ⟨segtabOffset, segnum, reltableOffset, reltableNum⟩ := hdr
  simp only [ofBytes, mk.injEq]
  refine ⟨?_, ?_, ?_, ?_⟩ <;> exact h.num_eq (by simp [fields]) (by decide)

end AOTHeader

/-! ### Segments -/

/-- `sizeof(AOT_Segment)`. -/
def sizeofAOTSegment : ℕ := 48

namespace AOTSegment

/-- The fields. The first four are those of `info`. -/
def fields (seg : AOTSegment) : Fields :=
  [(0, le 8 seg.info.file.toNat), (8, le 8 seg.info.fileOffset.toNat),
    (16, le 8 seg.info.segBegin.toNat), (24, le 8 seg.info.segEnd.toNat),
    (32, le 4 seg.libNameOffset.toNat), (36, le 4 seg.tbOffset.toNat),
    (40, le 4 seg.tbNums.toNat), (44, [BitVec.setWidth 8 (BitVec.ofBool seg.ismap)])]

/-- The segment that the bytes are. -/
def ofBytes (b : ℕ → BitVec 8) : AOTSegment where
  info :=
    { file := num 64 8 b 0
      fileOffset := num 64 8 b 8
      segBegin := num 64 8 b 16
      segEnd := num 64 8 b 24 }
  libNameOffset := num 32 4 b 32
  tbOffset := num 32 4 b 36
  tbNums := num 32 4 b 40
  ismap := b 44 ≠ 0

theorem fits_fields (seg : AOTSegment) : Fits 0 seg.fields sizeofAOTSegment := by
  simp [fields, Fits, sizeofAOTSegment]

theorem ofBytes_of_holdsAll {b : ℕ → BitVec 8} {seg : AOTSegment} (h : HoldsAll b 0 seg.fields) :
    ofBytes b = seg := by
  obtain ⟨⟨file, fileOffset, segBegin, segEnd⟩, libNameOffset, tbOffset, tbNums, ismap⟩ := seg
  have hismap : b 44 = BitVec.setWidth 8 (BitVec.ofBool ismap) :=
    h (44, [BitVec.setWidth 8 (BitVec.ofBool ismap)]) (by simp [fields]) 0 Nat.one_pos
  simp only [ofBytes, mk.injEq, AOTSegInfo.mk.injEq]
  refine ⟨⟨?_, ?_, ?_, ?_⟩, ?_, ?_, ?_, ?ismap⟩
  case ismap =>
    rw [hismap]
    cases ismap <;> decide
  all_goals exact h.num_eq (by simp [fields]) (by decide)

end AOTSegment

/-! ### Blocks -/

/-- `sizeof(AOT_TB)`. -/
def sizeofAOTTB : ℕ := 88

namespace AOTTB

/-- The fields. -/
def fields (t : AOTTB) : Fields :=
  [(0, le 4 t.offsetInSegment.toNat), (8, le 8 t.tbCacheAddr.toNat),
    (16, le 4 t.tbCacheOffset.toNat), (20, le 4 t.tbCacheSize.toNat),
    (24, le 4 t.size.toNat), (28, le 4 t.flags.toNat),
    (32, le 2 (t.jmpResetOffsets 0).toNat), (34, le 2 (t.jmpResetOffsets 1).toNat),
    (40, le 8 (t.jmpTargetArg 0).toNat), (48, le 8 (t.jmpTargetArg 1).toNat),
    (56, le 4 (t.x86Offset 0).toNat), (60, le 4 (t.x86Offset 1).toNat),
    (64, le 4 t.relStartIndex.toNat), (68, le 4 t.relEndIndex.toNat),
    (72, le 4 t.segmentIdx.toNat), (76, le 4 t.fallthruSegmentIdx.toNat),
    (80, le 4 t.targetSegmentIdx.toNat)]

/-- The block that the bytes are. -/
def ofBytes (b : ℕ → BitVec 8) : AOTTB where
  offsetInSegment := num 32 4 b 0
  tbCacheAddr := num 64 8 b 8
  tbCacheOffset := num 32 4 b 16
  tbCacheSize := num 32 4 b 20
  size := num 32 4 b 24
  flags := num 32 4 b 28
  jmpResetOffsets := fun j => num 16 2 b (32 + 2 * j)
  jmpTargetArg := fun j => num 64 8 b (40 + 8 * j)
  x86Offset := fun j => num 32 4 b (56 + 4 * j)
  relStartIndex := num 32 4 b 64
  relEndIndex := num 32 4 b 68
  segmentIdx := num 32 4 b 72
  fallthruSegmentIdx := num 32 4 b 76
  targetSegmentIdx := num 32 4 b 80

theorem fits_fields (t : AOTTB) : Fits 0 t.fields sizeofAOTTB := by
  simp [fields, Fits, sizeofAOTTB]

theorem ofBytes_of_holdsAll {b : ℕ → BitVec 8} {t : AOTTB} (h : HoldsAll b 0 t.fields) :
    ofBytes b = t := by
  obtain ⟨offsetInSegment, tbCacheAddr, tbCacheOffset, tbCacheSize, size, flags, jmpResetOffsets,
    jmpTargetArg, x86Offset, relStartIndex, relEndIndex, segmentIdx, fallthruSegmentIdx,
    targetSegmentIdx⟩ := t
  simp only [ofBytes, mk.injEq]
  refine ⟨?_, ?_, ?_, ?_, ?_, ?_, funext (Fin.forall_fin_two.mpr ⟨?_, ?_⟩),
    funext (Fin.forall_fin_two.mpr ⟨?_, ?_⟩), funext (Fin.forall_fin_two.mpr ⟨?_, ?_⟩),
    ?_, ?_, ?_, ?_, ?_⟩ <;> exact h.num_eq (by simp [fields]) (by decide)

end AOTTB

/-! ### Relocations -/

/-- `sizeof(AOT_rel)`. -/
def sizeofAOTRel : ℕ := 24

namespace AOTRel

/-- The fields. The number of a kind is its place among the enumerators. -/
def fields (r : AOTRel) : Fields :=
  [(0, le 4 r.kind.ctorIdx), (4, le 4 r.tcOffset.toNat), (8, le 4 r.relSlotsNum.toNat),
    (12, le 4 r.x86RipOffset.toNat), (16, le 8 r.extraAddend.toNat)]

/-- The relocation that the bytes are. A number that no enumerator has is taken for the last one. -/
def ofBytes (b : ℕ → BitVec 8) : AOTRel where
  kind := .ofNat (num 32 4 b 0).toNat
  tcOffset := num 32 4 b 4
  relSlotsNum := num 32 4 b 8
  x86RipOffset := num 32 4 b 12
  extraAddend := num 64 8 b 16

theorem fits_fields (r : AOTRel) : Fits 0 r.fields sizeofAOTRel := by
  simp [fields, Fits, sizeofAOTRel]

/-- The number of a kind fits into its field. -/
theorem toNat_ofNat_ctorIdx (kind : AOTRelKind) : (BitVec.ofNat 32 kind.ctorIdx).toNat = kind.ctorIdx := by
  cases kind <;> rfl

theorem ofBytes_of_holdsAll {b : ℕ → BitVec 8} {r : AOTRel} (h : HoldsAll b 0 r.fields) :
    ofBytes b = r := by
  obtain ⟨kind, tcOffset, relSlotsNum, x86RipOffset, extraAddend⟩ := r
  have hkind : num 32 4 b 0 = BitVec.ofNat 32 kind.ctorIdx := by
    refine h.num_eq ?_ (by decide)
    rw [toNat_ofNat_ctorIdx]
    simp [fields]
  simp only [ofBytes, mk.injEq]
  refine ⟨?kind, ?_, ?_, ?_, ?_⟩
  case kind => rw [hkind, toNat_ofNat_ctorIdx, AOTRelKind.ofNat_ctorIdx]
  all_goals exact h.num_eq (by simp [fields]) (by decide)

end AOTRel

end AotOpt
