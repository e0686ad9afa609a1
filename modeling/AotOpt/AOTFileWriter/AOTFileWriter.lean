import AotOpt.AotClass.AOTFile
import AotOpt.Basic.Memory

/-!
# Writing an AOT file

`AOTFileWriter::write_to_buf` with `SegmentsWriter` and `TBWriter`. The buffer is kept as
the list of what is written where: a pointer into the buffer is its distance from the
start, and moves by the size of what it points to. The counter `rel_cur_index`, a static
variable, is passed in and out.
-/

namespace AotOpt

/-- What was written to the buffer, each item with its distance from the start. -/
structure OutBuf where
  hdr : AOTHeader
  segtab : List (ℕ × AOTSegment)
  libNames : List (ℕ × List (BitVec 8))
  tbtab : List (ℕ × AOTTB)
  reltab : List (ℕ × AOTRel)
  code : List (ℕ × BitVec 32)

/-- A buffer of zeros. -/
def OutBuf.zero : OutBuf := ⟨⟨0, 0, 0, 0⟩, [], [], [], [], []⟩

/-- The buffer and `rel_cur_index`. -/
structure Writer where
  buf : OutBuf
  relCurIndex : BitVec 32

variable {ι : Type}

/-! ### Blocks -/

namespace TBWriter

/-- The loop of `handle_rels`. -/
def copyRels : List RelSlot → ℕ → Writer → Writer
  | [], _, w => w
  | r :: rels, relBuf, w =>
    if r.valid then
      let hdr :=
        if w.relCurIndex = 0 then { w.buf.hdr with reltableOffset := BitVec.ofNat 32 relBuf }
        else w.buf.hdr
      copyRels rels (relBuf + sizeofAOTRel)
        { buf := { w.buf with hdr := hdr, reltab := w.buf.reltab ++ [(relBuf, r.rel)] }
          relCurIndex := w.relCurIndex + 1 }
    else copyRels rels relBuf w

/-- `handle_rels`. -/
def handleRels (tb : TB ι) (relBuf : ℕ) (targetTb : AOTTB) (w : Writer) : AOTTB × Writer :=
  -- `any_valid` starts as `true`
  let anyValid := tb.rels.foldl (fun any r => any || r.valid) true
  if !anyValid then ({ targetTb with relStartIndex := 1, relEndIndex := 0 }, w)
  else
    let w' := copyRels tb.rels relBuf w
    ({ targetTb with relStartIndex := w.relCurIndex, relEndIndex := w'.relCurIndex - 1 }, w')

/-- `write_tb_helper_function`. -/
def writeTbHelperFunction (tb : TB ι) : AOTTB :=
  { tb.originAotTb with
    tbCacheOffset := 0
    tbCacheSize := 0
    relStartIndex := 0
    relEndIndex := 0 }

/-- The words of a list of instructions, from `insnPtr` on. -/
def emit : ℕ → List (ListNode LoongArchInsInfo) → List (ℕ × BitVec 32)
  | _, [] => []
  | insnPtr, n :: nodes => (insnPtr, encode n.data) :: emit (insnPtr + 4) nodes

/-- `handle_assemble`. -/
def handleAssemble (tb : TB ι) (insnPtr : ℕ) (targetTb : AOTTB) (w : Writer) : AOTTB × Writer :=
  ({ targetTb with
      tbCacheOffset := BitVec.ofNat 32 insnPtr
      tbCacheSize := (tb.disInsns.totalSize * 4).setWidth 32 },
    { w with buf := { w.buf with code := w.buf.code ++ emit insnPtr tb.disInsns.nodes } })

/-- The loop of `write_to_buf`. -/
def writeTBs : List (TB ι) → ℕ → ℕ → ℕ → Writer → Writer
  | [], _, _, _, w => w
  | tb :: tbs, cur, relBuf, insnPtr, w =>
    let (target, w) := handleAssemble tb insnPtr (writeTbHelperFunction tb) w
    let (target, w) := handleRels tb relBuf target w
    let w := { w with buf := { w.buf with tbtab := w.buf.tbtab ++ [(cur, target)] } }
    writeTBs tbs (cur + sizeofAOTTB) (relBuf + sizeofAOTRel * tb.howManyRel.toNat)
      (insnPtr + 4 * tb.disInsns.totalSize.toNat) w

/-- `write_to_buf`. -/
def writeToBuf (tbBuf relBuf codeBuf : ℕ) (tbs : List (TB ι)) (w : Writer) : Writer :=
  let w := writeTBs tbs tbBuf relBuf codeBuf w
  { w with buf := { w.buf with hdr := { w.buf.hdr with reltableNum := w.relCurIndex } } }

end TBWriter

/-! ### Segments -/

/-- `TB::how_many_bytes`. -/
def TB.howManyBytes (tb : TB ι) : BitVec 32 :=
  tb.rels.foldl (fun total r => if r.valid then total + BitVec.ofNat 32 sizeofAOTRel else total)
    (BitVec.ofNat 32 sizeofAOTTB + (tb.disInsns.totalSize * 4).setWidth 32)

namespace Segment

/-- `how_many_tbs`. -/
def howManyTbs (seg : Segment (TB ι)) : BitVec 32 := BitVec.ofNat 32 seg.tbs.length

/-- `how_many_rel`. -/
def howManyRel (seg : Segment (TB ι)) : BitVec 32 := (seg.tbs.map TB.howManyRel).sum

/-- `how_many_code`. -/
def howManyCode (seg : Segment (TB ι)) : BitVec 32 := (seg.tbs.map TB.howManyCode).sum

/-- `how_many_bytes`. -/
def howManyBytes (seg : Segment (TB ι)) : BitVec 32 :=
  seg.tbs.foldl (fun total tb => total + tb.howManyBytes)
    (BitVec.ofNat 32 sizeofAOTSegment + BitVec.ofNat 32 PATH_MAX)

end Segment

namespace SegmentsWriter

/-- The first loop of `write_to_buf`: the library names. -/
def writeNames : List (Segment (TB ι)) → ℕ → List (ℕ × List (BitVec 8))
  | [], _ => []
  | seg :: segs, current => (current, seg.libName ++ [0]) :: writeNames segs (current + PATH_MAX)

/-- The second loop of `write_to_buf`. The library name offsets were written by the first. -/
def writeSegments : List (Segment (TB ι)) → (curSeg segmentName tbTable relCur codeCur : ℕ) →
    Writer → Writer
  | [], _, _, _, _, _, w => w
  | seg :: segs, curSeg, segmentName, tbTable, relCur, codeCur, w =>
    let entry : AOTSegment :=
      { info := seg.seg.info
        libNameOffset := BitVec.ofNat 32 segmentName
        tbOffset := BitVec.ofNat 32 tbTable
        tbNums := BitVec.ofNat 32 seg.tbs.length
        ismap := seg.seg.ismap }
    let w := { w with buf := { w.buf with segtab := w.buf.segtab ++ [(curSeg, entry)] } }
    let w := TBWriter.writeToBuf tbTable relCur codeCur seg.tbs w
    writeSegments segs (curSeg + sizeofAOTSegment) (segmentName + PATH_MAX)
      (tbTable + sizeofAOTTB * seg.howManyTbs.toNat)
      (relCur + sizeofAOTRel * seg.howManyRel.toNat) (codeCur + seg.howManyCode.toNat) w

/-- `write_to_buf`. -/
def writeToBuf (buf : ℕ) (segs : List (Segment (TB ι))) (w : Writer) : Writer :=
  let segmentsNameBegin := buf + sizeofAOTSegment * segs.length
  let segmentsNameEnd := segmentsNameBegin + segs.length * PATH_MAX
  let tbTotal : BitVec 32 := (segs.map Segment.howManyTbs).sum
  let relTotal : BitVec 32 := (segs.map Segment.howManyRel).sum
  let relCur := segmentsNameEnd + sizeofAOTTB * tbTotal.toNat
  let codeCur := relCur + sizeofAOTRel * relTotal.toNat
  let hdr := { w.buf.hdr with
    segtabOffset := BitVec.ofNat 32 buf
    segnum := BitVec.ofNat 32 segs.length }
  let w := { w with buf := { w.buf with
    hdr := hdr
    libNames := writeNames segs segmentsNameBegin } }
  writeSegments segs buf segmentsNameBegin segmentsNameEnd relCur codeCur w

end SegmentsWriter

/-- `AOT_File::how_many_bytes`. -/
def AOTFileWriter.howManyBytes (segs : List (Segment (TB ι))) : BitVec 32 :=
  segs.foldl (fun total seg => total + seg.howManyBytes) (BitVec.ofNat 32 sizeofAOTHeader)

/-- `AOTFileWriter::write_to_buf` into a buffer of zeros. -/
def AOTFileWriter.writeToBuf (segs : List (Segment (TB ι))) (relCurIndex : BitVec 32) : Writer :=
  SegmentsWriter.writeToBuf sizeofAOTHeader segs ⟨.zero, relCurIndex⟩

end AotOpt
