import AotOpt.AOTFileWriter.RelTable

/-!
# Writing one file after another

`rel_cur_index` is a static variable that nothing sets back, so that a file finds there the number
of relocations that were written before it.

* `sameRest_writeToBuf` — what does not depend on the counter: all but the two fields of the header
  that say where the relocations are and how many, and the index ranges of the blocks.
* `relFields_writeToBuf_iff` — what does: these are what the first file of a process gets if and only
  if the counter is 0 or there is no segment.
* `independent_iff` — for which sequences of files every file gets what it would get as the first.
-/

namespace AotOpt

variable {ι : Type}

/-- The segments of a file. -/
abbrev Segments (ι : Type) := List (Segment (TB ι))

/-- The blocks of a file. -/
def Segments.blocks (file : Segments ι) : List (TB ι) := List.flatMap (·.tbs) file

/-- `reltable_offset`, `reltable_num`, and `rel_start_index` and `rel_end_index` of each block. -/
def OutBuf.relFields (buf : OutBuf) : BitVec 32 × BitVec 32 × List (BitVec 32 × BitVec 32) :=
  (buf.hdr.reltableOffset, buf.hdr.reltableNum, buf.ranges)

namespace AOTFileWriter

/-- The buffers of files that are written one after another, into buffers of zeros. -/
def writeFrom : List (Segments ι) → BitVec 32 → List OutBuf
  | [], _ => []
  | file :: files, relCurIndex =>
    (writeToBuf file relCurIndex).buf :: writeFrom files (writeToBuf file relCurIndex).relCurIndex

/-- The same from the start of the process. -/
def writeFiles (files : List (Segments ι)) : List OutBuf := writeFrom files 0

/-- Every file gets the relocation offset, count and ranges that it gets as the first one. -/
def Independent (files : List (Segments ι)) : Prop :=
  (writeFiles files).map OutBuf.relFields = files.map fun file => (writeToBuf file 0).buf.relFields

end AOTFileWriter

/-! ### What does not depend on the counter -/

/-- A block's entry without its range. -/
def AOTTB.dropRange (t : AOTTB) : AOTTB := { t with relStartIndex := 0, relEndIndex := 0 }

/-- The two buffers differ in the place and number of the relocations and in the ranges only. -/
structure SameRest (buf buf' : OutBuf) : Prop where
  segtabOffset : buf'.hdr.segtabOffset = buf.hdr.segtabOffset
  segnum : buf'.hdr.segnum = buf.hdr.segnum
  segtab : buf'.segtab = buf.segtab
  libNames : buf'.libNames = buf.libNames
  tbtab : buf'.tbtab.map (fun e => (e.1, e.2.dropRange)) = buf.tbtab.map fun e => (e.1, e.2.dropRange)
  reltab : buf'.reltab = buf.reltab
  code : buf'.code = buf.code

section SameRest

variable {buf buf' : OutBuf} {w w' : Writer}

theorem SameRest.refl (buf : OutBuf) : SameRest buf buf := ⟨rfl, rfl, rfl, rfl, rfl, rfl, rfl⟩

/-- One more entry of a segment. -/
theorem SameRest.addSegment (h : SameRest buf buf') (curSeg : ℕ) (entry : AOTSegment) :
    SameRest { buf with segtab := buf.segtab ++ [(curSeg, entry)] }
      { buf' with segtab := buf'.segtab ++ [(curSeg, entry)] } :=
  ⟨h.segtabOffset, h.segnum, congrArg (· ++ [(curSeg, entry)]) h.segtab, h.libNames, h.tbtab, h.reltab,
    h.code⟩

/-- One more entry of a block. -/
theorem SameRest.addEntry (h : SameRest buf buf') (cur : ℕ) {t t' : AOTTB}
    (ht : t'.dropRange = t.dropRange) :
    SameRest { buf with tbtab := buf.tbtab ++ [(cur, t)] }
      { buf' with tbtab := buf'.tbtab ++ [(cur, t')] } := by
  refine ⟨h.segtabOffset, h.segnum, h.segtab, h.libNames, ?_, h.reltab, h.code⟩
  rw [List.map_append, List.map_append, h.tbtab, List.map_singleton, List.map_singleton, ht]

/-- The same relocations at the same places. -/
theorem sameRest_copyRels (rels : List RelSlot) (relBuf : ℕ) (h : SameRest w.buf w'.buf) :
    SameRest (TBWriter.copyRels rels relBuf w).buf (TBWriter.copyRels rels relBuf w').buf := by
  induction rels generalizing relBuf w w' with
  | nil => exact h
  | cons r rels ih =>
    rw [TBWriter.copyRels, TBWriter.copyRels]
    split_ifs with hv
    -- the counter decides on the offset of the table only
    all_goals first
      | exact ih _ h
      | exact ih _ ⟨h.segtabOffset, h.segnum, h.segtab, h.libNames, h.tbtab,
          congrArg (· ++ [(relBuf, r.rel)]) h.reltab, h.code⟩

/-- The same entry but for the range. -/
theorem sameRest_handleRels (tb : TB ι) (relBuf : ℕ) (target : AOTTB) (h : SameRest w.buf w'.buf) :
    (TBWriter.handleRels tb relBuf target w').1.dropRange =
        (TBWriter.handleRels tb relBuf target w).1.dropRange ∧
      SameRest (TBWriter.handleRels tb relBuf target w).2.buf
        (TBWriter.handleRels tb relBuf target w').2.buf := by
  rw [TBWriter.handleRels, TBWriter.handleRels, TBWriter.foldl_or_true]
  exact ⟨rfl, sameRest_copyRels tb.rels relBuf h⟩

/-- The blocks of a segment. -/
theorem sameRest_writeTBs (tbs : List (TB ι)) (cur relBuf insnPtr : ℕ) (h : SameRest w.buf w'.buf) :
    SameRest (TBWriter.writeTBs tbs cur relBuf insnPtr w).buf
      (TBWriter.writeTBs tbs cur relBuf insnPtr w').buf := by
  induction tbs generalizing cur relBuf insnPtr w w' with
  | nil => exact h
  | cons tb tbs ih =>
    rw [TBWriter.writeTBs, TBWriter.writeTBs]
    have hcode : SameRest
        (TBWriter.handleAssemble tb insnPtr (TBWriter.writeTbHelperFunction tb) w).2.buf
        (TBWriter.handleAssemble tb insnPtr (TBWriter.writeTbHelperFunction tb) w').2.buf :=
      ⟨h.segtabOffset, h.segnum, h.segtab, h.libNames, h.tbtab, h.reltab,
        congrArg (· ++ TBWriter.emit insnPtr tb.disInsns.nodes) h.code⟩
    obtain ⟨hentry, hrels⟩ := sameRest_handleRels tb relBuf
      (TBWriter.handleAssemble tb insnPtr (TBWriter.writeTbHelperFunction tb) w).1 hcode
    exact ih _ _ _ (hrels.addEntry cur hentry)

/-- A segment. -/
theorem sameRest_writeSegment (tbs : List (TB ι)) (tbBuf relBuf codeBuf : ℕ)
    (h : SameRest w.buf w'.buf) : SameRest (TBWriter.writeToBuf tbBuf relBuf codeBuf tbs w).buf
      (TBWriter.writeToBuf tbBuf relBuf codeBuf tbs w').buf := by
  have htbs := sameRest_writeTBs tbs tbBuf relBuf codeBuf h
  exact ⟨htbs.segtabOffset, htbs.segnum, htbs.segtab, htbs.libNames, htbs.tbtab, htbs.reltab, htbs.code⟩

/-- The segments. -/
theorem sameRest_writeSegments (segs : List (Segment (TB ι)))
    (curSeg segmentName tbTable relCur codeCur : ℕ) (h : SameRest w.buf w'.buf) :
    SameRest (SegmentsWriter.writeSegments segs curSeg segmentName tbTable relCur codeCur w).buf
      (SegmentsWriter.writeSegments segs curSeg segmentName tbTable relCur codeCur w').buf := by
  induction segs generalizing curSeg segmentName tbTable relCur codeCur w w' with
  | nil => exact h
  | cons seg segs ih =>
    rw [SegmentsWriter.writeSegments, SegmentsWriter.writeSegments]
    apply ih
    apply sameRest_writeSegment
    exact h.addSegment curSeg _

/-- **All else is the same** whatever was written before. -/
theorem sameRest_writeToBuf (file : Segments ι) (c c' : BitVec 32) :
    SameRest (AOTFileWriter.writeToBuf file c).buf (AOTFileWriter.writeToBuf file c').buf :=
  sameRest_writeSegments file _ _ _ _ _ (.refl _)

end SameRest

/-! ### What depends on it -/

/-- The segments, when the count in the header is not yet written. -/
theorem wrote_writeSegments_of_ne_nil {segs : List (Segment (TB ι))} (hne : segs ≠ [])
    (curSeg segmentName tbTable relCur codeCur : ℕ) {w : Writer} {c : ℕ}
    (h : w.relCurIndex = BitVec.ofNat 32 c) :
    Wrote c (segs.flatMap (·.tbs)) w
        (SegmentsWriter.writeSegments segs curSeg segmentName tbTable relCur codeCur w) ∧
      (SegmentsWriter.writeSegments segs curSeg segmentName tbTable relCur codeCur w).buf.hdr.reltableNum =
        BitVec.ofNat 32 (c + countRels (segs.flatMap (·.tbs))) := by
  cases segs with
  | nil => exact absurd rfl hne
  | cons seg segs =>
    obtain ⟨w', hseg, hnum, heq⟩ := SegmentsWriter.wrote_segment seg segs curSeg segmentName tbTable
      relCur codeCur h
    -- from here on the count is the counter
    obtain ⟨h1, h2⟩ := SegmentsWriter.wrote_writeSegments segs (curSeg + sizeofAOTSegment)
      (segmentName + PATH_MAX) (tbTable + sizeofAOTTB * seg.howManyTbs.toNat)
      (relCur + sizeofAOTRel * seg.howManyRel.toNat) (codeCur + seg.howManyCode.toNat)
      hseg.relCurIndex hnum
    rw [heq, List.flatMap_cons]
    exact ⟨hseg.trans h1, by rw [h2, countRels_append, Nat.add_assoc]⟩

namespace AOTFileWriter

/-- **What is written after `c` relocations**: the counter goes on, and so do the ranges. -/
theorem wrote_after {file : Segments ι} (hne : file ≠ []) (c : ℕ) :
    (writeToBuf file (BitVec.ofNat 32 c)).relCurIndex = BitVec.ofNat 32 (c + countRels file.blocks) ∧
      (writeToBuf file (BitVec.ofNat 32 c)).buf.ranges = indexRanges c file.blocks ∧
      (writeToBuf file (BitVec.ofNat 32 c)).buf.hdr.reltableNum =
        BitVec.ofNat 32 (c + countRels file.blocks) := by
  obtain ⟨w, nameBegin, nameEnd, relCur, codeCur, heq, hcur, hranges⟩ :
      ∃ (w : Writer) (nameBegin nameEnd relCur codeCur : ℕ), writeToBuf file (BitVec.ofNat 32 c) =
        SegmentsWriter.writeSegments file sizeofAOTHeader nameBegin nameEnd relCur codeCur w ∧
        w.relCurIndex = BitVec.ofNat 32 c ∧ w.buf.ranges = [] :=
    ⟨_, _, _, _, _, rfl, rfl, rfl⟩
  obtain ⟨h1, h2⟩ := wrote_writeSegments_of_ne_nil hne sizeofAOTHeader nameBegin nameEnd relCur codeCur
    hcur
  rw [heq]
  refine ⟨h1.relCurIndex, ?_, h2⟩
  rw [h1.ranges, hranges, List.nil_append]
  rfl

theorem relCurIndex_writeToBuf (file : Segments ι) (c : ℕ) :
    (writeToBuf file (BitVec.ofNat 32 c)).relCurIndex = BitVec.ofNat 32 (c + countRels file.blocks) := by
  by_cases hne : file = []
  · rw [hne]
    rfl
  · exact (wrote_after hne c).1

theorem ofNat_eq_zero_iff {c : ℕ} : BitVec.ofNat 32 c = 0 ↔ 2 ^ 32 ∣ c := by
  rw [← BitVec.toNat_inj, BitVec.toNat_ofNat, Nat.dvd_iff_mod_eq_zero]
  rfl

/-- **One file** gets what it gets as the first one if and only if the counter is 0 again or it has
no segment. -/
theorem relFields_writeToBuf_iff (file : Segments ι) (c : ℕ) :
    (writeToBuf file (BitVec.ofNat 32 c)).buf.relFields = (writeToBuf file 0).buf.relFields ↔
      file = [] ∨ 2 ^ 32 ∣ c := by
  constructor
  · intro h
    by_cases hne : file = []
    · exact .inl hne
    · have hnum : BitVec.ofNat 32 (c + countRels file.blocks) = BitVec.ofNat 32 (countRels file.blocks) := by
        rw [← (wrote_after hne c).2.2, ← Nat.zero_add (countRels file.blocks), ← (wrote_after hne 0).2.2]
        exact congrArg (fun f => f.2.1) h
      rw [BitVec.ofNat_add, BitVec.add_left_eq_self] at hnum
      exact .inr (ofNat_eq_zero_iff.mp hnum)
  · rintro (rfl | hdvd)
    · rfl
    · rw [ofNat_eq_zero_iff.mpr hdvd]

/-- The files of a sequence, after `c` relocations. -/
theorem relFields_writeFrom_iff (files : List (Segments ι)) (c : ℕ) :
    (writeFrom files (BitVec.ofNat 32 c)).map OutBuf.relFields =
        files.map (fun file => (writeToBuf file 0).buf.relFields) ↔
      ∀ before file behind, files = before ++ file :: behind →
        file = [] ∨ 2 ^ 32 ∣ c + countRels (before.flatMap Segments.blocks) := by
  induction files generalizing c with
  | nil => simp [writeFrom]
  | cons file files ih =>
    rw [writeFrom, List.map_cons, List.map_cons, List.cons.injEq, relFields_writeToBuf_iff,
      relCurIndex_writeToBuf, ih]
    constructor
    · rintro ⟨hfile, hfiles⟩ before file' behind heq
      rcases List.cons_eq_append_iff.mp heq with ⟨rfl, heq⟩ | ⟨before, rfl, heq⟩
      · obtain ⟨rfl, -⟩ := List.cons.inj heq
        exact hfile
      · rw [List.flatMap_cons, countRels_append, ← Nat.add_assoc]
        exact hfiles before file' behind (List.cons.inj heq).2
    · intro h
      refine ⟨h [] file files rfl, fun before file' behind heq => ?_⟩
      have := h (file :: before) file' behind (by rw [heq, List.cons_append])
      rwa [List.flatMap_cons, countRels_append, ← Nat.add_assoc] at this

/-- **Files one after another** are all written as if they came first if and only if a file that has a
segment comes only where the number of relocations written before it is a multiple of `2 ^ 32`. -/
theorem independent_iff (files : List (Segments ι)) : Independent files ↔
    ∀ before file behind, files = before ++ file :: behind →
      file = [] ∨ 2 ^ 32 ∣ countRels (before.flatMap Segments.blocks) := by
  have h := relFields_writeFrom_iff files 0
  simp only [Nat.zero_add] at h
  exact h

/-- A file with one block with a relocation. -/
def oneRelFile : Segments ℕ := [⟨default, [], [blockWithRel]⟩]

/-- The same file twice: the second time its relocation has index 1, the header counts two of them, and
does not say where they are. -/
theorem not_independent_twice : (writeFiles [oneRelFile, oneRelFile]).map OutBuf.relFields =
      [(4248, 1, [(0, 0)]), (0, 2, [(1, 1)])] ∧ ¬Independent [oneRelFile, oneRelFile] := by
  refine ⟨by decide, ?_⟩
  unfold Independent
  decide

end AOTFileWriter

end AotOpt
