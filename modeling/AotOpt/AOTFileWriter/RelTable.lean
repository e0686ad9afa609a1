import AotOpt.AOTFileWriter.AOTFileWriter
import AotOpt.Vistor.AddRels

/-!
# The relocation table

The relocations of all blocks are written one after another, and each block gets the range
of its own as the first and the last index. The range of a block without a valid relocation
ends one before it starts; when no relocation was written before it, that is at index
`-1`, which is read back as the largest index there is.

* `AOTFileWriter.wrote_writeToBuf` — what is written: the valid relocations in order, and
  the range of each block (`indexRanges`).
* `AOTFileWriter.placed_writeToBuf` — where: one behind the other from `reltable_offset` on.
* `rangeOk_of_pos`, `rangeOk_of_empty`, `not_rangeOk_first`, `not_rangeOk_crossing` — which
  ranges are read back as they were written.
* `relTable_reads_back_iff` — every block gets its own relocations back if and only if the
  first block has a valid one and there are at most `2 ^ 31` in all.
-/

namespace AotOpt

open AddRelsVistor

variable {ι : Type}

/-- The valid relocations of a block, in order. -/
def TB.validRels (tb : TB ι) : List AOTRel := (tb.rels.filter (·.valid)).map (·.rel)

/-- How many valid relocations the blocks have. -/
def countRels (tbs : List (TB ι)) : ℕ := (tbs.flatMap TB.validRels).length

theorem countRels_cons (tb : TB ι) (tbs : List (TB ι)) :
    countRels (tb :: tbs) = tb.validRels.length + countRels tbs := by simp [countRels]

theorem countRels_append (tbs tbs' : List (TB ι)) :
    countRels (tbs ++ tbs') = countRels tbs + countRels tbs' := by simp [countRels]

/-- The range that is written for a block with `n` valid relocations, after `c` others. -/
def indexRange (c n : ℕ) : BitVec 32 × BitVec 32 := (BitVec.ofNat 32 c, BitVec.ofNat 32 (c + n) - 1)

/-- The ranges that are written for the blocks, after `c` relocations. -/
def indexRanges : ℕ → List (TB ι) → List (BitVec 32 × BitVec 32)
  | _, [] => []
  | c, tb :: tbs => indexRange c tb.validRels.length :: indexRanges (c + tb.validRels.length) tbs

theorem indexRanges_append : ∀ (c : ℕ) (tbs tbs' : List (TB ι)),
    indexRanges c (tbs ++ tbs') = indexRanges c tbs ++ indexRanges (c + countRels tbs) tbs'
  | _, [], _ => rfl
  | c, tb :: tbs, tbs' => by
    rw [List.cons_append, indexRanges, indexRanges_append, indexRanges, List.cons_append,
      countRels_cons, Nat.add_assoc]

/-- `rel_start_index` and `rel_end_index`. -/
def AOTTB.indices (t : AOTTB) : BitVec 32 × BitVec 32 := (t.relStartIndex, t.relEndIndex)

/-! ### What is written -/

/-- The relocations that were written. -/
def OutBuf.relocs (buf : OutBuf) : List AOTRel := buf.reltab.map (·.2)

/-- The ranges that were written. -/
def OutBuf.ranges (buf : OutBuf) : List (BitVec 32 × BitVec 32) := buf.tbtab.map (·.2.indices)

/-- The writer wrote the blocks `tbs`, after `c` relocations, from state `w` to `w'`. -/
structure Wrote (c : ℕ) (tbs : List (TB ι)) (w w' : Writer) : Prop where
  relCurIndex : w'.relCurIndex = BitVec.ofNat 32 (c + countRels tbs)
  relocs : w'.buf.relocs = w.buf.relocs ++ tbs.flatMap TB.validRels
  ranges : w'.buf.ranges = w.buf.ranges ++ indexRanges c tbs

theorem Wrote.refl {c : ℕ} {w : Writer} (h : w.relCurIndex = BitVec.ofNat 32 c) :
    Wrote c ([] : List (TB ι)) w w := by
  constructor <;> simp [h, countRels, indexRanges]

theorem Wrote.trans {c : ℕ} {tbs tbs' : List (TB ι)} {w w' w'' : Writer} (h : Wrote c tbs w w')
    (h' : Wrote (c + countRels tbs) tbs' w' w'') : Wrote c (tbs ++ tbs') w w'' where
  relCurIndex := by rw [h'.relCurIndex, countRels_append, Nat.add_assoc]
  relocs := by rw [h'.relocs, h.relocs, List.flatMap_append, List.append_assoc]
  ranges := by rw [h'.ranges, h.ranges, indexRanges_append, List.append_assoc]

namespace TBWriter

/-- `any_valid` is `true` from the start. -/
theorem foldl_or_true (rels : List RelSlot) :
    rels.foldl (fun any r => any || r.valid) true = true := by
  induction rels with
  | nil => rfl
  | cons r rels ih => simpa using ih

/-- What the loop adds to the table, and the index it ends with. -/
theorem copyRels_relocs : ∀ (rels : List RelSlot) (relBuf : ℕ) (w : Writer),
    (copyRels rels relBuf w).relCurIndex =
        w.relCurIndex + BitVec.ofNat 32 (rels.filter (·.valid)).length ∧
      (copyRels rels relBuf w).buf.relocs =
        w.buf.relocs ++ (rels.filter (·.valid)).map (·.rel) ∧
      (copyRels rels relBuf w).buf.tbtab = w.buf.tbtab
  | [], _, w => by simp [copyRels]
  | r :: rels, relBuf, w => by
    rw [copyRels]
    by_cases hv : r.valid
    · rw [if_pos hv, List.filter_cons_of_pos hv]
      obtain ⟨h1, h2, h3⟩ := copyRels_relocs rels (relBuf + sizeofAOTRel) _
      refine ⟨h1.trans ?_, h2.trans ?_, h3⟩
      · rw [List.length_cons, Nat.add_comm _ 1, BitVec.ofNat_add, ← BitVec.add_assoc]
        rfl
      · simp [OutBuf.relocs]
    · rw [if_neg hv, List.filter_cons_of_neg hv]
      exact copyRels_relocs rels relBuf w

/-- One block. -/
theorem wrote_handleRels (tb : TB ι) (relBuf cur : ℕ) (target : AOTTB) {w : Writer} {c : ℕ}
    (h : w.relCurIndex = BitVec.ofNat 32 c) :
    Wrote c [tb] w
      { (handleRels tb relBuf target w).2 with
        buf := { (handleRels tb relBuf target w).2.buf with
          tbtab := (handleRels tb relBuf target w).2.buf.tbtab ++
            [(cur, (handleRels tb relBuf target w).1)] } } := by
  obtain ⟨h1, h2, h3⟩ := copyRels_relocs tb.rels relBuf w
  have hlen : (tb.rels.filter (·.valid)).length = tb.validRels.length := by simp [TB.validRels]
  have hcur : (copyRels tb.rels relBuf w).relCurIndex =
      BitVec.ofNat 32 (c + tb.validRels.length) := by
    rw [h1, h, hlen, ← BitVec.ofNat_add]
  rw [handleRels, foldl_or_true]
  simp only [Bool.not_true, Bool.false_eq_true, if_false]
  refine ⟨?_, ?_, ?_⟩
  · rw [hcur]
    simp [countRels]
  · simpa [OutBuf.relocs, TB.validRels] using h2
  · simp only [OutBuf.ranges, h3, List.map_append, List.map_cons, List.map_nil, indexRanges,
      indexRange, AOTTB.indices, hcur, h]

/-- The blocks of a segment. -/
theorem wrote_writeTBs : ∀ (tbs : List (TB ι)) (cur relBuf insnPtr : ℕ) {w : Writer} {c : ℕ},
    w.relCurIndex = BitVec.ofNat 32 c → Wrote c tbs w (writeTBs tbs cur relBuf insnPtr w)
  | [], _, _, _, _, _, h => .refl h
  | tb :: tbs, cur, relBuf, insnPtr, w, c, h => by
    rw [writeTBs]
    -- assembling the code writes neither the table nor the ranges
    have hone := wrote_handleRels tb relBuf cur
      (handleAssemble tb insnPtr (writeTbHelperFunction tb) w).1
      (w := (handleAssemble tb insnPtr (writeTbHelperFunction tb) w).2) h
    have hone' : Wrote c [tb] w _ := ⟨hone.relCurIndex, hone.relocs, hone.ranges⟩
    have hcount : c + countRels [tb] = c + countRels [tb] := rfl
    exact hone'.trans (wrote_writeTBs tbs _ _ _ hone.relCurIndex)

theorem wrote_writeToBuf (tbs : List (TB ι)) (tbBuf relBuf codeBuf : ℕ) {w : Writer} {c : ℕ}
    (h : w.relCurIndex = BitVec.ofNat 32 c) : Wrote c tbs w (writeToBuf tbBuf relBuf codeBuf tbs w) :=
  have hw := wrote_writeTBs tbs tbBuf relBuf codeBuf h
  ⟨hw.relCurIndex, hw.relocs, hw.ranges⟩

end TBWriter

/-- One segment: its blocks are written, and the header has the counter as the number. -/
theorem SegmentsWriter.wrote_segment (seg : Segment (TB ι)) (segs : List (Segment (TB ι)))
    (curSeg segmentName tbTable relCur codeCur : ℕ) {w : Writer} {c : ℕ}
    (h : w.relCurIndex = BitVec.ofNat 32 c) :
    ∃ w' : Writer, Wrote c seg.tbs w w' ∧ w'.buf.hdr.reltableNum = w'.relCurIndex ∧
      writeSegments (seg :: segs) curSeg segmentName tbTable relCur codeCur w =
        writeSegments segs (curSeg + sizeofAOTSegment) (segmentName + PATH_MAX)
          (tbTable + sizeofAOTTB * seg.howManyTbs.toNat)
          (relCur + sizeofAOTRel * seg.howManyRel.toNat) (codeCur + seg.howManyCode.toNat) w' := by
  -- the entry of the segment is neither a relocation nor a range
  obtain ⟨w₁, heq, hcur, hrelocs, hranges⟩ : ∃ w₁ : Writer,
      writeSegments (seg :: segs) curSeg segmentName tbTable relCur codeCur w =
        writeSegments segs (curSeg + sizeofAOTSegment) (segmentName + PATH_MAX)
          (tbTable + sizeofAOTTB * seg.howManyTbs.toNat)
          (relCur + sizeofAOTRel * seg.howManyRel.toNat) (codeCur + seg.howManyCode.toNat)
          (TBWriter.writeToBuf tbTable relCur codeCur seg.tbs w₁) ∧
        w₁.relCurIndex = w.relCurIndex ∧ w₁.buf.relocs = w.buf.relocs ∧
        w₁.buf.ranges = w.buf.ranges := ⟨_, rfl, rfl, rfl, rfl⟩
  have hseg := TBWriter.wrote_writeToBuf seg.tbs tbTable relCur codeCur (hcur.trans h)
  exact ⟨_, ⟨hseg.relCurIndex, hrelocs ▸ hseg.relocs, hranges ▸ hseg.ranges⟩, rfl, heq⟩

/-- The segments. -/
theorem SegmentsWriter.wrote_writeSegments : ∀ (segs : List (Segment (TB ι)))
    (curSeg segmentName tbTable relCur codeCur : ℕ) {w : Writer} {c : ℕ},
    w.relCurIndex = BitVec.ofNat 32 c → w.buf.hdr.reltableNum = w.relCurIndex →
      Wrote c (segs.flatMap (·.tbs)) w
          (writeSegments segs curSeg segmentName tbTable relCur codeCur w) ∧
        (writeSegments segs curSeg segmentName tbTable relCur codeCur w).buf.hdr.reltableNum =
          BitVec.ofNat 32 (c + countRels (segs.flatMap (·.tbs)))
  | [], _, _, _, _, _, _, _, h, hnum => ⟨.refl h, by rw [writeSegments, hnum, h]; rfl⟩
  | seg :: segs, curSeg, segmentName, tbTable, relCur, codeCur, w, c, h, _ => by
    obtain ⟨w', hseg, hnum', heq⟩ := wrote_segment seg segs curSeg segmentName tbTable relCur codeCur h
    obtain ⟨h1, h2⟩ := wrote_writeSegments segs (curSeg + sizeofAOTSegment)
      (segmentName + PATH_MAX) (tbTable + sizeofAOTTB * seg.howManyTbs.toNat)
      (relCur + sizeofAOTRel * seg.howManyRel.toNat) (codeCur + seg.howManyCode.toNat)
      hseg.relCurIndex hnum'
    rw [heq, List.flatMap_cons]
    exact ⟨hseg.trans h1, by rw [h2, countRels_append, Nat.add_assoc]⟩

/-- **What the first `write_to_buf` of a process writes**: the valid relocations of all
blocks in order, their number, and the range of each block. -/
theorem AOTFileWriter.wrote_writeToBuf (segs : List (Segment (TB ι))) :
    (writeToBuf segs 0).buf.relocs = (segs.flatMap (·.tbs)).flatMap TB.validRels ∧
      (writeToBuf segs 0).buf.ranges = indexRanges 0 (segs.flatMap (·.tbs)) ∧
      (writeToBuf segs 0).buf.hdr.reltableNum =
        BitVec.ofNat 32 (countRels (segs.flatMap (·.tbs))) := by
  obtain ⟨w, nameBegin, nameEnd, relCur, codeCur, heq, hcur, hnum, hrelocs, hranges⟩ :
      ∃ (w : Writer) (nameBegin nameEnd relCur codeCur : ℕ), writeToBuf segs 0 =
        SegmentsWriter.writeSegments segs sizeofAOTHeader nameBegin nameEnd relCur codeCur w ∧
        w.relCurIndex = BitVec.ofNat 32 0 ∧ w.buf.hdr.reltableNum = w.relCurIndex ∧
        w.buf.relocs = [] ∧ w.buf.ranges = [] :=
    ⟨_, _, _, _, _, rfl, rfl, rfl, rfl, rfl⟩
  obtain ⟨h1, h2⟩ := SegmentsWriter.wrote_writeSegments segs sizeofAOTHeader nameBegin nameEnd
    relCur codeCur hcur hnum
  rw [heq]
  refine ⟨?_, ?_, ?_⟩
  · rw [h1.relocs, hrelocs, List.nil_append]
  · rw [h1.ranges, hranges, List.nil_append]
  · rw [h2, Nat.zero_add]

/-! ### Where it is written -/

/-- The entries of the table, from byte `start` on. -/
def entriesFrom : ℕ → List AOTRel → List (ℕ × AOTRel)
  | _, [] => []
  | start, r :: rels => (start, r) :: entriesFrom (start + sizeofAOTRel) rels

theorem entriesFrom_append : ∀ (start : ℕ) (rels rels' : List AOTRel),
    entriesFrom start (rels ++ rels') =
      entriesFrom start rels ++ entriesFrom (start + sizeofAOTRel * rels.length) rels'
  | _, [], _ => rfl
  | start, r :: rels, rels' => by
    rw [List.cons_append, entriesFrom, entriesFrom_append, entriesFrom, List.cons_append,
      List.length_cons, Nat.mul_succ, Nat.add_assoc, Nat.add_comm sizeofAOTRel]

/-- The writer placed the relocations of the blocks from `start` on, after `c` others; the
very first one is where the header says that the table starts. -/
structure Placed (c start : ℕ) (tbs : List (TB ι)) (w w' : Writer) : Prop where
  reltab : w'.buf.reltab = w.buf.reltab ++ entriesFrom start (tbs.flatMap TB.validRels)
  offset : w'.buf.hdr.reltableOffset =
    if c = 0 ∧ 0 < countRels tbs then BitVec.ofNat 32 start else w.buf.hdr.reltableOffset

theorem Placed.refl (c start : ℕ) (w : Writer) : Placed c start ([] : List (TB ι)) w w := by
  constructor <;> simp [countRels, entriesFrom]

theorem Placed.trans {c start start' : ℕ} {tbs tbs' : List (TB ι)} {w w' w'' : Writer}
    (h : Placed c start tbs w w') (hstart : start' = start + sizeofAOTRel * countRels tbs)
    (h' : Placed (c + countRels tbs) start' tbs' w' w'') :
    Placed c start (tbs ++ tbs') w w'' where
  reltab := by
    rw [h'.reltab, h.reltab, hstart, List.flatMap_append, entriesFrom_append, List.append_assoc]
    rfl
  offset := by
    rw [h'.offset, h.offset, countRels_append]
    by_cases h0 : countRels tbs = 0
    · simp [h0, hstart]
    · have hp : 0 < countRels tbs := Nat.pos_of_ne_zero h0
      have hp' : 0 < countRels tbs + countRels tbs' := by omega
      have hne : ¬(c + countRels tbs = 0 ∧ 0 < countRels tbs') := by omega
      rw [if_neg hne]
      simp only [hp, hp']

theorem TB.toNat_howManyRel {tb : TB ι} (h : tb.validRels.length < 2 ^ 32) :
    tb.howManyRel.toNat = tb.validRels.length := by
  have hcount : tb.rels.countP (·.valid) = tb.validRels.length := by
    simp [TB.validRels, List.countP_eq_length_filter]
  rw [TB.howManyRel, hcount, BitVec.toNat_ofNat, Nat.mod_eq_of_lt h]

theorem Segment.toNat_howManyRel {seg : Segment (TB ι)} (h : countRels seg.tbs < 2 ^ 32) :
    seg.howManyRel.toNat = countRels seg.tbs := by
  have hsum : ∀ {tbs : List (TB ι)}, countRels tbs < 2 ^ 32 →
      ((tbs.map TB.howManyRel).sum).toNat = countRels tbs := by
    intro tbs
    induction tbs with
    | nil => intro; rfl
    | cons tb tbs ih =>
      intro h
      rw [countRels_cons] at h ⊢
      rw [List.map_cons, List.sum_cons, BitVec.toNat_add, TB.toNat_howManyRel (by omega),
        ih (by omega), Nat.mod_eq_of_lt h]
  exact hsum h

namespace TBWriter

/-- Only the relocations and the place of the table are written. -/
theorem copyRels_placed : ∀ (rels : List RelSlot) (relBuf : ℕ) (w : Writer) {c : ℕ},
    w.relCurIndex = BitVec.ofNat 32 c → c + (rels.filter (·.valid)).length < 2 ^ 32 →
      (copyRels rels relBuf w).buf.reltab =
          w.buf.reltab ++ entriesFrom relBuf ((rels.filter (·.valid)).map (·.rel)) ∧
        (copyRels rels relBuf w).buf.hdr.reltableOffset =
          if c = 0 ∧ 0 < (rels.filter (·.valid)).length then BitVec.ofNat 32 relBuf
          else w.buf.hdr.reltableOffset
  | [], _, w, c, _, _ => by simp [copyRels, entriesFrom]
  | r :: rels, relBuf, w, c, h, hlt => by
    rw [copyRels]
    by_cases hv : r.valid
    · have hcons : (r :: rels).filter (·.valid) = r :: rels.filter (·.valid) :=
        List.filter_cons_of_pos hv
      rw [hcons, List.length_cons] at hlt ⊢
      rw [if_pos hv, List.map_cons, entriesFrom]
      have hzero : w.relCurIndex = 0 ↔ c = 0 := by
        rw [h, ← BitVec.toNat_inj, BitVec.toNat_ofNat, Nat.mod_eq_of_lt (by omega)]
        rfl
      have hnext : w.relCurIndex + 1 = BitVec.ofNat 32 (c + 1) := by
        rw [h, BitVec.ofNat_add]
        rfl
      obtain ⟨h1, h2⟩ := copyRels_placed rels (relBuf + sizeofAOTRel)
        { buf := { w.buf with
            hdr := if w.relCurIndex = 0 then
              { w.buf.hdr with reltableOffset := BitVec.ofNat 32 relBuf } else w.buf.hdr
            reltab := w.buf.reltab ++ [(relBuf, r.rel)] }
          relCurIndex := w.relCurIndex + 1 } hnext (by omega)
      refine ⟨h1.trans (by simp), h2.trans ?_⟩
      simp only [Nat.add_one_ne_zero, false_and, if_false, hzero, Nat.zero_lt_succ, and_true]
      split_ifs <;> rfl
    · have hcons : (r :: rels).filter (·.valid) = rels.filter (·.valid) :=
        List.filter_cons_of_neg hv
      rw [hcons] at hlt ⊢
      rw [if_neg hv]
      exact copyRels_placed rels relBuf w h hlt

/-- One block. -/
theorem placed_handleRels (tb : TB ι) (relBuf cur : ℕ) (target : AOTTB) {w : Writer} {c : ℕ}
    (h : w.relCurIndex = BitVec.ofNat 32 c) (hlt : c + tb.validRels.length < 2 ^ 32) :
    Placed c relBuf [tb] w
      { (handleRels tb relBuf target w).2 with
        buf := { (handleRels tb relBuf target w).2.buf with
          tbtab := (handleRels tb relBuf target w).2.buf.tbtab ++
            [(cur, (handleRels tb relBuf target w).1)] } } := by
  have hlen : (tb.rels.filter (·.valid)).length = tb.validRels.length := by simp [TB.validRels]
  have hone : countRels [tb] = tb.validRels.length := by simp [countRels]
  obtain ⟨h1, h2⟩ := copyRels_placed tb.rels relBuf w h (by omega)
  rw [handleRels, foldl_or_true]
  simp only [Bool.not_true, Bool.false_eq_true, if_false]
  refine ⟨by simpa [TB.validRels] using h1, ?_⟩
  rw [hone, ← hlen]
  exact h2

/-- The blocks of a segment. -/
theorem placed_writeTBs : ∀ (tbs : List (TB ι)) (cur relBuf insnPtr : ℕ) {w : Writer} {c : ℕ},
    w.relCurIndex = BitVec.ofNat 32 c → c + countRels tbs < 2 ^ 32 →
      Placed c relBuf tbs w (writeTBs tbs cur relBuf insnPtr w)
  | [], _, _, _, w, c, _, _ => .refl c _ w
  | tb :: tbs, cur, relBuf, insnPtr, w, c, h, hlt => by
    rw [countRels_cons] at hlt
    rw [writeTBs]
    have hone : countRels [tb] = tb.validRels.length := by simp [countRels]
    have hcur := (wrote_handleRels tb relBuf cur
      (handleAssemble tb insnPtr (writeTbHelperFunction tb) w).1
      (w := (handleAssemble tb insnPtr (writeTbHelperFunction tb) w).2) h).relCurIndex
    have hfirst := placed_handleRels tb relBuf cur
      (handleAssemble tb insnPtr (writeTbHelperFunction tb) w).1
      (w := (handleAssemble tb insnPtr (writeTbHelperFunction tb) w).2) h (by omega)
    have hfirst' : Placed c relBuf [tb] w _ := ⟨hfirst.reltab, hfirst.offset⟩
    refine hfirst'.trans ?_ (placed_writeTBs tbs _ _ _ hcur (by omega))
    rw [hone, TB.toNat_howManyRel (by omega)]

theorem placed_writeToBuf (tbs : List (TB ι)) (tbBuf relBuf codeBuf : ℕ) {w : Writer} {c : ℕ}
    (h : w.relCurIndex = BitVec.ofNat 32 c) (hlt : c + countRels tbs < 2 ^ 32) :
    Placed c relBuf tbs w (writeToBuf tbBuf relBuf codeBuf tbs w) :=
  have hw := placed_writeTBs tbs tbBuf relBuf codeBuf h hlt
  ⟨hw.reltab, hw.offset⟩

end TBWriter

/-- The segments. -/
theorem SegmentsWriter.placed_writeSegments : ∀ (segs : List (Segment (TB ι)))
    (curSeg segmentName tbTable relCur codeCur : ℕ) {w : Writer} {c : ℕ},
    w.relCurIndex = BitVec.ofNat 32 c → c + countRels (segs.flatMap (·.tbs)) < 2 ^ 32 →
      Placed c relCur (segs.flatMap (·.tbs)) w
        (writeSegments segs curSeg segmentName tbTable relCur codeCur w)
  | [], _, _, _, relCur, _, w, c, _, _ => .refl c relCur w
  | seg :: segs, curSeg, segmentName, tbTable, relCur, codeCur, w, c, h, hlt => by
    rw [List.flatMap_cons, countRels_append] at hlt
    obtain ⟨w₁, heq, hcur, hreltab, hoffset⟩ : ∃ w₁ : Writer,
        writeSegments (seg :: segs) curSeg segmentName tbTable relCur codeCur w =
          writeSegments segs (curSeg + sizeofAOTSegment) (segmentName + PATH_MAX)
            (tbTable + sizeofAOTTB * seg.howManyTbs.toNat)
            (relCur + sizeofAOTRel * seg.howManyRel.toNat) (codeCur + seg.howManyCode.toNat)
            (TBWriter.writeToBuf tbTable relCur codeCur seg.tbs w₁) ∧
          w₁.relCurIndex = w.relCurIndex ∧ w₁.buf.reltab = w.buf.reltab ∧
          w₁.buf.hdr.reltableOffset = w.buf.hdr.reltableOffset := ⟨_, rfl, rfl, rfl, rfl⟩
    have hwrote := TBWriter.wrote_writeToBuf seg.tbs tbTable relCur codeCur (hcur.trans h)
    have hseg := TBWriter.placed_writeToBuf seg.tbs tbTable relCur codeCur (hcur.trans h) (by omega)
    have hseg' : Placed c relCur seg.tbs w (TBWriter.writeToBuf tbTable relCur codeCur seg.tbs w₁) :=
      ⟨hreltab ▸ hseg.reltab, hoffset ▸ hseg.offset⟩
    rw [heq, List.flatMap_cons]
    refine hseg'.trans ?_ (placed_writeSegments segs _ _ _ _ _ hwrote.relCurIndex (by omega))
    rw [Segment.toNat_howManyRel (by omega)]

/-- **Where the relocations are written**: one behind the other, and the header says where
the first one is. -/
theorem AOTFileWriter.placed_writeToBuf (segs : List (Segment (TB ι)))
    (h : countRels (segs.flatMap (·.tbs)) < 2 ^ 32) :
    ∃ start, (writeToBuf segs 0).buf.reltab =
        entriesFrom start ((segs.flatMap (·.tbs)).flatMap TB.validRels) ∧
      (0 < countRels (segs.flatMap (·.tbs)) →
        (writeToBuf segs 0).buf.hdr.reltableOffset = BitVec.ofNat 32 start) := by
  obtain ⟨w, nameBegin, nameEnd, relCur, codeCur, heq, hcur, hreltab⟩ :
      ∃ (w : Writer) (nameBegin nameEnd relCur codeCur : ℕ), writeToBuf segs 0 =
        SegmentsWriter.writeSegments segs sizeofAOTHeader nameBegin nameEnd relCur codeCur w ∧
        w.relCurIndex = BitVec.ofNat 32 0 ∧ w.buf.reltab = [] :=
    ⟨_, _, _, _, _, rfl, rfl, rfl⟩
  have hw := SegmentsWriter.placed_writeSegments segs sizeofAOTHeader nameBegin nameEnd relCur
    codeCur hcur (by omega)
  refine ⟨relCur, ?_, fun hp => ?_⟩
  · rw [heq, hw.reltab, hreltab, List.nil_append]
  · rw [heq, hw.offset, if_pos ⟨rfl, hp⟩]

/-! ### Reading it back -/

/-- The relocation table: the `reltable_num` entries from the first one on. -/
def Writer.relTable (w : Writer) : List AOTRel := w.buf.relocs.take w.buf.hdr.reltableNum.toNat

/-- Space can be reserved for the entries of the range, and they are the relocations. -/
def RangeOk (table : List AOTRel) (rels : List AOTRel) (range : BitVec 32 × BitVec 32) : Prop :=
  Reservable (range.1.signExtend 64) (range.2.signExtend 64) ∧
    loop table (range.2.signExtend 64) (table.length + 1) (range.1.signExtend 64) =
      .ok (rels.map (⟨·, true⟩))

instance (table rels : List AOTRel) (range : BitVec 32 × BitVec 32) :
    Decidable (RangeOk table rels range) :=
  inferInstanceAs (Decidable (_ ∧ _))

/-- **A block is read back**: the visit of the block that is made of the written entry ends, and
gives the block its valid relocations. -/
def ReadsBack (table : List AOTRel) (tb : TB ι) (entry : AOTTB) : Prop :=
  ∀ (code : Code) (x86Addr : BitVec 64), ∃ tb' : TB ι,
    visit table (TB.new entry code x86Addr) = .ok tb' ∧ tb'.rels = tb.validRels.map (⟨·, true⟩)

theorem readsBack_iff {table : List AOTRel} {tb : TB ι} {entry : AOTTB} :
    ReadsBack table tb entry ↔ RangeOk table tb.validRels entry.indices := by
  constructor
  · intro h
    obtain ⟨tb', hvisit, hrels⟩ := h .empty 0
    obtain ⟨hreserve, new, hnew, rfl⟩ := visit_eq_ok.mp hvisit
    rw [RangeOk, ← hrels]
    exact ⟨hreserve, hnew⟩
  · intro h code x86Addr
    exact ⟨_, visit_eq_ok.mpr ⟨h.1, _, h.2, rfl⟩, rfl⟩

section Ranges

variable {table rels : List AOTRel} {c n : ℕ}

theorem toNat_signExtend_of_lt {x : BitVec 32} (h : x.toNat < 2 ^ 31) :
    (x.signExtend 64).toNat = x.toNat := by
  have hmsb : x.msb = false := by rw [BitVec.msb_eq_false_iff_two_mul_lt]; omega
  rw [BitVec.toNat_signExtend, hmsb, BitVec.toNat_setWidth]
  simp only [Bool.false_eq_true, if_false]
  omega

theorem le_toNat_signExtend {x : BitVec 32} (h : 2 ^ 31 ≤ x.toNat) :
    2 ^ 32 ≤ (x.signExtend 64).toNat := by
  have hmsb : x.msb = true := by rw [BitVec.msb_eq_true_iff_two_mul_ge]; omega
  rw [BitVec.toNat_signExtend, hmsb]
  simp only [if_true]
  omega

theorem toNat_ofNat_sub_one (hc : 0 < c) (hlt : c < 2 ^ 32) :
    (BitVec.ofNat 32 c - 1).toNat = c - 1 := by
  have h1 : (1 : BitVec 32).toNat = 1 := rfl
  rw [BitVec.toNat_sub, BitVec.toNat_ofNat, h1]
  omega

/-- A range that is not empty is read back when its indices are not negative. -/
theorem rangeOk_of_pos (htable : table.length ≤ 2 ^ 31) (hn : 0 < rels.length)
    (hslice : (table.drop c).take rels.length = rels) (hin : c + rels.length ≤ table.length) :
    RangeOk table rels (indexRange c rels.length) := by
  have hstart : ((BitVec.ofNat 32 c).signExtend 64).toNat = c := by
    have hc : (BitVec.ofNat 32 c).toNat = c := Nat.mod_eq_of_lt (by omega)
    rw [toNat_signExtend_of_lt (by omega), hc]
  have hend : ((BitVec.ofNat 32 (c + rels.length) - 1).signExtend 64).toNat =
      c + rels.length - 1 := by
    have hc := toNat_ofNat_sub_one (c := c + rels.length) (by omega) (by omega)
    rw [toNat_signExtend_of_lt (by omega), hc]
  have hloop : loop table ((BitVec.ofNat 32 (c + rels.length) - 1).signExtend 64)
      (table.length + 1) ((BitVec.ofNat 32 c).signExtend 64) =
        .ok (((table.drop ((BitVec.ofNat 32 c).signExtend 64).toNat).take rels.length).map
          (⟨·, true⟩)) :=
    loop_ok (by omega) (by omega) (by omega) (by omega)
  rw [hstart, hslice] at hloop
  have hmax : 2 ^ 31 ≤ maxSizeRels := by decide
  refine ⟨reservable_of_count ?_ (by omega : rels.length ≤ maxSizeRels), hloop⟩
  simp only [indexRange]
  omega

/-- The empty range after some other relocation is read back. -/
theorem rangeOk_of_empty (hc : 0 < c) (hle : c ≤ 2 ^ 31) : RangeOk table [] (indexRange c 0) := by
  have hstart : c ≤ ((BitVec.ofNat 32 c).signExtend 64).toNat := by
    have h32 : (BitVec.ofNat 32 c).toNat = c := Nat.mod_eq_of_lt (by omega)
    by_cases h : c = 2 ^ 31
    · have := le_toNat_signExtend (x := BitVec.ofNat 32 c) (by omega)
      omega
    · rw [toNat_signExtend_of_lt (by omega), h32]
  have hend : ((BitVec.ofNat 32 (c + 0) - 1).signExtend 64).toNat = c - 1 := by
    have h32 := toNat_ofNat_sub_one hc (by omega)
    rw [Nat.add_zero, toNat_signExtend_of_lt (by omega), h32]
  have hlt : ¬(BitVec.ofNat 32 c).signExtend 64 ≤
      (BitVec.ofNat 32 (c + 0) - 1).signExtend 64 := by
    rw [BitVec.le_def]
    omega
  refine ⟨?_, by rw [indexRange, loop, if_neg hlt]; rfl⟩
  by_cases h : c = 2 ^ 31
  · -- the start is negative, and the end is not
    rw [h]
    decide
  · have hc32 : (BitVec.ofNat 32 c).toNat = c := Nat.mod_eq_of_lt (by omega)
    have hstart' := toNat_signExtend_of_lt (x := BitVec.ofNat 32 c) (by omega)
    refine reservable_of_count ?_ (Nat.zero_le _)
    simp only [indexRange]
    omega

/-- The empty range before any relocation ends at `-1`, and is not read back. -/
theorem not_rangeOk_first (htable : table.length < 2 ^ 32) :
    ¬RangeOk table [] (indexRange 0 0) := by
  intro h
  rcases loop_eq_ok (by omega) h.2 with ⟨hlt, -⟩ | ⟨-, hin, -⟩
  · exact absurd hlt (by decide)
  · have hend : ((indexRange 0 0).2.signExtend 64).toNat = 2 ^ 64 - 1 := by decide
    omega

/-- The range with the entry `2 ^ 31` is not read back. -/
theorem not_rangeOk_crossing (htable : table.length < 2 ^ 32) (hc : c ≤ 2 ^ 31)
    (hn : 2 ^ 31 < c + rels.length) : ¬RangeOk table rels (indexRange c rels.length) := by
  intro h
  rcases loop_eq_ok (by omega) h.2 with ⟨-, hnil⟩ | ⟨hle, hin, hcount⟩
  · rw [List.map_eq_nil_iff] at hnil
    rw [hnil, List.length_nil] at hn
    omega
  · rw [List.length_map] at hcount
    rw [BitVec.le_def] at hle
    simp only [indexRange] at hle hin hcount
    -- the end is in the table, so that it is not negative, and neither is the start
    have hend : (BitVec.ofNat 32 (c + rels.length) - 1).toNat < 2 ^ 31 := by
      by_contra hge
      have := le_toNat_signExtend (not_lt.mp hge)
      omega
    rw [toNat_signExtend_of_lt hend] at hle hcount
    have hc32 : (BitVec.ofNat 32 c).toNat = c := Nat.mod_eq_of_lt (by omega)
    have hstart : c < 2 ^ 31 := by
      by_contra hge
      have := le_toNat_signExtend (x := BitVec.ofNat 32 c) (by omega)
      omega
    rw [toNat_signExtend_of_lt (by omega), hc32] at hcount
    omega

end Ranges

/-- What holds of every block and its range holds of each block after the ones before it. -/
theorem forall₂_indexRanges {P : TB ι → BitVec 32 × BitVec 32 → Prop} :
    ∀ {tbs : List (TB ι)} {c : ℕ}, List.Forall₂ P tbs (indexRanges c tbs) ↔
      ∀ before tb behind, tbs = before ++ tb :: behind →
        P tb (indexRange (c + countRels before) tb.validRels.length)
  | [], c => by simp [indexRanges]
  | tb :: tbs, c => by
    rw [indexRanges, List.forall₂_cons, forall₂_indexRanges]
    constructor
    · rintro ⟨hhead, htail⟩ before tb' behind heq
      rcases List.cons_eq_append_iff.mp heq with ⟨rfl, hnil⟩ | ⟨before', rfl, hcons⟩
      · rw [List.cons.injEq] at hnil
        rw [hnil.1]
        exact hhead
      · rw [countRels_cons, ← Nat.add_assoc]
        exact htail before' tb' behind hcons
    · intro h
      refine ⟨h [] tb tbs rfl, fun before tb' behind heq => ?_⟩
      have := h (tb :: before) tb' behind (by rw [heq, List.cons_append])
      rwa [countRels_cons, ← Nat.add_assoc] at this

/-- The block with the entry of index `m`. -/
theorem exists_crossing {m : ℕ} : ∀ {tbs : List (TB ι)}, m < countRels tbs →
    ∃ before tb behind, tbs = before ++ tb :: behind ∧ countRels before ≤ m ∧
      m < countRels before + tb.validRels.length
  | [], h => absurd h (Nat.not_lt_zero _)
  | tb :: tbs, h => by
    by_cases hm : m < tb.validRels.length
    · exact ⟨[], tb, tbs, rfl, Nat.zero_le _, by simpa [countRels] using hm⟩
    · rw [countRels_cons] at h
      have hlt : m - tb.validRels.length < countRels tbs := by omega
      obtain ⟨before, tb', behind, rfl, h1, h2⟩ := exists_crossing hlt
      refine ⟨tb :: before, tb', behind, rfl, ?_, ?_⟩ <;> rw [countRels_cons] <;> omega

/-- Some block comes first in the file, and has no valid relocation. -/
def FirstHasNoRel (tbs : List (TB ι)) : Prop := ∃ tb ∈ tbs.head?, tb.validRels = []

/-- **The relocation table is read back exactly** if and only if the first block of the
file, when there is one, has a valid relocation, and there are at most `2 ^ 31` of them. -/
theorem relTable_reads_back_iff (segs : List (Segment (TB ι))) :
    List.Forall₂
        (fun tb entry => ReadsBack (AOTFileWriter.writeToBuf segs 0).relTable tb entry.2)
        (segs.flatMap (·.tbs)) (AOTFileWriter.writeToBuf segs 0).buf.tbtab ↔
      ¬FirstHasNoRel (segs.flatMap (·.tbs)) ∧ countRels (segs.flatMap (·.tbs)) ≤ 2 ^ 31 := by
  obtain ⟨hrelocs, hranges, hnum⟩ := AOTFileWriter.wrote_writeToBuf segs
  generalize hw : AOTFileWriter.writeToBuf segs 0 = w at *
  generalize htbs : segs.flatMap (·.tbs) = tbs at *
  have htable : w.relTable.length < 2 ^ 32 := by
    rw [Writer.relTable, List.length_take]
    have := w.buf.hdr.reltableNum.isLt
    omega
  have hforall : List.Forall₂ (fun tb entry => ReadsBack w.relTable tb entry.2) tbs w.buf.tbtab ↔
      List.Forall₂ (fun tb range => RangeOk w.relTable tb.validRels range) tbs
        (indexRanges 0 tbs) := by
    rw [← hranges, OutBuf.ranges, List.forall₂_map_right_iff]
    simp only [readsBack_iff]
  rw [hforall, forall₂_indexRanges]
  simp only [Nat.zero_add]
  constructor
  · intro h
    refine ⟨?_, ?_⟩
    · rintro ⟨tb, hhead, hnil⟩
      obtain ⟨behind, rfl⟩ := List.head?_eq_some_iff.mp hhead
      have hfirst := h [] tb behind rfl
      rw [hnil] at hfirst
      exact not_rangeOk_first htable hfirst
    · by_contra hgt
      obtain ⟨before, tb, behind, heq, h1, h2⟩ := exists_crossing (not_le.mp hgt)
      exact not_rangeOk_crossing htable h1 h2 (h before tb behind heq)
  · rintro ⟨hfirst, htotal⟩ before tb behind rfl
    -- the table is all that was written
    have hfull : w.relTable = (before ++ tb :: behind).flatMap TB.validRels := by
      rw [Writer.relTable, hnum, BitVec.toNat_ofNat, Nat.mod_eq_of_lt (by omega), hrelocs]
      exact List.take_length
    have hlen : w.relTable.length = countRels (before ++ tb :: behind) := by rw [hfull]; rfl
    rw [countRels_append, countRels_cons] at hlen htotal
    by_cases hn : tb.validRels = []
    · rw [hn]
      refine rangeOk_of_empty (Nat.pos_of_ne_zero fun hzero => hfirst ?_) (by omega)
      cases before with
      | nil => exact ⟨tb, rfl, hn⟩
      | cons tb' before =>
        rw [countRels_cons] at hzero
        exact ⟨tb', rfl, List.eq_nil_of_length_eq_zero (by omega)⟩
    · refine rangeOk_of_pos (by omega) (List.length_pos_iff.mpr hn) ?_ (by omega)
      rw [hfull, List.flatMap_append, List.flatMap_cons]
      have hdrop : countRels before = (before.flatMap TB.validRels).length := rfl
      rw [hdrop, List.drop_left, List.take_left]

/-- A block without relocations, and one with a relocation. -/
def blockWithoutRel : TB ℕ := TB.new default .empty 0

@[inherit_doc blockWithoutRel]
def blockWithRel : TB ℕ :=
  { blockWithoutRel with rels := [⟨⟨.B_EPILOGUE, 0, 1, 0, 0⟩, true⟩] }

/-- A file whose first block has no relocation is not read back. -/
theorem relTable_not_read_back :
    ¬List.Forall₂
      (fun tb entry => ReadsBack (AOTFileWriter.writeToBuf
        [⟨default, [], [blockWithoutRel, blockWithRel]⟩] 0).relTable tb entry.2)
      [blockWithoutRel, blockWithRel]
      (AOTFileWriter.writeToBuf [⟨default, [], [blockWithoutRel, blockWithRel]⟩] 0).buf.tbtab := by
  rintro (_ | ⟨hfirst, -⟩)
  rw [readsBack_iff] at hfirst
  revert hfirst
  decide

end AotOpt
