import AotOpt.AOTFileWriter.RelTable
import AotOpt.Lib.Layout

/-!
# The layout of an AOT file

What `write_to_buf` writes, and where: the header, the segment table, a slot for the library name of
each segment, the blocks, the relocations and the code, each table behind the one before it
(`laid_writeTo`). The cursors of the writer are moved by counting functions of their
own, and none of them takes note of the others.

* `AOTFileWriter.toNat_howManyBytes` — `how_many_bytes` is the size of what is written.
* `AOTFileWriter.layout_writeTo` — the tables do not overlap, they leave no gap but the padding
  of the library names, and their offsets are the ones that are written to the header and the
  tables.
-/

namespace AotOpt

open Lib

variable {ι : Type}

/-! ### How much is written -/

/-- The words of the code of a block. -/
def TB.codeWords (tb : TB ι) : List (BitVec 32) := tb.disInsns.nodes.map fun n => encode n.data

/-- The bytes that a block takes up. -/
def TB.bytes (tb : TB ι) : ℕ :=
  sizeofAOTTB + 4 * tb.codeWords.length + sizeofAOTRel * tb.validRels.length

/-- The bytes that a segment takes up. -/
def Segment.bytes (seg : Segment (TB ι)) : ℕ :=
  sizeofAOTSegment + PATH_MAX + (seg.tbs.map TB.bytes).sum

/-- The bytes that a file takes up. -/
def fileBytes (segs : List (Segment (TB ι))) : ℕ := sizeofAOTHeader + (segs.map Segment.bytes).sum

section Counts

theorem toNat_ofNat32 {n : ℕ} (h : n < 2 ^ 32) : (BitVec.ofNat 32 n).toNat = n := by
  rw [BitVec.toNat_ofNat, Nat.mod_eq_of_lt h]

/-- A sum of machine integers that does not overflow. -/
theorem toNat_sum {α : Type} {f : α → BitVec 32} {g : α → ℕ} : ∀ {as : List α},
    (∀ a ∈ as, g a < 2 ^ 32 → (f a).toNat = g a) → (as.map g).sum < 2 ^ 32 →
      (as.map f).sum.toNat = (as.map g).sum
  | [], _, _ => rfl
  | a :: as, hfg, hlt => by
    rw [List.map_cons, List.sum_cons] at hlt
    rw [List.map_cons, List.sum_cons, List.map_cons, List.sum_cons, BitVec.toNat_add,
      hfg a List.mem_cons_self (by omega),
      toNat_sum (fun b hb => hfg b (List.mem_cons_of_mem _ hb)) (by omega), Nat.mod_eq_of_lt hlt]

theorem foldl_add_eq {α : Type} (f : α → BitVec 32) : ∀ (as : List α) (init : BitVec 32),
    as.foldl (fun total a => total + f a) init = init + (as.map f).sum
  | [], init => (BitVec.add_zero init).symm
  | a :: as, init => by
    rw [List.foldl_cons, foldl_add_eq f as, List.map_cons, List.sum_cons, BitVec.add_assoc]

theorem toNat_foldl_add {α : Type} {f : α → BitVec 32} {g : α → ℕ} {as : List α} {init : ℕ}
    (hfg : ∀ a ∈ as, g a < 2 ^ 32 → (f a).toNat = g a) (hlt : init + (as.map g).sum < 2 ^ 32) :
    (as.foldl (fun total a => total + f a) (BitVec.ofNat 32 init)).toNat = init + (as.map g).sum := by
  rw [foldl_add_eq, BitVec.toNat_add, toNat_sum hfg (by omega), toNat_ofNat32 (by omega),
    Nat.mod_eq_of_lt hlt]

theorem TB.length_codeWords (tb : TB ι) : tb.codeWords.length = tb.disInsns.nodes.length :=
  List.length_map _

/-- The size of the code, in 32 bits. -/
theorem TB.toNat_totalSize_mul {tb : TB ι} (h : 4 * tb.codeWords.length < 2 ^ 32) :
    ((tb.disInsns.totalSize * 4).setWidth 32).toNat = 4 * tb.codeWords.length := by
  rw [LinkList.totalSize, ← length_codeWords, BitVec.toNat_setWidth, BitVec.toNat_mul,
    BitVec.toNat_ofNat]
  change _ % 2 ^ 64 * 4 % 2 ^ 64 % 2 ^ 32 = _
  omega

/-- The loop over the relocations. -/
theorem toNat_foldl_rels : ∀ (rels : List RelSlot) {init : BitVec 32},
    init.toNat + sizeofAOTRel * (rels.filter (·.valid)).length < 2 ^ 32 →
      (rels.foldl (fun total r => if r.valid then total + BitVec.ofNat 32 sizeofAOTRel else total)
        init).toNat = init.toNat + sizeofAOTRel * (rels.filter (·.valid)).length
  | [], _, _ => rfl
  | r :: rels, init, hlt => by
    rw [List.foldl_cons]
    by_cases hv : r.valid
    · have hcons : (r :: rels).filter (·.valid) = r :: rels.filter (·.valid) :=
        List.filter_cons_of_pos hv
      rw [hcons, List.length_cons, Nat.mul_succ] at hlt ⊢
      have hinit : (init + BitVec.ofNat 32 sizeofAOTRel).toNat = init.toNat + sizeofAOTRel := by
        rw [BitVec.toNat_add, toNat_ofNat32 (by decide), Nat.mod_eq_of_lt (by omega)]
      rw [if_pos hv, toNat_foldl_rels rels (by rw [hinit]; omega), hinit]
      omega
    · have hcons : (r :: rels).filter (·.valid) = rels.filter (·.valid) :=
        List.filter_cons_of_neg hv
      rw [hcons] at hlt ⊢
      rw [if_neg hv]
      exact toNat_foldl_rels rels hlt

theorem TB.toNat_howManyBytes {tb : TB ι} (h : tb.bytes < 2 ^ 32) :
    tb.howManyBytes.toNat = tb.bytes := by
  have hlen : (tb.rels.filter (·.valid)).length = tb.validRels.length := by simp [validRels]
  rw [bytes] at h
  have hcode : ((tb.disInsns.totalSize * 4).setWidth 32).toNat = 4 * tb.codeWords.length :=
    toNat_totalSize_mul (by omega)
  have hinit : (BitVec.ofNat 32 sizeofAOTTB + (tb.disInsns.totalSize * 4).setWidth 32).toNat =
      sizeofAOTTB + 4 * tb.codeWords.length := by
    rw [BitVec.toNat_add, hcode, toNat_ofNat32 (by decide), Nat.mod_eq_of_lt (by omega)]
  rw [howManyBytes, toNat_foldl_rels _ (by rw [hinit, hlen]; exact h), hinit, hlen, bytes]

theorem Segment.toNat_howManyBytes {seg : Segment (TB ι)} (h : seg.bytes < 2 ^ 32) :
    seg.howManyBytes.toNat = seg.bytes := by
  rw [howManyBytes, ← BitVec.ofNat_add]
  exact toNat_foldl_add (fun tb _ htb => TB.toNat_howManyBytes htb) h

/-- **`how_many_bytes`** is the size of the file. -/
theorem AOTFileWriter.toNat_howManyBytes {segs : List (Segment (TB ι))}
    (h : fileBytes segs < 2 ^ 32) : (howManyBytes segs).toNat = fileBytes segs :=
  toNat_foldl_add (fun _ _ hseg => Segment.toNat_howManyBytes hseg) h

/-- What the tables of a list of blocks take up. -/
theorem sum_bytes : ∀ tbs : List (TB ι), (tbs.map TB.bytes).sum =
    sizeofAOTTB * tbs.length + 4 * (tbs.flatMap TB.codeWords).length + sizeofAOTRel * countRels tbs
  | [] => rfl
  | tb :: tbs => by
    rw [List.map_cons, List.sum_cons, sum_bytes, TB.bytes, countRels_cons, List.flatMap_cons,
      List.length_append, List.length_cons, Nat.mul_succ, Nat.mul_add sizeofAOTRel]
    omega

theorem sum_segment_bytes : ∀ segs : List (Segment (TB ι)), (segs.map Segment.bytes).sum =
    (sizeofAOTSegment + PATH_MAX) * segs.length + ((segs.flatMap (·.tbs)).map TB.bytes).sum
  | [] => rfl
  | seg :: segs => by
    rw [List.map_cons, List.sum_cons, sum_segment_bytes, Segment.bytes, List.flatMap_cons,
      List.map_append, List.sum_append, List.length_cons, Nat.mul_succ]
    omega

theorem Segment.toNat_howManyTbs {seg : Segment (TB ι)} (h : seg.tbs.length < 2 ^ 32) :
    seg.howManyTbs.toNat = seg.tbs.length := toNat_ofNat32 h

theorem sum_codeWords : ∀ tbs : List (TB ι), (tbs.map fun tb => 4 * tb.codeWords.length).sum =
    4 * (tbs.flatMap TB.codeWords).length
  | [] => rfl
  | tb :: tbs => by
    rw [List.map_cons, List.sum_cons, sum_codeWords, List.flatMap_cons, List.length_append, Nat.mul_add]

theorem Segment.toNat_howManyCode {seg : Segment (TB ι)}
    (h : 4 * (seg.tbs.flatMap TB.codeWords).length < 2 ^ 32) :
    seg.howManyCode.toNat = 4 * (seg.tbs.flatMap TB.codeWords).length := by
  rw [← sum_codeWords] at h ⊢
  exact toNat_sum (fun tb _ htb => TB.toNat_totalSize_mul htb) h

end Counts

/-! ### What is written where -/

/-- The entry of a block whose code is at `insnPtr`, after `c` relocations. -/
def TB.tbEntry (tb : TB ι) (c : BitVec 32) (insnPtr : ℕ) : AOTTB :=
  { tb.originAotTb with
    tbCacheOffset := BitVec.ofNat 32 insnPtr
    tbCacheSize := (tb.disInsns.totalSize * 4).setWidth 32
    relStartIndex := c
    relEndIndex := c + BitVec.ofNat 32 tb.validRels.length - 1 }

/-- The entries of the blocks. -/
def tbEntries : BitVec 32 → ℕ → List (TB ι) → List AOTTB
  | _, _, [] => []
  | c, insnPtr, tb :: tbs => tb.tbEntry c insnPtr ::
    tbEntries (c + BitVec.ofNat 32 tb.validRels.length) (insnPtr + 4 * tb.codeWords.length) tbs

/-- The entry of a segment. -/
def Segment.segEntry (seg : Segment (TB ι)) (segmentName tbTable : ℕ) : AOTSegment where
  info := seg.seg.info
  libNameOffset := BitVec.ofNat 32 segmentName
  tbOffset := BitVec.ofNat 32 tbTable
  tbNums := BitVec.ofNat 32 seg.tbs.length
  ismap := seg.seg.ismap

/-- The entries of the segments. -/
def segEntries : ℕ → ℕ → List (Segment (TB ι)) → List AOTSegment
  | _, _, [] => []
  | segmentName, tbTable, seg :: segs => seg.segEntry segmentName tbTable ::
    segEntries (segmentName + PATH_MAX) (tbTable + sizeofAOTTB * seg.tbs.length) segs

theorem tbEntries_append : ∀ (c : BitVec 32) (insnPtr : ℕ) (tbs tbs' : List (TB ι)),
    tbEntries c insnPtr (tbs ++ tbs') = tbEntries c insnPtr tbs ++
      tbEntries (c + BitVec.ofNat 32 (countRels tbs))
        (insnPtr + 4 * (tbs.flatMap TB.codeWords).length) tbs'
  | c, insnPtr, [], tbs' => by rw [countRels]; simp [tbEntries]
  | c, insnPtr, tb :: tbs, tbs' => by
    rw [List.cons_append, tbEntries, tbEntries_append, tbEntries, countRels_cons, List.flatMap_cons,
      List.length_append, Nat.mul_add, BitVec.ofNat_add, BitVec.add_assoc, Nat.add_assoc,
      List.cons_append]

@[simp] theorem length_tbEntries : ∀ (c : BitVec 32) (insnPtr : ℕ) (tbs : List (TB ι)),
    (tbEntries c insnPtr tbs).length = tbs.length
  | _, _, [] => rfl
  | c, insnPtr, tb :: tbs => by rw [tbEntries, List.length_cons, length_tbEntries, List.length_cons]

@[simp] theorem length_segEntries : ∀ (segmentName tbTable : ℕ) (segs : List (Segment (TB ι))),
    (segEntries segmentName tbTable segs).length = segs.length
  | _, _, [] => rfl
  | segmentName, tbTable, seg :: segs => by
    rw [segEntries, List.length_cons, length_segEntries, List.length_cons]

/-- What is appended to the tables of the buffer; the rest is not written. -/
structure Appends (segtab : List (ℕ × AOTSegment)) (tbtab : List (ℕ × AOTTB))
    (reltab : List (ℕ × AOTRel)) (code : List (ℕ × BitVec 32)) (w w' : Writer) : Prop where
  segtab : w'.buf.segtab = w.buf.segtab ++ segtab
  tbtab : w'.buf.tbtab = w.buf.tbtab ++ tbtab
  reltab : w'.buf.reltab = w.buf.reltab ++ reltab
  code : w'.buf.code = w.buf.code ++ code
  libNames : w'.buf.libNames = w.buf.libNames
  segtabOffset : w'.buf.hdr.segtabOffset = w.buf.hdr.segtabOffset
  segnum : w'.buf.hdr.segnum = w.buf.hdr.segnum

section Appends

variable {segtab segtab' : List (ℕ × AOTSegment)} {tbtab tbtab' : List (ℕ × AOTTB)}
  {reltab reltab' : List (ℕ × AOTRel)} {code code' : List (ℕ × BitVec 32)} {w w' w'' : Writer}

theorem Appends.refl (w : Writer) : Appends [] [] [] [] w w := by constructor <;> simp

theorem Appends.trans (h : Appends segtab tbtab reltab code w w')
    (h' : Appends segtab' tbtab' reltab' code' w' w'') :
    Appends (segtab ++ segtab') (tbtab ++ tbtab') (reltab ++ reltab') (code ++ code') w w'' where
  segtab := by rw [h'.segtab, h.segtab, List.append_assoc]
  tbtab := by rw [h'.tbtab, h.tbtab, List.append_assoc]
  reltab := by rw [h'.reltab, h.reltab, List.append_assoc]
  code := by rw [h'.code, h.code, List.append_assoc]
  libNames := h'.libNames.trans h.libNames
  segtabOffset := h'.segtabOffset.trans h.segtabOffset
  segnum := h'.segnum.trans h.segnum

end Appends

namespace TBWriter

theorem emit_eq_placed : ∀ (insnPtr : ℕ) (nodes : List (ListNode LoongArchInsInfo)),
    emit insnPtr nodes = placed 4 insnPtr (nodes.map fun n => encode n.data)
  | _, [] => rfl
  | insnPtr, n :: nodes => by rw [emit, emit_eq_placed, List.map_cons, placed]

theorem appends_copyRels : ∀ (rels : List RelSlot) (relBuf : ℕ) (w : Writer),
    Appends [] [] (placed sizeofAOTRel relBuf ((rels.filter (·.valid)).map (·.rel))) [] w
      (copyRels rels relBuf w)
  | [], _, w => .refl w
  | r :: rels, relBuf, w => by
    by_cases hv : r.valid
    · obtain ⟨w₁, heq, h₁⟩ : ∃ w₁, copyRels (r :: rels) relBuf w =
          copyRels rels (relBuf + sizeofAOTRel) w₁ ∧ Appends [] [] [(relBuf, r.rel)] [] w w₁ := by
        refine ⟨_, (copyRels.eq_2 ..).trans (if_pos hv), ?_⟩
        refine ⟨by simp, by simp, rfl, by simp, rfl, ?_, ?_⟩
        · dsimp only
          split_ifs <;> rfl
        · dsimp only
          split_ifs <;> rfl
      rw [heq, List.filter_cons_of_pos hv, List.map_cons, placed]
      exact h₁.trans (appends_copyRels rels (relBuf + sizeofAOTRel) w₁)
    · rw [copyRels, if_neg hv, List.filter_cons_of_neg hv]
      exact appends_copyRels rels relBuf w

/-- The state after the code of a block has been written. -/
def withCode (tb : TB ι) (insnPtr : ℕ) (w : Writer) : Writer :=
  { w with buf := { w.buf with code := w.buf.code ++ emit insnPtr tb.disInsns.nodes } }

/-- The state after its entry has been written. -/
def withEntry (cur : ℕ) (target : AOTTB) (w : Writer) : Writer :=
  { w with buf := { w.buf with tbtab := w.buf.tbtab ++ [(cur, target)] } }

theorem relCurIndex_copyRels (tb : TB ι) (relBuf : ℕ) (w : Writer) :
    (copyRels tb.rels relBuf w).relCurIndex = w.relCurIndex + BitVec.ofNat 32 tb.validRels.length := by
  rw [(copyRels_relocs tb.rels relBuf w).1, TB.validRels, List.length_map]

theorem handleRels_eq (tb : TB ι) (relBuf : ℕ) (target : AOTTB) (w : Writer) :
    handleRels tb relBuf target w = ({ target with
      relStartIndex := w.relCurIndex
      relEndIndex := (copyRels tb.rels relBuf w).relCurIndex - 1 }, copyRels tb.rels relBuf w) := by
  rw [handleRels, foldl_or_true]
  rfl

theorem writeTBs_cons (tb : TB ι) (tbs : List (TB ι)) (cur relBuf insnPtr : ℕ) (w : Writer) :
    writeTBs (tb :: tbs) cur relBuf insnPtr w =
      writeTBs tbs (cur + sizeofAOTTB) (relBuf + sizeofAOTRel * tb.howManyRel.toNat)
        (insnPtr + 4 * tb.disInsns.totalSize.toNat)
        (withEntry cur (tb.tbEntry w.relCurIndex insnPtr)
          (copyRels tb.rels relBuf (withCode tb insnPtr w))) := by
  have hturn : writeTBs (tb :: tbs) cur relBuf insnPtr w =
      writeTBs tbs (cur + sizeofAOTTB) (relBuf + sizeofAOTRel * tb.howManyRel.toNat)
        (insnPtr + 4 * tb.disInsns.totalSize.toNat)
        (withEntry cur
          (handleRels tb relBuf (handleAssemble tb insnPtr (writeTbHelperFunction tb) w).1
            (withCode tb insnPtr w)).1
          (handleRels tb relBuf (handleAssemble tb insnPtr (writeTbHelperFunction tb) w).1
            (withCode tb insnPtr w)).2) := rfl
  rw [hturn, handleRels_eq, relCurIndex_copyRels]
  rfl

/-- **One block**: its entry, its relocations and its code. -/
theorem appends_block (tb : TB ι) (cur relBuf insnPtr : ℕ) (w : Writer) :
    Appends [] [(cur, tb.tbEntry w.relCurIndex insnPtr)] (placed sizeofAOTRel relBuf tb.validRels)
      (placed 4 insnPtr tb.codeWords) w (withEntry cur (tb.tbEntry w.relCurIndex insnPtr)
        (copyRels tb.rels relBuf (withCode tb insnPtr w))) := by
  have hcode : Appends [] [] [] (placed 4 insnPtr tb.codeWords) w (withCode tb insnPtr w) := by
    refine ⟨by simp [withCode], by simp [withCode], by simp [withCode], ?_, rfl, rfl, rfl⟩
    rw [TB.codeWords, ← emit_eq_placed]
    rfl
  have hentry : ∀ w' : Writer, Appends [] [(cur, tb.tbEntry w.relCurIndex insnPtr)] [] [] w'
      (withEntry cur (tb.tbEntry w.relCurIndex insnPtr) w') := fun w' =>
    ⟨by simp [withEntry], rfl, by simp [withEntry], by simp [withEntry], rfl, rfl, rfl⟩
  have h := (hcode.trans (appends_copyRels tb.rels relBuf (withCode tb insnPtr w))).trans (hentry _)
  simp only [List.append_nil, List.nil_append] at h
  exact h

/-- **The blocks of a segment**. -/
theorem appends_writeTBs : ∀ (tbs : List (TB ι)) (cur relBuf insnPtr : ℕ) (w : Writer),
    (tbs.map TB.bytes).sum < 2 ^ 32 →
    (writeTBs tbs cur relBuf insnPtr w).relCurIndex =
        w.relCurIndex + BitVec.ofNat 32 (countRels tbs) ∧
      Appends [] (placed sizeofAOTTB cur (tbEntries w.relCurIndex insnPtr tbs))
        (placed sizeofAOTRel relBuf (tbs.flatMap TB.validRels))
        (placed 4 insnPtr (tbs.flatMap TB.codeWords)) w (writeTBs tbs cur relBuf insnPtr w)
  | [], cur, relBuf, insnPtr, w, _ => ⟨(BitVec.add_zero _).symm, .refl w⟩
  | tb :: tbs, cur, relBuf, insnPtr, w, hlt => by
    rw [List.map_cons, List.sum_cons] at hlt
    have hbytes : tb.bytes < 2 ^ 32 := by omega
    rw [TB.bytes] at hbytes
    have hsize : tb.disInsns.totalSize.toNat = tb.codeWords.length := by
      rw [LinkList.totalSize, ← TB.length_codeWords, BitVec.toNat_ofNat, Nat.mod_eq_of_lt (by omega)]
    have hrels : tb.howManyRel.toNat = tb.validRels.length :=
      TB.toNat_howManyRel (by simp only [sizeofAOTRel] at hbytes; omega)
    obtain ⟨w₁, heq, hcur, h₁⟩ : ∃ w₁, writeTBs (tb :: tbs) cur relBuf insnPtr w =
        writeTBs tbs (cur + sizeofAOTTB) (relBuf + sizeofAOTRel * tb.validRels.length)
          (insnPtr + 4 * tb.codeWords.length) w₁ ∧
        w₁.relCurIndex = w.relCurIndex + BitVec.ofNat 32 tb.validRels.length ∧
        Appends [] [(cur, tb.tbEntry w.relCurIndex insnPtr)] (placed sizeofAOTRel relBuf tb.validRels)
          (placed 4 insnPtr tb.codeWords) w w₁ := by
      refine ⟨withEntry cur (tb.tbEntry w.relCurIndex insnPtr)
        (copyRels tb.rels relBuf (withCode tb insnPtr w)), ?_,
        relCurIndex_copyRels tb relBuf (withCode tb insnPtr w), appends_block tb cur relBuf insnPtr w⟩
      rw [writeTBs_cons, hrels, hsize]
    obtain ⟨hcur', h'⟩ := appends_writeTBs tbs (cur + sizeofAOTTB)
      (relBuf + sizeofAOTRel * tb.validRels.length) (insnPtr + 4 * tb.codeWords.length) w₁ (by omega)
    rw [heq, hcur', hcur, countRels_cons, tbEntries, List.flatMap_cons, List.flatMap_cons, placed,
      placed_append, placed_append, BitVec.ofNat_add, BitVec.add_assoc]
    rw [hcur] at h'
    exact ⟨rfl, h₁.trans h'⟩

end TBWriter

namespace SegmentsWriter

/-- What is written as the library name of a segment. -/
def nameBytes (seg : Segment (TB ι)) : List (BitVec 8) := seg.libName ++ [0]

theorem writeNames_eq : ∀ (segs : List (Segment (TB ι))) (current : ℕ),
    writeNames segs current = placed PATH_MAX current (segs.map nameBytes)
  | [], _ => rfl
  | seg :: segs, current => by rw [writeNames, writeNames_eq, List.map_cons, placed, nameBytes]

/-- **The segments**. -/
theorem appends_writeSegments : ∀ (segs : List (Segment (TB ι)))
    (curSeg segmentName tbTable relCur codeCur : ℕ) (w : Writer),
    ((segs.flatMap (·.tbs)).map TB.bytes).sum < 2 ^ 32 →
      Appends (placed sizeofAOTSegment curSeg (segEntries segmentName tbTable segs))
        (placed sizeofAOTTB tbTable (tbEntries w.relCurIndex codeCur (segs.flatMap (·.tbs))))
        (placed sizeofAOTRel relCur ((segs.flatMap (·.tbs)).flatMap TB.validRels))
        (placed 4 codeCur ((segs.flatMap (·.tbs)).flatMap TB.codeWords)) w
        (writeSegments segs curSeg segmentName tbTable relCur codeCur w)
  | [], _, _, _, _, _, w, _ => .refl w
  | seg :: segs, curSeg, segmentName, tbTable, relCur, codeCur, w, hlt => by
    rw [List.flatMap_cons, List.map_append, List.sum_append] at hlt
    have hseg := sum_bytes seg.tbs
    simp only [sizeofAOTTB, sizeofAOTRel] at hseg
    obtain ⟨w₁, heq, h₁⟩ : ∃ w₁ : Writer,
        writeSegments (seg :: segs) curSeg segmentName tbTable relCur codeCur w =
          writeSegments segs (curSeg + sizeofAOTSegment) (segmentName + PATH_MAX)
            (tbTable + sizeofAOTTB * seg.howManyTbs.toNat)
            (relCur + sizeofAOTRel * seg.howManyRel.toNat) (codeCur + seg.howManyCode.toNat)
            (TBWriter.writeToBuf tbTable relCur codeCur seg.tbs w₁) ∧
          w₁.relCurIndex = w.relCurIndex ∧
          Appends [(curSeg, seg.segEntry segmentName tbTable)] [] [] [] w w₁ :=
      ⟨_, rfl, rfl, rfl, by simp, by simp, by simp, rfl, rfl, rfl⟩
    obtain ⟨hcur₁, h₁⟩ := h₁
    obtain ⟨hcur₂, h₂⟩ := TBWriter.appends_writeTBs seg.tbs tbTable relCur codeCur w₁ (by omega)
    -- `reltable_num` is in none of the tables
    have h₂' : Appends [] _ _ _ w₁ (TBWriter.writeToBuf tbTable relCur codeCur seg.tbs w₁) :=
      ⟨h₂.segtab, h₂.tbtab, h₂.reltab, h₂.code, h₂.libNames, h₂.segtabOffset, h₂.segnum⟩
    have hcur₂' : (TBWriter.writeToBuf tbTable relCur codeCur seg.tbs w₁).relCurIndex = _ := hcur₂
    have h₃ := appends_writeSegments segs (curSeg + sizeofAOTSegment) (segmentName + PATH_MAX)
      (tbTable + sizeofAOTTB * seg.tbs.length) (relCur + sizeofAOTRel * countRels seg.tbs)
      (codeCur + 4 * (seg.tbs.flatMap TB.codeWords).length)
      (TBWriter.writeToBuf tbTable relCur codeCur seg.tbs w₁) (by omega)
    rw [hcur₂', hcur₁] at h₃
    rw [hcur₁] at h₂'
    rw [heq, Segment.toNat_howManyTbs (by omega), Segment.toNat_howManyRel (by omega),
      Segment.toNat_howManyCode (by omega), List.flatMap_cons, List.flatMap_append,
      List.flatMap_append, segEntries, tbEntries_append, placed, placed_append, placed_append,
      placed_append, length_tbEntries]
    exact (h₁.trans h₂').trans h₃

end SegmentsWriter

/-! ### The file -/

section Places

variable (segs : List (Segment (TB ι)))

/-- Where the library names are. -/
def namesAt : ℕ := sizeofAOTHeader + sizeofAOTSegment * segs.length

/-- Where the blocks are. -/
def tbtabAt : ℕ := namesAt segs + PATH_MAX * segs.length

/-- Where the relocations are. -/
def reltabAt : ℕ := tbtabAt segs + sizeofAOTTB * (segs.flatMap (·.tbs)).length

/-- Where the code is. -/
def codeAt : ℕ := reltabAt segs + sizeofAOTRel * countRels (segs.flatMap (·.tbs))

/-- What is in the buffer after the file was written, `c` relocations having been written before. -/
structure Laid (c : BitVec 32) (buf : OutBuf) : Prop where
  segtabOffset : buf.hdr.segtabOffset = BitVec.ofNat 32 sizeofAOTHeader
  segnum : buf.hdr.segnum = BitVec.ofNat 32 segs.length
  segtab : buf.segtab =
    placed sizeofAOTSegment sizeofAOTHeader (segEntries (namesAt segs) (tbtabAt segs) segs)
  libNames : buf.libNames = placed PATH_MAX (namesAt segs) (segs.map SegmentsWriter.nameBytes)
  tbtab : buf.tbtab =
    placed sizeofAOTTB (tbtabAt segs) (tbEntries c (codeAt segs) (segs.flatMap (·.tbs)))
  reltab : buf.reltab =
    placed sizeofAOTRel (reltabAt segs) ((segs.flatMap (·.tbs)).flatMap TB.validRels)
  code : buf.code = placed 4 (codeAt segs) ((segs.flatMap (·.tbs)).flatMap TB.codeWords)

/-- `AOTFileWriter::write_to_buf` into a buffer that begins with `hdr`. -/
def AOTFileWriter.writeTo (hdr : AOTHeader) (c : BitVec 32) : Writer :=
  SegmentsWriter.writeToBuf sizeofAOTHeader segs ⟨{ OutBuf.zero with hdr := hdr }, c⟩

/-- A buffer of zeros begins with a header of zeros. -/
example (c : BitVec 32) : AOTFileWriter.writeToBuf segs c = AOTFileWriter.writeTo segs ⟨0, 0, 0, 0⟩ c := rfl

variable {segs}

theorem fileBytes_eq : fileBytes segs =
    codeAt segs + 4 * ((segs.flatMap (·.tbs)).flatMap TB.codeWords).length := by
  rw [fileBytes, sum_segment_bytes, sum_bytes, codeAt, reltabAt, tbtabAt, namesAt]
  simp only [sizeofAOTHeader, sizeofAOTSegment, sizeofAOTTB, sizeofAOTRel, PATH_MAX]
  omega

open SegmentsWriter in
/-- **`write_to_buf`** fills the buffer. -/
theorem laid_writeTo (hdr : AOTHeader) (c : BitVec 32) (hlt : fileBytes segs < 2 ^ 32) :
    Laid segs c (AOTFileWriter.writeTo segs hdr c).buf := by
  rw [fileBytes, sum_segment_bytes] at hlt
  have hsum := sum_bytes (segs.flatMap (·.tbs))
  simp only [sizeofAOTHeader, sizeofAOTSegment, PATH_MAX] at hlt
  simp only [sizeofAOTTB, sizeofAOTRel] at hsum
  have htbs : ((segs.map Segment.howManyTbs).sum).toNat = (segs.flatMap (·.tbs)).length := by
    rw [List.length_flatMap] at hsum ⊢
    exact toNat_sum (fun seg _ hseg => Segment.toNat_howManyTbs hseg) (by omega)
  have hcount : ∀ segs : List (Segment (TB ι)),
      (segs.map fun seg => countRels seg.tbs).sum = countRels (segs.flatMap (·.tbs)) := by
    intro segs
    induction segs with
    | nil => rfl
    | cons seg segs ih => rw [List.map_cons, List.sum_cons, ih, List.flatMap_cons, countRels_append]
  have hrels : ((segs.map Segment.howManyRel).sum).toNat = countRels (segs.flatMap (·.tbs)) := by
    rw [← hcount]
    refine toNat_sum (fun seg _ hseg => Segment.toNat_howManyRel hseg) ?_
    rw [hcount]
    omega
  obtain ⟨w₁, heq, hcur, hsegtab, hnames, htbtab, hreltab, hcode, hoffset, hnum⟩ : ∃ w₁ : Writer,
      AOTFileWriter.writeTo segs hdr c =
        writeSegments segs sizeofAOTHeader (namesAt segs) (namesAt segs + segs.length * PATH_MAX)
          (namesAt segs + segs.length * PATH_MAX +
            sizeofAOTTB * ((segs.map Segment.howManyTbs).sum).toNat)
          (namesAt segs + segs.length * PATH_MAX +
            sizeofAOTTB * ((segs.map Segment.howManyTbs).sum).toNat +
            sizeofAOTRel * ((segs.map Segment.howManyRel).sum).toNat) w₁ ∧
      w₁.relCurIndex = c ∧ w₁.buf.segtab = [] ∧
      w₁.buf.libNames = writeNames segs (namesAt segs) ∧ w₁.buf.tbtab = [] ∧ w₁.buf.reltab = [] ∧
      w₁.buf.code = [] ∧ w₁.buf.hdr.segtabOffset = BitVec.ofNat 32 sizeofAOTHeader ∧
      w₁.buf.hdr.segnum = BitVec.ofNat 32 segs.length :=
    ⟨_, rfl, rfl, rfl, rfl, rfl, rfl, rfl, rfl, rfl⟩
  have h := appends_writeSegments segs sizeofAOTHeader (namesAt segs) (tbtabAt segs) (reltabAt segs)
    (codeAt segs) w₁ (by omega)
  rw [hcur] at h
  rw [htbs, hrels, Nat.mul_comm segs.length] at heq
  change _ = writeSegments segs sizeofAOTHeader (namesAt segs) (tbtabAt segs) (reltabAt segs)
    (codeAt segs) w₁ at heq
  rw [heq]
  exact ⟨h.segtabOffset.trans hoffset, h.segnum.trans hnum, by rw [h.segtab, hsegtab, List.nil_append],
    by rw [h.libNames, hnames, writeNames_eq], by rw [h.tbtab, htbtab, List.nil_append],
    by rw [h.reltab, hreltab, List.nil_append], by rw [h.code, hcode, List.nil_append]⟩

end Places

/-! ### What the offsets say -/

/-- The fields of a block's entry that are not set when it is written. -/
def AOTTB.kept (t : AOTTB) : AOTTB :=
  { t with
    tbCacheOffset := 0
    tbCacheSize := 0
    relStartIndex := 0
    relEndIndex := 0 }

/-- The entry is one of the block. -/
structure TB.DescribedBy (tb : TB ι) (t : AOTTB) : Prop where
  kept : t.kept = tb.originAotTb.kept
  size : t.tbCacheSize.toNat = 4 * tb.codeWords.length

/-- The entry is one of the segment, the others are those of its blocks. -/
structure Segment.DescribedBy (seg : Segment (TB ι)) (d : AOTSegment × List AOTTB) : Prop where
  info : d.1.info = seg.seg.info
  ismap : d.1.ismap = seg.seg.ismap
  tbNums : d.1.tbNums.toNat = seg.tbs.length
  tbs : List.Forall₂ TB.DescribedBy seg.tbs d.2

/-- The header says where the entries of the segments are, these say where the library names and the
entries of the blocks are, and these say where the code is. -/
structure Described (segs : List (Segment (TB ι))) (buf : OutBuf)
    (ds : List (AOTSegment × List AOTTB)) : Prop where
  segnum : buf.hdr.segnum.toNat = segs.length
  entries : List.Forall₂ Segment.DescribedBy segs ds
  segtab : buf.segtab = placed sizeofAOTSegment buf.hdr.segtabOffset.toNat (ds.map (·.1))
  libNames : buf.libNames =
    List.zipWith (fun seg d => (d.1.libNameOffset.toNat, SegmentsWriter.nameBytes seg)) segs ds
  tbtab : buf.tbtab = ds.flatMap fun d => placed sizeofAOTTB d.1.tbOffset.toNat d.2
  code : buf.code = (List.zipWith (fun seg d => (List.zipWith (fun tb t =>
    placed 4 t.tbCacheOffset.toNat tb.codeWords) seg.tbs d.2).flatten) segs ds).flatten

/-- The entries of the segments, each with those of its blocks. -/
def entriesOf : BitVec 32 → (segmentName tbTable codeCur : ℕ) → List (Segment (TB ι)) →
    List (AOTSegment × List AOTTB)
  | _, _, _, _, [] => []
  | c, segmentName, tbTable, codeCur, seg :: segs =>
    (seg.segEntry segmentName tbTable, tbEntries c codeCur seg.tbs) ::
      entriesOf (c + BitVec.ofNat 32 (countRels seg.tbs)) (segmentName + PATH_MAX)
        (tbTable + sizeofAOTTB * seg.tbs.length)
        (codeCur + 4 * (seg.tbs.flatMap TB.codeWords).length) segs

section Described

theorem map_entriesOf : ∀ (c : BitVec 32) (segmentName tbTable codeCur : ℕ)
    (segs : List (Segment (TB ι))), (entriesOf c segmentName tbTable codeCur segs).map (·.1) =
      segEntries segmentName tbTable segs
  | _, _, _, _, [] => rfl
  | c, segmentName, tbTable, codeCur, seg :: segs => by
    rw [entriesOf, List.map_cons, map_entriesOf, segEntries]

theorem libNames_entriesOf : ∀ {segs : List (Segment (TB ι))} (c : BitVec 32)
    {segmentName : ℕ} (tbTable codeCur : ℕ), segmentName + PATH_MAX * segs.length < 2 ^ 32 →
      List.zipWith (fun seg (d : AOTSegment × List AOTTB) =>
        (d.1.libNameOffset.toNat, SegmentsWriter.nameBytes seg)) segs
        (entriesOf c segmentName tbTable codeCur segs) =
          placed PATH_MAX segmentName (segs.map SegmentsWriter.nameBytes)
  | [], _, _, _, _, _ => rfl
  | seg :: segs, c, segmentName, tbTable, codeCur, hlt => by
    rw [List.length_cons, Nat.mul_succ] at hlt
    rw [entriesOf, List.zipWith_cons_cons, libNames_entriesOf _ _ _ (by omega), List.map_cons, placed,
      Segment.segEntry, toNat_ofNat32 (by omega)]

theorem tbtab_entriesOf : ∀ {segs : List (Segment (TB ι))} (c : BitVec 32)
    (segmentName : ℕ) {tbTable : ℕ} (codeCur : ℕ),
    tbTable + sizeofAOTTB * (segs.flatMap (·.tbs)).length < 2 ^ 32 →
      ((entriesOf c segmentName tbTable codeCur segs).flatMap fun d =>
        placed sizeofAOTTB d.1.tbOffset.toNat d.2) =
          placed sizeofAOTTB tbTable (tbEntries c codeCur (segs.flatMap (·.tbs)))
  | [], _, _, _, _, _ => rfl
  | seg :: segs, c, segmentName, tbTable, codeCur, hlt => by
    rw [List.flatMap_cons, List.length_append, Nat.mul_add] at hlt
    rw [entriesOf, List.flatMap_cons, tbtab_entriesOf _ _ _ (by omega), List.flatMap_cons,
      tbEntries_append, placed_append, length_tbEntries, Segment.segEntry, toNat_ofNat32 (by omega)]

theorem code_tbEntries : ∀ {tbs : List (TB ι)} (c : BitVec 32) {insnPtr : ℕ},
    insnPtr + 4 * (tbs.flatMap TB.codeWords).length < 2 ^ 32 →
      (List.zipWith (fun tb (t : AOTTB) => placed 4 t.tbCacheOffset.toNat tb.codeWords) tbs
        (tbEntries c insnPtr tbs)).flatten = placed 4 insnPtr (tbs.flatMap TB.codeWords)
  | [], _, _, _ => rfl
  | tb :: tbs, c, insnPtr, hlt => by
    rw [List.flatMap_cons, List.length_append, Nat.mul_add] at hlt
    rw [tbEntries, List.zipWith_cons_cons, List.flatten_cons, code_tbEntries _ (by omega),
      List.flatMap_cons, placed_append, TB.tbEntry, toNat_ofNat32 (by omega)]

theorem code_entriesOf : ∀ {segs : List (Segment (TB ι))} (c : BitVec 32) (segmentName tbTable : ℕ)
    {codeCur : ℕ}, codeCur + 4 * ((segs.flatMap (·.tbs)).flatMap TB.codeWords).length < 2 ^ 32 →
      (List.zipWith (fun seg (d : AOTSegment × List AOTTB) => (List.zipWith (fun tb t =>
        placed 4 t.tbCacheOffset.toNat tb.codeWords) seg.tbs d.2).flatten) segs
        (entriesOf c segmentName tbTable codeCur segs)).flatten =
          placed 4 codeCur ((segs.flatMap (·.tbs)).flatMap TB.codeWords)
  | [], _, _, _, _, _ => rfl
  | seg :: segs, c, segmentName, tbTable, codeCur, hlt => by
    rw [List.flatMap_cons, List.flatMap_append, List.length_append, Nat.mul_add] at hlt
    rw [entriesOf, List.zipWith_cons_cons, List.flatten_cons, code_tbEntries _ (by omega),
      code_entriesOf _ _ _ (by omega), List.flatMap_cons, List.flatMap_append, placed_append]

theorem describedBy_tbEntries : ∀ {tbs : List (TB ι)} (c : BitVec 32) (insnPtr : ℕ),
    4 * (tbs.flatMap TB.codeWords).length < 2 ^ 32 →
      List.Forall₂ TB.DescribedBy tbs (tbEntries c insnPtr tbs)
  | [], _, _, _ => .nil
  | tb :: tbs, c, insnPtr, hlt => by
    rw [List.flatMap_cons, List.length_append, Nat.mul_add] at hlt
    exact .cons ⟨rfl, TB.toNat_totalSize_mul (by omega)⟩ (describedBy_tbEntries _ _ (by omega))

theorem describedBy_entriesOf : ∀ {segs : List (Segment (TB ι))} (c : BitVec 32)
    (segmentName tbTable codeCur : ℕ), (segs.flatMap (·.tbs)).length < 2 ^ 32 →
    4 * ((segs.flatMap (·.tbs)).flatMap TB.codeWords).length < 2 ^ 32 →
      List.Forall₂ Segment.DescribedBy segs (entriesOf c segmentName tbTable codeCur segs)
  | [], _, _, _, _, _, _ => .nil
  | seg :: segs, c, segmentName, tbTable, codeCur, htb, hlt => by
    rw [List.flatMap_cons, List.length_append] at htb
    rw [List.flatMap_cons, List.flatMap_append, List.length_append, Nat.mul_add] at hlt
    exact .cons ⟨rfl, rfl, toNat_ofNat32 (by omega), describedBy_tbEntries _ _ (by omega)⟩
      (describedBy_entriesOf _ _ _ _ (by omega) (by omega))

/-- **The offsets** that are written are where things were written. -/
theorem Laid.described {segs : List (Segment (TB ι))} {c : BitVec 32} {buf : OutBuf}
    (h : Laid segs c buf) (hlt : fileBytes segs < 2 ^ 32) :
    Described segs buf (entriesOf c (namesAt segs) (tbtabAt segs) (codeAt segs) segs) := by
  have htotal := hlt
  rw [fileBytes_eq, codeAt, reltabAt, tbtabAt, namesAt] at htotal
  simp only [sizeofAOTHeader, sizeofAOTSegment, sizeofAOTTB, sizeofAOTRel, PATH_MAX] at htotal
  have hoffset : buf.hdr.segtabOffset.toNat = sizeofAOTHeader := by
    rw [h.segtabOffset]
    rfl
  have hnames : namesAt segs + PATH_MAX * segs.length < 2 ^ 32 := by
    simp only [namesAt, sizeofAOTHeader, sizeofAOTSegment, PATH_MAX]
    omega
  have htbtab : tbtabAt segs + sizeofAOTTB * (segs.flatMap (·.tbs)).length < 2 ^ 32 := by
    simp only [tbtabAt, namesAt, sizeofAOTHeader, sizeofAOTSegment, sizeofAOTTB, PATH_MAX]
    omega
  exact
    { segnum := by rw [h.segnum, toNat_ofNat32 (by omega)]
      entries := describedBy_entriesOf c _ _ _ (by omega) (by omega)
      segtab := by rw [hoffset, h.segtab, map_entriesOf]
      libNames := by rw [h.libNames, libNames_entriesOf c _ _ hnames]
      tbtab := by rw [h.tbtab, tbtab_entriesOf c _ _ htbtab]
      code := by rw [h.code, code_entriesOf c _ _ (by rwa [← fileBytes_eq])] }

end Described

/-! ### The layout -/

/-- The slots of what was written. Only a library name does not fill its slot. -/
def OutBuf.slots (buf : OutBuf) : List Slot :=
  ⟨0, sizeofAOTHeader, sizeofAOTHeader⟩ ::
    (buf.segtab.map fun p => ⟨p.1, sizeofAOTSegment, sizeofAOTSegment⟩) ++
    (buf.libNames.map fun p => ⟨p.1, PATH_MAX, p.2.length⟩) ++
    (buf.tbtab.map fun p => ⟨p.1, sizeofAOTTB, sizeofAOTTB⟩) ++
    (buf.reltab.map fun p => ⟨p.1, sizeofAOTRel, sizeofAOTRel⟩) ++
    buf.code.map fun p => ⟨p.1, 4, 4⟩

/-- The extents of what was written. -/
def OutBuf.extents (buf : OutBuf) : List Extent := buf.slots.map Slot.written

section Layout

variable {segs : List (Segment (TB ι))} {c : BitVec 32} {buf : OutBuf}

/-- The slots lie one behind the other. -/
theorem Laid.tiles (h : Laid segs c buf) : Tiles 0 (buf.slots.map Slot.whole) (fileBytes segs) := by
  have hsegtab := tiles_placed sizeofAOTSegment sizeofAOTHeader
    (segEntries (namesAt segs) (tbtabAt segs) segs)
  have hnames := tiles_placed PATH_MAX (namesAt segs) (segs.map SegmentsWriter.nameBytes)
  have htbtab := tiles_placed sizeofAOTTB (tbtabAt segs)
    (tbEntries c (codeAt segs) (segs.flatMap (·.tbs)))
  have hreltab := tiles_placed sizeofAOTRel (reltabAt segs)
    ((segs.flatMap (·.tbs)).flatMap TB.validRels)
  have hcode := tiles_placed 4 (codeAt segs)
    ((segs.flatMap (·.tbs)).flatMap TB.codeWords)
  rw [← h.segtab, length_segEntries] at hsegtab
  rw [← h.libNames, List.length_map] at hnames
  rw [← h.tbtab, length_tbEntries] at htbtab
  rw [← h.reltab] at hreltab
  rw [← h.code, ← fileBytes_eq] at hcode
  have hhdr : Tiles 0 [⟨0, sizeofAOTHeader⟩] sizeofAOTHeader := ⟨rfl, rfl⟩
  have htiles := ((((hhdr.append hsegtab).append hnames).append htbtab).append hreltab).append hcode
  simpa only [OutBuf.slots, List.map_append, List.map_cons, List.map_map, Function.comp_def,
    Slot.whole, List.cons_append, List.nil_append, List.map_nil] using htiles

theorem Laid.mem_libNames (h : Laid segs c buf) {p : ℕ × List (BitVec 8)} (hp : p ∈ buf.libNames) :
    ∃ seg ∈ segs, p.2 = SegmentsWriter.nameBytes seg := by
  rw [h.libNames] at hp
  have hmem := List.mem_map_of_mem (f := Prod.snd) hp
  rw [map_snd_placed] at hmem
  obtain ⟨seg, hseg, heq⟩ := List.mem_map.mp hmem
  exact ⟨seg, hseg, heq.symm⟩

/-- The names fit into their slots. -/
theorem Laid.used_le (h : Laid segs c buf) (hname : ∀ seg ∈ segs, seg.libName.length < PATH_MAX) :
    ∀ s ∈ buf.slots, s.used ≤ s.size := by
  intro s hs
  simp only [OutBuf.slots, List.cons_append, List.mem_cons, List.mem_append, List.mem_map] at hs
  rcases hs with rfl | (((⟨p, -, rfl⟩ | ⟨p, hp, rfl⟩) | ⟨p, -, rfl⟩) | ⟨p, -, rfl⟩) | ⟨p, -, rfl⟩
  · exact le_rfl
  · exact le_rfl
  · obtain ⟨seg, hseg, heq⟩ := h.mem_libNames hp
    have hlt := hname seg hseg
    rw [heq, SegmentsWriter.nameBytes, List.length_append]
    exact hlt
  · exact le_rfl
  · exact le_rfl
  · exact le_rfl

/-- What is not written is behind a library name. -/
theorem OutBuf.exists_extent_or_padding {i : ℕ}
    (h : ∃ s ∈ buf.slots, s.written.Has i ∨ s.padding.Has i) :
    (∃ e ∈ buf.extents, e.Has i) ∨
      ∃ p ∈ buf.libNames, p.1 + p.2.length ≤ i ∧ i < p.1 + PATH_MAX := by
  obtain ⟨s, hs, hhas | hhas⟩ := h
  · exact .inl ⟨_, List.mem_map_of_mem hs, hhas⟩
  · rw [Slot.has_padding] at hhas
    simp only [OutBuf.slots, List.cons_append, List.mem_cons, List.mem_append, List.mem_map] at hs
    rcases hs with rfl | (((⟨p, -, rfl⟩ | ⟨p, hp, rfl⟩) | ⟨p, -, rfl⟩) | ⟨p, -, rfl⟩) | ⟨p, -, rfl⟩
    · exact absurd hhas.2 (not_lt.mpr hhas.1)
    · exact absurd hhas.2 (not_lt.mpr hhas.1)
    · exact .inr ⟨p, hp, hhas⟩
    · exact absurd hhas.2 (not_lt.mpr hhas.1)
    · exact absurd hhas.2 (not_lt.mpr hhas.1)
    · exact absurd hhas.2 (not_lt.mpr hhas.1)

theorem entriesFrom_eq : ∀ (start : ℕ) (rels : List AOTRel),
    entriesFrom start rels = placed sizeofAOTRel start rels
  | _, [] => rfl
  | start, r :: rels => by rw [entriesFrom, entriesFrom_eq, placed]

/-- The header says where the relocations are, if there is one. -/
theorem reltab_writeTo (hdr : AOTHeader) (hlt : fileBytes segs < 2 ^ 32)
    (hrel : 0 < countRels (segs.flatMap (·.tbs))) :
    (AOTFileWriter.writeTo segs hdr 0).buf.reltab =
      placed sizeofAOTRel (AOTFileWriter.writeTo segs hdr 0).buf.hdr.reltableOffset.toNat
        ((segs.flatMap (·.tbs)).flatMap TB.validRels) := by
  have hlaid := laid_writeTo hdr 0 hlt
  rw [fileBytes_eq, codeAt, sizeofAOTRel] at hlt
  obtain ⟨w, nameBegin, nameEnd, relCur, codeCur, heq, hcur, hreltab⟩ :
      ∃ (w : Writer) (nameBegin nameEnd relCur codeCur : ℕ), AOTFileWriter.writeTo segs hdr 0 =
        SegmentsWriter.writeSegments segs sizeofAOTHeader nameBegin nameEnd relCur codeCur w ∧
        w.relCurIndex = BitVec.ofNat 32 0 ∧ w.buf.reltab = [] :=
    ⟨_, _, _, _, _, rfl, rfl, rfl⟩
  have hplaced := SegmentsWriter.placed_writeSegments segs sizeofAOTHeader nameBegin nameEnd relCur
    codeCur hcur (by omega)
  have hrels : (AOTFileWriter.writeTo segs hdr 0).buf.reltab =
      placed sizeofAOTRel relCur ((segs.flatMap (·.tbs)).flatMap TB.validRels) := by
    rw [heq, hplaced.reltab, hreltab, List.nil_append, entriesFrom_eq]
  have hstart : relCur = reltabAt segs := by
    rw [countRels] at hrel
    rw [hlaid.reltab] at hrels
    cases hlist : (segs.flatMap (·.tbs)).flatMap TB.validRels with
    | nil => simp [hlist] at hrel
    | cons r rels =>
      rw [hlist, placed, placed] at hrels
      exact congrArg Prod.fst (List.cons.inj hrels).1.symm
  have hoffset : (AOTFileWriter.writeTo segs hdr 0).buf.hdr.reltableOffset =
      BitVec.ofNat 32 relCur := by
    rw [heq, hplaced.offset, if_pos ⟨rfl, hrel⟩]
  rw [hrels, hoffset, toNat_ofNat32 (by omega)]

/-- **The layout of a file**: what is written does not overlap, lies inside the file and leaves no
gap but behind the library names, and the offsets say where it is. -/
theorem AOTFileWriter.layout_writeTo (hdr : AOTHeader)
    (hname : ∀ seg ∈ segs, seg.libName.length < PATH_MAX) (hlt : fileBytes segs < 2 ^ 32) :
    let buf := (writeTo segs hdr 0).buf
    buf.extents.Pairwise Extent.Apart ∧
    (∀ e ∈ buf.extents, e.stop ≤ (howManyBytes segs).toNat) ∧
    (∀ i < (howManyBytes segs).toNat, (∃ e ∈ buf.extents, e.Has i) ∨
      ∃ p ∈ buf.libNames, p.1 + p.2.length ≤ i ∧ i < p.1 + PATH_MAX) ∧
    (∃ ds, Described segs buf ds) ∧
    (0 < countRels (segs.flatMap (·.tbs)) → buf.reltab = placed sizeofAOTRel
      buf.hdr.reltableOffset.toNat ((segs.flatMap (·.tbs)).flatMap TB.validRels)) := by
  intro buf
  have hlaid : Laid segs 0 buf := laid_writeTo hdr 0 hlt
  have htiles := hlaid.tiles
  have hused := hlaid.used_le hname
  rw [toNat_howManyBytes hlt]
  exact ⟨htiles.written_apart hused, fun e he => (htiles.written_inside hused e he).2,
    fun i hi => OutBuf.exists_extent_or_padding (htiles.exists_written hused i i.zero_le hi),
    ⟨_, hlaid.described hlt⟩, reltab_writeTo hdr hlt⟩

/-- A segment with a block that has a relocation and one that has none. -/
theorem AOTFileWriter.layout_twoBlocks :
    let segs : List (Segment (TB ℕ)) := [⟨default, [0x61], [blockWithRel, blockWithoutRel]⟩]
    (∀ seg ∈ segs, seg.libName.length < PATH_MAX) ∧ fileBytes segs < 2 ^ 32 ∧
    (∃ ds, Described segs (writeTo segs default 0).buf ds) := by
  intro segs
  have hname : ∀ seg ∈ segs, seg.libName.length < PATH_MAX := by
    intro seg hseg
    rw [List.mem_singleton.mp hseg]
    decide
  have hlt : fileBytes segs < 2 ^ 32 := by decide
  exact ⟨hname, hlt, (layout_writeTo default hname hlt).2.2.2.1⟩

end Layout

end AotOpt
