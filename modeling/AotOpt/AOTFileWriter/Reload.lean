import AotOpt.AOTFileWriter.History
import AotOpt.AOTFileWriter.ReadBack
import AotOpt.Vistor.Reread
import AotOpt.Vistor.Views

/-!
# Loading a file that was written

The constructors read the segments, the entries and the code; `TB_AddRels_Vistor` finds the
relocations of a block by its range, and `DisassmbleVistor` makes its instructions. After the three of
them a block is what it was when it was written, and is written again as the same bytes.

* `Image.read_bytes` — what the constructors read.
* `writeTo_congr` — what the writer looks at.
* `reload_bytes` — every block that is loaded is the one that was written.
* `rewrite_bytes` — the file that is loaded is written as the same bytes.
-/

namespace AotOpt

open Lib AddRelsVistor DisassmbleVistor LoongArchInsInfo

variable {ι κ : Type}

/-! ### What is read -/

section Reading

variable {segs : List (Segment (TB ι))} {c : BitVec 32} {buf : OutBuf}

/-- The relocations are in the file. -/
theorem Laid.reltab_inside (h : Laid segs c buf) (hname : ∀ seg ∈ segs, seg.libName.length < PATH_MAX)
    (m : ℕ → BitVec 8) : ∀ p ∈ buf.reltab,
      HoldsAll (buf.memory m) p.1 p.2.fields ∧ p.1 + sizeofAOTRel ≤ fileBytes segs := by
  intro p hp
  have hr : (⟨p.1, sizeofAOTRel, sizeofAOTRel⟩, p.2.fields) ∈ buf.records := by
    simp only [OutBuf.records, List.mem_append, List.mem_map]
    exact .inl (.inr ⟨p, hp, rfl⟩)
  exact ⟨h.holdsAll hname m _ hr, h.inside _ hr⟩

/-- The ranges in the entries. -/
theorem indices_tbEntries : ∀ (tbs : List (TB ι)) (c insnPtr : ℕ),
    (tbEntries (BitVec.ofNat 32 c) insnPtr tbs).map AOTTB.indices = indexRanges c tbs
  | [], _, _ => rfl
  | tb :: tbs, c, insnPtr => by
    rw [tbEntries, List.map_cons, ← BitVec.ofNat_add, indices_tbEntries tbs, indexRanges, indexRange,
      BitVec.ofNat_add]
    rfl

theorem snd_entriesOf : ∀ (segs : List (Segment (TB ι))) (c : BitVec 32)
    (segmentName tbTable codeCur : ℕ),
    (entriesOf c segmentName tbTable codeCur segs).flatMap (·.2) =
      tbEntries c codeCur (segs.flatMap (·.tbs))
  | [], _, _, _, _ => rfl
  | seg :: segs, c, segmentName, tbTable, codeCur => by
    rw [entriesOf, List.flatMap_cons, snd_entriesOf segs, List.flatMap_cons, tbEntries_append]

/-- The count in the header, when there is a segment. -/
theorem reltableNum_writeTo (hdr : AOTHeader) (hne : segs ≠ []) :
    (AOTFileWriter.writeTo segs hdr 0).buf.hdr.reltableNum =
      BitVec.ofNat 32 (countRels (segs.flatMap (·.tbs))) := by
  obtain ⟨w, nameBegin, nameEnd, relCur, codeCur, heq, hcur⟩ :
      ∃ (w : Writer) (nameBegin nameEnd relCur codeCur : ℕ), AOTFileWriter.writeTo segs hdr 0 =
        SegmentsWriter.writeSegments segs sizeofAOTHeader nameBegin nameEnd relCur codeCur w ∧
        w.relCurIndex = BitVec.ofNat 32 0 := ⟨_, _, _, _, _, rfl, rfl⟩
  have hnum := (wrote_writeSegments_of_ne_nil hne sizeofAOTHeader nameBegin nameEnd relCur codeCur hcur).2
  rw [heq, hnum, Nat.zero_add]

/-- **What is read** of a file that was written as the first one. -/
theorem Image.read_bytes (m junk : ℕ → BitVec 8) (pos : ℕ)
    (hname : ∀ seg ∈ segs, seg.libName.length < PATH_MAX ∧ 0 ∉ seg.libName)
    (hlt : fileBytes segs < 2 ^ 31) :
    let image := read junk
      ⟨AOTFileWriter.bytes segs m 0, (AOTFileWriter.howManyBytes segs).toNat, pos⟩
    List.Forall₂ Segment.ReadAs segs image.segs ∧
      (segs ≠ [] → image.rels = (segs.flatMap (·.tbs)).flatMap TB.validRels) ∧
      image.blocks.map (·.img.aotTb.indices) = indexRanges 0 (segs.flatMap (·.tbs)) := by
  have hlaid : Laid segs 0 (AOTFileWriter.writeTo segs (.ofBytes m) 0).buf :=
    laid_writeTo _ 0 (by omega)
  have hin := hlaid.inFile (fun seg hseg => (hname seg hseg).1) m
  have hreltab := hlaid.reltab_inside (fun seg hseg => (hname seg hseg).1) m
  have hdesc := hlaid.described (by omega)
  have hnum := @reltableNum_writeTo _ segs (.ofBytes m)
  have hplace := @reltab_writeTo _ segs (.ofBytes m) (by omega)
  have hcount : countRels (segs.flatMap (·.tbs)) < 2 ^ 32 := by
    rw [fileBytes_eq, codeAt, sizeofAOTRel] at hlt
    omega
  intro image
  have himage : image = read junk
    ⟨AOTFileWriter.bytes segs m 0, (AOTFileWriter.howManyBytes segs).toNat, pos⟩ := rfl
  rw [AOTFileWriter.toNat_howManyBytes (by omega), AOTFileWriter.bytes] at himage
  generalize (AOTFileWriter.writeTo segs (.ofBytes m) 0).buf = buf at hnum hplace hdesc hin hreltab himage
  -- what is read does not depend on how the buffer came about
  generalize buf.memory m = mem at hin hreltab himage
  have hsegs : image.segs = (entriesOf 0 (namesAt segs) (tbtabAt segs) (codeAt segs) segs).map
      (SegmentImage.inMemory mem) := by
    rw [himage]
    exact Image.segs_read hlt hin.hdr.2 hin.hdr.1 (hdesc.segnum.trans hdesc.entries.length_eq)
      (hdesc.segmentsAt hin)
  refine ⟨hsegs ▸ hdesc.readAs hin hname, fun hne => ?_, ?_⟩
  · rw [himage]
    refine Image.rels_read hin.hdr.2 hin.hdr.1 ?_ ?_
    · rw [hnum hne, toNat_ofNat32 hcount]
      rfl
    · intro p hp
      rw [← hplace] at hp
      · exact hreltab p hp
      · rw [countRels]
        refine List.length_pos_iff.mpr fun hnil => ?_
        rw [hnil] at hp
        cases hp
  · have hentries : image.blocks.map (·.img.aotTb) =
        tbEntries 0 (codeAt segs) (segs.flatMap (·.tbs)) := by
      rw [← snd_entriesOf segs 0 (namesAt segs) (tbtabAt segs) (codeAt segs), Image.blocks, hsegs]
      simp [List.flatMap_map, List.map_flatMap, SegmentImage.inMemory, TBImage.inMemory, TBImage.ofCode,
        Function.comp_def]
    rw [← indices_tbEntries _ 0 (codeAt segs)]
    show _ = (tbEntries 0 _ _).map _
    rw [← hentries, List.map_map]
    rfl

end Reading

/-! ### A block that is loaded -/

/-- Every range is read back, when the first block has a valid relocation. -/
theorem rangeOk_indexRanges {tbs : List (TB ι)} (hfirst : ¬FirstHasNoRel tbs)
    (htotal : countRels tbs ≤ 2 ^ 31) : List.Forall₂
      (fun tb range => RangeOk (tbs.flatMap TB.validRels) tb.validRels range) tbs (indexRanges 0 tbs) := by
  rw [forall₂_indexRanges]
  rintro before tb behind rfl
  have hlen : ((before ++ tb :: behind).flatMap TB.validRels).length =
      countRels (before ++ tb :: behind) := rfl
  rw [countRels_append, countRels_cons] at hlen htotal
  rw [Nat.zero_add]
  cases hrels : tb.validRels with
  | nil =>
    refine rangeOk_of_empty (Nat.pos_of_ne_zero fun hzero => hfirst ?_) (by omega)
    cases before with
    | nil => exact ⟨tb, rfl, hrels⟩
    | cons tb' before =>
      rw [countRels_cons] at hzero
      exact ⟨tb', rfl, List.eq_nil_of_length_eq_zero (by omega)⟩
  | cons r rels =>
    rw [← hrels]
    have hpos : 0 < tb.validRels.length := by
      rw [hrels]
      exact Nat.succ_pos _
    refine rangeOk_of_pos (by omega) hpos ?_ (by omega)
    have hdrop : countRels before = (before.flatMap TB.validRels).length := rfl
    rw [List.flatMap_append, List.flatMap_cons, hdrop, List.drop_left, List.take_left]

/-- **The block is the one that was written**: its entry but for what is set when it is written, its
relocations, and its instructions, if these are read back. -/
structure TB.Reloaded (tb : TB ι) (tb' : TB ℕ) : Prop where
  kept : tb'.originAotTb.kept = tb.originAotTb.kept
  rels : tb'.rels = tb.validRels.map (⟨·, true⟩)
  words : tb'.insns = tb.codeWords.map disassemble
  insns : (∀ n ∈ tb.disInsns.nodes, n.data.Kept) → List.Forall₂ SameInsn tb'.insns tb.insns

/-- The segment is the one that was written, and its blocks are. -/
structure Segment.Reloaded (seg : Segment (TB ι)) (seg' : Segment (TB ℕ)) : Prop where
  info : seg'.seg.info = seg.seg.info
  ismap : seg'.seg.ismap = seg.seg.ismap
  libName : seg'.libName = seg.libName
  tbs : List.Forall₂ TB.Reloaded seg.tbs seg'.tbs

/-- The segment with what the blocks stand for. -/
def Segment.map {α β : Type} (f : α → β) (seg : Segment α) : Segment β :=
  ⟨seg.seg, seg.libName, seg.tbs.map f⟩

/-- `TB_AddRels_Vistor` and `DisassmbleVistor` on a block. -/
def AOTFile.prepare (file : AOTFile ι) (i : ι) : Res (TB ι) := do
  let tb ← AddRelsVistor.visit file.rels (file.tb i)
  .ok (startTB tb)

section Reload

variable {file : AOTFile ℕ} {tb : TB ι} {b : BlockImage} {i : ℕ}

/-- A block that is loaded is what was read, with its relocations. -/
theorem AOTFile.prepare_eq (hb : file.tb i = b.tb) (hread : tb.ReadAs b.img)
    (hrange : RangeOk file.rels tb.validRels b.img.aotTb.indices) :
    ∃ tb', file.prepare i = .ok tb' ∧ tb.Reloaded tb' := by
  have hvisit : AddRelsVistor.visit file.rels (file.tb i) =
      .ok { b.tb with rels := tb.validRels.map (⟨·, true⟩) } := by
    rw [hb]
    exact AddRelsVistor.visit_eq_ok.mpr ⟨hrange.1, _, hrange.2, rfl⟩
  refine ⟨startTB { b.tb with rels := tb.validRels.map (⟨·, true⟩) }, ?_, ?_⟩
  · rw [prepare, hvisit, ok_bind]
  · have hview := AOTFile.view_startTB { b.tb with rels := tb.validRels.map (⟨·, true⟩) }
    have hwords : (startTB { b.tb with rels := tb.validRels.map (⟨·, true⟩) }).insns =
        tb.codeWords.map disassemble := by
      rw [← hread.words]
      exact congrArg View.insns hview
    refine ⟨?_, rels_startTB _, hwords, fun hkept => ?_⟩
    · have haot := congrArg View.aotTb hview
      rw [← hread.kept]
      exact congrArg AOTTB.kept haot
    · rw [hwords, TB.codeWords, TB.insns, List.map_map, List.forall₂_map_left_iff,
        List.forall₂_map_right_iff, List.forall₂_same]
      exact fun n hn => (hkept n hn).rereads

/-- The blocks of the segments that are made. -/
theorem reloaded_segsFrom {loaded : ℕ → TB ℕ} : ∀ {segs : List (Segment (TB ι))}
    {imgs : List SegmentImage} {n : ℕ}, List.Forall₂ Segment.ReadAs segs imgs →
    (∀ i (tb : TB ι), (segs.flatMap (·.tbs))[i]? = some tb → tb.Reloaded (loaded (n + i))) →
      List.Forall₂ Segment.Reloaded segs ((Loading.segsFrom n imgs).map (Segment.map loaded)) := by
  intro segs imgs n h hloaded
  induction h generalizing n with
  | nil => exact .nil
  | @cons seg img segs imgs hseg h ih =>
    rw [Loading.segsFrom, List.map_cons]
    rw [List.flatMap_cons] at hloaded
    refine .cons ⟨hseg.info, hseg.ismap, hseg.libName, ?_⟩ (ih fun i tb htb => ?_)
    · rw [Segment.map, List.forall₂_iff_get]
      simp only [List.length_map, List.length_range', List.get_eq_getElem, List.getElem_map,
        List.getElem_range', Nat.one_mul]
      refine ⟨hseg.tbs.length_eq, fun i hi _ => hloaded i _ ?_⟩
      rw [List.getElem?_append_left hi, List.getElem?_eq_getElem hi]
    · rw [Nat.add_assoc]
      refine hloaded (img.tbs.length + i) tb ?_
      rw [List.getElem?_append_right (by rw [hseg.tbs.length_eq]; omega), hseg.tbs.length_eq,
        Nat.add_sub_cancel_left]
      exact htb

theorem forall₂_getElem {α β : Type} {R : α → β → Prop} {as : List α} {bs : List β}
    (h : List.Forall₂ R as bs) {i : ℕ} {a : α} (ha : as[i]? = some a) : ∃ b, bs[i]? = some b ∧ R a b := by
  obtain ⟨hi, rfl⟩ := List.getElem?_eq_some_iff.mp ha
  have hi' : i < bs.length := h.length_eq ▸ hi
  exact ⟨bs[i], List.getElem?_eq_getElem hi', (List.forall₂_iff_get.mp h).2 i hi hi'⟩

variable {segs : List (Segment (TB ι))}

/-- The blocks that are read are those that were written. -/
theorem readAs_blocks {imgs : List SegmentImage} (h : List.Forall₂ Segment.ReadAs segs imgs) :
    List.Forall₂ (fun tb b => tb.ReadAs b.img) (segs.flatMap (·.tbs))
      (imgs.flatMap fun s => s.tbs.map (BlockImage.mk s.seg.info.segBegin)) :=
  List.rel_flatMap h fun _ _ hseg => List.forall₂_map_right_iff.mpr hseg.tbs

/-- Blocks at different addresses do not clash when they are read. -/
theorem noClash_of_readAs (hnodup : (addresses segs).Nodup) (haddr : ∀ a ∈ addresses segs, a < 2 ^ 32)
    (image : Image) (h : List.Forall₂ Segment.ReadAs segs image.segs) : Loading.NoClash image.blocks := by
  have hblocks := map_address_blocks h
  refine noClash_of_nodup ?_ ?_
  · rw [Image.blocks, hblocks]
    exact hnodup
  · rw [Image.blocks, hblocks]
    exact haddr

/-- **Loading a file that was written**, and what the driver does to its blocks. -/
theorem AOTFile.exists_reloaded (m junk : ℕ → BitVec 8) (pos : ℕ)
    (hname : ∀ seg ∈ segs, seg.libName.length < PATH_MAX ∧ 0 ∉ seg.libName)
    (hclash : ∀ image : Image, List.Forall₂ Segment.ReadAs segs image.segs →
      Loading.NoClash image.blocks)
    (hlt : fileBytes segs < 2 ^ 31) (hfirst : ¬FirstHasNoRel (segs.flatMap (·.tbs))) :
    ∃ image file loaded,
      loadFrom junk ⟨AOTFileWriter.bytes segs m 0, (AOTFileWriter.howManyBytes segs).toNat, pos⟩ =
        .ok file ∧ load image = .ok file ∧ List.Forall₂ Segment.ReadAs segs image.segs ∧
      (∀ i ∈ file.ids, file.prepare i = .ok (loaded i)) ∧
      List.Forall₂ Segment.Reloaded segs (file.segs.map (Segment.map loaded)) := by
  obtain ⟨hread, hrels, hindices⟩ := Image.read_bytes m junk pos hname hlt
  rw [loadFrom]
  generalize Image.read junk ⟨AOTFileWriter.bytes segs m 0, (AOTFileWriter.howManyBytes segs).toNat, pos⟩ =
    image at hread hrels hindices ⊢
  obtain ⟨file, -, hload, -⟩ := (load_cases image).1 (hclash image hread)
  have htotal : countRels (segs.flatMap (·.tbs)) ≤ 2 ^ 31 := by
    rw [fileBytes_eq, codeAt, sizeofAOTRel] at hlt
    omega
  have hranges := rangeOk_indexRanges hfirst htotal
  rw [← hindices, List.forall₂_map_right_iff] at hranges
  have hfile : file.rels = image.rels := by
    obtain ⟨_, -, heq⟩ := bind_eq_ok.mp hload
    rw [← Except.ok.inj heq]
  -- what becomes of the block with the number `i`
  have hblock : ∀ i tb, (segs.flatMap (·.tbs))[i]? = some tb →
      ∃ tb', file.prepare i = .ok tb' ∧ tb.Reloaded tb' := by
    intro i tb htb
    obtain ⟨b, hb, htbread⟩ := forall₂_getElem (readAs_blocks hread) htb
    obtain ⟨b', hb', hrange⟩ := forall₂_getElem hranges htb
    obtain rfl : b' = b := Option.some.inj (hb'.symm.trans hb)
    have hne : segs ≠ [] := by
      rintro rfl
      cases htb
    rw [← hrels hne, ← hfile] at hrange
    exact prepare_eq (tb_load_of_getElem? hload hb') htbread hrange
  let loaded : ℕ → TB ℕ := fun i => (file.prepare i).toOption.getD (file.tb i)
  have hloaded : ∀ i tb', file.prepare i = .ok tb' → loaded i = tb' := by
    intro i tb' h
    show (file.prepare i).toOption.getD (file.tb i) = tb'
    rw [h]
    rfl
  refine ⟨image, file, loaded, hload, hload, hread, fun i hi => ?_, ?_⟩
  · have hlen : i < (segs.flatMap (·.tbs)).length := by
      rw [ids_load hload, List.mem_range] at hi
      rwa [(readAs_blocks hread).length_eq]
    obtain ⟨tb', hok, -⟩ := hblock i _ (List.getElem?_eq_getElem hlen)
    rw [hok, hloaded i tb' hok]
  · rw [segs_load hload]
    refine reloaded_segsFrom hread fun i tb htb => ?_
    obtain ⟨tb', hok, htb'⟩ := hblock i tb htb
    rw [Nat.zero_add, hloaded i tb' hok]
    exact htb'

/-- **A file that is written is loaded as it was**: the segments, and of every block the entry, the
relocations and the instructions. -/
theorem AOTFile.reload_bytes (m junk : ℕ → BitVec 8) (pos : ℕ)
    (hname : ∀ seg ∈ segs, seg.libName.length < PATH_MAX ∧ 0 ∉ seg.libName)
    (hnodup : (addresses segs).Nodup) (haddr : ∀ a ∈ addresses segs, a < 2 ^ 32)
    (hlt : fileBytes segs < 2 ^ 31) (hfirst : ¬FirstHasNoRel (segs.flatMap (·.tbs))) :
    ∃ file loaded,
      loadFrom junk ⟨AOTFileWriter.bytes segs m 0, (AOTFileWriter.howManyBytes segs).toNat, pos⟩ =
        .ok file ∧
      (∀ i ∈ file.ids, file.prepare i = .ok (loaded i)) ∧
      List.Forall₂ Segment.Reloaded segs (file.segs.map (Segment.map loaded)) := by
  obtain ⟨-, file, loaded, hload, -, -, hprepare, hsegs⟩ :=
    exists_reloaded m junk pos hname (noClash_of_readAs hnodup haddr) hlt hfirst
  exact ⟨file, loaded, hload, hprepare, hsegs⟩

end Reload

/-! ### Writing it again -/

/-- What the writer looks at in a block is the same. -/
structure TB.SameOutput (tb : TB ι) (tb' : TB κ) : Prop where
  kept : tb'.originAotTb.kept = tb.originAotTb.kept
  rels : tb'.validRels = tb.validRels
  words : tb'.codeWords = tb.codeWords

/-- What the writer looks at in a segment is the same. -/
structure Segment.SameOutput (seg : Segment (TB ι)) (seg' : Segment (TB κ)) : Prop where
  info : seg'.seg.info = seg.seg.info
  ismap : seg'.seg.ismap = seg.seg.ismap
  libName : seg'.libName = seg.libName
  tbs : List.Forall₂ TB.SameOutput seg.tbs seg'.tbs

section Congr

/-- Lists that are related one by one have the same values. -/
theorem map_eq_of_forall₂ {α β γ : Type} {R : α → β → Prop} {f : α → γ} {g : β → γ}
    (hfg : ∀ a b, R a b → g b = f a) {as : List α} {bs : List β} (h : List.Forall₂ R as bs) :
    bs.map g = as.map f := by
  induction h with
  | nil => rfl
  | cons hab _ ih => rw [List.map_cons, hfg _ _ hab, ih, List.map_cons]

namespace TBWriter

/-- The loop over the relocations looks at the valid ones. -/
theorem copyRels_eq : ∀ (rels : List RelSlot) (relBuf : ℕ) (w : Writer),
    copyRels rels relBuf w =
      copyRels (((rels.filter (·.valid)).map (·.rel)).map (⟨·, true⟩)) relBuf w
  | [], _, _ => rfl
  | r :: rels, relBuf, w => by
    by_cases hv : r.valid
    · rw [List.filter_cons_of_pos hv, List.map_cons, List.map_cons, copyRels, if_pos hv, copyRels,
        if_pos rfl]
      exact copyRels_eq rels _ _
    · rw [List.filter_cons_of_neg hv, copyRels, if_neg hv]
      exact copyRels_eq rels _ _

variable {tb : TB ι} {tb' : TB κ}

theorem copyRels_congr (h : tb.SameOutput tb') (relBuf : ℕ) (w : Writer) :
    copyRels tb'.rels relBuf w = copyRels tb.rels relBuf w := by
  have hrels : (tb'.rels.filter (·.valid)).map (·.rel) = (tb.rels.filter (·.valid)).map (·.rel) := h.rels
  rw [copyRels_eq, hrels, ← copyRels_eq]

theorem totalSize_congr (h : tb.SameOutput tb') : tb'.disInsns.totalSize = tb.disInsns.totalSize := by
  rw [LinkList.totalSize, ← TB.length_codeWords, h.words, TB.length_codeWords, LinkList.totalSize]

theorem howManyRel_congr (h : tb.SameOutput tb') : tb'.howManyRel = tb.howManyRel := by
  have hcount : ∀ {α : Type} (tb : TB α), tb.rels.countP (·.valid) = tb.validRels.length := fun tb => by
    rw [TB.validRels, List.length_map, List.countP_eq_length_filter]
  rw [TB.howManyRel, hcount, h.rels, ← hcount, TB.howManyRel]

theorem tbEntry_congr (h : tb.SameOutput tb') (c : BitVec 32) (insnPtr : ℕ) :
    tb'.tbEntry c insnPtr = tb.tbEntry c insnPtr := by
  have hentry : ∀ {α : Type} (tb : TB α), tb.tbEntry c insnPtr = { tb.originAotTb.kept with
      tbCacheOffset := BitVec.ofNat 32 insnPtr
      tbCacheSize := (tb.disInsns.totalSize * 4).setWidth 32
      relStartIndex := c
      relEndIndex := c + BitVec.ofNat 32 tb.validRels.length - 1 } := fun _ => rfl
  rw [hentry, hentry, h.kept, h.rels, totalSize_congr h]

/-- The loop over the blocks. -/
theorem writeTBs_congr {tbs : List (TB ι)} {tbs' : List (TB κ)}
    (h : List.Forall₂ TB.SameOutput tbs tbs') (cur relBuf insnPtr : ℕ) (w : Writer) :
    writeTBs tbs' cur relBuf insnPtr w = writeTBs tbs cur relBuf insnPtr w := by
  induction h generalizing cur relBuf insnPtr w with
  | nil => rfl
  | @cons tb tb' tbs tbs' htb h ih =>
    have hcode : withCode tb' insnPtr w = withCode tb insnPtr w := by
      have hwords : tb'.disInsns.nodes.map (fun n => encode n.data) =
          tb.disInsns.nodes.map fun n => encode n.data := htb.words
      rw [withCode, emit_eq_placed, hwords, ← emit_eq_placed, withCode]
    rw [writeTBs_cons, writeTBs_cons, ih, hcode, copyRels_congr htb, tbEntry_congr htb,
      howManyRel_congr htb, totalSize_congr htb]

end TBWriter

namespace SegmentsWriter

variable {segs : List (Segment (TB ι))} {segs' : List (Segment (TB κ))}

theorem howManyTbs_congr {seg : Segment (TB ι)} {seg' : Segment (TB κ)} (h : seg.SameOutput seg') :
    seg'.howManyTbs = seg.howManyTbs := by
  rw [Segment.howManyTbs, ← h.tbs.length_eq, Segment.howManyTbs]

theorem howManyRel_congr {seg : Segment (TB ι)} {seg' : Segment (TB κ)} (h : seg.SameOutput seg') :
    seg'.howManyRel = seg.howManyRel := by
  rw [Segment.howManyRel, map_eq_of_forall₂ (fun _ _ htb => TBWriter.howManyRel_congr htb) h.tbs,
    Segment.howManyRel]

theorem howManyCode_congr {seg : Segment (TB ι)} {seg' : Segment (TB κ)} (h : seg.SameOutput seg') :
    seg'.howManyCode = seg.howManyCode := by
  have hcode : ∀ (tb : TB ι) (tb' : TB κ), tb.SameOutput tb' → tb'.howManyCode = tb.howManyCode := by
    intro tb tb' htb
    rw [TB.howManyCode, TBWriter.totalSize_congr htb, TB.howManyCode]
  rw [Segment.howManyCode, map_eq_of_forall₂ hcode h.tbs, Segment.howManyCode]

/-- The second loop. -/
theorem writeSegments_congr (h : List.Forall₂ Segment.SameOutput segs segs')
    (curSeg segmentName tbTable relCur codeCur : ℕ) (w : Writer) :
    writeSegments segs' curSeg segmentName tbTable relCur codeCur w =
      writeSegments segs curSeg segmentName tbTable relCur codeCur w := by
  induction h generalizing curSeg segmentName tbTable relCur codeCur w with
  | nil => rfl
  | cons hseg h ih =>
    rw [writeSegments, writeSegments]
    simp only [ih, howManyTbs_congr hseg, howManyRel_congr hseg, howManyCode_congr hseg, hseg.info,
      hseg.ismap, ← hseg.tbs.length_eq, TBWriter.writeToBuf, TBWriter.writeTBs_congr hseg.tbs]

theorem writeNames_congr (h : List.Forall₂ Segment.SameOutput segs segs') (current : ℕ) :
    writeNames segs' current = writeNames segs current := by
  induction h generalizing current with
  | nil => rfl
  | cons hseg _ ih => rw [writeNames, writeNames, ih, hseg.libName]

end SegmentsWriter

/-- **What the writer looks at** is all that it depends on. -/
theorem writeTo_congr {segs : List (Segment (TB ι))} {segs' : List (Segment (TB κ))}
    (h : List.Forall₂ Segment.SameOutput segs segs') (hdr : AOTHeader) (c : BitVec 32) :
    AOTFileWriter.writeTo segs' hdr c = AOTFileWriter.writeTo segs hdr c := by
  rw [AOTFileWriter.writeTo, AOTFileWriter.writeTo, SegmentsWriter.writeToBuf, SegmentsWriter.writeToBuf]
  simp only [SegmentsWriter.writeSegments_congr h, SegmentsWriter.writeNames_congr h, ← h.length_eq,
    map_eq_of_forall₂ (fun _ _ hseg => SegmentsWriter.howManyTbs_congr hseg) h,
    map_eq_of_forall₂ (fun _ _ hseg => SegmentsWriter.howManyRel_congr hseg) h]

theorem TB.bytes_congr {tb : TB ι} {tb' : TB κ} (h : tb.SameOutput tb') : tb'.bytes = tb.bytes := by
  rw [TB.bytes, h.words, h.rels, TB.bytes]

/-- The sizes are the same. -/
theorem fileBytes_congr {segs : List (Segment (TB ι))} {segs' : List (Segment (TB κ))}
    (h : List.Forall₂ Segment.SameOutput segs segs') : fileBytes segs' = fileBytes segs := by
  have hseg : ∀ (seg : Segment (TB ι)) (seg' : Segment (TB κ)), seg.SameOutput seg' →
      seg'.bytes = seg.bytes := by
    intro seg seg' hseg
    rw [Segment.bytes, map_eq_of_forall₂ (fun _ _ htb => TB.bytes_congr htb) hseg.tbs, Segment.bytes]
  rw [fileBytes, map_eq_of_forall₂ hseg h, fileBytes]

end Congr

/-- What is loaded looks the same to the writer. -/
theorem TB.Reloaded.sameOutput {tb : TB ι} {tb' : TB ℕ} (h : tb.Reloaded tb') : tb.SameOutput tb' where
  kept := h.kept
  rels := by
    rw [TB.validRels, h.rels]
    simp [List.filter_map, Function.comp_def]
  words := by
    have hwords : tb'.codeWords = tb'.insns.map encode := by
      rw [TB.codeWords, TB.insns, List.map_map]
      rfl
    rw [hwords, h.words, List.map_map]
    exact List.map_id'' (fun word => encode_disassemble word) _

theorem Segment.Reloaded.sameOutput {seg : Segment (TB ι)} {seg' : Segment (TB ℕ)}
    (h : seg.Reloaded seg') : seg.SameOutput seg' :=
  ⟨h.info, h.ismap, h.libName, h.tbs.imp fun _ _ htb => htb.sameOutput⟩

/-- **The file that is loaded is written as the same bytes**, and as many: to load a file that was
written, and to write it, changes nothing. -/
theorem AOTFile.rewrite_bytes {segs : List (Segment (TB ι))} (m junk : ℕ → BitVec 8) (pos : ℕ)
    (hname : ∀ seg ∈ segs, seg.libName.length < PATH_MAX ∧ 0 ∉ seg.libName)
    (hnodup : (addresses segs).Nodup) (haddr : ∀ a ∈ addresses segs, a < 2 ^ 32)
    (hlt : fileBytes segs < 2 ^ 31) (hfirst : ¬FirstHasNoRel (segs.flatMap (·.tbs))) :
    ∃ file loaded,
      loadFrom junk ⟨AOTFileWriter.bytes segs m 0, (AOTFileWriter.howManyBytes segs).toNat, pos⟩ =
        .ok file ∧
      (∀ i ∈ file.ids, file.prepare i = .ok (loaded i)) ∧
      AOTFileWriter.howManyBytes (file.segs.map (Segment.map loaded)) =
        AOTFileWriter.howManyBytes segs ∧
      ∀ (m' : ℕ → BitVec 8) (c : BitVec 32),
        AOTFileWriter.bytes (file.segs.map (Segment.map loaded)) m' c = AOTFileWriter.bytes segs m' c := by
  obtain ⟨-, file, loaded, hload, -, -, hprepare, hsegs⟩ :=
    exists_reloaded m junk pos hname (noClash_of_readAs hnodup haddr) hlt hfirst
  have hsame := hsegs.imp fun _ _ hseg => hseg.sameOutput
  refine ⟨file, loaded, hload, hprepare, BitVec.eq_of_toNat_eq ?_, fun m' c => ?_⟩
  · rw [AOTFileWriter.toNat_howManyBytes (by rw [fileBytes_congr hsame]; omega),
      AOTFileWriter.toNat_howManyBytes (by omega), fileBytes_congr hsame]
  · rw [AOTFileWriter.bytes, AOTFileWriter.bytes, writeTo_congr hsame]

/-! ### Three segments -/

section ThreeSegments

theorem names_threeSegments :
    ∀ seg ∈ threeSegments, seg.libName.length < PATH_MAX ∧ 0 ∉ seg.libName := by
  simp [threeSegments, PATH_MAX]

theorem first_threeSegments : ¬FirstHasNoRel (threeSegments.flatMap (·.tbs)) := by
  rintro ⟨tb, htb, hnil⟩
  obtain rfl := Option.some.inj htb
  cases hnil

theorem reload_threeSegments : ∃ file loaded,
    AOTFile.loadFrom (fun _ => 0xff) ⟨AOTFileWriter.bytes threeSegments (fun _ => 0xff) 0,
        (AOTFileWriter.howManyBytes threeSegments).toNat, 0⟩ = .ok file ∧
      (∀ i ∈ file.ids, file.prepare i = .ok (loaded i)) ∧
      List.Forall₂ Segment.Reloaded threeSegments (file.segs.map (Segment.map loaded)) :=
  AOTFile.reload_bytes _ _ _ names_threeSegments (by decide) (by decide) (by decide)
    first_threeSegments

theorem rewrite_threeSegments : ∃ file loaded,
    AOTFile.loadFrom (fun _ => 0xff) ⟨AOTFileWriter.bytes threeSegments (fun _ => 0xff) 0,
        (AOTFileWriter.howManyBytes threeSegments).toNat, 0⟩ = .ok file ∧
      (∀ i ∈ file.ids, file.prepare i = .ok (loaded i)) ∧
      AOTFileWriter.howManyBytes (file.segs.map (Segment.map loaded)) =
        AOTFileWriter.howManyBytes threeSegments ∧
      ∀ (m' : ℕ → BitVec 8) (c : BitVec 32), AOTFileWriter.bytes (file.segs.map (Segment.map loaded)) m' c =
        AOTFileWriter.bytes threeSegments m' c :=
  AOTFile.rewrite_bytes _ _ _ names_threeSegments (by decide) (by decide) (by decide)
    first_threeSegments

end ThreeSegments

end AotOpt
