import AotOpt.AOTFileWriter.Layout
import AotOpt.AotClass.Addresses
import AotOpt.AotClass.Reader
import Mathlib.Data.List.Forall2

/-!
# Reading back what was written

The bytes of a file that is written, and what the constructors read from them.

* `holdsAll_memory` — every structure that is written is in the buffer, whatever was there before.
* `Described.segmentsAt` — the offsets lead the reader to what was written.
* `AOTFile.loadFrom_bytes` — a file that is written is loaded again: the segments, the entries of the
  blocks but for what is set when they are written, and the code.
-/

namespace AotOpt

open Lib

variable {ι : Type}

/-! ### The bytes -/

/-- What was written, each structure with its slot and its fields. -/
def OutBuf.records (buf : OutBuf) : List (Slot × Fields) :=
  (⟨0, sizeofAOTHeader, sizeofAOTHeader⟩, buf.hdr.fields) ::
    (buf.segtab.map fun p => (⟨p.1, sizeofAOTSegment, sizeofAOTSegment⟩, p.2.fields)) ++
    (buf.libNames.map fun p => (⟨p.1, PATH_MAX, p.2.length⟩, [(0, p.2)])) ++
    (buf.tbtab.map fun p => (⟨p.1, sizeofAOTTB, sizeofAOTTB⟩, p.2.fields)) ++
    (buf.reltab.map fun p => (⟨p.1, sizeofAOTRel, sizeofAOTRel⟩, p.2.fields)) ++
    buf.code.map fun p => (⟨p.1, 4, 4⟩, [(0, le 4 p.2.toNat)])

/-- The buffer after the writes, `m` before. Writes that do not overlap can be made in any order. -/
def OutBuf.memory (m : ℕ → BitVec 8) (buf : OutBuf) : ℕ → BitVec 8 :=
  writeAll m (recordWrites buf.records)

/-- The buffer after `AOTFileWriter::write_to_buf`. -/
def AOTFileWriter.bytes (segs : List (Segment (TB ι))) (m : ℕ → BitVec 8) (c : BitVec 32) :
    ℕ → BitVec 8 := (writeTo segs (.ofBytes m) c).buf.memory m

section Memory

variable {buf : OutBuf} {segs : List (Segment (TB ι))} {c : BitVec 32}

theorem map_fst_records (buf : OutBuf) : buf.records.map (·.1) = buf.slots := by
  simp [OutBuf.records, OutBuf.slots, Function.comp_def]

theorem fits_records : ∀ r ∈ buf.records, Fits 0 r.2 r.1.used := by
  intro r hr
  simp only [OutBuf.records, List.cons_append, List.mem_cons, List.mem_append, List.mem_map] at hr
  rcases hr with rfl | (((⟨p, -, rfl⟩ | ⟨p, -, rfl⟩) | ⟨p, -, rfl⟩) | ⟨p, -, rfl⟩) | ⟨p, -, rfl⟩
  · exact buf.hdr.fits_fields
  · exact p.2.fits_fields
  · simp [Fits]
  · exact p.2.fits_fields
  · exact p.2.fits_fields
  · simp [Fits]

/-- **Every structure is in the buffer**. -/
theorem Laid.holdsAll (h : Laid segs c buf) (hname : ∀ seg ∈ segs, seg.libName.length < PATH_MAX)
    (m : ℕ → BitVec 8) : ∀ r ∈ buf.records, HoldsAll (buf.memory m) r.1.start r.2 := by
  have hapart := h.tiles.written_apart (h.used_le hname)
  rw [← map_fst_records, List.map_map] at hapart
  exact holdsAll_writeRecords m hapart fits_records

/-- Every slot is inside the file. -/
theorem Laid.inside (h : Laid segs c buf) : ∀ r ∈ buf.records, r.1.start + r.1.size ≤ fileBytes segs := by
  intro r hr
  have hmem : r.1 ∈ buf.slots := map_fst_records buf ▸ List.mem_map_of_mem hr
  exact (h.tiles.inside _ (List.mem_map_of_mem hmem)).2

/-- What was written is in a file of the size. -/
structure InFile (m : ℕ → BitVec 8) (size : ℕ) (buf : OutBuf) : Prop where
  hdr : HoldsAll m 0 buf.hdr.fields ∧ sizeofAOTHeader ≤ size
  segtab : ∀ p ∈ buf.segtab, HoldsAll m p.1 p.2.fields ∧ p.1 + sizeofAOTSegment ≤ size
  libNames : ∀ p ∈ buf.libNames, Holds m p.1 p.2 ∧ p.1 + PATH_MAX ≤ size
  tbtab : ∀ p ∈ buf.tbtab, HoldsAll m p.1 p.2.fields ∧ p.1 + sizeofAOTTB ≤ size
  code : ∀ p ∈ buf.code, Holds m p.1 (le 4 p.2.toNat) ∧ p.1 + 4 ≤ size

theorem Laid.inFile (h : Laid segs c buf) (hname : ∀ seg ∈ segs, seg.libName.length < PATH_MAX)
    (m : ℕ → BitVec 8) : InFile (buf.memory m) (fileBytes segs) buf := by
  have hrecord : ∀ r ∈ buf.records, HoldsAll (buf.memory m) r.1.start r.2 ∧
      r.1.start + r.1.size ≤ fileBytes segs := fun r hr => ⟨h.holdsAll hname m r hr, h.inside r hr⟩
  simp only [OutBuf.records, List.cons_append, List.forall_mem_cons, List.forall_mem_append,
    List.forall_mem_map] at hrecord
  obtain ⟨hhdr, ⟨⟨⟨hsegtab, hnames⟩, htbtab⟩, -⟩, hcode⟩ := hrecord
  exact
    { hdr := hhdr
      segtab := hsegtab
      libNames := fun p hp => ⟨(hnames p hp).1 (0, p.2) List.mem_cons_self, (hnames p hp).2⟩
      tbtab := htbtab
      code := fun p hp => ⟨(hcode p hp).1 (0, le 4 p.2.toNat) List.mem_cons_self, (hcode p hp).2⟩ }

end Memory

/-! ### What the reader finds -/

/-- What is read for the block. -/
structure TB.ReadAs (tb : TB ι) (img : TBImage) : Prop where
  kept : img.aotTb.kept = tb.originAotTb.kept
  words : img.code.words = tb.codeWords
  size : img.code.size.toNat = 4 * tb.codeWords.length

/-- What is read for the segment. -/
structure Segment.ReadAs (seg : Segment (TB ι)) (img : SegmentImage) : Prop where
  info : img.seg.info = seg.seg.info
  ismap : img.seg.ismap = seg.seg.ismap
  libName : img.libName = seg.libName
  tbs : List.Forall₂ TB.ReadAs seg.tbs img.tbs

section Reading

variable {α β γ : Type} {R : α → β → Prop}

theorem mem_zipWith_of_mem_zip {f : α → β → γ} {as : List α} {bs : List β} {a : α} {b : β}
    (h : (a, b) ∈ as.zip bs) : f a b ∈ List.zipWith f as bs := by
  rw [← List.map_uncurry_zip_eq_zipWith]
  exact List.mem_map_of_mem (f := Function.uncurry f) h

theorem exists_mem_zip : ∀ {as : List α} {bs : List β}, List.Forall₂ R as bs → ∀ b ∈ bs,
    ∃ a, (a, b) ∈ as.zip bs ∧ R a b
  | _, _, .nil, _, hb => by cases hb
  | a :: as, b' :: bs, .cons hab h, b, hb => by
    rcases List.mem_cons.mp hb with rfl | hb
    · exact ⟨a, List.mem_cons_self, hab⟩
    · obtain ⟨a', hmem, ha'⟩ := exists_mem_zip h b hb
      exact ⟨a', List.mem_cons_of_mem _ hmem, ha'⟩

variable {m : ℕ → BitVec 8} {size : ℕ} {segs : List (Segment (TB ι))} {buf : OutBuf}
  {ds : List (AOTSegment × List AOTTB)}

/-- The code of a block is in the file. -/
theorem Described.code_mem (h : Described segs buf ds) {seg : Segment (TB ι)}
    {d : AOTSegment × List AOTTB} (hd : (seg, d) ∈ segs.zip ds) {tb : TB ι} {t : AOTTB}
    (ht : (tb, t) ∈ seg.tbs.zip d.2) :
    ∀ p ∈ placed 4 t.tbCacheOffset.toNat tb.codeWords, p ∈ buf.code := by
  intro p hp
  rw [h.code]
  refine List.mem_flatten.mpr ⟨_, mem_zipWith_of_mem_zip hd, ?_⟩
  exact List.mem_flatten.mpr ⟨_, mem_zipWith_of_mem_zip ht, hp⟩

/-- **The reader finds what was written**. -/
theorem Described.segmentsAt (h : Described segs buf ds) (hin : InFile m size buf) :
    SegmentsAt m size buf.hdr.segtabOffset.toNat ds := by
  intro p hp
  have hd : p.2 ∈ ds := by
    have hmem := List.mem_map_of_mem (f := Prod.snd) hp
    rwa [map_snd_placed] at hmem
  obtain ⟨seg, hzip, hseg⟩ := exists_mem_zip h.entries p.2 hd
  have hentry : (p.1, p.2.1) ∈ buf.segtab := by
    rw [h.segtab, placed_map]
    exact List.mem_map_of_mem (f := fun p : ℕ × AOTSegment × List AOTTB => (p.1, p.2.1)) hp
  have hname : (p.2.1.libNameOffset.toNat, SegmentsWriter.nameBytes seg) ∈ buf.libNames := by
    rw [h.libNames]
    exact mem_zipWith_of_mem_zip hzip
  refine ⟨(hin.segtab _ hentry).1, (hin.segtab _ hentry).2, ?_⟩
  refine ⟨hseg.tbNums.trans hseg.tbs.length_eq, (hin.libNames _ hname).2, fun q hq => ?_⟩
  have htb : q ∈ buf.tbtab := by
    rw [h.tbtab]
    exact List.mem_flatMap.mpr ⟨p.2, hd, hq⟩
  refine ⟨(hin.tbtab _ htb).1, (hin.tbtab _ htb).2, fun i hi => ?_⟩
  have ht : q.2 ∈ p.2.2 := by
    have hmem := List.mem_map_of_mem (f := Prod.snd) hq
    rwa [map_snd_placed] at hmem
  obtain ⟨tb, htzip, htdesc⟩ := exists_mem_zip hseg.tbs q.2 ht
  rw [htdesc.size] at hi
  have hword := hin.code _ (h.code_mem hzip htzip _
    (mem_placed (show i / 4 < tb.codeWords.length by omega)))
  have hle := hword.2
  dsimp only at hle
  omega

/-- The code that is found. -/
theorem TB.readAs_inMemory {tb : TB ι} {t : AOTTB} (h : tb.DescribedBy t)
    (hcode : ∀ p ∈ placed 4 t.tbCacheOffset.toNat tb.codeWords, Holds m p.1 (le 4 p.2.toNat)) :
    tb.ReadAs (TBImage.inMemory m t) := by
  have hlen : (t.tbCacheSize >>> 2).toNat = tb.codeWords.length := by
    rw [BitVec.toNat_ushiftRight, h.size, Nat.shiftRight_eq_div_pow]
    omega
  refine ⟨h.kept, List.ext_getElem ?_ fun i hi hi' => ?_, h.size⟩
  · simp only [TBImage.inMemory, TBImage.ofCode, List.length_map, List.length_range, hlen]
  · have hword : Holds m (t.tbCacheOffset.toNat + 4 * i) (le 4 tb.codeWords[i].toNat) :=
      hcode _ (mem_placed hi')
    simp only [TBImage.inMemory, TBImage.ofCode, List.getElem_map, List.getElem_range]
    exact num_of_holds hword.part (by decide)

theorem Described.readAs (h : Described segs buf ds) (hin : InFile m size buf)
    (hname : ∀ seg ∈ segs, seg.libName.length < PATH_MAX ∧ 0 ∉ seg.libName) :
    List.Forall₂ Segment.ReadAs segs (ds.map (SegmentImage.inMemory m)) := by
  rw [List.forall₂_map_right_iff, List.forall₂_iff_zip]
  refine ⟨h.entries.length_eq, fun {seg d} hzip => ?_⟩
  have hseg := (List.forall₂_iff_zip.mp h.entries).2 hzip
  have hlib : (d.1.libNameOffset.toNat, SegmentsWriter.nameBytes seg) ∈ buf.libNames := by
    rw [h.libNames]
    exact mem_zipWith_of_mem_zip hzip
  obtain ⟨hlen, hnul⟩ := hname seg (List.of_mem_zip hzip).1
  have hholds : Holds m (d.1.libNameOffset.toNat + 0) (seg.libName ++ [0]) := (hin.libNames _ hlib).1
  have hstring : cString (fun i => m (d.1.libNameOffset.toNat + i)) = seg.libName :=
    takeWhile_of_holds hholds.part hlen hnul
  refine ⟨hseg.info, hseg.ismap, by rw [SegmentImage.inMemory, hstring], ?_⟩
  rw [SegmentImage.inMemory, List.forall₂_map_right_iff, List.forall₂_iff_zip]
  refine ⟨hseg.tbs.length_eq, fun {tb t} htzip => ?_⟩
  exact TB.readAs_inMemory ((List.forall₂_iff_zip.mp hseg.tbs).2 htzip) fun p hp =>
    (hin.code p (h.code_mem hzip htzip p hp)).1

end Reading

/-! ### Loading it -/

/-- The addresses of the blocks. -/
def addresses (segs : List (Segment (TB ι))) : List ℕ := segs.flatMap fun seg =>
  seg.tbs.map fun tb => seg.seg.info.segBegin.toNat + tb.originAotTb.offsetInSegment.toNat

/-- The address of a block that is read. -/
def BlockImage.address (b : BlockImage) : ℕ :=
  b.segBegin.toNat + b.img.aotTb.offsetInSegment.toNat

/-- The block is the one that was written. -/
structure TB.ReadBack (tb : TB ι) (tb' : TB ℕ) : Prop where
  kept : tb'.originAotTb.kept = tb.originAotTb.kept
  words : tb'.code.words = tb.codeWords
  size : tb'.code.size.toNat = 4 * tb.codeWords.length

/-- The segment of the file is the one that was written, and its blocks are. -/
structure Segment.ReadBack (file : AOTFile ℕ) (seg : Segment (TB ι)) (seg' : Segment ℕ) : Prop where
  info : seg'.seg.info = seg.seg.info
  ismap : seg'.seg.ismap = seg.seg.ismap
  libName : seg'.libName = seg.libName
  tbs : List.Forall₂ (fun tb i => tb.ReadBack (file.tb i)) seg.tbs seg'.tbs

section Loading

theorem map_address {segBegin : BitVec 64} : ∀ {tbs : List (TB ι)} {imgs : List TBImage},
    List.Forall₂ TB.ReadAs tbs imgs → (imgs.map (⟨segBegin, ·⟩)).map BlockImage.address =
      tbs.map fun tb => segBegin.toNat + tb.originAotTb.offsetInSegment.toNat
  | _, _, .nil => rfl
  | tb :: tbs, img :: imgs, .cons htb h => by
    have hoffset : img.aotTb.kept.offsetInSegment = tb.originAotTb.kept.offsetInSegment := by
      rw [htb.kept]
    change img.aotTb.offsetInSegment = tb.originAotTb.offsetInSegment at hoffset
    rw [List.map_cons, List.map_cons, map_address h, BlockImage.address, hoffset, List.map_cons]

theorem map_address_blocks : ∀ {segs : List (Segment (TB ι))} {imgs : List SegmentImage},
    List.Forall₂ Segment.ReadAs segs imgs →
      (imgs.flatMap fun s => s.tbs.map (⟨s.seg.info.segBegin, ·⟩)).map BlockImage.address =
        addresses segs
  | _, _, .nil => rfl
  | seg :: segs, img :: imgs, .cons hseg h => by
    rw [List.flatMap_cons, List.map_append, map_address_blocks h, map_address hseg.tbs, hseg.info,
      addresses, addresses, List.flatMap_cons]

/-- Blocks at different addresses of 32 bits do not clash. -/
theorem noClash_of_nodup {bs : List BlockImage} (hnodup : (bs.map BlockImage.address).Nodup)
    (hlt : ∀ a ∈ bs.map BlockImage.address, a < 2 ^ 32) : Loading.NoClash bs := by
  have hkey : ∀ b ∈ bs, b.key.toNat = b.address ∧ b.addr = b.key := by
    intro b hb
    have hb := hlt _ (List.mem_map_of_mem hb)
    have heq : b.key.toNat = b.address := by
      rw [BlockImage.address] at hb ⊢
      rw [BlockImage.key, AOTTB.keyAt, BitVec.toNat_add, BitVec.toNat_setWidth]
      omega
    exact ⟨heq, by rw [x86AddrAt_eq, cut32_eq_self, heq]; exact hb⟩
  refine (List.pairwise_map.mp hnodup).imp_of_mem fun {b b'} hb hb' hne heq => hne ?_
  rw [(hkey b' hb').2] at heq
  rw [← (hkey b hb).1, ← (hkey b' hb').1, heq]

variable {file : AOTFile ℕ}

/-- The blocks of a segment are the next ones. -/
theorem readBack_range' : ∀ {tbs : List (TB ι)} {imgs : List TBImage} (segBegin : BitVec 64) {n : ℕ},
    List.Forall₂ TB.ReadAs tbs imgs →
    (∀ i b, (imgs.map fun img => BlockImage.mk segBegin img)[i]? = some b → file.tb (n + i) = b.tb) →
      List.Forall₂ (fun tb i => tb.ReadBack (file.tb i)) tbs (List.range' n imgs.length)
  | _, _, _, _, .nil, _ => .nil
  | tb :: tbs, img :: imgs, segBegin, n, .cons htb h, hfile => by
    rw [List.length_cons, List.range'_succ]
    have hfirst := hfile 0 ⟨segBegin, img⟩ rfl
    refine .cons ?_ (readBack_range' segBegin h fun i b hb => ?_)
    · rw [Nat.add_zero] at hfirst
      rw [hfirst]
      exact ⟨htb.kept, htb.words, htb.size⟩
    · have hnext := hfile (i + 1) b hb
      rwa [← Nat.add_assoc, Nat.add_right_comm] at hnext

/-- The segments that are made. -/
theorem readBack_segsFrom : ∀ {segs : List (Segment (TB ι))} {imgs : List SegmentImage} {n : ℕ},
    List.Forall₂ Segment.ReadAs segs imgs →
    (∀ i b, (imgs.flatMap fun s => s.tbs.map (BlockImage.mk s.seg.info.segBegin))[i]? = some b →
      file.tb (n + i) = b.tb) →
      List.Forall₂ (Segment.ReadBack file) segs (Loading.segsFrom n imgs) := by
  intro segs imgs n h hfile
  induction h generalizing n with
  | nil => exact .nil
  | @cons seg img segs imgs hseg h ih =>
    rw [Loading.segsFrom]
    rw [List.flatMap_cons] at hfile
    refine .cons ⟨hseg.info, hseg.ismap, hseg.libName, ?_⟩ (ih fun i b hb => ?_)
    · refine readBack_range' img.seg.info.segBegin hseg.tbs fun i b hb => hfile i b ?_
      rw [List.getElem?_append_left (List.getElem?_eq_some_iff.mp hb).1]
      exact hb
    · rw [Nat.add_assoc]
      refine hfile (img.tbs.length + i) b ?_
      rw [List.getElem?_append_right (by rw [List.length_map]; omega), List.length_map,
        Nat.add_sub_cancel_left]
      exact hb

variable {segs : List (Segment (TB ι))}

/-- **A file that is written is loaded again**, whatever was in the buffer before. -/
theorem AOTFile.loadFrom_bytes (m junk : ℕ → BitVec 8) (c : BitVec 32) (pos : ℕ)
    (hname : ∀ seg ∈ segs, seg.libName.length < PATH_MAX ∧ 0 ∉ seg.libName)
    (hnodup : (addresses segs).Nodup) (haddr : ∀ a ∈ addresses segs, a < 2 ^ 32)
    (hlt : fileBytes segs < 2 ^ 31) :
    ∃ file, loadFrom junk ⟨AOTFileWriter.bytes segs m c, (AOTFileWriter.howManyBytes segs).toNat, pos⟩ =
        .ok file ∧ List.Forall₂ (Segment.ReadBack file) segs file.segs := by
  have hlaid : Laid segs c (AOTFileWriter.writeTo segs (.ofBytes m) c).buf :=
    laid_writeTo _ c (by omega)
  have hin := hlaid.inFile (fun seg hseg => (hname seg hseg).1) m
  have hdesc := hlaid.described (by omega)
  rw [AOTFileWriter.toNat_howManyBytes (by omega), loadFrom, AOTFileWriter.bytes]
  -- what is read does not depend on how the buffer came about
  generalize (AOTFileWriter.writeTo segs (.ofBytes m) c).buf.memory m = mem at hin ⊢
  have hsegs : (Image.read junk ⟨mem, fileBytes segs, pos⟩).segs = _ := Image.segs_read hlt hin.hdr.2
    hin.hdr.1 (hdesc.segnum.trans hdesc.entries.length_eq) (hdesc.segmentsAt hin)
  have hread := hdesc.readAs hin hname
  rw [← hsegs] at hread
  generalize Image.read junk ⟨mem, fileBytes segs, pos⟩ = image at hread ⊢
  have hblocks := map_address_blocks hread
  have hno : Loading.NoClash image.blocks := by
    refine noClash_of_nodup ?_ ?_
    · rw [Image.blocks, hblocks]
      exact hnodup
    · rw [Image.blocks, hblocks]
      exact haddr
  obtain ⟨file, -, hload, -⟩ := (load_cases image).1 hno
  refine ⟨file, hload, ?_⟩
  rw [segs_load hload]
  refine readBack_segsFrom hread fun i b hb => ?_
  rw [Nat.zero_add]
  exact tb_load_of_getElem? hload hb

/-- A segment with a block of one instruction, one without a block, and one at `0x1000`. -/
def threeSegments : List (Segment (TB ℕ)) :=
  [⟨default, [0x61], [{ blockWithRel with disInsns := LinkList.empty.insertAtTail .zero }]⟩,
    ⟨default, [], []⟩,
    ⟨{ (default : AOTSegment) with info := { (default : AOTSegInfo) with segBegin := 0x1000 } }, [0x62],
      [blockWithoutRel]⟩]

theorem AOTFile.loadFrom_threeSegments :
    ∃ file, loadFrom (fun _ => 0xff) ⟨AOTFileWriter.bytes threeSegments (fun _ => 0xff) 5,
        (AOTFileWriter.howManyBytes threeSegments).toNat, 0⟩ = .ok file ∧
      List.Forall₂ (Segment.ReadBack file) threeSegments file.segs := by
  have hname : ∀ seg ∈ threeSegments, seg.libName.length < PATH_MAX ∧ 0 ∉ seg.libName := by
    simp [threeSegments, PATH_MAX]
  exact loadFrom_bytes _ _ _ _ hname (by decide) (by decide) (by decide)

end Loading

end AotOpt
