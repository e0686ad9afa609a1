import AotOpt.AotClass.AOTFile
import AotOpt.Basic.Memory
import AotOpt.Lib.File

/-!
# Reading an AOT file

What the constructors `TB`, `Segment` and `AOT_File` read from a file. They go to a table by its
offset, and a segment that is read goes back to where the next one is; that position is kept in an
`int`. A variable that is not initialized holds `junk` before it is read.

* `Image.segs_read` — if the tables are where the offsets say, and are inside the file, they are
  what is read.
-/

namespace AotOpt

open Lib

section Reader

variable (junk : ℕ → BitVec 8)

/-! ### Blocks -/

/-- A block whose code is read into `code`. -/
def TBImage.ofCode (aotTb : AOTTB) (code : ℕ → BitVec 8) : TBImage where
  aotTb := aotTb
  code :=
    { size := aotTb.tbCacheSize
      words := (List.range (aotTb.tbCacheSize >>> 2).toNat).map fun i => num 32 4 code (4 * i)
      length_words := by rw [List.length_map, List.length_range] }
  size_eq := rfl

/-- `TB`. -/
def TBImage.read (aotTb : AOTTB) (f : CFile) : TBImage × CFile :=
  let save := f.tell 32
  let (code, f) := (f.seek aotTb.tbCacheOffset.toNat).read aotTb.tbCacheSize.toNat junk
  (.ofCode aotTb code, f.seek save.toInt)

/-! ### Segments -/

/-- The loop of `Segment`, of `n` turns. -/
def SegmentImage.readTBs : (n : ℕ) → (tmp : ℕ → BitVec 8) → CFile → List TBImage × CFile
  | 0, _, f => ([], f)
  | n + 1, tmp, f =>
    let (tmp, f) := f.read sizeofAOTTB tmp
    let (tb, f) := TBImage.read junk (.ofBytes tmp) f
    let (tbs, f) := readTBs n tmp f
    (tb :: tbs, f)

/-- The string in a buffer of `PATH_MAX` bytes. -/
def cString (buf : ℕ → BitVec 8) : List (BitVec 8) := (bytesAt buf 0 PATH_MAX).takeWhile (· ≠ 0)

/-- `Segment`. -/
def SegmentImage.read (seg : AOTSegment) (f : CFile) : SegmentImage × CFile :=
  let save := f.tell 32
  let (libNameBuf, f) := (f.seek seg.libNameOffset.toNat).read PATH_MAX junk
  let (tbs, f) := readTBs junk seg.tbNums.toNat junk (f.seek seg.tbOffset.toNat)
  (⟨seg, cString libNameBuf, tbs⟩, f.seek save.toInt)

/-! ### Files -/

/-- The first loop of `AOT_File`, of `n` turns. -/
def Image.readSegments : (n : ℕ) → (segTmp : ℕ → BitVec 8) → CFile → List SegmentImage × CFile
  | 0, _, f => ([], f)
  | n + 1, segTmp, f =>
    let (segTmp, f) := f.read sizeofAOTSegment segTmp
    let (seg, f) := SegmentImage.read junk (.ofBytes segTmp) f
    let (segs, f) := readSegments n segTmp f
    (seg :: segs, f)

/-- The second loop of `AOT_File`, of `n` turns. -/
def Image.readRels : (n : ℕ) → (relTmp : ℕ → BitVec 8) → CFile → List AOTRel
  | 0, _, _ => []
  | n + 1, relTmp, f =>
    let (relTmp, f) := f.read sizeofAOTRel relTmp
    .ofBytes relTmp :: readRels n relTmp f

theorem Image.length_readRels : ∀ (n : ℕ) (relTmp : ℕ → BitVec 8) (f : CFile),
    (readRels n relTmp f).length = n
  | 0, _, _ => rfl
  | n + 1, relTmp, f => by rw [readRels, List.length_cons, length_readRels]

/-- `AOT_File`. -/
def Image.read (f : CFile) : Image :=
  let (hdrBytes, f) := (f.seek 0).read sizeofAOTHeader junk
  let hdr := AOTHeader.ofBytes hdrBytes
  let (segs, f) := readSegments junk hdr.segnum.toNat junk (f.seek hdr.segtabOffset.toNat)
  { segs := segs
    rels := readRels hdr.reltableNum.toNat junk (f.seek hdr.reltableOffset.toNat)
    length_rels := (length_readRels _ _ _).trans_lt hdr.reltableNum.isLt }

/-- `AOT_File(FILE*)` with the blocks that are made. -/
def AOTFile.loadFrom (f : CFile) : Res (AOTFile ℕ) := load (.read junk f)

end Reader

/-! ### What is read -/

section Reading

variable {m : ℕ → BitVec 8} {f : CFile} {junk : ℕ → BitVec 8}

/-- The block of the entry `t`, in memory. -/
def TBImage.inMemory (m : ℕ → BitVec 8) (t : AOTTB) : TBImage :=
  .ofCode t fun i => m (t.tbCacheOffset.toNat + i)

/-- The segment of the entry `d.1` with the blocks of the entries `d.2`, in memory. -/
def SegmentImage.inMemory (m : ℕ → BitVec 8) (d : AOTSegment × List AOTTB) : SegmentImage where
  seg := d.1
  libName := cString fun i => m (d.1.libNameOffset.toNat + i)
  tbs := d.2.map (TBImage.inMemory m)

/-- The code of the block is inside the file. -/
def AOTTB.CodeInside (t : AOTTB) (size : ℕ) : Prop :=
  ∀ i < t.tbCacheSize.toNat, t.tbCacheOffset.toNat + i < size

/-- The entries of blocks are in the file from `off` on. -/
def EntriesAt (m : ℕ → BitVec 8) (size off : ℕ) (ts : List AOTTB) : Prop :=
  ∀ p ∈ placed sizeofAOTTB off ts,
    HoldsAll m p.1 p.2.fields ∧ p.1 + sizeofAOTTB ≤ size ∧ p.2.CodeInside size

/-- What the entry of a segment refers to is in the file. -/
structure SegmentAt (m : ℕ → BitVec 8) (size : ℕ) (d : AOTSegment × List AOTTB) : Prop where
  tbNums : d.1.tbNums.toNat = d.2.length
  libName : d.1.libNameOffset.toNat + PATH_MAX ≤ size
  tbs : EntriesAt m size d.1.tbOffset.toNat d.2

/-- The entries of segments are in the file from `off` on, and what they refer to is. -/
def SegmentsAt (m : ℕ → BitVec 8) (size off : ℕ) (ds : List (AOTSegment × List AOTTB)) : Prop :=
  ∀ p ∈ placed sizeofAOTSegment off ds,
    HoldsAll m p.1 p.2.1.fields ∧ p.1 + sizeofAOTSegment ≤ size ∧ SegmentAt m size p.2

theorem TBImage.ofCode_congr {t : AOTTB} {code code' : ℕ → BitVec 8}
    (h : ∀ i < t.tbCacheSize.toNat, code i = code' i) : ofCode t code = ofCode t code' := by
  have hwords : ∀ i ∈ List.range (t.tbCacheSize >>> 2).toNat,
      num 32 4 code (4 * i) = num 32 4 code' (4 * i) := by
    intro i hi
    have hlt := List.mem_range.mp hi
    rw [BitVec.toNat_ushiftRight, Nat.shiftRight_eq_div_pow] at hlt
    exact num_congr fun j hj => h _ (by omega)
  simp only [ofCode, List.map_congr_left hwords]

/-- A block that is read, and the file is where it was. -/
theorem TBImage.read_eq {t : AOTTB} (hpos : 2 * f.pos < 2 ^ 32) (hcode : t.CodeInside f.size) :
    read junk t f = (inMemory f.bytes t, f) := by
  have hcongr : ofCode t ((f.seek t.tbCacheOffset.toNat).read t.tbCacheSize.toNat junk).1 =
      inMemory f.bytes t := by
    refine ofCode_congr fun i hi => ?_
    rw [CFile.seek_natCast, CFile.read_apply junk hi (hcode i hi)]
  rw [← hcongr]
  refine Prod.ext rfl ?_
  rw [CFile.seek_natCast]
  exact CFile.seek_tell hpos _

/-- The loop over the blocks. -/
theorem SegmentImage.readTBs_eq : ∀ (ts : List AOTTB) (tmp : ℕ → BitVec 8) {f : CFile},
    f.size < 2 ^ 31 → EntriesAt f.bytes f.size f.pos ts → readTBs junk ts.length tmp f =
      (ts.map (TBImage.inMemory f.bytes), { f with pos := f.pos + sizeofAOTTB * ts.length })
  | [], _, _, _, _ => rfl
  | t :: ts, tmp, f, hsize, h => by
    obtain ⟨hholds, hin, hcode⟩ := h (f.pos, t) List.mem_cons_self
    have hread : f.read sizeofAOTTB tmp = ((f.read sizeofAOTTB tmp).1,
        { f with pos := f.pos + sizeofAOTTB }) := Prod.ext rfl (f.read_snd tmp hin)
    have ht : AOTTB.ofBytes (f.read sizeofAOTTB tmp).1 = t :=
      AOTTB.ofBytes_of_holdsAll (f.holdsAll_read tmp hholds t.fits_fields hin)
    have htb : TBImage.read junk t { f with pos := f.pos + sizeofAOTTB } =
        (TBImage.inMemory f.bytes t, _) := TBImage.read_eq (by dsimp only at hin ⊢; omega) hcode
    have htbs := readTBs_eq (f := { f with pos := f.pos + sizeofAOTTB }) ts
      (f.read sizeofAOTTB tmp).1 hsize fun p hp => h p (List.mem_cons_of_mem _ hp)
    rw [List.length_cons, readTBs, hread]
    simp only [ht, htb, htbs]
    rw [List.map_cons, Nat.mul_succ, Nat.add_assoc, Nat.add_comm sizeofAOTTB]

theorem cString_congr {buf buf' : ℕ → BitVec 8} (h : ∀ i < PATH_MAX, buf i = buf' i) :
    cString buf = cString buf' := by
  have hbytes : bytesAt buf 0 PATH_MAX = bytesAt buf' 0 PATH_MAX :=
    List.map_congr_left fun i hi => by
      rw [Nat.zero_add]
      exact h i (List.mem_range.mp hi)
  rw [cString, cString, hbytes]

/-- A segment that is read, and the file is where it was. -/
theorem SegmentImage.read_eq {d : AOTSegment × List AOTTB} (hpos : f.pos ≤ f.size)
    (hsize : f.size < 2 ^ 31) (h : SegmentAt f.bytes f.size d) :
    read junk d.1 f = (inMemory f.bytes d, f) := by
  have hname : cString ((f.seek d.1.libNameOffset.toNat).read PATH_MAX junk).1 =
      cString fun i => f.bytes (d.1.libNameOffset.toNat + i) := by
    refine cString_congr fun i hi => ?_
    have hin := h.libName
    rw [CFile.seek_natCast, CFile.read_apply junk hi (by dsimp only; omega)]
  have htbs := @readTBs_eq junk d.2 junk { f with pos := d.1.tbOffset.toNat } hsize
    h.tbs
  rw [← h.tbNums] at htbs
  have hback := CFile.seek_tell (f := f) (w := 32) (by omega)
    (d.1.tbOffset.toNat + sizeofAOTTB * d.1.tbNums.toNat)
  rw [SegmentImage.read]
  simp only [hname]
  simp only [CFile.seek_natCast, CFile.read, htbs, hback]
  rfl

/-- **The loop over the segments**. -/
theorem Image.readSegments_eq : ∀ (ds : List (AOTSegment × List AOTTB)) (segTmp : ℕ → BitVec 8)
    {f : CFile}, f.size < 2 ^ 31 → SegmentsAt f.bytes f.size f.pos ds →
      (readSegments junk ds.length segTmp f).1 = ds.map (SegmentImage.inMemory f.bytes)
  | [], _, _, _, _ => rfl
  | d :: ds, segTmp, f, hsize, h => by
    obtain ⟨hholds, hin, hseg⟩ := h (f.pos, d) List.mem_cons_self
    have hread : f.read sizeofAOTSegment segTmp = ((f.read sizeofAOTSegment segTmp).1,
        { f with pos := f.pos + sizeofAOTSegment }) := Prod.ext rfl (f.read_snd segTmp hin)
    have hd : AOTSegment.ofBytes (f.read sizeofAOTSegment segTmp).1 = d.1 :=
      AOTSegment.ofBytes_of_holdsAll (f.holdsAll_read segTmp hholds d.1.fits_fields hin)
    have hsegment : SegmentImage.read junk d.1 { f with pos := f.pos + sizeofAOTSegment } =
        (SegmentImage.inMemory f.bytes d, _) := SegmentImage.read_eq hin hsize hseg
    have hsegs := readSegments_eq (f := { f with pos := f.pos + sizeofAOTSegment }) ds
      (f.read sizeofAOTSegment segTmp).1 hsize fun p hp => h p (List.mem_cons_of_mem _ hp)
    rw [List.length_cons, readSegments, hread]
    simp only [hd, hsegment, hsegs]
    rw [List.map_cons]

/-- Reading moves in the file and does not change it. -/
theorem TBImage.file_read (aotTb : AOTTB) (f : CFile) :
    (read junk aotTb f).2.bytes = f.bytes ∧ (read junk aotTb f).2.size = f.size := by
  simp only [read, CFile.read, CFile.seek]
  split_ifs <;> exact ⟨rfl, rfl⟩

theorem SegmentImage.file_readTBs : ∀ (n : ℕ) (tmp : ℕ → BitVec 8) (f : CFile),
    (readTBs junk n tmp f).2.bytes = f.bytes ∧ (readTBs junk n tmp f).2.size = f.size
  | 0, _, _ => ⟨rfl, rfl⟩
  | n + 1, tmp, f => by
    have htb := @TBImage.file_read junk (.ofBytes (f.read sizeofAOTTB tmp).1) (f.read sizeofAOTTB tmp).2
    have htbs := file_readTBs n (f.read sizeofAOTTB tmp).1
      (TBImage.read junk (.ofBytes (f.read sizeofAOTTB tmp).1) (f.read sizeofAOTTB tmp).2).2
    exact ⟨htbs.1.trans htb.1, htbs.2.trans htb.2⟩

theorem SegmentImage.file_read (seg : AOTSegment) (f : CFile) :
    (read junk seg f).2.bytes = f.bytes ∧ (read junk seg f).2.size = f.size := by
  have htbs := @file_readTBs junk seg.tbNums.toNat junk { f with pos := seg.tbOffset.toNat }
  rw [read]
  simp only [CFile.seek_natCast, CFile.read]
  unfold CFile.seek
  split_ifs <;> exact htbs

theorem Image.file_readSegments : ∀ (n : ℕ) (segTmp : ℕ → BitVec 8) (f : CFile),
    (readSegments junk n segTmp f).2.bytes = f.bytes ∧ (readSegments junk n segTmp f).2.size = f.size
  | 0, _, _ => ⟨rfl, rfl⟩
  | n + 1, segTmp, f => by
    have hseg := @SegmentImage.file_read junk (.ofBytes (f.read sizeofAOTSegment segTmp).1)
      (f.read sizeofAOTSegment segTmp).2
    have hsegs := file_readSegments n (f.read sizeofAOTSegment segTmp).1
      (SegmentImage.read junk (.ofBytes (f.read sizeofAOTSegment segTmp).1)
        (f.read sizeofAOTSegment segTmp).2).2
    exact ⟨hsegs.1.trans hseg.1, hsegs.2.trans hseg.2⟩

/-- The loop over the relocations. -/
theorem Image.readRels_eq : ∀ (rels : List AOTRel) (relTmp : ℕ → BitVec 8) {f : CFile},
    (∀ p ∈ placed sizeofAOTRel f.pos rels,
      HoldsAll f.bytes p.1 p.2.fields ∧ p.1 + sizeofAOTRel ≤ f.size) →
        readRels rels.length relTmp f = rels
  | [], _, _, _ => rfl
  | r :: rels, relTmp, f, h => by
    obtain ⟨hholds, hin⟩ := h (f.pos, r) List.mem_cons_self
    have hread : f.read sizeofAOTRel relTmp = ((f.read sizeofAOTRel relTmp).1,
        { f with pos := f.pos + sizeofAOTRel }) := Prod.ext rfl (f.read_snd relTmp hin)
    have hr : AOTRel.ofBytes (f.read sizeofAOTRel relTmp).1 = r :=
      AOTRel.ofBytes_of_holdsAll (f.holdsAll_read relTmp hholds r.fits_fields hin)
    have hrels := readRels_eq (f := { f with pos := f.pos + sizeofAOTRel }) rels
      (f.read sizeofAOTRel relTmp).1 fun p hp => h p (List.mem_cons_of_mem _ hp)
    rw [List.length_cons, readRels, hread]
    simp only [hr, hrels]

/-- The header that is read. -/
theorem AOTHeader.ofBytes_read {hdr : AOTHeader} (hin : sizeofAOTHeader ≤ f.size)
    (hhdr : HoldsAll f.bytes 0 hdr.fields) :
    ofBytes (CFile.read sizeofAOTHeader junk { f with pos := 0 }).1 = hdr :=
  ofBytes_of_holdsAll (CFile.holdsAll_read (f := { f with pos := 0 }) junk hhdr
    hdr.fits_fields ((Nat.zero_add _).trans_le hin))

/-- **The segments that are read** are those in the file. -/
theorem Image.segs_read {hdr : AOTHeader} {ds : List (AOTSegment × List AOTTB)}
    (hsize : f.size < 2 ^ 31) (hin : sizeofAOTHeader ≤ f.size)
    (hhdr : HoldsAll f.bytes 0 hdr.fields) (hnum : hdr.segnum.toNat = ds.length)
    (hds : SegmentsAt f.bytes f.size hdr.segtabOffset.toNat ds) :
    (Image.read junk f).segs = ds.map (SegmentImage.inMemory f.bytes) := by
  have hsegs := @readSegments_eq junk ds junk { f with pos := hdr.segtabOffset.toNat }
    hsize hds
  rw [← hnum] at hsegs
  rw [Image.read]
  simp only [CFile.seek_zero, AOTHeader.ofBytes_read hin hhdr]
  simpa only [CFile.seek_natCast, CFile.read] using hsegs

/-- **The relocations that are read** are those in the file. -/
theorem Image.rels_read {hdr : AOTHeader} {rels : List AOTRel} (hin : sizeofAOTHeader ≤ f.size)
    (hhdr : HoldsAll f.bytes 0 hdr.fields) (hnum : hdr.reltableNum.toNat = rels.length)
    (hrels : ∀ p ∈ placed sizeofAOTRel hdr.reltableOffset.toNat rels,
      HoldsAll f.bytes p.1 p.2.fields ∧ p.1 + sizeofAOTRel ≤ f.size) :
    (Image.read junk f).rels = rels := by
  rw [Image.read]
  simp only [CFile.seek_zero, AOTHeader.ofBytes_read hin hhdr, hnum, CFile.seek_natCast]
  obtain ⟨hbytes, hsize⟩ := @file_readSegments junk hdr.segnum.toNat junk
    { f with pos := hdr.segtabOffset.toNat }
  apply readRels_eq
  simp only [CFile.read, hbytes, hsize]
  exact hrels

end Reading

end AotOpt
