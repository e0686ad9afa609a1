import AotOpt.AotClass.AOTFile

/-!
# The addresses of the blocks

A block is stored in `x86AddrToTb` under its 64-bit address, but carries the lower 32 bits
of it, and it is by these that a block is taken to be loaded already.

* `x86AddrAt_eq` — the address a block carries is its key cut to 32 bits.
* `loadAll_of_stored` — when loading ends, and what it leaves; every block that is loaded is
  in the map (`Stored`).
* `addressesExact_iff` — blocks carry their keys, and exactly the files with two blocks at one
  address are rejected, if and only if no key needs more than 32 bits, or the file has two
  blocks at one address and is rejected for some clash of the cut addresses.
-/

namespace AotOpt

/-- A block of the file, with the begin of its segment. -/
structure BlockImage where
  segBegin : BitVec 64
  img : TBImage

namespace BlockImage

/-- The key under which the block is stored: its 64-bit address. -/
def key (b : BlockImage) : BitVec 64 := b.img.aotTb.keyAt b.segBegin

/-- The address the block carries. -/
def addr (b : BlockImage) : BitVec 64 := b.img.aotTb.x86AddrAt (b.segBegin.setWidth 32)

/-- The block that is made. -/
def tb (b : BlockImage) : TB ℕ := .new b.img.aotTb b.img.code b.addr

end BlockImage

/-- The blocks of the file in the order in which they are loaded. -/
def Image.blocks (image : Image) : List BlockImage :=
  image.segs.flatMap fun s => s.tbs.map (⟨s.seg.info.segBegin, ·⟩)

/-- An address cut to 32 bits. -/
def cut32 (x : BitVec 64) : BitVec 64 := (x.setWidth 32).setWidth 64

theorem toNat_cut32 (x : BitVec 64) : (cut32 x).toNat = x.toNat % 2 ^ 32 := by
  rw [cut32, BitVec.toNat_setWidth, BitVec.toNat_setWidth]
  omega

theorem cut32_eq_self {x : BitVec 64} : cut32 x = x ↔ x.toNat < 2 ^ 32 := by
  rw [← BitVec.toNat_inj, toNat_cut32]
  omega

/-- **The address a block carries** is its key cut to 32 bits. -/
theorem x86AddrAt_eq (b : BlockImage) : b.addr = cut32 b.key := by
  apply BitVec.eq_of_toNat_eq
  simp only [BlockImage.addr, BlockImage.key, AOTTB.x86AddrAt, AOTTB.keyAt, cut32,
    BitVec.toNat_setWidth, BitVec.toNat_add]
  omega

/-! ### What loading leaves -/

namespace Loading

/-- The blocks one after another. -/
def loadAll : List BlockImage → Loading → Res Loading
  | [], l => .ok l
  | b :: bs, l => do
    let l' ← loadTB b.segBegin b.img l
    loadAll bs l'

theorem loadAll_append : ∀ (bs bs' : List BlockImage) (l : Loading),
    loadAll (bs ++ bs') l = loadAll bs l >>= loadAll bs'
  | [], _, _ => rfl
  | b :: bs, bs', l => by
    rw [List.cons_append, loadAll, loadAll]
    cases loadTB b.segBegin b.img l with
    | error e => rfl
    | ok l' => exact loadAll_append bs bs' l'

theorem loadTBs_eq (segBegin : BitVec 64) : ∀ (imgs : List TBImage) (l : Loading),
    loadTBs segBegin imgs l = loadAll (imgs.map (⟨segBegin, ·⟩)) l
  | [], _ => rfl
  | img :: imgs, l => by
    rw [loadTBs, List.map_cons, loadAll]
    cases loadTB segBegin img l with
    | error e => rfl
    | ok l' => exact loadTBs_eq segBegin imgs l'

/-- The loops over the segments and their blocks are one loop over all blocks. -/
theorem loadSegments_eq : ∀ (ss : List SegmentImage) (l : Loading),
    (·.2) <$> loadSegments ss l =
      loadAll (ss.flatMap fun s => s.tbs.map (⟨s.seg.info.segBegin, ·⟩)) l
  | [], _ => rfl
  | s :: ss, l => by
    rw [loadSegments, List.flatMap_cons, loadAll_append, loadTBs_eq]
    cases loadAll (s.tbs.map (⟨s.seg.info.segBegin, ·⟩)) l with
    | error e => rfl
    | ok l' =>
      rw [ok_bind, ok_bind, ← loadSegments_eq ss l']
      cases loadSegments ss l' with
      | error e => rfl
      | ok r => rfl

/-- The blocks `bs` are loaded: each is there, and the map has their keys and no others. -/
structure Stored (bs : List BlockImage) (l : Loading) : Prop where
  tbs : l.tbs = bs.map (·.tb)
  key_of_some : ∀ key i, l.x86AddrToTb key = some i → (bs.map (·.key))[i]? = some key
  some_of_mem : ∀ key ∈ bs.map (·.key), ∃ i, l.x86AddrToTb key = some i

theorem x86AddrToTb_store_self (b : BlockImage) (l : Loading) :
    (l.store b.segBegin b.tb).x86AddrToTb b.key = some l.tbs.length :=
  Function.update_self _ _ _

theorem x86AddrToTb_store_of_ne {b : BlockImage} (l : Loading) {key : BitVec 64} (h : key ≠ b.key) :
    (l.store b.segBegin b.tb).x86AddrToTb key = l.x86AddrToTb key :=
  Function.update_of_ne h _ _

theorem Stored.empty : Stored [] ⟨[], fun _ => none⟩ := ⟨rfl, nofun, nofun⟩

/-- One block more. -/
theorem Stored.loadTB {bs : List BlockImage} {l : Loading} (h : Stored bs l) (b : BlockImage) :
    (b.addr ∈ bs.map (·.key) → Loading.loadTB b.segBegin b.img l = .error .exit) ∧
      (b.addr ∉ bs.map (·.key) → ∃ l', Loading.loadTB b.segBegin b.img l = .ok l' ∧
        Stored (bs ++ [b]) l') := by
  constructor
  · intro hmem
    obtain ⟨i, hi⟩ := h.some_of_mem _ hmem
    unfold Loading.loadTB
    rw [BlockImage.addr] at hi
    simp only [hi]
  · intro hnot
    have hnone : l.x86AddrToTb b.addr = none := by
      cases hl : l.x86AddrToTb b.addr with
      | none => rfl
      | some i => exact absurd (List.mem_of_getElem? (h.key_of_some _ i hl)) hnot
    have hlen : l.tbs.length = (bs.map (·.key)).length := by simp [h.tbs]
    refine ⟨l.store b.segBegin b.tb, ?_, ?tbs, ?key_of_some, ?some_of_mem⟩
    · unfold Loading.loadTB
      rw [BlockImage.addr] at hnone
      simp only [hnone]
      rfl
    case tbs => rw [List.map_append, ← h.tbs]; rfl
    case key_of_some =>
      intro key i hi
      rw [List.map_append]
      by_cases hkey : key = b.key
      · rw [hkey, x86AddrToTb_store_self, Option.some.injEq] at hi
        rw [hkey, ← hi, hlen]
        exact List.getElem?_concat_length
      · rw [x86AddrToTb_store_of_ne l hkey] at hi
        have hget := h.key_of_some key i hi
        rw [List.getElem?_append_left (List.getElem?_eq_some_iff.mp hget).1, hget]
    case some_of_mem =>
      intro key hmem
      by_cases hkey : key = b.key
      · exact ⟨l.tbs.length, by rw [hkey, x86AddrToTb_store_self]⟩
      · rw [List.map_append, List.mem_append, List.map_singleton, List.mem_singleton] at hmem
        obtain ⟨i, hi⟩ := h.some_of_mem key (hmem.resolve_right hkey)
        exact ⟨i, by rw [x86AddrToTb_store_of_ne l hkey, hi]⟩

/-- The address of every block is not the key of an earlier one. -/
def NoClash (bs : List BlockImage) : Prop := bs.Pairwise fun b b' => b.key ≠ b'.addr

/-- **When loading ends**: it is rejected exactly when some block's address is the key of an
earlier block. -/
theorem loadAll_of_stored : ∀ (bs : List BlockImage) {before : List BlockImage} {l : Loading},
    Stored before l → NoClash before →
      (NoClash (before ++ bs) → ∃ l', loadAll bs l = .ok l' ∧ Stored (before ++ bs) l') ∧
        (¬NoClash (before ++ bs) → loadAll bs l = .error .exit)
  | [], before, l, h, hno => by
    rw [List.append_nil]
    exact ⟨fun _ => ⟨l, rfl, h⟩, fun hc => absurd hno hc⟩
  | b :: bs, before, l, h, hno => by
    rw [List.append_cons]
    by_cases hmem : b.addr ∈ before.map (·.key)
    · -- the block is rejected
      have herr : loadAll (b :: bs) l = .error .exit := by
        rw [loadAll, (h.loadTB b).1 hmem, error_bind]
      refine ⟨fun hc => absurd hmem ?_, fun _ => herr⟩
      rw [NoClash, List.append_assoc, List.pairwise_append] at hc
      rintro hmem
      obtain ⟨b', hb', heq⟩ := List.mem_map.mp hmem
      exact hc.2.2 b' hb' b (by simp) heq
    · obtain ⟨l', hl', hstored⟩ := (h.loadTB b).2 hmem
      have hno' : NoClash (before ++ [b]) := by
        rw [NoClash, List.pairwise_append]
        refine ⟨hno, List.pairwise_singleton _ _, fun b' hb' c hc heq => ?_⟩
        rw [List.mem_singleton.mp hc] at heq
        exact hmem (List.mem_map.mpr ⟨b', hb', heq⟩)
      rw [loadAll, hl', ok_bind]
      exact loadAll_of_stored bs hstored hno'

theorem length_loadTBs {segBegin : BitVec 64} : ∀ (imgs : List TBImage) {l l' : Loading},
    loadTBs segBegin imgs l = .ok l' → l'.tbs.length = l.tbs.length + imgs.length
  | [], l, l', h => by rw [← Except.ok.inj h]; rfl
  | img :: imgs, l, l', h => by
    obtain ⟨l₁, h₁, h⟩ := bind_eq_ok.mp h
    have hone : l₁.tbs.length = l.tbs.length + 1 := by
      unfold loadTB at h₁
      dsimp only at h₁
      split at h₁
      · cases h₁
      · rw [← Except.ok.inj h₁]
        simp [store]
    rw [length_loadTBs imgs h, hone, List.length_cons, Nat.add_assoc, Nat.add_comm 1]

/-- The blocks of the segments are numbered one after another. -/
theorem ids_loadSegments : ∀ (ss : List SegmentImage) {l l' : Loading} {segs : List (Segment ℕ)},
    loadSegments ss l = .ok (segs, l') →
      segs.flatMap (·.tbs) = List.range' l.tbs.length (ss.flatMap (·.tbs)).length
  | [], l, l', segs, h => by
    rw [loadSegments, Except.ok.injEq, Prod.mk.injEq] at h
    rw [← h.1]
    rfl
  | s :: ss, l, l', segs, h => by
    obtain ⟨l₁, h₁, h⟩ := bind_eq_ok.mp h
    obtain ⟨⟨segs₁, l₂⟩, h₂, h⟩ := bind_eq_ok.mp h
    rw [Except.ok.injEq, Prod.mk.injEq] at h
    rw [← h.1, List.flatMap_cons, List.flatMap_cons, List.length_append, ids_loadSegments ss h₂,
      length_loadTBs s.tbs h₁, List.range'_append_1]

/-- The segments that are made, the first block being the `n`-th. -/
def segsFrom : (n : ℕ) → List SegmentImage → List (Segment ℕ)
  | _, [] => []
  | n, s :: ss => ⟨s.seg, s.libName, List.range' n s.tbs.length⟩ :: segsFrom (n + s.tbs.length) ss

theorem segs_loadSegments : ∀ (ss : List SegmentImage) {l l' : Loading} {segs : List (Segment ℕ)},
    loadSegments ss l = .ok (segs, l') → segs = segsFrom l.tbs.length ss
  | [], l, l', segs, h => by
    rw [loadSegments, Except.ok.injEq, Prod.mk.injEq] at h
    rw [← h.1, segsFrom]
  | s :: ss, l, l', segs, h => by
    obtain ⟨l₁, h₁, h⟩ := bind_eq_ok.mp h
    obtain ⟨⟨segs₁, l₂⟩, h₂, h⟩ := bind_eq_ok.mp h
    rw [Except.ok.injEq, Prod.mk.injEq] at h
    rw [← h.1, segs_loadSegments ss h₂, length_loadTBs s.tbs h₁, segsFrom]

end Loading

namespace AOTFile

/-- Loading a whole file. -/
theorem load_cases (image : Image) :
    (Loading.NoClash image.blocks → ∃ file l, load image = .ok file ∧ Loading.Stored image.blocks l ∧
        file.tb = (fun i => l.tbs.getD i (.new default .empty 0)) ∧
        file.x86AddrToTb = l.x86AddrToTb) ∧
      (¬Loading.NoClash image.blocks → load image = .error .exit) := by
  obtain ⟨hok, herr⟩ := Loading.loadAll_of_stored image.blocks Loading.Stored.empty List.Pairwise.nil
  rw [List.nil_append, Image.blocks, ← Loading.loadSegments_eq] at hok herr
  constructor
  · intro hno
    obtain ⟨l, hl, hstored⟩ := hok hno
    obtain ⟨⟨segs, l'⟩, hload, rfl⟩ := map_eq_ok.mp hl
    exact ⟨_, l', by rw [load, hload]; rfl, hstored, rfl, rfl⟩
  · intro hno
    have := herr hno
    rw [load]
    cases hload : Loading.loadSegments image.segs ⟨[], fun _ => none⟩ with
    | ok r => rw [hload] at this; cases this
    | error e => rw [hload] at this; exact congrArg _ (Except.error.inj this)

/-- What a file that is loaded is made of. -/
theorem load_eq_ok {image : Image} {file : AOTFile ℕ} (h : load image = .ok file) :
    Loading.NoClash image.blocks ∧ ∃ l, Loading.Stored image.blocks l ∧
      file.tb = (fun i => l.tbs.getD i (.new default .empty 0)) ∧
      file.x86AddrToTb = l.x86AddrToTb := by
  obtain ⟨hok, herr⟩ := load_cases image
  have hno : Loading.NoClash image.blocks := by
    by_contra hno
    rw [herr hno] at h
    cases h
  obtain ⟨file', l, hload, hstored, htb, hmap⟩ := hok hno
  obtain rfl : file = file' := Except.ok.inj (h.symm.trans hload)
  exact ⟨hno, l, hstored, htb, hmap⟩

/-- Every block was made of what was read for it. -/
theorem tb_load {image : Image} {file : AOTFile ℕ} (h : load image = .ok file) (i : ℕ) :
    ∃ aotTb code x86Addr, file.tb i = .new aotTb code x86Addr := by
  obtain ⟨-, l, hstored, htb, -⟩ := load_eq_ok h
  rw [htb, hstored.tbs]
  simp only [List.getD_eq_getElem?_getD, List.getElem?_map]
  cases image.blocks[i]? with
  | none => exact ⟨_, _, _, rfl⟩
  | some b => exact ⟨_, _, _, rfl⟩

/-- The blocks of the segments are all blocks, in the order in which they were loaded. -/
theorem ids_load {image : Image} {file : AOTFile ℕ} (h : load image = .ok file) :
    file.ids = List.range image.blocks.length := by
  obtain ⟨⟨segs, l⟩, hload, hfile⟩ := bind_eq_ok.mp h
  rw [← Except.ok.inj hfile, List.range_eq_range']
  have hlen : image.blocks.length = (image.segs.flatMap (·.tbs)).length := by
    simp [Image.blocks, List.length_flatMap]
  rw [hlen]
  exact Loading.ids_loadSegments image.segs hload

theorem segs_load {image : Image} {file : AOTFile ℕ} (h : load image = .ok file) :
    file.segs = Loading.segsFrom 0 image.segs := by
  obtain ⟨⟨segs, l⟩, hload, hfile⟩ := bind_eq_ok.mp h
  rw [← Except.ok.inj hfile]
  exact Loading.segs_loadSegments image.segs hload

theorem tb_load_of_getElem? {image : Image} {file : AOTFile ℕ} (h : load image = .ok file) {i : ℕ}
    {b : BlockImage} (hb : image.blocks[i]? = some b) : file.tb i = b.tb := by
  obtain ⟨-, l, hstored, htb, -⟩ := load_eq_ok h
  rw [htb, hstored.tbs]
  simp [List.getD_eq_getElem?_getD, hb]

/-- The map leads to blocks of the file. -/
theorem mem_ids_of_x86AddrToTb {image : Image} {file : AOTFile ℕ} (h : load image = .ok file)
    {key : BitVec 64} {i : ℕ} (hi : file.x86AddrToTb key = some i) : i ∈ file.ids := by
  obtain ⟨-, l, hstored, -, hmap⟩ := load_eq_ok h
  rw [hmap] at hi
  have hlt := (List.getElem?_eq_some_iff.mp (hstored.key_of_some key i hi)).1
  rw [List.length_map] at hlt
  rw [ids_load h, List.mem_range]
  exact hlt

end AOTFile

/-! ### When the addresses are exact -/

/-- The blocks that are loaded carry the 64-bit addresses under which they are stored, so
that blocks at different addresses carry different ones, and a file is rejected exactly when
two of its blocks are at one address. -/
structure Image.AddressesExact (image : Image) : Prop where
  x86Addr : ∀ file, AOTFile.load image = .ok file → ∀ i b, image.blocks[i]? = some b →
    (file.tb i).x86Addr = b.key ∧ file.x86AddrToTb b.key = some i
  distinct : ∀ file, AOTFile.load image = .ok file → ∀ i j b b', image.blocks[i]? = some b →
    image.blocks[j]? = some b' → b.key ≠ b'.key → (file.tb i).x86Addr ≠ (file.tb j).x86Addr
  rejected : AOTFile.load image = .error .exit ↔ ¬(image.blocks.map (·.key)).Nodup

/-- Some block is at the address that a later one has when it is cut to 32 bits. -/
def Image.CutClash (image : Image) : Prop :=
  ¬image.blocks.Pairwise fun b b' => b.key ≠ cut32 b'.key

/-- **The addresses are exact** if and only if no block is at an address of more than 32 bits,
or the file is rejected anyhow: two blocks are at one address, and a block is at the
cut address of a later one. -/
theorem addressesExact_iff (image : Image) :
    image.AddressesExact ↔ (∀ b ∈ image.blocks, b.key.toNat < 2 ^ 32) ∨
      (image.CutClash ∧ ¬(image.blocks.map (·.key)).Nodup) := by
  have hclash : Loading.NoClash image.blocks ↔ ¬image.CutClash := by
    simp only [Loading.NoClash, Image.CutClash, not_not, x86AddrAt_eq]
  obtain ⟨hok, herr⟩ := AOTFile.load_cases image
  have hrejected : AOTFile.load image = .error .exit ↔ image.CutClash := by
    refine ⟨fun h => by_contra fun hno => ?_, fun h => herr (by rw [hclash, not_not]; exact h)⟩
    obtain ⟨file, -, hload, -⟩ := hok (hclash.mpr hno)
    rw [h] at hload
    cases hload
  constructor
  · intro hexact
    by_cases hno : image.CutClash
    · exact .inr ⟨hno, hexact.rejected.mp (hrejected.mpr hno)⟩
    · obtain ⟨file, l, hload, hstored, htb, -⟩ := hok (hclash.mpr hno)
      refine .inl fun b hb => ?_
      obtain ⟨i, hi⟩ := List.mem_iff_getElem?.mp hb
      have haddr := (hexact.x86Addr file hload i b hi).1
      have hget : file.tb i = b.tb := by
        rw [htb, hstored.tbs]
        simp [List.getD_eq_getElem?_getD, hi]
      rw [hget] at haddr
      rw [← cut32_eq_self, ← x86AddrAt_eq]
      exact haddr
  · rintro (hsmall | ⟨hno, hdup⟩)
    · have hkeys : ∀ b ∈ image.blocks, b.addr = b.key := fun b hb => by
        rw [x86AddrAt_eq, cut32_eq_self]
        exact hsmall b hb
      have hnodup : Loading.NoClash image.blocks ↔ (image.blocks.map (·.key)).Nodup := by
        rw [List.Nodup, List.pairwise_map]
        refine List.Pairwise.iff_of_mem fun {b b'} _ hb' => ?_
        rw [hkeys b' hb']
      have hget : ∀ file, AOTFile.load image = .ok file → ∀ i b, image.blocks[i]? = some b →
          (file.tb i).x86Addr = b.key ∧ file.x86AddrToTb b.key = some i := by
        intro file hload i b hi
        obtain ⟨hno, l, hstored, htb, hmap⟩ := AOTFile.load_eq_ok hload
        constructor
        · rw [htb, ← hkeys b (List.mem_of_getElem? hi), hstored.tbs]
          simp [List.getD_eq_getElem?_getD, hi, BlockImage.tb, TB.new]
        · -- the key is stored for one block only
          have hki : (image.blocks.map (·.key))[i]? = some b.key := by rw [List.getElem?_map, hi]; rfl
          obtain ⟨j, hj⟩ := hstored.some_of_mem b.key (List.mem_of_getElem? hki)
          rw [hmap, hj, Lib.pos_unique (hnodup.mp hno) (hstored.key_of_some _ _ hj) hki]
      refine ⟨hget, fun file hload i j b b' hi hj hne => ?_, ?_⟩
      · rw [(hget file hload i b hi).1, (hget file hload j b' hj).1]
        exact hne
      · rw [hrejected, ← hnodup, hclash, not_not]
    · have hload : ∀ file, AOTFile.load image ≠ .ok file := fun file h => by
        rw [hrejected.mpr hno] at h
        cases h
      exact ⟨fun file h => absurd h (hload file), fun file h => absurd h (hload file),
        ⟨fun _ => hdup, fun _ => hrejected.mpr hno⟩⟩

/-- A file with one block, at address `2 ^ 32`. -/
def imageAbove32 : Image :=
  .ofSegs [⟨{ (default : AOTSegment) with
      info := { (default : AOTSegInfo) with segBegin := 0x100000000 } }, [], [⟨default, .empty, rfl⟩]⟩]

/-- The block at `2 ^ 32` carries the address `0`. -/
theorem addresses_wrong_above_32 : ¬imageAbove32.AddressesExact := by
  intro h
  have haddr := (h.x86Addr _ rfl 0 _ rfl).1
  revert haddr
  decide

end AotOpt
