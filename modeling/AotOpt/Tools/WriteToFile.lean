import AotOpt.AOTFileWriter.Reload
import AotOpt.Tools.Driver

/-!
# The file that the driver writes

The blocks that the driver has merged and fixed are written with the entries of the table of blocks, in
which only their slots have changed. When the new file is loaded, its blocks are found at the same
addresses, and are linked as those of the first file that were not merged; the blocks that were merged
have no successors.

* `samePlaces_runSteps` — no step changes where a block is in its segment.
* `x86AddrToTb_load` — the map of a file that is loaded, from the addresses alone.
* `streams_along_files` — the instruction streams of the new file are those of the first, but for the
  distances of branches.
-/

namespace AotOpt

open Lib LoongArchInsInfo DisassmbleVistor

variable {ι : Type}

/-! ### Where the blocks are -/

namespace AOTFile

/-- The blocks are at the same places in their segments. -/
def SamePlaces (f f' : AOTFile ι) : Prop :=
  ∀ i, (f'.tb i).originAotTb.offsetInSegment = (f.tb i).originAotTb.offsetInSegment

variable [DecidableEq ι] {f₀ f f' : AOTFile ι}

theorem SamePlaces.setTB (h : SamePlaces f₀ f) {i : ι} {tb : TB ι}
    (htb : tb.originAotTb.offsetInSegment = (f.tb i).originAotTb.offsetInSegment) :
    SamePlaces f₀ (f.setTB i tb) := by
  intro j
  by_cases hj : j = i
  · rw [hj, tb_setTB_self, htb, h]
  · rw [tb_setTB_of_ne hj, h]

theorem samePlaces_tbLink {seg : AOTSegment} {i : ι} {k : Bool} (h₀ : SamePlaces f₀ f)
    (h : f.tbLink seg i k = .ok f') : SamePlaces f₀ f' := by
  unfold tbLink at h
  split at h
  · obtain ⟨-, rfl⟩ := setNextTB_eq_ok.mp h
    refine (h₀.setTB ?_).setTB rfl
    cases k <;> rfl
  · rw [← Except.ok.inj h]
    exact h₀

theorem samePlaces_unifyAt {cur succ : ι} (h₀ : SamePlaces f₀ f) (h : f.unifyAt cur succ = .ok f') :
    SamePlaces f₀ f' := by
  obtain ⟨res, hres, h⟩ := bind_eq_ok.mp h
  cases res with
  | none => exact Except.ok.inj h ▸ h₀
  | some tb =>
    rw [← Except.ok.inj h]
    exact h₀.setTB (TB.taken_unify hres).offset

/-- **The steps** leave the blocks at their places. -/
theorem samePlaces_runSteps {ops : List (Op ι)} (h : f.runSteps ops = .ok f') : SamePlaces f f' :=
  inv_runSteps samePlaces_tbLink (fun _ _ h₁ => h₁.setTB rfl)
    (fun _ h₁ => h₁.setTB
      (congrArg (fun v : View ι => v.aotTb.offsetInSegment) (view_startTB _)))
    samePlaces_unifyAt (fun _ => rfl) h

end AOTFile

/-! ### The map of addresses -/

/-- Keys that are stored one after another, the first with the number `n`. -/
def storeKeys : (n : ℕ) → List (BitVec 64) → (BitVec 64 → Option ℕ) → BitVec 64 → Option ℕ
  | _, [], m => m
  | n, key :: keys, m => storeKeys (n + 1) keys (Function.update m key (some n))

theorem Loading.x86AddrToTb_loadAll : ∀ {bs : List BlockImage} {l l' : Loading}, loadAll bs l = .ok l' →
    l'.x86AddrToTb = storeKeys l.tbs.length (bs.map (·.key)) l.x86AddrToTb
  | [], l, l', h => by
    rw [← Except.ok.inj h]
    rfl
  | b :: bs, l, l', h => by
    obtain ⟨l₁, h₁, h⟩ := bind_eq_ok.mp h
    rw [loadTB] at h₁
    split at h₁
    · cases h₁
    · rw [x86AddrToTb_loadAll h, ← Except.ok.inj h₁, List.map_cons, storeKeys, Loading.store,
        List.length_append, List.length_singleton]
      rfl

/-- **The map of a file that is loaded** is made of the addresses of its blocks. -/
theorem AOTFile.x86AddrToTb_load {image : Image} {file : AOTFile ℕ} (h : load image = .ok file) :
    file.x86AddrToTb = storeKeys 0 (image.blocks.map (·.key)) fun _ => none := by
  obtain ⟨⟨segs, l⟩, hload, hfile⟩ := bind_eq_ok.mp h
  have hall : Loading.loadAll image.blocks ⟨[], fun _ => none⟩ = .ok l := by
    rw [Image.blocks, ← Loading.loadSegments_eq, hload]
    rfl
  rw [← Except.ok.inj hfile]
  exact Loading.x86AddrToTb_loadAll hall

/-! ### The blocks of the new file -/

/-- The begin of the segment and the offset in it. -/
def BlockImage.place (b : BlockImage) : BitVec 64 × BitVec 32 := (b.segBegin, b.img.aotTb.offsetInSegment)

section Places

/-- What the addresses of the blocks depend on. -/
theorem noClash_of_places {bs bs' : List BlockImage} (h : bs'.map BlockImage.place = bs.map BlockImage.place)
    (hno : Loading.NoClash bs) : Loading.NoClash bs' := by
  have hpairs : ∀ bs : List BlockImage, Loading.NoClash bs ↔ (bs.map BlockImage.place).Pairwise
      fun p p' => p.1 + p.2.setWidth 64 ≠ (p'.2 + p'.1.setWidth 32).setWidth 64 := fun bs => by
    rw [List.pairwise_map]
    rfl
  rw [hpairs] at hno ⊢
  rwa [h]

theorem keys_of_places {bs bs' : List BlockImage} (h : bs'.map BlockImage.place = bs.map BlockImage.place) :
    bs'.map BlockImage.key = bs.map BlockImage.key := by
  have hkeys : ∀ bs : List BlockImage, bs.map BlockImage.key =
      (bs.map BlockImage.place).map fun p => p.1 + p.2.setWidth 64 := fun bs => by
    rw [List.map_map]
    rfl
  rw [hkeys, h, ← hkeys]

theorem map_place {segBegin : BitVec 64} {tbs : List (TB ι)} {imgs : List TBImage}
    (h : List.Forall₂ TB.ReadAs tbs imgs) : (imgs.map (BlockImage.mk segBegin)).map BlockImage.place =
      tbs.map fun tb => (segBegin, tb.originAotTb.offsetInSegment) := by
  rw [List.map_map]
  refine map_eq_of_forall₂ (fun tb img htb => ?_) h
  have hoffset : img.aotTb.kept.offsetInSegment = tb.originAotTb.kept.offsetInSegment := by
    rw [htb.kept]
  exact congrArg (Prod.mk segBegin) hoffset

/-- The blocks that are read are where they were written. -/
theorem map_place_blocks {segs : List (Segment (TB ι))} {imgs : List SegmentImage}
    (h : List.Forall₂ Segment.ReadAs segs imgs) :
    (imgs.flatMap fun s => s.tbs.map (BlockImage.mk s.seg.info.segBegin)).map BlockImage.place =
      segs.flatMap fun seg => seg.tbs.map fun tb =>
        (seg.seg.info.segBegin, tb.originAotTb.offsetInSegment) := by
  induction h with
  | nil => rfl
  | cons hseg _ ih =>
    rw [List.flatMap_cons, List.map_append, ih, map_place hseg.tbs, hseg.info, List.flatMap_cons]

/-- The blocks that are loaded are where they were read. -/
theorem places_segsFrom {tb : ℕ → TB ℕ} : ∀ {imgs : List SegmentImage} {n : ℕ},
    (∀ i b, (imgs.flatMap fun s => s.tbs.map (BlockImage.mk s.seg.info.segBegin))[i]? = some b →
      (tb (n + i)).originAotTb.offsetInSegment = b.img.aotTb.offsetInSegment) →
    ((Loading.segsFrom n imgs).flatMap fun seg => seg.tbs.map fun i =>
      (seg.seg.info.segBegin, (tb i).originAotTb.offsetInSegment)) =
      (imgs.flatMap fun s => s.tbs.map (BlockImage.mk s.seg.info.segBegin)).map BlockImage.place
  | [], _, _ => rfl
  | img :: imgs, n, h => by
    rw [List.flatMap_cons] at h
    rw [Loading.segsFrom, List.flatMap_cons, List.flatMap_cons, List.map_append,
      places_segsFrom (n := n + img.tbs.length) fun i b hb => ?_]
    · congr 1
      apply List.ext_getElem
      · simp
      · intro i hi hi'
        have hlt : i < img.tbs.length := by simpa using hi'
        have hplace := h i ⟨img.seg.info.segBegin, img.tbs[i]⟩ (by
          rw [List.getElem?_append_left (by simpa using hlt)]
          simp [hlt])
        simp [hplace, BlockImage.place]
    · rw [Nat.add_assoc]
      refine h (img.tbs.length + i) b ?_
      rw [List.getElem?_append_right (by simp), List.length_map, Nat.add_sub_cancel_left]
      exact hb

end Places

namespace AOTFile

/-- The segments as `write_to_buf` takes them. -/
def written (f : AOTFile ι) : List (Segment (TB ι)) := f.segs.map (Segment.map f.tb)

section Written

variable {image : Image} {file out : AOTFile ℕ}

/-- Where the blocks are that are written. -/
theorem places_written (hload : load image = .ok file) (hsegs : out.segs = file.segs)
    (hsame : SamePlaces file out) : (out.written.flatMap fun seg => seg.tbs.map fun tb =>
      (seg.seg.info.segBegin, tb.originAotTb.offsetInSegment)) = image.blocks.map BlockImage.place := by
  have hplaces := @places_segsFrom file.tb image.segs 0 fun i b hb => by
    rw [Nat.zero_add, tb_load_of_getElem? hload hb]
    rfl
  rw [Image.blocks, ← hplaces, ← segs_load hload, written, hsegs, List.flatMap_map]
  simp only [Segment.map, List.map_map, Function.comp_def, hsame _]

/-- The segments that are made of what is read have the blocks of the same numbers. -/
theorem segsFrom_written {tb : ℕ → TB ℕ} : ∀ {imgs imgs' : List SegmentImage} {n : ℕ},
    List.Forall₂ Segment.ReadAs ((Loading.segsFrom n imgs).map (Segment.map tb)) imgs' →
      List.Forall₂ (fun seg seg' => seg'.tbs = seg.tbs) (Loading.segsFrom n imgs)
        (Loading.segsFrom n imgs')
  | [], _, _, h => by
    cases h
    exact .nil
  | img :: imgs, _, n, h => by
    rw [Loading.segsFrom, List.map_cons] at h
    cases h with
    | @cons _ img' _ imgs' hseg h =>
      have hlen : img.tbs.length = img'.tbs.length := by simpa [Segment.map] using hseg.tbs.length_eq
      rw [Loading.segsFrom, Loading.segsFrom, ← hlen]
      exact .cons rfl (segsFrom_written h)

/-- The segment of the new file, and what was read for its blocks. -/
structure Rewritten (out file' : AOTFile ℕ) (seg seg' : Segment ℕ) : Prop where
  mem : seg' ∈ file'.segs
  info : seg'.seg.info = seg.seg.info
  tbs : seg'.tbs = seg.tbs
  readBack : ∀ i ∈ seg.tbs, (out.tb i).ReadBack (file'.tb i)

/-- **The new file**: it is loaded, with the same addresses, and its blocks are those that were
written. -/
theorem exists_rewritten (hload : load image = .ok file) (hsegs : out.segs = file.segs)
    (hsame : SamePlaces file out) (m junk : ℕ → BitVec 8) (pos : ℕ)
    (hname : ∀ seg ∈ file.segs, seg.libName.length < PATH_MAX ∧ 0 ∉ seg.libName)
    (hlt : fileBytes out.written < 2 ^ 31) (hfirst : ¬FirstHasNoRel (out.written.flatMap (·.tbs))) :
    ∃ file', loadFrom junk ⟨AOTFileWriter.bytes out.written m 0,
        (AOTFileWriter.howManyBytes out.written).toNat, pos⟩ = .ok file' ∧
      file'.Unloaded ∧ file'.RelsReadable ∧ file'.x86AddrToTb = file.x86AddrToTb ∧
      file'.ids = file.ids ∧ ∀ seg ∈ file.segs, ∃ seg', Rewritten out file' seg seg' := by
  have hplaces := places_written hload hsegs hsame
  have hnames : ∀ seg ∈ out.written, seg.libName.length < PATH_MAX ∧ 0 ∉ seg.libName := by
    intro seg' hseg'
    obtain ⟨seg, hseg, rfl⟩ := List.mem_map.mp hseg'
    exact hname seg (hsegs ▸ hseg)
  obtain ⟨image', file', loaded, hfrom, hload', hread, hprepare, -⟩ := exists_reloaded m junk pos
    hnames (fun image' hread => noClash_of_places ((map_place_blocks hread).trans hplaces)
      (load_eq_ok hload).1) hlt hfirst
  have hsamePlaces : image'.blocks.map BlockImage.place = image.blocks.map BlockImage.place :=
    (map_place_blocks hread).trans hplaces
  have htbs : List.Forall₂ (fun seg seg' => seg'.tbs = seg.tbs) file.segs file'.segs := by
    rw [segs_load hload, segs_load hload']
    rw [written, hsegs, segs_load hload] at hread
    exact segsFrom_written hread
  have hback : List.Forall₂ (Segment.ReadBack file') out.written file'.segs := by
    rw [segs_load hload']
    refine readBack_segsFrom hread fun i b hb => ?_
    rw [Nat.zero_add]
    exact tb_load_of_getElem? hload' hb
  rw [written, hsegs, List.forall₂_map_left_iff] at hback
  have hunloaded := unloaded_load hload'
  refine ⟨file', hfrom, hunloaded, fun i hi => ?_, ?_, ?_, fun seg hseg => ?_⟩
  · obtain ⟨tb, hvisit, -⟩ := bind_eq_ok.mp (hprepare i hi)
    exact AddRelsVistor.rangeReadable_of_visit hunloaded.length_rels hvisit
  · rw [x86AddrToTb_load hload', keys_of_places hsamePlaces, ← x86AddrToTb_load hload]
  · rw [ids_load hload', ids_load hload, ← List.length_map, hsamePlaces, List.length_map]
  · obtain ⟨k, hk⟩ := List.mem_iff_getElem?.mp hseg
    obtain ⟨seg', hseg', heq⟩ := forall₂_getElem htbs hk
    obtain ⟨seg'', hseg'', hsegback⟩ := forall₂_getElem hback hk
    obtain rfl : seg'' = seg' := Option.some.inj (hseg''.symm.trans hseg')
    refine ⟨seg'', List.mem_of_getElem? hseg', hsegback.info, heq, ?_⟩
    have hall := hsegback.tbs
    rw [heq, Segment.map, List.forall₂_map_left_iff, List.forall₂_same] at hall
    exact hall

end Written

end AOTFile

/-! ### The streams of the new file -/

/-- The word of an instruction without its distance. -/
def LoongArchInsInfo.wordOf (info : LoongArchInsInfo) : BitVec 32 := encode info.dropOffs

namespace AOTFile

section Streams

variable {file file' out merged ref ref' : AOTFile ℕ}

theorem slotValid_of_kept {t t' : AOTTB} (h : t'.kept = t.kept) (j : Fin 2) :
    t'.slotValid j = t.slotValid j := by
  have hreset : t'.kept.jmpResetOffsets = t.kept.jmpResetOffsets := congrArg AOTTB.jmpResetOffsets h
  change t'.jmpResetOffsets = t.jmpResetOffsets at hreset
  rw [AOTTB.slotValid, hreset, AOTTB.slotValid]

/-- The links depend on the slots and the map. -/
theorem linksOf_of_kept {seg seg' : AOTSegment} {t t' : AOTTB}
    (hmap : file'.x86AddrToTb = file.x86AddrToTb) (hinfo : seg'.info = seg.info)
    (h : t'.kept = t.kept) : file'.linksOf seg' t' = file.linksOf seg t := by
  have hoffset : t'.kept.x86Offset = t.kept.x86Offset := congrArg AOTTB.x86Offset h
  change t'.x86Offset = t.x86Offset at hoffset
  funext k
  rw [linksOf, slotValid_of_kept h, target, hmap, hinfo, hoffset, linksOf, target]

/-- All instructions of the file that is merged were read. -/
theorem Sim.disassembled (hfile : file.Unloaded) (href : Ref file ref)
    (hsim : Sim file ref file.segs merged) {i : ℕ} (hi : i ∈ file.ids) :
    ∀ info ∈ (merged.tb i).insns, ∃ insn, info = disassemble insn := by
  have hread : ∀ i, ∀ info ∈ (ref.tb i).insns, ∃ insn, info = disassemble insn := by
    intro i info hinfo
    by_cases hi : i ∈ file.ids
    · rw [href.insns hfile hi] at hinfo
      obtain ⟨insn, -, rfl⟩ := List.mem_map.mp hinfo
      exact ⟨insn, rfl⟩
    · rw [TB.insns_congr (href.other i hi), hfile.insns] at hinfo
      cases hinfo
  have hbody : ∀ i, ∀ info ∈ ref.flow.body i, ∃ insn, info = disassemble insn := by
    intro i info hinfo
    rw [flow] at hinfo
    dsimp only at hinfo
    split_ifs at hinfo
    · exact hread i info (List.mem_of_mem_take hinfo)
    · exact hread i info hinfo
  rcases hsim.done i hi with hview | hmerged
  · rw [TB.insns_congr hview]
    exact hread i
  · exact hmerged.ends.forall_mem hbody

/-- **The instructions of a block of the new file**, without the distances. -/
theorem map_wordOf_insns {i : ℕ}
    (hread : ∀ info ∈ (merged.tb i).insns, ∃ insn, info = disassemble insn)
    (hsame : out.mapInsns dropOffs = merged.mapInsns dropOffs) :
    ((out.tb i).codeWords.map disassemble).map wordOf = (merged.tb i).insns.map wordOf := by
  have hinsns := insns_congr hsame i
  have hwords : (out.tb i).codeWords = (out.tb i).insns.map encode := by
    rw [TB.codeWords, TB.insns, List.map_map]
    rfl
  have hback : ∀ info ∈ (out.tb i).insns, wordOf (disassemble (encode info)) = wordOf info := by
    intro info hinfo
    have hmem := List.mem_map_of_mem (f := dropOffs) hinfo
    rw [hinsns] at hmem
    obtain ⟨info', hinfo', heq⟩ := List.mem_map.mp hmem
    obtain ⟨insn, rfl⟩ := hread info' hinfo'
    exact encode_dropOffs_disassemble heq.symm
  calc ((out.tb i).codeWords.map disassemble).map wordOf
      = (out.tb i).insns.map fun info => wordOf (disassemble (encode info)) := by
        rw [hwords, List.map_map, List.map_map]
        rfl
    _ = (out.tb i).insns.map wordOf := List.map_congr_left hback
    _ = ((out.tb i).insns.map dropOffs).map encode := by
        rw [List.map_map]
        rfl
    _ = ((merged.tb i).insns.map dropOffs).map encode := by rw [hinsns]
    _ = (merged.tb i).insns.map wordOf := by
        rw [List.map_map]
        rfl

/-- A block that has the same slots is linked alike. -/
theorem Rewritten.branch {seg seg' : Segment ℕ} (h : Rewritten out file' seg seg') (href : Ref file ref)
    (href' : Ref file' ref') (hmap : file'.x86AddrToTb = file.x86AddrToTb) (hseg : seg ∈ file.segs) {i : ℕ}
    (hi : i ∈ seg.tbs) (hkept : (ref'.tb i).originAotTb.kept = (ref.tb i).originAotTb.kept) :
    (ref'.tb i).branch = (ref.tb i).branch := by
  have hlinks' : (ref'.tb i).branch = _ := congrArg View.links (href'.loaded seg' h.mem i (h.tbs ▸ hi))
  have hlinks : (ref.tb i).branch = _ := congrArg View.links (href.loaded seg hseg i hi)
  rw [hlinks', hlinks]
  refine linksOf_of_kept hmap h.info ?_
  rw [href.originAotTb, href'.originAotTb] at hkept
  exact hkept

/-- **The new file takes shortcuts** in the first one, when the distances are left out. -/
theorem shortcut_rewritten (hfile : file.Unloaded) (href : Ref file ref) (hfile' : file'.Unloaded)
    (href' : Ref file' ref') (hsim : Sim file ref file.segs merged)
    (hsame : out.mapInsns dropOffs = merged.mapInsns dropOffs)
    (hmap : file'.x86AddrToTb = file.x86AddrToTb) (hids : file'.ids = file.ids)
    (hsegs : ∀ seg ∈ file.segs, ∃ seg', Rewritten out file' seg seg') :
    Flow.Shortcut (ref.flow.map wordOf) (ref'.flow.map wordOf) := by
  intro i
  by_cases hi : i ∈ file.ids
  · obtain ⟨seg, hseg, hiseg⟩ := List.mem_flatMap.mp hi
    obtain ⟨seg', hrewritten⟩ := hsegs seg hseg
    have hi' : i ∈ file'.ids := hids ▸ hi
    have hwords : (ref'.tb i).insns.map wordOf = (merged.tb i).insns.map wordOf := by
      rw [href'.insns hfile' hi', (hrewritten.readBack i hiseg).words]
      exact map_wordOf_insns (hsim.disassembled hfile href hi) hsame
    have hkept : (ref'.tb i).originAotTb.kept = (merged.tb i).originAotTb.kept := by
      rw [href'.originAotTb, (hrewritten.readBack i hiseg).kept, originAotTb_congr hsame]
    rcases hsim.done i hi with hview | hmerged
    · -- the block is the one of the first file
      rw [TB.originAotTb_congr hview] at hkept
      rw [TB.insns_congr hview] at hwords
      have hbranch := hrewritten.branch href href' hmap hseg hiseg hkept
      have htrue : (ref'.tb i).trueBranch = (ref.tb i).trueBranch := congrFun hbranch true
      have hfalse : (ref'.tb i).falseBranch = (ref.tb i).falseBranch := congrFun hbranch false
      have hone : (ref'.tb i).onlyOneSuccessor = (ref.tb i).onlyOneSuccessor := by
        simp only [TB.onlyOneSuccessor, slotValid_of_kept hkept, htrue, hfalse]
      have hcut : (ref'.tb i).cutIndex = (ref.tb i).cutIndex := by
        have harg : (ref'.tb i).originAotTb.kept.jmpTargetArg = (ref.tb i).originAotTb.kept.jmpTargetArg :=
          congrArg AOTTB.jmpTargetArg hkept
        change (ref'.tb i).originAotTb.jmpTargetArg = (ref.tb i).originAotTb.jmpTargetArg at harg
        rw [TB.cutIndex, slotValid_of_kept hkept, harg, TB.cutIndex]
      refine .inl ⟨?_, ?_⟩
      · simp only [Flow.map, flow, hone, hcut]
        split_ifs
        · rw [List.map_take, hwords, List.map_take]
        · exact hwords
      · simp only [Flow.map, flow, TB.getTheOnlyoneSuccessor, hone, htrue, hfalse]
    · -- the block was merged, and has no successor
      have hno : (ref'.tb i).noSuccessor := by
        rw [TB.noSuccessor, slotValid_of_kept hkept, slotValid_of_kept hkept]
        exact hmerged.noSuccessor
      refine .inr ⟨TB.getTheOnlyoneSuccessor_of_noSuccessor hno, ?_⟩
      have hbody : (ref'.flow.map wordOf).body i = (merged.tb i).insns.map wordOf := by
        rw [← hwords]
        simp [Flow.map, flow, TB.onlyOneSuccessor_of_noSuccessor hno]
      rw [hbody]
      exact hmerged.ends.map wordOf
  · obtain ⟨hbody, hnext⟩ := href.flow_of_not_mem hfile hi
    obtain ⟨hbody', hnext'⟩ := href'.flow_of_not_mem hfile' (hids ▸ hi)
    refine .inl ⟨?_, hnext'.trans hnext.symm⟩
    simp only [Flow.map, hbody, hbody']

end Streams

/-- **The file that the driver writes** has the streams of the file it has read: when every slot is the
index of an `OPC_B`, every block with two slots has a `bne`, the relocations can be read, are disjoint
and inside their blocks, the instructions can be printed and counted, and no walk loses code, the driver
does not stop; and when the new file is loaded, its blocks are at the addresses they were at, and the
streams of all blocks have the same prefixes, but for the distances. -/
theorem streams_along_files {image : Image} {file : AOTFile ℕ} (hload : load image = .ok file)
    (hslots : file.SlotsIndexB) (hbne : file.TwoSlotsHaveBne) (hrels : file.RelsReadable)
    (hkeeps : file.DriverKeepsCode) (hpresent : file.Presentable) (hcount : file.Countable)
    (hname : ∀ seg ∈ file.segs, seg.libName.length < PATH_MAX ∧ 0 ∉ seg.libName)
    (cout : DisassmblePrinterVistor.Cout) :
    ∃ out ref cout', file.testWriteToFile cout = .ok (out, cout') ∧
      file.runSteps (file.segs.flatMap loadSteps) = .ok ref ∧
      (fileBytes out.written < 2 ^ 31 → ¬FirstHasNoRel (out.written.flatMap (·.tbs)) →
        ∀ (m junk : ℕ → BitVec 8) (pos : ℕ), ∃ file' ref',
          loadFrom junk ⟨AOTFileWriter.bytes out.written m 0,
            (AOTFileWriter.howManyBytes out.written).toNat, pos⟩ = .ok file' ∧
          file'.runSteps (file'.segs.flatMap loadSteps) = .ok ref' ∧
          file'.x86AddrToTb = file.x86AddrToTb ∧
          ∀ i p, (ref'.flow.map wordOf).IsPrefix i p ↔ (ref.flow.map wordOf).IsPrefix i p) := by
  have hfile := unloaded_load hload
  obtain ⟨ref, hrun, href⟩ := exists_ref hfile hrels
  obtain ⟨out, merged, cout', hout, hmerged, hsim, -, hsame⟩ :=
    testWriteToFile_along hfile (tb_load hload) hrels hslots hbne hpresent hcount hkeeps href cout
  refine ⟨out, ref, cout', hout, hrun, fun hlt hfirst m junk pos => ?_⟩
  have hplaces : SamePlaces file out := by
    intro i
    rw [originAotTb_congr hsame]
    exact samePlaces_runSteps hmerged i
  obtain ⟨file', hfrom, hfile', hrels', hmap, hids, hrewritten⟩ :=
    exists_rewritten hload ((segs_congr hsame).trans hsim.same.segs) hplaces m junk pos hname hlt hfirst
  obtain ⟨ref', hrun', href'⟩ := exists_ref hfile' hrels'
  exact ⟨file', ref', hfrom, hrun', hmap, fun _ _ => Flow.isPrefix_iff_of_shortcut
    (shortcut_rewritten hfile href hfile' href' hsim hsame hmap hids hrewritten)⟩

/-! ### A file with a block that is merged -/

section MergedFile

/-- A file with a block that goes to a block without successors, which has a relocation. -/
def mergeRelImage : Image where
  segs := [⟨default, [0x61], [oneInsnTB 0 (some 4),
    { oneInsnTB 4 none with aotTb := { oneInsnAotTb 4 none with relStartIndex := 0 } }]⟩]
  rels := [⟨.LOAD_TB_ADDR, 0, 1, 0, 0⟩]
  length_rels := by decide

theorem streams_along_mergeRel : ∃ file out ref cout file' ref', load mergeRelImage = .ok file ∧
    file.testWriteToFile ⟨[], false⟩ = .ok (out, cout) ∧
    file.runSteps (file.segs.flatMap loadSteps) = .ok ref ∧
    loadFrom (fun _ => 0xff) ⟨AOTFileWriter.bytes out.written (fun _ => 0xff) 0,
      (AOTFileWriter.howManyBytes out.written).toNat, 0⟩ = .ok file' ∧
    file'.runSteps (file'.segs.flatMap loadSteps) = .ok ref' ∧
    file'.x86AddrToTb = file.x86AddrToTb ∧
    ∀ i p, (ref'.flow.map wordOf).IsPrefix i p ↔ (ref.flow.map wordOf).IsPrefix i p := by
  obtain ⟨out, ref, cout, hout, href, h⟩ := @streams_along_files mergeRelImage _ rfl
    (slotsIndexB_of_ids rfl (by decide))
    (by
      intro i hi h0 h1
      have hi01 : i ∈ [0, 1] := hi
      simp only [List.mem_cons, List.not_mem_nil, or_false] at hi01
      rcases hi01 with rfl | rfl
      · cases h1
      · cases h0)
    (by decide)
    (by
      rintro (_ | ⟨s, before⟩) seg later f hsegs - entry - p - t - ht
      · rw [← (List.cons.inj hsegs).2] at ht
        cases ht
      · simp at hsegs)
    (by
      refine ⟨fun i hi tb htb => ?_, fun i hi word hword => ?_⟩
      all_goals
        have hi01 : i ∈ [0, 1] := hi
        simp only [List.mem_cons, List.not_mem_nil, or_false] at hi01
      · rcases hi01 with rfl | rfl
        · obtain rfl := Except.ok.inj htb
          exact relsApart_nil _
        · obtain rfl := Except.ok.inj htb
          exact ⟨by decide, by decide, by decide, List.pairwise_singleton _ _⟩
      · rcases hi01 with rfl | rfl
        · obtain rfl : word = 0x50000000 := List.mem_singleton.mp hword
          decide
        · obtain rfl : word = 0x03400000 := List.mem_singleton.mp hword
          decide)
    (by decide)
    (by
      intro seg hseg
      obtain rfl := List.mem_singleton.mp hseg
      simp [PATH_MAX])
    ⟨[], false⟩
  have hfirst : ¬FirstHasNoRel (out.written.flatMap (·.tbs)) := by
    obtain rfl : _ = out := congrArg Prod.fst (Except.ok.inj hout)
    rintro ⟨tb, htb, hnil⟩
    obtain rfl := Option.some.inj htb
    cases hnil
  have hlt : fileBytes out.written < 2 ^ 31 := by
    obtain rfl : _ = out := congrArg Prod.fst (Except.ok.inj hout)
    decide
  obtain ⟨file', ref', hfrom, hrun, hmap, hstreams⟩ := h hlt hfirst (fun _ => 0xff) (fun _ => 0xff) 0
  exact ⟨_, out, ref, cout, file', ref', rfl, hout, href, hfrom, hrun, hmap, hstreams⟩

end MergedFile

end AOTFile

end AotOpt
