import AotOpt.Vistor.Streams

/-!
# A segment that is loaded

The driver brings the blocks of a file one segment after another into the state in which they are
changed: they are linked, get their relocations and are disassembled. What the blocks are then, apart
from their links, comes from the file alone, and of the blocks of other segments only the parents are
changed.

* `startTB_relinked` — what a block is disassembled to does not depend on its links.
* `Loaded` — a block that is loaded, `loadSegment_ok` those of a segment.
* `DoneBefore` — what holds when some segments are done.
-/

namespace AotOpt

open Lib DisassmbleVistor

variable {ι : Type}

/-! ### The links of a block -/

namespace TB

/-- A block with other links. -/
def relinked (tb : TB ι) (trueBranch falseBranch : Option ι) (parents : List ι) : TB ι :=
  { tb with trueBranch := trueBranch, falseBranch := falseBranch, parents := parents }

/-- The blocks differ in their links only. -/
def Relinks (tb tb' : TB ι) : Prop := ∃ t f ps, tb' = tb.relinked t f ps

variable {tb tb' tb'' : TB ι} {t f : Option ι} {ps : List ι}

theorem Relinks.refl (tb : TB ι) : tb.Relinks tb := ⟨_, _, _, rfl⟩

theorem Relinks.trans (h : tb.Relinks tb') (h' : tb'.Relinks tb'') : tb.Relinks tb'' := by
  obtain ⟨_, _, _, rfl⟩ := h
  obtain ⟨t, f, ps, rfl⟩ := h'
  exact ⟨t, f, ps, rfl⟩

theorem visitFrom_relinked : ∀ (insns : List (BitVec 32)) (tb : TB ι) (i : BitVec 32),
    visitFrom (tb.relinked t f ps) i insns = (visitFrom tb i insns).relinked t f ps
  | [], _, _ => rfl
  | insn :: insns, tb, i => by
    have hvisit : visitInsn (tb.relinked t f ps) insn i = (visitInsn tb insn i).relinked t f ps := by
      unfold visitInsn addBInsn
      dsimp only
      split_ifs <;> rfl
    rw [visitFrom, hvisit, visitFrom_relinked insns, visitFrom]

/-- **Disassembling** does not depend on the links. -/
theorem startTB_relinked (tb : TB ι) : startTB (tb.relinked t f ps) = (startTB tb).relinked t f ps := by
  have hvisit : visit (tb.relinked t f ps) = (visit tb).relinked t f ps :=
    visitFrom_relinked tb.code.words tb 0
  rw [startTB, hvisit]
  rfl

theorem Relinks.startTB (h : tb.Relinks tb') : (startTB tb).Relinks (DisassmbleVistor.startTB tb') := by
  obtain ⟨t, f, ps, rfl⟩ := h
  exact ⟨t, f, ps, startTB_relinked tb⟩

/-- The blocks differ in their parents only. -/
def Reparents (tb tb' : TB ι) : Prop := ∃ ps, tb' = { tb with parents := ps }

theorem Reparents.refl (tb : TB ι) : tb.Reparents tb := ⟨_, rfl⟩

theorem Reparents.trans (h : tb.Reparents tb') (h' : tb'.Reparents tb'') : tb.Reparents tb'' := by
  obtain ⟨_, rfl⟩ := h
  obtain ⟨ps, rfl⟩ := h'
  exact ⟨ps, rfl⟩

theorem Reparents.relinks (h : tb.Reparents tb') : tb.Relinks tb' := by
  obtain ⟨ps, rfl⟩ := h
  exact ⟨_, _, ps, rfl⟩

/-- Two blocks that come from one, and are linked alike. -/
theorem Relinks.reparents (h : tb.Relinks tb') (h' : tb.Relinks tb'') (hbranch : tb''.branch = tb'.branch) :
    tb'.Reparents tb'' := by
  obtain ⟨t, f, ps, rfl⟩ := h
  obtain ⟨t', f', ps', rfl⟩ := h'
  obtain rfl : t' = t := congrFun hbranch true
  obtain rfl : f' = f := congrFun hbranch false
  exact ⟨ps', rfl⟩

end TB

namespace AOTFile

/-! ### The states of a block -/

section States

/-- The block with its entries of the table. -/
def Attached (file : AOTFile ι) (i : ι) (tb : TB ι) : Prop :=
  AddRelsVistor.visit file.rels (file.tb i) = .ok tb

/-- The relocations of the table are aligned and in the first `2 ^ 27` bytes of their blocks. -/
def TableLow (file : AOTFile ι) : Prop :=
  ∀ rel ∈ file.rels, rel.tcOffset.toNat % 4 = 0 ∧ rel.tcOffset.toNat < 2 ^ 27

/-- The block has no entries in the table. -/
def NoRels (file : AOTFile ι) (i : ι) : Prop :=
  (file.tb i).originAotTb.relEndIndex.signExtend 64 < (file.tb i).originAotTb.relStartIndex.signExtend 64

/-- The block is not loaded yet. -/
def Pending (file : AOTFile ι) (i : ι) (tb : TB ι) : Prop :=
  (file.tb i).Relinks tb ∧ ∀ k, tb.branch k = none

/-- The block has its links and relocations. -/
def Related (file : AOTFile ι) (i : ι) (tb : TB ι) : Prop :=
  ∃ tb₀, file.Attached i tb₀ ∧ tb₀.Relinks tb

/-- The block has its links and relocations, and is disassembled. -/
def Loaded (file : AOTFile ι) (i : ι) (tb : TB ι) : Prop :=
  ∃ tb₀, file.Attached i tb₀ ∧ (startTB tb₀).Relinks tb

/-- **What holds when the segments `before` are done**: their blocks are as they are to be, and the
others are not loaded. -/
structure DoneBefore (file : AOTFile ι) (Q : ι → TB ι → Prop) (before : List (Segment ι)) (f : AOTFile ι) :
    Prop where
  same : SameFile file f
  done : ∀ i ∈ idsOf before, Q i (f.tb i)
  pending : ∀ i, i ∉ idsOf before → file.Pending i (f.tb i)

variable {file f f' : AOTFile ι} {i : ι} {tb tb' : TB ι}

/-- What is copied is in the table. -/
theorem mem_of_loop {rels : List AOTRel} {endIndex : BitVec 64} : ∀ {fuel : ℕ} {startIndex : BitVec 64}
    {new : List RelSlot}, AddRelsVistor.loop rels endIndex fuel startIndex = .ok new →
      ∀ r ∈ new, r.rel ∈ rels := by
  intro fuel
  induction fuel with
  | zero =>
    intro startIndex new h
    cases h
  | succ fuel ih =>
    intro startIndex new h
    rw [AddRelsVistor.loop] at h
    by_cases hle : startIndex ≤ endIndex
    · rw [if_pos hle] at h
      cases hrel : rels[startIndex.toNat]? with
      | none =>
        rw [hrel] at h
        cases h
      | some rel =>
        rw [hrel] at h
        obtain ⟨rest, hrest, h⟩ := bind_eq_ok.mp h
        rw [← Except.ok.inj h]
        intro r hr
        rcases List.mem_cons.mp hr with rfl | hr
        · exact List.mem_of_getElem? hrel
        · exact ih hrest r hr
    · rw [if_neg hle] at h
      rw [← Except.ok.inj h]
      intro r hr
      cases hr

/-- The relocations that a block gets. -/
theorem Attached.rels (h : file.Attached i tb) :
    ∃ new, tb = { file.tb i with rels := (file.tb i).rels ++ new } ∧ (∀ r ∈ new, r.rel ∈ file.rels) ∧
      (file.NoRels i → new = []) := by
  obtain ⟨-, new, hnew, rfl⟩ := AddRelsVistor.visit_eq_ok.mp h
  refine ⟨new, rfl, mem_of_loop hnew, fun hno => ?_⟩
  rw [AddRelsVistor.loop, if_neg (BitVec.not_le.mpr hno)] at hnew
  exact (Except.ok.inj hnew).symm

theorem Pending.reparents (h : file.Pending i tb) (hp : tb.Reparents tb') : file.Pending i tb' := by
  refine ⟨h.1.trans hp.relinks, ?_⟩
  obtain ⟨ps, rfl⟩ := hp
  exact h.2

theorem Related.loaded (h : file.Related i tb) : file.Loaded i (startTB tb) := by
  obtain ⟨tb₀, hattach, hlinks⟩ := h
  exact ⟨tb₀, hattach, hlinks.startTB⟩

/-- Two of them are linked alike, or differ in their links. -/
theorem Loaded.reparents (h : file.Loaded i tb) (h' : file.Loaded i tb') (hbranch : tb'.branch = tb.branch) :
    tb.Reparents tb' := by
  obtain ⟨tb₀, hattach, hlinks⟩ := h
  obtain ⟨tb₁, hattach', hlinks'⟩ := h'
  obtain rfl : tb₁ = tb₀ := Except.ok.inj (hattach'.symm.trans hattach)
  exact hlinks.reparents hlinks' hbranch

/-- At the start nothing is done. -/
theorem DoneBefore.nil (hlinks : ∀ i k, (file.tb i).branch k = none) (Q : ι → TB ι → Prop) :
    file.DoneBefore Q [] file :=
  ⟨.refl file, fun _ hi => absurd hi List.not_mem_nil, fun i _ => ⟨.refl _, hlinks i⟩⟩

/-- A segment more is done. -/
theorem DoneBefore.next {Q : ι → TB ι → Prop} {before : List (Segment ι)} {seg : Segment ι}
    (h : file.DoneBefore Q before f) (hsame : SameFile file f') (hseg : ∀ i ∈ seg.tbs, Q i (f'.tb i))
    (hdone : ∀ i, i ∉ seg.tbs → Q i (f.tb i) → Q i (f'.tb i))
    (hpending : ∀ i, i ∉ seg.tbs → file.Pending i (f.tb i) → file.Pending i (f'.tb i)) :
    file.DoneBefore Q (before ++ [seg]) f' := by
  have hids : ∀ i, i ∈ idsOf (before ++ [seg]) ↔ i ∈ idsOf before ∨ i ∈ seg.tbs := by
    intro i
    simp [idsOf]
  refine ⟨hsame, fun i hi => ?_, fun i hi => ?_⟩
  · by_cases hmem : i ∈ seg.tbs
    · exact hseg i hmem
    · exact hdone i hmem (h.done i (((hids i).mp hi).resolve_right hmem))
  · rw [hids, not_or] at hi
    exact hpending i hi.2 (h.pending i hi.1)

end States

/-! ### Loops over blocks -/

variable [DecidableEq ι] {file f f' : AOTFile ι}

/-- Linking changes links only. -/
theorem relinks_tbLink {f₀ : AOTFile ι} {seg : AOTSegment} {i : ι} {k : Bool}
    (h : ∀ j, (f₀.tb j).Relinks (f.tb j)) (hok : f.tbLink seg i k = .ok f') :
    ∀ j, (f₀.tb j).Relinks (f'.tb j) := by
  have hset : ∀ (g : AOTFile ι) (i : ι) (tb : TB ι), (∀ j, (f₀.tb j).Relinks (g.tb j)) →
      (g.tb i).Relinks tb → ∀ j, (f₀.tb j).Relinks ((g.setTB i tb).tb j) := by
    intro g i tb hg htb j
    by_cases hj : j = i
    · rw [hj, tb_setTB_self]
      exact (hg i).trans htb
    · rw [tb_setTB_of_ne hj]
      exact hg j
  rw [tbLink] at hok
  split at hok
  · obtain ⟨-, rfl⟩ := setNextTB_eq_ok.mp hok
    refine hset _ _ _ (hset _ _ _ h ?_) ⟨_, _, _, rfl⟩
    cases k
    · exact ⟨_, _, _, rfl⟩
    · exact ⟨_, _, _, rfl⟩
  · exact Except.ok.inj hok ▸ h

/-- **A loop over blocks** each turn of which writes its own block. -/
theorem foldlM_turn {turn : AOTFile ι → ι → Res (AOTFile ι)} (Pre : ι → TB ι → Prop)
    {Post : ι → TB ι → Prop} (hturn : ∀ f i, SameFile file f → Pre i (f.tb i) →
      ∃ tb, turn f i = .ok (f.setTB i tb) ∧ Post i tb) :
    ∀ {is : List ι} {f : AOTFile ι}, is.Nodup → SameFile file f → (∀ i ∈ is, Pre i (f.tb i)) →
      ∃ f', is.foldlM turn f = .ok f' ∧ SameFile file f' ∧ (∀ i ∈ is, Post i (f'.tb i)) ∧
        ∀ i, i ∉ is → f'.tb i = f.tb i
  | [], f, _, hsame, _ => ⟨f, rfl, hsame, nofun, fun _ _ => rfl⟩
  | i :: is, f, hnodup, hsame, hpre => by
    rw [List.nodup_cons] at hnodup
    obtain ⟨tb, hok, hpost⟩ := hturn f i hsame (hpre i List.mem_cons_self)
    have hother : ∀ j ∈ is, (f.setTB i tb).tb j = f.tb j := by
      intro j hj
      refine tb_setTB_of_ne ?_ tb
      rintro rfl
      exact hnodup.1 hj
    obtain ⟨f', hok', hsame', hpost', hrest⟩ := foldlM_turn Pre hturn hnodup.2
      (hsame.trans (sameFile_setTB f i tb)) fun j hj => by
        rw [hother j hj]
        exact hpre j (List.mem_cons_of_mem _ hj)
    refine ⟨f', by rw [List.foldlM_cons, hok, ok_bind, hok'], hsame', fun j hj => ?_, fun j hj => ?_⟩
    · rcases List.mem_cons.mp hj with rfl | hj
      · rw [hrest j hnodup.1, tb_setTB_self]
        exact hpost
      · exact hpost' j hj
    · rw [List.mem_cons, not_or] at hj
      rw [hrest j hj.2, tb_setTB_of_ne hj.1]

/-- `settle_all_tb` on a segment without links. -/
theorem settleAllTb_ok {seg : Segment ι} (hnodup : seg.tbs.Nodup)
    (h : ∀ i ∈ seg.tbs, ∀ k, (f.tb i).branch k = none) : ∃ f', f.settleAllTb seg = .ok f' ∧
      SameFile f f' ∧ (∀ j, (f.tb j).Relinks (f'.tb j)) ∧
        ∀ j, j ∉ seg.tbs → (f.tb j).Reparents (f'.tb j) := by
  obtain ⟨f', hok, hsame, hview⟩ := foldlM_changesViews
    (fun v => { v with links := f.linksOf seg.seg v.aotTb })
    (fun v => v.links = fun _ => none) f (settleTb seg.seg)
    (fun g i hg hpre => by
      obtain ⟨g', hok, hchange⟩ := settleTb_ok seg.seg hpre
      refine ⟨g', hok, hchange.congr_at ?_⟩
      rw [linksOf_congr hg])
    hnodup (SameFile.refl f) (fun i hi => funext (h i hi))
  have hlinks : ∀ j, (f.tb j).Relinks (f'.tb j) :=
    Lib.foldlM_inv (P := fun g => ∀ j, (f.tb j).Relinks (g.tb j))
      (fun _ _ _ h₁ => inv_settleTb relinks_tbLink h₁) (fun j => .refl _) hok
  refine ⟨f', hok, hsame, hlinks, fun j hj => (TB.Relinks.refl _).reparents (hlinks j) ?_⟩
  have hj' := hview j
  rw [if_neg hj] at hj'
  exact TB.branch_congr hj'

/-- `TB_AddRels_Vistor::start` on a segment that is linked. -/
theorem addRelsStart_ok (hfile : file.Unloaded) (hrels : file.RelsReadable) {seg : Segment ι}
    (hnodup : seg.tbs.Nodup) (hmem : ∀ i ∈ seg.tbs, i ∈ file.ids) (hsame : SameFile file f)
    (h : ∀ i ∈ seg.tbs, (file.tb i).Relinks (f.tb i)) : ∃ f', f.addRelsStart seg = .ok f' ∧
      SameFile file f' ∧ (∀ i ∈ seg.tbs, file.Related i (f'.tb i)) ∧
        ∀ i, i ∉ seg.tbs → f'.tb i = f.tb i := by
  have hpre : ∀ i ∈ seg.tbs, i ∈ file.ids ∧ (file.tb i).Relinks (f.tb i) := fun i hi =>
    ⟨hmem i hi, h i hi⟩
  refine foldlM_turn (fun i tb => i ∈ file.ids ∧ (file.tb i).Relinks tb) (fun g i hg hpre => ?_) hnodup
    hsame hpre
  obtain ⟨hi, t, b, ps, htb⟩ := hpre
  obtain ⟨new, hvisit⟩ := AddRelsVistor.visit_ok hfile.length_rels (file.tb i) (hrels i hi)
  obtain ⟨hreserve, new', hloop, -⟩ := AddRelsVistor.visit_eq_ok.mp hvisit
  refine ⟨{ g.tb i with rels := (file.tb i).rels ++ new' }, ?_, ?_⟩
  · refine bind_eq_ok.mpr ⟨_, ?_, rfl⟩
    rw [hg.rels, htb]
    exact AddRelsVistor.visit_eq_ok.mpr ⟨hreserve, new', hloop, rfl⟩
  · refine ⟨_, AddRelsVistor.visit_eq_ok.mpr ⟨hreserve, new', hloop, rfl⟩, t, b, ps, ?_⟩
    rw [htb]
    rfl

/-- `DisassmbleVistor::start`. -/
theorem disStart_ok {seg : Segment ι} (hnodup : seg.tbs.Nodup) (f : AOTFile ι) :
    SameFile f (f.disStart seg) ∧ (∀ i ∈ seg.tbs, (f.disStart seg).tb i = startTB (f.tb i)) ∧
      ∀ i, i ∉ seg.tbs → (f.disStart seg).tb i = f.tb i := by
  have hturn : ∀ (g : AOTFile ι) (i : ι), SameFile f g → g.tb i = f.tb i →
      ∃ tb, (.ok (g.setTB i (startTB (g.tb i))) : Res (AOTFile ι)) = .ok (g.setTB i tb) ∧
        tb = startTB (f.tb i) :=
    fun g i _ hpre => ⟨_, rfl, by rw [hpre]⟩
  obtain ⟨f', hok, hsame, hdone, hother⟩ := foldlM_turn (fun i tb => tb = f.tb i) hturn hnodup
    (.refl f) fun _ _ => rfl
  rw [Lib.foldlM_ok, Except.ok.injEq] at hok
  rw [disStart, hok]
  exact ⟨hsame, hdone, hother⟩

/-- **The loading of a segment**: its blocks are loaded, and of the others only the parents change. -/
theorem loadSegment_ok (hfile : file.Unloaded) (hrels : file.RelsReadable) {Q : ι → TB ι → Prop}
    {before later : List (Segment ι)} {seg : Segment ι} (hsegs : file.segs = before ++ seg :: later)
    (h : file.DoneBefore Q before f) : ∃ f₁ f₂, f.settleAllTb seg = .ok f₁ ∧
      f₁.addRelsStart seg = .ok f₂ ∧ SameFile file (f₂.disStart seg) ∧ seg.tbs.Nodup ∧
      (∀ i ∈ seg.tbs, i ∈ file.ids ∧ file.Loaded i ((f₂.disStart seg).tb i)) ∧
      ∀ i, i ∉ seg.tbs → (f.tb i).Reparents ((f₂.disStart seg).tb i) := by
  have hnodup := hfile.nodup
  rw [ids, hsegs, List.flatMap_append, List.flatMap_cons, List.nodup_append, List.nodup_append] at hnodup
  obtain ⟨-, ⟨hseg, -, -⟩, hdisj⟩ := hnodup
  have hmem : ∀ i ∈ seg.tbs, i ∈ file.ids := fun i hi =>
    List.mem_flatMap.mpr ⟨seg, by rw [hsegs]; simp, hi⟩
  have hpending : ∀ i ∈ seg.tbs, file.Pending i (f.tb i) := fun i hi =>
    h.pending i fun hbefore => hdisj i hbefore i (List.mem_append_left _ hi) rfl
  obtain ⟨f₁, h₁, hsame₁, hlinks₁, hparents₁⟩ := settleAllTb_ok hseg fun i hi => (hpending i hi).2
  obtain ⟨f₂, h₂, hsame₂, hrel₂, hother₂⟩ := addRelsStart_ok hfile hrels hseg hmem
    (h.same.trans hsame₁) fun i hi => (hpending i hi).1.trans (hlinks₁ i)
  obtain ⟨hsame₃, hdis₃, hother₃⟩ := disStart_ok hseg f₂
  refine ⟨f₁, f₂, h₁, h₂, hsame₂.trans hsame₃, hseg, fun i hi => ⟨hmem i hi, ?_⟩, fun i hi => ?_⟩
  · rw [hdis₃ i hi]
    exact (hrel₂ i hi).loaded
  · rw [hother₃ i hi, hother₂ i hi]
    exact hparents₁ i hi

end AOTFile

end AotOpt
