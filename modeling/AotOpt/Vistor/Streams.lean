import AotOpt.Vistor.Unify
import AotOpt.Vistor.Views

/-!
# Merging and the instruction streams

The driver against the same file that is loaded whole and never merged. A block that was
merged holds a stream that ends (`Merged`); every other block looks as it does in the file
that is not merged. That a block is merged with one whose segment comes later, and is not
disassembled yet, has to be excluded: its code would be missing.

* `Sim` — the file after some segments, against the one that is never merged.
* `unifyAt_sim`, `tuStart_sim`, `runSteps_sim` — one merge, one segment, all segments.
* `streams_along_driver` — the driver does not stop, and no stream is changed.
-/

namespace AotOpt.AOTFile

variable {ι : Type} [DecidableEq ι]

/-- The blocks of the segments. -/
abbrev idsOf (segs : List (Segment ι)) : List ι := segs.flatMap (·.tbs)

/-- The block has no successors, and its instructions are the whole stream of the block `i`
of a file. -/
structure Merged (ref : AOTFile ι) (i : ι) (tb : TB ι) : Prop where
  noSuccessor : tb.noSuccessor
  branch : ∀ k, tb.branch k = none
  ends : ref.flow.Ends i tb.insns

/-- The segments `before` are loaded and their blocks may be merged; `file` is the file that is
not loaded at all, and `ref` the one that is loaded whole and not merged. -/
structure Sim (file ref : AOTFile ι) (before : List (Segment ι)) (f : AOTFile ι) : Prop where
  same : SameFile file f
  done : ∀ i ∈ idsOf before, (f.tb i).view = (ref.tb i).view ∨ Merged ref i (f.tb i)
  fresh : ∀ i, i ∉ idsOf before → (f.tb i).view = (file.tb i).view

/-- What is assumed of the file: the segments share no blocks, nothing is loaded, and the map
leads to blocks of the file. -/
structure Unloaded (file : AOTFile ι) : Prop where
  nodup : file.ids.Nodup
  links : ∀ i k, (file.tb i).branch k = none
  insns : ∀ i, (file.tb i).insns = []
  closed : ∀ key i, file.x86AddrToTb key = some i → i ∈ file.ids
  length_rels : file.rels.length < 2 ^ 64

/-- Space can be reserved for the relocations of every block, and they can be read. -/
def RelsReadable (file : AOTFile ι) : Prop :=
  ∀ i ∈ file.ids, AddRelsVistor.RangeReadable file.rels (file.tb i).originAotTb

omit [DecidableEq ι] in
instance (file : AOTFile ι) : Decidable file.RelsReadable :=
  inferInstanceAs (Decidable (∀ i ∈ file.ids, _))

/-- Every valid slot of every block is the index of an `OPC_B`. -/
def SlotsIndexB (file : AOTFile ι) : Prop :=
  ∀ i ∈ file.ids, ∀ j, (file.tb i).originAotTb.slotValid j →
    ∃ insn, (file.tb i).code.words[((file.tb i).originAotTb.jmpTargetArg j / 4).toNat]? = some insn ∧
      (DisassmbleVistor.disassemble insn).opc = .OPC_B

/-- Every segment is loaded, and no block is merged. -/
structure Ref (file ref : AOTFile ι) : Prop where
  same : SameFile file ref
  loaded : ∀ seg ∈ file.segs, ∀ i ∈ seg.tbs,
    (ref.tb i).view = file.loadView seg.seg (file.tb i).view
  other : ∀ i, i ∉ file.ids → (ref.tb i).view = (file.tb i).view

section Sim

variable {file ref f : AOTFile ι} {before later : List (Segment ι)}

/-! ### The file that is never merged -/

theorem runSteps_append (f : AOTFile ι) (ops ops' : List (Op ι)) :
    f.runSteps (ops ++ ops') = f.runSteps ops >>= fun f => f.runSteps ops' :=
  List.foldlM_append

omit [DecidableEq ι] in
theorem loadView_congr {f f' : AOTFile ι} (h : SameFile f f') (seg : AOTSegment) :
    f'.loadView seg = f.loadView seg := by
  funext v
  rw [loadView, linksOf_congr h, loadView]

omit [DecidableEq ι] in
theorem Unloaded.loadable (hfile : file.Unloaded) (hrels : file.RelsReadable) {i : ι}
    (hi : i ∈ file.ids) : Loadable file (file.tb i).view :=
  ⟨funext (hfile.links i), hrels i hi⟩

/-- Some of the segments are loaded. -/
theorem exists_loaded (hfile : file.Unloaded) (hrels : file.RelsReadable) :
    ∀ (segs : List (Segment ι)), (∀ seg ∈ segs, seg ∈ file.segs) → (idsOf segs).Nodup →
      ∃ f, file.runSteps (segs.reverse.flatMap loadSteps) = .ok f ∧ SameFile file f ∧
        (∀ seg ∈ segs, ∀ i ∈ seg.tbs, (f.tb i).view = file.loadView seg.seg (file.tb i).view) ∧
        ∀ i, i ∉ idsOf segs → (f.tb i).view = (file.tb i).view
  | [], _, _ => ⟨file, rfl, .refl file, nofun, fun _ _ => rfl⟩
  | seg :: segs, hsub, hnodup => by
    rw [idsOf, List.flatMap_cons, List.nodup_append] at hnodup
    obtain ⟨hseg, hsegs, hdisj⟩ := hnodup
    obtain ⟨f, hok, hsame, hloaded, hother⟩ := exists_loaded hfile hrels segs
      (fun s hs => hsub s (List.mem_cons_of_mem _ hs)) hsegs
    have hnot : ∀ i ∈ seg.tbs, i ∉ idsOf segs := fun i hi hi' => hdisj i hi i hi' rfl
    have hmem : ∀ i ∈ seg.tbs, i ∈ file.ids := fun i hi =>
      List.mem_flatMap.mpr ⟨seg, hsub seg List.mem_cons_self, hi⟩
    obtain ⟨f', hok', hsame', hview⟩ := runSteps_loadSteps hseg (f := f)
      (hsame.rels ▸ hfile.length_rels) fun i hi => by
        rw [hother i (hnot i hi), Loadable, hsame.rels]
        exact hfile.loadable hrels (hmem i hi)
    refine ⟨f', ?_, hsame.trans hsame', fun s hs i hi => ?_, fun i hi => ?_⟩
    · rw [List.reverse_cons, List.flatMap_append, runSteps_append, hok, ok_bind]
      simpa using hok'
    · rw [hview]
      rcases List.mem_cons.mp hs with rfl | hs
      · rw [if_pos hi, hother i (hnot i hi), loadView_congr hsame]
      · have hi' : i ∉ seg.tbs := fun h => hnot i h (List.mem_flatMap.mpr ⟨s, hs, hi⟩)
        rw [if_neg hi', hloaded s hs i hi]
    · rw [idsOf, List.flatMap_cons, List.mem_append, not_or] at hi
      rw [hview, if_neg hi.1, hother i hi.2]

/-- **The file can be loaded whole.** -/
theorem exists_ref (hfile : file.Unloaded) (hrels : file.RelsReadable) :
    ∃ ref, file.runSteps (file.segs.flatMap loadSteps) = .ok ref ∧ Ref file ref := by
  have hperm : (idsOf file.segs.reverse).Perm file.ids :=
    (List.reverse_perm file.segs).flatMap_right _
  obtain ⟨ref, hok, hsame, hloaded, hother⟩ := exists_loaded hfile hrels file.segs.reverse
    (fun seg hs => List.mem_reverse.mp hs) (hperm.nodup_iff.mpr hfile.nodup)
  rw [List.reverse_reverse] at hok
  exact ⟨ref, hok, hsame, fun seg hs => hloaded seg (List.mem_reverse.mpr hs),
    fun i hi => hother i fun h => hi (hperm.mem_iff.mp h)⟩

section Ref

omit [DecidableEq ι]

theorem Ref.originAotTb (href : Ref file ref) (i : ι) : (ref.tb i).originAotTb = (file.tb i).originAotTb := by
  by_cases hi : i ∈ file.ids
  · obtain ⟨seg, hseg, hi⟩ := List.mem_flatMap.mp hi
    exact congrArg View.aotTb (href.loaded seg hseg i hi)
  · exact TB.originAotTb_congr (href.other i hi)

/-- The instructions of a block are its code. -/
theorem Ref.insns (hfile : file.Unloaded) (href : Ref file ref) {i : ι} (hi : i ∈ file.ids) :
    (ref.tb i).insns = (file.tb i).code.words.map DisassmbleVistor.disassemble := by
  obtain ⟨seg, hseg, hi⟩ := List.mem_flatMap.mp hi
  have h := congrArg View.insns (href.loaded seg hseg i hi)
  have hnil : (file.tb i).view.insns = [] := hfile.insns i
  rw [loadView, hnil, List.nil_append] at h
  exact h

/-- A block has links over its valid slots only, and they stay in the file. -/
theorem Ref.branch (hfile : file.Unloaded) (href : Ref file ref) {i q : ι} {k : Bool}
    (h : (ref.tb i).branch k = some q) : (ref.tb i).originAotTb.slotValid (slotOf k) ∧ q ∈ file.ids := by
  by_cases hi : i ∈ file.ids
  · obtain ⟨seg, hseg, hi⟩ := List.mem_flatMap.mp hi
    have hlinks : (ref.tb i).branch k = file.linksOf seg.seg (file.tb i).originAotTb k :=
      congrFun (congrArg View.links (href.loaded seg hseg i hi)) k
    rw [linksOf] at hlinks
    rw [href.originAotTb]
    by_cases hv : (file.tb i).originAotTb.slotValid (slotOf k)
    · exact ⟨hv, hfile.closed _ q ((if_pos hv).symm.trans (hlinks.symm.trans h))⟩
    · have hnone : (ref.tb i).branch k = none := hlinks.trans (if_neg hv)
      rw [hnone] at h
      cases h
  · have hnone : (ref.tb i).branch k = none :=
      (congrFun (TB.branch_congr (href.other i hi)) k).trans (hfile.links i k)
    rw [hnone] at h
    cases h

theorem Ref.branch_of_noSuccessor (hfile : file.Unloaded) (href : Ref file ref) {i : ι}
    (h : (ref.tb i).noSuccessor) (k : Bool) : (ref.tb i).branch k = none := by
  cases hk : (ref.tb i).branch k with
  | none => rfl
  | some q =>
    have hv := (href.branch hfile hk).1
    rw [TB.slotValid_of_noSuccessor h] at hv
    cases hv

/-- The stream of a block without successors is its code. -/
theorem ends_of_noSuccessor {i : ι} (h : (ref.tb i).noSuccessor) :
    ref.flow.Ends i (ref.tb i).insns := by
  have hbody : ref.flow.body i = (ref.tb i).insns := by
    rw [flow]
    simp only [TB.onlyOneSuccessor_of_noSuccessor h, Bool.false_eq_true, if_false]
  rw [← hbody]
  exact .stop (TB.getTheOnlyoneSuccessor_of_noSuccessor h)

/-- A block that is not in the file has no stream. -/
theorem Ref.flow_of_not_mem (hfile : file.Unloaded) (href : Ref file ref) {i : ι} (hi : i ∉ file.ids) :
    ref.flow.body i = [] ∧ ref.flow.next i = none := by
  have hview := href.other i hi
  have hinsns : (ref.tb i).insns = [] := by rw [TB.insns_congr hview, hfile.insns]
  have hbranch : ∀ k, (ref.tb i).branch k = none := fun k =>
    (congrFun (TB.branch_congr hview) k).trans (hfile.links i k)
  have htrue : (ref.tb i).trueBranch = none := hbranch true
  have hfalse : (ref.tb i).falseBranch = none := hbranch false
  simp [flow, hinsns, TB.getTheOnlyoneSuccessor, htrue, hfalse]

end Ref

/-! ### One merge -/

/-- A block of a later segment that the block `p` would be merged with has no code. -/
def Fine (later : List (Segment ι)) (f : AOTFile ι) (p : ι) : Prop :=
  ∀ s, f.mergeSucc p = some s → s ∈ idsOf later → (f.tb s).code.words = []

omit [DecidableEq ι] in
theorem mergeSucc_eq_some {p s : ι} : f.mergeSucc p = some s ↔
    (f.tb p).getTheOnlyoneSuccessor = some s ∧ (f.tb s).noSuccessor := by
  rw [mergeSucc, Option.filter_eq_some_iff]

omit [DecidableEq ι] in
/-- A block that is merged looks as it does in the file that is not. -/
theorem Sim.view_of_onlyone (hfile : file.Unloaded) (h : Sim file ref before f) {p : ι}
    (hone : (f.tb p).onlyOneSuccessor) : p ∈ idsOf before ∧ (f.tb p).view = (ref.tb p).view := by
  by_cases hp : p ∈ idsOf before
  · refine ⟨hp, (h.done p hp).resolve_right fun hm => ?_⟩
    rw [TB.onlyOneSuccessor_of_noSuccessor hm.noSuccessor] at hone
    cases hone
  · rw [TB.onlyOneSuccessor_congr (h.fresh p hp)] at hone
    have htrue : (file.tb p).trueBranch = none := hfile.links p true
    have hfalse : (file.tb p).falseBranch = none := hfile.links p false
    rw [TB.onlyOneSuccessor, htrue, hfalse] at hone
    simp at hone

omit [DecidableEq ι] in
/-- The instructions of a block without successors are its stream. -/
theorem Sim.ends_of_noSuccessor (hfile : file.Unloaded) (href : Ref file ref)
    (hsegs : file.segs = before ++ later) (h : Sim file ref before f) {s : ι} (hno : (f.tb s).noSuccessor)
    (hcode : s ∈ idsOf later → (f.tb s).code.words = []) :
    ref.flow.Ends s (f.tb s).insns ∧ ∀ k, (f.tb s).branch k = none := by
  by_cases hs : s ∈ idsOf before
  · rcases h.done s hs with hview | hm
    · rw [TB.noSuccessor_congr hview] at hno
      rw [TB.insns_congr hview, TB.branch_congr hview]
      exact ⟨AOTFile.ends_of_noSuccessor hno, href.branch_of_noSuccessor hfile hno⟩
    · exact ⟨hm.ends, hm.branch⟩
  · -- the block is not disassembled yet, and has no code
    have hview := h.fresh s hs
    have hno' : (ref.tb s).noSuccessor := by
      rw [TB.noSuccessor, href.originAotTb, ← TB.originAotTb_congr hview]
      exact hno
    have hinsns : (ref.tb s).insns = [] := by
      by_cases hmem : s ∈ file.ids
      · have hlater : s ∈ idsOf later := by
          rw [AOTFile.ids, hsegs, List.flatMap_append, List.mem_append] at hmem
          exact hmem.resolve_left hs
        have hc : (f.tb s).code = (file.tb s).code := congrArg View.code hview
        rw [href.insns hfile hmem, ← hc, hcode hlater, List.map_nil]
      · rw [TB.insns_congr (href.other s hmem), hfile.insns]
    refine ⟨?_, fun k => (congrFun (TB.branch_congr hview) k).trans (hfile.links s k)⟩
    rw [TB.insns_congr hview, hfile.insns, ← hinsns]
    exact AOTFile.ends_of_noSuccessor hno'

/-- **One merge** can be made, and changes no stream. -/
theorem unifyAt_sim (hfile : file.Unloaded) (hslots : file.SlotsIndexB) (href : Ref file ref)
    (hsegs : file.segs = before ++ later) (h : Sim file ref before f) {cur succ : ι}
    (hfine : Fine later f cur) (hmerge : f.mergeSucc cur = some succ) :
    ∃ f', f.unifyAt cur succ = .ok f' ∧ Sim file ref before f' ∧ Shrinks (Fine later) f f' := by
  obtain ⟨hsucc, hno⟩ := mergeSucc_eq_some.mp hmerge
  obtain ⟨hone, k, hk⟩ := TB.branch_of_onlyone hsucc
  obtain ⟨hcur, hview⟩ := h.view_of_onlyone hfile hone
  obtain ⟨hends, hbranch⟩ := h.ends_of_noSuccessor hfile href hsegs hno (hfine succ hmerge)
  have hmem : cur ∈ file.ids := by
    rw [AOTFile.ids, hsegs, List.flatMap_append, List.mem_append]
    exact .inl hcur
  -- the branch of the only valid slot is an `OPC_B` of the code
  have hvalid := TB.slotValid_of_onlyone hone
  have haot : (f.tb cur).originAotTb = (file.tb cur).originAotTb :=
    (TB.originAotTb_congr hview).trans (href.originAotTb cur)
  obtain ⟨word, hword, hopc⟩ := hslots cur hmem (slotOf ((file.tb cur).originAotTb.slotValid 1))
    (haot ▸ hvalid)
  have hinsns : (f.tb cur).insns = (file.tb cur).code.words.map DisassmbleVistor.disassemble :=
    (TB.insns_congr hview).trans (href.insns hfile hmem)
  obtain ⟨tb, hok, hsame, htbno, htbbranch, htbinsns⟩ := TB.unifySrcblockNoSuccessor_ok hno hvalid
    (by
      rw [hinsns, List.length_map]
      exact (file.tb cur).code.length_lt)
    (by rw [hinsns, haot, List.getElem?_map, hword]; rfl) hopc
  refine ⟨f.setTB cur tb, by rw [unifyAt, hok]; rfl, ?_, ?_⟩
  · refine ⟨h.same.trans (sameFile_setTB f cur tb), fun i hi => ?_, fun i hi => ?_⟩
    · by_cases hic : i = cur
      · rw [hic, tb_setTB_self]
        refine .inr ⟨htbno, fun k => (htbbranch k).trans (hbranch k), ?_⟩
        rw [htbinsns]
        have hbody : ref.flow.body cur = (f.tb cur).insns.take
            ((f.tb cur).originAotTb.jmpTargetArg (slotOf ((f.tb cur).originAotTb.slotValid 1)) / 4).toNat := by
          rw [flow]
          simp only [← TB.onlyOneSuccessor_congr hview, hone, if_true, ← TB.insns_congr hview,
            ← TB.cutIndex_congr hview]
          rfl
        rw [← hbody]
        exact .link ((TB.getTheOnlyoneSuccessor_congr hview).symm.trans hsucc) hends
      · rw [tb_setTB_of_ne hic]
        exact h.done i hi
    · have hic : i ≠ cur := fun e => hi (e ▸ hcur)
      rw [tb_setTB_of_ne hic]
      exact h.fresh i hi
  · refine ⟨rfl, fun i => ?_, fun p q hpq => ?_, fun p hp s hs hlater => ?_⟩
    · by_cases hic : i = cur
      · rw [hic, tb_setTB_self, hsame.x86Addr]
      · rw [tb_setTB_of_ne hic]
    · by_cases hpc : p = cur
      · obtain ⟨k, hk⟩ := hpq
        rw [hpc, tb_setTB_self, htbbranch, hbranch] at hk
        cases hk
      · rw [Links, tb_setTB_of_ne hpc] at hpq
        exact hpq
    · -- a block that is merged later on is not the one that was merged just now
      obtain ⟨hs, hsno⟩ := mergeSucc_eq_some.mp hs
      have hpc : p ≠ cur := by
        rintro rfl
        rw [tb_setTB_self, TB.getTheOnlyoneSuccessor_of_noSuccessor htbno] at hs
        cases hs
      have hsc : s ≠ cur := by
        rintro rfl
        have hnodup := hfile.nodup
        rw [AOTFile.ids, hsegs, List.flatMap_append, List.nodup_append] at hnodup
        exact hnodup.2.2 s hcur s hlater rfl
      rw [tb_setTB_of_ne hpc] at hs
      rw [tb_setTB_of_ne hsc] at hsno ⊢
      exact hp s (mergeSucc_eq_some.mpr ⟨hs, hsno⟩) hlater

/-! ### One segment -/

omit [DecidableEq ι] in
theorem Sim.closed (hfile : file.Unloaded) (href : Ref file ref) (h : Sim file ref before f) :
    f.Closed := by
  rintro p - q ⟨k, hk⟩
  rw [h.same.ids]
  by_cases hp : p ∈ idsOf before
  · rcases h.done p hp with hview | hm
    · rw [TB.branch_congr hview] at hk
      exact (href.branch hfile hk).2
    · rw [hm.branch] at hk
      cases hk
  · rw [TB.branch_congr (h.fresh p hp), hfile.links] at hk
    cases hk

/-- No walk of the segment comes to a block that would be merged with a block of a later
segment that has code. -/
def KeepsCode (later : List (Segment ι)) (seg : Segment ι) (f : AOTFile ι) : Prop :=
  ∀ entry ∈ f.getAllEntrysBlock seg, ∀ p, f.Reaches entry p → Fine later f p

/-- **The walks of one segment** do not stop, and change no stream. -/
theorem tuStart_sim (hfile : file.Unloaded) (hslots : file.SlotsIndexB) (href : Ref file ref)
    (hsegs : file.segs = before ++ later) (h : Sim file ref before f) {seg : Segment ι}
    (hseg : seg ∈ file.segs) (hkeeps : KeepsCode later seg f) :
    ∃ f', f.tuStart seg = .ok f' ∧ Sim file ref before f' := by
  have hloop : ∀ (entrys : List ι) (g : AOTFile ι), Sim file ref before g →
      Shrinks (Fine later) f g → (∀ e ∈ entrys, e ∈ file.ids ∧ ∀ p, f.Reaches e p → Fine later f p) →
      ∃ f', entrys.foldlM unifyEntry g = .ok f' ∧ Sim file ref before f' := by
    intro entrys
    induction entrys with
    | nil => exact fun g hg _ _ => ⟨g, rfl, hg⟩
    | cons entry entrys ih =>
      intro g hg hshrinks hentrys
      obtain ⟨hmem, hfine⟩ := hentrys entry List.mem_cons_self
      have henough : Enough (g.ids.length + 1) [] entry g :=
        ⟨hg.closed hfile href, hg.same.ids ▸ hmem, List.nodup_nil, List.nil_subset _,
          Nat.lt_succ_self _⟩
      have hrule : WalkOk (Sim file ref before) (Fine later) g (Enough (g.ids.length + 1) [] entry g)
          (unifyOneSuccessor (g.ids.length + 1) [] entry [] g) :=
        unifyOneSuccessor_rule
          (fun _ _ _ hf hc hm => unifyAt_sim hfile hslots href hsegs hf hc hm)
          (g.ids.length + 1) hg fun p hp => hshrinks.fine p (hfine p (hshrinks.reaches hp))
      rcases hrule with ⟨finished, g', heq, hg', hshrinks'⟩ | ⟨-, hnot⟩
      · obtain ⟨f', hok, hf'⟩ := ih g' hg' (hshrinks.trans hshrinks')
          fun e he => hentrys e (List.mem_cons_of_mem _ he)
        exact ⟨f', by rw [List.foldlM_cons, unifyEntry, heq, ok_bind, ok_bind, hok], hf'⟩
      · exact absurd henough hnot
  refine hloop (f.getAllEntrysBlock seg) f h (.refl _ f) fun e he => ⟨?_, hkeeps e he⟩
  exact List.mem_flatMap.mpr ⟨seg, hseg, (List.mem_filter.mp he).1⟩

/-- Loading the next segment. -/
theorem loadSteps_sim (hfile : file.Unloaded) (hrels : file.RelsReadable) (href : Ref file ref)
    {seg : Segment ι} (hsegs : file.segs = before ++ seg :: later) (h : Sim file ref before f) :
    ∃ f', f.runSteps (loadSteps seg) = .ok f' ∧ Sim file ref (before ++ [seg]) f' := by
  have hnodup := hfile.nodup
  rw [AOTFile.ids, hsegs, List.flatMap_append, List.flatMap_cons, List.nodup_append,
    List.nodup_append] at hnodup
  obtain ⟨-, ⟨hseg, -, -⟩, hdisj⟩ := hnodup
  have hin : seg ∈ file.segs := by rw [hsegs]; simp
  have hnot : ∀ i ∈ seg.tbs, i ∉ idsOf before := fun i hi hi' =>
    hdisj i hi' i (List.mem_append_left _ hi) rfl
  obtain ⟨f', hok, hsame, hview⟩ := runSteps_loadSteps hseg (f := f)
    (h.same.rels ▸ hfile.length_rels) fun i hi => by
      rw [h.fresh i (hnot i hi), Loadable, h.same.rels]
      exact hfile.loadable hrels (List.mem_flatMap.mpr ⟨seg, hin, hi⟩)
  refine ⟨f', hok, h.same.trans hsame, fun i hi => ?_, fun i hi => ?_⟩
  · rw [idsOf, List.flatMap_append, List.mem_append] at hi
    by_cases hi' : i ∈ seg.tbs
    · left
      rw [hview, if_pos hi', h.fresh i (hnot i hi'), loadView_congr h.same, href.loaded seg hin i hi']
    · have hsame : (f'.tb i).view = (f.tb i).view := by rw [hview, if_neg hi']
      have hbefore : i ∈ idsOf before := hi.resolve_right (by simpa using hi')
      refine (h.done i hbefore).imp hsame.trans fun hm => ⟨?_, fun k => ?_, ?_⟩
      · rw [TB.noSuccessor_congr hsame]
        exact hm.noSuccessor
      · rw [TB.branch_congr hsame]
        exact hm.branch k
      · rw [TB.insns_congr hsame]
        exact hm.ends
  · rw [idsOf, List.flatMap_append, List.mem_append, not_or] at hi
    rw [hview, if_neg (by simpa using hi.2)]
    exact h.fresh i hi.1

/-! ### The driver -/

/-- In the state in which a segment's blocks are to be merged, its walks keep all code. -/
def DriverKeepsCode (file : AOTFile ι) : Prop :=
  ∀ before seg later f, file.segs = before ++ seg :: later →
    file.runSteps (driverSteps before ++ loadSteps seg) = .ok f → KeepsCode later seg f

theorem runSteps_sim (hfile : file.Unloaded) (hrels : file.RelsReadable)
    (hslots : file.SlotsIndexB) (href : Ref file ref) (hkeeps : file.DriverKeepsCode) :
    ∀ (later before : List (Segment ι)) (f : AOTFile ι), file.segs = before ++ later →
      file.runSteps (driverSteps before) = .ok f → Sim file ref before f →
        ∃ out, f.runSteps (driverSteps later) = .ok out ∧ Sim file ref file.segs out
  | [], before, f, hsegs, _, h => by
    rw [List.append_nil] at hsegs
    exact ⟨f, rfl, hsegs ▸ h⟩
  | seg :: later, before, f, hsegs, hrun, h => by
    obtain ⟨f₁, h₁, hsim₁⟩ := loadSteps_sim hfile hrels href hsegs h
    have hsegs' : file.segs = (before ++ [seg]) ++ later := by rw [hsegs, List.append_cons]
    have hkeeps₁ := hkeeps before seg later f₁ hsegs (by rw [runSteps_append, hrun, ok_bind, h₁])
    obtain ⟨f₂, h₂, hsim₂⟩ := tuStart_sim hfile hslots href hsegs' hsim₁ (by rw [hsegs]; simp) hkeeps₁
    have hone : f.runSteps (loadSteps seg ++ [.tu seg]) = .ok f₂ := by
      rw [runSteps_append, h₁, ok_bind]
      exact bind_eq_ok.mpr ⟨f₂, h₂, rfl⟩
    obtain ⟨out, hout, hsim⟩ := runSteps_sim hfile hrels hslots href hkeeps later (before ++ [seg]) f₂
      hsegs' (by
        have hsplit : driverSteps (before ++ [seg]) = driverSteps before ++ (loadSteps seg ++ [.tu seg]) := by
          simp [driverSteps]
        rw [hsplit, runSteps_append, hrun, ok_bind, hone]) hsim₂
    refine ⟨out, ?_, hsim⟩
    have hsplit : driverSteps (seg :: later) = (loadSteps seg ++ [.tu seg]) ++ driverSteps later := by
      simp [driverSteps]
    rw [hsplit, runSteps_append, hone, ok_bind, hout]

omit [DecidableEq ι] in
/-- Merging is taking shortcuts. -/
theorem Sim.shortcut (h : Sim file ref file.segs f) (href : Ref file ref) :
    Lib.Flow.Shortcut ref.flow f.flow := by
  intro i
  have hsame : (f.tb i).view = (ref.tb i).view →
      f.flow.body i = ref.flow.body i ∧ f.flow.next i = ref.flow.next i := by
    intro hview
    simp only [flow, TB.onlyOneSuccessor_congr hview, TB.insns_congr hview, TB.cutIndex_congr hview,
      TB.getTheOnlyoneSuccessor_congr hview, and_self]
  by_cases hi : i ∈ idsOf file.segs
  · rcases h.done i hi with hview | hm
    · exact .inl (hsame hview)
    · refine .inr ⟨TB.getTheOnlyoneSuccessor_of_noSuccessor hm.noSuccessor, ?_⟩
      have hbody : f.flow.body i = (f.tb i).insns := by
        rw [flow]
        simp only [TB.onlyOneSuccessor_of_noSuccessor hm.noSuccessor, Bool.false_eq_true, if_false]
      rw [hbody]
      exact hm.ends
  · exact .inl (hsame ((h.fresh i hi).trans (href.other i hi).symm))

end Sim

theorem unloaded_load {image : Image} {file : AOTFile ℕ} (h : load image = .ok file) :
    file.Unloaded where
  nodup := by
    rw [ids_load h]
    exact List.nodup_range
  links := by
    intro i k
    obtain ⟨_, _, _, hi⟩ := tb_load h i
    rw [hi]
    cases k <;> rfl
  insns := by
    intro i
    obtain ⟨_, _, _, hi⟩ := tb_load h i
    rw [hi]
    rfl
  closed := fun _ _ hi => mem_ids_of_x86AddrToTb h hi
  length_rels := by
    obtain ⟨_, -, hfile⟩ := bind_eq_ok.mp h
    rw [← Except.ok.inj hfile]
    exact lt_trans image.length_rels (by decide)

/-- **Merging changes no stream**: when every slot is the index of an `OPC_B`, the relocations
can be read and no walk comes to a block whose only successor, without successors and with
code, is in a later segment, the driver does not stop, and the streams of all blocks have the
same prefixes as in the file that is loaded whole and never merged. -/
theorem streams_along_driver {image : Image} {file : AOTFile ℕ} (hload : load image = .ok file)
    (hslots : file.SlotsIndexB) (hrels : file.RelsReadable) (hkeeps : file.DriverKeepsCode) :
    ∃ out ref, file.runSteps (driverSteps file.segs) = .ok out ∧
      file.runSteps (file.segs.flatMap loadSteps) = .ok ref ∧
      ∀ i p, out.flow.IsPrefix i p ↔ ref.flow.IsPrefix i p := by
  have hfile := unloaded_load hload
  obtain ⟨ref, hrun, href⟩ := exists_ref hfile hrels
  obtain ⟨out, hout, hsim⟩ := runSteps_sim hfile hrels hslots href hkeeps file.segs [] file rfl rfl
    ⟨.refl file, nofun, fun _ _ => rfl⟩
  exact ⟨out, ref, hout, hrun, fun _ _ => Lib.Flow.isPrefix_iff_of_shortcut (hsim.shortcut href)⟩

theorem slotsIndexB_of_ids {file : AOTFile ℕ} (hids : file.ids = [0, 1])
    (h : ∀ i ∈ [0, 1], ∀ j, (file.tb i).originAotTb.slotValid j →
      (file.tb i).code.words[((file.tb i).originAotTb.jmpTargetArg j / 4).toNat]? =
        some 0x50000000) : file.SlotsIndexB :=
  fun i hi j hj => ⟨0x50000000, h i (hids ▸ hi) j hj, rfl⟩

theorem streams_along_merge : ∃ file out ref, load mergeImage = .ok file ∧
    file.runSteps (driverSteps file.segs) = .ok out ∧
      file.runSteps (file.segs.flatMap loadSteps) = .ok ref ∧
      ∀ i p, out.flow.IsPrefix i p ↔ ref.flow.IsPrefix i p := by
  obtain ⟨out, ref, h⟩ := @streams_along_driver mergeImage _ rfl
    (slotsIndexB_of_ids rfl (by decide)) (by decide) (by
      rintro (_ | ⟨s, before⟩) seg later f hsegs - entry - p - t - ht
      · rw [← (List.cons.inj hsegs).2] at ht
        cases ht
      · simp at hsegs)
  exact ⟨_, out, ref, rfl, h⟩

/-- A file with a block that goes to a block without successors in a later segment. -/
def lateImage : Image :=
  .ofSegs [⟨default, [], [oneInsnTB 0 (some 4)]⟩, ⟨default, [], [oneInsnTB 4 none]⟩]

/-- The first block takes over the second before that is disassembled, and loses its `nop`. -/
theorem streams_changed_by_late_segment : ∃ file, load lateImage = .ok file ∧ file.SlotsIndexB ∧
    file.RelsReadable ∧ ¬∃ out ref, file.runSteps (driverSteps file.segs) = .ok out ∧
      file.runSteps (file.segs.flatMap loadSteps) = .ok ref ∧
      ∀ i ∈ file.ids, ∀ p, out.flow.IsPrefix i p ↔ ref.flow.IsPrefix i p := by
  refine ⟨_, rfl, slotsIndexB_of_ids rfl (by decide), by decide, ?_⟩
  rintro ⟨out, ref, hout, href, h⟩
  obtain rfl := Except.ok.inj hout
  obtain rfl := Except.ok.inj href
  obtain ⟨n, hn⟩ := (h 0 List.mem_cons_self [DisassmbleVistor.disassemble 0x03400000]).mpr
    ⟨2, List.prefix_rfl⟩
  cases n with
  | zero => cases List.prefix_nil.mp hn
  | succ n => cases List.prefix_nil.mp hn

end AotOpt.AOTFile
