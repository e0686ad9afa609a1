import AotOpt.Lib.Run
import AotOpt.Vistor.Parents

/-!
# What the steps of the driver do to a block

Merging looks at the slots, the links, the address and the instructions of a block, and at
nothing else (`TB.view`). Loading a segment links and disassembles its blocks, and changes
the views of no others (`runSteps_loadSteps`).
-/

namespace AotOpt

variable {ι : Type}

/-- What merging looks at. -/
structure View (ι : Type) where
  aotTb : AOTTB
  code : Code
  x86Addr : BitVec 64
  links : Bool → Option ι
  insns : List LoongArchInsInfo

/-- A branch is linked, or not. -/
def View.link (v : View ι) (k : Bool) (next : Option ι) : View ι :=
  { v with links := Function.update v.links k next }

/-- The view of a block. -/
def TB.view (tb : TB ι) : View ι := ⟨tb.originAotTb, tb.code, tb.x86Addr, tb.branch, tb.insns⟩

namespace TB

variable {tb tb' : TB ι}

theorem originAotTb_congr (h : tb.view = tb'.view) : tb.originAotTb = tb'.originAotTb :=
  congrArg View.aotTb h

theorem insns_congr (h : tb.view = tb'.view) : tb.insns = tb'.insns := congrArg View.insns h

theorem branch_congr (h : tb.view = tb'.view) : tb.branch = tb'.branch := congrArg View.links h

theorem noSuccessor_congr (h : tb.view = tb'.view) : tb.noSuccessor = tb'.noSuccessor := by
  rw [noSuccessor, originAotTb_congr h, noSuccessor]

theorem onlyOneSuccessor_congr (h : tb.view = tb'.view) :
    tb.onlyOneSuccessor = tb'.onlyOneSuccessor := by
  have htrue : tb.trueBranch = tb'.trueBranch := congrFun (branch_congr h) true
  have hfalse : tb.falseBranch = tb'.falseBranch := congrFun (branch_congr h) false
  rw [onlyOneSuccessor, originAotTb_congr h, htrue, hfalse, onlyOneSuccessor]

theorem getTheOnlyoneSuccessor_congr (h : tb.view = tb'.view) :
    tb.getTheOnlyoneSuccessor = tb'.getTheOnlyoneSuccessor := by
  have htrue : tb.trueBranch = tb'.trueBranch := congrFun (branch_congr h) true
  have hfalse : tb.falseBranch = tb'.falseBranch := congrFun (branch_congr h) false
  rw [getTheOnlyoneSuccessor, onlyOneSuccessor_congr h, htrue, hfalse, getTheOnlyoneSuccessor]

theorem cutIndex_congr (h : tb.view = tb'.view) : tb.cutIndex = tb'.cutIndex := by
  rw [cutIndex, originAotTb_congr h, cutIndex]

/-- A block with an only successor has one valid slot, which is linked to it. -/
theorem branch_of_onlyone {s : ι} (h : tb.getTheOnlyoneSuccessor = some s) :
    tb.onlyOneSuccessor ∧ ∃ k, tb.branch k = some s := by
  unfold getTheOnlyoneSuccessor at h
  split_ifs at h with h1 h2
  · exact ⟨by simpa using h1, false, h⟩
  · exact ⟨by simpa using h1, true, h⟩

/-- Its valid slot is the one by which `is_true_branch` is set. -/
theorem slotValid_of_onlyone (h : tb.onlyOneSuccessor) :
    tb.originAotTb.slotValid (slotOf (tb.originAotTb.slotValid 1)) := by
  simp only [onlyOneSuccessor, Bool.or_eq_true, Bool.and_eq_true, Bool.not_eq_true'] at h
  rcases h with ⟨⟨-, h1⟩, -⟩ | ⟨⟨h0, h1⟩, -⟩
  · rw [h1]
    exact h1
  · rw [h1]
    exact h0

theorem onlyOneSuccessor_of_noSuccessor (h : tb.noSuccessor) : tb.onlyOneSuccessor = false := by
  rw [noSuccessor, Bool.and_eq_true, Bool.not_eq_true', Bool.not_eq_true'] at h
  rw [onlyOneSuccessor, h.1, h.2]
  rfl

theorem getTheOnlyoneSuccessor_of_noSuccessor (h : tb.noSuccessor) :
    tb.getTheOnlyoneSuccessor = none := by
  rw [getTheOnlyoneSuccessor, onlyOneSuccessor_of_noSuccessor h]
  rfl

end TB

namespace AOTFile

/-! ### Loops over the blocks of a segment -/

/-- The blocks may differ, all else is the same. -/
structure SameFile (f f' : AOTFile ι) : Prop where
  rels : f'.rels = f.rels
  segs : f'.segs = f.segs
  x86AddrToTb : f'.x86AddrToTb = f.x86AddrToTb

theorem SameFile.refl (f : AOTFile ι) : SameFile f f := ⟨rfl, rfl, rfl⟩

theorem SameFile.trans {f f' f'' : AOTFile ι} (h : SameFile f f') (h' : SameFile f' f'') :
    SameFile f f'' :=
  ⟨h'.rels.trans h.rels, h'.segs.trans h.segs, h'.x86AddrToTb.trans h.x86AddrToTb⟩

theorem SameFile.ids {f f' : AOTFile ι} (h : SameFile f f') : f'.ids = f.ids := by
  rw [AOTFile.ids, h.segs, AOTFile.ids]

variable [DecidableEq ι]

theorem sameFile_setTB (f : AOTFile ι) (i : ι) (tb : TB ι) : SameFile f (f.setTB i tb) :=
  ⟨rfl, rfl, rfl⟩

/-- The blocks in `is` are changed by `V`, and the views of the others are the same. -/
def ChangesViews (V : View ι → View ι) (is : List ι) (f f' : AOTFile ι) : Prop :=
  SameFile f f' ∧ ∀ j, (f'.tb j).view = if j ∈ is then V (f.tb j).view else (f.tb j).view

theorem ChangesViews.setTB {V : View ι → View ι} (f : AOTFile ι) (i : ι) (tb : TB ι)
    (h : tb.view = V (f.tb i).view) : ChangesViews V [i] f (f.setTB i tb) := by
  refine ⟨sameFile_setTB f i tb, fun j => ?_⟩
  by_cases hj : j = i
  · rw [hj, tb_setTB_self, if_pos List.mem_cons_self, h]
  · rw [tb_setTB_of_ne hj, if_neg (by simpa using hj)]

theorem ChangesViews.trans {V W : View ι → View ι} {is : List ι} {f f' f'' : AOTFile ι}
    (h : ChangesViews V is f f') (h' : ChangesViews W is f' f'') : ChangesViews (W ∘ V) is f f'' := by
  refine ⟨h.1.trans h'.1, fun j => ?_⟩
  rw [h'.2, h.2]
  split_ifs <;> rfl

theorem ChangesViews.congr_at {V W : View ι → View ι} {i : ι} {f f' : AOTFile ι}
    (h : ChangesViews V [i] f f') (hVW : V (f.tb i).view = W (f.tb i).view) :
    ChangesViews W [i] f f' := by
  refine ⟨h.1, fun j => ?_⟩
  rw [h.2]
  split_ifs with hj
  · rw [List.mem_singleton.mp hj, hVW]
  · rfl

/-- **A loop over blocks** each turn of which changes its block. -/
theorem foldlM_changesViews (V : View ι → View ι) (Pre : View ι → Prop) (f₀ : AOTFile ι)
    (turn : AOTFile ι → ι → Res (AOTFile ι))
    (hturn : ∀ f i, SameFile f₀ f → Pre (f.tb i).view →
      ∃ f', turn f i = .ok f' ∧ ChangesViews V [i] f f') :
    ∀ {is : List ι} {f : AOTFile ι}, is.Nodup → SameFile f₀ f → (∀ i ∈ is, Pre (f.tb i).view) →
      ∃ f', is.foldlM turn f = .ok f' ∧ ChangesViews V is f f'
  | [], f, _, _, _ => ⟨f, rfl, .refl f, fun j => by rw [if_neg List.not_mem_nil]⟩
  | i :: is, f, hnodup, h0, hpre => by
    rw [List.nodup_cons] at hnodup
    obtain ⟨f₁, h₁, hsame₁, hview₁⟩ := hturn f i h0 (hpre i List.mem_cons_self)
    have hother : ∀ j ∈ is, (f₁.tb j).view = (f.tb j).view := fun j hj => by
      rw [hview₁, if_neg]
      rintro hji
      exact hnodup.1 (List.mem_singleton.mp hji ▸ hj)
    obtain ⟨f', h', hsame', hview'⟩ := foldlM_changesViews V Pre f₀ turn hturn hnodup.2 (h0.trans hsame₁)
      fun j hj => by rw [hother j hj]; exact hpre j (List.mem_cons_of_mem _ hj)
    refine ⟨f', by rw [List.foldlM_cons, h₁, ok_bind, h'], hsame₁.trans hsame', fun j => ?_⟩
    rw [hview', hview₁]
    by_cases hj : j ∈ is
    · have hne : j ≠ i := fun e => hnodup.1 (e ▸ hj)
      simp [hj, hne]
    · by_cases hji : j = i
      · simp [hji, hnodup.1]
      · simp [hj, hji]

/-! ### Linking, adding relocations, disassembling -/

/-- Where the branches of a block of the segment are linked to. -/
def linksOf (f : AOTFile ι) (seg : AOTSegment) (aotTb : AOTTB) (k : Bool) : Option ι :=
  if aotTb.slotValid (slotOf k) then f.target seg aotTb k else none

omit [DecidableEq ι] in
theorem view_setBranch (tb : TB ι) (k : Bool) (next : ι) :
    (tb.setBranch k next).view = tb.view.link k (some next) := by
  have hlinks : (tb.setBranch k next).branch = Function.update tb.branch k (some next) := by
    funext k'
    cases k <;> cases k' <;> simp [TB.setBranch, TB.branch]
  rw [View.link, TB.view, hlinks, TB.view]
  cases k <;> rfl

theorem changesViews_setNextTB {f f' : AOTFile ι} {i next : ι} {k : Bool}
    (h : f.setNextTB i next k = .ok f') :
    ChangesViews (·.link k (some next)) [i] f f' := by
  obtain ⟨-, rfl⟩ := setNextTB_eq_ok.mp h
  have hfirst := ChangesViews.setTB (V := (·.link k (some next))) f i _
    (view_setBranch (f.tb i) k next)
  have hsecond := ChangesViews.setTB (V := id) (f.setTB i ((f.tb i).setBranch k next)) next
    (((f.setTB i ((f.tb i).setBranch k next)).tb next).addParent i) rfl
  refine ⟨hfirst.1.trans hsecond.1, fun j => ?_⟩
  rw [hsecond.2, ← hfirst.2]
  exact ite_id _

/-- `TB_Link` of a branch that is not linked. -/
theorem tbLink_ok (seg : AOTSegment) {f : AOTFile ι} {i : ι} {k : Bool}
    (h : (f.tb i).branch k = none) : ∃ f', f.tbLink seg i k = .ok f' ∧
      ChangesViews (fun v => v.link k (f.target seg v.aotTb k)) [i] f f' := by
  cases ht : f.target seg (f.tb i).originAotTb k with
  | none =>
    refine ⟨f, by rw [tbLink, ht], .refl f, fun j => ?_⟩
    split_ifs with hj
    · rw [List.mem_singleton.mp hj]
      have hlinks : f.target seg (f.tb i).view.aotTb k = (f.tb i).view.links k := ht.trans h.symm
      simp only [View.link, hlinks, Function.update_eq_self]
    · rfl
  | some next =>
    obtain ⟨f', hset⟩ : ∃ f', f.setNextTB i next k = .ok f' := ⟨_, setNextTB_eq_ok.mpr ⟨h, rfl⟩⟩
    have hchange := changesViews_setNextTB hset
    refine ⟨f', by rw [tbLink, ht]; exact hset, hchange.1, fun j => ?_⟩
    rw [hchange.2]
    split_ifs with hj
    · have htarget : f.target seg (f.tb j).view.aotTb k = some next := by
        rw [List.mem_singleton.mp hj]
        exact ht
      simp only [htarget]
    · rfl

omit [DecidableEq ι] in
theorem linksOf_congr {f f' : AOTFile ι} (h : SameFile f f') (seg : AOTSegment) (aotTb : AOTTB) :
    f'.linksOf seg aotTb = f.linksOf seg aotTb := by
  funext k
  rw [linksOf, target, h.x86AddrToTb, linksOf, target]

/-- One turn of `settle_all_tb`, for a block without links. -/
theorem settleTb_ok (seg : AOTSegment) {f : AOTFile ι} {i : ι}
    (h : (f.tb i).view.links = fun _ => none) : ∃ f', f.settleTb seg i = .ok f' ∧
      ChangesViews (fun v => { v with links := f.linksOf seg v.aotTb }) [i] f f' := by
  have hnone : ∀ k, (f.tb i).branch k = none := fun k => congrFun h k
  have hlinks : ∀ k, f.linksOf seg (f.tb i).view.aotTb k =
      if (f.tb i).originAotTb.slotValid (slotOf k) then f.target seg (f.tb i).view.aotTb k
      else none := fun _ => rfl
  -- a link that is set is the one of a valid slot
  have hview : ∀ links : Bool → Option ι, (∀ k, links k = f.linksOf seg (f.tb i).view.aotTb k) →
      ({ (f.tb i).view with links := links } : View ι) =
        { (f.tb i).view with links := f.linksOf seg (f.tb i).view.aotTb } :=
    fun links hk => by rw [funext hk]
  obtain ⟨f₁, h₁, hchange₁⟩ := tbLink_ok seg (hnone true)
  unfold settleTb
  dsimp only
  split_ifs with hboth htrue hfalse
  · rw [Bool.and_eq_true] at hboth
    have hnone₁ : (f₁.tb i).branch false = none := by
      have hv := congrArg View.links (hchange₁.2 i)
      rw [if_pos List.mem_cons_self] at hv
      have hb : (f₁.tb i).branch false =
          Function.update (f.tb i).branch true (f.target seg (f.tb i).view.aotTb true) false :=
        congrFun hv false
      rw [hb, Function.update_of_ne Bool.false_ne_true, hnone]
    obtain ⟨f₂, h₂, hchange₂⟩ := tbLink_ok seg hnone₁
    have htarget : ∀ aotTb k, f₁.target seg aotTb k = f.target seg aotTb k := fun aotTb k => by
      rw [target, hchange₁.1.x86AddrToTb, target]
    refine ⟨f₂, by rw [h₁, ok_bind, h₂], (hchange₁.trans hchange₂).congr_at (hview _ fun k => ?_)⟩
    cases k
    · rw [hlinks, slotOf, if_neg Bool.false_ne_true, hboth.2, Function.update_self, htarget]
      rfl
    · rw [hlinks, slotOf, if_pos rfl, hboth.1]
      simp [View.link]
  · refine ⟨f₁, h₁, hchange₁.congr_at (hview _ fun k => ?_)⟩
    have hf : (f.tb i).originAotTb.slotValid 0 = false := by simpa [htrue] using hboth
    cases k
    · simp [hlinks, slotOf, hf, h]
    · simp [hlinks, slotOf, htrue]
  · obtain ⟨f₁, h₁, hchange₁⟩ := tbLink_ok seg (hnone false)
    refine ⟨f₁, h₁, hchange₁.congr_at (hview _ fun k => ?_)⟩
    cases k
    · simp [hlinks, slotOf, hfalse]
    · simp [hlinks, slotOf, htrue, h]
  · refine ⟨f, rfl, .refl f, fun j => ?_⟩
    split_ifs with hj
    · rw [List.mem_singleton.mp hj]
      refine hview _ fun k => (hnone k).trans ?_
      cases k
      · simp [hlinks, slotOf, hfalse]
      · simp [hlinks, slotOf, htrue]
    · rfl

/-- What loading a segment does to its blocks. -/
def loadView (f : AOTFile ι) (seg : AOTSegment) (v : View ι) : View ι :=
  { v with
    links := f.linksOf seg v.aotTb
    insns := v.insns ++ v.code.words.map DisassmbleVistor.disassemble }

omit [DecidableEq ι] in
theorem view_startTB (tb : TB ι) : (DisassmbleVistor.startTB tb).view =
    { tb.view with insns := tb.insns ++ tb.code.words.map DisassmbleVistor.disassemble } := by
  obtain ⟨_, _, _, _, _, h⟩ := DisassmbleVistor.visitFrom_frame tb.code.words tb 0
  have hnodes := DisassmbleVistor.nodes_foldl_insertAtTail tb.code.words tb.disInsns
  rw [← DisassmbleVistor.disInsns_visitFrom tb.code.words tb 0] at hnodes
  have hinsns : (DisassmbleVistor.startTB tb).insns =
      tb.insns ++ tb.code.words.map DisassmbleVistor.disassemble := by
    have hvisit : (DisassmbleVistor.startTB tb).insns =
        (DisassmbleVistor.visitFrom tb 0 tb.code.words).disInsns.nodes.map (·.data) := rfl
    rw [hvisit, hnodes, List.map_append, List.map_map, TB.insns]
    conv_rhs => rw [← List.zipIdx_map_fst tb.disInsns.fresh tb.code.words, List.map_map]
    rfl
  rw [TB.view, hinsns, DisassmbleVistor.startTB, DisassmbleVistor.visit, h]
  rfl

/-- A block that is not loaded yet: it has no links, and its relocations can be read. -/
def Loadable (f : AOTFile ι) (v : View ι) : Prop :=
  (v.links = fun _ => none) ∧ AddRelsVistor.RangeReadable f.rels v.aotTb

/-- **Loading a segment**: its blocks are linked, get their relocations and are disassembled. -/
theorem runSteps_loadSteps {f : AOTFile ι} {seg : Segment ι} (hnodup : seg.tbs.Nodup)
    (hrels : f.rels.length < 2 ^ 64) (h : ∀ i ∈ seg.tbs, Loadable f (f.tb i).view) :
    ∃ f', f.runSteps (loadSteps seg) = .ok f' ∧
      ChangesViews (f.loadView seg.seg) seg.tbs f f' := by
  obtain ⟨f₁, h₁, hchange₁⟩ := foldlM_changesViews
    (fun v => { v with links := f.linksOf seg.seg v.aotTb })
    (fun v => v.links = fun _ => none) f (settleTb seg.seg)
    (fun g i hg hpre => by
      obtain ⟨g', hok, hchange⟩ := settleTb_ok seg.seg hpre
      refine ⟨g', hok, hchange.congr_at ?_⟩
      rw [linksOf_congr hg])
    hnodup (SameFile.refl f) (fun i hi => (h i hi).1)
  obtain ⟨f₂, h₂, hchange₂⟩ := foldlM_changesViews id
    (fun v => AddRelsVistor.RangeReadable f.rels v.aotTb) f₁
    (fun g i => do
      let tb ← AddRelsVistor.visit g.rels (g.tb i)
      .ok (g.setTB i tb))
    (fun g i hg hpre => by
      have hrels' : g.rels = f.rels := hg.rels.trans hchange₁.1.rels
      obtain ⟨new, hnew⟩ := AddRelsVistor.visit_ok hrels (g.tb i) hpre
      refine ⟨g.setTB i { g.tb i with rels := (g.tb i).rels ++ new }, ?_, .setTB g i _ rfl⟩
      exact bind_eq_ok.mpr ⟨_, by rw [hrels']; exact hnew, rfl⟩)
    hnodup (SameFile.refl f₁) (fun i hi => by
      rw [hchange₁.2, if_pos hi]
      exact (h i hi).2)
  obtain ⟨f₃, h₃, hchange₃⟩ := foldlM_changesViews
    (fun v => { v with insns := v.insns ++ v.code.words.map DisassmbleVistor.disassemble })
    (fun _ => True) f₂ (fun g i => .ok (g.setTB i (DisassmbleVistor.startTB (g.tb i))))
    (fun g i _ _ => ⟨_, rfl, .setTB g i _ (view_startTB _)⟩)
    hnodup (SameFile.refl f₂) (fun _ _ => trivial)
  rw [Lib.foldlM_ok, Except.ok.injEq] at h₃
  refine ⟨f₃, ?_, (hchange₁.trans hchange₂).trans hchange₃⟩
  have hsettle : f.run (.settleAllTb seg) = .ok f₁ := h₁
  have hadd : f₁.run (.addRels seg) = .ok f₂ := h₂
  have hdis : f₂.run (.disassemble seg) = .ok f₃ := congrArg Except.ok h₃
  rw [runSteps, loadSteps, List.foldlM_cons, hsettle, ok_bind, List.foldlM_cons, hadd, ok_bind,
    List.foldlM_cons, hdis, ok_bind]
  rfl

end AOTFile

end AotOpt
