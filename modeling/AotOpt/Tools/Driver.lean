import AotOpt.Tools.Printing
import AotOpt.Vistor.FixBranch

/-!
# The loop of the driver

`test_write_to_file` up to the writing: the segments are linked, disassembled and merged, and their
branches are fixed, one segment after another, and the blocks are printed before and after. Fixing the
branches of a segment changes distances, and the steps for the segments behind it look at opcodes only:
without the distances the file is the one that is only loaded and merged.

* `testWriteToFile` — the loop.
* `mapInsns_fixBranchVisit`, `fixBranchStart_sim` — what is fixed is the same without the distances.
* `testWriteToFile_along` — the loop against the loading and merging of the segments.
-/

namespace AotOpt

open LoongArchInsInfo DisassmbleVistor

open DisassmblePrinterVistor (Cout Printable)

variable {ι : Type}

namespace AOTFile

variable [DecidableEq ι] (f : AOTFile ι)

/-- One turn of the loop of `FixBranchVistor::start`. -/
def fixBranchTB (i : ι) : Res (AOTFile ι) := do
  let tb ← FixBranchVistor.visit (f.tb i)
  .ok (f.setTB i tb)

/-- `FixBranchVistor::start`. -/
def fixBranchStart (seg : Segment ι) : Res (AOTFile ι) := seg.tbs.foldlM fixBranchTB f

/-- One turn of the loop of `test_write_to_file`, over the file and `std::cout`: `work` is what is done
between the two printings. The visitors print lines of their own, with the addresses of blocks only;
these are left out. -/
def turn (work : AOTFile ι → Segment ι → Res (AOTFile ι)) (state : AOTFile ι × Cout) (seg : Segment ι) :
    Res (AOTFile ι × Cout) := do
  let f ← state.1.settleAllTb seg
  let f ← f.addRelsStart seg
  let f := f.disStart seg
  let cout ← DisassmblePrinterVistor.start f seg state.2
  let cout := cout.put .separator
  let f ← work f seg
  let cout := cout.put .separator
  let cout ← DisassmblePrinterVistor.start f seg cout
  .ok (f, cout)

/-- The turn as it is: `tu` and `fix_b`. -/
def optimizeSegment : AOTFile ι × Cout → Segment ι → Res (AOTFile ι × Cout) := turn fun f seg => do
  let f ← f.tuStart seg
  f.fixBranchStart seg

/-- `test_write_to_file`, up to the writing. -/
def testWriteToFile (cout : Cout) : Res (AOTFile ι × Cout) := f.segs.foldlM optimizeSegment (f, cout)

end AOTFile

/-! ### A block without the distances -/

theorem LinkList.map_update {α β : Type} {g : α → β} {f : α → α} (hf : ∀ d, g (f d) = g d)
    (l : LinkList α) (a : ℕ) : (l.update a f).map g = l.map g := by
  apply LinkList.ext
  · rw [nodes_map, nodes_map, update, List.map_map]
    apply List.map_congr_left
    intro n _
    by_cases h : n.addr = a
    · simp [h, hf]
    · simp [h]
  · rfl

namespace FixBranchVistor

variable {tb tb' : TB ι}

/-- An assignment to `offs` changes the distance only. -/
theorem mapInsns_updateInsn (tb : TB ι) (a : ℕ) (v : BitVec Field.offs.width) :
    (tb.updateInsn a (·.set .offs v)).mapInsns dropOffs = tb.mapInsns dropOffs := by
  have hlist := LinkList.map_update (fun d => dropOffs_set_offs d v) tb.disInsns a
  rw [TB.mapInsns, TB.updateInsn, hlist]
  rfl

theorem mapInsns_fixBOf {k : Bool} (h : fixBOf tb k = .ok tb') :
    tb'.mapInsns dropOffs = tb.mapInsns dropOffs := by
  obtain ⟨n, -, h⟩ := bind_eq_ok.mp h
  obtain ⟨-, -, h⟩ := bind_eq_ok.mp h
  cases hclosest : findClosestLoadTbAddrRelEntry tb
      ((tb.originAotTb.jmpTargetArg (slotOf k)).setWidth 32) with
  | none =>
    simp only [hclosest, Except.ok.injEq] at h
    rw [h]
  | some loadTbAddr =>
    simp only [hclosest, Except.ok.injEq] at h
    rw [← h]
    exact mapInsns_updateInsn _ _ _

theorem mapInsns_fixB (h : fixB tb = .ok tb') : tb'.mapInsns dropOffs = tb.mapInsns dropOffs := by
  obtain ⟨-, -, h⟩ := bind_eq_ok.mp h
  split_ifs at h
  · obtain ⟨tb₁, h₁, h₂⟩ := bind_eq_ok.mp h
    exact (mapInsns_fixBOf h₂).trans (mapInsns_fixBOf h₁)
  · exact mapInsns_fixBOf h
  · exact mapInsns_fixBOf h
  · rw [Except.ok.inj h]

theorem mapInsns_fixBne (h : fixBne tb = .ok tb') : tb'.mapInsns dropOffs = tb.mapInsns dropOffs := by
  obtain ⟨-, -, h⟩ := bind_eq_ok.mp h
  cases hlast : lastBne 0 none tb.disInsns.nodes with
  | none =>
    simp only [hlast] at h
    cases h
  | some bne =>
    simp only [hlast, Except.ok.injEq] at h
    rw [← h]
    exact mapInsns_updateInsn _ _ _

/-- **Fixing the branches of a block** changes distances only. -/
theorem mapInsns_fixBranchVisit (h : visit tb = .ok tb') :
    tb'.mapInsns dropOffs = tb.mapInsns dropOffs := by
  obtain ⟨tb₁, h₁, h₂⟩ := bind_eq_ok.mp h
  have hbne : tb₁.mapInsns dropOffs = tb.mapInsns dropOffs := by
    split_ifs at h₁
    · exact mapInsns_fixBne h₁
    · rw [Except.ok.inj h₁]
  rw [← hbne]
  split_ifs at h₂
  · exact mapInsns_fixB h₂
  · rw [Except.ok.inj h₂]

/-- The branches that are looked up are there, or none is looked up. -/
def Fixable (tb : TB ι) : Prop := HasBranches tb ∨ (tb.noSuccessor ∧ ∀ k, tb.branch k = none)

theorem opcAt_mapInsns (tb : TB ι) (k : ℕ) : (tb.mapInsns dropOffs).opcAt k = tb.opcAt k := by
  rw [TB.opcAt, TB.opcAt, TB.disInsns_mapInsns, LinkList.nodes_map, List.getElem?_map, Option.map_map]
  rfl

/-- Whether they are there does not depend on the distances. -/
theorem fixable_mapInsns (tb : TB ι) : Fixable (tb.mapInsns dropOffs) ↔ Fixable tb := by
  refine or_congr ?_ Iff.rfl
  constructor
  · rintro ⟨hlen, hslot, hbne⟩
    simp only [opcAt_mapInsns] at hslot hbne
    rw [TB.disInsns_mapInsns, LinkList.nodes_map, List.length_map] at hlen
    exact ⟨hlen, hslot, hbne⟩
  · rintro ⟨hlen, hslot, hbne⟩
    refine ⟨?_, fun j hj => ?_, fun h0 h1 => ?_⟩
    · rw [TB.disInsns_mapInsns, LinkList.nodes_map, List.length_map]
      exact hlen
    · rw [opcAt_mapInsns]
      exact hslot j hj
    · simp only [opcAt_mapInsns]
      exact hbne h0 h1

theorem visit_of_fixable (h : Fixable tb) : ∃ tb', visit tb = .ok tb' := by
  rcases h with h | ⟨hno, hnone⟩
  · exact visit_ok h
  · rw [TB.noSuccessor, Bool.and_eq_true, Bool.not_eq_true', Bool.not_eq_true'] at hno
    have htrue : tb.trueBranch = none := hnone true
    have hfalse : tb.falseBranch = none := hnone false
    exact ⟨tb, by simp [visit, hno.1, hno.2, htrue, hfalse]⟩

end FixBranchVistor

namespace AOTFile

variable [DecidableEq ι]

open FixBranchVistor

/-- Every block with two valid slots has a `bne`. -/
def TwoSlotsHaveBne (file : AOTFile ι) : Prop :=
  ∀ i ∈ file.ids, (file.tb i).originAotTb.slotValid 0 → (file.tb i).originAotTb.slotValid 1 →
    ∃ insn ∈ (file.tb i).code.words, (disassemble insn).opc = .OPC_BNE

section Sim

variable {file ref f g : AOTFile ι} {before later : List (Segment ι)}

/-! ### One segment -/

/-- **Fixing the branches of a segment** does not stop, and changes distances only. -/
theorem fixBranchStart_sim : ∀ (tbs : List ι) (f : AOTFile ι), f.mapInsns dropOffs = g.mapInsns dropOffs →
    (∀ i ∈ tbs, Fixable (g.tb i)) →
      ∃ f', tbs.foldlM fixBranchTB f = .ok f' ∧ f'.mapInsns dropOffs = g.mapInsns dropOffs := by
  intro tbs
  induction tbs with
  | nil => exact fun f hf _ => ⟨f, rfl, hf⟩
  | cons i tbs ih =>
    intro f hf hfix
    have hi : Fixable (f.tb i) := by
      rw [← fixable_mapInsns, mapInsns_congr hf i, fixable_mapInsns]
      exact hfix i List.mem_cons_self
    obtain ⟨tb, hok⟩ := visit_of_fixable hi
    have hsame : (f.setTB i tb).mapInsns dropOffs = g.mapInsns dropOffs := by
      rw [← setTB_mapInsns, mapInsns_fixBranchVisit hok, ← tb_mapInsns, setTB, Function.update_eq_self,
        ← hf]
    obtain ⟨f', hok', hf'⟩ := ih _ hsame fun j hj => hfix j (List.mem_cons_of_mem _ hj)
    have hturn : f.fixBranchTB i = .ok (f.setTB i tb) := bind_eq_ok.mpr ⟨tb, hok, rfl⟩
    exact ⟨f', by rw [List.foldlM_cons, hturn, ok_bind, hok'], hf'⟩

omit [DecidableEq ι] in
/-- What the blocks of the segments that are merged need. -/
theorem Sim.fixable (hfile : file.Unloaded) (hslots : file.SlotsIndexB) (hbne : file.TwoSlotsHaveBne)
    (href : Ref file ref) (h : Sim file ref before g) {i : ι} (hi : i ∈ idsOf before)
    (hmem : i ∈ file.ids) : Fixable (g.tb i) := by
  rcases h.done i hi with hview | hmerged
  · have hinsns : (g.tb i).insns = (file.tb i).code.words.map disassemble :=
      (TB.insns_congr hview).trans (href.insns hfile hmem)
    have haot : (g.tb i).originAotTb = (file.tb i).originAotTb :=
      (TB.originAotTb_congr hview).trans (href.originAotTb i)
    have hopc : ∀ k, (g.tb i).opcAt k =
        (file.tb i).code.words[k]?.map fun insn => (disassemble insn).opc := by
      intro k
      have hk := congrArg (fun insns => insns[k]?.map LoongArchInsInfo.opc) hinsns
      simp only [TB.insns, List.getElem?_map, Option.map_map] at hk
      exact hk
    refine .inl ⟨?_, fun j hj => ?_, fun h0 h1 => ?_⟩
    · have hlen := congrArg List.length hinsns
      rw [TB.insns, List.length_map, List.length_map] at hlen
      exact hlen.trans_lt ((file.tb i).code.length_lt.trans (by decide))
    · rw [haot] at hj ⊢
      obtain ⟨insn, hinsn, hb⟩ := hslots i hmem j hj
      have hindex : ((file.tb i).originAotTb.jmpTargetArg j / 4).toNat =
          (file.tb i).originAotTb.slotIndex j := by
        rw [BitVec.toNat_udiv, AOTTB.slotIndex]
        rfl
      rw [hopc, ← hindex, hinsn]
      exact congrArg some hb
    · rw [haot] at h0 h1
      obtain ⟨insn, hinsn, hopc'⟩ := hbne i hmem h0 h1
      obtain ⟨k, hk⟩ := List.mem_iff_getElem?.mp hinsn
      exact ⟨k, by rw [hopc, hk]; exact congrArg some hopc'⟩
  · exact .inr ⟨hmerged.noSuccessor, hmerged.branch⟩

omit [DecidableEq ι] in
/-- A step that looks at opcodes only, in a file that is the same without the distances. -/
theorem exists_ok_of_mapInsns (step : AOTFile ι → Res (AOTFile ι))
    (hstep : ∀ f, step (f.mapInsns dropOffs) = (step f).map (mapInsns dropOffs))
    (hf : f.mapInsns dropOffs = g.mapInsns dropOffs) {g' : AOTFile ι} (hg : step g = .ok g') :
    ∃ f', step f = .ok f' ∧ f'.mapInsns dropOffs = g'.mapInsns dropOffs := by
  have hmap : (step f).map (mapInsns dropOffs) = .ok (g'.mapInsns dropOffs) := by
    rw [← hstep, hf, hstep, hg]
    rfl
  exact map_eq_ok_iff.mp hmap

/-- A step that is not the fixing of branches. -/
theorem run_mapInsns (hf : f.mapInsns dropOffs = g.mapInsns dropOffs) {op : Op ι} {g' : AOTFile ι}
    (hg : g.run op = .ok g') :
    ∃ f', f.run op = .ok f' ∧ f'.mapInsns dropOffs = g'.mapInsns dropOffs := by
  cases op with
  | settleAllTb seg =>
    exact exists_ok_of_mapInsns (·.settleAllTb seg) (fun f => f.settleAllTb_mapInsns _ seg) hf hg
  | addRels seg =>
    exact exists_ok_of_mapInsns (·.addRelsStart seg) (fun f => f.addRelsStart_mapInsns _ seg) hf hg
  | disassemble seg =>
    rw [← Except.ok.inj hg]
    exact ⟨f.disStart seg, rfl, disStart_mapInsns hf seg⟩
  | tu seg =>
    exact exists_ok_of_mapInsns (·.tuStart seg) (fun f => tuStart_mapInsns opc_dropOffs f seg) hf hg

theorem runSteps_mapInsns : ∀ (ops : List (Op ι)) {f g g' : AOTFile ι},
    f.mapInsns dropOffs = g.mapInsns dropOffs → g.runSteps ops = .ok g' →
      ∃ f', f.runSteps ops = .ok f' ∧ f'.mapInsns dropOffs = g'.mapInsns dropOffs
  | [], f, g, g', hf, hg => by
    rw [← Except.ok.inj hg]
    exact ⟨f, rfl, hf⟩
  | op :: ops, f, g, g', hf, hg => by
    obtain ⟨g₁, hg₁, hg⟩ := bind_eq_ok.mp hg
    obtain ⟨f₁, hf₁, hsame⟩ := run_mapInsns hf hg₁
    obtain ⟨f', hf', hsame'⟩ := runSteps_mapInsns ops hsame hg
    exact ⟨f', bind_eq_ok.mpr ⟨f₁, hf₁, hf'⟩, hsame'⟩

/-- One turn, step by step. -/
theorem turn_ok {work : AOTFile ι → Segment ι → Res (AOTFile ι)} {f₁ f₂ : AOTFile ι} {seg : Segment ι}
    {cout cout₁ cout₂ : Cout} (hload : f.runSteps (loadSteps seg) = .ok f₁)
    (hbefore : DisassmblePrinterVistor.start f₁ seg cout = .ok cout₁) (hwork : work f₁ seg = .ok f₂)
    (hafter : DisassmblePrinterVistor.start f₂ seg ((cout₁.put .separator).put .separator) = .ok cout₂) :
    turn work (f, cout) seg = .ok (f₂, cout₂) := by
  rw [runSteps, loadSteps, List.foldlM_cons] at hload
  obtain ⟨a, ha, hload⟩ := bind_eq_ok.mp hload
  rw [List.foldlM_cons] at hload
  obtain ⟨b, hb, hload⟩ := bind_eq_ok.mp hload
  obtain rfl : b.disStart seg = f₁ := Except.ok.inj hload
  refine bind_eq_ok.mpr ⟨a, ha, bind_eq_ok.mpr ⟨b, hb, bind_eq_ok.mpr ⟨cout₁, hbefore, ?_⟩⟩⟩
  exact bind_eq_ok.mpr ⟨f₂, hwork, bind_eq_ok.mpr ⟨cout₂, hafter, rfl⟩⟩

omit [DecidableEq ι] in
/-- What can be printed of a file can be printed of one with other distances. -/
theorem printable_of_mapInsns (hf : f.mapInsns dropOffs = g.mapInsns dropOffs) {i : ι}
    (h : Printable (g.tb i)) : Printable (f.tb i) := by
  rw [← DisassmblePrinterVistor.printable_mapInsns, mapInsns_congr hf i,
    DisassmblePrinterVistor.printable_mapInsns]
  exact h

/-! ### All segments -/

/-- **What holds when some segments are done**: without the distances the file is the one that is loaded
and merged only, and its blocks can be printed. -/
structure Along (file ref : AOTFile ι) (before : List (Segment ι)) (f g : AOTFile ι) : Prop where
  run : file.runSteps (driverSteps before) = .ok g
  sim : Sim file ref before g
  neat : file.DoneBefore (fun _ tb => tb.Neat) before g
  same : f.mapInsns dropOffs = g.mapInsns dropOffs

section Along

variable (hfile : file.Unloaded) (hnew : ∀ i, ∃ aotTb code x86Addr, file.tb i = .new aotTb code x86Addr)
  (hrels : file.RelsReadable) (hslots : file.SlotsIndexB) (hbne : file.TwoSlotsHaveBne)
  (hpresent : file.Presentable) (hcount : file.Countable) (hkeeps : file.DriverKeepsCode)
  (href : Ref file ref)
include hfile hnew hrels hslots hbne hpresent hcount hkeeps href

/-- **One turn** of the loop does not stop. -/
theorem optimizeSegment_along {seg : Segment ι} (hsegs : file.segs = before ++ seg :: later)
    (h : Along file ref before f g) (cout : Cout) :
    ∃ f' g' cout', optimizeSegment (f, cout) seg = .ok (f', cout') ∧
      Along file ref (before ++ [seg]) f' g' := by
  have hsegs' : file.segs = (before ++ [seg]) ++ later := by rw [hsegs, List.append_cons]
  have hids : ∀ i ∈ seg.tbs, i ∈ idsOf (before ++ [seg]) := fun i hi => by simp [idsOf, hi]
  -- the segment is loaded
  obtain ⟨a, b, ha, hb, hsame₁, -, hloaded, hother⟩ := loadSegment_ok hfile hrels hsegs h.neat
  have hload : g.runSteps (loadSteps seg) = .ok (b.disStart seg) :=
    bind_eq_ok.mpr ⟨a, ha, bind_eq_ok.mpr ⟨b, hb, rfl⟩⟩
  obtain ⟨g₁, hg₁, hsim₁⟩ := loadSteps_sim hfile hrels href hsegs h.sim
  obtain rfl : b.disStart seg = g₁ := Except.ok.inj (hload.symm.trans hg₁)
  have hneat₁ := h.neat.next hsame₁
    (fun i hi => ((hloaded i hi).2.tidy hnew hpresent (hloaded i hi).1).neat)
    (fun i hi hneat => hneat.relinks (hother i hi).relinks)
    fun i hi hpending => hpending.reparents (hother i hi)
  obtain ⟨f₁, hf₁, hmap₁⟩ := runSteps_mapInsns _ h.same hload
  obtain ⟨cout₁, hcout₁⟩ := DisassmblePrinterVistor.start_ok (f := f₁) (fun i hi =>
    printable_of_mapInsns hmap₁ ((hloaded i hi).2.tidy hnew hpresent (hloaded i hi).1).printable) cout
  -- its blocks are merged, and their branches fixed
  have hkeeps₁ := hkeeps before seg later _ hsegs (by rw [runSteps_append, h.run, ok_bind, hload])
  obtain ⟨g₂, hg₂, hsim₂⟩ := tuStart_sim hfile hslots href hsegs' hsim₁ (by rw [hsegs]; simp) hkeeps₁
  obtain ⟨f₂, hf₂, hmap₂⟩ := exists_ok_of_mapInsns (·.tuStart seg)
    (fun f => tuStart_mapInsns opc_dropOffs f seg) hmap₁ hg₂
  obtain ⟨f₃, hf₃, hmap₃⟩ := fixBranchStart_sim seg.tbs f₂ hmap₂ fun i hi =>
    hsim₂.fixable hfile hslots hbne href (hids i hi) (hloaded i hi).1
  have hneat₂ := hneat₁.tuStart hnew hg₂
  obtain ⟨cout₂, hcout₂⟩ := DisassmblePrinterVistor.start_ok (f := f₃) (fun i hi =>
    printable_of_mapInsns hmap₃ ((hneat₂.done i (hids i hi)).printable
      (hsim₂.length_lt hfile href hcount (hids i hi) (hloaded i hi).1)))
    ((cout₁.put .separator).put .separator)
  refine ⟨f₃, g₂, cout₂, turn_ok hf₁ hcout₁ (bind_eq_ok.mpr ⟨f₂, hf₂, hf₃⟩) hcout₂, ?_, hsim₂, hneat₂,
    hmap₃⟩
  have hsplit : driverSteps (before ++ [seg]) = driverSteps before ++ (loadSteps seg ++ [.tu seg]) := by
    simp [driverSteps]
  rw [hsplit, runSteps_append, h.run, ok_bind, runSteps_append, hload, ok_bind]
  exact bind_eq_ok.mpr ⟨g₂, hg₂, rfl⟩

/-- **The loop of the driver** does not stop, and without the distances the file is the one that is
loaded and merged. -/
theorem foldlM_optimizeSegment_along : ∀ (later before : List (Segment ι)) (f g : AOTFile ι) (cout : Cout),
    file.segs = before ++ later → Along file ref before f g →
      ∃ out merged cout', later.foldlM optimizeSegment (f, cout) = .ok (out, cout') ∧
        Along file ref file.segs out merged
  | [], before, f, g, cout, hsegs, h => by
    rw [List.append_nil] at hsegs
    exact ⟨f, g, cout, rfl, hsegs ▸ h⟩
  | seg :: later, before, f, g, cout, hsegs, h => by
    obtain ⟨f₁, g₁, cout₁, hturn, h₁⟩ := optimizeSegment_along hfile hnew hrels hslots hbne hpresent hcount
      hkeeps href hsegs h cout
    obtain ⟨out, merged, cout', hout, hend⟩ := foldlM_optimizeSegment_along later (before ++ [seg]) f₁ g₁
      cout₁ (by rw [hsegs, List.append_cons]) h₁
    exact ⟨out, merged, cout', by rw [List.foldlM_cons, hturn, ok_bind, hout], hend⟩

theorem testWriteToFile_along (cout : Cout) : ∃ out merged cout',
    file.testWriteToFile cout = .ok (out, cout') ∧ Along file ref file.segs out merged :=
  foldlM_optimizeSegment_along hfile hnew hrels hslots hbne hpresent hcount hkeeps href file.segs [] file
    file cout rfl ⟨rfl, ⟨.refl file, nofun, fun _ _ => rfl⟩, .nil hfile.links _, rfl⟩

end Along

end Sim

end AOTFile

end AotOpt
