import AotOpt.Tools.Load
import AotOpt.Tools.WriteToFile
import AotOpt.Vistor.PassMeaning

/-!
# The passes over a file

The `start` of a pass visits the blocks of a segment one after another. With any sequence of passes in
the place of the merging, the loop of the driver brings every block of a file into the state in which
the passes leave it, whatever is linked meanwhile; and the file that is written then, when it is loaded,
has the patched code at the addresses of the first file.

* `Done` — what holds of a block after the passes, `optimize_ok` of all blocks.
* `code_along_files` — the code of the new file against that of the first.
-/

namespace AotOpt

open Lib LoongArchInsInfo DisassmbleVistor

open DisassmblePrinterVistor (Cout)

variable {ι : Type}

/-- The passes whose `start` visits all blocks of a segment; that of the others visits those that are
`pipehole_available`. -/
def Pass.visitsAll : Pass → Bool
  | .removeTail => true
  | .fixBranch => true
  | _ => false

namespace AOTFile

variable [DecidableEq ι] (f : AOTFile ι)

/-- One turn of the loop of the `start` of a pass. -/
def passTB (pass : Pass) (f : AOTFile ι) (i : ι) : Res (AOTFile ι) :=
  if pass.visitsAll || (f.tb i).pipeholeAvailable then do
    let tb ← pass.visit (f.tb i)
    .ok (f.setTB i tb)
  else .ok f

/-- The `start` of a pass. -/
def passStart (seg : Segment ι) (pass : Pass) : Res (AOTFile ι) := seg.tbs.foldlM (passTB pass) f

/-- One turn of the loop of `test_write_to_file`, with the passes in the place of the merging. -/
def passSegment (passes : List Pass) : AOTFile ι × Cout → Segment ι → Res (AOTFile ι × Cout) :=
  turn fun f seg => passes.foldlM (fun f pass => f.passStart seg pass) f

/-- The loop. -/
def optimize (passes : List Pass) (cout : Cout) : Res (AOTFile ι × Cout) :=
  f.segs.foldlM (passSegment passes) (f, cout)

end AOTFile

namespace LoongArchInsInfo.HasNames

variable {insn insn' : LoongArchInsInfo}

/-- What a pass writes has names: a new `addi.d` is for the register of the `lu12i.w`. -/
theorem patch (h : insn.HasNames) (hpatch : Patch insn insn') : insn'.HasNames := by
  cases hpatch with
  | si hopc hv => exact (hasNames_set rfl _).mpr h
  | offsB hopc hv => exact (hasNames_set rfl _).mpr h
  | offsBne hopc hv => exact (hasNames_set rfl _).mpr h
  | @addi hopc reg hreg imm himm =>
    have hitem : .name .gprName .dstReg ∈ printFuncTable (insn2format insn.opc) := by
      rw [hopc]
      decide
    have hdst : insn.dstReg.toNat < 32 := h (by rw [hopc]; decide) _ hitem
    refine (hasNames_set rfl _).mpr fun _ item hitem => ?_
    have hitem : item ∈ [.name .gprName .dstReg, .name .gprName (.srcsRegs 0), .value .si] := hitem
    simp only [List.mem_cons, List.not_mem_nil, or_false] at hitem
    rcases hitem with rfl | rfl | rfl
    · exact hdst
    · exact hreg
    · trivial

theorem patches (h : insn.HasNames) (hpatch : Relation.ReflTransGen Patch insn insn') :
    insn'.HasNames := by
  induction hpatch with
  | refl => exact h
  | tail _ hlast ih => exact ih.patch hlast

end LoongArchInsInfo.HasNames

namespace TB

/-- A block that is patched can be printed. -/
theorem Tidy.patched {tb tb' : TB ι} (h : tb.Tidy) (hpatch : Patched tb tb') : tb'.Tidy := by
  refine ⟨hpatch.inside h.inside, fun info hinfo => ?_⟩
  obtain ⟨n', hn', rfl⟩ := List.mem_map.mp hinfo
  obtain ⟨n, hn, -, hpatches⟩ := hpatch.nodes.exists_of_mem hn'
  exact (h.names _ (List.mem_map_of_mem hn)).patches hpatches

theorem Ordered.relinked {tb : TB ι} {t f : Option ι} {ps : List ι} (h : tb.Ordered) :
    (tb.relinked t f ps).Ordered :=
  ⟨⟨h.length_lt, h.slot, h.bne⟩, h.slots_lt, h.bne_lt⟩

end TB

namespace AOTFile

variable [DecidableEq ι] {file f f' : AOTFile ι}

/-! ### The states of a block -/

/-- What the passes need of the blocks that they visit: short code, and in a block that is
`pipehole_available` no `b` in front of the `bne`. Those that are not are left to the passes that visit
all blocks, which are then not run. -/
structure Admitted (file : AOTFile ι) (passes : List Pass) : Prop where
  bneFirst : ∀ i ∈ file.ids, ∀ tb, file.Attached i tb → (startTB tb).pipeholeAvailable = true →
    (startTB tb).BneFirst
  length_le : ∀ i ∈ file.ids, ∀ tb, file.Attached i tb → (startTB tb).pipeholeAvailable = true →
    (file.tb i).code.words.length ≤ 2 ^ 15
  skipped : ∀ i ∈ file.ids, ∀ tb, file.Attached i tb → (startTB tb).pipeholeAvailable = false →
    ∀ pass ∈ passes, pass.visitsAll = false

/-- **The block after some passes**: what is left of its code is patched, the next pass can be run, and
a block without relocations computes what it computed. -/
structure Optimised (file : AOTFile ι) (i : ι) (tb : TB ι) : Prop where
  ordered : tb.Ordered
  length_le : tb.disInsns.nodes.length ≤ 2 ^ 15
  relsLow : tb.RelsLow
  effect : file.NoRels i → SteadyWords (file.tb i).code.words →
    Ready tb ∧ SameEffect (startTB (file.tb i)) tb

/-- The passes leave the block out. -/
structure Skipped (file : AOTFile ι) (passes : List Pass) (i : ι) (tb : TB ι) : Prop where
  available : tb.pipeholeAvailable = false
  passes : ∀ pass ∈ passes, pass.visitsAll = false
  nodes : tb.disInsns.nodes = (startTB (file.tb i)).disInsns.nodes

/-- **The block after some passes** or without them. -/
structure Done (file : AOTFile ι) (passes : List Pass) (i : ι) (tb : TB ι) : Prop where
  place : tb.originAotTb.offsetInSegment = (file.tb i).originAotTb.offsetInSegment
  kept : ∀ n ∈ tb.disInsns.nodes, n.data.Kept
  nodes : PatchedList tb.disInsns.nodes (startTB (file.tb i)).disInsns.nodes
  tidy : tb.Tidy
  state : file.Optimised i tb ∨ file.Skipped passes i tb

section States

variable {passes : List Pass} {i : ι} {tb tb' : TB ι}

omit [DecidableEq ι]

/-- A block that was disassembled. -/
theorem Loaded.done (hnew : ∀ i, ∃ aotTb code x86Addr, file.tb i = .new aotTb code x86Addr)
    (hlow : file.TableLow) (hpresent : file.Presentable) (hadmitted : file.Admitted passes)
    (hi : i ∈ file.ids) (h : file.Loaded i tb) : file.Done passes i tb := by
  have htidy := h.tidy hnew hpresent hi
  obtain ⟨tb₀, hattach, t, f, ps, rfl⟩ := h
  have hblank := blank_of_new hnew i
  have hblank₀ := hattach.blank hnew
  obtain ⟨new, htb₀, hmem, hno⟩ := hattach.rels
  have hnil : (file.tb i).rels = [] := by
    obtain ⟨aotTb, code, x86Addr, hfile⟩ := hnew i
    rw [hfile]
    rfl
  rw [hnil, List.nil_append] at htb₀
  have hnodes : (startTB tb₀).disInsns.nodes = (startTB (file.tb i)).disInsns.nodes := by
    rw [nodes_of_blank hblank₀, nodes_of_blank hblank, htb₀]
  refine ⟨?_, kept_startTB hblank₀, .of_sublist (by rw [← hnodes]; exact .refl _), htidy, ?_⟩
  · have hplace : (startTB tb₀).originAotTb.offsetInSegment = tb₀.originAotTb.offsetInSegment :=
      congrArg (fun v : View ι => v.aotTb.offsetInSegment) (view_startTB tb₀)
    rw [htb₀] at hplace
    rw [htb₀]
    exact hplace
  · cases ha : (startTB tb₀).pipeholeAvailable with
    | false => exact .inr ⟨ha, hadmitted.skipped i hi tb₀ hattach ha, hnodes⟩
    | true =>
      have hord := ordered_startTB hblank₀ ha (hadmitted.bneFirst i hi tb₀ hattach ha)
      have hlen : (startTB tb₀).disInsns.nodes.length ≤ 2 ^ 15 := by
        rw [hnodes, length_of_blank hblank]
        exact hadmitted.length_le i hi tb₀ hattach ha
      have hrels : (startTB tb₀).rels = new := by rw [rels_startTB, htb₀]
      refine .inl ⟨hord.relinked, hlen, ?_, fun hi hsteady => ⟨?_, SameEffect.of_straight ?_⟩⟩
      · intro r hr _
        exact hlow r.rel (hmem r (hrels ▸ hr))
      · refine ⟨hord.relinked, hlen, ?_, kept_startTB hblank₀, ?_⟩
        · intro r hr
          have hr' : r ∈ new := hrels ▸ hr
          rw [hno hi] at hr'
          cases hr'
        · show ∀ n ∈ (startTB tb₀).disInsns.nodes, n.data.Steady
          rw [hnodes, nodes_of_blank hblank]
          intro n hn
          obtain ⟨e, he, rfl⟩ := List.mem_map.mp hn
          exact hsteady e.1 (List.fst_mem_of_mem_zipIdx he)
      · show straight (startTB tb₀).disInsns.nodes = _
        rw [hnodes]

/-- Linking leaves the block as it is. -/
theorem Done.relinks (h : file.Done passes i tb) (hlinks : tb.Relinks tb') : file.Done passes i tb' := by
  obtain ⟨t, f, ps, rfl⟩ := hlinks
  refine ⟨h.place, h.kept, h.nodes, h.tidy.relinks ⟨t, f, ps, rfl⟩, ?_⟩
  rcases h.state with hopt | hskip
  · refine .inl ⟨hopt.ordered.relinked, hopt.length_le, hopt.relsLow, fun hrels hsteady => ?_⟩
    obtain ⟨hready, hsame⟩ := hopt.effect hrels hsteady
    exact ⟨⟨hready.ordered.relinked, hready.length_le, hready.rels, hready.kept, hready.steady⟩, hsame⟩
  · exact .inr ⟨hskip.available, hskip.passes, hskip.nodes⟩

/-- The visit of a pass. -/
theorem Done.visit (h : file.Done passes i tb) (hopt : file.Optimised i tb) (pass : Pass) :
    ∃ tb', pass.visit tb = .ok tb' ∧ file.Done passes i tb' := by
  obtain ⟨tb', hok, hord⟩ := pass.ordered_visit hopt.ordered
  have hpatch := Pass.patched hopt.ordered hopt.length_le hopt.relsLow hok
  refine ⟨tb', hok, hpatch.place.trans h.place, hpatch.kept h.kept, h.nodes.trans hpatch.nodes,
    h.tidy.patched hpatch, .inl ?_⟩
  refine ⟨hord, hpatch.nodes.length_le.trans hopt.length_le, hpatch.relsLow hopt.relsLow,
    fun hrels hsteady => ?_⟩
  obtain ⟨hready, hsame⟩ := hopt.effect hrels hsteady
  exact ⟨hready.patched hpatch hord, SameEffect.trans hsame (Pass.sameEffect hready hok)⟩

end States

/-! ### One segment -/

section Segment

variable {passes : List Pass}

/-- **One turn of a pass**, over a block that it visits or leaves out. -/
theorem passTB_ok {pass : Pass} (hpass : pass ∈ passes) (f : AOTFile ι) (i : ι)
    (h : file.Done passes i (f.tb i)) :
    ∃ tb, f.passTB pass i = .ok (f.setTB i tb) ∧ file.Done passes i tb := by
  have hsame : f.setTB i (f.tb i) = f := by rw [setTB, Function.update_eq_self]
  rw [passTB]
  split_ifs with hvisit
  · rcases h.state with hopt | hskip
    · obtain ⟨tb, hok, hdone⟩ := h.visit hopt pass
      exact ⟨tb, bind_eq_ok.mpr ⟨tb, hok, rfl⟩, hdone⟩
    · rw [hskip.passes pass hpass, hskip.available] at hvisit
      cases hvisit
  · exact ⟨f.tb i, by rw [hsame], h⟩

/-- **The passes** over a segment. -/
theorem passes_ok {is : List ι} (hnodup : is.Nodup) : ∀ (ps : List Pass) {f : AOTFile ι},
    (∀ pass ∈ ps, pass ∈ passes) → SameFile file f → (∀ i ∈ is, file.Done passes i (f.tb i)) →
      ∃ f', ps.foldlM (fun f pass => is.foldlM (passTB pass) f) f = .ok f' ∧ SameFile file f' ∧
        (∀ i ∈ is, file.Done passes i (f'.tb i)) ∧ ∀ i, i ∉ is → f'.tb i = f.tb i
  | [], f, _, hsame, hdone => ⟨f, rfl, hsame, hdone, fun _ _ => rfl⟩
  | pass :: ps, f, hps, hsame, hdone => by
    obtain ⟨f₁, h₁, hsame₁, hdone₁, hother₁⟩ := foldlM_turn (file.Done passes)
      (fun f i _ => passTB_ok (hps pass List.mem_cons_self) f i) hnodup hsame hdone
    obtain ⟨f', h', hsame', hdone', hother'⟩ := passes_ok hnodup ps
      (fun pass hpass => hps pass (List.mem_cons_of_mem _ hpass)) hsame₁ hdone₁
    refine ⟨f', ?_, hsame', hdone', fun i hi => (hother' i hi).trans (hother₁ i hi)⟩
    rw [List.foldlM_cons, h₁]
    exact h'

/-- **One turn of the loop**: a segment more is done. -/
theorem passSegment_ok (hfile : file.Unloaded)
    (hnew : ∀ i, ∃ aotTb code x86Addr, file.tb i = .new aotTb code x86Addr) (hrels : file.RelsReadable)
    (hlow : file.TableLow) (hpresent : file.Presentable) (hadmitted : file.Admitted passes)
    {before later : List (Segment ι)} {seg : Segment ι} (hsegs : file.segs = before ++ seg :: later)
    (h : file.DoneBefore (file.Done passes) before f) (cout : Cout) :
    ∃ f' cout', passSegment passes (f, cout) seg = .ok (f', cout') ∧
      file.DoneBefore (file.Done passes) (before ++ [seg]) f' := by
  obtain ⟨f₁, f₂, h₁, h₂, hsame, hnodup, hloaded, hother⟩ := loadSegment_ok hfile hrels hsegs h
  obtain ⟨cout₁, hcout₁⟩ := DisassmblePrinterVistor.start_ok (f := f₂.disStart seg)
    (fun i hi => ((hloaded i hi).2.tidy hnew hpresent (hloaded i hi).1).printable) cout
  obtain ⟨f', h', hsame', hdone', hother'⟩ := passes_ok hnodup passes (fun _ => id) hsame fun i hi =>
    (hloaded i hi).2.done hnew hlow hpresent hadmitted (hloaded i hi).1
  obtain ⟨cout', hcout'⟩ := DisassmblePrinterVistor.start_ok (f := f')
    (fun i hi => (hdone' i hi).tidy.printable) ((cout₁.put .separator).put .separator)
  -- the blocks of the other segments are linked, and else as they were
  have hrest : ∀ i, i ∉ seg.tbs → (f.tb i).Reparents (f'.tb i) := fun i hi =>
    (hother' i hi).symm ▸ hother i hi
  refine ⟨f', cout', turn_ok ?_ hcout₁ h' hcout', h.next hsame' hdone'
    (fun i hi hdone => hdone.relinks (hrest i hi).relinks)
    fun i hi hpending => hpending.reparents (hrest i hi)⟩
  exact bind_eq_ok.mpr ⟨f₁, h₁, bind_eq_ok.mpr ⟨f₂, h₂, rfl⟩⟩

end Segment

/-! ### All segments -/

section Optimize

variable {passes : List Pass}

/-- **The loop** does not stop. -/
theorem foldlM_passSegment_ok (hfile : file.Unloaded)
    (hnew : ∀ i, ∃ aotTb code x86Addr, file.tb i = .new aotTb code x86Addr) (hrels : file.RelsReadable)
    (hlow : file.TableLow) (hpresent : file.Presentable) (hadmitted : file.Admitted passes) :
    ∀ (later before : List (Segment ι)) (f : AOTFile ι) (cout : Cout), file.segs = before ++ later →
      file.DoneBefore (file.Done passes) before f →
        ∃ out cout', later.foldlM (passSegment passes) (f, cout) = .ok (out, cout') ∧
          file.DoneBefore (file.Done passes) file.segs out
  | [], before, f, cout, hsegs, h => by
    rw [List.append_nil] at hsegs
    exact ⟨f, cout, rfl, hsegs ▸ h⟩
  | seg :: later, before, f, cout, hsegs, h => by
    obtain ⟨f₁, cout₁, h₁, hnext⟩ := passSegment_ok hfile hnew hrels hlow hpresent hadmitted hsegs h cout
    obtain ⟨out, cout', hout, hend⟩ := foldlM_passSegment_ok hfile hnew hrels hlow hpresent hadmitted later
      (before ++ [seg]) f₁ cout₁ (by rw [hsegs, List.append_cons]) hnext
    exact ⟨out, cout', by rw [List.foldlM_cons, h₁, ok_bind, hout], hend⟩

theorem optimize_ok (hfile : file.Unloaded)
    (hnew : ∀ i, ∃ aotTb code x86Addr, file.tb i = .new aotTb code x86Addr) (hrels : file.RelsReadable)
    (hlow : file.TableLow) (hpresent : file.Presentable) (hadmitted : file.Admitted passes) (cout : Cout) :
    ∃ out cout', file.optimize passes cout = .ok (out, cout') ∧
      file.DoneBefore (file.Done passes) file.segs out :=
  foldlM_passSegment_ok hfile hnew hrels hlow hpresent hadmitted file.segs [] file cout rfl
    (.nil hfile.links _)

omit [DecidableEq ι] in
/-- No block has moved. -/
theorem DoneBefore.samePlaces (h : file.DoneBefore (file.Done passes) file.segs f) : SamePlaces file f := by
  intro i
  by_cases hi : i ∈ idsOf file.segs
  · exact (h.done i hi).place
  · obtain ⟨⟨t, b, ps, htb⟩, -⟩ := h.pending i hi
    rw [htb]
    rfl

end Optimize

end AOTFile

/-! ### The new file -/

/-- The word is read as an instruction that a word is patched to. -/
def PatchedWord (word' word : BitVec 32) : Prop :=
  ∃ insn, Relation.ReflTransGen Patch (disassemble word) insn ∧ (disassemble word').SameInsn insn

/-- The words of a list of nodes that are patched. -/
theorem patchedWords_of_nodes {words : List (BitVec 32)} {n : ℕ} {nodes : List (ListNode LoongArchInsInfo)}
    (h : PatchedList nodes ((words.zipIdx n).map fun e => ⟨e.2, disassemble e.1⟩)) :
    List.SublistForall₂ PatchedWord (nodes.map fun n => encode n.data) words := by
  have hwords : words = (words.zipIdx n).map Prod.fst := (List.zipIdx_map_fst ..).symm
  conv => arg 3; rw [hwords]
  rw [List.sublistForall₂_map_left_iff, List.sublistForall₂_map_right_iff]
  obtain ⟨l, hall, hsub⟩ := List.sublistForall₂_iff.mp (List.sublistForall₂_map_right_iff.mp h)
  refine List.sublistForall₂_iff.mpr ⟨l, hall.imp fun n e hpatch => ?_, hsub⟩
  exact ⟨n.data, hpatch.2, ((kept_disassemble e.1).patches hpatch.2).rereads⟩

namespace AOTFile

section NewFile

variable {file : AOTFile ι} {passes : List Pass} {i : ι} {tb : TB ι}

/-- The words of a block that is done. -/
theorem Done.patchedWords (hblank : (file.tb i).Blank) (h : file.Done passes i tb) :
    List.SublistForall₂ PatchedWord tb.codeWords (file.tb i).code.words := by
  have hnodes := h.nodes
  rw [nodes_of_blank hblank] at hnodes
  exact patchedWords_of_nodes hnodes

/-- What they compute. -/
theorem Done.exec_words (hblank : (file.tb i).Blank) (h : file.Done passes i tb) (hno : file.NoRels i)
    (hsteady : SteadyWords (file.tb i).code.words) {σ : Type}
    {other : LoongArchInsInfo → Cpu σ → Cpu σ} (hother : Admits other) (m : Cpu σ) :
    m.exec (wordMeaning other) (straightWords tb.codeWords) =
      m.exec (wordMeaning other) (straightWords (file.tb i).code.words) := by
  rw [TB.codeWords, exec_straightWords hother (sameInsn_encode h.kept),
    exec_straightWords hother (sameInsn_code hblank)]
  rcases h.state with hopt | hskip
  · exact (hopt.effect hno hsteady).2 other m hother.writesDst
  · rw [hskip.nodes]

end NewFile

/-- **The passes over a file**: when the relocations can be read, are low, disjoint and inside their
blocks, the control registers have names, and the blocks that are `pipehole_available` have their `bne`
in front and at most `2 ^ 15` words, the loop does not stop, whatever the passes. When the file that is
written then is loaded, it has its blocks at the same addresses; of the words of each block some are
left, patched; and those of a block without relocations, in which no access is to the register it is
based on, compute up to the first `b` or `bne` what they computed. -/
theorem code_along_files {image : Image} {file : AOTFile ℕ} (hload : load image = .ok file)
    (passes : List Pass) (hrels : file.RelsReadable) (hlow : file.TableLow) (hpresent : file.Presentable)
    (hadmitted : file.Admitted passes)
    (hname : ∀ seg ∈ file.segs, seg.libName.length < PATH_MAX ∧ 0 ∉ seg.libName) (cout : Cout) :
    ∃ out cout', file.optimize passes cout = .ok (out, cout') ∧
      (fileBytes out.written < 2 ^ 31 → ¬FirstHasNoRel (out.written.flatMap (·.tbs)) →
        ∀ (m junk : ℕ → BitVec 8) (pos : ℕ), ∃ file',
          loadFrom junk ⟨AOTFileWriter.bytes out.written m 0,
            (AOTFileWriter.howManyBytes out.written).toNat, pos⟩ = .ok file' ∧
          file'.x86AddrToTb = file.x86AddrToTb ∧ file'.ids = file.ids ∧ ∀ i ∈ file.ids,
            List.SublistForall₂ PatchedWord (file'.tb i).code.words (file.tb i).code.words ∧
            (file.NoRels i → SteadyWords (file.tb i).code.words →
              ∀ {σ : Type} (other : LoongArchInsInfo → Cpu σ → Cpu σ) (m : Cpu σ), Admits other →
                m.exec (wordMeaning other) (straightWords (file'.tb i).code.words) =
                  m.exec (wordMeaning other) (straightWords (file.tb i).code.words))) := by
  have hblank := blank_of_new (tb_load hload)
  obtain ⟨out, cout', hout, hdone⟩ :=
    optimize_ok (unloaded_load hload) (tb_load hload) hrels hlow hpresent hadmitted cout
  refine ⟨out, cout', hout, fun hlt hfirst m junk pos => ?_⟩
  obtain ⟨file', hfrom, -, -, hmap, hids, hrewritten⟩ :=
    exists_rewritten hload hdone.same.segs hdone.samePlaces m junk pos hname hlt hfirst
  refine ⟨file', hfrom, hmap, hids, fun i hi => ?_⟩
  obtain ⟨seg, hseg, hiseg⟩ := List.mem_flatMap.mp hi
  obtain ⟨seg', hback⟩ := hrewritten seg hseg
  have hblock := hdone.done i hi
  rw [(hback.readBack i hiseg).words]
  exact ⟨hblock.patchedWords (hblank i), fun hno hsteady _ _ _ hother =>
    hblock.exec_words (hblank i) hno hsteady hother _⟩

/-! ### A file of two blocks -/

/-- `andi $zero, $zero, 0`, `lu12i.w` and `ori` of two registers, and a `b`. -/
def loads : List (BitVec 32) :=
  [0x03400000, 0x14000024, 0x03800084, 0x14000025, 0x038010a5, 0x50000000]

/-- A block of these, without slots. -/
def loadsTB (offset relStart : BitVec 32) : TBImage where
  aotTb := { (default : AOTTB) with
    offsetInSegment := offset
    tbCacheSize := 24
    jmpResetOffsets := fun _ => TB_JMP_RESET_OFFSET_INVALID
    relStartIndex := relStart }
  code := ⟨24, loads, rfl⟩
  size_eq := rfl

/-- Two of them, the first with a relocation. -/
def loadsImage : Image where
  segs := [⟨default, [0x61], [loadsTB 0 0, loadsTB 4 1]⟩]
  rels := [⟨.LOAD_TB_ADDR, 4, 2, 0, 0⟩]
  length_rels := by decide

theorem controlNamed_loads : ∀ word ∈ loads, (disassemble word).ControlNamed := by
  intro word hword
  simp only [loads, List.mem_cons, List.not_mem_nil, or_false] at hword
  rcases hword with rfl | rfl | rfl | rfl | rfl | rfl
  all_goals decide

/-- Four passes over the file. -/
theorem code_along_loads : ∃ file out cout' file', load loadsImage = .ok file ∧
    file.optimize [.removeNon, .lu12iOri, .removeTail, .fixBranch] ⟨[], false⟩ = .ok (out, cout') ∧
    loadFrom (fun _ => 0xff) ⟨AOTFileWriter.bytes out.written (fun _ => 0xff) 0,
      (AOTFileWriter.howManyBytes out.written).toNat, 0⟩ = .ok file' ∧
    file'.x86AddrToTb = file.x86AddrToTb ∧ file'.ids = file.ids ∧ ∀ i ∈ file.ids,
      List.SublistForall₂ PatchedWord (file'.tb i).code.words (file.tb i).code.words ∧
      (file.NoRels i → SteadyWords (file.tb i).code.words →
        ∀ {σ : Type} (other : LoongArchInsInfo → Cpu σ → Cpu σ) (m : Cpu σ), Admits other →
          m.exec (wordMeaning other) (straightWords (file'.tb i).code.words) =
            m.exec (wordMeaning other) (straightWords (file.tb i).code.words)) := by
  obtain ⟨out, cout', hout, h⟩ := @code_along_files loadsImage _ rfl
    [.removeNon, .lu12iOri, .removeTail, .fixBranch] (by decide)
    (by
      intro rel hrel
      obtain rfl := List.mem_singleton.mp hrel
      decide)
    (by
      refine ⟨fun i hi tb htb => ?_, fun i hi word hword => ?_⟩
      all_goals
        have hi01 : i ∈ [0, 1] := hi
        simp only [List.mem_cons, List.not_mem_nil, or_false] at hi01
      · rcases hi01 with rfl | rfl
        · obtain rfl := Except.ok.inj htb
          exact ⟨by decide, by decide, by decide, List.pairwise_singleton _ _⟩
        · obtain rfl := Except.ok.inj htb
          exact relsApart_nil _
      · rcases hi01 with rfl | rfl
        · exact controlNamed_loads word hword
        · exact controlNamed_loads word hword)
    (by
      refine ⟨fun i hi tb htb _ h0 => ?_, fun i hi tb _ _ => ?_, fun i hi tb htb ha => ?_⟩
      all_goals
        have hi01 : i ∈ [0, 1] := hi
        simp only [List.mem_cons, List.not_mem_nil, or_false] at hi01
      · rcases hi01 with rfl | rfl
        · obtain rfl := Except.ok.inj htb
          cases h0
        · obtain rfl := Except.ok.inj htb
          cases h0
      · rcases hi01 with rfl | rfl
        · decide
        · decide
      · rcases hi01 with rfl | rfl
        · obtain rfl := Except.ok.inj htb
          cases ha
        · obtain rfl := Except.ok.inj htb
          cases ha)
    (by
      intro seg hseg
      obtain rfl := List.mem_singleton.mp hseg
      simp [PATH_MAX])
    ⟨[], false⟩
  have hfirst : ¬FirstHasNoRel (out.written.flatMap (·.tbs)) := by
    obtain rfl : _ = out := congrArg Prod.fst (Except.ok.inj hout)
    rintro ⟨tb, htb, hnil⟩
    obtain rfl := Option.some.inj htb
    cases hnil
  have hlt : fileBytes out.written < 2 ^ 31 := by
    obtain rfl : _ = out := congrArg Prod.fst (Except.ok.inj hout)
    decide
  obtain ⟨file', hfrom, hmap, hids, hwords⟩ := h hlt hfirst (fun _ => 0xff) (fun _ => 0xff) 0
  exact ⟨_, out, cout', file', rfl, hout, hfrom, hmap, hids, hwords⟩

end AOTFile

end AotOpt
