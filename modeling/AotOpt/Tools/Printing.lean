import AotOpt.Disassembler.Distance
import AotOpt.Tools.Load
import AotOpt.Vistor.DisassemblePrint
import AotOpt.Vistor.MapInsns
import AotOpt.Vistor.Merge

/-!
# What is printed along the driver

The driver prints the blocks of a segment as soon as they are loaded, and again when it is done with
them. A relocation that goes on behind the last instruction would stop it there. The relocations of the
table that lie inside their blocks stay inside when a block takes over another one, whether that is
loaded or not.

* `Presentable` — what is asked of the file, `Loaded.tidy` what its blocks are then.
* `Neat.unify`, `DoneBefore.tuStart` — one merge, and the walks of a segment.
* `start_ok` — the printing of a segment ends.
-/

namespace AotOpt

open Lib LoongArchInsInfo DisassmbleVistor

variable {ι : Type}

/-- A word has names, if its control register has. -/
theorem LoongArchInsInfo.hasNames_disassemble {word : BitVec 32} (h : (disassemble word).ControlNamed) :
    (disassemble word).HasNames :=
  fun hopc => ((kept_disassemble word).encodable hopc).hasNames h hopc

namespace DisassmblePrinterVistor

/-- **The printing of a segment** whose blocks can be printed ends. -/
theorem start_ok {f : AOTFile ι} {seg : Segment ι} (h : ∀ i ∈ seg.tbs, Printable (f.tb i)) (cout : Cout) :
    ∃ cout', start f seg cout = .ok cout' := by
  have hloop : ∀ (is : List ι) (cout : Cout), (∀ i ∈ is, Printable (f.tb i)) →
      ∃ cout', is.foldlM (fun cout i => visit seg.seg.info.segBegin f.addrOf (f.tb i) cout) cout =
        .ok cout' := by
    intro is
    induction is with
    | nil => exact fun cout _ => ⟨cout, rfl⟩
    | cons i is ih =>
      intro cout h
      obtain ⟨cout₁, h₁⟩ :=
        visit_of_printable seg.seg.info.segBegin f.addrOf (h i List.mem_cons_self) cout
      obtain ⟨cout', h'⟩ := ih cout₁ fun j hj => h j (List.mem_cons_of_mem _ hj)
      exact ⟨cout', by rw [List.foldlM_cons, h₁, ok_bind, h']⟩
  exact hloop seg.tbs cout h

/-- Whether a block can be printed does not depend on the distances. -/
theorem printable_mapInsns (tb : TB ι) : Printable (tb.mapInsns dropOffs) ↔ Printable tb := by
  have hlen : (tb.mapInsns dropOffs).disInsns.nodes.length = tb.disInsns.nodes.length := by
    rw [TB.disInsns_mapInsns, LinkList.nodes_map, List.length_map]
  have hnames : (∀ info ∈ (tb.mapInsns dropOffs).insns, info.HasNames) ↔
      ∀ info ∈ tb.insns, info.HasNames := by
    rw [TB.insns_mapInsns, List.forall_mem_map]
    exact forall₂_congr fun info _ => hasNames_set rfl _
  constructor
  · rintro ⟨hin, hlt, hn⟩
    exact ⟨hlen ▸ hin, hlen ▸ hlt, hnames.mp hn⟩
  · rintro ⟨hin, hlt, hn⟩
    exact ⟨hlen.symm ▸ hin, hlen.symm ▸ hlt, hnames.mpr hn⟩

end DisassmblePrinterVistor

/-! ### One block -/

namespace TB

open DisassmblePrinterVistor

/-- The relocations are inside the code, and the instructions have names. -/
structure Tidy (tb : TB ι) : Prop where
  inside : tb.RelsInside
  names : ∀ info ∈ tb.insns, info.HasNames

/-- Of a block that has taken over another one, with relocations that may overlap, only the ends of the
relocations matter: no more is deleted of it. -/
structure Neat (tb : TB ι) : Prop where
  rels : tb.RelsInside ∨
    (tb.noSuccessor ∧ ∀ r ∈ tb.rels, r.valid → r.first + r.count ≤ tb.disInsns.nodes.length)
  names : ∀ info ∈ tb.insns, info.HasNames

variable {tb tb' dst src : TB ι} {isTrueBranch : Bool}

theorem Tidy.neat (h : tb.Tidy) : tb.Neat := ⟨.inl h.inside, h.names⟩

theorem Neat.inside (h : tb.Neat) :
    ∀ r ∈ tb.rels, r.valid → r.first + r.count ≤ tb.disInsns.nodes.length :=
  h.rels.elim (fun h => h.apart.inside) fun h => h.2

theorem Neat.printable (h : tb.Neat) (hlen : tb.disInsns.nodes.length < 2 ^ 64) : Printable tb :=
  ⟨h.inside, hlen, h.names⟩

theorem Tidy.printable (h : tb.Tidy) : Printable tb :=
  h.neat.printable (h.inside.length_lt.trans (by decide))

theorem Tidy.relinks (h : tb.Tidy) (hlinks : tb.Relinks tb') : tb'.Tidy := by
  obtain ⟨_, _, _, rfl⟩ := hlinks
  exact ⟨⟨h.inside.apart, h.inside.length_lt⟩, h.names⟩

theorem Neat.relinks (h : tb.Neat) (hlinks : tb.Relinks tb') : tb'.Neat := by
  obtain ⟨_, _, _, rfl⟩ := hlinks
  exact ⟨h.rels.imp (fun h => ⟨h.apart, h.length_lt⟩) id, h.names⟩

/-- A relocation that is appended ends where it ended, behind the cut or in front of that. -/
theorem end_rebase {base : BitVec 32} {k len : ℕ} (hbase : base.toNat = 4 * k) {rels : List RelSlot}
    (h : ∀ r ∈ rels, r.valid → r.first + r.count ≤ len) :
    ∀ r ∈ rebaseRels base rels, r.first + r.count ≤ k + len := by
  intro r hr
  obtain ⟨r₀, hr₀, rfl⟩ := List.mem_map.mp hr
  obtain ⟨hmem, hv⟩ := List.mem_filter.mp hr₀
  have hend := h r₀ hmem hv
  have hle : (r₀.rel.tcOffset + base).toNat ≤ r₀.rel.tcOffset.toNat + 4 * k := by
    rw [BitVec.toNat_add, hbase]
    exact Nat.mod_le _ _
  rw [RelSlot.first, RelSlot.count] at hend
  show (r₀.rel.tcOffset + base).toNat / 4 + r₀.rel.relSlotsNum.toNat ≤ k + len
  omega

/-- No slot is valid after a merge. -/
theorem noSuccessor_unify (h : dst.unifySrcblockNoSuccessor src isTrueBranch = .ok (some tb)) :
    tb.noSuccessor := by
  obtain ⟨hno, -, -, -, -, -, -, -, -, -, rfl⟩ := unifySrcblockNoSuccessor_eq_ok.mp h
  exact noSuccessor_iff.mpr fun j => slotValid_rebaseSlots (slotValid_of_noSuccessor hno j)

/-- The branch of the slot is in the block, and all of it from there on is deleted. -/
theorem cutStart_lt (hlt : dst.disInsns.nodes.length < 2 ^ 30)
    (h : dst.unifySrcblockNoSuccessor src isTrueBranch = .ok (some tb)) :
    (dst.cutStart isTrueBranch).toNat < dst.disInsns.nodes.length ∧
      (dst.cutStart isTrueBranch).toNat + (dst.cutCount isTrueBranch).toNat =
        dst.disInsns.nodes.length := by
  obtain ⟨-, -, n, hget, -⟩ := unify_ok_inv h
  have hk := (List.getElem?_eq_some_iff.mp (get_cutStart hget).1).1
  exact ⟨hk, cutStart_add_cutCount hk (hlt.trans (by decide))⟩

/-- The instructions after a merge. -/
theorem insns_unify (hlt : dst.disInsns.nodes.length < 2 ^ 30)
    (h : dst.unifySrcblockNoSuccessor src isTrueBranch = .ok (some tb)) :
    tb.insns = dst.insns.take (dst.cutStart isTrueBranch).toNat ++ src.insns := by
  obtain ⟨copied, hcopied, -, hnodes⟩ := spliced_unify h
  rw [(cutStart_lt hlt h).2, List.drop_length, List.append_nil] at hnodes
  rw [insns, hnodes, List.map_append, hcopied, List.map_take]
  rfl

/-- The relocations after a merge end inside the instructions. -/
theorem end_unify (hinside : dst.RelsInside)
    (hsrc : ∀ r ∈ src.rels, r.valid → r.first + r.count ≤ src.disInsns.nodes.length)
    (h : dst.unifySrcblockNoSuccessor src isTrueBranch = .ok (some tb)) :
    ∀ r ∈ tb.rels, r.valid →
      r.first + r.count ≤ (dst.cutStart isTrueBranch).toNat + src.disInsns.nodes.length := by
  obtain ⟨hno, hvalid, n, hget, hopc⟩ := unify_ok_inv h
  have hlt := hinside.length_lt
  obtain ⟨hk, hall⟩ := cutStart_lt hlt h
  have hindex : ((dst.cutStart isTrueBranch).setWidth 64).toNat = (dst.cutStart isTrueBranch).toNat :=
    BitVec.toNat_setWidth_of_le (by decide)
  have hbase : (dst.cutStart isTrueBranch * 4).toNat = 4 * (dst.cutStart isTrueBranch).toNat := by
    have h4 : (4 : BitVec 32).toNat = 4 := rfl
    rw [BitVec.toNat_mul, h4]
    omega
  obtain ⟨tb₂, -, hrels, -, hok⟩ := unify_rule
    (P := fun c tb => tb.RelsInside ∧
      tb.disInsns.nodes.length = (dst.cutStart isTrueBranch).toNat + c)
    (Q := fun tb _ _ => ∀ r ∈ tb.rels, r.valid →
      r.first + r.count ≤ (dst.cutStart isTrueBranch).toNat + src.disInsns.nodes.length)
    hno hvalid hget hopc ⟨hinside, hall.symm⟩
    (fun c tb n htb hn => by
      refine ⟨htb.1.deleteAt hn (by omega), ?_⟩
      rw [disInsns_deleteAt, LinkList.nodes_remove (LinkList.addrs_of_nodes hn),
        List.length_eraseIdx_of_lt (List.getElem?_eq_some_iff.mp hn).1]
      omega)
    (fun tb₁ htb₁ _ r hr hv => by
      rcases List.mem_append.mp hr with hr | hr
      · have := htb₁.1.apart.inside r hr hv
        omega
      · exact end_rebase hbase hsrc r hr)
    (fun tb i k d htb _ => by
      obtain ⟨_, _, _, hframe⟩ := tb.addBInsn_frame d.opc i
      rw [hframe]
      exact htb)
  rw [hok, Except.ok.injEq, Option.some.injEq] at h
  subst h
  exact hrels

/-- **A merge** leaves the relocations inside the code. -/
theorem Neat.unify (hdst : dst.Neat) (hsrc : src.Neat)
    (h : dst.unifySrcblockNoSuccessor src isTrueBranch = .ok (some tb)) : tb.Neat := by
  obtain ⟨hno, hvalid, -⟩ := unify_ok_inv h
  -- the block has a slot
  have hinside : dst.RelsInside := by
    refine hdst.rels.resolve_right fun hmerged => ?_
    rw [slotValid_of_noSuccessor hmerged.1] at hvalid
    cases hvalid
  have hk := (cutStart_lt hinside.length_lt h).1
  have hinsns := insns_unify hinside.length_lt h
  have hlen : tb.disInsns.nodes.length =
      (dst.cutStart isTrueBranch).toNat + src.disInsns.nodes.length := by
    have hcount := congrArg List.length hinsns
    rw [List.length_append, List.length_take, insns, insns, insns, List.length_map, List.length_map,
      List.length_map] at hcount
    omega
  refine ⟨.inr ⟨noSuccessor_unify h, fun r hr hv => ?_⟩, fun info hinfo => ?_⟩
  · exact (end_unify hinside hsrc.inside h r hr hv).trans_eq hlen.symm
  · rw [hinsns, List.mem_append] at hinfo
    rcases hinfo with hmem | hmem
    · exact hdst.names info (List.mem_of_mem_take hmem)
    · exact hsrc.names info hmem

end TB

/-! ### The blocks of a file -/

namespace AOTFile

/-- The relocations of each block are aligned, disjoint and inside its code, and the control registers of
the instructions have names. -/
structure Presentable (file : AOTFile ι) : Prop where
  apart : ∀ i ∈ file.ids, ∀ tb, file.Attached i tb → RelsApart tb.rels (file.tb i).code.words.length
  named : ∀ i ∈ file.ids, ∀ word ∈ (file.tb i).code.words, (disassemble word).ControlNamed

section States

variable {file f f' : AOTFile ι} {i : ι} {tb tb' : TB ι}
  (hnew : ∀ i, ∃ aotTb code x86Addr, file.tb i = .new aotTb code x86Addr)
include hnew

theorem blank_of_new (i : ι) : (file.tb i).Blank := by
  obtain ⟨aotTb, code, x86Addr, hfile⟩ := hnew i
  rw [hfile]
  exact TB.blank_new _ _ _

/-- The block that gets relocations is not disassembled. -/
theorem Attached.blank (h : file.Attached i tb) : tb.Blank := by
  obtain ⟨new, rfl, -⟩ := h.rels
  exact ⟨(blank_of_new hnew i).disInsns, (blank_of_new hnew i).table⟩

/-- **A block that is loaded** can be printed. -/
theorem Loaded.tidy (hfile : file.Presentable) (hi : i ∈ file.ids) (h : file.Loaded i tb) : tb.Tidy := by
  obtain ⟨tb₀, hattach, hlinks⟩ := h
  have hblank := hattach.blank hnew
  have hcode : tb₀.code = (file.tb i).code := by
    obtain ⟨new, rfl, -⟩ := hattach.rels
    rfl
  have hlen := length_of_blank hblank
  refine TB.Tidy.relinks ⟨⟨?_, ?_⟩, fun info hinfo => ?_⟩ hlinks
  · rw [hlen, rels_startTB, hcode]
    exact hfile.apart i hi tb₀ hattach
  · rw [hlen]
    exact tb₀.code.length_lt
  · rw [TB.insns, nodes_of_blank hblank, List.map_map] at hinfo
    obtain ⟨e, he, rfl⟩ := List.mem_map.mp hinfo
    exact hasNames_disassemble (hfile.named i hi _ (hcode ▸ List.fst_mem_of_mem_zipIdx he))

/-- One that is not loaded is empty. -/
theorem Pending.neat (h : file.Pending i tb) : tb.Neat := by
  obtain ⟨aotTb, code, x86Addr, hfile⟩ := hnew i
  have hempty : (file.tb i).Neat := by
    rw [hfile]
    exact ⟨.inl ⟨relsApart_nil 0, Nat.two_pow_pos 30⟩, fun _ hinfo => absurd hinfo List.not_mem_nil⟩
  exact hempty.relinks h.1

/-- **A merge** leaves the blocks of the segments that are done so that they can be printed. -/
theorem DoneBefore.unifyAt [DecidableEq ι] {before : List (Segment ι)}
    (h : file.DoneBefore (fun _ tb => tb.Neat) before f) {cur succ : ι}
    (hmerge : f.mergeSucc cur = some succ) (hok : f.unifyAt cur succ = .ok f') :
    file.DoneBefore (fun _ tb => tb.Neat) before f' := by
  have hneat : ∀ i, (f.tb i).Neat := by
    intro i
    by_cases hi : i ∈ idsOf before
    · exact h.done i hi
    · exact (h.pending i hi).neat hnew
  have hunify := (hneat cur).unify (hneat succ) (unify_of_unifyAt hmerge hok)
  -- a block that is not loaded has no links
  have hcur : cur ∈ idsOf before := by
    by_contra hnot
    obtain ⟨-, k, hk⟩ := TB.branch_of_onlyone (mergeSucc_eq_some.mp hmerge).1
    rw [(h.pending cur hnot).2] at hk
    cases hk
  have hset : f' = f.setTB cur (f'.tb cur) := by
    obtain ⟨res, -, hf⟩ := bind_eq_ok.mp hok
    cases res with
    | none => rw [← Except.ok.inj hf, setTB, Function.update_eq_self]
    | some tb => rw [← Except.ok.inj hf, tb_setTB_self]
  rw [hset]
  refine ⟨h.same.trans (sameFile_setTB f cur _), fun i hi => ?_, fun i hi => ?_⟩
  · by_cases hic : i = cur
    · rw [hic, tb_setTB_self]
      exact hunify
    · rw [tb_setTB_of_ne hic]
      exact h.done i hi
  · have hic : i ≠ cur := fun e => hi (e ▸ hcur)
    rw [tb_setTB_of_ne hic]
    exact h.pending i hi

/-- **The walks of a segment** do. -/
theorem DoneBefore.tuStart [DecidableEq ι] {before : List (Segment ι)} {seg : Segment ι}
    (h : file.DoneBefore (fun _ tb => tb.Neat) before f) (hok : f.tuStart seg = .ok f') :
    file.DoneBefore (fun _ tb => tb.Neat) before f' :=
  inv_tuStart (fun h hmerge hok => h.unifyAt hnew hmerge hok) h hok

end States

/-! ### The length of the blocks -/

section Length

variable {file ref f : AOTFile ι} {before : List (Segment ι)}

/-- All instructions of the file can be counted in 64 bits. -/
def Countable (file : AOTFile ι) : Prop :=
  (file.ids.map fun i => (file.tb i).code.words.length).sum < 2 ^ 64

instance (file : AOTFile ι) : Decidable file.Countable := inferInstanceAs (Decidable (_ < _))

/-- **A block is no longer than the file**: it comes to no other block twice. -/
theorem Sim.length_lt (hfile : file.Unloaded) (href : Ref file ref) (hcount : file.Countable)
    (h : Sim file ref before f) {i : ι} (hi : i ∈ idsOf before) (hmem : i ∈ file.ids) :
    (f.tb i).disInsns.nodes.length < 2 ^ 64 := by
  have hinsns : (f.tb i).insns.length = (f.tb i).disInsns.nodes.length := List.length_map _
  rw [← hinsns]
  rcases h.done i hi with hview | hmerged
  · rw [TB.insns_congr hview, href.insns hfile hmem, List.length_map]
    exact (file.tb i).code.length_lt.trans (by decide)
  · refine (hmerged.ends.length_le fun j hj => (href.flow_of_not_mem hfile hj).1).trans_lt ?_
    refine (List.sum_le_sum fun j hj => ?_).trans_lt hcount
    have hwords : (ref.tb j).insns.length = (file.tb j).code.words.length := by
      rw [href.insns hfile hj, List.length_map]
    rw [flow]
    dsimp only
    split_ifs
    · exact (List.length_take_le' _ _).trans_eq hwords
    · exact hwords.le

end Length

end AOTFile

end AotOpt
