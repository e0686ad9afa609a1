import AotOpt.AotClass.Relocations
import AotOpt.AotClass.Guarded
import AotOpt.Vistor.Unify

/-!
# What a merge leaves

`unify_srcblock_no_successor` deletes the instructions from the branch on, and with them their
relocations, and copies code and relocations of the source block in their place. It looks at no
`offs`: a branch that is left keeps its target only if the cut does not come between the two.

* `merge_ok` — instructions, relocations, branch tables, slots and links after a merge.
* `targetsKept_merge_iff` — which merges keep the targets of the branches that are left.
-/

namespace AotOpt

open Lib

variable {ι : Type}

/-! ### The relocations -/

namespace RelSlot

/-- The relocation lies wholly in front of position `k`. -/
def Below (k : ℕ) (r : RelSlot) : Bool := r.valid && r.first + r.count ≤ k

/-- The same relocation, `4 * k` bytes further on. -/
def shiftBy (k : ℕ) (r : RelSlot) : RelSlot :=
  { r with rel := { r.rel with tcOffset := r.rel.tcOffset + BitVec.ofNat 32 (4 * k) } }

end RelSlot

section Rels

variable {rels : List RelSlot} {len k : ℕ}

/-- A deletion at `k` leaves the relocations in front of `k` as they are, and brings no other one
there. -/
theorem RelsApart.filter_below (h : RelsApart rels len) :
    (rels.map (RelSlot.afterDelete k)).filter (·.Below k) = rels.filter (·.Below k) := by
  have hsame : ∀ r ∈ rels, (r.afterDelete k).Below k = r.Below k := by
    intro r hr
    rw [Bool.eq_iff_iff]
    simp only [RelSlot.Below, Bool.and_eq_true, decide_eq_true_eq, RelSlot.valid_afterDelete,
      RelSlot.count_afterDelete, and_assoc]
    refine and_congr_right fun hv => ?_
    have := h.nonempty r hr hv
    rw [RelSlot.first_afterDelete hv (h.aligned r hr hv), shiftDel]
    unfold RelSlot.Covers
    split_ifs <;> omega
  have hfix : ∀ r ∈ rels.filter (·.Below k), r.afterDelete k = r := by
    intro r hr
    obtain ⟨-, hb⟩ := List.mem_filter.mp hr
    rw [RelSlot.Below, Bool.and_eq_true, decide_eq_true_eq] at hb
    unfold RelSlot.afterDelete RelSlot.Covers
    rw [if_neg (by omega), if_neg (by omega)]
  rw [List.filter_map, List.filter_congr (q := (·.Below k)) hsame, List.map_congr_left hfix, List.map_id']

/-- When the code ends at `k`, all valid relocations lie in front of `k`. -/
theorem RelsApart.filter_valid (h : RelsApart rels k) :
    rels.filter (·.valid) = rels.filter (·.Below k) := by
  refine List.filter_congr fun r hr => ?_
  rw [RelSlot.Below]
  cases hv : r.valid with
  | false => rfl
  | true => rw [Bool.true_and, decide_eq_true (h.inside r hr hv)]

/-- The relocations that are appended. -/
theorem rebaseRels_eq (k : ℕ) (rels : List RelSlot) :
    TB.rebaseRels (BitVec.ofNat 32 (4 * k)) rels = (rels.filter (·.valid)).map (·.shiftBy k) := by
  refine List.map_congr_left fun r hr => ?_
  rw [RelSlot.shiftBy, (List.mem_filter.mp hr).2]

theorem RelsApart.toNat_shiftBy (h : RelsApart rels len) (hlen : k + len ≤ 2 ^ 30) {r : RelSlot}
    (hr : r ∈ rels) (hv : r.valid) :
    (r.shiftBy k).rel.tcOffset.toNat = r.rel.tcOffset.toNat + 4 * k := by
  have htc := RelSlot.toNat_tcOffset (h.aligned r hr hv)
  have := h.inside r hr hv
  have := h.nonempty r hr hv
  rw [RelSlot.shiftBy, BitVec.toNat_add, BitVec.toNat_ofNat]
  omega

theorem filter_valid_shiftBy (k : ℕ) (rels : List RelSlot) :
    ((rels.filter (·.valid)).map (·.shiftBy k)).filter (·.valid) =
      (rels.filter (·.valid)).map (·.shiftBy k) := by
  refine List.filter_eq_self.mpr fun r hr => ?_
  obtain ⟨r', hr', rfl⟩ := List.mem_map.mp hr
  exact (List.mem_filter.mp hr').2

end Rels

/-! ### The branch tables -/

/-- The copy of an instruction behind the last one, with the next index. -/
theorem TB.exact_append {tb : TB ι} (h : tb.Exact) (d : LoongArchInsInfo) :
    TB.Exact { tb.addBInsn d.opc (BitVec.ofNat 32 tb.disInsns.nodes.length) with
      disInsns := tb.disInsns.insertAt tb.disInsns.nodes.length d } := by
  intro κ
  have htable := tb.table_addBInsn d.opc (BitVec.ofNat 32 tb.disInsns.nodes.length) κ
  have hnodes : (tb.disInsns.insertAt tb.disInsns.nodes.length d).nodes =
      tb.disInsns.nodes ++ [⟨tb.disInsns.fresh, d⟩] := tb.disInsns.nodes_insertAtTail d
  rw [TableExact, hnodes, entries_append]
  refine List.Perm.trans (.of_eq ?_) ((h κ).append_right _)
  rw [← htable]
  cases κ <;> rfl

/-! ### The merge -/

/-- **What a merge at position `k` leaves** of the blocks `dst` and `src`. -/
structure Merged (dst src : TB ι) (k : ℕ) (tb : TB ι) : Prop where
  /-- The first instructions are the same nodes as before. -/
  kept : tb.disInsns.nodes.take k = dst.disInsns.nodes.take k
  /-- The other nodes are new, with copies of the instructions of the source block. -/
  copied : (tb.disInsns.nodes.drop k).map (·.data) = src.insns ∧
    ∀ n ∈ tb.disInsns.nodes.drop k, dst.disInsns.fresh ≤ n.addr
  /-- The valid relocations in front of the cut, and behind them the shifted ones. -/
  rels : tb.rels.filter (·.valid) =
    dst.rels.filter (·.Below k) ++ (src.rels.filter (·.valid)).map (·.shiftBy k)
  /-- In 32 bits, when the bytes of the result fit there. -/
  offsets : k + src.disInsns.nodes.length ≤ 2 ^ 30 → ∀ r ∈ src.rels, r.valid →
    (r.shiftBy k).rel.tcOffset.toNat = r.rel.tcOffset.toNat + 4 * k
  exact : tb.Exact
  slots : ∀ j, tb.originAotTb.slotValid j = false
  links : ∀ isTrueBranch, tb.branch isTrueBranch = src.branch isTrueBranch

section Merge

variable {dst src : TB ι} {k : ℕ}

/-- What holds when `c` of the deletions at `k` are still to be made. -/
structure CutState (dst : TB ι) (k c : ℕ) (tb : TB ι) : Prop where
  length : tb.disInsns.nodes.length = k + c
  fits : k + c < 2 ^ 30
  exact : tb.Exact
  rels : RelsApart tb.rels (k + c)
  below : tb.rels.filter (·.Below k) = dst.rels.filter (·.Below k)

/-- What holds when the next copy goes behind the last instruction. -/
structure CopyState (dst src : TB ι) (k : ℕ) (tb : TB ι) (i : BitVec 32) (k' : ℕ) : Prop where
  pos : k' = tb.disInsns.nodes.length
  index : i = BitVec.ofNat 32 k'
  exact : tb.Exact
  rels : tb.rels.filter (·.valid) =
    dst.rels.filter (·.Below k) ++ (src.rels.filter (·.valid)).map (·.shiftBy k)

theorem CutState.deleteAt {c : ℕ} {tb : TB ι} {n : ListNode LoongArchInsInfo}
    (h : CutState dst k (c + 1) tb) (hn : tb.disInsns.nodes[k]? = some n) :
    CutState dst k c (tb.deleteAt n (BitVec.ofNat 64 k)) := by
  have hk := (List.getElem?_eq_some_iff.mp hn).1
  have hfits := h.fits
  have hrels : (tb.deleteAt n (BitVec.ofNat 64 k)).rels = tb.rels.map (RelSlot.afterDelete k) :=
    h.rels.delete_eq hfits (toNat_offset64 (by omega))
  refine ⟨?_, by omega, TB.exact_deleteAt h.exact (by rw [h.length]; omega) hn, ?_, ?_⟩
  · rw [TB.disInsns_deleteAt, LinkList.nodes_remove (LinkList.addrs_of_nodes hn),
      List.length_eraseIdx_of_lt hk, h.length]
    rfl
  · rw [hrels]
    exact h.rels.delete (by omega)
  · rw [hrels, h.rels.filter_below, h.below]

/-- Between the two loops. -/
theorem CutState.copyState {tb : TB ι} (h : CutState dst k 0 tb) :
    CopyState dst src k { tb with
      rels := tb.rels ++ TB.rebaseRels (BitVec.ofNat 32 (4 * k)) src.rels } (BitVec.ofNat 32 k) k := by
  refine ⟨h.length.symm, rfl, fun κ => ?_, ?_⟩
  · have := h.exact κ
    cases κ <;> exact this
  · show (tb.rels ++ _).filter _ = _
    rw [rebaseRels_eq, List.filter_append, filter_valid_shiftBy,
      RelsApart.filter_valid (k := k) h.rels, h.below]

theorem CopyState.insertAt {tb : TB ι} {i : BitVec 32} {k' : ℕ} (h : CopyState dst src k tb i k')
    (d : LoongArchInsInfo) : CopyState dst src k
      { tb.addBInsn d.opc i with disInsns := tb.disInsns.insertAt k' d } (i + 1) (k' + 1) := by
  obtain ⟨rfl, rfl, hexact, hrels⟩ := h
  refine ⟨?_, (BitVec.ofNat_add ..).symm, TB.exact_append hexact d, ?_⟩
  · show _ = (tb.disInsns.insertAt _ d).nodes.length
    rw [LinkList.nodes_insertAt, List.length_insertIdx_of_le_length le_rfl]
  · obtain ⟨_, _, _, hframe⟩ := tb.addBInsn_frame d.opc (BitVec.ofNat 32 tb.disInsns.nodes.length)
    rw [hframe]
    exact hrels

end Merge

/-- **Merging** a block `dst` of a file, whose byte offsets fit in 32 bits, with another one `src`,
at the branch of a slot. -/
theorem merge_ok [DecidableEq ι] (f : AOTFile ι) {dst src : ι} (hne : dst ≠ src) {isTrueBranch : Bool}
    {k : ℕ} (hk : (f.tb dst).originAotTb.slotIndex (slotOf isTrueBranch) = k)
    (hvalid : (f.tb dst).originAotTb.slotValid (slotOf isTrueBranch))
    (hopc : (f.tb dst).opcAt k = some .OPC_B) (hno : ∀ j, (f.tb src).originAotTb.slotValid j = false)
    (hexact : (f.tb dst).Exact)
    (hdst : RelsApart (f.tb dst).rels (f.tb dst).disInsns.nodes.length)
    (hsrc : RelsApart (f.tb src).rels (f.tb src).disInsns.nodes.length)
    (hlen : (f.tb dst).disInsns.nodes.length < 2 ^ 30) :
    ∃ tb, (f.tb dst).unifySrcblockNoSuccessor (f.tb src) isTrueBranch = .ok (some tb) ∧
      Merged (f.tb dst) (f.tb src) k tb ∧ (f.setTB dst tb).tb src = f.tb src := by
  have hno' : (f.tb src).noSuccessor := by
    rw [TB.noSuccessor, hno, hno]
    rfl
  obtain ⟨n, hn, hb⟩ := TB.opcAt_eq_some.mp hopc
  have hidx : ((f.tb dst).originAotTb.jmpTargetArg (slotOf isTrueBranch) / 4).toNat = k :=
    (BitVec.toNat_udiv ..).trans hk
  obtain ⟨hstart, hget⟩ := @TB.get_cutStart_of_nodes _ (f.tb dst) isTrueBranch _
    (hlen.trans (by decide)) (hidx ▸ hn)
  rw [hidx] at hstart
  have hlt := (List.getElem?_eq_some_iff.mp hn).1
  have hall := @TB.cutStart_add_cutCount _ (f.tb dst) isTrueBranch
    (hstart ▸ hlt) (hlen.trans (by decide))
  rw [hstart] at hall
  have hs : (f.tb dst).cutStart isTrueBranch = BitVec.ofNat 32 k := by
    rw [← hstart, BitVec.ofNat_toNat, BitVec.setWidth_eq]
  have hi : (BitVec.ofNat 32 k).setWidth 64 = BitVec.ofNat 64 k := by
    rw [← BitVec.toNat_inj, BitVec.toNat_setWidth_of_le (by decide), BitVec.toNat_ofNat,
      BitVec.toNat_ofNat]
    omega
  have hbase : BitVec.ofNat 32 k * 4 = BitVec.ofNat 32 (4 * k) := by
    rw [Nat.mul_comm]
    exact (BitVec.ofNat_mul ..).symm
  have hrule := TB.unify_rule (P := CutState (f.tb dst) k)
    (Q := CopyState (f.tb dst) (f.tb src) k) hno' hvalid hget hb
  rw [hstart, hs, hi, hbase] at hrule
  obtain ⟨tb₂, i, h₂, ⟨copied, hcopied, hfresh, hnodes⟩, hok⟩ := hrule
    ⟨hall.symm, hall ▸ hlen, hexact, hall ▸ hdst, rfl⟩ (fun _ _ _ h hn => h.deleteAt hn)
    (fun _ h _ => h.copyState) (fun _ _ _ d h _ => h.insertAt d)
  rw [hstart, hall, List.drop_length, List.append_nil] at hnodes
  have hlenk : ((f.tb dst).disInsns.nodes.take k).length = k := List.length_take_of_le hlt.le
  refine ⟨_, hok, ⟨?_, ⟨?_, fun m hm => hfresh m ?_⟩, h₂.rels,
    fun hlen' _ hr hv => hsrc.toNat_shiftBy hlen' hr hv, ?_, fun j => ?_, fun b => by cases b <;> rfl⟩,
    AOTFile.tb_setTB_of_ne (Ne.symm hne) _⟩
  · show tb₂.disInsns.nodes.take k = _
    rw [hnodes, List.take_left' hlenk]
  · show (tb₂.disInsns.nodes.drop k).map _ = _
    rw [hnodes, List.drop_left' hlenk, hcopied]
  · have hm : m ∈ tb₂.disInsns.nodes.drop k := hm
    rwa [hnodes, List.drop_left' hlenk] at hm
  · intro κ
    have := h₂.exact κ
    cases κ <;> exact this
  · exact TB.slotValid_rebaseSlots (hno j)

/-! ### The branches that are left -/

/-- The branches whose target is index plus `offs`. -/
def isPcRelative (opc : LoongArchOpc) : Bool :=
  opc = .OPC_B || opc = .OPC_BNE || opc = .OPC_BEQ || opc = .OPC_BEQZ || opc = .OPC_BNEZ
    || opc = .OPC_BLT || opc = .OPC_BGE || opc = .OPC_BLTU || opc = .OPC_BGEU
    || opc = .OPC_BCEQZ || opc = .OPC_BCNEZ

/-- The branch of node `a` is at position `p`, and its target is the instruction at `q`. -/
def TB.Targets (tb : TB ι) (a p q : ℕ) : Prop :=
  ∃ insn, tb.disInsns.nodes[p]? = some ⟨a, insn⟩ ∧ isPcRelative insn.opc ∧
    (q : ℤ) = p + insn.offs.toInt ∧ q < tb.disInsns.nodes.length

/-- **The targets are kept**: every branch of `dst` to one of its instructions that is still in
`tb` goes to the same instruction there. -/
def TargetsKept (dst tb : TB ι) : Prop :=
  ∀ a p q c, dst.Targets a p q → a ∈ tb.disInsns.addrs → dst.disInsns.addrs[q]? = some c →
    ∃ p' q', tb.Targets a p' q' ∧ tb.disInsns.addrs[q']? = some c

/-- Position `p` is deleted by the merge at the branch of the slot. -/
def TB.CutAt (dst : TB ι) (isTrueBranch : Bool) (p : ℕ) : Prop :=
  (dst.cutStart isTrueBranch).toNat ≤ p ∧
    p < (dst.cutStart isTrueBranch).toNat + (dst.cutCount isTrueBranch).toNat

instance (dst : TB ι) (isTrueBranch : Bool) (p : ℕ) : Decidable (dst.CutAt isTrueBranch p) :=
  inferInstanceAs (Decidable (_ ∧ _))

/-- No branch that is left has its target among what is deleted or, unless as much is copied, on
the other side of it. -/
def TB.CutApart (dst src : TB ι) (isTrueBranch : Bool) : Prop :=
  ∀ a p q, dst.Targets a p q → ¬dst.CutAt isTrueBranch p →
    ¬dst.CutAt isTrueBranch q ∧
      ((p < (dst.cutStart isTrueBranch).toNat ↔ q < (dst.cutStart isTrueBranch).toNat) ∨
        (dst.cutCount isTrueBranch).toNat = src.disInsns.nodes.length)

section Splice

variable {dst src tb : TB ι} {isTrueBranch : Bool}

/-- Where the instruction at `p` is after a merge. -/
def TB.mergedPos (dst src : TB ι) (isTrueBranch : Bool) (p : ℕ) : ℕ :=
  if p < (dst.cutStart isTrueBranch).toNat then p
  else p + src.disInsns.nodes.length - (dst.cutCount isTrueBranch).toNat

theorem TB.mergedPos_sub_iff {p q : ℕ} (hp : ¬dst.CutAt isTrueBranch p)
    (hq : ¬dst.CutAt isTrueBranch q) :
    (dst.mergedPos src isTrueBranch q : ℤ) - dst.mergedPos src isTrueBranch p = q - p ↔
      (p < (dst.cutStart isTrueBranch).toNat ↔ q < (dst.cutStart isTrueBranch).toNat) ∨
        (dst.cutCount isTrueBranch).toNat = src.disInsns.nodes.length := by
  unfold TB.CutAt at hp hq
  unfold TB.mergedPos
  split_ifs <;> omega

/-- What is not deleted is read at the new position. -/
theorem TB.Spliced.getElem?_mergedPos (h : TB.Spliced dst src isTrueBranch tb.disInsns.nodes)
    (hk : (dst.cutStart isTrueBranch).toNat ≤ dst.disInsns.nodes.length) {p : ℕ}
    (hp : ¬dst.CutAt isTrueBranch p) :
    tb.disInsns.nodes[dst.mergedPos src isTrueBranch p]? = dst.disInsns.nodes[p]? := by
  obtain ⟨copied, hcopied, -, hnodes⟩ := h
  have hlen : copied.length = src.disInsns.nodes.length := by
    have := congrArg List.length hcopied
    rwa [List.length_map, TB.insns, List.length_map] at this
  have htake : (dst.disInsns.nodes.take (dst.cutStart isTrueBranch).toNat).length =
      (dst.cutStart isTrueBranch).toNat := List.length_take_of_le hk
  unfold TB.CutAt at hp
  rw [hnodes, TB.mergedPos]
  split_ifs with hlt
  · rw [List.append_assoc, List.getElem?_append_left (by omega), List.getElem?_take_of_lt hlt]
  · rw [List.getElem?_append_right (by rw [List.length_append]; omega), List.getElem?_drop,
      List.length_append]
    congr 1
    omega

/-- A node of `dst` that is left was not deleted. -/
theorem TB.Spliced.not_cutAt (h : TB.Spliced dst src isTrueBranch tb.disInsns.nodes) {a p : ℕ}
    (ha : dst.disInsns.addrs[p]? = some a) (hm : a ∈ tb.disInsns.addrs) :
    ¬dst.CutAt isTrueBranch p := by
  obtain ⟨copied, -, hfresh, hnodes⟩ := h
  rintro ⟨hle, hlt⟩
  have hold : a < dst.disInsns.fresh := LinkList.lt_fresh_of_mem_addrs (List.mem_of_getElem? ha)
  rw [LinkList.addrs, hnodes, List.map_append, List.map_append, List.mem_append, List.mem_append,
    List.map_take, List.map_drop] at hm
  rcases hm with (hm | hm) | hm
  · obtain ⟨i, hi⟩ := List.mem_iff_getElem?.mp hm
    rw [List.getElem?_take] at hi
    split_ifs at hi with hik
    exact absurd (pos_unique dst.disInsns.nodup_addrs ha hi) (by omega)
  · obtain ⟨n, hn, rfl⟩ := List.mem_map.mp hm
    exact absurd (hfresh n hn) (by omega)
  · obtain ⟨i, hi⟩ := List.mem_iff_getElem?.mp hm
    rw [List.getElem?_drop] at hi
    exact absurd (pos_unique dst.disInsns.nodup_addrs ha hi) (by omega)

theorem targetsKept_iff (h : TB.Spliced dst src isTrueBranch tb.disInsns.nodes)
    (hk : (dst.cutStart isTrueBranch).toNat ≤ dst.disInsns.nodes.length) :
    TargetsKept dst tb ↔ dst.CutApart src isTrueBranch := by
  have haddrs : ∀ {p a : ℕ}, dst.disInsns.addrs[p]? = some a → ¬dst.CutAt isTrueBranch p →
      tb.disInsns.addrs[dst.mergedPos src isTrueBranch p]? = some a := by
    intro p a ha hp
    rw [LinkList.getElem?_addrs, h.getElem?_mergedPos hk hp, ← LinkList.getElem?_addrs, ha]
  constructor
  · rintro hkept a p q ⟨insn, hn, hpc, hq, hlt⟩ hp
    have hc := List.getElem?_eq_getElem (l := dst.disInsns.addrs) (i := q)
      (by rwa [LinkList.length_addrs])
    have ha' := haddrs (LinkList.addrs_of_nodes hn) hp
    obtain ⟨p', q', ⟨insn', hn', -, hq', -⟩, hc'⟩ := hkept a p q _ ⟨insn, hn, hpc, hq, hlt⟩
      (List.mem_of_getElem? ha') hc
    have hcut := h.not_cutAt hc (List.mem_of_getElem? hc')
    -- branch and target are at their new positions
    obtain rfl := pos_unique tb.disInsns.nodup_addrs (LinkList.addrs_of_nodes hn') ha'
    obtain rfl := pos_unique tb.disInsns.nodup_addrs hc' (haddrs hc hcut)
    rw [h.getElem?_mergedPos hk hp, hn, Option.some.injEq, ListNode.mk.injEq] at hn'
    rw [← hn'.2] at hq'
    exact ⟨hcut, (TB.mergedPos_sub_iff hp hcut).mp (by omega)⟩
  · rintro hapart a p q c ⟨insn, hn, hpc, hq, hlt⟩ ha hc
    have hp := h.not_cutAt (LinkList.addrs_of_nodes hn) ha
    obtain ⟨hcut, hside⟩ := hapart a p q ⟨insn, hn, hpc, hq, hlt⟩ hp
    have hc' := haddrs hc hcut
    have hsub := (TB.mergedPos_sub_iff hp hcut).mpr hside
    refine ⟨_, _, ⟨insn, (h.getElem?_mergedPos hk hp).trans hn, hpc, by omega, ?_⟩, hc'⟩
    rw [← LinkList.length_addrs]
    exact (List.getElem?_eq_some_iff.mp hc').1

end Splice

/-- The call of a merge. -/
theorem unify_of_unifyAt [DecidableEq ι] {f f' : AOTFile ι} {dst src : ι}
    (hmerge : f.mergeSucc dst = some src) (hok : f.unifyAt dst src = .ok f') :
    (f.tb dst).unifySrcblockNoSuccessor (f.tb src) ((f.tb dst).originAotTb.slotValid 1) =
      .ok (some (f'.tb dst)) := by
  have hno : (f.tb src).noSuccessor := (Option.filter_eq_some_iff.mp hmerge).2
  obtain ⟨res, hres, hf⟩ := bind_eq_ok.mp hok
  cases res with
  | some tb =>
    rw [← Except.ok.inj hf, AOTFile.tb_setTB_self, hres]
  | none =>
    rw [TB.unifySrcblockNoSuccessor, hno] at hres
    simp only [Bool.not_true, Bool.false_eq_true, if_false, bind_eq_ok] at hres
    obtain ⟨_, -, _, -, _, -, _, -, _, -, h⟩ := hres
    cases h

/-- **The branches that are left after a merge** keep their targets if and only if these lie on
the same side of the cut. As long as the instructions can be counted, that is in front of it. -/
theorem targetsKept_merge_iff [DecidableEq ι] {f f' : AOTFile ι} {dst src : ι}
    (hmerge : f.mergeSucc dst = some src) (hok : f.unifyAt dst src = .ok f') :
    (TargetsKept (f.tb dst) (f'.tb dst) ↔
        (f.tb dst).CutApart (f.tb src) ((f.tb dst).originAotTb.slotValid 1)) ∧
      ((f.tb dst).disInsns.nodes.length < 2 ^ 32 →
        ((f.tb dst).CutApart (f.tb src) ((f.tb dst).originAotTb.slotValid 1) ↔
          ∀ a p q, (f.tb dst).Targets a p q →
            p < ((f.tb dst).cutStart ((f.tb dst).originAotTb.slotValid 1)).toNat →
              q < ((f.tb dst).cutStart ((f.tb dst).originAotTb.slotValid 1)).toNat)) := by
  have hunify := unify_of_unifyAt hmerge hok
  obtain ⟨-, -, n, hget, -⟩ := TB.unify_ok_inv hunify
  have hlt := (List.getElem?_eq_some_iff.mp (TB.get_cutStart hget).1).1
  refine ⟨targetsKept_iff (TB.spliced_unify hunify) hlt.le, fun hlen => ?_⟩
  have hall := TB.cutStart_add_cutCount hlt hlen
  refine forall₄_congr fun a p q ht => ?_
  obtain ⟨insn, hn, -, -, hq⟩ := id ht
  have hp := (List.getElem?_eq_some_iff.mp hn).1
  unfold TB.CutAt
  rw [hall]
  constructor
  · intro h hlt
    have := (h (by omega)).1
    omega
  · intro h hp'
    have hpk : p < ((f.tb dst).cutStart ((f.tb dst).originAotTb.slotValid 1)).toNat := by omega
    have hqk := h hpk
    exact ⟨by omega, .inl (iff_of_true hpk hqk)⟩

/-! ### A branch to the branch that is cut -/

section MergeFile

open DisassmbleVistor

/-- A file of two blocks. -/
def twoBlocks (dst src : TB ℕ) : AOTFile ℕ := ⟨[], [], fun i => if i = 0 then dst else src, fun _ => none⟩

/-- `nop; beq $zero, $zero, +1; b`, with the `b` as the branch of slot 0. -/
def beqToBCode : TB ℕ :=
  visit (.new { (default : AOTTB) with
      jmpResetOffsets := fun j => if j = 0 then 8 else TB_JMP_RESET_OFFSET_INVALID
      jmpTargetArg := fun _ => 8 }
    ⟨12, [0x03400000, 0x58000400, 0x50000000], rfl⟩ 0)

theorem nodes_beqToBCode : beqToBCode.disInsns.nodes =
    [⟨0, disassemble 0x03400000⟩, ⟨1, disassemble 0x58000400⟩, ⟨2, disassemble 0x50000000⟩] := by
  rw [beqToBCode, nodes_visit]
  rfl

theorem exact_beqToBCode : beqToBCode.Exact := exact_visit _ _ _

/-- A relocation of the first instruction. -/
def firstRel : RelSlot := ⟨⟨.LOAD_TB_ADDR, 0, 1, 0, 0⟩, true⟩

theorem relsApart_firstRel {len : ℕ} (h : 1 ≤ len) : RelsApart [firstRel] len :=
  ⟨by decide, by decide, by simpa [firstRel, RelSlot.first, RelSlot.count] using h,
    List.pairwise_singleton _ _⟩

/-- This block, with a relocation and block 1 as its successor. -/
def beqToB : TB ℕ := { beqToBCode with falseBranch := some 1, rels := [firstRel] }

/-- A `nop` with a relocation, which goes on nowhere. -/
def lastNop : TB ℕ :=
  { visit (.new { (default : AOTTB) with jmpResetOffsets := fun _ => TB_JMP_RESET_OFFSET_INVALID }
      ⟨4, [0x03400000], rfl⟩ 4 : TB ℕ) with
    rels := [firstRel] }

theorem nodes_lastNop : lastNop.disInsns.nodes = [⟨0, disassemble 0x03400000⟩] := by
  show (visit (TB.new _ _ _)).disInsns.nodes = _
  rw [nodes_visit]
  rfl

theorem merge_beqToB : ∃ tb,
    beqToB.unifySrcblockNoSuccessor lastNop false = .ok (some tb) ∧ Merged beqToB lastNop 2 tb := by
  have hdst : beqToB.disInsns.nodes.length = 3 := congrArg List.length nodes_beqToBCode
  have hsrc : lastNop.disInsns.nodes.length = 1 := congrArg List.length nodes_lastNop
  obtain ⟨tb, hok, hmerged, -⟩ := @merge_ok _ _ (twoBlocks beqToB lastNop) 0 1
    (by decide) false 2 rfl (by decide) (by decide) (by decide)
    (fun κ => by have := exact_beqToBCode κ; cases κ <;> exact this)
    (relsApart_firstRel (hdst ▸ by decide)) (relsApart_firstRel hsrc.ge) (hdst.trans_lt (by decide))
  exact ⟨tb, hok, hmerged⟩

theorem unifyAt_beqToB : (twoBlocks beqToB lastNop).mergeSucc 0 = some 1 ∧
    ∃ f', (twoBlocks beqToB lastNop).unifyAt 0 1 = .ok f' := by
  refine ⟨by decide, ?_⟩
  obtain ⟨tb, hok, -⟩ := @TB.unifySrcblockNoSuccessor_ok _ beqToB lastNop false
    (disassemble 0x50000000) (by decide) (by decide)
    (by rw [TB.insns, List.length_map]; exact (congrArg List.length nodes_beqToBCode).trans_lt (by decide))
    (congrArg (fun nodes => (nodes.map (·.data))[2]?) nodes_beqToBCode) (by decide)
  exact ⟨_, bind_eq_ok.mpr ⟨_, hok, rfl⟩⟩

theorem targetsKept_beqToB_iff : ∃ f', (twoBlocks beqToB lastNop).unifyAt 0 1 = .ok f' ∧
    (TargetsKept beqToB (f'.tb 0) ↔ beqToB.CutApart lastNop false) := by
  obtain ⟨hmerge, f', hok⟩ := unifyAt_beqToB
  exact ⟨f', hok, (targetsKept_merge_iff hmerge hok).1⟩

/-- The `beq` goes to the copy of the `nop`. -/
theorem target_not_kept_beqToB : (twoBlocks beqToB lastNop).mergeSucc 0 = some 1 ∧
    ∃ f', (twoBlocks beqToB lastNop).unifyAt 0 1 = .ok f' ∧ ¬TargetsKept beqToB (f'.tb 0) := by
  obtain ⟨hmerge, f', hok⟩ := unifyAt_beqToB
  refine ⟨hmerge, f', hok, fun hkept => ?_⟩
  have hunify := unify_of_unifyAt hmerge hok
  have hapart := (targetsKept_iff (TB.spliced_unify hunify) (by decide)).mp hkept
  have htarget : beqToB.Targets 1 1 2 := by
    refine ⟨disassemble 0x58000400, ?_, by decide, by decide, ?_⟩
    · exact congrArg (·[1]?) nodes_beqToBCode
    · exact (by decide : 2 < 3).trans_eq (congrArg List.length nodes_beqToBCode).symm
  exact (hapart 1 1 2 htarget (by decide)).1 (by decide)

end MergeFile

/-! ### The bound is needed -/

/-- A block of `len` instructions, the last of which is the branch of slot 0 and has a
relocation. -/
def lastBRelocated (len : ℕ) : TB ℕ :=
  { (TB.new { (default : AOTTB) with
        jmpResetOffsets := fun j => if j = 0 then 0 else TB_JMP_RESET_OFFSET_INVALID
        jmpTargetArg := fun _ => BitVec.ofNat 64 (4 * (len - 1)) } .empty 0 : TB ℕ) with
    rels := [⟨⟨.B_EPILOGUE, BitVec.ofNat 32 (4 * (len - 1)), 1, 0, 0⟩, true⟩]
    bInsns := [⟨len - 1, BitVec.ofNat 32 (len - 1)⟩]
    disInsns := (lastRelocated len).disInsns.update (len - 1) fun insn => { insn with opc := .OPC_B } }

/-- A block of no instructions. -/
def emptyBlock : TB ℕ :=
  .new { (default : AOTTB) with jmpResetOffsets := fun _ => TB_JMP_RESET_OFFSET_INVALID } .empty 4

section LastB

variable {len : ℕ}

theorem nodes_lastBRelocated (h : 0 < len) : (lastBRelocated len).disInsns.nodes =
    (List.range (len - 1)).map (fun a => ⟨a, .zero⟩) ++
      [⟨len - 1, { LoongArchInsInfo.zero with opc := .OPC_B }⟩] := by
  obtain ⟨m, rfl⟩ : ∃ m, len = m + 1 := ⟨len - 1, by omega⟩
  show ((lastRelocated (m + 1)).disInsns.update _ _).nodes = _
  rw [LinkList.nodes_update, Nat.add_sub_cancel]
  show ((List.range (m + 1)).map _).map _ = _
  rw [List.map_map, List.range_succ, List.map_append, List.map_singleton]
  congr 1
  · refine List.map_congr_left fun a ha => ?_
    have := List.mem_range.mp ha
    simp only [Function.comp]
    rw [if_neg (by omega)]
  · simp

theorem exact_lastBRelocated (h : 0 < len) : (lastBRelocated len).Exact := by
  intro κ
  have hnone : κ.positions ((List.range (len - 1)).map fun a => ⟨a, .zero⟩) = [] := by
    rw [List.eq_nil_iff_forall_not_mem]
    rintro ⟨n, k⟩ hm
    obtain ⟨hn, hκ⟩ := mem_positions.mp hm
    obtain ⟨a, -, rfl⟩ := List.mem_map.mp (List.mem_of_getElem? hn)
    cases κ <;> cases hκ
  rw [TableExact, nodes_lastBRelocated h, entries_append, hnone, List.length_map, List.length_range]
  cases κ <;> exact List.Perm.refl _

/-- In a code of `2 ^ 30` instructions the end of the last relocation is `0` in 32 bits, and it
stays valid when its instruction is deleted. -/
theorem rels_lastBRelocated (h30 : len = 2 ^ 30) {src tb : TB ℕ} (hsrc : src.rels = [])
    (hok : (lastBRelocated len).unifySrcblockNoSuccessor src false = .ok (some tb)) :
    tb.rels = (lastBRelocated len).rels := by
  have hstart : (lastBRelocated len).cutStart false = BitVec.ofNat 32 (len - 1) := by
    subst h30
    decide
  have hstep : ∀ rels, rels = (lastBRelocated len).rels →
      TB.shiftRelsDelete (((lastBRelocated len).cutStart false).setWidth 64 <<< 2)
        (TB.dropRel (((lastBRelocated len).cutStart false).setWidth 64 <<< 2) rels) =
          (lastBRelocated len).rels := by
    rintro _ rfl
    rw [hstart]
    subst h30
    decide
  obtain ⟨hno, hvalid, n, hget, hopc⟩ := TB.unify_ok_inv hok
  obtain ⟨tb₂, -, hrels, -, hok'⟩ := TB.unify_rule
    (P := fun _ tb => tb.rels = (lastBRelocated len).rels)
    (Q := fun tb _ _ => tb.rels = (lastBRelocated len).rels) hno hvalid hget hopc rfl
    (fun _ tb n h _ => hstep _ h)
    (fun tb₁ h _ => by
      show tb₁.rels ++ TB.rebaseRels _ src.rels = _
      rw [hsrc, h]
      rfl)
    (fun tb i _ d h _ => by
      obtain ⟨_, _, _, hframe⟩ := tb.addBInsn_frame d.opc i
      rw [hframe]
      exact h)
  rw [hok', Except.ok.injEq, Option.some.injEq] at hok
  rw [← hok]
  exact hrels

theorem relsApart_lastBRelocated (h30 : len = 2 ^ 30) :
    RelsApart (lastBRelocated len).rels len := by
  subst h30
  exact ⟨by decide, by decide, by decide, List.pairwise_singleton _ _⟩

end LastB

/-- **At `2 ^ 30` instructions** a merge leaves a relocation of the branch that it deletes. -/
theorem merge_leaves_relocation : ∃ (dst src : TB ℕ) (k : ℕ),
    dst.originAotTb.slotIndex 0 = k ∧ dst.originAotTb.slotValid 0 ∧ dst.opcAt k = some .OPC_B ∧
    (∀ j, src.originAotTb.slotValid j = false) ∧ dst.Exact ∧ src.Exact ∧
    RelsApart dst.rels dst.disInsns.nodes.length ∧ RelsApart src.rels src.disInsns.nodes.length ∧
    ¬∃ tb, dst.unifySrcblockNoSuccessor src false = .ok (some tb) ∧ Merged dst src k tb := by
  obtain ⟨len, h30⟩ : ∃ len, len = 2 ^ 30 := ⟨_, rfl⟩
  have hpos : 0 < len := by omega
  have hlen : (lastBRelocated len).disInsns.nodes.length = len := by
    rw [nodes_lastBRelocated hpos, List.length_append, List.length_map, List.length_range,
      List.length_singleton]
    omega
  have hlast : (lastBRelocated len).opcAt (len - 1) = some .OPC_B := by
    rw [TB.opcAt, nodes_lastBRelocated hpos, List.getElem?_append_right (by simp)]
    simp
  refine ⟨lastBRelocated len, emptyBlock, len - 1, ?_, rfl, hlast, by decide, exact_lastBRelocated hpos,
    fun κ => by cases κ <;> exact .refl _, hlen.symm ▸ relsApart_lastBRelocated h30,
    ⟨List.forall_mem_nil _, List.forall_mem_nil _, List.forall_mem_nil _, .nil⟩, ?_⟩
  · subst h30
    decide
  · rintro ⟨tb, hok, hmerged⟩
    have hrels := hmerged.rels
    rw [rels_lastBRelocated h30 rfl hok] at hrels
    subst h30
    revert hrels
    decide

end AotOpt
