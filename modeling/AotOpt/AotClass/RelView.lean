import AotOpt.AotClass.Relocations

/-!
# The valid relocations with the nodes they cover

The offsets of the relocations move with the code. What they say of it is kept apart from the
offsets here: `relView` has for each valid relocation, in order, the rest of its fields and the
nodes it covers. A relocation need not start at an instruction; it covers the instructions that
start inside of it.

* `relView_deleteAt` — a deletion takes away the relocation that covers the node, and nothing else.
* `relView_updateInsn` — an assignment to an instruction shows in the nodes.
-/

namespace AotOpt

open Lib

variable {ι : Type}

namespace RelSlot

/-- The index of the first instruction that starts inside of the relocation. -/
def start (r : RelSlot) : ℕ := (r.rel.tcOffset.toNat + 3) / 4

/-- The instruction with index `k` starts inside of the relocation. -/
def Contains (r : RelSlot) (k : ℕ) : Prop := r.start ≤ k ∧ k < r.start + r.count

instance (r : RelSlot) (k : ℕ) : Decidable (r.Contains k) := inferInstanceAs (Decidable (_ ∧ _))

end RelSlot

/-- The valid relocations are not empty, inside a code of `len` instructions, and disjoint. -/
structure RelsDisjoint (rels : List RelSlot) (len : ℕ) : Prop where
  nonempty : ∀ r ∈ rels, r.valid → 1 ≤ r.count
  inside : ∀ r ∈ rels, r.valid → r.start + r.count ≤ len
  apart : rels.Pairwise fun r r' => r.valid → r'.valid →
    r.start + r.count ≤ r'.start ∨ r'.start + r'.count ≤ r.start

/-- An aligned relocation starts at an instruction. -/
theorem RelSlot.start_eq_first {r : RelSlot} (h : r.rel.tcOffset.toNat % 4 = 0) : r.start = r.first := by
  rw [start, first]
  omega

theorem RelsApart.relsDisjoint {rels : List RelSlot} {len : ℕ} (h : RelsApart rels len) :
    RelsDisjoint rels len where
  nonempty := h.nonempty
  inside r hr hv := by
    rw [RelSlot.start_eq_first (h.aligned r hr hv)]
    exact h.inside r hr hv
  apart := by
    refine h.apart.imp_of_mem fun {r r'} hr hr' hap hv hv' => ?_
    rw [RelSlot.start_eq_first (h.aligned r hr hv), RelSlot.start_eq_first (h.aligned r' hr' hv')]
    exact hap hv hv'

/-- A valid relocation with offset 0, and the nodes it covers. -/
abbrev RelView := AOTRel × List (ListNode LoongArchInsInfo)

/-- What a relocation says of the nodes. -/
def RelSlot.view (nodes : List (ListNode LoongArchInsInfo)) (r : RelSlot) : RelView :=
  ({ r.rel with tcOffset := 0 }, slice nodes r.start r.count)

namespace TB

/-- The valid relocations with their nodes. -/
def relView (tb : TB ι) : List RelView :=
  (tb.rels.filter (·.valid)).map (RelSlot.view tb.disInsns.nodes)

/-- A valid relocation covers the node. -/
def CoversNode (tb : TB ι) (n : ListNode LoongArchInsInfo) : Prop := ∃ v ∈ tb.relView, n ∈ v.2

/-- The valid relocations are disjoint, and the byte offsets fit in 32 bits. -/
structure RelsFit (tb : TB ι) : Prop where
  disjoint : RelsDisjoint tb.rels tb.disInsns.nodes.length
  lt : tb.disInsns.nodes.length < 2 ^ 30

end TB

/-! ### One relocation along a deletion -/

section Slot

variable {r : RelSlot} {len k : ℕ} {offset : BitVec 64}

/-- Whether a relocation is hit is a matter of indices. -/
theorem RelSlot.hit_iff_contains (h : r.start + r.count < 2 ^ 30) (hoff : offset.toNat = 4 * k) :
    r.hit offset ↔ r.valid ∧ r.Contains k := by
  rw [start] at h
  have hsum : (r.rel.tcOffset + (r.rel.relSlotsNum <<< 2)).toNat =
      r.rel.tcOffset.toNat + 4 * r.count := by
    rw [BitVec.toNat_add, BitVec.toNat_shiftLeft, Nat.shiftLeft_eq]
    change (r.rel.tcOffset.toNat + r.count * 2 ^ 2 % 2 ^ 32) % 2 ^ 32 = _
    omega
  simp only [hit, AOTRel.covers, Bool.and_eq_true, decide_eq_true_eq, BitVec.le_def, BitVec.lt_def,
    BitVec.toNat_setWidth, hoff, hsum, Contains, start]
  refine and_congr_right fun _ => ?_
  omega

/-- What a deletion at index `k` does to a relocation. -/
def RelSlot.shrink (k : ℕ) (r : RelSlot) : RelSlot :=
  if r.valid ∧ r.Contains k then { r with valid := false }
  else if r.valid ∧ k < r.start then { r with rel := { r.rel with tcOffset := r.rel.tcOffset - 4 } }
  else r

@[simp] theorem RelSlot.count_shrink : (r.shrink k).count = r.count := by
  unfold shrink count
  split_ifs <;> rfl

theorem RelSlot.valid_shrink : (r.shrink k).valid ↔ r.valid ∧ ¬r.Contains k := by
  unfold shrink
  split_ifs with h1 h2
  · simp [h1.2]
  · exact ⟨fun hv => ⟨hv, fun hc => h1 ⟨hv, hc⟩⟩, And.left⟩
  · exact ⟨fun hv => ⟨hv, fun hc => h1 ⟨hv, hc⟩⟩, And.left⟩

/-- A relocation that does not contain the instruction, unless it starts before the second one. -/
theorem RelSlot.tcOffset_shrink (hk : 0 < k) (hv : r.valid) (hno : ¬r.Contains k) :
    (r.shrink k).rel.tcOffset.toNat =
      if k < r.start then r.rel.tcOffset.toNat - 4 else r.rel.tcOffset.toNat := by
  have h4 : (4 : BitVec 32).toNat = 4 := rfl
  rw [shrink, if_neg fun h => hno h.2]
  by_cases hlt : k < r.start
  · rw [if_pos ⟨hv, hlt⟩, if_pos hlt, BitVec.toNat_sub, h4]
    have hlt' := r.rel.tcOffset.isLt
    rw [start] at hlt
    omega
  · rw [if_neg fun h => hlt h.2, if_neg hlt]

theorem RelSlot.start_shrink (hk : 0 < k) (hv : r.valid) (hno : ¬r.Contains k) :
    (r.shrink k).start = shiftDel k r.start := by
  rw [start, tcOffset_shrink hk hv hno]
  by_cases hlt : k < r.start
  · rw [if_pos hlt, shiftDel_of_lt hlt, start]
    rw [start] at hlt
    omega
  · rw [if_neg hlt, shiftDel_of_le (by omega)]
    rfl

/-- What a relocation says after a deletion of an instruction that it does not cover. -/
theorem RelSlot.view_shrink {nodes : List (ListNode LoongArchInsInfo)} (hk : 0 < k) (hv : r.valid)
    (hno : ¬r.Contains k) : (r.shrink k).view (nodes.eraseIdx k) = r.view nodes := by
  have hrel : ({ (r.shrink k).rel with tcOffset := 0 } : AOTRel) = { r.rel with tcOffset := 0 } := by
    unfold RelSlot.shrink
    split_ifs <;> rfl
  rw [RelSlot.view, RelSlot.view, hrel, count_shrink, start_shrink hk hv hno]
  rw [RelSlot.Contains] at hno
  by_cases hlt : k < r.start
  · rw [shiftDel_of_lt hlt, slice_eraseIdx_of_lt _ _ hlt]
  · rw [shiftDel_of_le (by omega), slice_eraseIdx_of_le _ (by omega)]

end Slot

/-! ### All relocations along a deletion -/

section Rels

variable {rels : List RelSlot} {len k : ℕ} {offset : BitVec 64}

theorem RelsDisjoint.hit_iff (h : RelsDisjoint rels len) (hlen : len < 2 ^ 30)
    (hoff : offset.toNat = 4 * k) {r : RelSlot} (hr : r ∈ rels) :
    r.hit offset ↔ r.valid ∧ r.Contains k := by
  by_cases hv : r.valid
  · exact RelSlot.hit_iff_contains ((h.inside r hr hv).trans_lt hlen) hoff
  · simp [RelSlot.hit, hv]

theorem RelsDisjoint.delete_eq (h : RelsDisjoint rels len) (hlen : len < 2 ^ 30)
    (hoff : offset.toNat = 4 * k) :
    TB.shiftRelsDelete offset (TB.dropRel offset rels) = rels.map (RelSlot.shrink k) := by
  have hone : rels.Pairwise fun r r' => r.hit offset → r'.hit offset = false := by
    refine h.apart.imp_of_mem fun {r r'} hr hr' hap hhit => ?_
    rw [Bool.eq_false_iff]
    intro hhit'
    obtain ⟨hv, hc⟩ := (h.hit_iff hlen hoff hr).mp hhit
    obtain ⟨hv', hc'⟩ := (h.hit_iff hlen hoff hr').mp hhit'
    rw [RelSlot.Contains] at hc hc'
    rcases hap hv hv' with hap | hap <;> omega
  rw [dropRel_eq_map offset hone, TB.shiftRelsDelete, List.map_map]
  refine List.map_congr_left fun r hr => ?_
  have hhit := h.hit_iff hlen hoff hr
  rw [RelSlot.shrink]
  by_cases hc : r.valid ∧ r.Contains k
  · rw [if_pos hc]
    simp [hhit.mpr hc]
  · have hmiss : r.hit offset = false := Bool.eq_false_iff.mpr fun hh => hc (hhit.mp hh)
    have hiff : offset < r.rel.tcOffset.setWidth 64 ↔ k < r.start := by
      rw [BitVec.lt_def, BitVec.toNat_setWidth, hoff, RelSlot.start]
      have := r.rel.tcOffset.isLt
      omega
    rw [if_neg hc]
    simp [hmiss, hiff]

theorem RelsDisjoint.delete (h : RelsDisjoint rels len) (hk : 0 < k) (hlt : k < len) :
    RelsDisjoint (rels.map (RelSlot.shrink k)) (len - 1) where
  nonempty := by
    rintro _ hmem hv
    obtain ⟨r, hr, rfl⟩ := List.mem_map.mp hmem
    rw [RelSlot.count_shrink]
    exact h.nonempty r hr (RelSlot.valid_shrink.mp hv).1
  inside := by
    rintro _ hmem hv
    obtain ⟨r, hr, rfl⟩ := List.mem_map.mp hmem
    obtain ⟨hv, hno⟩ := RelSlot.valid_shrink.mp hv
    have := h.inside r hr hv
    rw [RelSlot.Contains] at hno
    rw [RelSlot.count_shrink, RelSlot.start_shrink hk hv hno, shiftDel]
    split_ifs <;> omega
  apart := by
    rw [List.pairwise_map]
    refine h.apart.imp_of_mem fun {r r'} hr hr' hap hv hv' => ?_
    obtain ⟨hv, hno⟩ := RelSlot.valid_shrink.mp hv
    obtain ⟨hv', hno'⟩ := RelSlot.valid_shrink.mp hv'
    have hap := hap hv hv'
    have := h.nonempty r hr hv
    have := h.nonempty r' hr' hv'
    rw [RelSlot.count_shrink, RelSlot.count_shrink, RelSlot.start_shrink hk hv hno,
      RelSlot.start_shrink hk hv' hno', shiftDel, shiftDel]
    rw [RelSlot.Contains] at hno hno'
    split_ifs <;> omega

end Rels

namespace TB

variable {tb : TB ι} {n : ListNode LoongArchInsInfo}

theorem coversNode_iff : tb.CoversNode n ↔
    ∃ r ∈ tb.rels, r.valid ∧ ∃ k, r.Contains k ∧ tb.disInsns.nodes[k]? = some n := by
  constructor
  · rintro ⟨v, hv, hn⟩
    obtain ⟨r, hr, rfl⟩ := List.mem_map.mp hv
    obtain ⟨hr, hvalid⟩ := List.mem_filter.mp hr
    obtain ⟨k, h1, h2, hk⟩ := mem_slice_iff.mp hn
    exact ⟨r, hr, hvalid, k, ⟨h1, h2⟩, hk⟩
  · rintro ⟨r, hr, hvalid, k, ⟨h1, h2⟩, hk⟩
    exact ⟨_, List.mem_map_of_mem (List.mem_filter.mpr ⟨hr, hvalid⟩), mem_slice_iff.mpr ⟨k, h1, h2, hk⟩⟩

/-- A node that is covered is there. -/
theorem CoversNode.mem_nodes (h : tb.CoversNode n) : n ∈ tb.disInsns.nodes := by
  obtain ⟨_, _, _, k, _, hk⟩ := coversNode_iff.mp h
  exact List.mem_of_getElem? hk

theorem coversNode_of_relView_eq {tb' : TB ι} (h : tb'.relView = tb.relView) :
    tb'.CoversNode n ↔ tb.CoversNode n := by rw [CoversNode, h, CoversNode]

/-- The relocation contains the index if it covers the node there. -/
theorem contains_iff_mem_view {r : RelSlot} {k : ℕ} (hn : tb.disInsns.nodes[k]? = some n) :
    r.Contains k ↔ n.addr ∈ (r.view tb.disInsns.nodes).2.map (·.addr) := by
  constructor
  · intro hc
    exact List.mem_map_of_mem (mem_slice_iff.mpr ⟨k, hc.1, hc.2, hn⟩)
  · intro hmem
    obtain ⟨m, hm, haddr⟩ := List.mem_map.mp hmem
    obtain ⟨j, h1, h2, hj⟩ := mem_slice_iff.mp hm
    have hpos := LinkList.pos_of_nodes hj
    rw [haddr, LinkList.pos_of_nodes hn] at hpos
    rw [hpos]
    exact ⟨h1, h2⟩

/-- **A deletion** takes away the relocation that covers the node. -/
theorem relView_deleteAt (h : tb.RelsFit) {k : ℕ} (hk : 0 < k) (hn : tb.disInsns.nodes[k]? = some n)
    {i : BitVec 64} (hoff : (i <<< 2).toNat = 4 * k) :
    (tb.deleteAt n i).relView = tb.relView.filter fun v => n.addr ∉ v.2.map (·.addr) := by
  have hrels : (tb.deleteAt n i).rels = tb.rels.map (RelSlot.shrink k) :=
    h.disjoint.delete_eq h.lt hoff
  have hnodes : (tb.deleteAt n i).disInsns.nodes = tb.disInsns.nodes.eraseIdx k := by
    rw [disInsns_deleteAt, LinkList.nodes_remove (LinkList.addrs_of_nodes hn)]
  rw [relView, hrels, hnodes, relView, List.filter_map, List.filter_map, List.map_map, List.filter_filter]
  have hfilter : tb.rels.filter ((·.valid) ∘ RelSlot.shrink k) = tb.rels.filter fun r =>
      (decide (n.addr ∉ (r.view tb.disInsns.nodes).2.map (·.addr))) && r.valid := by
    refine List.filter_congr fun r _ => ?_
    rw [Bool.eq_iff_iff, Function.comp_apply, RelSlot.valid_shrink, Bool.and_eq_true,
      decide_eq_true_eq, ← contains_iff_mem_view hn, and_comm]
  rw [hfilter]
  refine List.map_congr_left fun r hr => ?_
  have hkeep := (List.mem_filter.mp hr).2
  rw [Bool.and_eq_true, decide_eq_true_eq, ← contains_iff_mem_view hn] at hkeep
  exact RelSlot.view_shrink hk hkeep.2 hkeep.1

/-- A deletion of a node that is not covered. -/
theorem relView_deleteAt_eq_self (h : tb.RelsFit) {k : ℕ} (hk : 0 < k)
    (hn : tb.disInsns.nodes[k]? = some n) {i : BitVec 64} (hoff : (i <<< 2).toNat = 4 * k)
    (hno : ¬tb.CoversNode n) : (tb.deleteAt n i).relView = tb.relView := by
  rw [relView_deleteAt h hk hn hoff, List.filter_eq_self]
  intro v hv
  rw [decide_eq_true_eq]
  intro hmem
  obtain ⟨r, hr, rfl⟩ := List.mem_map.mp hv
  obtain ⟨hr, hvalid⟩ := List.mem_filter.mp hr
  exact hno (coversNode_iff.mpr ⟨r, hr, hvalid, k, (contains_iff_mem_view hn).mpr hmem, hn⟩)

theorem RelsFit.deleteAt (h : tb.RelsFit) {k : ℕ} (hk : 0 < k) (hn : tb.disInsns.nodes[k]? = some n)
    {i : BitVec 64} (hoff : (i <<< 2).toNat = 4 * k) : (tb.deleteAt n i).RelsFit := by
  have hlt := (List.getElem?_eq_some_iff.mp hn).1
  have hrels : (tb.deleteAt n i).rels = tb.rels.map (RelSlot.shrink k) :=
    h.disjoint.delete_eq h.lt hoff
  have hlength : (tb.deleteAt n i).disInsns.nodes.length = tb.disInsns.nodes.length - 1 := by
    rw [disInsns_deleteAt, LinkList.nodes_remove (LinkList.addrs_of_nodes hn),
      List.length_eraseIdx_of_lt hlt]
  have hfit := h.lt
  refine ⟨?_, by omega⟩
  rw [hrels, hlength]
  exact h.disjoint.delete hk hlt

/-! ### An assignment -/

/-- **An assignment** to an instruction shows in the nodes. -/
theorem relView_updateInsn (tb : TB ι) (a : ℕ) (f : LoongArchInsInfo → LoongArchInsInfo) :
    (tb.updateInsn a f).relView = tb.relView.map fun v =>
      (v.1, v.2.map fun n => if n.addr = a then ⟨n.addr, f n.data⟩ else n) := by
  show List.map (RelSlot.view (tb.disInsns.update a f).nodes) _ = _
  rw [relView, List.map_map, LinkList.nodes_update]
  refine List.map_congr_left fun r _ => ?_
  rw [RelSlot.view, Function.comp_apply, RelSlot.view, slice, slice, List.map_take, List.map_drop]

/-- An assignment to an instruction that is not covered. -/
theorem relView_updateInsn_eq_self (hmem : n ∈ tb.disInsns.nodes) (hno : ¬tb.CoversNode n)
    (f : LoongArchInsInfo → LoongArchInsInfo) : (tb.updateInsn n.addr f).relView = tb.relView := by
  rw [relView_updateInsn]
  conv_rhs => rw [← List.map_id tb.relView]
  refine List.map_congr_left fun v hv => ?_
  refine Prod.ext rfl ?_
  show v.2.map _ = v.2
  conv_rhs => rw [← List.map_id v.2]
  refine List.map_congr_left fun m hm => ?_
  rw [if_neg, id]
  intro haddr
  have hcovers : tb.CoversNode m := ⟨v, hv, hm⟩
  obtain rfl : m = n := List.inj_on_of_nodup_map tb.disInsns.nodup hcovers.mem_nodes hmem haddr
  exact hno hcovers

theorem RelsFit.updateInsn (h : tb.RelsFit) (a : ℕ) (f : LoongArchInsInfo → LoongArchInsInfo) :
    (tb.updateInsn a f).RelsFit := by
  have hlen : (tb.updateInsn a f).disInsns.nodes.length = tb.disInsns.nodes.length :=
    LinkList.length_update a f
  exact ⟨by rw [hlen]; exact h.disjoint, by rw [hlen]; exact h.lt⟩

end TB

end AotOpt
