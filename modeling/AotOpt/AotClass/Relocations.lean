import AotOpt.AotClass.JumpSlots
import Mathlib.Data.List.Forall2

/-!
# Relocations and jump slots along edits

A relocation covers the instructions from its byte offset on, and a jump slot denotes the
instruction at its byte offset. Each edit moves the offsets behind it by comparisons on
32 or 64 bits. As long as the code has fewer than `2 ^ 30` instructions the byte offsets fit
in 32 bits, and then one change of the block is one change of every relocation and slot
by itself (`rels_deleteAt_eq`, `rels_insertInsn_eq`).

* `relocations_along_edits` — after every step of a run of edits the valid relocations are
  in order, disjoint and inside the code; a relocation is valid as long as none of its
  instructions was deleted, and covers the instructions it covered at the start; and a
  slot denotes the instruction it denoted at the start as long as that is there.
-/

namespace AotOpt

open Lib

variable {ι : Type}

/-! ### Relocations by instruction index -/

namespace RelSlot

/-- The index of the first instruction of the relocation. -/
def first (r : RelSlot) : ℕ := r.rel.tcOffset.toNat / 4

/-- How many instructions the relocation has. -/
def count (r : RelSlot) : ℕ := r.rel.relSlotsNum.toNat

/-- The relocation covers the instruction with index `k`. -/
def Covers (r : RelSlot) (k : ℕ) : Prop := r.first ≤ k ∧ k < r.first + r.count

instance (r : RelSlot) (k : ℕ) : Decidable (r.Covers k) := inferInstanceAs (Decidable (_ ∧ _))

end RelSlot

/-- The valid relocations are not empty, 4-byte aligned, inside a code of `len`
instructions, ascending and disjoint: each ends before the next one starts. -/
structure RelsOk (rels : List RelSlot) (len : ℕ) : Prop where
  aligned : ∀ r ∈ rels, r.valid → r.rel.tcOffset.toNat % 4 = 0
  nonempty : ∀ r ∈ rels, r.valid → 1 ≤ r.count
  inside : ∀ r ∈ rels, r.valid → r.first + r.count ≤ len
  apart : rels.Pairwise fun r r' => r.valid → r'.valid → r.first + r.count ≤ r'.first

/-- The same in any order: each two valid relocations are disjoint. -/
structure RelsApart (rels : List RelSlot) (len : ℕ) : Prop where
  aligned : ∀ r ∈ rels, r.valid → r.rel.tcOffset.toNat % 4 = 0
  nonempty : ∀ r ∈ rels, r.valid → 1 ≤ r.count
  inside : ∀ r ∈ rels, r.valid → r.first + r.count ≤ len
  apart : rels.Pairwise fun r r' => r.valid → r'.valid →
    r.first + r.count ≤ r'.first ∨ r'.first + r'.count ≤ r.first

theorem relsApart_nil (len : ℕ) : RelsApart [] len :=
  ⟨fun _ hr => absurd hr List.not_mem_nil, fun _ hr => absurd hr List.not_mem_nil,
    fun _ hr => absurd hr List.not_mem_nil, .nil⟩

theorem RelsOk.relsApart {rels : List RelSlot} {len : ℕ} (h : RelsOk rels len) : RelsApart rels len :=
  ⟨h.aligned, h.nonempty, h.inside, h.apart.imp fun hap hv hv' => .inl (hap hv hv')⟩

theorem toNat_offset64 {k : ℕ} (hk : k < 2 ^ 30) : (BitVec.ofNat 64 k <<< 2).toNat = 4 * k := by
  rw [BitVec.toNat_shiftLeft, BitVec.toNat_ofNat, Nat.shiftLeft_eq]
  omega

theorem toNat_offset32 {k : ℕ} (hk : k < 2 ^ 30) :
    ((BitVec.ofNat 32 k <<< 2).setWidth 64).toNat = 4 * k := by
  rw [BitVec.toNat_setWidth, BitVec.toNat_shiftLeft, BitVec.toNat_ofNat, Nat.shiftLeft_eq]
  omega

section Slot

variable {r : RelSlot} {len k : ℕ} {offset : BitVec 64}

/-- Offsets of an aligned relocation are indices. -/
theorem RelSlot.toNat_tcOffset (h : r.rel.tcOffset.toNat % 4 = 0) :
    r.rel.tcOffset.toNat = 4 * r.first := by
  rw [first]
  omega

/-- Whether a relocation inside the code is hit is a matter of indices. -/
theorem RelSlot.hit_iff (hal : r.rel.tcOffset.toNat % 4 = 0) (hlt : r.first + r.count < 2 ^ 30)
    (hoff : offset.toNat = 4 * k) : r.hit offset ↔ r.valid ∧ r.Covers k := by
  have htc := toNat_tcOffset hal
  have hsum : (r.rel.tcOffset + (r.rel.relSlotsNum <<< 2)).toNat = 4 * (r.first + r.count) := by
    rw [BitVec.toNat_add, BitVec.toNat_shiftLeft, htc, Nat.shiftLeft_eq]
    change (4 * r.first + r.count * 2 ^ 2 % 2 ^ 32) % 2 ^ 32 = _
    omega
  simp only [hit, AOTRel.covers, Bool.and_eq_true, decide_eq_true_eq, BitVec.le_def, BitVec.lt_def,
    BitVec.toNat_setWidth, hoff, hsum, htc, Covers]
  refine and_congr_right fun _ => ?_
  omega

end Slot

section Rels

variable {rels : List RelSlot} {len k : ℕ} {offset : BitVec 64}

theorem RelsApart.hit_iff (h : RelsApart rels len) (hlen : len < 2 ^ 30) (hoff : offset.toNat = 4 * k)
    {r : RelSlot} (hr : r ∈ rels) : r.hit offset ↔ r.valid ∧ r.Covers k := by
  by_cases hv : r.valid
  · exact RelSlot.hit_iff (h.aligned r hr hv) ((h.inside r hr hv).trans_lt hlen) hoff
  · simp [RelSlot.hit, hv]

/-- What a deletion at index `k` does to a relocation. -/
def RelSlot.afterDelete (k : ℕ) (r : RelSlot) : RelSlot :=
  if r.valid ∧ r.Covers k then { r with valid := false }
  else if r.valid ∧ k < r.first then { r with rel := { r.rel with tcOffset := r.rel.tcOffset - 4 } }
  else r

/-- What an insertion at index `k` does to a relocation. -/
def RelSlot.afterInsert (k : ℕ) (r : RelSlot) : RelSlot :=
  if r.valid ∧ k ≤ r.first then { r with rel := { r.rel with tcOffset := r.rel.tcOffset + 4 } }
  else r

/-- Only one of the relocations can be hit, so `dropRel` is the same for all. -/
theorem dropRel_eq_map (offset : BitVec 64) : ∀ {rels : List RelSlot},
    rels.Pairwise (fun r r' => r.hit offset → r'.hit offset = false) →
      TB.dropRel offset rels = rels.map fun r => if r.hit offset then { r with valid := false } else r
  | [], _ => rfl
  | r :: rels, h => by
    rw [List.pairwise_cons] at h
    rw [TB.dropRel, List.map_cons]
    by_cases hr : r.hit offset
    · rw [if_pos hr, if_pos hr]
      congr 1
      conv_lhs => rw [← List.map_id rels]
      refine List.map_congr_left fun r' hr' => ?_
      rw [h.1 r' hr' hr]
      rfl
    · rw [if_neg hr, if_neg hr, dropRel_eq_map offset h.2]

theorem RelsApart.apart_hit (h : RelsApart rels len) (hlen : len < 2 ^ 30) (hoff : offset.toNat = 4 * k) :
    rels.Pairwise fun r r' => r.hit offset → r'.hit offset = false := by
  refine h.apart.imp_of_mem fun {r r'} hr hr' hap hhit => ?_
  rw [Bool.eq_false_iff]
  intro hhit'
  obtain ⟨hv, hc⟩ := (h.hit_iff hlen hoff hr).mp hhit
  obtain ⟨hv', hc'⟩ := (h.hit_iff hlen hoff hr').mp hhit'
  unfold RelSlot.Covers at hc hc'
  rcases hap hv hv' with hap | hap <;> omega

/-- **A deletion** changes every relocation by itself. -/
theorem RelsApart.delete_eq (h : RelsApart rels len) (hlen : len < 2 ^ 30) (hoff : offset.toNat = 4 * k) :
    TB.shiftRelsDelete offset (TB.dropRel offset rels) = rels.map (RelSlot.afterDelete k) := by
  rw [dropRel_eq_map offset (h.apart_hit hlen hoff), TB.shiftRelsDelete, List.map_map]
  refine List.map_congr_left fun r hr => ?_
  have hhit := h.hit_iff hlen hoff hr
  rw [RelSlot.afterDelete]
  by_cases hc : r.valid ∧ r.Covers k
  · have hhit' := hhit.mpr hc
    rw [if_pos hc]
    simp [hhit']
  · have hhit' : r.hit offset = false := Bool.eq_false_iff.mpr fun hh => hc (hhit.mp hh)
    rw [if_neg hc]
    simp only [Function.comp, hhit', Bool.false_eq_true, if_false]
    by_cases hv : r.valid
    · have htc := RelSlot.toNat_tcOffset (h.aligned r hr hv)
      have hiff : offset < r.rel.tcOffset.setWidth 64 ↔ k < r.first := by
        rw [BitVec.lt_def, BitVec.toNat_setWidth, hoff, htc]
        have := r.rel.tcOffset.isLt
        omega
      simp [hv, hiff]
    · simp [hv]

/-- **An insertion** changes every relocation by itself. -/
theorem RelsOk.insert_eq (h : RelsOk rels len) (hoff : offset.toNat = 4 * k) :
    TB.shiftRelsAdd offset rels = rels.map (RelSlot.afterInsert k) := by
  rw [TB.shiftRelsAdd]
  refine List.map_congr_left fun r hr => ?_
  rw [RelSlot.afterInsert]
  by_cases hv : r.valid
  · have htc := RelSlot.toNat_tcOffset (h.aligned r hr hv)
    have hiff : r.rel.tcOffset.setWidth 64 ≥ offset ↔ k ≤ r.first := by
      rw [ge_iff_le, BitVec.le_def, BitVec.toNat_setWidth, hoff, htc]
      have := r.rel.tcOffset.isLt
      omega
    simp [hv, hiff]
  · simp [hv]

end Rels

/-! ### One relocation along one change -/

section Along

variable {r : RelSlot} {k : ℕ}

theorem RelSlot.toNat_sub_four (hal : r.rel.tcOffset.toNat % 4 = 0) (h : k < r.first) :
    (r.rel.tcOffset - 4).toNat = 4 * (r.first - 1) := by
  have htc := toNat_tcOffset hal
  have h4 : (4 : BitVec 32).toNat = 4 := rfl
  rw [BitVec.toNat_sub, htc, h4]
  have := r.rel.tcOffset.isLt
  omega

theorem RelSlot.toNat_add_four (hal : r.rel.tcOffset.toNat % 4 = 0) (h : r.first + 1 < 2 ^ 30) :
    (r.rel.tcOffset + 4).toNat = 4 * (r.first + 1) := by
  have htc := toNat_tcOffset hal
  have h4 : (4 : BitVec 32).toNat = 4 := rfl
  rw [BitVec.toNat_add, htc, h4]
  omega

@[simp] theorem RelSlot.count_afterDelete : (r.afterDelete k).count = r.count := by
  unfold afterDelete count
  split_ifs <;> rfl

@[simp] theorem RelSlot.count_afterInsert : (r.afterInsert k).count = r.count := by
  unfold afterInsert count
  split_ifs <;> rfl

@[simp] theorem RelSlot.valid_afterInsert : (r.afterInsert k).valid = r.valid := by
  unfold afterInsert
  split_ifs <;> rfl

theorem RelSlot.valid_afterDelete : (r.afterDelete k).valid ↔ r.valid ∧ ¬r.Covers k := by
  unfold afterDelete
  split_ifs with h1 h2
  · simp [h1.2]
  · simp only
    tauto
  · tauto

theorem RelSlot.first_afterDelete (hv : r.valid) (hal : r.rel.tcOffset.toNat % 4 = 0) :
    (r.afterDelete k).first = shiftDel k r.first := by
  unfold afterDelete
  split_ifs with h1 h2
  · rw [shiftDel_of_le h1.2.1]
    rfl
  · rw [first, toNat_sub_four hal h2.2, shiftDel_of_lt h2.2]
    omega
  · rw [shiftDel_of_le (by simp only [hv, true_and] at h2; omega)]

theorem RelSlot.first_afterInsert (hv : r.valid) (hal : r.rel.tcOffset.toNat % 4 = 0)
    (h : r.first + 1 < 2 ^ 30) : (r.afterInsert k).first = shiftIns k r.first := by
  unfold afterInsert
  split_ifs with h1
  · rw [first, toNat_add_four hal h, shiftIns_of_le h1.2]
    omega
  · rw [shiftIns_of_lt (by simp only [hv, true_and] at h1; omega)]

theorem RelSlot.aligned_afterDelete (hal : r.rel.tcOffset.toNat % 4 = 0) :
    (r.afterDelete k).rel.tcOffset.toNat % 4 = 0 := by
  unfold afterDelete
  split_ifs with h1 h2
  · exact hal
  · rw [toNat_sub_four hal h2.2]
    omega
  · exact hal

theorem RelSlot.aligned_afterInsert (hal : r.rel.tcOffset.toNat % 4 = 0)
    (h : r.first + 1 < 2 ^ 30) : (r.afterInsert k).rel.tcOffset.toNat % 4 = 0 := by
  unfold afterInsert
  split_ifs with h1
  · rw [toNat_add_four hal h]
    omega
  · exact hal

end Along

/-! ### All relocations along one change -/

section RelsOk

variable {rels : List RelSlot} {len k : ℕ}

theorem RelsApart.delete (h : RelsApart rels len) (hk : k < len) :
    RelsApart (rels.map (RelSlot.afterDelete k)) (len - 1) where
  aligned := by
    rintro _ hmem hv
    obtain ⟨r, hr, rfl⟩ := List.mem_map.mp hmem
    exact RelSlot.aligned_afterDelete (h.aligned r hr (RelSlot.valid_afterDelete.mp hv).1)
  nonempty := by
    rintro _ hmem hv
    obtain ⟨r, hr, rfl⟩ := List.mem_map.mp hmem
    rw [RelSlot.count_afterDelete]
    exact h.nonempty r hr (RelSlot.valid_afterDelete.mp hv).1
  inside := by
    rintro _ hmem hv
    obtain ⟨r, hr, rfl⟩ := List.mem_map.mp hmem
    obtain ⟨hv, hc⟩ := RelSlot.valid_afterDelete.mp hv
    have := h.inside r hr hv
    rw [RelSlot.count_afterDelete, RelSlot.first_afterDelete hv (h.aligned r hr hv), shiftDel]
    unfold RelSlot.Covers at hc
    split_ifs <;> omega
  apart := by
    rw [List.pairwise_map]
    refine h.apart.imp_of_mem fun {r r'} hr hr' hap hv hv' => ?_
    obtain ⟨hv, hc⟩ := RelSlot.valid_afterDelete.mp hv
    obtain ⟨hv', hc'⟩ := RelSlot.valid_afterDelete.mp hv'
    have hap := hap hv hv'
    have := h.nonempty r hr hv
    have := h.nonempty r' hr' hv'
    rw [RelSlot.count_afterDelete, RelSlot.count_afterDelete,
      RelSlot.first_afterDelete hv (h.aligned r hr hv),
      RelSlot.first_afterDelete hv' (h.aligned r' hr' hv'), shiftDel, shiftDel]
    unfold RelSlot.Covers at hc hc'
    split_ifs <;> omega

theorem RelsOk.delete (h : RelsOk rels len) (hk : k < len) :
    RelsOk (rels.map (RelSlot.afterDelete k)) (len - 1) where
  aligned := (h.relsApart.delete hk).aligned
  nonempty := (h.relsApart.delete hk).nonempty
  inside := (h.relsApart.delete hk).inside
  apart := by
    rw [List.pairwise_map]
    refine h.apart.imp_of_mem fun {r r'} hr hr' hap hv hv' => ?_
    obtain ⟨hv, hc⟩ := RelSlot.valid_afterDelete.mp hv
    obtain ⟨hv', hc'⟩ := RelSlot.valid_afterDelete.mp hv'
    have := hap hv hv'
    have := h.nonempty r hr hv
    rw [RelSlot.count_afterDelete, RelSlot.first_afterDelete hv (h.aligned r hr hv),
      RelSlot.first_afterDelete hv' (h.aligned r' hr' hv'), shiftDel, shiftDel]
    unfold RelSlot.Covers at hc hc'
    split_ifs <;> omega

theorem RelsOk.insert (h : RelsOk rels len) (hlen : len < 2 ^ 30)
    (hno : ∀ r ∈ rels, r.valid → ¬r.Covers k) :
    RelsOk (rels.map (RelSlot.afterInsert k)) (len + 1) where
  aligned := by
    rintro _ hmem hv
    obtain ⟨r, hr, rfl⟩ := List.mem_map.mp hmem
    rw [RelSlot.valid_afterInsert] at hv
    have := h.inside r hr hv
    have := h.nonempty r hr hv
    exact RelSlot.aligned_afterInsert (h.aligned r hr hv) (by omega)
  nonempty := by
    rintro _ hmem hv
    obtain ⟨r, hr, rfl⟩ := List.mem_map.mp hmem
    rw [RelSlot.valid_afterInsert] at hv
    rw [RelSlot.count_afterInsert]
    exact h.nonempty r hr hv
  inside := by
    rintro _ hmem hv
    obtain ⟨r, hr, rfl⟩ := List.mem_map.mp hmem
    rw [RelSlot.valid_afterInsert] at hv
    have := h.inside r hr hv
    have := h.nonempty r hr hv
    rw [RelSlot.count_afterInsert, RelSlot.first_afterInsert hv (h.aligned r hr hv) (by omega),
      shiftIns]
    split_ifs <;> omega
  apart := by
    rw [List.pairwise_map]
    refine h.apart.imp_of_mem fun {r r'} hr hr' hap hv hv' => ?_
    rw [RelSlot.valid_afterInsert] at hv hv'
    have := hap hv hv'
    have h1 := h.nonempty r hr hv
    have h2 := h.nonempty r' hr' hv'
    have h3 := h.inside r hr hv
    have h4 := h.inside r' hr' hv'
    have hc := hno r hr hv
    rw [RelSlot.count_afterInsert, RelSlot.first_afterInsert hv (h.aligned r hr hv) (by omega),
      RelSlot.first_afterInsert hv' (h.aligned r' hr' hv') (by omega), shiftIns, shiftIns]
    unfold RelSlot.Covers at hc
    split_ifs <;> omega

end RelsOk

/-- The valid relocations of a block are disjoint and inside its code, and the byte offsets fit in 32
bits. -/
structure TB.RelsInside (tb : TB ι) : Prop where
  apart : RelsApart tb.rels tb.disInsns.nodes.length
  length_lt : tb.disInsns.nodes.length < 2 ^ 30

/-- **A deletion** of an instruction, at any index in the code. -/
theorem TB.RelsInside.deleteAt {tb : TB ι} (h : tb.RelsInside) {q : ℕ} {n : ListNode LoongArchInsInfo}
    (hn : tb.disInsns.nodes[q]? = some n) {i : BitVec 64} (hi : i.toNat < tb.disInsns.nodes.length) :
    (tb.deleteAt n i).RelsInside := by
  have hlt := h.length_lt
  have hoff : (i <<< 2).toNat = 4 * i.toNat := by
    rw [BitVec.toNat_shiftLeft, Nat.shiftLeft_eq]
    omega
  have hlen : (tb.deleteAt n i).disInsns.nodes.length = tb.disInsns.nodes.length - 1 := by
    rw [disInsns_deleteAt, LinkList.nodes_remove (LinkList.addrs_of_nodes hn),
      List.length_eraseIdx_of_lt (List.getElem?_eq_some_iff.mp hn).1]
  have hrels : (tb.deleteAt n i).rels = tb.rels.map (RelSlot.afterDelete i.toNat) :=
    h.apart.delete_eq hlt hoff
  refine ⟨?_, by omega⟩
  rw [hlen, hrels]
  exact h.apart.delete hi

/-! ### What is tracked from the start -/

/-- The nodes of the relocation. -/
def RelSlot.nodes (r : RelSlot) {α : Type} (l : LinkList α) : List ℕ := slice l.addrs r.first r.count

/-- The node was in the list and is not any more. -/
def LinkList.Gone {α : Type} (l : LinkList α) (a : ℕ) : Prop := a < l.fresh ∧ a ∉ l.addrs

section Gone

variable {α : Type} {l : LinkList α} {a k : ℕ}

theorem LinkList.Gone.remove {b : ℕ} (h : l.Gone a) (hk : l.addrs[k]? = some b) :
    (l.remove b).Gone a := by
  refine ⟨h.1, fun hm => h.2 ?_⟩
  rw [addrs_remove hk] at hm
  exact (List.eraseIdx_sublist _ _).subset hm

theorem LinkList.Gone.insertAt {d : α} (h : l.Gone a) : (l.insertAt k d).Gone a := by
  refine ⟨Nat.lt_succ_of_lt h.1, fun hm => ?_⟩
  rw [addrs_insertAt] at hm
  rcases List.eq_or_mem_of_mem_insertIdx hm with rfl | hm
  · exact absurd h.1 (lt_irrefl _)
  · exact h.2 hm

theorem LinkList.lt_fresh_of_mem_addrs (h : a ∈ l.addrs) : a < l.fresh := by
  obtain ⟨n, hn, rfl⟩ := List.mem_map.mp h
  exact l.lt_fresh n hn

/-- A node that is removed is gone. -/
theorem LinkList.gone_remove (h : l.addrs[k]? = some a) : (l.remove a).Gone a := by
  have hlt : a < l.fresh := lt_fresh_of_mem_addrs (List.mem_of_getElem? h)
  refine ⟨hlt, fun hm => ?_⟩
  rw [addrs_remove h] at hm
  obtain ⟨i, hi⟩ := List.mem_iff_getElem?.mp hm
  rw [List.getElem?_eraseIdx] at hi
  split_ifs at hi with hik
  · exact absurd (pos_unique l.nodup_addrs h hi) (by omega)
  · exact absurd (pos_unique l.nodup_addrs h hi) (by omega)

end Gone

/-- What becomes of a relocation `r₀` of the start: it is valid and covers its nodes, or it
is not and one of its nodes is gone. -/
structure RelTracks (l₀ l : LinkList LoongArchInsInfo) (r₀ r : RelSlot) : Prop where
  invalid : r₀.valid = false → r.valid = false
  valid : r₀.valid → (r.valid ∧ r.nodes l = r₀.nodes l₀) ∨
    (r.valid = false ∧ ∃ a ∈ r₀.nodes l₀, l.Gone a)

/-- The state of a run of edits that started from `tb₀`. -/
structure Tracks (tb₀ tb : TB ι) : Prop extends SameSlots tb₀ tb where
  rels_ok : RelsOk tb.rels tb.disInsns.nodes.length
  rels : List.Forall₂ (RelTracks tb₀.disInsns tb.disInsns) tb₀.rels tb.rels
  slots : ∀ j, tb₀.originAotTb.slotValid j → ∀ a : ℕ,
    tb₀.disInsns.addrs[tb₀.originAotTb.slotIndex j]? = some a →
      tb.disInsns.addrs[tb.originAotTb.slotIndex j]? = some a ∨ tb.disInsns.Gone a

/-- The code has fewer than `2 ^ 30` instructions: its byte offsets fit in 32 bits. -/
def Edit.CodeFits (tb : TB ι) (_ : Edit) : Prop := tb.disInsns.nodes.length < 2 ^ 30

theorem SameSlots.slotValid {tb₀ tb : TB ι} (h : SameSlots tb₀ tb) (j : Fin 2) :
    tb.originAotTb.slotValid j = tb₀.originAotTb.slotValid j := by
  rw [AOTTB.slotValid, AOTTB.slotValid, h.resetOffsets]

theorem Tracks.refl {tb : TB ι} (h : RelsOk tb.rels tb.disInsns.nodes.length) : Tracks tb tb where
  fresh_le := le_rfl
  resetOffsets := rfl
  rels_ok := h
  rels := List.forall₂_same.mpr fun _ _ => ⟨id, fun hv => .inl ⟨hv, rfl⟩⟩
  slots := fun _ _ _ ha => .inl ha

/-! ### One change -/

/-- A relation along two lists, with the membership in the second at hand. -/
theorem forall₂_imp_of_mem {α β : Type} {R S : α → β → Prop} : ∀ {l₁ : List α} {l₂ : List β},
    List.Forall₂ R l₁ l₂ → (∀ a b, b ∈ l₂ → R a b → S a b) → List.Forall₂ S l₁ l₂
  | _, _, .nil, _ => .nil
  | _, _, .cons h hs, hi =>
    .cons (hi _ _ (by simp) h) (forall₂_imp_of_mem hs fun a b hb => hi a b (by simp [hb]))

section Change

variable {tb₀ tb : TB ι} {k : ℕ}

theorem Tracks.deleteAt (h : Tracks tb₀ tb) (hlen : tb.disInsns.nodes.length < 2 ^ 30)
    {n : ListNode LoongArchInsInfo} (hn : tb.disInsns.nodes[k]? = some n) :
    Tracks tb₀ (tb.deleteAt n (BitVec.ofNat 64 k)) := by
  have hk := (List.getElem?_eq_some_iff.mp hn).1
  have ha := LinkList.addrs_of_nodes hn
  have hoff := toNat_offset64 (hk.trans hlen)
  have hrels : (tb.deleteAt n (BitVec.ofNat 64 k)).rels = tb.rels.map (RelSlot.afterDelete k) :=
    h.rels_ok.relsApart.delete_eq hlen hoff
  refine ⟨⟨h.fresh_le, h.resetOffsets⟩, ?_, ?_, ?_⟩
  · rw [hrels, TB.disInsns_deleteAt, LinkList.nodes_remove ha, List.length_eraseIdx_of_lt hk]
    exact h.rels_ok.delete hk
  · rw [hrels, List.forall₂_map_right_iff, TB.disInsns_deleteAt]
    refine forall₂_imp_of_mem h.rels fun r₀ r hr ht => ⟨fun hv => ?_, fun hv => ?_⟩
    · rw [Bool.eq_false_iff, Ne, RelSlot.valid_afterDelete, ht.invalid hv]
      simp
    · rcases ht.valid hv with ⟨hv', hnodes⟩ | ⟨hv', a, ha', hgone⟩
      · by_cases hc : r.Covers k
        · refine .inr ⟨?_, n.addr, ?_, LinkList.gone_remove ha⟩
          · rw [Bool.eq_false_iff, Ne, RelSlot.valid_afterDelete]
            exact fun hv => hv.2 hc
          · rw [← hnodes]
            exact mem_slice_iff.mpr ⟨k, hc.1, hc.2, ha⟩
        · refine .inl ⟨RelSlot.valid_afterDelete.mpr ⟨hv', hc⟩, ?_⟩
          rw [← hnodes, RelSlot.nodes, RelSlot.nodes, RelSlot.count_afterDelete,
            RelSlot.first_afterDelete hv' (h.rels_ok.aligned r hr hv'), LinkList.addrs_remove ha]
          rw [RelSlot.Covers] at hc
          by_cases hlt : k < r.first
          · rw [shiftDel_of_lt hlt, slice_eraseIdx_of_lt _ _ hlt]
          · rw [shiftDel_of_le (by omega), slice_eraseIdx_of_le _ (by omega)]
      · refine .inr ⟨?_, a, ha', hgone.remove ha⟩
        rw [Bool.eq_false_iff, Ne, RelSlot.valid_afterDelete, hv']
        simp
  · intro j hj a ha₀
    rw [TB.disInsns_deleteAt, TB.originAotTb_deleteAt]
    rcases h.slots j hj a ha₀ with hat | hgone
    · by_cases hne : tb.originAotTb.slotIndex j = k
      · rw [hne, ha, Option.some.injEq] at hat
        exact .inr (hat ▸ LinkList.gone_remove ha)
      · refine .inl ?_
        rw [TB.slotIndex_shiftSlotsDelete hoff ((h.slotValid j).trans hj) hne,
          LinkList.addrs_remove ha, getElem?_eraseIdx_shift _ hne, hat]
    · exact .inr (hgone.remove ha)

theorem Tracks.insertInsn (h : Tracks tb₀ tb) (hlen : tb.disInsns.nodes.length < 2 ^ 30)
    {insn : LoongArchInsInfo} {tb' : TB ι} (hs : tb.InsertStep k insn tb') : Tracks tb₀ tb' := by
  obtain ⟨hk, hhit, rfl⟩ := hs
  have hoff := toNat_offset32 (hk.trans_lt hlen)
  have hno : ∀ r ∈ tb.rels, r.valid → ¬r.Covers k := by
    intro r hr hv hc
    have := List.any_eq_false.mp hhit r hr
    exact this ((h.rels_ok.relsApart.hit_iff hlen hoff hr).mpr ⟨hv, hc⟩)
  have hrels : (tb.insertInsn k insn (BitVec.ofNat 32 k)).rels =
      tb.rels.map (RelSlot.afterInsert k) := h.rels_ok.insert_eq hoff
  refine ⟨⟨h.fresh_le.trans (Nat.le_succ _), h.resetOffsets⟩, ?_, ?_, ?_⟩
  · rw [hrels, TB.disInsns_insertInsn, LinkList.nodes_insertAt, List.length_insertIdx_of_le_length hk]
    exact h.rels_ok.insert hlen hno
  · rw [hrels, List.forall₂_map_right_iff, TB.disInsns_insertInsn]
    refine forall₂_imp_of_mem h.rels fun r₀ r hr ht => ⟨fun hv => ?_, fun hv => ?_⟩
    · rw [RelSlot.valid_afterInsert]
      exact ht.invalid hv
    · rw [RelSlot.valid_afterInsert]
      rcases ht.valid hv with ⟨hv', hnodes⟩ | ⟨hv', a, ha', hgone⟩
      · refine .inl ⟨hv', ?_⟩
        have hin := h.rels_ok.inside r hr hv'
        have hne := h.rels_ok.nonempty r hr hv'
        have hc := hno r hr hv'
        rw [← hnodes, RelSlot.nodes, RelSlot.nodes, RelSlot.count_afterInsert,
          RelSlot.first_afterInsert hv' (h.rels_ok.aligned r hr hv') (by omega),
          LinkList.addrs_insertAt]
        rw [RelSlot.Covers] at hc
        by_cases hle : k ≤ r.first
        · rw [shiftIns_of_le hle, slice_insertIdx_of_le _ _ _ hle]
        · rw [shiftIns_of_lt (by omega), slice_insertIdx_of_ge _ _ (by omega)]
      · exact .inr ⟨hv', a, ha', hgone.insertAt⟩
  · intro j hj a ha₀
    rw [TB.disInsns_insertInsn, TB.originAotTb_insertInsn]
    rcases h.slots j hj a ha₀ with hat | hgone
    · have hlt := (List.getElem?_eq_some_iff.mp hat).1
      rw [LinkList.length_addrs] at hlt
      refine .inl ?_
      rw [TB.slotIndex_shiftSlotsAdd hoff ((h.slotValid j).trans hj) (by omega),
        LinkList.addrs_insertAt, getElem?_insertIdx_shift, hat]
    · exact .inr hgone.insertAt

theorem Tracks.deleteSteps {tb' : TB ι} (hs : Relation.ReflTransGen TB.DeleteStep tb tb')
    (h : Tracks tb₀ tb) (hlen : tb.disInsns.nodes.length < 2 ^ 30) :
    Tracks tb₀ tb' ∧ tb'.disInsns.nodes.length < 2 ^ 30 := by
  induction hs with
  | refl => exact ⟨h, hlen⟩
  | tail _ hs ih =>
    have hlen' := hs.length_le.trans_lt ih.2
    obtain ⟨k, n, hn, rfl⟩ := hs
    exact ⟨ih.1.deleteAt ih.2 hn, hlen'⟩

end Change

theorem Edit.tracks {tb₀ tb tb' : TB ι} {e : Edit} (h : Tracks tb₀ tb) (hlen : Edit.CodeFits tb e)
    (hs : Edit.MatchedStep tb e tb') : Tracks tb₀ tb' := by
  rcases hs.cases with ⟨k, insn, -, hs⟩ | ⟨-, hs⟩
  · exact h.insertInsn hlen hs
  · exact (Tracks.deleteSteps hs h hlen).1

/-! ### The result -/

/-- What a block keeps along a run of edits that started from `tb₀`. -/
structure KeepsPositions (tb₀ tb : TB ι) : Prop where
  /-- The valid relocations are in order, disjoint, aligned and inside the code. -/
  rels_ok : RelsOk tb.rels tb.disInsns.nodes.length
  /-- A relocation is still valid exactly when none of its instructions was deleted, and
  then it covers the same nodes in the same order. -/
  rels : List.Forall₂
    (fun r₀ r => (r.valid ↔ r₀.valid ∧ ∀ a ∈ r₀.nodes tb₀.disInsns, a ∈ tb.disInsns.addrs) ∧
      (r.valid → r.nodes tb.disInsns = r₀.nodes tb₀.disInsns)) tb₀.rels tb.rels
  /-- A slot denotes the same node as long as that is there. -/
  slots : ∀ j, tb.originAotTb.slotValid j = tb₀.originAotTb.slotValid j ∧
    (tb₀.originAotTb.slotValid j → ∀ a : ℕ,
      tb₀.disInsns.addrs[tb₀.originAotTb.slotIndex j]? = some a → a ∈ tb.disInsns.addrs →
        tb.disInsns.addrs[tb.originAotTb.slotIndex j]? = some a)
  /-- `delete_ith_insn` changes nothing when a valid relocation covers the index. -/
  refuses : tb.disInsns.nodes.length < 2 ^ 30 → ∀ r ∈ tb.rels, r.valid → ∀ i : BitVec 64,
    r.Covers i.toNat → ∀ p, tb.deleteIthInsn p i = .ok (p, tb)

theorem Tracks.keepsPositions {tb₀ tb : TB ι} (h : Tracks tb₀ tb) : KeepsPositions tb₀ tb where
  rels_ok := h.rels_ok
  rels := by
    refine h.rels.imp fun r₀ r ht => ?_
    by_cases hv : r₀.valid
    · rcases ht.valid hv with ⟨hv', hnodes⟩ | ⟨hv', a, ha, hgone⟩
      · refine ⟨⟨fun _ => ⟨hv, fun a ha => ?_⟩, fun _ => hv'⟩, fun _ => hnodes⟩
        rw [← hnodes] at ha
        obtain ⟨i, -, -, hi⟩ := mem_slice_iff.mp ha
        exact List.mem_of_getElem? hi
      · rw [hv']
        simp only [Bool.false_eq_true, hv, true_and, false_iff, false_implies, and_true]
        exact fun hall => hgone.2 (hall a ha)
    · have hv' := ht.invalid (by simpa using hv)
      simp [hv, hv']
  slots := fun j => ⟨h.slotValid j, fun hj a ha hm =>
    (h.slots j hj a ha).resolve_right fun hgone => hgone.2 hm⟩
  refuses := by
    intro hlen r hr hv i hc p
    have hin := h.rels_ok.inside r hr hv
    have hi : i.toNat < 2 ^ 30 := hc.2.trans_le hin |>.trans hlen
    have hoff := toNat_offset64 hi
    rw [BitVec.ofNat_toNat, BitVec.setWidth_eq] at hoff
    have hhit : tb.rels.any (·.hit (i <<< 2)) := List.any_eq_true.mpr
      ⟨r, hr, (h.rels_ok.relsApart.hit_iff hlen hoff hr).mpr ⟨hv, hc⟩⟩
    exact tb.deleteIthInsn_eq_ok.mpr (.inl ⟨hhit, rfl, rfl⟩)

/-- **Relocations and slots along edits.** From a block whose valid relocations are in
order, disjoint, aligned and inside the code, every run of edits made on fewer than `2 ^ 30`
instructions keeps, after every step, the relocations and slots on their instructions. -/
theorem relocations_along_edits (tb : TB ι) (es : List Edit)
    (h : RelsOk tb.rels tb.disInsns.nodes.length)
    (hlen : AllSteps Edit.MatchedStep Edit.CodeFits tb es) :
    AllStates Edit.MatchedStep (KeepsPositions tb) tb es :=
  (AllStates.of_steps (P := Tracks tb) (fun _ _ _ hP hC hs => Edit.tracks hP hC hs)
    (Tracks.refl h) hlen).mono fun _ ht => ht.keepsPositions

open DisassmbleVistor in
/-- A run that deletes the `b` behind the relocated `nop`. -/
theorem relocations_along_delete :
    let tb : TB ℕ := { nopThenB default with rels := [⟨⟨.LOAD_TB_ADDR, 0, 1, 0, 0⟩, true⟩] }
    AllStates Edit.MatchedStep (KeepsPositions tb) tb [.deleteIthInsn (.node 1) 1] := by
  intro tb
  have hlen : tb.disInsns.nodes.length = 2 := congrArg List.length (nodes_nopThenB default)
  refine relocations_along_edits tb _ ⟨?_, ?_, ?_, ?_⟩ fun _ _ => ⟨?_, trivial⟩
  · decide
  · decide
  · rw [hlen]; decide
  · exact List.pairwise_singleton _ _
  · rw [Edit.CodeFits, hlen]; decide

/-! ### The bound is needed -/

/-- A block of `len` instructions, the last of which has a relocation. -/
def lastRelocated (len : ℕ) : TB ℕ :=
  { (TB.new default .empty 0 : TB ℕ) with
    rels := [⟨⟨.LOAD_TB_ADDR, BitVec.ofNat 32 (4 * (len - 1)), 1, 0, 0⟩, true⟩]
    disInsns :=
      { nodes := (List.range len).map fun a => ⟨a, .zero⟩
        fresh := len
        nodup := by
          rw [List.map_map]
          exact (List.map_id _).symm ▸ List.nodup_range
        lt_fresh := by simp } }

/-- In a code of `2 ^ 30` instructions the end of the last relocation is `0` in 32 bits, and
it stays valid when its instruction is deleted. -/
theorem lastRelocated_not_kept {len : ℕ} (h30 : len = 2 ^ 30) :
    RelsOk (lastRelocated len).rels (lastRelocated len).disInsns.nodes.length ∧
      ¬AllStates Edit.MatchedStep (KeepsPositions (lastRelocated len)) (lastRelocated len)
        [.deleteIthInsnAlongwithRel (.node (len - 1)) (BitVec.ofNat 64 (len - 1))] := by
  set tb := lastRelocated len with htb
  set r : RelSlot := ⟨⟨.LOAD_TB_ADDR, BitVec.ofNat 32 (4 * (len - 1)), 1, 0, 0⟩, true⟩ with hr
  have hrels : tb.rels = [r] := rfl
  have hlen : tb.disInsns.nodes.length = len := by simp [htb, lastRelocated]
  have hnode : tb.disInsns.nodes[len - 1]? = some ⟨len - 1, .zero⟩ := by
    have h1 : len - 1 < len := by omega
    simp [htb, lastRelocated, h1]
  have htc : r.rel.tcOffset.toNat = 4 * (len - 1) := by
    rw [hr]
    simp only [BitVec.toNat_ofNat]
    omega
  have hfirst : r.first = len - 1 := by rw [RelSlot.first, htc]; omega
  have hcount : r.count = 1 := rfl
  refine ⟨⟨?_, ?_, ?_, ?_⟩, fun h => ?_⟩
  · intro r' hr' _
    rw [hrels, List.mem_singleton] at hr'
    rw [hr', htc]; omega
  · intro r' hr' _
    rw [hrels, List.mem_singleton] at hr'
    rw [hr', hcount]
  · intro r' hr' _
    rw [hrels, List.mem_singleton] at hr'
    rw [hr', hlen, hfirst, hcount]; omega
  · exact List.pairwise_singleton _ _
  have hmiss : r.hit (BitVec.ofNat 64 (len - 1) <<< 2) = false := by
    subst h30
    decide
  have hi : (BitVec.ofNat 64 (len - 1)).toNat = len - 1 := by
    rw [BitVec.toNat_ofNat]; omega
  have hs : Edit.MatchedStep tb
      (.deleteIthInsnAlongwithRel (.node (len - 1)) (BitVec.ofNat 64 (len - 1)))
      (tb.deleteAt ⟨len - 1, .zero⟩ (BitVec.ofNat 64 (len - 1))) :=
    ⟨⟨_, rfl, by rw [hi]; exact hnode⟩,
      map_eq_ok.mpr ⟨_, tb.deleteIthInsnAlongwithRel_eq_ok.mpr ⟨_, _, hnode, rfl, rfl, rfl⟩, rfl⟩⟩
  have hkept := (h.2 _ hs).rels
  rw [TB.rels_deleteAt, hrels, TB.dropRel, hmiss] at hkept
  simp only [Bool.false_eq_true, if_false, TB.dropRel, TB.shiftRelsDelete, List.map_cons,
    List.map_nil, List.forall₂_cons] at hkept
  have hvalid := hkept.1.1.mp (by split <;> rfl)
  have hmem := hvalid.2 (len - 1) (mem_slice_iff.mpr ⟨len - 1, by omega, by omega,
    LinkList.addrs_of_nodes hnode⟩)
  exact (LinkList.gone_remove (LinkList.addrs_of_nodes hnode)).2 hmem

/-- **At `2 ^ 30` instructions** a relocation outlives its instruction. -/
theorem relocation_outlives_its_instruction :
    ∃ (tb : TB ℕ) (es : List Edit), RelsOk tb.rels tb.disInsns.nodes.length ∧
      ¬AllStates Edit.MatchedStep (KeepsPositions tb) tb es :=
  ⟨lastRelocated (2 ^ 30), _, lastRelocated_not_kept rfl⟩

end AotOpt
