import AotOpt.AotClass.RelView
import AotOpt.Vistor.RemoveTail

/-!
# What `RemoveTailVistor` removes

For each slot that is valid and linked the pass removes the instructions behind its branch: up to
the branch of slot 1 for slot 0 if slot 1 is valid, to the end otherwise. Each single deletion moves
the branch tables, the relocations and the slots, and the second tail is measured by slots that the
first one has moved.

* `Cuts` — what it is to remove some instructions and nothing else.
* `cuts_deleteRun` — a run of deletions that meets no branch of a slot cuts what it deletes.
* `removeTail_exact` — a visit cuts the tails of the linked slots.
-/

namespace AotOpt.RemoveTailVistor

open Lib

variable {ι : Type}

/-! ### What is to be removed -/

/-- Where the instructions end that belong to the branch of a slot. -/
def tailEnd (tb : TB ι) (which : Fin 2) : ℕ :=
  if which = 0 && tb.originAotTb.slotValid 1 then tb.originAotTb.slotIndex 1
  else tb.disInsns.nodes.length

/-- The nodes strictly behind the branch of a slot, up to there. -/
def tail (tb : TB ι) (which : Fin 2) : List ℕ :=
  (tb.disInsns.addrs.take (tailEnd tb which)).drop (tb.originAotTb.slotIndex which + 1)

/-- The slot is valid and linked. -/
def linked (tb : TB ι) (which : Fin 2) : Bool :=
  tb.originAotTb.slotValid which && (tb.branch (which = 1)).isSome

/-- The tails of the linked slots. -/
def tails (tb : TB ι) : List ℕ :=
  (if linked tb 0 then tail tb 0 else []) ++ if linked tb 1 then tail tb 1 else []

/-- What the pass relies on: slots, branch tables and relocations. -/
structure Sound (tb : TB ι) : Prop where
  slots : SlotsInOrder tb
  tables : tb.Exact
  rels : RelsApart tb.rels tb.disInsns.nodes.length

/-- From `tb` to `tb'` the nodes `gone` are removed, with the relocations that cover one of them,
and nothing else. -/
structure Cuts (tb tb' : TB ι) (gone : List ℕ) : Prop where
  nodes_eq : tb'.disInsns.nodes = tb.disInsns.nodes.filter fun n => n.addr ∉ gone
  relView_eq : tb'.relView = tb.relView.filter fun v => ∀ n ∈ v.2, n.addr ∉ gone
  valid : ∀ j, tb'.originAotTb.slotValid j = tb.originAotTb.slotValid j
  /-- A valid slot denotes the same branch. -/
  slot : ∀ j, tb.originAotTb.slotValid j → ∃ n : ListNode LoongArchInsInfo, n.data.opc = .OPC_B ∧
    tb.disInsns.nodes[tb.originAotTb.slotIndex j]? = some n ∧
    tb'.disInsns.nodes[tb'.originAotTb.slotIndex j]? = some n
  link : ∀ b, tb'.branch b = tb.branch b
  tables : tb'.Exact
  slots : SlotsInOrder tb'
  fit : tb'.RelsFit

section Cuts

variable {tb tb' tb'' : TB ι} {gone gone' : List ℕ} {q : ℕ} {n : ListNode LoongArchInsInfo}

theorem Cuts.refl (hslots : SlotsInOrder tb) (htables : tb.Exact) (hfit : tb.RelsFit) :
    Cuts tb tb [] where
  nodes_eq := by simp
  relView_eq := by simp
  valid _ := rfl
  slot j hj := by
    obtain ⟨n, hn, hopc⟩ := TB.opcAt_eq_some.mp (hslots.slot j hj)
    exact ⟨n, hopc, hn, hn⟩
  link _ := rfl
  tables := htables
  slots := hslots
  fit := hfit

theorem Cuts.trans (h : Cuts tb tb' gone) (h' : Cuts tb' tb'' gone') : Cuts tb tb'' (gone ++ gone') where
  nodes_eq := by
    rw [h'.nodes_eq, h.nodes_eq, List.filter_filter]
    refine List.filter_congr fun n _ => ?_
    simp [not_or, Bool.and_comm]
  relView_eq := by
    rw [h'.relView_eq, h.relView_eq, List.filter_filter]
    refine List.filter_congr fun v _ => ?_
    rw [Bool.eq_iff_iff, Bool.and_eq_true, decide_eq_true_eq, decide_eq_true_eq, decide_eq_true_eq,
      ← forall₂_and]
    refine forall₂_congr fun n _ => ?_
    rw [List.mem_append, not_or, and_comm]
  valid j := (h'.valid j).trans (h.valid j)
  slot j hj := by
    obtain ⟨n, hopc, hn, hn'⟩ := h.slot j hj
    obtain ⟨m, -, hm, hm'⟩ := h'.slot j ((h.valid j).trans hj)
    obtain rfl := Option.some.inj (hn'.symm.trans hm)
    exact ⟨n, hopc, hn, hm'⟩
  link b := (h'.link b).trans (h.link b)
  tables := h'.tables
  slots := h'.slots
  fit := h'.fit

/-- Slots along a deletion. -/
theorem SlotsInOrder.removed (h : SlotsInOrder tb) (hr : TB.Removed tb tb' q) : SlotsInOrder tb' where
  length_lt := hr.length_le.trans_lt h.length_lt
  slot j hj := by
    rw [hr.valid] at hj
    rw [hr.index j hj, hr.opcAt (hr.ne j hj)]
    exact h.slot j hj
  slots_lt h0 h1 := by
    rw [hr.valid] at h0 h1
    have hlt := h.slots_lt h0 h1
    have hne := hr.ne 0 h0
    have hne' := hr.ne 1 h1
    rw [hr.index 0 h0, hr.index 1 h1, shiftDel, shiftDel]
    split_ifs <;> omega

/-- The links stay. -/
theorem branch_deleteAt (tb : TB ι) (n : ListNode LoongArchInsInfo) (i : BitVec 64) (b : Bool) :
    (tb.deleteAt n i).branch b = tb.branch b := by
  unfold TB.branch TB.deleteAt TB.removeInsn TB.deleteBInsn
  split_ifs <;> rfl

/-- **A deletion** at its own index, behind the first instruction, of no slot's branch. -/
theorem cuts_deleteAt (hslots : SlotsInOrder tb) (htables : tb.Exact) (hfit : tb.RelsFit) (hq : 0 < q)
    (hn : tb.disInsns.nodes[q]? = some n)
    (hne : ∀ j, tb.originAotTb.slotValid j → tb.originAotTb.slotIndex j ≠ q) :
    Cuts tb (tb.deleteAt n (BitVec.ofNat 64 q)) [n.addr] := by
  have hlt := (List.getElem?_eq_some_iff.mp hn).1
  have hlen := hslots.length_lt
  have hi : (BitVec.ofNat 64 q).toNat = q := by
    rw [BitVec.toNat_ofNat, Nat.mod_eq_of_lt (by omega)]
  have hoff : (BitVec.ofNat 64 q <<< 2).toNat = 4 * q := toNat_offset64 (by omega)
  have hr : TB.Removed tb (tb.deleteAt n (BitVec.ofNat 64 q)) q := by
    refine TB.removed_deleteAt hn (by omega) fun j hj => ?_
    have := hne j hj
    omega
  refine ⟨?_, ?_, hr.valid, fun j hj => ?_, branch_deleteAt tb n _, TB.exact_deleteAt htables (by omega) hn,
    hslots.removed hr, hfit.deleteAt hq hn hoff⟩
  · rw [hr.nodes]
    exact eraseIdx_eq_filter tb.disInsns.nodup hn
  · rw [TB.relView_deleteAt hfit hq hn hoff]
    refine List.filter_congr fun v _ => ?_
    rw [Bool.eq_iff_iff, decide_eq_true_eq, decide_eq_true_eq, List.mem_map, not_exists]
    refine forall_congr' fun m => ?_
    rw [List.mem_singleton, not_and]
  · obtain ⟨m, hm, hopc⟩ := TB.opcAt_eq_some.mp (hslots.slot j hj)
    refine ⟨m, hopc, hm, ?_⟩
    rw [hr.index j hj, hr.nodes, getElem?_eraseIdx_shift _ (hne j hj), hm]

/-- The addresses behind a deletion. -/
theorem addrs_deleteAt (hn : tb.disInsns.nodes[q]? = some n) (i : BitVec 64) :
    (tb.deleteAt n i).disInsns.addrs = tb.disInsns.addrs.eraseIdx q := by
  rw [TB.disInsns_deleteAt, LinkList.addrs, LinkList.nodes_remove (LinkList.addrs_of_nodes hn),
    LinkList.addrs, List.eraseIdx_map]

/-- **A run of deletions** that meets no slot's branch. -/
theorem cuts_deleteRun (hq : 0 < q) : ∀ (count : ℕ) {tb : TB ι}, SlotsInOrder tb → tb.Exact →
    tb.RelsFit → q + count ≤ tb.disInsns.nodes.length →
    (∀ j, tb.originAotTb.slotValid j →
      tb.originAotTb.slotIndex j < q ∨ q + count ≤ tb.originAotTb.slotIndex j) →
    ∃ p tb', tb.deleteRun (.first (tb.disInsns.nodes.drop q)) (BitVec.ofNat 64 q) count = .ok (p, tb') ∧
      Cuts tb tb' (slice tb.disInsns.addrs q count)
  | 0, tb, hslots, htables, hfit, _, _ => by
    refine ⟨_, tb, rfl, ?_⟩
    rw [slice, List.take_zero]
    exact .refl hslots htables hfit
  | count + 1, tb, hslots, htables, hfit, hlt, hapart => by
    have hlen := hslots.length_lt
    have hn : tb.disInsns.nodes[q]? = some tb.disInsns.nodes[q] := List.getElem?_eq_getElem (by omega)
    generalize tb.disInsns.nodes[q] = n at hn
    have hne : ∀ j, tb.originAotTb.slotValid j → tb.originAotTb.slotIndex j ≠ q := by
      intro j hj
      rcases hapart j hj with h | h <;> omega
    have hone := cuts_deleteAt hslots htables hfit hq hn hne
    have hlt' : q + count ≤ (tb.deleteAt n (BitVec.ofNat 64 q)).disInsns.nodes.length := by
      rw [TB.disInsns_deleteAt, LinkList.nodes_remove (LinkList.addrs_of_nodes hn),
        List.length_eraseIdx_of_lt (by omega)]
      omega
    have hapart' : ∀ j, (tb.deleteAt n (BitVec.ofNat 64 q)).originAotTb.slotValid j →
        (tb.deleteAt n (BitVec.ofNat 64 q)).originAotTb.slotIndex j < q ∨
          q + count ≤ (tb.deleteAt n (BitVec.ofNat 64 q)).originAotTb.slotIndex j := by
      intro j hj
      rw [hone.valid] at hj
      have hoff : (BitVec.ofNat 64 q <<< 2).toNat = 4 * q := toNat_offset64 (by omega)
      rw [TB.originAotTb_deleteAt, TB.slotIndex_shiftSlotsDelete hoff hj (hne j hj), shiftDel]
      have := hapart j hj
      split_ifs <;> omega
    obtain ⟨p, tb', hrun, hcuts⟩ :=
      cuts_deleteRun hq count hone.slots hone.tables hone.fit hlt' hapart'
    refine ⟨p, tb', tb.deleteRun_eq_ok.mpr ⟨n, hn, hrun⟩, ?_⟩
    rw [slice_succ (LinkList.addrs_of_nodes hn), ← addrs_deleteAt hn]
    exact hone.trans hcuts

end Cuts

/-! ### A tail -/

section Tail

variable {tb tb' : TB ι} {which : Fin 2}

theorem tail_eq_slice : tail tb which =
    slice tb.disInsns.addrs (tb.originAotTb.slotIndex which + 1) (tailLength tb which) := by
  rw [tail, slice, List.drop_take, tailEnd, tailLength, Nat.sub_sub]

/-- **`remove_tail_of`** cuts the tail of a linked slot. -/
theorem cuts_removeTailOf (hslots : SlotsInOrder tb) (htables : tb.Exact) (hfit : tb.RelsFit)
    (hlinked : linked tb which = true) :
    ∃ tb', removeTailOf tb which = .ok tb' ∧ Cuts tb tb' (tail tb which) := by
  rw [linked, Bool.and_eq_true] at hlinked
  obtain ⟨hv, hlink⟩ := hlinked
  have hapart : ∀ j, tb.originAotTb.slotValid j →
      tb.originAotTb.slotIndex j < tb.originAotTb.slotIndex which + 1 ∨
        tb.originAotTb.slotIndex which + 1 + tailLength tb which ≤ tb.originAotTb.slotIndex j := by
    intro j hj
    rcases Fin.exists_fin_two.mp ⟨which, rfl⟩ with rfl | rfl
    · rcases Fin.exists_fin_two.mp ⟨j, rfl⟩ with rfl | rfl
      · exact .inl (Nat.lt_succ_self _)
      · have := hslots.slots_lt hv hj
        rw [tailLength, hj, decide_eq_true rfl, Bool.and_self, if_pos rfl]
        omega
    · rcases Fin.exists_fin_two.mp ⟨j, rfl⟩ with rfl | rfl
      · have := hslots.slots_lt hj hv
        omega
      · exact .inl (Nat.lt_succ_self _)
  obtain ⟨p, tb', hrun, hcuts⟩ := cuts_deleteRun (Nat.succ_pos (tb.originAotTb.slotIndex which))
    (tailLength tb which) hslots htables hfit (tail_le hslots hv) hapart
  rw [removeTailOf_eq hslots hv, if_pos hlink, hrun, ok_bind, tail_eq_slice]
  exact ⟨tb', rfl, hcuts⟩

/-! ### A visit -/

theorem linked_zero : linked tb 0 = (tb.originAotTb.slotValid 0 && tb.falseBranch.isSome) := rfl

theorem linked_one : linked tb 1 = (tb.originAotTb.slotValid 1 && tb.trueBranch.isSome) := rfl

/-- What `visit` asks is which slots are linked. -/
theorem visit_eq (tb : TB ι) : visit tb =
    if linked tb 0 && linked tb 1 then removeTailOf tb 0 >>= fun tb' => removeTailOf tb' 1
    else if linked tb 0 then removeTailOf tb 0
    else if linked tb 1 then removeTailOf tb 1
    else .ok tb := by
  have hboth : (tb.originAotTb.slotValid 0 && tb.originAotTb.slotValid 1 && tb.trueBranch.isSome
      && tb.falseBranch.isSome) = (linked tb 0 && linked tb 1) := by
    rw [linked_zero, linked_one]
    ac_rfl
  rw [visit, hboth, ← linked_zero, ← linked_one]

/-- The tail of slot 0 ends at the branch of slot 1, so that cutting it leaves the tail of slot 1. -/
theorem tail_one_of_cuts (hv : tb.originAotTb.slotValid 1)
    (h : Cuts tb tb' (tail tb 0)) : tail tb' 1 = tail tb 1 := by
  have htail : ∀ t : TB ι, tail t 1 = t.disInsns.addrs.drop (t.originAotTb.slotIndex 1 + 1) := by
    intro t
    have hlen : t.disInsns.addrs.length = t.disInsns.nodes.length := List.length_map _
    rw [tail, tailEnd, if_neg (by simp), ← hlen, List.take_length]
  have haddrs : tb'.disInsns.addrs = tb.disInsns.addrs.filter fun a => a ∉ tail tb 0 := by
    rw [LinkList.addrs, h.nodes_eq, LinkList.addrs, List.filter_map]
    rfl
  obtain ⟨n, -, hn, hn'⟩ := h.slot 1 hv
  have hn' := LinkList.addrs_of_nodes hn'
  rw [htail, htail, haddrs] at *
  refine drop_filter tb.disInsns.nodup_addrs (LinkList.addrs_of_nodes hn) hn' fun a ha => ?_
  rw [decide_eq_true_eq, tail, tailEnd, hv, Bool.and_true, if_pos (decide_eq_true rfl)]
  intro hmem
  have hfront := List.mem_of_mem_drop hmem
  obtain ⟨i, hi⟩ := List.mem_iff_getElem?.mp hfront
  obtain ⟨j, hj⟩ := List.mem_iff_getElem?.mp ha
  rw [List.getElem?_take] at hi
  rw [List.getElem?_drop] at hj
  split_ifs at hi with hlt
  have := pos_unique tb.disInsns.nodup_addrs hi hj
  omega

/-- **A visit** cuts the tails of the linked slots. -/
theorem cuts_visit (hslots : SlotsInOrder tb) (htables : tb.Exact) (hfit : tb.RelsFit) :
    ∃ tb', visit tb = .ok tb' ∧ Cuts tb tb' (tails tb) := by
  rw [visit_eq, tails]
  by_cases h0 : linked tb 0 = true
  · obtain ⟨tb₁, hok, hcuts⟩ := cuts_removeTailOf hslots htables hfit h0
    by_cases h1 : linked tb 1 = true
    · have hlinked : linked tb₁ 1 = true := by
        rw [linked, hcuts.valid, hcuts.link]
        exact h1
      obtain ⟨tb₂, hok', hcuts'⟩ := cuts_removeTailOf hcuts.slots hcuts.tables hcuts.fit hlinked
      rw [tail_one_of_cuts (Bool.and_eq_true_iff.mp h1).1 hcuts] at hcuts'
      rw [h0, h1, Bool.and_self, if_pos rfl, if_pos rfl, if_pos rfl, hok, ok_bind]
      exact ⟨tb₂, hok', hcuts.trans hcuts'⟩
    · rw [h0, Bool.true_and, if_neg h1, if_pos rfl, if_pos rfl, if_neg h1, List.append_nil]
      exact ⟨tb₁, hok, hcuts⟩
  · rw [Bool.not_eq_true] at h0
    rw [h0, Bool.false_and, if_neg Bool.false_ne_true, if_neg Bool.false_ne_true,
      if_neg Bool.false_ne_true, List.nil_append]
    split_ifs with h1
    · exact cuts_removeTailOf hslots htables hfit h1
    · exact ⟨tb, rfl, .refl hslots htables hfit⟩

/-- **The pass removes exactly** the instructions strictly behind the branch of each linked slot, up
to the branch of slot 1 or the end. The other instructions keep their order, the slots denote the
same branches, the tables stay exact, and the relocations that cover nothing of it stay, on the same
nodes. -/
theorem removeTail_exact (tb : TB ι) (h : Sound tb) : ∃ tb', visit tb = .ok tb' ∧
    tb'.disInsns.nodes = tb.disInsns.nodes.filter (fun n => n.addr ∉ tails tb) ∧
    (∀ j, tb'.originAotTb.slotValid j = tb.originAotTb.slotValid j ∧ (tb.originAotTb.slotValid j →
      ∃ n : ListNode LoongArchInsInfo, n.data.opc = .OPC_B ∧
        tb.disInsns.nodes[tb.originAotTb.slotIndex j]? = some n ∧
        tb'.disInsns.nodes[tb'.originAotTb.slotIndex j]? = some n)) ∧
    tb'.Exact ∧ tb'.relView = tb.relView.filter fun v => ∀ n ∈ v.2, n.addr ∉ tails tb := by
  have hfit : tb.RelsFit := ⟨h.rels.relsDisjoint, h.slots.length_lt⟩
  obtain ⟨tb', hok, hcuts⟩ := cuts_visit h.slots h.tables hfit
  exact ⟨tb', hok, hcuts.nodes_eq, fun j => ⟨hcuts.valid j, hcuts.slot j⟩, hcuts.tables,
    hcuts.relView_eq⟩

end Tail

/-- `b`, `addi.d $a0, $a0, 0`, `b`, `addi.d $a0, $a0, 0`. -/
def twoTailsWords : List (BitVec 32) := [0x50000000, 0x02c00084, 0x50000000, 0x02c00084]

/-- A block of these, its slots at the branches. -/
def blankTails : TB ℕ :=
  .new { (default : AOTTB) with jmpTargetArg := fun j => if j = 0 then 0 else 8 }
    ⟨16, twoTailsWords, show 4 = _ from rfl⟩ 0

/-- The disassembled block, both slots linked, with a relocation for the first tail and one for the
second branch. -/
def twoTails : TB ℕ :=
  { DisassmbleVistor.startTB blankTails with
    trueBranch := some 1
    falseBranch := some 0
    rels := [⟨⟨.LOAD_CALL_TARGET, 4, 1, 0, 0⟩, true⟩, ⟨⟨.B_EPILOGUE, 8, 1, 0, 0⟩, true⟩] }

theorem sound_twoTails : Sound twoTails where
  slots := ⟨by decide, by decide, by decide⟩
  tables := by
    intro κ
    have h := DisassmbleVistor.inOrder_startTB (show blankTails.Blank from TB.blank_new _ _ _)
    cases κ <;> exact h.exact _
  rels := ⟨by decide, by decide, by decide, by decide⟩

theorem removeTail_exact_twoTails : ∃ tb', visit twoTails = .ok tb' ∧
    tb'.disInsns.nodes = twoTails.disInsns.nodes.filter (fun n => n.addr ∉ tails twoTails) ∧
    (∀ j, tb'.originAotTb.slotValid j = twoTails.originAotTb.slotValid j ∧
      (twoTails.originAotTb.slotValid j → ∃ n : ListNode LoongArchInsInfo, n.data.opc = .OPC_B ∧
        twoTails.disInsns.nodes[twoTails.originAotTb.slotIndex j]? = some n ∧
        tb'.disInsns.nodes[tb'.originAotTb.slotIndex j]? = some n)) ∧
    tb'.Exact ∧ tb'.relView = twoTails.relView.filter fun v => ∀ n ∈ v.2, n.addr ∉ tails twoTails :=
  removeTail_exact twoTails sound_twoTails

/-- Both tails go. -/
example : tails twoTails = [1, 3] := by decide

/-! ### The bound is needed -/

/-- A block of `len` instructions: behind the branch of slot 0, which is linked, is one that has a
relocation. -/
def tailRelocated (len : ℕ) : TB ℕ :=
  { (TB.new { (default : AOTTB) with
        jmpResetOffsets := fun j => if j = 0 then 0 else TB_JMP_RESET_OFFSET_INVALID
        jmpTargetArg := fun _ => BitVec.ofNat 64 (4 * (len - 2)) } .empty 0 : TB ℕ) with
    rels := (lastRelocated len).rels
    bInsns := [⟨len - 2, BitVec.ofNat 32 (len - 2)⟩]
    disInsns := (lastRelocated len).disInsns.update (len - 2) fun insn => { insn with opc := .OPC_B }
    falseBranch := some 0 }

section TailRelocated

variable {m len : ℕ}

theorem nodes_tailRelocated (m : ℕ) : (tailRelocated (m + 2)).disInsns.nodes =
    ((List.range m).map (fun a => ⟨a, .zero⟩) ++
      [⟨m, { LoongArchInsInfo.zero with opc := .OPC_B }⟩]) ++ [⟨m + 1, .zero⟩] := by
  show ((lastRelocated (m + 2)).disInsns.update _ _).nodes = _
  rw [LinkList.nodes_update, Nat.add_sub_cancel]
  show ((List.range (m + 2)).map _).map _ = _
  rw [List.map_map, List.range_succ, List.range_succ, List.map_append, List.map_append,
    List.map_singleton, List.map_singleton]
  congr 1
  · congr 1
    · refine List.map_congr_left fun a ha => ?_
      have := List.mem_range.mp ha
      simp only [Function.comp]
      rw [if_neg (by omega)]
    · simp
  · simp

theorem length_tailRelocated (len : ℕ) : (tailRelocated len).disInsns.nodes.length = len := by
  show ((lastRelocated len).disInsns.update _ _).nodes.length = _
  rw [LinkList.length_update]
  exact (List.length_map _).trans List.length_range

theorem exact_tailRelocated (m : ℕ) : (tailRelocated (m + 2)).Exact := by
  intro κ
  have hnone : κ.positions ((List.range m).map fun a => ⟨a, .zero⟩) = [] := by
    rw [List.eq_nil_iff_forall_not_mem]
    rintro ⟨n, k⟩ hm
    obtain ⟨hn, hκ⟩ := mem_positions.mp hm
    obtain ⟨a, -, rfl⟩ := List.mem_map.mp (List.mem_of_getElem? hn)
    cases κ <;> cases hκ
  rw [TableExact, nodes_tailRelocated, entries_append, entries_append, hnone, List.length_map,
    List.length_range]
  cases κ <;> exact List.Perm.refl _

/-- In a code of `2 ^ 30` instructions the end of the last relocation is `0` in 32 bits, and it
stays valid when its instruction is removed. -/
theorem rels_tailRelocated (h30 : len = 2 ^ 30) {tb : TB ℕ} (hok : visit (tailRelocated len) = .ok tb) :
    tb.rels = (tailRelocated len).rels := by
  have hvisit : visit (tailRelocated len) = removeTailOf (tailRelocated len) 0 := rfl
  rw [hvisit, removeTailOf] at hok
  obtain ⟨insn, -, hok⟩ := bind_eq_ok.mp hok
  obtain ⟨-, -, hok⟩ := bind_eq_ok.mp hok
  have hlink : ((tailRelocated len).branch (decide ((0 : Fin 2) = 1))).isSome = true := rfl
  have hnot : ¬(decide ((0 : Fin 2) = 0) && (tailRelocated len).originAotTb.slotValid 1) = true :=
    Bool.false_ne_true
  rw [if_pos hlink, if_neg hnot, LinkList.totalSize, length_tailRelocated] at hok
  obtain ⟨⟨p, tb₁⟩, hrun, hok⟩ := bind_eq_ok.mp hok
  obtain rfl : tb₁ = tb := Except.ok.inj hok
  have hcount : ((BitVec.ofNat 64 len).setWidth 32 -
      ((tailRelocated len).originAotTb.jmpTargetArg 0 >>> 2).setWidth 32 - 1 : BitVec 32).toInt.toNat =
        1 := by
    subst h30
    decide
  rw [hcount] at hrun
  obtain ⟨⟨next, tb₂⟩, hdelete, hrest⟩ := bind_eq_ok.mp hrun
  obtain ⟨k, n, -, -, -, rfl⟩ := ((tailRelocated len).deleteIthInsnAlongwithRel_eq_ok).mp hdelete
  obtain rfl : _ = tb₁ := congrArg Prod.snd (Except.ok.inj hrest)
  rw [TB.rels_deleteAt]
  subst h30
  decide

theorem mem_tails_tailRelocated (hindex : (tailRelocated (m + 2)).originAotTb.slotIndex 0 = m) :
    m + 1 ∈ tails (tailRelocated (m + 2)) := by
  have hlinked : linked (tailRelocated (m + 2)) 0 = true := rfl
  have hend : tailEnd (tailRelocated (m + 2)) 0 = (tailRelocated (m + 2)).disInsns.nodes.length := rfl
  have haddrs : (tailRelocated (m + 2)).disInsns.addrs = List.range (m + 2) := by
    show ((lastRelocated (m + 2)).disInsns.update _ _).addrs = _
    rw [LinkList.addrs_update]
    exact (List.map_map ..).trans (List.map_id _)
  rw [tails, if_pos hlinked, tail, hend, hindex, haddrs, length_tailRelocated]
  refine List.mem_append_left _ (List.mem_iff_getElem?.mpr ⟨0, ?_⟩)
  simp

end TailRelocated

/-- **At `2 ^ 30` instructions** a relocation of the tail stays. -/
theorem removeTail_leaves_relocation : ∃ tb : TB ℕ,
    (∀ j, tb.originAotTb.slotValid j → tb.opcAt (tb.originAotTb.slotIndex j) = some .OPC_B) ∧
    (tb.originAotTb.slotValid 0 → tb.originAotTb.slotValid 1 →
      tb.originAotTb.slotIndex 0 < tb.originAotTb.slotIndex 1) ∧
    tb.Exact ∧ RelsApart tb.rels tb.disInsns.nodes.length ∧
    ¬∃ tb', visit tb = .ok tb' ∧
      tb'.relView = tb.relView.filter fun v => ∀ n ∈ v.2, n.addr ∉ tails tb := by
  obtain ⟨m, h30⟩ : ∃ m, m + 2 = 2 ^ 30 := ⟨2 ^ 30 - 2, by omega⟩
  have hnodes := nodes_tailRelocated m
  have hlast : (tailRelocated (m + 2)).disInsns.nodes[m + 1]? = some ⟨m + 1, .zero⟩ := by
    rw [hnodes, List.getElem?_append_right (by simp)]
    simp
  have hindex : (tailRelocated (m + 2)).originAotTb.slotIndex 0 = m := by
    have hm : m = 2 ^ 30 - 2 := by omega
    subst hm
    decide
  refine ⟨tailRelocated (m + 2), fun j hj => ?_, fun _ h1 => absurd h1 Bool.false_ne_true,
    exact_tailRelocated m, ?_, ?_⟩
  · rcases Fin.exists_fin_two.mp ⟨j, rfl⟩ with rfl | rfl
    · rw [hindex, TB.opcAt, hnodes, List.append_assoc, List.getElem?_append_right (by simp)]
      simp
    · cases hj
  · have hrels : (tailRelocated (m + 2)).rels = (lastRelocated (m + 2)).rels := rfl
    rw [length_tailRelocated, hrels, h30]
    exact ⟨by decide, by decide, by decide, List.pairwise_singleton _ _⟩
  · rintro ⟨tb', hok, hview⟩
    obtain ⟨r, hr⟩ : ∃ r, (tailRelocated (m + 2)).rels = [r] := ⟨_, rfl⟩
    have hvalid : r.valid = true := by rw [← (List.cons.inj hr).1]
    -- the relocation is still there
    have hnew : tb'.relView = [r.view tb'.disInsns.nodes] := by
      rw [TB.relView, rels_tailRelocated h30 hok, hr, List.filter_cons_of_pos hvalid]
      rfl
    have hold : (tailRelocated (m + 2)).relView = [r.view (tailRelocated (m + 2)).disInsns.nodes] := by
      rw [TB.relView, hr, List.filter_cons_of_pos hvalid]
      rfl
    -- but it covers the tail
    have hcovers : ⟨m + 1, .zero⟩ ∈ (r.view (tailRelocated (m + 2)).disInsns.nodes).2 := by
      have hstart : r.start = m + 1 := by
        rw [← (List.cons.inj hr).1]
        have hm : m = 2 ^ 30 - 2 := by omega
        subst hm
        decide
      have hcount : r.count = 1 := by rw [← (List.cons.inj hr).1]; rfl
      exact mem_slice_iff.mpr ⟨m + 1, hstart.le, by omega, hlast⟩
    have hgone : ¬∀ n ∈ (r.view (tailRelocated (m + 2)).disInsns.nodes).2,
        n.addr ∉ tails (tailRelocated (m + 2)) := fun h => h _ hcovers (mem_tails_tailRelocated hindex)
    rw [hnew, hold, List.filter_cons_of_neg (by rwa [decide_eq_true_eq])] at hview
    exact List.cons_ne_nil _ _ hview

end AotOpt.RemoveTailVistor
