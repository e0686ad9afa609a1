import AotOpt.AotClass.AOTFile
import AotOpt.AotClass.Guarded
import Mathlib.Data.List.MinMax

/-!
# Fixing the branches

`FixBranchVistor::visit`: the `bne` of a block with two slots is set to go to the branch of
its true slot, and the branch of a slot that is not linked to go to the next relocation of
kind `LOAD_TB_ADDR`. No other branch is written.

* `visit_changes` — only the branches that are retargeted are written, and of these only
  `offs`.
* `visit_ok` — the pass does not stop on a block that has the branches it looks up.
* `branchesFixed_visit_iff` — afterwards the branches of the slots without a successor go to the
  closest relocation, if and only if the other slot had one or they did so before.
-/

namespace AotOpt

variable {ι : Type}

namespace FixBranchVistor

/-- `find_closest_LOAD_TB_ADDR_rel_entry`: the first of the valid relocations of the kind
behind the offset with the least offset. -/
def findClosestLoadTbAddrRelEntry (tb : TB ι) (branchInsnOffset : BitVec 32) : Option AOTRel :=
  tb.rels.foldl (fun closest r =>
    if r.rel.kind = .LOAD_TB_ADDR && r.valid && branchInsnOffset < r.rel.tcOffset then
      match closest with
      | none => some r.rel
      | some c => if r.rel.tcOffset < c.tcOffset then some r.rel else some c
    else closest) none

/-- `branch_insn->offs = (load_tb_addr->tc_offset - branch_insn_offset) >> 2`. -/
def branchOffs (loadTbAddr : AOTRel) (branchInsnOffset : BitVec 64) : BitVec 32 :=
  ((loadTbAddr.tcOffset.setWidth 64 - branchInsnOffset) >>> 2).setWidth 32

/-- `__fix_b`. -/
def fixBOf (tb : TB ι) (isTrueBranch : Bool) : Res (TB ι) := do
  let branchInsnOffset := tb.originAotTb.jmpTargetArg (slotOf isTrueBranch)
  let branchInsn ← tb.disInsns.get (branchInsnOffset >>> 2)
  assert (branchInsn.data.opc = .OPC_B)
  match findClosestLoadTbAddrRelEntry tb (branchInsnOffset.setWidth 32) with
  | none => .ok tb
  | some loadTbAddr =>
    .ok (tb.updateInsn branchInsn.addr (·.set .offs (branchOffs loadTbAddr branchInsnOffset)))

/-- `fix_b`. -/
def fixB (tb : TB ι) : Res (TB ι) := do
  assert (tb.falseBranch.isNone || tb.trueBranch.isNone)
  if tb.falseBranch.isNone && tb.trueBranch.isNone && tb.originAotTb.slotValid 0
      && tb.originAotTb.slotValid 1 then do
    let tb ← fixBOf tb true
    fixBOf tb false
  else if tb.falseBranch.isNone && tb.originAotTb.slotValid 0 then fixBOf tb false
  else if tb.trueBranch.isNone && tb.originAotTb.slotValid 1 then fixBOf tb true
  else .ok tb

/-- The loop of `fix_bne`: the last `bne` and its index. -/
def lastBne (curIndex : BitVec 32) (bne : Option (ℕ × BitVec 32)) :
    List (ListNode LoongArchInsInfo) → Option (ℕ × BitVec 32)
  | [] => bne
  | iter :: nodes =>
    lastBne (curIndex + 1) (if iter.data.opc = .OPC_BNE then some (iter.addr, curIndex) else bne) nodes

/-- `fix_bne`. -/
def fixBne (tb : TB ι) : Res (TB ι) := do
  assert (tb.originAotTb.slotValid 0 && tb.originAotTb.slotValid 1)
  let trueBranchIndex : BitVec 32 := (tb.originAotTb.jmpTargetArg 1 >>> 2).setWidth 32
  match lastBne 0 none tb.disInsns.nodes with
  | none => .error .assertion
  | some (bneInsn, bneIndex) =>
    .ok (tb.updateInsn bneInsn (·.set .offs (trueBranchIndex - bneIndex)))

/-- `visit`. -/
def visit (tb : TB ι) : Res (TB ι) := do
  let tb ← (if tb.originAotTb.slotValid 0 && tb.originAotTb.slotValid 1 then fixBne tb
    else .ok tb : Res (TB ι))
  if !(tb.trueBranch.isNone && tb.falseBranch.isNone)
      && (tb.trueBranch.isNone || tb.falseBranch.isNone) then fixB tb
  else .ok tb

/-! ### What is written -/

/-- `fix_bne` or `__fix_b` assigns to the branch. -/
def Retargets (tb : TB ι) (a : ℕ) : Prop :=
  (tb.originAotTb.slotValid 0 ∧ tb.originAotTb.slotValid 1 ∧
      ∃ i, lastBne 0 none tb.disInsns.nodes = some (a, i)) ∨
    ∃ isTrueBranch, tb.branch isTrueBranch = none ∧ tb.branch (!isTrueBranch) ≠ none ∧
      tb.originAotTb.slotValid (slotOf isTrueBranch) ∧
      tb.disInsns.addrs[tb.originAotTb.slotIndex (slotOf isTrueBranch)]? = some a ∧
      findClosestLoadTbAddrRelEntry tb
        ((tb.originAotTb.jmpTargetArg (slotOf isTrueBranch)).setWidth 32) ≠ none

/-- At most `offs` of the instructions of `R` differs. -/
structure OffsChanged (R : ℕ → Prop) (tb tb' : TB ι) : Prop where
  length : tb'.disInsns.nodes.length = tb.disInsns.nodes.length
  nodes : ∀ (k : ℕ) (n : ListNode LoongArchInsInfo), tb.disInsns.nodes[k]? = some n →
    ∃ d, tb'.disInsns.nodes[k]? = some ⟨n.addr, d⟩ ∧ d.opc = n.data.opc ∧ (¬R n.addr → d = n.data)
  rels : tb'.rels = tb.rels
  origin : tb'.originAotTb = tb.originAotTb
  branch : ∀ k, tb'.branch k = tb.branch k

namespace OffsChanged

variable {R : ℕ → Prop} {tb tb' tb'' : TB ι}

theorem refl (R : ℕ → Prop) (tb : TB ι) : OffsChanged R tb tb :=
  ⟨rfl, fun _ n hn => ⟨n.data, hn, rfl, fun _ => rfl⟩, rfl, rfl, fun _ => rfl⟩

theorem trans (h : OffsChanged R tb tb') (h' : OffsChanged R tb' tb'') : OffsChanged R tb tb'' := by
  refine ⟨h'.length.trans h.length, fun k n hn => ?_, h'.rels.trans h.rels,
    h'.origin.trans h.origin, fun k => (h'.branch k).trans (h.branch k)⟩
  obtain ⟨d, hd, hopc, hR⟩ := h.nodes k n hn
  obtain ⟨d', hd', hopc', hR'⟩ := h'.nodes k _ hd
  exact ⟨d', hd', hopc'.trans hopc, fun hn => (hR' hn).trans (hR hn)⟩

/-- The nodes stay where they are. -/
theorem addrs (h : OffsChanged R tb tb') : tb'.disInsns.addrs = tb.disInsns.addrs := by
  refine List.ext_getElem? fun k => ?_
  rw [LinkList.getElem?_addrs, LinkList.getElem?_addrs]
  cases hn : tb.disInsns.nodes[k]? with
  | none =>
    rw [List.getElem?_eq_none_iff] at hn
    rw [List.getElem?_eq_none_iff.mpr (by rw [h.length]; exact hn)]
  | some n =>
    obtain ⟨d, hd, -⟩ := h.nodes k n hn
    rw [hd]
    rfl

theorem assigned (h : OffsChanged R tb tb') : TB.Assigned tb tb' := by
  refine ⟨h.length, h.origin, fun k opc _ hk => ?_⟩
  obtain ⟨n, hn, rfl⟩ := TB.opcAt_eq_some.mp hk
  obtain ⟨d, hd, hopc, -⟩ := h.nodes k n hn
  rw [TB.opcAt_of_nodes hd, hopc]

/-- One assignment to `offs`. -/
theorem updateInsn (tb : TB ι) {a : ℕ} (ha : R a) (v : BitVec Field.offs.width) :
    OffsChanged R tb (tb.updateInsn a (·.set .offs v)) := by
  refine ⟨LinkList.length_update _ _, fun k n hn => ?_, rfl, rfl, fun _ => rfl⟩
  by_cases h : n.addr = a
  · subst h
    exact ⟨_, LinkList.nodes_update_self _ hn, rfl, fun hR => absurd ha hR⟩
  · refine ⟨n.data, ?_, rfl, fun _ => rfl⟩
    refine (LinkList.nodes_update_of_ne _ ?_).trans hn
    rw [LinkList.addrs_of_nodes hn, ne_eq, Option.some.injEq]
    exact h

end OffsChanged

variable {tb tb' : TB ι}

theorem fixBOf_changes {k : Bool} (h : fixBOf tb k = .ok tb') : OffsChanged (fun a =>
    tb.disInsns.addrs[tb.originAotTb.slotIndex (slotOf k)]? = some a ∧
      findClosestLoadTbAddrRelEntry tb ((tb.originAotTb.jmpTargetArg (slotOf k)).setWidth 32) ≠ none)
    tb tb' := by
  obtain ⟨n, hget, h⟩ := bind_eq_ok.mp h
  obtain ⟨-, -, h⟩ := bind_eq_ok.mp h
  have hn := TB.get_eq_ok hget
  rw [BitVec.toNat_ushiftRight, Nat.shiftRight_eq_div_pow] at hn
  split at h
  · rw [← Except.ok.inj h]
    exact .refl _ _
  · next loadTbAddr hclosest =>
    rw [← Except.ok.inj h]
    exact .updateInsn tb ⟨LinkList.addrs_of_nodes hn, by simp [hclosest]⟩ _

/-- The branches that the pass looks up are there. -/
structure HasBranches (tb : TB ι) : Prop where
  length_lt : tb.disInsns.nodes.length < 2 ^ 64
  slot : ∀ j, tb.originAotTb.slotValid j → tb.opcAt (tb.originAotTb.slotIndex j) = some .OPC_B
  bne : tb.originAotTb.slotValid 0 → tb.originAotTb.slotValid 1 → ∃ k, tb.opcAt k = some .OPC_BNE

theorem HasBranches.of_guarded (h : tb.Guarded) : HasBranches tb :=
  ⟨h.length_lt.trans (by decide), h.slot, h.bne⟩

theorem HasBranches.assigned (h : HasBranches tb) (ha : TB.Assigned tb tb') : HasBranches tb' where
  length_lt := ha.length ▸ h.length_lt
  slot j hj := by
    rw [ha.origin] at hj ⊢
    exact ha.opcAt _ _ rfl (h.slot j hj)
  bne h0 h1 := by
    rw [ha.origin] at h0 h1
    obtain ⟨k, hk⟩ := h.bne h0 h1
    exact ⟨k, ha.opcAt _ _ rfl hk⟩

theorem fixBOf_ok (h : HasBranches tb) {k : Bool} (hv : tb.originAotTb.slotValid (slotOf k)) :
    ∃ tb', fixBOf tb k = .ok tb' := by
  obtain ⟨n, hn, hopc⟩ := TB.opcAt_eq_some.mp (h.slot _ hv)
  have hget : tb.disInsns.get (tb.originAotTb.jmpTargetArg (slotOf k) >>> 2) = .ok n := by
    refine TB.get_of_nodes h.length_lt ?_
    rw [BitVec.toNat_ushiftRight, Nat.shiftRight_eq_div_pow]
    exact hn
  rw [fixBOf, hget, ok_bind, decide_eq_true hopc, assert_true, ok_bind]
  split
  · exact ⟨_, rfl⟩
  · exact ⟨_, rfl⟩

/-- `fix_b` of a block with one link. -/
theorem fixB_eq {k : Bool} (hk : tb.branch k = none) (hk' : tb.branch (!k) ≠ none) :
    fixB tb = if tb.originAotTb.slotValid (slotOf k) then fixBOf tb k else .ok tb := by
  obtain ⟨x, hx⟩ := Option.ne_none_iff_exists'.mp hk'
  cases k with
  | false =>
    have hf : tb.falseBranch = none := hk
    have ht : tb.trueBranch = some x := hx
    simp [fixB, hf, ht, slotOf]
  | true =>
    have ht : tb.trueBranch = none := hk
    have hf : tb.falseBranch = some x := hx
    simp [fixB, hf, ht, slotOf]

/-- When `visit` calls `fix_b`. -/
theorem one_link_iff : (!(tb.trueBranch.isNone && tb.falseBranch.isNone)
    && (tb.trueBranch.isNone || tb.falseBranch.isNone)) = true ↔
      ∃ k, tb.branch k = none ∧ tb.branch (!k) ≠ none := by
  rw [Bool.exists_bool]
  cases ht : tb.trueBranch <;> cases hf : tb.falseBranch <;> simp [TB.branch, ht, hf]

theorem fixBne_changes (h0 : tb.originAotTb.slotValid 0) (h1 : tb.originAotTb.slotValid 1)
    (h : fixBne tb = .ok tb') : OffsChanged (Retargets tb) tb tb' := by
  rw [fixBne, h0, h1] at h
  obtain ⟨-, -, h⟩ := bind_eq_ok.mp h
  dsimp only at h
  split at h
  · cases h
  · next a i hlast =>
    rw [← Except.ok.inj h]
    exact .updateInsn tb (.inl ⟨h0, h1, i, hlast⟩) _

theorem lastBne_ne_none : ∀ (nodes : List (ListNode LoongArchInsInfo)) (i : BitVec 32)
    (bne : Option (ℕ × BitVec 32)),
    (bne ≠ none ∨ ∃ n ∈ nodes, n.data.opc = .OPC_BNE) → lastBne i bne nodes ≠ none
  | [], i, bne, h => by
    rw [lastBne]
    exact h.resolve_right (by simp)
  | n :: nodes, i, bne, h => by
    refine lastBne_ne_none nodes _ _ ?_
    by_cases hn : n.data.opc = .OPC_BNE
    · rw [if_pos hn]
      exact .inl (by simp)
    · rw [if_neg hn]
      refine h.imp_right ?_
      rintro ⟨m, hm, hbne⟩
      rcases List.mem_cons.mp hm with rfl | hm
      · exact absurd hbne hn
      · exact ⟨m, hm, hbne⟩

theorem fixBne_ok (h : HasBranches tb) (h0 : tb.originAotTb.slotValid 0)
    (h1 : tb.originAotTb.slotValid 1) : ∃ tb', fixBne tb = .ok tb' := by
  obtain ⟨k, hk⟩ := h.bne h0 h1
  obtain ⟨n, hn, hbne⟩ := TB.opcAt_eq_some.mp hk
  have hlast : lastBne 0 none tb.disInsns.nodes ≠ none :=
    lastBne_ne_none _ _ _ (.inr ⟨n, List.mem_of_getElem? hn, hbne⟩)
  rw [fixBne, h0, h1, Bool.and_self, assert_true, ok_bind]
  dsimp only
  split
  · contradiction
  · exact ⟨_, rfl⟩

/-- The two steps of `visit`. -/
theorem visit_cases (h : visit tb = .ok tb') : ∃ tb₁, OffsChanged (Retargets tb) tb tb₁ ∧
    (if !(tb₁.trueBranch.isNone && tb₁.falseBranch.isNone)
        && (tb₁.trueBranch.isNone || tb₁.falseBranch.isNone) then fixB tb₁
      else .ok tb₁) = .ok tb' := by
  obtain ⟨tb₁, h1, h2⟩ := bind_eq_ok.mp h
  refine ⟨tb₁, ?_, h2⟩
  split_ifs at h1 with hv
  · rw [Bool.and_eq_true] at hv
    exact fixBne_changes hv.1 hv.2 h1
  · rw [← Except.ok.inj h1]
    exact .refl _ _

/-- **`visit`** writes the branches that it retargets, and of these only `offs`. -/
theorem visit_changes (h : visit tb = .ok tb') : OffsChanged (Retargets tb) tb tb' := by
  obtain ⟨tb₁, hbne, h2⟩ := visit_cases h
  refine hbne.trans ?_
  split_ifs at h2 with hlink
  · obtain ⟨k, hk, hk'⟩ := one_link_iff.mp hlink
    rw [fixB_eq hk hk'] at h2
    split_ifs at h2 with hv
    · obtain ⟨hlen, hnodes, hrels, horigin, hbranch⟩ := fixBOf_changes h2
      refine ⟨hlen, fun i n hn => ?_, hrels, horigin, hbranch⟩
      obtain ⟨d, hd, hopc, hR⟩ := hnodes i n hn
      refine ⟨d, hd, hopc, fun hno => hR fun ha => hno (.inr ⟨k, ?_, ?_, ?_, ?_, ?_⟩)⟩
      · rw [← hbne.branch, hk]
      · rw [← hbne.branch]
        exact hk'
      · rw [← hbne.origin, hv]
      · rw [← hbne.origin, ← hbne.addrs, ha.1]
      · rw [findClosestLoadTbAddrRelEntry, ← hbne.origin, ← hbne.rels]
        exact ha.2
    · rw [← Except.ok.inj h2]
      exact .refl _ _
  · rw [← Except.ok.inj h2]
    exact .refl _ _

/-- **`visit` of a block that has the branches it looks up** does not stop. -/
theorem visit_ok (h : HasBranches tb) : ∃ tb', visit tb = .ok tb' := by
  have hbne : ∃ tb₁, (if tb.originAotTb.slotValid 0 && tb.originAotTb.slotValid 1 then fixBne tb
      else .ok tb) = .ok tb₁ ∧ HasBranches tb₁ := by
    split_ifs with hv
    · rw [Bool.and_eq_true] at hv
      obtain ⟨tb₁, h1⟩ := fixBne_ok h hv.1 hv.2
      exact ⟨tb₁, h1, h.assigned (fixBne_changes hv.1 hv.2 h1).assigned⟩
    · exact ⟨tb, rfl, h⟩
  obtain ⟨tb₁, h1, hg⟩ := hbne
  rw [visit, h1, ok_bind]
  split_ifs with hlink
  · obtain ⟨k, hk, hk'⟩ := one_link_iff.mp hlink
    rw [fixB_eq hk hk']
    split_ifs with hv
    · exact fixBOf_ok hg hv
    · exact ⟨tb₁, rfl⟩
  · exact ⟨tb₁, rfl⟩

theorem ordered_visit (h : tb.Ordered) : ∃ tb', visit tb = .ok tb' ∧ tb'.Ordered := by
  obtain ⟨tb', hok⟩ := visit_ok (.of_guarded h.toGuarded)
  exact ⟨tb', hok, h.assigned (visit_changes hok).assigned⟩

/-! ### Where the branches go -/

/-- A valid relocation of kind `LOAD_TB_ADDR` that starts behind the byte offset. -/
def StartsBehind (o : ℕ) (r : RelSlot) : Prop :=
  r.rel.kind = .LOAD_TB_ADDR ∧ r.valid ∧ o < r.rel.tcOffset.toNat

/-- A closest one of the block. -/
def ClosestBehind (tb : TB ι) (o : ℕ) (r : RelSlot) : Prop :=
  r ∈ tb.rels ∧ StartsBehind o r ∧
    ∀ r' ∈ tb.rels, StartsBehind o r' → r.rel.tcOffset.toNat ≤ r'.rel.tcOffset.toNat

/-- The branch of the slot goes to the start of a closest relocation behind it, if there is one:
its `offs` is the distance in instructions. -/
def SlotFixed (tb : TB ι) (j : Fin 2) : Prop :=
  ∀ r, ClosestBehind tb (tb.originAotTb.jmpTargetArg j).toNat r →
    ∃ n, tb.disInsns.nodes[tb.originAotTb.slotIndex j]? = some n ∧ n.data.opc = .OPC_B ∧
      n.data.offs.toInt = ((r.rel.tcOffset.toNat - (tb.originAotTb.jmpTargetArg j).toNat) / 4 : ℕ)

/-- So does the branch of every valid slot whose successor is null. -/
def BranchesFixed (tb : TB ι) : Prop :=
  ∀ k, tb.originAotTb.slotValid (slotOf k) → tb.branch k = none → SlotFixed tb (slotOf k)

/-- `find_closest_LOAD_TB_ADDR_rel_entry` is a minimum. -/
theorem findClosest_eq_argmin (tb : TB ι) (o : BitVec 32) : findClosestLoadTbAddrRelEntry tb o =
    ((tb.rels.filter fun r => r.rel.kind = .LOAD_TB_ADDR && r.valid && o < r.rel.tcOffset).map
      (·.rel)).argmin (·.tcOffset.toNat) := by
  rw [findClosestLoadTbAddrRelEntry, List.argmin, List.foldl_map, List.foldl_filter]
  congr 1
  funext closest r
  cases closest <;> rfl

/-- **The search finds** a closest relocation when there is one. -/
theorem findClosest_of_closestBehind {o : BitVec 32} {r : RelSlot}
    (h : ClosestBehind tb o.toNat r) :
    ∃ c, findClosestLoadTbAddrRelEntry tb o = some c ∧ c.tcOffset = r.rel.tcOffset := by
  obtain ⟨hr, hbehind, hleast⟩ := h
  have hmem : ∀ r' : RelSlot, r' ∈ tb.rels.filter (fun r =>
      r.rel.kind = .LOAD_TB_ADDR && r.valid && o < r.rel.tcOffset) ↔
        r' ∈ tb.rels ∧ StartsBehind o.toNat r' := by
    intro r'
    simp [StartsBehind, BitVec.lt_def, and_assoc]
  have hcand := List.mem_map_of_mem (f := RelSlot.rel) ((hmem r).mpr ⟨hr, hbehind⟩)
  rw [findClosest_eq_argmin]
  cases hc : List.argmin (·.tcOffset.toNat) ((tb.rels.filter fun r =>
      r.rel.kind = .LOAD_TB_ADDR && r.valid && o < r.rel.tcOffset).map (·.rel)) with
  | none =>
    rw [List.argmin_eq_none.mp hc] at hcand
    cases hcand
  | some c =>
    refine ⟨c, rfl, BitVec.eq_of_toNat_eq (le_antisymm ?_ ?_)⟩
    · exact List.le_of_mem_argmin (f := fun x : AOTRel => x.tcOffset.toNat) hcand hc
    · obtain ⟨r', hr', rfl⟩ := List.mem_map.mp (List.argmin_mem hc)
      exact hleast r' ((hmem r').mp hr').1 ((hmem r').mp hr').2

/-- What `__fix_b` assigns is the distance. -/
theorem toInt_branchOffs {c : AOTRel} {o : BitVec 64} (h : o.toNat < c.tcOffset.toNat) :
    (branchOffs c o).toInt = ((c.tcOffset.toNat - o.toNat) / 4 : ℕ) := by
  have hlt := c.tcOffset.isLt
  have hval : (branchOffs c o).toNat = (c.tcOffset.toNat - o.toNat) / 4 := by
    rw [branchOffs, BitVec.toNat_setWidth, BitVec.toNat_ushiftRight, BitVec.toNat_sub,
      BitVec.toNat_setWidth, Nat.shiftRight_eq_div_pow]
    omega
  rw [BitVec.toInt_eq_toNat_of_lt (by omega), hval]

/-- **`__fix_b`** lets the branch of the slot go to the closest relocation. -/
theorem slotFixed_fixBOf {k : Bool} (h : fixBOf tb k = .ok tb') : SlotFixed tb' (slotOf k) := by
  have hch := fixBOf_changes h
  intro r hr
  rw [ClosestBehind, hch.rels, hch.origin] at hr
  rw [hch.origin]
  have hlt : (tb.originAotTb.jmpTargetArg (slotOf k)).toNat < r.rel.tcOffset.toNat := hr.2.1.2.2
  have htc := r.rel.tcOffset.isLt
  have hwidth : ((tb.originAotTb.jmpTargetArg (slotOf k)).setWidth 32).toNat =
      (tb.originAotTb.jmpTargetArg (slotOf k)).toNat := by
    rw [BitVec.toNat_setWidth, Nat.mod_eq_of_lt (by omega)]
  obtain ⟨c, hc, htco⟩ := findClosest_of_closestBehind (hwidth.symm ▸ hr)
  obtain ⟨n, hget, h⟩ := bind_eq_ok.mp h
  obtain ⟨_, hopc, h⟩ := bind_eq_ok.mp h
  rw [hc] at h
  rw [← Except.ok.inj h]
  have hn := TB.get_eq_ok hget
  rw [BitVec.toNat_ushiftRight, Nat.shiftRight_eq_div_pow] at hn
  refine ⟨_, LinkList.nodes_update_self _ hn, ?_, ?_⟩
  · exact of_decide_eq_true (assert_eq_ok.mp hopc)
  · have hoffs : (n.data.set .offs (branchOffs c (tb.originAotTb.jmpTargetArg (slotOf k)))).offs =
        branchOffs c (tb.originAotTb.jmpTargetArg (slotOf k)) := n.data.operand_set_self _ _
    rw [hoffs, toInt_branchOffs (htco ▸ hlt), htco]

/-- What a slot's branch goes to depends only on the instruction. -/
theorem slotFixed_congr {R : ℕ → Prop} (h : OffsChanged R tb tb') {j : Fin 2}
    (hR : ∀ n, tb.disInsns.nodes[tb.originAotTb.slotIndex j]? = some n → ¬R n.addr) :
    SlotFixed tb' j ↔ SlotFixed tb j := by
  have hnode : tb'.disInsns.nodes[tb.originAotTb.slotIndex j]? =
      tb.disInsns.nodes[tb.originAotTb.slotIndex j]? := by
    cases hn : tb.disInsns.nodes[tb.originAotTb.slotIndex j]? with
    | none =>
      rw [List.getElem?_eq_none_iff] at hn ⊢
      exact h.length ▸ hn
    | some n =>
      obtain ⟨d, hd, -, hdata⟩ := h.nodes _ n hn
      rw [hd, hdata (hR n hn)]
  simp only [SlotFixed, ClosestBehind, h.rels, h.origin, hnode]

/-- `fix_bne` writes no `b`. -/
theorem lastBne_opc {a : ℕ} {i : BitVec 32} : ∀ (nodes : List (ListNode LoongArchInsInfo))
    (j : BitVec 32) (bne : Option (ℕ × BitVec 32)), lastBne j bne nodes = some (a, i) →
      bne = some (a, i) ∨ ∃ n ∈ nodes, n.addr = a ∧ n.data.opc = .OPC_BNE
  | [], _, _, h => .inl h
  | n :: nodes, j, bne, h => by
    rcases lastBne_opc nodes _ _ h with h | ⟨m, hm, ha, hopc⟩
    · split_ifs at h with hn
      · rw [Option.some.injEq, Prod.mk.injEq] at h
        exact .inr ⟨n, List.mem_cons_self, h.1, hn⟩
      · exact .inl h
    · exact .inr ⟨m, List.mem_cons_of_mem _ hm, ha, hopc⟩

/-- The branch of a slot is assigned to only if the other slot has a successor. -/
theorem not_retargets {j : Fin 2} (hb : tb.opcAt (tb.originAotTb.slotIndex j) = some .OPC_B)
    (hlink : ∀ k, tb.branch k = none) {n : ListNode LoongArchInsInfo}
    (hn : tb.disInsns.nodes[tb.originAotTb.slotIndex j]? = some n) : ¬Retargets tb n.addr := by
  rintro (⟨-, -, i, hlast⟩ | ⟨k, -, hk, -⟩)
  · -- the last `bne` is another node
    rcases lastBne_opc _ _ _ hlast with h | ⟨m, hm, ha, hbne⟩
    · cases h
    · have hmn : m = n := 
        List.inj_on_of_nodup_map tb.disInsns.nodup hm (List.mem_of_getElem? hn) ha
      rw [TB.opcAt_of_nodes hn, ← hmn, hbne] at hb
      cases hb
  · exact hk (hlink _)

/-- **The branches after `visit`** go to the closest relocations if one of the two successors
was there; otherwise `fix_b` is not called, and they go where they went. -/
theorem branchesFixed_visit_iff
    (hslot : ∀ j, tb.originAotTb.slotValid j → tb.opcAt (tb.originAotTb.slotIndex j) = some .OPC_B)
    (hbne : tb.originAotTb.slotValid 0 → tb.originAotTb.slotValid 1 →
      ∃ k, tb.opcAt k = some .OPC_BNE) :
    (tb.disInsns.nodes.length < 2 ^ 64 → ∃ tb', visit tb = .ok tb') ∧
      ∀ tb', visit tb = .ok tb' →
        (BranchesFixed tb' ↔ (∃ k, tb.branch k ≠ none) ∨ BranchesFixed tb) := by
  refine ⟨fun hlen => visit_ok ⟨hlen, hslot, hbne⟩, fun tb' h => ?_⟩
  have hch := visit_changes h
  by_cases hlink : ∃ k, tb.branch k ≠ none
  · refine iff_of_true (fun k hv hk => ?_) (.inl hlink)
    rw [hch.origin] at hv
    rw [hch.branch] at hk
    obtain ⟨l, hl⟩ := hlink
    have hlk : l = !k := by
      cases l <;> cases k <;> first | rfl | exact absurd hk hl
    obtain ⟨tb₁, hch₁, h2⟩ := visit_cases h
    have hk₁ : tb₁.branch k = none := (hch₁.branch k).trans hk
    have hk₁' : tb₁.branch (!k) ≠ none := by
      rw [hch₁.branch, ← hlk]
      exact hl
    rw [if_pos (one_link_iff.mpr ⟨k, hk₁, hk₁'⟩), fixB_eq hk₁ hk₁', hch₁.origin, if_pos hv] at h2
    exact slotFixed_fixBOf h2
  · have hnone : ∀ k, tb.branch k = none := fun k => by_contra fun hk => hlink ⟨k, hk⟩
    rw [or_iff_right hlink]
    refine forall_congr' fun k => ?_
    rw [hch.origin, hch.branch]
    refine forall_congr' fun hv => imp_congr_right fun _ => slotFixed_congr hch fun n hn => ?_
    exact not_retargets (hslot _ hv) hnone hn

section UnlinkedB

open DisassmbleVistor

/-- `b +0; nop`, where slot 0 is valid and not linked and a `LOAD_TB_ADDR` relocation is at the
`nop`. -/
def unlinkedB : TB ℕ :=
  startTB { (TB.new { (default : AOTTB) with
      jmpResetOffsets := fun j => if j = 0 then 0 else TB_JMP_RESET_OFFSET_INVALID }
    ⟨8, [0x50000000, 0x03400000], rfl⟩ 0 : TB ℕ) with
    rels := [⟨⟨.LOAD_TB_ADDR, 4, 1, 0, 0⟩, true⟩] }

theorem slot_unlinkedB : ∀ j, unlinkedB.originAotTb.slotValid j →
    unlinkedB.opcAt (unlinkedB.originAotTb.slotIndex j) = some .OPC_B := by
  intro j hj
  obtain rfl : j = 0 := by
    revert j
    decide
  decide

/-- With the other successor there, it goes to the `nop`. -/
theorem branchesFixed_linkedB :
    ∃ tb', visit { unlinkedB with trueBranch := some 0 } = .ok tb' ∧ BranchesFixed tb' := by
  have h := @branchesFixed_visit_iff _ { unlinkedB with trueBranch := some 0 } slot_unlinkedB
    fun _ h1 => absurd h1 (by decide)
  obtain ⟨tb', hok⟩ := h.1 (by decide)
  exact ⟨tb', hok, (h.2 tb' hok).mpr (.inl ⟨true, by decide⟩)⟩

/-- With no successor at all `fix_b` is not called: the `b` keeps its `offs` of 0. -/
theorem branches_not_fixed_without_link :
    (∀ j, unlinkedB.originAotTb.slotValid j →
      unlinkedB.opcAt (unlinkedB.originAotTb.slotIndex j) = some .OPC_B) ∧
    visit unlinkedB = .ok unlinkedB ∧ ¬BranchesFixed unlinkedB := by
  have hnodes : unlinkedB.disInsns.nodes =
      [⟨0, disassemble 0x50000000⟩, ⟨1, disassemble 0x03400000⟩] := by
    show (DisassmbleVistor.visit _).disInsns.nodes = _
    rw [DisassmbleVistor.visit, disInsns_visitFrom, nodes_foldl_insertAtTail]
    rfl
  refine ⟨slot_unlinkedB, rfl, fun h => ?_⟩
  have hclosest : ClosestBehind unlinkedB 0 ⟨⟨.LOAD_TB_ADDR, 4, 1, 0, 0⟩, true⟩ := by
    refine ⟨by decide, ⟨rfl, rfl, by decide⟩, fun r hr _ => ?_⟩
    rw [List.mem_singleton.mp hr]
  obtain ⟨n, hn, -, hoffs⟩ := h false rfl rfl _ hclosest
  have h0 : unlinkedB.disInsns.nodes[0]? = some n := hn
  rw [hnodes] at h0
  rw [← Option.some.inj h0] at hoffs
  exact absurd hoffs (by decide)

end UnlinkedB

end FixBranchVistor

end AotOpt
