import AotOpt.AotClass.Edit
import AotOpt.Vistor.TU

/-!
# Taking over a successor

What `unify_srcblock_no_successor` does to a block: its instructions from the branch of
its only valid slot on are deleted, and the instructions of the successor are copied in
their place.

* `unify_rule` — when the call does not stop, with an invariant for each of its two loops.
* `spliced_unify` — the instructions that it leaves.
* `unifySrcblockNoSuccessor_ok` — a block without valid slots is left.
-/

namespace AotOpt

variable {ι : Type}

namespace LinkList

variable {α : Type} {l l' : LinkList α}

/-- A new node in front of a node, when those before it are still there. -/
theorem posAfter_prev {k : ℕ} {n : ListNode α} (hn : l.nodes[k]? = some n)
    (h : l'.nodes.take k = l.nodes.take k) : l'.posAfter (l.prev n.addr) = some k := by
  have hk := (List.getElem?_eq_some_iff.mp hn).1
  rw [prev, pos_of_nodes hn]
  by_cases h0 : k = 0
  · rw [if_pos h0, h0]
    rfl
  · rw [if_neg h0, getElem?_addrs, List.getElem?_eq_getElem (by omega)]
    have hprev : l'.nodes[k - 1]? = some l.nodes[k - 1] := by
      rw [← List.getElem?_take_of_lt (show k - 1 < k by omega), h,
        List.getElem?_take_of_lt (by omega), List.getElem?_eq_getElem (by omega)]
    exact (posAfter_node (addrs_of_nodes hprev)).trans (congrArg some (by omega))

end LinkList

namespace TB

/-- Two blocks with the same code and address, whose slots are valid alike. -/
structure SameBlock (tb tb' : TB ι) : Prop where
  code : tb'.code = tb.code
  x86Addr : tb'.x86Addr = tb.x86Addr

theorem SameBlock.refl (tb : TB ι) : SameBlock tb tb := ⟨rfl, rfl⟩

theorem SameBlock.trans {tb tb' tb'' : TB ι} (h : SameBlock tb tb') (h' : SameBlock tb' tb'') :
    SameBlock tb tb'' :=
  ⟨h'.code.trans h.code, h'.x86Addr.trans h.x86Addr⟩

theorem sameBlock_deleteAt (tb : TB ι) (n : ListNode LoongArchInsInfo) (i : BitVec 64) :
    SameBlock tb (tb.deleteAt n i) := by
  unfold deleteAt removeInsn deleteBInsn
  dsimp only
  split_ifs <;> exact ⟨rfl, rfl⟩

theorem sameBlock_addBInsn (tb : TB ι) (opc : LoongArchOpc) (index : BitVec 32) :
    SameBlock tb (tb.addBInsn opc index) := by
  obtain ⟨_, _, _, h⟩ := tb.addBInsn_frame opc index
  rw [h]
  exact ⟨rfl, rfl⟩

/-- Copies of the instructions, in nodes from the address on. -/
def copies (fresh : ℕ) (nodes : List (ListNode LoongArchInsInfo)) : List (ListNode LoongArchInsInfo) :=
  (nodes.zipIdx fresh).map fun e => ⟨e.2, e.1.data⟩

@[simp] theorem length_copies (fresh : ℕ) (nodes : List (ListNode LoongArchInsInfo)) :
    (copies fresh nodes).length = nodes.length := by simp [copies]

@[simp] theorem data_copies (fresh : ℕ) (nodes : List (ListNode LoongArchInsInfo)) :
    (copies fresh nodes).map (·.data) = nodes.map (·.data) := by
  have hfst := congrArg (List.map (·.data)) (List.zipIdx_map_fst fresh nodes)
  rw [List.map_map] at hfst
  rw [copies, List.map_map]
  exact hfst

/-- The nodes of the copies are new. -/
theorem le_of_mem_copies {fresh : ℕ} {nodes : List (ListNode LoongArchInsInfo)}
    {n : ListNode LoongArchInsInfo} (h : n ∈ copies fresh nodes) : fresh ≤ n.addr := by
  obtain ⟨e, he, rfl⟩ := List.mem_map.mp h
  exact (List.mem_zipIdx he).1

/-- **The copies** come one after another from a position on. `P` is what adding the next one
keeps. -/
theorem copyInsns_ok {P : TB ι → BitVec 32 → ℕ → Prop}
    (hP : ∀ (tb : TB ι) (i : BitVec 32) (k : ℕ) (d : LoongArchInsInfo), P tb i k →
      k ≤ tb.disInsns.nodes.length →
      P { tb.addBInsn d.opc i with disInsns := tb.disInsns.insertAt k d } (i + 1) (k + 1)) :
    ∀ (nodes : List (ListNode LoongArchInsInfo)) (tb : TB ι) (curUnify : Ptr) (curIndex : BitVec 32)
      (k : ℕ), tb.disInsns.posAfter curUnify = some k → P tb curIndex k →
      ∃ tb', tb.copyInsns curUnify curIndex nodes = .ok tb' ∧
        (∃ i, P tb' i (k + nodes.length)) ∧ tb'.disInsns.nodes =
          tb.disInsns.nodes.take k ++ copies tb.disInsns.fresh nodes ++ tb.disInsns.nodes.drop k
  | [], tb, _, i, k, _, h => ⟨tb, rfl, ⟨i, h⟩, by simp [copies]⟩
  | n :: nodes, tb, curUnify, curIndex, k, hpos, h => by
    have hk := LinkList.posAfter_le hpos
    have hinsert : tb.disInsns.insertAfter curUnify n.data = .ok (tb.disInsns.insertAt k n.data) :=
      LinkList.insertAfter_eq_ok.mpr ⟨_, hpos, rfl⟩
    have hnew : (tb.disInsns.insertAt k n.data).nodes[k]? = some ⟨tb.disInsns.fresh, n.data⟩ := by
      rw [LinkList.nodes_insertAt, List.getElem?_insertIdx_self, if_pos hk]
    obtain ⟨tb', hok, ⟨i, h'⟩, hnodes⟩ := copyInsns_ok hP nodes
      { tb.addBInsn n.data.opc curIndex with disInsns := tb.disInsns.insertAt k n.data }
      (.node tb.disInsns.fresh) (curIndex + 1) (k + 1)
      (LinkList.posAfter_node (LinkList.addrs_of_nodes hnew)) (hP tb curIndex k n.data h hk)
    refine ⟨tb', bind_eq_ok.mpr ⟨_, hinsert, hok⟩, ⟨i, ?_⟩, ?_⟩
    · have hlen : k + (n :: nodes).length = k + 1 + nodes.length := by
        rw [List.length_cons]
        omega
      exact hlen ▸ h'
    · rw [hnodes]
      have hins : (tb.disInsns.insertAt k n.data).nodes =
          tb.disInsns.nodes.take k ++ ⟨tb.disInsns.fresh, n.data⟩ :: tb.disInsns.nodes.drop k := by
        rw [LinkList.nodes_insertAt, Lib.insertIdx_eq_take_drop hk]
      have hlen : (tb.disInsns.nodes.take k).length = k := List.length_take_of_le hk
      show (tb.disInsns.insertAt k n.data).nodes.take (k + 1) ++ copies (tb.disInsns.fresh + 1) nodes ++
        (tb.disInsns.insertAt k n.data).nodes.drop (k + 1) = _
      rw [hins, List.take_append, List.drop_append, hlen, Nat.add_sub_cancel_left,
        List.take_of_length_le (hlen.trans_le (Nat.le_succ k)),
        List.drop_eq_nil_of_le (hlen.trans_le (Nat.le_succ k)), copies, copies, List.zipIdx_cons]
      simp
theorem slotValid_rebaseSlots {base : BitVec 32} {src dst : AOTTB} {j : Fin 2}
    (h : src.slotValid j = false) : (rebaseSlots base src dst).slotValid j = false := by
  have hreset : (rebaseSlots base src dst).jmpResetOffsets j = TB_JMP_RESET_OFFSET_INVALID :=
    if_neg (by rw [h]; exact Bool.false_ne_true)
  rw [AOTTB.slotValid, hreset]
  rfl

section Unify

variable {dst src tb : TB ι} {isTrueBranch : Bool}

/-- `delete_start_index`. -/
def cutStart (dst : TB ι) (isTrueBranch : Bool) : BitVec 32 :=
  (dst.originAotTb.jmpTargetArg (slotOf isTrueBranch) / 4).setWidth 32

/-- `count`, before the loop. -/
def cutCount (dst : TB ι) (isTrueBranch : Bool) : BitVec 32 :=
  (dst.disInsns.totalSize - 1).setWidth 32 - dst.cutStart isTrueBranch + 1

/-- **`unify_srcblock_no_successor` that does not stop** deletes instructions from the branch of
the slot on, appends the relocations of the source block, and copies its instructions. -/
theorem unifySrcblockNoSuccessor_eq_ok :
    dst.unifySrcblockNoSuccessor src isTrueBranch = .ok (some tb) ↔
      src.noSuccessor ∧ dst.originAotTb.slotValid (slotOf isTrueBranch) ∧
      ∃ n, dst.disInsns.get ((dst.cutStart isTrueBranch).setWidth 64) = .ok n ∧
        n.data.opc = .OPC_B ∧
      ∃ p tb₁ tb₂, dst.deleteRun (.node n.addr) ((dst.cutStart isTrueBranch).setWidth 64)
          (dst.cutCount isTrueBranch).toNat = .ok (p, tb₁) ∧
        ({ tb₁ with rels := tb₁.rels ++ rebaseRels (dst.cutStart isTrueBranch * 4) src.rels } :
            TB ι).copyInsns (dst.disInsns.prev n.addr) (dst.cutStart isTrueBranch)
          src.disInsns.nodes = .ok tb₂ ∧
        tb = { tb₂ with
          originAotTb := rebaseSlots (dst.cutStart isTrueBranch * 4) src.originAotTb tb₂.originAotTb
          trueBranch := src.trueBranch
          falseBranch := src.falseBranch } := by
  rw [unifySrcblockNoSuccessor]
  cases hsrc : src.noSuccessor with
  | false => simp
  | true =>
    simp only [Bool.not_true, Bool.false_eq_true, if_false, bind_eq_ok, true_and]
    constructor
    · rintro ⟨start, hstart, n, hget, _, hopc, ⟨p, tb₁⟩, hrun, tb₂, hcopy, htb⟩
      obtain ⟨_, hvalid, hstart⟩ := bind_eq_ok.mp hstart
      obtain rfl : start = dst.cutStart isTrueBranch := (Except.ok.inj hstart).symm
      refine ⟨assert_eq_ok.mp hvalid, n, hget, of_decide_eq_true (assert_eq_ok.mp hopc), p, tb₁, tb₂,
        hrun, hcopy, ?_⟩
      exact (Option.some.inj (Except.ok.inj htb)).symm
    · rintro ⟨hvalid, n, hget, hopc, p, tb₁, tb₂, hrun, hcopy, rfl⟩
      refine ⟨dst.cutStart isTrueBranch, ?_, n, hget, (), ?_, (p, tb₁), hrun, tb₂, hcopy, rfl⟩
      · rw [branchInsnIndex, hvalid]
        rfl
      · rw [hopc]
        rfl

theorem get_cutStart {n : ListNode LoongArchInsInfo}
    (h : dst.disInsns.get ((dst.cutStart isTrueBranch).setWidth 64) = .ok n) :
    dst.disInsns.nodes[(dst.cutStart isTrueBranch).toNat]? = some n ∧
      (dst.cutStart isTrueBranch).toNat + (dst.cutCount isTrueBranch).toNat ≤
        dst.disInsns.nodes.length := by
  have hn := get_eq_ok h
  rw [LinkList.get, bind_eq_ok] at h
  obtain ⟨_, hlt, -⟩ := h
  have hlt := of_decide_eq_true (assert_eq_ok.mp hlt)
  rw [BitVec.toNat_setWidth_of_le (by decide)] at hn
  refine ⟨hn, ?_⟩
  rw [BitVec.lt_def, LinkList.totalSize, BitVec.toNat_ofNat,
    BitVec.toNat_setWidth_of_le (by decide)] at hlt
  have h1 : (1 : BitVec 32).toNat = 1 := rfl
  have h1' : (1 : BitVec 64).toNat = 1 := rfl
  have hstart := (dst.cutStart isTrueBranch).isLt
  rw [cutCount, BitVec.toNat_add, BitVec.toNat_sub, BitVec.toNat_setWidth, BitVec.toNat_sub,
    LinkList.totalSize, BitVec.toNat_ofNat, h1, h1']
  omega

/-- As long as the instructions can be counted, everything from the branch on is deleted. -/
theorem cutStart_add_cutCount (hlt : (dst.cutStart isTrueBranch).toNat < dst.disInsns.nodes.length)
    (hlen : dst.disInsns.nodes.length < 2 ^ 32) :
    (dst.cutStart isTrueBranch).toNat + (dst.cutCount isTrueBranch).toNat =
      dst.disInsns.nodes.length := by
  have h1 : (1 : BitVec 32).toNat = 1 := rfl
  have h1' : (1 : BitVec 64).toNat = 1 := rfl
  rw [cutCount, BitVec.toNat_add, BitVec.toNat_sub, BitVec.toNat_setWidth, BitVec.toNat_sub,
    LinkList.totalSize, BitVec.toNat_ofNat, h1, h1']
  omega

/-- The loop that deletes, from the node of the branch on. `P c` is what holds when `c` deletions
are still to be made. -/
theorem deleteRun_cut {P : ℕ → TB ι → Prop} {n : ListNode LoongArchInsInfo}
    (hget : dst.disInsns.get ((dst.cutStart isTrueBranch).setWidth 64) = .ok n)
    (hP : ∀ (c : ℕ) (tb : TB ι) (n : ListNode LoongArchInsInfo), P (c + 1) tb →
      tb.disInsns.nodes[(dst.cutStart isTrueBranch).toNat]? = some n →
        P c (tb.deleteAt n ((dst.cutStart isTrueBranch).setWidth 64)))
    (h : P (dst.cutCount isTrueBranch).toNat dst) :
    ∃ p tb₁, dst.deleteRun (.node n.addr) ((dst.cutStart isTrueBranch).setWidth 64)
        (dst.cutCount isTrueBranch).toNat = .ok (p, tb₁) ∧ P 0 tb₁ ∧
      tb₁.disInsns.nodes = dst.disInsns.nodes.take (dst.cutStart isTrueBranch).toNat ++
        dst.disInsns.nodes.drop
          ((dst.cutStart isTrueBranch).toNat + (dst.cutCount isTrueBranch).toNat) := by
  obtain ⟨hn, hle⟩ := get_cutStart hget
  obtain ⟨p, tb₁, hrun, h', hnodes⟩ := deleteRun_ok hP _ h hle
  have hfirst : Ptr.first (dst.disInsns.nodes.drop (dst.cutStart isTrueBranch).toNat) =
      .node n.addr := by
    rw [← List.getElem_cons_drop (List.getElem?_eq_some_iff.mp hn).1, Ptr.first,
      (List.getElem?_eq_some_iff.mp hn).2]
  rw [hfirst] at hrun
  exact ⟨p, tb₁, hrun, h', hnodes⟩

/-- What the two loops leave of the instructions: those in front of the branch, copies of those
of the source block in new nodes, and those that the first loop did not come to. -/
def Spliced (dst src : TB ι) (isTrueBranch : Bool) (nodes : List (ListNode LoongArchInsInfo)) : Prop :=
  ∃ copied : List (ListNode LoongArchInsInfo), copied.map (·.data) = src.insns ∧
    (∀ n ∈ copied, dst.disInsns.fresh ≤ n.addr) ∧
    nodes = dst.disInsns.nodes.take (dst.cutStart isTrueBranch).toNat ++ copied ++
      dst.disInsns.nodes.drop ((dst.cutStart isTrueBranch).toNat + (dst.cutCount isTrueBranch).toNat)

/-- **The rule for `unify_srcblock_no_successor`**: when the slot is valid and its branch is
found, the call does not stop. `P c` is what holds when `c` deletions are still to be made, and
`Q i k` what holds when the next copy goes to position `k`, with index `i`. -/
theorem unify_rule {P : ℕ → TB ι → Prop} {Q : TB ι → BitVec 32 → ℕ → Prop}
    {n : ListNode LoongArchInsInfo} (hsrc : src.noSuccessor)
    (hvalid : dst.originAotTb.slotValid (slotOf isTrueBranch))
    (hget : dst.disInsns.get ((dst.cutStart isTrueBranch).setWidth 64) = .ok n)
    (hopc : n.data.opc = .OPC_B) (hdst : P (dst.cutCount isTrueBranch).toNat dst)
    (hP : ∀ (c : ℕ) (tb : TB ι) (n : ListNode LoongArchInsInfo), P (c + 1) tb →
      tb.disInsns.nodes[(dst.cutStart isTrueBranch).toNat]? = some n →
        P c (tb.deleteAt n ((dst.cutStart isTrueBranch).setWidth 64)))
    (hPQ : ∀ tb₁, P 0 tb₁ → tb₁.disInsns.nodes =
        dst.disInsns.nodes.take (dst.cutStart isTrueBranch).toNat ++ dst.disInsns.nodes.drop
          ((dst.cutStart isTrueBranch).toNat + (dst.cutCount isTrueBranch).toNat) →
      Q { tb₁ with rels := tb₁.rels ++ rebaseRels (dst.cutStart isTrueBranch * 4) src.rels }
        (dst.cutStart isTrueBranch) (dst.cutStart isTrueBranch).toNat)
    (hQ : ∀ (tb : TB ι) (i : BitVec 32) (k : ℕ) (d : LoongArchInsInfo), Q tb i k →
      k ≤ tb.disInsns.nodes.length →
        Q { tb.addBInsn d.opc i with disInsns := tb.disInsns.insertAt k d } (i + 1) (k + 1)) :
    ∃ tb₂ i, Q tb₂ i ((dst.cutStart isTrueBranch).toNat + src.disInsns.nodes.length) ∧
      Spliced dst src isTrueBranch tb₂.disInsns.nodes ∧
      dst.unifySrcblockNoSuccessor src isTrueBranch = .ok (some { tb₂ with
        originAotTb := rebaseSlots (dst.cutStart isTrueBranch * 4) src.originAotTb tb₂.originAotTb
        trueBranch := src.trueBranch
        falseBranch := src.falseBranch }) := by
  obtain ⟨hn, -⟩ := get_cutStart hget
  have hk := (List.getElem?_eq_some_iff.mp hn).1
  obtain ⟨p, tb₁, hrun, ⟨h₁, hfresh⟩, hnodes₁⟩ := deleteRun_cut hget
    (P := fun c tb => P c tb ∧ tb.disInsns.fresh = dst.disInsns.fresh)
    (fun c tb n h hn => ⟨hP c tb n h.1 hn, h.2⟩) ⟨hdst, rfl⟩
  have hlen : (dst.disInsns.nodes.take (dst.cutStart isTrueBranch).toNat).length =
      (dst.cutStart isTrueBranch).toNat := List.length_take_of_le hk.le
  have htake : tb₁.disInsns.nodes.take (dst.cutStart isTrueBranch).toNat =
      dst.disInsns.nodes.take (dst.cutStart isTrueBranch).toNat := by
    rw [hnodes₁]
    exact List.take_left' hlen
  have hdrop : tb₁.disInsns.nodes.drop (dst.cutStart isTrueBranch).toNat = dst.disInsns.nodes.drop
      ((dst.cutStart isTrueBranch).toNat + (dst.cutCount isTrueBranch).toNat) := by
    rw [hnodes₁]
    exact List.drop_left' hlen
  have hpos : tb₁.disInsns.posAfter (dst.disInsns.prev n.addr) =
      some (dst.cutStart isTrueBranch).toNat := LinkList.posAfter_prev hn htake
  obtain ⟨tb₂, hcopy, ⟨i, h₂⟩, hnodes₂⟩ := copyInsns_ok hQ src.disInsns.nodes
    { tb₁ with rels := tb₁.rels ++ rebaseRels (dst.cutStart isTrueBranch * 4) src.rels }
    (dst.disInsns.prev n.addr) (dst.cutStart isTrueBranch) _ hpos (hPQ tb₁ h₁ hnodes₁)
  refine ⟨tb₂, i, h₂, ⟨copies tb₁.disInsns.fresh src.disInsns.nodes, data_copies _ _,
    fun m hm => ?_, ?_⟩, unifySrcblockNoSuccessor_eq_ok.mpr
      ⟨hsrc, hvalid, n, hget, hopc, p, tb₁, tb₂, hrun, hcopy, rfl⟩⟩
  · exact hfresh ▸ le_of_mem_copies hm
  · rw [hnodes₂]
    show tb₁.disInsns.nodes.take _ ++ _ ++ tb₁.disInsns.nodes.drop _ = _
    rw [htake, hdrop]

/-- A call that does not stop has found the branch. -/
theorem unify_ok_inv (h : dst.unifySrcblockNoSuccessor src isTrueBranch = .ok (some tb)) :
    src.noSuccessor ∧ dst.originAotTb.slotValid (slotOf isTrueBranch) ∧
      ∃ n, dst.disInsns.get ((dst.cutStart isTrueBranch).setWidth 64) = .ok n ∧
        n.data.opc = .OPC_B := by
  obtain ⟨hsrc, hvalid, n, hget, hopc, -⟩ := unifySrcblockNoSuccessor_eq_ok.mp h
  exact ⟨hsrc, hvalid, n, hget, hopc⟩

/-- The instructions of the two blocks after a call. -/
theorem spliced_unify (h : dst.unifySrcblockNoSuccessor src isTrueBranch = .ok (some tb)) :
    Spliced dst src isTrueBranch tb.disInsns.nodes := by
  obtain ⟨hsrc, hvalid, n, hget, hopc⟩ := unify_ok_inv h
  obtain ⟨tb₂, -, -, hnodes, hok⟩ := unify_rule (P := fun _ _ => True) (Q := fun _ _ _ => True) hsrc
    hvalid hget hopc trivial (fun _ _ _ _ _ => trivial) (fun _ _ _ => trivial)
    (fun _ _ _ _ _ _ => trivial)
  rw [hok, Except.ok.injEq, Option.some.injEq] at h
  rw [← h]
  exact hnodes

/-- What a call leaves of the block, and what the block takes from the other one. -/
structure Taken (dst src tb : TB ι) : Prop where
  sameBlock : SameBlock dst tb
  offset : tb.originAotTb.offsetInSegment = dst.originAotTb.offsetInSegment
  branch : tb.branch = src.branch

/-- **The address, the code and the place** of a block are not changed. -/
theorem taken_unify (h : dst.unifySrcblockNoSuccessor src isTrueBranch = .ok (some tb)) :
    Taken dst src tb := by
  obtain ⟨hsrc, hvalid, n, hget, hopc⟩ := unify_ok_inv h
  let Left : TB ι → Prop := fun tb => SameBlock dst tb ∧
    tb.originAotTb.offsetInSegment = dst.originAotTb.offsetInSegment
  obtain ⟨tb₂, -, hleft, -, hok⟩ := unify_rule (P := fun _ => Left) (Q := fun tb _ _ => Left tb) hsrc
    hvalid hget hopc ⟨.refl dst, rfl⟩
    (fun _ tb n htb _ => ⟨htb.1.trans (sameBlock_deleteAt tb n _), htb.2⟩)
    (fun _ htb _ => ⟨⟨htb.1.code, htb.1.x86Addr⟩, htb.2⟩)
    (fun tb i k d htb _ => by
      obtain ⟨_, _, _, hadd⟩ := tb.addBInsn_frame d.opc i
      rw [hadd]
      exact ⟨⟨htb.1.code, htb.1.x86Addr⟩, htb.2⟩)
  rw [hok, Except.ok.injEq, Option.some.injEq] at h
  rw [← h]
  exact ⟨⟨hleft.1.code, hleft.1.x86Addr⟩, hleft.2, rfl⟩

end Unify

/-- The branch of the slot is found when it is at `jmp_target_arg` and the instructions can be
counted. -/
theorem get_cutStart_of_nodes {dst : TB ι} {isTrueBranch : Bool} {n : ListNode LoongArchInsInfo}
    (hlen : dst.disInsns.nodes.length < 2 ^ 32)
    (hn : dst.disInsns.nodes[(dst.originAotTb.jmpTargetArg (slotOf isTrueBranch) / 4).toNat]? =
      some n) :
    (dst.cutStart isTrueBranch).toNat =
        (dst.originAotTb.jmpTargetArg (slotOf isTrueBranch) / 4).toNat ∧
      dst.disInsns.get ((dst.cutStart isTrueBranch).setWidth 64) = .ok n := by
  have hlt := (List.getElem?_eq_some_iff.mp hn).1
  have hstart : (dst.cutStart isTrueBranch).toNat =
      (dst.originAotTb.jmpTargetArg (slotOf isTrueBranch) / 4).toNat := by
    rw [cutStart, BitVec.toNat_setWidth, Nat.mod_eq_of_lt (by omega)]
  refine ⟨hstart, get_of_nodes (hlen.trans (by decide)) ?_⟩
  rw [BitVec.toNat_setWidth_of_le (by decide), hstart, hn]

/-- **A block takes over a successor without successors**: of its instructions those before
the branch are left, and those of the successor follow. -/
theorem unifySrcblockNoSuccessor_ok {dst src : TB ι} {isTrueBranch : Bool} {insn : LoongArchInsInfo}
    (hsrc : src.noSuccessor) (hvalid : dst.originAotTb.slotValid (slotOf isTrueBranch))
    (hlen : dst.insns.length < 2 ^ 30)
    (hinsn : dst.insns[(dst.originAotTb.jmpTargetArg (slotOf isTrueBranch) / 4).toNat]? = some insn)
    (hopc : insn.opc = .OPC_B) :
    ∃ tb, dst.unifySrcblockNoSuccessor src isTrueBranch = .ok (some tb) ∧ SameBlock dst tb ∧
      tb.noSuccessor ∧ (∀ k, tb.branch k = src.branch k) ∧
      tb.insns = dst.insns.take (dst.originAotTb.jmpTargetArg (slotOf isTrueBranch) / 4).toNat ++
        src.insns := by
  rw [insns, List.length_map] at hlen
  rw [insns, List.getElem?_map, Option.map_eq_some_iff] at hinsn
  obtain ⟨n, hn, rfl⟩ := hinsn
  obtain ⟨hstart, hget⟩ := get_cutStart_of_nodes (hlen.trans (by decide)) hn
  have hk := (List.getElem?_eq_some_iff.mp (get_cutStart hget).1).1
  obtain ⟨tb₂, -, hsame, ⟨copied, hcopied, -, hnodes⟩, hok⟩ := unify_rule
    (P := fun _ => SameBlock dst) (Q := fun tb _ _ => SameBlock dst tb) hsrc hvalid hget hopc
    (.refl dst) (fun _ tb n h _ => h.trans (tb.sameBlock_deleteAt n _)) (fun _ h _ => ⟨h.code, h.x86Addr⟩)
    (fun tb i _ d h _ => by
      have hadd := tb.sameBlock_addBInsn d.opc i
      exact ⟨hadd.code.trans h.code, hadd.x86Addr.trans h.x86Addr⟩)
  refine ⟨_, hok, ⟨hsame.code, hsame.x86Addr⟩, ?_, fun k => by cases k <;> rfl, ?_⟩
  · rw [noSuccessor, Bool.and_eq_true, Bool.not_eq_true', Bool.not_eq_true'] at hsrc ⊢
    exact ⟨slotValid_rebaseSlots hsrc.1, slotValid_rebaseSlots hsrc.2⟩
  · rw [cutStart_add_cutCount hk (hlen.trans (by decide)), List.drop_length, List.append_nil] at hnodes
    show tb₂.disInsns.nodes.map _ = _
    rw [hnodes, List.map_append, hcopied, List.map_take, hstart]
    rfl

end TB

end AotOpt
