import AotOpt.AotClass.TB
import Mathlib.Logic.Relation

/-!
# What an edit does

Each edit of a block that does not stop comes down to one of two changes: an instruction
is inserted at a position (`insertInsn`), or the instruction at a position is deleted
together with the relocation that covers it (`deleteAt`). The lemmas of this module say so
once, for every edit, with everything the change does to the block; nothing later unfolds
the edits themselves.

* `addInsn_eq_ok`, `deleteIthInsnAlongwithRel_eq_ok`, `deleteIthInsn_eq_ok`,
  `deleteIthRel_eq_ok` — when an edit does not stop, and what it leaves.
* `Edit.MatchedStep.cases` — an edit whose index matches its node makes one insertion, or
  deletions one after another.
-/

namespace AotOpt

variable {ι : Type}

/-! ### The three branch tables -/

/-- Which of the three tables. -/
inductive BranchKind where
  | b | bne | other
  deriving DecidableEq

/-- The opcodes of the table. -/
def BranchKind.Has : BranchKind → LoongArchOpc → Bool
  | .b, opc => opc = .OPC_B
  | .bne, opc => opc = .OPC_BNE
  | .other, opc => isOtherBranch opc

/-- The thirteen branch opcodes. -/
def isBranch (opc : LoongArchOpc) : Bool :=
  BranchKind.b.Has opc || BranchKind.bne.Has opc || BranchKind.other.Has opc

theorem isBranch_iff {opc : LoongArchOpc} : isBranch opc ↔ ∃ κ : BranchKind, κ.Has opc := by
  constructor
  · intro h
    simp only [isBranch, Bool.or_eq_true] at h
    rcases h with (h | h) | h
    exacts [⟨_, h⟩, ⟨_, h⟩, ⟨_, h⟩]
  · rintro ⟨κ, h⟩
    cases κ <;> simp [isBranch, h]

namespace TB

variable (tb : TB ι)

/-- The table of that kind. -/
def table : BranchKind → List BranchInsnAndOffset
  | .b => tb.bInsns
  | .bne => tb.bneInsns
  | .other => tb.otherBInsns

/-- A branch is appended to its table. -/
theorem table_addBInsn (opc : LoongArchOpc) (index : BitVec 32) (κ : BranchKind) :
    (tb.addBInsn opc index).table κ =
      tb.table κ ++ if κ.Has opc then [⟨tb.disInsns.fresh, index⟩] else [] := by
  unfold addBInsn
  dsimp only
  split_ifs with h1 h2 h3 <;> cases κ <;> simp_all [table, BranchKind.Has, isOtherBranch]

theorem table_deleteBInsn (opc : LoongArchOpc) (i : BitVec 32) (κ : BranchKind) :
    (tb.deleteBInsn opc i).table κ =
      if κ.Has opc then eraseBAndIndex (tb.table κ) i else tb.table κ := by
  unfold deleteBInsn
  split_ifs with h1 h2 h3 <;> cases κ <;> simp_all [table, BranchKind.Has, isOtherBranch]

/-! ### Inserting an instruction -/

/-- An instruction is inserted at position `k`, as the instruction with index `index`. -/
def insertInsn (k : ℕ) (insn : LoongArchInsInfo) (index : BitVec 32) : TB ι :=
  { (tb.adjustIndexOfBranchsWhenAddInsn index).addBInsn insn.opc index with
    rels := shiftRelsAdd ((index <<< 2).setWidth 64) tb.rels
    originAotTb := shiftSlotsAdd ((index <<< 2).setWidth 64) tb.originAotTb
    disInsns := tb.disInsns.insertAt k insn }

section

variable (k : ℕ) (insn : LoongArchInsInfo) (index : BitVec 32)

@[simp] theorem disInsns_insertInsn :
    (tb.insertInsn k insn index).disInsns = tb.disInsns.insertAt k insn := rfl

@[simp] theorem rels_insertInsn : (tb.insertInsn k insn index).rels =
    shiftRelsAdd ((index <<< 2).setWidth 64) tb.rels := rfl

@[simp] theorem originAotTb_insertInsn : (tb.insertInsn k insn index).originAotTb =
    shiftSlotsAdd ((index <<< 2).setWidth 64) tb.originAotTb := rfl

theorem table_insertInsn (κ : BranchKind) : (tb.insertInsn k insn index).table κ =
    adjustIndexOfBranchsAdd (tb.table κ) index ++
      if κ.Has insn.opc then [⟨tb.disInsns.fresh, index⟩] else [] := by
  have h := (tb.adjustIndexOfBranchsWhenAddInsn index).table_addBInsn insn.opc index κ
  cases κ <;> exact h

end

/-- **`add_insn` that does not stop** inserts the instruction after `prev`, which no valid
relocation covers. -/
theorem addInsn_eq_ok {prev q : Ptr} {insn : LoongArchInsInfo} {index : BitVec 32} {tb' : TB ι} :
    tb.addInsn prev insn index = .ok (q, tb') ↔
      tb.rels.any (·.hit (((index + 1) <<< 2).setWidth 64)) = false ∧
      ∃ k, tb.disInsns.posAfter prev = some k ∧ q = .node tb.disInsns.fresh ∧
        tb' = tb.insertInsn k insn (index + 1) := by
  unfold addInsn
  dsimp only
  by_cases hhit : tb.rels.any (·.hit (((index + 1) <<< 2).setWidth 64))
  · rw [if_pos hhit, hhit]
    simp
  · rw [if_neg hhit, bind_eq_ok]
    simp only [LinkList.insertAfter_eq_ok, Except.ok.injEq, Prod.mk.injEq]
    constructor
    · rintro ⟨l', ⟨k, hk, rfl⟩, rfl, rfl⟩
      exact ⟨by simpa using hhit, k, hk, rfl, rfl⟩
    · rintro ⟨-, k, hk, rfl, rfl⟩
      exact ⟨_, ⟨k, hk, rfl⟩, rfl, rfl⟩

/-! ### Deleting an instruction -/

/-- The instruction of node `n` is deleted, as the instruction with index `i`, and the
first valid relocation that covers it becomes invalid. -/
def deleteAt (n : ListNode LoongArchInsInfo) (i : BitVec 64) : TB ι :=
  ({ tb with rels := dropRel (i <<< 2) tb.rels } : TB ι).removeInsn n.addr n.data.opc i

section

variable (n : ListNode LoongArchInsInfo) (i : BitVec 64)

@[simp] theorem disInsns_deleteAt : (tb.deleteAt n i).disInsns = tb.disInsns.remove n.addr := rfl

@[simp] theorem rels_deleteAt : (tb.deleteAt n i).rels =
    shiftRelsDelete (i <<< 2) (dropRel (i <<< 2) tb.rels) := rfl

@[simp] theorem originAotTb_deleteAt : (tb.deleteAt n i).originAotTb =
    shiftSlotsDelete (i <<< 2) tb.originAotTb := rfl

theorem table_deleteAt (κ : BranchKind) : (tb.deleteAt n i).table κ =
    adjustIndexOfBranchs (if κ.Has n.data.opc then eraseBAndIndex (tb.table κ) (i.setWidth 32)
      else tb.table κ) (i.setWidth 32) := by
  have h := ({ tb with rels := dropRel (i <<< 2) tb.rels } : TB ι).table_deleteBInsn n.data.opc
    (i.setWidth 32) κ
  cases κ <;> exact congrArg (adjustIndexOfBranchs · (i.setWidth 32)) h

end

/-- The node a pointer points to, with its position. -/
theorem nodeAt_eq_ok {p : Ptr} {a : ℕ} {d : LoongArchInsInfo} :
    tb.nodeAt p = .ok (a, d) ↔ p = .node a ∧ ∃ k : ℕ, tb.disInsns.nodes[k]? = some ⟨a, d⟩ := by
  cases p with
  | head => simp [nodeAt]
  | tail => simp [nodeAt]
  | node b =>
    simp only [nodeAt, Ptr.node.injEq]
    constructor
    · intro h
      split at h
      · next insn hb =>
        simp only [Except.ok.injEq, Prod.mk.injEq] at h
        obtain ⟨rfl, rfl⟩ := h
        exact ⟨rfl, LinkList.data?_eq_some.mp hb⟩
      · cases h
    · rintro ⟨rfl, hk⟩
      rw [LinkList.data?_eq_some.mpr hk]

/-- **`delete_ith_insn_alongwith_rel` that does not stop** deletes the instruction of the
node it is given. -/
theorem deleteIthInsnAlongwithRel_eq_ok {p q : Ptr} {i : BitVec 64} {tb' : TB ι} :
    tb.deleteIthInsnAlongwithRel p i = .ok (q, tb') ↔
      ∃ (k : ℕ) (n : ListNode LoongArchInsInfo), tb.disInsns.nodes[k]? = some n ∧ p = .node n.addr ∧
        q = .first (tb.disInsns.nodes.drop (k + 1)) ∧ tb' = tb.deleteAt n i := by
  unfold deleteIthInsnAlongwithRel
  rw [bind_eq_ok]
  constructor
  · rintro ⟨⟨a, d⟩, hnode, h⟩
    obtain ⟨rfl, k, hk⟩ := tb.nodeAt_eq_ok.mp hnode
    simp only [Except.ok.injEq, Prod.mk.injEq] at h
    obtain ⟨rfl, rfl⟩ := h
    exact ⟨k, ⟨a, d⟩, hk, rfl, LinkList.next_of_nodes hk, rfl⟩
  · rintro ⟨k, n, hk, rfl, rfl, rfl⟩
    refine ⟨(n.addr, n.data), tb.nodeAt_eq_ok.mpr ⟨rfl, k, hk⟩, ?_⟩
    rw [← LinkList.next_of_nodes hk]
    rfl

theorem dropRel_eq_self {offset : BitVec 64} : ∀ {rels : List RelSlot},
    rels.any (·.hit offset) = false → dropRel offset rels = rels
  | [], _ => rfl
  | r :: rels, h => by
    rw [List.any_cons, Bool.or_eq_false_iff] at h
    rw [dropRel, h.1, dropRel_eq_self h.2]
    rfl

/-- **`delete_ith_insn` that does not stop** changes nothing when a valid relocation covers
the index, and deletes the instruction of the node it is given otherwise. -/
theorem deleteIthInsn_eq_ok {p q : Ptr} {i : BitVec 64} {tb' : TB ι} :
    tb.deleteIthInsn p i = .ok (q, tb') ↔
      (tb.rels.any (·.hit (i <<< 2)) = true ∧ q = p ∧ tb' = tb) ∨
      (tb.rels.any (·.hit (i <<< 2)) = false ∧ tb.deleteIthInsnAlongwithRel p i = .ok (q, tb')) := by
  unfold deleteIthInsn
  by_cases h : tb.rels.any (·.hit (i <<< 2))
  · simp [h, eq_comm]
  · have hf : tb.rels.any (·.hit (i <<< 2)) = false := by simpa using h
    rw [if_neg h, deleteIthInsnAlongwithRel, dropRel_eq_self hf]
    simp [hf]

/-- The loop of `delete_ith_rel` from the node at position `q` on deletes the instructions
there one after another, each at position `q`. -/
theorem deleteRun_eq_ok {q : ℕ} {i : BitVec 64} {count : ℕ} {p' : Ptr} {tb' : TB ι} :
    tb.deleteRun (.first (tb.disInsns.nodes.drop q)) i (count + 1) = .ok (p', tb') ↔
      ∃ n : ListNode LoongArchInsInfo, tb.disInsns.nodes[q]? = some n ∧
        (tb.deleteAt n i).deleteRun (.first ((tb.deleteAt n i).disInsns.nodes.drop q)) i count =
          .ok (p', tb') := by
  have hdrop : ∀ n : ListNode LoongArchInsInfo, tb.disInsns.nodes[q]? = some n →
      (tb.deleteAt n i).disInsns.nodes.drop q = tb.disInsns.nodes.drop (q + 1) := by
    intro n hn
    rw [disInsns_deleteAt, LinkList.nodes_remove (LinkList.addrs_of_nodes hn),
      List.eraseIdx_eq_take_drop_succ, List.drop_append, List.drop_take]
    have := (List.getElem?_eq_some_iff.mp hn).1
    simp [List.length_take, Nat.min_eq_left this.le]
  rw [deleteRun, bind_eq_ok]
  constructor
  · rintro ⟨⟨next, tb₁⟩, h1, h2⟩
    obtain ⟨k, n, hn, hp, rfl, rfl⟩ := tb.deleteIthInsnAlongwithRel_eq_ok.mp h1
    have hq : tb.disInsns.nodes[q]? = some n := by
      cases hd : tb.disInsns.nodes.drop q with
      | nil => rw [hd] at hp; cases hp
      | cons m ms =>
        rw [hd, Ptr.first, Ptr.node.injEq] at hp
        have hm : tb.disInsns.nodes[q]? = some m := by
          rw [← List.head?_drop, hd, List.head?_cons]
        have hk : k = q := Lib.pos_unique tb.disInsns.nodup_addrs (LinkList.addrs_of_nodes hn)
          (hp ▸ LinkList.addrs_of_nodes hm)
        exact hk ▸ hn
    have hk : k = q := Lib.pos_unique tb.disInsns.nodup_addrs (LinkList.addrs_of_nodes hn)
      (LinkList.addrs_of_nodes hq)
    subst hk
    exact ⟨n, hn, by rw [hdrop n hn]; exact h2⟩
  · rintro ⟨n, hn, h⟩
    refine ⟨(.first (tb.disInsns.nodes.drop (q + 1)), tb.deleteAt n i),
      tb.deleteIthInsnAlongwithRel_eq_ok.mpr ⟨q, n, hn, ?_, rfl, rfl⟩, ?_⟩
    · rw [← List.getElem_cons_drop (List.getElem?_eq_some_iff.mp hn).1, Ptr.first,
        (List.getElem?_eq_some_iff.mp hn).2]
    · rw [hdrop n hn] at h
      exact h

/-- **A run that does not leave the list** does not stop, and deletes `count` instructions from
position `q` on. `P c` is what holds when `c` of them are still to be deleted. -/
theorem deleteRun_ok {P : ℕ → TB ι → Prop} {q : ℕ} {i : BitVec 64}
    (hP : ∀ (c : ℕ) (tb : TB ι) (n : ListNode LoongArchInsInfo), P (c + 1) tb →
      tb.disInsns.nodes[q]? = some n → P c (tb.deleteAt n i)) :
    ∀ (count : ℕ) {tb : TB ι}, P count tb → q + count ≤ tb.disInsns.nodes.length →
      ∃ p tb', tb.deleteRun (.first (tb.disInsns.nodes.drop q)) i count = .ok (p, tb') ∧ P 0 tb' ∧
        tb'.disInsns.nodes = tb.disInsns.nodes.take q ++ tb.disInsns.nodes.drop (q + count)
  | 0, tb, h, _ => ⟨_, tb, rfl, h, by simp⟩
  | count + 1, tb, h, hlt => by
    have hq : q < tb.disInsns.nodes.length := by omega
    have hn : tb.disInsns.nodes[q]? = some tb.disInsns.nodes[q] := List.getElem?_eq_getElem hq
    have hnodes := LinkList.nodes_remove (LinkList.addrs_of_nodes hn)
    obtain ⟨p, tb', hrun, h', hnodes'⟩ := deleteRun_ok hP count
      (hP count tb tb.disInsns.nodes[q] h hn)
      (by rw [disInsns_deleteAt, hnodes, List.length_eraseIdx_of_lt hq]; omega)
    refine ⟨p, tb', tb.deleteRun_eq_ok.mpr ⟨_, hn, hrun⟩, h', ?_⟩
    have hlen : (tb.disInsns.nodes.take q).length = q := List.length_take_of_le hq.le
    rw [hnodes', disInsns_deleteAt, hnodes, List.eraseIdx_eq_take_drop_succ, List.take_append,
      List.take_take, Nat.min_self, List.drop_append, hlen, List.drop_drop,
      List.drop_eq_nil_of_le (by omega : (tb.disInsns.nodes.take q).length ≤ q + count)]
    have h1 : q - q = 0 := Nat.sub_self q
    have h2 : q + 1 + (q + count - q) = q + (count + 1) := by omega
    rw [h1, List.take_zero, List.append_nil, List.nil_append, h2]

theorem get_of_nodes {α : Type} {l : LinkList α} {i : BitVec 64} {n : ListNode α}
    (hlen : l.nodes.length < 2 ^ 64) (h : l.nodes[i.toNat]? = some n) : l.get i = .ok n := by
  have hi : i < l.totalSize := by
    rw [BitVec.lt_def, LinkList.totalSize, BitVec.toNat_ofNat, Nat.mod_eq_of_lt hlen]
    exact (List.getElem?_eq_some_iff.mp h).1
  rw [LinkList.get, decide_eq_true hi, assert_true, ok_bind, h]

theorem get_eq_ok {α : Type} {l : LinkList α} {i : BitVec 64} {n : ListNode α} :
    l.get i = .ok n → l.nodes[i.toNat]? = some n := by
  unfold LinkList.get
  rw [bind_eq_ok]
  rintro ⟨-, -, h⟩
  split at h
  · next m hm => rw [hm, Except.ok.inj h]
  · cases h

/-- **`delete_ith_rel` that does not stop** does nothing for a relocation that is not
valid, and deletes as many instructions as the relocation has from its start on. -/
theorem deleteIthRel_eq_ok {i : BitVec 64} {q : Option Ptr} {tb' : TB ι}
    (h : tb.deleteIthRel i = .ok (q, tb')) : ∃ r : RelSlot, tb.rels[i.toNat]? = some r ∧
      ((r.valid = false ∧ tb' = tb) ∨
        r.valid = true ∧ ∃ p, q = some p ∧
          tb.deleteRun (.first (tb.disInsns.nodes.drop (r.rel.tcOffset >>> 2).toNat))
            ((r.rel.tcOffset >>> 2).setWidth 64) r.rel.relSlotsNum.toNat = .ok (p, tb')) := by
  unfold deleteIthRel at h
  split at h
  · cases h
  · next r hr =>
    refine ⟨r, hr, ?_⟩
    split at h
    · next hv =>
      obtain ⟨n, hget, h⟩ := bind_eq_ok.mp h
      obtain ⟨⟨p, tb₁⟩, hrun, h⟩ := bind_eq_ok.mp h
      simp only [Except.ok.injEq, Prod.mk.injEq] at h
      obtain ⟨rfl, rfl⟩ := h
      refine .inr ⟨hv, p, rfl, ?_⟩
      have hn := get_eq_ok hget
      rw [BitVec.toNat_setWidth_of_le (by decide)] at hn
      rw [← List.getElem_cons_drop (List.getElem?_eq_some_iff.mp hn).1, Ptr.first,
        (List.getElem?_eq_some_iff.mp hn).2]
      exact hrun
    · next hv =>
      simp only [Except.ok.injEq, Prod.mk.injEq] at h
      obtain ⟨-, rfl⟩ := h
      exact .inl ⟨by simpa using hv, rfl⟩

end TB

/-! ### The five edits -/

/-- An edit of a block, with its arguments. -/
inductive Edit where
  | addInsn (prev : Ptr) (inserted : LoongArchInsInfo) (index : BitVec 32)
  | addInsnAtTail (inserted : LoongArchInsInfo) (index : BitVec 32)
  | deleteIthInsn (node : Ptr) (i : BitVec 64)
  | deleteIthInsnAlongwithRel (node : Ptr) (i : BitVec 64)
  | deleteIthRel (i : BitVec 64)

namespace Edit

/-- The edit, without its result. -/
def run (tb : TB ι) : Edit → Res (TB ι)
  | .addInsn prev inserted index => (·.2) <$> tb.addInsn prev inserted index
  | .addInsnAtTail inserted index => (·.2) <$> tb.addInsnAtTail inserted index
  | .deleteIthInsn node i => (·.2) <$> tb.deleteIthInsn node i
  | .deleteIthInsnAlongwithRel node i => (·.2) <$> tb.deleteIthInsnAlongwithRel node i
  | .deleteIthRel i => (·.2) <$> tb.deleteIthRel i

/-- The index is the one of the instruction after which is inserted: `index + 1` is where the
inserted instruction goes. -/
def AddMatches (tb : TB ι) (prev : Ptr) (index : BitVec 32) : Prop :=
  ∃ k, tb.disInsns.posAfter prev = some k ∧ index + 1 = BitVec.ofNat 32 k

/-- The index is the one of the node. -/
def DeleteMatches (tb : TB ι) (node : Ptr) (i : BitVec 64) : Prop :=
  ∃ n : ListNode LoongArchInsInfo, node = .node n.addr ∧ tb.disInsns.nodes[i.toNat]? = some n

/-- The index argument of the edit matches its node argument. -/
def Matches (tb : TB ι) : Edit → Prop
  | .addInsn prev _ index => AddMatches tb prev index
  | .addInsnAtTail _ index => AddMatches tb tb.disInsns.last index
  | .deleteIthInsn node i | .deleteIthInsnAlongwithRel node i => DeleteMatches tb node i
  | .deleteIthRel _ => True

/-- The edit does not stop and leaves `tb'`. -/
def Step (tb : TB ι) (e : Edit) (tb' : TB ι) : Prop := e.run tb = .ok tb'

/-- The edit has matching arguments, does not stop and leaves `tb'`. -/
def MatchedStep (tb : TB ι) (e : Edit) (tb' : TB ι) : Prop := e.Matches tb ∧ e.run tb = .ok tb'

end Edit

/-! ### Two changes -/

namespace TB

/-- An instruction that no valid relocation covers is inserted at position `k`, as the
instruction with index `k`. -/
def InsertStep (tb : TB ι) (k : ℕ) (insn : LoongArchInsInfo) (tb' : TB ι) : Prop :=
  k ≤ tb.disInsns.nodes.length ∧
    tb.rels.any (·.hit ((BitVec.ofNat 32 k <<< 2).setWidth 64)) = false ∧
    tb' = tb.insertInsn k insn (BitVec.ofNat 32 k)

/-- The instruction at some position is deleted, as the instruction with that index. -/
def DeleteStep (tb tb' : TB ι) : Prop :=
  ∃ (k : ℕ) (n : ListNode LoongArchInsInfo), tb.disInsns.nodes[k]? = some n ∧
    tb' = tb.deleteAt n (BitVec.ofNat 64 k)

/-- A deletion makes the list no longer. -/
theorem DeleteStep.length_le {tb tb' : TB ι} (h : tb.DeleteStep tb') :
    tb'.disInsns.nodes.length ≤ tb.disInsns.nodes.length := by
  obtain ⟨k, n, hn, rfl⟩ := h
  rw [disInsns_deleteAt, LinkList.nodes_remove (LinkList.addrs_of_nodes hn)]
  exact (List.eraseIdx_sublist _ _).length_le

theorem DeleteStep.of_ok {tb tb' : TB ι} {p q : Ptr} {i : BitVec 64}
    (hm : Edit.DeleteMatches tb p i) (h : tb.deleteIthInsnAlongwithRel p i = .ok (q, tb')) :
    tb.DeleteStep tb' := by
  obtain ⟨n, rfl, hn⟩ := hm
  obtain ⟨k, m, hm, hp, -, rfl⟩ := tb.deleteIthInsnAlongwithRel_eq_ok.mp h
  rw [Ptr.node.injEq] at hp
  have hk : k = i.toNat := Lib.pos_unique tb.disInsns.nodup_addrs (LinkList.addrs_of_nodes hm)
    (hp ▸ LinkList.addrs_of_nodes hn)
  subst hk
  exact ⟨_, m, hm, by rw [BitVec.ofNat_toNat, BitVec.setWidth_eq]⟩

/-- The loop of `delete_ith_rel` deletes instructions one after another. -/
theorem deleteSteps_of_deleteRun {q : ℕ} {p : Ptr} {tb' : TB ι} : ∀ {count : ℕ} {tb : TB ι},
    tb.deleteRun (.first (tb.disInsns.nodes.drop q)) (BitVec.ofNat 64 q) count = .ok (p, tb') →
      Relation.ReflTransGen DeleteStep tb tb'
  | 0, tb, h => by
    rw [deleteRun, Except.ok.injEq, Prod.mk.injEq] at h
    exact h.2 ▸ .refl
  | count + 1, tb, h => by
    obtain ⟨n, hn, h⟩ := tb.deleteRun_eq_ok.mp h
    exact .head ⟨q, n, hn, rfl⟩ (deleteSteps_of_deleteRun h)

end TB

namespace Edit

/-- Where the edit inserts an instruction, if it inserts one. -/
def insertPos (tb : TB ι) : Edit → Option ℕ
  | .addInsn prev _ _ => tb.disInsns.posAfter prev
  | .addInsnAtTail _ _ => tb.disInsns.posAfter tb.disInsns.last
  | _ => none

theorem insertStep_of_ok {tb tb' : TB ι} {prev q : Ptr} {insn : LoongArchInsInfo}
    {index : BitVec 32} (hm : AddMatches tb prev index)
    (h : tb.addInsn prev insn index = .ok (q, tb')) :
    ∃ k, tb.disInsns.posAfter prev = some k ∧ tb.InsertStep k insn tb' := by
  obtain ⟨k, hk, hidx⟩ := hm
  obtain ⟨hhit, k', hk', -, rfl⟩ := tb.addInsn_eq_ok.mp h
  obtain rfl : k = k' := Option.some.inj (hk.symm.trans hk')
  rw [hidx] at hhit ⊢
  exact ⟨k, hk, LinkList.posAfter_le hk, hhit, rfl⟩

/-- **Every edit** with matching arguments that does not stop inserts one instruction, or
deletes instructions one after another. -/
theorem MatchedStep.cases {tb tb' : TB ι} {e : Edit} (h : MatchedStep tb e tb') :
    (∃ k insn, e.insertPos tb = some k ∧ tb.InsertStep k insn tb') ∨
      (e.insertPos tb = none ∧ Relation.ReflTransGen TB.DeleteStep tb tb') := by
  obtain ⟨hm, hr⟩ := h
  cases e with
  | addInsn prev insn index =>
    obtain ⟨⟨q, tb₁⟩, hok, rfl⟩ := map_eq_ok.mp hr
    obtain ⟨k, hk, hs⟩ := insertStep_of_ok hm hok
    exact .inl ⟨k, insn, hk, hs⟩
  | addInsnAtTail insn index =>
    obtain ⟨⟨q, tb₁⟩, hok, rfl⟩ := map_eq_ok.mp hr
    obtain ⟨k, hk, hs⟩ := insertStep_of_ok hm hok
    exact .inl ⟨k, insn, hk, hs⟩
  | deleteIthInsn p i =>
    obtain ⟨⟨q, tb₁⟩, hok, rfl⟩ := map_eq_ok.mp hr
    rcases tb.deleteIthInsn_eq_ok.mp hok with ⟨-, -, rfl⟩ | ⟨-, hok⟩
    · exact .inr ⟨rfl, .refl⟩
    · exact .inr ⟨rfl, .single (.of_ok hm hok)⟩
  | deleteIthInsnAlongwithRel p i =>
    obtain ⟨⟨q, tb₁⟩, hok, rfl⟩ := map_eq_ok.mp hr
    exact .inr ⟨rfl, .single (.of_ok hm hok)⟩
  | deleteIthRel i =>
    obtain ⟨⟨q, tb₁⟩, hok, rfl⟩ := map_eq_ok.mp hr
    obtain ⟨r, -, ⟨-, rfl⟩ | ⟨-, p, -, hrun⟩⟩ := tb.deleteIthRel_eq_ok hok
    · exact .inr ⟨rfl, .refl⟩
    · rw [← BitVec.ofNat_toNat] at hrun
      exact .inr ⟨rfl, TB.deleteSteps_of_deleteRun hrun⟩

end Edit

end AotOpt
