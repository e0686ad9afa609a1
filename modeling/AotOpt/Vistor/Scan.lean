import AotOpt.AotClass.Guarded

/-!
# Scanning a block

Four of the passes walk over the instructions from the first on, stop at the first `b` or
`bne`, and rewrite and delete instructions on the way. They keep the index of the current
instruction in a counter of their own, which may fall behind it (when `delete_ith_insn` keeps
an instruction) but never runs ahead. `Scanned` says how far such a walk has come. What the
passes do there keeps the branches that are still ahead.

* `Scanned.pass`, `Scanned.passOne`, `Scanned.update` — going on, and assigning to the last instruction passed.
* `Scanned.deleteIthInsn`, `Scanned.deleteRun` — deleting what comes next.
-/

namespace AotOpt

variable {ι : Type}

/-- The walk has passed the instructions `pre`, among them no `b` and no `bne`, and `nodes`
are what follows. -/
structure Scanned (tb : TB ι) (pre nodes : List (ListNode LoongArchInsInfo)) : Prop where
  ordered : tb.Ordered
  nodes : tb.disInsns.nodes = pre ++ nodes
  plain : ∀ m ∈ pre, isBOrBne m.data.opc = false

namespace Scanned

variable {tb : TB ι} {pre nodes ns : List (ListNode LoongArchInsInfo)}
  {n : ListNode LoongArchInsInfo} {i : BitVec 64}

theorem start (h : tb.Ordered) : Scanned tb [] tb.disInsns.nodes := ⟨h, rfl, by simp⟩

/-- The walk goes on over other instructions. -/
theorem pass (h : Scanned tb pre (ns ++ nodes)) (hns : ∀ m ∈ ns, isBOrBne m.data.opc = false) :
    Scanned tb (pre ++ ns) nodes := by
  refine ⟨h.ordered, by rw [h.nodes, List.append_assoc], fun m hm => ?_⟩
  rcases List.mem_append.mp hm with hm | hm
  · exact h.plain m hm
  · exact hns m hm

/-- The walk goes on over one instruction. -/
theorem passOne (h : Scanned tb pre (n :: nodes)) (hn : isBOrBne n.data.opc = false) :
    Scanned tb (pre ++ [n]) nodes := by
  have h' : Scanned tb pre ([n] ++ nodes) := h
  exact h'.pass (by simpa using hn)

/-- The last instruction passed is the next one again. -/
theorem back (h : Scanned tb (pre ++ [n]) nodes) : Scanned tb pre (n :: nodes) :=
  ⟨h.ordered, by rw [h.nodes, List.append_assoc]; rfl, fun m hm => h.plain m (List.mem_append_left _ hm)⟩

/-- No list of instructions is longer than an index can count. -/
theorem length_lt (h : Scanned tb pre nodes) : pre.length + nodes.length < 2 ^ 30 := by
  have := h.ordered.length_lt
  rw [h.nodes, List.length_append] at this
  exact this

/-- The next instruction, if it is another one, stands in front of the branch of every slot. -/
theorem lt_slotIndex (h : Scanned tb pre (n :: nodes)) (hn : isBOrBne n.data.opc = false) {j : Fin 2}
    (hj : tb.originAotTb.slotValid j) : pre.length < tb.originAotTb.slotIndex j := by
  have hslot := h.ordered.slot j hj
  by_contra hle
  -- otherwise the branch would be among the instructions passed
  obtain ⟨m, hm, hopc⟩ := TB.opcAt_eq_some.mp hslot
  have hplain : isBOrBne m.data.opc = false := by
    rw [h.nodes] at hm
    rcases Nat.lt_or_eq_of_le (not_lt.mp hle) with hlt | heq
    · rw [List.getElem?_append_left hlt] at hm
      exact h.plain m (List.mem_of_getElem? hm)
    · rw [heq, List.getElem?_append_right le_rfl, Nat.sub_self, List.getElem?_cons_zero,
        Option.some.injEq] at hm
      exact hm ▸ hn
  exact (ne_of_not_isBOrBne hplain).1 hopc

/-- The next instruction is deleted, at an index that is not ahead. -/
theorem deleteAt (h : Scanned tb pre (n :: nodes)) (hn : isBOrBne n.data.opc = false)
    (hi : i.toNat ≤ pre.length) : Scanned (tb.deleteAt n i) pre nodes := by
  have hlen := h.length_lt
  have hmid : tb.disInsns.nodes[pre.length]? = some n := LinkList.nodes_mid h.nodes
  have hr : TB.Removed tb (tb.deleteAt n i) pre.length := by
    refine TB.removed_deleteAt hmid (by omega) fun j hj => .inl ⟨h.lt_slotIndex hn hj, ?_⟩
    exact hi.trans_lt (h.lt_slotIndex hn hj)
  refine ⟨h.ordered.removed hr fun _ _ => .inl ?_, LinkList.nodes_remove_mid h.nodes, h.plain⟩
  rw [TB.opcAt_of_nodes hmid, ne_eq, Option.some.injEq]
  exact (ne_of_not_isBOrBne hn).2

/-- **`delete_ith_insn`** of the next instruction deletes it or passes it. -/
theorem deleteIthInsn (h : Scanned tb pre (n :: nodes)) (hn : isBOrBne n.data.opc = false)
    (hi : i.toNat ≤ pre.length) : ∃ p tb' pre', tb.deleteIthInsn (.node n.addr) i = .ok (p, tb') ∧
      Scanned tb' pre' nodes ∧ pre.length ≤ pre'.length := by
  by_cases hhit : tb.rels.any (·.hit (i <<< 2)) = true
  · exact ⟨_, _, pre ++ [n], tb.deleteIthInsn_eq_ok.mpr (.inl ⟨hhit, rfl, rfl⟩), h.passOne hn, by simp⟩
  · refine ⟨_, _, pre, tb.deleteIthInsn_eq_ok.mpr (.inr ⟨by simpa using hhit,
      tb.deleteIthInsnAlongwithRel_eq_ok.mpr ⟨pre.length, n, LinkList.nodes_mid h.nodes, rfl, rfl,
        rfl⟩⟩), h.deleteAt hn hi, le_rfl⟩

/-- **A run** that deletes the next instructions. -/
theorem deleteRun (h : Scanned tb pre (ns ++ nodes)) (hns : ∀ m ∈ ns, isBOrBne m.data.opc = false)
    (hi : i.toNat ≤ pre.length) :
    ∃ p tb', tb.deleteRun (.first (ns ++ nodes)) i ns.length = .ok (p, tb') ∧
      Scanned tb' pre nodes := by
  have hdrop : ns ++ nodes = tb.disInsns.nodes.drop pre.length := by
    rw [h.nodes, List.drop_left]
  -- when `c` are still to be deleted, they are the last `c` of `ns`
  have hstep : ∀ (c : ℕ) (tb : TB ι) (n : ListNode LoongArchInsInfo),
      (∃ ms, ms.length = c + 1 ∧ (∀ m ∈ ms, isBOrBne m.data.opc = false) ∧
        Scanned tb pre (ms ++ nodes)) → tb.disInsns.nodes[pre.length]? = some n →
      ∃ ms, ms.length = c ∧ (∀ m ∈ ms, isBOrBne m.data.opc = false) ∧
        Scanned (tb.deleteAt n i) pre (ms ++ nodes) := by
    rintro c tb n ⟨ms, hlen, hms, h⟩ hn
    obtain ⟨m, ms', rfl⟩ := List.exists_cons_of_length_eq_add_one hlen
    obtain rfl : m = n := Option.some.inj ((LinkList.nodes_mid h.nodes).symm.trans hn)
    exact ⟨ms', by simpa using hlen, fun m' hm' => hms m' (List.mem_cons_of_mem _ hm'),
      h.deleteAt (hms m List.mem_cons_self) hi⟩
  have hlast : pre.length + ns.length ≤ tb.disInsns.nodes.length := by
    rw [h.nodes, List.length_append, List.length_append]
    omega
  obtain ⟨p, tb', hrun, ⟨ms, hlen, -, h'⟩, -⟩ := TB.deleteRun_ok (P := fun c tb => ∃ ms,
    ms.length = c ∧ (∀ m ∈ ms, isBOrBne m.data.opc = false) ∧ Scanned tb pre (ms ++ nodes))
    hstep ns.length ⟨ns, rfl, hns, h⟩ hlast
  rw [List.length_eq_zero_iff.mp hlen] at h'
  rw [hdrop]
  exact ⟨p, tb', hrun, h'⟩

/-- **An assignment** to the next instruction, which is passed. -/
theorem update (h : Scanned tb pre (n :: nodes)) (hn : isBOrBne n.data.opc = false)
    {f : LoongArchInsInfo → LoongArchInsInfo} (hf : isBOrBne (f n.data).opc = false) :
    Scanned (tb.updateInsn n.addr f) (pre ++ [⟨n.addr, f n.data⟩]) nodes := by
  have hmid := LinkList.nodes_mid h.nodes
  refine ⟨h.ordered.assigned (TB.assigned_updateInsn tb fun m hm ha => .inr ?_), ?_, fun m hm => ?_⟩
  · obtain ⟨k, hk⟩ := List.mem_iff_getElem?.mp hm
    have hpos : k = pre.length := Lib.pos_unique tb.disInsns.nodup_addrs (LinkList.addrs_of_nodes hk)
      (ha ▸ LinkList.addrs_of_nodes hmid)
    rw [hpos, hmid, Option.some.injEq] at hk
    exact hk ▸ hn
  · rw [List.append_assoc]
    exact LinkList.nodes_update_mid f h.nodes
  · rcases List.mem_append.mp hm with hm | hm
    · exact h.plain m hm
    · rw [List.mem_singleton.mp hm]
      exact hf

end Scanned

/-- A counter that is not ahead is not ahead after as many steps of both. -/
theorem toNat_add_ofNat_le {cur : BitVec 32} {k l : ℕ} (h : cur.toNat ≤ k) :
    (cur + BitVec.ofNat 32 l).toNat ≤ k + l := by
  rw [BitVec.toNat_add, BitVec.toNat_ofNat]
  have := Nat.mod_le (cur.toNat + l % 2 ^ 32) (2 ^ 32)
  have := Nat.mod_le l (2 ^ 32)
  omega

theorem toNat_add_one_le {α : Type} {cur : BitVec 32} {pre : List α} (h : cur.toNat ≤ pre.length) (n : α) :
    (cur + 1).toNat ≤ (pre ++ [n]).length := by
  rw [List.length_append]
  exact toNat_add_ofNat_le h

end AotOpt
