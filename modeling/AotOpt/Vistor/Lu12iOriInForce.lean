import AotOpt.Vistor.Lu12iOri
import Mathlib.Data.Finset.Card

/-!
# Which pairs are in force

What the constants of `Lu12i_Ori_Vistor` come from, said of the block itself. A pair is in force
until an instruction names its register as destination. A pair that no relocation covers is always
recorded; one under a relocation is recorded where no recorded pair is in force, for there the outer
loop comes to it (`Holds`, `Idle`). An `addi.d` is made where a recorded pair in force is close, and
its base is the lowest such register (`Base`).

* `mem_items_iff` — where the plan of a visit has an `addi.d`, and what its base comes from.
-/

namespace AotOpt.Lu12iOriVistor

/-- A node, and whether a valid relocation covers it. -/
abbrev MarkedNode := ListNode LoongArchInsInfo × Bool

/-- The pair `x`, `y` is in force behind `mid`: nothing there writes to its register. One that loads
`$zero` is in force up to the next instruction only. -/
def InForce (x y : MarkedNode) (mid : List MarkedNode) : Prop :=
  isLu12iOriPattern [x.1, y.1] = true ∧
    (mid = [] ∨ x.1.data.dstReg ≠ 0 ∧ ∀ n ∈ mid, n.1.data.dstReg ≠ x.1.data.dstReg)

/-- Behind `nodes` no recorded pair is in force. -/
def Idle (nodes : List MarkedNode) : Prop :=
  ∀ p x y mid, nodes = p ++ x :: y :: mid → InForce x y mid → (x.2 || y.2) = true ∧ ¬Idle p
termination_by nodes.length
decreasing_by
  subst nodes
  simp only [List.length_append, List.length_cons]
  omega

/-- Behind `nodes` the pair `x`, `y` behind `p` is in force, and is recorded. -/
structure Holds (nodes p : List MarkedNode) (x y : MarkedNode) : Prop where
  split : ∃ mid, nodes = p ++ x :: y :: mid ∧ InForce x y mid
  recorded : (x.2 || y.2) = false ∨ Idle p

/-- The pair whose register is the base of an `addi.d` in place of a pair that loads `imm`: the
lowest register that is close. -/
structure Base (nodes : List MarkedNode) (imm : BitVec 64) (p : List MarkedNode) (u v : MarkedNode) :
    Prop where
  holds : Holds nodes p u v
  mem_regs : u.1.data.dstReg ∈ LoadImm.regs
  close : canSubstitueWithAddiInsn (imm - pairImm u.1 v.1) = true
  least : ∀ p' u' v', Holds nodes p' u' v' → u'.1.data.dstReg ∈ LoadImm.regs →
    canSubstitueWithAddiInsn (imm - pairImm u'.1 v'.1) = true → u.1.data.dstReg ≤ u'.1.data.dstReg

section Holds

variable {nodes p : List MarkedNode} {x y n : MarkedNode}

theorem idle_iff : Idle nodes ↔ ∀ p x y, ¬Holds nodes p x y := by
  rw [Idle]
  constructor
  · rintro h p x y ⟨⟨mid, hsplit, hforce⟩, hrec⟩
    obtain ⟨hrel, hbusy⟩ := h p x y mid hsplit hforce
    rcases hrec with hno | hidle
    · rw [hrel] at hno
      cases hno
    · exact hbusy hidle
  · intro h p x y mid hsplit hforce
    refine ⟨?_, fun hidle => h p x y ⟨⟨mid, hsplit, hforce⟩, .inr hidle⟩⟩
    by_contra hno
    exact h p x y ⟨⟨mid, hsplit, hforce⟩, .inl (by simpa using hno)⟩

theorem idle_nil : Idle [] := by
  rw [idle_iff]
  rintro p x y ⟨⟨mid, hsplit, -⟩, -⟩
  exact absurd hsplit (by simp)

theorem Holds.pattern (h : Holds nodes p x y) : isLu12iOriPattern [x.1, y.1] = true := by
  obtain ⟨_, -, hforce⟩ := h.split
  exact hforce.1

theorem opc_of_isPattern {x y : ListNode LoongArchInsInfo} (h : isLu12iOriPattern [x, y] = true) :
    x.data.opc = .OPC_LU12I_W ∧ y.data.opc = .OPC_ORI ∧ y.data.dstReg = x.data.dstReg ∧
      y.data.srcsRegs 0 = x.data.dstReg := by
  simpa [isLu12iOriPattern, and_assoc] using h

/-- **One more instruction** ends what is in force on its register, and may complete a pair. -/
theorem holds_snoc_iff : Holds (nodes ++ [n]) p x y ↔
    (Holds nodes p x y ∧ x.1.data.dstReg ≠ 0 ∧ n.1.data.dstReg ≠ x.1.data.dstReg) ∨
      (nodes = p ++ [x] ∧ n = y ∧ isLu12iOriPattern [x.1, y.1] = true ∧
        ((x.2 || y.2) = false ∨ Idle p)) := by
  constructor
  · rintro ⟨⟨mid, hsplit, hpat, hmid⟩, hrec⟩
    rcases List.eq_nil_or_concat mid with rfl | ⟨mid, m, rfl⟩
    · have hsplit : nodes ++ [n] = (p ++ [x]) ++ [y] := by simpa using hsplit
      obtain ⟨hnodes, hn⟩ := List.append_inj' hsplit rfl
      exact .inr ⟨hnodes, List.singleton_inj.mp hn, hpat, hrec⟩
    · have hsplit : nodes ++ [n] = (p ++ x :: y :: mid) ++ [m] := by simpa using hsplit
      obtain ⟨hnodes, hn⟩ := List.append_inj' hsplit rfl
      obtain rfl := List.singleton_inj.mp hn
      obtain ⟨hne, hmid⟩ := hmid.resolve_left (by simp)
      exact .inl ⟨⟨⟨mid, hnodes, hpat, .inr ⟨hne, fun k hk => hmid k (by simp [hk])⟩⟩, hrec⟩, hne,
        hmid n (by simp)⟩
  · rintro (⟨⟨⟨mid, hnodes, hpat, hmid⟩, hrec⟩, hne, hn⟩ | ⟨hnodes, rfl, hpat, hrec⟩)
    · refine ⟨⟨mid ++ [n], by simp [hnodes], hpat, .inr ⟨hne, fun k hk => ?_⟩⟩, hrec⟩
      rcases List.mem_append.mp hk with hk | hk
      · rcases hmid with rfl | hmid
        · cases hk
        · exact hmid.2 k hk
      · rwa [List.mem_singleton.mp hk]
    · exact ⟨⟨[], by simp [hnodes], hpat, .inl rfl⟩, hrec⟩

/-- Two pairs in force on one register are one pair. -/
theorem eq_of_inForce {p p' mid mid' : List MarkedNode} {x y x' y' : MarkedNode}
    (h : p ++ x :: y :: mid = p' ++ x' :: y' :: mid') (hpat : isLu12iOriPattern [x.1, y.1] = true)
    (hmid : ∀ n ∈ mid, n.1.data.dstReg ≠ x.1.data.dstReg)
    (hpat' : isLu12iOriPattern [x'.1, y'.1] = true)
    (hmid' : ∀ n ∈ mid', n.1.data.dstReg ≠ x'.1.data.dstReg)
    (hdst : x.1.data.dstReg = x'.1.data.dstReg) : p = p' ∧ x = x' ∧ y = y' := by
  obtain ⟨hx, hy, -, -⟩ := opc_of_isPattern hpat
  obtain ⟨hx', hy', -, -⟩ := opc_of_isPattern hpat'
  rcases List.append_eq_append_iff.mp h with ⟨as, rfl, has⟩ | ⟨as, rfl, has⟩
  · rcases as with _ | ⟨a, _ | ⟨b, as⟩⟩
    · simp only [List.nil_append, List.cons.injEq] at has
      exact ⟨by simp, has.1, has.2.1⟩
    · simp only [List.cons_append, List.nil_append, List.cons.injEq] at has
      rw [has.2.1, hx'] at hy
      cases hy
    · simp only [List.cons_append, List.cons.injEq] at has
      exact absurd hdst.symm (hmid x' (by simp [has.2.2]))
  · rcases as with _ | ⟨a, _ | ⟨b, as⟩⟩
    · simp only [List.nil_append, List.cons.injEq] at has
      exact ⟨by simp, has.1.symm, has.2.1.symm⟩
    · simp only [List.cons_append, List.nil_append, List.cons.injEq] at has
      rw [has.2.1, hx] at hy'
      cases hy'
    · simp only [List.cons_append, List.cons.injEq] at has
      exact absurd hdst (hmid' x (by simp [has.2.2]))

end Holds

/-! ### The constants -/

section Constants

variable (s : ConstRegSet)

theorem isConst_kill (r q : BitVec 8) :
    (s.kill r).isConst q = true ↔ s.isConst q = true ∧ r ≠ q := by
  rw [ConstRegSet.kill]
  split_ifs with hr
  · show Function.update s.isConst r false q = true ↔ _
    rw [Function.update_apply]
    split_ifs with hq
    · simp [hq]
    · simp [Ne.symm hq]
  · refine ⟨fun hq => ⟨hq, ?_⟩, And.left⟩
    rintro rfl
    exact hr hq

theorem isConst_set (r q : BitVec 8) (imm : BitVec 64) :
    (s.set r imm).isConst q = true ↔ s.isConst q = true ∨ r = q ∧ r ≠ 0 := by
  rw [ConstRegSet.set]
  dsimp only
  split_ifs with hzero hr
  · simp [hzero]
  · refine ⟨.inl, ?_⟩
    rintro (hq | ⟨rfl, -⟩)
    · exact hq
    · exact hr
  · show Function.update s.isConst r true q = true ↔ _
    rw [Function.update_apply]
    split_ifs with hq
    · exact iff_of_true rfl (.inr ⟨hq.symm, hzero⟩)
    · exact ⟨.inl, fun h => h.resolve_right fun hr => hq hr.1.symm⟩

@[simp] theorem regs_kill (r : BitVec 8) : (s.kill r).regs = s.regs := by
  rw [ConstRegSet.kill]
  split_ifs <;> rfl

theorem regs_set_self {r : BitVec 8} (hr : r ≠ 0) (imm : BitVec 64) :
    (s.set r imm).regs r = imm := by
  rw [ConstRegSet.set, if_neg hr]
  dsimp only
  split_ifs <;> exact Function.update_self _ _ _

theorem regs_set_of_ne {r q : BitVec 8} (h : q ≠ r) (imm : BitVec 64) :
    (s.set r imm).regs q = s.regs q := by
  rw [ConstRegSet.set]
  dsimp only
  split_ifs <;> first | rfl | exact Function.update_of_ne h _ _

end Constants

/-- The size is the number of known registers. -/
def Counted (s : ConstRegSet) : Prop :=
  ∃ t : Finset (BitVec 8), (∀ r, r ∈ t ↔ s.isConst r = true) ∧ s.size = t.card

section Counted

variable {s : ConstRegSet}

theorem counted_empty : Counted .empty := ⟨∅, by simp [ConstRegSet.empty], rfl⟩

theorem Counted.kill (h : Counted s) (r : BitVec 8) : Counted (s.kill r) := by
  obtain ⟨t, ht, hsize⟩ := h
  by_cases hr : s.isConst r = true
  · have hmem := (ht r).mpr hr
    have hpos := Finset.card_pos.mpr ⟨r, hmem⟩
    refine ⟨t.erase r, fun q => ?_, ?_⟩
    · rw [isConst_kill, Finset.mem_erase, ht, and_comm, ne_comm]
    · rw [Finset.card_erase_of_mem hmem, ConstRegSet.kill, if_pos hr]
      show s.size - 1 = _
      omega
  · rw [ConstRegSet.kill, if_neg hr]
    exact ⟨t, ht, hsize⟩

theorem Counted.set (h : Counted s) (r : BitVec 8) (imm : BitVec 64) : Counted (s.set r imm) := by
  obtain ⟨t, ht, hsize⟩ := h
  have hmem : ∀ q, (s.set r imm).isConst q = true ↔ q ∈ t ∨ r = q ∧ r ≠ 0 := fun q => by
    rw [isConst_set, ht]
  by_cases hr : r = 0
  · rw [ConstRegSet.set, if_pos hr]
    exact ⟨t, ht, hsize⟩
  · by_cases hconst : s.isConst r = true
    · refine ⟨t, fun q => ?_, ?_⟩
      · rw [hmem]
        exact ⟨.inl, fun hor => hor.elim id fun hq => hq.1 ▸ (ht r).mpr hconst⟩
      · rw [ConstRegSet.set, if_neg hr]
        dsimp only
        rw [if_pos hconst]
        exact hsize
    · refine ⟨insert r t, fun q => ?_, ?_⟩
      · rw [hmem, Finset.mem_insert, or_comm, and_iff_left hr, eq_comm]
      · rw [Finset.card_insert_of_notMem (by rwa [ht]), ConstRegSet.set, if_neg hr]
        dsimp only
        rw [if_neg hconst]
        exact congrArg (· + 1) hsize

theorem Counted.size_eq_zero_iff (h : Counted s) : s.size = 0 ↔ ∀ r, s.isConst r = false := by
  obtain ⟨t, ht, hsize⟩ := h
  rw [hsize, Int.natCast_eq_zero, Finset.card_eq_zero, Finset.eq_empty_iff_forall_notMem]
  exact forall_congr' fun r => by rw [ht, Bool.not_eq_true]

end Counted

/-- **The loop over the registers** finds the first that is close. -/
theorem closeReg_eq (s : ConstRegSet) (imm : BitVec 64) : ∀ is : List (BitVec 8),
    LoadImm.closeReg s imm is =
      .ok ((is.find? fun i => s.isConst i && canSubstitueWithAddiInsn (imm - s.regs i)).map
        fun i => (i, s.regs i))
  | [] => rfl
  | i :: is => by
    rw [LoadImm.closeReg, ConstRegSet.get, List.find?_cons, closeReg_eq s imm is]
    by_cases hconst : s.isConst i = true
    · rw [if_pos hconst, if_pos hconst, ok_bind, hconst, Bool.true_and]
      by_cases hclose : canSubstitueWithAddiInsn (imm - s.regs i) = true
      · rw [if_pos hclose, hclose]
        rfl
      · rw [if_neg hclose, (Bool.not_eq_true _).mp hclose]
    · rw [if_neg hconst, (Bool.not_eq_true _).mp hconst]
      rfl

theorem pairwise_regs : LoadImm.regs.Pairwise (· < ·) := by decide

theorem ne_zero_of_mem_regs : ∀ r ∈ LoadImm.regs, r ≠ 0 := by decide

/-- The first of a list in order is the least. -/
theorem find?_regs_eq_some_iff {f : BitVec 8 → Bool} {i : BitVec 8} :
    LoadImm.regs.find? f = some i ↔
      i ∈ LoadImm.regs ∧ f i = true ∧ ∀ j ∈ LoadImm.regs, f j = true → i ≤ j := by
  have hsorted := pairwise_regs
  generalize LoadImm.regs = regs at *
  rw [List.find?_eq_some_iff_append]
  constructor
  · rintro ⟨hi, as, bs, rfl, has⟩
    refine ⟨by simp, hi, fun j hj hf => ?_⟩
    rw [List.pairwise_append, List.pairwise_cons] at hsorted
    rcases List.mem_append.mp hj with hj | hj
    · have hno := has j hj
      rw [hf] at hno
      cases hno
    · rcases List.mem_cons.mp hj with rfl | hj
      · exact BitVec.le_refl _
      · exact BitVec.le_of_lt (hsorted.2.1.1 j hj)
  · rintro ⟨hmem, hi, hleast⟩
    obtain ⟨as, bs, rfl⟩ := List.append_of_mem hmem
    refine ⟨hi, as, bs, rfl, fun j hj => ?_⟩
    rw [Bool.not_eq_true']
    by_contra hf
    have hle := hleast j (by simp [hj]) (by simpa using hf)
    rw [List.pairwise_append] at hsorted
    exact BitVec.not_lt.mpr hle (hsorted.2.2 j hj i List.mem_cons_self)

/-! ### What is known -/

/-- The constants are those that the pairs in force load. -/
structure Knows (K : Known) (nodes : List MarkedNode) : Prop where
  counted : Counted K.consts
  isConst_iff : ∀ r, K.consts.isConst r = true ↔
    r ≠ 0 ∧ ∃ p x y, Holds nodes p x y ∧ x.1.data.dstReg = r
  value : ∀ p x y, Holds nodes p x y → x.1.data.dstReg ≠ 0 →
    K.consts.regs x.1.data.dstReg = pairImm x.1 y.1 ∧
      K.source x.1.data.dstReg = if x.2 || y.2 then some (x.1, y.1) else none

/-- With `n` the instruction before is no pair that is recorded. -/
def Passes (nodes : List MarkedNode) (n : MarkedNode) : Prop :=
  ∀ p x, nodes = p ++ [x] → isLu12iOriPattern [x.1, n.1] = true → (x.2 || n.2) = true ∧ ¬Idle p

section Knows

variable {K : Known} {nodes p : List MarkedNode} {x y u v n : MarkedNode}

theorem Passes.holds_iff (hn : Passes nodes n) : Holds (nodes ++ [n]) p x y ↔
    Holds nodes p x y ∧ x.1.data.dstReg ≠ 0 ∧ n.1.data.dstReg ≠ x.1.data.dstReg := by
  rw [holds_snoc_iff]
  refine ⟨fun h => h.resolve_right ?_, .inl⟩
  rintro ⟨hnodes, rfl, hpat, hrec⟩
  obtain ⟨hrel, hbusy⟩ := hn p x hnodes hpat
  rcases hrec with hno | hidle
  · rw [hrel] at hno
    cases hno
  · exact hbusy hidle

theorem passes_of_opc (h : n.1.data.opc ≠ .OPC_ORI) : Passes nodes n := fun _ _ _ hpat =>
  absurd (opc_of_isPattern hpat).2.1 h

/-- Behind a pair that is recorded, it is in force and what was in force on other registers. -/
theorem holds_pair_iff (hpat : isLu12iOriPattern [x.1, y.1] = true)
    (hrec : (x.2 || y.2) = false ∨ Idle nodes) : Holds (nodes ++ [x] ++ [y]) p u v ↔
      (Holds nodes p u v ∧ u.1.data.dstReg ≠ 0 ∧ x.1.data.dstReg ≠ u.1.data.dstReg) ∨
        (p = nodes ∧ u = x ∧ v = y) := by
  obtain ⟨hx, -, hdst, -⟩ := opc_of_isPattern hpat
  have hpasses : Passes nodes x := passes_of_opc (by rw [hx]; decide)
  rw [holds_snoc_iff, hpasses.holds_iff, hdst]
  constructor
  · rintro (⟨⟨h, hne, hx⟩, -, -⟩ | ⟨hnodes, rfl, -, -⟩)
    · exact .inl ⟨h, hne, hx⟩
    · obtain ⟨rfl, hux⟩ := List.append_inj' hnodes rfl
      exact .inr ⟨rfl, (List.singleton_inj.mp hux).symm, rfl⟩
  · rintro (⟨h, hne, hx⟩ | ⟨rfl, rfl, rfl⟩)
    · exact .inl ⟨⟨h, hne, hx⟩, hne, hx⟩
    · exact .inr ⟨rfl, rfl, hpat, hrec⟩

theorem knows_nil : Knows .empty [] := by
  have hno := idle_iff.mp idle_nil
  refine ⟨counted_empty, fun r => iff_of_false Bool.false_ne_true ?_,
    fun p x y h => absurd h (hno p x y)⟩
  rintro ⟨-, p, x, y, h, -⟩
  exact hno p x y h

theorem Knows.keep (h : Knows K nodes) (hn : Passes nodes n) :
    Knows (K.kill n.1.data.dstReg) (nodes ++ [n]) := by
  refine ⟨h.counted.kill _, fun r => ?_, fun p x y hxy hne => ?_⟩
  · rw [Known.kill, isConst_kill, h.isConst_iff]
    constructor
    · rintro ⟨⟨hr, p, x, y, hxy, rfl⟩, hne⟩
      exact ⟨hr, p, x, y, hn.holds_iff.mpr ⟨hxy, hr, hne⟩, rfl⟩
    · rintro ⟨hr, p, x, y, hxy, rfl⟩
      obtain ⟨hxy, -, hne⟩ := hn.holds_iff.mp hxy
      exact ⟨⟨hr, p, x, y, hxy, rfl⟩, hne⟩
  · rw [Known.kill, regs_kill]
    exact h.value p x y (hn.holds_iff.mp hxy).1 hne

theorem Knows.pair (h : Knows K nodes) (hpat : isLu12iOriPattern [x.1, y.1] = true)
    (hrec : (x.2 || y.2) = false ∨ Idle nodes) : Knows (K.pair x y) (nodes ++ [x] ++ [y]) := by
  refine ⟨h.counted.set _ _, fun r => ?_, fun p u v huv hne => ?_⟩
  · rw [Known.pair, Known.set, isConst_set, h.isConst_iff]
    constructor
    · rintro (⟨hr, p, u, v, huv, rfl⟩ | ⟨rfl, hr⟩)
      · by_cases hx : x.1.data.dstReg = u.1.data.dstReg
        · exact ⟨hr, nodes, x, y, (holds_pair_iff hpat hrec).mpr (.inr ⟨rfl, rfl, rfl⟩), hx⟩
        · exact ⟨hr, p, u, v, (holds_pair_iff hpat hrec).mpr (.inl ⟨huv, hr, hx⟩), rfl⟩
      · exact ⟨hr, nodes, x, y, (holds_pair_iff hpat hrec).mpr (.inr ⟨rfl, rfl, rfl⟩), rfl⟩
    · rintro ⟨hr, p, u, v, huv, rfl⟩
      rcases (holds_pair_iff hpat hrec).mp huv with ⟨huv, -, -⟩ | ⟨-, rfl, -⟩
      · exact .inl ⟨hr, p, u, v, huv, rfl⟩
      · exact .inr ⟨rfl, hr⟩
  · show (K.consts.set _ _).regs _ = _ ∧ Function.update K.source _ _ _ = _
    rcases (holds_pair_iff hpat hrec).mp huv with ⟨huv, -, hx⟩ | ⟨-, rfl, rfl⟩
    · rw [regs_set_of_ne _ (Ne.symm hx), Function.update_of_ne (Ne.symm hx)]
      exact h.value p u v huv hne
    · rw [regs_set_self _ hne, Function.update_self]
      exact ⟨rfl, rfl⟩

/-- A register is close where it is the base of an `addi.d`. -/
theorem Knows.closeReg_eq_some_iff (h : Knows K nodes) {imm val : BitVec 64} {reg : BitVec 8} :
    LoadImm.closeReg K.consts imm LoadImm.regs = .ok (some (reg, val)) ↔
      ∃ p u v, Base nodes imm p u v ∧ reg = u.1.data.dstReg ∧ val = pairImm u.1 v.1 := by
  have hclose : ∀ r, (K.consts.isConst r && canSubstitueWithAddiInsn (imm - K.consts.regs r)) = true ↔
      r ≠ 0 ∧ ∃ p u v, Holds nodes p u v ∧ u.1.data.dstReg = r ∧
        canSubstitueWithAddiInsn (imm - pairImm u.1 v.1) = true := by
    intro r
    rw [Bool.and_eq_true, h.isConst_iff]
    constructor
    · rintro ⟨⟨hr, p, u, v, huv, rfl⟩, hsub⟩
      rw [(h.value p u v huv hr).1] at hsub
      exact ⟨hr, p, u, v, huv, rfl, hsub⟩
    · rintro ⟨hr, p, u, v, huv, rfl, hsub⟩
      rw [(h.value p u v huv hr).1]
      exact ⟨⟨hr, p, u, v, huv, rfl⟩, hsub⟩
  rw [closeReg_eq, Except.ok.injEq, Option.map_eq_some_iff]
  constructor
  · rintro ⟨r, hfind, hr⟩
    obtain ⟨rfl, rfl⟩ := Prod.mk.inj hr
    obtain ⟨hmem, hr, hleast⟩ := find?_regs_eq_some_iff.mp hfind
    obtain ⟨hne, p, u, v, huv, rfl, hsub⟩ := (hclose r).mp hr
    refine ⟨p, u, v, ⟨huv, hmem, hsub, fun p' u' v' huv' hmem' hsub' => ?_⟩, rfl,
      (h.value p u v huv hne).1⟩
    exact hleast _ hmem' ((hclose _).mpr ⟨ne_zero_of_mem_regs _ hmem', p', u', v', huv', rfl, hsub'⟩)
  · rintro ⟨p, u, v, hbase, rfl, rfl⟩
    have hne := ne_zero_of_mem_regs _ hbase.mem_regs
    refine ⟨u.1.data.dstReg, find?_regs_eq_some_iff.mpr ⟨hbase.mem_regs,
      (hclose _).mpr ⟨hne, p, u, v, hbase.holds, rfl, hbase.close⟩, fun j hj hclosej => ?_⟩,
      by rw [(h.value p u v hbase.holds hne).1]⟩
    obtain ⟨-, p', u', v', huv', rfl, hsub'⟩ := (hclose j).mp hclosej
    exact hbase.least p' u' v' huv' hj hsub'

/-! ### Where the loops are -/

/-- A loop, inner or outer, is behind `pre` and has `nodes` before it. -/
structure At (inner : Bool) (K : Known) (pre nodes : List MarkedNode) : Prop where
  knows : Knows K pre
  inner_iff : inner = false ↔ Idle pre
  passes : ∀ n ∈ nodes.head?, Passes pre n

variable {inner : Bool} {pre : List MarkedNode}

theorem At.start (nodes : List MarkedNode) : At false .empty [] nodes :=
  ⟨knows_nil, iff_of_true rfl idle_nil, fun n _ p x h => absurd h (by simp)⟩

theorem At.pair (h : At inner K pre (x :: y :: nodes))
    (hpat : isLu12iOriPattern [x.1, y.1] = true) (hrec : (inner && (x.2 || y.2)) = false) :
    At true (K.pair x y) (pre ++ [x] ++ [y]) nodes := by
  have hrec : (x.2 || y.2) = false ∨ Idle pre := by
    rcases Bool.and_eq_false_iff.mp hrec with hinner | hrel
    · exact .inr (h.inner_iff.mp hinner)
    · exact .inl hrel
  obtain ⟨-, hy, -, -⟩ := opc_of_isPattern hpat
  refine ⟨h.knows.pair hpat hrec, iff_of_false Bool.false_ne_true.symm fun hidle => ?_,
    fun n _ p l hl hp => ?_⟩
  · exact idle_iff.mp hidle pre x y ((holds_pair_iff hpat hrec).mpr (.inr ⟨rfl, rfl, rfl⟩))
  · obtain ⟨-, hly⟩ := List.append_inj' hl rfl
    obtain rfl := List.singleton_inj.mp hly
    have hlu12i := (opc_of_isPattern hp).1
    rw [hy] at hlu12i
    cases hlu12i

/-- Behind an instruction that is passed a pair is in force if some register is known. -/
theorem idle_snoc_iff (h : Knows (K.kill x.1.data.dstReg) (pre ++ [x])) (hx : Passes pre x) :
    Idle (pre ++ [x]) ↔ (K.kill x.1.data.dstReg).consts.size = 0 := by
  rw [h.counted.size_eq_zero_iff, idle_iff]
  constructor
  · intro hidle r
    rw [← Bool.not_eq_true, h.isConst_iff]
    rintro ⟨-, p, u, v, huv, -⟩
    exact hidle p u v huv
  · intro hnone p u v huv
    have hconst := (h.isConst_iff u.1.data.dstReg).mpr ⟨(hx.holds_iff.mp huv).2.1, p, u, v, huv, rfl⟩
    rw [hnone] at hconst
    cases hconst

/-- The inner loop passes a pair only if a relocation covers it. -/
theorem rel_of_not_pair
    (h : ¬(isLu12iOriPattern [x.1, y.1] && !(true && (x.2 || y.2))) = true) (nodes : List MarkedNode) :
    ∀ n ∈ (y :: nodes).head?, isLu12iOriPattern [x.1, n.1] = true → (x.2 || n.2) = true := by
  rintro n hn hpat
  obtain rfl := Option.some.inj hn
  by_contra hno
  rw [Bool.not_eq_true] at hno
  rw [hpat, hno, Bool.and_false] at h
  exact h rfl

/-- The outer loop passes no pair. -/
theorem not_pattern_of_not_pair
    (h : ¬(isLu12iOriPattern [x.1, y.1] && !(false && (x.2 || y.2))) = true) (nodes : List MarkedNode) :
    ∀ n ∈ (y :: nodes).head?, isLu12iOriPattern [x.1, n.1] = false := by
  rintro n hn
  obtain rfl := Option.some.inj hn
  simpa using h

theorem At.keep (h : At true K pre (x :: nodes))
    (hx : ∀ y ∈ nodes.head?, isLu12iOriPattern [x.1, y.1] = true → (x.2 || y.2) = true) :
    At ((K.kill x.1.data.dstReg).consts.size ≠ 0) (K.kill x.1.data.dstReg) (pre ++ [x]) nodes := by
  have hpasses := h.passes x rfl
  have hknows := h.knows.keep hpasses
  refine ⟨hknows, ?_, fun y hy p l hl hpat => ?_⟩
  · rw [idle_snoc_iff hknows hpasses, decide_eq_false_iff_not, not_not]
  · obtain ⟨rfl, hlx⟩ := List.append_inj' hl rfl
    obtain rfl := List.singleton_inj.mp hlx
    refine ⟨hx y hy hpat, fun hidle => ?_⟩
    cases h.inner_iff.mpr hidle

theorem At.skip (h : At false K pre (x :: nodes))
    (hx : ∀ y ∈ nodes.head?, isLu12iOriPattern [x.1, y.1] = false) :
    At false K (pre ++ [x]) nodes := by
  have hpasses := h.passes x rfl
  have hidle := idle_iff.mp (h.inner_iff.mp rfl)
  have hnone : K.consts.isConst x.1.data.dstReg = false := by
    rw [← Bool.not_eq_true, h.knows.isConst_iff]
    rintro ⟨-, p, u, v, huv, -⟩
    exact hidle p u v huv
  have hkill : K.kill x.1.data.dstReg = K := by
    rw [Known.kill, ConstRegSet.kill, if_neg (by rw [hnone]; decide)]
  have hknows := h.knows.keep hpasses
  rw [hkill] at hknows
  refine ⟨hknows, iff_of_true rfl (idle_iff.mpr fun p u v huv => ?_), fun y hy p l hl hpat => ?_⟩
  · exact hidle p u v (hpasses.holds_iff.mp huv).1
  · obtain ⟨-, hlx⟩ := List.append_inj' hl rfl
    obtain rfl := List.singleton_inj.mp hlx
    rw [hx y hy] at hpat
    cases hpat

end Knows

/-! ### Where an `addi.d` is made -/

/-- Behind `q` there is the pair `a`, `b`, with no relocation, that an `addi.d` replaces whose base
is the register of `u`, `v`. -/
structure Site (pre nodes q : List MarkedNode) (a b : ListNode LoongArchInsInfo) (u v : MarkedNode) :
    Prop where
  split : ∃ post, nodes = q ++ (a, false) :: (b, false) :: post
  plain : ∀ n ∈ q, isBOrBne n.1.data.opc = false
  pattern : isLu12iOriPattern [a, b] = true
  base : ∃ p, Base (pre ++ q) (pairImm a b) p u v

section Site

variable {pre nodes q : List MarkedNode} {x y u v : MarkedNode} {a b : ListNode LoongArchInsInfo}

theorem not_site_nil : ¬Site pre [] q a b u v := fun h => by
  obtain ⟨post, hsplit⟩ := h.split
  exact absurd hsplit (by simp)

theorem site_cons_iff : Site pre (x :: nodes) q a b u v ↔
    (q = [] ∧ x = (a, false) ∧ (b, false) ∈ nodes.head? ∧ isLu12iOriPattern [a, b] = true ∧
      ∃ p, Base pre (pairImm a b) p u v) ∨
    ∃ q', q = x :: q' ∧ isBOrBne x.1.data.opc = false ∧ Site (pre ++ [x]) nodes q' a b u v := by
  constructor
  · rintro ⟨⟨post, hsplit⟩, hplain, hpat, hbase⟩
    cases q with
    | nil =>
      obtain ⟨rfl, rfl⟩ := List.cons.inj hsplit
      exact .inl ⟨rfl, rfl, rfl, hpat, by simpa using hbase⟩
    | cons n q =>
      obtain ⟨rfl, hnodes⟩ := List.cons.inj hsplit
      exact .inr ⟨q, rfl, hplain x List.mem_cons_self, ⟨post, hnodes⟩,
        fun m hm => hplain m (List.mem_cons_of_mem _ hm), hpat, by simpa using hbase⟩
  · rintro (⟨rfl, rfl, hb, hpat, hbase⟩ | ⟨q', rfl, hx, ⟨post, rfl⟩, hplain, hpat, hbase⟩)
    · obtain ⟨post, rfl⟩ := List.head?_eq_some_iff.mp hb
      exact ⟨⟨post, rfl⟩, by simp, hpat, by simpa using hbase⟩
    · refine ⟨⟨post, rfl⟩, fun m hm => ?_, hpat, by simpa using hbase⟩
      rcases List.mem_cons.mp hm with rfl | hm
      · exact hx
      · exact hplain m hm

theorem not_site_branch (h : isBOrBne x.1.data.opc = true) : ¬Site pre (x :: nodes) q a b u v := by
  rw [site_cons_iff]
  rintro (⟨-, rfl, -, hpat, -⟩ | ⟨-, -, hx, -⟩)
  · rw [isBOrBne_of_isPattern hpat] at h
    cases h
  · rw [hx] at h
    cases h

/-- What an `addi.d` is made of. -/
def Made (pre nodes : List MarkedNode) (a b : ListNode LoongArchInsInfo) (reg : BitVec 8)
    (imm : BitVec 64) (source : Option (ListNode LoongArchInsInfo × ListNode LoongArchInsInfo)) : Prop :=
  ∃ q u v, Site pre nodes q a b u v ∧ reg = u.1.data.dstReg ∧ imm = pairImm u.1 v.1 ∧
    source = if u.2 || v.2 then some (u.1, v.1) else none

variable {reg : BitVec 8} {imm : BitVec 64}
  {source : Option (ListNode LoongArchInsInfo × ListNode LoongArchInsInfo)}

/-- An instruction is passed that no `addi.d` replaces. -/
theorem made_cons_iff (hx : isBOrBne x.1.data.opc = false)
    (hno : ∀ y ∈ nodes.head?, isLu12iOriPattern [x.1, y.1] = true → x.2 = false → y.2 = false →
      Idle pre) :
    Made pre (x :: nodes) a b reg imm source ↔ Made (pre ++ [x]) nodes a b reg imm source := by
  constructor
  · rintro ⟨q, u, v, hsite, hmade⟩
    rcases site_cons_iff.mp hsite with ⟨-, rfl, hb, hpat, p, hbase⟩ | ⟨q', -, -, hsite⟩
    · exact absurd hbase.holds (idle_iff.mp (hno _ hb hpat rfl rfl) p u v)
    · exact ⟨q', u, v, hsite, hmade⟩
  · rintro ⟨q, u, v, hsite, hmade⟩
    exact ⟨x :: q, u, v, site_cons_iff.mpr (.inr ⟨q, rfl, hx, hsite⟩), hmade⟩

/-- A pair is passed. -/
theorem made_pair_iff (hpat : isLu12iOriPattern [x.1, y.1] = true) :
    Made pre (x :: y :: nodes) a b reg imm source ↔
      (x = (a, false) ∧ y = (b, false) ∧ ∃ p u v, Base pre (pairImm a b) p u v ∧
        reg = u.1.data.dstReg ∧ imm = pairImm u.1 v.1 ∧
          source = if u.2 || v.2 then some (u.1, v.1) else none) ∨
      Made (pre ++ [x] ++ [y]) nodes a b reg imm source := by
  have hy : isBOrBne y.1.data.opc = false := by
    rw [(opc_of_isPattern hpat).2.1]
    rfl
  have hsecond : Made (pre ++ [x]) (y :: nodes) a b reg imm source ↔
      Made (pre ++ [x] ++ [y]) nodes a b reg imm source := by
    refine made_cons_iff hy fun n _ hyn _ _ => ?_
    have hlu12i := (opc_of_isPattern hyn).1
    rw [(opc_of_isPattern hpat).2.1] at hlu12i
    cases hlu12i
  rw [← hsecond]
  constructor
  · rintro ⟨q, u, v, hsite, hmade⟩
    rcases site_cons_iff.mp hsite with ⟨-, hx, hb, -, p, hbase⟩ | ⟨q', -, -, hsite⟩
    · exact .inl ⟨hx, Option.some.inj hb, p, u, v, hbase, hmade⟩
    · exact .inr ⟨q', u, v, hsite, hmade⟩
  · rintro (⟨rfl, rfl, p, u, v, hbase, hmade⟩ | ⟨q, u, v, hsite, hmade⟩)
    · exact ⟨[], u, v, site_cons_iff.mpr (.inl ⟨rfl, rfl, rfl, hpat, p, hbase⟩), hmade⟩
    · exact ⟨x :: q, u, v,
        site_cons_iff.mpr (.inr ⟨q, rfl, isBOrBne_of_isPattern hpat, hsite⟩), hmade⟩

end Site

theorem subst_mem_pairItems_iff {inner : Bool} {K : Known} {pre nodes : List MarkedNode}
    {x y : MarkedNode} {a b : ListNode LoongArchInsInfo} {reg : BitVec 8} {imm : BitVec 64}
    {source : Option (ListNode LoongArchInsInfo × ListNode LoongArchInsInfo)}
    (h : At inner K pre nodes) (hrec : (inner && (x.2 || y.2)) = false) :
    .subst a b reg imm source ∈ pairItems inner K x y ↔
      x = (a, false) ∧ y = (b, false) ∧ ∃ p u v, Base pre (pairImm a b) p u v ∧
        reg = u.1.data.dstReg ∧ imm = pairImm u.1 v.1 ∧
          source = if u.2 || v.2 then some (u.1, v.1) else none := by
  cases inner with
  | false =>
    have hidle := idle_iff.mp (h.inner_iff.mp rfl)
    refine iff_of_false (by simp [pairItems_false]) ?_
    rintro ⟨-, -, p, u, v, hbase, -⟩
    exact hidle p u v hbase.holds
  | true =>
    rw [Bool.true_and, Bool.or_eq_false_iff] at hrec
    have hsource : ∀ p u v, Base pre (pairImm x.1 y.1) p u v →
        K.source u.1.data.dstReg = if u.2 || v.2 then some (u.1, v.1) else none :=
      fun p u v hbase => (h.knows.value p u v hbase.holds (ne_zero_of_mem_regs _ hbase.mem_regs)).2
    obtain ⟨close, hclose⟩ := LoadImm.closeReg_ok K.consts (pairImm x.1 y.1) LoadImm.regs
    constructor
    · intro hmem
      cases close with
      | none =>
        rw [pairItems_none hclose] at hmem
        simp at hmem
      | some r =>
        obtain ⟨reg', val⟩ := r
        rw [pairItems_some hclose, List.mem_singleton, Item.subst.injEq] at hmem
        obtain ⟨rfl, rfl, rfl, rfl, rfl⟩ := hmem
        obtain ⟨p, u, v, hbase, hreg, himm⟩ := h.knows.closeReg_eq_some_iff.mp hclose
        exact ⟨Prod.ext rfl hrec.1, Prod.ext rfl hrec.2, p, u, v, hbase, hreg, himm,
          hreg ▸ hsource p u v hbase⟩
    · rintro ⟨rfl, rfl, p, u, v, hbase, rfl, rfl, rfl⟩
      have hsome := h.knows.closeReg_eq_some_iff.mpr ⟨p, u, v, hbase, rfl, rfl⟩
      rw [pairItems_some (x := (a, false)) (y := (b, false)) hsome, hsource p u v hbase]
      exact List.mem_singleton_self _

/-- **Where an `addi.d` is made**, and of what. -/
theorem mem_items_iff : ∀ {nodes : List MarkedNode} {inner : Bool} {K : Known} {pre : List MarkedNode}
    {a b : ListNode LoongArchInsInfo} {reg : BitVec 8} {imm : BitVec 64}
    {source : Option (ListNode LoongArchInsInfo × ListNode LoongArchInsInfo)}, At inner K pre nodes →
      (.subst a b reg imm source ∈ items inner K nodes ↔ Made pre nodes a b reg imm source)
  | [], inner, K, pre, a, b, reg, imm, source, _ => by
    refine iff_of_false (by simp [items]) ?_
    rintro ⟨q, u, v, hsite, -⟩
    exact not_site_nil hsite
  | [x], inner, K, pre, a, b, reg, imm, source, h => by
    rw [items]
    split_ifs with hstop
    · refine iff_of_false (by simp) ?_
      rintro ⟨q, u, v, hsite, -⟩
      exact not_site_branch hstop hsite
    · rw [made_cons_iff (by simpa using hstop) (by simp)]
      refine iff_of_false (by simp) ?_
      rintro ⟨q, u, v, hsite, -⟩
      exact not_site_nil hsite
  | x :: y :: nodes, inner, K, pre, a, b, reg, imm, source, h => by
    rw [items]
    split_ifs with hstop hpair hinner
    · refine iff_of_false (by simp) ?_
      rintro ⟨q, u, v, hsite, -⟩
      exact not_site_branch hstop hsite
    · rw [Bool.and_eq_true, Bool.not_eq_true'] at hpair
      rw [List.mem_append, subst_mem_pairItems_iff h hpair.2,
        mem_items_iff (h.pair hpair.1 hpair.2), made_pair_iff hpair.1]
    · subst hinner
      have hrel := rel_of_not_pair hpair nodes
      have hmade : Made pre (x :: y :: nodes) a b reg imm source ↔ _ :=
        made_cons_iff ((Bool.not_eq_true _).mp hstop) fun n hn hpat hx hy => by
          have hno := hrel n hn hpat
          rw [hx, hy] at hno
          cases hno
      rw [List.mem_cons, or_iff_right (by simp), mem_items_iff (h.keep hrel), hmade]
    · obtain rfl := (Bool.not_eq_true _).mp hinner
      have hno := not_pattern_of_not_pair hpair nodes
      have hmade : Made pre (x :: y :: nodes) a b reg imm source ↔ _ :=
        made_cons_iff ((Bool.not_eq_true _).mp hstop) fun n hn hpat _ _ => by
          rw [hno n hn] at hpat
          cases hpat
      rw [List.mem_cons, or_iff_right (by simp), mem_items_iff (h.skip hno), hmade]

/-- No `addi.d` has as its base a register that a pair under a relocation is in force on. -/
def Clean (nodes : List MarkedNode) : Prop :=
  ∀ q a b u v, Site [] nodes q a b u v → (u.2 || v.2) = false

/-- The plan says so. -/
theorem clean_iff {nodes : List MarkedNode} : Clean nodes ↔
    ∀ a b reg imm source, .subst a b reg imm source ∈ items false .empty nodes → source = none := by
  constructor
  · intro h a b reg imm source hmem
    obtain ⟨q, u, v, hsite, -, -, rfl⟩ := (mem_items_iff (.start nodes)).mp hmem
    rw [h q a b u v hsite, if_neg Bool.false_ne_true]
  · intro h q a b u v hsite
    have hnone := h a b _ _ _ ((mem_items_iff (.start nodes)).mpr ⟨q, u, v, hsite, rfl, rfl, rfl⟩)
    by_contra hrel
    rw [Bool.not_eq_false] at hrel
    rw [if_pos hrel] at hnone
    cases hnone

/-- The base, if there is one, is not from a pair under a relocation. -/
def Item.unrelocated : Item → Bool
  | .keep _ _ => true
  | .subst _ _ _ _ source => source.isNone

theorem clean_iff_all {nodes : List MarkedNode} :
    Clean nodes ↔ (items false .empty nodes).all Item.unrelocated = true := by
  rw [clean_iff, List.all_eq_true]
  constructor
  · rintro h (_ | ⟨a, b, reg, imm, source⟩) hit
    · rfl
    · exact Option.isNone_iff_eq_none.mpr (h a b reg imm source hit)
  · exact fun h a b reg imm source hit => Option.isNone_iff_eq_none.mp (h _ hit)

instance (nodes : List MarkedNode) : Decidable (Clean nodes) := decidable_of_iff _ clean_iff_all.symm

end AotOpt.Lu12iOriVistor
