import AotOpt.Vistor.Lu12iOriInForce
import AotOpt.Vistor.Lu12iOriLu32iMeaning
import Mathlib.Data.List.Pairwise

/-!
# Which relocations `Lu12i_Ori_Lu32i_Vistor` keeps

Unlike `Lu12i_Ori_Vistor` the pass does not ask whether a relocation covers a pattern, and it
deletes with `delete_ith_insn_alongwith_rel`, which drops the relocation. A pattern is replaced
where a register is known, from a pattern that is still in force, to hold a value close to what it
loads. Which these are is said here of the block itself.

* `replaced_iff` — which instructions a visit replaces.
* `relocations_kept_iff` — the relocations stay if and only if they cover none of these.
-/

namespace AotOpt.Lu12iOriLu32iVistor

open Lu12iOriVistor (isConst_kill isConst_set regs_kill regs_set_self regs_set_of_ne closeReg_eq
  Counted counted_empty)

variable {ι : Type}

/-- Behind `pre` the register holds what a pattern loads: nothing after the pattern names it as
destination. -/
def InForce (pre : List (ListNode LoongArchInsInfo)) (r : BitVec 8) (imm : BitVec 64) : Prop :=
  ∃ p u v w mid, pre = p ++ u :: v :: w :: mid ∧ isLu12iOriLu32iPattern [u, v, w] = true ∧
    u.data.dstReg = r ∧ r ≠ 0 ∧ (∀ n ∈ mid, n.data.dstReg ≠ r) ∧ patternImm u v w = imm

/-- Behind `pre` the three instructions are a pattern that is close to a register in force. -/
def Replaceable (pre : List (ListNode LoongArchInsInfo)) (x y z : ListNode LoongArchInsInfo) : Prop :=
  isLu12iOriLu32iPattern [x, y, z] = true ∧ ∃ r ∈ LoadImm.regs, ∃ imm, InForce pre r imm ∧
    canSubstitueWithAddiInsn (patternImm x y z - imm) = true

/-- No relocation covers an instruction of a pattern, in front of the first `b` or `bne`, that is
close to a register in force. -/
def PatternsClear (tb : TB ι) : Prop :=
  ∀ pre x y z post, tb.disInsns.nodes = pre ++ x :: y :: z :: post →
    (∀ n ∈ pre, isBOrBne n.data.opc = false) → Replaceable pre x y z →
      ∀ n ∈ [x, y, z], ¬tb.CoversNode n

/-! ### Patterns do not overlap -/

section Pattern

variable {x y z u v w n : ListNode LoongArchInsInfo} {pre post p rest : List (ListNode LoongArchInsInfo)}

theorem opc_of_isPattern (h : isLu12iOriLu32iPattern [x, y, z] = true) :
    x.data.opc = .OPC_LU12I_W ∧ y.data.opc = .OPC_ORI ∧ z.data.opc = .OPC_LU32I_D ∧
      y.data.dstReg = x.data.dstReg ∧ z.data.dstReg = x.data.dstReg := by
  obtain ⟨_, _, _, _, heq, hx, hy, hz, hdst, -, hdst'⟩ := isPattern_cases h
  simp only [List.cons.injEq] at heq
  obtain ⟨rfl, rfl, rfl, -⟩ := heq
  exact ⟨hx, hy, hz, hdst, hdst'⟩

/-- A pattern that begins at a node is the three nodes. -/
theorem isPattern_three (nodes : List (ListNode LoongArchInsInfo)) :
    isLu12iOriLu32iPattern (x :: y :: z :: nodes) = isLu12iOriLu32iPattern [x, y, z] := rfl

/-- No pattern begins in `pre` and ends behind it. -/
def Whole (pre nodes : List (ListNode LoongArchInsInfo)) : Prop :=
  (∀ p u, pre = p ++ [u] → isLu12iOriLu32iPattern (u :: nodes) = false) ∧
    ∀ p u v, pre = p ++ [u, v] → isLu12iOriLu32iPattern (u :: v :: nodes) = false

theorem whole_nil (nodes : List (ListNode LoongArchInsInfo)) : Whole [] nodes :=
  ⟨fun _ _ h => absurd h (by simp), fun _ _ _ h => absurd h (by simp)⟩

theorem Whole.keep (h : Whole pre (x :: rest)) (hpat : ¬isLu12iOriLu32iPattern (x :: rest) = true) :
    Whole (pre ++ [x]) rest := by
  refine ⟨fun p u heq => ?_, fun p u v heq => ?_⟩
  · obtain ⟨-, heq⟩ := List.append_inj' heq rfl
    obtain rfl := List.singleton_inj.mp heq
    exact (Bool.not_eq_true _).mp hpat
  · have heq : pre ++ [x] = (p ++ [u]) ++ [v] := by rw [heq]; simp
    obtain ⟨hpre, heq⟩ := List.append_inj' heq rfl
    obtain rfl := List.singleton_inj.mp heq
    exact h.1 p u hpre

theorem not_pattern_of_opc (nodes : List (ListNode LoongArchInsInfo)) (h : x.data.opc ≠ .OPC_LU12I_W) :
    isLu12iOriLu32iPattern (x :: nodes) = false := by
  by_contra hpat
  obtain ⟨_, _, _, _, heq, hx, -⟩ := isPattern_cases ((Bool.not_eq_false _).mp hpat)
  obtain ⟨rfl, -⟩ := List.cons.inj heq
  exact h hx

/-- Behind a pattern a new one begins. -/
theorem whole_pattern (hpat : isLu12iOriLu32iPattern [x, y, z] = true) :
    Whole (pre ++ [x, y, z]) rest := by
  obtain ⟨-, hy, hz, -⟩ := opc_of_isPattern hpat
  refine ⟨fun p u heq => ?_, fun p u v heq => ?_⟩
  · have heq : (pre ++ [x, y]) ++ [z] = p ++ [u] := by rw [← heq]; simp
    obtain ⟨-, heq⟩ := List.append_inj' heq rfl
    obtain rfl := List.singleton_inj.mp heq
    exact not_pattern_of_opc _ (by rw [hz]; decide)
  · have heq : (pre ++ [x]) ++ [y, z] = p ++ [u, v] := by rw [← heq]; simp
    obtain ⟨-, heq⟩ := List.append_inj' heq rfl
    obtain ⟨rfl, -⟩ := List.cons.inj heq
    exact not_pattern_of_opc _ (by rw [hy]; decide)

/-- Two patterns in one list are the same or apart. -/
theorem split_pattern {q : List (ListNode LoongArchInsInfo)}
    (hpat : isLu12iOriLu32iPattern [x, y, z] = true) (hpat' : isLu12iOriLu32iPattern [u, v, w] = true)
    (h : x :: y :: z :: rest = q ++ u :: v :: w :: post) :
    (q = [] ∧ u = x ∧ v = y ∧ w = z ∧ post = rest) ∨
      ∃ q', q = x :: y :: z :: q' ∧ rest = q' ++ u :: v :: w :: post := by
  obtain ⟨-, hy, hz, -⟩ := opc_of_isPattern hpat
  obtain ⟨hu, -⟩ := opc_of_isPattern hpat'
  match q with
  | [] =>
    simp only [List.nil_append, List.cons.injEq] at h
    obtain ⟨rfl, rfl, rfl, rfl⟩ := h
    exact .inl ⟨rfl, rfl, rfl, rfl, rfl⟩
  | [_] =>
    simp only [List.cons_append, List.nil_append, List.cons.injEq] at h
    rw [h.2.1, hu] at hy
    cases hy
  | [_, _] =>
    simp only [List.cons_append, List.nil_append, List.cons.injEq] at h
    rw [h.2.2.1, hu] at hz
    cases hz
  | _ :: _ :: _ :: q' =>
    simp only [List.cons_append, List.cons.injEq] at h
    obtain ⟨rfl, rfl, rfl, rfl⟩ := h
    exact .inr ⟨q', rfl, rfl⟩

/-! ### What is in force -/

variable {r : BitVec 8} {imm : BitVec 64}

/-- **One more instruction** ends what is in force on its register, and may complete a pattern. -/
theorem inForce_snoc_iff : InForce (pre ++ [n]) r imm ↔ (InForce pre r imm ∧ n.data.dstReg ≠ r) ∨
    ∃ p u v, pre = p ++ [u, v] ∧ isLu12iOriLu32iPattern [u, v, n] = true ∧ u.data.dstReg = r ∧ r ≠ 0 ∧
      patternImm u v n = imm := by
  constructor
  · rintro ⟨p, u, v, w, mid, heq, hpat, hdst, hne, hmid, himm⟩
    rcases List.eq_nil_or_concat mid with rfl | ⟨mid, m, rfl⟩
    · have heq : pre ++ [n] = (p ++ [u, v]) ++ [w] := by rw [heq]; simp
      obtain ⟨hpre, hn⟩ := List.append_inj' heq rfl
      obtain rfl := List.singleton_inj.mp hn
      exact .inr ⟨p, u, v, hpre, hpat, hdst, hne, himm⟩
    · have heq : pre ++ [n] = (p ++ u :: v :: w :: mid) ++ [m] := by rw [heq]; simp
      obtain ⟨hpre, hn⟩ := List.append_inj' heq rfl
      obtain rfl := List.singleton_inj.mp hn
      refine .inl ⟨⟨p, u, v, w, mid, hpre, hpat, hdst, hne, fun k hk => ?_, himm⟩, ?_⟩
      · exact hmid k (by simp [hk])
      · exact hmid n (by simp)
  · rintro (⟨⟨p, u, v, w, mid, rfl, hpat, hdst, hne, hmid, himm⟩, hn⟩ |
      ⟨p, u, v, rfl, hpat, hdst, hne, himm⟩)
    · refine ⟨p, u, v, w, mid ++ [n], by simp, hpat, hdst, hne, fun k hk => ?_, himm⟩
      rcases List.mem_append.mp hk with hk | hk
      · exact hmid k hk
      · rwa [List.mem_singleton.mp hk]
    · exact ⟨p, u, v, n, [], by simp, hpat, hdst, hne, by simp, himm⟩

/-- An instruction that ends no pattern. -/
theorem inForce_snoc_of_whole (h : Whole pre (n :: rest)) :
    InForce (pre ++ [n]) r imm ↔ InForce pre r imm ∧ n.data.dstReg ≠ r := by
  rw [inForce_snoc_iff]
  refine ⟨fun h' => h'.resolve_right ?_, .inl⟩
  rintro ⟨p, u, v, hpre, hpat, -⟩
  have hno := h.2 p u v hpre
  rw [isPattern_three, hpat] at hno
  cases hno

theorem inForce_snoc_of_opc (h : n.data.opc ≠ .OPC_LU32I_D) :
    InForce (pre ++ [n]) r imm ↔ InForce pre r imm ∧ n.data.dstReg ≠ r := by
  rw [inForce_snoc_iff]
  refine ⟨fun h' => h'.resolve_right ?_, .inl⟩
  rintro ⟨p, u, v, -, hpat, -⟩
  exact h (opc_of_isPattern hpat).2.2.1

/-- **A pattern** is in force behind itself. -/
theorem inForce_pattern_iff (hpat : isLu12iOriLu32iPattern [x, y, z] = true) :
    InForce (pre ++ [x, y, z]) r imm ↔ (InForce pre r imm ∧ x.data.dstReg ≠ r) ∨
      (x.data.dstReg = r ∧ r ≠ 0 ∧ patternImm x y z = imm) := by
  obtain ⟨hx, hy, -, hdst, hdst'⟩ := opc_of_isPattern hpat
  have hsplit : pre ++ [x, y, z] = pre ++ [x] ++ [y] ++ [z] := by simp
  rw [hsplit, inForce_snoc_iff, inForce_snoc_of_opc (by rw [hy]; decide),
    inForce_snoc_of_opc (by rw [hx]; decide), hdst, hdst', and_assoc, and_assoc, and_self, and_self]
  refine or_congr Iff.rfl ⟨?_, ?_⟩
  · rintro ⟨p, u, v, heq, -, hr, hne, himm⟩
    have heq : pre ++ [x, y] = p ++ [u, v] := by rw [← heq]; simp
    obtain ⟨-, heq⟩ := List.append_inj' heq rfl
    simp only [List.cons.injEq] at heq
    obtain ⟨rfl, rfl, -⟩ := heq
    exact ⟨hr, hne, himm⟩
  · rintro ⟨hr, hne, himm⟩
    exact ⟨pre, x, y, by simp, hpat, hr, hne, himm⟩

theorem not_inForce_nil : ¬InForce [] r imm := by
  rintro ⟨p, u, v, w, mid, h, -⟩
  exact absurd h (by simp)

end Pattern

/-! ### What is known is in force -/

/-- The constants are those in force. -/
def Knows (s : ConstRegSet) (pre : List (ListNode LoongArchInsInfo)) : Prop :=
  ∀ r imm, (s.isConst r = true ∧ s.regs r = imm) ↔ InForce pre r imm

section Knows

variable {s : ConstRegSet} {x y z : ListNode LoongArchInsInfo}
  {pre rest : List (ListNode LoongArchInsInfo)}

theorem knows_empty : Knows .empty [] := fun _ _ =>
  iff_of_false (fun h => absurd h.1 Bool.false_ne_true) not_inForce_nil

theorem Knows.kill (h : Knows s pre) (hwhole : Whole pre (x :: rest)) :
    Knows (s.kill x.data.dstReg) (pre ++ [x]) := by
  intro r imm
  rw [isConst_kill, regs_kill, inForce_snoc_of_whole hwhole, ← h r imm, and_right_comm]

theorem kill_of_not_const {r : BitVec 8} (h : s.isConst r = false) : s.kill r = s := by
  rw [ConstRegSet.kill, if_neg (by rw [h]; exact Bool.false_ne_true)]

theorem Knows.set (h : Knows s pre) (hpat : isLu12iOriLu32iPattern [x, y, z] = true) :
    Knows (s.set x.data.dstReg (patternImm x y z)) (pre ++ [x, y, z]) := by
  intro r imm
  rw [inForce_pattern_iff hpat, ← h r imm, isConst_set]
  by_cases hr : r = x.data.dstReg
  · subst hr
    by_cases hzero : x.data.dstReg = 0
    · have hnone : s.isConst x.data.dstReg = true → False := fun hconst => by
        obtain ⟨_, _, _, _, _, -, -, -, hne, -⟩ := (h x.data.dstReg _).mp ⟨hconst, rfl⟩
        exact hne hzero
      refine iff_of_false ?_ ?_
      · rintro ⟨hconst | ⟨-, hne⟩, -⟩
        · exact hnone hconst
        · exact hne hzero
      · rintro (⟨-, hne⟩ | ⟨-, hne, -⟩)
        · exact hne rfl
        · exact hne hzero
    · rw [regs_set_self _ hzero]
      constructor
      · rintro ⟨-, himm⟩
        exact .inr ⟨rfl, hzero, himm⟩
      · rintro (⟨-, hne⟩ | ⟨-, -, himm⟩)
        · exact absurd rfl hne
        · exact ⟨.inr ⟨rfl, hzero⟩, himm⟩
  · rw [regs_set_of_ne _ hr]
    constructor
    · rintro ⟨hconst | ⟨heq, -⟩, himm⟩
      · exact .inl ⟨⟨hconst, himm⟩, Ne.symm hr⟩
      · exact absurd heq.symm hr
    · rintro (⟨⟨hconst, himm⟩, -⟩ | ⟨heq, -⟩)
      · exact ⟨.inl hconst, himm⟩
      · exact absurd heq.symm hr

/-- A pattern can be replaced where the loop over the registers finds one. -/
theorem Knows.replaceable_iff (h : Knows s pre) (hpat : isLu12iOriLu32iPattern [x, y, z] = true) :
    Replaceable pre x y z ↔ ∃ i, LoadImm.closeReg s (patternImm x y z) LoadImm.regs = .ok (some i) := by
  rw [Replaceable, and_iff_right hpat, closeReg_eq]
  constructor
  · rintro ⟨r, hr, imm, hforce, hcan⟩
    obtain ⟨hconst, rfl⟩ := (h r imm).mpr hforce
    have hfound : (LoadImm.regs.find? fun i => s.isConst i &&
        canSubstitueWithAddiInsn (patternImm x y z - s.regs i)).isSome := by
      rw [List.find?_isSome]
      exact ⟨r, hr, by rw [hconst, hcan]; rfl⟩
    obtain ⟨i, hi⟩ := Option.isSome_iff_exists.mp hfound
    exact ⟨(i, s.regs i), by rw [hi]; rfl⟩
  · rintro ⟨i, hi⟩
    rw [Except.ok.injEq, Option.map_eq_some_iff] at hi
    obtain ⟨r, hr, rfl⟩ := hi
    have hgood := List.find?_some hr
    rw [Bool.and_eq_true] at hgood
    exact ⟨r, List.mem_of_find?_eq_some hr, s.regs r, (h r _).mp ⟨hgood.1, rfl⟩, hgood.2⟩

end Knows

/-! ### What is replaced -/

/-- The node is in a pattern that is replaced, `nodes` being what follows `pre` in front of the first
`b` or `bne`. -/
def Replaced (pre nodes : List (ListNode LoongArchInsInfo)) (n : ListNode LoongArchInsInfo) : Prop :=
  ∃ q x y z post, nodes = q ++ x :: y :: z :: post ∧ (∀ k ∈ q, isBOrBne k.data.opc = false) ∧
    Replaceable (pre ++ q) x y z ∧ n ∈ [x, y, z]

section Replaced

variable {s : ConstRegSet} {x y z n : ListNode LoongArchInsInfo}
  {pre rest nodes : List (ListNode LoongArchInsInfo)}

theorem replaced_stop (h : isBOrBne x.data.opc = true) : ¬Replaced pre (x :: nodes) n := by
  rintro ⟨q, u, v, w, post, heq, hq, ⟨hpat, -⟩, -⟩
  cases q with
  | nil =>
    obtain ⟨rfl, -⟩ := List.cons.inj heq
    rw [(opc_of_isPattern hpat).1] at h
    exact absurd h (by decide)
  | cons k q =>
    obtain ⟨rfl, -⟩ := List.cons.inj heq
    rw [hq x List.mem_cons_self] at h
    cases h

/-- A node that begins no pattern. -/
theorem replaced_cons_iff (hstop : ¬isBOrBne x.data.opc = true)
    (hpat : ¬isLu12iOriLu32iPattern (x :: nodes) = true) :
    Replaced pre (x :: nodes) n ↔ Replaced (pre ++ [x]) nodes n := by
  constructor
  · rintro ⟨q, u, v, w, post, heq, hq, hrep, hn⟩
    cases q with
    | nil =>
      obtain ⟨rfl, rfl⟩ := List.cons.inj heq
      exact absurd hrep.1 hpat
    | cons k q =>
      obtain ⟨rfl, rfl⟩ := List.cons.inj heq
      refine ⟨q, u, v, w, post, rfl, fun k hk => hq k (List.mem_cons_of_mem _ hk), ?_, hn⟩
      rwa [List.append_assoc]
  · rintro ⟨q, u, v, w, post, rfl, hq, hrep, hn⟩
    refine ⟨x :: q, u, v, w, post, rfl, List.forall_mem_cons.mpr ⟨by simpa using hstop, hq⟩, ?_, hn⟩
    rwa [List.append_assoc] at hrep

/-- A pattern. -/
theorem replaced_pattern_iff (hpat : isLu12iOriLu32iPattern [x, y, z] = true) :
    Replaced pre (x :: y :: z :: rest) n ↔
      (Replaceable pre x y z ∧ n ∈ [x, y, z]) ∨ Replaced (pre ++ [x, y, z]) rest n := by
  obtain ⟨hx, hy, hz, -⟩ := opc_of_isPattern hpat
  have hplain : ∀ k ∈ [x, y, z], isBOrBne k.data.opc = false := by
    simp only [List.forall_mem_cons, hx, hy, hz]
    decide
  constructor
  · rintro ⟨q, u, v, w, post, heq, hq, hrep, hn⟩
    rcases split_pattern hpat hrep.1 heq with ⟨rfl, rfl, rfl, rfl, -⟩ | ⟨q', rfl, rfl⟩
    · rw [List.append_nil] at hrep
      exact .inl ⟨hrep, hn⟩
    · refine .inr ⟨q', u, v, w, post, rfl, fun k hk => hq k (by simp [hk]), ?_, hn⟩
      rwa [List.append_assoc]
  · rintro (⟨hrep, hn⟩ | ⟨q, u, v, w, post, rfl, hq, hrep, hn⟩)
    · exact ⟨[], x, y, z, rest, rfl, List.forall_mem_nil _, by rwa [List.append_nil], hn⟩
    · refine ⟨[x, y, z] ++ q, u, v, w, post, rfl, List.forall_mem_append.mpr ⟨hplain, hq⟩, ?_, hn⟩
      rwa [List.append_assoc] at hrep

/-- What becomes of a pattern. -/
theorem mem_replaced_patternItems_iff {inner : Bool} (hknows : Knows s pre)
    (houter : inner = false → ∀ r, s.isConst r = false)
    (hpat : isLu12iOriLu32iPattern [x, y, z] = true) :
    n ∈ (patternItems inner s x y z).flatMap Item.replaced ↔ Replaceable pre x y z ∧ n ∈ [x, y, z] := by
  cases inner with
  | false =>
    refine iff_of_false (List.not_mem_nil) ?_
    rintro ⟨⟨-, r, -, imm, hforce, -⟩, -⟩
    have hconst := ((hknows r imm).mpr hforce).1
    rw [houter rfl r] at hconst
    cases hconst
  | true =>
    rw [hknows.replaceable_iff hpat]
    obtain ⟨close, hclose⟩ := LoadImm.closeReg_ok s (patternImm x y z) LoadImm.regs
    cases close with
    | none =>
      rw [patternItems_none hclose, hclose]
      refine iff_of_false (List.not_mem_nil) ?_
      rintro ⟨⟨_, h⟩, -⟩
      cases h
    | some r =>
      rw [patternItems_some hclose, and_iff_right ⟨r, hclose⟩, List.flatMap_singleton, Item.replaced]

/-- **The plan** replaces the patterns that are close to a register in force. -/
theorem mem_replaced_items_iff : ∀ (nodes : List (ListNode LoongArchInsInfo)) {inner : Bool}
    {s : ConstRegSet} {pre : List (ListNode LoongArchInsInfo)}, Counted s → Knows s pre →
    Whole pre nodes → (inner = false → ∀ r, s.isConst r = false) →
      (n ∈ (items inner s nodes).flatMap Item.replaced ↔ Replaced pre nodes n)
  | [], _, _, _, _, _, _, _ => by
    refine iff_of_false (List.not_mem_nil) ?_
    rintro ⟨q, _, _, _, _, heq, -⟩
    exact absurd heq (by simp)
  | x :: nodes, inner, s, pre, hcount, hknows, hwhole, houter => by
    by_cases hstop : isBOrBne x.data.opc = true
    · rw [items_stop hstop]
      exact iff_of_false (List.not_mem_nil) (replaced_stop hstop)
    by_cases hpat : isLu12iOriLu32iPattern (x :: nodes) = true
    · obtain ⟨_, y, z, rest, heq, -⟩ := isPattern_cases hpat
      obtain ⟨rfl, rfl⟩ := List.cons.inj heq
      have hpat' : isLu12iOriLu32iPattern [x, y, z] = true := hpat
      have ih : n ∈ (items true (s.set x.data.dstReg (patternImm x y z)) rest).flatMap Item.replaced ↔
          Replaced (pre ++ [x, y, z]) rest n :=
        mem_replaced_items_iff rest (hcount.set _ _) (hknows.set hpat') (whole_pattern hpat')
          fun h => by cases h
      rw [items_pattern hpat, List.flatMap_append, List.mem_append, ih, replaced_pattern_iff hpat',
        mem_replaced_patternItems_iff hknows houter hpat']
    · have hkept : ∀ its : List Item, n ∈ (Item.keep x :: its).flatMap Item.replaced ↔
          n ∈ its.flatMap Item.replaced := fun its => Iff.rfl
      rw [replaced_cons_iff hstop hpat]
      cases inner with
      | true =>
        rw [items_inner hstop hpat, hkept]
        refine mem_replaced_items_iff nodes (hcount.kill _) (hknows.kill hwhole)
          (hwhole.keep hpat) fun hsize => ?_
        exact (hcount.kill _).size_eq_zero_iff.mp (not_not.mp (of_decide_eq_false hsize))
      | false =>
        have hsame := kill_of_not_const (houter rfl x.data.dstReg)
        rw [items_outer hstop hpat, hkept]
        exact mem_replaced_items_iff nodes hcount (hsame ▸ hknows.kill hwhole) (hwhole.keep hpat) houter
termination_by nodes => nodes.length

/-- **What a visit replaces.** -/
theorem replaced_iff (nodes : List (ListNode LoongArchInsInfo)) :
    n ∈ (plan nodes).flatMap Item.replaced ↔ Replaced [] nodes n :=
  mem_replaced_items_iff nodes counted_empty knows_empty (whole_nil nodes) fun _ _ => rfl

end Replaced

/-! ### A visit -/

theorem patternsClear_iff {tb : TB ι} :
    PatternsClear tb ↔ ∀ n ∈ (plan tb.disInsns.nodes).flatMap Item.replaced, ¬tb.CoversNode n := by
  constructor
  · intro h n hn
    obtain ⟨q, x, y, z, post, heq, hq, hrep, hmem⟩ := (replaced_iff _).mp hn
    exact h q x y z post heq hq hrep n hmem
  · intro h pre x y z post heq hpre hrep n hmem
    exact h n ((replaced_iff _).mpr ⟨pre, x, y, z, post, heq, hpre, hrep, hmem⟩)

theorem mem_before_of_replaced {it : Item} {n : ListNode LoongArchInsInfo} (h : n ∈ it.replaced) :
    n ∈ it.before := by
  cases it with
  | keep _ => cases h
  | subst _ _ _ _ _ => exact h

/-- A node of a list without repetition is in one piece. -/
theorem eq_of_mem_flatMap {α β : Type} {f : α → List β} {l : List α} (h : (l.flatMap f).Nodup) {a b : α}
    (ha : a ∈ l) (hb : b ∈ l) {x : β} (hxa : x ∈ f a) (hxb : x ∈ f b) : a = b := by
  have hsymm : Std.Symm (Function.onFun List.Disjoint f) := ⟨fun _ _ hdis => hdis.symm⟩
  by_contra hne
  exact (List.nodup_flatMap.mp h).2.forall ha hb hne hxa hxb

section After

variable {its : List Item} {rest : List (ListNode LoongArchInsInfo)} {n : ListNode LoongArchInsInfo}

/-- An instruction of a replaced pattern is not there any more. -/
theorem not_mem_after {it : Item} (hnodup : (its.flatMap Item.before ++ rest).Nodup) (hit : it ∈ its)
    (hn : n ∈ it.replaced) (hplain : n.data.opc ≠ .OPC_ADDI_D) :
    n ∉ its.flatMap Item.after ++ rest := by
  obtain ⟨hbefore, -, hdis⟩ := List.nodup_append'.mp hnodup
  have hin : n ∈ its.flatMap Item.before := List.mem_flatMap.mpr ⟨it, hit, mem_before_of_replaced hn⟩
  rw [List.mem_append, not_or]
  refine ⟨fun hafter => ?_, fun hrest => hdis hin hrest⟩
  obtain ⟨it', hit', hn'⟩ := List.mem_flatMap.mp hafter
  cases it' with
  | keep m =>
    obtain rfl := eq_of_mem_flatMap hbefore hit hit' (mem_before_of_replaced hn) hn'
    cases hn
  | subst x y z i imm =>
    rw [Item.after, List.mem_singleton] at hn'
    rw [hn'] at hplain
    exact hplain rfl

end After

/-- No instruction of a pattern is an `addi.d`. -/
theorem opc_of_replaced {nodes : List (ListNode LoongArchInsInfo)} {n : ListNode LoongArchInsInfo}
    (h : n ∈ (plan nodes).flatMap Item.replaced) : n.data.opc ≠ .OPC_ADDI_D := by
  obtain ⟨q, x, y, z, post, -, -, ⟨hpat, -⟩, hn⟩ := (replaced_iff nodes).mp h
  obtain ⟨hx, hy, hz, -⟩ := opc_of_isPattern hpat
  simp only [List.mem_cons, List.not_mem_nil, or_false] at hn
  rcases hn with rfl | rfl | rfl
  · rw [hx]; decide
  · rw [hy]; decide
  · rw [hz]; decide

/-- **The relocations stay** as they are, with the nodes they cover, if and only if they cover no
instruction of a pattern that is close to a register in force. -/
theorem relocations_kept_iff (tb : TB ι) (h : tb.RelsFit) :
    ∃ tb', visit tb = .ok tb' ∧ (tb'.relView = tb.relView ↔ PatternsClear tb) := by
  obtain ⟨tb', rest, hok, -, hbefore, hafter, hrels⟩ := visit_eq tb
  refine ⟨tb', hok, fun hview => ?_, fun hclear => (hrels h (patternsClear_iff.mp hclear)).2⟩
  rw [patternsClear_iff]
  intro n hn hcovers
  obtain ⟨it, hit, hmem⟩ := List.mem_flatMap.mp hn
  have hnodup : ((plan tb.disInsns.nodes).flatMap Item.before ++ rest).Nodup := by
    rw [← hbefore]
    exact tb.disInsns.nodup.of_map _
  have hgone := not_mem_after hnodup hit hmem (opc_of_replaced hn)
  rw [← hafter] at hgone
  exact hgone ((TB.coversNode_of_relView_eq hview).mpr hcovers).mem_nodes

/-- A relocation of the pattern that begins at byte `offset`. -/
def patternRel (offset : BitVec 32) : RelSlot :=
  ⟨⟨.LOAD_CALL_TARGET, offset, 3, 0, 0⟩, true⟩

/-- `twoPatterns` with a relocation. -/
def relocatedPatterns (offset : BitVec 32) : TB ℕ := { twoPatterns with rels := [patternRel offset] }

theorem relsFit_relocatedPatterns {offset : BitVec 32} (h : offset ≤ 12) :
    (relocatedPatterns offset).RelsFit := by
  have hlen : twoPatterns.disInsns.nodes.length = 7 := by decide
  refine ⟨⟨?_, ?_, ?_⟩, hlen.trans_lt (by decide)⟩
  · intro r hr _
    rw [List.mem_singleton.mp hr]
    exact show 1 ≤ 3 by decide
  · intro r hr _
    rw [List.mem_singleton.mp hr]
    refine le_of_le_of_eq ?_ hlen.symm
    show (offset.toNat + 3) / 4 + 3 ≤ 7
    rw [BitVec.le_def] at h
    change _ ≤ 12 at h
    omega
  · exact List.pairwise_singleton _ _

theorem relocations_kept_iff_first : (relocatedPatterns 0).RelsFit ∧
    ∃ tb', visit (relocatedPatterns 0) = .ok tb' ∧
      (tb'.relView = (relocatedPatterns 0).relView ↔ PatternsClear (relocatedPatterns 0)) :=
  ⟨relsFit_relocatedPatterns (by decide), relocations_kept_iff _ (relsFit_relocatedPatterns (by decide))⟩

/-- A relocation of the second pattern is dropped. -/
theorem relocation_dropped : (relocatedPatterns 12).RelsFit ∧
    (relocatedPatterns 12).pipeholeAvailable = true ∧
    ∃ tb', visit (relocatedPatterns 12) = .ok tb' ∧ (relocatedPatterns 12).relView.length = 1 ∧
      tb'.relView = [] := by
  refine ⟨relsFit_relocatedPatterns (by decide), by decide, ?_⟩
  obtain ⟨tb', hok⟩ : ∃ tb', visit (relocatedPatterns 12) = .ok tb' := by
    obtain ⟨tb', _, hok, -⟩ := visit_eq (relocatedPatterns 12)
    exact ⟨tb', hok⟩
  have hview : (visit (relocatedPatterns 12)).toOption.map (·.relView.length) = some 0 := by decide
  refine ⟨tb', hok, by decide, ?_⟩
  rw [hok] at hview
  exact List.length_eq_zero_iff.mp (Option.some.inj hview)

end AotOpt.Lu12iOriLu32iVistor
