import AotOpt.Vistor.LoadImm

/-!
# The differences of immediates

`opt_lu12i_ori_lu32i_pattern` and `opt_lu12i_ori_parttern` subtract the constants they know from
the immediate that is loaded, on 64 bits with sign. Here the loops also list these differences,
each as the two numbers it is taken of.

* `erase_visitDiffs` — listing the differences changes nothing.
* `visitDiffs_spec` — they are taken of immediates that patterns of the block load.
-/

namespace AotOpt.LoadImm

variable {ι : Type} (P : LoadImm)

/-! ### The loops with their differences -/

/-- The loop over the registers. The difference that is handed to `substitue_with_addi_insn` is the
last one. -/
def closeRegDiffs (constSet : ConstRegSet) (curImm : BitVec 64) :
    List (BitVec 8) → Res (List (BitVec 64 × BitVec 64) × Option (BitVec 8 × BitVec 64))
  | [] => .ok ([], none)
  | i :: is =>
    if constSet.isConst i then do
      let imm ← constSet.get i
      if canSubstitueWithAddiInsn (curImm - imm) then .ok ([(curImm, imm)], some (i, imm))
      else do
        let (diffs, close) ← closeRegDiffs constSet curImm is
        .ok ((curImm, imm) :: diffs, close)
    else closeRegDiffs constSet curImm is

/-- The loop of `opt_lu12i_ori_lu32i_pattern` and `opt_lu12i_ori_parttern`. -/
def optPatternDiffs : ℕ → TB ι → BitVec 32 → ConstRegSet → List (ListNode LoongArchInsInfo) →
    Res (List (BitVec 64 × BitVec 64) × TB ι × BitVec 32 × ConstRegSet × List (ListNode LoongArchInsInfo))
  | _, tb, cur, constSet, [] => .ok ([], tb, cur, constSet, [])
  | 0, _, _, _, _ => .error .depth
  | turns + 1, tb, cur, constSet, node :: nodes =>
    if P.isPattern (node :: nodes) && !(P.checksRel && tb.inScopeOfRel cur 2) then do
      let curImm ← P.res (node :: nodes)
      let (diffs, close) ← closeRegDiffs constSet curImm regs
      match close with
      | some (i, imm) => do
        let tb ← substitueWithAddiInsn node P.insnCount i ((curImm - imm).setWidth 32) tb cur
        let (diffs', r) ← optPatternDiffs turns tb (cur + 1) (constSet.set node.data.dstReg curImm)
          (nodes.drop (P.insnCount - 1))
        .ok (diffs ++ diffs', r)
      | none => do
        let (diffs', r) ← optPatternDiffs turns tb (cur + BitVec.ofNat 32 P.insnCount)
          (constSet.set node.data.dstReg curImm) (nodes.drop (P.insnCount - 1))
        .ok (diffs ++ diffs', r)
    else if isBOrBne node.data.opc then .ok ([], tb, cur, constSet, node :: nodes)
    else
      let constSet := constSet.kill node.data.dstReg
      if constSet.size = 0 then .ok ([], tb, cur + 1, constSet, nodes)
      else optPatternDiffs turns tb (cur + 1) constSet nodes

/-- The loop of `visit`. -/
def visitDiffsFrom : ℕ → TB ι → BitVec 32 → ConstRegSet → List (ListNode LoongArchInsInfo) →
    Res (List (BitVec 64 × BitVec 64) × TB ι)
  | _, tb, _, _, [] => .ok ([], tb)
  | 0, _, _, _, _ => .error .depth
  | turns + 1, tb, cur, constSet, iter :: nodes =>
    if isBOrBne iter.data.opc then .ok ([], tb)
    else if P.isPattern (iter :: nodes) then do
      let imm ← P.res (iter :: nodes)
      let constSet := constSet.set iter.data.dstReg imm
      let (diffs, tb, cur, constSet, nodes) ← P.optPatternDiffs nodes.length tb
        (cur + BitVec.ofNat 32 P.insnCount) constSet (nodes.drop (P.insnCount - 1))
      let (diffs', tb) ← visitDiffsFrom turns tb cur constSet nodes
      .ok (diffs ++ diffs', tb)
    else visitDiffsFrom turns tb (cur + 1) constSet nodes

/-- `visit`. -/
def visitDiffs (tb : TB ι) : Res (List (BitVec 64 × BitVec 64) × TB ι) :=
  P.visitDiffsFrom tb.disInsns.nodes.length tb 0 .empty tb.disInsns.nodes

/-! ### Listing the differences changes nothing -/

/-- What is put in front of a list does not show without it. -/
theorem map_prepend {α β : Type} (xs : List α) (x : Res (List α × β)) :
    (x >>= fun r => (.ok (xs ++ r.1, r.2) : Res (List α × β))).map (·.2) = x.map (·.2) := by
  cases x <;> rfl

theorem erase_closeRegDiffs (constSet : ConstRegSet) (curImm : BitVec 64) : ∀ is : List (BitVec 8),
    (closeRegDiffs constSet curImm is).map (·.2) = closeReg constSet curImm is
  | [] => rfl
  | i :: is => by
    rw [closeRegDiffs, closeReg]
    split_ifs
    · rw [res_map_bind]
      refine bind_congr fun imm => ?_
      split_ifs
      · rfl
      · rw [← erase_closeRegDiffs constSet curImm is]
        exact map_prepend [_] _
    · exact erase_closeRegDiffs constSet curImm is

theorem erase_optPatternDiffs : ∀ (turns : ℕ) (tb : TB ι) (cur : BitVec 32) (constSet : ConstRegSet)
    (nodes : List (ListNode LoongArchInsInfo)),
    (P.optPatternDiffs turns tb cur constSet nodes).map (·.2) = P.optPattern turns tb cur constSet nodes
  | turns, tb, cur, constSet, [] => by rw [optPatternDiffs, optPattern]; rfl
  | 0, _, _, _, _ :: _ => rfl
  | turns + 1, tb, cur, constSet, node :: nodes => by
    rw [optPatternDiffs, optPattern]
    split_ifs
    · rw [res_map_bind]
      refine bind_congr fun curImm => ?_
      rw [res_map_bind, ← erase_closeRegDiffs]
      cases closeRegDiffs constSet curImm regs with
      | error e => rfl
      | ok r =>
        obtain ⟨diffs, close⟩ := r
        cases close with
        | none =>
          show Except.map _ (_ >>= _) = optPattern P turns tb _ _ _
          rw [← erase_optPatternDiffs turns tb]
          exact map_prepend _ _
        | some r =>
          show Except.map _ (_ >>= _) = _ >>= _
          rw [res_map_bind]
          refine bind_congr fun tb => ?_
          rw [← erase_optPatternDiffs turns tb]
          exact map_prepend _ _
    · rfl
    · dsimp only
      split_ifs
      · rfl
      · exact erase_optPatternDiffs turns tb _ _ nodes

theorem erase_visitDiffsFrom : ∀ (turns : ℕ) (tb : TB ι) (cur : BitVec 32) (constSet : ConstRegSet)
    (nodes : List (ListNode LoongArchInsInfo)),
    (P.visitDiffsFrom turns tb cur constSet nodes).map (·.2) = P.visitFrom turns tb cur constSet nodes
  | turns, tb, cur, constSet, [] => by rw [visitDiffsFrom, visitFrom]; rfl
  | 0, _, _, _, _ :: _ => rfl
  | turns + 1, tb, cur, constSet, iter :: nodes => by
    rw [visitDiffsFrom, visitFrom]
    split_ifs
    · rfl
    · rw [res_map_bind]
      refine bind_congr fun imm => ?_
      dsimp only
      rw [res_map_bind, ← erase_optPatternDiffs]
      cases P.optPatternDiffs nodes.length tb (cur + BitVec.ofNat 32 P.insnCount)
          (constSet.set iter.data.dstReg imm) (nodes.drop (P.insnCount - 1)) with
      | error e => rfl
      | ok r =>
        show Except.map _ (_ >>= _) = visitFrom P turns _ _ _ _
        rw [← erase_visitDiffsFrom turns]
        exact map_prepend _ _
    · exact erase_visitDiffsFrom turns tb _ _ nodes

/-- **The visit with its differences** is the visit. -/
theorem erase_visitDiffs (tb : TB ι) : (P.visitDiffs tb).map (·.2) = P.visit tb :=
  P.erase_visitDiffsFrom _ _ _ _ _

/-! ### What the differences are taken of -/

section Spec

variable {P} {Q : BitVec 64 → Prop}

/-- The constants have the property. -/
def AllConsts (Q : BitVec 64 → Prop) (s : ConstRegSet) : Prop := ∀ r, s.isConst r = true → Q (s.regs r)

theorem allConsts_empty : AllConsts Q .empty := fun _ h => absurd h Bool.false_ne_true

theorem AllConsts.kill {s : ConstRegSet} (h : AllConsts Q s) (r : BitVec 8) : AllConsts Q (s.kill r) := by
  intro q hq
  rw [ConstRegSet.kill] at hq ⊢
  split_ifs at hq ⊢ with hr
  · have hne : q ≠ r := by
      rintro rfl
      exact absurd hq (by simp)
    exact h q (by simpa [Function.update_of_ne hne] using hq)
  · exact h q hq

theorem AllConsts.set {s : ConstRegSet} (h : AllConsts Q s) (r : BitVec 8) {imm : BitVec 64} (himm : Q imm) :
    AllConsts Q (s.set r imm) := by
  intro q hq
  rw [ConstRegSet.set] at hq ⊢
  by_cases hr : r = 0
  · rw [if_pos hr] at hq ⊢
    exact h q hq
  · rw [if_neg hr] at hq ⊢
    dsimp only at hq ⊢
    by_cases hqr : q = r
    · subst hqr
      split_ifs <;> simpa using himm
    · split_ifs at hq ⊢
      · simpa [Function.update_of_ne hqr] using h q hq
      · simpa [Function.update_of_ne hqr] using h q (by simpa [Function.update_of_ne hqr] using hq)

/-- The differences are taken of immediates that have the property. -/
def AllDiffs (Q : BitVec 64 → Prop) (diffs : List (BitVec 64 × BitVec 64)) : Prop :=
  ∀ d ∈ diffs, Q d.1 ∧ Q d.2

theorem AllDiffs.append {diffs diffs' : List (BitVec 64 × BitVec 64)} (h : AllDiffs Q diffs)
    (h' : AllDiffs Q diffs') : AllDiffs Q (diffs ++ diffs') :=
  List.forall_mem_append.mpr ⟨h, h'⟩

theorem closeRegDiffs_spec {s : ConstRegSet} (hs : AllConsts Q s) {curImm : BitVec 64} (himm : Q curImm) :
    ∀ {is : List (BitVec 8)} {diffs : List (BitVec 64 × BitVec 64)}
      {close : Option (BitVec 8 × BitVec 64)},
      closeRegDiffs s curImm is = .ok (diffs, close) → AllDiffs Q diffs
  | [], _, _, h => by
    cases h
    exact List.forall_mem_nil _
  | i :: is, diffs, close, h => by
    rw [closeRegDiffs] at h
    split_ifs at h with hconst
    · rw [ConstRegSet.get, if_pos hconst, ok_bind] at h
      have hd : Q curImm ∧ Q (s.regs i) := ⟨himm, hs i hconst⟩
      split_ifs at h
      · cases h
        exact List.forall_mem_singleton.mpr hd
      · obtain ⟨r, hr, heq⟩ := bind_eq_ok.mp h
        cases heq
        exact List.forall_mem_cons.mpr ⟨hd, closeRegDiffs_spec hs himm hr⟩
    · exact closeRegDiffs_spec hs himm h

/-- What the patterns among the nodes load has the property. -/
def Loads (P : LoadImm) (Q : BitVec 64 → Prop) (nodes : List (ListNode LoongArchInsInfo)) : Prop :=
  ∀ ns, ns <:+ nodes → P.isPattern ns = true → ∀ imm, P.res ns = .ok imm → Q imm

theorem Loads.of_suffix {nodes nodes' : List (ListNode LoongArchInsInfo)} (h : P.Loads Q nodes)
    (hs : nodes' <:+ nodes) : P.Loads Q nodes' := fun ns hns => h ns (hns.trans hs)

/-- **The inner loop** goes on with constants that have the property. -/
theorem optPatternDiffs_spec (turns : ℕ) {tb : TB ι} {cur : BitVec 32} {s : ConstRegSet}
    {nodes : List (ListNode LoongArchInsInfo)}
    {r : List (BitVec 64 × BitVec 64) × TB ι × BitVec 32 × ConstRegSet × List (ListNode LoongArchInsInfo)}
    (hloads : P.Loads Q nodes) (hs : AllConsts Q s)
    (h : P.optPatternDiffs turns tb cur s nodes = .ok r) :
    AllDiffs Q r.1 ∧ AllConsts Q r.2.2.2.1 ∧ r.2.2.2.2 <:+ nodes := by
  induction turns generalizing tb cur s nodes r with
  | zero =>
    cases nodes with
    | nil =>
      rw [optPatternDiffs] at h
      cases h
      exact ⟨List.forall_mem_nil _, hs, List.suffix_rfl⟩
    | cons node nodes => cases h
  | succ turns ih =>
    cases nodes with
    | nil =>
      rw [optPatternDiffs] at h
      cases h
      exact ⟨List.forall_mem_nil _, hs, List.suffix_rfl⟩
    | cons node nodes =>
      have htail : nodes <:+ node :: nodes := List.suffix_cons _ _
      have hdrop : nodes.drop (P.insnCount - 1) <:+ node :: nodes := (List.drop_suffix _ _).trans htail
      rw [optPatternDiffs] at h
      split_ifs at h with hpat hstop
      · rw [Bool.and_eq_true] at hpat
        obtain ⟨curImm, hres, h⟩ := bind_eq_ok.mp h
        obtain ⟨⟨diffs, close⟩, hclose, h⟩ := bind_eq_ok.mp h
        have himm := hloads _ List.suffix_rfl hpat.1 _ hres
        have hdiffs := closeRegDiffs_spec hs himm hclose
        have hs₁ := hs.set node.data.dstReg himm
        cases close with
        | none =>
          obtain ⟨r', hrec, heq⟩ := bind_eq_ok.mp h
          obtain ⟨hdiffs', hs', hsuffix⟩ := ih (hloads.of_suffix hdrop) hs₁ hrec
          cases heq
          exact ⟨hdiffs.append hdiffs', hs', hsuffix.trans hdrop⟩
        | some c =>
          obtain ⟨tb₁, -, h⟩ := bind_eq_ok.mp h
          obtain ⟨r', hrec, heq⟩ := bind_eq_ok.mp h
          obtain ⟨hdiffs', hs', hsuffix⟩ := ih (hloads.of_suffix hdrop) hs₁ hrec
          cases heq
          exact ⟨hdiffs.append hdiffs', hs', hsuffix.trans hdrop⟩
      · cases h
        exact ⟨List.forall_mem_nil _, hs, List.suffix_rfl⟩
      · dsimp only at h
        split_ifs at h
        · cases h
          exact ⟨List.forall_mem_nil _, hs.kill _, htail⟩
        · obtain ⟨hdiffs, hs', hsuffix⟩ := ih (hloads.of_suffix htail) (hs.kill node.data.dstReg) h
          exact ⟨hdiffs, hs', hsuffix.trans htail⟩

/-- **The outer loop**. -/
theorem visitDiffsFrom_spec (turns : ℕ) {tb : TB ι} {cur : BitVec 32} {s : ConstRegSet}
    {nodes : List (ListNode LoongArchInsInfo)} {r : List (BitVec 64 × BitVec 64) × TB ι}
    (hloads : P.Loads Q nodes) (hs : AllConsts Q s)
    (h : P.visitDiffsFrom turns tb cur s nodes = .ok r) : AllDiffs Q r.1 := by
  induction turns generalizing tb cur s nodes r with
  | zero =>
    cases nodes with
    | nil =>
      rw [visitDiffsFrom] at h
      cases h
      exact List.forall_mem_nil _
    | cons iter nodes => cases h
  | succ turns ih =>
    cases nodes with
    | nil =>
      rw [visitDiffsFrom] at h
      cases h
      exact List.forall_mem_nil _
    | cons iter nodes =>
      have htail : nodes <:+ iter :: nodes := List.suffix_cons _ _
      have hdrop : nodes.drop (P.insnCount - 1) <:+ iter :: nodes := (List.drop_suffix _ _).trans htail
      rw [visitDiffsFrom] at h
      split_ifs at h with hstop hpat
      · cases h
        exact List.forall_mem_nil _
      · obtain ⟨imm, hres, h⟩ := bind_eq_ok.mp h
        obtain ⟨r₁, hinner, h⟩ := bind_eq_ok.mp h
        obtain ⟨r₂, hrec, heq⟩ := bind_eq_ok.mp h
        have himm := hloads _ List.suffix_rfl hpat _ hres
        obtain ⟨hdiffs₁, hs₁, hsuffix⟩ := optPatternDiffs_spec nodes.length (hloads.of_suffix hdrop)
          (hs.set iter.data.dstReg himm) hinner
        have hdiffs₂ := ih (hloads.of_suffix (hsuffix.trans hdrop)) hs₁ hrec
        cases heq
        exact hdiffs₁.append hdiffs₂
      · exact ih (hloads.of_suffix htail) hs h

/-- **The differences** of a visit are taken of what patterns of the block load. -/
theorem visitDiffs_spec {tb tb' : TB ι} (hloads : P.Loads Q tb.disInsns.nodes)
    (h : P.visit tb = .ok tb') : ∃ diffs, P.visitDiffs tb = .ok (diffs, tb') ∧ AllDiffs Q diffs := by
  rw [← erase_visitDiffs, map_eq_ok_iff] at h
  obtain ⟨⟨diffs, _⟩, hdiffs, rfl⟩ := h
  exact ⟨diffs, hdiffs, visitDiffsFrom_spec _ hloads allConsts_empty hdiffs⟩

end Spec

end AotOpt.LoadImm
