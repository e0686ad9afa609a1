import AotOpt.Lib.BitField

/-!
# Decision trees over the bits of a word

A decoder written as nested `switch` statements on fields of a word, with actions on the
way and a result at each leaf. `run` walks the tree along a word. `all P` evaluates a
check at every leaf, on the actions met on the way, the result, and what the tests on the
way say about the word; a tree that passes it gives `P` of every word it decodes
(`CaseTree.of_all`). `leaves` lists the leaves with the tests that lead to them; a word that
meets the tests of a leaf comes to it (`CaseTree.run_leaf`), and every word that is decoded comes
to one (`CaseTree.exists_leaf_of_run`).
-/

namespace AotOpt.Lib

universe u v

mutual

/-- A decision tree over words of `w` bits. -/
inductive CaseTree (w : ℕ) (α : Type u) (ρ : Type v) where
  /-- A result is found. -/
  | ret (r : ρ)
  /-- An action on the way. -/
  | act (a : α) (t : CaseTree w α ρ)
  /-- `switch ((x >> shift) & mask)`. -/
  | switch (shift : ℕ) (mask : BitVec w) (cs : Cases w α ρ)
  /-- `if ((x & mask) == value)`. -/
  | ite (mask value : BitVec w) (t e : CaseTree w α ρ)

/-- The cases of a switch. -/
inductive Cases (w : ℕ) (α : Type u) (ρ : Type v) where
  /-- No case is left: nothing is found. -/
  | done
  | case (label : BitVec w) (t : CaseTree w α ρ) (cs : Cases w α ρ)

end

variable {w : ℕ} {α : Type u} {ρ : Type v}

mutual

/-- The actions met on the way along `x`, and the result if one is found. -/
def CaseTree.run (x : BitVec w) : CaseTree w α ρ → List α × Option ρ
  | .ret r => ([], some r)
  | .act a t => (a :: (t.run x).1, (t.run x).2)
  | .switch shift mask cs => cs.run x ((x >>> shift) &&& mask)
  | .ite mask value t e => if x &&& mask = value then t.run x else e.run x

/-- The run from the case with label `v`. -/
def Cases.run (x v : BitVec w) : Cases w α ρ → List α × Option ρ
  | .done => ([], none)
  | .case label t cs => if v = label then t.run x else cs.run x v

end

mutual

/-- The check `P` at every leaf, below the actions `as` and knowing `k`. -/
def CaseTree.all (P : List α → ρ → Known w → Bool) (as : List α) (k : Known w) :
    CaseTree w α ρ → Bool
  | .ret r => P as r k
  | .act a t => t.all P (as ++ [a]) k
  | .switch shift mask cs => cs.all P as k shift mask
  | .ite mask value t e => t.all P as (k.add mask value) && e.all P as k

/-- The check at every leaf of the cases of a switch. -/
def Cases.all (P : List α → ρ → Known w → Bool) (as : List α) (k : Known w) (shift : ℕ)
    (mask : BitVec w) : Cases w α ρ → Bool
  | .done => true
  | .case label t cs =>
    t.all P as (k.add (mask <<< shift) (label <<< shift)) && cs.all P as k shift mask

end

mutual

theorem CaseTree.run_of_all {P : List α → ρ → Known w → Bool} {x : BitVec w} {as' : List α} {r : ρ} :
    ∀ (t : CaseTree w α ρ) (as : List α) (k : Known w), t.all P as k → k.Holds x →
      t.run x = (as', some r) → ∃ k' : Known w, P (as ++ as') r k' ∧ k'.Holds x
  | .ret r₀, as, k, hP, hk, hr => by
    simp only [CaseTree.run, Prod.mk.injEq, Option.some.injEq] at hr
    obtain ⟨rfl, rfl⟩ := hr
    exact ⟨k, by simpa [CaseTree.all] using hP, hk⟩
  | .act a t, as, k, hP, hk, hr => by
    simp only [CaseTree.run, Prod.mk.injEq] at hr
    obtain ⟨rfl, hr⟩ := hr
    obtain ⟨k', h1, h2⟩ := CaseTree.run_of_all t (as ++ [a]) k (by simpa [CaseTree.all] using hP) hk
      (Prod.ext rfl hr)
    exact ⟨k', by simpa using h1, h2⟩
  | .switch shift mask cs, as, k, hP, hk, hr => by
    exact Cases.run_of_all cs as k _ _ (by simpa [CaseTree.all] using hP) hk rfl
      (by simpa [CaseTree.run] using hr)
  | .ite mask value t e, as, k, hP, hk, hr => by
    simp only [CaseTree.all, Bool.and_eq_true] at hP
    rw [CaseTree.run] at hr
    split at hr
    · next hx => exact CaseTree.run_of_all t as _ hP.1 (hk.add hx) hr
    · exact CaseTree.run_of_all e as k hP.2 hk hr

theorem Cases.run_of_all {P : List α → ρ → Known w → Bool} {x v : BitVec w} {as' : List α} {r : ρ} :
    ∀ (cs : Cases w α ρ) (as : List α) (k : Known w) (shift : ℕ) (mask : BitVec w),
      cs.all P as k shift mask → k.Holds x → (x >>> shift) &&& mask = v →
      cs.run x v = (as', some r) →
      ∃ k' : Known w, P (as ++ as') r k' ∧ k'.Holds x
  | .done, _, _, _, _, _, _, _, hr => by simp [Cases.run] at hr
  | .case label t cs, as, k, shift, mask, hP, hk, hv, hr => by
    simp only [Cases.all, Bool.and_eq_true] at hP
    rw [Cases.run] at hr
    split at hr
    · next hl =>
      exact CaseTree.run_of_all t as _ hP.1 (hk.add (Known.and_of_shiftRight (hv.trans hl))) hr
    · exact Cases.run_of_all cs as k shift mask hP.2 hk hv hr

end

/-- **Leaf rule**: a check that passes at every leaf holds of every word the tree
decodes, with what is known of the word there. -/
theorem CaseTree.of_all {P : List α → ρ → Known w → Bool} {t : CaseTree w α ρ}
    (h : t.all P [] .none = true) {x : BitVec w} {as : List α} {r : ρ}
    (hr : t.run x = (as, some r)) : ∃ k : Known w, P as r k ∧ k.Holds x :=
  CaseTree.run_of_all t [] .none h (Known.holds_none x) hr

/-! ### The leaves -/

/-- A test on the way to a leaf: the field of the word that is shifted down by `shift` and masked
by `mask` is, or is not, `value`. -/
structure FieldTest (w : ℕ) where
  shift : ℕ
  mask : BitVec w
  value : BitVec w
  deriving DecidableEq

/-- The word passes the test. -/
def FieldTest.Holds (c : FieldTest w) (x : BitVec w) : Prop := (x >>> c.shift) &&& c.mask = c.value

/-- A leaf: the actions on the way, the result, and the tests that lead there. -/
structure Leaf (w : ℕ) (α : Type u) (ρ : Type v) where
  acts : List α
  ret : ρ
  passed : List (FieldTest w)
  failed : List (FieldTest w)

mutual

/-- The leaves below the actions `as` and the tests `ps` that were passed and `fs` that failed. -/
def CaseTree.leaves (as : List α) (ps fs : List (FieldTest w)) : CaseTree w α ρ → List (Leaf w α ρ)
  | .ret r => [⟨as, r, ps, fs⟩]
  | .act a t => t.leaves (as ++ [a]) ps fs
  | .switch shift mask cs => cs.leaves as ps fs shift mask
  | .ite mask value t e =>
    t.leaves as (⟨0, mask, value⟩ :: ps) fs ++ e.leaves as ps (⟨0, mask, value⟩ :: fs)

/-- The leaves of the cases of a switch. -/
def Cases.leaves (as : List α) (ps fs : List (FieldTest w)) (shift : ℕ) (mask : BitVec w) :
    Cases w α ρ → List (Leaf w α ρ)
  | .done => []
  | .case label t cs =>
    t.leaves as (⟨shift, mask, label⟩ :: ps) fs ++ cs.leaves as ps fs shift mask

end

/-- The labels of the cases. -/
def Cases.labels : Cases w α ρ → List (BitVec w)
  | .done => []
  | .case label _ cs => label :: cs.labels

mutual

/-- No switch has a label twice. -/
def CaseTree.distinct : CaseTree w α ρ → Bool
  | .ret _ => true
  | .act _ t => t.distinct
  | .switch _ _ cs => cs.distinct
  | .ite _ _ t e => t.distinct && e.distinct

/-- No label is there twice, nor in a switch below. -/
def Cases.distinct : Cases w α ρ → Bool
  | .done => true
  | .case label t cs => decide (label ∉ cs.labels) && t.distinct && cs.distinct

end

section

variable {x : BitVec w}

mutual

theorem CaseTree.run_of_mem {leaf : Leaf w α ρ} (hp : ∀ c ∈ leaf.passed, c.Holds x)
    (hf : ∀ c ∈ leaf.failed, ¬c.Holds x) : ∀ (t : CaseTree w α ρ) (as : List α)
      (ps fs : List (FieldTest w)), t.distinct → leaf ∈ t.leaves as ps fs →
        (∀ c ∈ ps, c ∈ leaf.passed) ∧ (∀ c ∈ fs, c ∈ leaf.failed) ∧
          ∃ as', leaf.acts = as ++ as' ∧ t.run x = (as', some leaf.ret)
  | .ret r, as, ps, fs, _, hm => by
    rw [CaseTree.leaves, List.mem_singleton] at hm
    subst hm
    exact ⟨fun _ h => h, fun _ h => h, [], by simp, rfl⟩
  | .act a t, as, ps, fs, hd, hm => by
    obtain ⟨hps, hfs, as', has, hrun⟩ := CaseTree.run_of_mem hp hf t (as ++ [a]) ps fs hd hm
    refine ⟨hps, hfs, a :: as', by rw [has]; simp, ?_⟩
    rw [CaseTree.run, hrun]
  | .switch shift mask cs, as, ps, fs, hd, hm => by
    obtain ⟨hps, hfs, as', has, -, hrun⟩ := Cases.run_of_mem hp hf cs as ps fs shift mask hd hm
    exact ⟨hps, hfs, as', has, hrun⟩
  | .ite mask value t e, as, ps, fs, hd, hm => by
    rw [CaseTree.distinct, Bool.and_eq_true] at hd
    rw [CaseTree.leaves, List.mem_append] at hm
    rcases hm with hm | hm
    · obtain ⟨hps, hfs, as', has, hrun⟩ := CaseTree.run_of_mem hp hf t as _ fs hd.1 hm
      have htest : x &&& mask = value := hp _ (hps _ List.mem_cons_self)
      refine ⟨fun c hc => hps c (List.mem_cons_of_mem _ hc), hfs, as', has, ?_⟩
      rw [CaseTree.run, if_pos htest, hrun]
    · obtain ⟨hps, hfs, as', has, hrun⟩ := CaseTree.run_of_mem hp hf e as ps _ hd.2 hm
      have htest : ¬x &&& mask = value := hf _ (hfs _ List.mem_cons_self)
      refine ⟨hps, fun c hc => hfs c (List.mem_cons_of_mem _ hc), as', has, ?_⟩
      rw [CaseTree.run, if_neg htest, hrun]

theorem Cases.run_of_mem {leaf : Leaf w α ρ} (hp : ∀ c ∈ leaf.passed, c.Holds x)
    (hf : ∀ c ∈ leaf.failed, ¬c.Holds x) : ∀ (cs : Cases w α ρ) (as : List α)
      (ps fs : List (FieldTest w)) (shift : ℕ) (mask : BitVec w), cs.distinct →
        leaf ∈ cs.leaves as ps fs shift mask →
          (∀ c ∈ ps, c ∈ leaf.passed) ∧ (∀ c ∈ fs, c ∈ leaf.failed) ∧
            ∃ as', leaf.acts = as ++ as' ∧ (x >>> shift) &&& mask ∈ cs.labels ∧
              cs.run x ((x >>> shift) &&& mask) = (as', some leaf.ret)
  | .done, _, _, _, _, _, _, hm => by simp [Cases.leaves] at hm
  | .case label t cs, as, ps, fs, shift, mask, hd, hm => by
    rw [Cases.distinct, Bool.and_eq_true, Bool.and_eq_true, decide_eq_true_eq] at hd
    rw [Cases.leaves, List.mem_append] at hm
    rcases hm with hm | hm
    · obtain ⟨hps, hfs, as', has, hrun⟩ := CaseTree.run_of_mem hp hf t as _ fs hd.1.2 hm
      have htest : (x >>> shift) &&& mask = label := hp _ (hps _ List.mem_cons_self)
      refine ⟨fun c hc => hps c (List.mem_cons_of_mem _ hc), hfs, as', has, ?_, ?_⟩
      · rw [htest]
        exact List.mem_cons_self
      · rw [Cases.run, if_pos htest, hrun]
    · -- the label is one of the others, which differ from this one
      obtain ⟨hps, hfs, as', has, hmem, hrun⟩ := Cases.run_of_mem hp hf cs as ps fs shift mask hd.2 hm
      refine ⟨hps, hfs, as', has, List.mem_cons_of_mem _ hmem, ?_⟩
      have hne : ¬(x >>> shift) &&& mask = label := by
        rintro rfl
        exact hd.1.1 hmem
      rw [Cases.run, if_neg hne, hrun]

end

/-- **Path rule**: a word that passes and fails the tests on the way to a leaf comes to that
leaf. -/
theorem CaseTree.run_leaf {t : CaseTree w α ρ} (hd : t.distinct) {leaf : Leaf w α ρ}
    (hm : leaf ∈ t.leaves [] [] []) (hp : ∀ c ∈ leaf.passed, c.Holds x)
    (hf : ∀ c ∈ leaf.failed, ¬c.Holds x) : t.run x = (leaf.acts, some leaf.ret) := by
  obtain ⟨-, -, as', has, hrun⟩ := CaseTree.run_of_mem hp hf t [] [] [] hd hm
  rw [hrun, has, List.nil_append]

end

mutual

theorem CaseTree.mem_leaves_of_run {x : BitVec w} {r : ρ} :
    ∀ (t : CaseTree w α ρ) (as as' : List α) (ps fs : List (FieldTest w)), (∀ c ∈ ps, c.Holds x) →
      (∀ c ∈ fs, ¬c.Holds x) → t.run x = (as', some r) →
        ∃ leaf ∈ t.leaves as ps fs, leaf.acts = as ++ as' ∧ leaf.ret = r ∧
          (∀ c ∈ leaf.passed, c.Holds x) ∧ ∀ c ∈ leaf.failed, ¬c.Holds x
  | .ret r₀, as, as', ps, fs, hp, hf, hr => by
    simp only [CaseTree.run, Prod.mk.injEq, Option.some.injEq] at hr
    obtain ⟨rfl, rfl⟩ := hr
    exact ⟨⟨as, r₀, ps, fs⟩, by simp [CaseTree.leaves], by simp, rfl, hp, hf⟩
  | .act a t, as, as', ps, fs, hp, hf, hr => by
    simp only [CaseTree.run, Prod.mk.injEq] at hr
    obtain ⟨rfl, hr⟩ := hr
    obtain ⟨leaf, hm, has, hret⟩ := CaseTree.mem_leaves_of_run t (as ++ [a]) (t.run x).1 ps fs hp hf
      (Prod.ext rfl hr)
    exact ⟨leaf, hm, by simpa using has, hret⟩
  | .switch shift mask cs, as, as', ps, fs, hp, hf, hr => by
    exact Cases.mem_leaves_of_run cs as as' ps fs shift mask hp hf hr
  | .ite mask value t e, as, as', ps, fs, hp, hf, hr => by
    rw [CaseTree.run] at hr
    rw [CaseTree.leaves]
    split at hr
    · next htest =>
      obtain ⟨leaf, hm, hleaf⟩ := CaseTree.mem_leaves_of_run t as as' (⟨0, mask, value⟩ :: ps) fs
        (by simpa [FieldTest.Holds] using ⟨htest, hp⟩) hf hr
      exact ⟨leaf, List.mem_append_left _ hm, hleaf⟩
    · next htest =>
      obtain ⟨leaf, hm, hleaf⟩ := CaseTree.mem_leaves_of_run e as as' ps (⟨0, mask, value⟩ :: fs) hp
        (by simpa [FieldTest.Holds] using ⟨htest, hf⟩) hr
      exact ⟨leaf, List.mem_append_right _ hm, hleaf⟩

theorem Cases.mem_leaves_of_run {x : BitVec w} {r : ρ} :
    ∀ (cs : Cases w α ρ) (as as' : List α) (ps fs : List (FieldTest w)) (shift : ℕ) (mask : BitVec w),
      (∀ c ∈ ps, c.Holds x) → (∀ c ∈ fs, ¬c.Holds x) →
        cs.run x ((x >>> shift) &&& mask) = (as', some r) →
          ∃ leaf ∈ cs.leaves as ps fs shift mask, leaf.acts = as ++ as' ∧ leaf.ret = r ∧
            (∀ c ∈ leaf.passed, c.Holds x) ∧ ∀ c ∈ leaf.failed, ¬c.Holds x
  | .done, _, _, _, _, _, _, _, _, hr => by simp [Cases.run] at hr
  | .case label t cs, as, as', ps, fs, shift, mask, hp, hf, hr => by
    rw [Cases.run] at hr
    rw [Cases.leaves]
    split at hr
    · next htest =>
      obtain ⟨leaf, hm, hleaf⟩ := CaseTree.mem_leaves_of_run t as as' (⟨shift, mask, label⟩ :: ps) fs
        (by simpa [FieldTest.Holds] using ⟨htest, hp⟩) hf hr
      exact ⟨leaf, List.mem_append_left _ hm, hleaf⟩
    · obtain ⟨leaf, hm, hleaf⟩ := Cases.mem_leaves_of_run cs as as' ps fs shift mask hp hf hr
      exact ⟨leaf, List.mem_append_right _ hm, hleaf⟩

end

/-- **Leaf of a word**: a word that the tree decodes comes to one of its leaves, having passed
and failed the tests on the way. -/
theorem CaseTree.exists_leaf_of_run {t : CaseTree w α ρ} {x : BitVec w} {as : List α} {r : ρ}
    (hr : t.run x = (as, some r)) : ∃ leaf ∈ t.leaves [] [] [], leaf.acts = as ∧ leaf.ret = r ∧
      (∀ c ∈ leaf.passed, c.Holds x) ∧ ∀ c ∈ leaf.failed, ¬c.Holds x :=
  CaseTree.mem_leaves_of_run t [] as [] [] (by simp) (by simp) hr

end AotOpt.Lib
