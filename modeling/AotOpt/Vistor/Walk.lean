import AotOpt.Lib.Run
import AotOpt.Vistor.TU
import Mathlib.Logic.Relation

/-!
# What a walk keeps

The walk of `TU_Vistor` merges blocks while it is under way. The rule of this module says
what holds after it (`unifyOneSuccessor_rule`): if every block that can be reached is fine,
a merge at a fine block can be made and keeps an invariant, and a merge adds no link and
leaves fine blocks fine, then the walk ends and keeps the invariant. The recursion is
never deeper than the file has blocks.

* `inv_runSteps` — what holds after the steps of the driver, when they end.
-/

namespace AotOpt.AOTFile

variable {ι : Type} (f : AOTFile ι)

/-- A branch of block `p` is linked to block `q`. -/
def Links (p q : ι) : Prop := ∃ isTrueBranch, (f.tb p).branch isTrueBranch = some q

/-- Block `q` can be reached from block `p` over links. -/
def Reaches : ι → ι → Prop := Relation.ReflTransGen f.Links

/-- The links of the blocks of the file stay in the file. -/
def Closed : Prop := ∀ p ∈ f.ids, ∀ q, f.Links p q → q ∈ f.ids

/-- What merges do to a file, apart from the code: no link is added, and a block that was
fine stays fine. -/
structure Shrinks (Fine : AOTFile ι → ι → Prop) (f f' : AOTFile ι) : Prop where
  segs : f'.segs = f.segs
  x86Addr : ∀ i, (f'.tb i).x86Addr = (f.tb i).x86Addr
  links : ∀ p q, f'.Links p q → f.Links p q
  fine : ∀ p, Fine f p → Fine f' p

/-- The bound on the depth is large enough: the blocks on the path to `cur` have different
addresses. -/
structure Enough (fuel : ℕ) (parents : List (BitVec 64)) (cur : ι) (f : AOTFile ι) : Prop where
  closed : f.Closed
  mem : cur ∈ f.ids
  nodup : parents.Nodup
  subset : parents ⊆ f.ids.map fun i => (f.tb i).x86Addr
  lt : f.ids.length < fuel + parents.length

variable {f}

section Shrinks

variable {Fine : AOTFile ι → ι → Prop} {f' f'' : AOTFile ι}

theorem Shrinks.refl (Fine : AOTFile ι → ι → Prop) (f : AOTFile ι) : Shrinks Fine f f :=
  ⟨rfl, fun _ => rfl, fun _ _ => id, fun _ => id⟩

theorem Shrinks.trans (h : Shrinks Fine f f') (h' : Shrinks Fine f' f'') : Shrinks Fine f f'' :=
  ⟨h'.segs.trans h.segs, fun i => (h'.x86Addr i).trans (h.x86Addr i),
    fun p q => h.links p q ∘ h'.links p q, fun p => h'.fine p ∘ h.fine p⟩

theorem Shrinks.ids (h : Shrinks Fine f f') : f'.ids = f.ids := by
  rw [AOTFile.ids, h.segs, AOTFile.ids]

theorem Shrinks.reaches (h : Shrinks Fine f f') {p q : ι} (hpq : f'.Reaches p q) : f.Reaches p q :=
  Relation.ReflTransGen.mono h.links p q hpq

theorem Shrinks.closed (h : Shrinks Fine f f') (hc : f.Closed) : f'.Closed := by
  intro p hp q hq
  rw [h.ids] at hp ⊢
  exact hc p hp q (h.links p q hq)

theorem Shrinks.enough (h : Shrinks Fine f f') {fuel : ℕ} {parents : List (BitVec 64)} {cur : ι}
    (he : Enough fuel parents cur f) : Enough fuel parents cur f' where
  closed := h.closed he.closed
  mem := h.ids ▸ he.mem
  nodup := he.nodup
  subset := by simpa only [h.ids, h.x86Addr] using he.subset
  lt := h.ids ▸ he.lt

end Shrinks

theorem Enough.fuel_ne_zero {parents : List (BitVec 64)} {cur : ι} (h : Enough 0 parents cur f) :
    False := by
  have hle := (h.nodup.subperm h.subset).length_le
  rw [List.length_map] at hle
  exact absurd h.lt (by omega)

/-- One level deeper. -/
theorem Enough.next {fuel : ℕ} {parents : List (BitVec 64)} {cur next : ι}
    (h : Enough (fuel + 1) parents cur f) (hnot : (f.tb cur).x86Addr ∉ parents)
    (hlink : f.Links cur next) : Enough fuel ((f.tb cur).x86Addr :: parents) next f where
  closed := h.closed
  mem := h.closed cur h.mem next hlink
  nodup := List.nodup_cons.mpr ⟨hnot, h.nodup⟩
  subset := List.cons_subset.mpr ⟨List.mem_map_of_mem h.mem, h.subset⟩
  lt := by
    have := h.lt
    rw [List.length_cons]
    omega

section Rule

variable [DecidableEq ι] {Inv : AOTFile ι → Prop} {Fine : AOTFile ι → ι → Prop}

/-- The walk ended, kept the invariant and added no link; or the bound on its depth was
too small. -/
def WalkOk (Inv : AOTFile ι → Prop) (Fine : AOTFile ι → ι → Prop) (f : AOTFile ι) (enough : Prop)
    (res : Res (List (BitVec 64) × AOTFile ι)) : Prop :=
  (∃ finished f', res = .ok (finished, f') ∧ Inv f' ∧ Shrinks Fine f f') ∨
    (res = .error .depth ∧ ¬enough)

/-- The walk goes on over a link. -/
theorem walkOk_follow {fuel : ℕ} {parents : List (BitVec 64)} {link : Option ι}
    {finished : List (BitVec 64)} {f₀ f : AOTFile ι} {enough : Prop}
    (hwalk : ∀ next, link = some next →
      WalkOk Inv Fine f (Enough fuel parents next f) (unifyOneSuccessor fuel parents next finished f))
    (henough : enough → ∀ next, link = some next → Enough fuel parents next f)
    (hInv : Inv f) (h0 : Shrinks Fine f₀ f) :
    WalkOk Inv Fine f₀ enough (follow (unifyOneSuccessor fuel parents) link finished f) := by
  cases link with
  | none => exact .inl ⟨finished, f, rfl, hInv, h0⟩
  | some next =>
    rcases hwalk next rfl with ⟨finished', f', heq, hInv', h'⟩ | ⟨heq, hnot⟩
    · exact .inl ⟨finished', f', heq, hInv', h0.trans h'⟩
    · exact .inr ⟨heq, fun he => hnot (henough he next rfl)⟩

/-- **Walk rule.** -/
theorem unifyOneSuccessor_rule
    (hmerge : ∀ f cur succ, Inv f → Fine f cur → f.mergeSucc cur = some succ →
      ∃ f', f.unifyAt cur succ = .ok f' ∧ Inv f' ∧ Shrinks Fine f f') :
    ∀ (fuel : ℕ) {parents : List (BitVec 64)} {cur : ι} {finished : List (BitVec 64)}
      {f : AOTFile ι}, Inv f → (∀ p, f.Reaches cur p → Fine f p) →
        WalkOk Inv Fine f (Enough fuel parents cur f)
          (unifyOneSuccessor fuel parents cur finished f)
  | 0, parents, cur, finished, f, _, _ => .inr ⟨rfl, Enough.fuel_ne_zero⟩
  | fuel + 1, parents, cur, finished, f, hInv, hfine => by
    rw [unifyOneSuccessor]
    split
    · exact .inl ⟨finished, f, rfl, hInv, .refl _ _⟩
    · next hvisited =>
      rw [not_or] at hvisited
      split
      · next succ hsucc =>
        obtain ⟨f', heq, hInv', hshrinks⟩ := hmerge f cur succ hInv (hfine cur .refl) hsucc
        rw [heq, ok_bind]
        exact .inl ⟨finished, f', rfl, hInv', hshrinks⟩
      · -- the links are followed one after the other, the second in the file the first left
        have hfollow : ∀ (isTrueBranch : Bool) (finished : List (BitVec 64)) (f₁ : AOTFile ι),
            Inv f₁ → Shrinks Fine f f₁ →
            WalkOk Inv Fine f (Enough (fuel + 1) parents cur f)
              (follow (unifyOneSuccessor fuel ((f.tb cur).x86Addr :: parents))
                ((f₁.tb cur).branch isTrueBranch) finished f₁) := by
          intro isTrueBranch finished f₁ hInv₁ h₁
          have hlink : ∀ next, (f₁.tb cur).branch isTrueBranch = some next → f.Links cur next :=
            fun next h => h₁.links cur next ⟨isTrueBranch, h⟩
          refine walkOk_follow (fun next hnext => ?_) (fun he next hnext => ?_) hInv₁ h₁
          · refine unifyOneSuccessor_rule hmerge fuel hInv₁ fun p hp => ?_
            exact h₁.fine p (hfine p (.head (hlink next hnext) (h₁.reaches hp)))
          · exact h₁.enough (he.next hvisited.1 (hlink next hnext))
        rcases hfollow false finished f hInv (.refl _ _) with
          ⟨finished₁, f₁, heq₁, hInv₁, h₁⟩ | ⟨heq₁, hnot⟩
        · rcases hfollow true finished₁ f₁ hInv₁ h₁ with
            ⟨finished₂, f₂, heq₂, hInv₂, h₂⟩ | ⟨heq₂, hnot⟩
          · refine .inl ⟨(f.tb cur).x86Addr :: finished₂, f₂, ?_, hInv₂, h₂⟩
            exact bind_eq_ok.mpr ⟨_, heq₁, bind_eq_ok.mpr ⟨_, heq₂, rfl⟩⟩
          · refine .inr ⟨?_, hnot⟩
            simp only [TB.branch, Bool.false_eq_true, if_false, if_true] at heq₁ heq₂
            simp only [heq₁, ok_bind, heq₂, error_bind]
        · refine .inr ⟨?_, hnot⟩
          simp only [TB.branch, Bool.false_eq_true, if_false] at heq₁
          simp only [heq₁, error_bind]

end Rule

section Inv

open Lib

variable [DecidableEq ι] {P : AOTFile ι → Prop} {f' : AOTFile ι}

/-- What a merge keeps is kept by a walk. -/
theorem inv_unifyOneSuccessor
    (hunify : ∀ {f f' : AOTFile ι} {cur succ : ι}, P f → f.mergeSucc cur = some succ →
      f.unifyAt cur succ = .ok f' → P f') :
    ∀ (fuel : ℕ) {parents : List (BitVec 64)} {cur : ι} {finished finished' : List (BitVec 64)}
      {f f' : AOTFile ι}, P f →
        unifyOneSuccessor fuel parents cur finished f = .ok (finished', f') → P f'
  | 0, _, _, _, _, _, _, _, h => by cases h
  | fuel + 1, parents, cur, finished, finished', f, f', h₀, h => by
    have hfollow : ∀ {next : Option ι} {finished finished' : List (BitVec 64)} {g g' : AOTFile ι},
        P g → follow (unifyOneSuccessor fuel ((f.tb cur).x86Addr :: parents)) next finished g =
          .ok (finished', g') → P g' := by
      intro next finished finished' g g' hg h
      cases next with
      | none => exact (Prod.mk.inj (Except.ok.inj h)).2 ▸ hg
      | some next => exact inv_unifyOneSuccessor hunify fuel hg h
    rw [unifyOneSuccessor] at h
    dsimp only at h
    split_ifs at h
    · exact (Prod.mk.inj (Except.ok.inj h)).2 ▸ h₀
    · cases hmerge : f.mergeSucc cur with
      | some succ =>
        simp only [hmerge] at h
        obtain ⟨f₁, h₁, h⟩ := bind_eq_ok.mp h
        exact (Prod.mk.inj (Except.ok.inj h)).2 ▸ hunify h₀ hmerge h₁
      | none =>
        simp only [hmerge] at h
        obtain ⟨⟨finished₁, f₁⟩, h₁, h⟩ := bind_eq_ok.mp h
        obtain ⟨⟨finished₂, f₂⟩, h₂, h⟩ := bind_eq_ok.mp h
        exact (Prod.mk.inj (Except.ok.inj h)).2 ▸ hfollow (hfollow h₀ h₁) h₂

/-- So it is by the walks of `TU_Vistor::start`. -/
theorem inv_tuStart
    (hunify : ∀ {f f' : AOTFile ι} {cur succ : ι}, P f → f.mergeSucc cur = some succ →
      f.unifyAt cur succ = .ok f' → P f') {seg : Segment ι} (h₀ : P f) (h : f.tuStart seg = .ok f') :
    P f' := by
  refine foldlM_inv (fun f₁ entry f₂ h₁ h => ?_) h₀ h
  obtain ⟨⟨finished, f₃⟩, hwalk, h⟩ := bind_eq_ok.mp h
  rw [← Except.ok.inj h]
  exact inv_unifyOneSuccessor hunify _ h₁ hwalk

/-- What linking a branch keeps is kept by `settle_all_tb`. -/
theorem inv_settleTb
    (hlink : ∀ {f f' : AOTFile ι} {seg : AOTSegment} {i : ι} {k : Bool}, P f →
      f.tbLink seg i k = .ok f' → P f')
    {seg : AOTSegment} {i : ι} (h₀ : P f) (h : f.settleTb seg i = .ok f') : P f' := by
  unfold settleTb at h
  dsimp only at h
  split_ifs at h
  · obtain ⟨f₁, h₁, h⟩ := bind_eq_ok.mp h
    exact hlink (hlink h₀ h₁) h
  · exact hlink h₀ h
  · exact hlink h₀ h
  · exact Except.ok.inj h ▸ h₀

/-- **What linking, adding relocations, disassembling and merging keep** is kept by the steps of the
driver. -/
theorem inv_runSteps
    (hlink : ∀ {f f' : AOTFile ι} {seg : AOTSegment} {i : ι} {k : Bool}, P f →
      f.tbLink seg i k = .ok f' → P f')
    (hrels : ∀ {f : AOTFile ι} (i : ι) (new : List RelSlot), P f →
      P (f.setTB i { f.tb i with rels := (f.tb i).rels ++ new }))
    (hdis : ∀ {f : AOTFile ι} (i : ι), P f → P (f.setTB i (DisassmbleVistor.startTB (f.tb i))))
    (hunify : ∀ {f f' : AOTFile ι} {cur succ : ι}, P f → f.unifyAt cur succ = .ok f' → P f')
    {ops : List (Op ι)} (h₀ : P f) (h : f.runSteps ops = .ok f') : P f' := by
  refine foldlM_inv (fun f op f' h₀ h => ?_) h₀ h
  cases op with
  | settleAllTb seg =>
    have hsettle : f.settleAllTb seg = .ok f' := h
    exact foldlM_inv (fun _ _ _ h₁ => inv_settleTb hlink h₁) h₀ hsettle
  | addRels seg =>
    have hadd : f.addRelsStart seg = .ok f' := h
    refine foldlM_inv (fun f₁ i f₂ h₁ h => ?_) h₀ hadd
    obtain ⟨tb, hvisit, h⟩ := bind_eq_ok.mp h
    obtain ⟨-, new, -, rfl⟩ := AddRelsVistor.visit_eq_ok.mp hvisit
    rw [← Except.ok.inj h]
    exact hrels i new h₁
  | disassemble seg =>
    rw [← Except.ok.inj h]
    exact List.foldlRecOn seg.tbs _ h₀ fun f₁ h₁ i _ => hdis i h₁
  | tu seg =>
    exact inv_tuStart (fun h₁ _ h => hunify h₁ h) h₀ h

end Inv

end AotOpt.AOTFile
