import AotOpt.AotClass.Guarded
import AotOpt.Vistor.Streams

/-!
# The walk of `TU_Vistor` misses nothing

A walk merges blocks while it is under way: a merged block loses its links, is not entered in
`finished`, and a block whose successor was merged can be merged itself when a later walk comes to
it. A block that could be merged at the start is merged all the same, in the walk of any entry block
that reaches it.

* `Progress` — a file under way: a block is as it was, or it was merged with its only successor.
* `Visited` — what `finished` says: the links of a finished block lead to seen blocks.
* `walk_seen` — a walk that goes from block to block keeps both, and has seen the block it started at.
* `tuStart_merges_all` — `TU_Vistor::start` ends, and all these blocks are merged.
-/

namespace AotOpt.AOTFile

variable {ι : Type}

/-- The blocks of a file as a graph: links stay in the file and belong to valid slots, no two blocks
have one address, and every block has fewer instructions than 32 bits can count bytes for, with a `b` at
each of its valid slots. -/
structure Graph (f : AOTFile ι) : Prop where
  closed : f.Closed
  distinct : ∀ i ∈ f.ids, ∀ j ∈ f.ids, (f.tb i).x86Addr = (f.tb j).x86Addr → i = j
  links : ∀ i ∈ f.ids, ∀ k, (f.tb i).originAotTb.slotValid (slotOf k) = false → (f.tb i).branch k = none
  length_lt : ∀ i ∈ f.ids, (f.tb i).insns.length < 2 ^ 30
  slots : ∀ i ∈ f.ids, ∀ j, (f.tb i).originAotTb.slotValid j →
    (f.tb i).opcAt ((f.tb i).originAotTb.slotIndex j) = some .OPC_B

/-- The block `p` has exactly one valid slot, which is linked to the block `s`, and that has none. -/
def Mergeable (f : AOTFile ι) (p s : ι) : Prop :=
  ∃ k, (f.tb p).originAotTb.slotValid (slotOf k) = true ∧
    (f.tb p).originAotTb.slotValid (slotOf !k) = false ∧ (f.tb p).branch k = some s ∧
    ∀ j, (f.tb s).originAotTb.slotValid j = false

/-- The block `tb` is what `dst` becomes when it takes over `src`: its instructions up to the branch,
and then those of `src`. -/
structure Unified (dst src tb : TB ι) : Prop where
  unify : dst.unifySrcblockNoSuccessor src (dst.originAotTb.slotValid 1) = .ok (some tb)
  insns : tb.insns = dst.insns.take dst.cutIndex ++ src.insns
  slots : ∀ j, tb.originAotTb.slotValid j = false
  links : ∀ k, tb.branch k = none

/-- A block without valid slots and links. -/
def Leaf (f : AOTFile ι) (i : ι) : Prop := (f.tb i).noSuccessor ∧ ∀ k, (f.tb i).branch k = none

/-! ### Graphs -/

section Graph

variable {f : AOTFile ι} {p s : ι}

theorem Graph.leaf (h : f.Graph) (hp : p ∈ f.ids) (hno : (f.tb p).noSuccessor) : f.Leaf p :=
  ⟨hno, fun k => h.links p hp k (TB.slotValid_of_noSuccessor hno _)⟩

/-- What `get_the_onlyone_successor` finds, when the links belong to valid slots. -/
theorem onlyone_iff_of_links {slot₀ slot₁ : Bool} {false_branch true_branch : Option ι}
    (h₀ : slot₀ = false → false_branch = none) (h₁ : slot₁ = false → true_branch = none) :
    (if !((!slot₀ && slot₁ && true_branch.isSome) || (slot₀ && !slot₁ && false_branch.isSome)) then none
      else if false_branch.isSome then false_branch else true_branch) = some s ↔
    (slot₀ = true ∧ slot₁ = false ∧ false_branch = some s) ∨
      (slot₁ = true ∧ slot₀ = false ∧ true_branch = some s) := by
  cases slot₀ with
  | false =>
    rw [h₀ rfl]
    cases slot₁ with
    | false => simp
    | true => cases true_branch <;> simp
  | true =>
    cases slot₁ with
    | false =>
      rw [h₁ rfl]
      cases false_branch <;> simp
    | true => simp

/-- The only successor is the block that the only valid slot is linked to. -/
theorem Graph.onlyone_iff (h : f.Graph) (hp : p ∈ f.ids) :
    (f.tb p).getTheOnlyoneSuccessor = some s ↔ ∃ k,
      (f.tb p).originAotTb.slotValid (slotOf k) = true ∧
      (f.tb p).originAotTb.slotValid (slotOf !k) = false ∧ (f.tb p).branch k = some s := by
  rw [Bool.exists_bool]
  exact onlyone_iff_of_links (h.links p hp false) (h.links p hp true)

theorem Graph.mergeable_iff (h : f.Graph) (hp : p ∈ f.ids) :
    f.Mergeable p s ↔ (f.tb p).getTheOnlyoneSuccessor = some s ∧ (f.tb s).noSuccessor := by
  rw [h.onlyone_iff hp, Mergeable, TB.noSuccessor_iff, exists_and_right.symm]
  simp only [and_assoc]

/-- A block with an only successor is linked to no other. -/
theorem Graph.link_unique (h : f.Graph) (hp : p ∈ f.ids)
    (hone : (f.tb p).getTheOnlyoneSuccessor = some s) {k : Bool} {q : ι}
    (hk : (f.tb p).branch k = some q) : q = s := by
  obtain ⟨k', -, hother, hs⟩ := (h.onlyone_iff hp).mp hone
  by_cases hkk : k = k'
  · rw [hkk, hs] at hk
    exact (Option.some.inj hk).symm
  · obtain rfl : k = !k' := Bool.eq_not_of_ne hkk
    rw [h.links p hp _ hother] at hk
    cases hk

theorem Graph.succ_mem (h : f.Graph) (hp : p ∈ f.ids)
    (hone : (f.tb p).getTheOnlyoneSuccessor = some s) : s ∈ f.ids := by
  obtain ⟨-, k, hk⟩ := TB.branch_of_onlyone hone
  exact h.closed p hp s ⟨k, hk⟩

end Graph

/-! ### Files under way -/

/-- Some blocks have become leaves. -/
structure Collapses (f f' : AOTFile ι) : Prop where
  segs : f'.segs = f.segs
  x86Addr : ∀ i, (f'.tb i).x86Addr = (f.tb i).x86Addr
  tb : ∀ i, f'.tb i = f.tb i ∨ f'.Leaf i

/-- **The file `f₀` under way**: a block is as it was, or it was merged with its only successor; and
that, if it had no valid slots at the start, was the successor as it was at the start. -/
structure Progress (f₀ f : AOTFile ι) : Prop where
  segs : f.segs = f₀.segs
  x86Addr : ∀ i, (f.tb i).x86Addr = (f₀.tb i).x86Addr
  tb : ∀ i, f.tb i = f₀.tb i ∨ (f.Leaf i ∧ ∃ s, (f₀.tb i).getTheOnlyoneSuccessor = some s ∧ f.Leaf s ∧
    ((f₀.tb s).noSuccessor → Unified (f₀.tb i) (f₀.tb s) (f.tb i)))

section Collapses

variable {f₀ f f' f'' : AOTFile ι} {i : ι}

theorem Collapses.refl (f : AOTFile ι) : Collapses f f := ⟨rfl, fun _ => rfl, fun _ => .inl rfl⟩

theorem Collapses.leaf (h : Collapses f f') (hi : f.Leaf i) : f'.Leaf i := by
  rcases h.tb i with heq | hleaf
  · rw [Leaf, heq]
    exact hi
  · exact hleaf

theorem Collapses.trans (h : Collapses f f') (h' : Collapses f' f'') : Collapses f f'' := by
  refine ⟨h'.segs.trans h.segs, fun i => (h'.x86Addr i).trans (h.x86Addr i), fun i => ?_⟩
  rcases h'.tb i with heq' | hleaf
  · rcases h.tb i with heq | hleaf
    · exact .inl (heq'.trans heq)
    · exact .inr (h'.leaf hleaf)
  · exact .inr hleaf

/-- No link is added. -/
theorem Collapses.branch (h : Collapses f f') {k : Bool} {q : ι} (hq : (f'.tb i).branch k = some q) :
    (f.tb i).branch k = some q := by
  rcases h.tb i with heq | hleaf
  · rwa [heq] at hq
  · rw [hleaf.2 k] at hq
    cases hq

theorem Collapses.shrinks (h : Collapses f f') : Shrinks (fun _ _ => True) f f' :=
  ⟨h.segs, h.x86Addr, fun _ _ ⟨k, hk⟩ => ⟨k, h.branch hk⟩, fun _ => id⟩

theorem Collapses.ids (h : Collapses f f') : f'.ids = f.ids := h.shrinks.ids

theorem Progress.refl (f₀ : AOTFile ι) : Progress f₀ f₀ := ⟨rfl, fun _ => rfl, fun _ => .inl rfl⟩

theorem Progress.collapses (h : Progress f₀ f) : Collapses f₀ f :=
  ⟨h.segs, h.x86Addr, fun i => (h.tb i).imp_right And.left⟩

/-- A block that still has a valid slot is as it was. -/
theorem Progress.tb_eq (h : Progress f₀ f) (hone : (f.tb i).onlyOneSuccessor) : f.tb i = f₀.tb i := by
  rcases h.tb i with heq | ⟨⟨hno, -⟩, -⟩
  · exact heq
  · rw [TB.onlyOneSuccessor_of_noSuccessor hno] at hone
    cases hone

/-- A block that had no valid slot is as it was. -/
theorem Progress.tb_eq_of_noSuccessor (h : Progress f₀ f) (hno : (f₀.tb i).noSuccessor) :
    f.tb i = f₀.tb i := by
  rcases h.tb i with heq | ⟨-, s, hone, -⟩
  · exact heq
  · rw [TB.getTheOnlyoneSuccessor_of_noSuccessor hno] at hone
    cases hone

/-- A block without valid slots has no links. -/
theorem Progress.leaf (h : Progress f₀ f) (hg : f₀.Graph) (hi : i ∈ f₀.ids)
    (hno : (f.tb i).noSuccessor) : f.Leaf i := by
  rcases h.tb i with heq | ⟨hleaf, -⟩
  · refine ⟨hno, fun k => ?_⟩
    rw [heq] at hno ⊢
    exact (hg.leaf hi hno).2 k
  · exact hleaf

/-- A block that was mergeable and is a leaf has been merged. -/
theorem Progress.unified (h : Progress f₀ f) (hg : f₀.Graph) {p s : ι} (hp : p ∈ f₀.ids)
    (hm : f₀.Mergeable p s) (hleaf : f.Leaf p) : Unified (f₀.tb p) (f₀.tb s) (f.tb p) := by
  obtain ⟨hone, hno⟩ := (hg.mergeable_iff hp).mp hm
  rcases h.tb p with heq | ⟨-, s', hone', -, hunified⟩
  · have hleaf := hleaf.1
    rw [heq] at hleaf
    rw [TB.getTheOnlyoneSuccessor_of_noSuccessor hleaf] at hone
    cases hone
  · obtain rfl := Option.some.inj (hone.symm.trans hone')
    exact hunified hno

end Collapses

section Walk

variable [DecidableEq ι] {f₀ f f' : AOTFile ι}

/-- **One merge** can be made, and makes a leaf. -/
theorem Progress.unifyAt (h : Progress f₀ f) (hg : f₀.Graph) {cur succ : ι} (hcur : cur ∈ f₀.ids)
    (hmerge : f.mergeSucc cur = some succ) :
    ∃ f', f.unifyAt cur succ = .ok f' ∧ Progress f₀ f' ∧ Collapses f f' ∧ f'.Leaf cur := by
  obtain ⟨hsucc, hno⟩ := mergeSucc_eq_some.mp hmerge
  obtain ⟨hone, -⟩ := TB.branch_of_onlyone hsucc
  have heq := h.tb_eq hone
  have hsucc₀ : (f₀.tb cur).getTheOnlyoneSuccessor = some succ := heq ▸ hsucc
  have hvalid := TB.slotValid_of_onlyone hone
  have hleaf : f.Leaf succ := h.leaf hg (hg.succ_mem hcur hsucc₀) hno
  -- the branch of the only valid slot is found
  obtain ⟨n, hn, hopc⟩ := TB.opcAt_eq_some.mp (hg.slots cur hcur _ (heq ▸ hvalid))
  have hinsn : (f.tb cur).insns[(f.tb cur).cutIndex]? = some n.data := by
    rw [heq, TB.insns, List.getElem?_map, TB.cutIndex, BitVec.toNat_udiv]
    exact congrArg (Option.map (·.data)) hn
  obtain ⟨tb, hok, hsame, htbno, htblinks, htbinsns⟩ := TB.unifySrcblockNoSuccessor_ok hno hvalid
    (heq ▸ hg.length_lt cur hcur) hinsn hopc
  have hleafcur : (f.setTB cur tb).Leaf cur := by
    rw [Leaf, tb_setTB_self]
    exact ⟨htbno, fun k => (htblinks k).trans (hleaf.2 k)⟩
  have hcollapses : Collapses f (f.setTB cur tb) := by
    refine ⟨rfl, fun i => ?_, fun i => ?_⟩
    · by_cases hi : i = cur
      · rw [hi, tb_setTB_self, hsame.x86Addr]
      · rw [tb_setTB_of_ne hi]
    · by_cases hi : i = cur
      · rw [hi]
        exact .inr hleafcur
      · exact .inl (tb_setTB_of_ne hi tb)
  refine ⟨f.setTB cur tb, by rw [AOTFile.unifyAt, hok]; rfl, ?_, hcollapses, hleafcur⟩
  refine ⟨h.segs, fun i => (hcollapses.x86Addr i).trans (h.x86Addr i), fun i => ?_⟩
  by_cases hi : i = cur
  · rw [hi]
    refine .inr ⟨hleafcur, succ, hsucc₀, hcollapses.leaf hleaf, fun hno₀ => ?_⟩
    rw [tb_setTB_self, ← heq, ← h.tb_eq_of_noSuccessor hno₀]
    exact ⟨hok, htbinsns, TB.slotValid_of_noSuccessor htbno, fun k => (htblinks k).trans (hleaf.2 k)⟩
  · rw [tb_setTB_of_ne hi]
    rcases h.tb i with heq | ⟨hleafi, s, hs, hleafs, hunified⟩
    · exact .inl heq
    · exact .inr ⟨hcollapses.leaf hleafi, s, hs, hcollapses.leaf hleafs, hunified⟩

/-! ### What a walk has seen -/

/-- The walk has finished with the block, is under way behind it, or finds nothing behind it. -/
def Seen (f : AOTFile ι) (finished parents : List (BitVec 64)) (i : ι) : Prop :=
  (f.tb i).x86Addr ∈ finished ∨ (f.tb i).x86Addr ∈ parents ∨ f.Leaf i

/-- **What `finished` says**: the links of a finished block lead to seen blocks, and one that was
mergeable has been merged. -/
def Visited (f₀ f : AOTFile ι) (finished parents : List (BitVec 64)) : Prop :=
  ∀ i ∈ f.ids, (f.tb i).x86Addr ∈ finished →
    (∀ k q, (f.tb i).branch k = some q → f.Seen finished parents q) ∧
      ∀ s, f₀.Mergeable i s → f.Leaf i

variable {finished finished' parents parents' : List (BitVec 64)} {i cur : ι}

omit [DecidableEq ι] in
theorem Seen.mono (h : f.Seen finished parents i) (hf : Collapses f f') (hfin : finished ⊆ finished')
    (hpar : ∀ a ∈ parents, a ∈ finished' ∨ a ∈ parents') : f'.Seen finished' parents' i := by
  rw [Seen, hf.x86Addr]
  rcases h with h | h | h
  · exact .inl (hfin h)
  · rcases hpar _ h with h | h
    · exact .inl h
    · exact .inr (.inl h)
  · exact .inr (.inr (hf.leaf h))

omit [DecidableEq ι] in
/-- With more parents, and after merges. -/
theorem Visited.mono (h : Visited f₀ f finished parents) (hf : Collapses f f')
    (hpar : parents ⊆ parents') : Visited f₀ f' finished parents' := by
  intro i hi hfin
  rw [hf.ids] at hi
  rw [hf.x86Addr] at hfin
  obtain ⟨hlinks, hmerge⟩ := h i hi hfin
  refine ⟨fun k q hq => ?_, fun s hs => hf.leaf (hmerge s hs)⟩
  exact (hlinks k q (hf.branch hq)).mono hf (List.Subset.refl _) fun a ha => .inr (hpar ha)

omit [DecidableEq ι] in
/-- A block is finished when both links lead to seen blocks. -/
theorem Visited.finish (h : Visited f₀ f finished ((f.tb cur).x86Addr :: parents))
    (hdistinct : ∀ i ∈ f.ids, (f.tb i).x86Addr = (f.tb cur).x86Addr → i = cur)
    (hlinks : ∀ k q, (f.tb cur).branch k = some q →
      f.Seen finished ((f.tb cur).x86Addr :: parents) q)
    (hmerge : ∀ s, f₀.Mergeable cur s → f.Leaf cur) :
    Visited f₀ f ((f.tb cur).x86Addr :: finished) parents := by
  have hmove : ∀ {q : ι}, f.Seen finished ((f.tb cur).x86Addr :: parents) q →
      f.Seen ((f.tb cur).x86Addr :: finished) parents q := by
    intro q hq
    refine hq.mono (.refl f) (List.subset_cons_self _ _) fun a ha => ?_
    rcases List.mem_cons.mp ha with rfl | ha
    · exact .inl List.mem_cons_self
    · exact .inr ha
  intro i hi hfin
  rcases List.mem_cons.mp hfin with heq | hfin
  · obtain rfl := hdistinct i hi heq
    exact ⟨fun k q hq => hmove (hlinks k q hq), hmerge⟩
  · obtain ⟨hlinks, hmerge⟩ := h i hi hfin
    exact ⟨fun k q hq => hmove (hlinks k q hq), hmerge⟩

omit [DecidableEq ι] in
/-- A block that is not merged when the walk comes to it was not mergeable, or is merged already. -/
theorem Progress.leaf_of_mergeSucc (h : Progress f₀ f) (hg : f₀.Graph) (hcur : cur ∈ f₀.ids)
    (hnone : f.mergeSucc cur = none) {s : ι} (hm : f₀.Mergeable cur s) : f.Leaf cur := by
  rcases h.tb cur with heq | ⟨hleaf, -⟩
  · obtain ⟨hone, hno⟩ := (hg.mergeable_iff hcur).mp hm
    have hsome : f.mergeSucc cur = some s :=
      mergeSucc_eq_some.mpr ⟨heq ▸ hone, h.tb_eq_of_noSuccessor hno ▸ hno⟩
    rw [hnone] at hsome
    cases hsome
  · exact hleaf

/-- What a walk from `cur` on leaves. -/
structure Walked (f₀ f : AOTFile ι) (finished parents : List (BitVec 64)) (cur : ι)
    (finished' : List (BitVec 64)) (f' : AOTFile ι) : Prop where
  progress : Progress f₀ f'
  collapses : Collapses f f'
  subset : finished ⊆ finished'
  visited : Visited f₀ f' finished' parents
  seen : f'.Seen finished' parents cur

/-- Following a link that there may be, behind the block with address `a`. -/
theorem follow_seen {fuel : ℕ} {link : Option ι} (h : Progress f₀ f)
    (hvisited : Visited f₀ f finished parents)
    (hwalk : ∀ next, link = some next → ∃ finished' f',
      unifyOneSuccessor fuel parents next finished f = .ok (finished', f') ∧
        Walked f₀ f finished parents next finished' f') :
    ∃ finished' f', follow (unifyOneSuccessor fuel parents) link finished f = .ok (finished', f') ∧
      Progress f₀ f' ∧ Collapses f f' ∧ finished ⊆ finished' ∧ Visited f₀ f' finished' parents ∧
        ∀ next, link = some next → f'.Seen finished' parents next := by
  cases link with
  | none => exact ⟨finished, f, rfl, h, .refl f, List.Subset.refl _, hvisited, nofun⟩
  | some next =>
    obtain ⟨finished', f', hok, hw⟩ := hwalk next rfl
    refine ⟨finished', f', hok, hw.progress, hw.collapses, hw.subset, hw.visited, ?_⟩
    rintro _ ⟨⟩
    exact hw.seen

/-- **A walk ends** and has seen the block it started at. -/
theorem walk_seen (hg : f₀.Graph) (fuel : ℕ) {parents finished : List (BitVec 64)} {cur : ι}
    {f : AOTFile ι} (h : Progress f₀ f) (hvisited : Visited f₀ f finished parents)
    (henough : Enough fuel parents cur f) : ∃ finished' f',
      unifyOneSuccessor fuel parents cur finished f = .ok (finished', f') ∧
        Walked f₀ f finished parents cur finished' f' := by
  induction fuel generalizing parents finished cur f with
  | zero => exact henough.fuel_ne_zero.elim
  | succ fuel ih =>
    have hcur : cur ∈ f₀.ids := h.collapses.ids ▸ henough.mem
    rw [unifyOneSuccessor]
    split
    · next hseen =>
      exact ⟨finished, f, rfl, h, .refl f, List.Subset.refl _, hvisited, hseen.symm.imp_right .inl⟩
    · next hseen =>
      rw [not_or] at hseen
      split
      · next succ hsucc =>
        obtain ⟨f', hok, h', hc, hleaf⟩ := h.unifyAt hg hcur hsucc
        rw [hok, ok_bind]
        exact ⟨finished, f', rfl, h', hc, List.Subset.refl _,
          hvisited.mono hc (List.Subset.refl _), .inr (.inr hleaf)⟩
      · next hnone =>
        -- both links are followed with `cur` among the parents, the second in what the first leaves
        have hdeeper : ∀ {f₁ : AOTFile ι} {finished₁ : List (BitVec 64)} (k : Bool), Progress f₀ f₁ →
            Collapses f f₁ → Visited f₀ f₁ finished₁ ((f.tb cur).x86Addr :: parents) →
            ∀ next, (f₁.tb cur).branch k = some next → ∃ finished' f',
              unifyOneSuccessor fuel ((f.tb cur).x86Addr :: parents) next finished₁ f₁ =
                .ok (finished', f') ∧
              Walked f₀ f₁ finished₁ ((f.tb cur).x86Addr :: parents) next finished' f' := by
          intro f₁ finished₁ k h₁ hc hvisited₁ next hnext
          exact ih h₁ hvisited₁ (hc.shrinks.enough (henough.next hseen.1 ⟨k, hc.branch hnext⟩))
        obtain ⟨finished₁, f₁, hok₁, h₁, hc₁, hsub₁, hvisited₁, hseen₁⟩ := follow_seen h
          (hvisited.mono (.refl f) (List.subset_cons_self _ _))
          (hdeeper false h (.refl f) (hvisited.mono (.refl f) (List.subset_cons_self _ _)))
        obtain ⟨finished₂, f₂, hok₂, h₂, hc₂, hsub₂, hvisited₂, hseen₂⟩ := follow_seen h₁ hvisited₁
          (hdeeper true h₁ hc₁ hvisited₁)
        have hc := hc₁.trans hc₂
        have haddr : (f₂.tb cur).x86Addr = (f.tb cur).x86Addr := hc.x86Addr cur
        rw [← haddr] at hvisited₂
        refine ⟨(f.tb cur).x86Addr :: finished₂, f₂,
          bind_eq_ok.mpr ⟨_, hok₁, bind_eq_ok.mpr ⟨_, hok₂, rfl⟩⟩, h₂, hc,
          fun a ha => List.mem_cons_of_mem _ (hsub₂ (hsub₁ ha)), ?_, .inl ?_⟩
        · rw [← haddr]
          refine hvisited₂.finish (fun i hi heq => ?_) (fun k q hq => ?_) fun s hs => ?_
          · rw [h₂.collapses.ids] at hi
            rw [h₂.x86Addr, h₂.x86Addr] at heq
            exact hg.distinct i hi cur hcur heq
          · rw [haddr]
            cases k with
            | false =>
              have hq : (f.tb cur).falseBranch = some q := hc.branch (k := false) hq
              exact (hseen₁ q hq).mono hc₂ hsub₂ fun _ => .inr
            | true =>
              have hq : (f₁.tb cur).trueBranch = some q := hc₂.branch (k := true) hq
              exact hseen₂ q hq
          · exact hc.leaf (h.leaf_of_mergeSucc hg hcur hnone hs)
        · rw [haddr]
          exact List.mem_cons_self

omit [DecidableEq ι] in
/-- Behind a block that a finished walk has seen, every block is seen. -/
theorem seen_of_reaches (hg : f₀.Graph) (h : Progress f₀ f) (hvisited : Visited f₀ f finished [])
    {e p : ι} (he : e ∈ f₀.ids) (hseen : f.Seen finished [] e) (hp : f₀.Reaches e p) :
    p ∈ f₀.ids ∧ f.Seen finished [] p := by
  induction hp with
  | refl => exact ⟨he, hseen⟩
  | @tail p q _ hlink ih =>
    obtain ⟨hp, hseenp⟩ := ih
    obtain ⟨k, hk⟩ := hlink
    refine ⟨hg.closed p hp q ⟨k, hk⟩, ?_⟩
    rcases h.tb p with heq | ⟨-, s, hone, hleaf, -⟩
    · rw [← heq] at hk
      rcases hseenp with hfin | hpar | hleaf
      · exact (hvisited p (h.collapses.ids ▸ hp) hfin).1 k q hk
      · cases hpar
      · rw [hleaf.2 k] at hk
        cases hk
    · -- the block was merged, and the walk did not go on behind it
      obtain rfl := hg.link_unique hp hone hk
      exact .inr (.inr hleaf)

/-- **The walk of an entry block** merges what is mergeable behind it. -/
theorem unifyEntry_merges (hg : f₀.Graph) (h : Progress f₀ f) {e : ι} (he : e ∈ f₀.ids) :
    ∃ f', unifyEntry f e = .ok f' ∧ Progress f₀ f' ∧ Collapses f f' ∧
      ∀ p s, f₀.Reaches e p → f₀.Mergeable p s → f'.Leaf p := by
  have henough : Enough (f.ids.length + 1) [] e f :=
    ⟨h.collapses.shrinks.closed hg.closed, h.collapses.ids ▸ he, List.nodup_nil, List.nil_subset _,
      Nat.lt_succ_self _⟩
  have hempty : Visited f₀ f [] [] := fun _ _ hfin => absurd hfin List.not_mem_nil
  obtain ⟨finished, f', hok, hw⟩ := walk_seen hg _ h hempty henough
  refine ⟨f', by rw [unifyEntry, hok, ok_bind], hw.progress, hw.collapses, fun p s hp hm => ?_⟩
  obtain ⟨hp, hseen⟩ := seen_of_reaches hg hw.progress hw.visited he hw.seen hp
  rcases hseen with hfin | hpar | hleaf
  · exact (hw.visited p (hw.progress.collapses.ids ▸ hp) hfin).2 s hm
  · cases hpar
  · exact hleaf

/-- The walks of some entry blocks, one after another. -/
theorem unifyEntrys_merge (hg : f₀.Graph) (entrys : List ι) {f : AOTFile ι} (h : Progress f₀ f)
    (hmem : ∀ e ∈ entrys, e ∈ f₀.ids) : ∃ f', entrys.foldlM unifyEntry f = .ok f' ∧
      Progress f₀ f' ∧ Collapses f f' ∧
      ∀ e ∈ entrys, ∀ p s, f₀.Reaches e p → f₀.Mergeable p s → f'.Leaf p := by
  induction entrys generalizing f with
  | nil => exact ⟨f, rfl, h, .refl f, fun _ he => absurd he List.not_mem_nil⟩
  | cons entry entrys ih =>
    rw [List.forall_mem_cons] at hmem
    obtain ⟨f₁, hok₁, h₁, hc₁, hleaf₁⟩ := unifyEntry_merges hg h hmem.1
    obtain ⟨f', hok, h', hc, hleaf⟩ := ih h₁ hmem.2
    refine ⟨f', by rw [List.foldlM_cons, hok₁, ok_bind, hok], h', hc₁.trans hc, ?_⟩
    rw [List.forall_mem_cons]
    exact ⟨fun p s hp hm => hc.leaf (hleaf₁ p s hp hm), hleaf⟩

/-- **`TU_Vistor::start` ends, and misses nothing**: every block that an entry block of the segment
reached at the start, and that had exactly one valid slot then, linked to a block without valid slots,
has taken over that block. -/
theorem tuStart_merges_all (f : AOTFile ι) (seg : Segment ι) (hseg : seg ∈ f.segs) (hg : f.Graph) :
    ∃ f', f.tuStart seg = .ok f' ∧ ∀ e ∈ f.getAllEntrysBlock seg, ∀ p s, f.Reaches e p →
      f.Mergeable p s → Unified (f.tb p) (f.tb s) (f'.tb p) := by
  have hmem : ∀ e ∈ f.getAllEntrysBlock seg, e ∈ f.ids := fun e he =>
    List.mem_flatMap.mpr ⟨seg, hseg, (List.mem_filter.mp he).1⟩
  obtain ⟨f', hok, h, -, hleaf⟩ := unifyEntrys_merge hg (f.getAllEntrysBlock seg) (.refl f) hmem
  refine ⟨f', hok, fun e he p s hp hm => h.unified hg ?_ hm (hleaf e he p s hp hm)⟩
  -- links stay in the file
  clear hm
  induction hp with
  | refl => exact hmem e he
  | tail _ hlink ih => exact hg.closed _ ih _ hlink

end Walk

/-! ### Files that are loaded -/

/-- A file that is loaded whole is a graph, when its slots index `b`s and no two blocks have one
address. -/
theorem Ref.graph [DecidableEq ι] {file ref : AOTFile ι} (hfile : file.Unloaded)
    (hslots : file.SlotsIndexB) (href : Ref file ref)
    (hdistinct : ∀ i ∈ ref.ids, ∀ j ∈ ref.ids, (ref.tb i).x86Addr = (ref.tb j).x86Addr → i = j) :
    ref.Graph := by
  have hids : ref.ids = file.ids := href.same.ids
  refine ⟨fun p _ q ⟨k, hk⟩ => hids ▸ (href.branch hfile hk).2, hdistinct, fun i _ k hno => ?_,
    fun i hi => ?_, fun i hi j hj => ?_⟩
  · cases hk : (ref.tb i).branch k with
    | none => rfl
    | some q =>
      rw [(href.branch hfile hk).1] at hno
      cases hno
  · rw [hids] at hi
    rw [href.insns hfile hi, List.length_map]
    exact (file.tb i).code.length_lt
  · rw [hids] at hi
    rw [href.originAotTb] at hj ⊢
    obtain ⟨insn, hinsn, hopc⟩ := hslots i hi j hj
    rw [BitVec.toNat_udiv] at hinsn
    have hinsns : ((ref.tb i).insns[(file.tb i).originAotTb.slotIndex j]?).map (·.opc) = some .OPC_B := by
      rw [href.insns hfile hi, List.getElem?_map, AOTTB.slotIndex]
      rw [show (4 : BitVec 64).toNat = 4 from rfl] at hinsn
      rw [hinsn, Option.map_some, Option.map_some, hopc]
    rw [TB.insns, List.getElem?_map, Option.map_map] at hinsns
    exact hinsns

/-- A block that goes to a block without successors is merged with it. -/
theorem tuStart_merges_all_mergeImage : ∃ file ref seg, load mergeImage = .ok file ∧
    file.runSteps (file.segs.flatMap loadSteps) = .ok ref ∧ seg ∈ ref.segs ∧ ref.Mergeable 0 1 ∧
    ∃ f', ref.tuStart seg = .ok f' ∧ ∀ e ∈ ref.getAllEntrysBlock seg, ∀ p s, ref.Reaches e p →
      ref.Mergeable p s → Unified (ref.tb p) (ref.tb s) (f'.tb p) := by
  have hload : ∃ file, load mergeImage = .ok file ∧ file.SlotsIndexB ∧ file.RelsReadable :=
    ⟨_, rfl, slotsIndexB_of_ids rfl (by decide), by decide⟩
  obtain ⟨file, hload, hslots, hrels⟩ := hload
  obtain ⟨ref, hrun, href⟩ := exists_ref (unloaded_load hload) hrels
  have hgraph := href.graph (unloaded_load hload) hslots
  obtain rfl := Except.ok.inj hload
  obtain rfl := Except.ok.inj hrun
  exact ⟨_, _, _, rfl, rfl, List.mem_singleton_self _, ⟨false, by decide⟩,
    tuStart_merges_all _ _ (List.mem_singleton_self _) (hgraph (by decide))⟩

end AotOpt.AOTFile
