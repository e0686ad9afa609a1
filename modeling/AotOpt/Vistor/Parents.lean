import AotOpt.AotClass.Addresses
import AotOpt.Lib.Run
import AotOpt.Vistor.Walk

/-!
# Parents and links

`SetNextTB` sets a link and enters the parent, so that the parents are the inverse of the
links; disassembling and adding relocations touch neither. Merging takes the link of a block
away and leaves the block in the parents of the one that it linked to.

* `ParentsExact.settleAllTb` — linking keeps the parents exact.
* `parents_along_steps` — the parents are exact in every state of a run in which no walk
  comes to a block that is merged.
-/

namespace AotOpt.AOTFile

variable {ι : Type} [DecidableEq ι] {f f' : AOTFile ι}

/-- How many branches of block `p` are linked to block `b`. -/
def linkCount (f : AOTFile ι) (p b : ι) : ℕ :=
  [(f.tb p).branch true, (f.tb p).branch false].count (some b)

/-- The parents are the inverse of the links. -/
def ParentsExact (f : AOTFile ι) : Prop := ∀ p b, (f.tb b).parents.count p = f.linkCount p b

/-- **The parents are exact**, and the entry blocks of a segment are its blocks to which no
block is linked. -/
structure LinksExact (f : AOTFile ι) : Prop where
  parents : f.ParentsExact
  entrys : ∀ seg : Segment ι, ∀ b, b ∈ f.getAllEntrysBlock seg ↔
    b ∈ seg.tbs ∧ ∀ p, ¬f.Links p b

theorem linkCount_eq_zero {p b : ι} : f.linkCount p b = 0 ↔ ¬f.Links p b := by
  rw [linkCount, List.count_eq_zero, Links]
  simp only [List.mem_cons, List.not_mem_nil, or_false, Bool.exists_bool, not_or, eq_comm, and_comm]

theorem ParentsExact.linksExact (h : f.ParentsExact) : f.LinksExact where
  parents := h
  entrys := by
    intro seg b
    rw [getAllEntrysBlock, List.mem_filter, decide_eq_true_eq, List.length_eq_zero_iff,
      List.eq_nil_iff_forall_not_mem]
    refine and_congr_right fun _ => forall_congr' fun p => ?_
    rw [← linkCount_eq_zero, ← h p b, List.count_eq_zero]

/-! ### Linking -/

theorem parents_setNextTB {tb branch : ι} {isTrueBranch : Bool}
    (h : f.setNextTB tb branch isTrueBranch = .ok f') (i : ι) :
    (f'.tb i).parents = (f.tb i).parents ++ if i = branch then [tb] else [] := by
  obtain ⟨-, rfl⟩ := setNextTB_eq_ok.mp h
  have hfirst : ∀ j, ((f.setTB tb ((f.tb tb).setBranch isTrueBranch branch)).tb j).parents =
      (f.tb j).parents := by
    intro j
    by_cases hj : j = tb
    · rw [hj, tb_setTB_self, TB.setBranch]
      split <;> rfl
    · rw [tb_setTB_of_ne hj]
  by_cases hi : i = branch
  · rw [hi, tb_setTB_self, if_pos rfl, TB.addParent, hfirst]
  · rw [tb_setTB_of_ne hi, if_neg hi, hfirst, List.append_nil]

theorem branch_setNextTB {tb branch : ι} {isTrueBranch : Bool}
    (h : f.setNextTB tb branch isTrueBranch = .ok f') (i : ι) (k : Bool) :
    (f'.tb i).branch k = if i = tb ∧ k = isTrueBranch then some branch else (f.tb i).branch k := by
  obtain ⟨-, rfl⟩ := setNextTB_eq_ok.mp h
  have hfirst : ∀ j, ((f.setTB tb ((f.tb tb).setBranch isTrueBranch branch)).tb j).branch k =
      if j = tb ∧ k = isTrueBranch then some branch else (f.tb j).branch k := by
    intro j
    by_cases hj : j = tb
    · rw [hj, tb_setTB_self]
      cases k <;> cases isTrueBranch <;> simp [TB.setBranch, TB.branch]
    · rw [tb_setTB_of_ne hj, if_neg fun h => hj h.1]
  by_cases hi : i = branch
  · rw [hi, tb_setTB_self, ← hfirst]
    rfl
  · rw [tb_setTB_of_ne hi, hfirst]

/-- One link is set, and one parent is entered. -/
theorem ParentsExact.setNextTB (hexact : f.ParentsExact) {tb branch : ι} {isTrueBranch : Bool}
    (h : f.setNextTB tb branch isTrueBranch = .ok f') : f'.ParentsExact := by
  intro p b
  have hnone := (setNextTB_eq_ok.mp h).1
  have hp := hexact p b
  rw [linkCount] at hp ⊢
  rw [parents_setNextTB h, List.count_append, hp, branch_setNextTB h, branch_setNextTB h]
  by_cases hptb : p = tb
  · rw [hptb]
    by_cases hb : b = branch
    · cases isTrueBranch <;> simp [hb, hnone, List.count_cons, Nat.add_comm]
    · cases isTrueBranch <;> simp [hb, hnone, List.count_cons, Ne.symm hb]
  · by_cases hb : b = branch <;> simp [hptb, hb, Ne.symm hptb, List.count_cons]

theorem ParentsExact.tbLink (hexact : f.ParentsExact) {seg : AOTSegment} {tb : ι}
    {isTrueBranch : Bool} (h : f.tbLink seg tb isTrueBranch = .ok f') : f'.ParentsExact := by
  rw [AOTFile.tbLink] at h
  split at h
  · exact hexact.setNextTB h
  · exact Except.ok.inj h ▸ hexact

/-- **Linking keeps the parents exact.** -/
theorem ParentsExact.settleAllTb (hexact : f.ParentsExact) {seg : Segment ι}
    (h : f.settleAllTb seg = .ok f') : f'.ParentsExact := by
  refine Lib.foldlM_inv (fun f tb f' hexact h => ?_) hexact h
  unfold settleTb at h
  dsimp only at h
  split_ifs at h
  · obtain ⟨f₁, h₁, h₂⟩ := bind_eq_ok.mp h
    exact (hexact.tbLink h₁).tbLink h₂
  · exact hexact.tbLink h
  · exact hexact.tbLink h
  · exact Except.ok.inj h ▸ hexact

/-! ### Steps that leave the links alone -/

/-- The links and the parents are the same. -/
def SameLinks (f f' : AOTFile ι) : Prop :=
  ∀ i, (f'.tb i).parents = (f.tb i).parents ∧ ∀ k, (f'.tb i).branch k = (f.tb i).branch k

omit [DecidableEq ι] in
theorem SameLinks.refl (f : AOTFile ι) : SameLinks f f := fun _ => ⟨rfl, fun _ => rfl⟩

theorem SameLinks.setTB (h : SameLinks f f') {i : ι} {tb : TB ι}
    (hparents : tb.parents = (f'.tb i).parents) (hbranch : ∀ k, tb.branch k = (f'.tb i).branch k) :
    SameLinks f (f'.setTB i tb) := by
  intro j
  by_cases hj : j = i
  · rw [hj, tb_setTB_self, hparents]
    exact ⟨(h i).1, fun k => (hbranch k).trans ((h i).2 k)⟩
  · rw [tb_setTB_of_ne hj]
    exact h j

theorem SameLinks.parentsExact (h : SameLinks f f') (hexact : f.ParentsExact) : f'.ParentsExact := by
  intro p b
  rw [(h b).1, linkCount, (h p).2, (h p).2]
  exact hexact p b

theorem sameLinks_addRelsStart {seg : Segment ι} (h : f.addRelsStart seg = .ok f') :
    SameLinks f f' := by
  refine Lib.foldlM_inv (fun f₁ i f₂ h₁ h => ?_) (SameLinks.refl f) h
  obtain ⟨tb, hvisit, h⟩ := bind_eq_ok.mp h
  obtain ⟨-, new, -, rfl⟩ := AddRelsVistor.visit_eq_ok.mp hvisit
  rw [← Except.ok.inj h]
  exact h₁.setTB rfl fun _ => rfl

theorem sameLinks_disStart (f : AOTFile ι) (seg : Segment ι) : SameLinks f (f.disStart seg) := by
  refine List.foldlRecOn seg.tbs _ (SameLinks.refl f) fun f₁ h₁ i _ => ?_
  obtain ⟨_, _, _, _, _, h⟩ := DisassmbleVistor.visitFrom_frame (f₁.tb i).code.words (f₁.tb i) 0
  have hstart : (DisassmbleVistor.startTB (f₁.tb i)).parents = (f₁.tb i).parents ∧
      ∀ k, (DisassmbleVistor.startTB (f₁.tb i)).branch k = (f₁.tb i).branch k := by
    rw [DisassmbleVistor.startTB, DisassmbleVistor.visit, h]
    exact ⟨rfl, fun _ => rfl⟩
  exact h₁.setTB hstart.1 hstart.2

/-! ### Walks that merge nothing -/

/-- No block that a walk of the step can reach is merged with its successor. -/
def NoMerge (f : AOTFile ι) : Op ι → Prop
  | .tu seg => ∀ entry ∈ f.getAllEntrysBlock seg, ∀ p, f.Reaches entry p → f.mergeSucc p = none
  | _ => True

/-- A walk that comes to no block that is merged changes nothing. -/
theorem tuStart_of_noMerge {seg : Segment ι} (hno : f.NoMerge (.tu seg))
    (h : f.tuStart seg = .ok f') : f' = f := by
  have hturn : ∀ entry ∈ f.getAllEntrysBlock seg, ∀ f₁, f.unifyEntry entry = .ok f₁ → f₁ = f := by
    intro entry hentry f₁ h₁
    obtain ⟨⟨finished, f₂⟩, hwalk, h₁⟩ := bind_eq_ok.mp h₁
    have hrule : WalkOk (fun g => g = f) (fun g p => g.mergeSucc p = none) f
        (Enough (f.ids.length + 1) [] entry f) (unifyOneSuccessor (f.ids.length + 1) [] entry [] f) :=
      unifyOneSuccessor_rule (fun g cur succ _ hnone hsome => by rw [hnone] at hsome; cases hsome)
        (f.ids.length + 1) rfl (hno entry hentry)
    rcases hrule with ⟨_, _, heq, hsame, -⟩ | ⟨heq, -⟩
    · rw [heq, Except.ok.injEq, Prod.mk.injEq] at hwalk
      rw [← Except.ok.inj h₁, ← hwalk.2, hsame]
    · rw [heq] at hwalk
      cases hwalk
  rw [tuStart] at h
  generalize f.getAllEntrysBlock seg = entrys at h hturn
  induction entrys with
  | nil => exact (Except.ok.inj h).symm
  | cons entry entrys ih =>
    rw [List.foldlM_cons] at h
    obtain ⟨f₁, h₁, h⟩ := bind_eq_ok.mp h
    rw [hturn entry List.mem_cons_self f₁ h₁] at h
    exact ih h fun e he => hturn e (List.mem_cons_of_mem _ he)

/-! ### Runs -/

/-- The step does not stop and leaves `f'`. -/
def Step (f : AOTFile ι) (op : Op ι) (f' : AOTFile ι) : Prop := f.run op = .ok f'

theorem ParentsExact.step (hexact : f.ParentsExact) {op : Op ι} (hno : f.NoMerge op)
    (h : Step f op f') : f'.ParentsExact := by
  cases op with
  | settleAllTb seg => exact hexact.settleAllTb h
  | addRels seg => exact (sameLinks_addRelsStart h).parentsExact hexact
  | disassemble seg =>
    rw [← Except.ok.inj h]
    exact (sameLinks_disStart f seg).parentsExact hexact
  | tu seg => rw [tuStart_of_noMerge hno h]; exact hexact

/-- A file that was just loaded has no links and no parents. -/
theorem parentsExact_load {image : Image} {file : AOTFile ℕ} (h : load image = .ok file) :
    file.ParentsExact := by
  intro p b
  obtain ⟨_, _, _, hp⟩ := tb_load h p
  obtain ⟨_, _, _, hb⟩ := tb_load h b
  rw [linkCount, hp, hb]
  rfl

/-- **Parents along runs**: from a file that was just loaded, the parents are exact in every
state of a run in which no walk comes to a block that is merged. -/
theorem parents_along_steps {image : Image} {file : AOTFile ℕ} (hload : load image = .ok file)
    (ops : List (Op ℕ)) (hops : Lib.AllSteps Step NoMerge file ops) :
    Lib.AllStates Step LinksExact file ops := by
  have hinv : Lib.AllStates Step ParentsExact file ops :=
    .of_steps (fun _ _ _ hexact hno h => hexact.step hno h) (parentsExact_load hload) hops
  exact hinv.mono fun _ => ParentsExact.linksExact

/-- The entry of a block of a `b` or a `nop`, at `offset`, whose false branch, if it has one,
goes to `target`. -/
def oneInsnAotTb (offset : BitVec 32) (target : Option (BitVec 32)) : AOTTB :=
  { (default : AOTTB) with
    offsetInSegment := offset
    tbCacheSize := 4
    jmpResetOffsets := fun j =>
      if target.isSome && j = 0 then 0 else TB_JMP_RESET_OFFSET_INVALID
    x86Offset := fun _ => target.getD 0
    relStartIndex := 1 }

/-- A block of a `b` to `target`, or of a `nop`. -/
def oneInsnTB (offset : BitVec 32) (target : Option (BitVec 32)) : TBImage where
  aotTb := oneInsnAotTb offset target
  code := ⟨4, [if target.isSome then 0x50000000 else 0x03400000], rfl⟩
  size_eq := rfl

/-- A file with a block that goes to a block that goes to itself. -/
def loopImage : Image :=
  .ofSegs [⟨default, [], [oneInsnTB 0 (some 4), oneInsnTB 4 (some 4)]⟩]

theorem parents_along_loop : ∃ file, load loopImage = .ok file ∧
    Lib.AllStates Step LinksExact file (driverSteps file.segs) := by
  refine ⟨_, rfl, @parents_along_steps loopImage _ rfl _ ?_⟩
  intro f₁ h₁
  refine ⟨trivial, ?_⟩
  obtain rfl := Except.ok.inj h₁
  intro f₂ h₂
  refine ⟨trivial, ?_⟩
  obtain rfl := Except.ok.inj h₂
  intro f₃ h₃
  refine ⟨trivial, ?_⟩
  obtain rfl := Except.ok.inj h₃
  intro f₄ _
  refine ⟨fun entry hentry p hp => ?_, trivial⟩
  have hentry0 : entry = 0 := List.mem_singleton.mp hentry
  -- the walk goes from the first block to the second, and both have a valid slot
  have hp01 : p = 0 ∨ p = 1 := by
    induction hp with
    | refl => exact .inl hentry0
    | tail _ hlink ih =>
      obtain ⟨k, hk⟩ := hlink
      rcases ih with rfl | rfl <;> cases k
      · exact .inr (Option.some.inj hk).symm
      · cases hk
      · exact .inr (Option.some.inj hk).symm
      · cases hk
  rcases hp01 with rfl | rfl <;> rfl

/-- A file with a block that goes to a block without successors. -/
def mergeImage : Image :=
  .ofSegs [⟨default, [], [oneInsnTB 0 (some 4), oneInsnTB 4 none]⟩]

/-- The first block takes over the second, and stays its parent without a link to it. -/
theorem parents_wrong_after_merge : ∃ file, load mergeImage = .ok file ∧
    ¬Lib.AllStates Step LinksExact file (driverSteps file.segs) := by
  refine ⟨_, rfl, fun h => ?_⟩
  obtain ⟨-, h⟩ := h
  obtain ⟨-, h⟩ := h _ rfl
  obtain ⟨-, h⟩ := h _ rfl
  obtain ⟨-, h⟩ := h _ rfl
  have hexact := (h _ rfl).parents 0 1
  revert hexact
  decide

end AotOpt.AOTFile
