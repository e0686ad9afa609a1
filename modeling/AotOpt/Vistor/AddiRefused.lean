import AotOpt.Vistor.AddiPasses

/-!
# Refused deletions

The two passes first give the accesses their new offsets and then ask for the deletion of the
additions, and go on when a deletion is refused because a relocation covers the addition. Then the
base register is moved by the addition that stays and once more by the one that was changed.

* `wholeRuns_iff` — every run is left as it was or is rewritten completely exactly if no deletion
  is refused.
-/

namespace AotOpt

open Lib DisassmbleVistor

variable {ι : Type}

namespace AddiRun

variable {P : AddiRun} {rels : List RelSlot}
  {es es' : List (ListNode LoongArchInsInfo × Option (BitVec 32))}
  {nodes nodes' : List (ListNode LoongArchInsInfo)}
  {ps : List (ListNode LoongArchInsInfo × ListNode LoongArchInsInfo)}

/-- What is left of the nodes of a run. -/
def leftOf (ps : List (ListNode LoongArchInsInfo × ListNode LoongArchInsInfo))
    (nodes' : List (ListNode LoongArchInsInfo)) : List (ListNode LoongArchInsInfo) :=
  nodes'.filter fun n => n.addr ∈ (unpair ps).map (·.addr)

/-- Every run of at least two pairs is as it was, or it is rewritten completely. -/
def WholeRuns (P : AddiRun) (nodes nodes' : List (ListNode LoongArchInsInfo)) : Prop :=
  ∀ ps, .run ps ∈ P.pieces nodes → 2 ≤ ps.length →
    leftOf ps nodes' = unpair ps ∨ leftOf ps nodes' = kept (P.planRun 0 ps)

/-! ### Requests, one after another -/

theorem accepted_append : ∀ (es es' : List (ListNode LoongArchInsInfo × Option (BitVec 32)))
    (rels : List RelSlot), accepted rels (requests (es ++ es')) =
      (accepted rels (requests es) && accepted (carry rels es).2 (requests es'))
  | [], _, _ => rfl
  | (_, none) :: es, es', rels => by
    rw [List.cons_append, requests_cons_none, requests_cons_none, carry]
    exact accepted_append es es' rels
  | (n, some i) :: es, es', rels => by
    rw [List.cons_append, requests_cons_some, requests_cons_some, accepted, accepted, carry]
    by_cases h : refused rels i = true
    · simp [h]
    · rw [if_neg h, accepted_append, Bool.and_assoc]

theorem length_kept_le : ∀ (es : List (ListNode LoongArchInsInfo × Option (BitVec 32)))
    (rels : List RelSlot), (kept es).length ≤ (carry rels es).1.length
  | [], _ => le_rfl
  | (_, none) :: es, rels => by
    rw [kept_cons_none, carry]
    exact Nat.succ_le_succ (length_kept_le es rels)
  | (n, some i) :: es, rels => by
    rw [kept_cons_some, carry]
    split_ifs
    · exact (length_kept_le es rels).trans (Nat.le_succ _)
    · exact length_kept_le es _

/-- A refused deletion leaves a node too many. -/
theorem length_kept_lt : ∀ (es : List (ListNode LoongArchInsInfo × Option (BitVec 32)))
    (rels : List RelSlot), accepted rels (requests es) = false →
      (kept es).length < (carry rels es).1.length
  | [], _, h => by cases h
  | (_, none) :: es, rels, h => by
    rw [kept_cons_none, carry]
    exact Nat.succ_lt_succ (length_kept_lt es rels h)
  | (n, some i) :: es, rels, h => by
    rw [requests_cons_some, accepted] at h
    rw [kept_cons_some, carry]
    split_ifs with hrefused
    · exact Nat.lt_succ_of_le (length_kept_le es rels)
    · rw [Bool.and_eq_false_imp, Bool.not_eq_true'] at h
      exact length_kept_lt es _ (h (by simpa using hrefused))

theorem mem_carry_of_none {n : ListNode LoongArchInsInfo} (h : (n, none) ∈ es) :
    n ∈ (carry rels es).1 := by
  induction es generalizing rels with
  | nil => cases h
  | cons e es ih =>
    obtain ⟨m, i⟩ := e
    cases i with
    | none =>
      rw [carry]
      rcases List.mem_cons.mp h with heq | h
      · rw [(Prod.mk.inj heq).1]
        exact List.mem_cons_self
      · exact List.mem_cons_of_mem _ (ih h)
    | some i =>
      have h := (List.mem_cons.mp h).resolve_left fun heq =>
        Option.some_ne_none i (Prod.mk.inj heq).2.symm
      rw [carry]
      split_ifs
      · exact List.mem_cons_of_mem _ (ih h)
      · exact ih h

/-! ### The plan of a run -/

/-- What a run is rewritten to does not depend on where it is. -/
theorem kept_planChunk (addiImm : BitVec 32) (i : ℤ) (x y : BitVec 32) :
    kept (P.planChunk addiImm x i ps) = kept (P.planChunk addiImm y i ps) := by
  induction ps generalizing i x y with
  | nil => rfl
  | cons p ps ih =>
    cases ps with
    | nil => rfl
    | cons p' ps =>
      rw [planChunk, planChunk, kept_cons_none, kept_cons_some, kept_cons_none, kept_cons_some,
        ih (i + 1) (x + 1) (y + 1)]

theorem kept_planRun (ps : List (ListNode LoongArchInsInfo × ListNode LoongArchInsInfo))
    (x y : BitVec 32) : kept (P.planRun x ps) = kept (P.planRun y ps) := by
  have hmax := P.max_pos
  conv_lhs => rw [planRun, kept_append, kept_planChunk _ _ x y]
  conv_rhs => rw [planRun, kept_append]
  split_ifs with hmore
  · rw [kept_planRun (ps.drop (min ps.length P.max)) _ (y + BitVec.ofNat 32 (min ps.length P.max - 1))]
  · rfl
termination_by ps.length

theorem planFrom_append : ∀ (qs qs' : List Piece) (cur : BitVec 32),
    ∃ cur', P.planFrom cur (qs ++ qs') = P.planFrom cur qs ++ P.planFrom cur' qs'
  | [], _, cur => ⟨cur, rfl⟩
  | .other n :: qs, qs', cur => by
    obtain ⟨cur', h⟩ := planFrom_append qs qs' (cur + 1)
    exact ⟨cur', by rw [List.cons_append, planFrom, planFrom, h, List.cons_append]⟩
  | .run ps :: qs, qs', cur => by
    obtain ⟨cur', h⟩ := planFrom_append qs qs' (cur + BitVec.ofNat 32 (ps.length + 1))
    exact ⟨cur', by rw [List.cons_append, planFrom, planFrom, h, List.append_assoc]⟩

/-- The plan is about the nodes of the pieces. -/
theorem addr_planFrom : ∀ (qs : List Piece) (cur : BitVec 32), ∀ e ∈ P.planFrom cur qs,
    e.1.addr ∈ (qs.flatMap Piece.nodes).map (·.addr)
  | [], _ => by simp [planFrom]
  | .other n :: qs, cur => by
    intro e he
    rw [planFrom] at he
    rw [List.flatMap_cons, List.map_append]
    rcases List.mem_cons.mp he with rfl | he
    · exact List.mem_append_left _ List.mem_cons_self
    · exact List.mem_append_right _ (addr_planFrom qs _ e he)
  | .run ps :: qs, cur => by
    intro e he
    rw [planFrom] at he
    rw [List.flatMap_cons, List.map_append]
    rcases List.mem_append.mp he with he | he
    · refine List.mem_append_left _ ?_
      split_ifs at he
      · exact P.mem_planRun (fun n => n.addr ∈ (unpair ps).map ListNode.addr) (fun _ _ h => h) ps cur
          (fun n hn => List.mem_map_of_mem hn) e he
      · obtain ⟨n, hn, rfl⟩ := List.mem_map.mp he
        exact List.mem_map_of_mem hn
    · exact List.mem_append_right _ (addr_planFrom qs _ e he)

/-- The first run one of whose deletions is refused. -/
theorem exists_refused : ∀ {qs : List Piece} {rels : List RelSlot} {cur : BitVec 32},
    accepted rels (requests (P.planFrom cur qs)) = false →
    ∃ qs₁ ps qs₂ x y, qs = qs₁ ++ .run ps :: qs₂ ∧ ps.length ≠ 1 ∧
      P.planFrom cur qs = P.planFrom cur qs₁ ++ (P.planRun x ps ++ P.planFrom y qs₂) ∧
        accepted (carry rels (P.planFrom cur qs₁)).2 (requests (P.planRun x ps)) = false
  | [], _, _, h => by cases h
  | .other n :: qs, rels, cur, h => by
    rw [planFrom, requests_cons_none] at h
    obtain ⟨qs₁, ps, qs₂, x, y, rfl, hone, hplan, hrefused⟩ := exists_refused h
    refine ⟨.other n :: qs₁, ps, qs₂, x, y, rfl, hone, ?_, ?_⟩
    · rw [planFrom, planFrom, hplan, List.cons_append]
    · rw [planFrom, carry]
      exact hrefused
  | .run ps :: qs, rels, cur, h => by
    rw [planFrom, accepted_append, Bool.and_eq_false_iff] at h
    rcases h with h | h
    · have hone : ps.length ≠ 1 := by
        intro hone
        rw [if_neg (not_not.mpr hone), requests_keep] at h
        cases h
      rw [if_pos hone] at h
      refine ⟨[], ps, qs, cur, cur + BitVec.ofNat 32 (ps.length + 1), rfl, hone, ?_, h⟩
      show P.planFrom cur (.run ps :: qs) = P.planRun cur ps ++ _
      rw [planFrom, if_pos hone]
    · obtain ⟨qs₁, ps', qs₂, x, y, rfl, hone, hplan, hrefused⟩ := exists_refused h
      refine ⟨.run ps :: qs₁, ps', qs₂, x, y, rfl, hone, ?_, ?_⟩
      · rw [planFrom, planFrom, hplan, List.append_assoc]
      · rw [planFrom, carry_append]
        exact hrefused

/-- What is left of a run whose place in the plan is known. -/
theorem leftOf_append {qs₁ qs₂ : List Piece} {x y : BitVec 32}
    {rest : List (ListNode LoongArchInsInfo)}
    (hnodup : ((((qs₁ ++ .run ps :: qs₂).flatMap Piece.nodes) ++ rest).map (·.addr)).Nodup) :
    leftOf ps ((carry rels (P.planFrom 0 qs₁ ++ (P.planRun x ps ++ P.planFrom y qs₂))).1 ++ rest) =
      (carry (carry rels (P.planFrom 0 qs₁)).2 (P.planRun x ps)).1 := by
  simp only [List.flatMap_append, List.flatMap_cons, List.map_append, List.append_assoc, Piece.nodes,
    List.nodup_append] at hnodup
  obtain ⟨-, ⟨-, -, hright⟩, hleft⟩ := hnodup
  have hnone : ∀ {l : List (ListNode LoongArchInsInfo)},
      (∀ n ∈ l, n.addr ∉ (unpair ps).map (·.addr)) → leftOf ps l = [] := fun h =>
    List.filter_eq_nil_iff.mpr fun n hn => by simpa using h n hn
  have hpre : leftOf ps (carry rels (P.planFrom 0 qs₁)).1 = [] := by
    refine hnone fun n hn hmem => ?_
    obtain ⟨e, he, rfl⟩ := mem_carry n hn
    exact hleft _ (addr_planFrom qs₁ 0 e he) _ (List.mem_append_left _ hmem) rfl
  have hpost : ∀ rels, leftOf ps (carry rels (P.planFrom y qs₂)).1 = [] := by
    refine fun rels => hnone fun n hn hmem => ?_
    obtain ⟨e, he, rfl⟩ := mem_carry n hn
    exact hright _ hmem _ (List.mem_append_left _ (addr_planFrom qs₂ y e he)) rfl
  have hrest : leftOf ps rest = [] := hnone fun n hn hmem =>
    hright _ hmem _ (List.mem_append_right _ (List.mem_map_of_mem hn)) rfl
  have hrun : ∀ rels, leftOf ps (carry rels (P.planRun x ps)).1 = (carry rels (P.planRun x ps)).1 := by
    refine fun rels => List.filter_eq_self.mpr fun n hn => ?_
    obtain ⟨e, he, rfl⟩ := mem_carry n hn
    exact decide_eq_true (P.mem_planRun (fun n => n.addr ∈ (unpair ps).map ListNode.addr)
      (fun _ _ h => h) ps x (fun n hn => List.mem_map_of_mem hn) e he)
  have happend : ∀ l l' : List (ListNode LoongArchInsInfo),
      leftOf ps (l ++ l') = leftOf ps l ++ leftOf ps l' := fun _ _ => List.filter_append _ _
  rw [carry_append, carry_append, happend, happend, happend, hpre, hrun, hpost, hrest, List.nil_append,
    List.append_nil, List.append_nil]

/-- The second access of a run is given another offset. -/
theorem mem_planRun_second (h : 2 ≤ P.max) (x : BitVec 32)
    (p p' : ListNode LoongArchInsInfo × ListNode LoongArchInsInfo) :
    (withSi p'.1 (BitVec.ofInt 32 ((P.first + 1) * P.step)), none) ∈ P.planRun x (p :: p' :: ps) := by
  obtain ⟨k, hk⟩ : ∃ k, min (p :: p' :: ps).length P.max = k + 2 :=
    ⟨_, (Nat.sub_add_cancel (by simp only [List.length_cons]; omega)).symm⟩
  rw [planRun, hk, List.take_succ_cons, List.take_succ_cons, planChunk]
  refine List.mem_append_left _ (List.mem_cons_of_mem _ (List.mem_cons_of_mem _ ?_))
  cases ps.take k with
  | nil => exact List.mem_cons_self
  | cons q qs => exact List.mem_cons_self

/-- So what is left of a run is not the run. -/
theorem carry_planRun_ne (hP : P.Fits) {reg : BitVec 8} {x : BitVec 32} (hlen : 2 ≤ ps.length)
    (hpairs : ∀ p ∈ ps, P.IsPair reg p) (hnodup : ((unpair ps).map (·.addr)).Nodup) :
    (carry rels (P.planRun x ps)).1 ≠ unpair ps := by
  obtain ⟨p, p', ps, rfl⟩ : ∃ p p' ps', ps = p :: p' :: ps' := by
    match ps, hlen with
    | p :: p' :: ps', _ => exact ⟨p, p', ps', rfl⟩
  intro heq
  have hmem := heq ▸ mem_carry_of_none (P.mem_planRun_second hP.two_le_max x p p')
  have hp' : p'.1 ∈ unpair (p :: p' :: ps) := by simp [unpair]
  have hsame : withSi p'.1 (BitVec.ofInt 32 ((P.first + 1) * P.step)) = p'.1 :=
    List.inj_on_of_nodup_map hnodup hmem hp' rfl
  have hsi := congrArg (·.data.si) hsame
  have hpair := hpairs p' (List.mem_cons_of_mem _ List.mem_cons_self)
  exact hP.si_ne (((LoongArchInsInfo.si_set_si _ _).symm.trans hsi).trans hpair.si)

/-- **Half rewritten runs**: a visit leaves one exactly if a deletion is refused. -/
theorem wholeRuns_iff (hP : P.Fits) {tb tb' : TB ι} (h : P.visit tb = .ok tb') :
    P.WholeRuns tb.disInsns.nodes tb'.disInsns.nodes ↔ P.Accepts tb := by
  obtain ⟨tb₁, rest, hok, hnodes, -, hnodes'⟩ := P.visit_eq tb
  obtain rfl : tb₁ = tb' := by rw [h] at hok; exact (Except.ok.inj hok).symm
  have hnodup := tb.disInsns.nodup
  have hpieces := P.ok_pieces tb.disInsns.nodes
  rw [WholeRuns, Accepts, hnodes', plan]
  rw [hnodes] at hnodup
  generalize P.pieces tb.disInsns.nodes = qs at *
  constructor
  · intro hwhole
    by_contra hacc
    obtain ⟨qs₁, ps, qs₂, x, y, rfl, hone, hplan, hrefused⟩ :=
      exists_refused (Bool.eq_false_iff.mpr hacc)
    have hmem : Piece.run ps ∈ qs₁ ++ .run ps :: qs₂ := List.mem_append_right _ List.mem_cons_self
    obtain ⟨hne, reg, hpairs⟩ := hpieces _ hmem
    have hlen : 2 ≤ ps.length := by
      have := List.length_pos_iff.mpr hne
      omega
    have hps : ((unpair ps).map (·.addr)).Nodup := by
      simp only [List.flatMap_append, List.flatMap_cons, List.map_append, List.append_assoc,
        List.nodup_append, Piece.nodes] at hnodup
      exact hnodup.2.1.1
    have hleft := hwhole ps hmem hlen
    rw [hplan, leftOf_append hnodup] at hleft
    rcases hleft with hleft | hleft
    · exact carry_planRun_ne hP hlen hpairs hps hleft
    · have hlt := length_kept_lt _ _ hrefused
      rw [hleft, kept_planRun ps x 0] at hlt
      exact lt_irrefl _ hlt
  · intro hacc ps hps hlen
    obtain ⟨qs₁, qs₂, rfl⟩ := List.append_of_mem hps
    obtain ⟨x, hplan⟩ := planFrom_append qs₁ (.run ps :: qs₂) 0
    rw [planFrom, if_pos (by omega)] at hplan
    rw [hplan, accepted_append, accepted_append, Bool.and_eq_true, Bool.and_eq_true] at hacc
    right
    rw [hplan, leftOf_append hnodup, carry_of_accepted hacc.2.1, kept_planRun ps x 0]

/-- What is asked of a visit one of whose deletions is refused: the code up to the first `b` or
`bne` computes what it computed, and no run is half rewritten. -/
def HandlesRefusal (P : AddiRun) (act : ∀ {σ : Type}, BitVec 8 → BitVec 64 → Cpu σ → Cpu σ)
    (tb tb' : TB ι) : Prop :=
  ¬P.Accepts tb →
    P.SameStraight act tb.disInsns.nodes tb'.disInsns.nodes ∧
      P.WholeRuns tb.disInsns.nodes tb'.disInsns.nodes

theorem handlesRefusal_iff {act : ∀ {σ : Type}, BitVec 8 → BitVec 64 → Cpu σ → Cpu σ} (hP : P.Fits)
    {tb tb' : TB ι} (h : P.visit tb = .ok tb') :
    P.HandlesRefusal act tb tb' ↔ P.Accepts tb :=
  ⟨fun hhandles => by_contra fun hacc => hacc ((wholeRuns_iff hP h).mp (hhandles hacc).2),
    fun hacc hrefused => absurd hacc hrefused⟩

end AddiRun

open StAddiVistor LdAddiVistor in
/-- **Refused deletions**: both passes leave a half rewritten run exactly if a deletion is refused;
if none is, the code computes what it computed, where the runs allow it. -/
theorem refused_deletions (tb : TB ι) :
    (∃ tb', StAddiVistor.visit tb = .ok tb' ∧
      (stAddi.HandlesRefusal storeD tb tb' ↔ stAddi.Accepts tb) ∧
      (stAddi.WholeRuns tb.disInsns.nodes tb'.disInsns.nodes ↔ stAddi.Accepts tb) ∧
      (stAddi.Accepts tb → stAddi.GoodRuns StAddiVistor.Postponable tb.disInsns.nodes →
        stAddi.SameStraight storeD tb.disInsns.nodes tb'.disInsns.nodes)) ∧
    ∃ tb', LdAddiVistor.visit tb = .ok tb' ∧
      (ldAddi.HandlesRefusal loadD tb tb' ↔ ldAddi.Accepts tb) ∧
      (ldAddi.WholeRuns tb.disInsns.nodes tb'.disInsns.nodes ↔ ldAddi.Accepts tb) ∧
      (ldAddi.Accepts tb → ldAddi.GoodRuns LdAddiVistor.Postponable tb.disInsns.nodes →
        ldAddi.SameStraight loadD tb.disInsns.nodes tb'.disInsns.nodes) := by
  constructor
  · obtain ⟨tb', -, hok, -⟩ := stAddi.visit_eq tb
    exact ⟨tb', hok, AddiRun.handlesRefusal_iff fits_stAddi hok, AddiRun.wholeRuns_iff fits_stAddi hok,
      AddiRun.sameStraight_visit fits_stAddi (fun _ h => h.movable) hok⟩
  · obtain ⟨tb', -, hok, -⟩ := ldAddi.visit_eq tb
    exact ⟨tb', hok, AddiRun.handlesRefusal_iff fits_ldAddi hok, AddiRun.wholeRuns_iff fits_ldAddi hok,
      AddiRun.sameStraight_visit fits_ldAddi (fun _ h => h.movable) hok⟩

section RefusedAddi

open StAddiVistor

/-- Two pushes, where a relocation covers the first `addi.d`. -/
def refusedAddi : TB ℕ := { pushTwo with rels := [⟨⟨.LOAD_TB_ADDR, 4, 1, 0, 0⟩, true⟩] }

theorem plan_pushTwo : stAddi.plan pushTwo.disInsns.nodes =
    [(AddiRun.withSi ⟨0, disassemble 0x29ffe064⟩ (BitVec.ofInt 32 (1 * -8)), none),
      (⟨1, disassemble 0x02ffe063⟩, some 1),
      (AddiRun.withSi ⟨2, disassemble 0x29ffe065⟩ (BitVec.ofInt 32 (2 * -8)), none),
      (AddiRun.withSi ⟨3, disassemble 0x02ffe063⟩ (BitVec.ofInt 32 (2 * -8)), none)] := by
  rw [AddiRun.plan, pieces_pushTwo, AddiRun.planFrom, if_pos (by decide),
    AddiRun.planRun_chunk 0 (by decide)]
  rfl

/-- `$sp` is moved by 24, not by 16. -/
theorem refused_addi_moves_too_far : refusedAddi.pipeholeAvailable = true ∧
    stAddi.GoodRuns Postponable refusedAddi.disInsns.nodes ∧ ¬stAddi.Accepts refusedAddi ∧
    ∃ tb', StAddiVistor.visit refusedAddi = .ok tb' ∧
      ¬stAddi.SameStraight storeD refusedAddi.disInsns.nodes tb'.disInsns.nodes ∧
      ¬stAddi.WholeRuns refusedAddi.disInsns.nodes tb'.disInsns.nodes := by
  have hnodes : refusedAddi.disInsns.nodes = pushTwo.disInsns.nodes := rfl
  have hrefused : ¬stAddi.Accepts refusedAddi := by
    rw [AddiRun.Accepts, hnodes, plan_pushTwo]
    decide
  obtain ⟨tb', -, hok, -⟩ := stAddi.visit_eq refusedAddi
  refine ⟨by decide, goodRuns_pushTwo, hrefused, tb', hok, fun hsame => ?_,
    fun hwhole => hrefused ((AddiRun.wholeRuns_iff fits_stAddi hok).mp hwhole)⟩
  have hm := hsame (fun _ m => m) (⟨fun _ => 0, fun _ => 0, ()⟩ : Cpu Unit)
  rw [(AddiRun.straight_visit hok).1, (AddiRun.straight_visit hok).2, hnodes, plan_pushTwo,
    pieces_pushTwo] at hm
  exact absurd (congrArg (·.get 3) hm) (by decide)

end RefusedAddi

end AotOpt
