import AotOpt.Vistor.AddiPieces
import AotOpt.Vistor.Meaning
import Mathlib.Tactic.Ring

/-!
# What a rewritten run computes

`addi.d` and the accesses of the runs do what the instruction set says, and every other
instruction does anything. A run is a list of accesses that each move their base register on
(`Machine.moveEach`), and a chunk of a rewritten run is one that moves it once
(`Machine.moveOnce`).

* `sameStraight_visit` — when every access but the first of a chunk may be made before its base
  register is moved, what a visit leaves computes what the block computed.
-/

namespace AotOpt

open Lib LoongArchInsInfo

variable {ι σ : Type}

namespace AddiRun

variable (P : AddiRun)

/-- What an instruction does: an access, given by `act`, `addi.d`, or another instruction. -/
def meaning (act : BitVec 8 → BitVec 64 → Cpu σ → Cpu σ) (other : LoongArchInsInfo → Cpu σ → Cpu σ)
    (insn : LoongArchInsInfo) (m : Cpu σ) : Cpu σ :=
  if insn.opc = P.opc then act insn.dstReg (m.get (insn.srcsRegs 0) + simm12 insn.si) m
  else if insn.opc = .OPC_ADDI_D then addiD insn m
  else other insn m

/-- Whatever the other instructions do, `nodes'` compute what `nodes` do, up to the first `b` or
`bne`. -/
def SameStraight (act : ∀ {σ : Type}, BitVec 8 → BitVec 64 → Cpu σ → Cpu σ)
    (nodes nodes' : List (ListNode LoongArchInsInfo)) : Prop :=
  ∀ {σ : Type} (other : LoongArchInsInfo → Cpu σ → Cpu σ) (m : Cpu σ),
    m.exec (P.meaning act other) (straight nodes') = m.exec (P.meaning act other) (straight nodes)

/-! ### Runs -/

/-- Every access of the run that is not the first of a chunk may be made before the base register
is moved. -/
def GoodRun (good : LoongArchInsInfo → Prop)
    (ps : List (ListNode LoongArchInsInfo × ListNode LoongArchInsInfo)) : Prop :=
  ∀ (k : ℕ) (h : k < ps.length), k % P.max ≠ 0 → good (ps[k]).1.data

/-- The offsets of a chunk fit into 12 bits; the first is the one of the accesses, and the second is
not. -/
structure Fits : Prop where
  opc_ne : P.opc ≠ .OPC_ADDI_D
  two_le_max : 2 ≤ P.max
  si_ne : BitVec.ofInt 32 ((P.first + 1) * P.step) ≠ BitVec.ofInt 32 P.si
  si_eq : P.si = P.first * P.step
  access : ∀ k : ℕ, k < P.max → -2048 ≤ (P.first + k) * P.step ∧ (P.first + k) * P.step < 2048
  add : ∀ k : ℕ, k ≤ P.max → -2048 ≤ k * P.step ∧ k * P.step < 2048

variable {P} (hP : P.Fits) {act : BitVec 8 → BitVec 64 → Cpu σ → Cpu σ}
  {other : LoongArchInsInfo → Cpu σ → Cpu σ} {reg : BitVec 8}
  {ps : List (ListNode LoongArchInsInfo × ListNode LoongArchInsInfo)}

/-- The registers that a run stores or loads. -/
def rds (ps : List (ListNode LoongArchInsInfo × ListNode LoongArchInsInfo)) : List (BitVec 8) :=
  ps.map (·.1.data.dstReg)

theorem meaning_access {insn : LoongArchInsInfo} (hopc : insn.opc = P.opc) {x : ℤ} (m : Cpu σ)
    (hsi : insn.si = BitVec.ofInt 32 x) (hx : -2048 ≤ x ∧ x < 2048) :
    P.meaning act other insn m =
      act insn.dstReg (m.get (insn.srcsRegs 0) + BitVec.ofInt 64 x) m := by
  rw [meaning, if_pos hopc, hsi, simm12_ofInt hx]

/-- An access with a new offset. -/
theorem meaning_set_access {insn : LoongArchInsInfo} (hopc : insn.opc = P.opc) {x : ℤ} (m : Cpu σ)
    (hx : -2048 ≤ x ∧ x < 2048) : P.meaning act other (insn.set .si (BitVec.ofInt 32 x)) m =
      act insn.dstReg (m.get (insn.srcsRegs 0) + BitVec.ofInt 64 x) m := by
  have hset : (insn.set .si (BitVec.ofInt 32 x)).opc = P.opc := hopc
  rw [meaning_access hset m (si_set_si _ _) hx, dstReg_set_si, srcsRegs_set_si]

include hP

theorem meaning_addi {insn : LoongArchInsInfo} (hopc : insn.opc = .OPC_ADDI_D) {x : ℤ} (m : Cpu σ)
    (hsi : insn.si = BitVec.ofInt 32 x) (hx : -2048 ≤ x ∧ x < 2048) :
    P.meaning act other insn m =
      m.set insn.dstReg (m.get (insn.srcsRegs 0) + BitVec.ofInt 64 x) := by
  rw [meaning, if_neg (hopc ▸ hP.opc_ne.symm), if_pos hopc, addiD, hsi, simm12_ofInt hx]

/-- An addition with a new immediate. -/
theorem meaning_set_addi {insn : LoongArchInsInfo} (hopc : insn.opc = .OPC_ADDI_D) {x : ℤ} (m : Cpu σ)
    (hx : -2048 ≤ x ∧ x < 2048) : P.meaning act other (insn.set .si (BitVec.ofInt 32 x)) m =
      m.set insn.dstReg (m.get (insn.srcsRegs 0) + BitVec.ofInt 64 x) := by
  have hset : (insn.set .si (BitVec.ofInt 32 x)).opc = .OPC_ADDI_D := hopc
  rw [meaning_addi hP hset m (si_set_si _ _) hx, dstReg_set_si, srcsRegs_set_si]

/-- **A run** moves its base register after each access. -/
theorem exec_unpair (h : ∀ p ∈ ps, P.IsPair reg p) (m : Cpu σ) :
    m.exec (P.meaning act other) ((unpair ps).map (·.data)) =
      Machine.moveEach act reg (BitVec.ofInt 64 P.si) (BitVec.ofInt 64 P.step) (rds ps) m := by
  have hsi : -2048 ≤ P.si ∧ P.si < 2048 := by
    rw [hP.si_eq]
    simpa using hP.access 0 P.max_pos
  have hstep : -2048 ≤ P.step ∧ P.step < 2048 := by simpa using hP.add 1 P.max_pos
  induction ps generalizing m with
  | nil => rfl
  | cons p ps ih =>
    have hp := h p List.mem_cons_self
    show Machine.exec _ (p.1.data :: p.2.data :: (unpair ps).map (·.data)) m = _
    rw [Machine.exec_cons, Machine.exec_cons, ih (fun q hq => h q (List.mem_cons_of_mem _ hq)),
      meaning_access hp.opc m hp.si hsi, meaning_addi hP hp.addi _ hp.step hstep, hp.base, hp.dst,
      hp.src]
    rfl

/-- **A chunk** of a rewritten run moves its base register once. -/
theorem exec_planChunk {n : ℕ} (hn : n ≤ P.max) :
    ∀ {ps : List (ListNode LoongArchInsInfo × ListNode LoongArchInsInfo)} {j : ℕ}
      (insnIndex : BitVec 32) (m : Cpu σ), ps ≠ [] → j + ps.length = n → (∀ p ∈ ps, P.IsPair reg p) →
      m.exec (P.meaning act other) ((kept (P.planChunk (BitVec.ofInt 32 (n * P.step)) insnIndex
          (P.first + j) ps)).map (·.data)) =
        Machine.moveOnce act reg (BitVec.ofInt 64 P.si) (BitVec.ofInt 64 P.step)
          (BitVec.ofInt 64 (j * P.step)) (rds ps) m
  | [p], j, insnIndex, m, _, hlen, h => by
    have hp := h p List.mem_cons_self
    have hj : (j * P.step : ℤ) + P.si = (P.first + j) * P.step := by rw [hP.si_eq]; ring
    have hn1 : (j * P.step : ℤ) + P.step = n * P.step := by
      rw [← hlen, List.length_singleton]
      push_cast
      ring
    have hacc := hP.access j (by rw [List.length_singleton] at hlen; omega)
    show Machine.exec _ [p.1.data.set .si _, p.2.data.set .si _] m = Machine.moveOnce _ _ _ _ _ [_] m
    rw [Machine.exec_cons, meaning_set_access hp.opc m hacc, Machine.exec_cons,
      meaning_set_addi hP hp.addi _ (hP.add n hn), Machine.moveOnce, Machine.moveOnce,
      ← BitVec.ofInt_add, ← BitVec.ofInt_add, hj, hn1, hp.base, hp.dst, hp.src]
    rfl
  | p :: p' :: ps, j, insnIndex, m, _, hlen, h => by
    have hp := h p List.mem_cons_self
    have hj : (j * P.step : ℤ) + P.si = (P.first + j) * P.step := by rw [hP.si_eq]; ring
    have hj1 : (j * P.step : ℤ) + P.step = ((j + 1 : ℕ) : ℤ) * P.step := by push_cast; ring
    have hacc := hP.access j (by simp only [List.length_cons] at hlen; omega)
    have ih := exec_planChunk hn (j := j + 1) (insnIndex + 1) (act p.1.data.dstReg
      (m.get reg + BitVec.ofInt 64 ((P.first + j) * P.step)) m) (List.cons_ne_nil p' ps)
      (by rw [← hlen]; simp only [List.length_cons]; omega) (fun q hq => h q (List.mem_cons_of_mem _ hq))
    rw [show P.first + ((j + 1 : ℕ) : ℤ) = P.first + j + 1 by push_cast; ring] at ih
    show Machine.exec _ (p.1.data.set .si _ :: (kept (P.planChunk _ _ _ (p' :: ps))).map (·.data)) m =
      Machine.moveOnce _ _ _ _ _ (_ :: rds (p' :: ps)) m
    rw [Machine.exec_cons, meaning_set_access hp.opc m hacc, Machine.moveOnce,
      ← BitVec.ofInt_add, ← BitVec.ofInt_add, hj, hj1, hp.base]
    exact ih

/-- A chunk computes what its pairs computed. -/
theorem exec_chunk (insnIndex : BitVec 32) (m : Cpu σ) (hps : ps ≠ []) (hlen : ps.length ≤ P.max)
    (h : ∀ p ∈ ps, P.IsPair reg p) (hgood : ∀ a ∈ (rds ps).tail, Machine.Movable act reg a) :
    m.exec (P.meaning act other) ((kept (P.planChunk (BitVec.ofInt 32 (ps.length * P.step)) insnIndex
        P.first ps)).map (·.data)) =
      Machine.moveEach act reg (BitVec.ofInt 64 P.si) (BitVec.ofInt 64 P.step) (rds ps) m := by
  rw [Machine.moveEach_eq_moveOnce m hgood]
  have hchunk : m.exec (P.meaning act other) _ = _ :=
    exec_planChunk hP hlen insnIndex m hps (Nat.zero_add _) h
  simpa using hchunk

/-- **A rewritten run** computes what the run computed. -/
theorem exec_planRun {ps : List (ListNode LoongArchInsInfo × ListNode LoongArchInsInfo)}
    (insnIndex : BitVec 32) (m : Cpu σ) (hps : ps ≠ []) (h : ∀ p ∈ ps, P.IsPair reg p)
    (hgood : P.GoodRun (fun insn => Machine.Movable act reg insn.dstReg) ps) :
    m.exec (P.meaning act other) ((kept (P.planRun insnIndex ps)).map (·.data)) =
      Machine.moveEach act reg (BitVec.ofInt 64 P.si) (BitVec.ofInt 64 P.step) (rds ps) m := by
  have hmax := P.max_pos
  have hpos := List.length_pos_iff.mpr hps
  have htake : (ps.take (min ps.length P.max)).length = min ps.length P.max := by simp
  have htail : ∀ a ∈ (rds (ps.take (min ps.length P.max))).tail, Machine.Movable act reg a := by
    intro a ha
    obtain ⟨k, hk, rfl⟩ := List.getElem_of_mem ha
    simp only [rds, List.length_tail, List.length_map, htake] at hk
    simp only [rds, List.getElem_tail, List.getElem_map, List.getElem_take]
    exact hgood (k + 1) (by omega) (by rw [Nat.mod_eq_of_lt (by omega)]; omega)
  have hne : ps.take (min ps.length P.max) ≠ [] := List.length_pos_iff.mp (by omega)
  have hchunk : m.exec (P.meaning act other) _ = _ := exec_chunk hP insnIndex m hne
    (by omega) (fun p hp => h p (List.mem_of_mem_take hp)) htail
  rw [htake] at hchunk
  rw [planRun, kept_append, List.map_append, Machine.exec_append, hchunk]
  split_ifs with hmore
  · have hmin : min ps.length P.max = P.max := Nat.min_eq_right hmore.le
    rw [hmin]
    have hdrop : ps.drop P.max ≠ [] := by simpa using hmore
    rw [exec_planRun _ _ hdrop (fun p hp => h p (List.mem_of_mem_drop hp)),
      ← Machine.moveEach_append, rds, rds, ← List.map_append, List.take_append_drop, rds]
    intro k hk hne
    rw [List.getElem_drop]
    exact hgood (P.max + k) _ (by rwa [Nat.add_mod_left])
  · rw [Nat.min_eq_left (not_lt.mp hmore), List.take_length]
    rfl
termination_by ps.length

/-! ### Blocks -/

/-- **The plan**, when nothing is refused. -/
theorem exec_planFrom : ∀ {qs : List Piece} (cur : BitVec 32) (m : Cpu σ), (∀ q ∈ qs, q.Ok P) →
    (∀ ps, .run ps ∈ qs → 2 ≤ ps.length →
      P.GoodRun (fun insn => Machine.Movable act (insn.srcsRegs 0) insn.dstReg) ps) →
    m.exec (P.meaning act other) ((kept (P.planFrom cur qs)).map (·.data)) =
      m.exec (P.meaning act other) ((qs.flatMap Piece.nodes).map (·.data))
  | [], _, _, _, _ => rfl
  | .other n :: qs, cur, m, hok, hgood =>
    exec_planFrom (cur + 1) _ (fun q hq => hok q (List.mem_cons_of_mem _ hq))
      fun ps hps => hgood ps (List.mem_cons_of_mem _ hps)
  | .run ps :: qs, cur, m, hok, hgood => by
    have hrun : m.exec (P.meaning act other) ((kept (if ps.length ≠ 1 then P.planRun cur ps
        else (unpair ps).map (·, none))).map (·.data)) =
        m.exec (P.meaning act other) ((unpair ps).map (·.data)) := by
      obtain ⟨hne, reg, hpairs⟩ := hok _ List.mem_cons_self
      have hpos := List.length_pos_iff.mpr hne
      split_ifs with hone
      · rw [exec_planRun hP cur m hne hpairs, exec_unpair hP hpairs]
        intro k hk hmod
        rw [← (hpairs _ (List.getElem_mem hk)).base]
        exact hgood ps List.mem_cons_self (by omega) k hk hmod
      · rw [kept_keep]
    rw [planFrom, kept_append, List.map_append, Machine.exec_append, hrun, List.flatMap_cons,
      List.map_append, Machine.exec_append]
    exact exec_planFrom _ _ (fun q hq => hok q (List.mem_cons_of_mem _ hq))
      fun ps hps => hgood ps (List.mem_cons_of_mem _ hps)

end AddiRun

namespace AddiRun

variable {P : AddiRun} {act : ∀ {σ : Type}, BitVec 8 → BitVec 64 → Cpu σ → Cpu σ}
  {good : LoongArchInsInfo → Prop}

/-- The runs of at least two pairs are good. -/
def GoodRuns (P : AddiRun) (good : LoongArchInsInfo → Prop)
    (nodes : List (ListNode LoongArchInsInfo)) : Prop :=
  ∀ ps, .run ps ∈ P.pieces nodes → 2 ≤ ps.length → P.GoodRun good ps

/-- What a visit makes of the instructions up to the first `b` or `bne`. -/
theorem straight_visit {tb tb' : TB ι} (h : P.visit tb = .ok tb') :
    straight tb.disInsns.nodes = ((P.pieces tb.disInsns.nodes).flatMap Piece.nodes).map (·.data) ∧
      straight tb'.disInsns.nodes = (carry tb.rels (P.plan tb.disInsns.nodes)).1.map (·.data) := by
  obtain ⟨tb₁, rest, hok, hnodes, hrest, hnodes'⟩ := P.visit_eq tb
  obtain rfl : tb₁ = tb' := by rw [h] at hok; exact (Except.ok.inj hok).symm
  have hpieces := P.ok_pieces tb.disInsns.nodes
  constructor
  · conv_lhs => rw [hnodes]
    refine straight_append (fun n hn => ?_) hrest
    obtain ⟨q, hq, hn⟩ := List.mem_flatMap.mp hn
    exact (hpieces q hq).plain P n hn
  · rw [hnodes', straight_append (fun n hn => ?_) hrest]
    obtain ⟨e, he, rfl⟩ := mem_carry n hn
    exact P.plain_planFrom 0 hpieces e he

/-- No deletion that a visit requests is refused. -/
def Accepts (P : AddiRun) (tb : TB ι) : Prop :=
  accepted tb.rels (requests (P.plan tb.disInsns.nodes)) = true

theorem accepts_of_not_valid {tb : TB ι} (h : ∀ r ∈ tb.rels, r.valid = false) : P.Accepts tb :=
  accepted_of_not_valid h

/-- **A visit** none of whose deletions is refused leaves code that computes the same, if the runs
are good. -/
theorem sameStraight_visit (hP : P.Fits)
    (hmovable : ∀ {σ : Type} (insn : LoongArchInsInfo), good insn →
      Machine.Movable (@act σ) (insn.srcsRegs 0) insn.dstReg)
    {tb tb' : TB ι} (h : P.visit tb = .ok tb') (hacc : P.Accepts tb)
    (hgood : P.GoodRuns good tb.disInsns.nodes) :
    P.SameStraight act tb.disInsns.nodes tb'.disInsns.nodes := by
  intro σ other m
  rw [(straight_visit h).1, (straight_visit h).2, carry_of_accepted hacc]
  refine exec_planFrom hP 0 m (P.ok_pieces _) fun ps hps hlen k hk hmod => ?_
  exact hmovable _ (hgood ps hps hlen k hk hmod)

/-! ### Blocks with one run -/

/-- The block has one run, of at least two pairs and no more than one chunk, and no access or
`addi.d` besides. -/
structure OneRun (P : AddiRun) (nodes : List (ListNode LoongArchInsInfo))
    (ps : List (ListNode LoongArchInsInfo × ListNode LoongArchInsInfo)) : Prop where
  pieces : ∃ qs qs', P.pieces nodes = qs ++ .run ps :: qs' ∧ ∀ q ∈ qs ++ qs', ∃ n, q = .other n ∧
    n.data.opc ≠ P.opc ∧ n.data.opc ≠ .OPC_ADDI_D
  two_le : 2 ≤ ps.length
  le_max : ps.length ≤ P.max

theorem OneRun.mem_pieces {nodes : List (ListNode LoongArchInsInfo)}
    {ps : List (ListNode LoongArchInsInfo × ListNode LoongArchInsInfo)} (h : P.OneRun nodes ps) :
    .run ps ∈ P.pieces nodes := by
  obtain ⟨qs, qs', hpieces, -⟩ := h.pieces
  rw [hpieces]
  exact List.mem_append_right _ List.mem_cons_self

/-- The run decides whether the block is good. -/
theorem OneRun.goodRuns {nodes : List (ListNode LoongArchInsInfo)}
    {ps : List (ListNode LoongArchInsInfo × ListNode LoongArchInsInfo)} (h : P.OneRun nodes ps)
    (hps : ∀ (k : ℕ) (hk : k < ps.length), k ≠ 0 → good (ps[k]).1.data) : P.GoodRuns good nodes := by
  obtain ⟨qs, qs', hpieces, hothers⟩ := h.pieces
  intro ps' hps' _ k hk hmod
  obtain rfl : ps' = ps := by
    rw [hpieces, List.mem_append, List.mem_cons] at hps'
    rcases hps' with hq | heq | hq
    · obtain ⟨n, hn, -⟩ := hothers _ (List.mem_append_left _ hq)
      cases hn
    · exact Piece.run.inj heq
    · obtain ⟨n, hn, -⟩ := hothers _ (List.mem_append_right _ hq)
      cases hn
  exact hps k hk (by rintro rfl; exact hmod (Nat.zero_mod _))

/-- Other instructions that do nothing. -/
theorem exec_others {σ : Type} {act : BitVec 8 → BitVec 64 → Cpu σ → Cpu σ} : ∀ {qs : List Piece}
    (m : Cpu σ),
    (∀ q ∈ qs, ∃ n, q = .other n ∧ n.data.opc ≠ P.opc ∧ n.data.opc ≠ .OPC_ADDI_D) →
    m.exec (P.meaning act fun _ m => m) ((qs.flatMap Piece.nodes).map (·.data)) = m
  | [], _, _ => rfl
  | q :: qs, m, h => by
    obtain ⟨n, rfl, hopc, haddi⟩ := h q List.mem_cons_self
    show Machine.exec _ (n.data :: (qs.flatMap Piece.nodes).map (·.data)) m = m
    rw [Machine.exec_cons, meaning, if_neg hopc, if_neg haddi]
    exact exec_others m fun q hq => h q (List.mem_cons_of_mem _ hq)

theorem planRun_chunk {ps : List (ListNode LoongArchInsInfo × ListNode LoongArchInsInfo)}
    (insnIndex : BitVec 32) (h : ps.length ≤ P.max) : P.planRun insnIndex ps =
      P.planChunk (BitVec.ofInt 32 (ps.length * P.step)) insnIndex P.first ps := by
  rw [planRun, Nat.min_eq_left h, List.take_length, if_neg (not_lt.mpr h), List.append_nil]

theorem planFrom_others : ∀ {qs : List Piece} (rest : List Piece) (cur : BitVec 32),
    (∀ q ∈ qs, ∃ n, q = .other n ∧ n.data.opc ≠ P.opc ∧ n.data.opc ≠ .OPC_ADDI_D) →
    ∃ cur', kept (P.planFrom cur (qs ++ rest)) =
      qs.flatMap Piece.nodes ++ kept (P.planFrom cur' rest)
  | [], rest, cur, _ => ⟨cur, rfl⟩
  | q :: qs, rest, cur, h => by
    obtain ⟨n, rfl, -, -⟩ := h q List.mem_cons_self
    obtain ⟨cur', hcur'⟩ := planFrom_others rest (cur + 1) fun q hq => h q (List.mem_cons_of_mem _ hq)
    exact ⟨cur', congrArg (n :: ·) hcur'⟩

/-- **The converse's first step**: if the code of the block computes the same, moving the register
once is as good as moving it after each access. -/
theorem moveOnce_eq_of_sameStraight (hP : P.Fits) {tb tb' : TB ι} (h : P.visit tb = .ok tb')
    (hacc : P.Accepts tb)
    {ps : List (ListNode LoongArchInsInfo × ListNode LoongArchInsInfo)}
    (hone : P.OneRun tb.disInsns.nodes ps)
    (hsame : P.SameStraight act tb.disInsns.nodes tb'.disInsns.nodes) :
    ∃ reg, (∀ p ∈ ps, P.IsPair reg p) ∧ ∀ {σ : Type} (m : Cpu σ),
      Machine.moveOnce act reg (BitVec.ofInt 64 P.si) (BitVec.ofInt 64 P.step) 0 (rds ps) m =
        Machine.moveEach act reg (BitVec.ofInt 64 P.si) (BitVec.ofInt 64 P.step) (rds ps) m := by
  obtain ⟨qs, qs', hpieces, hothers⟩ := hone.pieces
  have hok := P.ok_pieces tb.disInsns.nodes
  rw [hpieces] at hok
  obtain ⟨hne, reg, hpairs⟩ : (Piece.run ps).Ok P := hok _ (by simp)
  have hqs := fun q hq => hothers q (List.mem_append_left _ hq)
  have hqs' := fun q hq => hothers q (List.mem_append_right _ hq)
  refine ⟨reg, hpairs, fun {σ} m => ?_⟩
  obtain ⟨cur, hcur⟩ := planFrom_others (.run ps :: qs') 0 hqs
  obtain ⟨cur', hcur'⟩ := planFrom_others [] (cur + BitVec.ofNat 32 (ps.length + 1)) hqs'
  rw [List.append_nil] at hcur'
  have hchunk : m.exec (P.meaning act fun _ m => m) _ = _ :=
    exec_planChunk hP hone.le_max cur m hne (Nat.zero_add _) hpairs
  rw [Nat.cast_zero, add_zero, zero_mul] at hchunk
  have hm := hsame (fun _ m => m) m
  rw [(straight_visit h).1, (straight_visit h).2, carry_of_accepted hacc, plan, hpieces, hcur, planFrom,
    if_pos (by have := hone.two_le; omega), planRun_chunk cur hone.le_max, kept_append, hcur'] at hm
  simp only [List.map_append, List.flatMap_append, List.flatMap_cons, Machine.exec_append,
    exec_others _ hqs, hchunk] at hm
  rw [planFrom, show kept [] = [] from rfl, List.map_nil, Machine.exec_nil, exec_others _ hqs',
    exec_others _ hqs'] at hm
  rw [← exec_unpair hP hpairs]
  exact hm

end AddiRun

end AotOpt
