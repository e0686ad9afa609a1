import AotOpt.Vistor.MemAddi

/-!
# The runs of a block

What `St_Addi_Vistor` and `Ld_Addi_Vistor` do is fixed by the instructions alone, except for
which deletions are refused. `pieces` are the runs and the other instructions up to the first
`b` or `bne`; `plan` lists what they become, with the index at which the deletion of an
addition is requested; and `carry` makes the deletions, one after another, with the relocations
as they are then.

* `visit_eq` — a visit leaves the nodes that are carried out of the plan.
-/

namespace AotOpt.AddiRun

variable {ι : Type} (P : AddiRun)

/-! ### Runs -/

/-- A run, as the list of its pairs, or another instruction. -/
inductive Piece where
  | other (n : ListNode LoongArchInsInfo)
  | run (ps : List (ListNode LoongArchInsInfo × ListNode LoongArchInsInfo))

/-- The pairs that the nodes begin with. -/
def pairs : ℕ → List (ListNode LoongArchInsInfo) →
    List (ListNode LoongArchInsInfo × ListNode LoongArchInsInfo)
  | k + 1, cur :: next :: nodes => (cur, next) :: pairs k nodes
  | _, _ => []

/-- The nodes of the pairs. -/
def unpair (ps : List (ListNode LoongArchInsInfo × ListNode LoongArchInsInfo)) :
    List (ListNode LoongArchInsInfo) := ps.flatMap fun p => [p.1, p.2]

/-- The nodes of a piece. -/
def Piece.nodes : Piece → List (ListNode LoongArchInsInfo)
  | .other n => [n]
  | .run ps => unpair ps

/-- The runs and the other instructions up to the first `b` or `bne`. -/
def pieces : List (ListNode LoongArchInsInfo) → List Piece
  | [] => []
  | iter :: nodes =>
    if isBOrBne iter.data.opc then []
    else if P.isPattern (iter :: nodes) then
      let count := 1 + P.countPairs (iter.data.srcsRegs 0) (nodes.drop 1)
      .run (pairs count (iter :: nodes)) :: pieces (nodes.drop (2 * count - 1))
    else .other iter :: pieces nodes
termination_by nodes => nodes.length

/-! ### The plan -/

/-- The node with another immediate. -/
def withSi (n : ListNode LoongArchInsInfo) (si : BitVec 32) : ListNode LoongArchInsInfo :=
  ⟨n.addr, n.data.set .si si⟩

/-- A chunk of a run, from the access with index `insnIndex` and factor `i` on. All but the last
addition are to be deleted. -/
def planChunk (addiImm : BitVec 32) : BitVec 32 → ℤ →
    List (ListNode LoongArchInsInfo × ListNode LoongArchInsInfo) →
      List (ListNode LoongArchInsInfo × Option (BitVec 32))
  | _, _, [] => []
  | _, i, [p] => [(withSi p.1 (BitVec.ofInt 32 (i * P.step)), none), (withSi p.2 addiImm, none)]
  | insnIndex, i, p :: p' :: ps =>
    (withSi p.1 (BitVec.ofInt 32 (i * P.step)), none) :: (p.2, some (insnIndex + 1)) ::
      planChunk addiImm (insnIndex + 1) (i + 1) (p' :: ps)

/-- A run. -/
def planRun (insnIndex : BitVec 32)
    (ps : List (ListNode LoongArchInsInfo × ListNode LoongArchInsInfo)) :
    List (ListNode LoongArchInsInfo × Option (BitVec 32)) :=
  let count := min ps.length P.max
  P.planChunk (BitVec.ofInt 32 (count * P.step)) insnIndex P.first (ps.take count) ++
    if P.max < ps.length then
      planRun (insnIndex + BitVec.ofNat 32 (count - 1)) (ps.drop count)
    else []
termination_by ps.length
decreasing_by
  have := P.max_pos
  simp only [List.length_drop]
  omega

/-- A block. A run of one pair is left as it is. -/
def planFrom : BitVec 32 → List Piece → List (ListNode LoongArchInsInfo × Option (BitVec 32))
  | _, [] => []
  | cur, .other n :: qs => (n, none) :: planFrom (cur + 1) qs
  | cur, .run ps :: qs =>
    (if ps.length ≠ 1 then P.planRun cur ps else (unpair ps).map (·, none)) ++
      planFrom (cur + BitVec.ofNat 32 (ps.length + 1)) qs

/-- What a block becomes, with the requests for deletions. -/
def plan (nodes : List (ListNode LoongArchInsInfo)) :
    List (ListNode LoongArchInsInfo × Option (BitVec 32)) := P.planFrom 0 (P.pieces nodes)

/-- A valid relocation covers the index. -/
def refused (rels : List RelSlot) (i : BitVec 32) : Bool := rels.any (·.hit (i.setWidth 64 <<< 2))

/-- The requests are carried out in order: the nodes that are left, and the relocations. -/
def carry : List RelSlot → List (ListNode LoongArchInsInfo × Option (BitVec 32)) →
    List (ListNode LoongArchInsInfo) × List RelSlot
  | rels, [] => ([], rels)
  | rels, (n, none) :: es => (n :: (carry rels es).1, (carry rels es).2)
  | rels, (n, some i) :: es =>
    if refused rels i then (n :: (carry rels es).1, (carry rels es).2)
    else carry (TB.shiftRelsDelete (i.setWidth 64 <<< 2) rels) es

/-- The deletions that are requested, in order. -/
def requests (es : List (ListNode LoongArchInsInfo × Option (BitVec 32))) : List (BitVec 32) :=
  es.filterMap (·.2)

/-- No request is refused. -/
def accepted : List RelSlot → List (BitVec 32) → Bool
  | _, [] => true
  | rels, i :: is =>
    !refused rels i && accepted (TB.shiftRelsDelete (i.setWidth 64 <<< 2) rels) is

/-- What is left when no request is refused. -/
def kept (es : List (ListNode LoongArchInsInfo × Option (BitVec 32))) :
    List (ListNode LoongArchInsInfo) := (es.filter (·.2.isNone)).map (·.1)

theorem carry_append (rels : List RelSlot)
    (es es' : List (ListNode LoongArchInsInfo × Option (BitVec 32))) :
    carry rels (es ++ es') = ((carry rels es).1 ++ (carry (carry rels es).2 es').1,
      (carry (carry rels es).2 es').2) := by
  induction es generalizing rels with
  | nil => rfl
  | cons e es ih =>
    obtain ⟨n, i⟩ := e
    cases i with
    | none => simp only [List.cons_append, carry, ih]
    | some i =>
      simp only [List.cons_append, carry]
      split_ifs
      · simp only [List.cons_append, ih]
      · exact ih _

theorem carry_keep (rels : List RelSlot) (ns : List (ListNode LoongArchInsInfo)) :
    carry rels (ns.map (·, none)) = (ns, rels) := by
  induction ns with
  | nil => rfl
  | cons n ns ih => rw [List.map_cons, carry, ih]

section Requests

variable (n : ListNode LoongArchInsInfo) (i : BitVec 32)
  (es es' : List (ListNode LoongArchInsInfo × Option (BitVec 32)))

@[simp] theorem requests_cons_none : requests ((n, none) :: es) = requests es := rfl

@[simp] theorem requests_cons_some : requests ((n, some i) :: es) = i :: requests es := rfl

@[simp] theorem requests_append : requests (es ++ es') = requests es ++ requests es' :=
  List.filterMap_append

@[simp] theorem kept_cons_none : kept ((n, none) :: es) = n :: kept es := rfl

@[simp] theorem kept_cons_some : kept ((n, some i) :: es) = kept es := rfl

end Requests

@[simp] theorem kept_append (es es' : List (ListNode LoongArchInsInfo × Option (BitVec 32))) :
    kept (es ++ es') = kept es ++ kept es' := by
  rw [kept, List.filter_append, List.map_append, kept, kept]

@[simp] theorem kept_keep (ns : List (ListNode LoongArchInsInfo)) : kept (ns.map (·, none)) = ns := by
  induction ns with
  | nil => rfl
  | cons n ns ih => exact congrArg (n :: ·) ih

theorem requests_keep (ns : List (ListNode LoongArchInsInfo)) : requests (ns.map (·, none)) = [] :=
  List.filterMap_eq_nil_iff.mpr (by simp)

/-- **Nothing is refused**: the nodes that are kept are left. -/
theorem carry_of_accepted : ∀ {es : List (ListNode LoongArchInsInfo × Option (BitVec 32))}
    {rels : List RelSlot}, accepted rels (requests es) = true → (carry rels es).1 = kept es
  | [], _, _ => rfl
  | (n, none) :: es, rels, h => by
    rw [requests_cons_none] at h
    rw [carry, carry_of_accepted h, kept_cons_none]
  | (n, some i) :: es, rels, h => by
    rw [requests_cons_some, accepted, Bool.and_eq_true, Bool.not_eq_true'] at h
    rw [carry, if_neg (by rw [h.1]; exact Bool.false_ne_true), carry_of_accepted h.2, kept_cons_some]

/-- Without a valid relocation nothing is refused. -/
theorem accepted_of_not_valid : ∀ {is : List (BitVec 32)} {rels : List RelSlot},
    (∀ r ∈ rels, r.valid = false) → accepted rels is = true
  | [], _, _ => rfl
  | i :: is, rels, h => by
    have hrefused : refused rels i = false :=
      List.any_eq_false.mpr fun r hr => by rw [RelSlot.hit, h r hr]; exact Bool.false_ne_true
    rw [accepted, hrefused]
    refine accepted_of_not_valid fun r hr => ?_
    obtain ⟨r₀, hr₀, rfl⟩ := List.mem_map.mp hr
    simp [h r₀ hr₀]

/-! ### The loops carry out the plan -/

/-- `es` were carried out on `tb`, whose nodes had `old` between `pre` and `rest`. -/
structure Carried (tb tb' : TB ι) (pre rest : List (ListNode LoongArchInsInfo))
    (es : List (ListNode LoongArchInsInfo × Option (BitVec 32))) : Prop where
  nodes : tb'.disInsns.nodes = pre ++ (carry tb.rels es).1 ++ rest
  rels : tb'.rels = (carry tb.rels es).2

section Carry

variable {tb tb' tb'' : TB ι} {pre rest rest' : List (ListNode LoongArchInsInfo)}
  {es es' : List (ListNode LoongArchInsInfo × Option (BitVec 32))} {n : ListNode LoongArchInsInfo}

theorem Carried.nil (h : tb.disInsns.nodes = pre ++ rest) : Carried tb tb pre rest [] :=
  ⟨by rw [h]; simp [carry], rfl⟩

theorem Carried.trans (h : Carried tb tb' pre rest' es)
    (h' : Carried tb' tb'' (pre ++ (carry tb.rels es).1) rest es') :
    Carried tb tb'' pre rest (es ++ es') := by
  refine ⟨?_, ?_⟩
  · rw [h'.nodes, h.rels, carry_append, List.append_assoc pre]
  · rw [h'.rels, h.rels, carry_append]

/-- Nodes that are left as they are. -/
theorem Carried.keep (ns : List (ListNode LoongArchInsInfo)) (h : tb.disInsns.nodes = pre ++ (ns ++ rest)) :
    Carried tb tb pre rest (ns.map (·, none)) :=
  ⟨by rw [h, carry_keep, List.append_assoc], by rw [carry_keep]⟩

/-- An assignment to the immediate. -/
theorem Carried.withSi (h : tb.disInsns.nodes = pre ++ n :: rest) (si : BitVec 32) :
    Carried tb (tb.updateInsn n.addr (·.set .si si)) pre rest [(withSi n si, none)] :=
  ⟨by
    show (tb.disInsns.update _ _).nodes = _
    rw [LinkList.nodes_update_mid _ h]
    simp [carry, AddiRun.withSi], rfl⟩

/-- A request for a deletion, refused or not. -/
theorem Carried.request (h : tb.disInsns.nodes = pre ++ n :: rest) (i : BitVec 32) :
    ∃ p tb', tb.deleteIthInsn (.node n.addr) (i.setWidth 64) = .ok (p, tb') ∧
      Carried tb tb' pre rest [(n, some i)] := by
  by_cases hhit : refused tb.rels i = true
  · refine ⟨_, _, tb.deleteIthInsn_eq_ok.mpr (.inl ⟨hhit, rfl, rfl⟩), ?_, ?_⟩
    · rw [h]
      simp [carry, hhit]
    · simp [carry, hhit]
  · have hfalse : refused tb.rels i = false := by simpa using hhit
    refine ⟨_, _, tb.deleteIthInsn_eq_ok.mpr (.inr ⟨hfalse, tb.deleteIthInsnAlongwithRel_eq_ok.mpr
      ⟨pre.length, n, LinkList.nodes_mid h, rfl, rfl, rfl⟩⟩), ?_, ?_⟩
    · rw [TB.disInsns_deleteAt, LinkList.nodes_remove_mid h]
      simp [carry, hfalse]
    · rw [TB.rels_deleteAt, TB.dropRel_eq_self hfalse]
      simp [carry, hfalse]

end Carry

/-- **One chunk** of a run. -/
theorem optLoop_eq (addiImm : BitVec 32) :
    ∀ (ps : List (ListNode LoongArchInsInfo × ListNode LoongArchInsInfo)) {tb : TB ι}
      {pre rest : List (ListNode LoongArchInsInfo)} (insnIndex : BitVec 32) (i : ℤ),
      tb.disInsns.nodes = pre ++ (unpair ps ++ rest) →
      ∃ tb', P.optLoop addiImm ps.length tb insnIndex i (unpair ps ++ rest) =
          .ok (tb', insnIndex + BitVec.ofNat 32 (ps.length - 1), rest) ∧
        Carried tb tb' pre rest (P.planChunk addiImm insnIndex i ps)
  | [], tb, pre, rest, insnIndex, i, h => ⟨tb, by simp [optLoop, unpair], .nil h⟩
  | [p], tb, pre, rest, insnIndex, i, h => by
    have h1 := Carried.withSi h (BitVec.ofInt 32 (i * P.step))
    have h2 := Carried.withSi h1.nodes addiImm
    refine ⟨_, ?_, h1.trans h2⟩
    simp [optLoop, unpair]
  | p :: p' :: ps, tb, pre, rest, insnIndex, i, h => by
    have h1 := Carried.withSi h (BitVec.ofInt 32 (i * P.step))
    obtain ⟨q, tb₂, hdel, h2⟩ := Carried.request h1.nodes (insnIndex + 1)
    have h12 := h1.trans h2
    obtain ⟨tb', hok, h'⟩ := optLoop_eq addiImm (p' :: ps) (insnIndex + 1) (i + 1) h12.nodes
    refine ⟨tb', ?_, h12.trans h'⟩
    have hidx : insnIndex + 1 + BitVec.ofNat 32 ((p' :: ps).length - 1) =
        insnIndex + BitVec.ofNat 32 ((p :: p' :: ps).length - 1) := by
      simp only [List.length_cons, Nat.add_sub_cancel]
      rw [BitVec.add_assoc, Nat.add_comm ps.length, BitVec.ofNat_add]
      rfl
    rw [hidx] at hok
    rw [← hok]
    show P.optLoop addiImm ((p' :: ps).length + 1) tb insnIndex i
      (p.1 :: p.2 :: (unpair (p' :: ps) ++ rest)) = _
    rw [optLoop, if_neg (by simp)]
    dsimp only
    rw [hdel]
    rfl

theorem unpair_append (ps qs : List (ListNode LoongArchInsInfo × ListNode LoongArchInsInfo)) :
    unpair (ps ++ qs) = unpair ps ++ unpair qs := List.flatMap_append

/-- **A run**. -/
theorem optSequence_eq (ps : List (ListNode LoongArchInsInfo × ListNode LoongArchInsInfo))
    {tb : TB ι} {pre rest : List (ListNode LoongArchInsInfo)} (insnIndex : BitVec 32)
    (h : tb.disInsns.nodes = pre ++ (unpair ps ++ rest)) :
    ∃ tb', P.optSequence tb (unpair ps ++ rest) ps.length insnIndex = .ok tb' ∧
      Carried tb tb' pre rest (P.planRun insnIndex ps) := by
  have hmax := P.max_pos
  have hsplit : unpair ps ++ rest =
      unpair (ps.take (min ps.length P.max)) ++ (unpair (ps.drop (min ps.length P.max)) ++ rest) := by
    rw [← List.append_assoc, ← unpair_append, List.take_append_drop]
  rw [hsplit] at h
  obtain ⟨tb₁, hok₁, h₁⟩ := P.optLoop_eq (BitVec.ofInt 32 ((min ps.length P.max : ℕ) * P.step)) _
    insnIndex P.first h
  rw [List.length_take, Nat.min_eq_left (Nat.min_le_left _ _), ← hsplit] at hok₁
  rw [optSequence, hok₁, ok_bind, planRun]
  dsimp only
  split_ifs with hmore
  · have hmin : min ps.length P.max = P.max := Nat.min_eq_right hmore.le
    rw [hmin] at h₁ ⊢
    obtain ⟨tb', hok, h'⟩ := optSequence_eq (ps.drop P.max) (insnIndex + BitVec.ofNat 32 (P.max - 1))
      h₁.nodes
    rw [List.length_drop] at hok
    exact ⟨tb', hok, h₁.trans h'⟩
  · have hmin : min ps.length P.max = ps.length := Nat.min_eq_left (not_lt.mp hmore)
    rw [hmin, List.drop_length] at h₁
    rw [hmin, List.append_nil]
    exact ⟨tb₁, rfl, h₁⟩
termination_by ps.length

/-- The pairs that are counted are there. -/
theorem unpair_pairs : ∀ (k : ℕ) (nodes : List (ListNode LoongArchInsInfo)), 2 * k ≤ nodes.length →
    unpair (pairs k nodes) = nodes.take (2 * k) ∧ (pairs k nodes).length = k
  | 0, nodes, _ => by simp [pairs, unpair]
  | k + 1, cur :: next :: nodes, h => by
    obtain ⟨h1, h2⟩ := unpair_pairs k nodes (by simp only [List.length_cons] at h; omega)
    rw [pairs, List.length_cons, h2]
    refine ⟨?_, rfl⟩
    show cur :: next :: unpair (pairs k nodes) = _
    rw [h1]
    rfl
  | k + 1, [], h => by simp at h
  | k + 1, [_], h => by simp at h; omega

/-- Where a piece ends. -/
theorem pieces_cons {iter : ListNode LoongArchInsInfo} {nodes : List (ListNode LoongArchInsInfo)}
    (hpat : P.isPattern (iter :: nodes) = true) {count : ℕ}
    (hcount : count = 1 + P.countPairs (iter.data.srcsRegs 0) (nodes.drop 1)) :
    (pairs count (iter :: nodes)).length = count ∧
      iter :: nodes = unpair (pairs count (iter :: nodes)) ++ nodes.drop (2 * count - 1) := by
  obtain ⟨hlen, -, hdrop⟩ := P.run_spec hpat hcount
  obtain ⟨hpairs, hlength⟩ := unpair_pairs count (iter :: nodes) hlen
  refine ⟨hlength, ?_⟩
  rw [hpairs, hdrop, List.take_append_drop]

/-- A run, or the pair that is passed as it is. -/
theorem passRun_eq (ps : List (ListNode LoongArchInsInfo × ListNode LoongArchInsInfo)) {tb : TB ι}
    {pre rest : List (ListNode LoongArchInsInfo)} (cur : BitVec 32)
    (h : tb.disInsns.nodes = pre ++ (unpair ps ++ rest)) :
    ∃ tb', (if ps.length ≠ 1 then P.optSequence tb (unpair ps ++ rest) ps.length cur
        else .ok tb : Res (TB ι)) = .ok tb' ∧
      Carried tb tb' pre rest
        (if ps.length ≠ 1 then P.planRun cur ps else (unpair ps).map (·, none)) := by
  split_ifs
  · exact P.optSequence_eq ps cur h
  · exact ⟨tb, rfl, .keep _ h⟩

/-! ### What the pieces are -/

/-- An access over the register and the addition that moves the register on. -/
structure IsPair (reg : BitVec 8)
    (p : ListNode LoongArchInsInfo × ListNode LoongArchInsInfo) : Prop where
  opc : p.1.data.opc = P.opc
  si : p.1.data.si = BitVec.ofInt 32 P.si
  base : p.1.data.srcsRegs 0 = reg
  addi : p.2.data.opc = .OPC_ADDI_D
  step : p.2.data.si = BitVec.ofInt 32 P.step
  dst : p.2.data.dstReg = reg
  src : p.2.data.srcsRegs 0 = reg

/-- The pairs of a run have one base register, and another instruction is no `b` or `bne`. -/
def Piece.Ok : Piece → Prop
  | .other n => isBOrBne n.data.opc = false
  | .run ps => ps ≠ [] ∧ ∃ reg, ∀ p ∈ ps, P.IsPair reg p

theorem isPair_of_isPattern {cur next : ListNode LoongArchInsInfo}
    {nodes : List (ListNode LoongArchInsInfo)} (h : P.isPattern (cur :: next :: nodes) = true) :
    P.IsPair (cur.data.srcsRegs 0) (cur, next) := by
  simp only [isPattern, Bool.and_eq_true, decide_eq_true_eq] at h
  obtain ⟨⟨⟨⟨⟨hopc, hsi⟩, haddi⟩, hstep⟩, hdst⟩, hsrc⟩ := h
  exact ⟨hopc, hsi, rfl, haddi, hstep, hdst, hsrc⟩

theorem isPair_pairs (reg : BitVec 8) : ∀ nodes : List (ListNode LoongArchInsInfo),
    ∀ p ∈ pairs (P.countPairs reg nodes) nodes, P.IsPair reg p
  | [] => by simp [countPairs, pairs]
  | [_] => by simp [countPairs, pairs]
  | iter :: next :: nodes => by
    rw [countPairs]
    split_ifs with h
    · rw [Bool.and_eq_true, decide_eq_true_eq] at h
      intro p hp
      rcases List.mem_cons.mp hp with rfl | hp
      · exact h.2 ▸ P.isPair_of_isPattern h.1
      · exact isPair_pairs reg nodes p hp
    · simp [pairs]

theorem ok_pieces : ∀ nodes : List (ListNode LoongArchInsInfo), ∀ q ∈ P.pieces nodes, q.Ok P
  | [] => by simp [pieces]
  | iter :: nodes => by
    rw [pieces]
    split_ifs with hstop hpat
    · simp
    · intro q hq
      rcases List.mem_cons.mp hq with rfl | hq
      · obtain ⟨_, next, rest, heq, -, -⟩ := P.isPattern_cases hpat
        obtain ⟨rfl, rfl⟩ := List.cons.inj heq
        rw [Nat.add_comm 1]
        refine ⟨List.cons_ne_nil _ _, iter.data.srcsRegs 0, fun p hp => ?_⟩
        rcases List.mem_cons.mp hp with rfl | hp
        · exact P.isPair_of_isPattern hpat
        · exact P.isPair_pairs _ rest p hp
      · exact ok_pieces _ q hq
    · intro q hq
      rcases List.mem_cons.mp hq with rfl | hq
      · simpa [Piece.Ok] using hstop
      · exact ok_pieces nodes q hq
termination_by nodes => nodes.length

/-- The nodes of a run are not `b` or `bne`. -/
theorem IsPair.plain {reg : BitVec 8} {p : ListNode LoongArchInsInfo × ListNode LoongArchInsInfo}
    (h : P.IsPair reg p) : isBOrBne p.1.data.opc = false ∧ isBOrBne p.2.data.opc = false :=
  ⟨by rw [h.opc]; exact P.opc_plain, by rw [h.addi]; rfl⟩

theorem Piece.Ok.plain {q : Piece} (h : q.Ok P) : ∀ n ∈ q.nodes, isBOrBne n.data.opc = false := by
  cases q with
  | other n => simpa [Piece.nodes, Piece.Ok] using h
  | run ps =>
    obtain ⟨-, reg, hreg⟩ := h
    intro n hn
    obtain ⟨p, hp, hn⟩ := List.mem_flatMap.mp hn
    have hplain := (hreg p hp).plain
    simp only [List.mem_cons, List.not_mem_nil, or_false] at hn
    rcases hn with rfl | rfl
    exacts [hplain.1, hplain.2]

/-- What a property says of the nodes of a run and is not about the immediate, it says of the
chunk. -/
theorem mem_planChunk {good : ListNode LoongArchInsInfo → Prop}
    (hset : ∀ n si, good n → good (withSi n si)) (addiImm : BitVec 32) :
    ∀ {ps : List (ListNode LoongArchInsInfo × ListNode LoongArchInsInfo)} (insnIndex : BitVec 32)
      (i : ℤ), (∀ n ∈ unpair ps, good n) → ∀ e ∈ P.planChunk addiImm insnIndex i ps, good e.1
  | [], _, _, _ => by simp [planChunk]
  | [p], _, _, h => by
    simpa [planChunk] using
      And.intro (hset p.1 _ (h p.1 (by simp [unpair]))) (hset p.2 _ (h p.2 (by simp [unpair])))
  | p :: p' :: ps, insnIndex, i, h => by
    have h1 : good p.1 := h p.1 (by simp [unpair])
    have h2 : good p.2 := h p.2 (by simp [unpair])
    have hps : ∀ n ∈ unpair (p' :: ps), good n := fun n hn =>
      h n (List.mem_cons_of_mem _ (List.mem_cons_of_mem _ hn))
    have ih := mem_planChunk hset addiImm (insnIndex + 1) (i + 1) hps
    rw [planChunk]
    intro e he
    rcases List.mem_cons.mp he with rfl | he
    · exact hset _ _ h1
    · rcases List.mem_cons.mp he with rfl | he
      · exact h2
      · exact ih e he

theorem mem_planRun (good : ListNode LoongArchInsInfo → Prop)
    (hset : ∀ n si, good n → good (withSi n si))
    (ps : List (ListNode LoongArchInsInfo × ListNode LoongArchInsInfo)) (insnIndex : BitVec 32)
    (h : ∀ n ∈ unpair ps, good n) : ∀ e ∈ P.planRun insnIndex ps, good e.1 := by
  have hmax := P.max_pos
  have hsplit := unpair_append (ps.take (min ps.length P.max)) (ps.drop (min ps.length P.max))
  rw [List.take_append_drop] at hsplit
  rw [planRun]
  intro e he
  rcases List.mem_append.mp he with he | he
  · exact P.mem_planChunk hset _ _ _
      (fun n hn => h n (hsplit ▸ List.mem_append_left _ hn)) e he
  · split_ifs at he with hmore
    · exact mem_planRun good hset _ _ (fun n hn => h n (hsplit ▸ List.mem_append_right _ hn)) e he
    · cases he
termination_by ps.length

/-- The nodes of the plan are not `b` or `bne`. -/
theorem plain_planFrom : ∀ {qs : List Piece} (cur : BitVec 32), (∀ q ∈ qs, q.Ok P) →
    ∀ e ∈ P.planFrom cur qs, isBOrBne e.1.data.opc = false
  | [], _, _ => by simp [planFrom]
  | .other n :: qs, cur, h => by
    have ih := plain_planFrom (cur + 1) fun q hq => h q (List.mem_cons_of_mem _ hq)
    have hn : isBOrBne n.data.opc = false := h _ List.mem_cons_self
    intro e he
    rcases List.mem_cons.mp he with rfl | he
    exacts [hn, ih e he]
  | .run ps :: qs, cur, h => by
    have ih := plain_planFrom (cur + BitVec.ofNat 32 (ps.length + 1))
      fun q hq => h q (List.mem_cons_of_mem _ hq)
    have hps := (h _ List.mem_cons_self).plain
    rw [planFrom]
    intro e he
    rcases List.mem_append.mp he with he | he
    · split_ifs at he
      · exact P.mem_planRun (fun n => isBOrBne n.data.opc = false) (fun _ _ h => h) ps cur hps e he
      · obtain ⟨n, hn, rfl⟩ := List.mem_map.mp he
        exact hps n hn
    · exact ih e he

/-- What is left was in the plan. -/
theorem mem_carry : ∀ {es : List (ListNode LoongArchInsInfo × Option (BitVec 32))} {rels : List RelSlot},
    ∀ n ∈ (carry rels es).1, ∃ e ∈ es, e.1 = n
  | [], _ => by simp [carry]
  | (n, none) :: es, rels => by
    rw [carry]
    intro m hm
    rcases List.mem_cons.mp hm with rfl | hm
    · exact ⟨_, List.mem_cons_self, rfl⟩
    · obtain ⟨e, he, rfl⟩ := mem_carry m hm
      exact ⟨e, List.mem_cons_of_mem _ he, rfl⟩
  | (n, some i) :: es, rels => by
    rw [carry]
    intro m hm
    split_ifs at hm
    · rcases List.mem_cons.mp hm with rfl | hm
      · exact ⟨_, List.mem_cons_self, rfl⟩
      · obtain ⟨e, he, rfl⟩ := mem_carry m hm
        exact ⟨e, List.mem_cons_of_mem _ he, rfl⟩
    · obtain ⟨e, he, rfl⟩ := mem_carry m hm
      exact ⟨e, List.mem_cons_of_mem _ he, rfl⟩

/-- **The loop** from where the walk has come to. -/
theorem visitFrom_eq : ∀ (nodes : List (ListNode LoongArchInsInfo)) {tb : TB ι}
    {pre : List (ListNode LoongArchInsInfo)} (cur : BitVec 32), tb.disInsns.nodes = pre ++ nodes →
    ∃ tb' rest, P.visitFrom tb cur nodes = .ok tb' ∧
      nodes = (P.pieces nodes).flatMap Piece.nodes ++ rest ∧
      (∀ n ∈ rest.head?, isBOrBne n.data.opc = true) ∧
      Carried tb tb' pre rest (P.planFrom cur (P.pieces nodes))
  | [], tb, pre, cur, h =>
    ⟨tb, [], by rw [visitFrom], by simp [pieces], by simp, by rw [pieces]; exact .nil h⟩
  | iter :: nodes, tb, pre, cur, h => by
    rw [visitFrom, pieces]
    split_ifs with hstop hpat
    · exact ⟨tb, iter :: nodes, rfl, rfl, by simpa using hstop, .nil h⟩
    · dsimp only
      obtain ⟨hlength, hsplit⟩ := P.pieces_cons hpat rfl
      rw [hsplit] at h
      obtain ⟨tb₁, hok, h₁⟩ := P.passRun_eq _ cur h
      rw [hlength, ← hsplit] at hok
      rw [hok, ok_bind]
      obtain ⟨tb', rest, hok', hrest, hhead, h'⟩ := visitFrom_eq
        (nodes.drop (2 * (1 + P.countPairs (iter.data.srcsRegs 0) (nodes.drop 1)) - 1))
        (cur + BitVec.ofNat 32 (1 + P.countPairs (iter.data.srcsRegs 0) (nodes.drop 1) + 1)) h₁.nodes
      refine ⟨tb', rest, hok', ?_, hhead, ?_⟩
      · rw [List.flatMap_cons, List.append_assoc, ← hrest]
        exact hsplit
      · rw [planFrom]
        simpa only [hlength] using h₁.trans h'
    · have h₁ := Carried.keep [iter] h
      obtain ⟨tb', rest, hok', hrest, hhead, h'⟩ := visitFrom_eq nodes (cur + 1) h₁.nodes
      refine ⟨tb', rest, hok', ?_, hhead, h₁.trans h'⟩
      rw [List.flatMap_cons, List.append_assoc, ← hrest]
      rfl
termination_by nodes => nodes.length

/-- **A visit** leaves the nodes that are carried out of the plan, and what follows from the first
`b` or `bne` on. -/
theorem visit_eq (tb : TB ι) : ∃ tb' rest, P.visit tb = .ok tb' ∧
    tb.disInsns.nodes = (P.pieces tb.disInsns.nodes).flatMap Piece.nodes ++ rest ∧
    (∀ n ∈ rest.head?, isBOrBne n.data.opc = true) ∧
    tb'.disInsns.nodes = (carry tb.rels (P.plan tb.disInsns.nodes)).1 ++ rest := by
  have hnodes : tb.disInsns.nodes = [] ++ tb.disInsns.nodes := rfl
  obtain ⟨tb', rest, hok, hsplit, hhead, h⟩ := P.visitFrom_eq tb.disInsns.nodes 0 hnodes
  exact ⟨tb', rest, hok, hsplit, hhead, h.nodes⟩

end AotOpt.AddiRun
