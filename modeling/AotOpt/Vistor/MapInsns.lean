import AotOpt.Vistor.Views

/-!
# Steps that look at opcodes only

A map of instructions that keeps the opcodes is carried through the list, the block and the file.
Linking, adding relocations and merging look at no more of an instruction than its opcode: they do the
same with the instructions mapped (`tuStart_mapInsns`, `settleAllTb_mapInsns`,
`addRelsStart_mapInsns`), and two files that are the same when mapped are so after a segment has been
disassembled (`disStart_mapInsns`).
-/

namespace AotOpt

variable {ι : Type}

/-! ### Lists -/

namespace LinkList

variable {α β : Type} (g : α → β) (l : LinkList α)

/-- The list with the data mapped. -/
def map : LinkList β where
  nodes := l.nodes.map fun n => ⟨n.addr, g n.data⟩
  fresh := l.fresh
  nodup := by simpa [Function.comp_def] using l.nodup
  lt_fresh := fun n hn => by
    obtain ⟨m, hm, rfl⟩ := List.mem_map.mp hn
    exact l.lt_fresh m hm

@[simp] theorem nodes_map : (l.map g).nodes = l.nodes.map fun n => ⟨n.addr, g n.data⟩ := rfl

@[simp] theorem fresh_map : (l.map g).fresh = l.fresh := rfl

@[simp] theorem addrs_map : (l.map g).addrs = l.addrs := by
  simp [addrs, Function.comp_def]

@[simp] theorem pos_map (a : ℕ) : (l.map g).pos a = l.pos a := by simp [pos]

@[simp] theorem totalSize_map : (l.map g).totalSize = l.totalSize := by simp [totalSize]

@[simp] theorem data?_map (a : ℕ) : (l.map g).data? a = (l.data? a).map g := by
  simp [data?, Function.comp_def]

theorem first_map (nodes : List (ListNode α)) :
    Ptr.first (nodes.map fun n => (⟨n.addr, g n.data⟩ : ListNode β)) = .first nodes := by
  cases nodes <;> rfl

@[simp] theorem next_map (a : ℕ) : (l.map g).next a = l.next a := by
  rw [next, nodes_map, pos_map, ← List.map_drop, first_map, next]

@[simp] theorem prev_map (a : ℕ) : (l.map g).prev a = l.prev a := by
  rw [prev, pos_map, addrs_map, prev]

theorem get_map (i : BitVec 64) :
    (l.map g).get i = (l.get i).map fun n => ⟨n.addr, g n.data⟩ := by
  rw [get, get, totalSize_map, nodes_map, List.getElem?_map, res_map_bind]
  cases l.nodes[i.toNat]? <;> rfl

theorem insertAt_map (k : ℕ) (d : α) : (l.map g).insertAt k (g d) = (l.insertAt k d).map g := by
  apply LinkList.ext
  · simp [insertAt, List.map_insertIdx]
  · rfl

theorem insertAfter_map (p : Ptr) (d : α) :
    (l.map g).insertAfter p (g d) = (l.insertAfter p d).map (map g) := by
  cases p with
  | head => exact congrArg Except.ok (l.insertAt_map g 0 d)
  | tail => rfl
  | node a =>
    rw [insertAfter, insertAfter, addrs_map, pos_map]
    split_ifs
    · exact congrArg Except.ok (l.insertAt_map g _ d)
    · rfl

theorem remove_map (a : ℕ) : (l.map g).remove a = (l.remove a).map g := by
  apply LinkList.ext
  · simp [remove, List.eraseIdx_map]
  · rfl

end LinkList

/-! ### Blocks -/

namespace TB

variable (g : LoongArchInsInfo → LoongArchInsInfo) (tb : TB ι)

/-- The block with the instructions mapped. -/
def mapInsns : TB ι := { tb with disInsns := tb.disInsns.map g }

@[simp] theorem disInsns_mapInsns : (tb.mapInsns g).disInsns = tb.disInsns.map g := rfl

@[simp] theorem rels_mapInsns : (tb.mapInsns g).rels = tb.rels := rfl

@[simp] theorem originAotTb_mapInsns : (tb.mapInsns g).originAotTb = tb.originAotTb := rfl

@[simp] theorem code_mapInsns : (tb.mapInsns g).code = tb.code := rfl

@[simp] theorem branch_mapInsns (k : Bool) : (tb.mapInsns g).branch k = tb.branch k := rfl

@[simp] theorem insns_mapInsns : (tb.mapInsns g).insns = tb.insns.map g := by
  simp [insns, Function.comp_def]

theorem addBInsn_mapInsns (opc : LoongArchOpc) (i : BitVec 32) :
    (tb.mapInsns g).addBInsn opc i = (tb.addBInsn opc i).mapInsns g := by
  unfold addBInsn
  dsimp only
  split_ifs <;> rfl

theorem deleteBInsn_mapInsns (opc : LoongArchOpc) (i : BitVec 32) :
    (tb.mapInsns g).deleteBInsn opc i = (tb.deleteBInsn opc i).mapInsns g := by
  unfold deleteBInsn
  split_ifs <;> rfl

theorem removeInsn_mapInsns (a : ℕ) (opc : LoongArchOpc) (i : BitVec 64) :
    (tb.mapInsns g).removeInsn a opc i = (tb.removeInsn a opc i).mapInsns g := by
  simp only [removeInsn, deleteBInsn_mapInsns, disInsns_mapInsns, LinkList.remove_map]
  rfl

variable {g} (hg : ∀ info, (g info).opc = info.opc)

theorem nodeAt_mapInsns (p : Ptr) :
    (tb.mapInsns g).nodeAt p = (tb.nodeAt p).map fun q => (q.1, g q.2) := by
  cases p with
  | head => rfl
  | tail => rfl
  | node a =>
    rw [nodeAt, nodeAt, disInsns_mapInsns, LinkList.data?_map]
    cases tb.disInsns.data? a <;> rfl

include hg

/-- A deletion. -/
theorem deleteIthInsnAlongwithRel_mapInsns (p : Ptr) (i : BitVec 64) :
    (tb.mapInsns g).deleteIthInsnAlongwithRel p i =
      (tb.deleteIthInsnAlongwithRel p i).map fun r => (r.1, r.2.mapInsns g) := by
  rw [deleteIthInsnAlongwithRel, deleteIthInsnAlongwithRel, nodeAt_mapInsns, res_map_bind]
  cases tb.nodeAt p with
  | error e => rfl
  | ok q =>
    obtain ⟨a, insn⟩ := q
    have hremove := ({ tb with rels := dropRel (i <<< 2) tb.rels } : TB ι).removeInsn_mapInsns g a
      insn.opc i
    simp only [Except.map, ok_bind, disInsns_mapInsns, LinkList.next_map, hg]
    exact congrArg (fun tb' => Except.ok (tb.disInsns.next a, tb')) hremove

/-- The loop of deletions. -/
theorem deleteRun_mapInsns (count : ℕ) : ∀ (tb : TB ι) (p : Ptr) (i : BitVec 64),
    (tb.mapInsns g).deleteRun p i count =
      (tb.deleteRun p i count).map fun r => (r.1, r.2.mapInsns g) := by
  induction count with
  | zero => exact fun _ _ _ => rfl
  | succ count ih =>
    intro tb p i
    rw [deleteRun, deleteRun, deleteIthInsnAlongwithRel_mapInsns tb hg, res_map_bind]
    cases tb.deleteIthInsnAlongwithRel p i with
    | error e => rfl
    | ok r => exact ih r.2 r.1 i

/-- The loop of copies. -/
theorem copyInsns_mapInsns : ∀ (nodes : List (ListNode LoongArchInsInfo)) (tb : TB ι) (p : Ptr)
    (i : BitVec 32), (tb.mapInsns g).copyInsns p i (nodes.map fun n => ⟨n.addr, g n.data⟩) =
      (tb.copyInsns p i nodes).map (mapInsns g)
  | [], _, _, _ => rfl
  | n :: nodes, tb, p, i => by
    rw [List.map_cons, copyInsns, copyInsns, disInsns_mapInsns, LinkList.insertAfter_map, res_map_bind]
    cases tb.disInsns.insertAfter p n.data with
    | error e => rfl
    | ok disInsns =>
      have hcopy := copyInsns_mapInsns nodes { tb.addBInsn n.data.opc i with disInsns := disInsns }
        (.node tb.disInsns.fresh) (i + 1)
      simp only [Except.map, ok_bind, hg, addBInsn_mapInsns]
      exact hcopy

/-- **Taking over a successor**. -/
theorem unifySrcblockNoSuccessor_mapInsns (dst src : TB ι) (isTrueBranch : Bool) :
    (dst.mapInsns g).unifySrcblockNoSuccessor (src.mapInsns g) isTrueBranch =
      (dst.unifySrcblockNoSuccessor src isTrueBranch).map (Option.map (mapInsns g)) := by
  have hno : (src.mapInsns g).noSuccessor = src.noSuccessor := rfl
  have hindex : (dst.mapInsns g).branchInsnIndex isTrueBranch = dst.branchInsnIndex isTrueBranch := rfl
  rw [unifySrcblockNoSuccessor, unifySrcblockNoSuccessor, hno, hindex]
  split_ifs
  · rfl
  · rw [res_map_bind]
    cases dst.branchInsnIndex isTrueBranch with
    | error e => rfl
    | ok start =>
      simp only [ok_bind, disInsns_mapInsns, LinkList.totalSize_map, LinkList.get_map]
      rw [res_map_bind]
      cases dst.disInsns.get (start.setWidth 64) with
      | error e => rfl
      | ok n =>
        simp only [Except.map, ok_bind, hg, LinkList.prev_map, deleteRun_mapInsns hg]
        cases assert (n.data.opc = .OPC_B) with
        | error e => rfl
        | ok _ =>
          cases dst.deleteRun (.node n.addr) (start.setWidth 64)
              ((dst.disInsns.totalSize - 1).setWidth 32 - start + 1).toNat with
          | error e => rfl
          | ok r =>
            have hcopy := copyInsns_mapInsns hg src.disInsns.nodes
              { r.2 with rels := r.2.rels ++ rebaseRels (start * 4) src.rels }
              (dst.disInsns.prev n.addr) start
            simp only [ok_bind]
            refine (congrArg (· >>= _) hcopy).trans ?_
            cases TB.copyInsns { r.2 with rels := r.2.rels ++ rebaseRels (start * 4) src.rels }
                (dst.disInsns.prev n.addr) start src.disInsns.nodes <;> rfl

end TB

/-! ### Files -/

namespace AOTFile

variable (g : LoongArchInsInfo → LoongArchInsInfo) (f : AOTFile ι)

/-- The file with the instructions mapped. -/
def mapInsns : AOTFile ι := { f with tb := fun i => (f.tb i).mapInsns g }

@[simp] theorem tb_mapInsns (i : ι) : (f.mapInsns g).tb i = (f.tb i).mapInsns g := rfl

@[simp] theorem ids_mapInsns : (f.mapInsns g).ids = f.ids := rfl

section Congr

variable {g} {f f' : AOTFile ι}

theorem mapInsns_congr (h : f.mapInsns g = f'.mapInsns g) (i : ι) :
    (f.tb i).mapInsns g = (f'.tb i).mapInsns g := congrFun (congrArg AOTFile.tb h) i

theorem originAotTb_congr (h : f.mapInsns g = f'.mapInsns g) (i : ι) :
    (f.tb i).originAotTb = (f'.tb i).originAotTb := by
  have htb := congrArg TB.originAotTb (mapInsns_congr h i)
  rwa [TB.originAotTb_mapInsns, TB.originAotTb_mapInsns] at htb

theorem insns_congr (h : f.mapInsns g = f'.mapInsns g) (i : ι) :
    (f.tb i).insns.map g = (f'.tb i).insns.map g := by
  have htb := congrArg TB.insns (mapInsns_congr h i)
  rwa [TB.insns_mapInsns, TB.insns_mapInsns] at htb

theorem segs_congr (h : f.mapInsns g = f'.mapInsns g) : f.segs = f'.segs := by
  have hsegs := congrArg AOTFile.segs h
  exact hsegs

end Congr

variable [DecidableEq ι]

theorem setTB_mapInsns (i : ι) (tb : TB ι) :
    (f.mapInsns g).setTB i (tb.mapInsns g) = (f.setTB i tb).mapInsns g := by
  have htb : Function.update (f.mapInsns g).tb i (tb.mapInsns g) =
      fun j => (Function.update f.tb i tb j).mapInsns g := by
    funext j
    by_cases hj : j = i
    · rw [hj, Function.update_self, Function.update_self]
    · rw [Function.update_of_ne hj, Function.update_of_ne hj]
      rfl
  rw [setTB, htb]
  rfl

omit [DecidableEq ι] in
/-- A loop whose turns do the same with the instructions mapped. -/
theorem foldlM_mapInsns {α : Type} {turn : AOTFile ι → α → Res (AOTFile ι)}
    (hturn : ∀ f a, turn (f.mapInsns g) a = (turn f a).map (mapInsns g)) : ∀ (as : List α) (f : AOTFile ι),
      as.foldlM turn (f.mapInsns g) = (as.foldlM turn f).map (mapInsns g)
  | [], _ => rfl
  | a :: as, f => by
    rw [List.foldlM_cons, List.foldlM_cons, hturn, res_map_bind]
    cases turn f a with
    | error e => rfl
    | ok f' => exact foldlM_mapInsns hturn as f'

/-! ### Linking and adding relocations -/

theorem tbLink_mapInsns (seg : AOTSegment) (i : ι) (k : Bool) :
    (f.mapInsns g).tbLink seg i k = (f.tbLink seg i k).map (mapInsns g) := by
  have htarget : (f.mapInsns g).target seg ((f.mapInsns g).tb i).originAotTb k =
      f.target seg (f.tb i).originAotTb k := rfl
  rw [tbLink, tbLink, htarget]
  cases f.target seg (f.tb i).originAotTb k with
  | none => rfl
  | some next =>
    have hbranch : ((f.tb i).mapInsns g).setBranch k next = ((f.tb i).setBranch k next).mapInsns g := by
      cases k <;> rfl
    have hfirst := f.setTB_mapInsns g i ((f.tb i).setBranch k next)
    have hsecond := (f.setTB i ((f.tb i).setBranch k next)).setTB_mapInsns g next
      (((f.setTB i ((f.tb i).setBranch k next)).tb next).addParent i)
    simp only [setNextTB, tb_mapInsns, TB.branch_mapInsns, hbranch, hfirst]
    rw [res_map_bind]
    cases assert ((f.tb i).branch k).isNone with
    | error e => rfl
    | ok _ => exact congrArg Except.ok hsecond

theorem settleAllTb_mapInsns (seg : Segment ι) :
    (f.mapInsns g).settleAllTb seg = (f.settleAllTb seg).map (mapInsns g) := by
  refine foldlM_mapInsns g (fun f i => ?_) seg.tbs f
  have horigin : ((f.mapInsns g).tb i).originAotTb = (f.tb i).originAotTb := rfl
  simp only [settleTb, horigin, tbLink_mapInsns]
  split_ifs
  · rw [res_map_bind]
    cases f.tbLink seg.seg i true with
    | error e => rfl
    | ok f' => exact f'.tbLink_mapInsns g seg.seg i false
  · rfl
  · rfl
  · rfl

theorem addRelsStart_mapInsns (seg : Segment ι) :
    (f.mapInsns g).addRelsStart seg = (f.addRelsStart seg).map (mapInsns g) := by
  refine foldlM_mapInsns g (fun f i => ?_) seg.tbs f
  have hvisit : AddRelsVistor.visit (f.mapInsns g).rels ((f.mapInsns g).tb i) =
      (AddRelsVistor.visit f.rels (f.tb i)).map (TB.mapInsns g) := by
    simp only [AddRelsVistor.visit, res_map_bind]
    exact bind_congr fun _ => bind_congr fun _ => bind_congr fun _ => rfl
  rw [hvisit, res_map_bind]
  cases AddRelsVistor.visit f.rels (f.tb i) with
  | error e => rfl
  | ok tb => exact congrArg Except.ok (f.setTB_mapInsns g i tb)

/-! ### Merging -/

section Merging

variable {g} (hg : ∀ info, (g info).opc = info.opc)

include hg

theorem unifyAt_mapInsns (f : AOTFile ι) (cur succ : ι) :
    (f.mapInsns g).unifyAt cur succ = (f.unifyAt cur succ).map (mapInsns g) := by
  rw [unifyAt, unifyAt]
  simp only [tb_mapInsns, TB.originAotTb_mapInsns, TB.unifySrcblockNoSuccessor_mapInsns hg]
  rw [res_map_bind]
  cases (f.tb cur).unifySrcblockNoSuccessor (f.tb succ) ((f.tb cur).originAotTb.slotValid 1) with
  | error e => rfl
  | ok res =>
    cases res with
    | none => rfl
    | some tb => exact congrArg Except.ok (f.setTB_mapInsns g cur tb)

/-- The walk. -/
theorem unifyOneSuccessor_mapInsns : ∀ (fuel : ℕ) (parents : List (BitVec 64)) (cur : ι)
    (finished : List (BitVec 64)) (f : AOTFile ι),
    unifyOneSuccessor fuel parents cur finished (f.mapInsns g) =
      (unifyOneSuccessor fuel parents cur finished f).map fun r => (r.1, r.2.mapInsns g)
  | 0, _, _, _, _ => rfl
  | fuel + 1, parents, cur, finished, f => by
    have hfollow : ∀ (next : Option ι) (finished : List (BitVec 64)) (f' : AOTFile ι),
        follow (unifyOneSuccessor fuel ((f.tb cur).x86Addr :: parents)) next finished (f'.mapInsns g) =
          (follow (unifyOneSuccessor fuel ((f.tb cur).x86Addr :: parents)) next finished f').map
            fun r => (r.1, r.2.mapInsns g) := by
      intro next finished f'
      cases next with
      | none => rfl
      | some next => exact unifyOneSuccessor_mapInsns fuel _ next finished f'
    have haddr : ((f.mapInsns g).tb cur).x86Addr = (f.tb cur).x86Addr := rfl
    have hmerge : (f.mapInsns g).mergeSucc cur = f.mergeSucc cur := rfl
    have hfalse : ((f.mapInsns g).tb cur).falseBranch = (f.tb cur).falseBranch := rfl
    have htrue : ∀ f' : AOTFile ι, ((f'.mapInsns g).tb cur).trueBranch = (f'.tb cur).trueBranch :=
      fun _ => rfl
    rw [unifyOneSuccessor, unifyOneSuccessor]
    simp only [haddr, hmerge, hfalse, hfollow]
    split_ifs
    · rfl
    · cases f.mergeSucc cur with
      | some succ =>
        simp only [unifyAt_mapInsns hg]
        rw [res_map_bind]
        cases f.unifyAt cur succ <;> rfl
      | none =>
        dsimp only
        rw [res_map_bind]
        cases follow (unifyOneSuccessor fuel ((f.tb cur).x86Addr :: parents)) (f.tb cur).falseBranch
            finished f with
        | error e => rfl
        | ok r =>
          simp only [Except.map, ok_bind, hfollow, htrue]
          cases follow (unifyOneSuccessor fuel ((f.tb cur).x86Addr :: parents)) (r.2.tb cur).trueBranch
            r.1 r.2 <;> rfl

/-- **Merging** looks at opcodes only. -/
theorem tuStart_mapInsns (f : AOTFile ι) (seg : Segment ι) :
    (f.mapInsns g).tuStart seg = (f.tuStart seg).map (mapInsns g) := by
  have hentry : (f.mapInsns g).getAllEntrysBlock seg = f.getAllEntrysBlock seg := rfl
  rw [tuStart, tuStart, hentry]
  refine foldlM_mapInsns g (fun f entry => ?_) _ f
  rw [unifyEntry, unifyEntry, ids_mapInsns, unifyOneSuccessor_mapInsns hg, res_map_bind]
  cases unifyOneSuccessor (f.ids.length + 1) [] entry [] f <;> rfl

end Merging

/-! ### Disassembling -/

section Disassembling

variable {g}

open DisassmbleVistor

omit [DecidableEq ι] in
theorem visitInsn_mapInsns {tb tb' : TB ι} (h : tb.mapInsns g = tb'.mapInsns g) (insn i : BitVec 32) :
    (visitInsn tb insn i).mapInsns g = (visitInsn tb' insn i).mapInsns g := by
  -- what is left when the instructions are mapped depends on the mapped block only
  have hturn : ∀ tb : TB ι, (visitInsn tb insn i).mapInsns g =
      let tb := if (decode .zero insn).1 then tb.mapInsns g else { tb.mapInsns g with hasInvalidInsn := true }
      let tb := tb.addBInsn (decode .zero insn).2.opc i
      { tb with disInsns := tb.disInsns.insertAtTail (g (disassemble insn)) } := by
    intro tb
    have hinsert := tb.disInsns.insertAt_map g tb.disInsns.nodes.length (disassemble insn)
    have hlen : (tb.disInsns.map g).nodes.length = tb.disInsns.nodes.length := List.length_map _
    unfold visitInsn
    dsimp only
    split_ifs
    · rw [TB.addBInsn_mapInsns]
      simp only [TB.disInsns_addBInsn, LinkList.insertAtTail, TB.disInsns_mapInsns, hlen, hinsert]
      rfl
    · have hflag : ({ tb.mapInsns g with hasInvalidInsn := true } : TB ι) =
          ({ tb with hasInvalidInsn := true } : TB ι).mapInsns g := rfl
      rw [hflag, TB.addBInsn_mapInsns]
      simp only [TB.disInsns_addBInsn, LinkList.insertAtTail, TB.disInsns_mapInsns, hlen, hinsert]
      rfl
  rw [hturn, h, ← hturn]

omit [DecidableEq ι] in
theorem visitFrom_mapInsns : ∀ (insns : List (BitVec 32)) {tb tb' : TB ι} (i : BitVec 32),
    tb.mapInsns g = tb'.mapInsns g → (visitFrom tb i insns).mapInsns g = (visitFrom tb' i insns).mapInsns g
  | [], _, _, _, h => h
  | insn :: insns, _, _, i, h => visitFrom_mapInsns insns (i + 1) (visitInsn_mapInsns h insn i)

omit [DecidableEq ι] in
theorem startTB_mapInsns {tb tb' : TB ι} (h : tb.mapInsns g = tb'.mapInsns g) :
    (startTB tb).mapInsns g = (startTB tb').mapInsns g := by
  have hcode : (tb.mapInsns g).code = (tb'.mapInsns g).code := congrArg TB.code h
  have hvisit : (visit tb).mapInsns g = (visit tb').mapInsns g := by
    rw [visit, ← TB.code_mapInsns g tb, hcode, visit]
    exact visitFrom_mapInsns _ 0 h
  have hstart : ∀ tb : TB ι, (startTB tb).mapInsns g =
      { (visit tb).mapInsns g with
        pipeholeAvailable := ((visit tb).mapInsns g).pipeholeOptAvailable } := fun _ => rfl
  rw [hstart, hvisit, ← hstart]

/-- **Disassembling a segment**. -/
theorem disStart_mapInsns {f f' : AOTFile ι} (h : f.mapInsns g = f'.mapInsns g) (seg : Segment ι) :
    (f.disStart seg).mapInsns g = (f'.disStart seg).mapInsns g := by
  rw [disStart, disStart]
  induction seg.tbs generalizing f f' with
  | nil => exact h
  | cons i is ih =>
    rw [List.foldl_cons, List.foldl_cons]
    apply ih
    rw [← setTB_mapInsns, ← setTB_mapInsns, h, startTB_mapInsns (mapInsns_congr h i)]

end Disassembling

end AOTFile

end AotOpt
