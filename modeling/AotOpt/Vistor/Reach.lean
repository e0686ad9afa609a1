import AotOpt.Lib.Search
import AotOpt.Vistor.Streams
import Mathlib.Data.List.Sort

/-!
# The blocks that can be reached

`output_tb_culster` and `output_tb_can_be_unify` of `TU_Vistor.cpp` follow the links from the blocks
without parents on, and print the blocks they come to and those of them that have an only successor.
A block is known by its address: when no two blocks of a file have the same one, what is printed are
the blocks that can be reached, each once.

* `iterAll_of_dfs`, `iterCanBeTu_of_dfs` — both walks are depth-first searches.
* `outputTbCulster_ok`, `outputTbCanBeUnify_ok` — what is printed.
-/

namespace AotOpt.AOTFile

open Lib Lib.Search

variable {ι : Type} (f : AOTFile ι)

/-- What is printed for a segment: for each block without parents its address and the addresses behind
it. The text around the addresses is left out. -/
abbrev Listing := List (BitVec 64 × List (BitVec 64))

/-- `if(next != nullptr)`, the walk goes on there. -/
def goOn {σ : Type} (iter : ι → σ → Res σ) : Option ι → σ → Res σ
  | some next, s => iter next s
  | none, s => .ok s

/-- `iter_all`, with a bound on the depth of the recursion. -/
def iterAll : ℕ → ι → List (BitVec 64) → Res (List (BitVec 64))
  | 0, _, _ => .error .depth
  | fuel + 1, tb, record =>
    if !record.contains (f.tb tb).x86Addr then do
      let record := (f.tb tb).x86Addr :: record
      let record ← goOn (iterAll fuel) (f.tb tb).trueBranch record
      goOn (iterAll fuel) (f.tb tb).falseBranch record
    else .ok record

/-- `output_tb_culster`. The elements of a `std::set` come in their order. -/
def outputTbCulster (seg : Segment ι) : Res Listing :=
  (f.getAllEntrysBlock seg).mapM fun tb => do
    let result ← f.iterAll (f.ids.length + 1) tb []
    .ok ((f.tb tb).x86Addr, result.mergeSort)

/-- `parents`, `finished` and `res` of `iter_can_be_tu`. -/
structure CanBeTu where
  parents : List (BitVec 64)
  finished : List (BitVec 64)
  res : List (BitVec 64)

/-- `iter_can_be_tu`, with a bound on the depth of the recursion. -/
def iterCanBeTu : ℕ → ι → CanBeTu → Res CanBeTu
  | 0, _, _ => .error .depth
  | fuel + 1, tb, s =>
    let x86Addr := (f.tb tb).x86Addr
    if !s.parents.contains x86Addr && !s.finished.contains x86Addr then do
      let s := { s with parents := x86Addr :: s.parents }
      let s := if (f.tb tb).onlyOneSuccessor then { s with res := s.res ++ [x86Addr] } else s
      let s ← goOn (iterCanBeTu fuel) (f.tb tb).trueBranch s
      let s ← goOn (iterCanBeTu fuel) (f.tb tb).falseBranch s
      .ok { s with parents := s.parents.erase x86Addr, finished := x86Addr :: s.finished }
    else .ok s

/-- `output_tb_can_be_unify`. -/
def outputTbCanBeUnify (seg : Segment ι) : Res Listing :=
  (f.getAllEntrysBlock seg).mapM fun tb => do
    let s ← f.iterCanBeTu (f.ids.length + 1) tb ⟨[], [], []⟩
    .ok ((f.tb tb).x86Addr, s.res)

/-! ### The graph of the blocks -/

/-- The address of a block. -/
def addrOf (i : ι) : BitVec 64 := (f.tb i).x86Addr

/-- The blocks that a block is linked to, in the order in which the walks follow them. -/
def branches (i : ι) : List ι := (f.tb i).trueBranch.toList ++ (f.tb i).falseBranch.toList

/-- No two blocks have the same address. -/
def DistinctAddrs : Prop := Set.InjOn f.addrOf {i | i ∈ f.ids}

variable {f}

theorem mem_branches {i j : ι} : j ∈ f.branches i ↔ f.Links i j := by
  simp only [branches, List.mem_append, Option.mem_toList, Links, Bool.exists_bool, TB.branch,
    Bool.false_eq_true, if_false, if_true]
  rw [or_comm]

theorem reach_branches {i j : ι} : Reach f.branches i j ↔ f.Reaches i j := by
  have hsame : (fun x y => y ∈ f.branches x) = f.Links := by
    funext x y
    exact propext mem_branches
  rw [Reach, hsame, Reaches]

theorem Closed.branches (h : f.Closed) : ∀ i ∈ f.ids, ∀ j ∈ f.branches i, j ∈ f.ids :=
  fun i hi j hj => h i hi j (mem_branches.mp hj)

theorem Closed.injOn (h : f.Closed) (haddr : f.DistinctAddrs) {i : ι} (hi : i ∈ f.ids) :
    Set.InjOn f.addrOf {j | Reach f.branches i j} :=
  haddr.mono fun _ hj => Reach.mem h.branches hj hi

/-- The blocks without parents are in the file. -/
theorem mem_ids_of_entry {seg : Segment ι} (hseg : seg ∈ f.segs) :
    ∀ tb ∈ f.getAllEntrysBlock seg, tb ∈ f.ids := fun _ htb =>
  List.mem_flatMap.mpr ⟨seg, hseg, (List.mem_filter.mp htb).1⟩

/-- Both links are followed. -/
theorem goOn_branches {σ : Type} (iter : ι → σ → Res σ) (tb : ι) (s : σ) :
    (goOn iter (f.tb tb).trueBranch s >>= fun s => goOn iter (f.tb tb).falseBranch s) =
      (f.branches tb).foldlM (fun s i => iter i s) s := by
  have hgo : ∀ (next : Option ι) (s : σ), goOn iter next s = next.toList.foldlM (fun s i => iter i s) s := by
    intro next s
    cases next with
    | none => rfl
    | some next =>
      rw [goOn, Option.toList_some, List.foldlM_cons]
      cases iter next s <;> rfl
  rw [branches, List.foldlM_append, ← hgo]
  congr 1
  funext s
  exact hgo _ s

/-! ### The walks -/

/-- **`iter_all` is a depth-first search.** -/
theorem iterAll_of_dfs {seen : Set (BitVec 64)} {nodes out : List ι}
    (h : Dfs f.addrOf f.branches seen nodes out) : ∀ {fuel : ℕ} {record : List (BitVec 64)},
      out.length < fuel → (∀ a, a ∈ record ↔ a ∈ seen) →
        nodes.foldlM (fun record i => f.iterAll fuel i record) record =
          .ok ((out.map f.addrOf).reverse ++ record) := by
  induction h with
  | nil => exact fun _ _ => rfl
  | @skip seen x nodes out hx _ ih =>
    intro fuel record hfuel hrecord
    obtain ⟨fuel, rfl⟩ : ∃ n, fuel = n + 1 := ⟨fuel - 1, by omega⟩
    have hmem : (f.tb x).x86Addr ∈ record := (hrecord _).mpr hx
    have hturn : f.iterAll (fuel + 1) x record = .ok record := by
      rw [iterAll, if_neg (by simpa using hmem)]
    rw [List.foldlM_cons, hturn]
    exact ih hfuel hrecord
  | @visit seen x nodes out out' hx _ _ ih ih' =>
    intro fuel record hfuel hrecord
    obtain ⟨fuel, rfl⟩ : ∃ n, fuel = n + 1 := ⟨fuel - 1, by omega⟩
    rw [List.length_append, List.length_cons] at hfuel
    have hmem : (f.tb x).x86Addr ∉ record := fun hmem => hx ((hrecord _).mp hmem)
    have hturn : f.iterAll (fuel + 1) x record =
        .ok ((out.map f.addrOf).reverse ++ f.addrOf x :: record) := by
      rw [iterAll, if_pos (by simpa using hmem)]
      exact (goOn_branches _ x _).trans (ih (by omega) fun a => by
        rw [List.mem_cons, hrecord, Set.mem_insert_iff]
        rfl)
    rw [List.foldlM_cons, hturn, ok_bind, ih' (by omega) fun a => ?_]
    · simp
    · rw [List.mem_append, List.mem_reverse, List.mem_map, List.mem_cons, hrecord, Set.mem_union,
        keysOf_cons, Set.mem_insert_iff, mem_keysOf, @eq_comm _ a]
      exact or_rotate.trans or_left_comm

/-- **`iter_can_be_tu` is a depth-first search** for the blocks with an only successor. -/
theorem iterCanBeTu_of_dfs {seen : Set (BitVec 64)} {nodes out : List ι}
    (h : Dfs f.addrOf f.branches seen nodes out) : ∀ {fuel : ℕ} {s : CanBeTu},
      out.length < fuel → (∀ a, a ∈ s.parents ∨ a ∈ s.finished ↔ a ∈ seen) →
        ∃ finished, nodes.foldlM (fun s i => f.iterCanBeTu fuel i s) s = .ok ⟨s.parents, finished,
            s.res ++ (out.filter fun i => (f.tb i).onlyOneSuccessor).map f.addrOf⟩ ∧
          ∀ a, a ∈ finished ↔ a ∈ s.finished ∨ a ∈ keysOf f.addrOf out := by
  induction h with
  | nil =>
    intro fuel s _ _
    refine ⟨s.finished, ?_, fun a => by simp⟩
    rw [List.filter_nil, List.map_nil, List.append_nil]
    rfl
  | @skip seen x nodes out hx _ ih =>
    intro fuel s hfuel hseen
    obtain ⟨fuel, rfl⟩ : ∃ n, fuel = n + 1 := ⟨fuel - 1, by omega⟩
    have hmem := (hseen _).mpr hx
    have hturn : f.iterCanBeTu (fuel + 1) x s = .ok s := by
      rw [iterCanBeTu]
      refine if_neg fun hnot => ?_
      rw [Bool.and_eq_true, Bool.not_eq_true', Bool.not_eq_true', List.contains_eq_mem, List.contains_eq_mem,
        decide_eq_false_iff_not, decide_eq_false_iff_not] at hnot
      exact hmem.elim hnot.1 hnot.2
    rw [List.foldlM_cons, hturn]
    exact ih hfuel hseen
  | @visit seen x nodes out out' hx _ _ ih ih' =>
    intro fuel s hfuel hseen
    obtain ⟨fuel, rfl⟩ : ∃ n, fuel = n + 1 := ⟨fuel - 1, by omega⟩
    rw [List.length_append, List.length_cons] at hfuel
    have hmem : f.addrOf x ∉ s.parents ∧ f.addrOf x ∉ s.finished :=
      ⟨fun h => hx ((hseen _).mp (.inl h)), fun h => hx ((hseen _).mp (.inr h))⟩
    -- the block is a parent while its links are followed
    let inner : CanBeTu := if (f.tb x).onlyOneSuccessor then
      { s with parents := f.addrOf x :: s.parents, res := s.res ++ [f.addrOf x] }
      else { s with parents := f.addrOf x :: s.parents }
    have hparents : inner.parents = f.addrOf x :: s.parents := by
      simp only [inner]
      split_ifs <;> rfl
    have hfinished : inner.finished = s.finished := by
      simp only [inner]
      split_ifs <;> rfl
    have hres : inner.res = s.res ++ ([x].filter fun i => (f.tb i).onlyOneSuccessor).map f.addrOf := by
      simp only [inner]
      split_ifs with hone
      · simp [hone]
      · simp [hone]
    have hinside : out.length < fuel := by omega
    have hbehind : out'.length < fuel + 1 := by omega
    obtain ⟨finished, hinner, hin⟩ := ih (s := inner) hinside fun a => by
      rw [hparents, hfinished, List.mem_cons, or_assoc, hseen, Set.mem_insert_iff]
    have hturn : f.iterCanBeTu (fuel + 1) x s = .ok ⟨s.parents, f.addrOf x :: finished,
        s.res ++ ((x :: out).filter fun i => (f.tb i).onlyOneSuccessor).map f.addrOf⟩ := by
      rw [iterCanBeTu]
      refine (if_pos (by simpa [addrOf] using hmem)).trans ?_
      have hboth : (goOn (f.iterCanBeTu fuel) (f.tb x).trueBranch inner >>= fun s =>
          goOn (f.iterCanBeTu fuel) (f.tb x).falseBranch s) = _ := (goOn_branches _ x inner).trans hinner
      have hthen := congrArg (fun r => r >>= fun s : CanBeTu => (.ok { s with
        parents := s.parents.erase (f.addrOf x), finished := f.addrOf x :: s.finished } : Res CanBeTu)) hboth
      rw [bind_assoc] at hthen
      refine hthen.trans ?_
      rw [ok_bind, hparents, List.erase_cons_head, hres, List.append_assoc, ← List.map_append,
        ← List.filter_append]
      rfl
    obtain ⟨finished', hrest, hin'⟩ := ih' (s := ⟨s.parents, f.addrOf x :: finished,
      s.res ++ ((x :: out).filter fun i => (f.tb i).onlyOneSuccessor).map f.addrOf⟩) hbehind fun a => by
      rw [List.mem_cons, hin, hfinished, keysOf_cons, Set.mem_union, Set.mem_insert_iff, ← hseen]
      tauto
    refine ⟨finished', ?_, fun a => ?_⟩
    · rw [List.foldlM_cons, hturn, ok_bind, hrest, List.append_assoc, ← List.map_append,
        ← List.filter_append]
    · rw [hin', List.mem_cons, hin, hfinished, keysOf_append, keysOf_cons, Set.mem_union,
        Set.mem_insert_iff]
      tauto

/-! ### A file under way -/

section Run

variable {image : Image} {file f' : AOTFile ℕ}

/-- What the steps of the driver leave of a file that was loaded: its blocks have their addresses, and
their links stay in the file. -/
structure Linked (file f : AOTFile ι) : Prop where
  same : SameFile file f
  addrOf : ∀ i, f.addrOf i = file.addrOf i
  branch : ∀ i k q, (f.tb i).branch k = some q → q ∈ file.ids

theorem Linked.setTB [DecidableEq ι] {file : AOTFile ι} (h : Linked file f) {i : ι} {tb : TB ι}
    (haddr : tb.x86Addr = (f.tb i).x86Addr) (hbranch : ∀ k q, tb.branch k = some q → q ∈ file.ids) :
    Linked file (f.setTB i tb) where
  same := h.same.trans (sameFile_setTB f i tb)
  addrOf j := by
    by_cases hj : j = i
    · rw [AOTFile.addrOf, hj, tb_setTB_self, haddr]
      exact h.addrOf i
    · rw [AOTFile.addrOf, tb_setTB_of_ne hj]
      exact h.addrOf j
  branch j k q hq := by
    by_cases hj : j = i
    · rw [hj, tb_setTB_self] at hq
      exact hbranch k q hq
    · rw [tb_setTB_of_ne hj] at hq
      exact h.branch j k q hq

/-- A branch is linked to a block of the map. -/
theorem linked_tbLink [DecidableEq ι] {file f f' : AOTFile ι} (hfile : file.Unloaded) {seg : AOTSegment}
    {i : ι} {k : Bool} (h : Linked file f) (hok : f.tbLink seg i k = .ok f') : Linked file f' := by
  rw [tbLink] at hok
  cases htarget : f.target seg (f.tb i).originAotTb k with
  | none =>
    rw [htarget] at hok
    exact Except.ok.inj hok ▸ h
  | some next =>
    rw [htarget] at hok
    obtain ⟨-, rfl⟩ := setNextTB_eq_ok.mp hok
    have hnext : next ∈ file.ids := by
      rw [target, h.same.x86AddrToTb] at htarget
      exact hfile.closed _ next htarget
    have hset : ∀ k' q, ((f.tb i).setBranch k next).branch k' = some q → q ∈ file.ids := by
      intro k' q hq
      have hview : ((f.tb i).setBranch k next).branch = Function.update (f.tb i).branch k (some next) :=
        congrArg View.links (view_setBranch (f.tb i) k next)
      rw [hview] at hq
      by_cases hk : k' = k
      · rw [hk, Function.update_self] at hq
        exact Option.some.inj hq ▸ hnext
      · rw [Function.update_of_ne hk] at hq
        exact h.branch i k' q hq
    have hfirst : Linked file (f.setTB i ((f.tb i).setBranch k next)) :=
      h.setTB (by cases k <;> rfl) hset
    exact hfirst.setTB rfl (hfirst.branch next)

/-- A block that takes over another one is linked as that one was. -/
theorem linked_unifyAt [DecidableEq ι] {file f f' : AOTFile ι} {cur succ : ι} (h : Linked file f)
    (hok : f.unifyAt cur succ = .ok f') : Linked file f' := by
  obtain ⟨res, hres, hok⟩ := bind_eq_ok.mp hok
  cases res with
  | none => exact Except.ok.inj hok ▸ h
  | some tb =>
    have htaken := TB.taken_unify hres
    rw [← Except.ok.inj hok]
    refine h.setTB htaken.sameBlock.x86Addr fun k q hq => ?_
    rw [htaken.branch] at hq
    exact h.branch succ k q hq

/-- **The steps of the driver** keep this. -/
theorem linked_runSteps [DecidableEq ι] {file f : AOTFile ι} (hfile : file.Unloaded) {ops : List (Op ι)}
    (h : file.runSteps ops = .ok f) : Linked file f := by
  refine inv_runSteps (linked_tbLink hfile) (fun i new h => ?_) (fun {f} i h => ?_) linked_unifyAt ?_ h
  · exact h.setTB rfl (h.branch i)
  · have hview := view_startTB (f.tb i)
    refine h.setTB (congrArg View.x86Addr hview) fun k q hq => ?_
    have hbranch : (DisassmbleVistor.startTB (f.tb i)).branch = (f.tb i).branch := congrArg View.links hview
    rw [hbranch] at hq
    exact h.branch i k q hq
  · refine ⟨.refl file, fun _ => rfl, fun i k q hq => ?_⟩
    rw [hfile.links] at hq
    cases hq

theorem Linked.closed {file : AOTFile ι} (h : Linked file f) : f.Closed := by
  rintro p - q ⟨k, hk⟩
  rw [h.same.ids]
  exact h.branch p k q hk

theorem Linked.distinctAddrs {file : AOTFile ι} (h : Linked file f) (haddr : file.DistinctAddrs) :
    f.DistinctAddrs := by
  intro i hi j hj heq
  rw [h.addrOf, h.addrOf] at heq
  exact haddr (h.same.ids ▸ hi) (h.same.ids ▸ hj) heq

/-- A file that is loaded, with no block at an address of more than 32 bits, has no two blocks with the
same address: it would have been rejected. -/
theorem distinctAddrs_load (hload : load image = .ok file)
    (hkeys : ∀ b ∈ image.blocks, b.key.toNat < 2 ^ 32) : file.DistinctAddrs := by
  have hcut : ∀ b ∈ image.blocks, b.addr = b.key := fun b hb =>
    (x86AddrAt_eq b).trans (cut32_eq_self.mpr (hkeys b hb))
  have hnodup : (image.blocks.map (·.key)).Nodup := by
    rw [List.Nodup, List.pairwise_map]
    refine (load_eq_ok hload).1.imp_of_mem fun _ hb' hne => ?_
    rw [← hcut _ hb']
    exact hne
  have hblock : ∀ i ∈ file.ids, (image.blocks.map (·.key))[i]? = some (file.addrOf i) := by
    intro i hi
    rw [ids_load hload, List.mem_range] at hi
    have hb := List.getElem?_eq_getElem hi
    rw [List.getElem?_map, hb, addrOf, tb_load_of_getElem? hload hb]
    exact congrArg some (hcut _ (List.getElem_mem hi)).symm
  intro i hi j hj heq
  have hlt := (List.getElem?_eq_some_iff.mp (hblock i hi)).1
  exact (List.getElem?_inj hlt hnodup).mp ((hblock i hi).trans (heq ▸ (hblock j hj).symm))

end Run

/-! ### What is printed -/

/-- The search from a block of the file. -/
theorem exists_search (hclosed : f.Closed) {tb : ι} (htb : tb ∈ f.ids) :
    ∃ out, Dfs f.addrOf f.branches ∅ [tb] out ∧ out.length < f.ids.length + 1 := by
  have hin : ∀ x ∈ [tb], x ∈ f.ids := fun x hx => List.mem_singleton.mp hx ▸ htb
  obtain ⟨out, h⟩ := exists_dfs f.addrOf hclosed.branches _ ∅ (Nat.lt_succ_self _) hin
  exact ⟨out, h, Nat.lt_succ_iff.mpr (h.length_le hclosed.branches hin)⟩

/-- A listing that does not stop. -/
theorem mapM_ok {P : ι → BitVec 64 × List (BitVec 64) → Prop} {g : ι → Res (BitVec 64 × List (BitVec 64))} :
    ∀ {tbs : List ι}, (∀ tb ∈ tbs, ∃ e, g tb = .ok e ∧ P tb e) →
      ∃ out, tbs.mapM g = .ok out ∧ List.Forall₂ P tbs out
  | [], _ => ⟨[], rfl, .nil⟩
  | tb :: tbs, h => by
    obtain ⟨e, he, hP⟩ := h tb List.mem_cons_self
    obtain ⟨out, hout, hall⟩ := mapM_ok fun i hi => h i (List.mem_cons_of_mem _ hi)
    refine ⟨e :: out, ?_, .cons hP hall⟩
    rw [List.mapM_cons, he, ok_bind, hout]
    rfl

section Listing

variable {image : Image} {file f : AOTFile ℕ}

/-- **`output_tb_culster`**, after any steps of the driver on a file that was loaded, with no block at
an address of more than 32 bits: for each block without parents, the addresses of the blocks that can
be reached from it are printed, in their order and each once. -/
theorem outputTbCulster_ok (hload : load image = .ok file)
    (hkeys : ∀ b ∈ image.blocks, b.key.toNat < 2 ^ 32) {ops : List (Op ℕ)}
    (hrun : file.runSteps ops = .ok f) {seg : Segment ℕ} (hseg : seg ∈ file.segs) :
    ∃ out, f.outputTbCulster seg = .ok out ∧
      List.Forall₂ (fun tb e => e.1 = (f.tb tb).x86Addr ∧ e.2.Pairwise (· < ·) ∧
        ∀ a, a ∈ e.2 ↔ ∃ i, f.Reaches tb i ∧ (f.tb i).x86Addr = a) (f.getAllEntrysBlock seg) out := by
  have hlinked := linked_runSteps (unloaded_load hload) hrun
  have haddr := hlinked.distinctAddrs (distinctAddrs_load hload hkeys)
  refine mapM_ok fun tb htb => ?_
  have hids := mem_ids_of_entry (hlinked.same.segs ▸ hseg) tb htb
  obtain ⟨out, h, hlen⟩ := exists_search hlinked.closed hids
  have hempty : ∀ a : BitVec 64, a ∈ [] ↔ a ∈ (∅ : Set (BitVec 64)) := by simp
  have hwalk := iterAll_of_dfs h hlen hempty
  simp only [List.foldlM_cons, List.foldlM_nil, bind_pure, List.append_nil] at hwalk
  refine ⟨_, bind_eq_ok.mpr ⟨_, hwalk, rfl⟩, rfl, ?_, fun a => ?_⟩
  · have hnodup : ((out.map f.addrOf).reverse.mergeSort (· ≤ ·)).Nodup := by
      rw [(List.mergeSort_perm _ _).nodup_iff, List.nodup_reverse]
      exact h.nodup
    have hsorted : ((out.map f.addrOf).reverse.mergeSort (· ≤ ·)).Pairwise (· ≤ ·) :=
      List.pairwise_mergeSort' _ _
    exact (hsorted.and hnodup).imp fun ⟨hle, hne⟩ => BitVec.lt_of_le_ne hle hne
  · rw [(List.mergeSort_perm _ _).mem_iff, List.mem_reverse, List.mem_map]
    simp only [h.mem_iff (hlinked.closed.injOn haddr hids), reach_branches, addrOf]

theorem outputTbCulster_loop : ∃ file f, load loopImage = .ok file ∧
    file.runSteps (file.segs.flatMap loadSteps) = .ok f ∧ ∀ seg ∈ file.segs,
      ∃ out, f.outputTbCulster seg = .ok out ∧
        List.Forall₂ (fun tb e => e.1 = (f.tb tb).x86Addr ∧ e.2.Pairwise (· < ·) ∧
          ∀ a, a ∈ e.2 ↔ ∃ i, f.Reaches tb i ∧ (f.tb i).x86Addr = a) (f.getAllEntrysBlock seg) out := by
  obtain ⟨f, hrun, -⟩ := exists_ref (@unloaded_load loopImage _ rfl) (by decide)
  exact ⟨_, f, rfl, hrun, fun _ hseg => @outputTbCulster_ok loopImage _ f rfl (by decide) _ hrun _ hseg⟩

/-- **`output_tb_can_be_unify`**, after any steps of the driver on such a file: for each block without
parents, the addresses of the blocks with an only successor that can be reached from it are printed,
each once. -/
theorem outputTbCanBeUnify_ok (hload : load image = .ok file)
    (hkeys : ∀ b ∈ image.blocks, b.key.toNat < 2 ^ 32) {ops : List (Op ℕ)}
    (hrun : file.runSteps ops = .ok f) {seg : Segment ℕ} (hseg : seg ∈ file.segs) :
    ∃ out, f.outputTbCanBeUnify seg = .ok out ∧
      List.Forall₂ (fun tb e => e.1 = (f.tb tb).x86Addr ∧ e.2.Nodup ∧
        ∀ a, a ∈ e.2 ↔ ∃ i, f.Reaches tb i ∧ (f.tb i).onlyOneSuccessor ∧ (f.tb i).x86Addr = a)
        (f.getAllEntrysBlock seg) out := by
  have hlinked := linked_runSteps (unloaded_load hload) hrun
  have haddr := hlinked.distinctAddrs (distinctAddrs_load hload hkeys)
  refine mapM_ok fun tb htb => ?_
  have hids := mem_ids_of_entry (hlinked.same.segs ▸ hseg) tb htb
  obtain ⟨out, h, hlen⟩ := exists_search hlinked.closed hids
  obtain ⟨finished, hwalk, -⟩ := iterCanBeTu_of_dfs h hlen (s := ⟨[], [], []⟩) (by simp)
  simp only [List.foldlM_cons, List.foldlM_nil, bind_pure, List.nil_append] at hwalk
  refine ⟨_, bind_eq_ok.mpr ⟨_, hwalk, rfl⟩, rfl, ?_, fun a => ?_⟩
  · exact h.nodup.sublist (List.filter_sublist.map _)
  · simp only [List.mem_map, List.mem_filter, h.mem_iff (hlinked.closed.injOn haddr hids), reach_branches,
      addrOf, and_assoc]

theorem outputTbCanBeUnify_loop : ∃ file f, load loopImage = .ok file ∧
    file.runSteps (file.segs.flatMap loadSteps) = .ok f ∧ ∀ seg ∈ file.segs,
      ∃ out, f.outputTbCanBeUnify seg = .ok out ∧
        List.Forall₂ (fun tb e => e.1 = (f.tb tb).x86Addr ∧ e.2.Nodup ∧
          ∀ a, a ∈ e.2 ↔ ∃ i, f.Reaches tb i ∧ (f.tb i).onlyOneSuccessor ∧ (f.tb i).x86Addr = a)
          (f.getAllEntrysBlock seg) out := by
  obtain ⟨f, hrun, -⟩ := exists_ref (@unloaded_load loopImage _ rfl) (by decide)
  exact ⟨_, f, rfl, hrun, fun _ hseg => @outputTbCanBeUnify_ok loopImage _ f rfl (by decide) _ hrun _ hseg⟩

end Listing

end AotOpt.AOTFile
