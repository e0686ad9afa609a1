import AotOpt.Vistor.DisassemblePrint

/-!
# Printing what can be reached

From an entry on, `DisassmblePrinterVistor::start` prints the blocks that can be reached, level by level.

* `printLevels_of_bfs` — the levels are a breadth-first search.
* `startEntry_prints_reachable` — every block that can be reached is printed once, none before a nearer
  one.
-/

namespace AotOpt.AOTFile

open DisassmblePrinterVistor Lib.Search

variable {ι : Type} (f : AOTFile ι) (segStart : BitVec 64)

/-- `queue`, `cur_head` and `seen` of `DisassmblePrinterVistor::start`, and the stream. -/
structure PrintWalk (ι : Type) where
  queue : List ι
  curHead : ℕ
  seen : List (BitVec 64)
  cout : Cout

/-- `queue.push_back` of a block that is not seen yet. -/
def pushBack (w : PrintWalk ι) (next : ι) : PrintWalk ι :=
  if !w.seen.contains (f.addrOf next) then
    { w with queue := w.queue ++ [next], seen := f.addrOf next :: w.seen }
  else w

/-- A turn of the loop over `count`. -/
def printHead (w : PrintWalk ι) : Res (PrintWalk ι) :=
  match w.queue[w.curHead]? with
  | some head => do
    let cout ← visit segStart f.addrOf (f.tb head) w.cout
    let w := (f.tb head).trueBranch.elim w (f.pushBack w)
    let w := (f.tb head).falseBranch.elim w (f.pushBack w)
    .ok { w with curHead := w.curHead + 1, cout := cout }
  | none => .error .outOfBounds

/-- The loop over `count`. -/
def printHeads : (count : ℕ) → PrintWalk ι → Res (PrintWalk ι)
  | 0, w => .ok w
  | count + 1, w => do
    let w ← f.printHead segStart w
    printHeads count w

/-- The loop over the levels. Each prints a block, so that as many turns as there are blocks, and one
more, are enough. -/
def printLevels : ℕ → PrintWalk ι → Res (PrintWalk ι)
  | 0, _ => .error .depth
  | fuel + 1, w =>
    if w.curHead < w.queue.length then do
      let w ← f.printHeads segStart (w.queue.length - w.curHead) w
      printLevels fuel w
    else .ok w

/-- `DisassmblePrinterVistor::start` from an entry on. If there is no block at the entry, a null pointer
is used. -/
def startEntry (entry : BitVec 64) (cout : Cout) : Res Cout :=
  match f.x86AddrToTb entry with
  | some cur => do
    let w ← f.printLevels segStart (f.ids.length + 1) ⟨[cur], 0, [f.addrOf cur], cout⟩
    .ok w.cout
  | none => .error .sentinel

section Start

variable {f} {segStart} {w : PrintWalk ι}

/-- Blocks that are pushed are queued when they are fresh. -/
theorem foldl_pushBack : ∀ (nodes : List ι) (w : PrintWalk ι), nodes.foldl f.pushBack w =
    { w with
      queue := w.queue ++ fresh f.addrOf w.seen nodes
      seen := ((fresh f.addrOf w.seen nodes).map f.addrOf).reverse ++ w.seen }
  | [], w => by
    rw [List.foldl_nil, fresh, List.append_nil]
    rfl
  | x :: nodes, w => by
    rw [List.foldl_cons, foldl_pushBack nodes, pushBack, fresh]
    by_cases hx : f.addrOf x ∈ w.seen
    · simp [hx]
    · simp [hx]

/-- Both branches are pushed. -/
theorem pushBack_branches (head : ι) (w : PrintWalk ι) :
    (f.tb head).falseBranch.elim ((f.tb head).trueBranch.elim w (f.pushBack w))
      (f.pushBack ((f.tb head).trueBranch.elim w (f.pushBack w))) = (f.branches head).foldl f.pushBack w := by
  rw [branches]
  cases (f.tb head).trueBranch <;> cases (f.tb head).falseBranch <;> rfl

/-- The block is printed on a good stream, which stays good. -/
def PrintsAs (f : AOTFile ι) (segStart : BitVec 64) (i : ι) (lines : List Line) : Prop :=
  ∀ out, visit segStart f.addrOf (f.tb i) ⟨out, false⟩ = .ok ⟨out ++ lines, false⟩

/-- The walk behind some blocks. -/
def PrintWalk.behind (f : AOTFile ι) (printed : ι → List Line) (w : PrintWalk ι) (level : List ι) :
    PrintWalk ι where
  queue := w.queue ++ fresh f.addrOf w.seen (level.flatMap f.branches)
  curHead := w.curHead + level.length
  seen := ((fresh f.addrOf w.seen (level.flatMap f.branches)).map f.addrOf).reverse ++ w.seen
  cout := ⟨w.cout.lines ++ level.flatMap printed, false⟩

/-- **A level** is printed, and the fresh successors are queued. -/
theorem printHeads_ok {printed : ι → List Line} : ∀ {level more : List ι} {w : PrintWalk ι},
    w.queue.drop w.curHead = level ++ more → w.cout.bad = false →
    (∀ i ∈ level, f.PrintsAs segStart i (printed i)) →
      f.printHeads segStart level.length w = .ok (w.behind f printed level)
  | [], _, w, _, hgood, _ => by
    rw [PrintWalk.behind, List.flatMap_nil, fresh, ← hgood]
    simp [printHeads]
  | head :: level, more, w, hqueue, hgood, hvisit => by
    have hhead : w.queue[w.curHead]? = some head := by
      have h := congrArg (·[0]?) hqueue
      simpa using h
    have hlt := (List.getElem?_eq_some_iff.mp hhead).1
    have hturn : f.printHead segStart w = .ok (w.behind f printed [head]) := by
      have hok : visit segStart f.addrOf (f.tb head) w.cout = .ok ⟨w.cout.lines ++ printed head, false⟩ := by
        rw [← hvisit head List.mem_cons_self, ← hgood]
      rw [printHead, hhead]
      refine bind_eq_ok.mpr ⟨_, hok, ?_⟩
      dsimp only
      rw [pushBack_branches, foldl_pushBack, PrintWalk.behind, List.flatMap_singleton, List.flatMap_singleton]
      rfl
    have hrest : (w.behind f printed [head]).queue.drop (w.behind f printed [head]).curHead =
        level ++ (more ++ fresh f.addrOf w.seen (f.branches head)) := by
      rw [PrintWalk.behind, List.flatMap_singleton]
      show (w.queue ++ _).drop (w.curHead + 1) = _
      rw [List.drop_append_of_le_length (by omega), ← List.drop_drop, hqueue, List.cons_append,
        List.drop_succ_cons, List.drop_zero, List.append_assoc]
    rw [List.length_cons, printHeads, hturn, ok_bind,
      printHeads_ok hrest rfl fun i hi => hvisit i (List.mem_cons_of_mem _ hi)]
    simp only [PrintWalk.behind, List.flatMap_cons, List.flatMap_nil, List.append_nil, fresh_append,
      List.map_append, List.reverse_append, List.append_assoc, List.length_cons, List.length_nil,
      Nat.add_assoc, Nat.zero_add, Nat.add_comm 1 level.length]

/-- **The levels** are a breadth-first search. -/
theorem printLevels_of_bfs {printed : ι → List Line} {seen : List (BitVec 64)} {level out : List ι}
    (h : Bfs f.addrOf f.branches seen level out) : ∀ {fuel : ℕ} {w : PrintWalk ι}, out.length < fuel →
      w.seen = seen → w.queue.drop w.curHead = level → w.cout.bad = false →
      (∀ i ∈ out, f.PrintsAs segStart i (printed i)) →
        ∃ w', f.printLevels segStart fuel w = .ok w' ∧
          w'.cout = ⟨w.cout.lines ++ out.flatMap printed, false⟩ := by
  induction h with
  | nil =>
    intro fuel w hfuel _ hqueue hgood _
    obtain ⟨fuel, rfl⟩ : ∃ n, fuel = n + 1 := ⟨fuel - 1, by omega⟩
    have hle := List.drop_eq_nil_iff.mp hqueue
    refine ⟨w, ?_, by rw [← hgood]; simp⟩
    rw [printLevels, if_neg (by omega)]
  | @level seen level out hne _ ih =>
    intro fuel w hfuel hseen hqueue hgood hvisit
    obtain ⟨fuel, rfl⟩ : ∃ n, fuel = n + 1 := ⟨fuel - 1, by omega⟩
    have hcount : w.queue.length - w.curHead = level.length := by
      rw [← hqueue, List.length_drop]
    have hpos := List.length_pos_of_ne_nil hne
    rw [List.length_append] at hfuel
    have hlevel : w.queue.drop w.curHead = level ++ [] := by rw [List.append_nil, hqueue]
    have hturns := printHeads_ok hlevel hgood fun i hi => hvisit i (List.mem_append_left _ hi)
    have hfewer : out.length < fuel := by omega
    rw [← hseen] at ih
    have hnext : (w.behind f printed level).queue.drop (w.behind f printed level).curHead =
        fresh f.addrOf w.seen (level.flatMap f.branches) := by
      show (w.queue ++ _).drop (w.curHead + level.length) = _
      rw [show w.curHead + level.length = w.queue.length by omega, List.drop_left]
    obtain ⟨w', hok, hout⟩ := ih (w := w.behind f printed level) hfewer rfl hnext rfl
      fun i hi => hvisit i (List.mem_append_right _ hi)
    refine ⟨w', ?_, ?_⟩
    · rw [printLevels, if_pos (by omega), hcount, hturns]
      exact hok
    · rw [hout, List.flatMap_append, ← List.append_assoc]
      rfl

end Start

/-- **Printing from an entry on**, after any steps of the driver on a file that was loaded, with no
block at an address of more than 32 bits: when the relocations of the blocks that can be reached are in
order and have names, and their instructions have, the printing ends and leaves a good stream good, and
every such block is printed once, none of them before a nearer one. -/
theorem startEntry_prints_reachable {image : Image} {file f : AOTFile ℕ} (hload : load image = .ok file)
    (hkeys : ∀ b ∈ image.blocks, b.key.toNat < 2 ^ 32) {ops : List (Op ℕ)}
    (hrun : file.runSteps ops = .ok f) {entry : BitVec 64} {cur : ℕ} (hcur : f.x86AddrToTb entry = some cur)
    (hlegible : ∀ i, f.Reaches cur i → Legible (f.tb i)) (segStart : BitVec 64) (out : List Line) :
    ∃ order blocks, f.startEntry segStart entry ⟨out, false⟩ = .ok ⟨out ++ blocks.flatten, false⟩ ∧
      List.Forall₂ (f.PrintsAs segStart) order blocks ∧ order.Nodup ∧
      (∀ i, i ∈ order ↔ f.Reaches cur i) ∧
      order.Pairwise fun i j => ∀ n, Within f.branches cur n j → Within f.branches cur n i := by
  have hfile := unloaded_load hload
  have hlinked := linked_runSteps hfile hrun
  have hids : cur ∈ f.ids := by
    rw [hlinked.same.x86AddrToTb] at hcur
    exact hlinked.same.ids ▸ hfile.closed entry cur hcur
  have hinj := hlinked.closed.injOn (hlinked.distinctAddrs (distinctAddrs_load hload hkeys)) hids
  obtain ⟨order, h⟩ := exists_bfs f.addrOf hlinked.closed.branches _ [f.addrOf cur] (Nat.lt_succ_self _)
    fun x (hx : x ∈ [cur]) => List.mem_singleton.mp hx ▸ hids
  have hmem : ∀ i, i ∈ order ↔ f.Reaches cur i := fun i => (h.mem_iff hinj).trans reach_branches
  have hlen : order.length ≤ f.ids.length := by
    refine (List.subperm_of_subset (h.nodup hinj) fun i hi => ?_).length_le
    exact ((h.mem_iff hinj).mp hi).mem hlinked.closed.branches hids
  have hprints : ∀ i ∈ order, ∃ lines, f.PrintsAs segStart i lines := by
    intro i hi
    have hblock := hlegible i ((hmem i).mp hi)
    obtain ⟨texts, -, htexts⟩ := exists_texts hblock.names
    exact ⟨_, visit_eq segStart f.addrOf hblock htexts⟩
  choose! printed hprinted using hprints
  obtain ⟨w, hw, hout⟩ := printLevels_of_bfs h
    (w := ⟨[cur], 0, [f.addrOf cur], ⟨out, false⟩⟩) (Nat.lt_succ_iff.mpr hlen) rfl rfl rfl hprinted
  refine ⟨order, order.map printed, ?_, ?_, h.nodup hinj, hmem, h.sorted hinj⟩
  · rw [startEntry, hcur]
    refine bind_eq_ok.mpr ⟨w, hw, ?_⟩
    rw [hout, List.flatMap_def]
  · rw [List.forall₂_map_right_iff, List.forall₂_same]
    exact hprinted

/-- From the block that goes to a block that goes to itself. -/
theorem startEntry_loop : ∃ file f, load loopImage = .ok file ∧
    file.runSteps (file.segs.flatMap fun seg => [.settleAllTb seg, .disassemble seg]) = .ok f ∧
    ∃ order blocks, f.startEntry 0 0 ⟨[], false⟩ = .ok ⟨[] ++ blocks.flatten, false⟩ ∧
      List.Forall₂ (f.PrintsAs 0) order blocks ∧ order.Nodup ∧ (∀ i, i ∈ order ↔ f.Reaches 0 i) ∧
      order.Pairwise fun i j => ∀ n, Within f.branches 0 n j → Within f.branches 0 n i := by
  let seg : Segment ℕ := ⟨default, [], [0, 1]⟩
  refine ⟨_, _, rfl, rfl, ?_⟩
  refine @startEntry_prints_reachable loopImage _ _ rfl (by decide) [.settleAllTb seg, .disassemble seg] rfl
    0 0 rfl ?_ 0 []
  intro i hi
  -- the first block goes to the second, and that to itself
  have hi01 : i = 0 ∨ i = 1 := by
    induction hi with
    | refl => exact .inl rfl
    | tail _ hlink ih =>
      obtain ⟨k, hk⟩ := hlink
      rcases ih with rfl | rfl <;> cases k
      · exact .inr (Option.some.inj hk).symm
      · cases hk
      · exact .inr (Option.some.inj hk).symm
      · cases hk
  have hempty : ∀ len, RelsOk [] len := fun _ => ⟨nofun, nofun, nofun, .nil⟩
  rcases hi01 with rfl | rfl
  · exact ⟨hempty _, by decide, by decide, by decide⟩
  · exact ⟨hempty _, by decide, by decide, by decide⟩

end AotOpt.AOTFile
