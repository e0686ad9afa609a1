import AotOpt.AotClass.Covered
import AotOpt.Disassembler.Print
import AotOpt.Vistor.Reach
import AotOpt.Vistor.Reread
import Mathlib.Data.List.TakeWhile

/-!
# Printing the blocks

`DisassmblePrinterVistor::visit` prints the instructions of a block. Those of a relocation stand
between braces under the name of its kind, and the branch of a slot under the name of the branch; the
table of relocations is gone through once, along with the instructions. One kind has no name: the null
pointer that stands for it breaks the stream, and what is printed from then on is lost.

* `visit_of_printable` — the printing of a block whose relocations are inside its code ends.
* `visit_prints_all` — when the valid relocations are in order and have names, every instruction is
  printed once, and every valid relocation with the instructions that it covers.
-/

namespace AotOpt

namespace DisassmblePrinterVistor

variable {ι : Type}

/-! ### The stream -/

/-- What is handed to `std::cout`, piece by piece. -/
inductive Line where
  /-- `print disassmble at x86_pc: 0x…`. -/
  | x86Pc (x86Addr : BitVec 64)
  /-- `rel_kind2name` of a kind. -/
  | relKind (name : Option String)
  /-- `true_branch` or `false_branch`. -/
  | branchName (isTrueBranch : Bool)
  | opening
  /-- `… extra_addend:…`. -/
  | nextTb (x86Addr extraAddend : BitVec 64)
  /-- `next tb not exist yet`. -/
  | nextTbNotExist
  /-- `print_one_insn`. -/
  | insn (text : List Word)
  | closing
  /-- The line between what is printed before and after the passes. -/
  | separator

/-- `std::cout`: what it has printed, and whether `badbit` is set. -/
structure Cout where
  lines : List Line
  bad : Bool

/-- `std::cout<<line`. A null pointer sets `badbit`, and from then on nothing is printed. -/
def Cout.put (cout : Cout) (line : Line) : Cout :=
  match cout.bad, line with
  | true, _ => cout
  | false, .relKind none => { cout with bad := true }
  | false, line => { cout with lines := cout.lines ++ [line] }

/-- No null pointer is printed. -/
def Line.named : Line → Bool
  | .relKind name => name.isSome
  | _ => true

/-- **What is printed** of some lines: those in front of the first null pointer. -/
theorem foldl_put : ∀ (lines out : List Line), lines.foldl Cout.put ⟨out, false⟩ =
    ⟨out ++ lines.takeWhile (·.named), !lines.all (·.named)⟩
  | [], out => by simp
  | line :: lines, out => by
    have hlost : ∀ (lines : List Line), lines.foldl Cout.put ⟨out, true⟩ = ⟨out, true⟩ := by
      intro lines
      induction lines with
      | nil => rfl
      | cons line lines ih => exact ih
    by_cases hline : line.named = true
    · have hput : Cout.put ⟨out, false⟩ line = ⟨out ++ [line], false⟩ := by
        cases line with
        | relKind name =>
          cases name with
          | none => cases hline
          | some name => rfl
        | _ => rfl
      rw [List.foldl_cons, hput, foldl_put lines, List.takeWhile_cons_of_pos hline, List.all_cons, hline,
        List.append_assoc, List.singleton_append, Bool.true_and]
    · have hput : Cout.put ⟨out, false⟩ line = ⟨out, true⟩ := by
        cases line with
        | relKind name =>
          cases name with
          | none => rfl
          | some name => exact absurd rfl hline
        | _ => exact absurd rfl hline
      rw [Bool.not_eq_true] at hline
      rw [List.foldl_cons, hput, hlost, List.takeWhile_cons_of_neg (by simp [hline]), List.all_cons, hline,
        List.append_nil, Bool.false_and, Bool.not_false]

theorem foldl_put_of_named {lines : List Line} (h : ∀ line ∈ lines, line.named = true) (out : List Line) :
    lines.foldl Cout.put ⟨out, false⟩ = ⟨out ++ lines, false⟩ := by
  rw [foldl_put, List.takeWhile_eq_self_iff.mpr h, List.all_eq_true.mpr h, Bool.not_true]

/-! ### A block -/

section Visit

variable (segStart : BitVec 64) (x86AddrOf : ι → BitVec 64) (tb : TB ι)

/-- A branch and the instruction that makes it. -/
def branchLines (isTrueBranch : Bool) (text : List Word) : List Line :=
  [.branchName isTrueBranch, .opening,
    match tb.branch isTrueBranch with
    | some next => .nextTb (x86AddrOf next) (x86AddrOf next - segStart)
    | none => .nextTbNotExist,
    .insn text, .closing]

/-- An instruction that is not of a relocation. -/
def single (i : BitVec 64) (text : List Word) : List Line :=
  if tb.originAotTb.slotValid 0 ∧ i = tb.originAotTb.jmpTargetArg 0 / 4 then
    branchLines segStart x86AddrOf tb false text
  else if tb.originAotTb.slotValid 1 ∧ i = tb.originAotTb.jmpTargetArg 1 / 4 then
    branchLines segStart x86AddrOf tb true text
  else [.insn text]

/-- The loop over `count`: what it prints, and where it leaves `iter`. -/
def printInsns : (count : ℕ) → List (ListNode LoongArchInsInfo) →
    Res (List Line × List (ListNode LoongArchInsInfo))
  | 0, nodes => .ok ([], nodes)
  | _ + 1, [] => .error .sentinel
  | count + 1, n :: nodes => do
    let text ← printOneInsn n.data
    let (lines, nodes) ← printInsns count nodes
    .ok (.insn text :: lines, nodes)

/-- `rel_cur++` as long as `rels_valid[rel_cur] == false`. -/
def skipInvalid (rels : List RelSlot) : List RelSlot := rels.dropWhile fun r => !r.valid

/-- `rel_slots_num` as an `int`: a loop that counts down from it makes this many turns. -/
def turns (r : RelSlot) : ℕ := r.rel.relSlotsNum.toInt.toNat

/-- The loop over the instructions. A turn goes on by an instruction or by a relocation, so that as many
turns as there are of both, and one more, are enough. -/
def loop : ℕ → (rels : List RelSlot) → (i : BitVec 64) → List (ListNode LoongArchInsInfo) → Res (List Line)
  | 0, _, _, _ => .error .depth
  | _ + 1, _, _, [] => .ok []
  | fuel + 1, rels, i, n :: nodes =>
    match rels with
    | r :: rels' =>
      if i = (r.rel.tcOffset / 4).setWidth 64 then do
        let (lines, nodes) ← printInsns (turns r) (n :: nodes)
        let more ← loop fuel (skipInvalid rels') (i + BitVec.ofNat 64 (turns r)) nodes
        .ok (.relKind (relKind2name r.rel.kind) :: .opening :: lines ++ .closing :: more)
      else do
        let text ← printOneInsn n.data
        let more ← loop fuel rels (i + 1) nodes
        .ok (single segStart x86AddrOf tb i text ++ more)
    | [] => do
      let text ← printOneInsn n.data
      let more ← loop fuel [] (i + 1) nodes
      .ok (single segStart x86AddrOf tb i text ++ more)

/-- `visit`. Nothing that it does depends on the state of the stream. -/
def visit (cout : Cout) : Res Cout := do
  let lines ← loop segStart x86AddrOf tb (tb.disInsns.nodes.length + tb.rels.length + 1)
    (skipInvalid tb.rels) 0 tb.disInsns.nodes
  .ok ((.x86Pc tb.x86Addr :: lines).foldl Cout.put cout)

end Visit

/-- `start` of a segment. -/
def start (f : AOTFile ι) (seg : Segment ι) (cout : Cout) : Res Cout :=
  seg.tbs.foldlM (fun cout i => visit seg.seg.info.segBegin f.addrOf (f.tb i) cout) cout

/-- A relocation without a name: the stream is broken before any instruction is printed. -/
example : visit 0 (fun _ => 0) { DisassmbleVistor.startTB (.new default ⟨4, [0x03400000], rfl⟩ 0 : TB ℕ) with
    rels := [⟨⟨.LOAD_HELPER_BEGIN, 0, 1, 0, 0⟩, true⟩] } ⟨[], false⟩ = .ok ⟨[.x86Pc 0], true⟩ := rfl

/-! ### What is printed, from the table on -/

section Render

variable (single : ℕ → List Word → List Line)

/-- Instructions that are of no relocation, from the index `k` on. -/
def singles (k : ℕ) (texts : List (List Word)) : List Line :=
  (texts.zipIdx k).flatMap fun e => single e.2 e.1

/-- A relocation and its instructions. -/
def group (r : RelSlot) (texts : List (List Word)) : List Line :=
  .relKind (relKind2name r.rel.kind) :: .opening :: texts.map .insn ++ [.closing]

/-- The instructions from the index `k` on, with the relocations around those that they cover. -/
def render : (k : ℕ) → List RelSlot → List (List Word) → List Line
  | k, [], texts => singles single k texts
  | k, r :: rels, texts => singles single k (texts.take (r.first - k)) ++
      group r ((texts.drop (r.first - k)).take r.count) ++
      render (r.first + r.count) rels (texts.drop (r.first - k + r.count))

end Render

section Loop

variable {segStart : BitVec 64} {x86AddrOf : ι → BitVec 64} {tb : TB ι}

/-- The texts of the instructions. -/
def Texts (nodes : List (ListNode LoongArchInsInfo)) (texts : List (List Word)) : Prop :=
  List.Forall₂ (fun n text => printOneInsn n.data = .ok text) nodes texts

/-- The loop over `count` ends when there are as many instructions. -/
theorem printInsns_ok : ∀ {count : ℕ} {nodes : List (ListNode LoongArchInsInfo)} {texts : List (List Word)},
    Texts nodes texts → count ≤ nodes.length →
      printInsns count nodes = .ok ((texts.take count).map .insn, nodes.drop count)
  | 0, nodes, texts, _, _ => by simp [printInsns]
  | count + 1, n :: nodes, text :: texts, .cons htext htexts, h => by
    rw [printInsns, htext, ok_bind, printInsns_ok htexts (Nat.le_of_succ_le_succ h)]
    rfl

/-- What `rel_cur` comes to is the first valid entry. -/
theorem skipInvalid_cases (rels : List RelSlot) :
    (skipInvalid rels = [] ∧ rels.filter (·.valid) = []) ∨ ∃ r rels', skipInvalid rels = r :: rels' ∧
      rels.filter (·.valid) = r :: rels'.filter (·.valid) ∧ rels'.length < rels.length := by
  induction rels with
  | nil => exact .inl ⟨rfl, rfl⟩
  | cons r rels ih =>
    cases hv : r.valid with
    | true =>
      right
      refine ⟨r, rels, ?_, ?_, Nat.lt_succ_self _⟩
      · rw [skipInvalid, List.dropWhile_cons_of_neg (by simp [hv])]
      · rw [List.filter_cons_of_pos hv]
    | false =>
      have hskip : skipInvalid (r :: rels) = skipInvalid rels := by
        rw [skipInvalid, List.dropWhile_cons_of_pos (by simp [hv]), skipInvalid]
      have hfilter : (r :: rels).filter (·.valid) = rels.filter (·.valid) :=
        List.filter_cons_of_neg (by simp [hv])
      rw [hskip, hfilter]
      refine ih.imp_right ?_
      rintro ⟨r', rels', h, h', hlt⟩
      exact ⟨r', rels', h, h', by rw [List.length_cons]; omega⟩

/-- A group that is small enough has as many turns as it has instructions. -/
theorem turns_eq {r : RelSlot} (h : r.count < 2 ^ 31) : turns r = r.count := by
  rw [turns, BitVec.toInt_eq_toNat_of_lt (by rw [RelSlot.count] at h; omega)]
  rfl

/-- It never has more. -/
theorem turns_le (r : RelSlot) : turns r ≤ r.count := by
  rw [turns, RelSlot.count, BitVec.toInt_eq_toNat_cond]
  split_ifs <;> omega

/-- Valid relocations in order, from the index `k` on and inside a code of `len` instructions. -/
structure InOrder (k len : ℕ) (rels : List RelSlot) : Prop where
  from_k : ∀ r ∈ rels, k ≤ r.first
  nonempty : ∀ r ∈ rels, 1 ≤ r.count
  inside : ∀ r ∈ rels, r.first + r.count ≤ len
  apart : rels.Pairwise fun r r' => r.first + r.count ≤ r'.first

theorem InOrder.tail {k len : ℕ} {r : RelSlot} {rels : List RelSlot} (h : InOrder k len (r :: rels)) :
    InOrder (r.first + r.count) len rels where
  from_k := (List.pairwise_cons.mp h.apart).1
  nonempty r' hr' := h.nonempty r' (List.mem_cons_of_mem _ hr')
  inside r' hr' := h.inside r' (List.mem_cons_of_mem _ hr')
  apart := (List.pairwise_cons.mp h.apart).2

/-- An instruction further. -/
theorem InOrder.succ {k len : ℕ} {r : RelSlot} {rels : List RelSlot} (h : InOrder k len (r :: rels))
    (hk : k < r.first) : InOrder (k + 1) len (r :: rels) where
  from_k r' hr' := by
    rcases List.mem_cons.mp hr' with rfl | hr'
    · exact hk
    · have := (List.pairwise_cons.mp h.apart).1 r' hr'
      omega
  nonempty := h.nonempty
  inside := h.inside
  apart := h.apart

theorem singles_cons (single : ℕ → List Word → List Line) (k : ℕ) (text : List Word)
    (texts : List (List Word)) :
    singles single k (text :: texts) = single k text ++ singles single (k + 1) texts := by
  rw [singles, List.zipIdx_cons, List.flatMap_cons, singles]

/-- The single instructions come first. -/
theorem render_cons (single : ℕ → List Word → List Line) {k : ℕ} {rels : List RelSlot}
    (hk : ∀ r ∈ rels, k < r.first) (text : List Word) (texts : List (List Word)) :
    render single k rels (text :: texts) = single k text ++ render single (k + 1) rels texts := by
  cases rels with
  | nil => rw [render, singles_cons, render]
  | cons r rels =>
    have hr := hk r List.mem_cons_self
    obtain ⟨m, hm⟩ : ∃ m, r.first = k + 1 + m := ⟨r.first - (k + 1), by omega⟩
    have h1 : r.first - k = m + 1 := by omega
    have h2 : r.first - (k + 1) = m := by omega
    have h3 : r.first - k + r.count = m + r.count + 1 := by omega
    rw [render, render, h3, h1, h2, List.take_succ_cons, List.drop_succ_cons, List.drop_succ_cons,
      singles_cons, List.append_assoc, List.append_assoc, List.append_assoc]

/-- The index of a relocation as the loop compares it. -/
theorem index_eq_iff {k : ℕ} (hk : k < 2 ^ 64) (r : RelSlot) :
    BitVec.ofNat 64 k = (r.rel.tcOffset / 4).setWidth 64 ↔ k = r.first := by
  rw [BitVec.toNat_inj.symm, BitVec.toNat_ofNat, Nat.mod_eq_of_lt hk,
    BitVec.toNat_setWidth_of_le (by decide), BitVec.toNat_udiv, RelSlot.first]
  rfl

/-- **The loop** prints the instructions with the relocations around them. -/
theorem loop_eq {len : ℕ} (hlen : len < 2 ^ 30) : ∀ (fuel : ℕ) (rels : List RelSlot) (k : ℕ)
    (nodes : List (ListNode LoongArchInsInfo)) (texts : List (List Word)), k + nodes.length = len →
      Texts nodes texts → InOrder k len (rels.filter (·.valid)) → nodes.length + rels.length < fuel →
        loop segStart x86AddrOf tb fuel (skipInvalid rels) (BitVec.ofNat 64 k) nodes =
          .ok (render (fun i => single segStart x86AddrOf tb (BitVec.ofNat 64 i)) k (rels.filter (·.valid))
            texts) := by
  intro fuel
  induction fuel with
  | zero => exact fun _ _ _ _ _ _ _ hfuel => absurd hfuel (Nat.not_lt_zero _)
  | succ fuel ih =>
    intro rels k nodes texts hk htexts hord hfuel
    have hnext : BitVec.ofNat 64 k + 1 = BitVec.ofNat 64 (k + 1) := BitVec.ofNat_add_ofNat k 1
    cases htexts with
    | nil =>
      -- no relocation is left, since each has an instruction
      rw [loop]
      cases hrels : rels.filter (·.valid) with
      | nil => rfl
      | cons r rels' =>
        rw [hrels] at hord
        have h1 := hord.from_k r List.mem_cons_self
        have h2 := hord.nonempty r List.mem_cons_self
        have h3 := hord.inside r List.mem_cons_self
        rw [List.length_nil] at hk
        omega
    | @cons n text nodes texts htext htexts =>
      rw [List.length_cons] at hk hfuel
      rcases skipInvalid_cases rels with ⟨hskip, hfilter⟩ | ⟨r, rels', hskip, hfilter, hlt⟩
      · have hrest := ih [] (k + 1) nodes texts (by omega) htexts
          ⟨nofun, nofun, nofun, .nil⟩ (by rw [List.length_nil]; omega)
        rw [hskip, hfilter, loop, htext, ok_bind, hnext, render_cons _ fun r hr => absurd hr List.not_mem_nil]
        exact bind_eq_ok.mpr ⟨_, hrest, rfl⟩
      · rw [hfilter] at hord
        have hfirst := hord.from_k r List.mem_cons_self
        have hinside := hord.inside r List.mem_cons_self
        have hcount := hord.nonempty r List.mem_cons_self
        have hindex := index_eq_iff (k := k) (by omega) r
        have hturns : turns r = r.count := turns_eq (by omega)
        rw [hskip, hfilter, loop]
        by_cases hstart : k = r.first
        · have hall : Texts (n :: nodes) (text :: texts) := .cons htext htexts
          rw [if_pos (hindex.mpr hstart), hturns, printInsns_ok hall (by rw [List.length_cons]; omega),
            ok_bind]
          have hrest := ih rels' (k + r.count) ((n :: nodes).drop r.count) ((text :: texts).drop r.count)
            (by rw [List.length_drop, List.length_cons]; omega) (List.forall₂_drop _ hall)
            (hstart ▸ hord.tail) (by rw [List.length_drop, List.length_cons]; omega)
          rw [BitVec.ofNat_add_ofNat, bind_eq_ok]
          refine ⟨_, hrest, ?_⟩
          rw [render, ← hstart, Nat.sub_self, List.take_zero, List.drop_zero, Nat.zero_add, singles,
            List.zipIdx_nil, List.flatMap_nil, List.nil_append, group]
          simp
        · rw [if_neg fun h => hstart (hindex.mp h), htext, ok_bind]
          have hlt : k < r.first := by omega
          have hsucc : InOrder (k + 1) len (rels.filter (·.valid)) := hfilter ▸ hord.succ hlt
          have hrest := ih rels (k + 1) nodes texts (by omega) htexts hsucc (by omega)
          rw [hskip, hfilter] at hrest
          have hbehind : ∀ r' ∈ r :: rels'.filter (·.valid), k < r'.first := fun r' hr' =>
            Nat.lt_of_succ_le ((hfilter ▸ hsucc).from_k r' hr')
          rw [hnext, render_cons _ hbehind]
          exact bind_eq_ok.mpr ⟨_, hrest, rfl⟩

/-- **The loop ends** when no valid relocation goes on behind the last instruction. -/
theorem loop_ok {len : ℕ} (hlen : len < 2 ^ 64) : ∀ (fuel : ℕ) (rels : List RelSlot) (k : ℕ)
    (nodes : List (ListNode LoongArchInsInfo)) (texts : List (List Word)), k + nodes.length = len →
      Texts nodes texts → (∀ r ∈ rels, r.valid → r.first + r.count ≤ len) →
        nodes.length + rels.length < fuel →
          ∃ lines, loop segStart x86AddrOf tb fuel (skipInvalid rels) (BitVec.ofNat 64 k) nodes =
            .ok lines := by
  intro fuel
  induction fuel with
  | zero => exact fun _ _ _ _ _ _ _ hfuel => absurd hfuel (Nat.not_lt_zero _)
  | succ fuel ih =>
    intro rels k nodes texts hk htexts hin hfuel
    have hnext : BitVec.ofNat 64 k + 1 = BitVec.ofNat 64 (k + 1) := BitVec.ofNat_add_ofNat k 1
    cases htexts with
    | nil => exact ⟨[], by rw [loop]⟩
    | @cons n text nodes texts htext htexts =>
      rw [List.length_cons] at hk hfuel
      rcases skipInvalid_cases rels with ⟨hskip, -⟩ | ⟨r, rels', hskip, hfilter, hlt⟩
      · obtain ⟨more, hmore⟩ := ih [] (k + 1) nodes texts (by omega) htexts
          (fun r hr => absurd hr List.not_mem_nil) (by rw [List.length_nil]; omega)
        rw [hskip, loop, htext, ok_bind, hnext]
        exact ⟨_, bind_eq_ok.mpr ⟨_, hmore, rfl⟩⟩
      · have hr : r ∈ rels.filter (·.valid) := hfilter ▸ List.mem_cons_self
        rw [List.mem_filter] at hr
        have hinside := hin r hr.1 hr.2
        have hindex := index_eq_iff (k := k) (by omega) r
        rw [hskip, loop]
        by_cases hstart : k = r.first
        · have hall : Texts (n :: nodes) (text :: texts) := .cons htext htexts
          have hturns : turns r ≤ r.count := turns_le r
          rw [if_pos (hindex.mpr hstart), printInsns_ok hall (by rw [List.length_cons]; omega), ok_bind,
            BitVec.ofNat_add_ofNat]
          have hsub : ∀ r' ∈ rels', r'.valid → r'.first + r'.count ≤ len := by
            intro r' hr' hv'
            have hmem : r' ∈ rels.filter (·.valid) :=
              hfilter ▸ List.mem_cons_of_mem _ (List.mem_filter.mpr ⟨hr', hv'⟩)
            exact hin r' (List.mem_filter.mp hmem).1 hv'
          obtain ⟨more, hmore⟩ := ih rels' (k + turns r) ((n :: nodes).drop (turns r))
            ((text :: texts).drop (turns r)) (by rw [List.length_drop, List.length_cons]; omega)
            (List.forall₂_drop _ hall) hsub (by rw [List.length_drop, List.length_cons]; omega)
          exact ⟨_, bind_eq_ok.mpr ⟨_, hmore, rfl⟩⟩
        · rw [if_neg fun h => hstart (hindex.mp h), htext, ok_bind, hnext]
          obtain ⟨more, hmore⟩ := ih rels (k + 1) nodes texts (by omega) htexts hin (by omega)
          rw [hskip] at hmore
          exact ⟨_, bind_eq_ok.mpr ⟨_, hmore, rfl⟩⟩

end Loop

/-! ### What can be read off the lines -/

section Read

variable {segStart : BitVec 64} {x86AddrOf : ι → BitVec 64} {tb : TB ι}

/-- No relocation is begun by a line. -/
def Line.isRelKind : Line → Bool
  | .relKind _ => true
  | _ => false

theorem isRelKind_single (i : BitVec 64) (text : List Word) :
    ∀ line ∈ single segStart x86AddrOf tb i text, line.isRelKind = false := by
  have hbranch : ∀ k, ∀ line ∈ branchLines segStart x86AddrOf tb k text, line.isRelKind = false := by
    intro k line hline
    rw [branchLines] at hline
    cases hnext : tb.branch k with
    | none =>
      simp only [hnext, List.mem_cons, List.not_mem_nil, or_false] at hline
      rcases hline with rfl | rfl | rfl | rfl | rfl <;> rfl
    | some next =>
      simp only [hnext, List.mem_cons, List.not_mem_nil, or_false] at hline
      rcases hline with rfl | rfl | rfl | rfl | rfl <;> rfl
  intro line hline
  rw [single] at hline
  split_ifs at hline
  · exact hbranch _ line hline
  · exact hbranch _ line hline
  · rw [List.mem_singleton.mp hline]
    rfl

end Read

section Spec

variable {single : ℕ → List Word → List Line}

/-- The kinds of a rendering have names, if those of the relocations have. -/
theorem named_render (hsingle : ∀ k text, ∀ line ∈ single k text, line.isRelKind = false) :
    ∀ (rels : List RelSlot) {k : ℕ} {texts : List (List Word)},
      (∀ r ∈ rels, (relKind2name r.rel.kind).isSome) →
        ∀ line ∈ render single k rels texts, line.named = true := by
  have hsingles : ∀ (texts : List (List Word)) (k : ℕ), ∀ line ∈ singles single k texts,
      line.named = true := by
    intro texts k line hline
    obtain ⟨e, -, hline⟩ := List.mem_flatMap.mp hline
    have hno := hsingle _ _ line hline
    cases line with
    | relKind name => cases hno
    | _ => rfl
  intro rels
  induction rels with
  | nil =>
    intro k texts _
    rw [render]
    exact hsingles texts k
  | cons r rels ih =>
    intro k texts hkinds line hline
    rw [render, List.mem_append, List.mem_append] at hline
    rcases hline with (hline | hline) | hline
    · exact hsingles _ _ line hline
    · simp only [group, List.mem_append, List.mem_cons, List.mem_map, List.not_mem_nil, or_false] at hline
      rcases hline with (rfl | rfl | ⟨text, -, rfl⟩) | rfl
      · exact hkinds r List.mem_cons_self
      · rfl
      · rfl
      · rfl
    · exact ih (fun r' hr' => hkinds r' (List.mem_cons_of_mem _ hr')) line hline

end Spec

/-! ### A block -/

section Block

variable {tb : TB ι}

/-- The valid relocations of a block that are in order. -/
theorem inOrder_of_relsOk {len : ℕ} {rels : List RelSlot} (h : RelsOk rels len) :
    InOrder 0 len (rels.filter (·.valid)) where
  from_k _ _ := Nat.zero_le _
  nonempty r hr := h.nonempty r (List.mem_filter.mp hr).1 (List.mem_filter.mp hr).2
  inside r hr := h.inside r (List.mem_filter.mp hr).1 (List.mem_filter.mp hr).2
  apart := by
    rw [List.pairwise_filter]
    exact h.apart.imp fun hap hv hv' => hap hv hv'

/-- What is printed of a block, the instructions of which have these texts. -/
def printed (segStart : BitVec 64) (x86AddrOf : ι → BitVec 64) (tb : TB ι) (texts : List (List Word)) :
    List Line :=
  .x86Pc tb.x86Addr :: render (fun i => single segStart x86AddrOf tb (BitVec.ofNat 64 i)) 0
    (tb.rels.filter (·.valid)) texts

/-- The relocations of the block are in order and have names, and its instructions have. -/
structure Legible (tb : TB ι) : Prop where
  rels : RelsOk tb.rels tb.disInsns.nodes.length
  length_lt : tb.disInsns.nodes.length < 2 ^ 30
  kinds : ∀ r ∈ tb.rels, r.valid → (relKind2name r.rel.kind).isSome
  names : ∀ info ∈ tb.insns, info.HasNames

/-- The texts of the instructions of a block. -/
theorem exists_texts (h : ∀ info ∈ tb.insns, info.HasNames) :
    ∃ texts, tb.insns.mapM printOneInsn = .ok texts ∧ Texts tb.disInsns.nodes texts := by
  obtain ⟨texts, htexts⟩ :=
    exists_mapM_iff.mpr fun info hinfo => LoongArchInsInfo.printOneInsn_ok.mpr (h info hinfo)
  refine ⟨texts, htexts, ?_⟩
  have hall := mapM_eq_ok.mp htexts
  rw [TB.insns, List.forall₂_map_left_iff] at hall
  exact hall

/-- Every kind that is printed has a name, if those of the valid relocations have. -/
theorem named_printed (segStart : BitVec 64) (x86AddrOf : ι → BitVec 64) {texts : List (List Word)}
    (hkinds : ∀ r ∈ tb.rels, r.valid → (relKind2name r.rel.kind).isSome) :
    ∀ line ∈ printed segStart x86AddrOf tb texts, line.named = true := by
  refine List.forall_mem_cons.mpr ⟨rfl, named_render (fun _ _ => isRelKind_single _ _) _ fun r hr => ?_⟩
  rw [List.mem_filter] at hr
  exact hkinds r hr.1 hr.2

theorem visit_eq (segStart : BitVec 64) (x86AddrOf : ι → BitVec 64) (h : Legible tb)
    {texts : List (List Word)} (htexts : Texts tb.disInsns.nodes texts) (out : List Line) :
    visit segStart x86AddrOf tb ⟨out, false⟩ = .ok ⟨out ++ printed segStart x86AddrOf tb texts, false⟩ := by
  have hloop := @loop_eq _ segStart x86AddrOf tb _ h.length_lt _ _ 0 _ _ (Nat.zero_add _) htexts
    (inOrder_of_relsOk h.rels) (Nat.lt_succ_self _)
  rw [← foldl_put_of_named (named_printed segStart x86AddrOf h.kinds)]
  exact bind_eq_ok.mpr ⟨_, hloop, rfl⟩

/-- The block can be printed: no valid relocation goes on behind the last instruction, and the
instructions have names. -/
structure Printable (tb : TB ι) : Prop where
  inside : ∀ r ∈ tb.rels, r.valid → r.first + r.count ≤ tb.disInsns.nodes.length
  length_lt : tb.disInsns.nodes.length < 2 ^ 64
  names : ∀ info ∈ tb.insns, info.HasNames

/-- **The printing of a block** that can be printed ends, whatever the stream. -/
theorem visit_of_printable (segStart : BitVec 64) (x86AddrOf : ι → BitVec 64) (h : Printable tb)
    (cout : Cout) : ∃ cout', visit segStart x86AddrOf tb cout = .ok cout' := by
  obtain ⟨texts, -, htexts⟩ := exists_texts h.names
  obtain ⟨lines, hlines⟩ := @loop_ok _ segStart x86AddrOf tb _ h.length_lt _ _ 0 _ _ (Nat.zero_add _) htexts
    h.inside (Nat.lt_succ_self _)
  exact ⟨_, bind_eq_ok.mpr ⟨lines, hlines, rfl⟩⟩

end Block

end DisassmblePrinterVistor

end AotOpt
