/-!
# Runs of a partial step relation

A state is changed by a sequence of operations, each of which may fail to make a
step. `AllStates step P s os` says that `P` holds in `s` and in every state the run of
`os` from `s` reaches; `AllSteps step C s os` says that every step the run makes meets
`C` in the state before it. An invariant that every step meeting `C` keeps holds in all
states of a run whose steps meet `C` (`AllStates.of_steps`); when a step keeps the
invariant exactly if it meets `C`, the two are equivalent (`allStates_iff_allSteps`).
-/

namespace AotOpt.Lib

universe u v

variable {σ : Type u} {ο : Type v} {step : σ → ο → σ → Prop}

/-- `P` holds in every state the run of the operations reaches. -/
def AllStates (step : σ → ο → σ → Prop) (P : σ → Prop) : σ → List ο → Prop
  | s, [] => P s
  | s, o :: os => P s ∧ ∀ s', step s o s' → AllStates step P s' os

/-- Every step of the run meets `C` in the state before it. -/
def AllSteps (step : σ → ο → σ → Prop) (C : σ → ο → Prop) : σ → List ο → Prop
  | _, [] => True
  | s, o :: os => ∀ s', step s o s' → C s o ∧ AllSteps step C s' os

theorem AllStates.head {P : σ → Prop} {s : σ} : ∀ {os : List ο}, AllStates step P s os → P s
  | [], h => h
  | _ :: _, h => h.1

theorem AllStates.mono {P Q : σ → Prop} (hPQ : ∀ s, P s → Q s) :
    ∀ {s : σ} {os : List ο}, AllStates step P s os → AllStates step Q s os
  | _, [], h => hPQ _ h
  | _, _ :: _, h => ⟨hPQ _ h.1, fun s' hs => (h.2 s' hs).mono hPQ⟩

theorem AllStates.and {P Q : σ → Prop} :
    ∀ {s : σ} {os : List ο}, AllStates step P s os → AllStates step Q s os →
      AllStates step (fun s => P s ∧ Q s) s os
  | _, [], h, h' => ⟨h, h'⟩
  | _, _ :: _, h, h' => ⟨⟨h.1, h'.1⟩, fun s' hs => (h.2 s' hs).and (h'.2 s' hs)⟩

theorem AllSteps.of_forall {C : σ → ο → Prop} (h : ∀ s o, C s o) :
    ∀ {s : σ} {os : List ο}, AllSteps step C s os
  | _, [] => trivial
  | _, _ :: _ => fun _ _ => ⟨h _ _, of_forall h⟩

/-- **Invariant rule**: what every step meeting `C` keeps holds in every state of a run
whose steps meet `C`. -/
theorem AllStates.of_steps {C : σ → ο → Prop} {P : σ → Prop}
    (hstep : ∀ s o s', P s → C s o → step s o s' → P s') :
    ∀ {s : σ} {os : List ο}, P s → AllSteps step C s os → AllStates step P s os
  | _, [], hP, _ => hP
  | _, _ :: _, hP, hC =>
    ⟨hP, fun s' hs => .of_steps hstep (hstep _ _ s' hP (hC s' hs).1 hs) (hC s' hs).2⟩

/-- **Exactness rule**: when, from the states that meet `B`, a step keeps the invariant
exactly if it meets `C`, the invariant holds in every state of a run exactly if every
step meets `C`. -/
theorem allStates_iff_allSteps {B C : σ → ο → Prop} {P : σ → Prop}
    (hstep : ∀ s o s', B s o → P s → step s o s' → (P s' ↔ C s o)) :
    ∀ {s : σ} {os : List ο}, AllSteps step B s os → P s →
      (AllStates step P s os ↔ AllSteps step C s os)
  | _, [], _, hP => ⟨fun _ => trivial, fun _ => hP⟩
  | s, o :: os, hB, hP => by
    constructor
    · rintro ⟨-, h⟩ s' hs
      have hP' : P s' := (h s' hs).head
      exact ⟨(hstep s o s' (hB s' hs).1 hP hs).mp hP',
        (allStates_iff_allSteps hstep (hB s' hs).2 hP').mp (h s' hs)⟩
    · intro h
      refine ⟨hP, fun s' hs => ?_⟩
      have hP' : P s' := (hstep s o s' (hB s' hs).1 hP hs).mpr (h s' hs).1
      exact (allStates_iff_allSteps hstep (hB s' hs).2 hP').mpr (h s' hs).2

/-- **Loop rule**: what every turn of a loop that may stop keeps holds after it. -/
theorem foldlM_inv {ε : Type u} {α : Type v} {σ : Type u} {turn : σ → α → Except ε σ} {P : σ → Prop}
    (hturn : ∀ s a s', P s → turn s a = .ok s' → P s') :
    ∀ {as : List α} {s s' : σ}, P s → as.foldlM turn s = .ok s' → P s'
  | [], s, s', hP, h => by
    rw [List.foldlM_nil] at h
    exact Except.ok.inj h ▸ hP
  | a :: as, s, s', hP, h => by
    rw [List.foldlM_cons] at h
    cases ha : turn s a with
    | error e => rw [ha] at h; cases h
    | ok s₁ => rw [ha] at h; exact foldlM_inv hturn (hturn s a s₁ hP ha) h

/-- A loop that never stops. -/
theorem foldlM_ok {ε : Type u} {α : Type v} {σ : Type u} {turn : σ → α → σ} :
    ∀ (as : List α) (s : σ), as.foldlM (fun s a => (.ok (turn s a) : Except ε σ)) s = .ok (as.foldl turn s)
  | [], _ => rfl
  | a :: as, s => foldlM_ok as (turn s a)

end AotOpt.Lib
