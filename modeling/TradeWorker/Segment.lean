import TradeWorker.Ledger

/-!
# Stretches of a run

A relation between the state before, what was said to the server and the state after, that holds
over nothing and over two stretches when it holds over each, holds over whatever a program does
when it holds over every call. Programs are put together from others; so are such relations.
-/

namespace Prog

variable {Op Op' : Type} {Ans : Op → Type} {Ans' : Op' → Type} {ε α β σ : Type}

/-- A relation over stretches of a run. -/
abbrev Stretch (Op : Type) (Ans : Op → Type) (ε σ : Type) :=
  σ → List ((o : Op) × Except ε (Ans o)) → σ → Prop

/-- It holds over no calls, and over two stretches in a row. -/
structure Stretch.Chained (R : Stretch Op Ans ε σ) : Prop where
  nil : ∀ s, R s [] s
  append : ∀ {s₁ s₂ s₃ d d'}, R s₁ d s₂ → R s₂ d' s₃ → R s₁ (d ++ d') s₃

/-- The relation holds over every run of the program. -/
def Covers (S : Server Op Ans ε σ) (R : Stretch Op Ans ε σ) (p : Prog Op Ans ε α) : Prop :=
  ∀ s, R s (dialogue S p s) (run S p s).2

section Covers

variable {S : Server Op Ans ε σ} {R : Stretch Op Ans ε σ} (hR : R.Chained)

include hR

theorem covers_ret (a : α) : Covers S R (.ret a) := fun s => hR.nil s

theorem Covers.bind {p : Prog Op Ans ε α} {f : α → Prog Op Ans ε β} (hp : Covers S R p)
    (hf : ∀ a, Covers S R (f a)) : Covers S R (p >>= f) := by
  intro s
  have hfirst := hp s
  rcases hrun : run S p s with ⟨e | a, s'⟩
  · rw [dialogue_bind_error hrun, run_bind_error S hrun]
    rwa [hrun] at hfirst
  · rw [dialogue_bind_ok hrun, run_bind_ok S hrun]
    rw [hrun] at hfirst
    exact hR.append hfirst (hf a s')

omit hR in
theorem dialogue_attempt (p : Prog Op Ans ε α) (f : Except ε α → Prog Op Ans ε β) (s : σ) :
    dialogue S (attempt p f) s =
      dialogue S p s ++ dialogue S (f (run S p s).1) (run S p s).2 := by
  induction p generalizing s with
  | ret a => rfl
  | raise e => rfl
  | call o k ih => exact congrArg (_ :: ·) (ih _ _)

theorem Covers.attempt {p : Prog Op Ans ε α} {f : Except ε α → Prog Op Ans ε β}
    (hp : Covers S R p) (hf : ∀ r, Covers S R (f r)) : Covers S R (attempt p f) := by
  intro s
  rw [dialogue_attempt, run_attempt]
  exact hR.append (hp s) (hf _ _)

theorem Covers.tryCatch {p : Prog Op Ans ε α} {h : ε → Prog Op Ans ε α} (hp : Covers S R p)
    (hh : ∀ e, Covers S R (h e)) : Covers S R (tryCatch p h) := by
  have hattempt : Prog.tryCatch p h =
      Prog.attempt p fun r => Prog.tryCatch (Prog.ofExcept r) h := by
    clear hp
    induction p with
    | ret a => rfl
    | raise e => rfl
    | call o k ih => exact congrArg _ (funext ih)
  rw [hattempt]
  refine hp.attempt hR fun r => ?_
  cases r with
  | ok a => exact covers_ret hR a
  | error e => exact hh e

end Covers

/-- The relation holds over the program whose calls are implemented, when it holds over the
implementation of each call that is made. -/
theorem covers_implement {S : Server Op' Ans' ε σ} {R : Stretch Op' Ans' ε σ} (hR : R.Chained)
    {h : (o : Op) → Prog Op' Ans' ε (Ans o)} {p : Prog Op Ans ε α} {s : σ}
    (hh : ∀ o ∈ calls (S.implemented h) p s, Covers S R (h o)) :
    R s (dialogue S (implement h p) s) (run S (implement h p) s).2 := by
  induction p generalizing s with
  | ret a => exact hR.nil s
  | raise e => exact hR.nil s
  | call o k ih =>
      obtain ⟨hfirst, hrest⟩ := List.forall_mem_cons.mp hh
      rw [implement, dialogue_attempt, run_attempt]
      exact hR.append (hfirst s) (ih _ hrest)

end Prog
