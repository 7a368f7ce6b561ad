import TradeWorker.Embed

/-!
# Calls that are programs

What one layer calls, the layer below implements by calls of its own. A program with its
calls so replaced runs as before, against the server the implementations make; and its
calls are those of the implementations, one after the other.
-/

namespace Prog

variable {Op Op' : Type} {Ans : Op → Type} {Ans' : Op' → Type} {ε α β γ σ : Type}

def implement (h : (o : Op) → Prog Op' Ans' ε (Ans o)) : Prog Op Ans ε α → Prog Op' Ans' ε α
  | .ret a => .ret a
  | .raise e => .raise e
  | .call o k => attempt (h o) fun r => implement h (k r)

/-! ## Outcomes -/

section Attempt

variable (S : Server Op Ans ε σ)

theorem run_attempt (p : Prog Op Ans ε α) (f : Except ε α → Prog Op Ans ε β) (s : σ) :
    run S (attempt p f) s = run S (f (run S p s).1) (run S p s).2 := by
  induction p generalizing s with
  | ret a => rfl
  | raise e => rfl
  | call o k ih => exact ih _ _

theorem attempt_bind (p : Prog Op Ans ε α) (f : Except ε α → Prog Op Ans ε β)
    (g : β → Prog Op Ans ε γ) : (attempt p f >>= g) = attempt p fun r => f r >>= g := by
  induction p with
  | ret a => rfl
  | raise e => rfl
  | call o k ih =>
      show Prog.call o (fun r => attempt (k r) f >>= g) = .call o _
      exact congrArg _ (funext fun r => ih r)

/-- A program whose outcome is handed on as it is. -/
theorem attempt_ofExcept (p : Prog Op Ans ε α) : attempt p ofExcept = p := by
  induction p with
  | ret a => rfl
  | raise e => rfl
  | call o k ih => exact congrArg _ (funext fun r => ih r)

end Attempt

/-! ## Layers -/

section Implement

variable (S : Server Op' Ans' ε σ) (h : (o : Op) → Prog Op' Ans' ε (Ans o))

/-- What the implementations make of a server of the layer below. -/
def Server.implemented : Server Op Ans ε σ := fun o s => run S (h o) s

@[simp] theorem run_implement (p : Prog Op Ans ε α) (s : σ) :
    run S (implement h p) s = run (S.implemented h) p s := by
  induction p generalizing s with
  | ret a => rfl
  | raise e => rfl
  | call o k ih =>
      rw [implement, run_attempt]
      exact ih _ _

@[simp] theorem implement_ret (a : α) :
    implement h (.ret a : Prog Op Ans ε α) = .ret a := rfl

@[simp] theorem implement_raise (e : ε) :
    implement h (.raise e : Prog Op Ans ε α) = .raise e := rfl

theorem implement_bind (p : Prog Op Ans ε α) (f : α → Prog Op Ans ε β) :
    implement h (p >>= f) = (implement h p >>= fun a => implement h (f a)) := by
  induction p with
  | ret a => rfl
  | raise e => rfl
  | call o k ih =>
      show attempt (h o) (fun r => implement h (k r >>= f)) = (attempt (h o) _ >>= _)
      rw [attempt_bind]
      exact congrArg _ (funext fun r => ih r)

/-- A single call is its implementation. -/
@[simp] theorem implement_perform (o : Op) : implement h (perform o) = h o := by
  calc
    implement h (perform o) = attempt (h o) ofExcept :=
      congrArg (attempt (h o)) (funext fun r => by cases r <;> rfl)
    _ = h o := attempt_ofExcept (h o)

end Implement

/-! ## A layer for some of the calls -/

section Through

variable {Low : Type} {LowAns : Low → Type}

/-- The calls a layer below takes over are carried out there; the others go past it. -/
def through (takes : (o : Op) → Option (Prog Low LowAns ε (Ans o))) (o : Op) :
    Prog (Low ⊕ Op) (SumAns LowAns Ans) ε (Ans o) :=
  match takes o with
  | some p => embed p
  | none => @perform (Low ⊕ Op) (SumAns LowAns Ans) ε (.inr o)

variable {takes : (o : Op) → Option (Prog Low LowAns ε (Ans o))}
  (T : Server (Low ⊕ Op) (SumAns LowAns Ans) ε σ) {o : Op} (s : σ)

theorem implemented_of_takes {p : Prog Low LowAns ε (Ans o)} (h : takes o = some p) :
    T.implemented (through takes) o s = run T.left p s := by
  rw [Server.implemented, through, h]
  exact run_embed ..

theorem implemented_of_past (h : takes o = none) :
    T.implemented (through takes) o s = T (.inr o) s := by
  rw [Server.implemented, through, h]
  exact run_perform ..

end Through

end Prog
