import TradeWorker.Implement

/-!
# Books kept by the replies

A program that works by calls learns of the world outside by the replies alone. Where every
reply says what its call did to some part of the world, whoever hears the replies can keep a
book of that part: the book agrees with the world after any program, however it is written.
A reply that says less is one the book does not survive.
-/

namespace Prog

variable {Op Op' : Type} {Ans : Op → Type} {Ans' : Op' → Type} {ε α β σ : Type}

/-- The calls a program makes against a server, each with its reply. -/
def dialogue (S : Server Op Ans ε σ) :
    Prog Op Ans ε α → σ → List ((o : Op) × Except ε (Ans o))
  | .ret _, _ => []
  | .raise _, _ => []
  | .call o k, s => ⟨o, (S o s).1⟩ :: dialogue S (k (S o s).1) (S o s).2

theorem calls_eq_map_dialogue (S : Server Op Ans ε σ) (p : Prog Op Ans ε α) (s : σ) :
    calls S p s = (dialogue S p s).map (·.1) := by
  induction p generalizing s with
  | ret a => rfl
  | raise e => rfl
  | call o k ih => exact congrArg (o :: ·) (ih _ _)

theorem dialogue_bind_ok {S : Server Op Ans ε σ} {p : Prog Op Ans ε α} {f : α → Prog Op Ans ε β}
    {s s' : σ} {a : α} (h : run S p s = (.ok a, s')) :
    dialogue S (p >>= f) s = dialogue S p s ++ dialogue S (f a) s' := by
  induction p generalizing s with
  | ret b =>
      cases h
      rfl
  | raise e => cases h
  | call o k ih =>
      simp only [call_bind, dialogue, List.cons_append]
      rw [ih _ h]

theorem dialogue_bind_error {S : Server Op Ans ε σ} {p : Prog Op Ans ε α}
    {f : α → Prog Op Ans ε β} {s s' : σ} {e : ε} (h : run S p s = (.error e, s')) :
    dialogue S (p >>= f) s = dialogue S p s := by
  induction p generalizing s with
  | ret b => cases h
  | raise e' => rfl
  | call o k ih =>
      simp only [call_bind, dialogue]
      rw [ih _ h]

theorem dialogue_perform (S : Server Op Ans ε σ) (o : Op) (s : σ) :
    dialogue S (perform o) s = [⟨o, (S o s).1⟩] := by
  rcases hS : S o s with ⟨_ | a, s'⟩ <;> simp [perform, dialogue, hS]

/-- What one call tells comes first; an exception ends the dialogue. -/
theorem dialogue_perform_ok {S : Server Op Ans ε σ} {o : Op} {f : Ans o → Prog Op Ans ε β}
    {s s' : σ} {a : Ans o} (h : S o s = (.ok a, s')) :
    dialogue S (perform o >>= f) s = ⟨o, .ok a⟩ :: dialogue S (f a) s' := by
  rw [dialogue_bind_ok ((run_perform S o s).trans h), dialogue_perform, h, List.singleton_append]

theorem dialogue_perform_error {S : Server Op Ans ε σ} {o : Op} {f : Ans o → Prog Op Ans ε β}
    {s s' : σ} {e : ε} (h : S o s = (.error e, s')) :
    dialogue S (perform o >>= f) s = [⟨o, .error e⟩] := by
  rw [dialogue_bind_error ((run_perform S o s).trans h), dialogue_perform, h]

/-- Swallowing an exception adds nothing to what is said. -/
theorem dialogue_swallow (S : Server Op Ans ε σ) (p : Prog Op Ans ε α) (a : α) (s : σ) :
    dialogue S (tryCatch p fun _ => pure a) s = dialogue S p s := by
  induction p generalizing s with
  | ret b => rfl
  | raise e => rfl
  | call o k ih => exact congrArg _ (ih _ _)

/-- What holds of a state and of what its replies add up to, call by call, holds after any
program. -/
theorem dialogue_collects {S : Server Op Ans ε σ} {collect : (o : Op) → Except ε (Ans o) → List β}
    {P : List β → σ → Prop}
    (hstep : ∀ o before s, P before s → P (before ++ collect o (S o s).1) (S o s).2)
    (p : Prog Op Ans ε α) {before : List β} {s : σ} (h : P before s) :
    P (before ++ (dialogue S p s).flatMap fun x => collect x.1 x.2) (run S p s).2 := by
  induction p generalizing before s with
  | ret a => simpa [dialogue] using h
  | raise e => simpa [dialogue] using h
  | call o k ih =>
      rw [run_call, dialogue, List.flatMap_cons, ← List.append_assoc]
      exact ih _ (hstep o before s h)

/-- A book of the part `world` of a server's state: how an entry changes it, and which replies
say too little to be entered. -/
structure Ledger (Op : Type) (Ans : Op → Type) (ε σ β : Type) where
  world : σ → β
  enter : (o : Op) → Except ε (Ans o) → β → β
  obscure : (o : Op) → Except ε (Ans o) → Prop

namespace Ledger

variable (L : Ledger Op Ans ε σ β)

/-- The book after a dialogue. -/
def balance (entries : List ((o : Op) × Except ε (Ans o))) (opening : β) : β :=
  entries.foldl (fun b x => L.enter x.1 x.2 b) opening

/-- Every reply of the server says what its call did, unless it is obscure. -/
def Faithful (S : Server Op Ans ε σ) : Prop :=
  ∀ o s, ¬ L.obscure o (S o s).1 → L.world (S o s).2 = L.enter o (S o s).1 (L.world s)

variable {L}

@[simp] theorem balance_nil (opening : β) : L.balance [] opening = opening := rfl

@[simp] theorem balance_cons (x : (o : Op) × Except ε (Ans o))
    (entries : List ((o : Op) × Except ε (Ans o))) (opening : β) :
    L.balance (x :: entries) opening = L.balance entries (L.enter x.1 x.2 opening) := rfl

/-- **The book agrees with the world** after any program none of whose replies is obscure. -/
theorem Faithful.balances {S : Server Op Ans ε σ} (hS : L.Faithful S) (p : Prog Op Ans ε α)
    (s : σ) (hclear : ∀ x ∈ dialogue S p s, ¬ L.obscure x.1 x.2) :
    L.world (run S p s).2 = L.balance (dialogue S p s) (L.world s) := by
  induction p generalizing s with
  | ret a => rfl
  | raise e => rfl
  | call o k ih =>
      obtain ⟨hfirst, hrest⟩ := List.forall_mem_cons.mp hclear
      rw [run_call, dialogue, balance_cons, ← hS o s hfirst]
      exact ih _ _ hrest

/-- The book through a layer that takes over some of the calls. It is enough that the layer's
replies say what they did, and that the calls past the layer touch nothing of the book. -/
theorem Faithful.of_through {Low : Type} {LowAns : Low → Type}
    (takes : (o : Op) → Option (Prog Low LowAns ε (Ans o)))
    {T : Server (Low ⊕ Op) (SumAns LowAns Ans) ε σ}
    (htaken : ∀ o p s, takes o = some p → ¬ L.obscure o (run T.left p s).1 →
      L.world (run T.left p s).2 = L.enter o (run T.left p s).1 (L.world s))
    (hpast : ∀ o a b, takes o = none → L.enter o a b = b)
    (hothers : ∀ o s, L.world (T (.inr o) s).2 = L.world s) :
    L.Faithful (T.implemented (through takes)) := by
  intro o s hclear
  cases ho : takes o with
  | some p =>
      rw [implemented_of_takes T s ho] at hclear ⊢
      exact htaken o p s ho hclear
  | none =>
      rw [implemented_of_past T s ho, hpast o _ _ ho]
      exact hothers o s

end Ledger

end Prog
