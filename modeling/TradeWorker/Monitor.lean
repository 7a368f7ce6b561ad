import TradeWorker.Ledger

/-!
# Monitors

A monitor hears every call and its answer, remembers what it needs of them, and says of a call
whether it may be made now. What a program owes to a monitor is independent of who answers: it is
shown once, against any answers, and holds in every run against every server, up to any call.
-/

namespace Prog

variable {Op : Type} {Ans : Op → Type} {ε α β μ σ : Type}

/-- What is remembered of an answer, and which calls are allowed by what is remembered. -/
structure Monitor (Op : Type) (Ans : Op → Type) (ε μ : Type) where
  note : (o : Op) → Except ε (Ans o) → μ → μ
  allows : Op → μ → Prop

namespace Monitor

variable (M : Monitor Op Ans ε μ)

/-- What is remembered after a dialogue. -/
def after (m : μ) (talk : List ((o : Op) × Except ε (Ans o))) : μ :=
  talk.foldl (fun m x => M.note x.1 x.2 m) m

/-- Every call of a dialogue is allowed by what went before. -/
def Accepts : μ → List ((o : Op) × Except ε (Ans o)) → Prop
  | _, [] => True
  | m, x :: talk => M.allows x.1 m ∧ Accepts (M.note x.1 x.2 m) talk

/-- What a dialogue may end with, it may go on with. -/
theorem accepts_append {m : μ} {talk talk' : List ((o : Op) × Except ε (Ans o))} :
    M.Accepts m (talk ++ talk') ↔ M.Accepts m talk ∧ M.Accepts (M.after m talk) talk' := by
  induction talk generalizing m with
  | nil => exact ⟨fun h => ⟨trivial, h⟩, fun h => h.2⟩
  | cons x talk ih =>
      rw [List.cons_append, Accepts, Accepts, ih, and_assoc]
      rfl

/-- A call of an accepted dialogue was allowed by what went before it. -/
theorem Accepts.allowed {M : Monitor Op Ans ε μ} {m : μ}
    {talk talk' : List ((o : Op) × Except ε (Ans o))} {x : (o : Op) × Except ε (Ans o)}
    (h : M.Accepts m (talk ++ x :: talk')) : M.allows x.1 (M.after m talk) :=
  (M.accepts_append.mp h).2.1

/-- The environment that answers anything and tells the monitor. -/
def env : Env Op Ans ε μ where
  guard := M.allows
  answers o m r m' := m' = M.note o r m

/-- What is shown against any answers holds against every server. -/
theorem accepts_of_wp {Q : Except ε α → μ → Prop} {p : Prog Op Ans ε α} {m : μ}
    (hp : wp M.env Q p m) (S : Server Op Ans ε σ) (s : σ) :
    M.Accepts m (dialogue S p s) ∧ Q (run S p s).1 (M.after m (dialogue S p s)) := by
  induction p generalizing m s with
  | ret a => exact ⟨trivial, hp⟩
  | raise e => exact ⟨trivial, hp⟩
  | call o k ih =>
      obtain ⟨hrest, hQ⟩ := ih _ (hp.2 _ _ rfl) (S o s).2
      exact ⟨⟨hp.1, hrest⟩, hQ⟩

variable {M}

/-- One call, its answer told to the monitor. -/
theorem wp_step {Q : Except ε α → μ → Prop} {o : Op} {f : Ans o → Prog Op Ans ε α} {m : μ}
    (hallowed : M.allows o m) (hok : ∀ a, wp M.env Q (f a) (M.note o (.ok a) m))
    (herror : ∀ e, Q (.error e) (M.note o (.error e) m)) :
    wp M.env Q (perform o >>= f) m := by
  refine wp_bind.mpr (wp_perform.mpr ⟨hallowed, ?_⟩)
  rintro r m' rfl
  cases r with
  | ok a => exact hok a
  | error e => exact herror e

end Monitor

/-! ## The states calls are made in -/

/-- Some call is made in a state in `R`. -/
def Reaches (S : Server Op Ans ε σ) (R : Op → σ → Prop) : Prog Op Ans ε α → σ → Prop
  | .ret _, _ => False
  | .raise _, _ => False
  | .call o k, s => R o s ∨ Reaches S R (k (S o s).1) (S o s).2

/-- Whether it is can be seen from the run. -/
def decideReaches (S : Server Op Ans ε σ) {R : Op → σ → Prop} [∀ o s, Decidable (R o s)] :
    (p : Prog Op Ans ε α) → (s : σ) → Decidable (Reaches S R p s)
  | .ret _, _ => isFalse id
  | .raise _, _ => isFalse id
  | .call o k, s =>
      have := decideReaches S (R := R) (k (S o s).1) (S o s).2
      inferInstanceAs (Decidable (R o s ∨ Reaches S R (k (S o s).1) (S o s).2))

instance (S : Server Op Ans ε σ) {R : Op → σ → Prop} [∀ o s, Decidable (R o s)]
    (p : Prog Op Ans ε α) (s : σ) : Decidable (Reaches S R p s) :=
  decideReaches S p s

theorem reaches_bind {S : Server Op Ans ε σ} {R : Op → σ → Prop} {p : Prog Op Ans ε α}
    {f : α → Prog Op Ans ε β} {s : σ} : Reaches S R (p >>= f) s ↔
      Reaches S R p s ∨ ∃ a s', run S p s = (.ok a, s') ∧ Reaches S R (f a) s' := by
  induction p generalizing s with
  | ret a =>
      constructor
      · exact fun h => Or.inr ⟨a, s, rfl, h⟩
      · rintro (h | ⟨_, _, ⟨⟩, h⟩)
        · exact h.elim
        · exact h
  | raise e =>
      constructor
      · exact fun h => h.elim
      · rintro (h | ⟨_, _, hrun, -⟩)
        · exact h
        · cases hrun
  | call o k ih =>
      simp only [call_bind, Reaches, run_call]
      rw [ih, or_assoc]

/-- Calls that are in `R` in no state. -/
theorem Sends.not_reaches {C : Contract Op Ans ε} {Q : α → Prop} {p : Prog Op Ans ε α}
    (hp : Sends C Q p) (hanswers : ∀ o r, C.answers o r) {R : Op → σ → Prop}
    (hR : ∀ o s, C.guard o → ¬ R o s) (S : Server Op Ans ε σ) (s : σ) : ¬ Reaches S R p s := by
  induction p generalizing s with
  | ret a => exact id
  | raise e => exact id
  | call o k ih =>
      rintro (h | h)
      · exact hR o s hp.1 h
      · exact ih _ (hp.2 _ () (hanswers _ _)) _ h

/-- A call in `R` is one of the calls made. -/
theorem Reaches.exists_mem {S : Server Op Ans ε σ} {R : Op → σ → Prop} {p : Prog Op Ans ε α}
    {s : σ} (h : Reaches S R p s) : ∃ x ∈ dialogue S p s, ∃ s', R x.1 s' := by
  induction p generalizing s with
  | ret a => exact h.elim
  | raise e => exact h.elim
  | call o k ih =>
      rcases h with hfirst | hrest
      · exact ⟨_, List.mem_cons_self, s, hfirst⟩
      · obtain ⟨x, hx, hR⟩ := ih _ hrest
        exact ⟨x, List.mem_cons_of_mem _ hx, hR⟩

end Prog
