/-!
# Programs as trees of calls

A program that works by calling the outside world is the tree of every call
it may make: a node carries the operation asked for, and one subtree for each
answer that may come back, an exception included. Nothing here knows what the
operations are. The same tree is read three ways:

* `run` plays it against a *server*, a function that answers each call from a
  state and updates that state;
* `wp` asks a postcondition of every way an *environment*, a relation, may
  answer, and a guard of every call on the way;
* a pool of threads (the module after this one) interleaves several trees.

`run_iff_wp` says that the first is the second at a deterministic environment,
so a rule proved for `wp` serves both.
-/

/-- A program over operations `Op`, answered in `Ans`, raising `ε`, returning
`α`. A call's answer is a value or an exception raised at the call site. -/
inductive Prog (Op : Type) (Ans : Op → Type) (ε α : Type) where
  | ret (a : α)
  | raise (e : ε)
  | call (o : Op) (k : Except ε (Ans o) → Prog Op Ans ε α)

namespace Prog

variable {Op : Type} {Ans : Op → Type} {ε α β γ σ : Type}

/-! ## Sequencing and exceptions -/

/-- Run the second program on the value the first returns. -/
def bind : Prog Op Ans ε α → (α → Prog Op Ans ε β) → Prog Op Ans ε β
  | .ret a, f => f a
  | .raise e, _ => .raise e
  | .call o k, f => .call o fun r => bind (k r) f

/-- Run the handler on the exception the body raises. Calls the body made
before raising stay made. -/
def tryCatch : Prog Op Ans ε α → (ε → Prog Op Ans ε α) → Prog Op Ans ε α
  | .ret a, _ => .ret a
  | .raise e, h => h e
  | .call o k, h => .call o fun r => tryCatch (k r) h

/-- Go on with the outcome of a program, an exception included. -/
def attempt : Prog Op Ans ε α → (Except ε α → Prog Op Ans ε β) → Prog Op Ans ε β
  | .ret a, f => f (.ok a)
  | .raise e, f => f (.error e)
  | .call o k, f => .call o fun r => attempt (k r) f

/-- Go on with a value, and pass an exception on. -/
def orRaise (f : α → Prog Op Ans ε β) : Except ε α → Prog Op Ans ε β
  | .ok a => f a
  | .error e => .raise e

def orHandle (h : ε → Prog Op Ans ε α) : Except ε α → Prog Op Ans ε α
  | .ok a => .ret a
  | .error e => h e

/-- Make one call and return its answer, raising what the call raises. -/
def perform (o : Op) : Prog Op Ans ε (Ans o) :=
  .call o fun
    | .ok a => .ret a
    | .error e => .raise e

/-- A computation without calls. -/
def ofExcept : Except ε α → Prog Op Ans ε α
  | .ok a => .ret a
  | .error e => .raise e

instance : Monad (Prog Op Ans ε) where
  pure := .ret
  bind := bind

@[simp] theorem pure_eq (a : α) : (pure a : Prog Op Ans ε α) = .ret a := rfl

@[simp] theorem ret_bind (a : α) (f : α → Prog Op Ans ε β) :
    (Prog.ret a >>= f) = f a := rfl

@[simp] theorem raise_bind (e : ε) (f : α → Prog Op Ans ε β) :
    (Prog.raise e >>= f) = .raise e := rfl

@[simp] theorem call_bind (o : Op) (k : Except ε (Ans o) → Prog Op Ans ε α)
    (f : α → Prog Op Ans ε β) :
    (Prog.call o k >>= f) = .call o fun r => k r >>= f := rfl

@[simp] theorem ofExcept_ok (a : α) :
    (ofExcept (.ok a) : Prog Op Ans ε α) = .ret a := rfl

@[simp] theorem ofExcept_error (e : ε) :
    (ofExcept (.error e) : Prog Op Ans ε α) = .raise e := rfl

theorem bind_ret (p : Prog Op Ans ε α) : (p >>= .ret) = p := by
  induction p with
  | ret a => rfl
  | raise e => rfl
  | call o k ih =>
      rw [call_bind]
      congr
      funext r
      exact ih r

theorem bind_bind (p : Prog Op Ans ε α) (f : α → Prog Op Ans ε β)
    (g : β → Prog Op Ans ε γ) :
    (p >>= f >>= g) = (p >>= fun a => f a >>= g) := by
  induction p with
  | ret a => rfl
  | raise e => rfl
  | call o k ih =>
      simp only [call_bind]
      congr
      funext r
      exact ih r

instance : LawfulMonad (Prog Op Ans ε) :=
  LawfulMonad.mk' _ bind_ret (fun _ _ => rfl) bind_bind

@[simp] theorem tryCatch_ret (a : α) (h : ε → Prog Op Ans ε α) :
    tryCatch (.ret a) h = .ret a := rfl

@[simp] theorem tryCatch_raise (e : ε) (h : ε → Prog Op Ans ε α) :
    tryCatch (.raise e) h = h e := rfl

@[simp] theorem tryCatch_call (o : Op) (k : Except ε (Ans o) → Prog Op Ans ε α)
    (h : ε → Prog Op Ans ε α) :
    tryCatch (.call o k) h = .call o fun r => tryCatch (k r) h := rfl

theorem bind_eq_attempt (p : Prog Op Ans ε α) (f : α → Prog Op Ans ε β) :
    (p >>= f) = attempt p (orRaise f) := by
  induction p with
  | ret a => rfl
  | raise e => rfl
  | call o k ih => exact congrArg (Prog.call o) (funext fun r => ih r)

theorem tryCatch_eq_attempt (p : Prog Op Ans ε α) (h : ε → Prog Op Ans ε α) :
    tryCatch p h = attempt p (orHandle h) := by
  induction p with
  | ret a => rfl
  | raise e => rfl
  | call o k ih => exact congrArg (Prog.call o) (funext fun r => ih r)

/-! ## Playing a program against a server -/

/-- A server answers each call from its state. -/
abbrev Server (Op : Type) (Ans : Op → Type) (ε σ : Type) :=
  (o : Op) → σ → Except ε (Ans o) × σ

/-- The outcome of a program against a server, and the state it leaves. -/
def run (S : Server Op Ans ε σ) : Prog Op Ans ε α → σ → Except ε α × σ
  | .ret a, s => (.ok a, s)
  | .raise e, s => (.error e, s)
  | .call o k, s => run S (k (S o s).1) (S o s).2

/-- The calls a program makes against a server, in order. -/
def calls (S : Server Op Ans ε σ) : Prog Op Ans ε α → σ → List Op
  | .ret _, _ => []
  | .raise _, _ => []
  | .call o k, s => o :: calls S (k (S o s).1) (S o s).2

/-- The first `n` calls of a program against a server: what it has left to do, and
the state reached. -/
def advance (S : Server Op Ans ε σ) : Nat → Prog Op Ans ε α → σ → Prog Op Ans ε α × σ
  | n + 1, .call o k, s => advance S n (k (S o s).1) (S o s).2
  | _, p, s => (p, s)

/-- The answers of those calls are among the ones a relation admits. -/
def Admitted (A : (o : Op) → σ → Except ε (Ans o) → σ → Prop) (S : Server Op Ans ε σ) :
    Nat → Prog Op Ans ε α → σ → Prop
  | n + 1, .call o k, s =>
      A o s (S o s).1 (S o s).2 ∧ Admitted A S n (k (S o s).1) (S o s).2
  | _, _, _ => True

theorem admitted_of_forall {A : (o : Op) → σ → Except ε (Ans o) → σ → Prop}
    {S : Server Op Ans ε σ} (h : ∀ o s, A o s (S o s).1 (S o s).2) (n : Nat)
    (p : Prog Op Ans ε α) (s : σ) : Admitted A S n p s := by
  induction n generalizing p s with
  | zero => cases p <;> trivial
  | succ n ih =>
      cases p with
      | ret a => trivial
      | raise e => trivial
      | call o k => exact ⟨h o s, ih _ _⟩

section Run

variable (S : Server Op Ans ε σ)

@[simp] theorem run_ret (a : α) (s : σ) :
    run S (.ret a : Prog Op Ans ε α) s = (.ok a, s) := rfl

@[simp] theorem run_raise (e : ε) (s : σ) :
    run S (.raise e : Prog Op Ans ε α) s = (.error e, s) := rfl

@[simp] theorem run_ofExcept (x : Except ε α) (s : σ) :
    run S (ofExcept x : Prog Op Ans ε α) s = (x, s) := by
  cases x <;> rfl

@[simp] theorem run_call (o : Op) (k : Except ε (Ans o) → Prog Op Ans ε α) (s : σ) :
    run S (.call o k) s = run S (k (S o s).1) (S o s).2 := rfl

theorem run_bind (p : Prog Op Ans ε α) (f : α → Prog Op Ans ε β) (s : σ) :
    run S (p >>= f) s =
      match run S p s with
      | (.ok a, s') => run S (f a) s'
      | (.error e, s') => (.error e, s') := by
  induction p generalizing s with
  | ret a => rfl
  | raise e => rfl
  | call o k ih => exact ih _ _

theorem run_bind_ok {p : Prog Op Ans ε α} {f : α → Prog Op Ans ε β} {s s' : σ} {a : α}
    (h : run S p s = (.ok a, s')) : run S (p >>= f) s = run S (f a) s' := by
  rw [run_bind, h]

/-- A sequence that returns has returned from both halves. -/
theorem run_bind_inv {p : Prog Op Ans ε α} {f : α → Prog Op Ans ε β} {s s' : σ} {b : β}
    (h : run S (p >>= f) s = (.ok b, s')) :
    ∃ a s₁, run S p s = (.ok a, s₁) ∧ run S (f a) s₁ = (.ok b, s') := by
  rw [run_bind] at h
  rcases hfirst : run S p s with ⟨e | a, s₁⟩
  · rw [hfirst] at h
    cases h
  · rw [hfirst] at h
    exact ⟨a, s₁, rfl, h⟩

theorem run_bind_error {p : Prog Op Ans ε α} {f : α → Prog Op Ans ε β} {s s' : σ}
    {e : ε} (h : run S p s = (.error e, s')) :
    run S (p >>= f) s = (.error e, s') := by
  rw [run_bind, h]

/-- A pure last step maps the outcome. -/
theorem run_bind_pure (p : Prog Op Ans ε α) (f : α → β) (s : σ) :
    run S (p >>= fun a => pure (f a)) s = ((run S p s).1.map f, (run S p s).2) := by
  rw [run_bind]
  rcases run S p s with ⟨_ | a, s'⟩ <;> rfl

/-- A last step without calls may still raise. -/
theorem run_bind_ofExcept (p : Prog Op Ans ε α) (f : α → Except ε β) (s : σ) :
    run S (p >>= fun a => ofExcept (f a)) s = ((run S p s).1 >>= f, (run S p s).2) := by
  rw [run_bind]
  rcases run S p s with ⟨_ | a, s'⟩
  · rfl
  · exact run_ofExcept S (f a) s'

theorem run_tryCatch (p : Prog Op Ans ε α) (h : ε → Prog Op Ans ε α) (s : σ) :
    run S (tryCatch p h) s =
      match run S p s with
      | (.ok a, s') => (.ok a, s')
      | (.error e, s') => run S (h e) s' := by
  induction p generalizing s with
  | ret a => rfl
  | raise e => rfl
  | call o k ih => exact ih _ _

/-- Every call a program makes against a server obeys `G`. -/
def Obeys (G : Op → Prop) (p : Prog Op Ans ε α) (s : σ) : Prop :=
  ∀ o ∈ calls S p s, G o

section Obeys

variable {S} {G : Op → Prop}

@[simp] theorem obeys_ret (a : α) (s : σ) : Obeys S G (.ret a : Prog Op Ans ε α) s ↔ True := by
  simp [Obeys, calls]

@[simp] theorem obeys_raise (e : ε) (s : σ) :
    Obeys S G (.raise e : Prog Op Ans ε α) s ↔ True := by
  simp [Obeys, calls]

@[simp] theorem obeys_call (o : Op) (k : Except ε (Ans o) → Prog Op Ans ε α) (s : σ) :
    Obeys S G (.call o k) s ↔ G o ∧ Obeys S G (k (S o s).1) (S o s).2 := by
  simp [Obeys, calls]

/-- The calls of a sequence: those of its first half, and after a value those of
the second. -/
theorem obeys_bind {p : Prog Op Ans ε α} {f : α → Prog Op Ans ε β} {s : σ} :
    Obeys S G (p >>= f) s ↔
      Obeys S G p s ∧ ∀ a s', run S p s = (.ok a, s') → Obeys S G (f a) s' := by
  induction p generalizing s with
  | ret a => simp
  | raise e => simp
  | call o k ih =>
      rw [call_bind, obeys_call, obeys_call, ih, run_call, and_assoc]

theorem obeys_bind_ok {p : Prog Op Ans ε α} {f : α → Prog Op Ans ε β} {s s' : σ} {a : α}
    (hp : Obeys S G p s) (h : run S p s = (.ok a, s')) :
    Obeys S G (p >>= f) s ↔ Obeys S G (f a) s' := by
  simp [obeys_bind, hp, h]

theorem obeys_bind_error {p : Prog Op Ans ε α} {f : α → Prog Op Ans ε β} {s s' : σ} {e : ε}
    (hp : Obeys S G p s) (h : run S p s = (.error e, s')) : Obeys S G (p >>= f) s := by
  simp [obeys_bind, hp, h]

end Obeys

theorem calls_bind_ok {p : Prog Op Ans ε α} {f : α → Prog Op Ans ε β} {s s' : σ} {a : α}
    (h : run S p s = (.ok a, s')) : calls S (p >>= f) s = calls S p s ++ calls S (f a) s' := by
  induction p generalizing s with
  | ret b =>
      cases h
      rfl
  | raise e => cases h
  | call o k ih =>
      simp only [call_bind, calls, List.cons_append]
      rw [ih _ h]

theorem calls_bind_error {p : Prog Op Ans ε α} {f : α → Prog Op Ans ε β} {s s' : σ} {e : ε}
    (h : run S p s = (.error e, s')) : calls S (p >>= f) s = calls S p s := by
  induction p generalizing s with
  | ret b => cases h
  | raise e' => rfl
  | call o k ih =>
      simp only [call_bind, calls]
      rw [ih _ h]

/-- A pure last step makes no call. -/
theorem calls_bind_ret (p : Prog Op Ans ε α) (g : α → β) (s : σ) :
    calls S (p >>= fun a => .ret (g a)) s = calls S p s := by
  induction p generalizing s with
  | ret a => rfl
  | raise e => rfl
  | call o k ih => exact congrArg (o :: ·) (ih _ _)

/-- Swallowing an exception adds no call and moves no state. -/
theorem calls_swallow (p : Prog Op Ans ε α) (a : α) (s : σ) :
    calls S (tryCatch p fun _ => pure a) s = calls S p s := by
  induction p generalizing s with
  | ret b => rfl
  | raise e => rfl
  | call o k ih => exact congrArg _ (ih _ _)

theorem run_swallow (p : Prog Op Ans ε α) (a : α) (s : σ) :
    (run S (tryCatch p fun _ => pure a) s).2 = (run S p s).2 := by
  induction p generalizing s with
  | ret b => rfl
  | raise e => rfl
  | call o k ih => exact ih _ _

/-! ## Following a program to a later one -/

/-- By calls that meet `G` alone the program comes to `q`, which makes the rest. -/
structure Becomes (G : Op → Prop) (p : Prog Op Ans ε α) (s : σ) (q : Prog Op Ans ε β)
    (s' : σ) : Prop where
  calls : ∃ before, (∀ o ∈ before, G o) ∧ calls S p s = before ++ Prog.calls S q s'
  state : (run S p s).2 = (run S q s').2

section Becomes

variable {S} {G : Op → Prop}

theorem Becomes.refl (p : Prog Op Ans ε α) (s : σ) : Becomes S G p s p s :=
  ⟨⟨[], by simp, rfl⟩, rfl⟩

theorem Becomes.trans {p : Prog Op Ans ε α} {q : Prog Op Ans ε β} {r : Prog Op Ans ε γ}
    {s s' s'' : σ} (h : Becomes S G p s q s') (h' : Becomes S G q s' r s'') :
    Becomes S G p s r s'' := by
  obtain ⟨before, hbefore, hcalls⟩ := h.calls
  obtain ⟨before', hbefore', hcalls'⟩ := h'.calls
  refine ⟨⟨before ++ before', ?_, ?_⟩, h.state.trans h'.state⟩
  · intro o ho
    rcases List.mem_append.mp ho with ho | ho
    · exact hbefore o ho
    · exact hbefore' o ho
  · rw [hcalls, hcalls', List.append_assoc]

/-- The first half of a sequence is done. -/
theorem Becomes.bind {p : Prog Op Ans ε α} {f : α → Prog Op Ans ε β} {s s' : σ} {a : α}
    (hp : Obeys S G p s) (h : run S p s = (.ok a, s')) : Becomes S G (p >>= f) s (f a) s' :=
  ⟨⟨_, hp, calls_bind_ok S h⟩, by rw [run_bind_ok S h]⟩

theorem Becomes.bind_error {p : Prog Op Ans ε α} {f : α → Prog Op Ans ε β} {s s' : σ} {e : ε}
    (hp : Obeys S G p s) (h : run S p s = (.error e, s')) (b : γ) :
    Becomes S G (p >>= f) s (.ret b : Prog Op Ans ε γ) s' :=
  ⟨⟨_, hp, (calls_bind_error S h).trans (by simp [Prog.calls])⟩, by rw [run_bind_error S h]; rfl⟩

/-- A program that makes only such calls is as good as done. -/
theorem Becomes.ret {p : Prog Op Ans ε α} {s : σ} (hp : Obeys S G p s) (b : β) :
    Becomes S G p s (.ret b : Prog Op Ans ε β) (run S p s).2 :=
  ⟨⟨_, hp, by simp [Prog.calls]⟩, rfl⟩

theorem Becomes.swallow (p : Prog Op Ans ε α) (a : α) (s : σ) :
    Becomes S G (tryCatch p fun _ => pure a) s p s :=
  ⟨⟨[], by simp, calls_swallow S p a s⟩, run_swallow S p a s⟩

theorem Becomes.obeys {G' : Op → Prop} {p : Prog Op Ans ε α} {q : Prog Op Ans ε β} {s s' : σ}
    (h : Becomes S G p s q s') (hG : ∀ o, G o → G' o) (hq : Obeys S G' q s') :
    Obeys S G' p s := by
  obtain ⟨before, hbefore, hcalls⟩ := h.calls
  intro o ho
  rw [hcalls] at ho
  rcases List.mem_append.mp ho with ho | ho
  · exact hG o (hbefore o ho)
  · exact hq o ho

end Becomes

theorem run_perform (o : Op) (s : σ) :
    run S (perform o) s = S o s := by
  rcases hS : S o s with ⟨_ | a, s'⟩ <;> simp [perform, hS]

theorem calls_perform (o : Op) (s : σ) : calls S (perform o) s = [o] := by
  rcases hS : S o s with ⟨_ | a, s'⟩ <;> simp [perform, calls, hS]

/-- The run ends with an answer: nothing is raised. -/
def Returns (p : Prog Op Ans ε α) (s : σ) : Prop :=
  ∃ a s', run S p s = (.ok a, s')

section Returns

theorem returns_ret (a : α) (s : σ) : Returns S (.ret a : Prog Op Ans ε α) s := ⟨a, s, rfl⟩

@[simp] theorem returns_ofExcept {x : Except ε α} {s : σ} :
    Returns S (ofExcept x : Prog Op Ans ε α) s ↔ ∃ a, x = .ok a := by
  simp [Returns]

variable {p : Prog Op Ans ε α} {f : α → Prog Op Ans ε β} {s s' : σ}

theorem returns_bind : Returns S (p >>= f) s ↔
    ∃ a s', run S p s = (.ok a, s') ∧ Returns S (f a) s' := by
  constructor
  · rintro ⟨b, s', h⟩
    obtain ⟨a, s₁, hfirst, hrest⟩ := run_bind_inv S h
    exact ⟨a, s₁, hfirst, b, s', hrest⟩
  · rintro ⟨a, s₁, hfirst, b, s', hrest⟩
    exact ⟨b, s', (run_bind_ok S hfirst).trans hrest⟩

theorem returns_bind_of {a : α} (h : run S p s = (.ok a, s')) :
    Returns S (p >>= f) s ↔ Returns S (f a) s' := by
  rw [Returns, run_bind_ok S h, Returns]

/-- Where the second half never raises, the first decides. -/
theorem returns_bind_of_forall (h : ∀ a s', Returns S (f a) s') :
    Returns S (p >>= f) s ↔ Returns S p s := by
  rw [returns_bind]
  exact ⟨fun ⟨a, s', hfirst, _⟩ => ⟨a, s', hfirst⟩,
    fun ⟨a, s', hfirst⟩ => ⟨a, s', hfirst, h a s'⟩⟩

theorem returns_swallow (p : Prog Op Ans ε α) (a : α) (s : σ) :
    Returns S (tryCatch p fun _ => pure a) s := by
  induction p generalizing s with
  | ret b => exact returns_ret S b s
  | raise e => exact returns_ret S a s
  | call o k ih => exact ih _ _

end Returns

end Run

/-! ## What holds however the environment answers -/

/-- An environment: the calls it admits at a state, and the answers it may
give to one with the states these lead to. -/
structure Env (Op : Type) (Ans : Op → Type) (ε σ : Type) where
  guard : Op → σ → Prop
  answers : (o : Op) → σ → Except ε (Ans o) → σ → Prop

/-- Every call on the way meets the guard, and every outcome meets `Q`,
whichever of its answers the environment picks. -/
def wp (E : Env Op Ans ε σ) (Q : Except ε α → σ → Prop) : Prog Op Ans ε α → σ → Prop
  | .ret a, s => Q (.ok a) s
  | .raise e, s => Q (.error e) s
  | .call o k, s => E.guard o s ∧ ∀ r s', E.answers o s r s' → wp E Q (k r) s'

section Wp

variable {E : Env Op Ans ε σ}

@[simp] theorem wp_ret {Q : Except ε α → σ → Prop} {a : α} {s : σ} :
    wp E Q (.ret a) s ↔ Q (.ok a) s := Iff.rfl

@[simp] theorem wp_raise {Q : Except ε α → σ → Prop} {e : ε} {s : σ} :
    wp E Q (.raise e) s ↔ Q (.error e) s := Iff.rfl

@[simp] theorem wp_ofExcept {Q : Except ε α → σ → Prop} {x : Except ε α} {s : σ} :
    wp E Q (ofExcept x) s ↔ Q x s := by
  cases x <;> rfl

@[simp] theorem wp_call {Q : Except ε α → σ → Prop} {o : Op}
    {k : Except ε (Ans o) → Prog Op Ans ε α} {s : σ} :
    wp E Q (.call o k) s ↔
      E.guard o s ∧ ∀ r s', E.answers o s r s' → wp E Q (k r) s' := Iff.rfl

/-- What a postcondition asks of the first half of a sequence: the second half
must be safe after a value, and an exception ends the sequence. -/
def after (E : Env Op Ans ε σ) (Q : Except ε β → σ → Prop)
    (f : α → Prog Op Ans ε β) : Except ε α → σ → Prop
  | .ok a, s => wp E Q (f a) s
  | .error e, s => Q (.error e) s

theorem wp_bind {Q : Except ε β → σ → Prop} {p : Prog Op Ans ε α}
    {f : α → Prog Op Ans ε β} {s : σ} :
    wp E Q (p >>= f) s ↔ wp E (after E Q f) p s := by
  induction p generalizing s with
  | ret a => rfl
  | raise e => rfl
  | call o k ih =>
      simp only [call_bind, wp_call]
      exact and_congr_right fun _ => forall_congr' fun r => forall_congr' fun s' =>
        imp_congr_right fun _ => ih r

theorem wp_tryCatch {Q : Except ε α → σ → Prop} {p : Prog Op Ans ε α}
    {h : ε → Prog Op Ans ε α} {s : σ} :
    wp E Q (tryCatch p h) s ↔
      wp E (fun r s' => match r with
        | .ok a => Q (.ok a) s'
        | .error e => wp E Q (h e) s') p s := by
  induction p generalizing s with
  | ret a => rfl
  | raise e => rfl
  | call o k ih =>
      simp only [tryCatch_call, wp_call]
      exact and_congr_right fun _ => forall_congr' fun r => forall_congr' fun s' =>
        imp_congr_right fun _ => ih r

theorem wp_perform {o : Op} {Q : Except ε (Ans o) → σ → Prop} {s : σ} :
    wp E Q (perform o) s ↔
      E.guard o s ∧ ∀ r s', E.answers o s r s' → Q r s' := by
  simp only [perform, wp_call]
  refine and_congr_right fun _ => forall_congr' fun r => forall_congr' fun s' =>
    imp_congr_right fun _ => ?_
  cases r <;> rfl

theorem wp_mono {Q Q' : Except ε α → σ → Prop} {p : Prog Op Ans ε α} {s : σ}
    (hp : wp E Q p s) (hQ : ∀ r s', Q r s' → Q' r s') : wp E Q' p s := by
  induction p generalizing s with
  | ret a => exact hQ _ _ hp
  | raise e => exact hQ _ _ hp
  | call o k ih => exact ⟨hp.1, fun r s' hr => ih r (hp.2 r s' hr)⟩

/-- The bind rule with a stated middle: the form proofs apply. -/
theorem wp_bind_of {R : Except ε α → σ → Prop} {Q : Except ε β → σ → Prop}
    {p : Prog Op Ans ε α} {f : α → Prog Op Ans ε β} {s : σ}
    (hp : wp E R p s) (hok : ∀ a s', R (.ok a) s' → wp E Q (f a) s')
    (herr : ∀ e s', R (.error e) s' → Q (.error e) s') : wp E Q (p >>= f) s := by
  rw [wp_bind]
  refine wp_mono hp fun r s' hr => ?_
  cases r with
  | ok a => exact hok a s' hr
  | error e => exact herr e s' hr

end Wp

/-! ## Contracts without a state

Many properties are about the calls alone: which of them a program makes, if
the answers it gets keep some promise. -/

/-- Which calls are allowed, and what their answers promise. -/
structure Contract (Op : Type) (Ans : Op → Type) (ε : Type) where
  guard : Op → Prop
  answers : (o : Op) → Except ε (Ans o) → Prop

/-- The environment of a contract has nothing to remember. -/
def Contract.env (C : Contract Op Ans ε) : Env Op Ans ε Unit where
  guard o _ := C.guard o
  answers o _ r _ := C.answers o r

/-- Every call of the program is allowed, and every value it returns meets `Q`. -/
def Sends (C : Contract Op Ans ε) (Q : α → Prop) (p : Prog Op Ans ε α) : Prop :=
  wp C.env (fun r _ => ∀ a, r = .ok a → Q a) p ()

section Sends

variable {C : Contract Op Ans ε}

@[simp] theorem sends_ret {Q : α → Prop} {a : α} :
    Sends C Q (.ret a) ↔ Q a := by
  simp [Sends]

@[simp] theorem sends_raise {Q : α → Prop} {e : ε} :
    Sends C Q (.raise e) ↔ True := by
  simp [Sends]

@[simp] theorem sends_ofExcept {Q : α → Prop} {x : Except ε α} :
    Sends C Q (ofExcept x) ↔ ∀ a, x = .ok a → Q a := by
  simp [Sends]

theorem sends_perform {o : Op} {Q : Ans o → Prop} (hg : C.guard o)
    (hQ : ∀ a, C.answers o (.ok a) → Q a) : Sends C Q (perform o) := by
  refine wp_perform.mpr ⟨hg, fun r _ hr a ha => hQ a ?_⟩
  rw [ha] at hr
  exact hr

theorem Sends.mono {Q Q' : α → Prop} {p : Prog Op Ans ε α} (hp : Sends C Q p)
    (h : ∀ a, Q a → Q' a) : Sends C Q' p :=
  wp_mono hp fun _ _ hr a ha => h a (hr a ha)

theorem Sends.bind {Q : α → Prop} {R : β → Prop} {p : Prog Op Ans ε α}
    {f : α → Prog Op Ans ε β} (hp : Sends C Q p) (hf : ∀ a, Q a → Sends C R (f a)) :
    Sends C R (p >>= f) :=
  wp_bind_of hp (fun a _ ha => hf a (ha a rfl)) fun _ _ _ _ h => nomatch h

theorem Sends.tryCatch {Q : α → Prop} {p : Prog Op Ans ε α} {h : ε → Prog Op Ans ε α}
    (hp : Sends C Q p) (hh : ∀ e, Sends C Q (h e)) : Sends C Q (tryCatch p h) := by
  refine wp_tryCatch.mpr (wp_mono hp fun r _ hr => ?_)
  cases r with
  | ok a => exact hr
  | error e => exact hh e

/-- A program that keeps a contract keeps every laxer one. -/
theorem Sends.relax {C' : Contract Op Ans ε} {Q : α → Prop} {p : Prog Op Ans ε α}
    (hp : Sends C Q p) (hguard : ∀ o, C.guard o → C'.guard o)
    (hanswers : ∀ o r, C'.answers o r → C.answers o r) : Sends C' Q p := by
  induction p with
  | ret a => exact hp
  | raise e => exact hp
  | call o k ih => exact ⟨hguard o hp.1, fun r s hr => ih r (hp.2 r s (hanswers o r hr))⟩

/-- A contract bounds the calls made against a server that keeps its answers as
long as an invariant holds that the allowed calls preserve. -/
theorem Sends.obeys {Q : α → Prop} {p : Prog Op Ans ε α} (hp : Sends C Q p)
    {S : Server Op Ans ε σ} {I : σ → Prop}
    (hS : ∀ o s, I s → C.guard o → C.answers o (S o s).1 ∧ I (S o s).2) {s : σ} (hs : I s) :
    Obeys S C.guard p s := by
  induction p generalizing s with
  | ret a => simp
  | raise e => simp
  | call o k ih =>
      obtain ⟨hanswer, hI⟩ := hS o s hs hp.1
      exact (obeys_call ..).mpr ⟨hp.1, ih _ (hp.2 _ () hanswer) hI⟩

/-- The invariant also holds where the run ends. -/
theorem Sends.keeps {Q : α → Prop} {p : Prog Op Ans ε α} (hp : Sends C Q p)
    {S : Server Op Ans ε σ} {I : σ → Prop}
    (hS : ∀ o s, I s → C.guard o → C.answers o (S o s).1 ∧ I (S o s).2) {s : σ} (hs : I s) :
    I (run S p s).2 := by
  induction p generalizing s with
  | ret a => exact hs
  | raise e => exact hs
  | call o k ih =>
      obtain ⟨hanswer, hI⟩ := hS o s hs hp.1
      exact ih _ (hp.2 _ () hanswer) hI

/-- A program runs alike on two servers that answer its calls alike. -/
theorem Sends.run_congr {Q : α → Prop} {p : Prog Op Ans ε α} (hp : Sends C Q p)
    (hanswers : ∀ o r, C.answers o r) {S S' : Server Op Ans ε σ}
    (hS : ∀ o, C.guard o → S o = S' o) (s : σ) : run S p s = run S' p s := by
  induction p generalizing s with
  | ret a => rfl
  | raise e => rfl
  | call o k ih =>
      rw [run_call, run_call, hS o hp.1]
      exact ih _ (hp.2 _ () (hanswers o _)) _

/-- The case of a server that keeps the answers in every state. -/
theorem Sends.calls {Q : α → Prop} {p : Prog Op Ans ε α} (hp : Sends C Q p)
    {S : Server Op Ans ε σ} (hS : ∀ o s, C.answers o (S o s).1) (s : σ) :
    ∀ o ∈ calls S p s, C.guard o :=
  hp.obeys (I := fun _ => True) (fun o s _ _ => ⟨hS o s, trivial⟩) trivial

/-- What such a run returns is in `Q`. -/
theorem Sends.run_ok {Q : α → Prop} {p : Prog Op Ans ε α} (hp : Sends C Q p)
    {S : Server Op Ans ε σ} (hS : ∀ o s, C.answers o (S o s).1) {s s' : σ} {a : α}
    (h : run S p s = (.ok a, s')) : Q a := by
  induction p generalizing s with
  | ret b =>
      cases h
      exact hp _ rfl
  | raise e => cases h
  | call o k ih => exact ih _ (hp.2 _ () (hS o s)) h

/-- Any calls, with any answers: only what is returned matters. -/
def anyCalls : Contract Op Ans ε where
  guard _ := True
  answers _ _ := True

theorem sends_anyCalls (p : Prog Op Ans ε α) : Sends anyCalls (fun _ => True) p := by
  induction p with
  | ret a => exact fun _ _ => trivial
  | raise e => exact fun _ _ => trivial
  | call o k ih => exact ⟨trivial, fun r _ _ => ih r⟩

end Sends

/-- In any environment whose answers keep the contract and an invariant, its program meets
the guards and the invariant holds where it ends. -/
theorem Sends.wp {C : Contract Op Ans ε} {Q : α → Prop} {p : Prog Op Ans ε α}
    (hp : Sends C Q p) {E : Env Op Ans ε σ} {I : σ → Prop}
    (hE : ∀ o s, I s → C.guard o →
      E.guard o s ∧ ∀ r s', E.answers o s r s' → C.answers o r ∧ I s') {s : σ} (hs : I s) :
    wp E (fun r s' => I s' ∧ ∀ a, r = .ok a → Q a) p s := by
  induction p generalizing s with
  | ret a => exact ⟨hs, hp⟩
  | raise e => exact ⟨hs, hp⟩
  | call o k ih =>
      obtain ⟨hguard, hanswers⟩ := hE o s hs hp.1
      refine ⟨hguard, fun r s' hr => ?_⟩
      obtain ⟨hanswer, hI⟩ := hanswers r s' hr
      exact ih r (hp.2 r () hanswer) hI

/-- A server is the environment with one answer to each call. -/
def Server.env (S : Server Op Ans ε σ) : Env Op Ans ε σ where
  guard _ _ := True
  answers o s r s' := S o s = (r, s')

theorem run_iff_wp (S : Server Op Ans ε σ) {Q : Except ε α → σ → Prop}
    (p : Prog Op Ans ε α) (s : σ) :
    wp S.env Q p s ↔ Q (run S p s).1 (run S p s).2 := by
  induction p generalizing s with
  | ret a => rfl
  | raise e => rfl
  | call o k ih =>
      rw [wp_call, run_call, ← ih]
      constructor
      · rintro ⟨_, h⟩
        exact h _ _ rfl
      · intro h
        refine ⟨trivial, fun r s' hr => ?_⟩
        obtain ⟨rfl, rfl⟩ := Prod.ext_iff.mp hr
        exact h

/-- Where the environment's answers are a server's, every outcome is that of its run. -/
theorem wp_run {E : Env Op Ans ε σ} {S : Server Op Ans ε σ}
    (hE : ∀ o s r s', E.answers o s r s' → S o s = (r, s')) {Q : Except ε α → σ → Prop}
    {p : Prog Op Ans ε α} {s : σ} (h : wp E Q p s) :
    wp E (fun r s' => Q r s' ∧ run S p s = (r, s')) p s := by
  induction p generalizing s with
  | ret a => exact ⟨h, rfl⟩
  | raise e => exact ⟨h, rfl⟩
  | call o k ih =>
      refine ⟨h.1, fun r s' hr => ?_⟩
      rw [run_call, hE o s r s' hr]
      exact ih r (h.2 r s' hr)

/-- A run whose answers are among the environment's is one the rules for `wp` speak of. -/
theorem wp_admitted {E : Env Op Ans ε σ} {S : Server Op Ans ε σ}
    {A P : (o : Op) → σ → Except ε (Ans o) → σ → Prop}
    (hA : ∀ o s, A o s (S o s).1 (S o s).2 → E.answers o s (S o s).1 (S o s).2)
    (hP : ∀ o s, E.guard o s → E.answers o s (S o s).1 (S o s).2 → P o s (S o s).1 (S o s).2)
    {Q : Except ε α → σ → Prop} {p : Prog Op Ans ε α} {s : σ} (h : wp E Q p s) {n : Nat}
    (hadm : Admitted A S n p s) : Admitted P S n p s := by
  induction n generalizing p s with
  | zero => cases p <;> trivial
  | succ n ih =>
      cases p with
      | ret a => trivial
      | raise e => trivial
      | call o k =>
          have hanswer := hA o s hadm.1
          exact ⟨hP o s h.1 hanswer, ih (h.2 _ _ hanswer) hadm.2⟩

end Prog
