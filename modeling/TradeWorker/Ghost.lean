import TradeWorker.Prog

/-!
# Ghost calls

A program may be written out with calls that only keep a record: they are answered the same
way whatever the state, and no server that knows nothing of them is asked. Erasing them gives
the program without the record. A scribe answers both kinds and writes entries of a log as it
goes; what it plays is the erased program.
-/

namespace Prog

variable {Op : Type} {Ans : Op → Type} {ε α β σ L : Type}

/-- The answer each ghost call gets; the other calls have none. -/
abbrev Ghosts (Op : Type) (Ans : Op → Type) := (o : Op) → Option (Ans o)

variable (G : Ghosts Op Ans)

/-- The program without its ghost calls. -/
def erase : Prog Op Ans ε α → Prog Op Ans ε α
  | .ret a => .ret a
  | .raise e => .raise e
  | .call o k =>
      match G o with
      | some a => erase (k (.ok a))
      | none => .call o fun r => erase (k r)

@[simp] theorem erase_ret (a : α) : erase G (.ret a : Prog Op Ans ε α) = .ret a := rfl

@[simp] theorem erase_raise (e : ε) : erase G (.raise e : Prog Op Ans ε α) = .raise e := rfl

@[simp] theorem erase_bind (p : Prog Op Ans ε α) (f : α → Prog Op Ans ε β) :
    erase G (p >>= f) = erase G p >>= fun a => erase G (f a) := by
  induction p with
  | ret a => rfl
  | raise e => rfl
  | call o k ih =>
      rw [call_bind, erase, erase]
      split
      · exact ih _
      · rw [call_bind]
        exact congrArg (Prog.call o) (funext fun r => ih r)

@[simp] theorem erase_tryCatch (p : Prog Op Ans ε α) (h : ε → Prog Op Ans ε α) :
    erase G (tryCatch p h) = tryCatch (erase G p) fun e => erase G (h e) := by
  induction p with
  | ret a => rfl
  | raise e => rfl
  | call o k ih =>
      rw [tryCatch_call, erase, erase]
      split
      · exact ih _
      · rw [tryCatch_call]
        exact congrArg (Prog.call o) (funext fun r => ih r)

variable {G}

theorem erase_perform_ghost {o : Op} {a : Ans o} (ho : G o = some a) :
    erase G (perform o : Prog Op Ans ε (Ans o)) = .ret a := by
  rw [perform, erase, ho]
  rfl

theorem erase_perform {o : Op} (ho : G o = none) :
    erase G (perform o : Prog Op Ans ε (Ans o)) = perform o := by
  rw [perform, erase, ho]
  refine congrArg (Prog.call o) (funext fun r => ?_)
  cases r <;> rfl

/-- A program that makes no ghost call is left as it is. -/
theorem Sends.erase {C : Contract Op Ans ε} {Q : α → Prop} {p : Prog Op Ans ε α}
    (hp : Sends C Q p) (hC : ∀ o, C.guard o → G o = none)
    (hanswers : ∀ o r, C.answers o r) : Prog.erase G p = p := by
  induction p with
  | ret a => rfl
  | raise e => rfl
  | call o k ih =>
      rw [Prog.erase, hC o hp.1]
      exact congrArg (Prog.call o) (funext fun r => ih r (hp.2 r () (hanswers o r)))

/-! ## A server that keeps a log -/

/-- A server that writes entries of a log with its answers. -/
abbrev Scribe (Op : Type) (Ans : Op → Type) (ε σ L : Type) :=
  (o : Op) → σ → (Except ε (Ans o) × σ) × List L

/-- The outcome of a program, the state it leaves, and what was written on the way. -/
def written (W : Scribe Op Ans ε σ L) : Prog Op Ans ε α → σ → (Except ε α × σ) × List L
  | .ret a, s => ((.ok a, s), [])
  | .raise e, s => ((.error e, s), [])
  | .call o k, s =>
      ((written W (k (W o s).1.1) (W o s).1.2).1,
        (W o s).2 ++ (written W (k (W o s).1.1) (W o s).1.2).2)

/-- A scribe answers ghost calls as agreed, and the others as the server does. -/
structure Scribes (G : Ghosts Op Ans) (S : Server Op Ans ε σ) (W : Scribe Op Ans ε σ L) :
    Prop where
  ghost : ∀ o s a, G o = some a → (W o s).1 = (.ok a, s)
  real : ∀ o s, G o = none → (W o s).1 = S o s

/-- What a scribe plays is the erased program. -/
theorem written_erase {S : Server Op Ans ε σ} {W : Scribe Op Ans ε σ L} (h : Scribes G S W)
    (p : Prog Op Ans ε α) (s : σ) : (written W p s).1 = run S (erase G p) s := by
  induction p generalizing s with
  | ret a => rfl
  | raise e => rfl
  | call o k ih =>
      rw [written, erase]
      cases ho : G o with
      | some a =>
          rw [h.ghost o s a ho]
          exact ih _ _
      | none =>
          rw [h.real o s ho]
          exact ih _ _

/-- The outcome, the log and the state it leaves meet `Q`. -/
def Logs (W : Scribe Op Ans ε σ L) (Q : Except ε α → List L → σ → Prop)
    (p : Prog Op Ans ε α) (s : σ) : Prop :=
  Q (written W p s).1.1 (written W p s).2 (written W p s).1.2

section Logs

variable {W : Scribe Op Ans ε σ L}

@[simp] theorem logs_ret {Q : Except ε α → List L → σ → Prop} {a : α} {s : σ} :
    Logs W Q (.ret a) s ↔ Q (.ok a) [] s := Iff.rfl

@[simp] theorem logs_raise {Q : Except ε α → List L → σ → Prop} {e : ε} {s : σ} :
    Logs W Q (.raise e) s ↔ Q (.error e) [] s := Iff.rfl

@[simp] theorem logs_ofExcept {Q : Except ε α → List L → σ → Prop} {x : Except ε α} {s : σ} :
    Logs W Q (ofExcept x) s ↔ Q x [] s := by
  cases x <;> rfl

theorem Logs.mono {Q Q' : Except ε α → List L → σ → Prop} {p : Prog Op Ans ε α} {s : σ}
    (h : Logs W Q p s) (hQ : ∀ r l s', Q r l s' → Q' r l s') : Logs W Q' p s :=
  hQ _ _ _ h

theorem written_attempt (p : Prog Op Ans ε α) (f : Except ε α → Prog Op Ans ε β) (s : σ) :
    written W (attempt p f) s =
      ((written W (f (written W p s).1.1) (written W p s).1.2).1,
        (written W p s).2 ++ (written W (f (written W p s).1.1) (written W p s).1.2).2) := by
  induction p generalizing s with
  | ret a => rfl
  | raise e => rfl
  | call o k ih =>
      rw [attempt, written, written, ih]
      simp only [List.append_assoc]

/-- A sequence writes what its halves write. -/
theorem Logs.attempt {R : Except ε α → List L → σ → Prop} {Q : Except ε β → List L → σ → Prop}
    {p : Prog Op Ans ε α} {f : Except ε α → Prog Op Ans ε β} {s : σ} (hp : Logs W R p s)
    (hf : ∀ r l s', R r l s' → Logs W (fun x l' s'' => Q x (l ++ l') s'') (f r) s') :
    Logs W Q (attempt p f) s := by
  unfold Logs
  rw [written_attempt]
  exact hf _ _ _ hp

theorem Logs.bind {R : Except ε α → List L → σ → Prop} {Q : Except ε β → List L → σ → Prop}
    {p : Prog Op Ans ε α} {f : α → Prog Op Ans ε β} {s : σ} (hp : Logs W R p s)
    (hok : ∀ a l s', R (.ok a) l s' → Logs W (fun r l' s'' => Q r (l ++ l') s'') (f a) s')
    (herr : ∀ e l s', R (.error e) l s' → Q (.error e) l s') : Logs W Q (p >>= f) s := by
  rw [bind_eq_attempt]
  refine hp.attempt fun r l s' h => ?_
  cases r with
  | ok a => exact hok a l s' h
  | error e => simpa [orRaise] using herr e l s' h

theorem Logs.tryCatch {R Q : Except ε α → List L → σ → Prop} {p : Prog Op Ans ε α}
    {h : ε → Prog Op Ans ε α} {s : σ} (hp : Logs W R p s)
    (hok : ∀ a l s', R (.ok a) l s' → Q (.ok a) l s')
    (herr : ∀ e l s', R (.error e) l s' → Logs W (fun r l' s'' => Q r (l ++ l') s'') (h e) s') :
    Logs W Q (Prog.tryCatch p h) s := by
  rw [tryCatch_eq_attempt]
  refine hp.attempt fun r l s' hr => ?_
  cases r with
  | ok a => simpa [orHandle] using hok a l s' hr
  | error e => exact herr e l s' hr

theorem logs_perform {o : Op} {Q : Except ε (Ans o) → List L → σ → Prop} {s : σ} :
    Logs W Q (perform o) s ↔ Q (W o s).1.1 (W o s).2 (W o s).1.2 := by
  rcases hw : W o s with ⟨⟨e | a, s'⟩, l⟩ <;> simp [Logs, perform, written, hw]

/-- A program writes what its calls write. -/
theorem Sends.logs {C : Contract Op Ans ε} {Q : α → Prop} {p : Prog Op Ans ε α}
    (hp : Sends C Q p) {I : σ → Prop} {P : List L → Prop} (hnil : P [])
    (happend : ∀ l l', P l → P l' → P (l ++ l'))
    (hW : ∀ o s, I s → C.guard o → C.answers o (W o s).1.1 ∧ P (W o s).2 ∧ I (W o s).1.2)
    {s : σ} (hs : I s) :
    Logs W (fun r l s' => P l ∧ I s' ∧ ∀ a, r = .ok a → Q a) p s := by
  induction p generalizing s with
  | ret a => exact ⟨hnil, hs, hp⟩
  | raise e => exact ⟨hnil, hs, hp⟩
  | call o k ih =>
      obtain ⟨hanswer, hlog, hs'⟩ := hW o s hs hp.1
      obtain ⟨hrest, hstate, hret⟩ := ih _ (hp.2 _ () hanswer) hs'
      exact ⟨happend _ _ hlog hrest, hstate, hret⟩

/-- A program whose calls are not written down writes nothing. -/
theorem Sends.logs_nothing {C : Contract Op Ans ε} {Q : α → Prop} {p : Prog Op Ans ε α}
    (hp : Sends C Q p) {I : σ → Prop}
    (hW : ∀ o s, I s → C.guard o → C.answers o (W o s).1.1 ∧ (W o s).2 = [] ∧ I (W o s).1.2)
    {s : σ} (hs : I s) : Logs W (fun r l s' => l = [] ∧ I s' ∧ ∀ a, r = .ok a → Q a) p s :=
  hp.logs (P := fun l => l = []) rfl (fun l l' h h' => by rw [h, h', List.nil_append]) hW hs

/-- What a program returns, from what its answers are. -/
theorem Sends.logs_returns {C : Contract Op Ans ε} {Q : α → Prop} {p : Prog Op Ans ε α}
    (hp : Sends C Q p) (hW : ∀ o s, C.answers o (W o s).1.1) (s : σ) :
    Logs W (fun r _ _ => ∀ a, r = .ok a → Q a) p s := by
  induction p generalizing s with
  | ret a => exact hp
  | raise e => exact hp
  | call o k ih => exact ih _ (hp.2 _ () (hW o s)) _

end Logs

end Prog
