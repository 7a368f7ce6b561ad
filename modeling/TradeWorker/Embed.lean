import TradeWorker.Prog

/-!
# Programs over two groups of calls

A program that knows one group of calls also runs where there is a second group. Served
there it does what it does over the first group alone: it makes the same calls, and the
state moves by these only.

With more groups than one it matters which come first. A program whose calls have ranks
goes through them *in order* when no call is followed by one of a lower rank; that is so
of a sequence when it is so of its parts, and the ranks of the second begin where those of
the first end.
-/

namespace Prog

variable {Op Op' : Type} {Ans : Op → Type} {Ans' : Op' → Type} {ε α β σ : Type}

/-- The answers of two groups of calls. -/
@[reducible] def SumAns (Ans : Op → Type) (Ans' : Op' → Type) : Op ⊕ Op' → Type
  | .inl o => Ans o
  | .inr o => Ans' o

/-- The program where a second group of calls is served too. -/
def embed : Prog Op Ans ε α → Prog (Op ⊕ Op') (SumAns Ans Ans') ε α
  | .ret a => .ret a
  | .raise e => .raise e
  | .call o k => .call (.inl o) fun r => embed (k r)

/-- What a server of both groups does with the first. -/
def Server.left (S : Server (Op ⊕ Op') (SumAns Ans Ans') ε σ) : Server Op Ans ε σ :=
  fun o s => S (.inl o) s

section Embed

variable (S : Server (Op ⊕ Op') (SumAns Ans Ans') ε σ)

@[simp] theorem run_embed (p : Prog Op Ans ε α) (s : σ) :
    run S (embed p) s = run S.left p s := by
  induction p generalizing s with
  | ret a => rfl
  | raise e => rfl
  | call o k ih => exact ih _ _

@[simp] theorem calls_embed (p : Prog Op Ans ε α) (s : σ) :
    calls S (embed p) s = (calls S.left p s).map .inl := by
  induction p generalizing s with
  | ret a => rfl
  | raise e => rfl
  | call o k ih => exact congrArg (Sum.inl o :: ·) (ih _ _)

end Embed

/-- A contract that says the same of every group bounds an embedded program. -/
theorem sends_embed {C : Contract (Op ⊕ Op') (SumAns Ans Ans') ε} {Q : α → Prop}
    {p : Prog Op Ans ε α}
    (hp : Sends
      { guard := fun o => C.guard (.inl o), answers := fun o => C.answers (.inl o) } Q p) :
    Sends C Q (embed p) := by
  induction p with
  | ret a => exact hp
  | raise e => exact hp
  | call o k ih => exact ⟨hp.1, fun r s hr => ih r (hp.2 r s hr)⟩

/-- Only calls of the first group, whatever they are. -/
theorem sends_embed_inl {C : Contract (Op ⊕ Op') (SumAns Ans Ans') ε}
    (hC : ∀ o, C.guard (.inl o)) (p : Prog Op Ans ε α) : Sends C (fun _ => True) (embed p) := by
  refine sends_embed ?_
  induction p with
  | ret a => exact sends_ret.mpr trivial
  | raise e => exact sends_raise.mpr trivial
  | call o k ih => exact ⟨hC o, fun r _ _ => ih r⟩

/-! ## Calls in order -/

theorem mem_calls_bind_left {S : Server Op Ans ε σ} {p : Prog Op Ans ε α}
    {f : α → Prog Op Ans ε β} {s : σ} {o : Op} (h : o ∈ calls S p s) :
    o ∈ calls S (p >>= f) s := by
  rcases hrun : run S p s with ⟨e | a, s'⟩
  · rwa [calls_bind_error S hrun]
  · rw [calls_bind_ok S hrun]
    exact List.mem_append_left _ h

theorem mem_calls_bind_right {S : Server Op Ans ε σ} {p : Prog Op Ans ε α}
    {f : α → Prog Op Ans ε β} {s s' : σ} {a : α} {o : Op} (hrun : run S p s = (.ok a, s'))
    (h : o ∈ calls S (f a) s') : o ∈ calls S (p >>= f) s := by
  rw [calls_bind_ok S hrun]
  exact List.mem_append_right _ h

/-- A call of a sequence is one of its first half, or one of the second from the state
the first has left. -/
theorem mem_calls_bind {S : Server Op Ans ε σ} {p : Prog Op Ans ε α} {f : α → Prog Op Ans ε β}
    {s : σ} {o : Op} (h : o ∈ calls S (p >>= f) s) :
    o ∈ calls S p s ∨ ∃ a s', run S p s = (.ok a, s') ∧ o ∈ calls S (f a) s' ∧
      (run S (p >>= f) s).2 = (run S (f a) s').2 := by
  rcases hrun : run S p s with ⟨e | a, s'⟩
  · rw [calls_bind_error S hrun] at h
    exact Or.inl h
  · rw [calls_bind_ok S hrun] at h
    rcases List.mem_append.mp h with h | h
    · exact Or.inl h
    · exact Or.inr ⟨a, s', rfl, h, by rw [run_bind_ok S hrun]⟩

/-- The ranks of the calls grow, from `lo` to `hi`; a call may have none. -/
def InOrder (S : Server Op Ans ε σ) (rank : Op → Option Nat) (lo hi : Nat)
    (p : Prog Op Ans ε α) (s : σ) : Prop :=
  ((calls S p s).filterMap rank).Pairwise (· ≤ ·) ∧
    ∀ n ∈ (calls S p s).filterMap rank, lo ≤ n ∧ n ≤ hi

section InOrder

variable {S : Server Op Ans ε σ} {rank : Op → Option Nat} {lo mid hi : Nat}
  {p : Prog Op Ans ε α} {s : σ}

theorem inOrder_ret (a : α) : InOrder S rank lo hi (.ret a : Prog Op Ans ε α) s := by
  simp [InOrder, calls]

/-- A program whose calls have one rank, or none. -/
theorem inOrder_of_sends {Q : α → Prop}
    (hp : Sends { guard := fun o => rank o = none ∨ rank o = some mid, answers := fun _ _ => True }
      Q p) (hlo : lo ≤ mid) (hhi : mid ≤ hi) : InOrder S rank lo hi p s := by
  have hrank : ∀ n ∈ (calls S p s).filterMap rank, n = mid := by
    intro n hn
    obtain ⟨o, ho, hrank⟩ := List.mem_filterMap.mp hn
    rcases hp.calls (S := S) (fun _ _ => trivial) s o ho with h | h
    · rw [h] at hrank
      cases hrank
    · rw [h] at hrank
      exact (Option.some.inj hrank).symm
  refine ⟨List.pairwise_of_forall_mem_list fun n hn n' hn' => ?_, fun n hn => ?_⟩
  · have hn₁ := hrank n hn
    have hn₂ := hrank n' hn'
    omega
  · have hn₁ := hrank n hn
    omega

/-- The second half begins where the first ends. -/
theorem InOrder.bind {f : α → Prog Op Ans ε β} (hp : InOrder S rank lo mid p s)
    (hf : ∀ a s', run S p s = (.ok a, s') → InOrder S rank mid hi (f a) s') (hlo : lo ≤ mid)
    (hhi : mid ≤ hi) : InOrder S rank lo hi (p >>= f) s := by
  rcases hrun : run S p s with ⟨e | a, s'⟩
  · unfold InOrder
    rw [calls_bind_error S hrun]
    exact ⟨hp.1, fun n hn => ⟨(hp.2 n hn).1, Nat.le_trans (hp.2 n hn).2 hhi⟩⟩
  · obtain ⟨hsorted, hbounds⟩ := hf a s' hrun
    unfold InOrder
    rw [calls_bind_ok S hrun, List.filterMap_append]
    refine ⟨List.pairwise_append.mpr ⟨hp.1, hsorted, fun n hn n' hn' => ?_⟩, fun n hn => ?_⟩
    · exact Nat.le_trans (hp.2 n hn).2 (hbounds n' hn').1
    · rcases List.mem_append.mp hn with hn | hn
      · exact ⟨(hp.2 n hn).1, Nat.le_trans (hp.2 n hn).2 hhi⟩
      · exact ⟨Nat.le_trans hlo (hbounds n hn).1, (hbounds n hn).2⟩

end InOrder

end Prog
