import Mathlib.Data.Set.Basic
import TradeWorker.Embed
import TradeWorker.Pool

/-!
# Check, then act

Threads act on keys, and some acts close a key for good. A thread asks before it
acts: certain answers grant it a key, and what it does to the key comes later, by a
call of its own. Nothing holds the key for it in between.

Two facts meet here. A program is *licensed* when it acts only on keys it was
granted and has not closed since, which is about the program alone. A thread is
*armed* for a key from the grant to the last call that may act under it, which is
the window the other threads can spoil. A run is *careful* when a key is granted
while it is open, and closed while no other thread is armed for it; then no closed
key is ever acted on (`Kept.act_open`).
-/

/-- The calls that act on a key, those that close it, the answers that grant it, and
the answers to be expected at all. -/
structure Permit (Op : Type) (Ans : Op → Type) (ε K : Type) where
  acts : Op → K → Prop
  closes : Op → K → Prop
  grants : (o : Op) → Except ε (Ans o) → K → Prop
  answers : (o : Op) → Except ε (Ans o) → Prop
  acts_of_closes : ∀ {o k}, closes o k → acts o k
  not_closes_of_grants : ∀ {o r k}, grants o r k → ¬ closes o k

namespace Permit

variable {ι Op : Type} {Ans : Op → Type} {ε α β σ K : Type} (L : Permit Op Ans ε K)

/-! ## One program -/

/-- The environment that keeps the keys granted and not closed since. -/
def env : Prog.Env Op Ans ε (Set K) where
  guard o G := ∀ k, L.acts o k → k ∈ G
  answers o G r G' := L.answers o r ∧ ∀ k, k ∈ G' ↔ L.grants o r k ∨ k ∈ G ∧ ¬ L.closes o k

/-- Every act of the program is on a key of `G` or one granted on the way. -/
def Licensed (p : Prog Op Ans ε α) (G : Set K) : Prop := Prog.wp L.env (fun _ _ => True) p G

/-- The program may still act on the key without being granted it again. -/
def Armed (k : K) : Prog Op Ans ε α → Prop
  | .ret _ => False
  | .raise _ => False
  | .call o f => L.acts o k ∨ ∃ r, L.answers o r ∧ ¬ L.grants o r k ∧ Armed k (f r)

/-- Calls that act on nothing. -/
def quiet : Prog.Contract Op Ans ε where
  guard o := ∀ k, ¬ L.acts o k
  answers := L.answers

variable {L}

/-- What the program may do is in its grants. -/
theorem Armed.mem {p : Prog Op Ans ε α} {G : Set K} {k : K} (hk : L.Armed k p)
    (hp : L.Licensed p G) : k ∈ G := by
  induction p generalizing G with
  | ret a => exact hk.elim
  | raise e => exact hk.elim
  | call o f ih =>
      rcases hk with hact | ⟨r, hr, hgrant, hrest⟩
      · exact hp.1 k hact
      · have hmem := ih r hrest (hp.2 r {k | L.grants o r k ∨ k ∈ G ∧ ¬ L.closes o k}
          ⟨hr, fun _ => Iff.rfl⟩)
        exact (hmem.resolve_left hgrant).1

/-- More grants do no harm. -/
theorem wp_grow {Q : Except ε α → Set K → Prop} {p : Prog Op Ans ε α} {G G' : Set K}
    (hp : Prog.wp L.env Q p G) (hG : G ⊆ G') (hQ : ∀ r H H', H ⊆ H' → Q r H → Q r H') :
    Prog.wp L.env Q p G' := by
  induction p generalizing G G' with
  | ret a => exact hQ _ _ _ hG hp
  | raise e => exact hQ _ _ _ hG hp
  | call o f ih =>
      refine ⟨fun k hk => hG (hp.1 k hk), ?_⟩
      rintro r H' ⟨hr, hH'⟩
      refine ih r (hp.2 r {k | L.grants o r k ∨ k ∈ G ∧ ¬ L.closes o k}
        ⟨hr, fun _ => Iff.rfl⟩) fun k hk => ?_
      rw [hH']
      rcases hk with hk | ⟨hk, hopen⟩
      · exact Or.inl hk
      · exact Or.inr ⟨hG hk, hopen⟩

theorem Licensed.grow {p : Prog Op Ans ε α} {G G' : Set K} (hp : L.Licensed p G)
    (hG : G ⊆ G') : L.Licensed p G' :=
  wp_grow hp hG fun _ _ _ _ _ => trivial

/-- A program that acts on nothing keeps what was granted. -/
theorem wp_of_quiet {Q : α → Prop} {p : Prog Op Ans ε α} (hp : Prog.Sends L.quiet Q p)
    (G : Set K) :
    Prog.wp L.env (fun r G' => G ⊆ G' ∧ ∀ a, r = .ok a → Q a) p G := by
  induction p generalizing G with
  | ret a => exact ⟨Set.Subset.rfl, fun b hb => hp b hb⟩
  | raise e => exact ⟨Set.Subset.rfl, fun b hb => nomatch hb⟩
  | call o f ih =>
      refine ⟨fun k hk => absurd hk (hp.1 k), ?_⟩
      rintro r H ⟨hr, hH⟩
      refine Prog.wp_mono (ih r (hp.2 r () hr) H) fun _ H' h => ⟨fun k hk => h.1 ?_, h.2⟩
      exact (hH k).mpr (Or.inr ⟨hk, fun hclose => hp.1 k (L.acts_of_closes hclose)⟩)

theorem Licensed.of_quiet {Q : α → Prop} {p : Prog Op Ans ε α} (hp : Prog.Sends L.quiet Q p)
    (G : Set K) : L.Licensed p G :=
  Prog.wp_mono (wp_of_quiet hp G) fun _ _ _ => trivial

theorem Licensed.after_quiet {Q : α → Prop} {p : Prog Op Ans ε α} {f : α → Prog Op Ans ε β}
    {G : Set K} (hp : Prog.Sends L.quiet Q p) (hf : ∀ a, Q a → L.Licensed (f a) G) :
    L.Licensed (p >>= f) G :=
  Prog.wp_bind_of (wp_of_quiet hp G) (fun a _ h => (hf a (h.2 a rfl)).grow h.1)
    fun _ _ _ => trivial

/-- A sequence whose second half needs no grant of the first. -/
theorem Licensed.bind {p : Prog Op Ans ε α} {f : α → Prog Op Ans ε β} {G : Set K}
    (hp : L.Licensed p G) (hf : ∀ a, L.Licensed (f a) ∅) : L.Licensed (p >>= f) G :=
  Prog.wp_bind_of hp (fun a H _ => (hf a).grow (Set.empty_subset H)) fun _ _ _ => trivial

theorem Licensed.swallow {p : Prog Op Ans ε α} {G : Set K} (hp : L.Licensed p G) (a : α) :
    L.Licensed (Prog.tryCatch p fun _ => pure a) G :=
  Prog.wp_tryCatch.mpr (Prog.wp_mono hp fun r _ _ => by cases r <;> trivial)

/-- The program, given the keys of `S`, acts on no other but those granted on the way, and
keeps every key it had beside them. -/
def Spends (S : Set K) (p : Prog Op Ans ε α) : Prop :=
  ∀ G, S ⊆ G → Prog.wp L.env (fun _ G' => G \ S ⊆ G') p G

variable {S T : Set K}

theorem Spends.licensed {p : Prog Op Ans ε α} {G : Set K} (hp : L.Spends S p) (hG : S ⊆ G) :
    L.Licensed p G :=
  Prog.wp_mono (hp G hG) fun _ _ _ => trivial

theorem Spends.of_quiet {Q : α → Prop} {p : Prog Op Ans ε α} (hp : Prog.Sends L.quiet Q p) :
    L.Spends S p := fun G _ =>
  Prog.wp_mono (wp_of_quiet hp G) fun _ _ h _ hk => h.1 hk.1

/-- A call that acts inside `S` and grants nothing. -/
theorem spends_perform {o : Op} (hacts : ∀ k, L.acts o k → k ∈ S) :
    L.Spends S (Prog.perform o : Prog Op Ans ε (Ans o)) := by
  intro G hS
  refine Prog.wp_perform.mpr ⟨fun k hk => hS (hacts k hk), ?_⟩
  rintro r G' ⟨-, hG'⟩ k ⟨hk, hspent⟩
  exact (hG' k).mpr (Or.inr ⟨hk, fun hclose => hspent (hacts k (L.acts_of_closes hclose))⟩)

/-- Two halves that spend different keys. -/
theorem Spends.bind {p : Prog Op Ans ε α} {f : α → Prog Op Ans ε β} (hp : L.Spends S p)
    (hf : ∀ a, L.Spends T (f a)) (hdisjoint : ∀ k ∈ S, k ∉ T) : L.Spends (S ∪ T) (p >>= f) := by
  intro G hG
  refine Prog.wp_bind_of (hp G (Set.subset_union_left.trans hG)) (fun a G' hG' => ?_) ?_
  · have hT : T ⊆ G' := fun k hk =>
      hG' ⟨hG (Or.inr hk), fun hS => hdisjoint k hS hk⟩
    refine Prog.wp_mono (hf a G' hT) fun _ G'' hG'' k hk => ?_
    exact hG'' ⟨hG' ⟨hk.1, fun hS => hk.2 (Or.inl hS)⟩, fun hT => hk.2 (Or.inr hT)⟩
  · exact fun e G' hG' k hk => hG' ⟨hk.1, fun hS => hk.2 (Or.inl hS)⟩

theorem Spends.after_quiet {Q : α → Prop} {p : Prog Op Ans ε α} {f : α → Prog Op Ans ε β}
    (hp : Prog.Sends L.quiet Q p) (hf : ∀ a, Q a → L.Spends S (f a)) :
    L.Spends S (p >>= f) := by
  intro G hS
  refine Prog.wp_bind_of (wp_of_quiet hp G) (fun a G' hG' => ?_) ?_
  · refine Prog.wp_mono (hf a (hG'.2 a rfl) G' (hS.trans hG'.1)) fun _ G'' hG'' k hk => ?_
    exact hG'' ⟨hG'.1 hk.1, hk.2⟩
  · exact fun e G' hG' k hk => hG'.1 hk.1

theorem Spends.then_quiet {Q : β → Prop} {p : Prog Op Ans ε α} {f : α → Prog Op Ans ε β}
    (hp : L.Spends S p) (hf : ∀ a, Prog.Sends L.quiet Q (f a)) : L.Spends S (p >>= f) := by
  have hboth := hp.bind (T := ∅) (fun a => Spends.of_quiet (hf a)) fun _ _ => id
  rwa [Set.union_empty] at hboth

theorem Spends.swallow {p : Prog Op Ans ε α} (hp : L.Spends S p) (a : α) :
    L.Spends S (Prog.tryCatch p fun _ => pure a) := fun G hS =>
  Prog.wp_tryCatch.mpr (Prog.wp_mono (hp G hS) fun r _ hG => by cases r <;> exact hG)

/-- The permit where a second group of calls is served, which has no part in it. -/
def inl {Op' : Type} (Ans' : Op' → Type) (L : Permit Op Ans ε K) :
    Permit (Op ⊕ Op') (Prog.SumAns Ans Ans') ε K where
  acts
    | .inl o, k => L.acts o k
    | .inr _, _ => False
  closes
    | .inl o, k => L.closes o k
    | .inr _, _ => False
  grants
    | .inl o, r, k => L.grants o r k
    | .inr _, _, _ => False
  answers
    | .inl o, r => L.answers o r
    | .inr _, _ => True
  acts_of_closes := by
    rintro (o | o) k hclose
    · exact L.acts_of_closes hclose
    · exact hclose
  not_closes_of_grants := by
    rintro (o | o) r k hgrant
    · exact L.not_closes_of_grants hgrant
    · exact hgrant.elim

theorem Licensed.embed {Op' : Type} {Ans' : Op' → Type} {p : Prog Op Ans ε α} {G : Set K}
    (hp : L.Licensed p G) : (L.inl Ans').Licensed (Prog.embed p) G := by
  induction p generalizing G with
  | ret a => exact trivial
  | raise e => exact trivial
  | call o f ih => exact ⟨hp.1, fun r G' hr => ih r (hp.2 r G' hr)⟩

theorem not_armed_of_finished {p : Prog Op Ans ε α} (hp : Pool.Finished p) (k : K) :
    ¬ L.Armed k p := by
  cases p with
  | ret a => exact id
  | raise e => exact id
  | call o f => exact hp.elim

/-! ## Many threads -/

variable (L) (S : Pool.System ι Op Ans ε α σ) (closed : σ → K → Prop)

/-- The system starts licensed programs, and only a closing call closes a key. -/
structure Governs : Prop where
  start : ∀ {i p s s'}, S.starts i p s s' →
    (∃ G, L.Licensed p G) ∧ ∀ k, closed s' k → closed s k
  call : ∀ {i o s r s'}, S.answers i o s r s' → ∀ k, closed s' k → closed s k ∨ L.closes o k
  drift : ∀ {s s'}, S.drift s s' → ∀ k, closed s' k → closed s k
  crash : ∀ {s s'}, S.crash s s' → ∀ k, closed s' k → closed s k

/-- Every thread is licensed, and armed for open keys alone. -/
structure Kept (x : Pool.Config ι Op Ans ε α σ) : Prop where
  licensed : ∀ i, ∃ G, L.Licensed (x.thread i) G
  armed : ∀ i k, L.Armed k (x.thread i) → ¬ closed x.state k

variable {L closed}

/-- A thread acts on open keys only. -/
theorem Kept.act_open {x : Pool.Config ι Op Ans ε α σ} (hx : L.Kept closed x) {i : ι} {o : Op}
    {f : Except ε (Ans o) → Prog Op Ans ε α} (hi : x.thread i = .call o f) {k : K}
    (hk : L.acts o k) : ¬ closed x.state k := by
  refine hx.armed i k ?_
  rw [hi]
  exact Or.inl hk

variable (L closed) [DecidableEq ι] (dead : Prog Op Ans ε α)

/-- The steps of a careful run. A thread is armed, at its start or by a grant, while
the key is open; a key is closed while no other thread is armed for it. -/
inductive Careful : Pool.Config ι Op Ans ε α σ → Pool.Config ι Op Ans ε α σ → Prop
  | start {x i p s'} (done : Pool.Finished (x.thread i)) (h : S.starts i p x.state s')
      (armed : ∀ k, L.Armed k p → ¬ closed x.state k) :
      Careful x ⟨s', Function.update x.thread i p⟩
  | call {x i o f r s'} (at_call : x.thread i = .call o f) (h : S.answers i o x.state r s')
      (expected : L.answers o r)
      (granted : ∀ k, L.grants o r k → L.Armed k (f r) → ¬ closed x.state k)
      (alone : ∀ k, L.closes o k → ∀ j, j ≠ i → ¬ L.Armed k (x.thread j)) :
      Careful x ⟨s', Function.update x.thread i (f r)⟩
  | drift {x s'} (h : S.drift x.state s') : Careful x ⟨s', x.thread⟩
  | crash {x s'} (h : S.crash x.state s') : Careful x ⟨s', fun _ => dead⟩

variable {L S closed dead}

theorem Careful.step {x y : Pool.Config ι Op Ans ε α σ} (h : L.Careful S closed dead x y) :
    Pool.Step S dead x y := by
  cases h with
  | start done h armed => exact .start done h
  | call at_call h expected granted alone => exact .call at_call h
  | drift h => exact .drift h
  | crash h => exact .crash h

/-- A step that leaves every other thread as it was. -/
theorem Kept.update {x : Pool.Config ι Op Ans ε α σ} (hx : L.Kept closed x) {i : ι}
    {p : Prog Op Ans ε α} {s' : σ} (hp : ∃ G, L.Licensed p G)
    (harmed : ∀ k, L.Armed k p → ¬ closed s' k)
    (hothers : ∀ j k, j ≠ i → L.Armed k (x.thread j) → ¬ closed s' k) :
    L.Kept closed ⟨s', Function.update x.thread i p⟩ := by
  refine ⟨fun j => ?_, fun j => ?_⟩ <;> by_cases hj : j = i
  · subst hj
    simpa using hp
  · simpa [Function.update_of_ne hj] using hx.licensed j
  · subst hj
    simpa using harmed
  · simpa [Function.update_of_ne hj] using fun k => hothers j k hj

/-- One careful step keeps it. -/
theorem Careful.kept (hS : L.Governs S closed) (hdead : ∃ a, dead = .ret a)
    {x y : Pool.Config ι Op Ans ε α σ} (h : L.Careful S closed dead x y)
    (hx : L.Kept closed x) : L.Kept closed y := by
  cases h with
  | @start i p s' done h armed =>
      obtain ⟨hp, hclosed⟩ := hS.start h
      refine hx.update hp ?_ ?_
      · exact fun k hk hcl => armed k hk (hclosed k hcl)
      · exact fun j k _ hk hcl => hx.armed j k hk (hclosed k hcl)
  | @call i o f r s' at_call h expected granted alone =>
      obtain ⟨G, hG⟩ := hx.licensed i
      rw [at_call] at hG
      have hrest := hG.2 r {k | L.grants o r k ∨ k ∈ G ∧ ¬ L.closes o k}
        ⟨expected, fun _ => Iff.rfl⟩
      refine hx.update ⟨_, hrest⟩ ?_ ?_
      · intro k hk hcl
        have hopen : ¬ L.closes o k := by
          rcases hk.mem hrest with hgrant | ⟨-, hopen⟩
          · exact L.not_closes_of_grants hgrant
          · exact hopen
        have hcl' : closed x.state k := (hS.call h k hcl).resolve_right hopen
        by_cases hgrant : L.grants o r k
        · exact granted k hgrant hk hcl'
        · refine hx.armed i k ?_ hcl'
          rw [at_call]
          exact Or.inr ⟨r, expected, hgrant, hk⟩
      · intro j k hj hk hcl
        rcases hS.call h k hcl with hcl | hclose
        · exact hx.armed j k hk hcl
        · exact alone k hclose j hj hk
  | drift h => exact ⟨hx.licensed, fun i k hk hcl => hx.armed i k hk (hS.drift h k hcl)⟩
  | crash h =>
      obtain ⟨a, rfl⟩ := hdead
      exact ⟨fun _ => ⟨∅, trivial⟩, fun _ _ hk => hk.elim⟩

abbrev CarefulRun (L : Permit Op Ans ε K) (S : Pool.System ι Op Ans ε α σ)
    (closed : σ → K → Prop) (dead : Prog Op Ans ε α) :
    Pool.Config ι Op Ans ε α σ → Pool.Config ι Op Ans ε α σ → Prop :=
  Relation.ReflTransGen (L.Careful S closed dead)

theorem CarefulRun.kept (hS : L.Governs S closed) (hdead : ∃ a, dead = .ret a)
    {x y : Pool.Config ι Op Ans ε α σ} (h : L.CarefulRun S closed dead x y)
    (hx : L.Kept closed x) : L.Kept closed y := by
  induction h with
  | refl => exact hx
  | tail _ hstep ih => exact hstep.kept hS hdead ih

/-- A thread may run carefully while all others are done. -/
theorem CarefulRun.advance {T : Prog.Server Op Ans ε σ} {i : ι} (n : Nat)
    {x y : Pool.Config ι Op Ans ε α σ} (h : L.CarefulRun S closed dead x y)
    (halone : ∀ j, j ≠ i → Pool.Finished (y.thread j))
    (hT : Prog.Admitted (fun o s r s' => S.answers i o s r s' ∧ L.answers o r ∧
      ∀ k, L.grants o r k → ¬ closed s k) T n (y.thread i) y.state) :
    L.CarefulRun S closed dead x ⟨(Prog.advance T n (y.thread i) y.state).2,
      Function.update y.thread i (Prog.advance T n (y.thread i) y.state).1⟩ := by
  induction n generalizing y with
  | zero =>
      have hstay : Function.update y.thread i (y.thread i) = y.thread :=
        Function.update_eq_self i y.thread
      simpa [Prog.advance, hstay] using h
  | succ n ih =>
      cases hp : y.thread i with
      | ret a => simpa [Prog.advance, ← hp, Function.update_eq_self] using h
      | raise e => simpa [Prog.advance, ← hp, Function.update_eq_self] using h
      | call o f =>
          rw [hp] at hT
          obtain ⟨⟨hanswers, hexpected, hgranted⟩, hrest⟩ := hT
          have hstep := h.tail (Careful.call hp hanswers hexpected
            (fun k hgrant _ => hgranted k hgrant)
            (fun k _ j hj => not_armed_of_finished (halone j hj) k))
          have hdone : ∀ j, j ≠ i →
              Pool.Finished (Function.update y.thread i (f (T o y.state).1) j) := by
            intro j hj
            simpa [Function.update_of_ne hj] using halone j hj
          simpa [Prog.advance] using ih hstep hdone (by simpa using hrest)

/-- A program that is armed for nothing may be started so. -/
theorem CarefulRun.serve {T : Prog.Server Op Ans ε σ} {i : ι} {p : Prog Op Ans ε α} (n : Nat)
    {x y : Pool.Config ι Op Ans ε α σ} (h : L.CarefulRun S closed dead x y)
    (hdone : ∀ j, Pool.Finished (y.thread j)) (hp : S.starts i p y.state y.state)
    (harmed : ∀ k, L.Armed k p → ¬ closed y.state k)
    (hT : Prog.Admitted (fun o s r s' => S.answers i o s r s' ∧ L.answers o r ∧
      ∀ k, L.grants o r k → ¬ closed s k) T n p y.state) :
    L.CarefulRun S closed dead x (y.serve T i n p) := by
  have hbegun : L.CarefulRun S closed dead x ⟨y.state, Function.update y.thread i p⟩ :=
    h.tail (Careful.start (hdone i) hp harmed)
  have hrun := hbegun.advance (i := i) (T := T) n
    (fun j hj => by simpa [Function.update_of_ne hj] using hdone j) (by simpa using hT)
  simpa [Pool.Config.serve] using hrun

end Permit
