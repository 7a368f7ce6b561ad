import Mathlib.Logic.Function.Basic
import Mathlib.Logic.Relation
import TradeWorker.Prog

/-!
# Threads over one state

Several programs share a state and take their calls in any order. Between two
calls of one thread the others may make any number of theirs, and the state may
change on its own (`drift`). A crash ends every thread.

The proof rule is rely-guarantee. Each thread states what it relies on the
others to keep, a relation on states. `System.alone` is the environment one
thread sees then: a call may find any state the rely leads to, and must leave
one that keeps the invariant and what every other thread relies on. A thread
that is safe there (`wp`) is safe in every interleaving (`Reach.safe`).
-/

namespace Pool

variable {ι Op : Type} {Ans : Op → Type} {ε α σ : Type}

/-- What may happen to threads `ι` over a state `σ`. -/
structure System (ι Op : Type) (Ans : Op → Type) (ε α σ : Type) where
  /-- How thread `i` may be answered, and the state after. -/
  answers : ι → (o : Op) → σ → Except ε (Ans o) → σ → Prop
  /-- The programs thread `i` may start when it is done. -/
  starts : ι → Prog Op Ans ε α → σ → σ → Prop
  /-- What happens outside the threads. -/
  drift : σ → σ → Prop
  /-- What a crash leaves. -/
  crash : σ → σ → Prop

/-- The state, and what each thread has left to do. -/
structure Config (ι Op : Type) (Ans : Op → Type) (ε α σ : Type) where
  state : σ
  thread : ι → Prog Op Ans ε α

/-- A program with no call left. -/
def Finished (p : Prog Op Ans ε α) : Prop :=
  match p with
  | .call _ _ => False
  | _ => True

instance (p : Prog Op Ans ε α) : Decidable (Finished p) :=
  match p with
  | .ret _ => isTrue trivial
  | .raise _ => isTrue trivial
  | .call _ _ => isFalse id

/-- The system in which the calls meet a condition, with their answers, and the
drifts another. -/
def System.restrict (S : System ι Op Ans ε α σ)
    (C : ι → (o : Op) → σ → Except ε (Ans o) → Prop) (D : σ → σ → Prop) :
    System ι Op Ans ε α σ :=
  { S with
    answers := fun i o s r s' => C i o s r ∧ S.answers i o s r s'
    drift := fun s s' => S.drift s s' ∧ D s s' }

/-! ## Rely and guarantee -/

/-- A proof outline of a system: what always holds, what each thread relies on,
and what it has established when it is done. -/
structure Outline (S : System ι Op Ans ε α σ) where
  inv : σ → Prop
  rely : ι → σ → σ → Prop
  post : ι → Except ε α → σ → Prop
  rely_refl : ∀ i s, rely i s s
  rely_trans : ∀ i s₁ s₂ s₃, rely i s₁ s₂ → rely i s₂ s₃ → rely i s₁ s₃
  post_stable : ∀ i r s s', post i r s → rely i s s' → post i r s'

variable {S : System ι Op Ans ε α σ} {dead : Prog Op Ans ε α}

/-- What a step of thread `i` must keep. -/
def Outline.Keeps (L : Outline S) (i : ι) (s s' : σ) : Prop :=
  L.inv s' ∧ ∀ j, j ≠ i → L.rely j s s'

/-- The environment of thread `i` alone: before each call the others may have
moved the state along the rely. -/
def Outline.alone (L : Outline S) (i : ι) : Prog.Env Op Ans ε σ where
  guard o s := ∀ s₁, L.rely i s s₁ → L.inv s₁ →
    ∀ r s₂, S.answers i o s₁ r s₂ → L.Keeps i s₁ s₂
  answers o s r s₂ := ∃ s₁, L.rely i s s₁ ∧ L.inv s₁ ∧ S.answers i o s₁ r s₂

/-- A program thread `i` may be left with. -/
def Outline.Safe (L : Outline S) (i : ι) (p : Prog Op Ans ε α) (s : σ) : Prop :=
  Prog.wp (L.alone i) (L.post i) p s

/-- The proof obligation of one call. -/
theorem Outline.wp_call (L : Outline S) {β : Type} {i : ι} {o : Op}
    {k : Except ε (Ans o) → Prog Op Ans ε β} {Q : Except ε β → σ → Prop} {s : σ}
    (h : ∀ s₁, L.rely i s s₁ → L.inv s₁ → ∀ r s₂, S.answers i o s₁ r s₂ →
      L.Keeps i s₁ s₂ ∧ Prog.wp (L.alone i) Q (k r) s₂) :
    Prog.wp (L.alone i) Q (.call o k) s := by
  refine ⟨fun s₁ hrely hinv r s₂ hr => (h s₁ hrely hinv r s₂ hr).1, ?_⟩
  rintro r s₂ ⟨s₁, hrely, hinv, hr⟩
  exact (h s₁ hrely hinv r s₂ hr).2

/-- The same for a call performed on its own. -/
theorem Outline.wp_perform (L : Outline S) {i : ι} {o : Op}
    {Q : Except ε (Ans o) → σ → Prop} {s : σ}
    (h : ∀ s₁, L.rely i s s₁ → L.inv s₁ → ∀ r s₂, S.answers i o s₁ r s₂ →
      L.Keeps i s₁ s₂ ∧ Q r s₂) :
    Prog.wp (L.alone i) Q (Prog.perform o) s := by
  refine L.wp_call fun s₁ hrely hinv r s₂ hr => ?_
  obtain ⟨hkeeps, hQ⟩ := h s₁ hrely hinv r s₂ hr
  refine ⟨hkeeps, ?_⟩
  cases r with
  | ok a => exact hQ
  | error e => exact hQ

/-- Moves of the other threads do not make a program unsafe. -/
theorem Outline.Safe.moved {L : Outline S} {i : ι} {p : Prog Op Ans ε α} {s s' : σ}
    (hp : L.Safe i p s) (hs : L.rely i s s') : L.Safe i p s' := by
  cases p with
  | ret a => exact L.post_stable i _ s s' hp hs
  | raise e => exact L.post_stable i _ s s' hp hs
  | call o k =>
      refine L.wp_call fun s₁ hrely hinv r s₂ hr => ?_
      have hrely' : L.rely i s s₁ := L.rely_trans i s s' s₁ hs hrely
      exact ⟨hp.1 s₁ hrely' hinv r s₂ hr, hp.2 r s₂ ⟨s₁, hrely', hinv, hr⟩⟩

/-- A program is safe that only makes calls which keep things from any state. -/
theorem Outline.safe_of_sends (L : Outline S) {i : ι} {G : Op → Prop} {Q : α → Prop}
    {p : Prog Op Ans ε α} (hp : Prog.Sends ⟨G, fun _ _ => True⟩ Q p)
    (hG : ∀ o s, G o → L.inv s → ∀ r s', S.answers i o s r s' → L.Keeps i s s')
    (hpost : ∀ r s, L.post i r s) (s : σ) : L.Safe i p s := by
  induction p generalizing s with
  | ret a => exact hpost _ _
  | raise e => exact hpost _ _
  | call o k ih =>
      refine L.wp_call fun s₁ _ hinv r s₂ hr => ⟨hG o s₁ hp.1 hinv r s₂ hr, ?_⟩
      exact ih r (hp.2 r () trivial) s₂

def Outline.Holds (L : Outline S) (x : Config ι Op Ans ε α σ) : Prop :=
  L.inv x.state ∧ ∀ i, L.Safe i (x.thread i) x.state

/-- What an outline asks of the steps that are no calls: a program started after a
finished one is safe, and drifts and crashes keep what is relied on. -/
structure Outline.Sound (L : Outline S) (dead : Prog Op Ans ε α) : Prop where
  start : ∀ i r p s s', L.inv s → L.post i r s → S.starts i p s s' →
    L.Keeps i s s' ∧ L.Safe i p s'
  drift : ∀ s s', L.inv s → S.drift s s' → L.inv s' ∧ ∀ i, L.rely i s s'
  crash : ∀ s s', L.inv s → S.crash s s' → L.inv s' ∧ ∀ i, L.Safe i dead s'

/-! ## Runs -/

variable [DecidableEq ι]

/-- One step. The program threads are left with after a crash is the parameter
`dead`. -/
inductive Step (S : System ι Op Ans ε α σ) (dead : Prog Op Ans ε α) :
    Config ι Op Ans ε α σ → Config ι Op Ans ε α σ → Prop
  | start {x i p s'} (done : Finished (x.thread i)) (h : S.starts i p x.state s') :
      Step S dead x ⟨s', Function.update x.thread i p⟩
  | call {x i o k r s'} (at_call : x.thread i = .call o k) (h : S.answers i o x.state r s') :
      Step S dead x ⟨s', Function.update x.thread i (k r)⟩
  | drift {x s'} (h : S.drift x.state s') : Step S dead x ⟨s', x.thread⟩
  | crash {x s'} (h : S.crash x.state s') : Step S dead x ⟨s', fun _ => dead⟩

def Reach (S : System ι Op Ans ε α σ) (dead : Prog Op Ans ε α) :
    Config ι Op Ans ε α σ → Config ι Op Ans ε α σ → Prop :=
  Relation.ReflTransGen (Step S dead)

theorem Reach.start {x y : Config ι Op Ans ε α σ} (h : Reach S dead x y) {i : ι}
    {p : Prog Op Ans ε α} {s' : σ} (done : Finished (y.thread i))
    (hp : S.starts i p y.state s') : Reach S dead x ⟨s', Function.update y.thread i p⟩ :=
  h.tail (Step.start done hp)

/-- A thread may run alone for a while, answered by a server the system admits. -/
theorem Reach.advance {T : Prog.Server Op Ans ε σ} {i : ι} (n : Nat)
    {x y : Config ι Op Ans ε α σ} (h : Reach S dead x y)
    (hT : Prog.Admitted (S.answers i) T n (y.thread i) y.state) :
    Reach S dead x ⟨(Prog.advance T n (y.thread i) y.state).2,
      Function.update y.thread i (Prog.advance T n (y.thread i) y.state).1⟩ := by
  induction n generalizing y with
  | zero =>
      have hstay : Function.update y.thread i (y.thread i) = y.thread :=
        Function.update_eq_self i y.thread
      simpa [Prog.advance, hstay] using h
  | succ n ih =>
      cases hp : y.thread i with
      | ret a => simpa [Prog.advance, ← hp, Function.update_eq_self] using h
      | raise e => simpa [Prog.advance, ← hp, Function.update_eq_self] using h
      | call o k =>
          rw [hp] at hT
          have hstep := h.tail (Step.call hp hT.1)
          simpa [Prog.advance] using ih hstep (by simpa using hT.2)

/-- Thread `i` has started `p`, and a server has answered its first `n` calls. -/
def Config.serve (x : Config ι Op Ans ε α σ) (T : Prog.Server Op Ans ε σ) (i : ι) (n : Nat)
    (p : Prog Op Ans ε α) : Config ι Op Ans ε α σ where
  state := (Prog.advance T n p x.state).2
  thread := Function.update x.thread i (Prog.advance T n p x.state).1

theorem Reach.serve {T : Prog.Server Op Ans ε σ} {i : ι} {p : Prog Op Ans ε α} (n : Nat)
    {x y : Config ι Op Ans ε α σ} (h : Reach S dead x y) (done : Finished (y.thread i))
    (hp : S.starts i p y.state y.state) (hT : Prog.Admitted (S.answers i) T n p y.state) :
    Reach S dead x (y.serve T i n p) := by
  have hrun := (h.start done hp).advance (i := i) (T := T) n (by simpa using hT)
  simpa [Config.serve] using hrun

theorem Outline.Holds.update {L : Outline S} {x : Config ι Op Ans ε α σ} {i : ι}
    {p : Prog Op Ans ε α} {s' : σ} (hx : L.Holds x) (hkeeps : L.Keeps i x.state s')
    (hp : L.Safe i p s') : L.Holds ⟨s', Function.update x.thread i p⟩ := by
  refine ⟨hkeeps.1, fun j => ?_⟩
  by_cases hj : j = i
  · subst hj
    simpa using hp
  · simpa [Function.update_of_ne hj] using (hx.2 j).moved (hkeeps.2 j hj)

/-- One step keeps what an outline promises. -/
theorem Step.holds {L : Outline S} (hL : L.Sound dead) {x y : Config ι Op Ans ε α σ}
    (h : Step S dead x y) (hx : L.Holds x) : L.Holds y := by
  cases h with
  | @start i p s' done h =>
      obtain ⟨r, hpost⟩ : ∃ r, L.post i r x.state := by
        have hsafe := hx.2 i
        cases hp : x.thread i with
        | ret a =>
            rw [hp] at hsafe
            exact ⟨_, hsafe⟩
        | raise e =>
            rw [hp] at hsafe
            exact ⟨_, hsafe⟩
        | call o k =>
            rw [hp] at done
            exact done.elim
      obtain ⟨hkeeps, hsafe⟩ := hL.start i r p x.state s' hx.1 hpost h
      exact hx.update hkeeps hsafe
  | @call i o k r s' at_call h =>
      have hsafe : L.Safe i (.call o k) x.state := at_call ▸ hx.2 i
      have hrefl : L.rely i x.state x.state := L.rely_refl i _
      exact hx.update (hsafe.1 _ hrefl hx.1 r s' h) (hsafe.2 r s' ⟨_, hrefl, hx.1, h⟩)
  | drift h =>
      obtain ⟨hinv, hrely⟩ := hL.drift _ _ hx.1 h
      exact ⟨hinv, fun i => (hx.2 i).moved (hrely i)⟩
  | crash h => exact hL.crash _ _ hx.1 h

/-- Every run keeps what an outline promises. -/
theorem Reach.holds {L : Outline S} (hL : L.Sound dead) {x y : Config ι Op Ans ε α σ}
    (h : Reach S dead x y) (hx : L.Holds x) : L.Holds y := by
  induction h with
  | refl => exact hx
  | tail _ hstep ih => exact hstep.holds hL ih

/-- Threads whose programs keep a contract when they start keep it. -/
theorem Reach.sends {C : Prog.Contract Op Ans ε} {Q : α → Prop} {I : ι → Prop}
    (hstart : ∀ i p s s', I i → S.starts i p s s' → Prog.Sends C Q p)
    (hanswers : ∀ i o s r s', S.answers i o s r s' → C.answers o r)
    (hdead : Prog.Sends C Q dead) {x y : Config ι Op Ans ε α σ} (h : Reach S dead x y)
    (hx : ∀ i, I i → Prog.Sends C Q (x.thread i)) : ∀ i, I i → Prog.Sends C Q (y.thread i) := by
  induction h with
  | refl => exact hx
  | tail _ hstep ih =>
      intro j hj
      cases hstep with
      | @start i p s' done h =>
          by_cases hij : j = i
          · subst hij
            simpa using hstart j p _ s' hj h
          · simpa [Function.update_of_ne hij] using ih j hj
      | @call i o k r s' at_call h =>
          by_cases hij : j = i
          · subst hij
            have hcall := ih j hj
            rw [at_call] at hcall
            have hrest : Prog.Sends C Q (k r) := hcall.2 r () (hanswers j o _ r s' h)
            simpa using hrest
          · simpa [Function.update_of_ne hij] using ih j hj
      | drift h => exact ih j hj
      | crash h => exact hdead

end Pool
