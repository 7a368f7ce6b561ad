import Mathlib.Data.List.Nodup

/-!
# Batches of independent orders

A loop that sends one order for each item of a list and carries on when an
order is refused; only an exception ends it early. Orders are answered by their
number, so a script of answers fixes what becomes of every batch. Such a loop
that reports success when *some* order was filled reports what it was asked for
only if its answers agree.
-/

namespace Batch

variable {α ρ ε : Type} (done : ρ → Bool) (answer : Nat → Except ε ρ)

/-- The first exception among the answers to a batch whose first order is the
`n`-th. -/
def fault : Nat → List α → Option ε
  | _, [] => none
  | n, _ :: as =>
      match answer n with
      | .error e => some e
      | .ok _ => fault (n + 1) as

/-- The items whose orders were filled before any exception. -/
def filled : Nat → List α → List α
  | _, [] => []
  | n, a :: as =>
      match answer n with
      | .error _ => []
      | .ok r => if done r then a :: filled (n + 1) as else filled (n + 1) as

/-- The answers that filled an order before any exception. -/
def reports : Nat → List α → List ρ
  | _, [] => []
  | n, _ :: as =>
      match answer n with
      | .error _ => []
      | .ok r => if done r then r :: reports (n + 1) as else reports (n + 1) as

/-- The items whose order was sent: all up to the first exception, its own
included. -/
def reached : Nat → List α → List α
  | _, [] => []
  | n, a :: as =>
      a :: match answer n with
        | .error _ => []
        | .ok _ => reached (n + 1) as

/-- The number of the first order after the batch. -/
def next : Nat → List α → Nat
  | n, [] => n
  | n, _ :: as =>
      match answer n with
      | .error _ => n + 1
      | .ok _ => next (n + 1) as

/-- The answer reports a fill. -/
def Fills (x : Except ε ρ) : Prop := ∃ r, x = .ok r ∧ done r = true

/-- The answer reports that nothing was done. -/
def Refuses (x : Except ε ρ) : Prop := ∃ r, x = .ok r ∧ done r = false

/-- The answers to a batch agree, or one of them is an exception. -/
def Uniform (n : Nat) (as : List α) : Prop :=
  (∃ i < as.length, ∃ e, answer (n + i) = .error e) ∨
    (∀ i < as.length, Refuses done (answer (n + i))) ∨
    ∀ i < as.length, Fills done (answer (n + i))

variable {done answer}

theorem not_fills_of_refuses {x : Except ε ρ} (h : Refuses done x) : ¬ Fills done x := by
  rintro ⟨r, hr, hdone⟩
  obtain ⟨r', hr', hrefused⟩ := h
  cases hr.symm.trans hr'
  exact absurd hdone (by simp [hrefused])

/-- A property of every answer to a batch splits at its first order. -/
theorem forall_answers_cons {p : Except ε ρ → Prop} {n : Nat} {a : α} {as : List α} :
    (∀ i < (a :: as).length, p (answer (n + i))) ↔
      p (answer n) ∧ ∀ i < as.length, p (answer (n + 1 + i)) := by
  constructor
  · intro h
    refine ⟨h 0 (by simp), fun i hi => ?_⟩
    have := h (i + 1) (by simpa using hi)
    rwa [show n + (i + 1) = n + 1 + i by omega] at this
  · rintro ⟨hhead, htail⟩ i hi
    cases i with
    | zero => exact hhead
    | succ i =>
        rw [show n + (i + 1) = n + 1 + i by omega]
        exact htail i (by simpa using hi)

theorem fault_eq_none_iff {n : Nat} {as : List α} :
    fault answer n as = none ↔ ∀ i < as.length, ∃ r, answer (n + i) = .ok r := by
  induction as generalizing n with
  | nil => simp [fault]
  | cons a as ih =>
      rw [forall_answers_cons (p := fun x => ∃ r, x = .ok r), ← ih, fault]
      cases answer n <;> simp

theorem filled_sublist (n : Nat) (as : List α) :
    (filled done answer n as).Sublist as := by
  induction as generalizing n with
  | nil => exact List.Sublist.refl _
  | cons a as ih =>
      unfold filled
      split
      · exact List.nil_sublist _
      · split
        · exact (ih _).cons_cons a
        · exact (ih _).cons a

theorem mem_of_mem_filled {n : Nat} {as : List α} {a : α}
    (h : a ∈ filled done answer n as) : a ∈ as :=
  (filled_sublist n as).subset h

theorem reached_sublist (n : Nat) (as : List α) : (reached answer n as).Sublist as := by
  induction as generalizing n with
  | nil => exact List.Sublist.refl _
  | cons a as ih =>
      unfold reached
      split
      · exact (List.nil_sublist as).cons_cons a
      · exact (ih _).cons_cons a

/-- A filled order was sent. -/
theorem mem_reached_of_mem_filled {n : Nat} {as : List α} {a : α}
    (h : a ∈ filled done answer n as) : a ∈ reached answer n as := by
  induction as generalizing n with
  | nil => cases h
  | cons b as ih =>
      unfold filled at h
      unfold reached
      cases hn : answer n with
      | error e => simp [hn] at h
      | ok r =>
          simp only [hn] at h
          split at h
          · rcases List.mem_cons.mp h with rfl | hrest
            · exact List.mem_cons_self
            · exact List.mem_cons_of_mem b (ih hrest)
          · exact List.mem_cons_of_mem b (ih h)

theorem reports_eq_nil_iff {n : Nat} {as : List α} :
    reports done answer n as = [] ↔ filled done answer n as = [] := by
  induction as generalizing n with
  | nil => simp [reports, filled]
  | cons a as ih =>
      unfold reports filled
      split
      · simp
      · split
        · simp
        · exact ih

/-- Every item was filled exactly when every answer says so. -/
theorem filled_eq_self_iff {n : Nat} {as : List α} :
    filled done answer n as = as ↔ ∀ i < as.length, Fills done (answer (n + i)) := by
  induction as generalizing n with
  | nil => simp [filled]
  | cons a as ih =>
      rw [forall_answers_cons (p := Fills done), ← ih, filled]
      cases hn : answer n with
      | error e => simp [Fills]
      | ok r =>
          cases hr : done r with
          | true => simp [Fills, hr]
          | false =>
              -- a refused head leaves too few items
              have hlen : (filled done answer (n + 1) as).length ≤ as.length :=
                (filled_sublist (n + 1) as).length_le
              simp only [hr, Bool.false_eq_true, if_false]
              constructor
              · intro h
                have := congrArg List.length h
                rw [List.length_cons] at this
                omega
              · rintro ⟨⟨r', hr', hdone⟩, -⟩
                cases hr'
                simp [hr] at hdone

/-- Without an exception, nothing was filled exactly when every answer refuses. -/
theorem filled_eq_nil_iff {n : Nat} {as : List α} (hfault : fault answer n as = none) :
    filled done answer n as = [] ↔ ∀ i < as.length, Refuses done (answer (n + i)) := by
  induction as generalizing n with
  | nil => simp [filled]
  | cons a as ih =>
      rw [forall_answers_cons (p := Refuses done), filled]
      unfold fault at hfault
      cases hn : answer n with
      | error e => simp [hn] at hfault
      | ok r =>
          rw [← ih (by simpa [hn] using hfault)]
          cases hr : done r <;> simp [Refuses, hr]

/-- One refusal among fills leaves its item out. -/
theorem filled_append_refused {n : Nat} {as bs : List α} {a : α}
    (hfills : ∀ i, i ≠ as.length → Fills done (answer (n + i)))
    (hrefuses : Refuses done (answer (n + as.length))) :
    filled done answer n (as ++ a :: bs) = as ++ bs := by
  induction as generalizing n with
  | nil =>
      obtain ⟨r, hr, hrefused⟩ := hrefuses
      have hrest : filled done answer (n + 1) bs = bs :=
        filled_eq_self_iff.mpr fun i _ => by
          have hi := hfills (i + 1) (Nat.succ_ne_zero i)
          rwa [show n + (i + 1) = n + 1 + i by omega] at hi
      rw [List.nil_append, List.nil_append, filled, show answer n = .ok r from hr]
      simp [hrefused, hrest]
  | cons b as ih =>
      obtain ⟨r, hr, hdone⟩ := hfills 0 (Nat.succ_ne_zero _).symm
      have hrest : filled done answer (n + 1) (as ++ a :: bs) = as ++ bs := by
        refine ih (fun i hi => ?_) ?_
        · have hnext := hfills (i + 1) (by simpa using hi)
          rwa [show n + (i + 1) = n + 1 + i by omega] at hnext
        · rwa [show n + 1 + as.length = n + (b :: as).length by rw [List.length_cons]; omega]
      rw [List.cons_append, filled, show answer n = .ok r from hr]
      simp [hdone, hrest]

/-- A loop that reports success on some fill leaves nothing of its batch unfilled
exactly when the answers agree. -/
theorem uniform_iff {n : Nat} {as : List α} (hnodup : as.Nodup) :
    Uniform done answer n as ↔
      (fault answer n as = none → filled done answer n as ≠ [] →
        ∀ a ∈ as, a ∈ filled done answer n as) := by
  have hall : (∀ a ∈ as, a ∈ filled done answer n as) ↔
      filled done answer n as = as := by
    constructor
    · intro h
      exact (filled_sublist n as).eq_of_length_le (hnodup.length_le_of_subset h)
    · intro h a ha
      rwa [h]
  constructor
  · rintro (⟨i, hi, e, he⟩ | hrefused | hfilled) hfault hne
    · obtain ⟨r, hr⟩ := fault_eq_none_iff.mp hfault i hi
      cases he.symm.trans hr
    · exact absurd ((filled_eq_nil_iff hfault).mpr hrefused) hne
    · exact hall.mpr (filled_eq_self_iff.mpr hfilled)
  · intro h
    by_cases hfault : fault answer n as = none
    · by_cases hne : filled done answer n as = []
      · exact Or.inr (Or.inl ((filled_eq_nil_iff hfault).mp hne))
      · exact Or.inr (Or.inr (filled_eq_self_iff.mp (hall.mp (h hfault hne))))
    · refine Or.inl ?_
      by_contra hno
      push Not at hno
      refine hfault (fault_eq_none_iff.mpr fun i hi => ?_)
      cases hx : answer (n + i) with
      | ok r => exact ⟨r, rfl⟩
      | error e => exact absurd hx (hno i hi e)

/-- Without an exception every order of the batch was sent. -/
theorem next_of_fault_eq_none {n : Nat} {as : List α} (h : fault answer n as = none) :
    next answer n as = n + as.length := by
  induction as generalizing n with
  | nil => rfl
  | cons a as ih =>
      unfold fault at h
      unfold next
      cases hn : answer n with
      | error e => simp [hn] at h
      | ok r =>
          simp only [List.length_cons]
          rw [ih (by simpa [hn] using h)]
          omega

end Batch
