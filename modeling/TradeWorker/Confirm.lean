import Mathlib.Data.Finset.Dedup
import Mathlib.Data.Finset.Union

/-!
# Confirmation on two consecutive passes

A watchdog that acts on a candidate only when it has seen it twice: each pass
lists its candidates under keys, acts on those whose key was listed by the pass
before, and remembers the keys it listed. Passes may be skipped; a skipped pass
neither acts nor forgets.

Candidates are kept the way a Python dict built from a list keeps them: one
entry for each key, in the order keys first appear, with the last value given.
-/

namespace Confirm

variable {K V : Type} [DecidableEq K]

/-! ## Dictionaries in insertion order -/

/-- `d[k] = v`. -/
def upsert (k : K) (v : V) : List (K × V) → List (K × V)
  | [] => [(k, v)]
  | (k', v') :: rest => if k' = k then (k, v) :: rest else (k', v') :: upsert k v rest

/-- `{key(v): v for v in vs}`, from the entries already there. -/
def keyByFrom (key : V → K) : List (K × V) → List V → List (K × V)
  | d, [] => d
  | d, v :: vs => keyByFrom key (upsert (key v) v d) vs

/-- `{key(v): v for v in vs}`. -/
def keyBy (key : V → K) (vs : List V) : List (K × V) := keyByFrom key [] vs

theorem mem_upsert {k : K} {v : V} {d : List (K × V)} {e : K × V}
    (h : e ∈ upsert k v d) : e = (k, v) ∨ e ∈ d := by
  induction d with
  | nil => simpa [upsert] using h
  | cons e' rest ih =>
      unfold upsert at h
      split at h
      · rcases List.mem_cons.mp h with rfl | h
        · exact Or.inl rfl
        · exact Or.inr (List.mem_cons_of_mem _ h)
      · rcases List.mem_cons.mp h with rfl | h
        · exact Or.inr List.mem_cons_self
        · exact (ih h).imp_right (List.mem_cons_of_mem _)

theorem keys_upsert (k : K) (v : V) (d : List (K × V)) (k' : K) :
    (∃ v', (k', v') ∈ upsert k v d) ↔ k' = k ∨ ∃ v', (k', v') ∈ d := by
  induction d with
  | nil => simp [upsert]
  | cons e rest ih =>
      obtain ⟨k₀, v₀⟩ := e
      unfold upsert
      by_cases hk : k₀ = k
      · subst hk
        simp only [if_true, List.mem_cons, Prod.mk.injEq]
        constructor
        · rintro ⟨v', ⟨rfl, -⟩ | h⟩
          · exact Or.inl rfl
          · exact Or.inr ⟨v', Or.inr h⟩
        · rintro (rfl | ⟨v', ⟨rfl, -⟩ | h⟩)
          · exact ⟨v, Or.inl ⟨rfl, rfl⟩⟩
          · exact ⟨v, Or.inl ⟨rfl, rfl⟩⟩
          · exact ⟨v', Or.inr h⟩
      · simp only [hk, if_false, List.mem_cons, exists_or, ih]
        exact or_left_comm

theorem mem_keyByFrom {key : V → K} {d : List (K × V)} {vs : List V} {e : K × V}
    (h : e ∈ keyByFrom key d vs) : e ∈ d ∨ e.2 ∈ vs ∧ key e.2 = e.1 := by
  induction vs generalizing d with
  | nil => exact Or.inl h
  | cons v vs ih =>
      rcases ih h with hd | ⟨hmem, hkey⟩
      · rcases mem_upsert hd with rfl | hd
        · exact Or.inr ⟨List.mem_cons_self, rfl⟩
        · exact Or.inl hd
      · exact Or.inr ⟨List.mem_cons_of_mem _ hmem, hkey⟩

/-- An entry holds a value of the list, under that value's key. -/
theorem mem_keyBy {key : V → K} {vs : List V} {e : K × V} (h : e ∈ keyBy key vs) :
    e.2 ∈ vs ∧ key e.2 = e.1 := by
  simpa using mem_keyByFrom h

theorem keys_keyByFrom (key : V → K) (d : List (K × V)) (vs : List V) (k : K) :
    (∃ v, (k, v) ∈ keyByFrom key d vs) ↔ (∃ v, (k, v) ∈ d) ∨ ∃ v ∈ vs, key v = k := by
  induction vs generalizing d with
  | nil => simp [keyByFrom]
  | cons v vs ih =>
      rw [keyByFrom, ih, keys_upsert]
      simp only [List.mem_cons, exists_eq_or_imp, eq_comm (a := k)]
      rw [or_comm (a := key v = k), or_assoc]

/-- The keys are those of the values. -/
theorem keys_keyBy (key : V → K) (vs : List V) (k : K) :
    (∃ v, (k, v) ∈ keyBy key vs) ↔ ∃ v ∈ vs, key v = k := by
  simp [keyBy, keys_keyByFrom]

theorem upsert_keys_nodup (k : K) (v : V) {d : List (K × V)} (hd : (d.map (·.1)).Nodup) :
    ((upsert k v d).map (·.1)).Nodup := by
  induction d with
  | nil => exact List.nodup_singleton k
  | cons e rest ih =>
      obtain ⟨k₀, v₀⟩ := e
      obtain ⟨hnew, hrest⟩ := List.nodup_cons.mp hd
      unfold upsert
      by_cases hk : k₀ = k
      · subst hk
        simpa using hd
      · rw [if_neg hk]
        refine List.nodup_cons.mpr ⟨fun hmem => ?_, ih hrest⟩
        obtain ⟨⟨k₁, v₁⟩, he, hkey⟩ := List.mem_map.mp hmem
        obtain rfl : k₁ = k₀ := hkey
        rcases (keys_upsert k v rest k₁).mp ⟨v₁, he⟩ with hsame | ⟨v', hold⟩
        · exact hk hsame
        · exact hnew (List.mem_map.mpr ⟨(k₁, v'), hold, rfl⟩)

theorem keys_nodup_keyBy (key : V → K) (vs : List V) : ((keyBy key vs).map (·.1)).Nodup := by
  have hfrom : ∀ d : List (K × V), (d.map (·.1)).Nodup →
      ((keyByFrom key d vs).map (·.1)).Nodup := by
    induction vs with
    | nil => exact fun d hd => hd
    | cons v vs ih => exact fun d hd => ih _ (upsert_keys_nodup (key v) v hd)
  exact hfrom [] List.nodup_nil

/-! ## Passes -/

/-- The keys a pass remembers. -/
def keySet (candidates : List (K × V)) : Finset K := (candidates.map (·.1)).toFinset

/-- The candidates a pass acts on. -/
def confirmed (suspects : Finset K) (candidates : List (K × V)) : List V :=
  (candidates.filter (·.1 ∈ suspects)).map (·.2)

theorem mem_keySet {candidates : List (K × V)} {k : K} :
    k ∈ keySet candidates ↔ ∃ v, (k, v) ∈ candidates := by
  simp [keySet]

theorem mem_confirmed {suspects : Finset K} {candidates : List (K × V)} {v : V} :
    v ∈ confirmed suspects candidates ↔ ∃ k ∈ suspects, (k, v) ∈ candidates := by
  simp [confirmed, and_comm]

/-- A pass acts once for each key. -/
theorem confirmed_keys_nodup (suspects : Finset K) (key : V → K) (vs : List V) :
    ((confirmed suspects (keyBy key vs)).map key).Nodup := by
  have hkeys : (confirmed suspects (keyBy key vs)).map key =
      ((keyBy key vs).filter (·.1 ∈ suspects)).map (·.1) := by
    unfold confirmed
    rw [List.map_map]
    refine List.map_congr_left fun e he => ?_
    exact (mem_keyBy (List.mem_of_mem_filter he)).2
  rw [hkeys]
  exact (List.filter_sublist.map _).nodup (keys_nodup_keyBy key vs)

/-- The suspects after a sequence of passes; `none` is a skipped one. -/
def suspectsAfter (suspects : Finset K) : List (Option (List (K × V))) → Finset K
  | [] => suspects
  | none :: rest => suspectsAfter suspects rest
  | some candidates :: rest => suspectsAfter (keySet candidates) rest

theorem suspectsAfter_append (suspects : Finset K)
    (xs ys : List (Option (List (K × V)))) :
    suspectsAfter suspects (xs ++ ys) = suspectsAfter (suspectsAfter suspects xs) ys := by
  induction xs generalizing suspects with
  | nil => rfl
  | cons x xs ih => cases x <;> exact ih _

theorem suspectsAfter_skipped (suspects : Finset K) {xs : List (Option (List (K × V)))}
    (h : ∀ x ∈ xs, x = none) : suspectsAfter suspects xs = suspects := by
  induction xs with
  | nil => rfl
  | cons x xs ih =>
      rw [h x List.mem_cons_self]
      exact ih fun y hy => h y (List.mem_cons_of_mem _ hy)

/-- A suspect was listed by the last pass that was not skipped. -/
theorem mem_suspectsAfter {xs : List (Option (List (K × V)))} {k : K}
    (h : k ∈ suspectsAfter ∅ xs) :
    ∃ before candidates skipped, xs = before ++ some candidates :: skipped ∧
      (∀ x ∈ skipped, x = none) ∧ ∃ v, (k, v) ∈ candidates := by
  induction xs using List.reverseRecOn with
  | nil => simp [suspectsAfter] at h
  | append_singleton xs x ih =>
      rw [suspectsAfter_append] at h
      cases x with
      | none =>
          obtain ⟨before, candidates, skipped, rfl, hskipped, hk⟩ := ih h
          refine ⟨before, candidates, skipped ++ [none], by simp, ?_, hk⟩
          intro y hy
          rcases List.mem_append.mp hy with hy | hy
          · exact hskipped y hy
          · exact List.mem_singleton.mp hy
      | some candidates =>
          exact ⟨xs, candidates, [], rfl, by simp, mem_keySet.mp h⟩

/-- What the last pass that was not skipped listed is suspected. -/
theorem suspectsAfter_last (suspects : Finset K) (before : List (Option (List (K × V))))
    (candidates : List (K × V)) {skipped : List (Option (List (K × V)))}
    (h : ∀ x ∈ skipped, x = none) :
    suspectsAfter suspects (before ++ some candidates :: skipped) = keySet candidates := by
  rw [suspectsAfter_append]
  exact suspectsAfter_skipped _ h

end Confirm
