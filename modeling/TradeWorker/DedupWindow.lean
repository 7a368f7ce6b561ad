import Mathlib.Algebra.Order.Group.Defs
import Mathlib.Data.List.Nodup

/-!
# What came lately

A memory of keys, each with the time at which it was let through. A key that is in it is held
back, any other goes in; and at each look what is older than the window drops out. A key is held
back exactly when it was let through and every look since was within the window of that.
-/

namespace Dedup

/-- The keys that were let through lately, each with its time: a dictionary. -/
structure Memory (κ τ : Type) where
  entries : List (κ × τ) := []
  nodup : (entries.map Prod.fst).Nodup := by exact List.nodup_nil

/-- A key that was looked up, when, and whether it was held back. -/
structure Call (κ τ : Type) where
  now : τ
  key : κ
  held : Bool
  deriving DecidableEq, Repr

variable {κ τ : Type} [DecidableEq κ] [Sub τ] [LT τ] [DecidableLT τ] (window : τ)

namespace Memory

/-- What is not older than the window. -/
def prune (m : Memory κ τ) (now : τ) : Memory κ τ where
  entries := m.entries.filter fun e => now - e.2 < window
  nodup := m.nodup.sublist (List.filter_sublist.map _)

def Knows (m : Memory κ τ) (key : κ) : Prop := key ∈ m.entries.map Prod.fst

instance (m : Memory κ τ) (key : κ) : Decidable (m.Knows key) :=
  inferInstanceAs (Decidable (key ∈ _))

def insert (m : Memory κ τ) (key : κ) (now : τ) (hnew : ¬ m.Knows key) : Memory κ τ where
  entries := m.entries ++ [(key, now)]
  nodup := by
    rw [List.map_append, List.map_singleton]
    refine List.nodup_append.mpr ⟨m.nodup, List.nodup_singleton _, ?_⟩
    rintro k hk _ hmem rfl
    obtain rfl := List.mem_singleton.mp hmem
    exact hnew hk

def isDuplicate (m : Memory κ τ) (now : τ) (key : κ) : Bool × Memory κ τ :=
  if h : (m.prune window now).Knows key then (true, m.prune window now)
  else (false, (m.prune window now).insert key now h)

end Memory

/-! ## Verdicts -/

/-- The key was let through at the time, and every call since was within the window of it. -/
def Fresh (calls : List (Call κ τ)) (key : κ) (t : τ) : Prop :=
  ∃ before after, calls = before ++ ⟨t, key, false⟩ :: after ∧ ∀ c ∈ after, c.now - t < window

/-- Each call was held back exactly where its key was let through, within the window of it and
of every call since. -/
def Judged (calls : List (Call κ τ)) : Prop :=
  ∀ before c after, calls = before ++ c :: after →
    (c.held = true ↔ ∃ t, Fresh window before c.key t ∧ c.now - t < window)

/-- The memory holds what was let through and is fresh. -/
def Recalls (calls : List (Call κ τ)) (m : Memory κ τ) : Prop :=
  ∀ key t, (key, t) ∈ m.entries ↔ Fresh window calls key t

variable {window} {calls : List (Call κ τ)} {m : Memory κ τ}

omit [DecidableEq κ] [DecidableLT τ] in
theorem fresh_snoc {c : Call κ τ} {key : κ} {t : τ} :
    Fresh window (calls ++ [c]) key t ↔
      (Fresh window calls key t ∧ c.now - t < window) ∨ c = ⟨t, key, false⟩ := by
  constructor
  · rintro ⟨before, after, heq, hafter⟩
    rcases List.eq_nil_or_concat after with rfl | ⟨rest, last, rfl⟩
    · exact .inr (List.head_eq_of_cons_eq (List.append_inj_right' heq rfl))
    · rw [List.concat_eq_append] at heq hafter
      rw [← List.cons_append, ← List.append_assoc] at heq
      obtain ⟨hcalls, hlast⟩ := List.append_inj' heq rfl
      obtain rfl := List.head_eq_of_cons_eq hlast
      obtain ⟨hrest, hc⟩ := List.forall_mem_append.mp hafter
      exact .inl ⟨⟨before, rest, hcalls, hrest⟩, hc c (List.mem_singleton_self c)⟩
  · rintro (⟨⟨before, after, rfl, hafter⟩, hc⟩ | rfl)
    · refine ⟨before, after ++ [c], by simp, List.forall_mem_append.mpr ⟨hafter, fun d hd => ?_⟩⟩
      rw [List.mem_singleton.mp hd]
      exact hc
    · exact ⟨calls, [], rfl, List.forall_mem_nil _⟩

omit [DecidableEq κ] [DecidableLT τ] in
theorem Judged.snoc {c : Call κ τ} (h : Judged window calls)
    (hc : c.held = true ↔ ∃ t, Fresh window calls c.key t ∧ c.now - t < window) :
    Judged window (calls ++ [c]) := by
  intro before d after heq
  rcases List.eq_nil_or_concat after with rfl | ⟨rest, last, rfl⟩
  · obtain ⟨rfl, hlast⟩ := List.append_inj' heq rfl
    obtain rfl := List.head_eq_of_cons_eq hlast
    exact hc
  · rw [List.concat_eq_append, ← List.cons_append, ← List.append_assoc] at heq
    exact h before d rest (List.append_inj' heq rfl).1

omit [DecidableEq κ] [DecidableLT τ] in
theorem judged_nil : Judged window ([] : List (Call κ τ)) := by
  intro before c after heq
  exact absurd heq (by simp)

omit [DecidableEq κ] [DecidableLT τ] in
theorem recalls_nil : Recalls window ([] : List (Call κ τ)) ({} : Memory κ τ) := by
  intro key t
  refine iff_of_false List.not_mem_nil ?_
  rintro ⟨before, after, heq, -⟩
  exact absurd heq (by simp)

omit [DecidableEq κ] in
theorem mem_prune {now : τ} {key : κ} {t : τ} :
    (key, t) ∈ (m.prune window now).entries ↔ (key, t) ∈ m.entries ∧ now - t < window := by
  rw [Memory.prune, List.mem_filter, decide_eq_true_iff]

omit [DecidableEq κ] in
theorem Recalls.knows {now : τ} {key : κ} (h : Recalls window calls m) :
    (m.prune window now).Knows key ↔ ∃ t, Fresh window calls key t ∧ now - t < window := by
  constructor
  · intro hknows
    obtain ⟨⟨_, t⟩, hmem, rfl⟩ := List.mem_map.mp hknows
    obtain ⟨hmem, hnow⟩ := mem_prune.mp hmem
    exact ⟨t, (h _ t).mp hmem, hnow⟩
  · rintro ⟨t, hfresh, hnow⟩
    exact List.mem_map.mpr ⟨(key, t), mem_prune.mpr ⟨(h key t).mpr hfresh, hnow⟩, rfl⟩

/-- A look is judged by what the memory holds, and is remembered. -/
theorem isDuplicate_judged (hjudged : Judged window calls) (h : Recalls window calls m) (now : τ)
    (key : κ) :
    Judged window (calls ++ [⟨now, key, (m.isDuplicate window now key).1⟩]) ∧
      Recalls window (calls ++ [⟨now, key, (m.isDuplicate window now key).1⟩])
        (m.isDuplicate window now key).2 := by
  unfold Memory.isDuplicate
  split
  · rename_i hknows
    refine ⟨.snoc hjudged (iff_of_true rfl (h.knows.mp hknows)), fun k t => ?_⟩
    rw [fresh_snoc, mem_prune, h k t]
    exact ⟨.inl, fun hor => hor.resolve_right fun heq => nomatch heq⟩
  · rename_i hknows
    refine ⟨.snoc hjudged (iff_of_false Bool.false_ne_true fun hfresh =>
      hknows (h.knows.mpr hfresh)), fun k t => ?_⟩
    rw [fresh_snoc, Memory.insert, List.mem_append, mem_prune, h k t, List.mem_singleton]
    refine or_congr_right ⟨fun heq => ?_, fun heq => ?_⟩
    · cases heq
      rfl
    · cases heq
      rfl

/-! ## What the verdicts say -/

omit [DecidableEq κ] [DecidableLT τ] in
/-- A key that was let through twice was looked for past the window in between. -/
theorem Judged.expired {before mid after : List (Call κ τ)} {c d : Call κ τ}
    (h : Judged window (before ++ c :: (mid ++ d :: after))) (hc : c.held = false)
    (hd : d.held = false) (hkey : d.key = c.key) :
    ∃ e ∈ mid ++ [d], ¬ e.now - c.now < window := by
  by_contra hnone
  push Not at hnone
  obtain ⟨hmid, hlast⟩ := List.forall_mem_append.mp hnone
  have hheld : d.held = true := by
    refine (h (before ++ c :: mid) d after (by simp)).mpr ⟨c.now, ⟨before, mid, ?_, hmid⟩,
      hlast d (List.mem_singleton_self d)⟩
    rw [hkey, ← hc]
  rw [hd] at hheld
  cases hheld

section Ordered

variable {τ : Type} [AddCommGroup τ] [LinearOrder τ] [IsOrderedAddMonoid τ] {window : τ}

omit [DecidableEq κ] in
/-- By a clock that goes forward, a key is let through again no sooner than the window later. -/
theorem Judged.spaced {calls : List (Call κ τ)} (h : Judged window calls)
    (hclock : calls.Pairwise fun c d => c.now ≤ d.now) :
    (calls.filter fun c => !c.held).Pairwise fun c d => d.key = c.key → c.now + window ≤ d.now := by
  rw [List.pairwise_filter, List.pairwise_iff_forall_sublist]
  intro c d hsub hc hd hkey
  obtain ⟨upTo, from', rfl, hmem, hfrom⟩ := List.cons_sublist_iff.mp hsub
  obtain ⟨before, mid, rfl⟩ := List.append_of_mem hmem
  obtain ⟨mid', after, rfl⟩ := List.append_of_mem (List.singleton_sublist.mp hfrom)
  rw [List.append_assoc, List.cons_append, ← List.append_assoc mid] at h hclock
  obtain ⟨e, he, hexpired⟩ := h.expired (by simpa using hc) (by simpa using hd) hkey
  -- the look past the window was no later than the one that let the key through again
  have hlast : e.now ≤ d.now := by
    rcases List.mem_append.mp he with he | he
    · have hafter := (List.pairwise_cons.mp (List.pairwise_append.mp hclock).2.1).2
      exact (List.pairwise_append.mp hafter).2.2 e he d List.mem_cons_self
    · rw [List.mem_singleton.mp he]
  rw [not_lt] at hexpired
  calc c.now + window ≤ c.now + (e.now - c.now) := add_le_add_right hexpired c.now
    _ = e.now := add_sub_cancel c.now e.now
    _ ≤ d.now := hlast

end Ordered

end Dedup
