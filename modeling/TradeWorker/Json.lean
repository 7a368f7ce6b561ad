import Mathlib.Data.List.Nodup

/-!
# Documents and dictionaries

A JSON document as it is written, and the dictionary that reading an object makes of
it: one value for each key, in the order the keys first occur, the value given last.
A dictionary carries the proof that its keys differ, so an entry and a lookup say the
same thing.

`sift` is the loop that goes through entries one by one, keeps what a check makes of
those it accepts, and collects a reason for each of the others.
-/

/-- A document; a number that is no integer keeps its literal. -/
inductive Json where
  | null
  | bool (b : Bool)
  | int (n : Int)
  | float (literal : String)
  | str (s : String)
  | arr (items : List Json)
  | obj (fields : List (String × Json))

/-! ## Dictionaries -/

/-- Entries under distinct keys, in order. -/
structure Dict (K V : Type) where
  entries : List (K × V)
  nodup_keys : (entries.map Prod.fst).Nodup

namespace Dict

variable {K V W : Type}

theorem ext {d d' : Dict K V} (h : d.entries = d'.entries) : d = d' := by
  cases d
  cases d'
  cases h
  rfl

def empty : Dict K V where
  entries := []
  nodup_keys := List.nodup_nil

def keys (d : Dict K V) : List K := d.entries.map Prod.fst

/-- What a function keeps of the entries, under the same keys. -/
def filterMap (f : K → V → Option W) (d : Dict K V) : Dict K W where
  entries := d.entries.filterMap fun e => (f e.1 e.2).map (e.1, ·)
  nodup_keys := by
    have hsub : ∀ l : List (K × V),
        ((l.filterMap fun e => (f e.1 e.2).map (e.1, ·)).map Prod.fst).Sublist
          (l.map Prod.fst) := by
      intro l
      induction l with
      | nil => exact List.Sublist.slnil
      | cons e rest ih =>
          cases hf : f e.1 e.2 with
          | none => simpa [hf] using ih.cons e.1
          | some w => simpa [hf] using ih.cons_cons e.1
    exact d.nodup_keys.sublist (hsub d.entries)

theorem mem_filterMap {f : K → V → Option W} {d : Dict K V} {k : K} {w : W} :
    (k, w) ∈ (d.filterMap f).entries ↔ ∃ v, (k, v) ∈ d.entries ∧ f k v = some w := by
  simp only [filterMap, List.mem_filterMap, Option.map_eq_some_iff, Prod.mk.injEq]
  constructor
  · rintro ⟨⟨k', v⟩, hmem, w', hf, rfl, rfl⟩
    exact ⟨v, hmem, hf⟩
  · rintro ⟨v, hmem, hf⟩
    exact ⟨(k, v), hmem, w, hf, rfl, rfl⟩

variable [DecidableEq K]

def get? (d : Dict K V) (k : K) : Option V := d.entries.lookup k

/-- One entry decides a lookup, or leaves it to the rest. -/
theorem lookup_cons_eq (k : K) (e : K × V) (rest : List (K × V)) :
    (e :: rest).lookup k = if k = e.1 then some e.2 else rest.lookup k := by
  rw [List.lookup_cons]
  by_cases h : k = e.1
  · simp [h]
  · simp [h, beq_eq_false_iff_ne.mpr h]

theorem mem_of_get? {d : Dict K V} {k : K} {v : V} (h : d.get? k = some v) :
    (k, v) ∈ d.entries := by
  obtain ⟨before, after, hentries, -⟩ := List.lookup_eq_some_iff.mp h
  rw [hentries]
  exact List.mem_append_right _ List.mem_cons_self

theorem get?_of_mem {d : Dict K V} {k : K} {v : V} (h : (k, v) ∈ d.entries) :
    d.get? k = some v := by
  have hnodup := d.nodup_keys
  unfold get?
  generalize d.entries = entries at h hnodup ⊢
  induction entries with
  | nil => cases h
  | cons e rest ih =>
      rw [List.map_cons, List.nodup_cons] at hnodup
      rw [lookup_cons_eq]
      rcases List.mem_cons.mp h with rfl | hrest
      · exact if_pos rfl
      · rw [if_neg]
        · exact ih hrest hnodup.2
        · rintro rfl
          exact hnodup.1 (List.mem_map.mpr ⟨_, hrest, rfl⟩)

/-- An entry is what the lookup of its key finds. -/
theorem mem_entries_iff {d : Dict K V} {k : K} {v : V} :
    (k, v) ∈ d.entries ↔ d.get? k = some v :=
  ⟨get?_of_mem, mem_of_get?⟩

theorem get?_filterMap (f : K → V → Option W) (d : Dict K V) (k : K) :
    (d.filterMap f).get? k = (d.get? k).bind (f k) := by
  ext w
  rw [← mem_entries_iff, mem_filterMap, Option.bind_eq_some_iff]
  simp only [mem_entries_iff]

/-! ### Assignment -/

/-- The entries after `d[k] = v`: a key in place keeps its place. -/
def assign (k : K) (v : V) : List (K × V) → List (K × V)
  | [] => [(k, v)]
  | e :: rest => if e.1 = k then (k, v) :: rest else e :: assign k v rest

theorem assign_of_not_mem {k : K} {v : V} {entries : List (K × V)}
    (h : k ∉ entries.map Prod.fst) : assign k v entries = entries ++ [(k, v)] := by
  induction entries with
  | nil => rfl
  | cons e rest ih =>
      rw [List.map_cons, List.mem_cons, not_or] at h
      rw [assign, if_neg (Ne.symm h.1), ih h.2, List.cons_append]

theorem keys_assign (k : K) (v : V) (entries : List (K × V)) :
    (assign k v entries).map Prod.fst =
      if k ∈ entries.map Prod.fst then entries.map Prod.fst
      else entries.map Prod.fst ++ [k] := by
  induction entries with
  | nil => rfl
  | cons e rest ih =>
      by_cases he : e.1 = k
      · simp [assign, he]
      · rw [assign, if_neg he, List.map_cons, ih, List.map_cons]
        by_cases hk : k ∈ rest.map Prod.fst
        · rw [if_pos hk, if_pos (List.mem_cons_of_mem _ hk)]
        · rw [if_neg hk, if_neg, List.cons_append]
          rw [List.mem_cons, not_or]
          exact ⟨Ne.symm he, hk⟩

/-- `d[k] = v`. -/
def insert (d : Dict K V) (k : K) (v : V) : Dict K V where
  entries := assign k v d.entries
  nodup_keys := by
    rw [keys_assign]
    split
    · exact d.nodup_keys
    · rename_i hk
      exact d.nodup_keys.append (List.nodup_singleton k) (by simpa using hk)

theorem get?_insert (d : Dict K V) (k k' : K) (v : V) :
    (d.insert k v).get? k' = if k' = k then some v else d.get? k' := by
  unfold get? insert
  dsimp only
  induction d.entries with
  | nil => rw [assign, lookup_cons_eq]
  | cons e rest ih =>
      by_cases he : e.1 = k
      · rw [assign, if_pos he, lookup_cons_eq, lookup_cons_eq, he]
        split <;> rfl
      · rw [assign, if_neg he, lookup_cons_eq, lookup_cons_eq, ih]
        by_cases h : k' = e.1
        · rw [if_pos h, if_pos h, if_neg]
          exact fun hk => he (h.symm.trans hk)
        · rw [if_neg h, if_neg h]

/-- Assignments one after the other. -/
def ofPairs (pairs : List (K × V)) : Dict K V :=
  pairs.foldl (fun d e => d.insert e.1 e.2) empty

/-- Under distinct keys every assignment adds its entry. -/
theorem entries_ofPairs {pairs : List (K × V)} (h : (pairs.map Prod.fst).Nodup) :
    (ofPairs pairs).entries = pairs := by
  have hadd : ∀ (l : List (K × V)) (d : Dict K V),
      ((d.entries ++ l).map Prod.fst).Nodup →
        (l.foldl (fun d e => d.insert e.1 e.2) d).entries = d.entries ++ l := by
    intro l
    induction l with
    | nil => simp
    | cons e rest ih =>
        intro d hd
        have hfresh : e.1 ∉ d.entries.map Prod.fst := by
          rw [List.map_append, List.nodup_append] at hd
          intro hmem
          exact hd.2.2 _ hmem _ (by simp) rfl
        have hentries : (d.insert e.1 e.2).entries = d.entries ++ [e] :=
          assign_of_not_mem hfresh
        rw [List.foldl_cons, ih, hentries, List.append_assoc, List.singleton_append]
        rwa [hentries, List.append_assoc, List.singleton_append]
  simpa [ofPairs, empty] using hadd pairs empty (by simpa [empty] using h)

theorem ofPairs_entries (d : Dict K V) : ofPairs d.entries = d :=
  ext (entries_ofPairs d.nodup_keys)

theorem get?_singleton (k k' : K) (v : V) :
    (ofPairs [(k', v)]).get? k = if k = k' then some v else none := by
  exact lookup_cons_eq k (k', v) []

/-- Only no assignment at all leaves no entry. -/
theorem eq_nil_of_ofPairs {pairs : List (K × V)} (h : (ofPairs pairs).entries = []) :
    pairs = [] := by
  have hgrows : ∀ (l : List (K × V)) (d : Dict K V), d.entries ≠ [] →
      (l.foldl (fun d e => d.insert e.1 e.2) d).entries ≠ [] := by
    intro l
    induction l with
    | nil => exact fun d hd => hd
    | cons e rest ih =>
        intro d hd
        refine ih _ fun hnil => ?_
        have hkeys := keys_assign e.1 e.2 d.entries
        rw [show assign e.1 e.2 d.entries = [] from hnil] at hkeys
        split at hkeys
        · exact hd (List.map_eq_nil_iff.mp hkeys.symm)
        · simp at hkeys
  cases pairs with
  | nil => rfl
  | cons e rest =>
      exact absurd h (hgrows rest (empty.insert e.1 e.2) (by simp [insert, empty, assign]))

end Dict

namespace Json

def dict? : Json → Option (Dict String Json)
  | .obj fields => some (Dict.ofPairs fields)
  | _ => none

def items? : Json → Option (List Json)
  | .arr items => some items
  | _ => none

theorem eq_obj_nil {raw : Json} {d : Dict String Json} (h : raw.dict? = some d)
    (hd : d.entries = []) : raw = .obj [] := by
  cases raw with
  | obj fields =>
      obtain rfl := Option.some.inj h
      rw [Dict.eq_nil_of_ofPairs hd]
  | null | bool | int | float | str | arr => cases h

end Json

/-! ## Sifting -/

section Sift

variable {α β ρ : Type}

def refusal? : Except ρ β → Option ρ
  | .ok _ => none
  | .error r => some r

@[simp] theorem refusal?_ok (b : β) : refusal? (Except.ok b : Except ρ β) = none := rfl

@[simp] theorem refusal?_error (r : ρ) : refusal? (Except.error r : Except ρ β) = some r := rfl

/-- Keep what the check accepts, and note why the rest was refused. -/
def sift (check : α → Except ρ β) : List α → List β → List ρ → List β × List ρ
  | [], kept, dropped => (kept, dropped)
  | a :: rest, kept, dropped =>
      match check a with
      | .ok b => sift check rest (kept ++ [b]) dropped
      | .error r => sift check rest kept (dropped ++ [r])

/-- The survivors are those the check accepts, in order; the others each give one
reason. -/
theorem sift_eq (check : α → Except ρ β) (l : List α) (kept : List β) (dropped : List ρ) :
    sift check l kept dropped =
      (kept ++ l.filterMap fun a => (check a).toOption,
        dropped ++ l.filterMap fun a => refusal? (check a)) := by
  induction l generalizing kept dropped with
  | nil => simp [sift]
  | cons a rest ih =>
      cases h : check a with
      | ok b => simp [sift, h, ih, Except.toOption, refusal?]
      | error r => simp [sift, h, ih, Except.toOption, refusal?]

/-- Every entry survives or is given a reason. -/
theorem length_survivors_add_reasons (check : α → Except ρ β) (l : List α) :
    (l.filterMap fun a => (check a).toOption).length +
      (l.filterMap fun a => refusal? (check a)).length = l.length := by
  induction l with
  | nil => rfl
  | cons a rest ih =>
      rw [List.filterMap_cons, List.filterMap_cons]
      cases h : check a with
      | ok b =>
          have hkept : (Except.ok b : Except ρ β).toOption = some b := rfl
          simp only [hkept, refusal?_ok, List.length_cons]
          omega
      | error r =>
          have hkept : (Except.error r : Except ρ β).toOption = none := rfl
          simp only [hkept, refusal?_error, List.length_cons]
          omega

end Sift
