import Mathlib.Data.List.DropRight

/-!
# Lines

A text is split at every line break there is, and written with one kind of them. What is
written from lines without breaks is read as these lines, but for blank ones at the end,
which the writer drops.
-/

namespace Lines

/-- Where `str.splitlines` ends a line. -/
def isBreak (c : Char) : Bool :=
  [0x0A, 0x0B, 0x0C, 0x0D, 0x1C, 0x1D, 0x1E, 0x85, 0x2028, 0x2029].contains c.toNat

/-- `s.splitlines()`. -/
def splitlines : List Char → List (List Char)
  | [] => []
  | '\r' :: '\n' :: rest => [] :: splitlines rest
  | c :: rest =>
      if isBreak c then [] :: splitlines rest
      else
        match splitlines rest with
        | [] => [[c]]
        | line :: lines => (c :: line) :: lines

def Single (l : List Char) : Prop := ∀ c ∈ l, isBreak c = false

theorem single_of_all {l : List Char} (h : (l.all fun c => !isBreak c) = true) : Single l := by
  intro c hc
  have hnot := List.all_eq_true.mp h c hc
  rwa [Bool.not_eq_true'] at hnot

theorem Single.of_subset {l l' : List Char} (h : Single l) (hsub : ∀ c ∈ l', c ∈ l) : Single l' :=
  fun c hc => h c (hsub c hc)

theorem Single.append {l l' : List Char} (h : Single l) (h' : Single l') : Single (l ++ l') := by
  intro c hc
  rcases List.mem_append.mp hc with hc | hc
  · exact h c hc
  · exact h' c hc

theorem splitlines_cons {c : Char} (hc : isBreak c = false) (rest : List Char) :
    splitlines (c :: rest) =
      (c :: (splitlines rest).headD []) :: (splitlines rest).tail := by
  have hreturn : c ≠ '\r' := by
    rintro rfl
    exact absurd hc (by decide)
  rw [splitlines]
  · rw [if_neg (by rw [hc]; exact Bool.false_ne_true)]
    cases splitlines rest <;> rfl
  · rintro _ rfl
    exact absurd rfl hreturn

theorem splitlines_newline (rest : List Char) :
    splitlines ('\n' :: rest) = [] :: splitlines rest := rfl

/-- What is read up to a line feed. -/
theorem splitlines_append {l : List Char} (h : Single l) (rest : List Char) :
    splitlines (l ++ '\n' :: rest) = l :: splitlines rest := by
  induction l with
  | nil => exact splitlines_newline rest
  | cons c l ih =>
      rw [List.cons_append, splitlines_cons (h c List.mem_cons_self),
        ih (h.of_subset fun _ => List.mem_cons_of_mem _)]
      rfl

/-- No line has a break in it. -/
theorem single_of_mem_splitlines {text l : List Char} (h : l ∈ splitlines text) : Single l := by
  have hnil : Single [] := fun c hc => by cases hc
  have hcons : ∀ {c : Char} {l : List Char}, isBreak c = false → Single l → Single (c :: l) :=
    fun hc hl d hd => by
      rcases List.mem_cons.mp hd with rfl | hd
      · exact hc
      · exact hl d hd
  induction text using splitlines.induct generalizing l with
  | case1 => cases h
  | case2 rest ih =>
      rcases List.mem_cons.mp h with rfl | h
      · exact hnil
      · exact ih h
  | case3 c rest hpair hbreak ih =>
      rw [splitlines, if_pos hbreak] at h
      · rcases List.mem_cons.mp h with rfl | h
        · exact hnil
        · exact ih h
      · exact hpair
  | case4 c rest hpair hbreak hlines ih =>
      rw [splitlines_cons (by simpa using hbreak), hlines] at h
      obtain rfl := List.mem_singleton.mp h
      exact hcons (by simpa using hbreak) hnil
  | case5 c rest hpair hbreak line lines hlines ih =>
      rw [splitlines_cons (by simpa using hbreak), hlines] at h
      rcases List.mem_cons.mp h with rfl | h
      · refine hcons (by simpa using hbreak) (ih ?_)
        rw [hlines]
        exact List.mem_cons_self
      · refine ih ?_
        rw [hlines]
        exact List.mem_cons_of_mem _ h

/-! ## Writing -/

/-- `"\n".join(lines).rstrip("\n") + "\n"`. -/
def unlines (lines : List (List Char)) : List Char :=
  (['\n'].intercalate lines).rdropWhile (· = '\n') ++ ['\n']

def blank (l : List Char) : Bool := l.isEmpty

def written (lines : List (List Char)) : List (List Char) :=
  if lines.rdropWhile blank = [] then [[]] else lines.rdropWhile blank

theorem intercalate_concat {lines : List (List Char)} (hne : lines ≠ []) (l : List Char) :
    ['\n'].intercalate (lines ++ [l]) = ['\n'].intercalate lines ++ '\n' :: l := by
  induction lines with
  | nil => exact absurd rfl hne
  | cons first rest ih =>
      cases rest with
      | nil => simp
      | cons second rest =>
          have hrest := ih (List.cons_ne_nil second rest)
          rw [List.cons_append, List.intercalate_cons_of_ne_nil (by simp), hrest,
            List.intercalate_cons_of_ne_nil (List.cons_ne_nil second rest)]
          simp

/-- Dropping line feeds at the end drops blank lines. -/
theorem rdropWhile_intercalate {lines : List (List Char)} (h : ∀ l ∈ lines, Single l) :
    (['\n'].intercalate lines).rdropWhile (· = '\n') =
      ['\n'].intercalate (lines.rdropWhile blank) := by
  induction lines using List.reverseRecOn with
  | nil => rfl
  | append_singleton lines l ih =>
      have hlines : ∀ l ∈ lines, Single l := fun l' hl' => h l' (List.mem_append_left _ hl')
      by_cases hl : l = []
      · subst hl
        rw [List.rdropWhile_concat_pos _ _ _ rfl, ← ih hlines]
        by_cases hne : lines = []
        · rw [hne]
          rfl
        · rw [intercalate_concat hne, List.rdropWhile_concat_pos _ _ _ (by simp)]
      · have hlast : l.getLast hl ≠ '\n' := by
          intro heq
          have hsingle := h l (List.mem_append_right _ (List.mem_singleton.mpr rfl)) _
            (List.getLast_mem hl)
          rw [heq] at hsingle
          exact absurd hsingle (by decide)
        obtain ⟨before, hbefore⟩ : ∃ before, ['\n'].intercalate (lines ++ [l]) = before ++ l := by
          by_cases hne : lines = []
          · exact ⟨[], by simp [hne]⟩
          · exact ⟨['\n'].intercalate lines ++ ['\n'], by simp [intercalate_concat hne]⟩
        rw [List.rdropWhile_concat_neg _ _ _ (by simpa [blank] using hl)]
        refine List.rdropWhile_eq_self_iff.mpr fun hne => ?_
        simp only [hbefore, List.getLast_append_of_ne_nil _ hl]
        simpa using hlast

theorem splitlines_intercalate {lines : List (List Char)} (h : ∀ l ∈ lines, Single l)
    (hne : lines ≠ []) : splitlines (['\n'].intercalate lines ++ ['\n']) = lines := by
  induction lines with
  | nil => exact absurd rfl hne
  | cons first rest ih =>
      have hfirst := h first List.mem_cons_self
      cases rest with
      | nil =>
          rw [List.intercalate_singleton, splitlines_append hfirst]
          rfl
      | cons second rest =>
          rw [List.intercalate_cons_of_ne_nil (List.cons_ne_nil second rest), List.append_assoc,
            List.append_assoc]
          show splitlines (first ++ '\n' :: _) = _
          rw [splitlines_append hfirst]
          exact congrArg (first :: ·) (ih (fun l hl => h l (List.mem_cons_of_mem _ hl))
            (List.cons_ne_nil second rest))

/-- What is written from lines is read as these. -/
theorem splitlines_unlines {lines : List (List Char)} (h : ∀ l ∈ lines, Single l) :
    splitlines (unlines lines) = written lines := by
  unfold unlines written
  rw [rdropWhile_intercalate h]
  split
  · rename_i hnil
    rw [hnil]
    rfl
  · rename_i hne
    refine splitlines_intercalate (fun l hl => h l ?_) hne
    exact (List.rdropWhile_prefix blank lines).subset hl

theorem unlines_written {lines : List (List Char)} (h : ∀ l ∈ lines, Single l) :
    unlines (written lines) = unlines lines := by
  have hkept : ∀ l ∈ lines.rdropWhile blank, Single l := fun l hl =>
    h l ((List.rdropWhile_prefix blank lines).subset hl)
  unfold unlines written
  rw [rdropWhile_intercalate h]
  split
  · rename_i hnil
    rw [hnil]
    rfl
  · rw [rdropWhile_intercalate hkept, List.rdropWhile_idempotent]

end Lines
