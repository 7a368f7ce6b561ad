import TradeWorker.Dotenv

/-!
# One line of a dotenv text

What the parser makes of a line is well formed: a key, a value without blanks at its ends,
a comment that is none or begins with `#`. And a line written from such an entry is read
as the key, the value as it was written and the comment, exactly when the value is
*legible*.
-/

namespace TradeWorker.Dotenv

open Chars (isSpace Tidy)
open Lines (Single)

/-! ## What is read is well formed -/

/-- A comment: none, or from a `#` on, without a blank at its end. -/
structure Comment (c : List Char) : Prop where
  hash : c ≠ [] → c.head? = some '#'
  tidy : Tidy isSpace c
  single : Single c

/-- A key, as `KEY_RE` has it. -/
structure Key (k : List Char) : Prop where
  chars : ∀ c ∈ k, isKeyChar c = true
  head : ∃ first, k.head? = some first ∧ first.isDigit = false

/-- What an entry that was read is made of. -/
def Entry.WellFormed : Entry → Prop
  | .raw text => matchKey text = none ∧ Single text
  | .kv key value comment => Key key ∧ (Tidy isSpace value ∧ Single value) ∧ Comment comment

theorem comment_nil : Comment [] where
  hash h := absurd rfl h
  tidy := Tidy.nil
  single _ hc := by cases hc

theorem comment_strip {c : List Char} (h : (c.dropWhile isSpace).head? = some '#')
    (hsingle : Single c) : Comment (strip c) where
  hash _ := Chars.head?_strip h
  tidy := Chars.tidy_strip c
  single := single_strip hsingle

/-- A match of the pattern cuts the text in two, and the second half is a comment. -/
theorem searchComment_eq_some {l value comment : List Char}
    (h : searchComment l = some (value, comment)) :
    l = value ++ comment ∧ startsComment comment = true := by
  induction l generalizing value with
  | nil => cases h
  | cons c l ih =>
      rw [searchComment] at h
      split at h
      · rename_i hstarts
        cases h
        exact ⟨rfl, hstarts⟩
      · obtain ⟨⟨value', comment'⟩, hfound, heq⟩ := Option.map_eq_some_iff.mp h
        cases heq
        obtain ⟨hl, hstarts⟩ := ih hfound
        exact ⟨congrArg (c :: ·) hl, hstarts⟩

theorem head?_dropWhile_of_startsComment {l : List Char} (h : startsComment l = true) :
    (l.dropWhile isSpace).head? = some '#' := by
  cases l with
  | nil => cases h
  | cons c l =>
      simp only [startsComment, Bool.and_eq_true, decide_eq_true_eq] at h
      rw [List.dropWhile_cons_of_pos h.1]
      exact h.2

theorem comment_commentAfter {rest : List Char} (h : Single rest) :
    Comment (commentAfter rest) := by
  unfold commentAfter
  split
  · rename_i hmem
    have hhead : ((rest.dropWhile (· ≠ '#')).dropWhile isSpace).head? = some '#' := by
      cases hdrop : rest.dropWhile (· ≠ '#') with
      | nil =>
          have hall := List.dropWhile_eq_nil_iff.mp hdrop '#' hmem
          simp at hall
      | cons c l =>
          have hc := List.head?_dropWhile_not (· ≠ '#') rest
          rw [hdrop] at hc
          obtain rfl : c = '#' := by simpa using hc
          rfl
    exact comment_strip hhead (h.of_subset fun c hc => (List.dropWhile_sublist _).subset hc)
  · exact comment_nil

theorem splitAtComment_wellFormed {raw : List Char} (htidy : Tidy isSpace raw)
    (hsingle : Single raw) :
    (Tidy isSpace (splitAtComment raw).1 ∧ Single (splitAtComment raw).1) ∧
      Comment (splitAtComment raw).2 := by
  unfold splitAtComment
  split
  · rename_i value comment hfound
    obtain ⟨hraw, hstarts⟩ := searchComment_eq_some hfound
    have hvalue : Single value := hsingle.of_subset fun c hc => by
      rw [hraw]
      exact List.mem_append_left _ hc
    have hcomment : Single comment := hsingle.of_subset fun c hc => by
      rw [hraw]
      exact List.mem_append_right _ hc
    exact ⟨⟨Chars.tidy_strip value, single_strip hvalue⟩,
      comment_strip (head?_dropWhile_of_startsComment hstarts) hcomment⟩
  · exact ⟨⟨htidy, hsingle⟩, comment_nil⟩

theorem splitStripped_cons (c : Char) (rest : List Char) :
    splitStripped (c :: rest) =
      if c = '#' then ([], c :: rest)
      else if isQuote c ∧ c ∈ rest then
        (c :: rest.takeWhile (· ≠ c) ++ [c], commentAfter ((rest.dropWhile (· ≠ c)).drop 1))
      else splitAtComment (c :: rest) := rfl

/-- The halves a text without blanks at its ends is split into. -/
theorem splitStripped_wellFormed {raw : List Char} (htidy : Tidy isSpace raw)
    (hsingle : Single raw) :
    (Tidy isSpace (splitStripped raw).1 ∧ Single (splitStripped raw).1) ∧
      Comment (splitStripped raw).2 := by
  cases raw with
  | nil => exact splitAtComment_wellFormed htidy hsingle
  | cons c rest =>
      have hrest : Single rest := hsingle.of_subset fun _ => List.mem_cons_of_mem _
      have hc : Single [c] := hsingle.of_subset fun d hd => by
        rw [List.mem_singleton.mp hd]
        exact List.mem_cons_self
      have hone : Tidy isSpace [c] := by
        constructor <;> intro d hd <;> cases hd <;> exact htidy.head c rfl
      rw [splitStripped_cons]
      by_cases hhash : c = '#'
      · rw [if_pos hhash]
        have hnil : Single [] := fun c hc => by cases hc
        exact ⟨⟨Tidy.nil, hnil⟩, fun _ => by rw [hhash]; rfl, htidy, hsingle⟩
      · rw [if_neg hhash]
        by_cases hquoted : isQuote c ∧ c ∈ rest
        · rw [if_pos hquoted]
          have htaken : Single (rest.takeWhile (· ≠ c)) :=
            hrest.of_subset fun d hd => (List.takeWhile_sublist _).subset hd
          have hafter : Single ((rest.dropWhile (· ≠ c)).drop 1) :=
            hrest.of_subset fun d hd =>
              (List.dropWhile_sublist _).subset (List.drop_subset _ _ hd)
          exact ⟨⟨hone.append hone (List.cons_ne_nil c []) (List.cons_ne_nil c []) _,
            hc.append (htaken.append hc)⟩, comment_commentAfter hafter⟩
        · rw [if_neg hquoted]
          exact splitAtComment_wellFormed htidy hsingle

/-! ## Keys -/

theorem isBreak_of_isKeyChar {c : Char} (h : isKeyChar c = true) : Lines.isBreak c = false := by
  by_contra hbreak
  have hmem : c.toNat ∈ [0x0A, 0x0B, 0x0C, 0x0D, 0x1C, 0x1D, 0x1E, 0x85, 0x2028, 0x2029] :=
    List.contains_iff_mem.mp ((Bool.not_eq_false _).mp hbreak)
  rw [← Char.ofNat_toNat c] at h
  simp only [List.mem_cons, List.not_mem_nil, or_false] at hmem
  rcases hmem with hc | hc | hc | hc | hc | hc | hc | hc | hc | hc <;>
    · rw [hc] at h
      exact absurd h (by decide)

theorem Key.single {k : List Char} (h : Key k) : Single k :=
  fun c hc => isBreak_of_isKeyChar (h.chars c hc)

theorem matchKey_eq_some {line key raw : List Char} (h : matchKey line = some (key, raw)) :
    Key key ∧ line = key ++ '=' :: raw := by
  unfold matchKey at h
  split at h
  · rename_i first key' value htake hdrop
    split at h
    · cases h
    · rename_i hdigit
      cases h
      have hkey : Key (first :: key') := by
        refine ⟨fun c hc => ?_, first, rfl, by simpa using hdigit⟩
        rw [← htake] at hc
        exact List.mem_takeWhile_imp hc
      refine ⟨hkey, ?_⟩
      rw [← htake, ← hdrop, List.takeWhile_append_dropWhile]
  · cases h

theorem matchKey_append {k : List Char} (h : Key k) (raw : List Char) :
    matchKey (k ++ '=' :: raw) = some (k, raw) := by
  have htake : (k ++ '=' :: raw).takeWhile isKeyChar = k := by
    rw [List.takeWhile_append_of_pos h.chars, List.takeWhile_cons_of_neg (by decide),
      List.append_nil]
  have hdrop : (k ++ '=' :: raw).dropWhile isKeyChar = '=' :: raw := by
    rw [List.dropWhile_append_of_pos h.chars, List.dropWhile_cons_of_neg (by decide)]
  obtain ⟨first, hfirst, hdigit⟩ := h.head
  obtain ⟨key, rfl⟩ := List.head?_eq_some_iff.mp hfirst
  unfold matchKey
  rw [htake, hdrop]
  simp [hdigit]

/-- The line of an assignment is read as one. -/
theorem parseLine_append {k : List Char} (h : Key k) (raw : List Char) :
    parseLine (k ++ '=' :: raw) =
      .kv k (splitValueComment raw).1 (splitValueComment raw).2 := by
  rw [parseLine, matchKey_append h]

theorem parseLine_raw {line : List Char} (h : matchKey line = none) :
    parseLine line = .raw line := by
  rw [parseLine, h]

theorem parseLine_wellFormed {line : List Char} (h : Single line) :
    (parseLine line).WellFormed := by
  cases hmatch : matchKey line with
  | none =>
      rw [parseLine_raw hmatch]
      exact ⟨hmatch, h⟩
  | some halves =>
      obtain ⟨key, raw⟩ := halves
      obtain ⟨hkey, rfl⟩ := matchKey_eq_some hmatch
      have hraw : Single raw := h.of_subset fun c hc =>
        List.mem_append_right _ (List.mem_cons_of_mem _ hc)
      rw [parseLine_append hkey]
      exact ⟨hkey, splitStripped_wellFormed (Chars.tidy_strip raw) (single_strip hraw)⟩

theorem wellFormed_of_mem_parseEnv {text : List Char} {e : Entry} (h : e ∈ parseEnv text) :
    e.WellFormed := by
  obtain ⟨line, hline, rfl⟩ := List.mem_map.mp h
  exact parseLine_wellFormed (Lines.single_of_mem_splitlines hline)

end TradeWorker.Dotenv
