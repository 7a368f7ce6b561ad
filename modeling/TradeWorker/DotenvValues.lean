import TradeWorker.DotenvLines

/-!
# Values that come back

A value and its comment are written with two blanks between them, and the parser has to
find where the one ends. It goes by the quote the value opens with, if there is one, and
else by the first `#` after a blank. A value is *legible* when that finds the end of it,
and no other value comes back, neither as it is nor in quotes.
-/

namespace TradeWorker.Dotenv

open Chars (isSpace Tidy)

/-! ## The pattern of a comment -/

/-- A `#` after a blank. -/
def HasComment (l : List Char) : Prop := ∃ c, isSpace c = true ∧ [c, '#'] <:+: l

theorem HasComment.cons {l : List Char} (h : HasComment l) (c : Char) : HasComment (c :: l) := by
  obtain ⟨d, hd, hin⟩ := h
  exact ⟨d, hd, hin.trans (List.infix_cons (List.infix_refl l))⟩

theorem hasComment_of_startsComment {l : List Char} (h : startsComment l = true) :
    HasComment l := by
  induction l with
  | nil => cases h
  | cons c l ih =>
      simp only [startsComment, Bool.and_eq_true, decide_eq_true_eq] at h
      obtain ⟨hc, hhead⟩ := h
      cases l with
      | nil => cases hhead
      | cons d l =>
          cases hd : isSpace d with
          | true =>
              rw [List.dropWhile_cons_of_pos hd] at hhead
              refine HasComment.cons (ih ?_) c
              simp [startsComment, hd, hhead]
          | false =>
              rw [List.dropWhile_cons_of_neg (by rw [hd]; exact Bool.false_ne_true)] at hhead
              obtain rfl := Option.some.inj hhead
              exact ⟨c, hc, (List.prefix_append [c, '#'] l).isInfix⟩

/-- A text with more than blanks in it decides by itself. -/
theorem startsComment_append {l : List Char} (h : ∃ c ∈ l, isSpace c = false)
    (rest : List Char) : startsComment (l ++ rest) = startsComment l := by
  cases l with
  | nil =>
      obtain ⟨c, hc, -⟩ := h
      cases hc
  | cons c l =>
      rw [List.cons_append, startsComment, startsComment]
      cases hc : isSpace c with
      | false => rfl
      | true =>
          have hne : l.dropWhile isSpace ≠ [] := by
            intro hnil
            obtain ⟨d, hd, hnot⟩ := h
            rcases List.mem_cons.mp hd with rfl | hd
            · rw [hc] at hnot
              cases hnot
            · rw [List.dropWhile_eq_nil_iff.mp hnil d hd] at hnot
              cases hnot
          rw [List.dropWhile_append, if_neg (by simpa using hne), List.head?_append_of_ne_nil _ hne]

theorem searchComment_eq_none {l : List Char} (h : ¬HasComment l) : searchComment l = none := by
  induction l with
  | nil => rfl
  | cons c l ih =>
      have hstarts : ¬startsComment (c :: l) = true := fun hs =>
        h (hasComment_of_startsComment hs)
      rw [searchComment, if_neg hstarts, ih fun hl => h (hl.cons c)]
      rfl

/-- With none inside, what is found is what was put behind. -/
theorem searchComment_append {l comment : List Char} (h : ¬HasComment l)
    (hlast : ∀ c, l.getLast? = some c → isSpace c = false)
    (hcomment : startsComment comment = true) :
    searchComment (l ++ comment) = some (l, comment) := by
  induction l with
  | nil =>
      cases comment with
      | nil => cases hcomment
      | cons c comment => rw [List.nil_append, searchComment, if_pos hcomment]
  | cons c l ih =>
      have hnonblank : ∃ d ∈ c :: l, isSpace d = false :=
        ⟨_, List.getLast_mem (List.cons_ne_nil c l),
          hlast _ (List.getLast?_eq_some_getLast (List.cons_ne_nil c l))⟩
      have hstarts : ¬startsComment (c :: (l ++ comment)) = true := by
        intro hs
        rw [← List.cons_append, startsComment_append hnonblank] at hs
        exact h (hasComment_of_startsComment hs)
      have hrest := ih (fun hl => h (hl.cons c)) fun d hd => hlast d (by
        rw [List.getLast?_cons, hd]
        rfl)
      rw [List.cons_append, searchComment, if_neg hstarts, hrest]
      rfl

/-- With one inside, what is found is shorter. -/
theorem searchComment_append_lt {l : List Char} (h : HasComment l) (rest : List Char) :
    ∃ value comment, searchComment (l ++ rest) = some (value, comment) ∧
      value.length < l.length := by
  obtain ⟨c, hc, before, after, rfl⟩ := h
  induction before with
  | nil =>
      have hstarts : startsComment (c :: '#' :: (after ++ rest)) = true := by
        rw [startsComment, hc, List.dropWhile_cons_of_neg (by decide)]
        rfl
      refine ⟨[], c :: '#' :: (after ++ rest), ?_, Nat.succ_pos _⟩
      show searchComment (c :: '#' :: (after ++ rest)) = _
      rw [searchComment, if_pos hstarts]
  | cons d before ih =>
      obtain ⟨value, comment, hfound, hlt⟩ := ih
      show ∃ value comment, searchComment (d :: (before ++ [c, '#'] ++ after ++ rest)) = _ ∧ _
      rw [searchComment]
      split
      · exact ⟨[], _, rfl, Nat.succ_pos _⟩
      · rw [hfound]
        exact ⟨d :: value, comment, rfl, Nat.succ_lt_succ hlt⟩

/-! ## What is read of a value -/

theorem withComment_cons (c : Char) (value comment : List Char) :
    withComment (c :: value) comment = c :: withComment value comment := by
  unfold withComment
  split <;> rfl

theorem withComment_append (value value' comment : List Char) :
    withComment (value ++ value') comment = value ++ withComment value' comment := by
  induction value with
  | nil => rfl
  | cons c value ih => rw [List.cons_append, withComment_cons, ih, List.cons_append]

theorem mem_withComment_iff {c : Char} (hc : c ≠ ' ') {value comment : List Char} :
    c ∈ withComment value comment ↔ c ∈ value ∨ c ∈ comment := by
  unfold withComment
  split
  · rename_i hnil
    simp [hnil]
  · simp [hc]

theorem strip_withComment {value comment : List Char} (hvalue : Tidy isSpace value)
    (hne : value ≠ []) (hcomment : Comment comment) :
    strip (withComment value comment) = withComment value comment := by
  unfold withComment
  split
  · exact hvalue.strip
  · rename_i hsome
    exact (hvalue.append hcomment.tidy hne hsome [' ', ' ']).strip

/-- The comment after a closing quote is found. -/
theorem commentAfter_withComment {comment : List Char} (h : Comment comment) :
    commentAfter (withComment [] comment) = comment := by
  unfold withComment commentAfter
  split
  · rename_i hnil
    rw [hnil]
    rfl
  · rename_i hsome
    obtain ⟨rest, rfl⟩ := List.head?_eq_some_iff.mp (h.hash hsome)
    rw [if_pos (by simp)]
    show strip ('#' :: rest) = _
    exact h.tidy.strip

/-- A value is taken up to the quote that closes it. -/
theorem splitStripped_quoted {q : Char} (hq : isQuote q = true) {value : List Char}
    (hvalue : q ∉ value) (rest : List Char) :
    splitStripped (q :: (value ++ q :: rest)) = (q :: (value ++ [q]), commentAfter rest) := by
  have hhash : q ≠ '#' := by
    rintro rfl
    exact absurd hq (by decide)
  have hall : ∀ c ∈ value, decide (c ≠ q) = true := fun c hc =>
    decide_eq_true fun heq => hvalue (heq ▸ hc)
  have htake : (value ++ q :: rest).takeWhile (· ≠ q) = value := by
    rw [List.takeWhile_append_of_pos hall]
    simp
  have hdrop : (value ++ q :: rest).dropWhile (· ≠ q) = q :: rest := by
    rw [List.dropWhile_append_of_pos hall]
    simp
  rw [splitStripped_cons, if_neg hhash,
    if_pos ⟨hq, List.mem_append_right _ List.mem_cons_self⟩, htake, hdrop]
  rfl

/-- Where no quote decides, the pattern does. -/
theorem splitStripped_unquoted {c : Char} {rest : List Char} (hhash : c ≠ '#')
    (hquote : isQuote c = true → c ∉ rest) :
    splitStripped (c :: rest) = splitAtComment (c :: rest) := by
  rw [splitStripped_cons, if_neg hhash, if_neg fun h => hquote h.1 h.2]

theorem splitAtComment_withComment {value comment : List Char} (hvalue : Tidy isSpace value)
    (hcomment : Comment comment) (hno : ¬HasComment value) :
    splitAtComment (withComment value comment) = (value, comment) := by
  unfold withComment
  split
  · rename_i hnil
    rw [splitAtComment, searchComment_eq_none hno, hnil]
  · rename_i hsome
    obtain ⟨rest, hrest⟩ := List.head?_eq_some_iff.mp (hcomment.hash hsome)
    have hstarts : startsComment (' ' :: ' ' :: comment) = true := by
      rw [hrest]
      rfl
    have hstrip : strip (' ' :: ' ' :: comment) = strip comment := rfl
    rw [splitAtComment, searchComment_append hno hvalue.last hstarts]
    show (strip value, strip (' ' :: ' ' :: comment)) = _
    rw [hstrip]
    exact Prod.ext hvalue.strip hcomment.tidy.strip

theorem length_splitAtComment_lt {value : List Char} (h : HasComment value)
    (comment : List Char) :
    (splitAtComment (withComment value comment)).1.length < value.length := by
  obtain ⟨found, rest, hfound, hlt⟩ := searchComment_append_lt h (withComment [] comment)
  rw [← withComment_append, List.append_nil] at hfound
  rw [splitAtComment, hfound]
  exact Nat.lt_of_le_of_lt (Chars.length_strip_le isSpace found) hlt

/-! ## Legible values -/

/-- A value closed by the quote it opens with, and nowhere before. -/
def Closed (value : List Char) : Prop :=
  ∃ q inner, isQuote q = true ∧ q ∉ inner ∧ value = q :: (inner ++ [q])

/-- A value without quotes that decide, and without what reads as a comment. -/
structure Bare (value comment : List Char) : Prop where
  noHash : value.head? ≠ some '#'
  noComment : ¬HasComment value
  noQuote : ∀ q, value.head? = some q → isQuote q = true → q ∉ value.tail ∧ q ∉ comment

def Legible (key value comment : List Char) : Prop :=
  if !alreadyQuoted value && quotedKeys.contains key then '"' ∉ value
  else Closed value ∨ Bare value comment

/-- The same value, but for one pair of quotes around it. -/
def Returned (value value' : List Char) : Prop :=
  value' = value ∨ ∃ q, isQuote q = true ∧ value' = q :: (value ++ [q])

theorem Returned.length {value value' : List Char} (h : Returned value value') :
    value'.length = value.length ∨ value'.length = value.length + 2 := by
  rcases h with rfl | ⟨q, -, rfl⟩
  · exact .inl rfl
  · right
    rw [List.length_cons, List.length_append]
    rfl

theorem isSpace_of_isQuote {q : Char} (h : isQuote q = true) : isSpace q = false := by
  simp only [isQuote, Bool.or_eq_true, decide_eq_true_eq] at h
  rcases h with rfl | rfl <;> decide

theorem ne_space_of_isQuote {q : Char} (h : isQuote q = true) : q ≠ ' ' := by
  rintro rfl
  exact absurd h (by decide)

theorem tidy_quoted {q : Char} (h : isQuote q = true) (inner : List Char) :
    Tidy isSpace (q :: (inner ++ [q])) := by
  have hone : Tidy isSpace [q] := by
    constructor <;> intro d hd <;> cases hd <;> exact isSpace_of_isQuote h
  exact hone.append hone (List.cons_ne_nil q []) (List.cons_ne_nil q []) inner

theorem splitValueComment_closed {value comment : List Char} (h : Closed value)
    (hcomment : Comment comment) :
    splitValueComment (withComment value comment) = (value, comment) := by
  obtain ⟨q, inner, hq, hinner, rfl⟩ := h
  rw [splitValueComment, strip_withComment (tidy_quoted hq inner) (List.cons_ne_nil _ _) hcomment,
    withComment_cons, withComment_append, withComment_cons, splitStripped_quoted hq hinner,
    commentAfter_withComment hcomment]

theorem splitValueComment_bare {value comment : List Char} (h : Bare value comment)
    (hvalue : Tidy isSpace value) (hcomment : Comment comment) :
    splitValueComment (withComment value comment) = (value, comment) := by
  cases value with
  | nil =>
      -- all there is is the comment
      cases hc : comment with
      | nil => rfl
      | cons c rest =>
          have hhash := hcomment.hash (by rw [hc]; exact List.cons_ne_nil c rest)
          rw [hc] at hhash hcomment
          obtain rfl := Option.some.inj hhash
          have hstrip : strip (withComment [] ('#' :: rest)) = '#' :: rest := hcomment.tidy.strip
          rw [splitValueComment, hstrip, splitStripped_cons, if_pos rfl]
  | cons c value =>
      have hquote : isQuote c = true → c ∉ withComment value comment := by
        intro hq hmem
        obtain ⟨hvalue, hcomment⟩ := h.noQuote c rfl hq
        rcases (mem_withComment_iff (ne_space_of_isQuote hq)).mp hmem with hmem | hmem
        · exact hvalue hmem
        · exact hcomment hmem
      rw [splitValueComment, strip_withComment hvalue (List.cons_ne_nil c value) hcomment,
        withComment_cons, splitStripped_unquoted (fun hc => h.noHash (congrArg some hc)) hquote,
        ← withComment_cons]
      exact splitAtComment_withComment hvalue hcomment h.noComment

/-- Where the quote is closed inside a value, nothing may follow it there. -/
theorem closed_of_returned {q : Char} (hq : isQuote q = true) {value comment : List Char}
    (hin : q ∈ value)
    (h : Returned (q :: value) (splitStripped (q :: withComment value comment)).1) :
    Closed (q :: value) := by
  obtain ⟨inner, rest, rfl, hinner⟩ := List.eq_append_cons_of_mem hin
  rw [withComment_append, withComment_cons, splitStripped_quoted hq hinner] at h
  have hlength := h.length
  simp only [List.length_cons, List.length_append, List.length_nil] at hlength
  obtain rfl : rest = [] := List.length_eq_zero_iff.mp (by omega)
  exact ⟨q, inner, hq, hinner, rfl⟩

/-- Where it is closed in the comment, the value grows by that. -/
theorem not_returned_of_mem_comment {q : Char} (hq : isQuote q = true)
    {value comment : List Char} (hvalue : q ∉ value) (hin : q ∈ comment) :
    ¬Returned (q :: value) (splitStripped (q :: withComment value comment)).1 := by
  intro h
  obtain ⟨inner, rest, hsplit, hinner⟩ := List.eq_append_cons_of_mem hin
  have hnotin : q ∉ value ++ ' ' :: ' ' :: inner := by
    simp [hvalue, ne_space_of_isQuote hq, hinner]
  have hwritten : withComment value comment =
      (value ++ ' ' :: ' ' :: inner) ++ q :: rest := by
    rw [withComment, if_neg (by rw [hsplit]; simp), hsplit, List.append_assoc]
    rfl
  rw [hwritten, splitStripped_quoted hq hnotin] at h
  have hlength := h.length
  simp only [List.length_cons, List.length_append, List.length_nil] at hlength
  omega

/-- Only these come back. -/
theorem closed_or_bare_of_returned {value comment : List Char} (hvalue : Tidy isSpace value)
    (hcomment : Comment comment)
    (h : Returned value (splitValueComment (withComment value comment)).1) :
    Closed value ∨ Bare value comment := by
  cases value with
  | nil =>
      right
      constructor
      · intro hc
        cases hc
      · rintro ⟨c, -, hin⟩
        exact absurd hin.length_le (by simp)
      · intro q hq
        cases hq
  | cons c value =>
      have hstrip := strip_withComment hvalue (List.cons_ne_nil c value) hcomment
      rw [splitValueComment, hstrip, withComment_cons] at h
      by_cases hhash : c = '#'
      · -- the whole of it is taken for a comment
        rw [splitStripped_cons, if_pos hhash] at h
        have hlength := h.length
        simp at hlength
      · by_cases hclosed : isQuote c = true ∧ c ∈ value
        · exact .inl (closed_of_returned hclosed.1 hclosed.2 h)
        · right
          have hnoQuote : isQuote c = true → c ∉ value ∧ c ∉ comment := fun hq =>
            have hnot : c ∉ value := fun hin => hclosed ⟨hq, hin⟩
            ⟨hnot, fun hin => not_returned_of_mem_comment hq hnot hin h⟩
          have hquote : isQuote c = true → c ∉ withComment value comment := fun hq hin =>
            have hnot := hnoQuote hq
            ((mem_withComment_iff (ne_space_of_isQuote hq)).mp hin).elim hnot.1 hnot.2
          rw [splitStripped_unquoted hhash hquote, ← withComment_cons] at h
          have hlength := h.length
          constructor
          · exact fun hc => hhash (Option.some.inj hc)
          · intro hinside
            have hlt := length_splitAtComment_lt hinside comment
            omega
          · intro q hhead hq
            obtain rfl := Option.some.inj hhead
            exact hnoQuote hq

/-! ## As `format_kv` writes them -/

theorem alreadyQuoted_quoted {q : Char} (h : isQuote q = true) (inner : List Char) :
    alreadyQuoted (q :: (inner ++ [q])) = true := by
  have hlast : (q :: (inner ++ [q])).getLast? = some q := by
    rw [← List.cons_append, List.getLast?_concat]
  simp [alreadyQuoted, h, hlast]

/-- The quotes are put on once. -/
theorem quotedValue_quotedValue (key value : List Char) :
    quotedValue key (quotedValue key value) = quotedValue key value := by
  by_cases h : (!alreadyQuoted value && quotedKeys.contains key) = true
  · have hagain :
        (!alreadyQuoted ('"' :: (value ++ ['"'])) && quotedKeys.contains key) = false := by
      rw [alreadyQuoted_quoted rfl, Bool.not_true, Bool.false_and]
    rw [show quotedValue key value = '"' :: (value ++ ['"']) from if_pos h, quotedValue, hagain]
    rfl
  · rw [show quotedValue key value = value from if_neg h, quotedValue, if_neg h]

theorem formatKv_quotedValue (key value comment : List Char) :
    formatKv key (quotedValue key value) comment = formatKv key value comment := by
  unfold formatKv
  rw [quotedValue_quotedValue]

theorem returned_quotedValue (key value : List Char) : Returned value (quotedValue key value) := by
  unfold quotedValue
  split
  · exact .inr ⟨'"', rfl, rfl⟩
  · exact .inl rfl

/-- A legible value is read as it was written, and its comment with it. -/
theorem splitValueComment_quotedValue {key value comment : List Char}
    (h : Legible key value comment) (hvalue : Tidy isSpace value) (hcomment : Comment comment) :
    splitValueComment (withComment (quotedValue key value) comment) =
      (quotedValue key value, comment) := by
  unfold Legible at h
  unfold quotedValue
  split
  · rename_i hquoted
    rw [if_pos hquoted] at h
    exact splitValueComment_closed ⟨'"', value, rfl, h, rfl⟩ hcomment
  · rename_i hplain
    rw [if_neg hplain] at h
    rcases h with hclosed | hbare
    · exact splitValueComment_closed hclosed hcomment
    · exact splitValueComment_bare hbare hvalue hcomment

/-- And no other value comes back. -/
theorem legible_of_returned {key value comment : List Char} (hvalue : Tidy isSpace value)
    (hcomment : Comment comment)
    (h : Returned value (splitValueComment (withComment (quotedValue key value) comment)).1) :
    Legible key value comment := by
  unfold Legible
  split
  · rename_i hquoted
    rw [show quotedValue key value = '"' :: (value ++ ['"']) from if_pos hquoted] at h
    intro hin
    -- the first quote inside closes the value
    obtain ⟨inner, rest, rfl, hinner⟩ := List.eq_append_cons_of_mem hin
    have hassoc : inner ++ '"' :: rest ++ ['"'] = inner ++ '"' :: (rest ++ ['"']) := by
      rw [List.append_assoc, List.cons_append]
    rw [hassoc, splitValueComment, strip_withComment (hassoc ▸ tidy_quoted rfl _)
      (List.cons_ne_nil _ _) hcomment, withComment_cons, withComment_append, withComment_cons,
      splitStripped_quoted rfl hinner] at h
    rcases h with heq | ⟨q, -, heq⟩
    · have hnot := (Bool.and_eq_true_iff.mp hquoted).1
      rw [← heq, alreadyQuoted_quoted rfl] at hnot
      cases hnot
    · have hlength := congrArg List.length heq
      simp only [List.length_cons, List.length_append, List.length_nil] at hlength
      omega
  · rename_i hplain
    rw [show quotedValue key value = value from if_neg hplain] at h
    exact closed_or_bare_of_returned hvalue hcomment h

end TradeWorker.Dotenv
