import TradeWorker.DotenvValues

/-!
# Editing a `.env`

A run of the script should lose nothing: the text it writes gives each key once, with the
value that was chosen, and a second run that keeps every default writes the same text.
That is so exactly when no key is in the plan twice and every value chosen is legible
beside the comment of its line.
-/

namespace TradeWorker.Dotenv

open Chars (Tidy)
open Lines (Single)

/-! ## What an edit keeps -/

/-- The values chosen, as `collect_values` returns them. -/
def chosen (answers : List Char → Answer) (key : List Char) : Option (List Char) :=
  some (answers key).text

/-- What `write_env` is given of a plan. -/
def Plan.write (plan : Plan) (result : List Char → Option (List Char)) : List Char :=
  render plan.baseEntries result plan.exampleOnly

/-- The values of a run that keeps every default. -/
def Plan.kept (plan : Plan) (key : List Char) : Option (List Char) := some (plan.defaultFor key)

/-- The text of a run of the script. -/
def edited (exampleText : List Char) (env : Option (List Char)) (answers : List Char → Answer) :
    List Char :=
  (buildPlan exampleText env).write (chosen answers)

def definitions (entries : List Entry) (key : List Char) : List (List Char) :=
  ((assignments entries).filter fun a => a.1 = key).map fun a => a.2.1

/-- A run that loses nothing. -/
structure RoundTrip (exampleText : List Char) (env : Option (List Char))
    (answers : List Char → Answer) : Prop where
  /-- Every key is read once, with the value chosen for it. -/
  returned : ∀ key ∈ (buildPlan exampleText env).orderedKeys, ∃ value,
    definitions (parseEnv (edited exampleText env answers)) key = [value] ∧
      (valuesOf (parseEnv (edited exampleText env answers))).get? key = some value ∧
        Returned (answers key).text value
  /-- And the next run writes the same, if every default is kept. -/
  stable : (buildPlan exampleText (some (edited exampleText env answers))).write
      (buildPlan exampleText (some (edited exampleText env answers))).kept =
    edited exampleText env answers

def Plan.assigned (plan : Plan) : List (List Char × List Char × List Char) :=
  assignments (plan.baseEntries ++ plan.exampleOnly)

/-- A plan under which no value can be mistaken for another. -/
structure Plan.Unambiguous (plan : Plan) (answers : List Char → Answer) : Prop where
  nodup : plan.orderedKeys.Nodup
  legible : ∀ a ∈ plan.assigned, Legible a.1 (answers a.1).text a.2.2

/-! ## A line is read again -/

section Reread

variable (answers : List Char → Answer)

/-- An assignment, written with the value chosen and read again. -/
def rewritten (a : List Char × List Char × List Char) : List Char × List Char × List Char :=
  (a.1, splitValueComment (withComment (quotedValue a.1 (answers a.1).text) a.2.2))

def reread : Entry → Entry
  | .raw text => .raw text
  | .kv key value comment =>
      .kv key (rewritten answers (key, value, comment)).2.1
        (rewritten answers (key, value, comment)).2.2

theorem parseLine_renderEntry {e : Entry} (h : e.WellFormed) :
    parseLine (renderEntry (chosen answers) e) = reread answers e := by
  cases e with
  | raw text => exact parseLine_raw h.1
  | kv key value comment => exact parseLine_append h.1 _

theorem single_quotedValue {value : List Char} (h : Single value) (key : List Char) :
    Single (quotedValue key value) := by
  have hquote : Single ['"'] := by
    intro c hc
    rw [List.mem_singleton.mp hc]
    rfl
  unfold quotedValue
  split
  · exact hquote.append (h.append hquote)
  · exact h

theorem single_withComment {value comment : List Char} (h : Single value)
    (hcomment : Single comment) : Single (withComment value comment) := by
  unfold withComment
  split
  · exact h
  · have hblanks : Single [' ', ' '] := by
      intro c hc
      simp only [List.mem_cons, List.not_mem_nil, or_false, or_self] at hc
      rw [hc]
      rfl
    exact h.append (hblanks.append hcomment)

theorem single_renderEntry {e : Entry} (h : e.WellFormed) :
    Single (renderEntry (chosen answers) e) := by
  cases e with
  | raw text => exact h.2
  | kv key value comment =>
      have hequals : Single ['='] := by
        intro c hc
        rw [List.mem_singleton.mp hc]
        rfl
      obtain ⟨hkey, -, hcomment⟩ := h
      have hvalue := single_quotedValue (answers key).single key
      exact hkey.single.append (hequals.append (single_withComment hvalue hcomment.single))

theorem assignments_map_reread (entries : List Entry) :
    assignments (entries.map (reread answers)) =
      (assignments entries).map (rewritten answers) := by
  induction entries with
  | nil => rfl
  | cons e entries ih =>
      cases e with
      | raw text => exact ih
      | kv key value comment => exact congrArg (rewritten answers (key, value, comment) :: ·) ih

end Reread

/-! ## A text is read again -/

theorem assignments_append (entries entries' : List Entry) :
    assignments (entries ++ entries') = assignments entries ++ assignments entries' :=
  List.filterMap_append

/-- A blank line assigns nothing, so none is lost at the end. -/
theorem assignments_written (lines : List (List Char)) :
    assignments ((Lines.written lines).map parseLine) = assignments (lines.map parseLine) := by
  have hlines : lines.rdropWhile Lines.blank ++ lines.rtakeWhile Lines.blank = lines :=
    List.rdropWhile_append_rtakeWhile
  have hnone : assignments ((lines.rtakeWhile Lines.blank).map parseLine) = [] := by
    refine List.filterMap_eq_nil_iff.mpr fun e he => ?_
    obtain ⟨l, hl, rfl⟩ := List.mem_map.mp he
    rw [List.isEmpty_iff.mp (List.mem_rtakeWhile_imp hl)]
    rfl
  have hsplit : assignments (lines.map parseLine) =
      assignments ((lines.rdropWhile Lines.blank).map parseLine) :=
    calc assignments (lines.map parseLine)
      _ = assignments ((lines.rdropWhile Lines.blank ++
            lines.rtakeWhile Lines.blank).map parseLine) := by rw [hlines]
      _ = _ := by rw [List.map_append, assignments_append, hnone, List.append_nil]
  rw [hsplit, Lines.written]
  split
  · rename_i hnil
    rw [hnil]
    rfl
  · rfl

theorem assignments_layout (baseEntries exampleOnly : List Entry) :
    assignments (layout baseEntries exampleOnly) = assignments (baseEntries ++ exampleOnly) := by
  unfold layout
  split
  · rename_i hnil
    rw [hnil]
  · rw [assignments_append, assignments_append, assignments_append]
    rfl

section Layout

variable (answers : List Char → Answer) {baseEntries exampleOnly : List Entry}

theorem wellFormed_layout (hbase : ∀ e ∈ baseEntries, e.WellFormed)
    (honly : ∀ e ∈ exampleOnly, e.WellFormed) :
    ∀ e ∈ layout baseEntries exampleOnly, e.WellFormed := by
  have hheader : ∀ e ∈ addedHeader, e.WellFormed := by
    intro e he
    simp only [addedHeader, List.mem_cons, List.not_mem_nil, or_false] at he
    rcases he with rfl | rfl | rfl | rfl
    all_goals exact ⟨by decide +kernel, Lines.single_of_all (by decide +kernel)⟩
  intro e he
  unfold layout at he
  rcases List.mem_append.mp he with he | he
  · exact hbase e he
  · split at he
    · cases he
    · rcases List.mem_append.mp he with he | he
      · exact hheader e he
      · exact honly e he

theorem single_of_mem_rendered (h : ∀ e ∈ layout baseEntries exampleOnly, e.WellFormed) :
    ∀ l ∈ (layout baseEntries exampleOnly).map (renderEntry (chosen answers)), Single l := by
  intro l hl
  obtain ⟨e, he, rfl⟩ := List.mem_map.mp hl
  exact single_renderEntry answers (h e he)

/-- What is written is read as the same assignments, each with what is read of its value. -/
theorem assignments_parseEnv_render (h : ∀ e ∈ layout baseEntries exampleOnly, e.WellFormed) :
    assignments (parseEnv (render baseEntries (chosen answers) exampleOnly)) =
      (assignments (baseEntries ++ exampleOnly)).map (rewritten answers) := by
  have hreread : ((layout baseEntries exampleOnly).map (renderEntry (chosen answers))).map
      parseLine = (layout baseEntries exampleOnly).map (reread answers) := by
    rw [List.map_map]
    exact List.map_congr_left fun e he => parseLine_renderEntry answers (h e he)
  rw [parseEnv, render, Lines.splitlines_unlines (single_of_mem_rendered answers h),
    assignments_written, hreread, assignments_map_reread, assignments_layout]

/-- Written back from what is read, with values under which every line comes out as it was,
the text does too. -/
theorem render_parseEnv (h : ∀ e ∈ layout baseEntries exampleOnly, e.WellFormed)
    {result : List Char → Option (List Char)}
    (hlines : ∀ e ∈ layout baseEntries exampleOnly,
      renderEntry result (reread answers e) = renderEntry (chosen answers) e) :
    render (parseEnv (render baseEntries (chosen answers) exampleOnly)) result [] =
      render baseEntries (chosen answers) exampleOnly := by
  have hsingle := single_of_mem_rendered answers h
  have hsame : ∀ l ∈ Lines.written
      ((layout baseEntries exampleOnly).map (renderEntry (chosen answers))),
      renderEntry result (parseLine l) = l := by
    intro l hl
    unfold Lines.written at hl
    split at hl
    · rw [List.mem_singleton.mp hl]
      rfl
    · obtain ⟨e, he, rfl⟩ := List.mem_map.mp ((List.rdropWhile_prefix _ _).subset hl)
      rw [parseLine_renderEntry answers (h e he)]
      exact hlines e he
  rw [render, parseEnv, render, Lines.splitlines_unlines hsingle, layout, if_pos rfl,
    List.append_nil, List.map_map]
  have hmap := List.map_congr_left (f := renderEntry result ∘ parseLine) (g := id) hsame
  rw [hmap, List.map_id, Lines.unlines_written hsingle]

end Layout

/-! ## The definitions of a key -/

theorem mem_assignments_iff {entries : List Entry} {a : List Char × List Char × List Char} :
    a ∈ assignments entries ↔ .kv a.1 a.2.1 a.2.2 ∈ entries := by
  unfold assignments
  rw [List.mem_filterMap]
  constructor
  · rintro ⟨e, he, hkv⟩
    cases e with
    | raw text => cases hkv
    | kv key value comment =>
        cases hkv
        exact he
  · exact fun he => ⟨_, he, rfl⟩

/-- Under distinct keys, a key has the one value it is given. -/
theorem definitions_of_nodup {entries : List Entry} (h : (keysOf entries).Nodup)
    {a : List Char × List Char × List Char} (ha : a ∈ assignments entries) :
    definitions entries a.1 = [a.2.1] := by
  unfold keysOf at h
  unfold definitions
  generalize assignments entries = l at h ha
  induction l with
  | nil => cases ha
  | cons b l ih =>
      rw [List.map_cons, List.nodup_cons] at h
      rcases List.mem_cons.mp ha with rfl | ha
      · have hrest : l.filter (fun b => b.1 = a.1) = [] := by
          refine List.filter_eq_nil_iff.mpr fun b hb heq => h.1 ?_
          exact List.mem_map.mpr ⟨b, hb, of_decide_eq_true heq⟩
        rw [List.filter_cons, if_pos (decide_eq_true rfl), hrest]
        rfl
      · have hne : b.1 ≠ a.1 := fun heq => h.1 (heq ▸ List.mem_map_of_mem ha)
        rw [List.filter_cons_of_neg (by simpa using hne)]
        exact ih h.2 ha

theorem get?_valuesOf {entries : List Entry} (h : (keysOf entries).Nodup)
    {a : List Char × List Char × List Char} (ha : a ∈ assignments entries) :
    (valuesOf entries).get? a.1 = some a.2.1 := by
  refine Dict.get?_of_mem ?_
  rw [valuesOf, Dict.entries_ofPairs]
  · exact List.mem_map.mpr ⟨a, ha, rfl⟩
  · rw [List.map_map]
    exact h

/-- A value of a key is among its definitions. -/
theorem mem_definitions {entries : List Entry} {a : List Char × List Char × List Char}
    (ha : a ∈ assignments entries) : a.2.1 ∈ definitions entries a.1 :=
  List.mem_map.mpr ⟨a, List.mem_filter.mpr ⟨ha, decide_eq_true rfl⟩, rfl⟩

theorem length_definitions (entries : List Entry) (key : List Char) :
    (definitions entries key).length = (keysOf entries).count key := by
  unfold definitions keysOf
  rw [List.length_map, List.count, List.countP_map, List.countP_eq_length_filter]
  refine congrArg List.length (List.filter_congr fun a _ => ?_)
  exact (beq_eq_decide a.1 key).symm

/-! ## The plan -/

section Plan

variable (exampleText : List Char) (env : Option (List Char)) (answers : List Char → Answer)

theorem wellFormed_plan :
    ∀ e ∈ layout (buildPlan exampleText env).baseEntries (buildPlan exampleText env).exampleOnly,
      e.WellFormed := by
  refine wellFormed_layout (fun e he => ?_) fun e he => ?_
  · cases env with
    | none => exact wellFormed_of_mem_parseEnv he
    | some text => exact wellFormed_of_mem_parseEnv he
  · exact wellFormed_of_mem_parseEnv (List.mem_filter.mp he).1

theorem orderedKeys_buildPlan :
    (buildPlan exampleText env).orderedKeys = (buildPlan exampleText env).assigned.map (·.1) := by
  rw [Plan.assigned, assignments_append, List.map_append]
  rfl

theorem comment_of_mem_assigned {a : List Char × List Char × List Char}
    (h : a ∈ (buildPlan exampleText env).assigned) : Comment a.2.2 := by
  have hwell := wellFormed_plan exampleText env (.kv a.1 a.2.1 a.2.2)
  rw [Plan.assigned, ← assignments_layout] at h
  exact (hwell (mem_assignments_iff.mp h)).2.2

theorem kept_of_get? {text key value : List Char}
    (h : (valuesOf (parseEnv text)).get? key = some value) :
    (buildPlan exampleText (some text)).kept key = some value := by
  show some (((valuesOf (parseEnv text)).get? key).getD _) = _
  rw [h]
  rfl

theorem baseEntries_some (text : List Char) :
    (buildPlan exampleText (some text)).baseEntries = parseEnv text := rfl

theorem assignments_edited :
    assignments (parseEnv (edited exampleText env answers)) =
      (buildPlan exampleText env).assigned.map (rewritten answers) :=
  assignments_parseEnv_render answers (wellFormed_plan exampleText env)

theorem keysOf_edited :
    keysOf (parseEnv (edited exampleText env answers)) =
      (buildPlan exampleText env).orderedKeys := by
  rw [keysOf, assignments_edited, List.map_map, orderedKeys_buildPlan]
  rfl

theorem mem_exampleOnly_iff {e : Entry} :
    e ∈ (buildPlan exampleText env).exampleOnly ↔ e ∈ parseEnv exampleText ∧
      ∃ a, e.kv? = some a ∧ a.1 ∉ keysOf (buildPlan exampleText env).baseEntries := by
  simp [buildPlan, Option.any_eq_true]

theorem exampleOnly_edited :
    (buildPlan exampleText (some (edited exampleText env answers))).exampleOnly = [] := by
  refine List.eq_nil_iff_forall_not_mem.mpr fun e he => ?_
  obtain ⟨hexample, a, hkv, hnew⟩ := (mem_exampleOnly_iff _ _).mp he
  rw [baseEntries_some, keysOf_edited] at hnew
  refine hnew (List.mem_append.mpr ?_)
  by_cases hbase : a.1 ∈ keysOf (buildPlan exampleText env).baseEntries
  · exact .inl hbase
  · have honly := (mem_exampleOnly_iff exampleText env).mpr ⟨hexample, a, hkv, hbase⟩
    exact .inr (List.mem_map.mpr ⟨a, List.mem_filterMap.mpr ⟨e, honly, hkv⟩, rfl⟩)

variable {exampleText env}

theorem mem_assignments_edited {a : List Char × List Char × List Char}
    (ha : a ∈ (buildPlan exampleText env).assigned) :
    rewritten answers a ∈ assignments (parseEnv (edited exampleText env answers)) := by
  rw [assignments_edited]
  exact List.mem_map_of_mem ha

variable {answers}

theorem rewritten_of_legible {a : List Char × List Char × List Char}
    (ha : a ∈ (buildPlan exampleText env).assigned)
    (h : Legible a.1 (answers a.1).text a.2.2) :
    rewritten answers a = (a.1, quotedValue a.1 (answers a.1).text, a.2.2) := by
  have hcomment := comment_of_mem_assigned exampleText env ha
  rw [rewritten, splitValueComment_quotedValue h (answers a.1).tidy hcomment]

/-- With no key twice and every value legible, each key has the value chosen. -/
theorem returned_of_unambiguous (h : (buildPlan exampleText env).Unambiguous answers)
    {key : List Char} (hkey : key ∈ (buildPlan exampleText env).orderedKeys) :
    ∃ value, definitions (parseEnv (edited exampleText env answers)) key = [value] ∧
      (valuesOf (parseEnv (edited exampleText env answers))).get? key = some value ∧
        Returned (answers key).text value := by
  have hnodup : (keysOf (parseEnv (edited exampleText env answers))).Nodup := by
    rw [keysOf_edited]
    exact h.nodup
  rw [orderedKeys_buildPlan] at hkey
  obtain ⟨a, ha, rfl⟩ := List.mem_map.mp hkey
  have hmem := mem_assignments_edited answers ha
  rw [rewritten_of_legible ha (h.legible a ha)] at hmem
  exact ⟨quotedValue a.1 (answers a.1).text, definitions_of_nodup hnodup hmem,
    get?_valuesOf hnodup hmem, returned_quotedValue a.1 (answers a.1).text⟩

/-- And the values read are written as they were. -/
theorem stable_of_unambiguous (h : (buildPlan exampleText env).Unambiguous answers) :
    (buildPlan exampleText (some (edited exampleText env answers))).write
        (buildPlan exampleText (some (edited exampleText env answers))).kept =
      edited exampleText env answers := by
  have hnodup : (keysOf (parseEnv (edited exampleText env answers))).Nodup := by
    rw [keysOf_edited]
    exact h.nodup
  have hlines : ∀ e ∈ layout (buildPlan exampleText env).baseEntries
      (buildPlan exampleText env).exampleOnly,
      renderEntry (buildPlan exampleText (some (edited exampleText env answers))).kept
        (reread answers e) = renderEntry (chosen answers) e := by
    intro e he
    cases e with
    | raw text => rw [reread, renderEntry, renderEntry]
    | kv key value comment =>
        have ha : (key, value, comment) ∈ (buildPlan exampleText env).assigned := by
          rw [Plan.assigned, ← assignments_layout]
          exact mem_assignments_iff.mpr he
        have hrewritten := rewritten_of_legible ha (h.legible _ ha)
        have hmem := mem_assignments_edited answers ha
        rw [hrewritten] at hmem
        have hdefault := kept_of_get? exampleText (get?_valuesOf hnodup hmem)
        have hreread : reread answers (.kv key value comment) =
            .kv key (quotedValue key (answers key).text) comment := by
          rw [reread, hrewritten]
        rw [hreread, renderEntry, hdefault]
        exact formatKv_quotedValue key (answers key).text comment
  rw [Plan.write, exampleOnly_edited, baseEntries_some]
  exact render_parseEnv answers (wellFormed_plan exampleText env) hlines

/-- Where every key has one definition, the value chosen, the plan was unambiguous. -/
theorem unambiguous_of_returned
    (h : ∀ key ∈ (buildPlan exampleText env).orderedKeys, ∃ value,
      definitions (parseEnv (edited exampleText env answers)) key = [value] ∧
        Returned (answers key).text value) :
    (buildPlan exampleText env).Unambiguous answers where
  nodup := by
    refine List.nodup_iff_count_le_one.mpr fun key => ?_
    by_cases hkey : key ∈ (buildPlan exampleText env).orderedKeys
    · obtain ⟨value, hvalue, -⟩ := h key hkey
      rw [← keysOf_edited exampleText env answers, ← length_definitions, hvalue]
      exact Nat.le_refl 1
    · rw [List.count_eq_zero_of_not_mem hkey]
      exact Nat.zero_le 1
  legible a ha := by
    have hkey : a.1 ∈ (buildPlan exampleText env).orderedKeys := by
      rw [orderedKeys_buildPlan]
      exact List.mem_map_of_mem ha
    obtain ⟨value, hvalue, hreturned⟩ := h a.1 hkey
    have hmem := mem_definitions (mem_assignments_edited answers ha)
    have heq : (rewritten answers a).2.1 = value := by
      have hin : (rewritten answers a).2.1 ∈ [value] := hvalue ▸ hmem
      exact List.mem_singleton.mp hin
    rw [← heq] at hreturned
    exact legible_of_returned (answers a.1).tidy
      (comment_of_mem_assigned exampleText env ha) hreturned

end Plan

/-! ## Losing nothing -/

/-- A run of the script loses nothing exactly when no key is in the plan twice and every
value chosen is legible beside the comment of its line. -/
theorem roundTrip_iff (exampleText : List Char) (env : Option (List Char))
    (answers : List Char → Answer) :
    RoundTrip exampleText env answers ↔
      (buildPlan exampleText env).Unambiguous answers := by
  constructor
  · intro h
    refine unambiguous_of_returned fun key hkey => ?_
    obtain ⟨value, hvalue, -, hreturned⟩ := h.returned key hkey
    exact ⟨value, hvalue, hreturned⟩
  · intro h
    exact ⟨fun key hkey => returned_of_unambiguous h hkey, stable_of_unambiguous h⟩

/-- Nothing is there and nothing was typed. -/
def Answer.none : Answer where
  text := []
  tidy := Tidy.nil
  single _ hc := by cases hc

theorem single_hash : Single "pass #word".toList := Lines.single_of_all (by decide +kernel)

theorem single_quote : Single "tok\"en".toList := Lines.single_of_all (by decide +kernel)

/-- A password is cut at its ` #`, a token at the quote in it, and a key that is there twice
is written twice. -/
theorem edited_loses :
    ¬RoundTrip "MT5_PASSWORD=\n".toList none
        (fun _ => prompt .none "pass #word".toList single_hash) ∧
      ¬RoundTrip "NATS_TOKEN=\n".toList none
        (fun _ => prompt .none "tok\"en".toList single_quote) ∧
      ¬RoundTrip "MT5_PASSWORD=\n".toList (some "MT5_NAME=a\nMT5_NAME=b\n".toList)
        (fun _ => .none) := by
  have hkey : "MT5_PASSWORD".toList ∈
      (buildPlan "MT5_PASSWORD=\n".toList none).orderedKeys := by decide +kernel
  have htoken : "NATS_TOKEN".toList ∈
      (buildPlan "NATS_TOKEN=\n".toList none).orderedKeys := by decide +kernel
  have htwice : "MT5_NAME".toList ∈ (buildPlan "MT5_PASSWORD=\n".toList
      (some "MT5_NAME=a\nMT5_NAME=b\n".toList)).orderedKeys := by decide +kernel
  refine ⟨fun h => ?_, fun h => ?_, fun h => ?_⟩
  · obtain ⟨value, hvalue, -, hreturned⟩ := h.returned _ hkey
    have hread : definitions (parseEnv (edited "MT5_PASSWORD=\n".toList none
        fun _ => prompt .none "pass #word".toList single_hash)) "MT5_PASSWORD".toList =
          ["pass".toList] := by decide +kernel
    rw [hread] at hvalue
    obtain rfl := List.singleton_inj.mp hvalue
    exact absurd hreturned.length (by decide)
  · obtain ⟨value, hvalue, -, hreturned⟩ := h.returned _ htoken
    have hread : definitions (parseEnv (edited "NATS_TOKEN=\n".toList none
        fun _ => prompt .none "tok\"en".toList single_quote)) "NATS_TOKEN".toList =
          ["\"tok\"".toList] := by decide +kernel
    rw [hread] at hvalue
    obtain rfl := List.singleton_inj.mp hvalue
    exact absurd hreturned.length (by decide)
  · obtain ⟨value, hvalue, -⟩ := h.returned _ htwice
    have hread : (definitions (parseEnv (edited "MT5_PASSWORD=\n".toList
        (some "MT5_NAME=a\nMT5_NAME=b\n".toList) fun _ => .none)) "MT5_NAME".toList).length =
          2 := by decide +kernel
    rw [hvalue] at hread
    cases hread

end TradeWorker.Dotenv
