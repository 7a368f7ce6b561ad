import TradeWorker.Outbox

/-!
# The retries of an outbox row

What a row goes through from its writing to its deletion is the list of its tries: each is a
send of the row to the chats of its channel by a poll that found it due. A failed try counts an
attempt and puts the next one off by the backoff of that attempt, and the first try that all
the chats take is the last. The database takes every delete and every mark here.
-/

namespace TradeWorker

/-- A try of a row: when its poll looked for due rows, when its sends were over, and what
`send_message` answered. -/
structure Try where
  row : Nat
  began : Nat
  ended : Nat
  delivered : Bool
  deriving DecidableEq, Repr

namespace Outbox

variable {o : Outbox} {id : Nat} {row : OutboxRow}

def row? (o : Outbox) (id : Nat) : Option OutboxRow := o.rows.find? (·.id = id)

theorem mem_of_row? (h : o.row? id = some row) : row ∈ o.rows ∧ row.id = id := by
  have hfind : o.rows.find? (fun row => decide (row.id = id)) = some row := h
  exact ⟨List.mem_of_find?_eq_some hfind, by simpa using List.find?_some hfind⟩

theorem row?_eq_some : o.row? id = some row ↔ row ∈ o.rows ∧ row.id = id := by
  constructor
  · exact mem_of_row?
  · rintro ⟨hrow, rfl⟩
    cases h : o.row? row.id with
    | none => exact absurd (List.find?_eq_none.mp h row hrow) (by simp)
    | some found =>
        obtain ⟨hfound, hid⟩ := mem_of_row? h
        rw [List.inj_on_of_nodup_map o.distinct hfound hrow hid]

theorem row?_eq_none : o.row? id = none ↔ ∀ row ∈ o.rows, row.id ≠ id := by
  simp [row?]

theorem row?_deleteNotification {other : Nat} (hne : id ≠ other) :
    (o.deleteNotification other).row? id = o.row? id := by
  simp only [row?, deleteNotification, List.find?_filter]
  congr 1
  funext kept
  by_cases h : kept.id = id <;> simp [h, hne]

theorem row?_deleteNotification_self : (o.deleteNotification id).row? id = none :=
  row?_eq_none.mpr fun _ hrow => of_decide_eq_true (List.mem_filter.mp hrow).2

theorem row?_markNotificationFailed (other : Nat) (error : String) (at' : Nat) :
    (o.markNotificationFailed other error at').row? id =
      (o.row? id).map (marked other error at') := by
  simp only [row?, markNotificationFailed, List.find?_map]
  congr 2
  funext kept
  simp

theorem row?_enqueue (h : id < o.nextId) (channel : NotificationChannel) (messageText : String)
    (mode : NotificationMode) (maxAttempts : Nat) :
    (o.enqueue channel messageText mode maxAttempts).row? id = o.row? id := by
  have hne : o.nextId ≠ id := by omega
  simp [row?, enqueue, List.find?_append, hne]

theorem lt_nextId (h : o.row? id = some row) : id < o.nextId := by
  obtain ⟨hrow, rfl⟩ := row?_eq_some.mp h
  exact o.allocated row hrow

end Outbox

namespace Dispatch

section Tries

variable (notifiers : Notifiers)

/-- The try of a due row, where its channel has a notifier. -/
def tryOf (now : Nat) (w : RowPass) (row : OutboxRow) : Option Try :=
  (notifiers row.channel).map fun n => ⟨row.id, now, w.now, (n.sendMessage w.post).1⟩

def triesOf (s : Dispatch) : OutboxEvent → List Try
  | .enqueued .. => []
  | .polled now w =>
      (s.outbox.getDueNotifications now 20).filterMap fun row =>
        tryOf notifiers now (w row.id) row

def tries : Dispatch → List OutboxEvent → List Try
  | _, [] => []
  | s, e :: rest => s.triesOf notifiers e ++ tries (s.after notifiers e) rest

def triesAt (s : Dispatch) (events : List OutboxEvent) (id : Nat) : List Try :=
  (s.tries notifiers events).filter (·.row = id)

end Tries

/-- A row, its tries in order, and what is left of the row after them. -/
inductive Life : OutboxRow → List Try → Option OutboxRow → Prop where
  | idle (row : OutboxRow) : Life row [] (some row)
  | delivered {row : OutboxRow} {t : Try} (due : row.due t.began = true)
      (taken : t.delivered = true) : Life row [t] none
  | failed {row : OutboxRow} {t : Try} {rest : List Try} {left : Option OutboxRow}
      (due : row.due t.began = true) (refused : t.delivered = false)
      (next : Life (row.failed s!"Send failed (attempt {row.attempts + 1})"
        (nextAttemptAfter t.ended row.attempts)) rest left) : Life row (t :: rest) left

namespace Life

variable {row last : OutboxRow} {ts us : List Try} {left : Option OutboxRow}

theorem append (h : Life row ts (some last)) (hnext : Life last us left) :
    Life row (ts ++ us) left := by
  generalize hmid : some last = mid at h
  induction h with
  | idle row =>
      cases hmid
      exact hnext
  | delivered => cases hmid
  | failed due refused _ ih => exact .failed due refused (ih hmid)

theorem length_le (h : Life row ts left) : ts.length ≤ row.maxAttempts - row.attempts := by
  induction h with
  | idle => exact Nat.zero_le _
  | delivered due =>
      have hlive := lt_of_due due
      simp only [List.length_singleton]
      omega
  | failed due _ _ ih =>
      have hlive := lt_of_due due
      simp only [OutboxRow.failed, List.length_cons] at ih ⊢
      omega

/-- A try waits for the backoff of the attempt before it. -/
theorem spaced (h : Life row ts left) (i : Nat) (hi : i + 1 < ts.length) :
    nextAttemptAfter ts[i].ended (row.attempts + i) ≤ ts[i + 1].began := by
  induction h generalizing i with
  | idle => simp at hi
  | delivered => simp at hi
  | @failed row t rest left due _ next ih =>
      cases i with
      | zero =>
          cases next with
          | idle => simp at hi
          | delivered again | failed again =>
              simp only [OutboxRow.due, OutboxRow.failed, Option.all_some, Bool.and_eq_true,
                decide_eq_true_eq] at again
              exact again.2
      | succ i =>
          have hspaced := ih i (by simpa using hi)
          simp only [OutboxRow.failed] at hspaced
          rw [show row.attempts + (i + 1) = row.attempts + 1 + i by omega]
          exact hspaced

/-- A row that is left failed at each of its tries, and is else as it was. -/
theorem kept (h : Life row ts (some last)) :
    (∀ t ∈ ts, t.delivered = false) ∧ last.attempts = row.attempts + ts.length ∧
      last.channel = row.channel ∧ last.messageText = row.messageText ∧
      last.maxAttempts = row.maxAttempts := by
  generalize hmid : some last = mid at h
  induction h with
  | idle =>
      cases hmid
      exact ⟨nofun, rfl, rfl, rfl, rfl⟩
  | delivered => cases hmid
  | failed _ refused _ ih =>
      obtain ⟨hall, hattempts, hrest⟩ := ih hmid
      refine ⟨List.forall_mem_cons.mpr ⟨refused, hall⟩, ?_, hrest⟩
      simp only [OutboxRow.failed, List.length_cons] at hattempts ⊢
      omega

/-- A row that is gone went with its last try, and that one alone was delivered. -/
theorem gone (h : Life row ts none) : ∃ failed last, ts = failed ++ [last] ∧
    last.delivered = true ∧ ∀ t ∈ failed, t.delivered = false := by
  generalize hmid : none = mid at h
  induction h with
  | idle => cases hmid
  | @delivered row t _ taken => exact ⟨[], t, rfl, taken, nofun⟩
  | @failed row t rest left _ refused _ ih =>
      obtain ⟨failed, last, rfl, hlast, hall⟩ := ih hmid
      exact ⟨t :: failed, last, rfl, hlast, List.forall_mem_cons.mpr ⟨refused, hall⟩⟩

end Life

section Pass

variable {notifiers : Notifiers} {s : Dispatch} {row : OutboxRow} {id now : Nat}

theorem pass_row?_of_ne {w : RowPass} (hne : id ≠ row.id) :
    (pass notifiers w s row).outbox.row? id = s.outbox.row? id := by
  unfold pass
  split
  · rfl
  dsimp only
  split
  · exact Outbox.row?_deleteNotification hne
  · rw [Outbox.row?_markNotificationFailed]
    cases h : s.outbox.row? id with
    | none => rfl
    | some kept =>
        have hkept : kept.id ≠ row.id := (Outbox.row?_eq_some.mp h).2.symm ▸ hne
        rw [Option.map_some, Outbox.marked, if_neg hkept]

/-- What one pass makes of the row it is for. -/
theorem pass_life {w : RowPass} (hrow : s.outbox.row? row.id = some row)
    (hdue : row.due now = true) :
    Life row (tryOf notifiers now w row).toList ((pass notifiers w s row).outbox.row? row.id) := by
  unfold tryOf pass
  cases h : notifiers row.channel with
  | none =>
      dsimp only [Option.map_none, Option.toList_none]
      rw [hrow]
      exact .idle row
  | some n =>
      dsimp only [Option.map_some, Option.toList_some]
      by_cases hsent : (n.sendMessage w.post).1 = true
      · rw [if_pos hsent, Outbox.row?_deleteNotification_self]
        exact .delivered hdue hsent
      · rw [if_neg hsent, Outbox.row?_markNotificationFailed, hrow, Option.map_some,
          Outbox.marked, if_pos rfl]
        exact .failed hdue (Bool.eq_false_iff.mpr hsent) (.idle _)

theorem tryOf_row {w : RowPass} {t : Try} (h : t ∈ tryOf notifiers now w row) :
    t.row = row.id := by
  obtain ⟨n, -, rfl⟩ := Option.map_eq_some_iff.mp h
  rfl

theorem foldl_row?_of_ne {w : Nat → RowPass} {rows : List OutboxRow}
    (hne : ∀ row ∈ rows, row.id ≠ id) :
    (rows.foldl (fun s row => pass notifiers (w row.id) s row) s).outbox.row? id =
      s.outbox.row? id := by
  induction rows generalizing s with
  | nil => rfl
  | cons row rest ih =>
      obtain ⟨hrow, hrest⟩ := List.forall_mem_cons.mp hne
      rw [List.foldl_cons, ih hrest, pass_row?_of_ne hrow.symm]

theorem filter_filterMap_of_ne {w : Nat → RowPass} {rows : List OutboxRow}
    (hne : ∀ row ∈ rows, row.id ≠ id) :
    (rows.filterMap fun row => tryOf notifiers now (w row.id) row).filter (·.row = id) = [] := by
  rw [List.filter_eq_nil_iff]
  intro t ht hid
  obtain ⟨row, hrow, htry⟩ := List.mem_filterMap.mp ht
  exact hne row hrow ((tryOf_row htry).symm.trans (of_decide_eq_true hid))

/-- The passes of a poll come to one pass of the row: the others leave it. -/
theorem foldl_life {w : Nat → RowPass} {rows : List OutboxRow} (hmem : row ∈ rows)
    (hdistinct : (rows.map OutboxRow.id).Nodup) (hrow : s.outbox.row? row.id = some row)
    (hdue : row.due now = true) :
    Life row
      ((rows.filterMap fun row => tryOf notifiers now (w row.id) row).filter (·.row = row.id))
      ((rows.foldl (fun s row => pass notifiers (w row.id) s row) s).outbox.row? row.id) := by
  induction rows generalizing s with
  | nil => cases hmem
  | cons head rest ih =>
      rw [List.map_cons, List.nodup_cons] at hdistinct
      rw [List.filterMap_cons, List.foldl_cons]
      rcases List.mem_cons.mp hmem with rfl | hrest
      · have hothers : ∀ other ∈ rest, other.id ≠ row.id := by
          intro other hother heq
          exact hdistinct.1 (heq ▸ List.mem_map_of_mem hother)
        rw [foldl_row?_of_ne hothers]
        have hlife : Life row (tryOf notifiers now (w row.id) row).toList
            ((pass notifiers (w row.id) s row).outbox.row? row.id) := pass_life hrow hdue
        cases htry : tryOf notifiers now (w row.id) row with
        | none =>
            rw [filter_filterMap_of_ne hothers]
            rw [htry] at hlife
            exact hlife
        | some t =>
            rw [List.filter_cons, if_pos (decide_eq_true (tryOf_row htry)),
              filter_filterMap_of_ne hothers]
            rw [htry] at hlife
            exact hlife
      · have hne : row.id ≠ head.id := by
          intro heq
          exact hdistinct.1 (heq ▸ List.mem_map_of_mem hrest)
        have hstill : (pass notifiers (w head.id) s head).outbox.row? row.id = some row :=
          (pass_row?_of_ne hne).trans hrow
        have hlife := ih hrest hdistinct.2 hstill
        cases htry : tryOf notifiers now (w head.id) head with
        | none => exact hlife
        | some t =>
            rw [List.filter_cons, if_neg]
            · exact hlife
            · rw [tryOf_row htry]
              simpa using hne.symm

end Pass

section Run

variable {notifiers : Notifiers} {s : Dispatch} {row : OutboxRow} {id : Nat}

theorem foldl_nextId {w : Nat → RowPass} (rows : List OutboxRow) :
    (rows.foldl (fun s row => pass notifiers (w row.id) s row) s).outbox.nextId =
      s.outbox.nextId := by
  induction rows generalizing s with
  | nil => rfl
  | cons row rest ih =>
      rw [List.foldl_cons, ih]
      exact pass_nextId

theorem nextId_le_after (e : OutboxEvent) :
    s.outbox.nextId ≤ (s.after notifiers e).outbox.nextId := by
  cases e with
  | enqueued => exact Nat.le_succ _
  | polled now w => exact (foldl_nextId _).ge

/-- One event makes no more of a row than its life has room for. -/
theorem after_life (hrow : s.outbox.row? row.id = some row) (e : OutboxEvent) :
    Life row ((s.triesOf notifiers e).filter (·.row = row.id))
      ((s.after notifiers e).outbox.row? row.id) := by
  cases e with
  | enqueued channel messageText mode maxAttempts =>
      rw [after, Outbox.row?_enqueue (Outbox.lt_nextId hrow), hrow]
      exact .idle row
  | polled now w =>
      by_cases hmem : row ∈ s.outbox.getDueNotifications now 20
      · exact foldl_life hmem (nodup_getDueNotifications ..) hrow
          (mem_getDueNotifications hmem).2
      · have hothers : ∀ other ∈ s.outbox.getDueNotifications now 20, other.id ≠ row.id := by
          intro other hother heq
          have hin := (mem_getDueNotifications hother).1
          have hother' : s.outbox.row? row.id = some other := Outbox.row?_eq_some.mpr ⟨hin, heq⟩
          rw [hrow] at hother'
          cases hother'
          exact hmem hother
        rw [triesOf, filter_filterMap_of_ne hothers, after, poll, foldl_row?_of_ne hothers, hrow]
        exact .idle row

/-- A row that is gone is not tried again, and its id is not given again. -/
theorem after_gone (hgone : s.outbox.row? id = none) (hknown : id < s.outbox.nextId)
    (e : OutboxEvent) :
    (s.triesOf notifiers e).filter (·.row = id) = [] ∧
      (s.after notifiers e).outbox.row? id = none := by
  cases e with
  | enqueued channel messageText mode maxAttempts =>
      refine ⟨rfl, ?_⟩
      rw [after, Outbox.row?_enqueue hknown, hgone]
  | polled now w =>
      have hothers : ∀ other ∈ s.outbox.getDueNotifications now 20, other.id ≠ id :=
        fun other hother =>
          Outbox.row?_eq_none.mp hgone other (mem_getDueNotifications hother).1
      refine ⟨filter_filterMap_of_ne hothers, ?_⟩
      rw [after, poll, foldl_row?_of_ne hothers, hgone]

theorem run_gone (events : List OutboxEvent) (hgone : s.outbox.row? id = none)
    (hknown : id < s.outbox.nextId) :
    s.triesAt notifiers events id = [] ∧ (s.run notifiers events).outbox.row? id = none := by
  induction events generalizing s with
  | nil => exact ⟨rfl, hgone⟩
  | cons e rest ih =>
      have hnone : (s.triesOf notifiers e).filter (·.row = id) = [] ∧
          (s.after notifiers e).outbox.row? id = none := after_gone hgone hknown e
      obtain ⟨hrest, hleft⟩ := ih hnone.2 (hknown.trans_le (nextId_le_after e))
      refine ⟨?_, hleft⟩
      rw [triesAt, tries, List.filter_append, hnone.1]
      exact hrest

theorem run_life (events : List OutboxEvent) (hrow : s.outbox.row? row.id = some row) :
    Life row (s.triesAt notifiers events row.id)
      ((s.run notifiers events).outbox.row? row.id) := by
  induction events generalizing s row with
  | nil =>
      rw [run, List.foldl_nil, hrow]
      exact .idle row
  | cons e rest ih =>
      have hfirst : Life row ((s.triesOf notifiers e).filter (·.row = row.id))
          ((s.after notifiers e).outbox.row? row.id) := after_life hrow e
      rw [triesAt, tries, List.filter_append]
      cases hleft : (s.after notifiers e).outbox.row? row.id with
      | none =>
          rw [hleft] at hfirst
          have hknown : row.id < (s.after notifiers e).outbox.nextId :=
            (Outbox.lt_nextId hrow).trans_le (nextId_le_after e)
          obtain ⟨htries, hgone⟩ := run_gone rest hleft hknown
          rw [triesAt] at htries
          rw [htries, List.append_nil, run, List.foldl_cons]
          rw [run] at hgone
          rw [hgone]
          exact hfirst
      | some kept =>
          have hid := (Outbox.row?_eq_some.mp hleft).2
          rw [hleft] at hfirst
          have hnext := ih (hid.symm ▸ hleft)
          rw [hid] at hnext
          exact hfirst.append hnext

end Run

section Posts

variable {notifiers : Notifiers} {s : Dispatch} {id : Nat} {target : ChatTarget}

def postsTo (s : Dispatch) (id : Nat) (target : ChatTarget) : Nat :=
  s.posts.countP fun p => p.row = id ∧ p.target = target

theorem pass_postsTo {w : RowPass} {row : OutboxRow} (now : Nat) :
    (pass notifiers w s row).postsTo id target ≤
      s.postsTo id target +
        ((tryOf notifiers now w row).toList.filter (·.row = id)).length := by
  cases h : notifiers row.channel with
  | none =>
      rw [pass_of_none h]
      exact Nat.le_add_right _ _
  | some n =>
      rw [postsTo, pass_posts h, List.countP_append, List.countP_map, tryOf, h]
      by_cases hid : row.id = id
      · subst hid
        have honce := List.nodup_iff_count_le_one.mp n.nodup_posted target
        rw [List.count_eq_countP] at honce
        have hcount : n.posted.countP ((fun p : OutboxPost => decide (p.row = row.id ∧
            p.target = target)) ∘ fun t => ⟨row.id, t, (w.post t).taken⟩) =
              n.posted.countP (· == target) := by
          congr 1
          funext t
          simp [beq_eq_decide]
        simp only [Option.map_some, Option.toList_some, List.filter_cons, decide_true,
          if_true, List.filter_nil, List.length_singleton, postsTo]
        omega
      · simp [hid, postsTo]

theorem foldl_postsTo {w : Nat → RowPass} (rows : List OutboxRow) (now : Nat) :
    (rows.foldl (fun s row => pass notifiers (w row.id) s row) s).postsTo id target ≤
      s.postsTo id target +
        ((rows.filterMap fun row => tryOf notifiers now (w row.id) row).filter
          (·.row = id)).length := by
  induction rows generalizing s with
  | nil => exact Nat.le_add_right _ _
  | cons row rest ih =>
      have hone : (pass notifiers (w row.id) s row).postsTo id target ≤ s.postsTo id target +
          ((tryOf notifiers now (w row.id) row).toList.filter (·.row = id)).length :=
        pass_postsTo now
      have hrest := ih (s := pass notifiers (w row.id) s row)
      have hsplit : (row :: rest).filterMap (fun row => tryOf notifiers now (w row.id) row) =
          (tryOf notifiers now (w row.id) row).toList ++
            rest.filterMap fun row => tryOf notifiers now (w row.id) row := by
        rw [List.filterMap_cons]
        cases tryOf notifiers now (w row.id) row <;> rfl
      rw [List.foldl_cons, hsplit, List.filter_append, List.length_append]
      omega

theorem run_postsTo (events : List OutboxEvent) :
    (s.run notifiers events).postsTo id target ≤
      s.postsTo id target + (s.triesAt notifiers events id).length := by
  induction events generalizing s with
  | nil => exact Nat.le_add_right _ _
  | cons e rest ih =>
      have hrest := ih (s := s.after notifiers e)
      have hone : (s.after notifiers e).postsTo id target ≤ s.postsTo id target +
          ((s.triesOf notifiers e).filter (·.row = id)).length := by
        cases e with
        | enqueued => exact Nat.le_add_right _ _
        | polled now w => exact foldl_postsTo ..
      rw [triesAt, tries, List.filter_append, List.length_append]
      rw [triesAt] at hrest
      exact hrest.trans (by omega)

end Posts

end Dispatch

/-- What `s` shows of a row that was tried `ts`. -/
structure Budget (row : OutboxRow) (ts : List Try) (s : Dispatch) : Prop where
  within : ts.length ≤ row.maxAttempts - row.attempts
  spaced : ∀ i (hi : i + 1 < ts.length),
    nextAttemptAfter ts[i].ended (row.attempts + i) ≤ ts[i + 1].began
  posted : ∀ target, s.postsTo row.id target ≤ ts.length
  waiting : ∀ last, s.outbox.row? row.id = some last → (∀ t ∈ ts, t.delivered = false) ∧
    last.attempts = row.attempts + ts.length ∧ last.channel = row.channel ∧
    last.messageText = row.messageText ∧ last.maxAttempts = row.maxAttempts
  gone : s.outbox.row? row.id = none → ∃ failed last, ts = failed ++ [last] ∧
    last.delivered = true ∧ ∀ t ∈ failed, t.delivered = false

/-- **The retry budget of a row**, in any run of writes and polls. It is tried no more often
than it has attempts left, each time after the backoff of the try before, and no chat is posted
it more often than that. While it is in the table each of its tries failed and was counted; it
goes with the first that all the chats took. -/
theorem outboxRow_budget (notifiers : Notifiers) (o : Outbox) (events : List OutboxEvent)
    {row : OutboxRow} (hrow : row ∈ o.rows) :
    Budget row (Dispatch.triesAt notifiers { outbox := o } events row.id)
      (Dispatch.run notifiers { outbox := o } events) := by
  have hlife : Dispatch.Life row (Dispatch.triesAt notifiers { outbox := o } events row.id)
      ((Dispatch.run notifiers { outbox := o } events).outbox.row? row.id) :=
    Dispatch.run_life events (Outbox.row?_eq_some.mpr ⟨hrow, rfl⟩)
  refine ⟨hlife.length_le, hlife.spaced, fun target => ?_, fun last hlast => ?_, fun hgone => ?_⟩
  · have hposts : (Dispatch.run notifiers { outbox := o } events).postsTo row.id target ≤
        Dispatch.postsTo { outbox := o } row.id target +
          (Dispatch.triesAt notifiers { outbox := o } events row.id).length :=
      Dispatch.run_postsTo events
    exact hposts.trans (by simp [Dispatch.postsTo])
  · rw [hlast] at hlife
    exact hlife.kept
  · rw [hgone] at hlife
    exact hlife.gone

def oneRow : Outbox := emptyOutbox.enqueue .community "Opened" .verbose 2

def refusedPolls (times : List Nat) : List OutboxEvent :=
  times.map fun now => .polled now fun _ => ⟨fun _ => .raised, now + 1⟩

/-- The second poll comes before the backoff is over, and the third is the last try. -/
theorem refused_budget :
    Dispatch.triesAt twoChats { outbox := oneRow } (refusedPolls [0, 5, 6, 900]) 1 =
        [⟨1, 0, 1, false⟩, ⟨1, 6, 7, false⟩] ∧
      Budget ⟨1, .community, "Opened", .verbose, 0, 2, none, none⟩
        (Dispatch.triesAt twoChats { outbox := oneRow } (refusedPolls [0, 5, 6, 900]) 1)
        (Dispatch.run twoChats { outbox := oneRow } (refusedPolls [0, 5, 6, 900])) := by
  have hrow : ⟨1, .community, "Opened", .verbose, 0, 2, none, none⟩ ∈ oneRow.rows := by decide
  exact ⟨by decide +kernel, outboxRow_budget twoChats oneRow _ hrow⟩

end TradeWorker
