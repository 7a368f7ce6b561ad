import Mathlib.Data.List.Nodup
import Mathlib.Data.List.Pairwise
import TradeWorker.ChatTargets

/-!
# The notification outbox

`NotificationJob` sends a row of the outbox to every chat of its channel. It deletes the row
when all of them took the message, and else tries again later, again with every chat. A row
remembers how often it was tried and not which chats have it, while a message is to be
sent once and then deleted.
-/

namespace TradeWorker

/-! ## The sender -/

/-- What `requests.post` came to. -/
inductive PostOutcome where
  | status (code : Nat)
  | raised
  deriving DecidableEq, Repr

/-- The chat took the message. -/
def PostOutcome.taken (o : PostOutcome) : Bool := o = .status 200

/-- A `TelegramNotification`, with the chat setting it was given. -/
structure TelegramNotification where
  enabled : Bool := true
  botToken : Option String := none
  chatIds : List (Option String) := []

namespace TelegramNotification

variable (n : TelegramNotification) (post : ChatTarget → PostOutcome)

def targets : List ChatTarget := parseChatTargets n.chatIds

/-- One round of the loop of `send_message`: `success`, and what was posted so far. -/
def postTo (acc : Bool × List (ChatTarget × PostOutcome)) (target : ChatTarget) :
    Bool × List (ChatTarget × PostOutcome) :=
  (if (post target).taken then acc.1 else false, acc.2 ++ [(target, post target)])

def sendMessage : Bool × List (ChatTarget × PostOutcome) :=
  if n.enabled = false then (true, [])
  else if text? n.botToken = none then (false, [])
  else if n.targets = [] then (false, [])
  else n.targets.foldl (postTo post) (true, [])

def posted : List ChatTarget :=
  if n.enabled = false ∨ text? n.botToken = none then [] else n.targets

/-- All of them took it, where there are any to ask. -/
def Delivers : Prop := n.enabled = false ∨
  text? n.botToken ≠ none ∧ n.targets ≠ [] ∧ ∀ target ∈ n.targets, (post target).taken = true

theorem nodup_targets : n.targets.Nodup := nodup_keepNew _

theorem nodup_posted : n.posted.Nodup := by
  unfold posted
  split
  · exact List.nodup_nil
  · exact n.nodup_targets

theorem foldl_postTo (targets : List ChatTarget) (success : Bool)
    (posts : List (ChatTarget × PostOutcome)) :
    targets.foldl (postTo post) (success, posts) =
      (success && targets.all fun t => (post t).taken,
        posts ++ targets.map fun t => (t, post t)) := by
  induction targets generalizing success posts with
  | nil => simp
  | cons t rest ih =>
      rw [List.foldl_cons, postTo, ih]
      cases ht : (post t).taken <;> simp [ht]

theorem sendMessage_snd : (n.sendMessage post).2 = n.posted.map fun t => (t, post t) := by
  unfold sendMessage posted
  split
  · rename_i h
    simp [h]
  · rename_i henabled
    split
    · rename_i h
      simp [h]
    · rename_i htoken
      rw [if_neg (not_or.mpr ⟨henabled, htoken⟩)]
      split
      · rename_i h
        simp [h]
      · rw [foldl_postTo]
        rfl

theorem sendMessage_fst : (n.sendMessage post).1 = true ↔ n.Delivers post := by
  unfold sendMessage Delivers
  split
  · rename_i h
    simp [h]
  · rename_i henabled
    split
    · rename_i h
      simp [h, henabled]
    · rename_i htoken
      split
      · rename_i h
        simp [h, henabled]
      · rename_i htargets
        rw [foldl_postTo]
        simp [henabled, htoken, htargets]

variable {n post}

theorem posted_of_mem {target : ChatTarget} (h : target ∈ n.posted) :
    n.enabled = true ∧ text? n.botToken ≠ none ∧ n.posted = n.targets := by
  unfold posted at h ⊢
  split at h
  · cases h
  · rename_i hgate
    rw [not_or, Bool.not_eq_false] at hgate
    exact ⟨hgate.1, hgate.2, if_neg (by simp [hgate])⟩

theorem delivers_of_forall_posted (hne : ∃ target, target ∈ n.posted)
    (h : ∀ target ∈ n.posted, (post target).taken = true) : n.Delivers post := by
  obtain ⟨target, htarget⟩ := hne
  obtain ⟨-, htoken, hposted⟩ := posted_of_mem htarget
  rw [hposted] at h htarget
  exact Or.inr ⟨htoken, List.ne_nil_of_mem htarget, h⟩

theorem not_delivers {target : ChatTarget} (h : target ∈ n.posted)
    (hrefused : (post target).taken = false) : ¬n.Delivers post := by
  obtain ⟨henabled, -, hposted⟩ := posted_of_mem h
  rintro (hoff | ⟨-, -, hall⟩)
  · rw [henabled] at hoff
    cases hoff
  · rw [hall target (hposted ▸ h)] at hrefused
    cases hrefused

end TelegramNotification

/-! ## The table -/

inductive NotificationChannel where
  | individual | community
  deriving DecidableEq, Repr

inductive NotificationMode where
  | verbose | silent | error
  deriving DecidableEq, Repr

structure OutboxRow where
  id : Nat
  channel : NotificationChannel
  messageText : String
  mode : NotificationMode := .verbose
  attempts : Nat := 0
  maxAttempts : Nat := 5
  lastError : Option String := none
  nextAttemptAt : Option Nat := none
  deriving DecidableEq, Repr

/-- The rows in the order of their ids, which are never given twice. -/
structure Outbox where
  rows : List OutboxRow
  nextId : Nat
  distinct : (rows.map OutboxRow.id).Nodup
  allocated : ∀ row ∈ rows, row.id < nextId

namespace OutboxRow

/-- The `WHERE` of `get_due_notifications`. -/
def due (now : Nat) (row : OutboxRow) : Bool :=
  row.mode = .verbose && row.attempts < row.maxAttempts &&
    row.nextAttemptAt.all fun at' => at' ≤ now

/-- The `SET` of `mark_notification_failed`. -/
def failed (error : String) (nextAttemptAt : Nat) (row : OutboxRow) : OutboxRow :=
  { row with
    attempts := row.attempts + 1
    lastError := some error
    nextAttemptAt := some nextAttemptAt }

@[simp] theorem failed_id (error : String) (at' : Nat) (row : OutboxRow) :
    (row.failed error at').id = row.id := rfl

end OutboxRow

namespace Outbox

variable (o : Outbox)

def getDueNotifications (now limit : Nat) : List OutboxRow :=
  (o.rows.filter (·.due now)).take limit

theorem distinct_snoc {row : OutboxRow} (hid : row.id = o.nextId) :
    ((o.rows ++ [row]).map OutboxRow.id).Nodup := by
  rw [List.map_append, List.nodup_append]
  refine ⟨o.distinct, List.nodup_singleton _, ?_⟩
  rintro a ha b hb rfl
  obtain ⟨kept, hkept, rfl⟩ := List.mem_map.mp ha
  have hlt := o.allocated kept hkept
  simp only [List.map_cons, List.map_nil, List.mem_singleton] at hb
  omega

/-- `enqueue_notification`. -/
def enqueue (channel : NotificationChannel) (messageText : String) (mode : NotificationMode)
    (maxAttempts : Nat) : Outbox where
  rows := o.rows ++ [{ id := o.nextId, channel, messageText, mode, maxAttempts }]
  nextId := o.nextId + 1
  distinct := o.distinct_snoc rfl
  allocated row hrow := by
    rcases List.mem_append.mp hrow with h | h
    · exact (o.allocated row h).trans (Nat.lt_succ_self _)
    · rw [List.mem_singleton.mp h]
      exact Nat.lt_succ_self _

def deleteNotification (id : Nat) : Outbox where
  rows := o.rows.filter (·.id ≠ id)
  nextId := o.nextId
  distinct := (List.filter_sublist.map _).nodup o.distinct
  allocated row hrow := o.allocated row (List.mem_filter.mp hrow).1

def marked (id : Nat) (error : String) (nextAttemptAt : Nat) (row : OutboxRow) : OutboxRow :=
  if row.id = id then row.failed error nextAttemptAt else row

@[simp] theorem marked_id (id : Nat) (error : String) (at' : Nat) (row : OutboxRow) :
    (marked id error at' row).id = row.id := by
  unfold marked
  split <;> rfl

def markNotificationFailed (id : Nat) (error : String) (nextAttemptAt : Nat) : Outbox where
  rows := o.rows.map (marked id error nextAttemptAt)
  nextId := o.nextId
  distinct := by
    rw [List.map_map, show OutboxRow.id ∘ marked id error nextAttemptAt = OutboxRow.id from
      funext fun row => marked_id id error nextAttemptAt row]
    exact o.distinct
  allocated row hrow := by
    obtain ⟨kept, hkept, rfl⟩ := List.mem_map.mp hrow
    rw [marked_id]
    exact o.allocated kept hkept

end Outbox

/-! ## The dispatcher -/

/-- `_BACKOFF_SECONDS`. -/
def outboxBackoff : List Nat := [5, 30, 120, 600]

/-- `_next_attempt_at`. -/
def nextAttemptAfter (now attempts : Nat) : Nat :=
  now + outboxBackoff.getD (min attempts (outboxBackoff.length - 1)) 0

/-- A post of a row to a chat, and whether the chat took it. -/
structure OutboxPost where
  row : Nat
  target : ChatTarget
  taken : Bool
  deriving DecidableEq, Repr

/-- The table, and every post made of its rows, in order. -/
structure Dispatch where
  outbox : Outbox
  posts : List OutboxPost := []

/-- What the world has ready for one row of a poll: the outcome of a post to each chat, and
the time after. -/
structure RowPass where
  post : ChatTarget → PostOutcome
  now : Nat

/-- The notifiers of `NotificationJob`, by channel. -/
abbrev Notifiers : Type := NotificationChannel → Option TelegramNotification

/-- What happens to the outbox: a row is written to it, or its dispatcher polls. -/
inductive OutboxEvent where
  | enqueued (channel : NotificationChannel) (messageText : String) (mode : NotificationMode)
      (maxAttempts : Nat)
  | polled (now : Nat) (w : Nat → RowPass)

namespace Dispatch

variable (notifiers : Notifiers)

/-- The body of the loop of `_poll`. -/
def pass (w : RowPass) (s : Dispatch) (row : OutboxRow) : Dispatch :=
  match notifiers row.channel with
  | none => s
  | some n =>
      let sent := n.sendMessage w.post
      { outbox :=
          if sent.1 then s.outbox.deleteNotification row.id
          else s.outbox.markNotificationFailed row.id
            s!"Send failed (attempt {row.attempts + 1})" (nextAttemptAfter w.now row.attempts)
        posts := s.posts ++ sent.2.map fun p => ⟨row.id, p.1, p.2.taken⟩ }

/-- `_poll`, with what the world has ready for the row of each id. -/
def poll (now : Nat) (w : Nat → RowPass) (s : Dispatch) : Dispatch :=
  (s.outbox.getDueNotifications now 20).foldl (fun s row => pass notifiers (w row.id) s row) s

def after (s : Dispatch) : OutboxEvent → Dispatch
  | .enqueued channel messageText mode maxAttempts =>
      { s with outbox := s.outbox.enqueue channel messageText mode maxAttempts }
  | .polled now w => poll notifiers now w s

def run (s : Dispatch) (events : List OutboxEvent) : Dispatch :=
  events.foldl (after notifiers) s

/-! ## Repeats -/

/-- No chat that took a row is sent it again. -/
def NoRepeats (posts : List OutboxPost) : Prop :=
  posts.Pairwise fun a b => a.taken = true → a.row = b.row → a.target ≠ b.target

/-- The chats of a row take it together or not at all, or the row has no attempt left. -/
def Careful (w : RowPass) (row : OutboxRow) : Prop :=
  ∀ n ∈ notifiers row.channel,
    (∀ target ∈ n.posted, (w.post target).taken = true) ∨
      (∀ target ∈ n.posted, (w.post target).taken = false) ∨
      row.maxAttempts ≤ row.attempts + 1

def CarefulStep (s : Dispatch) : OutboxEvent → Prop
  | .enqueued .. => True
  | .polled now w =>
      ∀ row ∈ s.outbox.getDueNotifications now 20, Careful notifiers (w row.id) row

def CarefulRun : Dispatch → List OutboxEvent → Prop
  | _, [] => True
  | s, e :: rest => s.CarefulStep notifiers e ∧ CarefulRun (s.after notifiers e) rest

/-- Nothing was repeated, and a row that some chat took is out of attempts if it is there. -/
structure Settled (s : Dispatch) : Prop where
  once : NoRepeats s.posts
  known : ∀ p ∈ s.posts, p.row < s.outbox.nextId
  spent : ∀ p ∈ s.posts, p.taken = true → ∀ row ∈ s.outbox.rows, row.id = p.row →
    row.maxAttempts ≤ row.attempts

section Pass

variable {notifiers} {w : RowPass} {s : Dispatch} {row : OutboxRow} {n : TelegramNotification}

theorem pass_of_none (h : notifiers row.channel = none) : pass notifiers w s row = s := by
  rw [pass, h]

theorem pass_posts (h : notifiers row.channel = some n) :
    (pass notifiers w s row).posts =
      s.posts ++ n.posted.map fun t => ⟨row.id, t, (w.post t).taken⟩ := by
  rw [pass, h]
  simp [n.sendMessage_snd w.post]

theorem pass_nextId : (pass notifiers w s row).outbox.nextId = s.outbox.nextId := by
  unfold pass
  split
  · rfl
  · dsimp only
    split <;> rfl

theorem pass_rows_of_delivers (h : notifiers row.channel = some n) (hall : n.Delivers w.post) :
    (pass notifiers w s row).outbox.rows = s.outbox.rows.filter (·.id ≠ row.id) := by
  rw [pass, h]
  dsimp only
  rw [if_pos ((n.sendMessage_fst w.post).mpr hall)]
  rfl

theorem pass_rows_of_fails (h : notifiers row.channel = some n) (hnot : ¬n.Delivers w.post) :
    (pass notifiers w s row).outbox.rows = s.outbox.rows.map
      (Outbox.marked row.id s!"Send failed (attempt {row.attempts + 1})"
        (nextAttemptAfter w.now row.attempts)) := by
  rw [pass, h]
  dsimp only
  rw [if_neg fun hsent => hnot ((n.sendMessage_fst w.post).mp hsent)]
  rfl

theorem mem_pass_rows {other : OutboxRow} (hother : other ∈ s.outbox.rows)
    (hne : other.id ≠ row.id) : other ∈ (pass notifiers w s row).outbox.rows := by
  cases h : notifiers row.channel with
  | none =>
      rw [pass_of_none h]
      exact hother
  | some n =>
      by_cases hall : n.Delivers w.post
      · rw [pass_rows_of_delivers h hall]
        exact List.mem_filter.mpr ⟨hother, decide_eq_true hne⟩
      · rw [pass_rows_of_fails h hall]
        exact List.mem_map.mpr ⟨other, hother, if_neg hne⟩

/-- A row that is left stands for one that was there, with no fewer attempts. -/
theorem of_mem_pass_rows {left : OutboxRow}
    (hleft : left ∈ (pass notifiers w s row).outbox.rows) :
    ∃ kept ∈ s.outbox.rows, kept.id = left.id ∧ kept.maxAttempts = left.maxAttempts ∧
      kept.attempts ≤ left.attempts := by
  cases h : notifiers row.channel with
  | none =>
      rw [pass_of_none h] at hleft
      exact ⟨left, hleft, rfl, rfl, le_rfl⟩
  | some n =>
      by_cases hall : n.Delivers w.post
      · rw [pass_rows_of_delivers h hall] at hleft
        exact ⟨left, (List.mem_filter.mp hleft).1, rfl, rfl, le_rfl⟩
      · rw [pass_rows_of_fails h hall] at hleft
        obtain ⟨kept, hkept, rfl⟩ := List.mem_map.mp hleft
        refine ⟨kept, hkept, (Outbox.marked_id ..).symm, ?_⟩
        unfold Outbox.marked
        split
        · exact ⟨rfl, Nat.le_succ _⟩
        · exact ⟨rfl, le_rfl⟩

theorem Settled.pass_noRepeats (hs : s.Settled) (hrow : row ∈ s.outbox.rows)
    (hlive : row.attempts < row.maxAttempts) : NoRepeats (pass notifiers w s row).posts := by
  cases h : notifiers row.channel with
  | none =>
      rw [pass_of_none h]
      exact hs.once
  | some n =>
      rw [pass_posts h, NoRepeats, List.pairwise_append]
      refine ⟨hs.once, ?_, ?_⟩
      · rw [List.pairwise_map]
        exact n.nodup_posted.imp fun hne _ _ => hne
      · -- a chat that took the row before would have left it spent
        intro a ha b hb htaken hsame _
        obtain ⟨target, -, rfl⟩ := List.mem_map.mp hb
        have hspent := hs.spent a ha htaken row hrow hsame.symm
        omega

/-- A careful pass leaves a row only where no chat has it, or where it is spent. -/
theorem Settled.pass (hs : s.Settled) (hrow : row ∈ s.outbox.rows)
    (hlive : row.attempts < row.maxAttempts) (hcareful : Careful notifiers w row) :
    (pass notifiers w s row).Settled where
  once := hs.pass_noRepeats hrow hlive
  known := by
    intro p hp
    rw [pass_nextId]
    cases h : notifiers row.channel with
    | none =>
        rw [pass_of_none h] at hp
        exact hs.known p hp
    | some n =>
        rw [pass_posts h] at hp
        rcases List.mem_append.mp hp with hp | hp
        · exact hs.known p hp
        · obtain ⟨target, -, rfl⟩ := List.mem_map.mp hp
          exact s.outbox.allocated row hrow
  spent := by
    intro p hp htaken left hleft hid
    obtain ⟨kept, hkept, hkid, hmax, hattempts⟩ := of_mem_pass_rows hleft
    have hold : p ∈ s.posts → left.maxAttempts ≤ left.attempts := by
      intro hp
      have hspent := hs.spent p hp htaken kept hkept (hkid.trans hid)
      omega
    cases h : notifiers row.channel with
    | none =>
        rw [pass_of_none h] at hp
        exact hold hp
    | some n =>
        rw [pass_posts h] at hp
        rcases List.mem_append.mp hp with hp | hp
        · exact hold hp
        obtain ⟨target, htarget, rfl⟩ := List.mem_map.mp hp
        by_cases hall : n.Delivers w.post
        · rw [pass_rows_of_delivers h hall] at hleft
          exact absurd hid (by simpa using (List.mem_filter.mp hleft).2)
        · rw [pass_rows_of_fails h hall] at hleft
          obtain ⟨marked, hmarked, rfl⟩ := List.mem_map.mp hleft
          have hmid : marked.id = row.id := (Outbox.marked_id ..).symm.trans hid
          obtain rfl := List.inj_on_of_nodup_map s.outbox.distinct hmarked hrow hmid
          rw [Outbox.marked, if_pos rfl]
          rcases hcareful n h with htook | hnone | hlast
          · have hdelivers := TelegramNotification.delivers_of_forall_posted ⟨target, htarget⟩ htook
            exact absurd hdelivers hall
          · rw [hnone target htarget] at htaken
            cases htaken
          · exact hlast

/-- A pass that is not careful leaves its row to be tried again, after a chat took it. -/
theorem retried_of_not_careful (hrow : row ∈ s.outbox.rows) (hmode : row.mode = .verbose)
    (hcareless : ¬Careful notifiers w row) :
    ∃ kept ∈ (pass notifiers w s row).outbox.rows, kept.id = row.id ∧
      kept.channel = row.channel ∧ (∃ now, kept.due now = true) ∧
      ∃ target, (∃ n ∈ notifiers row.channel, target ∈ n.posted) ∧
        ⟨row.id, target, true⟩ ∈ (pass notifiers w s row).posts := by
  unfold Careful at hcareless
  push Not at hcareless
  obtain ⟨n, h, ⟨refused, hrefused, hno⟩, ⟨target, htarget, htook⟩, hleft⟩ := hcareless
  have hno := Bool.eq_false_iff.mpr hno
  have htook := Bool.eq_true_of_not_eq_false htook
  refine ⟨row.failed s!"Send failed (attempt {row.attempts + 1})"
    (nextAttemptAfter w.now row.attempts), ?_, rfl, rfl,
    ⟨nextAttemptAfter w.now row.attempts, ?_⟩, target, ⟨n, h, htarget⟩, ?_⟩
  · rw [pass_rows_of_fails h (TelegramNotification.not_delivers hrefused hno)]
    exact List.mem_map.mpr ⟨row, hrow, if_pos rfl⟩
  · simp [OutboxRow.due, OutboxRow.failed, hmode, hleft]
  · rw [pass_posts h]
    exact List.mem_append_right _ (List.mem_map.mpr ⟨target, htarget, by rw [htook]⟩)

theorem repeats_of_pass {target : ChatTarget} (h : notifiers row.channel = some n)
    (htarget : target ∈ n.posted) (htook : ⟨row.id, target, true⟩ ∈ s.posts) :
    ¬NoRepeats (pass notifiers w s row).posts := by
  rw [pass_posts h, NoRepeats, List.pairwise_append]
  rintro ⟨-, -, hcross⟩
  exact hcross _ htook _ (List.mem_map.mpr ⟨target, htarget, rfl⟩) rfl rfl rfl

end Pass

section Run

variable {notifiers} {s : Dispatch}

theorem mem_getDueNotifications {o : Outbox} {now limit : Nat} {row : OutboxRow}
    (h : row ∈ o.getDueNotifications now limit) : row ∈ o.rows ∧ row.due now = true :=
  List.mem_filter.mp (List.mem_of_mem_take h)

theorem lt_of_due {now : Nat} {row : OutboxRow} (h : row.due now = true) :
    row.attempts < row.maxAttempts := by
  simp only [OutboxRow.due, Bool.and_eq_true, decide_eq_true_eq] at h
  exact h.1.2

theorem nodup_getDueNotifications (o : Outbox) (now limit : Nat) :
    ((o.getDueNotifications now limit).map OutboxRow.id).Nodup :=
  (((List.take_sublist _ _).trans List.filter_sublist).map _).nodup o.distinct

theorem Settled.foldl_pass {w : Nat → RowPass} {rows : List OutboxRow} (hs : s.Settled)
    (hrows : ∀ row ∈ rows, row ∈ s.outbox.rows) (hdistinct : (rows.map OutboxRow.id).Nodup)
    (hlive : ∀ row ∈ rows, row.attempts < row.maxAttempts)
    (hcareful : ∀ row ∈ rows, Careful notifiers (w row.id) row) :
    (rows.foldl (fun s row => Dispatch.pass notifiers (w row.id) s row) s).Settled := by
  induction rows generalizing s with
  | nil => exact hs
  | cons row rest ih =>
      obtain ⟨hrow, hrest⟩ := List.forall_mem_cons.mp hrows
      obtain ⟨hlive₁, hlive₂⟩ := List.forall_mem_cons.mp hlive
      obtain ⟨hcareful₁, hcareful₂⟩ := List.forall_mem_cons.mp hcareful
      rw [List.map_cons, List.nodup_cons] at hdistinct
      refine ih (hs.pass hrow hlive₁ hcareful₁) (fun other hother => ?_) hdistinct.2 hlive₂
        hcareful₂
      refine mem_pass_rows (hrest other hother) fun heq => hdistinct.1 ?_
      exact heq ▸ List.mem_map_of_mem hother

theorem Settled.enqueue (hs : s.Settled) (channel : NotificationChannel) (messageText : String)
    (mode : NotificationMode) (maxAttempts : Nat) :
    ({ s with outbox := s.outbox.enqueue channel messageText mode maxAttempts } :
      Dispatch).Settled where
  once := hs.once
  known p hp := (hs.known p hp).trans (Nat.lt_succ_self _)
  spent p hp htaken row hrow hid := by
    rcases List.mem_append.mp hrow with h | h
    · exact hs.spent p hp htaken row h hid
    · -- the id of the new row was never given before
      have hknown := hs.known p hp
      rw [List.mem_singleton.mp h] at hid
      simp only at hid
      omega

theorem Settled.after {e : OutboxEvent} (hs : s.Settled) (h : s.CarefulStep notifiers e) :
    (s.after notifiers e).Settled := by
  cases e with
  | enqueued channel messageText mode maxAttempts => exact hs.enqueue ..
  | polled now w =>
      exact hs.foldl_pass (fun row hrow => (mem_getDueNotifications hrow).1)
        (nodup_getDueNotifications ..)
        (fun row hrow => lt_of_due (mem_getDueNotifications hrow).2) h

theorem Settled.run {events : List OutboxEvent} (hs : s.Settled)
    (h : CarefulRun notifiers s events) : (s.run notifiers events).Settled := by
  induction events generalizing s with
  | nil => exact hs
  | cons e rest ih => exact ih (hs.after h.1) h.2

end Run

end Dispatch

/-- **No chat is sent a row it has** in a run of careful polls, from any table. And a pass of a
due row is careful exactly where no later pass of the row repeats it. -/
theorem careful_noRepeats (notifiers : Notifiers) :
    (∀ (o : Outbox) (events : List OutboxEvent),
      Dispatch.CarefulRun notifiers { outbox := o } events →
        Dispatch.NoRepeats (Dispatch.run notifiers { outbox := o } events).posts) ∧
    ∀ (s : Dispatch) (w : RowPass) (row : OutboxRow) (before : Nat), s.Settled →
      row ∈ s.outbox.rows → row.due before = true →
        (Dispatch.Careful notifiers w row ↔
          ∀ kept ∈ (s.pass notifiers w row).outbox.rows, kept.id = row.id →
            ∀ now w', kept.due now = true →
              Dispatch.NoRepeats ((s.pass notifiers w row).pass notifiers w' kept).posts) := by
  constructor
  · intro o events h
    have hstart : ({ outbox := o } : Dispatch).Settled := ⟨List.Pairwise.nil, nofun, nofun⟩
    exact (hstart.run h).once
  · intro s w row before hs hrow hdue
    constructor
    · intro hcareful kept hkept _ now w' hagain
      exact (hs.pass hrow (Dispatch.lt_of_due hdue) hcareful).pass_noRepeats hkept
        (Dispatch.lt_of_due hagain)
    · intro hnever
      by_contra hcareless
      have hmode : row.mode = .verbose := by
        simp only [OutboxRow.due, Bool.and_eq_true, decide_eq_true_eq] at hdue
        exact hdue.1.1
      obtain ⟨kept, hkept, hid, hchannel, ⟨now, hagain⟩, target, ⟨n, h, htarget⟩, htook⟩ :=
        Dispatch.retried_of_not_careful hrow hmode hcareless
      refine Dispatch.repeats_of_pass (hchannel ▸ h) htarget ?_
        (hnever kept hkept hid now w hagain)
      rw [hid]
      exact htook

def twoChats : Notifiers := fun _ =>
  some { botToken := some "token", chatIds := [some "-100,-200"] }

def emptyOutbox : Outbox where
  rows := []
  nextId := 1
  distinct := List.nodup_nil
  allocated := nofun

/-- A message for the channel is written and the job polls twice, ten seconds apart. -/
def twoPolls (first second : ChatTarget → PostOutcome) : List OutboxEvent :=
  [.enqueued .community "Opened" .verbose 5, .polled 0 fun _ => ⟨first, 0⟩,
    .polled 10 fun _ => ⟨second, 10⟩]

/-- Neither chat is reached at first. -/
theorem bothChats_retried :
    Dispatch.NoRepeats (Dispatch.run twoChats { outbox := emptyOutbox }
      (twoPolls (fun _ => .raised) fun _ => .status 200)).posts := by
  refine (careful_noRepeats twoChats).1 _ _ ⟨trivial, ?_, ?_, trivial⟩
  · rintro row - n ⟨⟩
    exact Or.inr (Or.inl fun _ _ => rfl)
  · rintro row - n ⟨⟩
    exact Or.inl fun _ _ => rfl

/-- The second chat is reached by neither poll, and the first is sent the message twice. -/
theorem healthyChat_repeated :
    (Dispatch.run twoChats { outbox := emptyOutbox }
      (twoPolls (fun t => if t.chatId = "-100" then .status 200 else .status 403)
        fun t => if t.chatId = "-100" then .status 200 else .status 403)).posts =
      [⟨1, { chatId := "-100" }, true⟩, ⟨1, { chatId := "-200" }, false⟩,
        ⟨1, { chatId := "-100" }, true⟩, ⟨1, { chatId := "-200" }, false⟩] ∧
    ¬Dispatch.NoRepeats (Dispatch.run twoChats { outbox := emptyOutbox }
      (twoPolls (fun t => if t.chatId = "-100" then .status 200 else .status 403)
        fun t => if t.chatId = "-100" then .status 200 else .status 403)).posts := by
  unfold Dispatch.NoRepeats
  decide +kernel

end TradeWorker
