import Mathlib.Data.List.Nodup
import Mathlib.Data.List.Pairwise
import TradeWorker.CycleStore

/-!
# The chats of a cycle

A chat setting is a list of entries, each of which may name several chats, separated by
commas, and a topic of each. `parse_chat_targets` turns a whole setting into the targets a
plain message goes to. A cycle keeps the entries as they are, one delivery row each, and
parses an entry when it sends: to the first target it names.
-/

namespace TradeWorker

/-! ## Keeping what is new -/

section KeepNew

variable {α : Type} [DecidableEq α]

/-- `if a not in acc: acc.append(a)`. -/
def appendNew (acc : List α) (a : α) : List α := if a ∈ acc then acc else acc ++ [a]

/-- The values in the order they first appear. -/
def keepNew (xs : List α) : List α := xs.foldl appendNew []

theorem mem_appendNew {acc : List α} {a b : α} : b ∈ appendNew acc a ↔ b ∈ acc ∨ b = a := by
  unfold appendNew
  split
  · rename_i h
    constructor
    · exact Or.inl
    · rintro (hb | rfl)
      · exact hb
      · exact h
  · simp

theorem nodup_appendNew {acc : List α} (h : acc.Nodup) (a : α) : (appendNew acc a).Nodup := by
  unfold appendNew
  split
  · exact h
  · rename_i hnew
    exact h.concat hnew |> fun hc => by simpa using hc

theorem mem_foldl_appendNew {xs acc : List α} {b : α} :
    b ∈ xs.foldl appendNew acc ↔ b ∈ acc ∨ b ∈ xs := by
  induction xs generalizing acc with
  | nil => simp
  | cons a rest ih => rw [List.foldl_cons, ih, mem_appendNew, List.mem_cons, or_assoc]

theorem nodup_foldl_appendNew {xs acc : List α} (h : acc.Nodup) :
    (xs.foldl appendNew acc).Nodup := by
  induction xs generalizing acc with
  | nil => exact h
  | cons a rest ih => exact ih (nodup_appendNew h a)

theorem mem_keepNew {xs : List α} {b : α} : b ∈ keepNew xs ↔ b ∈ xs := by
  simp [keepNew, mem_foldl_appendNew]

theorem nodup_keepNew (xs : List α) : (keepNew xs).Nodup :=
  nodup_foldl_appendNew List.nodup_nil

end KeepNew

/-! ## Targets -/

structure ChatTarget where
  chatId : String
  messageThreadId : Option Nat := none
  deriving DecidableEq, Repr

def isDigits (cs : List Char) : Bool := !cs.isEmpty && cs.all Char.isDigit

/-- The class `-?\d+` of a chat id. -/
def isChatNumber (cs : List Char) : Bool :=
  isDigits (if cs.head? = some '-' then cs.tail else cs)

/-- `int(topic)`. -/
def digitsValue (cs : List Char) : Nat :=
  cs.foldl (fun n c => 10 * n + (c.toNat - '0'.toNat)) 0

/-- `_CHAT_TOPIC_RE.fullmatch`: a numeric chat id, an underscore and a topic. -/
def chatTopic (entry : String) : Option ChatTarget :=
  match entry.toList.splitOn '_' with
  | [chat, topic] =>
      if isChatNumber chat && isDigits topic then
        some { chatId := String.ofList chat, messageThreadId := some (digitsValue topic) }
      else none
  | _ => none

def targetOf (entry : String) : ChatTarget := (chatTopic entry).getD { chatId := entry }

/-- The targets of one setting entry, in order. -/
def namedTargets (spec : String) : List ChatTarget :=
  (((spec.toList.splitOn ',').map fun cs => strip (String.ofList cs)).filter (· ≠ "")).map targetOf

/-- `parse_chat_targets`; a missing entry names nothing. -/
def parseChatTargets (specs : List (Option String)) : List ChatTarget :=
  keepNew (specs.flatMap fun spec => (spec.map namedTargets).getD [])

/-- `TelegramCycleNotification._target`: the first target of a stored entry. -/
def firstTarget (entry : String) : Option ChatTarget := (parseChatTargets [some entry]).head?

theorem mem_parseChatTargets {specs : List (Option String)} {t : ChatTarget} :
    t ∈ parseChatTargets specs ↔ ∃ spec, some spec ∈ specs ∧ t ∈ namedTargets spec := by
  rw [parseChatTargets, mem_keepNew, List.mem_flatMap]
  constructor
  · rintro ⟨spec, hspec, ht⟩
    cases spec with
    | none => cases ht
    | some spec => exact ⟨spec, hspec, ht⟩
  · rintro ⟨spec, hspec, ht⟩
    exact ⟨some spec, hspec, ht⟩

/-! ## The settings -/

/-- The two settings the channel is read from. -/
structure ChatSettings where
  telegramChatChannelId : Option (List (Option String)) := none
  telegramChatId : Option String := none

namespace ChatSettings

variable (settings : ChatSettings)

/-- `channel_ids`: a missing or empty list falls back to the worker's own chat id. -/
def channelIds : List (Option String) :=
  match settings.telegramChatChannelId with
  | some (first :: rest) => first :: rest
  | _ => [settings.telegramChatId]

/-- `CycleNotifier._chat_ids`: the entries that are not empty, as they are. -/
def cycleChatIds : List String := settings.channelIds.filterMap text?

end ChatSettings

/-- The targets the deliveries of a cycle go to, one for each row that has any. -/
def CycleDb.deliveryTargets (db : CycleDb) (cycleId : Nat) : List ChatTarget :=
  (db.chats.filter (·.cycleId = cycleId)).filterMap fun row => firstTarget row.chatId

/-! ## The delivery rows of a new cycle -/

section Rows

variable {cycleId : Nat}

/-- The chats a cycle has rows for, in row order. -/
def CycleDb.chatsOf (db : CycleDb) (cycleId : Nat) : List String :=
  (db.chats.filter (·.cycleId = cycleId)).map (·.chatId)

theorem CycleDb.chatsOf_ensureChat (db : CycleDb) (chat : String) :
    (db.ensureChat cycleId chat).chatsOf cycleId = appendNew (db.chatsOf cycleId) chat := by
  have hmem : (db.chats.any fun c => c.cycleId = cycleId && c.chatId = chat) = true ↔
      chat ∈ db.chatsOf cycleId := by
    simp [CycleDb.chatsOf, and_comm, and_left_comm, and_assoc]
  unfold CycleDb.ensureChat appendNew
  by_cases hany : chat ∈ db.chatsOf cycleId
  · rw [if_pos (hmem.mpr hany), if_pos hany]
  · rw [if_neg fun h => hany (hmem.mp h), if_neg hany]
    simp [CycleDb.chatsOf]

theorem CycleDb.chatsOf_ensureCycleChats (db : CycleDb) {chatIds : List String}
    (hnone : db.chatsOf cycleId = []) (hids : ∀ chat ∈ chatIds, chat ≠ "") :
    (db.ensureCycleChats cycleId chatIds).chatsOf cycleId = keepNew chatIds := by
  have hfilter : chatIds.filter (· ≠ "") = chatIds :=
    List.filter_eq_self.mpr fun chat hchat => by simpa using hids chat hchat
  unfold CycleDb.ensureCycleChats keepNew
  rw [hfilter, ← hnone]
  clear hids hfilter hnone
  induction chatIds generalizing db with
  | nil => rfl
  | cons chat rest ih => rw [List.foldl_cons, List.foldl_cons, ih, chatsOf_ensureChat]

theorem CycleDb.deliveryTargets_eq (db : CycleDb) (cycleId : Nat) :
    db.deliveryTargets cycleId = (db.chatsOf cycleId).filterMap firstTarget := by
  rw [deliveryTargets, chatsOf, List.filterMap_map]
  rfl

end Rows

theorem firstTarget_mem {entry : String} {t : ChatTarget} (h : firstTarget entry = some t) :
    t ∈ namedTargets entry := by
  obtain ⟨spec, hspec, ht⟩ := mem_parseChatTargets.mp (List.mem_of_mem_head? h)
  cases List.mem_singleton.mp hspec
  exact ht

namespace ChatSettings

variable {settings : ChatSettings}

theorem mem_cycleChatIds {entry : String} :
    entry ∈ settings.cycleChatIds ↔ some entry ∈ settings.channelIds ∧ entry ≠ "" := by
  rw [cycleChatIds, List.mem_filterMap]
  constructor
  · rintro ⟨spec, hspec, htext⟩
    obtain ⟨rfl, hne⟩ := text?_eq_some.mp htext
    exact ⟨hspec, hne⟩
  · exact fun ⟨hspec, hne⟩ => ⟨some entry, hspec, text?_eq_some.mpr ⟨rfl, hne⟩⟩

theorem namedTargets_empty : namedTargets "" = [] := by decide

/-- An empty entry names nothing, so the targets of the setting are those of the entries a
cycle keeps. -/
theorem mem_targets {t : ChatTarget} :
    t ∈ parseChatTargets settings.channelIds ↔
      ∃ entry ∈ settings.cycleChatIds, t ∈ namedTargets entry := by
  rw [mem_parseChatTargets]
  constructor
  · rintro ⟨spec, hspec, ht⟩
    refine ⟨spec, mem_cycleChatIds.mpr ⟨hspec, ?_⟩, ht⟩
    rintro rfl
    rw [namedTargets_empty] at ht
    cases ht
  · exact fun ⟨entry, hentry, ht⟩ => ⟨entry, (mem_cycleChatIds.mp hentry).1, ht⟩

/-- The deliveries of every new cycle go to the targets of the channel setting, one row for
each target. -/
def CyclesReachChannel (settings : ChatSettings) : Prop :=
  ∀ (db : CycleDb) (cycleId : Nat), db.chatsOf cycleId = [] →
    ((db.ensureCycleChats cycleId settings.cycleChatIds).deliveryTargets cycleId).Perm
      (parseChatTargets settings.channelIds)

/-- No two entries start with the same target, and what an entry names after its first
target is the first target of another. -/
structure OneTargetEach (settings : ChatSettings) : Prop where
  distinct : ∀ a ∈ settings.cycleChatIds, ∀ b ∈ settings.cycleChatIds, ∀ t,
    firstTarget a = some t → firstTarget b = some t → a = b
  covered : ∀ entry ∈ settings.cycleChatIds, ∀ t ∈ namedTargets entry,
    ∃ a ∈ settings.cycleChatIds, firstTarget a = some t

/-- The targets of a new cycle's rows. -/
theorem deliveryTargets_new {db : CycleDb} {cycleId : Nat} (hnew : db.chatsOf cycleId = []) :
    (db.ensureCycleChats cycleId settings.cycleChatIds).deliveryTargets cycleId =
      (keepNew settings.cycleChatIds).filterMap firstTarget := by
  rw [CycleDb.deliveryTargets_eq, CycleDb.chatsOf_ensureCycleChats db hnew]
  exact fun chat hchat => (mem_cycleChatIds.mp hchat).2

theorem mem_deliveryTargets {t : ChatTarget} :
    t ∈ (keepNew settings.cycleChatIds).filterMap firstTarget ↔
      ∃ entry ∈ settings.cycleChatIds, firstTarget entry = some t := by
  simp [List.mem_filterMap, mem_keepNew]

/-- Two rows for one target are two entries that start with it. -/
theorem nodup_deliveryTargets :
    ((keepNew settings.cycleChatIds).filterMap firstTarget).Nodup ↔
      ∀ a ∈ settings.cycleChatIds, ∀ b ∈ settings.cycleChatIds, ∀ t,
        firstTarget a = some t → firstTarget b = some t → a = b := by
  rw [List.Nodup, List.pairwise_filterMap]
  constructor
  · intro hpair a ha b hb t hat hbt
    by_contra hne
    have : Std.Symm fun a b : String => ∀ t, firstTarget a = some t →
        ∀ t', firstTarget b = some t' → t ≠ t' :=
      ⟨fun _ _ h t ht t' ht' heq => h t' ht' t ht heq.symm⟩
    exact hpair.forall (mem_keepNew.mpr ha) (mem_keepNew.mpr hb) hne t hat t hbt rfl
  · intro hdistinct
    refine (nodup_keepNew settings.cycleChatIds).imp_of_mem ?_
    rintro a b ha hb hne t hat t' hbt rfl
    exact hne (hdistinct a (mem_keepNew.mp ha) b (mem_keepNew.mp hb) t hat hbt)

/-- **Cycle messages reach the same chats as plain messages** exactly when every entry of
the setting stands for one target and no other entry does. -/
theorem cyclesReachChannel_iff (settings : ChatSettings) :
    settings.CyclesReachChannel ↔ settings.OneTargetEach := by
  have hperm : settings.CyclesReachChannel ↔
      ((keepNew settings.cycleChatIds).filterMap firstTarget).Perm
        (parseChatTargets settings.channelIds) := by
    constructor
    · intro h
      have hempty := h {} 0 rfl
      rwa [deliveryTargets_new rfl] at hempty
    · intro h db cycleId hnew
      rwa [deliveryTargets_new hnew]
  rw [hperm]
  constructor
  · intro h
    refine ⟨nodup_deliveryTargets.mp (h.nodup_iff.mpr (nodup_keepNew _)),
      fun entry hentry t ht => ?_⟩
    exact mem_deliveryTargets.mp (h.mem_iff.mpr (mem_targets.mpr ⟨entry, hentry, ht⟩))
  · intro h
    refine (List.perm_ext_iff_of_nodup (nodup_deliveryTargets.mpr h.distinct) (nodup_keepNew _)).mpr
      fun t => ?_
    rw [mem_deliveryTargets]
    constructor
    · rintro ⟨entry, hentry, ht⟩
      exact mem_targets.mpr ⟨entry, hentry, firstTarget_mem ht⟩
    · intro ht
      obtain ⟨entry, hentry, hnamed⟩ := mem_targets.mp ht
      exact h.covered entry hentry t hnamed

/-- The worker's own chat setting with two groups in it, and no channel setting. -/
def twoGroups : ChatSettings where
  telegramChatId := some "-1001,-1002_5"

/-- Plain messages go to both groups, the cycle's to the first alone. -/
theorem twoGroups_reachOne :
    ¬ twoGroups.CyclesReachChannel ∧
      parseChatTargets twoGroups.channelIds =
        [{ chatId := "-1001" }, { chatId := "-1002", messageThreadId := some 5 }] ∧
      (CycleDb.ensureCycleChats {} 1 twoGroups.cycleChatIds).deliveryTargets 1 =
        [{ chatId := "-1001" }] := by
  have htargets : parseChatTargets twoGroups.channelIds =
      [{ chatId := "-1001" }, { chatId := "-1002", messageThreadId := some 5 }] := by
    decide +kernel
  have hrows : (CycleDb.ensureCycleChats {} 1 twoGroups.cycleChatIds).deliveryTargets 1 =
      [{ chatId := "-1001" }] := by
    decide +kernel
  refine ⟨fun h => ?_, htargets, hrows⟩
  have hlength := (h {} 1 rfl).length_eq
  rw [htargets, hrows] at hlength
  cases hlength

end ChatSettings

end TradeWorker
