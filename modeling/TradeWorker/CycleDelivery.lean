import TradeWorker.CycleRecord

/-!
# Showing a cycle to its chats

The dispatcher polls while any number of threads record. It reads a revision and
a body in one query, sends the body and marks the revision. The two belong
together only if the body of that revision was already stored when the query
ran: appending bumps the revision in one transaction and the body follows in a
later one.
-/

namespace TradeWorker

/-! ## The threads -/

/-- Recording threads, and the one dispatcher. -/
inductive CycleThread where
  | recorder (k : Nat)
  | dispatcher
  deriving DecidableEq

/-- A recorder makes one call at a time, the dispatcher one poll. Time passes, and
a crash loses what the threads hold but no table. -/
def notifying (n : CycleNotifier) :
    Pool.System CycleThread CycleOp CycleOp.Ans Exn Unit (Ledger CycleThread) where
  answers := Ledger.Answers
  starts
    | .recorder _, p, s, s' => s' = s ∧ ∃ call, p = (n.record call >>= fun _ => pure ())
    | .dispatcher, p, s, s' => s' = s ∧ p = pollDeliveries
  drift s s' := ∃ clock, s' = { s with db := { s.db with clock } }
  crash s s' := s' = s

def unnotified : Pool.Config CycleThread CycleOp CycleOp.Ans Exn Unit (Ledger CycleThread) where
  state := { db := {} }
  thread _ := pure ()

/-- A chat marked as shown a revision was shown a body of at least that revision. -/
def Ledger.ShownAsMarked {ι : Type} (n : CycleNotifier) (s : Ledger ι) : Prop :=
  ∀ chat ∈ s.db.chats, 0 < chat.deliveredRevision →
    ∃ c ∈ s.db.cycles, c.id = chat.cycleId ∧ ∃ k text, chat.deliveredRevision ≤ k ∧
      (chat.chatId, text) ∈ s.shown ∧ n.Renders c k text

/-- When the due query runs, each cycle it returns has the body of its current
revision stored. -/
def PollsCurrentBodies {ι : Type} (n : CycleNotifier) : CycleOp → Ledger ι → Prop
  | .dueDeliveries limit, s => ∀ d ∈ s.db.dueDeliveries limit,
      ∃ c ∈ s.db.cycles, c.id = d.cycleId ∧ n.Renders c d.revision d.messageText
  | _, _ => True

/-- The system in which the due query never finds a cycle between its append and
its body. -/
def notifyingInTime (n : CycleNotifier) :
    Pool.System CycleThread CycleOp CycleOp.Ans Exn Unit (Ledger CycleThread) :=
  (notifying n).restrict (fun _ o s _ => PollsCurrentBodies n o s) fun _ _ => True

/-! ## What a call keeps -/

section Invariant

variable {ι : Type}

structure Ledger.Marked (n : CycleNotifier) (s : Ledger ι) : Prop where
  numbered : s.db.Numbered
  chats : s.db.ChatsNumbered
  shown : s.ShownAsMarked n

/-- What the dispatcher relies on: cycles go on, chats stay, nothing shown is
unshown. -/
def Ledger.Follows (s s' : Ledger ι) : Prop :=
  CycleDb.Grows s.db s'.db ∧
  (∀ c ∈ s.db.chats, ∃ c' ∈ s'.db.chats, CycleDb.SameChat c c') ∧
  ∀ x ∈ s.shown, x ∈ s'.shown

theorem Ledger.Follows.refl (s : Ledger ι) : s.Follows s :=
  ⟨CycleDb.Grows.refl s.db, fun c hc => ⟨c, hc, rfl, rfl, rfl⟩, fun _ hx => hx⟩

theorem Ledger.Follows.trans {a b c : Ledger ι} (hab : a.Follows b) (hbc : b.Follows c) :
    a.Follows c := by
  refine ⟨hab.1.trans hbc.1, fun x hx => ?_, fun x hx => hbc.2.2 x (hab.2.2 x hx)⟩
  obtain ⟨y, hy, hxy⟩ := hab.2.1 x hx
  obtain ⟨z, hz, hyz⟩ := hbc.2.1 y hy
  exact ⟨z, hz, hyz.1.trans hxy.1, hyz.2.1.trans hxy.2.1, hyz.2.2.trans hxy.2.2⟩

variable {n : CycleNotifier}

/-- What was shown stays shown while cycles only grow and marks are not moved. -/
theorem Ledger.ShownAsMarked.of_follows {s s' : Ledger ι} (h : s.ShownAsMarked n)
    (hfollows : s.Follows s')
    (hchats : ∀ c' ∈ s'.db.chats, 0 < c'.deliveredRevision →
      ∃ c ∈ s.db.chats, CycleDb.SameChat c c' ∧ c'.deliveredRevision = c.deliveredRevision) :
    s'.ShownAsMarked n := by
  intro c' hc' hpos
  obtain ⟨c, hc, hsame, hrev⟩ := hchats c' hc' hpos
  obtain ⟨m, hm, hid, k, text, hk, hshown, hrenders⟩ := h c hc (hrev ▸ hpos)
  obtain ⟨m', hm', hextends⟩ := hfollows.1 m hm
  refine ⟨m', hm', ?_, k, text, hrev ▸ hk, ?_, hrenders.extends hextends⟩
  · rw [hextends.1.1, hid, hsame.2.1]
  · rw [hsame.2.2]
    exact hfollows.2.2 _ hshown

/-- A chat row written in a column that is no mark. -/
theorem Ledger.Marked.updateChat {s : Ledger ι} (h : s.Marked n) {chatRowId : Nat}
    {f : CycleChat → CycleChat} (hsame : ∀ c, CycleDb.SameChat c (f c))
    (hmark : ∀ c, (f c).deliveredRevision = c.deliveredRevision) :
    ({ s with db := s.db.updateChat chatRowId f } : Ledger ι).Marked n ∧
      s.Follows { s with db := s.db.updateChat chatRowId f } := by
  have hfollows : s.Follows { s with db := s.db.updateChat chatRowId f } := by
    refine ⟨CycleDb.Grows.refl s.db, fun c hc => ?_, fun _ hx => hx⟩
    refine ⟨_, CycleDb.mem_updateChat.mpr ⟨c, hc, rfl⟩, ?_⟩
    split
    · exact hsame c
    · exact ⟨rfl, rfl, rfl⟩
  refine ⟨⟨h.numbered, h.chats.updateChat fun c => (hsame c).1, ?_⟩, hfollows⟩
  refine h.shown.of_follows hfollows fun c' hc' _ => ?_
  obtain ⟨c, hc, rfl⟩ := CycleDb.mem_updateChat.mp hc'
  refine ⟨c, hc, ?_⟩
  split
  · exact ⟨hsame c, hmark c⟩
  · exact ⟨⟨rfl, rfl, rfl⟩, rfl⟩

/-- A body shown to one chat more. -/
theorem Ledger.Marked.show {s : Ledger ι} (h : s.Marked n) (chat text : String) :
    (s.show chat text).Marked n ∧ s.Follows (s.show chat text) := by
  have hfollows : s.Follows (s.show chat text) :=
    ⟨CycleDb.Grows.refl s.db, fun c hc => ⟨c, hc, rfl, rfl, rfl⟩,
      fun _ hx => List.mem_append_left _ hx⟩
  refine ⟨⟨h.numbered, h.chats, h.shown.of_follows hfollows fun c hc _ => ?_⟩, hfollows⟩
  exact ⟨c, hc, ⟨rfl, rfl, rfl⟩, rfl⟩

/-- Marking a revision is right when a body of that revision was shown. -/
theorem Ledger.Marked.markDelivered {s : Ledger ι} (h : s.Marked n) {chatRowId revision : Nat}
    {chatId text : String} {cycleId : Nat} {c₀ : CycleChat} (hc₀ : c₀ ∈ s.db.chats)
    (hid : c₀.id = chatRowId) (hcycle : c₀.cycleId = cycleId) (hchat : c₀.chatId = chatId)
    (hshown : (chatId, text) ∈ s.shown)
    (hrenders : ∃ m ∈ s.db.cycles, m.id = cycleId ∧ n.Renders m revision text)
    (messageId : Option String) :
    ({ s with db := s.db.markDelivered chatRowId messageId revision } : Ledger ι).Marked n := by
  refine ⟨h.numbered, h.chats.updateChat fun _ => rfl, ?_⟩
  intro c' hc' hpos
  obtain ⟨c, hc, rfl⟩ := CycleDb.mem_updateChat.mp hc'
  by_cases hrow : c.id = chatRowId
  · obtain rfl : c = c₀ := h.chats.eq_of_id hc hc₀ (hrow.trans hid.symm)
    rw [if_pos hrow] at hpos ⊢
    rcases Nat.le_total c.deliveredRevision revision with hle | hle
    · obtain ⟨m, hm, hmid, hm'⟩ := hrenders
      refine ⟨m, hm, hmid.trans hcycle.symm, revision, text, ?_, ?_, hm'⟩
      · exact Nat.max_le.mpr ⟨hle, Nat.le_refl _⟩
      · show (c.chatId, text) ∈ s.shown
        rw [hchat]
        exact hshown
    · have hmax : max c.deliveredRevision revision = c.deliveredRevision := Nat.max_eq_left hle
      simp only [hmax] at hpos ⊢
      exact h.shown c hc hpos
  · rw [if_neg hrow] at hpos ⊢
    exact h.shown c hc hpos

/-- The calls a recorder makes, and those of the dispatcher that mark nothing. -/
def CycleOp.marksNothing : CycleOp → Bool
  | .markDelivered .. => false
  | _ => true

/-- Every other call keeps the marks right. -/
theorem Ledger.Answers.marked {i : ι} {o : CycleOp} {s s' : Ledger ι} {r : Except Exn o.Ans}
    (hr : Ledger.Answers i o s r s') (ho : o.marksNothing = true) (h : s.Marked n) :
    s'.Marked n ∧ s.Follows s' := by
  have hsame : ∀ c ∈ s.db.chats, ∃ c' ∈ s.db.chats, CycleDb.SameChat c c' :=
    fun c hc => ⟨c, hc, rfl, rfl, rfl⟩
  cases hr with
  | @appended _ strategy signalUxid symbol event status =>
      have hfollows : s.Follows { s with
          db := (s.db.appendEvent strategy signalUxid symbol event status).2
          order := s.order ++ [i] } := by
        refine ⟨CycleDb.Grows.appendEvent h.numbered _ _ _ _ _, ?_, fun _ hx => hx⟩
        simpa using hsame
      refine ⟨⟨h.numbered.appendEvent _ _ _ _ _, ?_, h.shown.of_follows hfollows ?_⟩, hfollows⟩
      · simpa [CycleDb.ChatsNumbered] using h.chats
      · intro c hc _
        exact ⟨c, by simpa using hc, ⟨rfl, rfl, rfl⟩, rfl⟩
  | @stored _ cycleId text revision =>
      have hfollows : s.Follows { s with
          db := s.db.setMessageText cycleId text revision
          stored := s.stored ++ [i] } :=
        ⟨CycleDb.Grows.setMessageText _ _ _, hsame, fun _ hx => hx⟩
      refine ⟨⟨h.numbered.setMessageText _ _ _, h.chats, h.shown.of_follows hfollows ?_⟩, hfollows⟩
      intro c hc _
      exact ⟨c, hc, ⟨rfl, rfl, rfl⟩, rfl⟩
  | @ensured _ cycleId chatIds =>
      obtain ⟨new, hnew, hzero, hnumbered⟩ := s.db.ensureCycleChats_chats cycleId chatIds
      have hcycles : (s.db.ensureCycleChats cycleId chatIds).cycles = s.db.cycles :=
        CycleDb.ensureCycleChats_cycles _ _
      have hfollows : s.Follows { s with db := s.db.ensureCycleChats cycleId chatIds } := by
        refine ⟨fun c hc => ⟨c, ?_, CycleDb.Extends.refl c⟩, fun c hc => ⟨c, ?_, rfl, rfl, rfl⟩,
          fun _ hx => hx⟩
        · rw [hcycles]
          exact hc
        · rw [hnew]
          exact List.mem_append_left _ hc
      refine ⟨⟨?_, hnumbered h.chats, h.shown.of_follows hfollows ?_⟩, hfollows⟩
      · intro j hj
        simp only [hcycles] at hj ⊢
        exact h.numbered j hj
      · intro c hc hpos
        rw [hnew] at hc
        rcases List.mem_append.mp hc with hc | hc
        · exact ⟨c, hc, ⟨rfl, rfl, rfl⟩, rfl⟩
        · rw [hzero c hc] at hpos
          exact absurd hpos (Nat.lt_irrefl 0)
  | due => exact ⟨h, Ledger.Follows.refl s⟩
  | delivered => exact absurd ho Bool.false_ne_true
  | failed => exact h.updateChat (fun _ => ⟨rfl, rfl, rfl⟩) fun _ => rfl
  | cleared => exact h.updateChat (fun _ => ⟨rfl, rfl, rfl⟩) fun _ => rfl
  | refused => exact ⟨h, Ledger.Follows.refl s⟩
  | footer => exact ⟨h, Ledger.Follows.refl s⟩
  | sent => exact h.show ..
  | notSent => exact ⟨h, Ledger.Follows.refl s⟩
  | edited => exact h.show ..
  | notEdited => exact ⟨h, Ledger.Follows.refl s⟩
  | utcnow => exact ⟨h, Ledger.Follows.refl s⟩

end Invariant

/-! ## The outline -/

variable {n : CycleNotifier}

/-- Recorders rely on nothing, the dispatcher on what it read to stay. -/
def deliveryOutline (n : CycleNotifier) : Pool.Outline (notifyingInTime n) where
  inv := Ledger.Marked n
  rely i s s' := i = .dispatcher → s.Follows s'
  post _ _ _ := True
  rely_refl _ s _ := Ledger.Follows.refl s
  rely_trans _ _ _ _ hab hbc hi := (hab hi).trans (hbc hi)
  post_stable _ _ _ _ _ _ := trivial

theorem deliveryOutline_keeps {i : CycleThread} {o : CycleOp} {s s' : Ledger CycleThread}
    {r : Except Exn o.Ans} (ho : o.marksNothing = true) (h : s.Marked n)
    (hr : (notifyingInTime n).answers i o s r s') : (deliveryOutline n).Keeps i s s' := by
  obtain ⟨hmarked, hfollows⟩ := hr.2.marked ho h
  exact ⟨hmarked, fun _ _ _ => hfollows⟩

theorem record_sends (n : CycleNotifier) (call : RecordCall) :
    Prog.Sends ⟨fun o => o.marksNothing = true, fun _ _ => True⟩ (fun _ => True)
      (n.record call) := by
  have hwrite : ∀ o : CycleOp, o.marksNothing = true →
      Prog.Sends ⟨fun o => o.marksNothing = true, fun _ _ => True⟩ (fun _ => True)
        (cycleWrite o) := by
    intro o ho
    refine Prog.Sends.tryCatch ?_ fun _ => Prog.sends_ret.mpr trivial
    exact (Prog.sends_perform ho fun _ _ => trivial).bind fun _ _ => Prog.sends_ret.mpr trivial
  unfold CycleNotifier.record
  split
  · refine Prog.Sends.bind (Q := fun _ => True) ?_ ?_
    · refine Prog.Sends.tryCatch ?_ fun _ => Prog.sends_ret.mpr trivial
      exact (Prog.sends_perform rfl fun _ _ => trivial).bind fun _ _ =>
        Prog.sends_ret.mpr trivial
    · rintro (_ | v) _
      · exact Prog.sends_ret.mpr trivial
      · unfold storeBody
        refine Prog.Sends.bind (Q := fun _ => True) ?_ fun _ _ => ?_
        · unfold CycleNotifier.footerText
          split
          · exact Prog.sends_perform rfl fun _ _ => trivial
          · exact Prog.sends_ret.mpr trivial
        · refine Prog.Sends.bind (Q := fun _ => True)
            (Prog.sends_ofExcept.mpr fun _ _ => trivial) fun _ _ => ?_
          refine (hwrite _ rfl).bind fun _ _ => (hwrite _ rfl).bind fun _ _ => ?_
          exact Prog.sends_ret.mpr trivial
  · exact Prog.sends_ret.mpr trivial

/-- A row the dispatcher holds: its chat is there, and its body is a rendering of
its revision. -/
def Ledger.Held (n : CycleNotifier) (d : Delivery) (s : Ledger CycleThread) : Prop :=
  (∃ c ∈ s.db.chats, c.id = d.chatRowId ∧ c.cycleId = d.cycleId ∧ c.chatId = d.chatId) ∧
  ∃ m ∈ s.db.cycles, m.id = d.cycleId ∧ n.Renders m d.revision d.messageText

theorem Ledger.Held.follows {d : Delivery} {s s' : Ledger CycleThread} (h : s.Held n d)
    (hs : s.Follows s') : s'.Held n d := by
  obtain ⟨⟨c, hc, hid, hcycle, hchat⟩, m, hm, hmid, hrenders⟩ := h
  obtain ⟨c', hc', hsame⟩ := hs.2.1 c hc
  obtain ⟨m', hm', hextends⟩ := hs.1 m hm
  exact ⟨⟨c', hc', hsame.1.trans hid, hsame.2.1.trans hcycle, hsame.2.2.trans hchat⟩,
    m', hm', hextends.1.1.trans hmid, hrenders.extends hextends⟩

/-! ## The dispatcher -/

section Dispatcher

variable {K : Ledger CycleThread → Prop}

/-- What a call of the dispatcher finds: what it held, and the tables in order. -/
theorem deliveryOutline_call {o : CycleOp} {d : Delivery} {s : Ledger CycleThread}
    (ho : o.marksNothing = true) (hK : ∀ s s', K s → s.Follows s' → K s') (hd : s.Held n d)
    (hs : K s) {Q : Except Exn o.Ans → Ledger CycleThread → Prop}
    (hQ : ∀ s₁ r s₂, Ledger.Answers .dispatcher o s₁ r s₂ → s₂.Held n d → K s₂ → Q r s₂) :
    Prog.wp ((deliveryOutline n).alone .dispatcher) Q (cycleCall o) s := by
  refine (deliveryOutline n).wp_perform fun s₁ hrely hinv r s₂ hr => ?_
  obtain ⟨-, hfollows⟩ := hr.2.marked ho hinv
  have hmoved := (hrely rfl).trans hfollows
  exact ⟨deliveryOutline_keeps ho hinv hr,
    hQ s₁ r s₂ hr.2 (hd.follows hmoved) (hK s s₂ hs hmoved)⟩

/-- A swallowed write that marks nothing. -/
theorem deliveryOutline_write {o : CycleOp} {s : Ledger CycleThread}
    (ho : o.marksNothing = true) (hK : ∀ s s', K s → s.Follows s' → K s') (hs : K s) :
    Prog.wp ((deliveryOutline n).alone .dispatcher) (fun _ s' => K s') (cycleWrite o) s := by
  refine Prog.wp_mono (wp_cycleWrite (Q := K) (deliveryOutline n) ?_) fun _ _ h => h.2
  intro s₁ hrely hinv r s₂ hr
  obtain ⟨-, hfollows⟩ := hr.2.marked ho hinv
  exact ⟨deliveryOutline_keeps ho hinv hr, hK s s₂ hs ((hrely rfl).trans hfollows)⟩

/-- Marking a row whose body its chat was shown. -/
theorem markDelivered_wp {d : Delivery} {s : Ledger CycleThread}
    (hK : ∀ s s', K s → s.Follows s' → K s') (hd : s.Held n d) (hs : K s)
    (hshown : (d.chatId, d.messageText) ∈ s.shown) (messageId : Option String) :
    Prog.wp ((deliveryOutline n).alone .dispatcher) (fun _ s' => K s')
      (cycleWrite (.markDelivered d.chatRowId messageId d.revision)) s := by
  refine Prog.wp_mono (wp_cycleWrite (Q := K) (deliveryOutline n) ?_) fun _ _ h => h.2
  rintro s₁ hrely hinv r s₂ ⟨-, hr⟩
  have hfollows := hrely rfl
  obtain ⟨⟨c, hc, hid, hcycle, hchat⟩, hbody⟩ := hd.follows hfollows
  cases hr with
  | delivered =>
      have hmarked := Ledger.Marked.markDelivered hinv hc hid hcycle hchat
        (hfollows.2.2 _ hshown) hbody messageId
      refine ⟨⟨hmarked, fun j hj hdispatcher => absurd hdispatcher hj⟩, ?_⟩
      refine hK s _ hs (hfollows.trans ⟨CycleDb.Grows.refl s₁.db, fun c hc => ?_, fun _ hx => hx⟩)
      refine ⟨_, CycleDb.mem_updateChat.mpr ⟨c, hc, rfl⟩, ?_⟩
      split <;> exact ⟨rfl, rfl, rfl⟩
  | refused => exact ⟨⟨hinv, fun j hj h => absurd h hj⟩, hK s _ hs hfollows⟩

theorem failDelivery_wp {d : Delivery} {s : Ledger CycleThread}
    (hK : ∀ s s', K s → s.Follows s' → K s') (hd : s.Held n d) (hs : K s) (error : String) :
    Prog.wp ((deliveryOutline n).alone .dispatcher) (fun _ s' => K s')
      (failDelivery d error) s := by
  refine Prog.wp_bind_of (R := fun _ => K) ?_ ?_ ?_
  · exact deliveryOutline_call rfl hK hd hs fun _ _ _ _ _ h => h
  · exact fun _ _ h => deliveryOutline_write rfl hK h
  · exact fun _ _ h => h

theorem sendDelivery_wp {d : Delivery} {s : Ledger CycleThread}
    (hK : ∀ s s', K s → s.Follows s' → K s') (hd : s.Held n d) (hs : K s) :
    Prog.wp ((deliveryOutline n).alone .dispatcher) (fun _ s' => K s') (sendDelivery d) s := by
  refine Prog.wp_bind_of (R := fun r s' => s'.Held n d ∧ K s' ∧
    ∀ messageId, r = .ok (some messageId) → (d.chatId, d.messageText) ∈ s'.shown) ?_ ?_ ?_
  · refine deliveryOutline_call rfl hK hd hs fun s₁ r s₂ hr hd₂ hs₂ => ⟨hd₂, hs₂, ?_⟩
    intro messageId hok
    cases hr with
    | sent => exact List.mem_append_right _ (List.mem_singleton.mpr rfl)
    | notSent h => exact absurd hok (h messageId)
    | refused h => cases h
  · rintro (_ | messageId) s₁ ⟨hd₁, hs₁, hshown⟩
    · exact failDelivery_wp hK hd₁ hs₁ _
    · exact markDelivered_wp hK hd₁ hs₁ (hshown messageId rfl) _
  · exact fun _ _ h => h.2.1

theorem editDelivery_wp {d : Delivery} {s : Ledger CycleThread}
    (hK : ∀ s s', K s → s.Follows s' → K s') (hd : s.Held n d) (hs : K s) (messageId : String) :
    Prog.wp ((deliveryOutline n).alone .dispatcher) (fun _ s' => K s')
      (editDelivery d messageId) s := by
  refine Prog.wp_bind_of (R := fun r s' => s'.Held n d ∧ K s' ∧
    (r = .ok .ok → (d.chatId, d.messageText) ∈ s'.shown)) ?_ ?_ ?_
  · refine deliveryOutline_call rfl hK hd hs fun s₁ r s₂ hr hd₂ hs₂ => ⟨hd₂, hs₂, ?_⟩
    intro hok
    cases hr with
    | edited => exact List.mem_append_right _ (List.mem_singleton.mpr rfl)
    | notEdited h => exact absurd hok h
    | refused h => cases h
  · rintro (_ | _ | _) s₁ ⟨hd₁, hs₁, hshown⟩
    · exact markDelivered_wp hK hd₁ hs₁ (hshown rfl) _
    · exact deliveryOutline_write rfl hK hs₁
    · exact failDelivery_wp hK hd₁ hs₁ _
  · exact fun _ _ h => h.2.1

end Dispatcher

/-- The rows of a poll, in turn. -/
theorem deliverEach_safe {rows : List Delivery} {s : Ledger CycleThread}
    (h : ∀ d ∈ rows, s.Held n d) :
    (deliveryOutline n).Safe .dispatcher (deliverEach rows) s := by
  induction rows generalizing s with
  | nil => exact trivial
  | cons d rows ih =>
      have hd : s.Held n d := h d List.mem_cons_self
      have hrest : ∀ d' ∈ rows, s.Held n d' := fun d' hd' => h d' (List.mem_cons_of_mem _ hd')
      have hK : ∀ s s' : Ledger CycleThread, (∀ d' ∈ rows, s.Held n d') → s.Follows s' →
          ∀ d' ∈ rows, s'.Held n d' := fun _ _ hs hf d' hd' => (hs d' hd').follows hf
      refine Prog.wp_bind_of (R := fun _ s' => ∀ d' ∈ rows, Ledger.Held n d' s') ?_ ?_ ?_
      · unfold deliver
        cases text? d.messageId with
        | some messageId => exact editDelivery_wp hK hd hrest messageId
        | none => exact sendDelivery_wp hK hd hrest
      · exact fun _ _ hrest' => ih hrest'
      · exact fun _ _ _ => trivial

/-- A poll whose query finds current bodies. -/
theorem pollDeliveries_safe (s : Ledger CycleThread) :
    (deliveryOutline n).Safe .dispatcher pollDeliveries s := by
  refine Prog.wp_bind_of
    (R := fun r s' => ∀ rows, r = .ok rows → ∀ d ∈ rows, Ledger.Held n d s') ?_ ?_ ?_
  · refine Prog.wp_tryCatch.mpr ((deliveryOutline n).wp_perform ?_)
    intro s₁ hrely hinv r s₂ hr
    refine ⟨deliveryOutline_keeps rfl hinv hr, ?_⟩
    obtain ⟨hcurrent, hr⟩ := hr
    cases hr with
    | due =>
        rintro rows hrows d hd
        obtain rfl := Except.ok.inj hrows
        exact ⟨CycleDb.mem_dueDeliveries hd, hcurrent d hd⟩
    | refused =>
        rintro rows hrows d hd
        obtain rfl := Except.ok.inj hrows
        exact absurd hd List.not_mem_nil
  · exact fun rows s' h => deliverEach_safe (h rows rfl)
  · exact fun _ _ _ => trivial

theorem delivery_sound : (deliveryOutline n).Sound (pure ()) where
  start i _ p s s' hinv _ h := by
    cases i with
    | recorder k =>
        obtain ⟨rfl, call, rfl⟩ := h
        refine ⟨⟨hinv, fun _ _ _ => Ledger.Follows.refl _⟩, ?_⟩
        have hsends : Prog.Sends ⟨fun o => o.marksNothing = true, fun _ _ => True⟩
            (fun _ => True) (n.record call >>= fun _ => pure ()) :=
          (record_sends n call).bind fun _ _ => Prog.sends_ret.mpr trivial
        exact (deliveryOutline n).safe_of_sends hsends
          (fun _ _ ho hinv _ _ hr => deliveryOutline_keeps ho hinv hr) (fun _ _ => trivial) _
    | dispatcher =>
        obtain ⟨rfl, rfl⟩ := h
        exact ⟨⟨hinv, fun _ _ _ => Ledger.Follows.refl _⟩, pollDeliveries_safe _⟩
  drift s s' hinv h := by
    obtain ⟨⟨clock, rfl⟩, -⟩ := h
    refine ⟨⟨hinv.numbered, hinv.chats, hinv.shown⟩, fun _ _ => ?_⟩
    exact ⟨CycleDb.Grows.refl s.db, fun c hc => ⟨c, hc, rfl, rfl, rfl⟩, fun _ hx => hx⟩
  crash s s' hinv h := by
    obtain rfl := h
    exact ⟨hinv, fun _ => trivial⟩

/-- In every run in which the due query never finds a cycle whose body is behind its
revision, a chat marked as shown a revision was shown a body of that revision. -/
theorem notifyingInTime_shownAsMarked
    {y : Pool.Config CycleThread CycleOp CycleOp.Ans Exn Unit (Ledger CycleThread)}
    (h : Pool.Reach (notifyingInTime n) (pure ()) unnotified y) : y.state.ShownAsMarked n := by
  have hstart : (deliveryOutline n).Holds unnotified := by
    refine ⟨⟨?_, ?_, ?_⟩, fun _ => trivial⟩
    · intro i hi
      exact absurd hi (Nat.not_lt_zero i)
    · intro i hi
      exact absurd hi (Nat.not_lt_zero i)
    · intro c hc
      exact absurd hc List.not_mem_nil
  exact (h.holds delivery_sound hstart).1.shown

def recordEntry : CycleWork Unit := plainNotifier.record (entryAndTp1 true) >>= fun _ => pure ()

def entryRecorded : Ledger CycleThread :=
  (Prog.advance (Ledger.serve (.recorder 0)) 3 recordEntry unnotified.state).2

/-- The entry is recorded whole, then polled. -/
theorem promptPoll_shownAsMarked :
    ∃ y, Pool.Reach (notifyingInTime plainNotifier) (pure ()) unnotified y ∧
      y.state.db.chats.map (·.deliveredRevision) = [1] ∧ y.state.shown = [("-1001", "LONG")] ∧
      y.state.ShownAsMarked plainNotifier := by
  have hrecord : Prog.Admitted ((notifyingInTime plainNotifier).answers (.recorder 0))
      (Ledger.serve (.recorder 0)) 3 recordEntry unnotified.state :=
    ⟨⟨trivial, .appended⟩, ⟨trivial, .stored⟩, ⟨trivial, .ensured⟩, trivial⟩
  have hdeliver : Prog.Admitted ((notifyingInTime plainNotifier).answers .dispatcher)
      (Ledger.serve .dispatcher) 3 pollDeliveries entryRecorded := by
    refine ⟨⟨fun d hd => ?_, .due⟩, ⟨trivial, .sent⟩, ⟨trivial, .delivered⟩, trivial⟩
    obtain rfl := List.mem_singleton.mp hd
    exact ⟨_, List.mem_singleton.mpr rfl, rfl, Nat.le_refl 1, "XAUUSD",
      some (.position .opened), "", rfl⟩
  have hstart : Pool.Reach (notifyingInTime plainNotifier) (pure ()) unnotified unnotified :=
    Relation.ReflTransGen.refl
  have hentry := (hstart.start (i := .recorder 0) trivial ⟨rfl, entryAndTp1 true, rfl⟩).advance
    (i := .recorder 0) 3 hrecord
  have hpoll := (hentry.start (i := .dispatcher) trivial ⟨rfl, rfl⟩).advance
    (i := .dispatcher) 3 hdeliver
  exact ⟨_, hpoll, rfl, rfl, notifyingInTime_shownAsMarked hpoll⟩

/-- The poll falls between the TP1's commit and its body: the chat is shown the
entry alone, and marked as shown both. -/
theorem earlyPoll_marks_unshown :
    ∃ y, Pool.Reach (notifying plainNotifier) (pure ()) unnotified y ∧
      ¬ y.state.ShownAsMarked plainNotifier := by
  have hserve : ∀ i n, ∀ p : CycleWork Unit, ∀ s,
      Prog.Admitted ((notifying plainNotifier).answers i) (Ledger.serve i) n p s :=
    fun i => Prog.admitted_of_forall (Ledger.serve_answers i)
  have hstart : Pool.Reach (notifying plainNotifier) (pure ()) unnotified unnotified :=
    Relation.ReflTransGen.refl
  have hentry := (hstart.start (i := .recorder 0) trivial ⟨rfl, entryAndTp1 true, rfl⟩).advance
    (i := .recorder 0) 3 (hserve _ _ _ _)
  have htp1 := (hentry.start (i := .recorder 1) trivial ⟨rfl, entryAndTp1 false, rfl⟩).advance
    (i := .recorder 1) 1 (hserve _ _ _ _)
  have hpoll := (htp1.start (i := .dispatcher) trivial ⟨rfl, rfl⟩).advance
    (i := .dispatcher) 3 (hserve _ _ _ _)
  refine ⟨_, hpoll, fun h => ?_⟩
  obtain ⟨c, hc, -, k, text, hk, hshown, hlength, symbol, status, footer, hrender⟩ :=
    h _ (List.mem_singleton.mpr rfl) (by decide)
  obtain rfl := List.mem_singleton.mp hc
  have hk2 : k = 2 := Nat.le_antisymm hlength hk
  subst hk2
  obtain rfl : text = "LONG" := by
    have := List.mem_singleton.mp hshown
    exact congrArg Prod.snd this
  have hbody : "LONGTP1" = "LONG" := Except.ok.inj hrender
  exact absurd hbody (by decide)

end TradeWorker
