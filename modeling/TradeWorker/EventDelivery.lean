import TradeWorker.ChangeFeed

/-!
# Events that change capture loses

`publish` only puts an event on a queue in memory, and the row is marked at once.
The publisher's thread sends it later, and drops it when `nc.publish` raises; a
crash drops the queue. A run is safe in which the queue is drained when a row is
marked and `nc.publish` does not raise on the event that was published last
(`Feed.Drains`), wherever crashes fall: that event is at the end of the queue, in
the publisher's hand, or sent (`Feed.Coming`).
-/

namespace TradeWorker

/-- The last event published for a row marked published was handed to NATS. -/
def Feed.Delivered (s : Feed) : Prop :=
  ∀ r ∈ s.db.rows, r.syncStatus = "PUBLISHED" →
    ∃ e, s.lastEvent r.id = some e ∧ (e, true) ∈ s.attempts

/-- A row is set only while the publisher has nothing to send, and `nc.publish` raises
only while a later event waits behind the one it takes. -/
def Feed.Drains (s : Feed) : (o : FeedOp) → Except Exn o.Ans → Prop
  | .markSynced id updatedAt, .ok _ => (∃ r ∈ s.db.rows, r.isSynced id updatedAt = true) →
      s.queue = [] ∧ s.sending = none
  | .ncPublish _, .error _ => s.queue ≠ []
  | _, _ => True

/-- The feed in which a mark waits for the publisher. A crash may come at any time. -/
def changeFeedDrained (cfg : CdcConfig) :
    Pool.System FeedThread FeedOp FeedOp.Ans Exn Unit Feed :=
  (changeFeed cfg).restrict (fun _ o s r => s.Drains o r) fun _ _ => True

/-! ## The event published last -/

/-- The event is the last of the queue, or it is being sent and the queue is empty, or
it was sent. -/
def Feed.Coming (s : Feed) (e : PositionEvent) : Prop :=
  s.queue.getLast? = some e ∨ (s.queue = [] ∧ s.sending = some e) ∨ (e, true) ∈ s.attempts

namespace Feed.Coming

variable {s : Feed} {e : PositionEvent}

theorem handed (h : s.Coming e) (hqueue : s.queue = []) (hsending : s.sending = none) :
    (e, true) ∈ s.attempts := by
  rcases h with h | ⟨-, h⟩ | h
  · rw [hqueue] at h
    cases h
  · rw [hsending] at h
    cases h
  · exact h

theorem take (h : s.Coming e) {event : PositionEvent} {queue : List PositionEvent}
    (hqueue : s.queue = event :: queue) :
    ({ s with queue, sending := some event } : Feed).Coming e := by
  rcases h with h | ⟨hempty, -⟩ | h
  · rw [hqueue] at h
    cases queue with
    | nil => exact Or.inr (Or.inl ⟨rfl, h⟩)
    | cons next queue => exact Or.inl (by simpa using h)
  · rw [hqueue] at hempty
    cases hempty
  · exact Or.inr (Or.inr h)

theorem sent (h : s.Coming e) {event : PositionEvent} (hsending : s.sending = some event) :
    ({ s with sending := none, attempts := s.attempts ++ [(event, true)] } : Feed).Coming e := by
  rcases h with h | ⟨-, h⟩ | h
  · exact Or.inl h
  · obtain rfl := Option.some.inj (hsending.symm.trans h)
    exact Or.inr (Or.inr (List.mem_append_right _ (List.mem_singleton.mpr rfl)))
  · exact Or.inr (Or.inr (List.mem_append_left _ h))

/-- The event in hand is dropped, but it is not the last. -/
theorem notSent (h : s.Coming e) (event : PositionEvent) (hqueue : s.queue ≠ []) :
    ({ s with sending := none, attempts := s.attempts ++ [(event, false)] } : Feed).Coming e := by
  rcases h with h | ⟨hempty, -⟩ | h
  · exact Or.inl h
  · exact absurd hempty hqueue
  · exact Or.inr (Or.inr (List.mem_append_left _ h))

end Feed.Coming

/-- No row of this number is marked published. -/
def Feed.Unmarked (s : Feed) (id : Nat) : Prop :=
  ∀ r ∈ s.db.rows, r.id = id → r.syncStatus ≠ "PUBLISHED"

/-! ## The outline -/

structure Feed.Drained (s : Feed) : Prop where
  numbered : s.db.Numbered
  delivered : s.Delivered

/-- What the polling thread relies on: it alone publishes and marks, and the event it has
published stays in sight. -/
structure Feed.EventsStay (s s' : Feed) : Prop where
  published : s'.published = s.published
  unmarked : ∀ id, s.Unmarked id → s'.Unmarked id
  coming : ∀ e, s.Coming e → s'.Coming e

/-- The outline for the events. The publisher's thread relies on being the one
that sends. -/
def drainedOutline (cfg : CdcConfig) : Pool.Outline (changeFeedDrained cfg) where
  inv := Feed.Drained
  rely
    | .cdc => Feed.EventsStay
    | .publisher => fun s s' => s'.sending = s.sending
  post
    | .cdc => fun _ _ => True
    | .publisher => fun _ s => s.sending = none
  rely_refl i s := by
    cases i with
    | cdc => exact ⟨rfl, fun _ h => h, fun _ h => h⟩
    | publisher => rfl
  rely_trans i a b c := by
    cases i with
    | cdc =>
        exact fun hab hbc => ⟨hbc.published.trans hab.published,
          fun id h => hbc.unmarked id (hab.unmarked id h),
          fun e h => hbc.coming e (hab.coming e h)⟩
    | publisher => exact fun hab hbc => hbc.trans hab
  post_stable i r s s' := by
    cases i with
    | cdc => exact fun _ _ => trivial
    | publisher => exact fun h hs => hs.trans h

variable {cfg : CdcConfig}

/-- A step of the polling thread leaves the publisher's hand alone. -/
theorem drainedOutline_cdc {s s' : Feed} (hinv : s'.Drained) (hsending : s'.sending = s.sending) :
    (drainedOutline cfg).Keeps .cdc s s' := by
  refine ⟨hinv, fun j hj => ?_⟩
  cases j with
  | cdc => exact absurd rfl hj
  | publisher => exact hsending

/-- A step of the publisher that leaves the store and what is published. -/
theorem drainedOutline_publisher {s s' : Feed} (hinv : s.Drained) (hdb : s'.db = s.db)
    (hpublished : s'.published = s.published) (hattempts : s.attempts ⊆ s'.attempts)
    (hcoming : ∀ e, s.Coming e → s'.Coming e) : (drainedOutline cfg).Keeps .publisher s s' := by
  have hunmarked : ∀ id, s.Unmarked id → s'.Unmarked id := by
    intro id h
    unfold Feed.Unmarked
    rw [hdb]
    exact h
  have hdelivered : s'.Delivered := by
    intro r hr hpub
    rw [hdb] at hr
    obtain ⟨e, hlast, he⟩ := hinv.delivered r hr hpub
    refine ⟨e, ?_, hattempts he⟩
    rw [Feed.lastEvent, hpublished]
    exact hlast
  refine ⟨⟨hdb ▸ hinv.numbered, hdelivered⟩, fun j hj => ?_⟩
  cases j with
  | cdc => exact ⟨hpublished, hunmarked, hcoming⟩
  | publisher => exact absurd rfl hj

/-! ## The polling thread -/

/-- Publishing for a row that is not marked. -/
theorem Feed.Drained.publish {s : Feed} (h : s.Drained) {e : PositionEvent}
    (hid : s.Unmarked e.id) :
    ({ s with published := s.published ++ [e], queue := s.queue ++ [e] } : Feed).Drained := by
  refine ⟨h.numbered, fun r hr hpub => ?_⟩
  have hne : e.id ≠ r.id := fun heq => hid r hr heq.symm hpub
  obtain ⟨e', hlast, he'⟩ := h.delivered r hr hpub
  refine ⟨e', ?_, he'⟩
  rw [s.lastEvent_publish, if_neg hne]
  exact hlast

/-- The mark sets the row whose last event was sent, if it sets one. -/
theorem Feed.Drained.mark {s : Feed} (h : s.Drained) {c : Row} {e : PositionEvent}
    (hlast : s.lastEvent c.id = some e)
    (hhanded : (∃ r ∈ s.db.rows, r.isSynced c.id c.updatedAt = true) → (e, true) ∈ s.attempts)
    (copies : List Row) :
    ({ s with db := s.db.markSynced c.id c.updatedAt, copies } : Feed).Drained := by
  refine ⟨h.numbered.markSynced _ _, fun r' hr' hpub => ?_⟩
  obtain ⟨r, hr, rfl⟩ := List.mem_map.mp hr'
  rw [Row.markSynced_id]
  by_cases hsynced : r.isSynced c.id c.updatedAt = true
  · have hid : r.id = c.id := by
      simp only [Row.isSynced, Bool.and_eq_true, decide_eq_true_eq] at hsynced
      exact hsynced.1.1
    refine ⟨e, ?_, hhanded ⟨r, hr, hsynced⟩⟩
    show s.lastEvent r.id = some e
    rw [hid]
    exact hlast
  · rw [Row.markSynced, if_neg hsynced] at hpub
    exact h.delivered r hr hpub

/-- A mark leaves the rows of other numbers. -/
theorem Feed.Unmarked.markSynced {s : Feed} {id id' : Nat} (h : s.Unmarked id) (hne : id ≠ id')
    (updatedAt : Int) (copies : List Row) :
    ({ s with db := s.db.markSynced id' updatedAt, copies } : Feed).Unmarked id := by
  intro r' hr' hid
  obtain ⟨r, hr, rfl⟩ := List.mem_map.mp hr'
  rw [Row.markSynced_id] at hid
  have hsynced : ¬ r.isSynced id' updatedAt = true := by
    intro hsynced
    simp only [Row.isSynced, Bool.and_eq_true, decide_eq_true_eq] at hsynced
    exact hne (hid.symm.trans hsynced.1.1)
  rw [Row.markSynced, if_neg hsynced]
  exact h r hr hid

/-- Marking the row whose event was just published, with other rows to come. -/
theorem markPositionSynced_drained {c : Row} {rows : List Row} {e : PositionEvent} {s : Feed}
    (hlast : s.lastEvent c.id = some e) (he : s.Coming e)
    (hrows : ∀ c' ∈ rows, c'.id ≠ c.id ∧ s.Unmarked c'.id) :
    Prog.wp ((drainedOutline cfg).alone .cdc) (fun _ s' => ∀ c' ∈ rows, s'.Unmarked c'.id)
      (markPositionSynced c.id c.updatedAt) s := by
  refine Prog.wp_tryCatch.mpr (Prog.wp_mono ((drainedOutline cfg).wp_perform
    (Q := fun _ s' => ∀ c' ∈ rows, s'.Unmarked c'.id) ?_) ?_)
  · rintro s₁ hstay hinv r s₂ ⟨hdrains, hr⟩
    have hlast₁ : s₁.lastEvent c.id = some e := by
      rw [Feed.lastEvent, Feed.EventsStay.published hstay]
      exact hlast
    have hcoming : s₁.Coming e := Feed.EventsStay.coming hstay e he
    have hunmarked : ∀ c' ∈ rows, s₁.Unmarked c'.id := fun c' hc' =>
      Feed.EventsStay.unmarked hstay _ (hrows c' hc').2
    cases hr with
    | marked =>
        have hhanded : (∃ r ∈ s₁.db.rows, r.isSynced c.id c.updatedAt = true) →
            (e, true) ∈ s₁.attempts := by
          intro hset
          obtain ⟨hqueue, hsending⟩ := hdrains hset
          exact hcoming.handed hqueue hsending
        refine ⟨drainedOutline_cdc (Feed.Drained.mark hinv hlast₁ hhanded _) rfl, ?_⟩
        intro c' hc'
        exact (hunmarked c' hc').markSynced (hrows c' hc').1 _ _
    | notMarked => exact ⟨drainedOutline_cdc ⟨hinv.numbered, hinv.delivered⟩ rfl, hunmarked⟩
  · intro r s' h
    cases r <;> exact h

/-- The polling thread with the rows it has left: none of them is marked yet. -/
theorem publishEach_drained {account : AccountSnapshot} (rows : List Row) (s : Feed)
    (hnodup : rows.Pairwise fun a b => a.id ≠ b.id) (hrows : ∀ c ∈ rows, s.Unmarked c.id) :
    (drainedOutline cfg).Safe .cdc (publishEach cfg account rows) s := by
  induction rows generalizing s with
  | nil => exact trivial
  | cons c rows ih =>
      obtain ⟨hne, hnodup⟩ := List.pairwise_cons.mp hnodup
      refine Prog.wp_bind_of (R := fun r s' => buildEvent cfg account c = r ∧ s' = s)
        (Prog.wp_ofExcept.mpr ⟨rfl, rfl⟩) ?_ ?_
      · rintro e s' ⟨he, rfl⟩
        have hid : e.id = c.id := (buildEvent_carries he).1.1
        refine Prog.wp_bind_of (R := fun _ s' => s'.lastEvent c.id = some e ∧ s'.Coming e ∧
          ∀ c' ∈ rows, c'.id ≠ c.id ∧ s'.Unmarked c'.id) ?_ ?_ ?_
        · refine (drainedOutline cfg).wp_perform ?_
          rintro s₁ hstay hinv r s₂ ⟨-, hr⟩
          have hunmarked : ∀ c' ∈ c :: rows, s₁.Unmarked c'.id := fun c' hc' =>
            Feed.EventsStay.unmarked hstay _ (hrows c' hc')
          cases hr with
          | published =>
              have hc : s₁.Unmarked e.id := hid ▸ hunmarked c List.mem_cons_self
              refine ⟨drainedOutline_cdc (Feed.Drained.publish hinv hc) rfl, ?_, ?_, ?_⟩
              · rw [s₁.lastEvent_publish, if_pos hid]
              · exact Or.inl (by simp)
              · intro c' hc'
                exact ⟨(hne c' hc').symm, hunmarked c' (List.mem_cons_of_mem _ hc')⟩
        · rintro _ s₂ ⟨hlast, hcoming, hleft⟩
          refine Prog.wp_bind_of (markPositionSynced_drained hlast hcoming hleft) ?_ ?_
          · exact fun _ s₃ hleft' => ih s₃ hnodup hleft'
          · exact fun _ _ _ => trivial
        · exact fun _ _ _ => trivial
      · exact fun _ _ _ => trivial

/-- The rows the poll reads are pending, and no two have one number. -/
theorem Feed.Drained.read {s : Feed} (h : s.Drained) :
    (s.db.pendingSync.Pairwise fun a b => a.id ≠ b.id) ∧
      ∀ c ∈ s.db.pendingSync, s.Unmarked c.id := by
  refine ⟨h.numbered.nodup_ids.filter _, fun c hc r hr hid => ?_⟩
  obtain ⟨hmem, hpending⟩ := List.mem_filter.mp hc
  obtain rfl := h.numbered.eq_of_id hr hmem hid
  have hpending : r.syncStatus = "PENDING" := by simpa using hpending
  rw [hpending]
  decide

def Feed.Ready (s : Feed) (rows : List Row) : Prop :=
  (rows.Pairwise fun a b => a.id ≠ b.id) ∧ ∀ c ∈ rows, s.Unmarked c.id

theorem Feed.Ready.moved {s s' : Feed} {rows : List Row} (h : s.Ready rows)
    (hstay : s.EventsStay s') : s'.Ready rows :=
  ⟨h.1, fun c hc => hstay.unmarked _ (h.2 c hc)⟩

theorem pollPending_drained (s : Feed) :
    (drainedOutline cfg).Safe .cdc (pollPending cfg) s := by
  refine Prog.wp_bind_of (R := fun r s' => ∀ rows, r = .ok rows → s'.Ready rows) ?_ ?_ ?_
  · refine Prog.wp_tryCatch.mpr (Prog.wp_mono ((drainedOutline cfg).wp_perform
      (Q := fun r s' => ∀ rows, r = .ok rows → s'.Ready rows) ?_) ?_)
    · rintro s₁ - hinv r s₂ ⟨-, hr⟩
      cases hr with
      | pendingSync =>
          refine ⟨drainedOutline_cdc ⟨hinv.numbered, hinv.delivered⟩ rfl, ?_⟩
          rintro rows hrows
          obtain rfl := Except.ok.inj hrows
          exact Feed.Drained.read hinv
      | pendingFailed => exact ⟨drainedOutline_cdc hinv rfl, fun _ h => nomatch h⟩
    · intro r s' h
      cases r with
      | ok rows => exact h
      | error e =>
          rintro rows hrows
          obtain rfl := Except.ok.inj hrows
          exact ⟨List.Pairwise.nil, by simp⟩
  · intro rows s₁ hread
    have hready := hread rows rfl
    cases rows with
    | nil => exact trivial
    | cons c rows =>
        refine Prog.wp_bind_of (R := fun _ s' => s'.Ready (c :: rows)) ?_ ?_ ?_
        · unfold snapshotAccount
          split
          · rw [Prog.wp_tryCatch, Prog.wp_bind]
            refine Prog.wp_mono ((drainedOutline cfg).wp_perform
              (Q := fun _ s' => s'.Ready (c :: rows)) ?_) ?_
            · rintro s₂ hstay hinv r s₃ ⟨-, hr⟩
              cases hr
              exact ⟨drainedOutline_cdc hinv rfl, hready.moved hstay⟩
            · intro r s' h
              cases r <;> exact h
          · exact hready
        · exact fun account s₂ h => publishEach_drained (c :: rows) s₂ h.1 h.2
        · exact fun _ _ _ => trivial
  · exact fun _ _ _ => trivial

/-! ## The publisher -/

/-- A turn of the publisher: the event is in its hand until `nc.publish` answers. -/
theorem publisherTurn_drained {s : Feed} (hs : s.sending = none) :
    (drainedOutline cfg).Safe .publisher publisherTurn s := by
  refine Prog.wp_bind_of (R := fun r s' => match r with
    | .ok (some e) => s'.sending = some e
    | .ok none => s'.sending = none
    | .error _ => s'.sending = none) ?_ ?_ ?_
  · refine (drainedOutline cfg).wp_perform ?_
    rintro s₁ hrely hinv r s₂ ⟨-, hr⟩
    have hs₁ : s₁.sending = none := Eq.trans hrely hs
    cases hr
    rcases s₁.take_cases with ⟨-, htake⟩ | ⟨event, queue, hqueue, htake⟩
    · rw [htake]
      exact ⟨drainedOutline_publisher hinv rfl rfl (List.Subset.refl _) fun _ h => h, hs₁⟩
    · rw [htake]
      refine ⟨drainedOutline_publisher hinv rfl rfl (List.Subset.refl _) ?_, rfl⟩
      exact fun e he => he.take hqueue
  · rintro (_ | event) s₁ hs₁
    · exact hs₁
    · refine Prog.wp_tryCatch.mpr ((drainedOutline cfg).wp_perform ?_)
      rintro s₂ hrely hinv r s₃ ⟨hdrains, hr⟩
      have hs₂ : s₂.sending = some event := Eq.trans hrely hs₁
      have hattempts := List.subset_append_left s₂.attempts
      cases hr with
      | sent =>
          refine ⟨drainedOutline_publisher hinv rfl rfl (hattempts _) ?_, rfl⟩
          exact fun e he => he.sent hs₂
      | notSent =>
          refine ⟨drainedOutline_publisher hinv rfl rfl (hattempts _) ?_, rfl⟩
          exact fun e he => he.notSent event hdrains
  · exact fun _ _ hs' => hs'

/-! ## The threads together -/

theorem drained_sound : (drainedOutline cfg).Sound (pure ()) where
  start i r p s s' hinv hpost h := by
    cases i with
    | cdc =>
        obtain ⟨rfl, rfl⟩ := h
        exact ⟨drainedOutline_cdc ⟨hinv.numbered, hinv.delivered⟩ rfl, pollPending_drained _⟩
    | publisher =>
        obtain ⟨rfl, rfl⟩ := h
        exact ⟨drainedOutline_publisher hinv rfl rfl (List.Subset.refl _) fun _ h => h,
          publisherTurn_drained hpost⟩
  drift s s' hinv h := by
    obtain ⟨⟨w, rfl⟩, -⟩ := h
    have hpublished : ∀ r ∈ (w.apply s.db).rows, r.syncStatus = "PUBLISHED" → r ∈ s.db.rows :=
      fun r hr hpub => w.apply_published hr hpub
    refine ⟨⟨hinv.numbered.write w, fun r hr hpub => ?_⟩, fun i => ?_⟩
    · exact hinv.delivered r (hpublished r hr hpub) hpub
    · cases i with
      | cdc =>
          refine ⟨rfl, fun id h r hr hid hpub => ?_, fun _ h => h⟩
          exact h r (hpublished r hr hpub) hid hpub
      | publisher => rfl
  crash s s' hinv h := by
    obtain rfl := h
    refine ⟨⟨hinv.numbered, hinv.delivered⟩, fun i => ?_⟩
    cases i with
    | cdc => exact trivial
    | publisher => rfl

/-- In every run in which the queue is drained when a row is marked, and `nc.publish` raises
only on an event that has another behind it, the last event published for a row marked
published was handed to NATS. -/
theorem changeFeedDrained_delivered {y : Pool.Config FeedThread FeedOp FeedOp.Ans Exn Unit Feed}
    (h : Pool.Reach (changeFeedDrained cfg) (pure ()) Feed.initial y) : y.state.Delivered := by
  have hstart : (drainedOutline cfg).Holds Feed.initial := by
    refine ⟨⟨?_, fun r hr => absurd hr List.not_mem_nil⟩, fun i => ?_⟩
    · exact fun i hi => absurd hi (Nat.not_lt_zero i)
    · cases i with
      | cdc => exact trivial
      | publisher => rfl
  exact (h.holds drained_sound hstart).1.delivered

/-! ## Runs -/

/-- The poll once it has published the entry: what it has left, and the feed. -/
def entryPublished : FeedWork Unit × Feed :=
  Prog.advance Feed.serve 2 (pollPending forexCdc) { db := (Write.insert entryRow).apply Db.empty }

def entrySent : Feed := (Prog.advance Feed.serve 2 publisherTurn entryPublished.2).2

/-- The entry is published, sent, and only then marked. -/
theorem markAfterSend_delivered :
    ∃ y, Pool.Reach (changeFeedDrained forexCdc) (pure ()) Feed.initial y ∧
      y.state.db.rows.map (·.syncStatus) = ["PUBLISHED"] ∧ y.state.Delivered := by
  have hread : Prog.Admitted ((changeFeedDrained forexCdc).answers .cdc) Feed.serve 2
      (pollPending forexCdc) { db := (Write.insert entryRow).apply Db.empty } :=
    ⟨⟨trivial, .pendingSync⟩, ⟨trivial, .published⟩, trivial⟩
  have hsend : Prog.Admitted ((changeFeedDrained forexCdc).answers .publisher) Feed.serve 2
      publisherTurn entryPublished.2 :=
    ⟨⟨trivial, .taken⟩, ⟨trivial, .sent⟩, trivial⟩
  have hmark : Prog.Admitted ((changeFeedDrained forexCdc).answers .cdc) Feed.serve 1
      entryPublished.1 entrySent :=
    ⟨⟨fun _ => ⟨rfl, rfl⟩, .marked⟩, trivial⟩
  have hstart : Pool.Reach (changeFeedDrained forexCdc) (pure ()) Feed.initial Feed.initial :=
    Relation.ReflTransGen.refl
  have hinsert := changeFeed_write hstart (.insert entryRow) ⟨⟨_, rfl⟩, trivial⟩
  have hpublished := (hinsert.start (i := .cdc) trivial ⟨rfl, rfl⟩).advance (i := .cdc) 2 hread
  have hsent := (hpublished.start (i := .publisher) trivial ⟨rfl, rfl⟩).advance
    (i := .publisher) 2 hsend
  have hmarked := hsent.advance (i := .cdc) 1 hmark
  exact ⟨_, hmarked, by decide +kernel, changeFeedDrained_delivered hmarked⟩

/-- The poll marks the row at once; then `nc.publish` raises, and the event is gone. -/
theorem raisedSend_lost :
    ∃ y, Pool.Reach (changeFeed forexCdc) (pure ()) Feed.initial y ∧ ¬ y.state.Delivered := by
  have hserve : ∀ i n, ∀ p : FeedWork Unit, ∀ s,
      Prog.Admitted ((changeFeed forexCdc).answers i) Feed.serve n p s := fun _ =>
    Prog.admitted_of_forall Feed.serve_answers
  have hstart : Pool.Reach (changeFeed forexCdc) (pure ()) Feed.initial Feed.initial :=
    Relation.ReflTransGen.refl
  have hinsert := changeFeed_write hstart (.insert entryRow) ⟨_, rfl⟩
  have hpoll := (hinsert.start (i := .cdc) trivial ⟨rfl, rfl⟩).advance (i := .cdc) 3
    (hserve _ _ _ _)
  have htake := (hpoll.start (i := .publisher) trivial ⟨rfl, rfl⟩).advance (i := .publisher) 1
    (hserve _ _ _ _)
  have hraise := htake.tail (Pool.Step.call (i := .publisher) rfl (.notSent (e := .other "")))
  obtain ⟨y, hy, hrow, hattempts⟩ : ∃ y, Pool.Reach (changeFeed forexCdc) (pure ()) Feed.initial y ∧
      (∃ r ∈ y.state.db.rows, r.syncStatus = "PUBLISHED") ∧
      ∀ x ∈ y.state.attempts, x.2 = false :=
    ⟨_, hraise, by decide +kernel, by decide +kernel⟩
  refine ⟨y, hy, fun h => ?_⟩
  obtain ⟨r, hr, hpub⟩ := hrow
  obtain ⟨e, -, he⟩ := h r hr hpub
  exact nomatch hattempts _ he

end TradeWorker
