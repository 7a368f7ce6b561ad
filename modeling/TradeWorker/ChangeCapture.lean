import TradeWorker.ChangeFeed

/-!
# Updates that change capture loses

An update is lost when it falls between the poll's read and its mark, in the very
second the row was last updated: `updated_at` is the same text, and the mark
takes the new values for the published ones (`Feed.Overtakes`). In runs without
such an update, a row marked published has its columns in its last event.
-/

namespace TradeWorker

/-! ## Events and columns -/

/-- The same row, up to the two columns the mark writes. -/
def Row.SameData (a b : Row) : Prop :=
  { a with syncStatus := b.syncStatus, syncTime := b.syncTime } = b

/-- A row marked published has its current columns in its last event. -/
def Feed.Captured (s : Feed) : Prop :=
  ∀ r ∈ s.db.rows, r.syncStatus = "PUBLISHED" →
    ∃ e, s.lastEvent r.id = some e ∧ e.Carries r

/-- A status update reaches a row the poll has read and not yet marked, in the
second the poll's copy names, and leaves other columns than the copy's. -/
def Feed.Overtakes (s : Feed) : Write → Prop
  | .update u => ∃ c ∈ s.copies, ∃ r ∈ s.db.rows, r.id = c.id ∧
      u.refSourceId = some r.refSourceId ∧ s.db.clock = c.updatedAt ∧
      ¬ (r.apply u s.db.clock).SameData c
  | _ => False

/-- A write that overtakes no read. -/
def Feed.WritesInTurn (s s' : Feed) : Prop :=
  ∃ w : Write, ¬ s.Overtakes w ∧ s' = { s with db := w.apply s.db }

/-- The feed in which no write overtakes the poll's read. -/
def changeFeedInTurn (cfg : CdcConfig) :
    Pool.System FeedThread FeedOp FeedOp.Ans Exn Unit Feed :=
  (changeFeed cfg).restrict (fun _ _ _ _ => True) Feed.WritesInTurn

theorem PositionEvent.Carries.of_sameData {e : PositionEvent} {r c : Row} (h : e.Carries c)
    (hr : r.SameData c) : e.Carries r := by
  unfold Row.SameData at hr
  rw [← hr] at h
  exact h

theorem Row.SameData.refl (r : Row) : r.SameData r := rfl

/-! ## The invariant -/

/-- A row the poll holds a copy of: still pending, and changed only under another
`updated_at`. -/
structure Feed.Guarded (s : Feed) (c : Row) : Prop where
  known : ∃ r ∈ s.db.rows, r.id = c.id
  pending : ∀ r ∈ s.db.rows, r.id = c.id → r.syncStatus = "PENDING"
  data : ∀ r ∈ s.db.rows, r.id = c.id → r.updatedAt = c.updatedAt → r.SameData c

structure Feed.InTurn (s : Feed) : Prop where
  numbered : s.db.Numbered
  captured : s.Captured
  guarded : ∀ c ∈ s.copies, s.Guarded c

/-- A write that overtakes no read keeps the invariant: a row it reaches is pending
again, and either has a new `updated_at` or the copy's columns. -/
theorem Feed.InTurn.write {s : Feed} (h : s.InTurn) {w : Write} (hw : ¬ s.Overtakes w) :
    ({ s with db := w.apply s.db } : Feed).InTurn := by
  rcases w.apply_rows s.db with hrows | ⟨u, rfl, hrows⟩ | ⟨new, hid, hpending, hrows⟩
  · refine ⟨h.numbered.write w, ?_, fun c hc => ⟨?_, ?_, ?_⟩⟩
    · intro r hr
      exact h.captured r (hrows ▸ hr)
    · simpa only [hrows] using (h.guarded c hc).known
    · intro r hr
      exact (h.guarded c hc).pending r (hrows ▸ hr)
    · intro r hr
      exact (h.guarded c hc).data r (hrows ▸ hr)
  · refine ⟨h.numbered.write (.update u), ?_, fun c hc => ⟨?_, ?_, ?_⟩⟩
    · intro r hr hpub
      obtain ⟨r₀, hr₀, rfl⟩ := mem_updateRows.mp (hrows ▸ hr)
      by_cases hu : u.refSourceId = some r₀.refSourceId
      · rw [Row.update, if_pos hu] at hpub
        exact absurd hpub (by simp [Row.apply])
      · rw [Row.update, if_neg hu] at hpub ⊢
        exact h.captured r₀ hr₀ hpub
    · obtain ⟨r, hr, hrid⟩ := (h.guarded c hc).known
      refine ⟨r.update u s.db.clock, ?_, (Row.update_id r u _).trans hrid⟩
      show _ ∈ (Write.apply (.update u) s.db).rows
      rw [hrows]
      exact mem_updateRows.mpr ⟨r, hr, rfl⟩
    · intro r hr hrid
      obtain ⟨r₀, hr₀, rfl⟩ := mem_updateRows.mp (hrows ▸ hr)
      rw [Row.update_id] at hrid
      by_cases hu : u.refSourceId = some r₀.refSourceId
      · rw [Row.update, if_pos hu]
        rfl
      · rw [Row.update, if_neg hu]
        exact (h.guarded c hc).pending r₀ hr₀ hrid
    · intro r hr hrid hupdated
      obtain ⟨r₀, hr₀, rfl⟩ := mem_updateRows.mp (hrows ▸ hr)
      rw [Row.update_id] at hrid
      by_cases hu : u.refSourceId = some r₀.refSourceId
      · rw [Row.update, if_pos hu] at hupdated ⊢
        by_contra hdata
        exact hw ⟨c, hc, r₀, hr₀, hrid, hu, hupdated, hdata⟩
      · rw [Row.update, if_neg hu] at hupdated ⊢
        exact (h.guarded c hc).data r₀ hr₀ hrid hupdated
  · have hnew : ∀ c ∈ s.copies, new.id ≠ c.id := by
      intro c hc hnew
      obtain ⟨r, hr, hrid⟩ := (h.guarded c hc).known
      have hlt := h.numbered.lt_of_mem hr
      omega
    refine ⟨h.numbered.write w, ?_, fun c hc => ⟨?_, ?_, ?_⟩⟩
    · intro r hr hpub
      rcases List.mem_append.mp (hrows ▸ hr) with hr | hr
      · exact h.captured r hr hpub
      · obtain rfl := List.mem_singleton.mp hr
        rw [hpending] at hpub
        exact absurd hpub (by decide)
    · obtain ⟨r, hr, hrid⟩ := (h.guarded c hc).known
      refine ⟨r, ?_, hrid⟩
      show r ∈ (w.apply s.db).rows
      rw [hrows]
      exact List.mem_append_left _ hr
    · intro r hr hrid
      rcases List.mem_append.mp (hrows ▸ hr) with hr | hr
      · exact (h.guarded c hc).pending r hr hrid
      · obtain rfl := List.mem_singleton.mp hr
        exact absurd hrid (hnew c hc)
    · intro r hr hrid hupdated
      rcases List.mem_append.mp (hrows ▸ hr) with hr | hr
      · exact (h.guarded c hc).data r hr hrid hupdated
      · obtain rfl := List.mem_singleton.mp hr
        exact absurd hrid (hnew c hc)

/-! ## The poll -/

/-- The poll reads: its copies are the rows themselves. -/
theorem Feed.InTurn.read {s : Feed} (h : s.InTurn) :
    ({ s with copies := s.db.pendingSync } : Feed).InTurn := by
  refine ⟨h.numbered, h.captured, fun c hc => ?_⟩
  obtain ⟨hmem, hpending⟩ := List.mem_filter.mp hc
  refine ⟨⟨c, hmem, rfl⟩, ?_, ?_⟩
  · intro r hr hid
    obtain rfl := h.numbered.eq_of_id hr hmem hid
    simpa using hpending
  · intro r hr hid _
    obtain rfl := h.numbered.eq_of_id hr hmem hid
    exact Row.SameData.refl r

/-- Publishing a copy: the row is pending, so nothing yet depends on its event. -/
theorem Feed.InTurn.publish {s : Feed} (h : s.InTurn) {c : Row} (hc : c ∈ s.copies)
    {e : PositionEvent} (he : e.id = c.id) :
    ({ s with published := s.published ++ [e], queue := s.queue ++ [e] } : Feed).InTurn := by
  refine ⟨h.numbered, fun r hr hpub => ?_, fun c' hc' => ?_⟩
  · have hne : e.id ≠ r.id := by
      intro heq
      have hpending := (h.guarded c hc).pending r hr (heq.symm.trans he)
      rw [hpending] at hpub
      exact absurd hpub (by decide)
    obtain ⟨e', hlast, hcarries⟩ := h.captured r hr hpub
    refine ⟨e', ?_, hcarries⟩
    rw [s.lastEvent_publish, if_neg hne]
    exact hlast
  · exact ⟨(h.guarded c' hc').known, (h.guarded c' hc').pending, (h.guarded c' hc').data⟩

/-- Dropping the copies of one row, whose mark failed. -/
theorem Feed.InTurn.drop {s : Feed} (h : s.InTurn) (p : Row → Bool) :
    ({ s with copies := s.copies.filter p } : Feed).InTurn := by
  refine ⟨h.numbered, h.captured, fun c hc => ?_⟩
  have hmem := (List.mem_filter.mp hc).1
  exact ⟨(h.guarded c hmem).known, (h.guarded c hmem).pending, (h.guarded c hmem).data⟩

/-- The mark: the row it matches has the columns of the copy, and these are the
columns of its last event. -/
theorem Feed.InTurn.mark {s : Feed} (h : s.InTurn) {c : Row} (hc : c ∈ s.copies)
    {e : PositionEvent} (hlast : s.lastEvent c.id = some e) (he : e.Carries c) :
    ({ s with
      db := s.db.markSynced c.id c.updatedAt
      copies := s.copies.filter (·.id ≠ c.id) } : Feed).InTurn := by
  have hother : ∀ r : Row, r.id ≠ c.id → r.markSynced c.id c.updatedAt s.db.clock = r := by
    intro r hr
    rw [Row.markSynced, if_neg]
    simp [Row.isSynced, hr]
  refine ⟨h.numbered.markSynced _ _, ?_, fun c' hc' => ?_⟩
  · intro r hr hpub
    obtain ⟨r₀, hr₀, rfl⟩ := List.mem_map.mp hr
    by_cases hsynced : r₀.isSynced c.id c.updatedAt = true
    · rw [Row.markSynced, if_pos hsynced] at hpub ⊢
      simp only [Row.isSynced, Bool.and_eq_true, decide_eq_true_eq] at hsynced
      obtain ⟨⟨hid, hupdated⟩, -⟩ := hsynced
      refine ⟨e, ?_, ?_⟩
      · show s.lastEvent r₀.id = some e
        rw [hid]
        exact hlast
      · exact he.of_sameData ((h.guarded c hc).data r₀ hr₀ hid hupdated)
    · rw [Row.markSynced, if_neg hsynced] at hpub ⊢
      exact h.captured r₀ hr₀ hpub
  · obtain ⟨hmem, hne⟩ := List.mem_filter.mp hc'
    have hne' : c'.id ≠ c.id := by simpa using hne
    have hrow : ∀ r ∈ (s.db.markSynced c.id c.updatedAt).rows, r.id = c'.id → r ∈ s.db.rows := by
      intro r hr hid
      obtain ⟨r₀, hr₀, rfl⟩ := List.mem_map.mp hr
      rw [Row.markSynced_id] at hid
      rw [hother r₀ (by rw [hid]; exact hne')]
      exact hr₀
    refine ⟨?_, ?_, ?_⟩
    · obtain ⟨r, hr, hid⟩ := (h.guarded c' hmem).known
      exact ⟨_, List.mem_map.mpr ⟨r, hr, rfl⟩, (Row.markSynced_id ..).trans hid⟩
    · intro r hr hid
      exact (h.guarded c' hmem).pending r (hrow r hr hid) hid
    · intro r hr hid
      exact (h.guarded c' hmem).data r (hrow r hr hid) hid

/-- What the polling thread relies on: nobody else reads for it or publishes. -/
def Feed.CdcRely (s s' : Feed) : Prop :=
  s'.copies = s.copies ∧ s'.published = s.published

/-- The outline for the columns. The publisher's thread relies on nothing. -/
def inTurnOutline (cfg : CdcConfig) : Pool.Outline (changeFeedInTurn cfg) where
  inv := Feed.InTurn
  rely i s s' := i = .cdc → s.CdcRely s'
  post _ _ _ := True
  rely_refl _ _ _ := ⟨rfl, rfl⟩
  rely_trans _ _ _ _ hab hbc hi := ⟨(hbc hi).1.trans (hab hi).1, (hbc hi).2.trans (hab hi).2⟩
  post_stable _ _ _ _ _ _ := trivial

variable {cfg : CdcConfig}

/-- The copies left once one row's are dropped. -/
theorem filter_ids_cons {c : Row} {rows : List Row}
    (hnodup : (c :: rows).Pairwise fun a b => a.id ≠ b.id) :
    (c :: rows).filter (fun r => r.id ≠ c.id) = rows := by
  rw [List.filter_cons_of_neg (by simp)]
  refine List.filter_eq_self.mpr fun r hr => ?_
  have hne := (List.pairwise_cons.mp hnodup).1 r hr
  simpa using hne.symm

/-- Marking the row whose event was just published. -/
theorem markPositionSynced_inTurn {c : Row} {rows : List Row} {e : PositionEvent} {s : Feed}
    (hcopies : s.copies = c :: rows) (hnodup : (c :: rows).Pairwise fun a b => a.id ≠ b.id)
    (hlast : s.lastEvent c.id = some e) (he : e.Carries c) :
    Prog.wp ((inTurnOutline cfg).alone .cdc) (fun _ s' => s'.copies = rows)
      (markPositionSynced c.id c.updatedAt) s := by
  unfold markPositionSynced feedCall
  rw [Prog.wp_tryCatch]
  refine Prog.wp_mono ((inTurnOutline cfg).wp_perform (Q := fun _ s' => s'.copies = rows) ?_) ?_
  · rintro s₁ hrely hinv r s₂ ⟨-, hr⟩
    obtain ⟨hcopies₁, hpublished₁⟩ := hrely rfl
    have hleft : s₁.copies.filter (fun r => r.id ≠ c.id) = rows := by
      rw [hcopies₁, hcopies, filter_ids_cons hnodup]
    have hmem : c ∈ s₁.copies := by
      rw [hcopies₁, hcopies]
      exact List.mem_cons_self
    have hlast₁ : s₁.lastEvent c.id = some e := by
      rw [Feed.lastEvent, hpublished₁]
      exact hlast
    cases hr with
    | marked =>
        exact ⟨⟨Feed.InTurn.mark hinv hmem hlast₁ he, fun j hj h => absurd h hj⟩, hleft⟩
    | notMarked => exact ⟨⟨Feed.InTurn.drop hinv _, fun j hj h => absurd h hj⟩, hleft⟩
  · intro r s' h
    cases r with
    | ok b => exact h
    | error e => exact h

/-- The polling thread with the rows it has left. -/
theorem publishEach_inTurn {account : AccountSnapshot} {rows : List Row} {s : Feed}
    (hcopies : s.copies = rows) (hnodup : rows.Pairwise fun a b => a.id ≠ b.id) :
    (inTurnOutline cfg).Safe .cdc (publishEach cfg account rows) s := by
  induction rows generalizing s with
  | nil => exact trivial
  | cons c rows ih =>
      have hrest : rows.Pairwise fun a b => a.id ≠ b.id := (List.pairwise_cons.mp hnodup).2
      refine Prog.wp_bind_of (R := fun r s' => s'.copies = c :: rows ∧
        buildEvent cfg account c = r) (Prog.wp_ofExcept.mpr ⟨hcopies, rfl⟩) ?_ ?_
      · rintro e s₁ ⟨hcopies₁, he⟩
        have hcarries := buildEvent_carries he
        refine Prog.wp_bind_of (R := fun _ s' => s'.copies = c :: rows ∧
          s'.lastEvent c.id = some e) ?_ ?_ ?_
        · refine (inTurnOutline cfg).wp_perform ?_
          rintro s₂ hrely hinv r s₃ ⟨-, hr⟩
          have hcopies₂ : s₂.copies = c :: rows := (hrely rfl).1.trans hcopies₁
          cases hr with
          | published =>
              have hmem : c ∈ s₂.copies := by
                rw [hcopies₂]
                exact List.mem_cons_self
              refine ⟨⟨Feed.InTurn.publish hinv hmem hcarries.1.1, fun j hj h => absurd h hj⟩,
                hcopies₂, ?_⟩
              simp [Feed.lastEvent, List.filter_append, hcarries.1.1]
        · rintro _ s₂ ⟨hcopies₂, hlast⟩
          refine Prog.wp_bind_of (markPositionSynced_inTurn hcopies₂ hnodup hlast hcarries) ?_ ?_
          · exact fun _ _ hleft => ih hleft hrest
          · exact fun _ _ _ => trivial
        · exact fun _ _ _ => trivial
      · exact fun _ _ _ => trivial

theorem pollPending_inTurn (s : Feed) :
    (inTurnOutline cfg).Safe .cdc (pollPending cfg) s := by
  refine Prog.wp_bind_of (R := fun r s' => ∀ rows, r = .ok rows → rows ≠ [] →
    s'.copies = rows ∧ rows.Pairwise fun a b => a.id ≠ b.id) ?_ ?_ ?_
  · refine Prog.wp_tryCatch.mpr ((inTurnOutline cfg).wp_perform ?_)
    rintro s₁ hrely hinv r s₂ ⟨-, hr⟩
    cases hr with
    | pendingSync =>
        refine ⟨⟨Feed.InTurn.read hinv, fun j hj h => absurd h hj⟩, ?_⟩
        intro rows hrows _
        obtain rfl := Except.ok.inj hrows
        exact ⟨rfl, ((Feed.InTurn.numbered hinv).nodup_ids).filter _⟩
    | pendingFailed =>
        refine ⟨⟨hinv, fun j hj h => absurd h hj⟩, ?_⟩
        intro rows hrows hne
        obtain rfl := Except.ok.inj hrows
        exact absurd rfl hne
  · intro rows s₁ h
    cases rows with
    | nil => exact trivial
    | cons c rows =>
        obtain ⟨hcopies, hnodup⟩ := h _ rfl (List.cons_ne_nil _ _)
        refine Prog.wp_bind_of (R := fun _ s' => s'.copies = c :: rows) ?_ ?_ ?_
        · unfold snapshotAccount
          split
          · rw [Prog.wp_tryCatch, Prog.wp_bind]
            refine Prog.wp_mono ((inTurnOutline cfg).wp_perform
              (Q := fun _ s' => s'.copies = c :: rows) ?_) ?_
            · rintro s₂ hrely hinv r s₃ ⟨-, hr⟩
              cases hr
              exact ⟨⟨hinv, fun j hj h => absurd h hj⟩, (hrely rfl).1.trans hcopies⟩
            · intro r s' h
              cases r with
              | ok info => exact h
              | error e => exact h
          · exact hcopies
        · exact fun _ _ hleft => publishEach_inTurn hleft hnodup
        · exact fun _ _ _ => trivial
  · exact fun _ _ _ => trivial

/-- The publisher's thread touches neither the rows nor the record of `publish`. -/
theorem publisherTurn_inTurn (s : Feed) :
    (inTurnOutline cfg).Safe .publisher publisherTurn s := by
  refine Prog.wp_bind_of (R := fun _ _ => True) ?_ ?_ ?_
  · refine (inTurnOutline cfg).wp_perform ?_
    rintro s₁ - hinv r s₂ ⟨-, hr⟩
    cases hr
    rcases s₁.take_cases with ⟨-, htake⟩ | ⟨event, queue, -, htake⟩
    · rw [htake]
      exact ⟨⟨hinv, fun _ _ _ => ⟨rfl, rfl⟩⟩, trivial⟩
    · rw [htake]
      refine ⟨⟨⟨hinv.numbered, hinv.captured, fun c hc => ?_⟩, fun _ _ _ => ⟨rfl, rfl⟩⟩, trivial⟩
      exact ⟨(hinv.guarded c hc).known, (hinv.guarded c hc).pending, (hinv.guarded c hc).data⟩
  · rintro (_ | e) s₁ -
    · exact trivial
    · refine Prog.wp_tryCatch.mpr ((inTurnOutline cfg).wp_perform ?_)
      rintro s₂ - hinv r s₃ ⟨-, hr⟩
      have hguarded : ∀ attempts, ∀ c ∈ s₂.copies,
          Feed.Guarded { s₂ with sending := none, attempts } c := fun _ c hc =>
        ⟨(hinv.guarded c hc).known, (hinv.guarded c hc).pending, (hinv.guarded c hc).data⟩
      cases hr with
      | sent =>
          exact ⟨⟨⟨hinv.numbered, hinv.captured, hguarded _⟩, fun _ _ _ => ⟨rfl, rfl⟩⟩, trivial⟩
      | notSent =>
          exact ⟨⟨⟨hinv.numbered, hinv.captured, hguarded _⟩, fun _ _ _ => ⟨rfl, rfl⟩⟩, trivial⟩
  · exact fun _ _ _ => trivial

theorem inTurn_sound : (inTurnOutline cfg).Sound (pure ()) where
  start i _ p s s' hinv _ h := by
    cases i with
    | cdc =>
        obtain ⟨rfl, rfl⟩ := h
        refine ⟨⟨⟨hinv.numbered, hinv.captured, ?_⟩, fun j hj h => absurd h hj⟩,
          pollPending_inTurn _⟩
        exact fun c hc => absurd hc List.not_mem_nil
    | publisher =>
        obtain ⟨rfl, rfl⟩ := h
        exact ⟨⟨hinv, fun _ _ _ => ⟨rfl, rfl⟩⟩, publisherTurn_inTurn _⟩
  drift s s' hinv h := by
    obtain ⟨-, w, hw, rfl⟩ := h
    exact ⟨Feed.InTurn.write hinv hw, fun _ _ => ⟨rfl, rfl⟩⟩
  crash s s' hinv h := by
    obtain rfl := h
    exact ⟨⟨hinv.numbered, hinv.captured, fun c hc => absurd hc List.not_mem_nil⟩,
      fun _ => trivial⟩

/-- In every run in which no status update overtakes the poll's read of a row within
the second its copy names, a row marked published has its current columns in the
last event published for it. -/
theorem changeFeedInTurn_captured {y : Pool.Config FeedThread FeedOp FeedOp.Ans Exn Unit Feed}
    (h : Pool.Reach (changeFeedInTurn cfg) (pure ()) Feed.initial y) : y.state.Captured := by
  have hstart : (inTurnOutline cfg).Holds Feed.initial := by
    refine ⟨⟨?_, ?_, ?_⟩, fun _ => trivial⟩
    · intro i hi
      exact absurd hi (Nat.not_lt_zero i)
    · intro r hr
      exact absurd hr List.not_mem_nil
    · intro c hc
      exact absurd hc List.not_mem_nil
  exact (h.holds inTurn_sound hstart).1.captured

/-! ## A lost update -/

def tp1Update : StatusUpdate where
  refSourceId := some "101"
  status := .tp1

/-- A row is inserted, polled, published and marked; its TP1 comes after, and the next poll
publishes that too. -/
theorem updateAfterMark_captured :
    ∃ y, Pool.Reach (changeFeedInTurn forexCdc) (pure ()) Feed.initial y ∧
      y.state.db.rows.map (fun r => (r.status, r.syncStatus)) = [(.tp1, "PUBLISHED")] ∧
      y.state.published.map (·.status) = [.opened, .tp1] ∧ y.state.Captured := by
  have hserve : ∀ i n, ∀ p : FeedWork Unit, ∀ s,
      Prog.Admitted ((changeFeedInTurn forexCdc).answers i) Feed.serve n p s := fun i =>
    Prog.admitted_of_forall fun o s => ⟨trivial, Feed.serve_answers o s⟩
  have hstart : Pool.Reach (changeFeedInTurn forexCdc) (pure ()) Feed.initial Feed.initial :=
    Relation.ReflTransGen.refl
  have hinsert := changeFeed_write hstart (.insert entryRow)
    ⟨⟨_, rfl⟩, .insert entryRow, fun h => h, rfl⟩
  have hpoll := (hinsert.start (i := .cdc) trivial ⟨rfl, rfl⟩).advance (i := .cdc) 3
    (hserve _ _ _ _)
  have htp1 := changeFeed_write hpoll (.update tp1Update)
    ⟨⟨_, rfl⟩, .update tp1Update, fun ⟨_, hc, _⟩ => List.not_mem_nil hc, rfl⟩
  have hpoll' := (htp1.start (i := .cdc) trivial ⟨rfl, rfl⟩).advance (i := .cdc) 3
    (hserve _ _ _ _)
  exact ⟨_, hpoll', by decide +kernel, by decide +kernel, changeFeedInTurn_captured hpoll'⟩

/-- The TP1 falls between the poll's read and its mark, in the second of the entry:
the row is marked published, and only the entry was. -/
theorem sameSecondUpdate_lost :
    ∃ y, Pool.Reach (changeFeed forexCdc) (pure ()) Feed.initial y ∧ ¬ y.state.Captured := by
  have hserve : ∀ i n, ∀ p : FeedWork Unit, ∀ s,
      Prog.Admitted ((changeFeed forexCdc).answers i) Feed.serve n p s := fun _ =>
    Prog.admitted_of_forall Feed.serve_answers
  have hstart : Pool.Reach (changeFeed forexCdc) (pure ()) Feed.initial Feed.initial :=
    Relation.ReflTransGen.refl
  have hinsert := changeFeed_write hstart (.insert entryRow) ⟨_, rfl⟩
  have hread := (hinsert.start (i := .cdc) trivial ⟨rfl, rfl⟩).advance (i := .cdc) 1
    (hserve _ _ _ _)
  have htp1 := changeFeed_write hread (.update tp1Update) ⟨_, rfl⟩
  have hmark := htp1.advance (i := .cdc) 2 (hserve _ _ _ _)
  obtain ⟨y, hy, hrow, hevent⟩ : ∃ y, Pool.Reach (changeFeed forexCdc) (pure ()) Feed.initial y ∧
      (∃ r ∈ y.state.db.rows, r.id = 1 ∧ r.status = .tp1 ∧ r.syncStatus = "PUBLISHED") ∧
      (y.state.lastEvent 1).map (·.status) = some .opened :=
    ⟨_, hmark, by decide +kernel, by decide +kernel⟩
  refine ⟨y, hy, fun h => ?_⟩
  obtain ⟨r, hr, hid, hstatus, hpub⟩ := hrow
  obtain ⟨e, hlast, hcarries⟩ := h r hr hpub
  rw [hid] at hlast
  rw [hlast] at hevent
  have hopened : e.status = .opened := by simpa using hevent
  have htp1 : e.status = .tp1 := hcarries.2.1.2.1.trans hstatus
  exact absurd (hopened.symm.trans htp1) (by decide)

end TradeWorker
