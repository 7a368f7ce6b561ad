import TradeWorker.RealizedSignals

/-!
# The realized total of a cycle

`_position_box` sums the profits of a cycle's closing events. Of one signal it is known when
they sum up to the closes behind them; of an ADMIN FLAT the same is said here, in terms of the
rows of the cycle and the keys they are matched by. Over a run in which it holds of every step
the total shown is the total of the closes.
-/

namespace TradeWorker

/-! ## ADMIN FLAT -/

def Row.inCycle (strategy signalUxid : String) (row : Row) : Bool :=
  decide (row.strategy = strategy ∧ row.signalUxid = some signalUxid)

def Row.openIn (strategy signalUxid : String) (row : Row) : Bool :=
  row.isActive && row.inCycle strategy signalUxid

theorem Row.isActive_of_matchesFlat {strategy symbol refId : Option String} {row : Row}
    (h : row.matchesFlat strategy symbol refId = true) : row.isActive = true := by
  simp only [Row.matchesFlat, Bool.and_eq_true] at h
  exact h.1.1.1

def Db.cycleRows (db : Db) (strategy signalUxid : String) : List Row :=
  db.rows.filter (·.openIn strategy signalUxid)

def closesUnder (keys : Row → List String) (rows : List Row) (cs : List (String × Option ℚ)) :
    List (String × Option ℚ) :=
  cs.filter fun c => rows.any fun row => decide (c.1 ∈ keys row)

section Sums

variable {keys : Row → List String} {rows : List Row} {cs : List (String × Option ℚ)}

@[simp] theorem closesUnder_nil : closesUnder keys [] cs = [] := by
  simp [closesUnder]

theorem closesUnder_singleton_eq_nil (h : closesUnder keys rows cs = []) {row : Row}
    (hrow : row ∈ rows) : closesUnder keys [row] cs = [] := by
  rw [closesUnder, List.filter_eq_nil_iff] at h ⊢
  intro c hc hkey
  refine h c hc (List.any_eq_true.mpr ⟨row, hrow, ?_⟩)
  simpa using hkey

/-- Where no key is of two rows, the closes under the rows are those under each. -/
theorem sumKnown_closesUnder_cons {row : Row}
    (hdisjoint : ∀ row' ∈ rows, List.Disjoint (keys row) (keys row')) :
    sumKnown ((closesUnder keys (row :: rows) cs).map (·.2)) =
      sumKnown ((closesUnder keys [row] cs).map (·.2)) +
        sumKnown ((closesUnder keys rows cs).map (·.2)) := by
  induction cs with
  | nil => simp [closesUnder]
  | cons c cs ih =>
      simp only [closesUnder, List.filter_cons, List.any_cons, List.any_nil, Bool.or_false] at ih ⊢
      by_cases hkey : c.1 ∈ keys row
      · have hrest : (rows.any fun row' => decide (c.1 ∈ keys row')) = false := by
          rw [List.any_eq_false]
          intro row' hrow' hkey'
          exact hdisjoint row' hrow' hkey (of_decide_eq_true hkey')
        simp [hkey, hrest, ih, add_assoc]
      · cases hrest : rows.any fun row' => decide (c.1 ∈ keys row') with
        | false => simp [hkey, ih]
        | true =>
            simp [hkey, ih]
            ring

theorem sumKnown_closesUnder
    (hdisjoint : rows.Pairwise fun row row' => List.Disjoint (keys row) (keys row')) :
    sumKnown ((closesUnder keys rows cs).map (·.2)) =
      (rows.map fun row => sumKnown ((closesUnder keys [row] cs).map (·.2))).sum := by
  induction rows with
  | nil => simp
  | cons row rest ih =>
      obtain ⟨hfirst, hrest⟩ := List.pairwise_cons.mp hdisjoint
      rw [sumKnown_closesUnder_cons hfirst, ih hrest]
      rfl

end Sums

/-! ### What a directive books -/

/-- The closes of a tally, under their keys. -/
def FlatTally.profits (tally : FlatTally) : List (String × Option ℚ) :=
  tally.closed.map fun c => (c.1, c.2.profit)

theorem logs_bookClose {β : Type} {B : Backend β} (key : String) (result : TradeResult)
    (w : World β) :
    Prog.Logs B.scribe (fun r log w' => r = .ok () ∧ w' = w ∧
        log = if result.success = true then [.closed key result.profit] else [])
      (bookClose key result) w := by
  unfold bookClose
  split
  · exact ⟨rfl, rfl, rfl⟩
  · exact ⟨rfl, rfl, rfl⟩

theorem logs_activeForFlat {β γ : Type} {B : Backend β} {w : World β} {f : List Row → Work γ}
    {Q : Except Exn γ → List Booking → World β → Prop} (strategy symbol refId : Option String) :
    Prog.Logs B.scribe Q (getOpenPositionsForFlat strategy symbol refId >>= f) w ↔
      Prog.Logs B.scribe Q (f (w.db.activeForFlat strategy symbol refId)) w := Iff.rfl

namespace AdminDesk

variable {Pos β : Type} {desk : AdminDesk Pos} {B : Backend β} {w : World β}
  {strategy signalUxid : String}

theorem closeSingle_logs (hdesk : desk.AtBroker) (pos : Pos) {db : Db} (hw : w.db = db) :
    Prog.Logs B.scribe (fun r log w' => Booking.Silent log ∧ w'.db = db ∧
        ∀ result, r = .ok result → Booking.closes log =
          if result.success = true then [(desk.flatMatchKey pos, result.profit)] else [])
      (desk.booked.closeSinglePosition pos "FLAT") w := by
  refine Prog.Logs.bind (logs_brokering (hdesk.closeSinglePosition pos "FLAT") hw) ?_ ?_
  · rintro result _ w' ⟨rfl, hdb⟩
    refine Prog.Logs.bind (logs_bookClose _ result w') ?_ fun e _ _ h => nomatch h.1
    rintro _ _ _ ⟨-, rfl, rfl⟩
    refine ⟨?_, hdb, ?_⟩
    · split
      · exact ⟨rfl, fun _ _ => rfl⟩
      · exact Booking.Silent.nil
    · rintro _ ⟨⟩
      split <;> rfl
  · rintro e _ w' ⟨rfl, hdb⟩
    exact ⟨Booking.Silent.nil, hdb, nofun⟩

/-- A directive's closes: the books hold them in the order they were made, the tally in the
opposite one. -/
theorem closeEach_logs (hdesk : desk.AtBroker) (positions : List Pos) (tally : FlatTally)
    {db : Db} (hw : w.db = db) :
    Prog.Logs B.scribe (fun r log w' => Booking.Silent log ∧ w'.db = db ∧
        ∀ tally', r = .ok tally' →
          tally'.profits = (Booking.closes log).reverse ++ tally.profits)
      (desk.booked.closeEach positions tally) w := by
  induction positions generalizing tally w with
  | nil => exact ⟨Booking.Silent.nil, hw, by rintro _ ⟨⟩; rfl⟩
  | cons pos rest ih =>
      refine Prog.Logs.bind (closeSingle_logs hdesk pos hw) ?_
        fun e log w' h => ⟨h.1, h.2.1, nofun⟩
      rintro result log w' ⟨hsilent, hdb, hcloses⟩
      refine Prog.Logs.mono (ih (tallyClose tally (desk.flatMatchKey pos) result) hdb) ?_
      rintro r log' w'' ⟨hsilent', hdb', htally⟩
      refine ⟨hsilent.append hsilent', hdb', fun tally' hr => ?_⟩
      rw [htally tally' hr, Booking.closes_append, hcloses result rfl, List.reverse_append,
        List.append_assoc]
      unfold FlatTally.profits tallyClose
      split <;> simp [*]

theorem closeLive_logs (hdesk : desk.AtBroker) (admin : AdminFlat) :
    Prog.Logs B.scribe (fun r log w' => Booking.Silent log ∧ w'.db = w.db ∧
        ∀ tally, r = .ok tally → tally.profits = (Booking.closes log).reverse)
      (desk.booked.closeLivePositionsForFlat admin) w := by
  have hfetch : Prog.Sends brokering (fun _ => True) (desk.fetchForFlat admin) := by
    unfold fetchForFlat
    split
    · exact hdesk.getOpenPositions ..
    · exact hdesk.getAllOpenPositions _
  have hnarrow : ∀ fetched, Prog.Sends brokering (fun _ => True)
      (desk.narrowByRef admin fetched) := by
    intro fetched
    unfold narrowByRef
    split
    · simp
    · exact Prog.Sends.bind (brokering_of_consulting (getOpenPositionsForFlat_consults ..))
        fun _ _ => by simp
  refine Prog.Logs.bind (logs_brokering hfetch rfl) ?_ ?_
  swap
  · rintro e _ w' ⟨rfl, hdb⟩
    exact ⟨Booking.Silent.nil, hdb, nofun⟩
  rintro fetched _ w' ⟨rfl, hdb⟩
  refine Prog.Logs.bind (logs_brokering (hnarrow fetched) hdb) ?_ ?_
  swap
  · rintro e _ w'' ⟨rfl, hdb'⟩
    exact ⟨Booking.Silent.nil, hdb', nofun⟩
  rintro positions _ w'' ⟨rfl, hdb'⟩
  refine Prog.Logs.mono (closeEach_logs hdesk positions {} hdb') fun r log w₃ h => ?_
  refine ⟨h.1, h.2.1, fun tally hr => ?_⟩
  rw [h.2.2 tally hr]
  exact List.append_nil _

def rowAdds (desk : AdminDesk Pos) (strategy signalUxid : String) (tally : FlatTally)
    (row : Row) : ℚ :=
  if row.inCycle strategy signalUxid then
    ((desk.matchedClose tally row).bind (·.profit)).getD 0
  else 0

/-- A row of the cycle whose close succeeded adds that close, once the report of it is sent. -/
theorem settleRow_logs (hB : B.RecordsCycle strategy signalUxid) (tally : FlatTally)
    (raw : String) (row : Row) :
    Prog.Logs B.scribe (fun r log _ => Booking.closes log = [] ∧
        recordedProfit strategy signalUxid log =
          if r.isOk then desk.rowAdds strategy signalUxid tally row else 0)
      (desk.settleRow tally raw row) w := by
  cases hmatched : desk.matchedClose tally row with
  | none =>
      have hunwritten : Prog.Sends unwritten (fun _ => True) (desk.settleRow tally raw row) := by
        unfold settleRow
        rw [hmatched]
        dsimp only
        split
        · exact Prog.Sends.bind (Prog.Sends.tryCatch (unwritten_perform rfl) fun _ => by simp)
            fun _ _ => unwritten_perform rfl
        · simp
      refine Prog.Logs.mono (logs_unwritten hunwritten w) ?_
      rintro r _ w' rfl
      have hadds : desk.rowAdds strategy signalUxid tally row = 0 := by
        simp [rowAdds, hmatched]
      rw [hadds, ite_self]
      exact ⟨rfl, rfl⟩
  | some result =>
      cases hcycle : row.inCycle strategy signalUxid with
      | false =>
          have hadds : desk.rowAdds strategy signalUxid tally row = 0 := by
            simp [rowAdds, hcycle]
          have hkey : ¬ (row.strategy = strategy ∧ row.signalUxid = some signalUxid) :=
            of_decide_eq_false hcycle
          have hnone : Prog.Sends (recordingNone strategy signalUxid) (fun _ => True)
              (desk.settleRow tally raw row) := by
            unfold settleRow
            rw [hmatched]
            refine Prog.Sends.bind (logPosition_recordingNone ..) fun _ _ => ?_
            refine Prog.Sends.bind (recordingNone_perform rfl rfl) fun _ _ => ?_
            refine Prog.Sends.bind (recordingNone_perform rfl rfl) fun now _ => ?_
            refine Prog.Sends.bind (recordingNone_perform rfl ?_) fun owned _ => ?_
            · simp [WorkerOp.recordsClose, hkey]
            · split
              · simp
              · exact recordingNone_perform rfl rfl
          refine Prog.Logs.mono (logs_uneventful hnone w) fun r log w' h => ?_
          rw [hadds, ite_self]
          exact ⟨h.1.closes, h.1.recorded⟩
      | true =>
          obtain ⟨hstrategy, huxid⟩ := of_decide_eq_true hcycle
          have hadds : desk.rowAdds strategy signalUxid tally row = result.profit.getD 0 := by
            simp [rowAdds, hcycle, hmatched]
          rw [hadds]
          unfold settleRow
          rw [hmatched]
          refine Prog.Logs.bind (logs_logPosition ..) ?_ ?_
          swap
          · rintro e _ _ ⟨⟨⟩, -⟩
          rintro _ _ w₁ ⟨-, rfl⟩
          refine Prog.Logs.bind (logs_call (.db (.updateStatus (flatClosed row result))) w₁) ?_ ?_
          swap
          · rintro e _ _ ⟨-, rfl, -⟩
            exact ⟨rfl, rfl⟩
          rintro _ _ w₂ ⟨-, rfl, -⟩
          refine Prog.Logs.bind (logs_call (.host .now) w₂) ?_ ?_
          swap
          · rintro e _ _ ⟨-, rfl, -⟩
            exact ⟨rfl, rfl⟩
          rintro now _ w₃ ⟨-, rfl, -⟩
          rw [hstrategy, huxid]
          refine Prog.Logs.bind (logs_recordCycle hB ..) ?_ ?_
          swap
          · rintro e _ _ ⟨⟨⟩, -⟩
          rintro owned _ w₄ ⟨howned, rfl⟩
          obtain rfl := Except.ok.inj howned
          refine ⟨rfl, (recordedProfit_recorded ..).trans ?_⟩
          rw [if_pos ⟨⟨rfl, rfl⟩, rfl⟩]
          rfl

/-- The rows of the cycle among those settled add their closes, unless the loop raises. -/
theorem settleEach_logs (hB : B.RecordsCycle strategy signalUxid) (tally : FlatTally)
    (raw : String) (rows : List Row) :
    Prog.Logs B.scribe (fun r log _ => Booking.closes log = [] ∧
        (r.isOk = true → recordedProfit strategy signalUxid log =
          (rows.map (desk.rowAdds strategy signalUxid tally)).sum) ∧
        ((∀ row ∈ rows, desk.rowAdds strategy signalUxid tally row = 0) →
          recordedProfit strategy signalUxid log = 0))
      (desk.settleEach tally raw rows) w := by
  induction rows generalizing w with
  | nil => exact ⟨rfl, fun _ => rfl, fun _ => rfl⟩
  | cons row rest ih =>
      refine Prog.Logs.bind (settleRow_logs hB tally raw row) ?_ ?_
      · rintro _ log w' ⟨hcloses, hadds⟩
        replace hadds : recordedProfit strategy signalUxid log =
            desk.rowAdds strategy signalUxid tally row := hadds
        refine Prog.Logs.mono ih ?_
        rintro r log' w'' ⟨hcloses', hok, hnone⟩
        refine ⟨by simp [hcloses, hcloses'], fun hr => ?_, fun hzero => ?_⟩
        · rw [recordedProfit_append, hadds, hok hr, List.map_cons, List.sum_cons]
        · obtain ⟨hrow, hrest⟩ := List.forall_mem_cons.mp hzero
          rw [recordedProfit_append, hadds, hrow, hnone hrest, add_zero]
      · rintro e log w' ⟨hcloses, hadds⟩
        exact ⟨hcloses, nofun, fun _ => hadds⟩

/-! ### The rows and their closes -/

theorem mem_closed_of_lookup {closed : List (String × TradeResult)} {key : String}
    {result : TradeResult} (h : closed.lookup key = some result) : (key, result) ∈ closed := by
  obtain ⟨before, after, rfl, -⟩ := List.lookup_eq_some_iff.mp h
  simp

/-- A row with no close under its keys is matched to none. -/
theorem matchedClose_of_none {tally : FlatTally} {cs : List (String × Option ℚ)}
    (hcs : tally.profits = cs.reverse) {row : Row}
    (h : closesUnder desk.flatDbMatchKeys [row] cs = []) : desk.matchedClose tally row = none := by
  cases hmatched : desk.matchedClose tally row with
  | none => rfl
  | some result =>
      obtain ⟨key, hkey, hlookup⟩ := List.exists_of_findSome?_eq_some hmatched
      have hmem : (key, result.profit) ∈ cs := by
        rw [← List.mem_reverse, ← hcs]
        exact List.mem_map.mpr ⟨_, mem_closed_of_lookup hlookup, rfl⟩
      rw [closesUnder, List.filter_eq_nil_iff] at h
      exact absurd (by simpa using hkey) (h _ hmem)

/-- A row with at most one close under its keys is matched to it. -/
theorem matchedClose_of_le_one {tally : FlatTally} {cs : List (String × Option ℚ)}
    (hcs : tally.profits = cs.reverse) {row : Row}
    (h : (closesUnder desk.flatDbMatchKeys [row] cs).length ≤ 1) :
    ((desk.matchedClose tally row).bind (·.profit)).getD 0 =
      sumKnown ((closesUnder desk.flatDbMatchKeys [row] cs).map (·.2)) := by
  rcases hunder : closesUnder desk.flatDbMatchKeys [row] cs with _ | ⟨c, rest⟩
  · rw [matchedClose_of_none hcs hunder]
    rfl
  obtain rfl : rest = [] := by
    rw [hunder, List.length_cons] at h
    exact List.eq_nil_of_length_eq_zero (by omega)
  have hc : c ∈ closesUnder desk.flatDbMatchKeys [row] cs := by simp [hunder]
  obtain ⟨hmem, hkey⟩ := List.mem_filter.mp hc
  have hkey : c.1 ∈ desk.flatDbMatchKeys row := by simpa using hkey
  cases hmatched : desk.matchedClose tally row with
  | none =>
      have hlookup := List.findSome?_eq_none_iff.mp hmatched c.1 hkey
      have hclosed : c ∈ tally.profits := by
        rw [hcs]
        exact List.mem_reverse.mpr hmem
      obtain ⟨closed, hfiled, rfl⟩ := List.mem_map.mp hclosed
      exact absurd (List.lookup_eq_none_iff.mp hlookup closed hfiled) (by simp)
  | some result =>
      obtain ⟨key, hkey', hlookup⟩ := List.exists_of_findSome?_eq_some hmatched
      have hmem' : (key, result.profit) ∈ cs := by
        rw [← List.mem_reverse, ← hcs]
        exact List.mem_map.mpr ⟨_, mem_closed_of_lookup hlookup, rfl⟩
      have hone : (key, result.profit) ∈ closesUnder desk.flatDbMatchKeys [row] cs :=
        List.mem_filter.mpr ⟨hmem', by simpa using hkey'⟩
      rw [hunder, List.mem_singleton] at hone
      simp [← hone]

/-- The rows of the cycle that a directive fetches, in the order of the store. -/
theorem sum_rowAdds {tally : FlatTally} (db : Db) (admin : AdminFlat)
    (hfetched : ∀ row ∈ db.cycleRows strategy signalUxid,
      row.matchesFlat admin.strategy admin.symbol admin.refId = true) :
    ((db.activeForFlat admin.strategy admin.symbol admin.refId).map
        (desk.rowAdds strategy signalUxid tally)).sum =
      ((db.cycleRows strategy signalUxid).map fun row =>
        ((desk.matchedClose tally row).bind (·.profit)).getD 0).sum := by
  unfold Db.activeForFlat Db.cycleRows at *
  generalize db.rows = rows at hfetched
  induction rows with
  | nil => rfl
  | cons row rest ih =>
      have hrest := ih fun row' hrow' => hfetched row' (by
        rw [List.filter_cons]
        split
        · exact List.mem_cons_of_mem _ hrow'
        · exact hrow')
      cases hmine : row.openIn strategy signalUxid with
      | true =>
          have hmatches := hfetched row (List.mem_filter.mpr ⟨List.mem_cons_self, hmine⟩)
          rw [List.filter_cons_of_pos hmatches, List.filter_cons_of_pos hmine, List.map_cons,
            List.map_cons, List.sum_cons, List.sum_cons, hrest, rowAdds,
            if_pos (Bool.and_eq_true_iff.mp hmine).2]
      | false =>
          have hskip : (row :: rest).filter (·.openIn strategy signalUxid) =
              rest.filter (·.openIn strategy signalUxid) :=
            List.filter_cons_of_neg (by simp [hmine])
          rw [hskip, ← hrest, List.filter_cons]
          split
          · rename_i hmatches
            have hactive := Row.isActive_of_matchesFlat hmatches
            have hother : row.inCycle strategy signalUxid = false := by
              simpa [Row.openIn, hactive] using hmine
            rw [List.map_cons, List.sum_cons, rowAdds, if_neg (by simp [hother]), zero_add]
          · rfl

/-! ### A fair directive -/

/-- When a directive's events for the cycle sum up to its closes of the cycle's positions:
there were none; or it came to its end, over rows of the cycle that it all fetched, of which
no two share a key and none has two closes under its keys. -/
def FairFlat (keys : Row → List String) (strategy signalUxid : String) (db : Db)
    (admin : AdminFlat) (r : Except Exn Unit) (log : List Booking) : Prop :=
  closesUnder keys (db.cycleRows strategy signalUxid) (Booking.closes log) = [] ∨
    r.isOk = true ∧
      (∀ row ∈ db.cycleRows strategy signalUxid,
        row.matchesFlat admin.strategy admin.symbol admin.refId = true ∧
        (closesUnder keys [row] (Booking.closes log)).length ≤ 1) ∧
      (db.cycleRows strategy signalUxid).Pairwise fun row row' =>
        List.Disjoint (keys row) (keys row')

theorem handleAdminFlat_fair (hdesk : desk.AtBroker) (hB : B.RecordsCycle strategy signalUxid)
    (admin : AdminFlat) (isPrivate : Bool) (raw : String) :
    Prog.Logs B.scribe (fun r log _ =>
        FairFlat desk.flatDbMatchKeys strategy signalUxid w.db admin r log →
        recordedProfit strategy signalUxid log = sumKnown ((closesUnder desk.flatDbMatchKeys
          (w.db.cycleRows strategy signalUxid) (Booking.closes log)).map (·.2)))
      (desk.booked.handleAdminFlat admin isPrivate raw) w := by
  unfold handleAdminFlat
  split
  swap
  · exact fun _ => rfl
  refine Prog.Logs.bind (closeLive_logs hdesk admin) ?_ ?_
  · rintro tally log w₁ ⟨hsilent, hdb, htally⟩
    rw [reconcileFlatDb_booked, reconcileFlatDb, logs_activeForFlat, hdb]
    have hnone : recordedProfit strategy signalUxid log = 0 := by
      rw [recordedProfit, hsilent.events]
      rfl
    -- without a close under its keys a row is matched to none
    have hidle : closesUnder desk.flatDbMatchKeys (w.db.cycleRows strategy signalUxid)
        (Booking.closes log) = [] → ∀ row ∈ w.db.activeForFlat admin.strategy admin.symbol
          admin.refId, desk.rowAdds strategy signalUxid tally row = 0 := by
      intro hunder row hrow
      obtain ⟨hmem, hmatches⟩ := List.mem_filter.mp hrow
      unfold rowAdds
      split
      · rename_i hcycle
        have hopen : row ∈ w.db.cycleRows strategy signalUxid :=
          List.mem_filter.mpr ⟨hmem, Bool.and_eq_true_iff.mpr
            ⟨Row.isActive_of_matchesFlat hmatches, hcycle⟩⟩
        rw [matchedClose_of_none (htally tally rfl) (closesUnder_singleton_eq_nil hunder hopen)]
        rfl
      · rfl
    refine Prog.Logs.bind (R := fun _ log (_ : World β) => Uneventful strategy signalUxid log)
      ?_ ?_ ?_
    · exact Prog.Logs.mono (logs_uneventful (α := HostOp.Ans .currentFooter)
        (recordingNone_perform (o := .host .currentFooter) rfl rfl) w₁) fun _ _ _ h => h.1
    · rintro _ log' w₂ hfooter
      refine Prog.Logs.mono (settleEach_logs hB tally raw _) ?_
      rintro r log'' w₃ ⟨hcloses, hok, hzero⟩
      have hall : Booking.closes (log ++ (log' ++ log'')) = Booking.closes log := by
        simp [hfooter.closes, hcloses]
      have hadds : recordedProfit strategy signalUxid (log ++ (log' ++ log'')) =
          recordedProfit strategy signalUxid log'' := by
        simp [hnone, hfooter.recorded]
      rw [hall, hadds]
      rintro (hunder | ⟨hr, hrows, hdisjoint⟩)
      · rw [hall] at hunder
        rw [hunder, hzero (hidle hunder)]
        rfl
      · rw [hall] at hrows
        rw [hok hr, sum_rowAdds w.db admin fun row hrow => (hrows row hrow).1,
          sumKnown_closesUnder hdisjoint]
        refine congrArg List.sum (List.map_congr_left fun row hrow => ?_)
        exact matchedClose_of_le_one (htally tally rfl) (hrows row hrow).2
    · rintro e log' w₂ hfooter (hunder | ⟨hr, -⟩)
      · rw [recordedProfit_append, hnone, hfooter.recorded, hunder, add_zero]
        rfl
      · cases hr
  · rintro e log w₁ ⟨hsilent, -, -⟩ hfair
    have hnone : recordedProfit strategy signalUxid log = 0 := by
      rw [recordedProfit, hsilent.events]
      rfl
    rcases hfair with hunder | ⟨hr, -⟩
    · rw [hnone, hunder]
      rfl
    · cases hr

end AdminDesk

def Market.flatDbMatchKeys : Market → Row → List String
  | .forex ex => (forexDesk ex "" "").flatDbMatchKeys
  | .crypto ex => (cryptoDesk ex "" "").flatDbMatchKeys

/-! ## Runs -/

/-- What the worker does that closes positions or records events in cycles. -/
inductive TradeOp where
  | signal (s : Signal)
  | adminFlat (gateway accountId : String) (admin : AdminFlat) (isPrivate : Bool) (raw : String)

namespace TradeOp

variable (m : Market) (settings : WorkerSettings)

def program : TradeOp → Work Unit
  | .signal s => (m.processor settings).processMessage s
  | .adminFlat gateway accountId admin isPrivate raw =>
      m.handleAdminFlat gateway accountId admin isPrivate raw

/-- The program with its closes written down. -/
def booked : TradeOp → Work Unit
  | .signal s => (m.bookedProcessor settings).processMessage s
  | .adminFlat gateway accountId admin isPrivate raw =>
      m.bookedAdminFlat gateway accountId admin isPrivate raw

theorem erase_booked (op : TradeOp) :
    Prog.erase bookings (op.booked m settings) = op.program m settings := by
  cases op with
  | signal s => exact erase_processMessage m settings s
  | adminFlat => exact erase_handleAdminFlat ..

variable {β : Type} (B : Backend β)

/-- The operation at a world: its outcome, the world it leaves, its books. -/
def play (op : TradeOp) (w : World β) : (Except Exn Unit × World β) × List Booking :=
  Prog.written B.scribe (op.booked m settings) w

/-- Writing the closes down changes nothing else. -/
theorem play_fst (op : TradeOp) (w : World β) :
    (op.play m settings B w).1 = Prog.run B.serve (op.program m settings) w := by
  rw [play, Prog.written_erase (scribe_scribes B), erase_booked]

variable (strategy signalUxid : String)

/-- The profits of the single closes an operation makes for the cycle: all a signal of the
cycle closes, and what a directive closes under the keys of the cycle's open rows. -/
def closesFor (db : Db) (log : List Booking) : TradeOp → List (Option ℚ)
  | .signal s =>
      if s.strategy = strategy ∧ s.signalUxid = some signalUxid then Booking.profits log else []
  | .adminFlat .. =>
      (closesUnder m.flatDbMatchKeys (db.cycleRows strategy signalUxid)
        (Booking.closes log)).map (·.2)

/-- A directive, or a signal of the cycle, whose events for the cycle sum up to its closes. -/
def Fair (op : TradeOp) (w : World β) : Prop :=
  match op with
  | .signal s => s.strategy = strategy → s.signalUxid = some signalUxid →
      FairSignal m w s (play m settings B (.signal s) w).1.1 (play m settings B (.signal s) w).2
  | .adminFlat gateway accountId admin isPrivate raw =>
      AdminDesk.FairFlat m.flatDbMatchKeys strategy signalUxid w.db admin
        (play m settings B (.adminFlat gateway accountId admin isPrivate raw) w).1.1
        (play m settings B (.adminFlat gateway accountId admin isPrivate raw) w).2

variable {m settings B strategy signalUxid}

/-- A fair operation adds to the shown total what it closes for the cycle. -/
theorem recordedProfit_of_fair (hplain : B.ReportsPlainly)
    (hB : B.RecordsCycle strategy signalUxid) {op : TradeOp} {w : World β}
    (h : op.Fair m settings B strategy signalUxid w) :
    recordedProfit strategy signalUxid (op.play m settings B w).2 =
      sumKnown (op.closesFor m strategy signalUxid w.db (op.play m settings B w).2) := by
  cases op with
  | signal s =>
      rw [closesFor]
      by_cases hkey : s.strategy = strategy ∧ s.signalUxid = some signalUxid
      · rw [if_pos hkey]
        exact (processMessage_fair m settings hplain hkey.1 hkey.2 hB).mpr (h hkey.1 hkey.2)
      · rw [if_neg hkey]
        exact processMessage_other m settings hplain fun hs hu => hkey ⟨hs, hu⟩
  | adminFlat gateway accountId admin isPrivate raw =>
      cases m with
      | forex ex => exact AdminDesk.handleAdminFlat_fair (forexDesk_atBroker ..) hB admin _ _ h
      | crypto ex => exact AdminDesk.handleAdminFlat_fair (cryptoDesk_atBroker ..) hB admin _ _ h

end TradeOp

/-- A run of operations; between them others may leave the store and the broker as they
like. -/
inductive TradeStep (β : Type) where
  | op (op : TradeOp)
  | others (w : World β)

section Run

variable (m : Market) (settings : WorkerSettings) {β : Type} (B : Backend β)
  (strategy signalUxid : String)

/-- `P` holds of every operation of a run, where it happens. -/
def AtEachOp (P : TradeOp → World β → Prop) : World β → List (TradeStep β) → Prop
  | _, [] => True
  | w, .op op :: rest =>
      P op w ∧ AtEachOp P (Prog.run B.serve (op.program m settings) w).2 rest
  | _, .others w :: rest => AtEachOp P w rest

/-- The events of the cycle after a run. -/
def eventsAfter : World β → List (TradeStep β) → List CycleEvent
  | _, [] => []
  | w, .op op :: rest =>
      Booking.eventsOf strategy signalUxid (op.play m settings B w).2 ++
        eventsAfter (Prog.run B.serve (op.program m settings) w).2 rest
  | _, .others w :: rest => eventsAfter w rest

/-- The profits of the single closes made for the cycle in a run. -/
def closesAfter : World β → List (TradeStep β) → List (Option ℚ)
  | _, [] => []
  | w, .op op :: rest =>
      op.closesFor m strategy signalUxid w.db (op.play m settings B w).2 ++
        closesAfter (Prog.run B.serve (op.program m settings) w).2 rest
  | _, .others w :: rest => closesAfter w rest

variable {m settings B strategy signalUxid}

/-- Over a run of fair operations the realized total the position box shows is the sum of what
the single closes reported. -/
theorem fairRun_realizedTotal (hplain : B.ReportsPlainly)
    (hB : B.RecordsCycle strategy signalUxid) {steps : List (TradeStep β)} {w : World β}
    (h : AtEachOp m settings B (TradeOp.Fair m settings B strategy signalUxid) w steps) :
    (realizedTotal (eventsAfter m settings B strategy signalUxid w steps)).getD 0 =
      sumKnown (closesAfter m settings B strategy signalUxid w steps) := by
  rw [getD_realizedTotal]
  induction steps generalizing w with
  | nil => rfl
  | cons step rest ih =>
      cases step with
      | others w' => exact ih h
      | op op =>
          have hop := TradeOp.recordedProfit_of_fair hplain hB h.1
          rw [eventsAfter, closesAfter, sumKnown_append, ← ih h.2, ← hop]
          simp [closingProfits, recordedProfit]

end Run

/-! ## A TP1 and what it closes -/

/-- An account whose first close books 10 and whose later ones lose 4. -/
def bookingAccount (movesStops : Bool) : ForexAccount where
  resolve := id
  close n := .ok {
    success := true, ticket := some "102", price := some 2410, volume := some (1 / 2)
    profit := some (if n = 0 then 10 else -4) }
  other
    | .getSymbolSpec _ => .ok none
    | .modifySl .. => .ok { success := movesStops, comment := "invalid stops" }
    | _ => .error (.gateway "not asked")
  host := HostOp.quiet

theorem bookingAccount_reportsPlainly (movesStops : Bool) :
    (bookingAccount movesStops).backend.ReportsPlainly := by
  intro o w
  cases o with
  | db | host => trivial
  | cx o => cases o <;> first | trivial | exact fun _ h => (nomatch h)
  | fx o =>
      cases o with
      | closePosition =>
          rintro _ ⟨⟩
          exact ⟨rfl, rfl⟩
      | placeOrder => exact fun _ h => (nomatch h)
      | _ => trivial

/-- One lot of GOLD, tracked under the uxid `a` and live on the account. -/
def signalLot : World ForexBook where
  db := { rows := [goldRow 1 "101" "a"], oneActive := by decide }
  rest := { positions := [goldPosition 101], distinct := List.nodup_singleton 101 }

def lotExecutor : ForexExecutor := { config := {}, strategyMagicMap := [("GOLD", 7)] }

/-- Half of the lot is closed, and its stop moved to the entry price. -/
def tp1OfLot : Signal :=
  { strategy := "GOLD", timestamp := 0, action := .tp1, symbol := "XAUUSD"
    signalUxid := some "a", tp1Percent := some 50, moveSlToBe := some true }

def tp2OfLot : Signal := { tp1OfLot with action := .tp2 }

/-- Where the stop is moved, both closes are shown. -/
theorem tp1AndTp2_realizedTotal :
    (realizedTotal (eventsAfter (.forex lotExecutor) {} (bookingAccount true).backend "GOLD" "a"
      signalLot [.op (.signal tp1OfLot), .op (.signal tp2OfLot)])).getD 0 =
    sumKnown (closesAfter (.forex lotExecutor) {} (bookingAccount true).backend "GOLD" "a"
      signalLot [.op (.signal tp1OfLot), .op (.signal tp2OfLot)]) := by
  refine fairRun_realizedTotal (bookingAccount_reportsPlainly true) (fun _ _ _ _ => rfl)
    ⟨fun _ _ => ?_, fun _ _ => ?_, trivial⟩
  · unfold FairSignal
    decide +kernel
  · unfold FairSignal
    decide +kernel

/-- Where it is not, the emergency close is left out: 10 is shown, and 6 was booked. -/
theorem tp1Failsafe_realizedTotal :
    (realizedTotal (eventsAfter (.forex lotExecutor) {} (bookingAccount false).backend "GOLD" "a"
      signalLot [.op (.signal tp1OfLot)])).getD 0 ≠
    sumKnown (closesAfter (.forex lotExecutor) {} (bookingAccount false).backend "GOLD" "a"
      signalLot [.op (.signal tp1OfLot)]) := by
  decide +kernel

end TradeWorker
