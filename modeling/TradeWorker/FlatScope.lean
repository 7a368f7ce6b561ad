import TradeWorker.FlatDesks
import TradeWorker.FullClose

/-!
# What an ADMIN FLAT closes and what it marks

Two questions about the pass. Does it mark a row whose position is still live? And
does it close the positions of the rows it was meant for, spare the others', and
mark the rows of what it closed? The live side and the rows are filtered apart, the
one by instrument and magic, the other by the text of the columns, and each question
comes down to the two filters agreeing.
-/

namespace TradeWorker

namespace FlatBroker

variable {Pos β : Type} [DecidableEq Pos] (F : FlatBroker Pos β)

/-! ## Marking only what is gone -/

/-- Every row the directive newly marks `FLATTED` stands for no position that is
still live. -/
def MarksOnlyGone (w : World β) (admin : AdminFlat) (isPrivate : Bool) (raw : String) : Prop :=
  ∀ out w', Prog.run F.backend.serve (F.desk.handleAdminFlat admin isPrivate raw) w = (out, w') →
    ∀ (i : Nat) (row row' : Row), w.db.rows[i]? = some row → w'.db.rows[i]? = some row' →
      row.status ≠ .flatted → row'.status = .flatted →
      ∀ p ∈ F.live w'.rest, ¬ F.Tracks row p

/-- The row is left as it is: some of its positions were targets, and the close of
each of these failed. -/
def LeavesOpen (w : World β) (admin : AdminFlat) (row : Row) : Prop :=
  (∃ p ∈ F.targets w admin, F.Tracks row p) ∧
    ∀ p ∈ F.targets w admin, F.Tracks row p → p ∉ F.closed w admin

/-- Every live position that a row of the reference stands for was a target, and its
close succeeded. -/
def ClosesAll (w : World β) (admin : AdminFlat) (ref : String) : Prop :=
  ∀ row ∈ w.db.rows, row.refSourceId = ref → row.status ≠ .flatted →
    ∀ p ∈ F.live w.rest, F.Tracks row p → p ∈ F.closed w admin

theorem not_settles_iff {w : World β} {admin : AdminFlat} {row : Row} :
    ¬ F.Settles w admin row ↔ F.LeavesOpen w admin row := by
  unfold Settles LeavesOpen
  push Not
  constructor
  · rintro ⟨hclosed, htarget⟩
    exact ⟨htarget, fun p _ htracks hp => hclosed p hp htracks⟩
  · rintro ⟨htarget, hclosed⟩
    exact ⟨fun p hp htracks => hclosed p (F.closed_subset_targets hp) htracks hp, htarget⟩

/-- Every row the query selects is left open, or every position of its reference is
closed; a directive for another worker, or a close pass that ends in an exception,
marks nothing. -/
def SelectsGone (w : World β) (admin : AdminFlat) (isPrivate : Bool) : Prop :=
  F.desk.flatTargetsThisWorker admin isPrivate = true → F.fault w admin = none →
    ∀ row ∈ selected w admin, F.LeavesOpen w admin row ∨ F.ClosesAll w admin row.refSourceId

theorem marksOnlyGone_iff (w : World β) (admin : AdminFlat) (isPrivate : Bool)
    (raw : String) :
    F.MarksOnlyGone w admin isPrivate raw ↔ F.SelectsGone w admin isPrivate := by
  obtain ⟨w', out, hrun, htargeted, hother⟩ := F.handleAdminFlat_run w admin isPrivate raw
  constructor
  · intro h htarget hfault row hrow
    have hpass := htargeted htarget
    by_cases hsettles : F.Settles w admin row
    · refine Or.inr ?_
      intro other hmem href hstatus p hp htracks
      obtain ⟨i, hi⟩ := List.getElem?_of_mem hmem
      have hbound : i < w'.db.rows.length := by
        rw [hpass.length]
        exact (List.getElem?_eq_some_iff.mp hi).1
      obtain ⟨other', hi'⟩ : ∃ other', w'.db.rows[i]? = some other' :=
        ⟨_, List.getElem?_eq_getElem hbound⟩
      have hmarked : other'.status = .flatted :=
        (hpass.flatted i other other' hi hi').mpr (Or.inr ⟨hfault, row, hrow, href.symm, hsettles⟩)
      by_contra hopen
      refine h out w' hrun i other other' hi hi' hstatus hmarked p ?_ htracks
      rw [hpass.live]
      simp [hp, hopen]
    · exact Or.inl (F.not_settles_iff.mp hsettles)
  · intro h out' w'' hrun' i row row' hi hi' hstatus hmarked p hp htracks
    cases hrun.symm.trans hrun'
    cases htarget : F.desk.flatTargetsThisWorker admin isPrivate with
    | false =>
        rw [hother htarget] at hi'
        cases hi.symm.trans hi'
        exact hstatus hmarked
    | true =>
        have hpass := htargeted htarget
        rcases (hpass.flatted i row row' hi hi').mp hmarked with
          hwas | ⟨hfault, r, hr, href, hsettles⟩
        · exact hstatus hwas
        · rw [hpass.live] at hp
          obtain ⟨hlive, hopen⟩ := List.mem_filter.mp hp
          rcases h htarget hfault r hr with hleft | hall
          · exact F.not_settles_iff.mpr hleft hsettles
          · exact of_decide_eq_true hopen
              (hall row (List.mem_of_getElem? hi) href.symm hstatus p hlive htracks)

/-! ## Closing the directive's scope -/

/-- The row is in the directive's scope, with symbols compared as instruments. -/
def InScope (admin : AdminFlat) (row : Row) : Prop :=
  row.isActive = true ∧ (∀ s, text? admin.strategy = some s → row.strategy = s) ∧
    (∀ s, text? admin.symbol = some s → F.instrument row.symbol = F.instrument s) ∧
    ∀ r, text? admin.refId = some r → row.refId = r

/-- An active row stands for the position. -/
def Tracked (w : World β) (p : Pos) : Prop :=
  ∃ row ∈ w.db.rows, row.isActive = true ∧ F.Tracks row p

/-- A row in scope stands for the position. -/
def Wanted (w : World β) (admin : AdminFlat) (p : Pos) : Prop :=
  ∃ row ∈ w.db.rows, F.InScope admin row ∧ F.Tracks row p

/-- The directive closes its scope: every position a row in scope stands for is sent
a close, no position that only rows out of scope stand for is, and a position that is
gone has all its active rows marked. -/
structure ClosesScope (w w' : World β) (admin : AdminFlat) : Prop where
  closes : ∀ p ∈ F.live w.rest, F.Wanted w admin p →
    p ∈ (F.asked w'.rest).drop (F.asked w.rest).length
  spares : ∀ p ∈ F.live w.rest, F.Tracked w p → ¬ F.Wanted w admin p →
    p ∉ (F.asked w'.rest).drop (F.asked w.rest).length
  marks : ∀ p ∈ F.live w.rest, p ∉ F.live w'.rest →
    ∀ (i : Nat) (row row' : Row), w.db.rows[i]? = some row → w'.db.rows[i]? = some row' →
      row.isActive = true → F.Tracks row p → row'.status = .flatted

/-- The executor's selection and the query's agree on the state before the pass. `tried` is
what the executor lists, up to the first close that raises, and `Wanted` goes by the rows;
`Marks` is the query's selection by reference, settled by what the executor listed. The two
markets list by different rules, `forex_mem_targets_iff` and `crypto_mem_targets_iff`. -/
structure SelectionsAgree (w : World β) (admin : AdminFlat) : Prop where
  picks : ∀ p ∈ F.live w.rest, F.Tracked w p → (p ∈ F.tried w admin ↔ F.Wanted w admin p)
  finds : ∀ p ∈ F.closed w admin, ∀ row ∈ w.db.rows, row.isActive = true → F.Tracks row p →
    F.Marks w admin row.refSourceId

theorem Wanted.tracked {w : World β} {admin : AdminFlat} {p : Pos}
    (h : F.Wanted w admin p) : F.Tracked w p := by
  obtain ⟨row, hrow, hscope, htracks⟩ := h
  exact ⟨row, hrow, hscope.1, htracks⟩

/-- A directive for this worker closes its scope. -/
def KeepsToScope (w : World β) (admin : AdminFlat) (isPrivate : Bool) (raw : String) : Prop :=
  F.desk.flatTargetsThisWorker admin isPrivate = true →
    ∀ out w', Prog.run F.backend.serve (F.desk.handleAdminFlat admin isPrivate raw) w =
      (out, w') → F.ClosesScope w w' admin

theorem keepsToScope_iff (w : World β) (admin : AdminFlat) (isPrivate : Bool)
    (raw : String) :
    F.KeepsToScope w admin isPrivate raw ↔
      (F.desk.flatTargetsThisWorker admin isPrivate = true → F.SelectionsAgree w admin) := by
  obtain ⟨w', out, hrun, htargeted, -⟩ := F.handleAdminFlat_run w admin isPrivate raw
  refine imp_congr_right fun htarget => ?_
  have hpass := htargeted htarget
  have hasks : (F.asked w'.rest).drop (F.asked w.rest).length = F.tried w admin := by
    rw [hpass.asked, List.drop_left]
  constructor
  · intro h
    have hscope := h out w' hrun
    constructor
    · intro p hp htracked
      constructor
      · intro htried
        by_contra hunwanted
        refine hscope.spares p hp htracked hunwanted ?_
        rwa [hasks]
      · intro hwanted
        rw [← hasks]
        exact hscope.closes p hp hwanted
    · intro p hp row hrow hactive htracks
      obtain ⟨i, hi⟩ := List.getElem?_of_mem hrow
      have hbound : i < w'.db.rows.length := by
        rw [hpass.length]
        exact (List.getElem?_eq_some_iff.mp hi).1
      obtain ⟨row', hi'⟩ : ∃ row', w'.db.rows[i]? = some row' :=
        ⟨_, List.getElem?_eq_getElem hbound⟩
      have hlive := F.tried_subset_live (F.closed_subset_tried hp)
      have hgone : p ∉ F.live w'.rest := by
        rw [hpass.live]
        simp [hp]
      have hmarked := hscope.marks p hlive hgone i row row' hi hi' hactive htracks
      rcases (hpass.flatted i row row' hi hi').mp hmarked with hwas | hmarks
      · rw [Row.isActive, hwas] at hactive
        cases hactive
      · exact hmarks
  · intro h out' w'' hrun'
    cases hrun.symm.trans hrun'
    constructor
    · intro p hp hwanted
      rw [hasks]
      exact (h.picks p hp (Wanted.tracked F hwanted)).mpr hwanted
    · intro p hp htracked hunwanted htried
      rw [hasks] at htried
      exact hunwanted ((h.picks p hp htracked).mp htried)
    · intro p hp hgone i row row' hi hi' hactive htracks
      have hclosed : p ∈ F.closed w admin := by
        by_contra hopen
        refine hgone ?_
        rw [hpass.live]
        simp [hp, hopen]
      exact (hpass.flatted i row row' hi hi').mpr
        (Or.inr (h.finds p hclosed row (List.mem_of_getElem? hi) hactive htracks))

end FlatBroker

/-! ## What the two markets list -/

section Markets

variable (shows : Nat → Except Exn Bool) (gateway accountId : String)

/-- On forex the listed positions are those on the resolved symbol under the strategy's magic;
without a strategy, those under any magic that is the worker's. -/
theorem forex_mem_targets_iff (ex : ForexExecutor) (acct : ForexAccount)
    {w : World (Desk ForexBook PlatformPosition)} (hread : shows w.rest.reads = .ok true)
    (admin : AdminFlat) (p : PlatformPosition) :
    p ∈ (forexFlat ex acct shows gateway accountId).targets w admin ↔
      p ∈ w.rest.book.positions ∧
        (∀ s, text? admin.symbol = some s → p.symbol = acct.resolve s) ∧
        (admin.strategy = none → p.magic ∈ ex.ownedMagics) ∧
        (admin.strategy ≠ none → ex.magicFor admin.strategy = .ok p.magic) ∧
        ∀ ref, text? admin.refId = some ref →
          ∃ row ∈ FlatBroker.selected w admin,
            (forexFlat ex acct shows gateway accountId).Tracks row p := by
  have hfetched : (∃ ps, (forexFlat ex acct shows gateway accountId).fetched w.rest admin = .ok ps ∧
        p ∈ ps) ↔ p ∈ w.rest.book.positions ∧
      (∀ s, text? admin.symbol = some s → p.symbol = acct.resolve s) ∧
      (admin.strategy = none → p.magic ∈ ex.ownedMagics) ∧
      (admin.strategy ≠ none → ex.magicFor admin.strategy = .ok p.magic) := by
    simp only [forexFlat, forexFetched, reported, hread, Except.map, if_true]
    show (∃ ps, ex.scope admin.strategy (w.rest.book.positions.filter _) = .ok ps ∧ p ∈ ps) ↔ _
    cases admin.strategy with
    | none =>
        simp only [ForexExecutor.scope, Except.ok.injEq, exists_eq_left', List.mem_filter]
        simp only [Option.all_eq_true, decide_eq_true_eq]
        tauto
    | some strategy =>
        rcases hmagic : ex.magicFor (some strategy) with e | magic
        · simp [ForexExecutor.scope, hmagic, Except.map]
        · simp only [ForexExecutor.scope, hmagic, Except.map, Except.ok.injEq, exists_eq_left',
            List.mem_filter]
          simp only [Option.all_eq_true, decide_eq_true_eq, eq_comm (a := magic)]
          tauto
  rw [FlatBroker.mem_targets_iff, hfetched]
  simp only [and_assoc]

/-- On crypto they are those on the resolved symbol, whatever the strategy. -/
theorem crypto_mem_targets_iff (ex : CryptoExecutor) (acct : ExchangeAccount)
    {w : World (Desk ExchangeBook ExchangePosition)} (hread : shows w.rest.reads = .ok true)
    (admin : AdminFlat) (p : ExchangePosition) :
    p ∈ (cryptoFlat ex acct shows gateway accountId).targets w admin ↔
      p ∈ w.rest.book.positions ∧ 0 < p.volume ∧
        (∀ s, text? admin.symbol = some s → p.symbol = ex.getSymbol s) ∧
        ∀ ref, text? admin.refId = some ref →
          ∃ row ∈ FlatBroker.selected w admin,
            (cryptoFlat ex acct shows gateway accountId).Tracks row p := by
  have hfetched : (∃ ps, (cryptoFlat ex acct shows gateway accountId).fetched w.rest admin =
        .ok ps ∧ p ∈ ps) ↔ p ∈ w.rest.book.positions ∧ 0 < p.volume ∧
      ∀ s, text? admin.symbol = some s → p.symbol = ex.getSymbol s := by
    simp only [cryptoFlat, cryptoFetched, reported, hread, Except.map, if_true]
    simp [Option.all_eq_true, and_comm]
  rw [FlatBroker.mem_targets_iff, hfetched]
  simp only [and_assoc]

/-- An ADMIN FLAT marks only rows whose positions are gone exactly when it leaves open,
or closes all of, what its query selects. -/
theorem adminFlat_marksOnlyGone_iff (admin : AdminFlat) (isPrivate : Bool) (raw : String) :
    (∀ (ex : ForexExecutor) (acct : ForexAccount) w,
      (forexFlat ex acct shows gateway accountId).MarksOnlyGone w admin isPrivate raw ↔
        (forexFlat ex acct shows gateway accountId).SelectsGone w admin isPrivate) ∧
    (∀ (ex : CryptoExecutor) (acct : ExchangeAccount) w,
      (cryptoFlat ex acct shows gateway accountId).MarksOnlyGone w admin isPrivate raw ↔
        (cryptoFlat ex acct shows gateway accountId).SelectsGone w admin isPrivate) := by
  constructor
  · intro ex acct w
    exact FlatBroker.marksOnlyGone_iff _ w admin isPrivate raw
  · intro ex acct w
    exact FlatBroker.marksOnlyGone_iff _ w admin isPrivate raw

/-- An ADMIN FLAT for this worker closes its scope exactly when the live side and the
rows are selected alike. -/
theorem adminFlat_keepsToScope_iff (admin : AdminFlat) (isPrivate : Bool) (raw : String) :
    (∀ (ex : ForexExecutor) (acct : ForexAccount) w,
      (forexFlat ex acct shows gateway accountId).KeepsToScope w admin isPrivate raw ↔
        ((forexFlat ex acct shows gateway accountId).desk.flatTargetsThisWorker
          admin isPrivate = true →
            (forexFlat ex acct shows gateway accountId).SelectionsAgree w admin)) ∧
    (∀ (ex : CryptoExecutor) (acct : ExchangeAccount) w,
      (cryptoFlat ex acct shows gateway accountId).KeepsToScope w admin isPrivate raw ↔
        ((cryptoFlat ex acct shows gateway accountId).desk.flatTargetsThisWorker
          admin isPrivate = true →
            (cryptoFlat ex acct shows gateway accountId).SelectionsAgree w admin)) := by
  constructor
  · intro ex acct w
    exact FlatBroker.keepsToScope_iff _ w admin isPrivate raw
  · intro ex acct w
    exact FlatBroker.keepsToScope_iff _ w admin isPrivate raw

end Markets

/-! ## Two directives that go wrong -/

/-- A tracked lot on a terminal that is about to report no data. -/
def unreportedLot : World (Desk ForexBook PlatformPosition) where
  db := { rows := [goldRow 1 "101" ""], oneActive := List.pairwise_singleton _ _ }
  rest := { book := { positions := [goldPosition 101], distinct := List.nodup_singleton _ } }

/-- No data is read as no positions: the row goes to `FLATTED` with its lot live. -/
theorem unreportedLot_marked :
    ¬ (forexFlat goldExecutor halfFilled (fun _ => .ok false) "MT5" "1").MarksOnlyGone
      unreportedLot {} false "FLAT" := by
  rw [FlatBroker.marksOnlyGone_iff]
  intro h
  have hselected : goldRow 1 "101" "" ∈ FlatBroker.selected unreportedLot {} := by decide
  rcases h rfl rfl _ hselected with ⟨⟨p, hp, -⟩, -⟩ | hall
  · cases hp
  · have hclosed := hall (goldRow 1 "101" "") (by decide) rfl (by decide) (goldPosition 101)
      (by decide) (by decide)
    cases hclosed

def cryptoRow (id : Nat) (strategy symbol : String) : Row :=
  { id, refSourceId := toString id, refId := toString id, strategy, symbol, action := "long"
    volume := 1, openedPrice := 3000, status := .opened }

def fillingExchange : ExchangeAccount where
  read _ := none
  order _ := .ok { success := true }
  cancel _ := .ok ()
  stopLoss _ := .ok { success := true }
  other _ := .error (.gateway "not connected")
  host := HostOp.quiet
  unflagged := by
    rintro n r ⟨⟩ (hflag | hcomment)
    · cases hflag
    · exact absurd hcomment (by decide)

/-- Two strategies, each with its own symbol. -/
def ownSymbols : World (Desk ExchangeBook ExchangePosition) where
  db := { rows := [cryptoRow 1 "A" "BTCUSDT", cryptoRow 2 "B" "ETHUSDT"]
          oneActive := by decide }
  rest := { book := {
    positions := [⟨"BTCUSDT", .long, 1, 60000, 7⟩, ⟨"ETHUSDT", .long, 1, 3000, 8⟩]
    distinct := by decide } }

/-- A directive for strategy `A` closes the position of strategy `B`. -/
theorem flatOfA_closesB :
    ¬ (cryptoFlat { config := {} } fillingExchange (fun _ => .ok true) "BINANCE" "1").KeepsToScope
      ownSymbols { strategy := some "A" } false "FLAT" := by
  rw [FlatBroker.keepsToScope_iff]
  intro h
  have hpicks := (h rfl).picks ⟨"ETHUSDT", .long, 1, 3000, 8⟩ (by decide +kernel)
    ⟨cryptoRow 2 "B" "ETHUSDT", by decide, rfl, by decide +kernel⟩
  obtain ⟨row, hrow, hscope, htracks⟩ := hpicks.mp (by decide +kernel)
  have hstrategy := hscope.2.1 "A" (by decide)
  have hrows : row = cryptoRow 1 "A" "BTCUSDT" ∨ row = cryptoRow 2 "B" "ETHUSDT" := by
    simpa [ownSymbols] using hrow
  rcases hrows with rfl | rfl
  · exact absurd htracks (by decide +kernel)
  · exact absurd hstrategy (by decide)

end TradeWorker
