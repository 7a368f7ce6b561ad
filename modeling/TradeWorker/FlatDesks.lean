import TradeWorker.ClosingMarkets
import TradeWorker.FlatPass

/-!
# The two desks and their brokers

The forex desk against a simulated forex account, and the crypto desk against a
simulated exchange. What a position query reports is scripted, by the number of the
query: it may raise, and it may report no data, which both gateways turn into an
empty list. An order is answered as the account's script has it.
-/

namespace TradeWorker

/-- An account's book, with the queries made and the positions asked to be closed. -/
structure Desk (Book Pos : Type) where
  book : Book
  reads : Nat := 0
  asked : List Pos := []

/-- `raw or []`: what a gateway makes of a query's answer. -/
def reported {Pos : Type} (answer : Except Exn Bool) (positions : List Pos) :
    Except Exn (List Pos) :=
  answer.map fun data => if data then positions else []

theorem reported_sublist {Pos : Type} {answer : Except Exn Bool} {positions ps : List Pos}
    (h : reported answer positions = .ok ps) : ps.Sublist positions := by
  unfold reported at h
  cases answer with
  | error e => cases h
  | ok data =>
      cases h
      cases data with
      | true => exact List.Sublist.refl _
      | false => exact List.nil_sublist _

/-! ## Forex -/

section Forex

variable (ex : ForexExecutor) (acct : ForexAccount) (shows : Nat → Except Exn Bool)

/-- A platform call: a query is answered by the script, a close is put on record. -/
def ForexAccount.deskFx : (o : ForexOp) → Desk ForexBook PlatformPosition →
    Except Exn o.Ans × Desk ForexBook PlatformPosition
  | .getPositions symbol, d =>
      (reported (shows d.reads) (d.book.positions.filter fun p => symbol.all (p.symbol = ·)),
       { d with reads := d.reads + 1 })
  | .closePosition p volume comment, d =>
      ((acct.fx (.closePosition p volume comment) d.book).1,
       { d with
         book := (acct.fx (.closePosition p volume comment) d.book).2
         asked := d.asked ++ [p] })
  | o, d => ((acct.fx o d.book).1, { d with book := (acct.fx o d.book).2 })

def ForexAccount.deskBackend : Backend (Desk ForexBook PlatformPosition) where
  fx := acct.deskFx shows
  cx _ d := (.error (.other "no exchange"), d)
  host o d := (.ok (acct.host o), d)

def forexFetched (d : Desk ForexBook PlatformPosition) (admin : AdminFlat) :
    Except Exn (List PlatformPosition) :=
  (reported (shows d.reads) (d.book.positions.filter fun p =>
    (text? admin.symbol).all fun s => p.symbol = acct.resolve s)) >>= ex.scope admin.strategy

theorem forex_query_run (w : World (Desk ForexBook PlatformPosition))
    (symbol : Option String) :
    Prog.run (acct.deskBackend shows).serve (platform (.getPositions symbol)) w =
      (reported (shows w.rest.reads)
        (w.rest.book.positions.filter fun p => symbol.all (p.symbol = ·)),
       { w with rest := { w.rest with reads := w.rest.reads + 1 } }) :=
  run_platform ..

theorem forex_fetchForFlat_run (w : World (Desk ForexBook PlatformPosition))
    (gateway accountId : String) (admin : AdminFlat) :
    Prog.run (acct.deskBackend shows).serve
        ((forexDesk ex gateway accountId).fetchForFlat admin) w =
      (forexFetched ex acct shows w.rest admin,
       { w with rest := { w.rest with reads := w.rest.reads + 1 } }) := by
  unfold AdminDesk.fetchForFlat forexFetched
  cases text? admin.symbol with
  | none =>
      refine (Prog.run_bind_ofExcept _ _ _ _).trans ?_
      rw [forex_query_run]
      rfl
  | some symbol =>
      have hresolve : Prog.run (acct.deskBackend shows).serve
          (platform (.resolveSymbol symbol)) w = (.ok (acct.resolve symbol), w) :=
        run_platform ..
      refine (Prog.run_bind_ok _ hresolve).trans ?_
      refine (Prog.run_bind_ofExcept _ _ _ _).trans ?_
      rw [forex_query_run]
      rfl

theorem forexFetched_sublist {d : Desk ForexBook PlatformPosition} {admin : AdminFlat}
    {ps : List PlatformPosition} (h : forexFetched ex acct shows d admin = .ok ps) :
    ps.Sublist d.book.positions := by
  unfold forexFetched at h
  cases hread : reported (shows d.reads) (d.book.positions.filter fun p =>
      (text? admin.symbol).all fun s => p.symbol = acct.resolve s) with
  | error e => simp [hread, bind, Except.bind] at h
  | ok listed =>
      have hscope : ex.scope admin.strategy listed = .ok ps := by
        simpa [hread, bind, Except.bind] using h
      exact (forex_scope_sublist ex hscope).trans
        ((reported_sublist hread).trans List.filter_sublist)

theorem forex_closeSinglePosition_run (w : World (Desk ForexBook PlatformPosition))
    (p : PlatformPosition) :
    Prog.run (acct.deskBackend shows).serve (ForexExecutor.closeSinglePosition p "FLAT") w =
      ((acct.close w.rest.book.sent).map fun r =>
        if r.success then { r with comment := "Closed [FLAT]" } else r,
       { w with rest := { w.rest with
          book := w.rest.book.settle (acct.close w.rest.book.sent) p.ticket none
          asked := w.rest.asked ++ [p] } }) := by
  refine (Prog.run_bind_pure _ _ _ _).trans ?_
  rw [run_platform]
  rfl

def forexFlat (gateway accountId : String) :
    FlatBroker PlatformPosition (Desk ForexBook PlatformPosition) where
  desk := forexDesk ex gateway accountId
  backend := acct.deskBackend shows
  instrument := acct.resolve
  live d := d.book.positions
  asked := Desk.asked
  sent d := d.book.sent
  order := acct.close
  fetched := forexFetched ex acct shows
  live_nodup d := List.Nodup.of_map _ d.book.distinct
  fetched_sublist := forexFetched_sublist ex acct shows
  host_answers o _ := ⟨acct.host o, rfl⟩
  fetches w admin :=
    ⟨_, forex_fetchForFlat_run ex acct shows w gateway accountId admin, rfl, rfl, rfl⟩
  closes := by
    intro w p hp
    refine ⟨_, _, forex_closeSinglePosition_run acct shows w p, rfl, by simp, ?_, ?_⟩
    · intro e he
      simp [he, Except.map, ForexBook.settle, ForexBook.refuse]
    · intro r hr
      have hreport : ((acct.close w.rest.book.sent).map fun r =>
          if r.success then { r with comment := "Closed [FLAT]" } else r) =
            .ok (if r.success then { r with comment := "Closed [FLAT]" } else r) := by
        rw [hr]
        rfl
      refine ⟨⟨_, hreport, by split <;> rfl⟩, ?_⟩
      cases hs : r.success with
      | false => simp [hr, hs, ForexBook.settle, ForexBook.refuse]
      | true =>
          have hgone : ∀ q ∈ [p], q ∈ w.rest.book.positions := by simpa using hp
          have hfilter := filter_key_not_mem w.rest.book.distinct hgone
          simpa [hr, hs, ForexBook.settle, ForexBook.fill, closeTicket_none] using hfilter

end Forex

/-! ## Crypto -/

section Crypto

variable (ex : CryptoExecutor) (acct : ExchangeAccount) (shows : Nat → Except Exn Bool)

/-- An exchange call: a query is answered by the script, a reduce-only order is put on
record under the position of its leg. -/
def ExchangeAccount.deskCx : (o : CryptoOp) → Desk ExchangeBook ExchangePosition →
    Except Exn o.Ans × Desk ExchangeBook ExchangePosition
  | .getPositions symbol, d =>
      (reported (shows d.reads) (d.book.positions.filter fun p => symbol.all (p.symbol = ·)),
       { d with reads := d.reads + 1 })
  | .placeMarketOrder symbol side quantity reduceOnly orderId, d =>
      ((acct.cx (.placeMarketOrder symbol side quantity reduceOnly orderId) d.book).1,
       { d with
         book := (acct.cx (.placeMarketOrder symbol side quantity reduceOnly orderId) d.book).2
         asked := if reduceOnly then d.asked ++ d.book.positions.filter (·.leg = (symbol, side))
           else d.asked })
  | o, d => ((acct.cx o d.book).1, { d with book := (acct.cx o d.book).2 })

def ExchangeAccount.deskBackend : Backend (Desk ExchangeBook ExchangePosition) where
  fx _ d := (.error (.other "no platform"), d)
  cx := acct.deskCx shows
  host o d := (.ok (acct.host o), d)

def cryptoFetched (d : Desk ExchangeBook ExchangePosition) (admin : AdminFlat) :
    Except Exn (List ExchangePosition) :=
  (reported (shows d.reads) (d.book.positions.filter fun p =>
    (text? admin.symbol).all fun s => p.symbol = ex.getSymbol s)).map
      fun ps => ps.filter (0 < ·.volume)

theorem crypto_query_run (w : World (Desk ExchangeBook ExchangePosition))
    (symbol : Option String) :
    Prog.run (acct.deskBackend shows).serve (exchange (.getPositions symbol)) w =
      (reported (shows w.rest.reads)
        (w.rest.book.positions.filter fun p => symbol.all (p.symbol = ·)),
       { w with rest := { w.rest with reads := w.rest.reads + 1 } }) :=
  run_exchange ..

theorem crypto_fetchForFlat_run (w : World (Desk ExchangeBook ExchangePosition))
    (gateway accountId : String) (admin : AdminFlat) :
    Prog.run (acct.deskBackend shows).serve
        ((cryptoDesk ex gateway accountId).fetchForFlat admin) w =
      (cryptoFetched ex shows w.rest admin,
       { w with rest := { w.rest with reads := w.rest.reads + 1 } }) := by
  unfold AdminDesk.fetchForFlat cryptoFetched
  cases text? admin.symbol with
  | none =>
      simp only [cryptoDesk, CryptoExecutor.getAllOpenPositions]
      rw [Prog.run_bind_pure, crypto_query_run]
      simp only [Option.all_none]
  | some symbol =>
      simp only [cryptoDesk, CryptoExecutor.getOpenPositions]
      rw [Prog.run_bind_pure, crypto_query_run]
      simp only [Option.all_some]

theorem cryptoFetched_sublist {d : Desk ExchangeBook ExchangePosition} {admin : AdminFlat}
    {ps : List ExchangePosition} (h : cryptoFetched ex shows d admin = .ok ps) :
    ps.Sublist (d.book.positions.filter (0 < ·.volume)) := by
  unfold cryptoFetched at h
  cases hread : reported (shows d.reads) (d.book.positions.filter fun p =>
      (text? admin.symbol).all fun s => p.symbol = ex.getSymbol s) with
  | error e => simp [hread, Except.map] at h
  | ok listed =>
      rw [hread] at h
      cases h
      exact ((reported_sublist hread).trans List.filter_sublist).filter _

theorem filter_leg_eq (book : ExchangeBook) {p : ExchangePosition} (hp : p ∈ book.positions) :
    book.positions.filter (·.leg = p.leg) = book.positions.filter (· = p) := by
  refine List.filter_congr fun q hq => decide_eq_decide.mpr ?_
  constructor
  · intro hleg
    exact List.inj_on_of_nodup_map book.distinct hq hp hleg
  · rintro rfl
    rfl

theorem crypto_closeSinglePosition_run (w : World (Desk ExchangeBook ExchangePosition))
    {p : ExchangePosition} (hp : p ∈ w.rest.book.positions) :
    ∃ out, Prog.run (acct.deskBackend shows).serve
        (CryptoExecutor.closeSinglePosition p "FLAT") w =
      (out, { w with rest := { w.rest with
          book := w.rest.book.settle (acct.order w.rest.book.sent) p.leg p.volume true
          asked := w.rest.asked ++ [p] } }) ∧
      (∀ e, acct.order w.rest.book.sent = .error e → out = .error e) ∧
      ∀ r, acct.order w.rest.book.sent = .ok r →
        ∃ r', out = .ok r' ∧ r'.success = r.success := by
  obtain ⟨id, hid⟩ : ∃ id, Prog.run (acct.deskBackend shows).serve
      CryptoExecutor.closeClientOrderId w = (.ok id, w) := ⟨_, rfl⟩
  have hleg : w.rest.book.positions.filter (·.leg = p.leg) = [p] := by
    rw [filter_leg_eq w.rest.book hp, List.filter_eq,
      List.count_eq_one_of_mem (List.Nodup.of_map _ w.rest.book.distinct) hp]
    rfl
  have horder : Prog.run (acct.deskBackend shows).serve
      (exchange (.placeMarketOrder p.symbol p.side p.volume true id)) w =
        (acct.order w.rest.book.sent,
         { w with rest := { w.rest with
            book := w.rest.book.settle (acct.order w.rest.book.sent) p.leg p.volume true
            asked := w.rest.asked ++ [p] } }) := by
    rw [← hleg]
    exact run_exchange ..
  unfold CryptoExecutor.closeSinglePosition
  rw [Prog.run_bind_ok _ hid]
  cases hr : acct.order w.rest.book.sent with
  | error e =>
      rw [hr] at horder
      refine ⟨.error e, Prog.run_bind_error _ horder, fun e' he' => he', fun r hr' => ?_⟩
      cases hr'
  | ok r =>
      rw [hr] at horder
      rw [Prog.run_bind_ok _ horder]
      split
      · obtain ⟨profit, hprofit⟩ := crypto_attachRealizedPnl_run (B := acct.deskBackend shows) r p
          none none rfl
        refine ⟨_, hprofit, fun e he => (by cases he), ?_⟩
        rintro r' ⟨⟩
        exact ⟨_, rfl, rfl⟩
      · refine ⟨_, rfl, fun e he => (by cases he), ?_⟩
        rintro r' ⟨⟩
        exact ⟨_, rfl, rfl⟩

def cryptoFlat (gateway accountId : String) :
    FlatBroker ExchangePosition (Desk ExchangeBook ExchangePosition) where
  desk := cryptoDesk ex gateway accountId
  backend := acct.deskBackend shows
  instrument := ex.getSymbol
  live d := d.book.positions.filter (0 < ·.volume)
  asked := Desk.asked
  sent d := d.book.sent
  order := acct.order
  fetched := cryptoFetched ex shows
  live_nodup d := (List.Nodup.of_map _ d.book.distinct).filter _
  fetched_sublist := cryptoFetched_sublist ex shows
  host_answers o _ := ⟨acct.host o, rfl⟩
  fetches w admin :=
    ⟨_, crypto_fetchForFlat_run ex acct shows w gateway accountId admin, rfl, rfl, rfl⟩
  closes := by
    intro w p hp
    have hmem := (List.mem_filter.mp hp).1
    obtain ⟨out, hrun, herror, hok⟩ := crypto_closeSinglePosition_run acct shows w hmem
    refine ⟨_, out, hrun, rfl, by simp, ?_, ?_⟩
    · intro e he
      refine ⟨herror e he, ?_⟩
      simp [he, ExchangeBook.settle, ExchangeBook.refuse]
    · intro r hr
      refine ⟨hok r hr, ?_⟩
      cases hs : r.success with
      | false => simp [hr, hs, ExchangeBook.settle, ExchangeBook.refuse]
      | true =>
          simp only [hr, hs, ExchangeBook.settle, ExchangeBook.fill, and_self, if_true,
            reduceLeg_volume w.rest.book.distinct hmem, List.filter_filter]
          refine List.filter_congr fun q hq => ?_
          have hleg : q.leg = p.leg ↔ q = p :=
            ⟨List.inj_on_of_nodup_map w.rest.book.distinct hq hmem, congrArg _⟩
          simp [hleg, Bool.and_comm]

end Crypto

end TradeWorker
