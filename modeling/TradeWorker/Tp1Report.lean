import TradeWorker.ForexReach
import TradeWorker.FullClose

/-!
# What a forex TP1 reports of its position

`handle_tp1` closes a part, moves the stop of what is left to the entry price, and closes
everything of the strategy where that fails. Each of the three finds its position anew, so
the last two may work on positions that are not the signalled one, or on none. A close of
the whole ticket is then reported as an emergency, and a failsafe close that missed the
ticket as a success.
-/

namespace TradeWorker

/-! ## An account that moves stops -/

/-- The stop of a ticket is moved. -/
def PlatformPosition.restop (ticket : Nat) (newSl : ℚ) (p : PlatformPosition) :
    PlatformPosition :=
  if p.ticket = ticket then { p with sl := newSl } else p

@[simp] theorem PlatformPosition.restop_ticket (ticket : Nat) (newSl : ℚ)
    (p : PlatformPosition) : (p.restop ticket newSl).ticket = p.ticket := by
  unfold restop
  split <;> rfl

theorem PlatformPosition.restop_tickets (ticket : Nat) (newSl : ℚ)
    (positions : List PlatformPosition) :
    (positions.map (restop ticket newSl)).map (·.ticket) = positions.map (·.ticket) := by
  rw [List.map_map]
  exact List.map_congr_left fun p _ => p.restop_ticket ticket newSl

namespace ForexBook

def restop (book : ForexBook) (ticket : Nat) (newSl : ℚ) : ForexBook where
  positions := book.positions.map (PlatformPosition.restop ticket newSl)
  sent := book.sent
  distinct := (PlatformPosition.restop_tickets ticket newSl book.positions).symm ▸ book.distinct

def owned (book : ForexBook) (symbol : String) (magic : Int) : List PlatformPosition :=
  (book.positions.filter (·.symbol = symbol)).filter (·.magic = magic)

end ForexBook

/-- What the orders of a TP1 come to: the closes by their number, a stop move by its position
and price. That a position is unprotected the worker says, never the platform. -/
structure Tp1Outcome where
  close : Nat → Except Exn TradeResult
  modify : PlatformPosition → ℚ → Except Exn TradeResult
  unflagged : ∀ n r, close n = .ok r → r.positionUnprotected = false

namespace ForexAccount

variable (acct : ForexAccount) (out : Tp1Outcome)

def closing : ForexAccount := { acct with close := out.close }

def moved (answer : Except Exn TradeResult) (book : ForexBook) (ticket : Nat) (newSl : ℚ) :
    ForexBook :=
  match answer with
  | .ok r => if r.success then book.restop ticket newSl else book
  | .error _ => book

/-- One platform call under an outcome. -/
def fxUnder : (o : ForexOp) → ForexBook → Except Exn o.Ans × ForexBook
  | .modifySl pos newSl, book =>
      (out.modify pos newSl, moved (out.modify pos newSl) book pos.ticket newSl)
  | o, book => (acct.closing out).fx o book

def under : Backend ForexBook := { (acct.closing out).backend with fx := acct.fxUnder out }

end ForexAccount

/-- Every call but a stop move. -/
def keepingStops : Prog.Contract WorkerOp WorkerOp.Ans Exn where
  guard
    | .fx (.modifySl ..) => False
    | _ => True
  answers _ _ := True

section Under

variable {acct : ForexAccount} {out : Tp1Outcome}

theorem run_under_of_keepingStops {α : Type} {Q : α → Prop} {p : Work α}
    (hp : Prog.Sends keepingStops Q p) (w : World ForexBook) :
    Prog.run (acct.under out).serve p w = Prog.run (acct.closing out).backend.serve p w := by
  refine hp.run_congr (fun _ _ => trivial) (fun o ho => ?_) w
  rcases o with o | o | o | o
  · rfl
  · cases o with
    | modifySl => cases ho
    | _ => rfl
  · rfl
  · rfl

theorem keepingStops_of_consulting {α : Type} {Q : α → Prop} {p : Work α}
    (hp : Prog.Sends consulting Q p) : Prog.Sends keepingStops Q p := by
  refine hp.relax (fun o ho => ?_) fun _ _ _ => trivial
  rcases o with o | o | o | o
  · trivial
  · cases o with
    | modifySl => cases ho
    | _ => trivial
  · trivial
  · trivial

/-- What only asks is answered as by the bare account, and changes nothing. -/
theorem run_under_of_consulting {α : Type} {Q : α → Prop} {p : Work α}
    (hp : Prog.Sends consulting Q p) (w : World ForexBook) :
    Prog.run (acct.under out).serve p w = ((Prog.run acct.backend.serve p w).1, w) := by
  have hsame : Prog.run (acct.under out).serve p w = Prog.run acct.backend.serve p w := by
    refine hp.run_congr (fun _ _ => trivial) (fun o ho => ?_) w
    rcases o with o | o | o | o
    · rfl
    · cases o with
      | placeOrder | closePosition | modifySl => cases ho
      | getPositions symbol => cases symbol <;> rfl
      | _ => rfl
    · rfl
    · rfl
  have hkept : (Prog.run acct.backend.serve p w).2 = w := by
    refine hp.keeps (S := acct.backend.serve) (I := fun w' => w' = w) ?_ rfl
    rintro o w' rfl ho
    refine ⟨trivial, ?_⟩
    rcases o with o | o | o | o
    · exact congrArg (fun db => { w' with db }) (Db.serve_of_isRead ho w'.db)
    · cases o with
      | placeOrder | closePosition | modifySl => cases ho
      | getPositions symbol => cases symbol <;> rfl
      | _ => rfl
    · rfl
    · rfl
  rw [hsame]
  exact Prod.ext rfl hkept

end Under

/-! ## What a partial close leaves -/

/-- A close of at most what is open leaves the rest of it, or nothing. -/
theorem PlatformPosition.reduce_min (p : PlatformPosition) (v : ℚ) :
    p.reduce (some (min v p.volume)) =
      if v < p.volume then some { p with volume := p.volume - v } else none := by
  unfold reduce
  by_cases hv : v < p.volume
  · rw [min_eq_left hv.le]
  · rw [min_eq_right (not_lt.mp hv), if_neg hv]
    exact if_neg (lt_irrefl _)

section CloseTicket

variable {ticket : Nat} {volume : Option ℚ} {ps : List PlatformPosition}

theorem mem_closeTicket {p : PlatformPosition} :
    p ∈ closeTicket ticket volume ps ↔
      ∃ q ∈ ps, (if q.ticket = ticket then q.reduce volume else some q) = some p :=
  List.mem_filterMap

/-- Filters that a part of a position passes as the whole does commute with closes. -/
theorem closeTicket_filter {f : PlatformPosition → Bool}
    (hf : ∀ p q, p.reduce volume = some q → f q = f p) :
    closeTicket ticket volume (ps.filter f) = (closeTicket ticket volume ps).filter f := by
  unfold closeTicket
  rw [List.filterMap_filter, List.filter_filterMap]
  refine List.filterMap_congr fun p _ => ?_
  by_cases hticket : p.ticket = ticket
  · rw [if_pos hticket]
    cases hq : p.reduce volume with
    | none => simp
    | some q =>
        have hfq := hf p q hq
        cases hp : f p <;> simp [Option.filter, hfq, hp]
  · cases hp : f p <;> simp [Option.filter, hticket, hp]

/-- A close works on the one position of its ticket. -/
theorem closeTicket_split {as bs : List PlatformPosition} {pos : PlatformPosition}
    (hdistinct : ((as ++ pos :: bs).map (·.ticket)).Nodup) :
    closeTicket pos.ticket volume (as ++ pos :: bs) =
      as ++ ((pos.reduce volume).toList ++ bs) := by
  rw [List.map_append, List.map_cons, List.nodup_append] at hdistinct
  obtain ⟨-, hbs, has⟩ := hdistinct
  have hkeep : ∀ cs : List PlatformPosition, (∀ p ∈ cs, p.ticket ≠ pos.ticket) →
      closeTicket pos.ticket volume cs = cs := by
    intro cs hcs
    unfold closeTicket
    rw [List.filterMap_congr fun p hp => if_neg (hcs p hp), List.filterMap_some]
  have hleft := hkeep as fun p hp =>
    has p.ticket (List.mem_map_of_mem hp) pos.ticket List.mem_cons_self
  have hright := hkeep bs fun p hp heq =>
    (List.nodup_cons.mp hbs).1 (heq ▸ List.mem_map_of_mem hp)
  unfold closeTicket at hleft hright ⊢
  rw [List.filterMap_append, List.filterMap_cons, hleft, hright, if_pos rfl]
  cases pos.reduce volume <;> rfl

end CloseTicket

namespace ForexBook

variable {book : ForexBook} {pos : PlatformPosition}

theorem mem_positions_of_owned {symbol : String} {magic : Int}
    (h : pos ∈ book.owned symbol magic) : pos ∈ book.positions :=
  List.mem_of_mem_filter (List.mem_of_mem_filter h)

theorem owned_distinct (book : ForexBook) (symbol : String) (magic : Int) :
    ((book.owned symbol magic).map (·.ticket)).Nodup :=
  book.distinct.sublist ((List.filter_sublist.trans List.filter_sublist).map _)

/-- A part of a position stays under its symbol and its magic number. -/
theorem owned_fill (ticket : Nat) (volume : Option ℚ) (symbol : String) (magic : Int) :
    (book.fill ticket volume).owned symbol magic =
      closeTicket ticket volume (book.owned symbol magic) := by
  have hpart : ∀ p q : PlatformPosition, p.reduce volume = some q →
      q.symbol = p.symbol ∧ q.magic = p.magic := by
    intro p q hq
    cases volume with
    | none => cases hq
    | some v =>
        unfold PlatformPosition.reduce at hq
        dsimp only at hq
        split at hq
        · cases hq
          exact ⟨rfl, rfl⟩
        · cases hq
  unfold owned
  rw [closeTicket_filter fun p q hq => by rw [(hpart p q hq).2],
    closeTicket_filter fun p q hq => by rw [(hpart p q hq).1]]
  rfl

/-- What a close leaves of its ticket is what it leaves of the position. -/
theorem mem_fill_iff {volume : Option ℚ} (hpos : pos ∈ book.positions)
    {p : PlatformPosition} :
    p ∈ (book.fill pos.ticket volume).positions ∧ p.ticket = pos.ticket ↔
      pos.reduce volume = some p := by
  constructor
  · rintro ⟨hp, hticket⟩
    obtain ⟨q, hq, hpart⟩ := mem_closeTicket.mp hp
    split_ifs at hpart with h
    · rwa [List.inj_on_of_nodup_map book.distinct hq hpos h] at hpart
    · cases hpart
      exact absurd hticket h
  · intro hpart
    exact ⟨mem_closeTicket.mpr ⟨pos, hpos, by rwa [if_pos rfl]⟩,
      PlatformPosition.reduce_ticket hpart⟩

end ForexBook

/-- A ticket on the list is the position picked. -/
theorem pick_of_mem {first pos : PlatformPosition} {rest : List PlatformPosition}
    (hdistinct : ((first :: rest).map (·.ticket)).Nodup) (hpos : pos ∈ first :: rest)
    (hticket : pos.ticket ≠ 0) : ForexExecutor.pick first rest pos.ticket = pos := by
  unfold ForexExecutor.pick pickPosition
  rw [if_neg hticket]
  cases hfind : (first :: rest).find? (LivePosition.ticket · = pos.ticket) with
  | none =>
      have hnone := List.find?_eq_none.mp hfind pos hpos
      exact absurd (decide_eq_true rfl) hnone
  | some q =>
      have hq := List.find?_some hfind
      exact List.inj_on_of_nodup_map hdistinct (List.mem_of_find?_eq_some hfind) hpos
        (of_decide_eq_true hq)

/-! ## The run -/

namespace ForexAccount

/-- What a stop move comes to on the positions the executor lists. -/
def stopMove (out : Tp1Outcome) (book : ForexBook) (ticket : Nat) (newSl : ℚ) :
    List PlatformPosition → Except Exn TradeResult × ForexBook
  | [] => (.ok (.fail "No Positions Found"), book)
  | first :: rest =>
      let pos := ForexExecutor.pick first rest ticket
      (out.modify pos newSl, moved (out.modify pos newSl) book pos.ticket newSl)

end ForexAccount

section Run

variable {ex : ForexExecutor} {acct : ForexAccount} {out : Tp1Outcome} {strategy : String}
  {magic : Int} (hmagic : ex.magicFor (some strategy) = .ok magic)
include hmagic

theorem scope_owned (book : ForexBook) (symbol : String) :
    ex.scope (some strategy) (book.positions.filter (·.symbol = symbol)) =
      .ok (book.owned symbol magic) := by
  simp only [ForexExecutor.scope, hmagic, Except.map, ForexBook.owned]

theorem run_getOpenPositions_under (w : World ForexBook) (symbol : String) :
    Prog.run (acct.under out).serve (ex.getOpenPositions symbol (some strategy)) w =
      (.ok (w.rest.owned (acct.resolve symbol) magic), w) := by
  rw [run_under_of_consulting (ForexExecutor.getOpenPositions_consults ..),
    forex_getOpenPositions_run]
  exact congrArg (·, w) (scope_owned hmagic w.rest (acct.resolve symbol))

/-- A partial close of a listed ticket sends one close of it. -/
theorem run_partialClosePosition_under (w : World ForexBook) (symbol : String) (volume : ℚ)
    {pos : PlatformPosition} (hpos : pos ∈ w.rest.owned (acct.resolve symbol) magic)
    (hticket : pos.ticket ≠ 0) {r : TradeResult} (hclose : out.close w.rest.sent = .ok r)
    (hr : r.success = true) :
    Prog.run (acct.under out).serve
        (ex.partialClosePosition symbol volume pos.ticket (some strategy)) w =
      (.ok { r with sourceTicket := some (ticketText pos.ticket) },
        { w with rest := w.rest.fill pos.ticket (some (min volume pos.volume)) }) := by
  have hdistinct := w.rest.owned_distinct (acct.resolve symbol) magic
  unfold ForexExecutor.partialClosePosition
  rw [Prog.run_bind_ok _ (run_getOpenPositions_under hmagic w symbol)]
  cases hlist : w.rest.owned (acct.resolve symbol) magic with
  | nil => simp [hlist] at hpos
  | cons first rest =>
      rw [hlist] at hpos hdistinct
      have horder : Prog.run (acct.under out).serve
          (platform (.closePosition pos (some (min volume pos.volume)) "Partial Close TP1")) w =
            (.ok r, { w with
              rest := w.rest.fill pos.ticket (some (min volume pos.volume)) }) := by
        rw [run_platform]
        simp only [ForexAccount.under, ForexAccount.fxUnder, ForexAccount.closing,
          ForexAccount.fx, ForexBook.settle, hclose, hr, if_true]
      dsimp only
      rw [pick_of_mem hdistinct hpos hticket, Prog.run_bind_ok _ horder]
      simp [hr]

theorem run_updatePositionSl_under (w : World ForexBook) (symbol : String) (newSl : ℚ)
    (ticket : Nat) {move : Except Exn TradeResult × ForexBook}
    (hmove : ForexAccount.stopMove out w.rest ticket newSl
      (w.rest.owned (acct.resolve symbol) magic) = move) :
    Prog.run (acct.under out).serve
        (ex.updatePositionSl symbol newSl ticket (some strategy)) w =
      (move.1, { w with rest := move.2 }) := by
  subst hmove
  unfold ForexExecutor.updatePositionSl
  rw [Prog.run_bind_ok _ (run_getOpenPositions_under hmagic w symbol)]
  cases w.rest.owned (acct.resolve symbol) magic with
  | nil => rfl
  | cons first rest => exact run_platform ..

end Run

/-- A refused move leaves the book alone. -/
theorem stopMove_refused {out : Tp1Outcome} {book : ForexBook} {ticket : Nat} {newSl : ℚ}
    {ps : List PlatformPosition} {r : TradeResult}
    (h : (ForexAccount.stopMove out book ticket newSl ps).1 = .ok r) (hr : r.success = false) :
    ForexAccount.stopMove out book ticket newSl ps = (.ok r, book) := by
  cases ps with
  | nil => exact Prod.ext h rfl
  | cons first rest =>
      refine Prod.ext h ?_
      simp only [ForexAccount.stopMove] at h ⊢
      simp [h, ForexAccount.moved, hr]

/-! ## The failsafe -/

theorem closeEach_keepsStops (comment : String) (ps : List PlatformPosition) :
    Prog.Sends keepingStops (fun _ => True) (ForexExecutor.closeEach comment ps) := by
  induction ps with
  | nil => simp [ForexExecutor.closeEach]
  | cons pos rest ih =>
      refine Prog.Sends.bind (Prog.sends_perform trivial fun _ _ => trivial) fun _ _ => ?_
      exact Prog.Sends.bind ih fun _ _ => by simp

theorem closeAllPositions_keepsStops (ex : ForexExecutor) (symbol reason : String)
    (strategy ticket : Option String) :
    Prog.Sends keepingStops (fun _ => True)
      (ex.closeAllPositions symbol reason strategy ticket) := by
  refine Prog.Sends.bind
    (keepingStops_of_consulting (ForexExecutor.getOpenPositions_consults symbol strategy))
    fun ps _ => ?_
  cases filterByTicket ps ticket with
  | nil => simp
  | cons first rest => exact Prog.Sends.bind (closeEach_keepsStops ..) fun _ _ => by simp

@[simp] theorem failsafeReport_success (closed sl failsafe : TradeResult) :
    (ExecutorBackedMarket.failsafeReport closed sl failsafe).success = closed.success := by
  unfold ExecutorBackedMarket.failsafeReport
  split <;> rfl

@[simp] theorem failsafeReport_positionUnprotected (closed sl failsafe : TradeResult) :
    (ExecutorBackedMarket.failsafeReport closed sl failsafe).positionUnprotected =
      (closed.positionUnprotected || !failsafe.success) := by
  unfold ExecutorBackedMarket.failsafeReport
  cases failsafe.success <;> simp

/-- A close of the listed positions took those filled off the book, and succeeded if
there were any. -/
structure FailsafeRun (out : Tp1Outcome) (ps : List PlatformPosition) (book book' : ForexBook)
    (answer : Except Exn TradeResult) : Prop where
  positions : book'.positions = book.positions.filter
    (· ∉ Batch.filled (·.success) out.close book.sent ps)
  returns : Batch.fault out.close book.sent ps = none → ∃ r, answer = .ok r
  success : ∀ r, answer = .ok r →
    (r.success = true ↔ Batch.filled (·.success) out.close book.sent ps ≠ [])

/-- What a TP1 reports after the failsafe: a success, flagged where no close was filled. -/
structure FailsafeResult (out : Tp1Outcome) (ps : List PlatformPosition)
    (book book' : ForexBook) (result : TradeResult) : Prop where
  success : result.success = true
  flag : result.positionUnprotected = true ↔
    Batch.filled (·.success) out.close book.sent ps = []
  positions : book'.positions = book.positions.filter
    (· ∉ Batch.filled (·.success) out.close book.sent ps)

section Breakeven

variable {ex : ForexExecutor} {acct : ForexAccount} {out : Tp1Outcome} {signal : Signal}
  {magic : Int} (hmagic : ex.magicFor (some signal.strategy) = .ok magic)
include hmagic

theorem run_failsafe (acct : ForexAccount) (out : Tp1Outcome) (w : World ForexBook) :
    ∃ w' answer, Prog.run (acct.under out).serve
        (ex.closeAllPositions signal.symbol "SL_FAILSAFE" (some signal.strategy) none) w =
          (answer, w') ∧
      FailsafeRun out (w.rest.owned (acct.resolve signal.symbol) magic) w.rest w'.rest
        answer := by
  obtain ⟨w', answer, hrun, hcloses⟩ := forex_closes ex (acct.closing out) w
    ⟨signal.symbol, some signal.strategy, none⟩ "SL_FAILSAFE"
  have hbatch : (forexScript ex (acct.closing out)).batch (forexView w.rest)
      ⟨signal.symbol, some signal.strategy, none⟩ =
        .ok (w.rest.owned (acct.resolve signal.symbol) magic) := by
    have hscope := scope_owned hmagic w.rest (acct.resolve signal.symbol)
    exact congrArg (Except.map (filterByTicket · none)) hscope
  have hfault : (forexScript ex (acct.closing out)).fault (forexView w.rest)
      ⟨signal.symbol, some signal.strategy, none⟩ =
        Batch.fault out.close w.rest.sent (w.rest.owned (acct.resolve signal.symbol) magic) := by
    unfold CloseScript.fault
    rw [hbatch]
    cases w.rest.owned (acct.resolve signal.symbol) magic with
    | nil => rfl
    | cons => rfl
  have hclosed : (forexScript ex (acct.closing out)).closed (forexView w.rest)
      ⟨signal.symbol, some signal.strategy, none⟩ = Batch.filled (·.success) out.close
        w.rest.sent (w.rest.owned (acct.resolve signal.symbol) magic) := by
    unfold CloseScript.closed
    rw [CloseScript.matched_of_batch hbatch]
    rfl
  refine ⟨w', answer, ?_, ?_, fun hnone => ?_, fun r hr => ?_⟩
  · rw [run_under_of_keepingStops (closeAllPositions_keepsStops ..)]
    exact hrun
  · exact hclosed ▸ hcloses.live
  · obtain ⟨r, hr, -⟩ := hcloses.report (hfault.trans hnone)
    exact ⟨r, hr⟩
  · cases hcase : (forexScript ex (acct.closing out)).fault (forexView w.rest)
      ⟨signal.symbol, some signal.strategy, none⟩ with
    | some e => cases hr.symm.trans (hcloses.raised e hcase)
    | none =>
        obtain ⟨r', hr', hreports⟩ := hcloses.report hcase
        cases hr.symm.trans hr'
        rw [← hclosed]
        exact hreports.success

variable {w : World ForexBook} {pos : PlatformPosition} (closed : TradeResult) {sl : TradeResult}

/-- A move that is answered well ends the TP1. -/
theorem run_breakeven_moved {book : ForexBook}
    (hmove : ForexAccount.stopMove out w.rest pos.ticket pos.priceOpen
      (w.rest.owned (acct.resolve signal.symbol) magic) = (.ok sl, book))
    (hsl : sl.success = true) :
    Prog.run (acct.under out).serve ((forexMarket ex).moveSlToBreakeven signal pos closed) w =
      (.ok { closed with slUpdate := some sl }, { w with rest := book }) := by
  have hrun := run_updatePositionSl_under hmagic w signal.symbol pos.priceOpen pos.ticket hmove
  refine (Prog.run_bind_ok _ hrun).trans ?_
  simp [hsl]

/-- A refused one starts the failsafe. -/
theorem run_breakeven_refused (acct : ForexAccount) (w : World ForexBook)
    (hmove : (ForexAccount.stopMove out w.rest pos.ticket pos.priceOpen
      (w.rest.owned (acct.resolve signal.symbol) magic)).1 = .ok sl)
    (hsl : sl.success = false) :
    ∃ w' answer, Prog.run (acct.under out).serve
        ((forexMarket ex).moveSlToBreakeven signal pos closed) w = (answer.map
          (ExecutorBackedMarket.failsafeReport { closed with slUpdate := some sl } sl), w') ∧
      FailsafeRun out (w.rest.owned (acct.resolve signal.symbol) magic) w.rest w'.rest
        answer := by
  have hrun := run_updatePositionSl_under hmagic w signal.symbol pos.priceOpen pos.ticket
    (stopMove_refused hmove hsl)
  obtain ⟨w', answer, hfailsafe, hleft⟩ := run_failsafe hmagic acct out w
  refine ⟨w', answer, ?_, hleft⟩
  refine (Prog.run_bind_ok _ hrun).trans ?_
  simp only [hsl, Bool.false_eq_true, if_false]
  refine (Prog.run_bind_pure _ _ _ _).trans ?_
  exact congrArg (fun x : Except Exn TradeResult × World ForexBook => (x.1.map _, x.2)) hfailsafe

end Breakeven

/-! ## The report -/

/-- A TP1 of `pos` that asks for `volume` of it and for the move: what the steps of
`handle_tp1` before the first close come to. The platform numbers its tickets from one. -/
structure Tp1Attempt (ex : ForexExecutor) (acct : ForexAccount) (signal : Signal)
    (positionTicket : Option String) (w : World ForexBook) (magic : Int)
    (pos : PlatformPosition) (volume : ℚ) : Prop where
  magicFor : ex.magicFor (some signal.strategy) = .ok magic
  listed : (filterByTicket (w.rest.owned (acct.resolve signal.symbol) magic)
    positionTicket).head? = some pos
  numbered : pos.ticket ≠ 0
  moves : ((forexMarket ex).resolveTp1Params signal).2 = true
  asks : (Prog.run acct.backend.serve ((forexMarket ex).resolveTp1Volume signal pos
    ((forexMarket ex).resolveTp1Params signal).1) w).1 = .ok (.ok volume)

/-- What a TP1 result says of its position, against the book it left. -/
structure Tp1Report (pos : PlatformPosition) (result : TradeResult) (book : ForexBook) :
    Prop where
  alarm : result.positionUnprotected = true →
    ∃ p ∈ book.positions, p.ticket = pos.ticket ∧ 0 < p.volume
  quiet : result.success = true → result.positionUnprotected = false →
    ∀ p ∈ book.positions, p.ticket = pos.ticket → 0 < p.volume → p.sl = pos.priceOpen

/-- However the platform answers the stop move and the closes after the first, which it
fills. -/
def Tp1Truthful (ex : ForexExecutor) (acct : ForexAccount) (signal : Signal)
    (positionTicket : Option String) (w : World ForexBook) (pos : PlatformPosition) : Prop :=
  ∀ (out : Tp1Outcome) (r : TradeResult), out.close w.rest.sent = .ok r → r.success = true →
    ∀ result w', Prog.run (acct.under out).serve
      ((forexMarket ex).handleTp1 signal positionTicket) w = (.ok result, w') →
        Tp1Report pos result w'.rest

def ForexBook.afterTp1 (book : ForexBook) (pos : PlatformPosition) (volume : ℚ) : ForexBook :=
  book.fill pos.ticket (some (min volume pos.volume))

section Attempt

variable {ex : ForexExecutor} {acct : ForexAccount} {out : Tp1Outcome} {signal : Signal}
  {positionTicket : Option String} {w : World ForexBook} {magic : Int}
  {pos : PlatformPosition} {volume : ℚ}

theorem resolveTp1Volume_consults (percent : Option ℚ) :
    Prog.Sends consulting (fun _ => True)
      ((forexMarket ex).resolveTp1Volume signal pos percent) := by
  unfold ExecutorBackedMarket.resolveTp1Volume
  split
  · cases percent with
    | none => simp
    | some percent =>
        exact Prog.Sends.bind (ForexExecutor.normalize_consults ..) fun _ _ => by simp
  · split
    · simp
    · exact Prog.Sends.bind (ForexExecutor.convertQuantity_consults ..) fun _ _ => by simp

namespace Tp1Attempt

variable (h : Tp1Attempt ex acct signal positionTicket w magic pos volume)
include h

theorem owned : pos ∈ w.rest.owned (acct.resolve signal.symbol) magic :=
  mem_of_mem_filterByTicket (List.mem_of_mem_head? h.listed)

/-- After a filled close the TP1 is its breakeven half. -/
theorem run_handleTp1 {r : TradeResult} (hclose : out.close w.rest.sent = .ok r)
    (hr : r.success = true) :
    Prog.run (acct.under out).serve ((forexMarket ex).handleTp1 signal positionTicket) w =
      Prog.run (acct.under out).serve ((forexMarket ex).moveSlToBreakeven signal pos
          { r with sourceTicket := some (ticketText pos.ticket) })
        { w with rest := w.rest.afterTp1 pos volume } := by
  obtain ⟨others, hlisted⟩ := List.head?_eq_some_iff.mp h.listed
  have hquery : Prog.run (acct.under out).serve ((forexMarket ex).getOpenPositions
      signal.symbol (some signal.strategy) positionTicket) w = (.ok (pos :: others), w) := by
    refine (Prog.run_bind_ok _ (run_getOpenPositions_under h.magicFor w signal.symbol)).trans ?_
    exact congrArg (fun ps => (Except.ok ps, w)) hlisted
  have hasks : Prog.run (acct.under out).serve ((forexMarket ex).resolveTp1Volume signal pos
      ((forexMarket ex).resolveTp1Params signal).1) w = (.ok (.ok volume), w) := by
    rw [run_under_of_consulting (resolveTp1Volume_consults _), h.asks]
  have hpartial := run_partialClosePosition_under h.magicFor w signal.symbol volume h.owned
    h.numbered hclose hr
  unfold ExecutorBackedMarket.handleTp1
  rw [Prog.run_bind_ok _ hquery]
  refine (Prog.run_bind_ok _ hasks).trans ?_
  refine (Prog.run_bind_ok _ hpartial).trans ?_
  rw [if_pos ⟨hr, h.moves⟩]
  rfl

/-- The position's part of the book after the partial close. -/
theorem mem_afterTp1_iff {p : PlatformPosition} :
    p ∈ (w.rest.afterTp1 pos volume).positions ∧ p.ticket = pos.ticket ↔
      volume < pos.volume ∧ p = { pos with volume := pos.volume - volume } := by
  rw [ForexBook.afterTp1, ForexBook.mem_fill_iff (ForexBook.mem_positions_of_owned h.owned),
    PlatformPosition.reduce_min]
  by_cases hvolume : volume < pos.volume
  · simp [hvolume, eq_comm]
  · simp [hvolume]

/-- What the strategy still owns after it. -/
theorem owned_afterTp1 : ∃ as bs,
    w.rest.owned (acct.resolve signal.symbol) magic = as ++ pos :: bs ∧
      (w.rest.afterTp1 pos volume).owned (acct.resolve signal.symbol) magic =
        as ++ (if volume < pos.volume then [{ pos with volume := pos.volume - volume }]
          else []) ++ bs := by
  obtain ⟨as, bs, hsplit⟩ := List.append_of_mem h.owned
  refine ⟨as, bs, hsplit, ?_⟩
  have hdistinct := w.rest.owned_distinct (acct.resolve signal.symbol) magic
  rw [hsplit] at hdistinct
  rw [ForexBook.afterTp1, ForexBook.owned_fill, hsplit, closeTicket_split hdistinct,
    PlatformPosition.reduce_min]
  split <;> simp

/-- The part left is still the strategy's. -/
theorem left_owned (hvolume : volume < pos.volume) :
    { pos with volume := pos.volume - volume } ∈
      (w.rest.afterTp1 pos volume).owned (acct.resolve signal.symbol) magic := by
  obtain ⟨as, bs, -, hafter⟩ := h.owned_afterTp1
  rw [hafter, if_pos hvolume]
  simp

/-- A move that succeeds puts the part left at the entry price. -/
theorem sl_of_moved (hvolume : volume < pos.volume) {sl : TradeResult} {book : ForexBook}
    (hmove : ForexAccount.stopMove out (w.rest.afterTp1 pos volume) pos.ticket pos.priceOpen
      ((w.rest.afterTp1 pos volume).owned (acct.resolve signal.symbol) magic) = (.ok sl, book))
    (hsl : sl.success = true) {p : PlatformPosition} (hp : p ∈ book.positions)
    (hticket : p.ticket = pos.ticket) : p.sl = pos.priceOpen := by
  have hleft := h.left_owned hvolume
  have hdistinct := (w.rest.afterTp1 pos volume).owned_distinct (acct.resolve signal.symbol) magic
  cases hlist : (w.rest.afterTp1 pos volume).owned (acct.resolve signal.symbol) magic with
  | nil => simp [hlist] at hleft
  | cons first rest =>
      rw [hlist] at hmove hleft hdistinct
      have hpick := pick_of_mem hdistinct hleft h.numbered
      simp only [ForexAccount.stopMove] at hmove
      rw [hpick] at hmove
      obtain ⟨hanswer, rfl⟩ := Prod.mk.inj hmove
      simp only [hanswer, ForexAccount.moved, hsl, if_true, ForexBook.restop] at hp
      obtain ⟨q, -, rfl⟩ := List.mem_map.mp hp
      rw [PlatformPosition.restop_ticket] at hticket
      rw [PlatformPosition.restop, if_pos hticket]

/-- A refused move leaves the result to the failsafe. -/
theorem run_of_refused {r sl : TradeResult} (hclose : out.close w.rest.sent = .ok r)
    (hr : r.success = true)
    (hmove : (ForexAccount.stopMove out (w.rest.afterTp1 pos volume) pos.ticket pos.priceOpen
      ((w.rest.afterTp1 pos volume).owned (acct.resolve signal.symbol) magic)).1 = .ok sl)
    (hsl : sl.success = false) :
    ∃ w' answer, Prog.run (acct.under out).serve
        ((forexMarket ex).handleTp1 signal positionTicket) w = (answer, w') ∧
      (Batch.fault out.close (w.rest.sent + 1)
        ((w.rest.afterTp1 pos volume).owned (acct.resolve signal.symbol) magic) = none →
          ∃ result, answer = .ok result) ∧
      ∀ result, answer = .ok result → FailsafeResult out
        ((w.rest.afterTp1 pos volume).owned (acct.resolve signal.symbol) magic)
        (w.rest.afterTp1 pos volume) w'.rest result := by
  obtain ⟨w', failsafe, hrun, hfailsafe⟩ := run_breakeven_refused h.magicFor
    { r with sourceTicket := some (ticketText pos.ticket) } acct
    { w with rest := w.rest.afterTp1 pos volume } hmove hsl
  refine ⟨w', _, (h.run_handleTp1 hclose hr).trans hrun, fun hnone => ?_, ?_⟩
  · obtain ⟨r', rfl⟩ := hfailsafe.returns hnone
    exact ⟨_, rfl⟩
  · intro result hresult
    cases failsafe with
    | error e => cases hresult
    | ok f =>
        cases hresult
        have hflag := out.unflagged _ _ hclose
        have hsuccess := hfailsafe.success f rfl
        refine ⟨?_, ?_, hfailsafe.positions⟩
        · exact (failsafeReport_success ..).trans hr
        · have hunprotected := failsafeReport_positionUnprotected
            { r with sourceTicket := some (ticketText pos.ticket), slUpdate := some sl } sl f
          refine (iff_of_eq (congrArg (· = true) hunprotected)).trans ?_
          rw [hflag, Bool.false_or, Bool.not_eq_true', ← not_iff_not, Bool.not_eq_false]
          exact hsuccess

/-- A move answered with an exception raises it. -/
theorem run_of_raised {r : TradeResult} {e : Exn} (hclose : out.close w.rest.sent = .ok r)
    (hr : r.success = true)
    (hmove : (ForexAccount.stopMove out (w.rest.afterTp1 pos volume) pos.ticket pos.priceOpen
      ((w.rest.afterTp1 pos volume).owned (acct.resolve signal.symbol) magic)).1 = .error e) :
    ∃ w', Prog.run (acct.under out).serve
      ((forexMarket ex).handleTp1 signal positionTicket) w = (.error e, w') := by
  have hrun := @run_updatePositionSl_under ex acct out _ _ h.magicFor
    { w with rest := w.rest.afterTp1 pos volume } signal.symbol pos.priceOpen pos.ticket _ rfl
  rw [hmove] at hrun
  exact ⟨_, (h.run_handleTp1 hclose hr).trans (Prog.run_bind_error _ hrun)⟩

end Tp1Attempt

/-- A failsafe over a part that was the strategy's only position, or over positions among
which it stood at its entry price, is told as it was. -/
theorem FailsafeResult.report (h : Tp1Attempt ex acct signal positionTicket w magic pos volume)
    (hvolume : volume < pos.volume)
    (hstop : w.rest.owned (acct.resolve signal.symbol) magic = [pos] ∨ pos.sl = pos.priceOpen)
    {book' : ForexBook} {result : TradeResult}
    (hresult : FailsafeResult out
      ((w.rest.afterTp1 pos volume).owned (acct.resolve signal.symbol) magic)
      (w.rest.afterTp1 pos volume) book' result) : Tp1Report pos result book' where
  alarm halarm := by
    have hnone := hresult.flag.mp halarm
    have hleft := h.mem_afterTp1_iff.mpr ⟨hvolume, rfl⟩
    refine ⟨_, ?_, hleft.2, sub_pos.mpr hvolume⟩
    rw [hresult.positions, hnone]
    exact List.mem_filter.mpr ⟨hleft.1, by simp⟩
  quiet _ hflag p hp hticket _ := by
    rw [hresult.positions, List.mem_filter, decide_eq_true_eq] at hp
    obtain ⟨-, rfl⟩ := h.mem_afterTp1_iff.mp ⟨hp.1, hticket⟩
    rcases hstop with halone | hentry
    · -- the one close of the failsafe was filled
      obtain ⟨as, bs, hsplit, hafter⟩ := h.owned_afterTp1
      have hsingle : as = [] ∧ bs = [] := by
        have hlength := congrArg List.length (halone.symm.trans hsplit)
        simp only [List.length_append, List.length_cons, List.length_nil] at hlength
        exact ⟨List.length_eq_zero_iff.mp (by omega), List.length_eq_zero_iff.mp (by omega)⟩
      rw [hsingle.1, hsingle.2, if_pos hvolume, List.nil_append, List.append_nil] at hafter
      rw [hafter] at hresult hp
      have hfilled : Batch.filled (·.success) out.close (w.rest.afterTp1 pos volume).sent
          [{ pos with volume := pos.volume - volume }] ≠ [] := fun hnil => by
        simp [hresult.flag.mpr hnil] at hflag
      obtain ⟨q, hq⟩ := List.exists_mem_of_ne_nil _ hfilled
      have hsame := List.mem_singleton.mp (Batch.mem_of_mem_filled hq)
      exact absurd (hsame ▸ hq) hp.2
    · exact hentry

/-! ## Scripts that mislead -/

def Tp1Outcome.stopRefused (fills : Nat → Bool) : Tp1Outcome where
  close n := .ok (if fills n then { success := true } else .fail "Requote")
  modify _ _ := .ok (.fail "Invalid stops")
  unflagged n r h := by
    cases h
    cases fills n <;> rfl

section StopRefused

variable (fills : Nat → Bool)

theorem stopRefused_fills {n : Nat} (h : fills n = true) :
    Batch.Fills (·.success) ((Tp1Outcome.stopRefused fills).close n) :=
  ⟨{ success := true }, by simp [Tp1Outcome.stopRefused, h], rfl⟩

theorem stopRefused_refuses {n : Nat} (h : fills n = false) :
    Batch.Refuses (·.success) ((Tp1Outcome.stopRefused fills).close n) :=
  ⟨.fail "Requote", by simp [Tp1Outcome.stopRefused, h], rfl⟩

theorem stopRefused_fault (n : Nat) (ps : List PlatformPosition) :
    Batch.fault (Tp1Outcome.stopRefused fills).close n ps = none :=
  Batch.fault_eq_none_iff.mpr fun _ _ => ⟨_, rfl⟩

/-- Under such a script the TP1 comes to its failsafe. -/
theorem Tp1Attempt.stopRefused_run
    (h : Tp1Attempt ex acct signal positionTicket w magic pos volume)
    (hfirst : fills w.rest.sent = true) :
    ∃ result w', Prog.run (acct.under (.stopRefused fills)).serve
        ((forexMarket ex).handleTp1 signal positionTicket) w = (.ok result, w') ∧
      FailsafeResult (.stopRefused fills)
        ((w.rest.afterTp1 pos volume).owned (acct.resolve signal.symbol) magic)
        (w.rest.afterTp1 pos volume) w'.rest result := by
  obtain ⟨r, hclose, hr⟩ := stopRefused_fills fills hfirst
  have hmove : ∃ sl : TradeResult, (ForexAccount.stopMove (.stopRefused fills)
      (w.rest.afterTp1 pos volume) pos.ticket pos.priceOpen
      ((w.rest.afterTp1 pos volume).owned (acct.resolve signal.symbol) magic)).1 = .ok sl ∧
        sl.success = false := by
    cases (w.rest.afterTp1 pos volume).owned (acct.resolve signal.symbol) magic with
    | nil => exact ⟨_, rfl, rfl⟩
    | cons first rest => exact ⟨_, rfl, rfl⟩
  obtain ⟨sl, hanswer, hsl⟩ := hmove
  obtain ⟨w', answer, hrun, hreturns, hresult⟩ := h.run_of_refused hclose hr hanswer hsl
  obtain ⟨result, rfl⟩ := hreturns (stopRefused_fault _ ..)
  exact ⟨result, w', hrun, hresult result rfl⟩

end StopRefused

/-- A close of the whole ticket can end in an alarm for it. -/
theorem Tp1Attempt.volume_lt_of_truthful
    (h : Tp1Attempt ex acct signal positionTicket w magic pos volume)
    (htruthful : Tp1Truthful ex acct signal positionTicket w pos) : volume < pos.volume := by
  obtain ⟨result, w', hrun, hresult⟩ := h.stopRefused_run (· = w.rest.sent) (by simp)
  obtain ⟨r, hclose, hr⟩ := stopRefused_fills (· = w.rest.sent)
    (decide_eq_true (Eq.refl w.rest.sent))
  have hreport := htruthful _ r hclose hr result w' hrun
  have hnone : result.positionUnprotected = true := by
    refine hresult.flag.mpr ((Batch.filled_eq_nil_iff (stopRefused_fault _ ..)).mpr ?_)
    intro i _
    refine stopRefused_refuses _ (decide_eq_false ?_)
    have hsent : (w.rest.afterTp1 pos volume).sent = w.rest.sent + 1 := rfl
    omega
  obtain ⟨p, hp, hticket, -⟩ := hreport.alarm hnone
  rw [hresult.positions] at hp
  exact (h.mem_afterTp1_iff.mp ⟨List.mem_of_mem_filter hp, hticket⟩).1

/-- A failsafe over other positions too can miss the part left. -/
theorem Tp1Attempt.stop_of_truthful
    (h : Tp1Attempt ex acct signal positionTicket w magic pos volume)
    (hvolume : volume < pos.volume)
    (htruthful : Tp1Truthful ex acct signal positionTicket w pos) :
    w.rest.owned (acct.resolve signal.symbol) magic = [pos] ∨ pos.sl = pos.priceOpen := by
  obtain ⟨as, bs, hsplit, hafter⟩ := h.owned_afterTp1
  rw [if_pos hvolume, List.append_assoc, List.singleton_append] at hafter
  have hdistinct := (w.rest.afterTp1 pos volume).owned_distinct (acct.resolve signal.symbol) magic
  rcases Decidable.em (as ++ bs = []) with halone | hothers
  · obtain ⟨rfl, rfl⟩ := List.append_eq_nil_iff.mp halone
    exact Or.inl hsplit
  · refine Or.inr ?_
    -- every close is filled but the one of the part left
    have hsent : (w.rest.afterTp1 pos volume).sent = w.rest.sent + 1 := rfl
    have hfirst : w.rest.sent ≠ w.rest.sent + 1 + as.length := by omega
    obtain ⟨result, w', hrun, hresult⟩ := h.stopRefused_run
      (· ≠ w.rest.sent + 1 + as.length) (decide_eq_true hfirst)
    obtain ⟨r, hclose, hr⟩ := stopRefused_fills
      (· ≠ w.rest.sent + 1 + as.length) (decide_eq_true hfirst)
    have hreport := htruthful _ r hclose hr result w' hrun
    have hfilled : Batch.filled (·.success)
        (Tp1Outcome.stopRefused (· ≠ w.rest.sent + 1 + as.length)).close
        (w.rest.afterTp1 pos volume).sent
        ((w.rest.afterTp1 pos volume).owned (acct.resolve signal.symbol) magic) = as ++ bs := by
      rw [hafter, hsent]
      refine Batch.filled_append_refused (fun i hi => stopRefused_fills _ (decide_eq_true ?_))
        (stopRefused_refuses _ (decide_eq_false (not_not.mpr rfl)))
      omega
    have hflag : result.positionUnprotected = false := by
      rw [← Bool.not_eq_true, hresult.flag, hfilled]
      exact hothers
    have hleft := h.mem_afterTp1_iff.mpr ⟨hvolume, rfl⟩
    refine hreport.quiet hresult.success hflag
      { pos with volume := pos.volume - volume } ?_ hleft.2 (sub_pos.mpr hvolume)
    rw [hresult.positions, hfilled]
    refine List.mem_filter.mpr ⟨hleft.1, decide_eq_true ?_⟩
    rw [hafter] at hdistinct
    have hperm : (as ++ { pos with volume := pos.volume - volume } :: bs).Nodup :=
      List.Nodup.of_map _ hdistinct
    exact (List.nodup_cons.mp (List.nodup_middle.mp hperm)).1

/-- A TP1 that asks for the move reports truthfully what became of its position, whatever
the platform answers, exactly when it closes a part of it only and the position is the
strategy's one on the symbol or stands at its entry price already. -/
theorem tp1Truthful_iff
    (h : Tp1Attempt ex acct signal positionTicket w magic pos volume) :
    Tp1Truthful ex acct signal positionTicket w pos ↔
      volume < pos.volume ∧
        (w.rest.owned (acct.resolve signal.symbol) magic = [pos] ∨ pos.sl = pos.priceOpen) := by
  constructor
  · intro htruthful
    have hvolume := h.volume_lt_of_truthful htruthful
    exact ⟨hvolume, h.stop_of_truthful hvolume htruthful⟩
  · rintro ⟨hvolume, hstop⟩ out r hclose hr result w' hrun
    cases hmove : ForexAccount.stopMove out (w.rest.afterTp1 pos volume) pos.ticket
        pos.priceOpen ((w.rest.afterTp1 pos volume).owned (acct.resolve signal.symbol) magic) with
    | mk answer book =>
        rcases answer with e | sl
        · obtain ⟨_, hraised⟩ := h.run_of_raised hclose hr (congrArg Prod.fst hmove)
          cases hraised.symm.trans hrun
        · cases hsl : sl.success with
          | true =>
              have hmoved := (h.run_handleTp1 hclose hr).trans
                (run_breakeven_moved h.magicFor _ hmove hsl)
              cases hmoved.symm.trans hrun
              refine ⟨fun hflag => ?_, fun _ _ p hp hticket _ => ?_⟩
              · have hunflagged := out.unflagged w.rest.sent r hclose
                cases hflag.symm.trans hunflagged
              · exact h.sl_of_moved hvolume hmove hsl hp hticket
          | false =>
              obtain ⟨_, answer, hrun', -, hresult⟩ := h.run_of_refused hclose hr
                (congrArg Prod.fst hmove) hsl
              cases hrun'.symm.trans hrun
              exact (hresult result rfl).report h hvolume hstop

end Attempt

/-- Gold, traded in lots of `lot`. -/
def goldIn (lot : ℚ) : SymbolSpec :=
  { resolvedName := "XAUUSD", point := 1 / 100, digits := 2, volumeMin := lot
    volumeStep := lot, volumeMax := 100, tickValue := 1, tickSize := 1 / 100
    contractSize := 100, stopsLevel := 0 }

def goldLots (lot : ℚ) : ForexAccount where
  resolve := id
  close _ := .ok { success := true }
  other
    | .getSymbolSpec _ => .ok (some (goldIn lot))
    | _ => .error (.gateway "not asked")
  host := HostOp.quiet

def halfTp1 : Signal :=
  { strategy := "GOLD", timestamp := 0, action := .tp1, symbol := "XAUUSD"
    tp1Percent := some 50, moveSlToBe := some true }

theorem goldLot_distinct : ([goldPosition 101].map (·.ticket)).Nodup := List.nodup_singleton 101

/-- One lot of `GOLD` live, nothing stored. -/
def oneLotLive : World ForexBook where
  db := .empty
  rest := { positions := [goldPosition 101], distinct := goldLot_distinct }

theorem halfTp1_attempt {lot volume : ℚ}
    (hvolume : normalizeVolume (some (goldIn lot)) (1 * (50 / 100)) = .ok volume) :
    Tp1Attempt goldExecutor (goldLots lot) halfTp1 none oneLotLive 7 (goldPosition 101)
      volume where
  magicFor := by decide
  listed := rfl
  numbered := by decide
  moves := by decide
  asks := by
    have hrun : Prog.run (goldLots lot).backend.serve
        (ForexExecutor.normalize "XAUUSD" (1 * (50 / 100))) oneLotLive =
          (.ok volume, oneLotLive) := by
      have hspec : Prog.run (goldLots lot).backend.serve (ForexExecutor.symbolSpec "XAUUSD")
          oneLotLive = (.ok (some (goldIn lot)), oneLotLive) := rfl
      refine (Prog.run_bind_ok _ hspec).trans ?_
      rw [hvolume]
      rfl
    exact congrArg Prod.fst (Prog.run_bind_ok _ hrun)

theorem normalizeVolume_goldIn {lot volume : ℚ} (hlot : lot ≠ 0) (quantity : ℚ)
    (hvolume : pyRoundTo ((goldIn lot).clamp (floorToStep quantity lot)) (decimalsForStep lot) =
      volume) : normalizeVolume (some (goldIn lot)) quantity = .ok volume := by
  refine (if_neg (show (goldIn lot).volumeStep ≠ 0 from hlot)).trans ?_
  exact congrArg Except.ok hvolume

/-- Where half a lot can be closed the report is truthful. -/
theorem halfLot_truthful :
    Tp1Truthful goldExecutor (goldLots (1 / 2)) halfTp1 none oneLotLive (goldPosition 101) := by
  have hhalf : normalizeVolume (some (goldIn (1 / 2))) (1 * (50 / 100)) = .ok (1 / 2) :=
    normalizeVolume_goldIn (by norm_num) _ (by decide +kernel)
  exact (tp1Truthful_iff (halfTp1_attempt hhalf)).mpr
    ⟨by decide +kernel, Or.inl (by decide)⟩

/-- Where the lot is the least that trades, the TP1 closes it whole. -/
theorem wholeLot_misreported :
    ¬ Tp1Truthful goldExecutor (goldLots 1) halfTp1 none oneLotLive (goldPosition 101) := by
  intro htruthful
  have hwhole : normalizeVolume (some (goldIn 1)) (1 * (50 / 100)) = .ok 1 :=
    normalizeVolume_goldIn (by norm_num) _ (by decide +kernel)
  exact absurd ((halfTp1_attempt hwhole).volume_lt_of_truthful htruthful) (by decide +kernel)

end TradeWorker
