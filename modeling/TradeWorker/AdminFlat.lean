import TradeWorker.Processor

/-!
# ADMIN FLAT

An operator's directive to go flat. `_handle_admin_flat` closes the live
positions its filter picks and then goes through the rows the same filter
selects: a row whose key was closed is marked `FLATTED`, a row none of whose keys
was tried counts as closed elsewhere and is marked too, and a row whose close
failed stays open. The live side is filtered by the executor, the rows by SQL;
the two meet in a match key.
-/

namespace TradeWorker

/-! ## The directive -/

/-- `AdminFlatSchema` and `PrivateAdminFlatSchema`; only the second carries an
account and a reference. -/
structure AdminFlat where
  strategy : Option String := none
  symbol : Option String := none
  refId : Option String := none
  market : Option String := none
  gateway : Option String := none
  accountId : Option String := none
  deriving DecidableEq, Repr

/-- What an ADMIN FLAT needs of a market: its identity, its queries and single
close, and the keys that tie a live position to a row. -/
structure AdminDesk (Pos : Type) where
  name : String
  marketType : String
  gateway : String
  accountId : String
  getOpenPositions : String → Option String → Work (List Pos)
  getAllOpenPositions : Option String → Work (List Pos)
  closeSinglePosition : Pos → String → Work TradeResult
  flatMatchKey : Pos → String
  flatDbMatchKeys : Row → List String

/-- The results of the closes that succeeded, newest first, and the keys tried. -/
structure FlatTally where
  closed : List (String × TradeResult) := []
  attempted : List String := []

namespace AdminDesk

variable {Pos : Type} (desk : AdminDesk Pos)

def flatTargetsThisWorker (admin : AdminFlat) (isPrivate : Bool) : Bool :=
  if isPrivate then
    admin.market = some desk.marketType ∧ admin.gateway = some desk.gateway ∧
      admin.accountId = some desk.accountId
  else
    (text? admin.market).all (· = desk.marketType) ∧
      (text? admin.gateway).all (· = desk.gateway)

/-! ## Closing the live positions -/

/-- The positions the executor lists for the filter. -/
def fetchForFlat (admin : AdminFlat) : Work (List Pos) :=
  match text? admin.symbol with
  | some symbol => desk.getOpenPositions symbol admin.strategy
  | none => desk.getAllOpenPositions admin.strategy

/-- The keys a reference allows: those of the rows found under it. -/
def allowedKeys (rows : List Row) : List String := rows.flatMap desk.flatDbMatchKeys

/-- A reference narrows the positions to those its rows stand for. -/
def narrowByRef (admin : AdminFlat) (positions : List Pos) : Work (List Pos) :=
  match text? admin.refId with
  | none => pure positions
  | some _ => do
      let rows ← getOpenPositionsForFlat admin.strategy admin.symbol admin.refId
      pure (positions.filter fun p => desk.flatMatchKey p ∈ desk.allowedKeys rows)

def tallyClose (tally : FlatTally) (key : String) (result : TradeResult) : FlatTally where
  closed := if result.success then (key, result) :: tally.closed else tally.closed
  attempted := key :: tally.attempted

/-- The loop of closes. -/
def closeEach : List Pos → FlatTally → Work FlatTally
  | [], tally => pure tally
  | pos :: rest, tally => do
      let result ← desk.closeSinglePosition pos "FLAT"
      closeEach rest (tallyClose tally (desk.flatMatchKey pos) result)

def closeLivePositionsForFlat (admin : AdminFlat) : Work FlatTally := do
  let fetched ← desk.fetchForFlat admin
  let positions ← desk.narrowByRef admin fetched
  desk.closeEach positions {}

/-! ## Reconciling the rows -/

/-- The comment of a row that was only synced. -/
def notFoundComment : String := s!"Admin FLAT (position not found on {desk.name})"

/-- `_log_flat_event`'s row. -/
def flatLog (row : Row) (result : Option TradeResult) (raw : String) : LogRow where
  strategy := row.strategy
  refId := text? (result.bind (·.ticket)) <|> some row.refId
  refSourceId := some row.refSourceId
  signalId := row.signalId
  signalUxid := none
  symbol := row.symbol
  action := "FLATTED"
  volume := num? (result.bind (·.volume)) <|> some row.volume
  price := result.bind (·.price)
  sl := none
  tp1 := none
  gatewayReturnCode := (result.map (·.retcode)).getD (some 0)
  comment := (result.map (·.comment)).getD desk.notFoundComment
  message := some (.text raw)
  author := "broker"
  marketType := some desk.marketType

/-- The close that settles a row: the one under the first of its keys. -/
def matchedClose (tally : FlatTally) (row : Row) : Option TradeResult :=
  (desk.flatDbMatchKeys row).findSome? fun key => tally.closed.lookup key

/-- `db_keys.isdisjoint(attempted)`. -/
def untried (tally : FlatTally) (row : Row) : Bool :=
  (desk.flatDbMatchKeys row).all (· ∉ tally.attempted)

def flatClosed (row : Row) (result : TradeResult) : StatusUpdate where
  refSourceId := some row.refSourceId
  status := .flatted
  refId := result.ticket
  closedPrice := result.price
  gatewayReturnCode := result.retcode
  comment := some result.comment

/-- The update of a row whose position was never tried. -/
def flatSynced (row : Row) : StatusUpdate where
  refSourceId := some row.refSourceId
  status := .flatted
  comment := some desk.notFoundComment

def flatUpdate (tally : FlatTally) (row : Row) : Option StatusUpdate :=
  match desk.matchedClose tally row with
  | some result => some (flatClosed row result)
  | none => if desk.untried tally row then some (desk.flatSynced row) else none

/-- The report of a closed row, in its cycle or to the channel. -/
def notifyFlatClosed (row : Row) (result : TradeResult) : Work Unit := do
  let now : ℚ ← host .now
  let owned : Bool ← host (.recordCycle row.signalUxid row.strategy row.symbol
    { action := "FLAT"
      outcome := .adminFlat
      timestamp := now
      price := result.price
      volume := result.volume
      profit := result.profit
      refId := result.ticket
      refSourceId := some row.refSourceId
      gatewayReturnCode := result.retcode
      reason := text? (some result.comment) }
    (some (.position .flatted)))
  if owned then pure () else host (.notifyChannel (.adminFlatClosed row result))

def settleRow (tally : FlatTally) (raw : String) (row : Row) : Work Unit :=
  match desk.matchedClose tally row with
  | some result => do
      logPosition (desk.flatLog row (some result) raw)
      updatePositionStatus (flatClosed row result)
      notifyFlatClosed row result
  | none =>
      if desk.untried tally row then do
        logPosition (desk.flatLog row none raw)
        updatePositionStatus (desk.flatSynced row)
      else pure ()

def settleEach (tally : FlatTally) (raw : String) : List Row → Work Unit
  | [] => pure ()
  | row :: rest => do
      desk.settleRow tally raw row
      settleEach tally raw rest

def reconcileFlatDb (admin : AdminFlat) (tally : FlatTally) (raw : String) : Work Unit := do
  let rows ← getOpenPositionsForFlat admin.strategy admin.symbol admin.refId
  let _footer ← host .currentFooter
  desk.settleEach tally raw rows

/-- The close pass and the reconciliation, once the directive is this worker's. -/
def flatPass (admin : AdminFlat) (raw : String) : Work Unit := do
  let tally ← desk.closeLivePositionsForFlat admin
  desk.reconcileFlatDb admin tally raw

/-- `_handle_admin_flat`, once the payload is parsed. -/
def handleAdminFlat (admin : AdminFlat) (isPrivate : Bool) (raw : String) : Work Unit :=
  if desk.flatTargetsThisWorker admin isPrivate then desk.flatPass admin raw else pure ()

end AdminDesk

/-! ## The two desks -/

def ForexExecutor.closeSinglePosition (pos : PlatformPosition) (reason : String) :
    Work TradeResult := do
  let result : TradeResult ← platform (.closePosition pos none s!"Full Close {reason}")
  pure (if result.success then { result with comment := s!"Closed [{reason}]" } else result)

def ForexExecutor.getAllOpenPositions (ex : ForexExecutor) (strategy : Option String) :
    Work (List PlatformPosition) := do
  let positions ← platform (.getPositions none)
  Prog.ofExcept (ex.scope strategy positions)

/-- Forex ties a row to a live position by ticket. -/
def forexDesk (ex : ForexExecutor) (gateway accountId : String) :
    AdminDesk PlatformPosition where
  name := "FOREX"
  marketType := "FOREX"
  gateway
  accountId
  getOpenPositions := ex.getOpenPositions
  getAllOpenPositions := ex.getAllOpenPositions
  closeSinglePosition := ForexExecutor.closeSinglePosition
  flatMatchKey pos := ticketText pos.ticket
  flatDbMatchKeys row := [row.refId, row.refSourceId]

def CryptoExecutor.closeSinglePosition (pos : ExchangePosition) (_reason : String) :
    Work TradeResult := do
  let orderId ← CryptoExecutor.closeClientOrderId
  let result : TradeResult ← exchange
    (.placeMarketOrder pos.symbol pos.side pos.volume true orderId)
  if result.success then CryptoExecutor.attachRealizedPnl result pos none none
  else pure result

/-- `CryptoExecutor.get_all_open_positions`: the strategy plays no part. -/
def CryptoExecutor.getAllOpenPositions : Work (List ExchangePosition) := do
  let positions ← exchange (.getPositions none)
  pure (positions.filter (0 < ·.volume))

/-- Crypto ties a row to a live position by resolved symbol. -/
def cryptoDesk (ex : CryptoExecutor) (gateway accountId : String) :
    AdminDesk ExchangePosition where
  name := "CRYPTO"
  marketType := "CRYPTO"
  gateway
  accountId
  getOpenPositions symbol _ := ex.getOpenPositions symbol
  getAllOpenPositions _ := CryptoExecutor.getAllOpenPositions
  closeSinglePosition := CryptoExecutor.closeSinglePosition
  flatMatchKey := ExchangePosition.symbol
  flatDbMatchKeys row := [ex.getSymbol row.symbol]

end TradeWorker
