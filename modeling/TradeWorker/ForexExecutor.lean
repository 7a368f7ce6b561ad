import TradeWorker.ForexSizing

/-!
# The forex executor

`ForexExecutor` over the platform contract. Each strategy trades under its own
magic number; a query or a close scoped to a strategy keeps the positions of
that magic only. Tickets are addressed by `_pick`, which falls back to the
first position when the ticket is gone.
-/

namespace TradeWorker

/-- `ForexExecutor`'s configuration and magic map. -/
structure ForexExecutor where
  config : ExecutionConfig
  strategyMagicMap : List (String × Int)

namespace ForexExecutor

variable (ex : ForexExecutor)

/-! ## Magic numbers -/

def magicFor (strategy : Option String) : Except Exn Int :=
  match text? strategy with
  | none => .error (.valueError "Strategy must be provided to resolve magic number.")
  | some s =>
      match ex.strategyMagicMap.lookup s with
      | some magic => .ok magic
      | none => .error (.keyError s!"Strategy '{s}' not found in strategy_magic_map.")

def ownedMagics : List Int := ex.strategyMagicMap.map (·.2)

/-! ## Queries -/

/-- `_spec`. -/
def symbolSpec (baseSymbol : String) : Work (Option SymbolSpec) := do
  let symbol : String ← platform (.resolveSymbol baseSymbol)
  platform (.getSymbolSpec symbol)

/-- `ForexExecutor.convert_quantity_to_lots`. -/
def convertQuantity (symbol : String) (quantity : ℚ) : Work ℚ := do
  let spec ← symbolSpec symbol
  Prog.ofExcept (convertQuantityToLots spec quantity)

/-- `ForexExecutor.normalize_volume`. -/
def normalize (symbol : String) (volume : ℚ) : Work ℚ := do
  let spec ← symbolSpec symbol
  Prog.ofExcept (normalizeVolume spec volume)

/-- The filter `get_open_positions` applies to the platform's answer. -/
def scope (strategy : Option String) (positions : List PlatformPosition) :
    Except Exn (List PlatformPosition) :=
  match strategy with
  | none => .ok (positions.filter (·.magic ∈ ex.ownedMagics))
  | some _ => (ex.magicFor strategy).map fun magic => positions.filter (·.magic = magic)

def getOpenPositions (symbol : String) (strategy : Option String) :
    Work (List PlatformPosition) := do
  let resolved ← platform (.resolveSymbol symbol)
  let positions ← platform (.getPositions (some resolved))
  Prog.ofExcept (ex.scope strategy positions)

def entryQuote (side : Side) (tick : Tick) : ℚ :=
  match side with
  | .long => tick.ask
  | .short => tick.bid

def getEntryPrice (signal : Signal) : Work (Option ℚ) :=
  match signal.action.side? with
  | none => pure none
  | some side => do
      let symbol : String ← platform (.resolveSymbol signal.symbol)
      let tick ← platform (.getTick symbol)
      pure (Option.map (entryQuote side) tick)

/-! ## Entry -/

def entryComment (strategy : String) (signalId : Option String) (maxLen : Nat) :
    String :=
  let tail := takeEnd 2 (signalId.getD "")
  if tail = "" then rstrip (takeText maxLen strategy)
  else
    let head := rstrip (takeText (maxLen - tail.length - 1) strategy)
    strip (head ++ " " ++ tail)

def orderCommentMax : Nat := 29

def resolveCapital (equitySizing : Option Bool) : Work (Option ℚ) :=
  if equitySizing = some true then do
    let account ← platform .getAccount
    pure (account.bind (·.equity))
  else pure (some ex.config.capital)

/-- The risk percent an entry is sized with, scale-in factor applied. -/
def entryRisk (signal : Signal) : ℚ :=
  let risk :=
    if ex.config.useCustomRiskPercentage then ex.config.riskPercentage
    else
      match signal.riskPercent with
      | some r => if 0 < r then r else ex.config.riskPercentage
      | none => ex.config.riskPercentage
  risk * signal.scaleQuantityFactor

def resolveEntryVolume (signal : Signal) (spec : Option SymbolSpec) (price : ℚ)
    (sl : Option ℚ) : Work (Option ℚ) :=
  let equitySizing := ex.config.resolveEquitySizing signal.useEquitySizing
  if ex.config.usesPayloadQuantity signal.useEquitySizing then do
    let spec ← symbolSpec signal.symbol
    Prog.ofExcept (convertSignalQuantity spec signal.quantity)
  else
    match num? sl with
    | none => pure (some ((spec.map (·.volumeMin)).getD (1 / 100)))
    | some sl => do
        let capital ← ex.resolveCapital equitySizing
        match capital with
        | none => pure (some (1 / 100))
        | some capital =>
            let lot ← Prog.ofExcept
              (calculateLotSize spec price sl (ex.entryRisk signal) capital)
            pure (some lot)

/-- `_free_margin`: the first of the two spellings the snapshot carries. -/
def freeMargin : Work (Option ℚ) := do
  let account ← platform .getAccount
  pure (account.bind fun a => a.marginFree <|> a.freeMargin)

def marginUsableFraction : ℚ := 95 / 100

/-- `_fit_volume_to_margin`. The margin call answers `None` to a missing
volume, which then comes back as it is. -/
def fitVolumeToMargin (symbol : String) (side : Side) (volume : Option ℚ) (price : ℚ)
    (spec : Option SymbolSpec) : Work (Option ℚ) :=
  match volume with
  | none => pure none
  | some volume => do
      let required ← platform (.calcMargin symbol side volume price)
      match required, spec with
      | some required, some spec =>
          if required ≤ 0 then pure (some volume)
          else do
            let free ← freeMargin
            match free with
            | none => pure (some volume)
            | some free =>
                let budget := free * marginUsableFraction
                if required ≤ budget then pure (some volume)
                else do
                  let normalized ← Prog.ofExcept
                    (normalizeVolume (some spec) (volume * budget / required))
                  let affordable := min volume normalized
                  let affordableMargin ←
                    platform (.calcMargin symbol side affordable price)
                  match affordableMargin with
                  | some margin =>
                      if budget < margin then pure none else pure (some affordable)
                  | none => pure (some affordable)
      | _, _ => pure (some volume)

/-- The refusal of an entry the account cannot margin. -/
def insufficientMargin (symbol : String) (requestedVolume : Option ℚ) : TradeResult :=
  { TradeResult.fail ("Insufficient free margin for " ++ optNumText requestedVolume ++
      " lot on " ++ symbol) with
    volume := requestedVolume }

def openPosition (signal : Signal) : Work TradeResult :=
  match signal.action.side? with
  | none => pure (.fail "Action Mapping Failed")
  | some side => do
      let symbol : String ← platform (.resolveSymbol signal.symbol)
      let spec ← platform (.getSymbolSpec symbol)
      let tick ← platform (.getTick symbol)
      match tick with
      | none => pure (.fail "No tick / market data unavailable")
      | some tick =>
          let price := entryQuote side tick
          if price ≤ 0 then pure (.fail "No tick / market data unavailable")
          else do
            -- stops first: the lot is sized on the stop the order will carry
            let stops := validateStops spec side tick signal.sl signal.tp2
            let requestedVolume ← ex.resolveEntryVolume signal spec price stops.1
            let volume ← fitVolumeToMargin symbol side requestedVolume price spec
            match volume with
            | none => pure (insufficientMargin symbol requestedVolume)
            | some volume => do
                let magic ← Prog.ofExcept (ex.magicFor (some signal.strategy))
                let result ← platform (.placeOrder
                  { symbol, side, volume, price, sl := stops.1, tp := stops.2, magic
                    comment :=
                      entryComment signal.strategy signal.signalId orderCommentMax })
                if some volume = requestedVolume then pure result
                else pure { result with requestedVolume := requestedVolume }

/-! ## Exits -/

def pick (first : PlatformPosition) (rest : List PlatformPosition) (ticket : Nat) :
    PlatformPosition :=
  pickPosition first rest ticket

def partialClosePosition (symbol : String) (closeVolume : ℚ) (positionTicket : Nat)
    (strategy : Option String) : Work TradeResult := do
  let positions ← ex.getOpenPositions symbol strategy
  match positions with
  | [] => pure (.fail "No Positions Found")
  | first :: rest => do
      let pos := pick first rest positionTicket
      -- never close more than is open
      let safeVolume := min closeVolume pos.volume
      let result ← platform (.closePosition pos (some safeVolume) "Partial Close TP1")
      if result.success then
        pure { result with sourceTicket := some (ticketText pos.ticket) }
      else pure result

def updatePositionSl (symbol : String) (newSl : ℚ) (positionTicket : Nat)
    (strategy : Option String) : Work TradeResult := do
  let positions ← ex.getOpenPositions symbol strategy
  match positions with
  | [] => pure (.fail "No Positions Found")
  | first :: rest => platform (.modifySl (pick first rest positionTicket) newSl)

/-- The loop of `close_all_positions`: the results of the closes that
succeeded, in order. -/
def closeEach (comment : String) : List PlatformPosition → Work (List TradeResult)
  | [] => pure []
  | pos :: rest => do
      let result ← platform (.closePosition pos none comment)
      let closed ← closeEach comment rest
      pure (if result.success then result :: closed else closed)

/-- What `close_all_positions` reports for the closes that succeeded. -/
def closeReport (reason : String) (first : PlatformPosition)
    (closed : List TradeResult) : TradeResult :=
  match closed.getLast? with
  | some last =>
      { success := true
        retcode := last.retcode
        ticket := last.ticket
        sourceTicket := some (ticketText first.ticket)
        price := last.price
        volume := last.volume
        comment := s!"Closed {closed.length} position(s) [{reason}]"
        profit := totalProfit closed }
  | none => .fail s!"Failed to close positions [{reason}]"

def closeAllPositions (symbol reason : String) (strategy positionTicket : Option String) :
    Work TradeResult := do
  let positions ← ex.getOpenPositions symbol strategy
  match filterByTicket positions positionTicket with
  | [] => pure (.fail "No Positions Found")
  | first :: rest => do
      let closed ← closeEach s!"Full Close {reason}" (first :: rest)
      pure (closeReport reason first closed)

@[simp] theorem closeReport_success (reason : String) (first : PlatformPosition)
    (closed : List TradeResult) :
    (closeReport reason first closed).success = true ↔ closed ≠ [] := by
  cases closed using List.reverseRecOn with
  | nil => simp [closeReport]
  | append_singleton init last => simp [closeReport]

/-- A success names the first position of the request, whatever became of it. -/
theorem closeReport_sourceTicket {reason : String} {first : PlatformPosition}
    {closed : List TradeResult} (h : (closeReport reason first closed).success = true) :
    (closeReport reason first closed).sourceTicket = some (ticketText first.ticket) := by
  unfold closeReport at h ⊢
  split <;> simp_all

theorem closeReport_ticket (reason : String) (first : PlatformPosition)
    (closed : List TradeResult) :
    (closeReport reason first closed).ticket = (closed.map (·.ticket)).getLast?.join := by
  cases closed using List.reverseRecOn with
  | nil => rfl
  | append_singleton init last => simp [closeReport]

@[simp] theorem closeReport_slFailsafeClose (reason : String) (first : PlatformPosition)
    (closed : List TradeResult) :
    (closeReport reason first closed).slFailsafeClose = none := by
  unfold closeReport
  split <;> rfl

@[simp] theorem closeReport_forcedClosed (reason : String) (first : PlatformPosition)
    (closed : List TradeResult) : (closeReport reason first closed).forcedClosed = [] := by
  unfold closeReport
  split <;> rfl

end ForexExecutor

end TradeWorker
