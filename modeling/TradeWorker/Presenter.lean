import TradeWorker.ForexSizing
import TradeWorker.Markup
import TradeWorker.Work

/-!
# The messages of a trade

What the two markets' presenters write about a trade, line by line. A line knows which of its
texts come from outside, and whether they were escaped on the way.
-/

namespace TradeWorker

open Markup (Line Clean isPlain plain bold code)
open Markup.Source (own input escaped)

/-! ## Numbers -/

/-- `f"{n:02d}"`. -/
def twoDigits (n : Nat) : String := if n < 10 then "0" ++ toString n else toString n

/-- `f"{x:+.2f}"`. -/
def signedText (x : ℚ) : String :=
  let cents := (pyRound (|x| * 100)).toNat
  (if x < 0 then "-" else "+") ++ toString (cents / 100) ++ "." ++ twoDigits (cents % 100)

section Numbers

theorem isPlain_of_isDigit {c : Char} (h : c.isDigit = true) : isPlain c = true := by
  simp only [isPlain, Bool.and_eq_true, decide_eq_true_eq]
  refine ⟨⟨?_, ?_⟩, ?_⟩ <;> rintro rfl <;> cases h

@[simp] theorem clean_toDigits (n : Nat) : Clean (Nat.toDigits 10 n) := fun _ hc =>
  isPlain_of_isDigit (Nat.isDigit_of_mem_toDigits (by decide) (by decide) hc)

@[simp] theorem clean_intRepr (n : Int) : Clean n.repr.toList := by
  cases n with
  | ofNat n => simp [Int.repr]
  | negSucc n => simp [Int.repr, isPlain]

theorem clean_of_subset {cs cs' : List Char} (h : Clean cs) (hsub : cs' ⊆ cs) : Clean cs' :=
  fun c hc => h c (hsub hc)

@[simp] theorem clean_takeText {n : Nat} {s : String} (h : Clean s.toList) :
    Clean (takeText n s).toList := by
  rw [takeText, String.toList_ofList]
  exact clean_of_subset h (List.take_subset n _)

@[simp] theorem clean_dropText {n : Nat} {s : String} (h : Clean s.toList) :
    Clean (dropText n s).toList := by
  rw [dropText, String.toList_ofList]
  exact clean_of_subset h (List.drop_subset n _)

@[simp] theorem clean_rstripChar {c : Char} {s : String} (h : Clean s.toList) :
    Clean (rstripChar c s).toList := by
  rw [rstripChar, String.toList_ofList]
  exact clean_of_subset h (List.rdropWhile_prefix _ _).subset

@[simp] theorem clean_zeros (n : Nat) : Clean (zeros n).toList := by
  rw [zeros, String.toList_ofList]
  intro c hc
  rw [List.eq_of_mem_replicate hc]
  rfl

@[simp] theorem clean_signText (x : ℚ) : Clean (signText x).toList := by
  unfold signText
  split <;> decide

@[simp] theorem clean_fixedText (places : Nat) (x : ℚ) : Clean (fixedText places x).toList := by
  simp [fixedText, isPlain]

@[simp] theorem clean_leading (places : Nat) (x : ℚ) : Clean (leading places x).1.toList := by
  simp [leading]

@[simp] theorem clean_exponentText (exponent : Int) : Clean (exponentText exponent).toList := by
  unfold exponentText
  dsimp only
  split <;> simp [isPlain]

theorem clean_decimalText (places : Nat) {point : String} (hpoint : Clean point.toList) (x : ℚ) :
    Clean (decimalText places point x).toList := by
  unfold decimalText
  dsimp only
  split_ifs <;> simp [isPlain, hpoint]

@[simp] theorem clean_numText (x : ℚ) : Clean (numText x).toList :=
  clean_decimalText 16 (by decide) x

@[simp] theorem clean_optNumText (x : Option ℚ) : Clean (optNumText x).toList := by
  cases x with
  | none => simp [optNumText, isPlain]
  | some x => exact clean_numText x

@[simp] theorem clean_twoDigits (n : Nat) : Clean (twoDigits n).toList := by
  unfold twoDigits
  split <;> simp [isPlain]

@[simp] theorem clean_signedText (x : ℚ) : Clean (signedText x).toList := by
  unfold signedText
  split <;> simp [isPlain]

@[simp] theorem clean_actionValue (a : SignalAction) : Clean a.value.toList := by
  cases a <;> decide

end Numbers

/-! ## The palette -/

namespace icons

def warning : String := "⚠️"
def success : String := "✅"
def failed : String := "❌"
def shield : String := "🛡️"
def alarm : String := "🚨"
def rejected : String := "🚫"
def sync : String := "🔄"
def admin : String := "⚡"
def unknown : String := "❓"
def gear : String := "⚙️"
def broker : String := "🔌"
def profit : String := "📈"
def loss : String := "📉"
def long : String := "📈"
def short : String := "📉"
def tp1 : String := "🎯"
def tp2 : String := "🚀"
def stopLoss : String := "⭕"
def flat : String := "🏳️"
def signal : String := "📡"
def cycleOpened : String := "⏳"
def cycleClosed : String := "🏁"

end icons

def divider : String := "----------------------------------"

/-! ## Settings -/

/-- What the presenters read of `settings_dict`. -/
structure PresenterSettings where
  marketType : MarketType
  volumeDecisionEnabled : Bool := false
  useCustomRiskPercentage : Bool := false
  riskPercentage : Option ℚ := none
  useAccountEquity : Option Bool := none
  useCustomPositionTp1Percent : Bool := false
  positionTp1Percent : Option ℚ := none
  tp1MoveSlToBreakeven : Option Bool := none
  maxOpenOrders : Option Int := none
  forexAllowMultiStrategyPerSymbol : Bool := false
  forexAllowMultiPositionsPerSymbol : Bool := false
  telegramMessageTimezone : Option ℚ := none

/-! ## Shared lines -/

/-- `f"{label}: <b>{value}</b>"`. -/
def field (label : String) (value : List Markup.Source) : Line :=
  [plain [own label, own ": "], bold value]

@[simp] theorem field_sound {label : String} {value : List Markup.Source} :
    (field label value).Sound ↔ Clean label.toList ∧ ∀ part ∈ value, part.Sound := by
  simp [field, isPlain]

@[simp] theorem field_unescaped (label : String) (value : List Markup.Source) :
    (field label value).unescaped = value.filterMap Markup.Source.unescaped? := by
  simp [field]

/-- A text that may be missing, as an f-string prints it. -/
def optText : Option String → Markup.Source
  | some s => input s
  | none => own "None"

@[simp] theorem optText_sound (o : Option String) : (optText o).Sound := by
  cases o with
  | none => exact (by decide : Clean "None".toList)
  | some s => trivial

@[simp] theorem optText_unescaped (o : Option String) (parts : List Markup.Source) :
    (optText o :: parts).filterMap Markup.Source.unescaped? =
      o.toList ++ parts.filterMap Markup.Source.unescaped? := by
  cases o <;> rfl

/-- The lines hold markup of the program's own only, and take these texts as they stand. -/
structure Takes (lines : List Line) (texts : List String) : Prop where
  sound : ∀ line ∈ lines, line.Sound
  unescaped : lines.flatMap Line.unescaped = texts

theorem Takes.append {lines lines' : List Line} {texts texts' : List String}
    (h : Takes lines texts) (h' : Takes lines' texts') :
    Takes (lines ++ lines') (texts ++ texts') :=
  ⟨List.forall_mem_append.mpr ⟨h.sound, h'.sound⟩, by
    rw [List.flatMap_append, h.unescaped, h'.unescaped]⟩

theorem Takes.nil : Takes [] [] := ⟨by simp, rfl⟩

theorem Takes.append_own {lines lines' : List Line} {texts : List String}
    (h : Takes lines texts) (h' : Takes lines' []) : Takes (lines ++ lines') texts := by
  simpa using h.append h'

/-- A line of settled texts takes nothing as it stands. -/
theorem Takes.settled {parts : List Markup.Source} (h : ∀ part ∈ parts, part.Settled) :
    Takes [[plain parts]] [] := by
  refine ⟨by simpa using fun part hpart => (h part hpart).1, ?_⟩
  simpa using fun part hpart => (h part hpart).2

theorem Takes.intercalate {α : Type} {sep : List Line} (hsep : Takes sep [])
    {lines : α → List Line} {texts : α → List String} (h : ∀ a, Takes (lines a) (texts a))
    (as : List α) : Takes (sep.intercalate (as.map lines)) (as.flatMap texts) := by
  induction as with
  | nil => exact Takes.nil
  | cons a as ih =>
      cases as with
      | nil => simpa using h a
      | cons a' as =>
          rw [List.map_cons, List.map_cons, List.intercalate_cons_cons, List.flatMap_cons]
          simpa using ((h a).append hsep).append ih

theorem divider_takes : Takes [[plain [own divider]]] [] :=
  Takes.settled (by simp [divider, isPlain])

namespace BaseMessagePresenter

/-- `pnl_line`, without its line end. -/
def pnlLine (profit : Option ℚ) (label : Markup.Source) : Line :=
  match profit with
  | none => [plain [label, own ": "], bold [own "n/a"]]
  | some x =>
      let icon := if 0 < x then icons.profit else if x < 0 then icons.loss else ""
      [plain [label, own ": "], bold [own (signedText x)]] ++
        if icon = "" then [] else [plain [own " ", own icon]]

def exitPnlLine (signal : Signal) (result : TradeResult) : List Line :=
  if signal.action.isEntry then [] else [pnlLine result.profit (own "PnL")]

def riskLine : Option (Option ℚ × Bool) → List Line
  | none => []
  | some (riskPercent, isCustom) =>
      [field "Risk" [own (optNumText riskPercent), own "%"] ++
        if isCustom then [plain [own " ", own icons.gear]] else []]

def fmtPercent : Option ℚ → String
  | none => "n/a"
  | some x => numText x ++ "%"

def overrideLine (label : String) (enabled : Bool) (value : String) : Line :=
  field label [own (if enabled then "ENABLED (" ++ value ++ ")" else "DISABLED")]

def resolveEquitySizing (signal : Signal) (settings : Option PresenterSettings) : Option Bool :=
  (settings.bind (·.useAccountEquity)) <|> signal.useEquitySizing

def autoSized (signal : Signal) (settings : Option PresenterSettings) : Bool :=
  match resolveEquitySizing signal settings with
  | some equitySizing => equitySizing
  | none => settings.any (·.volumeDecisionEnabled)

def useAccountEquityLine (s : PresenterSettings) : Line :=
  field "USE_ACCOUNT_EQUITY" [own (match s.useAccountEquity with
    | none => "PER SIGNAL"
    | some value => if value then "ENABLED" else "DISABLED")]

def volumeDecisionLine (s : PresenterSettings) : Line :=
  field "VOLUME_DECISION_ENABLED"
    [own (if s.volumeDecisionEnabled then "ENABLED" else "DISABLED")]

def riskPercentageLine (s : PresenterSettings) : Line :=
  overrideLine "RISK_PERCENTAGE" s.useCustomRiskPercentage (fmtPercent s.riskPercentage)

def tp1PercentLine (s : PresenterSettings) : Line :=
  overrideLine "POSITION_TP1_PERCENT" s.useCustomPositionTp1Percent
    (fmtPercent s.positionTp1Percent)

def tp1BeLine (s : PresenterSettings) : Line :=
  overrideLine "TP1_MOVE_SL_TO_BREAKEVEN" s.tp1MoveSlToBreakeven.isSome
    (if s.tp1MoveSlToBreakeven = some true then "true" else "false")

def overrideSection : Option PresenterSettings → List Line
  | none => []
  | some s => [[plain [own divider]], volumeDecisionLine s, riskPercentageLine s,
      useAccountEquityLine s, tp1PercentLine s, tp1BeLine s]

def tp1QtySuffix (signal : Signal) (settings : Option PresenterSettings) : String :=
  match settings with
  | none => ""
  | some s =>
      if signal.action ≠ .tp1 ∨ s.volumeDecisionEnabled = false then ""
      else
        let percent := if s.useCustomPositionTp1Percent then s.positionTp1Percent
          else signal.tp1Percent <|> s.positionTp1Percent
        let gear := if s.useCustomPositionTp1Percent then " " ++ icons.gear else ""
        match percent with
        | none => ""
        | some percent => " (TP1 " ++ numText percent ++ "%" ++ gear ++ ")"

def maxOpenOrdersLine (s : PresenterSettings) : List Line :=
  match s.maxOpenOrders with
  | none => []
  | some limit =>
      if limit ≤ 0 then [] else [field "MAX_OPEN_ORDERS" [own (toString limit)]]

/-- `_multi_strategy_line` of a market's own key; crypto has none. -/
def multiStrategyLine (s : PresenterSettings) : List Line :=
  if s.marketType = .forex ∧ s.forexAllowMultiStrategyPerSymbol then
    [field "FOREX_ALLOW_MULTI_STRATEGY_PER_SYMBOL" [own "ENABLED"]]
  else []

/-- `_multi_positions_line` of a market's own key. -/
def multiPositionsLine (s : PresenterSettings) : List Line :=
  if s.marketType = .forex ∧ s.forexAllowMultiPositionsPerSymbol then
    [field "FOREX_ALLOW_MULTI_POSITIONS_PER_SYMBOL" [own "ENABLED"]]
  else []

/-- The first line of a message and the blank one below it. -/
def heading (icon title : String) : List Line :=
  [[plain [own icon, own " "], bold [own title]], []]

def orderRejected (signal : Signal) (reason : String) : List Line :=
  heading icons.rejected "Order Rejected" ++
    [field "Symbol" [input signal.symbol], field "Strategy" [input signal.strategy],
      field "Action" [own signal.action.value], field "Reason" [escaped reason],
      [plain [own divider]]]

def positionUnprotectedClosed (signal : Signal) (result : TradeResult) : List Line :=
  let failsafe := result.slFailsafeClose
  let closed := failsafe.any (·.success)
  heading (if closed then icons.shield else icons.alarm)
      (if closed then "Unprotected Position — Emergency Closed"
        else "UNPROTECTED POSITION — STILL OPEN") ++
    [field "Symbol" [input signal.symbol], field "Strategy" [input signal.strategy],
      [plain [own "Reason: breakeven SL failed ("],
        bold [optText (result.slUpdate.map (·.comment))], plain [own ")"]]] ++
    (if closed then
      [[plain [own "Closed: "], bold [own (optNumText (failsafe.bind (·.volume)))],
          plain [own " @ "], bold [own (optNumText (failsafe.bind (·.price)))]],
        pnlLine result.profit (own "PnL (TP1 partial)"),
        pnlLine (failsafe.bind (·.profit)) (own "PnL (emergency close)")]
    else
      [[plain [own "Emergency close "], bold [own "FAILED"],
          plain [own ": ", optText (failsafe.map (·.comment))]],
        pnlLine result.profit (own "PnL (TP1 partial)"),
        [bold [own "Manual intervention required."]]]) ++
    [[plain [own divider]]]

/-! What the shared lines hold. -/

section Takes

@[simp] theorem pnlLine_sound {profit : Option ℚ} {label : Markup.Source} :
    (pnlLine profit label).Sound ↔ label.Sound := by
  unfold pnlLine
  cases profit with
  | none => simp [isPlain]
  | some x =>
      dsimp only
      split_ifs <;> simp [isPlain, icons.profit, icons.loss]

/-- The line takes its label as it stands, if the label is an input. -/
@[simp] theorem pnlLine_unescaped (profit : Option ℚ) (label : Markup.Source) :
    (pnlLine profit label).unescaped = [label].filterMap Markup.Source.unescaped? := by
  unfold pnlLine
  cases profit with
  | none => cases label <;> simp
  | some x =>
      dsimp only
      split_ifs <;> cases label <;> simp

theorem exitPnlLine_takes (signal : Signal) (result : TradeResult) :
    Takes (exitPnlLine signal result) [] := by
  unfold exitPnlLine
  split
  · exact Takes.nil
  · exact ⟨by simp [isPlain], by simp⟩

theorem riskLine_takes (riskInfo : Option (Option ℚ × Bool)) : Takes (riskLine riskInfo) [] := by
  rcases riskInfo with _ | ⟨percent, custom⟩
  · exact ⟨by simp [riskLine], rfl⟩
  · cases custom with
    | true => exact ⟨by simp [riskLine, isPlain, icons.gear], by simp [riskLine]⟩
    | false => exact ⟨by simp [riskLine, isPlain], by simp [riskLine]⟩

@[simp] theorem clean_fmtPercent (x : Option ℚ) : Clean (fmtPercent x).toList := by
  cases x <;> simp [fmtPercent, isPlain]

@[simp] theorem overrideLine_sound {label value : String} {enabled : Bool} :
    (overrideLine label enabled value).Sound ↔
      Clean label.toList ∧ (enabled = true → Clean value.toList) := by
  cases enabled <;> simp [overrideLine, isPlain]

@[simp] theorem overrideLine_unescaped (label value : String) (enabled : Bool) :
    (overrideLine label enabled value).unescaped = [] := by
  simp [overrideLine]

theorem overrideSection_takes (settings : Option PresenterSettings) :
    Takes (overrideSection settings) [] := by
  cases settings with
  | none => exact ⟨by simp [overrideSection], rfl⟩
  | some s =>
      refine ⟨?_, by simp [overrideSection, volumeDecisionLine, riskPercentageLine,
        useAccountEquityLine, tp1PercentLine, tp1BeLine]⟩
      have hequity : (useAccountEquityLine s).Sound := by
        unfold useAccountEquityLine
        rcases s.useAccountEquity with _ | value
        · simp [isPlain]
        · cases value <;> simp [isPlain]
      have hvolume : (volumeDecisionLine s).Sound := by
        unfold volumeDecisionLine
        split <;> simp [isPlain]
      have hbreakeven : (tp1BeLine s).Sound := by
        unfold tp1BeLine
        split <;> simp [isPlain]
      simp [overrideSection, riskPercentageLine, tp1PercentLine, hequity, hvolume, hbreakeven,
        divider, isPlain]

theorem clean_tp1QtySuffix (signal : Signal) (settings : Option PresenterSettings) :
    Clean (tp1QtySuffix signal settings).toList := by
  unfold tp1QtySuffix
  split
  · simp
  · split
    · simp
    · dsimp only
      split
      · simp
      · split_ifs <;> simp [isPlain, icons.gear]

theorem maxOpenOrdersLine_takes (s : PresenterSettings) : Takes (maxOpenOrdersLine s) [] := by
  unfold maxOpenOrdersLine
  split
  · exact Takes.nil
  · split
    · exact Takes.nil
    · exact ⟨by simp [isPlain], by simp⟩

theorem multiStrategyLine_takes (s : PresenterSettings) : Takes (multiStrategyLine s) [] := by
  unfold multiStrategyLine
  split
  · exact ⟨by simp [isPlain], by simp⟩
  · exact Takes.nil

theorem multiPositionsLine_takes (s : PresenterSettings) : Takes (multiPositionsLine s) [] := by
  unfold multiPositionsLine
  split
  · exact ⟨by simp [isPlain], by simp⟩
  · exact Takes.nil

end Takes

end BaseMessagePresenter

open BaseMessagePresenter

/-! ## Forex -/

def formatVolume (volume : Option ℚ) (autoCalculated : Bool) : String :=
  optNumText volume ++ " lot" ++ if autoCalculated then " " ++ icons.gear else ""

namespace ForexMessagePresenter

def forceClosed (symbol strategy : String) (fc : ForcedClosed) : List Line :=
  heading icons.warning "Force Closed (New Entry)" ++
    [field "Symbol" [input symbol], field "Strategy" [input strategy],
      field "Price" [own (optNumText fc.price)],
      field "Volume" [own (formatVolume fc.volume false)],
      field "Ticket" [input fc.refId], field "Source Ticket" [input fc.refSourceId],
      pnlLine fc.profit (own "PnL"), [plain [own divider]]]

def marginCutNote (result : TradeResult) : Line :=
  match result.requestedVolume with
  | none => []
  | some requested => [plain [own " ", own icons.warning, own " (sized ",
      own (numText requested), own ", cut to fit free margin)"]]

/-- A level of `_stops_lines`: the one placed, and the one asked for where it differs. -/
def stopsLine (label : String) (placed requested : Option ℚ) : List Line :=
  let asked : Line := [plain [own " ", own icons.warning, own " (signal asked ",
    own (optNumText requested), own ")"]]
  match placed with
  | none => if requested.isSome then [field label [own "none"] ++ asked] else []
  | some level => [field label [own (numText level)] ++
      if requested.isSome ∧ requested ≠ some level then asked else []]

def stopsLines (signal : Signal) (result : TradeResult) : List Line :=
  stopsLine "SL" result.sl signal.sl ++ stopsLine "TP" result.tp signal.tp2

end ForexMessagePresenter

def scaleLine (label : String) : Option ℚ → List Line
  | none => []
  | some level => [field label [own (numText level)]]

/-- The head of `_scale_lines`. -/
def scaledPosition : Line := [plain [own icons.gear, own " "], bold [own "Scaled Position"]]

namespace ForexMessagePresenter

def scaleLines (signal : Signal) : List Line :=
  if signal.isScalePosition = some true then
    [scaledPosition] ++ scaleLine "TP1" signal.tp1 ++ scaleLine "TP2" signal.tp2 ++
      scaleLine "SL" signal.sl
  else []

def orderFilled (signal : Signal) (result : TradeResult) (posTicket : Option String)
    (riskInfo : Option (Option ℚ × Bool)) (settings : Option PresenterSettings) : List Line :=
  heading icons.success "Order Filled" ++
    [field "Symbol" [input signal.symbol], field "Strategy" [input signal.strategy],
      field "Action" [own signal.action.value], field "Price" [own (optNumText result.price)],
      field "Volume" [own (formatVolume result.volume (autoSized signal settings)),
        own (tp1QtySuffix signal settings)] ++ marginCutNote result,
      field "Ticket" [optText result.ticket], field "Source Ticket" [optText posTicket]] ++
    exitPnlLine signal result ++ stopsLines signal result ++ scaleLines signal ++
    riskLine riskInfo ++ overrideSection settings ++ [[plain [own divider]]]

/-- The return code of `order_failed`. -/
def retcodeText : Option Int → String
  | none => "None"
  | some code => toString code

/-- The error line of `order_failed`. -/
def errorLine (result : TradeResult) : Line :=
  field "Error" [input result.comment] ++
    [plain [own " (Code "], bold [own (retcodeText result.retcode)], plain [own ")"]]

def orderFailed (signal : Signal) (result : TradeResult) : List Line :=
  heading icons.failed "Order Failed" ++
    [field "Symbol" [input signal.symbol], field "Strategy" [input signal.strategy],
      field "Action" [own signal.action.value], field "Price" [own (optNumText result.price)],
      errorLine result, [plain [own divider]]]

def positionReconciledClosed (row : Row) (closePrice profit : Option ℚ) : List Line :=
  heading icons.sync "Position Reconciled — Closed on Broker" ++
    [[plain [own "The position is "], bold [own "no longer open"],
        plain [own " on the platform; the DB was synced from live state."]],
      field "Symbol" [input row.symbol], field "Strategy" [input row.strategy],
      field "Volume" [own (numText row.volume), own " lot"],
      field "Approx Close" [own (optNumText closePrice)],
      field "Source Ticket" [input row.refSourceId],
      pnlLine profit (own "PnL (position total)"), [plain [own divider]]]

def adminFlatClosed (row : Row) (result : TradeResult) : List Line :=
  heading icons.admin "Admin FLAT Closed" ++
    [field "Symbol" [input row.symbol], field "Strategy" [input row.strategy],
      field "Price" [own (optNumText result.price)],
      field "Volume" [own (optNumText result.volume), own " lot"],
      field "Ticket" [optText result.ticket], field "Source Ticket" [input row.refSourceId],
      pnlLine result.profit (own "PnL"), [plain [own divider]]]

end ForexMessagePresenter

/-! ## Crypto -/

namespace CryptoMessagePresenter

def forceClosed (symbol strategy : String) (fc : ForcedClosed) : List Line :=
  heading icons.warning "Force Closed (New Entry)" ++
    [field "Symbol" [input symbol], field "Strategy" [input strategy],
      field "Price" [own (optNumText fc.price)], field "Quantity" [own (optNumText fc.volume)],
      field "Order" [input fc.refId], field "Source" [input fc.refSourceId],
      pnlLine fc.profit (own "PnL"), [plain [own divider]]]

def scaleLines (signal : Signal) : List Line :=
  if signal.isScalePosition = some true then
    [scaledPosition] ++ scaleLine "TP1" signal.tp1 ++ scaleLine "TP2" signal.tp2
  else []

def slLine (signal : Signal) (result : TradeResult) : List Line :=
  match result.slUpdate with
  | none => []
  | some slRes =>
      if slRes.success then
        match num? (num? slRes.newSl <|> signal.sl) with
        | some price => [[plain [own "SL: "], bold [own (numText price)],
            plain [own " ", own icons.success]]]
        | none => [[plain [own "SL: ", own icons.success]]]
      else [[plain [own icons.warning, own " "], bold [own "SL NOT SET"],
        plain [own " (", input slRes.comment, own ")"]]]

def orderFilled (signal : Signal) (result : TradeResult) (posTicket : Option String)
    (riskInfo : Option (Option ℚ × Bool)) (settings : Option PresenterSettings) : List Line :=
  heading icons.success "Order Filled" ++
    [field "Symbol" [input signal.symbol], field "Strategy" [input signal.strategy],
      field "Action" [own signal.action.value], field "Price" [own (optNumText result.price)],
      field "Quantity" [own (optNumText result.volume), own (tp1QtySuffix signal settings)],
      field "Order" [optText result.ticket], field "Source" [optText posTicket]] ++
    exitPnlLine signal result ++ scaleLines signal ++ slLine signal result ++
    riskLine riskInfo ++ overrideSection settings ++ [[plain [own divider]]]

/-- `order_failed`, which shows no price. -/
def orderFailed (signal : Signal) (result : TradeResult) : List Line :=
  heading icons.failed "Order Failed" ++
    [field "Symbol" [input signal.symbol], field "Strategy" [input signal.strategy],
      field "Action" [own signal.action.value], ForexMessagePresenter.errorLine result,
      [plain [own divider]]]

def positionReconciledClosed (row : Row) (closePrice profit : Option ℚ) : List Line :=
  heading icons.sync "Position Reconciled — Closed on Exchange" ++
    [[plain [own "A fill event was "], bold [own "missed"],
        plain [own "; the DB was synced from live exchange state."]],
      field "Symbol" [input row.symbol], field "Strategy" [input row.strategy],
      field "Approx Close" [own (optNumText closePrice)],
      field "Source" [input row.refSourceId], pnlLine profit (own "PnL (est.)"),
      [plain [own divider]]]

def adminFlatClosed (row : Row) (result : TradeResult) : List Line :=
  heading icons.admin "Admin FLAT Closed" ++
    [field "Symbol" [input row.symbol], field "Strategy" [input row.strategy],
      field "Price" [own (optNumText result.price)],
      field "Quantity" [own (optNumText result.volume)],
      field "Order" [optText result.ticket], field "Source" [input row.refSourceId],
      pnlLine result.profit (own "PnL"), [plain [own divider]]]

end CryptoMessagePresenter

end TradeWorker
