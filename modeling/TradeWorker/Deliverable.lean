import TradeWorker.CyclePresenter

/-!
# Which messages can be delivered

A chat takes a message only if its markup is well formed. The templates are; what they
interpolate mostly goes in as it stands. So a message can be delivered exactly when the texts
it takes unescaped hold no markup.
-/

namespace TradeWorker

open Markup (Line Clean Inline WellFormed isPlain block)

/-! ## The messages -/

/-- A message about a trade: the presenter's method and its arguments. -/
inductive TradeMessage where
  | orderRejected (signal : Signal) (reason : String)
  | positionUnprotectedClosed (signal : Signal) (result : TradeResult)
  | forceClosed (symbol strategy : String) (fc : ForcedClosed)
  | orderFilled (signal : Signal) (result : TradeResult) (posTicket : Option String)
      (riskInfo : Option (Option ℚ × Bool)) (settings : Option PresenterSettings)
  | orderFailed (signal : Signal) (result : TradeResult)
  | adminFlatClosed (row : Row) (result : TradeResult)
  | positionReconciledClosed (row : Row) (closePrice profit : Option ℚ)

namespace TradeMessage

def lines : MarketType → TradeMessage → List Line
  | _, orderRejected signal reason => BaseMessagePresenter.orderRejected signal reason
  | _, positionUnprotectedClosed signal result =>
      BaseMessagePresenter.positionUnprotectedClosed signal result
  | .forex, forceClosed symbol strategy fc =>
      ForexMessagePresenter.forceClosed symbol strategy fc
  | .crypto, forceClosed symbol strategy fc =>
      CryptoMessagePresenter.forceClosed symbol strategy fc
  | .forex, orderFilled signal result posTicket riskInfo settings =>
      ForexMessagePresenter.orderFilled signal result posTicket riskInfo settings
  | .crypto, orderFilled signal result posTicket riskInfo settings =>
      CryptoMessagePresenter.orderFilled signal result posTicket riskInfo settings
  | .forex, orderFailed signal result => ForexMessagePresenter.orderFailed signal result
  | .crypto, orderFailed signal result => CryptoMessagePresenter.orderFailed signal result
  | .forex, adminFlatClosed row result => ForexMessagePresenter.adminFlatClosed row result
  | .crypto, adminFlatClosed row result => CryptoMessagePresenter.adminFlatClosed row result
  | .forex, positionReconciledClosed row closePrice profit =>
      ForexMessagePresenter.positionReconciledClosed row closePrice profit
  | .crypto, positionReconciledClosed row closePrice profit =>
      CryptoMessagePresenter.positionReconciledClosed row closePrice profit

/-- The comment of a stop that could not be set, which a crypto fill shows. -/
def stopComment (result : TradeResult) : Option String :=
  result.slUpdate.bind fun slRes => if slRes.success then none else some slRes.comment

def failsafeComment (result : TradeResult) : Option String :=
  result.slFailsafeClose.bind fun failsafe =>
    if failsafe.success then none else some failsafe.comment

/-- The texts a message takes from its arguments unescaped. -/
def texts : MarketType → TradeMessage → List String
  | _, orderRejected signal _ => [signal.symbol, signal.strategy]
  | _, positionUnprotectedClosed signal result => [signal.symbol, signal.strategy] ++
      (result.slUpdate.map (·.comment)).toList ++ (failsafeComment result).toList
  | _, forceClosed symbol strategy fc => [symbol, strategy, fc.refId, fc.refSourceId]
  | .forex, orderFilled signal result posTicket _ _ => [signal.symbol, signal.strategy] ++
      result.ticket.toList ++ posTicket.toList
  | .crypto, orderFilled signal result posTicket _ _ => [signal.symbol, signal.strategy] ++
      result.ticket.toList ++ posTicket.toList ++ (stopComment result).toList
  | _, orderFailed signal result => [signal.symbol, signal.strategy, result.comment]
  | _, adminFlatClosed row result => [row.symbol, row.strategy] ++ result.ticket.toList ++
      [row.refSourceId]
  | _, positionReconciledClosed row _ _ => [row.symbol, row.strategy, row.refSourceId]

end TradeMessage

open BaseMessagePresenter

/-! ## What the lines of a trade take -/

theorem heading_takes {icon title : String} (hicon : Clean icon.toList)
    (htitle : Clean title.toList) : Takes (heading icon title) [] :=
  ⟨by simp [heading, hicon, htitle, isPlain], by simp [heading]⟩

theorem orderRejected_takes (signal : Signal) (reason : String) :
    Takes (orderRejected signal reason) [signal.symbol, signal.strategy] :=
  (heading_takes (by decide) (by decide)).append ⟨by simp [isPlain, divider], by simp⟩

theorem positionUnprotectedClosed_takes (signal : Signal) (result : TradeResult) :
    Takes (positionUnprotectedClosed signal result)
      ([signal.symbol, signal.strategy] ++ (result.slUpdate.map (·.comment)).toList ++
        (TradeMessage.failsafeComment result).toList) := by
  unfold positionUnprotectedClosed TradeMessage.failsafeComment
  constructor
  · simp only [List.forall_mem_append]
    refine ⟨⟨⟨?_, by simp [isPlain]⟩, ?_⟩, divider_takes.sound⟩
    · split <;> exact (heading_takes (by decide) (by decide)).sound
    · split <;> simp [isPlain]
  · rcases result.slFailsafeClose with _ | failsafe
    · simp [heading]
    · cases hs : failsafe.success <;> simp [hs, heading]

/-! ## Forex and crypto -/

@[simp] theorem clean_formatVolume (volume : Option ℚ) (auto : Bool) :
    Clean (formatVolume volume auto).toList := by
  cases auto <;> simp [formatVolume, isPlain, icons.gear]

theorem marginCutNote_sound (result : TradeResult) :
    (ForexMessagePresenter.marginCutNote result).Sound := by
  unfold ForexMessagePresenter.marginCutNote
  split <;> simp [isPlain, icons.warning]

@[simp] theorem marginCutNote_unescaped (result : TradeResult) :
    (ForexMessagePresenter.marginCutNote result).unescaped = [] := by
  unfold ForexMessagePresenter.marginCutNote
  split <;> simp

theorem stopsLine_takes {label : String} (hlabel : Clean label.toList)
    (placed requested : Option ℚ) :
    Takes (ForexMessagePresenter.stopsLine label placed requested) [] := by
  unfold ForexMessagePresenter.stopsLine
  cases placed with
  | none =>
      dsimp only
      split
      · exact ⟨by simp [hlabel, isPlain, icons.warning], by simp⟩
      · exact Takes.nil
  | some level =>
      dsimp only
      split
      · exact ⟨by simp [hlabel, isPlain, icons.warning], by simp⟩
      · exact ⟨by simp [hlabel], by simp⟩

theorem scaleLine_takes {label : String} (hlabel : Clean label.toList) (level : Option ℚ) :
    Takes (scaleLine label level) [] := by
  cases level with
  | none => exact ⟨by simp [scaleLine], rfl⟩
  | some level => exact ⟨by simp [scaleLine, hlabel], by simp [scaleLine]⟩

theorem scaledPosition_takes : Takes [scaledPosition] [] :=
  ⟨by simp [scaledPosition, isPlain, icons.gear], by simp [scaledPosition]⟩

theorem forex_scaleLines_takes (signal : Signal) :
    Takes (ForexMessagePresenter.scaleLines signal) [] := by
  unfold ForexMessagePresenter.scaleLines
  split
  · exact ((scaledPosition_takes.append (scaleLine_takes (by decide) _)).append
      (scaleLine_takes (by decide) _)).append (scaleLine_takes (by decide) _)
  · exact Takes.nil

theorem crypto_scaleLines_takes (signal : Signal) :
    Takes (CryptoMessagePresenter.scaleLines signal) [] := by
  unfold CryptoMessagePresenter.scaleLines
  split
  · exact (scaledPosition_takes.append (scaleLine_takes (by decide) _)).append
      (scaleLine_takes (by decide) _)
  · exact Takes.nil

@[simp] theorem clean_retcodeText (code : Option Int) :
    Clean (ForexMessagePresenter.retcodeText code).toList := by
  cases code <;> simp [ForexMessagePresenter.retcodeText, isPlain]

theorem slLine_takes (signal : Signal) (result : TradeResult) :
    Takes (CryptoMessagePresenter.slLine signal result)
      (TradeMessage.stopComment result).toList := by
  unfold CryptoMessagePresenter.slLine TradeMessage.stopComment
  rcases result.slUpdate with _ | slRes
  · exact Takes.nil
  · cases hs : slRes.success with
    | true =>
        simp only [hs, if_true]
        split
        · exact ⟨by simp [isPlain, icons.success], by simp [hs]⟩
        · exact ⟨by simp [isPlain, icons.success], by simp [hs]⟩
    | false => exact ⟨by simp [hs, isPlain, icons.warning], by simp [hs]⟩

namespace TradeMessage

variable (market : MarketType)

theorem forceClosed_takes (symbol strategy : String) (fc : ForcedClosed) :
    Takes ((forceClosed symbol strategy fc).lines market)
      ((forceClosed symbol strategy fc).texts market) := by
  cases market with
  | forex =>
      simp only [lines, texts, ForexMessagePresenter.forceClosed]
      exact (heading_takes (by decide) (by decide)).append
        ⟨by simp [isPlain, divider], by simp⟩
  | crypto =>
      simp only [lines, texts, CryptoMessagePresenter.forceClosed]
      exact (heading_takes (by decide) (by decide)).append
        ⟨by simp [isPlain, divider], by simp⟩

theorem orderFailed_takes (signal : Signal) (result : TradeResult) :
    Takes ((orderFailed signal result).lines market)
      ((orderFailed signal result).texts market) := by
  cases market with
  | forex =>
      simp only [lines, texts, ForexMessagePresenter.orderFailed,
        ForexMessagePresenter.errorLine]
      exact (heading_takes (by decide) (by decide)).append
        ⟨by simp [isPlain, divider], by simp⟩
  | crypto =>
      simp only [lines, texts, CryptoMessagePresenter.orderFailed,
        ForexMessagePresenter.errorLine]
      exact (heading_takes (by decide) (by decide)).append
        ⟨by simp [isPlain, divider], by simp⟩

theorem adminFlatClosed_takes (row : Row) (result : TradeResult) :
    Takes ((adminFlatClosed row result).lines market)
      ((adminFlatClosed row result).texts market) := by
  cases market with
  | forex =>
      simp only [lines, texts, ForexMessagePresenter.adminFlatClosed]
      exact (heading_takes (by decide) (by decide)).append
        ⟨by simp [isPlain, divider], by simp⟩
  | crypto =>
      simp only [lines, texts, CryptoMessagePresenter.adminFlatClosed]
      exact (heading_takes (by decide) (by decide)).append
        ⟨by simp [isPlain, divider], by simp⟩

theorem positionReconciledClosed_takes (row : Row) (closePrice profit : Option ℚ) :
    Takes ((positionReconciledClosed row closePrice profit).lines market)
      ((positionReconciledClosed row closePrice profit).texts market) := by
  cases market with
  | forex =>
      simp only [lines, texts, ForexMessagePresenter.positionReconciledClosed]
      exact (heading_takes (by decide) (by decide)).append
        ⟨by simp [isPlain, divider], by simp⟩
  | crypto =>
      simp only [lines, texts, CryptoMessagePresenter.positionReconciledClosed]
      exact (heading_takes (by decide) (by decide)).append
        ⟨by simp [isPlain, divider], by simp⟩

theorem orderFilled_takes (signal : Signal) (result : TradeResult) (posTicket : Option String)
    (riskInfo : Option (Option ℚ × Bool)) (settings : Option PresenterSettings) :
    Takes ((orderFilled signal result posTicket riskInfo settings).lines market)
      ((orderFilled signal result posTicket riskInfo settings).texts market) := by
  have hheading : Takes (heading icons.success "Order Filled") [] :=
    heading_takes (by decide) (by decide)
  have hsuffix := clean_tp1QtySuffix signal settings
  have hexit := exitPnlLine_takes signal result
  have hend := ((riskLine_takes riskInfo).append (overrideSection_takes settings)).append
    divider_takes
  cases market with
  | forex =>
      have hfields : Takes [
          field "Symbol" [.input signal.symbol], field "Strategy" [.input signal.strategy],
          field "Action" [.own signal.action.value],
          field "Price" [.own (optNumText result.price)],
          field "Volume" [.own (formatVolume result.volume (autoSized signal settings)),
            .own (tp1QtySuffix signal settings)] ++ ForexMessagePresenter.marginCutNote result,
          field "Ticket" [optText result.ticket], field "Source Ticket" [optText posTicket]]
          ([signal.symbol, signal.strategy] ++ result.ticket.toList ++ posTicket.toList) :=
        ⟨by simp [isPlain, hsuffix, marginCutNote_sound result], by simp⟩
      have hstops : Takes (ForexMessagePresenter.stopsLines signal result) [] :=
        (stopsLine_takes (by decide) _ _).append (stopsLine_takes (by decide) _ _)
      have hall := (hheading.append hfields).append
        ((hexit.append hstops).append ((forex_scaleLines_takes signal).append hend))
      simpa [lines, texts, ForexMessagePresenter.orderFilled] using hall
  | crypto =>
      have hfields : Takes [
          field "Symbol" [.input signal.symbol], field "Strategy" [.input signal.strategy],
          field "Action" [.own signal.action.value],
          field "Price" [.own (optNumText result.price)],
          field "Quantity" [.own (optNumText result.volume), .own (tp1QtySuffix signal settings)],
          field "Order" [optText result.ticket], field "Source" [optText posTicket]]
          ([signal.symbol, signal.strategy] ++ result.ticket.toList ++ posTicket.toList) :=
        ⟨by simp [isPlain, hsuffix], by simp⟩
      have hall := (hheading.append hfields).append
        ((hexit.append (crypto_scaleLines_takes signal)).append
          ((slLine_takes signal result).append hend))
      simpa [lines, texts, CryptoMessagePresenter.orderFilled] using hall

/-- Every message of a trade takes its texts as listed, and no other. -/
theorem lines_take (m : TradeMessage) : Takes (m.lines market) (m.texts market) := by
  cases m with
  | orderRejected signal reason =>
      cases market <;> exact orderRejected_takes signal reason
  | positionUnprotectedClosed signal result =>
      cases market <;> exact positionUnprotectedClosed_takes signal result
  | forceClosed symbol strategy fc => exact forceClosed_takes market symbol strategy fc
  | orderFilled signal result posTicket riskInfo settings =>
      exact orderFilled_takes market signal result posTicket riskInfo settings
  | orderFailed signal result => exact orderFailed_takes market signal result
  | adminFlatClosed row result => exact adminFlatClosed_takes market row result
  | positionReconciledClosed row closePrice profit =>
      exact positionReconciledClosed_takes market row closePrice profit

end TradeMessage

/-! ## Messages -/

def box (text : List Char) : List Char :=
  "<pre>".toList ++ Markup.trim Chars.isSpace text ++ "</pre>".toList

theorem box_wellFormed {text : List Char} (h : Markup.Keeps [.pre] text) :
    WellFormed (box text) := by
  refine (h.trim fun c hc => ?_).wellFormed
  have hne (c' : Char) (hc' : Chars.isSpace c' = false) : c ≠ c' := by
    rintro rfl
    rw [hc] at hc'
    cases hc'
  simp only [isPlain, Bool.and_eq_true, decide_eq_true_eq]
  exact ⟨⟨⟨hne '<' (by decide), hne '>' (by decide)⟩, hne '&' (by decide)⟩,
    hne ';' (by decide)⟩

/-- A message about a trade, or the message of a cycle. -/
inductive TradeNotification where
  | trade (market : MarketType) (message : TradeMessage)
  | cycle (view : CycleView) (settings : Option PresenterSettings)

namespace TradeNotification

def lines : TradeNotification → List Line
  | trade market message => message.lines market
  | cycle view settings => CyclePresenter.lines view settings

def text (footer : String) : TradeNotification → List Char
  | trade market message => box (block (message.lines market) [footer.toList])
  | cycle view settings => box (CyclePresenter.formatCycleMessage view settings footer)

/-- The texts it takes from its arguments unescaped. -/
def texts : TradeNotification → List String
  | trade market message => message.texts market
  | cycle view _ => view.events.flatMap CyclePresenter.eventTexts

/-- The text is well formed, and no character of an argument is taken for markup. -/
structure Deliverable (footer : String) (n : TradeNotification) : Prop where
  wellFormed : WellFormed (n.text footer)
  escaped : ∀ line ∈ n.lines, ∀ s ∈ line.unescaped, Clean s.toList

/-- The texts of the lines are those of the arguments. -/
theorem escaped_iff (n : TradeNotification) :
    (∀ line ∈ n.lines, ∀ s ∈ line.unescaped, Clean s.toList) ↔
      ∀ s ∈ n.texts, Clean s.toList := by
  have hflat (lines : List Line) : (∀ line ∈ lines, ∀ s ∈ line.unescaped, Clean s.toList) ↔
      ∀ s ∈ lines.flatMap Line.unescaped, Clean s.toList := by
    simp only [List.mem_flatMap]
    exact ⟨fun h s ⟨line, hline, hs⟩ => h line hline s hs,
      fun h line hline s hs => h s ⟨line, hline, hs⟩⟩
  rw [hflat]
  cases n with
  | trade market message =>
      rw [lines, texts, (TradeMessage.lines_take market message).unescaped]
  | cycle view settings =>
      rw [lines, texts, (CyclePresenter.lines_take view settings).unescaped]
      constructor
      · exact fun h s hs => h s (List.mem_append_right _ hs)
      · exact fun h => CyclePresenter.clean_texts h

/-- With a footer that keeps to its block, a message is deliverable exactly when the texts
it takes unescaped hold no markup. -/
theorem deliverable_iff (n : TradeNotification) {footer : String}
    (hfooter : Markup.Keeps [.pre] footer.toList) :
    n.Deliverable footer ↔ ∀ s ∈ n.texts, Clean s.toList := by
  refine ⟨fun h => n.escaped_iff.mp h.escaped, fun h => ⟨?_, n.escaped_iff.mpr h⟩⟩
  have hlines := n.escaped_iff.mpr h
  cases n with
  | trade market message =>
      refine box_wellFormed (Markup.block_keeps ?_ (by simpa using hfooter) hlines)
      exact (TradeMessage.lines_take market message).sound
  | cycle view settings =>
      exact box_wellFormed (CyclePresenter.formatCycleMessage_keeps settings hfooter h)

def failedEntry : Signal :=
  { strategy := "trend", timestamp := 1000, action := .long, symbol := "BTCUSDT" }

/-- An order that failed, with the text of its error. -/
def failedWith (comment : String) : TradeNotification :=
  trade .crypto (.orderFailed failedEntry { success := false, comment := comment })

theorem plainError_deliverable :
    Markup.Keeps [.pre] "balance <b>1000</b>".toList ∧
      (failedWith "Margin is insufficient.").Deliverable "balance <b>1000</b>" := by
  have hfooter : Markup.Keeps [.pre] "balance <b>1000</b>".toList := by decide +kernel
  refine ⟨hfooter, (deliverable_iff (failedWith "Margin is insufficient.") hfooter).mpr ?_⟩
  decide +kernel

/-- The text of an exception that names an object. -/
def connectionError : TradeNotification :=
  failedWith "NewConnectionError('<urllib3.connection.HTTPSConnection object>: refused')"

/-- The object's name is read as a tag, and the message is refused. -/
theorem connectionError_undeliverable :
    Markup.Keeps [.pre] "balance <b>1000</b>".toList ∧
      ¬ WellFormed (connectionError.text "balance <b>1000</b>") ∧
      ¬ connectionError.Deliverable "balance <b>1000</b>" := by
  have htext : ¬ WellFormed (connectionError.text "balance <b>1000</b>") := by decide +kernel
  exact ⟨by decide +kernel, htext, fun h => htext h.wellFormed⟩

end TradeNotification

end TradeWorker
