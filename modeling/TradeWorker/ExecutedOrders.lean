import TradeWorker.Hearing

/-!
# Executed orders

What the answers of a handling say of the orders it sent. A handler that returns reports an
exit as a success when a close was answered as executed, and an entry when its order was, with
all that its row needs, and no stop was refused. From the first order on, every call that
raises ends the handling, but for the profit lookup and the reads of the store.
-/

namespace TradeWorker

variable {signal : Signal} {F : Told → Prop}

/-! ## Exits -/

/-- An order of an exit is counted when it is answered as executed. -/
theorem tells_exit_order {o : WorkerOp} {c : Bool} {success : o.Ans → Bool}
    (hexit : signal.action.isEntry = false) (horders : o.orders = true)
    (hconfirms : ∀ a, signal.confirms o (.ok a) = success a) :
    Tells signal (·.confirmed = c) (Prog.perform o) fun t a => t.confirmed = (c || success a) := by
  have hrest : o.spared = false ∧ o.logs = false ∧ ∀ a, signal.refuses o (.ok a) = false := by
    cases o with
    | db | host => cases horders
    | fx o => exact ⟨rfl, rfl, fun _ => rfl⟩
    | cx o => cases o <;> first | exact ⟨rfl, rfl, fun _ => rfl⟩ | cases horders
  refine tells_perform hrest.1 hrest.2.1 fun t a ht hc => ?_
  have howns : signal.owns o = true := by simp [Signal.owns, hexit, horders]
  have hhear : t.hear signal o (.ok a) =
      { t with sent := true, confirmed := c || success a } := by
    rw [← hc, ← hconfirms]
    simp [Told.hear, howns, hrest, Except.isOk, Except.toBool]
  rw [hhear]
  exact ⟨⟨ht.silenced, ht.unsettled, ht.logged, fun _ => rfl⟩, rfl⟩

/-- How many closes a result stands for is nothing or something. -/
abbrev Counts (c : Bool) (t : Told) (result : TradeResult) : Prop :=
  t.confirmed = (c || result.success)

theorem storeRead_tells (strategy symbol : String) (uxid : Option String) :
    Tells signal F (getOpenPositionsByStrategy strategy symbol uxid) fun t _ => F t :=
  tells_swallow rfl rfl rfl fun _ => rfl

namespace CryptoExecutor

variable (ex : CryptoExecutor)

theorem getOpenPositions_tells (symbol : String) :
    Tells signal F (ex.getOpenPositions symbol) fun t _ => F t :=
  (tells_plain (by rfl) rfl rfl fun _ => rfl).map fun _ _ h => h

theorem closeClientOrderId_tells : Tells signal F closeClientOrderId fun t _ => F t :=
  (tells_plain (by rfl) rfl rfl fun _ => rfl).map fun _ _ h => h

theorem entryPriceFromDb_tells (symbol : String) (strategy : Option String) :
    Tells signal F (entryPriceFromDb symbol strategy) fun t _ => F t := by
  unfold entryPriceFromDb
  split
  · exact Tells.ret fun _ h => h
  · exact (storeRead_tells ..).map fun _ _ h => h

theorem recoverEntryTp2_tells (symbol : String) (strategy : Option String) :
    Tells signal F (recoverEntryTp2 symbol strategy) fun t _ => F t := by
  unfold recoverEntryTp2
  split
  · exact Tells.ret fun _ h => h
  · exact (storeRead_tells ..).map fun _ _ h => h

theorem attachRealizedPnl_tells (result : TradeResult) (pos : ExchangePosition)
    (closePrice entryPrice : Option ℚ) :
    Tells signal F (attachRealizedPnl result pos closePrice entryPrice) fun t attached =>
      F t ∧ attached.success = result.success := by
  unfold attachRealizedPnl
  split
  · exact Tells.ret fun _ h => ⟨h, rfl⟩
  · dsimp only
    split
    · exact Tells.ret fun _ h => ⟨h, rfl⟩
    · exact (tells_swallow rfl rfl rfl fun _ => rfl).map fun _ _ h => ⟨h, rfl⟩

section Exits

variable (hexit : signal.action.isEntry = false) (c : Bool)
include hexit

theorem placeMarketOrder_tells (symbol : String) (side : Side) (quantity : ℚ)
    (reduceOnly : Bool) (id : String) :
    Tells signal (·.confirmed = c)
      (exchange (.placeMarketOrder symbol side quantity reduceOnly id)) (Counts c) := by
  refine tells_exit_order hexit rfl fun result => ?_
  simp [Signal.confirms, Signal.owns, Signal.accepts, TradeResult.withVolume, hexit,
    WorkerOp.orders]

theorem partialClosePosition_tells (symbol : String) (volume : ℚ) (ticket : Nat)
    (strategy : Option String) (closePrice : Option ℚ) :
    Tells signal (·.confirmed = c)
      (ex.partialClosePosition symbol volume ticket strategy closePrice) (Counts c) := by
  refine Tells.bind (ex.getOpenPositions_tells symbol) fun positions => ?_
  cases positions with
  | nil => exact Tells.ret fun t h => by simpa [Counts, TradeResult.fail] using h
  | cons first rest =>
      refine Tells.bind (G := fun t _ => t.confirmed = c)
        ((tells_plain (by rfl) rfl rfl fun _ => rfl).map fun _ _ h => h) fun safeVolume => ?_
      split
      · exact Tells.ret fun t h => by simpa [Counts, TradeResult.fail] using h
      refine Tells.bind closeClientOrderId_tells fun id => ?_
      refine Tells.bind (placeMarketOrder_tells hexit c ..) fun result => ?_
      split
      · refine Tells.bind (entryPriceFromDb_tells ..) fun entryPrice => ?_
        exact (attachRealizedPnl_tells ..).mono (fun _ h => h)
          fun t attached h => by simpa [Counts, h.2] using h.1
      · exact Tells.ret fun _ h => h

theorem updatePositionSl_tells (symbol : String) (newSl : ℚ) (ticket : Nat)
    (strategy : Option String) :
    Tells signal (·.confirmed = c) (ex.updatePositionSl symbol newSl ticket strategy)
      fun t _ => t.confirmed = c := by
  refine Tells.bind (ex.getOpenPositions_tells symbol) fun positions => ?_
  cases positions with
  | nil => exact Tells.ret fun _ h => h
  | cons first rest =>
      refine Tells.bind (tells_plain (by rfl) rfl rfl fun _ => rfl) fun _ => ?_
      refine Tells.bind (tells_plain (by rfl) rfl rfl
        fun _ => by simp [Signal.refuses, hexit]) fun result => ?_
      split
      · refine Tells.bind (recoverEntryTp2_tells ..) fun tp2 => ?_
        cases tp2 with
        | none => exact Tells.ret fun _ h => h
        | some tp2 =>
            exact (tells_plain (by rfl) rfl rfl fun _ => rfl).map fun _ _ h => h
      · exact Tells.ret fun _ h => h

/-- Every close that was answered as executed is among those reported. -/
theorem closeEach_tells (resolved : String) (closePrice entryPrice : Option ℚ)
    (positions : List ExchangePosition) :
    Tells signal (·.confirmed = c) (closeEach resolved closePrice entryPrice positions)
      fun t closed => t.confirmed = (c || !closed.isEmpty) := by
  induction positions generalizing c with
  | nil => exact Tells.ret fun t h => by simpa using h
  | cons pos rest ih =>
      unfold closeEach
      refine Tells.bind closeClientOrderId_tells fun id => ?_
      refine Tells.bind (placeMarketOrder_tells hexit c ..) fun result => ?_
      split
      · rename_i hsuccess
        refine Tells.bind (attachRealizedPnl_tells ..) fun attached => ?_
        refine ((ih true).mono ?_ fun t _ h => h).map fun t closed h => by simpa using h
        rintro t ⟨h, -⟩
        simpa [Counts, hsuccess] using h
      · rename_i hfailed
        refine (ih c).mono (fun t h => ?_) fun _ _ h => h
        simpa [Counts, hfailed] using h

theorem closeAllPositions_tells (symbol reason : String) (strategy : Option String)
    (closePrice : Option ℚ) (ticket : Option String) :
    Tells signal (·.confirmed = c)
      (ex.closeAllPositions symbol reason strategy closePrice ticket) (Counts c) := by
  refine Tells.bind (ex.getOpenPositions_tells symbol) fun positions => ?_
  split
  · exact Tells.ret fun t h => by simpa [Counts, TradeResult.fail] using h
  · rename_i first rest _
    refine Tells.bind (tells_plain (by rfl) rfl rfl fun _ => rfl) fun _ => ?_
    refine Tells.bind (entryPriceFromDb_tells ..) fun entryPrice => ?_
    refine (closeEach_tells hexit c ..).map fun t closed h => ?_
    have hreport := closeReport_success reason first closed
    cases closed with
    | nil => simpa [Counts, closeReport, TradeResult.fail] using h
    | cons result closed => simpa [Counts, hreport.mpr (List.cons_ne_nil _ _)] using h

end Exits

end CryptoExecutor

namespace ForexExecutor

variable (ex : ForexExecutor)

/-- A scope that names a strategy of the map, or none, raises nothing. -/
def Scopes (strategy : Option String) : Prop :=
  strategy.all fun s => (ex.magicFor (some s)).isOk

variable {ex}

theorem Scopes.ok {strategy : Option String} (h : ex.Scopes strategy)
    (positions : List PlatformPosition) : ∃ found, ex.scope strategy positions = .ok found := by
  cases strategy with
  | none => exact ⟨_, rfl⟩
  | some s =>
      cases hmagic : ex.magicFor (some s) with
      | error e => simp [Scopes, hmagic, Except.isOk, Except.toBool] at h
      | ok magic => exact ⟨_, by rw [scope, hmagic]; rfl⟩

theorem getOpenPositions_tells {strategy : Option String} (hscope : ex.Scopes strategy)
    (symbol : String) :
    Tells signal F (ex.getOpenPositions symbol strategy) fun t _ => F t := by
  refine Tells.bind (tells_plain (by rfl) rfl rfl fun _ => rfl) fun resolved => ?_
  refine Tells.bind (tells_plain (by rfl) rfl rfl fun _ => rfl) fun positions => ?_
  obtain ⟨found, hfound⟩ := hscope.ok positions
  rw [hfound]
  exact Tells.ret fun _ h => h

theorem updatePositionSl_tells {strategy : Option String} (hscope : ex.Scopes strategy)
    (symbol : String) (newSl : ℚ) (ticket : Nat) :
    Tells signal F (ex.updatePositionSl symbol newSl ticket strategy) fun t _ => F t := by
  refine Tells.bind (getOpenPositions_tells hscope symbol) fun positions => ?_
  cases positions with
  | nil => exact Tells.ret fun _ h => h
  | cons first rest => exact tells_plain (by rfl) rfl rfl fun _ => rfl

section Exits

variable (hexit : signal.action.isEntry = false) (c : Bool)
include hexit

theorem closePosition_tells (pos : PlatformPosition) (volume : Option ℚ) (comment : String) :
    Tells signal (·.confirmed = c) (platform (.closePosition pos volume comment))
      (Counts c) := by
  refine tells_exit_order hexit rfl fun result => ?_
  simp [Signal.confirms, Signal.owns, Signal.accepts, hexit, WorkerOp.orders]

theorem partialClosePosition_tells {strategy : Option String} (hscope : ex.Scopes strategy)
    (symbol : String) (volume : ℚ) (ticket : Nat) :
    Tells signal (·.confirmed = c) (ex.partialClosePosition symbol volume ticket strategy)
      (Counts c) := by
  refine Tells.bind (getOpenPositions_tells hscope symbol) fun positions => ?_
  cases positions with
  | nil => exact Tells.ret fun t h => by simpa [Counts, TradeResult.fail] using h
  | cons first rest =>
      refine Tells.bind (closePosition_tells hexit c ..) fun result => ?_
      split
      · exact Tells.ret fun _ h => h
      · exact Tells.ret fun _ h => h

/-- Every close that was answered as executed is among those reported. -/
theorem closeEach_tells (comment : String) (positions : List PlatformPosition) :
    Tells signal (·.confirmed = c) (closeEach comment positions)
      fun t closed => t.confirmed = (c || !closed.isEmpty) := by
  induction positions generalizing c with
  | nil => exact Tells.ret fun t h => by simpa using h
  | cons pos rest ih =>
      unfold closeEach
      refine Tells.bind (closePosition_tells hexit c ..) fun result => ?_
      refine (ih (c || result.success)).map fun t closed h => ?_
      cases hsuccess : TradeResult.success result with
      | true => simpa [hsuccess] using h
      | false => simpa [hsuccess] using h

theorem closeAllPositions_tells {strategy : Option String} (hscope : ex.Scopes strategy)
    (symbol reason : String) (ticket : Option String) :
    Tells signal (·.confirmed = c) (ex.closeAllPositions symbol reason strategy ticket)
      (Counts c) := by
  refine Tells.bind (getOpenPositions_tells hscope symbol) fun positions => ?_
  split
  · exact Tells.ret fun t h => by simpa [Counts, TradeResult.fail] using h
  · rename_i first rest _
    refine (closeEach_tells hexit c ..).map fun t closed h => ?_
    have hreport := closeReport_success reason first closed
    cases closed with
    | nil => simpa [Counts, closeReport, TradeResult.fail] using h
    | cons result closed => simpa [Counts, hreport.mpr (List.cons_ne_nil _ _)] using h

end Exits

end ForexExecutor

/-! ## Entries -/

/-- A result the row of an entry can be made of. -/
abbrev Stands (signal : Signal) (result : TradeResult) : Prop :=
  result.success = true ∧ signal.storable result = true

/-- An entry stands when its order was confirmed and its stop was not refused. -/
abbrev Opens (signal : Signal) (t : Told) (result : TradeResult) : Prop :=
  Stands signal result ↔ t.confirmed = true ∧ t.refused = false

section Entries

variable (hentry : signal.action.isEntry = true)
include hentry

/-- The order of an entry, the only one it is about. -/
theorem tells_entry_order {o : WorkerOp} (accepted : o.Ans → Bool)
    (hopens : o.opens = true) (hconfirms : ∀ a, signal.confirms o (.ok a) = accepted a) :
    Tells signal (· = {}) (Prog.perform o) fun t a =>
      t = { sent := true, confirmed := accepted a } := by
  have hrest : o.spared = false ∧ o.logs = false ∧ ∀ a, signal.refuses o (.ok a) = false := by
    cases o with
    | db | host => cases hopens
    | fx o => exact ⟨rfl, rfl, fun _ => rfl⟩
    | cx o => cases o <;> first | exact ⟨rfl, rfl, fun _ => rfl⟩ | cases hopens
  refine tells_perform hrest.1 hrest.2.1 fun t a ht hnone => ?_
  have howns : signal.owns o = true := by simp [Signal.owns, hentry, hopens]
  have hhear : t.hear signal o (.ok a) = { sent := true, confirmed := accepted a } := by
    rw [hnone, ← hconfirms]
    simp [Told.hear, howns, hrest, Except.isOk, Except.toBool]
  rw [hhear]
  exact ⟨⟨rfl, rfl, rfl, fun _ => rfl⟩, rfl⟩

end Entries

/-- What an executor adds to an answer, besides what the row is made of, changes nothing. -/
theorem stands_congr {result result' : TradeResult} (hsuccess : result'.success = result.success)
    (hticket : Processor.resultTicket result' = Processor.resultTicket result)
    (hvolume : result'.volume = result.volume) (hprice : result'.price = result.price) :
    Stands signal result' ↔ Stands signal result := by
  have hrepaired : (Processor.repairPrice signal result').price =
      (Processor.repairPrice signal result).price := by
    unfold Processor.repairPrice
    rw [hsuccess, hprice]
    split
    · rfl
    · exact hprice
  rw [Stands, Stands, Signal.storable, Signal.storable, hsuccess, hticket, hvolume, hrepaired]

namespace ForexExecutor

theorem openPosition_tells (ex : ForexExecutor) (hentry : signal.action.isEntry = true) :
    Tells signal (· = {}) (ex.openPosition signal) (Opens signal) := by
  have hfailed {result : TradeResult} (h : result.success = false) :
      Tells signal (· = {}) (.ret result) (Opens signal) :=
    Tells.ret fun t ht => by simp [Opens, Stands, ht, h]
  unfold openPosition
  split
  · exact hfailed rfl
  refine Tells.after_unowned (unowned_of_consulting (consulting_fx rfl)) fun symbol _ => ?_
  refine Tells.after_unowned (unowned_of_consulting (consulting_fx rfl)) fun spec _ => ?_
  refine Tells.after_unowned (unowned_of_consulting (consulting_fx rfl)) fun tick _ => ?_
  cases tick with
  | none => exact hfailed rfl
  | some tick =>
      dsimp only
      split
      · exact hfailed rfl
      refine Tells.after_unowned (unowned_of_consulting (resolveEntryVolume_consults ..))
        fun requested _ => ?_
      refine Tells.after_unowned (unowned_of_consulting (fitVolumeToMargin_consults ..))
        fun volume _ => ?_
      cases volume with
      | none => exact hfailed rfl
      | some volume =>
          refine Tells.after_unowned (Q := fun _ => True) (by simp) fun magic _ => ?_
          refine Tells.bind (tells_entry_order hentry signal.accepts rfl
            fun result => ?_) fun result => ?_
          · simp [Signal.confirms, Signal.owns, hentry, WorkerOp.opens]
          · have hstands (t : Told)
                (ht : t = { sent := true, confirmed := signal.accepts result }) :
                Opens signal t result := by
              simp [Opens, Stands, ht, Signal.accepts, hentry]
            split
            · exact Tells.ret hstands
            · exact Tells.ret fun t ht => Iff.trans (b := Stands signal result)
                (stands_congr rfl rfl rfl rfl) (hstands t ht)

theorem closeAllPositions_unowned (ex : ForexExecutor) (hentry : signal.action.isEntry = true)
    (symbol reason : String) (strategy ticket : Option String) :
    Prog.Sends (unowned signal) (fun _ => True)
      (ex.closeAllPositions symbol reason strategy ticket) := by
  have heach : ∀ comment positions, Prog.Sends (unowned signal) (fun _ => True)
      (closeEach comment positions) := by
    intro comment positions
    induction positions with
    | nil => simp [closeEach]
    | cons pos rest ih =>
        have hclose : Prog.Sends (unowned signal) (fun _ => True)
            (platform (.closePosition pos none comment)) :=
          Prog.sends_perform (by simp [unowned, Signal.owns, hentry, WorkerOp.opens])
            fun _ _ => trivial
        exact Prog.Sends.bind hclose fun result _ => Prog.Sends.bind ih fun _ _ => by simp
  refine Prog.Sends.bind (unowned_of_consulting (getOpenPositions_consults ..))
    fun positions _ => ?_
  split
  · simp
  · exact Prog.Sends.bind (heach ..) fun _ _ => by simp

end ForexExecutor

namespace CryptoExecutor

theorem attachTakeProfit_tells (symbol : String) (side : Side) (quantity : ℚ)
    (result : TradeResult) :
    Tells signal F (attachTakeProfit symbol side quantity signal result) fun t attached =>
      F t ∧ attached.success = result.success ∧ attached.volume = result.volume ∧
        attached.price = result.price ∧
          Processor.resultTicket attached = Processor.resultTicket result := by
  unfold attachTakeProfit
  split
  · exact Tells.ret fun _ h => ⟨h, rfl, rfl, rfl, rfl⟩
  · exact (tells_plain (by rfl) rfl rfl fun _ => rfl).map fun _ _ h => ⟨h, rfl, rfl, rfl, rfl⟩

/-- What the rollback of an entry makes of it is no success. -/
theorem rollbackUnprotectedEntry_tells (hentry : signal.action.isEntry = true)
    (symbol : String) (side : Side) (entry stop : TradeResult) (quantity : ℚ) :
    Tells signal (·.refused = true)
      (rollbackUnprotectedEntry symbol side entry stop quantity) (Opens signal) := by
  refine Tells.bind closeClientOrderId_tells fun id => ?_
  refine Tells.bind (tells_unowned (by simp [Signal.owns, hentry, WorkerOp.opens]) rfl rfl
    fun _ => rfl) fun closed => ?_
  exact Tells.ret fun t h => by simp [Opens, Stands, TradeResult.fail, h]

theorem setStopLoss_tells (hentry : signal.action.isEntry = true) (symbol : String)
    (side : Side) (price quantity : ℚ) (c : Bool) :
    Tells signal (· = { sent := true, confirmed := c })
      (exchange (.setStopLoss symbol side price quantity)) fun t stop =>
        t = { sent := true, confirmed := c, refused := !TradeResult.success stop } := by
  refine tells_perform rfl rfl fun t stop ht hsent => ?_
  have howns : signal.owns (.cx (.setStopLoss symbol side price quantity)) = false :=
    owns_of_orders rfl
  have hhear : t.hear signal (.cx (.setStopLoss symbol side price quantity)) (.ok stop) =
      { sent := true, confirmed := c, refused := !TradeResult.success stop } := by
    simp [Told.hear, hsent, howns, Signal.confirms, Signal.refuses, hentry, WorkerOp.logs,
      Except.isOk, Except.toBool]
  rw [hhear]
  exact ⟨⟨rfl, rfl, rfl, fun _ => rfl⟩, rfl⟩

/-- With its stop taken, or none to set, an entry stands as its order was answered. -/
theorem attachEntryOrders_tells (hentry : signal.action.isEntry = true) (symbol : String)
    (side : Side) (quantity : ℚ) (result : TradeResult) :
    Tells signal (· = { sent := true, confirmed := signal.accepts (result.withVolume quantity) })
      (attachEntryOrders symbol side quantity signal result) (Opens signal) := by
  have hstands {attached : TradeResult} (hattached : attached.success = result.success ∧
        attached.volume = result.volume ∧ attached.price = result.price ∧
          Processor.resultTicket attached = Processor.resultTicket result) :
      Stands signal (attached.withVolume quantity) ↔
        signal.accepts (result.withVolume quantity) = true := by
    obtain ⟨hsame, hvolume, hprice, hticket⟩ := hattached
    have hcongr : Stands signal (attached.withVolume quantity) ↔
        Stands signal (result.withVolume quantity) :=
      stands_congr hsame hticket (by rw [TradeResult.withVolume, hvolume]; rfl) hprice
    simp [hcongr, Stands, Signal.accepts, hentry]
  unfold attachEntryOrders
  split
  · refine (attachTakeProfit_tells ..).map fun t attached h => ?_
    exact (hstands h.2).trans (by simp [h.1])
  · refine Tells.bind (setStopLoss_tells hentry ..) fun stop => ?_
    dsimp only
    split
    · rename_i htaken
      refine (attachTakeProfit_tells ..).map fun t attached h => ?_
      exact (hstands h.2).trans (by simp [h.1, htaken])
    · rename_i hrefused
      refine (rollbackUnprotectedEntry_tells hentry ..).mono (fun t h => ?_) fun _ _ h => h
      simp [h, hrefused]

theorem openPosition_tells (ex : CryptoExecutor) (hentry : signal.action.isEntry = true) :
    Tells signal (· = {}) (ex.openPosition signal) (Opens signal) := by
  have hfailed {result : TradeResult} (h : result.success = false) :
      Tells signal (· = {}) (.ret result) (Opens signal) :=
    Tells.ret fun t ht => by simp [Opens, Stands, ht, h]
  unfold openPosition
  split
  · exact hfailed rfl
  dsimp only
  split
  · exact hfailed rfl
  refine Tells.after_unowned (unowned_of_consulting (resolveEntryQty_consults ..))
    fun resolved _ => ?_
  refine Tells.after_unowned (unowned_of_consulting (normalizeVolume_consults ..))
    fun quantity _ => ?_
  split
  · exact hfailed rfl
  refine Tells.after_unowned (unowned_of_consulting (enforceMinNotional_consults ..))
    fun quantity? _ => ?_
  cases quantity? with
  | none => exact hfailed rfl
  | some quantity =>
      refine Tells.after_unowned (unowned_of_consulting (nettingConflict_consults ..))
        fun conflict hconflict => ?_
      cases conflict with
      | some conflict => exact hfailed (hconflict conflict rfl)
      | none =>
          refine Tells.bind (tells_entry_order hentry (fun result =>
            signal.accepts (TradeResult.withVolume quantity result)) rfl
            fun result => ?_) fun result => ?_
          · simp [Signal.confirms, Signal.owns, hentry, WorkerOp.opens]
          · split
            · exact attachEntryOrders_tells hentry ..
            · rename_i hrejected
              exact Tells.ret fun t ht => by
                simp [Opens, Stands, ht, Signal.accepts, TradeResult.withVolume, hrejected]

/-- A close opens nothing: an entry is not about it. -/
theorem closeAllPositions_unowned (ex : CryptoExecutor) (hentry : signal.action.isEntry = true)
    (symbol reason : String) (strategy : Option String) (closePrice : Option ℚ)
    (ticket : Option String) :
    Prog.Sends (unowned signal) (fun _ => True)
      (ex.closeAllPositions symbol reason strategy closePrice ticket) := by
  have heach : ∀ resolved closePrice entryPrice positions, Prog.Sends (unowned signal)
      (fun _ => True) (closeEach resolved closePrice entryPrice positions) := by
    intro resolved closePrice entryPrice positions
    induction positions with
    | nil => simp [closeEach]
    | cons pos rest ih =>
        unfold closeEach
        refine Prog.Sends.bind (unowned_of_consulting closeClientOrderId_consults) fun id _ => ?_
        have hclose : Prog.Sends (unowned signal) (fun _ => True)
            (exchange (.placeMarketOrder resolved pos.side pos.volume true id)) :=
          Prog.sends_perform (by simp [unowned, Signal.owns, hentry, WorkerOp.opens])
            fun _ _ => trivial
        refine Prog.Sends.bind hclose fun result _ => ?_
        split
        · refine Prog.Sends.bind (unowned_of_consulting (attachRealizedPnl_consults ..))
            fun attached _ => ?_
          exact Prog.Sends.bind ih fun _ _ => by simp
        · exact ih
  refine Prog.Sends.bind (unowned_of_consulting (getOpenPositions_consults ..))
    fun positions _ => ?_
  split
  · simp
  · refine Prog.Sends.bind (unowned_of_aside (aside_cx rfl)) fun _ _ => ?_
    refine Prog.Sends.bind (unowned_of_consulting (entryPriceFromDb_consults ..))
      fun entryPrice _ => ?_
    exact Prog.Sends.bind (heach ..) fun _ _ => by simp

end CryptoExecutor

/-- What an executor's exits tell, under the signal's strategy or, to close all there is,
under none. -/
structure TradeExecutor.TellsExits {Pos : Type} (signal : Signal) (ex : TradeExecutor Pos) :
    Prop where
  getOpenPositions : ∀ (F : Told → Prop) symbol,
    Tells signal F (ex.getOpenPositions symbol (some signal.strategy)) fun t _ => F t
  partialClosePosition : ∀ c symbol volume ticket closePrice, Tells signal (·.confirmed = c)
    (ex.partialClosePosition symbol volume ticket (some signal.strategy) closePrice) (Counts c)
  updatePositionSl : ∀ c symbol newSl ticket, Tells signal (·.confirmed = c)
    (ex.updatePositionSl symbol newSl ticket (some signal.strategy)) fun t _ => t.confirmed = c
  closeAllPositions : ∀ c symbol reason strategy closePrice ticket,
    strategy = none ∨ strategy = some signal.strategy → Tells signal (·.confirmed = c)
      (ex.closeAllPositions symbol reason strategy closePrice ticket) (Counts c)

theorem Market.tellsExits (m : Market) (settings : WorkerSettings) {signal : Signal}
    (hexit : signal.action.isEntry = false)
    (hmagic : ∃ magic, (m.processor settings).magicFor signal.strategy = .ok magic) :
    m.strategy.executor.TellsExits signal := by
  cases m with
  | crypto ex =>
      exact ⟨fun _ symbol => ex.getOpenPositions_tells symbol,
        fun c symbol volume ticket closePrice =>
          ex.partialClosePosition_tells hexit c symbol volume ticket _ closePrice,
        fun c symbol newSl ticket => ex.updatePositionSl_tells hexit c symbol newSl ticket _,
        fun c symbol reason strategy closePrice ticket _ =>
          ex.closeAllPositions_tells hexit c symbol reason strategy closePrice ticket⟩
  | forex ex =>
      have hscope : ex.Scopes (some signal.strategy) := by
        obtain ⟨magic, hmagic⟩ := hmagic
        have hmap : (ex.magicFor (some signal.strategy)).map some = .ok magic := hmagic
        cases hfor : ex.magicFor (some signal.strategy) with
        | error e =>
            rw [hfor] at hmap
            cases hmap
        | ok magic => simp [ForexExecutor.Scopes, hfor, Except.isOk, Except.toBool]
      refine ⟨fun _ symbol => ForexExecutor.getOpenPositions_tells hscope symbol,
        fun c symbol volume ticket _ =>
          ForexExecutor.partialClosePosition_tells hexit c hscope symbol volume ticket,
        fun _ symbol newSl ticket =>
          ForexExecutor.updatePositionSl_tells hscope symbol newSl ticket, ?_⟩
      rintro c symbol reason strategy closePrice ticket (rfl | rfl)
      · have hall : ex.Scopes none := rfl
        exact ForexExecutor.closeAllPositions_tells hexit c hall symbol reason ticket
      · exact ForexExecutor.closeAllPositions_tells hexit c hscope symbol reason ticket

/-! ## The handler -/

namespace SignalHandler

theorem updatePositionStatus_tells (u : StatusUpdate) :
    Tells signal F (updatePositionStatus u) fun t _ => F t :=
  tells_plain (by rfl) rfl rfl fun _ => rfl

theorem getDbPosition_tells (strategy symbol : String) (uxid : Option String) :
    Tells signal F (getDbPosition strategy symbol uxid) fun t _ => F t := by
  have hheal : ∀ us, Tells signal F (updateEach us) fun t _ => F t := by
    intro us
    induction us with
    | nil => exact Tells.ret fun _ h => h
    | cons u us ih => exact Tells.bind (updatePositionStatus_tells u) fun _ => ih
  refine Tells.bind (storeRead_tells ..) fun rows => ?_
  cases rows with
  | nil => exact Tells.ret fun _ h => h
  | cons kept duplicates => exact (hheal _).map fun _ _ h => h

/-- Finding the volume orders nothing, and what it may come back with is a failure. -/
theorem resolveTp1Volume_consults (m : Market) (pos : m.Pos) (percent : Option ℚ) :
    Prog.Sends consulting
      (fun volume => ∀ failure, volume = .error failure → failure.success = false)
      (m.strategy.resolveTp1Volume signal pos percent) := by
  unfold ExecutorBackedMarket.resolveTp1Volume
  split
  · split
    · exact Prog.sends_ret.mpr fun _ h => by cases h; rfl
    · exact Prog.Sends.bind (m.consults.normalizeVolume ..) fun _ _ => Prog.sends_ret.mpr nofun
  · split
    · exact Prog.sends_ret.mpr fun _ h => by cases h; rfl
    · exact Prog.Sends.bind (m.consults.convertQuantityToLots ..)
        fun _ _ => Prog.sends_ret.mpr nofun

section Exits

variable {m : Market} (hex : m.strategy.executor.TellsExits signal)
include hex

theorem getOpenPositions_tells (symbol : String) (ticket : Option String) :
    Tells signal F (m.strategy.getOpenPositions symbol (some signal.strategy) ticket)
      fun t _ => F t :=
  (hex.getOpenPositions F symbol).map fun _ _ h => h

/-- Wherever the stop ends up, a partial close stays a success. -/
theorem moveSlToBreakeven_tells (pos : m.Pos) {result : TradeResult}
    (hsuccess : result.success = true) :
    Tells signal (·.confirmed = true) (m.strategy.moveSlToBreakeven signal pos result)
      (Counts false) := by
  refine Tells.bind (hex.updatePositionSl true ..) fun moved => ?_
  dsimp only
  split
  · exact Tells.ret fun t h => by simpa [Counts, hsuccess] using h
  · refine (hex.closeAllPositions true _ _ _ _ _ (Or.inr rfl)).map fun t failsafe h => ?_
    have hkept : (ExecutorBackedMarket.failsafeReport { result with slUpdate := some moved }
        moved failsafe).success = true := by
      unfold ExecutorBackedMarket.failsafeReport
      dsimp only
      split <;> exact hsuccess
    simpa [Counts, hkept] using h

theorem marketTp1_tells (ticket : Option String) :
    Tells signal (· = {}) (m.strategy.handleTp1 signal ticket) (Counts false) := by
  refine Tells.bind (getOpenPositions_tells hex ..) fun positions => ?_
  cases positions with
  | nil => exact Tells.ret fun t h => by simp [Counts, TradeResult.fail, h]
  | cons pos rest =>
      refine Tells.after_unowned (unowned_of_consulting (resolveTp1Volume_consults m ..))
        fun volume hvolume => ?_
      cases volume with
      | error failure => exact Tells.ret fun t h => by simp [Counts, hvolume failure rfl, h]
      | ok volume =>
          refine Tells.bind ((hex.partialClosePosition false ..).mono
            (fun t h => by simp [h]) fun _ _ h => h) fun result => ?_
          split
          · rename_i hmove
            refine (moveSlToBreakeven_tells hex pos hmove.1).mono (fun t h => ?_) fun _ _ h => h
            simpa [Counts, hmove.1] using h
          · exact Tells.ret fun _ h => h

/-- An exit behind its row. -/
theorem executeExit_tells {exit : Signal → Option String → Work TradeResult} (c₁ c₂ : String)
    (hexit : ∀ ticket, Tells signal (· = {}) (exit signal ticket) (Counts false)) :
    Tells signal (· = {}) (executeExit m.strategy signal exit c₁ c₂) (Counts false) := by
  refine Tells.bind (getDbPosition_tells ..) fun row? => ?_
  cases row? with
  | none => exact Tells.ret fun t h => by simp [Counts, TradeResult.fail, h]
  | some row =>
      refine Tells.bind (getOpenPositions_tells hex ..) fun live => ?_
      split
      · exact Tells.ret fun t h => by simp [Counts, TradeResult.fail, h]
      refine Tells.bind (hexit _) fun result => ?_
      split
      · exact Tells.ret fun _ h => h
      · exact Tells.ret fun _ h => h

theorem flatClose_tells (ticket : Option String) :
    Tells signal (· = {}) (flatClose m.strategy signal ticket) (Counts false) := by
  refine Tells.bind ((hex.closeAllPositions false _ _ _ _ _ (Or.inr rfl)).mono
    (fun t h => by simp [h]) fun _ _ h => h) fun result => ?_
  split
  · exact Tells.ret fun _ h => h
  · rename_i hfailed
    refine (hex.closeAllPositions false _ _ _ _ _ (Or.inl rfl)).mono (fun t h => ?_)
      fun _ _ h => h
    have hno : result.success = false := by simpa using fun hsuccess => hfailed (Or.inl hsuccess)
    simpa [Counts, hno] using h

omit hex in
theorem flatSettle_tells (owned : Option Row) (result : TradeResult) :
    Tells signal (Counts false · result) (flatSettle m.strategy signal owned result)
      (Counts false) := by
  have hrow : Tells signal (Counts false · result) (flatRow m.strategy signal owned)
      fun t _ => Counts false t result := by
    cases owned with
    | some row => exact Tells.ret fun _ h => h
    | none => exact getDbPosition_tells ..
  refine Tells.bind hrow fun row? => ?_
  cases row? with
  | none => exact Tells.ret fun _ h => h
  | some row =>
      dsimp only
      split
      · exact Tells.ret fun _ h => h
      · exact (updatePositionStatus_tells _).map fun _ _ h => h

theorem handleFlat_tells :
    Tells signal (· = {}) (handleFlat m.strategy signal) (Counts false) := by
  refine Tells.bind (getDbPosition_tells ..) fun owned => ?_
  split
  · exact Tells.ret fun t h => by simp [Counts, TradeResult.fail, h]
  · exact Tells.bind (flatClose_tells hex _) fun result => flatSettle_tells _ result

/-- An exit that is heard out is a success when a close was answered as executed. -/
theorem handle_exit_tells (hexit : signal.action.isEntry = false) :
    Tells signal (· = {}) (handle m.strategy signal) (Counts false) := by
  refine Tells.bind (G := fun t _ => t = {}) (tells_plain (by rfl) rfl rfl fun _ => rfl)
    fun _ => ?_
  cases haction : signal.action with
  | long | short => simp [haction, SignalAction.isEntry] at hexit
  | tp1 => exact executeExit_tells hex _ _ fun ticket => marketTp1_tells hex ticket
  | tp2 | sl | rSl =>
      refine executeExit_tells hex _ _ fun ticket => ?_
      exact (hex.closeAllPositions false _ _ _ _ _ (Or.inr rfl)).mono
        (fun t h => by simp [h]) fun _ _ h => h
  | flat => exact handleFlat_tells hex

end Exits

section Entries

variable (m : Market) (hentry : signal.action.isEntry = true)
include hentry

theorem openPosition_tells :
    Tells signal (· = {}) (m.strategy.executor.openPosition signal) (Opens signal) := by
  cases m with
  | forex ex => exact ex.openPosition_tells hentry
  | crypto ex => exact ex.openPosition_tells hentry

/-- The entry itself, once the rows it found are cleared. -/
theorem enterFresh_tells (found : List Row) (stale : Bool) (cleanup : TradeResult) :
    Tells signal (· = {}) (enterFresh m.strategy signal found stale cleanup) (Opens signal) := by
  have hclear : ∀ us, Prog.Sends (unowned signal) (fun _ => True) (updateEach us) := by
    intro us
    induction us with
    | nil => simp [updateEach]
    | cons u us ih => exact Prog.Sends.bind (unowned_sql _) fun _ _ => ih
  refine Tells.after_unowned (hclear _) fun _ _ => ?_
  refine Tells.bind (openPosition_tells m hentry) fun result => ?_
  split
  · exact Tells.ret fun _ h => h
  · exact Tells.ret fun t h => Iff.trans (b := Stands signal result)
      (stands_congr rfl rfl rfl rfl) h

theorem closeAllPositions_unowned (symbol reason : String) (strategy : Option String)
    (closePrice : Option ℚ) (ticket : Option String) :
    Prog.Sends (unowned signal) (fun _ => True)
      (m.strategy.executor.closeAllPositions symbol reason strategy closePrice ticket) := by
  cases m with
  | forex ex => exact ex.closeAllPositions_unowned hentry ..
  | crypto ex => exact ex.closeAllPositions_unowned hentry ..

/-- What comes before the entry itself opens nothing. -/
theorem handleEntry_tells :
    Tells signal (· = {}) (handleEntry m.strategy signal) (Opens signal) := by
  have hstale : ∀ tickets, Prog.Sends (unowned signal) (fun _ => True)
      (collectStale m.strategy signal.symbol signal.strategy tickets) := by
    intro tickets
    induction tickets with
    | nil => simp [collectStale]
    | cons ticket rest ih =>
        have hfound : Prog.Sends (unowned signal) (fun _ => True)
            (m.strategy.getOpenPositions signal.symbol (some signal.strategy) ticket) :=
          Prog.Sends.bind (unowned_of_consulting (m.consults.getOpenPositions ..))
            fun _ _ => by simp
        exact Prog.Sends.bind hfound fun found _ => Prog.Sends.bind ih fun _ _ => by simp
  have hcleanup : ∀ tickets report, Prog.Sends (unowned signal) (fun _ => True)
      (forceCloseEach m.strategy signal.symbol signal.strategy tickets report) := by
    intro tickets
    induction tickets with
    | nil => simp [forceCloseEach]
    | cons ticket rest ih =>
        intro report
        refine Prog.Sends.bind (closeAllPositions_unowned m hentry ..) fun cleanup _ => ?_
        split
        · exact ih _
        · simp
  have hfailed {result : TradeResult} (h : result.success = false) :
      Tells signal (· = {}) (.ret result) (Opens signal) :=
    Tells.ret fun t ht => by simp [Opens, Stands, ht, h]
  refine Tells.after_unowned (unowned_of_consulting (getOpenPositionsForFlat_consults ..))
    fun holders _ => ?_
  dsimp only
  split
  · exact hfailed rfl
  refine Tells.after_unowned (unowned_of_consulting (getOpenPositionsByStrategy_consults ..))
    fun found _ => ?_
  refine Tells.after_unowned (hstale _) fun stale _ => ?_
  split
  · exact enterFresh_tells m hentry ..
  refine Tells.after_unowned (hcleanup _ _) fun cleanup _ => ?_
  split
  · exact enterFresh_tells m hentry ..
  · exact hfailed rfl

/-- An entry that is heard out stands when its order was confirmed and its stop taken. -/
theorem handle_entry_tells :
    Tells signal (· = {}) (handle m.strategy signal) (Opens signal) := by
  refine Tells.after_unowned (unowned_host _) fun _ _ => ?_
  cases haction : signal.action with
  | long | short => exact handleEntry_tells m hentry
  | tp1 | tp2 | sl | rSl | flat => simp [haction, SignalAction.isEntry] at hentry

end Entries

end SignalHandler

end TradeWorker
