import TradeWorker.CryptoReach
import TradeWorker.Protection

/-!
# What an entry on the exchange comes to

`CryptoExecutor.open_position` executes a market order and then attaches the orders that
protect it. An entry whose stop is refused is closed again, and where that fails too the
result says so. What was executed is read off the orders the exchange took: an order that
failed executed nothing, a stop that was taken rests, and a reduce-only order of the volume
an entry executed closes it.
-/

namespace TradeWorker

/-! ## An exchange that executes orders -/

/-- A market order that was executed. -/
structure Fill where
  symbol : String
  side : Side
  volume : ℚ
  reduceOnly : Bool
  deriving DecidableEq, Repr

/-- The volume an entry executed: as it was reported, and else as it was ordered. -/
def TradeResult.executed (result : TradeResult) (qty : ℚ) : ℚ := (num? result.volume).getD qty

/-- What an exchange executed, in order, and the worker's orders that rest on it. -/
structure FillView (σ : Type) where
  fills : σ → List Fill
  resting : σ → List RestingOrder

/-- The answers of the exchange are what became of the orders. -/
structure RecordsFills {σ : Type} (V : FillView σ)
    (S : Prog.Server WorkerOp WorkerOp.Ans Exn σ) : Prop where
  asks : ∀ o s, o.consults = true → V.fills (S o s).2 = V.fills s
  order : ∀ symbol side qty reduceOnly id s r,
    (S (.cx (.placeMarketOrder symbol side qty reduceOnly id)) s).1 = .ok r →
      V.fills (S (.cx (.placeMarketOrder symbol side qty reduceOnly id)) s).2 =
        if r.success then
          V.fills s ++ [⟨symbol, side, if reduceOnly then qty else r.executed qty, reduceOnly⟩]
        else V.fills s
  stop : ∀ symbol side price qty s,
    V.fills (S (.cx (.setStopLoss symbol side price qty)) s).2 = V.fills s ∧
      ∀ r, (S (.cx (.setStopLoss symbol side price qty)) s).1 = .ok r → r.success = true →
        ⟨symbol, side, .stopLoss, price, qty⟩ ∈
          V.resting (S (.cx (.setStopLoss symbol side price qty)) s).2
  target : ∀ symbol side price qty s,
    V.fills (S (.cx (.setTakeProfit symbol side price qty)) s).2 = V.fills s ∧
      V.resting s ⊆ V.resting (S (.cx (.setTakeProfit symbol side price qty)) s).2

/-! ## What a result promises -/

/-- The comment is flagged. -/
def TradeResult.Alarms (result : TradeResult) : Prop :=
  "UNPROTECTED POSITION".toList <+: result.comment.toList

/-- A success left the entry live, with its stop at rest. A failure executed nothing, or closed
what it executed, or says that it did not. -/
structure AllOrFlagged {σ : Type} (V : FillView σ) (symbol : String) (side? : Option Side)
    (sl : Option ℚ) (result : TradeResult) (s s' : σ) : Prop where
  live : result.success = true → ∃ side ∈ side?,
    (∃ volume, V.fills s' = V.fills s ++ [⟨symbol, side, volume, false⟩]) ∧
      ∀ price ∈ num? sl, ∃ qty, ⟨symbol, side, .stopLoss, price, qty⟩ ∈ V.resting s'
  gone : result.success = false →
    V.fills s' = V.fills s ∨
      (∃ side ∈ side?, ∃ volume, V.fills s' =
        V.fills s ++ [⟨symbol, side, volume, false⟩, ⟨symbol, side, volume, true⟩]) ∨
      result.Alarms

section Run

variable {σ : Type} {V : FillView σ} {S : Prog.Server WorkerOp WorkerOp.Ans Exn σ}
  {symbol : String} {side : Side} {sl : Option ℚ} {s s' : σ} {result : TradeResult}

/-- A refusal before the order. -/
theorem AllOrFlagged.refused {side? : Option Side} (hresult : result.success = false)
    (h : V.fills s' = V.fills s) : AllOrFlagged V symbol side? sl result s s' where
  live hsuccess := by rw [hresult] at hsuccess; cases hsuccess
  gone _ := Or.inl h

variable (hS : RecordsFills V S)

include hS

/-- A consultation executes nothing, and returns what its contract says. -/
theorem RecordsFills.consults {α : Type} {Q : α → Prop} {p : Work α}
    (hp : Prog.Sends consulting Q p) {a : α} (hrun : Prog.run S p s = (.ok a, s')) :
    V.fills s' = V.fills s ∧ Q a := by
  have hwp := hp.wp (E := S.env) (I := fun s' => V.fills s' = V.fills s) (s := s)
    (fun o s₁ hs₁ ho => ⟨trivial, fun r s₂ hserve => ⟨trivial, ?_⟩⟩) rfl
  · rw [Prog.run_iff_wp, hrun] at hwp
    exact ⟨hwp.1, hwp.2 a rfl⟩
  · have hasks := hS.asks o s₁ ho
    rw [hserve] at hasks
    exact hasks.trans hs₁

/-- Asked for or not, the take-profit changes neither the success nor what protects. -/
theorem RecordsFills.attachTakeProfit {qty : ℚ} {signal : Signal} {entry : TradeResult}
    (hrun : Prog.run S (CryptoExecutor.attachTakeProfit symbol side qty signal entry) s =
      (.ok result, s')) :
    result.success = entry.success ∧ V.fills s' = V.fills s ∧ V.resting s ⊆ V.resting s' := by
  unfold CryptoExecutor.attachTakeProfit at hrun
  cases htp : num? signal.tp2 with
  | none =>
      rw [htp] at hrun
      cases hrun
      exact ⟨rfl, rfl, List.Subset.refl _⟩
  | some tp2 =>
      rw [htp] at hrun
      obtain ⟨tpRes, s₁, hcall, hrest⟩ := Prog.run_bind_inv S hrun
      rw [exchange, Prog.run_perform] at hcall
      cases hrest
      have htarget := hS.target symbol side tp2 qty s
      rw [hcall] at htarget
      exact ⟨rfl, htarget⟩

/-- The rollback closes what the entry executed, or raises the alarm. -/
theorem RecordsFills.rollback {qty : ℚ} {entry slRes : TradeResult}
    (hrun : Prog.run S (CryptoExecutor.rollbackUnprotectedEntry symbol side entry slRes qty) s =
      (.ok result, s')) :
    result.success = false ∧
      (V.fills s' = V.fills s ++ [⟨symbol, side, entry.executed qty, true⟩] ∨ result.Alarms) := by
  obtain ⟨orderId, s₁, hid, hrun⟩ := Prog.run_bind_inv S hrun
  obtain ⟨closeRes, s₂, hclose, hrun⟩ := Prog.run_bind_inv S hrun
  obtain ⟨hfills, -⟩ := hS.consults CryptoExecutor.closeClientOrderId_consults hid
  rw [exchange, Prog.run_perform] at hclose
  have horder := hS.order symbol side ((num? entry.volume).getD qty) true orderId s₁ closeRes
    (congrArg Prod.fst hclose)
  rw [hclose] at horder
  cases hrun
  refine ⟨rfl, ?_⟩
  by_cases hsuccess : closeRes.success = true
  · rw [if_pos hsuccess, hfills] at horder
    exact Or.inl horder
  · refine Or.inr ?_
    have hprefix : "UNPROTECTED POSITION".toList <+:
        "UNPROTECTED POSITION: stop-loss failed (".toList := by
      decide
    simp only [TradeResult.Alarms, TradeResult.fail, if_neg hsuccess, String.toList_append,
      List.append_assoc]
    exact hprefix.trans (List.prefix_append _ _)

/-- Attaching its orders makes of an executed entry one of the three. -/
theorem RecordsFills.attachEntryOrders {s₀ : σ} {qty : ℚ} {signal : Signal} {entry : TradeResult}
    (hentry : entry.success = true)
    (hfilled : V.fills s = V.fills s₀ ++ [⟨symbol, side, entry.executed qty, false⟩])
    (hrun : Prog.run S (CryptoExecutor.attachEntryOrders symbol side qty signal entry) s =
      (.ok result, s')) :
    AllOrFlagged V symbol (some side) signal.sl result s₀ s' := by
  unfold CryptoExecutor.attachEntryOrders at hrun
  cases hsl : num? signal.sl with
  | none =>
      rw [hsl] at hrun
      obtain ⟨attached, s₁, htp, hrun⟩ := Prog.run_bind_inv S hrun
      obtain ⟨hsuccess, hfills, -⟩ := hS.attachTakeProfit htp
      cases hrun
      refine ⟨fun _ => ⟨side, rfl, ⟨_, hfills.trans hfilled⟩, ?_⟩, fun hfail => ?_⟩
      · rw [hsl]
        nofun
      · rw [hsuccess.trans hentry] at hfail
        cases hfail
  | some price =>
      rw [hsl] at hrun
      obtain ⟨slRes, s₁, hcall, hrun⟩ := Prog.run_bind_inv S hrun
      rw [exchange, Prog.run_perform] at hcall
      obtain ⟨hkept, hrests⟩ := hS.stop symbol side price qty s
      rw [hcall] at hkept hrests
      dsimp only at hrun
      split at hrun
      · -- the stop rests, whatever becomes of the take-profit
        rename_i htaken
        obtain ⟨attached, s₂, htp, hrun⟩ := Prog.run_bind_inv S hrun
        obtain ⟨hsuccess, hfills, hresting⟩ := hS.attachTakeProfit htp
        cases hrun
        refine ⟨fun _ => ⟨side, rfl, ⟨_, (hfills.trans hkept).trans hfilled⟩, ?_⟩, fun hfail => ?_⟩
        · rw [hsl]
          rintro _ ⟨⟩
          exact ⟨qty, hresting (hrests slRes rfl htaken)⟩
        · rw [hsuccess.trans hentry] at hfail
          cases hfail
      · obtain ⟨hfail, hclosed⟩ := hS.rollback hrun
        refine ⟨fun hsuccess => ?_, fun _ => Or.inr ?_⟩
        · rw [hfail] at hsuccess
          cases hsuccess
        · refine hclosed.imp_left fun hfills => ⟨side, rfl, entry.executed qty, ?_⟩
          rw [hfills, hkept, hfilled, List.append_assoc]
          rfl

end Run

theorem nettingConflict_refuses (ex : CryptoExecutor) (signal : Signal) (symbol : String) :
    Prog.Sends consulting (fun conflict => ∀ refusal ∈ conflict, refusal.success = false)
      (ex.nettingConflict signal symbol) := by
  unfold CryptoExecutor.nettingConflict
  split
  · simp
  · refine Prog.Sends.bind (getOpenPositionsForFlat_consults ..) fun rows _ => ?_
    dsimp only
    split <;> simp

/-- **An entry on the exchange is all or flagged**: whatever its calls come to, a result is one
of the three. -/
theorem openPosition_allOrFlagged {σ : Type} {V : FillView σ}
    {S : Prog.Server WorkerOp WorkerOp.Ans Exn σ} (hS : RecordsFills V S) (ex : CryptoExecutor)
    (signal : Signal) {s s' : σ} {result : TradeResult}
    (hrun : Prog.run S (ex.openPosition signal) s = (.ok result, s')) :
    AllOrFlagged V (ex.getSymbol signal.symbol) signal.action.side? signal.sl result s s' := by
  unfold CryptoExecutor.openPosition at hrun
  cases hside : signal.action.side? with
  | none =>
      rw [hside] at hrun
      cases hrun
      exact .refused rfl rfl
  | some side =>
      rw [hside] at hrun
      dsimp only at hrun
      split at hrun
      · cases hrun
        exact .refused rfl rfl
      obtain ⟨resolved, s₁, hresolved, hrun⟩ := Prog.run_bind_inv S hrun
      obtain ⟨qty, s₂, hnormal, hrun⟩ := Prog.run_bind_inv S hrun
      have h₁ := (hS.consults (CryptoExecutor.resolveEntryQty_consults ..) hresolved).1
      have h₂ := (hS.consults (CryptoExecutor.normalizeVolume_consults ..) hnormal).1.trans h₁
      split at hrun
      · cases hrun
        exact .refused rfl h₂
      obtain ⟨bumped, s₃, hbumped, hrun⟩ := Prog.run_bind_inv S hrun
      have h₃ := (hS.consults (CryptoExecutor.enforceMinNotional_consults ..) hbumped).1.trans h₂
      rcases bumped with _ | qty
      · cases hrun
        exact .refused rfl h₃
      obtain ⟨conflict, s₄, hconflict, hrun⟩ := Prog.run_bind_inv S hrun
      obtain ⟨hasked, hrefuses⟩ := hS.consults (nettingConflict_refuses ex signal _) hconflict
      have h₄ := hasked.trans h₃
      rcases conflict with _ | conflict
      · obtain ⟨entry, s₅, hcall, hrun⟩ := Prog.run_bind_inv S hrun
        rw [exchange, Prog.run_perform] at hcall
        have horder := hS.order _ _ _ _ _ s₄ entry (congrArg Prod.fst hcall)
        rw [hcall, h₄] at horder
        split at hrun
        · rename_i htaken
          rw [if_pos htaken] at horder
          exact hS.attachEntryOrders htaken horder hrun
        · rename_i hrefused
          rw [if_neg hrefused] at horder
          cases hrun
          exact .refused (Bool.eq_false_iff.mpr hrefused) horder
      · cases hrun
        exact .refused (hrefuses _ rfl) h₄

/-- An exchange that takes entries and targets, and stops and closes where it is told to. -/
def fillDesk (takesStops takesCloses : Bool) :
    Prog.Server WorkerOp WorkerOp.Ans Exn (List Fill × List RestingOrder)
  | .cx (.placeMarketOrder symbol side qty false _), (fills, resting) =>
      (.ok { success := true, volume := some qty }, fills ++ [⟨symbol, side, qty, false⟩], resting)
  | .cx (.placeMarketOrder symbol side qty true _), (fills, resting) =>
      if takesCloses then
        (.ok { success := true }, fills ++ [⟨symbol, side, qty, true⟩], resting)
      else (.ok (.fail "offline"), fills, resting)
  | .cx (.setStopLoss symbol side price qty), (fills, resting) =>
      if takesStops then
        (.ok { success := true }, fills, resting ++ [⟨symbol, side, .stopLoss, price, qty⟩])
      else (.ok (.fail "offline"), fills, resting)
  | .cx (.setTakeProfit symbol side price qty), (fills, resting) =>
      (.ok { success := true }, fills, resting ++ [⟨symbol, side, .takeProfit, price, qty⟩])
  | .cx (.getSymbolFilter _), s => (.ok { stepSize := 1 }, s)
  | .host .uuidHex, s => (.ok "0123456789abcdef0123456789abcdef", s)
  | _, s => (.error (.gateway "offline"), s)

theorem fillDesk_records (takesStops takesCloses : Bool) :
    RecordsFills ⟨Prod.fst, Prod.snd⟩ (fillDesk takesStops takesCloses) where
  asks o s ho := by
    rcases o with o | o | o | o
    · rfl
    · rfl
    · cases o <;> first | rfl | cases ho
    · cases o <;> rfl
  order symbol side qty reduceOnly id s r hr := by
    cases reduceOnly with
    | false =>
        obtain rfl := Except.ok.inj hr
        by_cases hqty : qty = 0
        · simp [fillDesk, TradeResult.executed, num?, hqty]
        · simp [fillDesk, TradeResult.executed, num?, hqty]
    | true =>
        cases takesCloses with
        | false =>
            obtain rfl := Except.ok.inj hr
            rfl
        | true =>
            obtain rfl := Except.ok.inj hr
            rfl
  stop symbol side price qty s := by
    cases takesStops with
    | false =>
        refine ⟨rfl, fun r hr hsuccess => ?_⟩
        obtain rfl := Except.ok.inj hr
        cases hsuccess
    | true => exact ⟨rfl, fun _ _ _ => List.mem_append_right _ (List.mem_singleton_self _)⟩
  target symbol side price qty s := ⟨rfl, List.subset_append_left ..⟩

def twoUnits : Signal where
  strategy := "trend"
  timestamp := 0
  action := .long
  symbol := "DOGEUSDT"
  quantity := some 2
  sl := some 4
  tp2 := some 6
  useEquitySizing := some false

/-- Its stop is refused, and so is the close. -/
theorem twoUnits_allOrFlagged :
    ∃ result s', Prog.run (fillDesk false false)
        (CryptoExecutor.openPosition { config := { allowMultiStrategyPerSymbol := true } } twoUnits)
        ([], []) = (.ok result, s') ∧ s'.1 = [⟨"DOGEUSDT", .long, 2, false⟩] ∧
      AllOrFlagged ⟨Prod.fst, Prod.snd⟩ "DOGEUSDT" (some .long) (some 4) result ([], []) s' := by
  have hok : (Prog.run (fillDesk false false) (CryptoExecutor.openPosition
      { config := { allowMultiStrategyPerSymbol := true } } twoUnits) ([], [])).1.isOk = true ∧
      (Prog.run (fillDesk false false) (CryptoExecutor.openPosition
        { config := { allowMultiStrategyPerSymbol := true } } twoUnits) ([], [])).2.1 =
        [⟨"DOGEUSDT", .long, 2, false⟩] := by
    decide +kernel
  rcases hrun : Prog.run (fillDesk false false) (CryptoExecutor.openPosition
    { config := { allowMultiStrategyPerSymbol := true } } twoUnits) ([], []) with ⟨e | result, s'⟩
  · rw [hrun] at hok
    cases hok.1
  · rw [hrun] at hok
    exact ⟨result, s', rfl, hok.2,
      openPosition_allOrFlagged (fillDesk_records false false) _ _ hrun⟩

end TradeWorker
