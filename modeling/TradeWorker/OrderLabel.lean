import TradeWorker.Chars
import TradeWorker.CryptoReach

/-!
# The label of an entry order

An entry order carries an id of the worker's making: the strategy's name, and the end of
the signal's id. The exchange takes one to thirty-six characters from a class it
documents, and the code's comment repeats it. What the length asks is kept. The class is
not: the name is sanitized by `\w`, which knows the letters of every script, and the end
of the signal's id not at all.
-/

namespace TradeWorker

/-! ## The id -/

/-- The class `\w` of the interpreter; its tables beyond ASCII are not the worker's. -/
structure WordClass where
  contains : Char → Bool
  ascii : ∀ c, c.toNat < 128 → contains c = (c.isAlphanum || c = '_')

/-- `_client_order_id`, by such a class. -/
def clientOrderIdBy (W : WordClass) (strategy : String) (signalId : Option String) : String :=
  let safe := String.ofList (strategy.toList.map fun c =>
    if W.contains c || c = '.' || c = ':' || c = '/' || c = '-' then c else '_')
  takeText 36 (stripChar '-' (takeText 20 safe ++ "-" ++ takeEnd 6 (signalId.getD "")))

theorem isUnicodeLetter_ascii {c : Char} (hc : c.toNat < 128) : isUnicodeLetter c = false := by
  refine List.any_eq_false.mpr fun run hrun => ?_
  have hbeyond : 128 ≤ run.1 :=
    (by decide : ∀ run ∈ Chars.wordRuns, 128 ≤ run.1) run hrun
  rw [Bool.and_eq_true, decide_eq_true_eq]
  omega

def mainBlocks : WordClass where
  contains := isWord
  ascii c hc := by rw [isWord, isUnicodeLetter_ascii hc, Bool.or_false]

theorem clientOrderIdBy_mainBlocks :
    clientOrderIdBy mainBlocks = CryptoExecutor.clientOrderId := rfl

/-- `new_client_order_id` of an order's payload: an empty id is not sent. -/
def newClientOrderId (clientOrderId : String) : Option String := text? (some clientOrderId)

/-! ## The class documented -/

/-- `A-Z`, `a-z`, digits and `.:/_-`. -/
def isLabelChar (c : Char) : Bool :=
  c.isAlphanum || c = '.' || c = ':' || c = '/' || c = '_' || c = '-'

/-- A label the exchange takes. -/
structure Acceptable (label : String) : Prop where
  nonempty : 1 ≤ label.toList.length
  atMost36 : label.toList.length ≤ 36
  charset : ∀ c ∈ label.toList, isLabelChar c = true

/-- The class is within ASCII. -/
theorem toNat_lt_of_isLabelChar {c : Char} (h : isLabelChar c = true) : c.toNat < 128 := by
  have hupper (h : c.isUpper = true) : c.toNat < 128 :=
    Nat.lt_of_le_of_lt (UInt32.le_iff_toNat_le.mp (of_decide_eq_true h).2) (by decide)
  have hlower (h : c.isLower = true) : c.toNat < 128 :=
    Nat.lt_of_le_of_lt
      (UInt32.le_iff_toNat_le.mp (of_decide_eq_true (Bool.and_eq_true_iff.mp h).2)) (by decide)
  have hdigit (h : c.isDigit = true) : c.toNat < 128 :=
    Nat.lt_of_le_of_lt
      (UInt32.le_iff_toNat_le.mp (of_decide_eq_true (Bool.and_eq_true_iff.mp h).2)) (by decide)
  have halnum (h : c.isAlphanum = true) : c.toNat < 128 := by
    rcases Bool.or_eq_true_iff.mp h with h | h
    · rcases Bool.or_eq_true_iff.mp h with h | h
      · exact hupper h
      · exact hlower h
    · exact hdigit h
  simp only [isLabelChar, Bool.or_eq_true, decide_eq_true_eq] at h
  rcases h with ((((h | rfl) | rfl) | rfl) | rfl) | rfl
  · exact halnum h
  all_goals decide

/-! ## Which ids are acceptable -/

section Label

variable (W : WordClass)

/-- One character of the name, as it is sent. -/
def sanitized (c : Char) : Char :=
  if W.contains c || c = '.' || c = ':' || c = '/' || c = '-' then c else '_'

/-- Only a word character from beyond ASCII is left where it must not be. -/
theorem isLabelChar_sanitized_iff (c : Char) :
    isLabelChar (sanitized W c) = true ↔ (W.contains c = true → c.toNat < 128) := by
  unfold sanitized
  split
  · rename_i hkept
    constructor
    · exact fun h _ => toNat_lt_of_isLabelChar h
    · intro h
      simp only [Bool.or_eq_true, decide_eq_true_eq] at hkept
      rcases hkept with (((hword | rfl) | rfl) | rfl) | rfl
      · rw [W.ascii c (h hword), Bool.or_eq_true] at hword
        rcases hword with halnum | hunderscore
        · simp [isLabelChar, halnum]
        · simp [isLabelChar, hunderscore]
      all_goals decide
  · rename_i hreplaced
    simp only [Bool.or_eq_true, not_or] at hreplaced
    exact ⟨fun _ hword => absurd hword hreplaced.1.1.1.1, fun _ => by decide⟩

theorem toList_stripChar (c : Char) (s : String) :
    (stripChar c s).toList = Chars.strip (· = c) s.toList := by
  rw [stripChar, String.toList_ofList]

theorem toList_clientOrderIdBy (strategy : String) (signalId : Option String) :
    (clientOrderIdBy W strategy signalId).toList =
      Chars.strip (· = '-') ((strategy.toList.take 20).map (sanitized W) ++
        '-' :: (takeEnd 6 (signalId.getD "")).toList) := by
  have hend : (takeEnd 6 (signalId.getD "")).toList.length ≤ 6 := by
    rw [takeEnd, String.toList_ofList, List.length_drop]
    omega
  have hname : ((strategy.toList.take 20).map (sanitized W)).length ≤ 20 := by
    rw [List.length_map, List.length_take]
    omega
  have hlength : (Chars.strip (· = '-') ((strategy.toList.take 20).map (sanitized W) ++
      '-' :: (takeEnd 6 (signalId.getD "")).toList)).length ≤ 36 := by
    refine (Chars.length_strip_le ..).trans ?_
    rw [List.length_append, List.length_cons]
    omega
  have hsafe : (takeText 20 (String.ofList (strategy.toList.map (sanitized W))) ++ "-" ++
      takeEnd 6 (signalId.getD "")).toList = (strategy.toList.take 20).map (sanitized W) ++
        '-' :: (takeEnd 6 (signalId.getD "")).toList := by
    simp only [takeText, String.toList_append, String.toList_ofList, List.map_take,
      List.append_assoc]
    rfl
  show (takeText 36 (stripChar '-' (takeText 20 (String.ofList
    (strategy.toList.map (sanitized W))) ++ "-" ++ takeEnd 6 (signalId.getD "")))).toList = _
  rw [takeText, String.toList_ofList, toList_stripChar, hsafe, List.take_of_length_le hlength]

theorem length_clientOrderIdBy (strategy : String) (signalId : Option String) :
    (clientOrderIdBy W strategy signalId).toList.length ≤ 36 := by
  unfold clientOrderIdBy takeText
  dsimp only
  rw [String.toList_ofList, List.length_take]
  omega

/-- The characters of the id are those of the name and of the signal's id. -/
theorem charset_clientOrderIdBy_iff (strategy : String) (signalId : Option String) :
    (∀ c ∈ (clientOrderIdBy W strategy signalId).toList, isLabelChar c = true) ↔
      (∀ c ∈ strategy.toList.take 20, W.contains c = true → c.toNat < 128) ∧
        ∀ c ∈ (takeEnd 6 (signalId.getD "")).toList, isLabelChar c = true := by
  have hhyphen : isLabelChar '-' = true := by decide
  rw [toList_clientOrderIdBy, Chars.forall_mem_strip_iff (by simp [isLabelChar])]
  simp only [List.forall_mem_append, List.forall_mem_cons, List.forall_mem_map,
    isLabelChar_sanitized_iff, hhyphen, true_and]

variable {W}

theorem acceptable_of_charset {strategy : String} {signalId : Option String} {label : String}
    (h : ∀ c ∈ (clientOrderIdBy W strategy signalId).toList, isLabelChar c = true)
    (hlabel : newClientOrderId (clientOrderIdBy W strategy signalId) = some label) :
    Acceptable label := by
  obtain ⟨heq, hne⟩ := text?_eq_some.mp hlabel
  obtain rfl := Option.some.inj heq
  have hpositive := List.length_pos_iff.mpr fun hnil => hne (String.toList_eq_nil_iff.mp hnil)
  exact ⟨hpositive, length_clientOrderIdBy W strategy signalId, h⟩

variable (W)

/-- A label is sent that the exchange takes, exactly when the first twenty characters of
the name hold no word character beyond ASCII and the last six of the signal's id are of
the class. -/
theorem label_acceptable_iff (strategy : String) (signalId : Option String) :
    (∀ label, newClientOrderId (clientOrderIdBy W strategy signalId) = some label →
        Acceptable label) ↔
      (∀ c ∈ strategy.toList.take 20, W.contains c = true → c.toNat < 128) ∧
        ∀ c ∈ (takeEnd 6 (signalId.getD "")).toList, isLabelChar c = true := by
  rw [← charset_clientOrderIdBy_iff]
  constructor
  · intro h c hc
    have hne : clientOrderIdBy W strategy signalId ≠ "" := by
      intro hempty
      rw [hempty] at hc
      cases hc
    exact (h _ (text?_eq_some.mpr ⟨rfl, hne⟩)).charset c hc
  · exact fun h label => acceptable_of_charset h

/-- A name with an accent keeps it, and a signal's id may end in anything. -/
theorem accentedName_refused :
    (¬ ∀ label, newClientOrderId (CryptoExecutor.clientOrderId "Café" (some "S-000001")) =
        some label → Acceptable label) ∧
      ¬ ∀ label, newClientOrderId (CryptoExecutor.clientOrderId "TREND" (some "S 1")) =
        some label → Acceptable label := by
  constructor
  · intro h
    have hlabel : newClientOrderId (CryptoExecutor.clientOrderId "Café" (some "S-000001")) =
        some "Café-000001" := by decide +kernel
    have haccent := (h _ hlabel).charset 'é' (by decide +kernel)
    exact absurd haccent (by decide)
  · intro h
    have hlabel : newClientOrderId (CryptoExecutor.clientOrderId "TREND" (some "S 1")) =
        some "TREND-S 1" := by decide +kernel
    have hblank := (h _ hlabel).charset ' ' (by decide +kernel)
    exact absurd hblank (by decide)

end Label

/-! ## The order it is sent with -/

/-- An order that opens a position carries this id. -/
def labelled (label : String) : Prog.Contract WorkerOp WorkerOp.Ans Exn where
  guard
    | .cx (.placeMarketOrder _ _ _ false clientOrderId) => clientOrderId = label
    | _ => True
  answers _ _ := True

namespace CryptoExecutor

variable {label : String}

theorem labelled_of_consulting {α : Type} {Q : α → Prop} {p : Work α}
    (hp : Prog.Sends consulting Q p) : Prog.Sends (labelled label) Q p := by
  refine hp.relax (fun o ho => ?_) fun _ _ _ => trivial
  cases o with
  | db | fx | host => trivial
  | cx o =>
      cases o with
      | placeMarketOrder => cases ho
      | getSymbolFilter | getMarkPrice | getPositions | setStopLoss | setTakeProfit
      | cancelAllOrders | getOrderRealizedPnl | getAccount => trivial

theorem labelled_after {α γ : Type} {Q : α → Prop} {R : γ → Prop} {p : Work α}
    {f : α → Work γ} (hp : Prog.Sends consulting Q p)
    (hf : ∀ a, Prog.Sends (labelled label) R (f a)) :
    Prog.Sends (labelled label) R (p >>= f) :=
  Prog.Sends.bind (labelled_of_consulting hp) fun a _ => hf a

theorem attachTakeProfit_labelled (symbol : String) (side : Side) (qty : ℚ) (signal : Signal)
    (result : TradeResult) :
    Prog.Sends (labelled label) (fun _ => True)
      (attachTakeProfit symbol side qty signal result) := by
  unfold attachTakeProfit
  cases num? signal.tp2 with
  | none => simp
  | some tp2 =>
      exact Prog.Sends.bind (Prog.sends_perform trivial fun _ _ => trivial) fun _ _ => by simp

/-- What follows an entry opens nothing. -/
theorem attachEntryOrders_labelled (symbol : String) (side : Side) (qty : ℚ) (signal : Signal)
    (result : TradeResult) :
    Prog.Sends (labelled label) (fun _ => True)
      (attachEntryOrders symbol side qty signal result) := by
  unfold attachEntryOrders
  cases num? signal.sl with
  | none => exact Prog.Sends.bind (attachTakeProfit_labelled ..) fun _ _ => by simp
  | some sl =>
      refine Prog.Sends.bind (Prog.sends_perform trivial fun _ _ => trivial) fun slRes _ => ?_
      dsimp only
      split
      · exact Prog.Sends.bind (attachTakeProfit_labelled ..) fun _ _ => by simp
      · refine labelled_after closeClientOrderId_consults fun orderId => ?_
        exact Prog.Sends.bind (Prog.sends_perform trivial fun _ _ => trivial) fun _ _ => by simp

theorem openPosition_labelled (ex : CryptoExecutor) (signal : Signal) :
    Prog.Sends (labelled (clientOrderId signal.strategy signal.signalId)) (fun _ => True)
      (ex.openPosition signal) := by
  unfold openPosition
  split
  · simp
  · dsimp only
    split
    · simp
    · refine labelled_after (resolveEntryQty_consults ..) fun resolved => ?_
      refine labelled_after (normalizeVolume_consults ..) fun qty => ?_
      split
      · simp
      · refine labelled_after (enforceMinNotional_consults ..) fun qty => ?_
        cases qty with
        | none => simp
        | some qty =>
            refine labelled_after (nettingConflict_consults ..) fun conflict => ?_
            cases conflict with
            | some conflict => simp
            | none =>
                refine Prog.Sends.bind (Prog.sends_perform rfl fun _ _ => trivial)
                  fun result _ => ?_
                split
                · exact attachEntryOrders_labelled ..
                · simp

/-- Whoever answers, no entry of a strategy with such a name and id is sent under a label
the exchange refuses. -/
theorem openPosition_label_acceptable (ex : CryptoExecutor) (signal : Signal) {σ : Type}
    (S : Prog.Server WorkerOp WorkerOp.Ans Exn σ) (s : σ)
    (hname : ∀ c ∈ signal.strategy.toList.take 20, isWord c = true → c.toNat < 128)
    (hid : ∀ c ∈ (takeEnd 6 (signal.signalId.getD "")).toList, isLabelChar c = true)
    {symbol : String} {side : Side} {qty : ℚ} {orderId label : String}
    (horder : .cx (.placeMarketOrder symbol side qty false orderId) ∈
      Prog.calls S (ex.openPosition signal) s)
    (hlabel : newClientOrderId orderId = some label) : Acceptable label := by
  have hcarried : orderId = clientOrderId signal.strategy signal.signalId :=
    (openPosition_labelled ex signal).calls (fun _ _ => trivial) s _ horder
  rw [hcarried, ← clientOrderIdBy_mainBlocks] at hlabel
  exact acceptable_of_charset ((charset_clientOrderIdBy_iff ..).mpr ⟨hname, hid⟩) hlabel

end CryptoExecutor

end TradeWorker
