import Mathlib.Algebra.Order.BigOperators.Group.List
import Mathlib.Tactic.Linarith
import TradeWorker.TerminalLedger

/-!
# A busy trade context

The terminal serves one trade request at a time and refuses the others. Every order of the
adapter is repeated on such a refusal. Whatever the terminal answers, a call of the contract
sends one request and no other, at most four times; it is sent again only after a refusal that
says busy, and after the pause that is due; and success is reported where the last answer is
`TRADE_RETCODE_DONE`, nowhere else.
-/

namespace TradeWorker

namespace Mt5

/-! ## Requests and pauses -/

/-- What was said to the terminal, and what it answered. -/
abbrev Talk := List ((o : TerminalOp) × Except Exn o.Ans)

/-- A request that was sent, and its answer. -/
abbrev Sent := TradeRequest × Except Exn (Option OrderSendResult)

def sent? : (o : TerminalOp) × Except Exn o.Ans → Option Sent
  | ⟨.orderSend request, r⟩ => some (request, r)
  | _ => none

def slept? : (o : TerminalOp) × Except Exn o.Ans → Option ℚ
  | ⟨.sleep seconds, _⟩ => some seconds
  | _ => none

def busyDelay (attempt : Nat) : ℚ := busySendDelay * 2 ^ (attempt - 1)

/-- What `last_error` said next. -/
def toldNext : Talk → Option LastError
  | ⟨.lastError, .ok error⟩ :: _ => some error
  | _ => none

/-- An answer a request is repeated on, by what was said after it: not done, and busy in its
code or comment or, where there was none, in the error the terminal was asked for next. -/
def Refused (r : Except Exn (Option OrderSendResult)) (rest : Talk) : Prop :=
  ∃ result, r = .ok result ∧ isDone result = false ∧
    isTradeContextBusy result (toldNext rest) = true

/-- Each request that is followed by another was refused. -/
def Retried : Talk → Prop
  | [] => True
  | ⟨.orderSend _, r⟩ :: rest => (rest.filterMap sent? ≠ [] → Refused r rest) ∧ Retried rest
  | _ :: rest => Retried rest

theorem retried_cons_of_not_sent {x : (o : TerminalOp) × Except Exn o.Ans} {rest : Talk}
    (h : sent? x = none) : Retried (x :: rest) ↔ Retried rest := by
  obtain ⟨o, r⟩ := x
  cases o with
  | orderSend request => cases h
  | _ => exact Iff.rfl

theorem retried_append {talk rest : Talk} (h : talk.filterMap sent? = []) :
    Retried (talk ++ rest) ↔ Retried rest := by
  induction talk with
  | nil => exact Iff.rfl
  | cons x talk ih =>
      obtain ⟨hx, htalk⟩ := List.forall_mem_cons.mp (List.filterMap_eq_nil_iff.mp h)
      rw [List.cons_append, retried_cons_of_not_sent hx]
      exact ih (List.filterMap_eq_nil_iff.mpr htalk)

theorem retried_of_none {talk : Talk} (h : talk.filterMap sent? = []) : Retried talk := by
  rw [← List.append_nil talk]
  exact (retried_append h).mpr trivial

theorem retried_of_single {talk : Talk} {x : Sent} (h : talk.filterMap sent? = [x]) :
    Retried talk := by
  induction talk with
  | nil => cases h
  | cons first talk ih =>
      obtain ⟨o, r⟩ := first
      cases o with
      | orderSend request =>
          have hnone : talk.filterMap sent? = [] := (List.cons.inj h).2
          exact ⟨fun hlater => absurd hnone hlater, retried_of_none hnone⟩
      | _ => exact ih h

/-- What comes after the last request changes nothing. -/
theorem Retried.append {talk rest : Talk} (h : Retried talk)
    (hrest : rest.filterMap sent? = []) : Retried (talk ++ rest) := by
  induction talk with
  | nil => exact retried_of_none hrest
  | cons x talk ih =>
      by_cases hx : sent? x = none
      · rw [List.cons_append, retried_cons_of_not_sent hx]
        exact ih ((retried_cons_of_not_sent hx).mp h)
      · obtain ⟨o, r⟩ := x
        cases o with
        | orderSend request =>
            refine ⟨fun hlater => ?_, ih h.2⟩
            have hlater : (talk ++ rest).filterMap sent? ≠ [] := hlater
            rw [List.filterMap_append, hrest, List.append_nil] at hlater
            obtain ⟨result, hr, hdone, hbusy⟩ := h.1 hlater
            refine ⟨result, hr, hdone, ?_⟩
            cases talk with
            | nil => exact absurd rfl hlater
            | cons y talk =>
                have htold : toldNext ((y :: talk) ++ rest) = toldNext (y :: talk) := by
                  obtain ⟨o, r⟩ := y
                  cases o with
                  | lastError => cases r <;> rfl
                  | _ => rfl
                exact (congrArg (isTradeContextBusy result) htold).trans hbusy
        | _ => exact absurd rfl hx

/-- One request, sent as often as it may be from an attempt on. -/
structure Persisted (request : TradeRequest) (left attempt : Nat) (talk : Talk)
    (outcome : Except Exn (Option OrderSendResult)) : Prop where
  same : ∀ x ∈ talk.filterMap sent?, x.1 = request
  few : (talk.filterMap sent?).length ≤ left
  sent : talk.filterMap sent? ≠ []
  refused : Retried talk
  pauses : talk.filterMap slept? <+: (List.range' attempt (left - 1)).map busyDelay
  last : ∀ result, outcome = .ok result →
    (talk.filterMap sent?).getLast? = some (request, .ok result)

/-- The request went out once. -/
theorem Persisted.single {request : TradeRequest} {left attempt : Nat} {talk : Talk}
    {outcome : Except Exn (Option OrderSendResult)} {r : Except Exn (Option OrderSendResult)}
    (hsent : talk.filterMap sent? = [(request, r)])
    (hslept : talk.filterMap slept? <+: (List.range' attempt left).map busyDelay)
    (hlast : ∀ result, outcome = .ok result → r = .ok result) :
    Persisted request (left + 1) attempt talk outcome where
  same x hx := by
    rw [hsent, List.mem_singleton] at hx
    rw [hx]
  few := by
    rw [hsent]
    exact Nat.succ_le_succ (Nat.zero_le _)
  sent := by
    rw [hsent]
    exact List.cons_ne_nil _ _
  refused := retried_of_single hsent
  pauses := hslept
  last result hresult := by
    rw [hsent, hlast result hresult]
    rfl

/-- The request was refused for a busy context and goes out again. -/
theorem Persisted.again {request : TradeRequest} {left attempt : Nat} {talk rest : Talk}
    {r outcome : Except Exn (Option OrderSendResult)}
    (hrest : Persisted request (left + 1) (attempt + 1) rest outcome)
    (hsent : talk.filterMap sent? = (request, r) :: rest.filterMap sent?)
    (hslept : talk.filterMap slept? = busyDelay attempt :: rest.filterMap slept?)
    (hretried : Retried rest → Retried talk) :
    Persisted request (left + 2) attempt talk outcome where
  same x hx := by
    rw [hsent] at hx
    rcases List.mem_cons.mp hx with rfl | hx
    · rfl
    · exact hrest.same x hx
  few := by
    rw [hsent]
    exact Nat.succ_le_succ hrest.few
  sent := by
    rw [hsent]
    exact List.cons_ne_nil _ _
  refused := hretried hrest.refused
  pauses := by
    rw [hslept]
    show _ <+: (List.range' attempt (left + 1)).map busyDelay
    rw [List.range'_succ, List.map_cons, List.prefix_cons_inj]
    exact hrest.pauses
  last result hresult := by
    rw [hsent, List.getLast?_cons, hrest.last result hresult, Option.getD_some]

section Loop

variable {σ : Type} (S : Prog.Server TerminalOp TerminalOp.Ans Exn σ)

def afterAttempt (request : TradeRequest) (left attempt : Nat) (result : Option OrderSendResult)
    (error : Option LastError) : TerminalWork (Option OrderSendResult) :=
  if (!isTradeContextBusy result error) = true then pure result
  else if attempt = busySendAttempts then pure result
  else do
    let _ : Unit ← terminal (.sleep (busySendDelay * 2 ^ (attempt - 1)))
    sendFrom request left (attempt + 1)

theorem sendFrom_succ (request : TradeRequest) (left attempt : Nat) :
    sendFrom request (left + 1) attempt =
      (do
        let result : Option OrderSendResult ← terminal (.orderSend request)
        if isDone result then pure result
        else do
          let error : Option LastError ←
            if result.isNone then some <$> terminal .lastError else pure none
          afterAttempt request left attempt result error) := rfl

theorem persisted_afterAttempt {request : TradeRequest} {left attempt : Nat}
    {result : Option OrderSendResult} (hdone : isDone result = false) (error : Option LastError)
    (hnext : attempt ≠ busySendAttempts → ∃ n, left = n + 1 ∧ ∀ s,
      Persisted request left (attempt + 1) (Prog.dialogue S (sendFrom request left (attempt + 1)) s)
        (Prog.run S (sendFrom request left (attempt + 1)) s).1)
    (s : σ) {told : Talk} (htold : told.filterMap sent? = []) (hawake : told.filterMap slept? = [])
    (herror : ∀ u rest, toldNext (told ++ ⟨.sleep (busyDelay attempt), u⟩ :: rest) = error) :
    Persisted request (left + 1) attempt
      (⟨.orderSend request, .ok result⟩ :: told ++
        Prog.dialogue S (afterAttempt request left attempt result error) s)
      (Prog.run S (afterAttempt request left attempt result error) s).1 := by
  obtain ⟨b, hb⟩ : ∃ b : Talk, b = ⟨.orderSend request, .ok result⟩ :: told := ⟨_, rfl⟩
  have hsent : b.filterMap sent? = [(request, .ok result)] := by
    rw [hb]
    exact congrArg _ htold
  have hslept : b.filterMap slept? = [] := by
    rw [hb]
    exact hawake
  rw [← hb]
  have hstop : Persisted request (left + 1) attempt
      (b ++ Prog.dialogue S (pure result : TerminalWork (Option OrderSendResult)) s)
      (Prog.run S (pure result : TerminalWork (Option OrderSendResult)) s).1 := by
    show Persisted request (left + 1) attempt (b ++ []) (.ok result)
    rw [List.append_nil]
    exact .single hsent (by rw [hslept]; exact List.nil_prefix) fun _ h => h
  unfold afterAttempt
  split
  · exact hstop
  rename_i hbusy
  split
  · exact hstop
  rename_i hattempt
  obtain ⟨n, rfl, hrest⟩ := hnext hattempt
  rcases hsleep : S (.sleep (busyDelay attempt)) s with ⟨e | u, s₁⟩
  · have hfirst := Prog.dialogue_perform_error
      (f := fun _ : Unit => sendFrom request (n + 1) (attempt + 1)) hsleep
    have hrun := Prog.run_bind_error S (f := fun _ : Unit => sendFrom request (n + 1) (attempt + 1))
      ((Prog.run_perform S _ s).trans hsleep)
    show Persisted request (n + 1 + 1) attempt
      (b ++ Prog.dialogue S (Prog.perform (TerminalOp.sleep (busyDelay attempt)) >>= _) s)
      (Prog.run S (Prog.perform (TerminalOp.sleep (busyDelay attempt)) >>= _) s).1
    rw [hfirst, hrun]
    refine .single (r := .ok result) ?_ ?_ fun _ h => nomatch h
    · rw [List.filterMap_append, hsent]
      rfl
    · rw [List.filterMap_append, hslept, List.range'_succ, List.map_cons]
      exact List.prefix_cons_inj _ |>.mpr List.nil_prefix
  · have hfirst := Prog.dialogue_perform_ok
      (f := fun _ : Unit => sendFrom request (n + 1) (attempt + 1)) hsleep
    have hrun := Prog.run_bind_ok S (f := fun _ : Unit => sendFrom request (n + 1) (attempt + 1))
      ((Prog.run_perform S _ s).trans hsleep)
    show Persisted request (n + 1 + 1) attempt
      (b ++ Prog.dialogue S (Prog.perform (TerminalOp.sleep (busyDelay attempt)) >>= _) s)
      (Prog.run S (Prog.perform (TerminalOp.sleep (busyDelay attempt)) >>= _) s).1
    rw [hfirst, hrun]
    refine (hrest s₁).again (r := .ok result) ?_ ?_ fun hretried => ?_
    · rw [List.filterMap_append, hsent]
      rfl
    · rw [List.filterMap_append, hslept]
      rfl
    · rw [hb]
      refine ⟨fun _ => ⟨result, rfl, hdone, ?_⟩, (retried_append htold).mpr hretried⟩
      have hbusy : isTradeContextBusy result error = true := by simpa using hbusy
      rwa [← herror (.ok u)] at hbusy

/-- One attempt, and what follows it. -/
theorem persisted_attempt {request : TradeRequest} {left attempt : Nat}
    (hnext : attempt ≠ busySendAttempts → ∃ n, left = n + 1 ∧ ∀ s,
      Persisted request left (attempt + 1) (Prog.dialogue S (sendFrom request left (attempt + 1)) s)
        (Prog.run S (sendFrom request left (attempt + 1)) s).1) (s : σ) :
    Persisted request (left + 1) attempt (Prog.dialogue S (sendFrom request (left + 1) attempt) s)
      (Prog.run S (sendFrom request (left + 1) attempt) s).1 := by
  rw [sendFrom_succ]
  rcases hsend : S (.orderSend request) s with ⟨e | result, s₁⟩
  · rw [terminal, Prog.dialogue_perform_error hsend,
      Prog.run_bind_error S ((Prog.run_perform S _ s).trans hsend)]
    exact .single rfl List.nil_prefix fun _ h => nomatch h
  rw [terminal, Prog.dialogue_perform_ok hsend,
    Prog.run_bind_ok S ((Prog.run_perform S _ s).trans hsend)]
  show Persisted request (left + 1) attempt
    (_ :: Prog.dialogue S (if isDone result = true then pure result else _) s₁)
    (Prog.run S (if isDone result = true then pure result else _) s₁).1
  by_cases hdone : isDone result = true
  · rw [if_pos hdone]
    exact .single rfl List.nil_prefix fun _ h => h
  rw [if_neg hdone]
  have hdone : isDone result = false := Bool.eq_false_iff.mpr hdone
  cases result with
  | some r =>
      exact @persisted_afterAttempt _ S _ _ _ _ hdone none hnext s₁ [] rfl rfl fun _ _ => rfl
  | none =>
      show Persisted request (left + 1) attempt
        (_ :: Prog.dialogue S
          ((some <$> terminal .lastError) >>= afterAttempt request left attempt none) s₁)
        (Prog.run S
          ((some <$> terminal .lastError) >>= afterAttempt request left attempt none) s₁).1
      rw [map_eq_pure_bind, bind_assoc]
      rcases herror : S .lastError s₁ with ⟨e | error, s₂⟩
      · rw [terminal, Prog.dialogue_perform_error herror,
          Prog.run_bind_error S ((Prog.run_perform S _ s₁).trans herror)]
        exact .single rfl List.nil_prefix fun _ h => nomatch h
      · rw [terminal, Prog.dialogue_perform_ok herror,
          Prog.run_bind_ok S ((Prog.run_perform S _ s₁).trans herror)]
        exact @persisted_afterAttempt _ S _ _ _ _ hdone (some error) hnext s₂
          [⟨.lastError, .ok error⟩] rfl rfl fun _ _ => rfl

/-- The loop of `_send_order_request`, by the attempts left. -/
theorem persisted_sendFrom (request : TradeRequest) (left attempt : Nat)
    (h : left + attempt = busySendAttempts) (s : σ) :
    Persisted request (left + 1) attempt (Prog.dialogue S (sendFrom request (left + 1) attempt) s)
      (Prog.run S (sendFrom request (left + 1) attempt) s).1 := by
  induction left generalizing attempt s with
  | zero => exact persisted_attempt S (fun hne => absurd (by omega) hne) s
  | succ left ih =>
      exact persisted_attempt S (fun _ => ⟨left, rfl, ih (attempt + 1) (by omega)⟩) s

end Loop

/-! ## Waiting -/

def paused (talk : Talk) : ℚ := (talk.filterMap slept?).sum

theorem paused_append (talk talk' : Talk) :
    paused (talk ++ talk') = paused talk + paused talk' := by
  rw [paused, List.filterMap_append, List.sum_append]
  rfl

theorem paused_sleep (seconds : ℚ) (r : Except Exn Unit) (talk : Talk) :
    paused (⟨.sleep seconds, r⟩ :: talk) = seconds + paused talk := rfl

section Waiting

variable {σ : Type} (S : Prog.Server TerminalOp TerminalOp.Ans Exn σ)

/-- A busy context holds an order up for 2.1 seconds at most. -/
theorem paused_sendOrderRequest (request : TradeRequest) (s : σ) :
    paused (Prog.dialogue S (sendOrderRequest request) s) ≤ 21 / 10 := by
  have hpauses : (Prog.dialogue S (sendOrderRequest request) s).filterMap slept? <+:
      [3 / 10, 6 / 10, 12 / 10] := by
    have hdelays : (List.range' 1 3).map busyDelay = [3 / 10, 6 / 10, 12 / 10] := by
      norm_num [List.range', busyDelay, busySendDelay]
    exact hdelays ▸ (persisted_sendFrom S request 3 1 rfl s).pauses
  obtain ⟨rest, hrest⟩ := hpauses
  have hsum : paused (Prog.dialogue S (sendOrderRequest request) s) + rest.sum = 21 / 10 := by
    rw [paused, ← List.sum_append, hrest]
    norm_num
  have hnonneg : 0 ≤ rest.sum := by
    refine List.sum_nonneg fun x hx => ?_
    have hmem : x ∈ [3 / 10, 6 / 10, (12 / 10 : ℚ)] := hrest ▸ List.mem_append_right _ hx
    simp only [List.mem_cons, List.not_mem_nil, or_false] at hmem
    rcases hmem with rfl | rfl | rfl <;> norm_num
  linarith

def wakeful : Prog.Contract TerminalOp TerminalOp.Ans Exn where
  guard o := ∀ seconds, o ≠ .sleep seconds
  answers _ _ := True

theorem wakeful_read {o : TerminalOp} {α : Type} {f : o.Ans → TerminalWork α}
    (h : ∀ seconds, o ≠ .sleep seconds) (hf : ∀ a, Prog.Sends wakeful (fun _ => True) (f a)) :
    Prog.Sends wakeful (fun _ => True) (terminal o >>= f) :=
  Prog.Sends.bind (Prog.sends_perform (Q := fun _ => True) h fun _ _ => trivial) fun a _ => hf a

theorem wakeful_historyDeals (ticket : Option Int) :
    Prog.Sends wakeful (fun _ => True) (historyDeals ticket) := by
  cases ticket with
  | none => exact Prog.sends_ret.mpr trivial
  | some ticketId =>
      exact Prog.Sends.tryCatch
        (wakeful_read (fun _ h => nomatch h) fun _ => Prog.sends_ret.mpr trivial)
        fun _ => Prog.sends_ret.mpr trivial

theorem paused_of_wakeful {α : Type} {Q : α → Prop} {p : TerminalWork α}
    (hp : Prog.Sends wakeful Q p) (s : σ) : paused (Prog.dialogue S p s) = 0 := by
  have hnone : (Prog.dialogue S p s).filterMap slept? = [] := by
    refine List.filterMap_eq_nil_iff.mpr fun x hx => ?_
    have hcall : x.1 ∈ Prog.calls S p s := by
      rw [Prog.calls_eq_map_dialogue]
      exact List.mem_map_of_mem hx
    have hguard := hp.calls (S := S) (fun _ _ => trivial) s x.1 hcall
    obtain ⟨o, r⟩ := x
    cases o with
    | sleep seconds => exact absurd rfl (hguard seconds)
    | _ => rfl
  rw [paused, hnone, List.sum_nil]

theorem dealLookupDelay_nonneg : 0 ≤ dealLookupDelay := by norm_num [dealLookupDelay]

/-- One round of the lookup, and the pause before the next. -/
theorem paused_round (order position left : Nat) (s : σ)
    (hnext : left ≠ 0 → ∀ s, paused (Prog.dialogue S
      (terminal (.sleep dealLookupDelay) >>= fun _ : Unit => lookupFrom order position left) s) ≤
        left * dealLookupDelay) :
    paused (Prog.dialogue S (lookupFrom order position (left + 1)) s) ≤ left * dealLookupDelay := by
  have hread := paused_of_wakeful S (wakeful_historyDeals (some (position : Int))) s
  have hstop : (0 : ℚ) ≤ left * dealLookupDelay :=
    mul_nonneg (Nat.cast_nonneg _) dealLookupDelay_nonneg
  rw [lookupFrom]
  rcases hrun : Prog.run S (historyDeals (some (position : Int))) s with ⟨e | found, s₁⟩
  · rw [Prog.dialogue_bind_error hrun, hread]
    exact hstop
  rw [Prog.dialogue_bind_ok hrun, paused_append, hread, zero_add]
  rcases found with _ | deals
  · exact hstop
  show paused (Prog.dialogue S (if deals.filter (·.order = order) ≠ [] then _ else _) s₁) ≤ _
  by_cases hmine : deals.filter (·.order = order) ≠ []
  · rw [if_pos hmine]
    exact hstop
  rw [if_neg hmine]
  by_cases hleft : left = 0
  · rw [if_pos hleft]
    exact hstop
  · rw [if_neg hleft]
    exact hnext hleft s₁

theorem paused_lookupFrom (order position left : Nat) (s : σ) :
    paused (Prog.dialogue S (lookupFrom order position (left + 1)) s) ≤ left * dealLookupDelay := by
  induction left generalizing s with
  | zero => exact paused_round S order position 0 s fun h => absurd rfl h
  | succ left ih =>
      refine paused_round S order position (left + 1) s fun _ s₁ => ?_
      have hsum : ((left + 1 : Nat) : ℚ) * dealLookupDelay =
          dealLookupDelay + left * dealLookupDelay := by
        rw [Nat.cast_succ, add_mul, one_mul, add_comm]
      rw [hsum]
      rcases hsleep : S (.sleep dealLookupDelay) s₁ with ⟨e | u, s₂⟩
      · rw [terminal, Prog.dialogue_perform_error hsleep, paused_sleep]
        exact add_le_add_right
          (mul_nonneg (Nat.cast_nonneg _) dealLookupDelay_nonneg) dealLookupDelay
      · rw [terminal, Prog.dialogue_perform_ok hsleep, paused_sleep]
        exact add_le_add_right (ih s₂) dealLookupDelay

/-- The lookup of a profit holds a close up for 1.25 seconds at most. -/
theorem paused_closingDealPnl (result : OrderSendResult) (position : Nat) (s : σ) :
    paused (Prog.dialogue S (closingDealPnl result position) s) ≤ 5 / 4 := by
  unfold closingDealPnl
  split
  · show paused [] ≤ 5 / 4
    norm_num [paused]
  · refine (paused_lookupFrom S result.order position 5 s).trans ?_
    norm_num [dealLookupDelay]

theorem paused_bind_le {α β : Type} {p : TerminalWork α} {f : α → TerminalWork β} {a b : ℚ}
    (hp : ∀ s, paused (Prog.dialogue S p s) ≤ a)
    (hf : ∀ x s, paused (Prog.dialogue S (f x) s) ≤ b) (hb : 0 ≤ b) (s : σ) :
    paused (Prog.dialogue S (p >>= f) s) ≤ a + b := by
  rcases hrun : Prog.run S p s with ⟨e | x, s'⟩
  · rw [Prog.dialogue_bind_error hrun]
    exact (hp s).trans (le_add_of_nonneg_right hb)
  · rw [Prog.dialogue_bind_ok hrun, paused_append]
    exact add_le_add (hp s) (hf x s')

theorem paused_notSent (comment : String) (s : σ) :
    paused (Prog.dialogue S (notSent comment) s) = 0 :=
  paused_of_wakeful S (wakeful_read (o := .lastError) (fun _ h => nomatch h) fun _ =>
    wakeful_read (o := .lastError) (fun _ h => nomatch h) fun _ => Prog.sends_ret.mpr trivial) s

theorem paused_getTick (symbol : String) (s : σ) :
    paused (Prog.dialogue S (Mt5Gateway.getTick symbol) s) = 0 :=
  paused_of_wakeful S
    (wakeful_read (o := .symbolInfoTick symbol) (fun _ h => nomatch h)
      fun _ => Prog.sends_ret.mpr trivial) s

/-- The calls that change a position. -/
def Trades : ForexOp → Prop
  | .placeOrder _ | .closePosition .. | .modifySl .. => True
  | _ => False

/-- **A bounded wait.** However busy the terminal is and whatever it answers, a call that trades
sleeps for 3.35 seconds at most: 2.1 for the context, 1.25 for the profit of a close. -/
theorem platform_paused (gateway : Mt5Gateway) {o : ForexOp} (ho : Trades o) (s : σ) :
    paused (Prog.dialogue S (gateway.platform o) s) ≤ 67 / 20 := by
  have hsend : ∀ {k : Option OrderSendResult → TerminalWork TradeResult} (request : TradeRequest),
      (∀ result s, paused (Prog.dialogue S (k result) s) ≤ 5 / 4) → ∀ s,
        paused (Prog.dialogue S (sendOrderRequest request >>= k) s) ≤ 67 / 20 := by
    intro k request hk s
    have hbound := paused_bind_le S (paused_sendOrderRequest S request) hk (by norm_num) s
    exact hbound.trans (by norm_num)
  have hnone : ∀ comment s, paused (Prog.dialogue S (notSent comment) s) ≤ 5 / 4 := by
    intro comment s
    rw [paused_notSent]
    norm_num
  have hpure : ∀ (r : TradeResult) s,
      paused (Prog.dialogue S (pure r : TerminalWork TradeResult) s) ≤ 5 / 4 := by
    intro r s
    show (0 : ℚ) ≤ 5 / 4
    norm_num
  cases o with
  | placeOrder req =>
      refine hsend _ (fun result s => ?_) s
      cases result with
      | none => exact hnone _ s
      | some r =>
          dsimp only
          split
          · exact hpure _ s
          · exact hpure _ s
  | modifySl pos newSl =>
      refine hsend _ (fun result s => ?_) s
      cases result with
      | none => exact hnone _ s
      | some r =>
          dsimp only
          split
          · exact hpure _ s
          · exact hpure _ s
  | closePosition pos volume comment =>
      have hbound : paused (Prog.dialogue S (gateway.closePosition pos volume comment) s) ≤
          0 + 67 / 20 := by
        refine paused_bind_le S (fun s => (paused_getTick S pos.symbol s).le) (fun tick s => ?_)
          (by norm_num) s
        cases tick with
        | none => exact (hpure _ s).trans (by norm_num)
        | some tick =>
            refine hsend _ (fun result s => ?_) s
            cases result with
            | none => exact hnone _ s
            | some r =>
                dsimp only
                split
                · exact hpure _ s
                · refine (paused_bind_le S (paused_closingDealPnl S r pos.ticket)
                    (fun profit s => ?_) le_rfl s).trans_eq (add_zero _)
                  exact le_refl (0 : ℚ)
      rw [zero_add] at hbound
      exact hbound
  | _ => exact absurd ho id

/-- A close that finds the context busy first. -/
theorem halfClose_paused :
    paused (Prog.dialogue SimTerminal.serve
      (({} : Mt5Gateway).platform (.closePosition SimTerminal.goldLot (some (1 / 2)) "Close"))
      SimTerminal.busy) ≤ 67 / 20 :=
  platform_paused SimTerminal.serve {}
    (o := .closePosition SimTerminal.goldLot (some (1 / 2)) "Close") trivial SimTerminal.busy

end Waiting

/-! ## A call of the contract -/

/-- One request and no other, sent again on refusals only. -/
structure OneOrder (talk : Talk) : Prop where
  same : ∃ request, ∀ x ∈ talk.filterMap sent?, x.1 = request
  few : (talk.filterMap sent?).length ≤ busySendAttempts
  refused : Retried talk

theorem OneOrder.of_none {talk : Talk} (h : talk.filterMap sent? = []) : OneOrder talk where
  same := ⟨.sltp "" 0 0 0, fun x hx => by
    rw [h] at hx
    cases hx⟩
  few := by
    rw [h]
    exact Nat.zero_le _
  refused := retried_of_none h

theorem OneOrder.after {before talk : Talk} (h : OneOrder talk)
    (hbefore : before.filterMap sent? = []) : OneOrder (before ++ talk) where
  same := by
    rw [List.filterMap_append, hbefore]
    exact h.same
  few := by
    rw [List.filterMap_append, hbefore]
    exact h.few
  refused := (retried_append hbefore).mpr h.refused

/-- The last request was answered `TRADE_RETCODE_DONE`. -/
def LastDone (talk : Talk) : Prop :=
  ∃ request r, (talk.filterMap sent?).getLast? = some (request, .ok (some r)) ∧
    r.retcode = retcodeDone

theorem not_lastDone_of_none {talk : Talk} (h : talk.filterMap sent? = []) : ¬LastDone talk := by
  rintro ⟨_, _, hlast, -⟩
  rw [h] at hlast
  cases hlast

section Contract

variable {σ : Type} {S : Prog.Server TerminalOp TerminalOp.Ans Exn σ}

theorem sends_of_orderless {α : Type} {Q : α → Prop} {p : TerminalWork α}
    (hp : Prog.Sends orderless Q p) (s : σ) : (Prog.dialogue S p s).filterMap sent? = [] := by
  refine List.filterMap_eq_nil_iff.mpr fun x hx => ?_
  have hcall : x.1 ∈ Prog.calls S p s := by
    rw [Prog.calls_eq_map_dialogue]
    exact List.mem_map_of_mem hx
  have hguard := hp.calls (S := S) (fun _ _ => trivial) s x.1 hcall
  obtain ⟨o, r⟩ := x
  cases o with
  | orderSend request => exact absurd rfl (hguard request)
  | _ => rfl

/-- A request, and what is made of its answer without another. -/
theorem oneOrder_of_sent {request : TradeRequest}
    {k : Option OrderSendResult → TerminalWork TradeResult}
    (hk : ∀ result, Prog.Sends orderless (fun r => r.success = isDone result) (k result)) (s : σ) :
    OneOrder (Prog.dialogue S (sendOrderRequest request >>= k) s) ∧
      ∀ r, (Prog.run S (sendOrderRequest request >>= k) s).1 = .ok r →
        (r.success = true ↔ LastDone (Prog.dialogue S (sendOrderRequest request >>= k) s)) := by
  have hsent : Persisted request busySendAttempts 1 (Prog.dialogue S (sendOrderRequest request) s)
      (Prog.run S (sendOrderRequest request) s).1 := persisted_sendFrom S request 3 1 rfl s
  rcases hrun : Prog.run S (sendOrderRequest request) s with ⟨e | result, s₁⟩
  · rw [Prog.dialogue_bind_error hrun, Prog.run_bind_error S hrun]
    exact ⟨⟨⟨request, hsent.same⟩, hsent.few, hsent.refused⟩, fun r h => nomatch h⟩
  · have hrest : (Prog.dialogue S (k result) s₁).filterMap sent? = [] :=
      sends_of_orderless (hk result) s₁
    have hsends : (Prog.dialogue S (sendOrderRequest request) s ++
        Prog.dialogue S (k result) s₁).filterMap sent? =
          (Prog.dialogue S (sendOrderRequest request) s).filterMap sent? := by
      rw [List.filterMap_append, hrest, List.append_nil]
    rw [Prog.dialogue_bind_ok hrun, Prog.run_bind_ok S hrun]
    refine ⟨⟨⟨request, ?_⟩, ?_, hsent.refused.append hrest⟩, fun r hr => ?_⟩
    · rw [hsends]
      exact hsent.same
    · rw [hsends]
      exact hsent.few
    have hlast := hsent.last result (by rw [hrun])
    have hsuccess : r.success = isDone result := by
      have hwp := (hk result).wp (E := S.env) (I := fun _ => True)
        (fun _ _ _ _ => ⟨trivial, fun _ _ _ => ⟨trivial, trivial⟩⟩) (s := s₁) trivial
      exact ((Prog.run_iff_wp S (k result) s₁).mp hwp).2 r hr
    rw [hsuccess, LastDone, hsends, hlast]
    cases result with
    | none =>
        constructor
        · intro hdone
          cases hdone
        · rintro ⟨_, _, hreply, -⟩
          cases hreply
    | some reply =>
        constructor
        · intro hdone
          exact ⟨request, reply, rfl, by simpa [isDone] using hdone⟩
        · rintro ⟨_, _, hreply, hdone⟩
          cases hreply
          simpa [isDone] using hdone

/-- What the order methods make of an answer. -/
theorem orderless_reported {comment : String} {failure : OrderSendResult → TradeResult}
    {finish : OrderSendResult → TerminalWork TradeResult}
    {k : Option OrderSendResult → TerminalWork TradeResult} (hnone : k none = notSent comment)
    (hsome : ∀ r, k (some r) = if r.retcode ≠ retcodeDone then pure (failure r) else finish r)
    (hfailure : ∀ r, (failure r).success = false)
    (hfinish : ∀ r, Prog.Sends orderless (fun a => a.success = true) (finish r))
    (result : Option OrderSendResult) :
    Prog.Sends orderless (fun r => r.success = isDone result) (k result) := by
  cases result with
  | none =>
      rw [hnone]
      exact orderless_notSent comment
  | some r =>
      rw [hsome]
      split
      · rename_i hcode
        have hnot : isDone (some r) = false := decide_eq_false hcode
        exact Prog.sends_ret.mpr ((hfailure r).trans hnot.symm)
      · rename_i hcode
        have hdone : isDone (some r) = true := decide_eq_true (not_not.mp hcode)
        exact (hfinish r).mono fun a ha => ha.trans hdone.symm

def Succeeded : (o : ForexOp) → o.Ans → Prop
  | .placeOrder _, r | .closePosition .., r | .modifySl .., r => r.success = true
  | _, _ => False

/-- **One order for each call.** Whatever the terminal answers, a call of the contract sends one
request at most, four times at most, and again only where it was refused for a busy context, by
its answer or, where there was none, by the error the terminal tells next.
Where it returns, it reports a success just when the last answer was `TRADE_RETCODE_DONE`. -/
theorem platform_oneOrder (S : Prog.Server TerminalOp TerminalOp.Ans Exn σ) (gateway : Mt5Gateway)
    (o : ForexOp) (s : σ) :
    OneOrder (Prog.dialogue S (gateway.platform o) s) ∧
      ∀ a, (Prog.run S (gateway.platform o) s).1 = .ok a →
        (Succeeded o a ↔ LastDone (Prog.dialogue S (gateway.platform o) s)) := by
  have hread : ∀ (o : ForexOp), (∀ a, ¬ Succeeded o a) →
      Prog.Sends orderless (fun _ => True) (gateway.platform o) →
      OneOrder (Prog.dialogue S (gateway.platform o) s) ∧
        ∀ a, (Prog.run S (gateway.platform o) s).1 = .ok a →
          (Succeeded o a ↔ LastDone (Prog.dialogue S (gateway.platform o) s)) := by
    intro o hnot ho
    have hnone : (Prog.dialogue S (gateway.platform o) s).filterMap sent? = [] :=
      sends_of_orderless ho s
    exact ⟨.of_none hnone, fun a _ =>
      iff_of_false (hnot a) (not_lastDone_of_none hnone)⟩
  cases o with
  | placeOrder req =>
      exact oneOrder_of_sent (orderless_reported rfl (fun _ => rfl) (fun _ => rfl)
        fun _ => Prog.sends_ret.mpr rfl) s
  | modifySl pos newSl =>
      exact oneOrder_of_sent (orderless_reported rfl (fun _ => rfl) (fun _ => rfl)
        fun _ => Prog.sends_ret.mpr rfl) s
  | closePosition pos volume comment =>
      show OneOrder (Prog.dialogue S (Mt5Gateway.getTick pos.symbol >>= _) s) ∧
        ∀ a : TradeResult, (Prog.run S (Mt5Gateway.getTick pos.symbol >>= _) s).1 = .ok a →
          (a.success = true ↔
            LastDone (Prog.dialogue S (Mt5Gateway.getTick pos.symbol >>= _) s))
      have htick : ∀ s, (Prog.dialogue S (Mt5Gateway.getTick pos.symbol) s).filterMap sent? = [] :=
        sends_of_orderless (orderless_getTick pos.symbol)
      rcases hrun : Prog.run S (Mt5Gateway.getTick pos.symbol) s with ⟨e | tick, s₁⟩
      · rw [Prog.dialogue_bind_error hrun, Prog.run_bind_error S hrun]
        exact ⟨.of_none (htick s), fun a h => nomatch h⟩
      rw [Prog.dialogue_bind_ok hrun, Prog.run_bind_ok S hrun]
      cases tick with
      | none =>
          have hnone : (Prog.dialogue S (Mt5Gateway.getTick pos.symbol) s ++ []).filterMap sent? =
              [] := by
            rw [List.append_nil]
            exact htick s
          refine ⟨.of_none hnone, fun a h => ?_⟩
          obtain rfl := Except.ok.inj h
          exact iff_of_false Bool.false_ne_true (not_lastDone_of_none hnone)
      | some tick =>
          refine (oneOrder_of_sent (orderless_reported rfl (fun _ => rfl) (fun _ => rfl) fun r =>
            (orderless_closingDealPnl r pos.ticket).bind fun _ _ => Prog.sends_ret.mpr rfl)
              s₁).imp (fun h => h.after (htick s)) fun h a ha => ?_
          rw [h a ha, LastDone, LastDone, List.filterMap_append, htick s, List.nil_append]
  | resolveSymbol baseSymbol => exact hread _ (fun _ h => h) (orderless_resolveSymbol ..)
  | getSymbolSpec symbol =>
      exact hread (.getSymbolSpec symbol) (fun _ h => h)
        (orderless_read (fun _ h => nomatch h) fun _ => orderless_pure _)
  | getTick symbol => exact hread (.getTick symbol) (fun _ h => h) (orderless_getTick symbol)
  | getPositions symbol =>
      exact hread (.getPositions symbol) (fun _ h => h)
        (orderless_read (fun _ h => nomatch h) fun _ => orderless_pure _)
  | getAccount => exact hread _ (fun _ h => h) orderless_getAccount
  | calcMargin symbol side volume price =>
      exact hread _ (fun _ h => h) (orderless_calcMargin ..)
  | getPositionRealizedPnl ticket =>
      exact hread (.getPositionRealizedPnl ticket) (fun _ h => h)
        ((orderless_historyDeals _).bind fun _ _ => orderless_pure _)

end Contract

end Mt5

end TradeWorker
