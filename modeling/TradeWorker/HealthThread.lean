import TradeWorker.Monitor
import TradeWorker.Work

/-!
# The health thread of the forex worker

The thread looks after the terminal: every fifteen seconds it asks whether the terminal is
connected, reconnects it if not, and kills and starts it anew if that fails fifteen times. Over
the weekend the trade server is offline; the thread closes the connection once and leaves it
alone. What it may do when is a protocol, and whatever the terminal answers the thread keeps it.
-/

namespace TradeWorker

namespace Health

/-! ## The weekend -/

def marketCloseHourUtc : Int := 22

def marketOpenHourUtc : Int := 22

/-- `datetime.weekday` of a time in seconds since the epoch, which was a Thursday. -/
def weekday (time : Int) : Int := (time / 86400 + 3) % 7

def hour (time : Int) : Int := time % 86400 / 3600

def isMarketClosed (time : Int) : Bool :=
  if weekday time = 4 then marketCloseHourUtc ≤ hour time
  else if weekday time = 5 then true
  else if weekday time = 6 then hour time < marketOpenHourUtc
  else false

def fridayClose : Int := 86400 + 22 * 3600

/-- The window is the two days that follow Friday, 22:00, of every week. -/
theorem isMarketClosed_iff (time : Int) :
    isMarketClosed time = true ↔ (time - fridayClose) % (7 * 86400) < 2 * 86400 := by
  unfold isMarketClosed fridayClose
  split_ifs with hfriday hsaturday hsunday
  · unfold weekday at hfriday
    rw [decide_eq_true_eq, marketCloseHourUtc, hour]
    omega
  · unfold weekday at hsaturday
    exact iff_of_true rfl (by omega)
  · unfold weekday at hsunday
    rw [decide_eq_true_eq, marketOpenHourUtc, hour]
    omega
  · unfold weekday at hfriday hsaturday hsunday
    exact iff_of_false id (by omega)

/-! ## Calls -/

/-- The account snapshot, with the keys the footer looks up. -/
structure AccountInfo where
  name : String
  balance : ℚ
  equity : ℚ
  leverage : ℚ
  margin : ℚ
  marginLevel : ℚ
  deriving DecidableEq, Repr

/-- The account lines of `build_account_footer`; without a status they show zeros. -/
structure Footer where
  status : Option AccountInfo
  deriving DecidableEq, Repr

/-- What the thread sends to the channel, besides the footer. -/
inductive Notice where
  | marketClosed
  | reconnecting
  | connected
  | reconnectFailed
  | restartFailed
  | connectedAfterRestart
  | unreachable
  deriving DecidableEq, Repr

/-- The stop event, the clock, the channel, the functions of the `MetaTrader5` package and those
of the operating system. -/
inductive HealthOp where
  | stopped
  | utcNow
  | wait (seconds : ℚ)
  | sendMessage (notice : Notice) (footer : Footer)
  | terminalInfo
  | shutdown
  | initializeTerminal
  | login
  | accountInfo
  | lastError
  | sleep (seconds : ℚ)
  | taskkill
  | isFile (path : String)
  | popen (path : String)

/-- `terminal_info` says whether the terminal is connected, if it says anything. -/
@[reducible] def HealthOp.Ans : HealthOp → Type
  | .stopped => Bool
  | .utcNow => Int
  | .wait _ => Bool
  | .sendMessage .. => Unit
  | .terminalInfo => Option Bool
  | .shutdown => Unit
  | .initializeTerminal => Bool
  | .login => Bool
  | .accountInfo => Option AccountInfo
  | .lastError => Int
  | .sleep _ => Unit
  | .taskkill => Int
  | .isFile _ => Bool
  | .popen _ => Unit

abbrev HealthWork (α : Type) := Prog HealthOp HealthOp.Ans Exn α

def host (o : HealthOp) : HealthWork o.Ans := Prog.perform o

/-! ## The terminal -/

def connect : HealthWork Bool :=
  Prog.tryCatch
    (do
      let _ : Unit ← host (.sleep 0)
      let initialized : Bool ← host .initializeTerminal
      if !initialized then do
        let _ : Int ← host .lastError
        pure false
      else do
        let authorized : Bool ← host .login
        if authorized then do
          let _ : Option AccountInfo ← host .accountInfo
          pure true
        else do
          let _ : Int ← host .lastError
          pure false)
    fun _ => pure false

def isConnected : HealthWork Bool :=
  Prog.tryCatch
    (do
      let info : Option Bool ← host .terminalInfo
      pure (info.getD false))
    fun _ => pure false

/-- `reconnect`, with the attempts that are left. -/
def reconnect (delaySeconds : ℚ) : Nat → HealthWork Bool
  | 0 => pure false
  | left + 1 => do
      let _ : Unit ← host (.sleep 0)
      let _ : Unit ← Prog.tryCatch (host .shutdown) fun _ => pure ()
      let connected ← connect
      if connected then pure true
      else do
        let _ : Unit ← host (.sleep delaySeconds)
        reconnect delaySeconds left

def restartTerminal (path : Option String) (startupWait : ℚ) : HealthWork Bool := do
  let _ : Int ← Prog.tryCatch (host .taskkill) fun _ => pure 1
  let _ : Unit ← host (.sleep 2)
  match path with
  | none => pure false
  | some path => do
      let found : Bool ← host (.isFile path)
      if !found then pure false
      else
        Prog.tryCatch
          (do
            let _ : Unit ← host (.popen path)
            let _ : Unit ← host (.sleep startupWait)
            pure true)
          fun _ => pure false

/-! ## The thread -/

def healthInterval : ℚ := 15

def healthIntervalWeekend : ℚ := 15 * 60

def getAccountStatus : HealthWork (Option AccountInfo) :=
  Prog.tryCatch
    (do
      let info : Option AccountInfo ← host .accountInfo
      if info.isNone then do
        let _ : Int ← host .lastError
        pure none
      else pure info)
    fun _ => pure none

def getAccountFooter : HealthWork Footer := do
  let status ← getAccountStatus
  pure { status }

/-- A message with the footer of the moment. -/
def tell (notice : Notice) : HealthWork Unit := do
  let footer ← getAccountFooter
  host (.sendMessage notice footer)

def closeForWeekend : HealthWork Unit := do
  tell .marketClosed
  Prog.tryCatch (host .shutdown) fun _ => pure ()

def restartTerminalAndReconnect (path : Option String) : HealthWork Unit := do
  let restarted ← restartTerminal path 15
  if !restarted then tell .restartFailed
  else do
    let connected ← reconnect 10 15
    if connected then tell .connectedAfterRestart
    else tell .unreachable

def reconnectOrRestart (path : Option String) : HealthWork Unit := do
  tell .reconnecting
  let connected ← reconnect 10 15
  if connected then tell .connected
  else do
    tell .reconnectFailed
    restartTerminalAndReconnect path

def closedRound (closedForWeekend : Bool) : HealthWork Bool :=
  Prog.tryCatch
    (if closedForWeekend then pure true
    else do
      closeForWeekend
      pure true)
    fun _ => pure closedForWeekend

def openRound (path : Option String) : HealthWork Bool :=
  Prog.tryCatch
    (do
      let connected ← isConnected
      if connected then pure false
      else do
        reconnectOrRestart path
        pure false)
    fun _ => pure false

/-- One round of `_health_thread`, from `closed_for_weekend`; `none` ends it. -/
def round (path : Option String) (closedForWeekend : Bool) : HealthWork (Option Bool) := do
  let stopped : Bool ← host .stopped
  if stopped then pure none
  else do
    let time : Int ← host .utcNow
    let stop : Bool ←
      host (.wait (if isMarketClosed time then healthIntervalWeekend else healthInterval))
    if stop then pure none
    else if isMarketClosed time then some <$> closedRound closedForWeekend
    else some <$> openRound path

/-- The first rounds of `_health_thread`. -/
def rounds (path : Option String) : Nat → Bool → HealthWork (Option Bool)
  | 0, closedForWeekend => pure (some closedForWeekend)
  | n + 1, closedForWeekend => do
      let next ← round path closedForWeekend
      match next with
      | none => pure none
      | some closedForWeekend => rounds path n closedForWeekend

/-! ## What the thread may do -/

/-- What is known from the answers: whether the market was open when the clock was read last,
whether the connection was shut down since it was open, and of the check made last, whether it
found the terminal away, how many attempts were made since, whether the account was accepted and
then read, and whether the terminal's end was tried. -/
structure Memory where
  marketOpen : Bool := false
  parked : Bool := false
  away : Bool := false
  attempts : Nat := 0
  authorized : Bool := false
  back : Bool := false
  killTried : Bool := false

namespace Memory

def unchecked (m : Memory) : Memory :=
  { m with away := false, attempts := 0, authorized := false, back := false, killTried := false }

def note : (o : HealthOp) → Except Exn o.Ans → Memory → Memory
  | .utcNow, .ok time, m =>
      { m.unchecked with
        marketOpen := !isMarketClosed time
        parked := m.parked && isMarketClosed time }
  | .terminalInfo, .ok info, m => { m.unchecked with away := !info.getD false }
  | .terminalInfo, .error _, m => { m.unchecked with away := true }
  | .shutdown, _, m =>
      if m.marketOpen then { m with attempts := m.attempts + 1 } else { m with parked := true }
  | .login, .ok authorized, m => { m with authorized }
  -- the footer reads the account too
  | .accountInfo, .ok _, m =>
      if m.authorized then { m with authorized := false, back := true } else m
  | .accountInfo, .error _, m => if m.authorized then { m with authorized := false } else m
  | .taskkill, _, m => { m with killTried := true }
  | _, _, m => m

/-- The attempts there may be. -/
def limit (m : Memory) : Nat := if m.killTried then 30 else 15

/-- The market is open, and the check found the terminal away; it has not come back. -/
structure Needed (m : Memory) : Prop where
  marketOpen : m.marketOpen = true
  away : m.away = true
  back : m.back = false

/-- The connection is opened where it is needed, after fifteen shutdowns at most before the
terminal's end is tried and as many after. That is tried once fifteen attempts have failed, once,
and the terminal is started when it was tried. While the market is closed the connection is shut
down once, and the terminal is not spoken to from then on. -/
def allows : HealthOp → Memory → Prop
  | .initializeTerminal, m | .login, m => m.Needed ∧ m.parked = false
  | .shutdown, m =>
      m.parked = false ∧ (m.marketOpen = true → m.Needed ∧ m.attempts < m.limit)
  | .taskkill, m => m.Needed ∧ m.attempts = 15 ∧ m.killTried = false
  | .popen _, m => m.killTried = true
  | .terminalInfo, m | .accountInfo, m | .lastError, m => m.parked = false
  | _, _ => True

/-- The connection is not parked, and no account was accepted that is still to be read. -/
structure Idle (m : Memory) : Prop where
  parked : m.parked = false
  authorized : m.authorized = false

/-- The terminal is being called, after a number of attempts. -/
structure Calling (m : Memory) (attempts : Nat) (killTried : Bool) : Prop
    extends m.Needed, m.Idle where
  attempts : m.attempts = attempts
  killTried : m.killTried = killTried

/-- What is left of an open market whatever happens. -/
structure Unparked (m : Memory) : Prop extends m.Idle where
  marketOpen : m.marketOpen = true

theorem Calling.unparked {m : Memory} {attempts : Nat} {killTried : Bool}
    (h : m.Calling attempts killTried) : m.Unparked where
  toIdle := h.toIdle
  marketOpen := h.marketOpen

end Memory

def protocol : Prog.Monitor HealthOp HealthOp.Ans Exn Memory where
  note := Memory.note
  allows := Memory.allows

/-! ## The thread keeps it -/

/-- The footer reads the account; the monitor learns nothing. -/
theorem wp_getAccountFooter {m : Memory} (h : m.Idle) :
    Prog.wp protocol.env (fun r m' => (∃ footer, r = .ok footer) ∧ m' = m) getAccountFooter m := by
  have hread : ∀ r : Except Exn (Option AccountInfo), protocol.note .accountInfo r m = m := by
    intro r
    cases r <;> exact if_neg (Bool.eq_false_iff.mp h.authorized)
  have hstatus : Prog.wp protocol.env (fun r m' => (∃ status, r = .ok status) ∧ m' = m)
      getAccountStatus m := by
    refine Prog.wp_tryCatch.mpr (Prog.Monitor.wp_step h.parked (fun info => ?_) fun e => ?_)
    · rw [hread]
      cases info with
      | none =>
          refine Prog.Monitor.wp_step h.parked (fun _ => ?_) fun _ => ?_
          · exact ⟨⟨none, rfl⟩, rfl⟩
          · exact ⟨⟨none, rfl⟩, rfl⟩
      | some info => exact ⟨⟨some info, rfl⟩, rfl⟩
    · rw [hread]
      exact ⟨⟨none, rfl⟩, rfl⟩
  refine Prog.wp_bind_of hstatus (fun status m₁ h₁ => ⟨⟨_, rfl⟩, h₁.2⟩) fun e m₁ h₁ => ?_
  obtain ⟨⟨status, hstatus⟩, -⟩ := h₁
  cases hstatus

/-- Nor from a message. -/
theorem wp_tell {α : Type} {Q : Except Exn α → Memory → Prop} {notice : Notice}
    {f : Unit → HealthWork α} {m : Memory} (h : m.Idle) (hf : Prog.wp protocol.env Q (f ()) m)
    (hQ : ∀ e, Q (.error e) m) : Prog.wp protocol.env Q (tell notice >>= f) m := by
  have htell : (tell notice >>= f) =
      (getAccountFooter >>= fun footer => host (.sendMessage notice footer) >>= f) :=
    Prog.bind_bind ..
  rw [htell]
  refine Prog.wp_bind_of (wp_getAccountFooter h) (fun footer m₁ h₁ => ?_) fun e m₁ h₁ => ?_
  · obtain ⟨-, rfl⟩ := h₁
    exact Prog.Monitor.wp_step trivial (fun _ => hf) hQ
  · obtain ⟨⟨footer, hfooter⟩, -⟩ := h₁
    cases hfooter

theorem wp_tell_last {Q : Except Exn Unit → Memory → Prop} {notice : Notice} {m : Memory}
    (h : m.Idle) (hok : Q (.ok ()) m) (hQ : ∀ e, Q (.error e) m) :
    Prog.wp protocol.env Q (tell notice) m := by
  have htell : Prog.wp protocol.env Q (tell notice >>= fun _ => Prog.ret ()) m := wp_tell h hok hQ
  rwa [show (tell notice >>= fun _ => Prog.ret ()) = tell notice from Prog.bind_ret _] at htell

/-- What work on an open market leaves; if it returns a failure, the terminal is still being
called. -/
def Worked (attempts : Nat) (killTried : Bool) (r : Except Exn Bool) (m : Memory) : Prop :=
  m.Unparked ∧ (r = .ok false → m.Calling attempts killTried)

theorem wp_connect {attempts : Nat} {killTried : Bool} {m : Memory}
    (h : m.Calling attempts killTried) :
    Prog.wp protocol.env (fun r m' => Worked attempts killTried r m' ∧ ∃ b, r = .ok b)
      connect m := by
  have hfailed : Worked attempts killTried (.ok false) m ∧
      ∃ b, Except.ok (ε := Exn) false = .ok b := ⟨⟨h.unparked, fun _ => h⟩, false, rfl⟩
  refine Prog.wp_tryCatch.mpr (Prog.Monitor.wp_step trivial (fun _ => ?_) fun _ => hfailed)
  refine Prog.Monitor.wp_step ⟨h.toNeeded, h.parked⟩ (fun initialized => ?_) fun _ => hfailed
  cases initialized with
  | false => exact Prog.Monitor.wp_step h.parked (fun _ => hfailed) fun _ => hfailed
  | true =>
      refine Prog.Monitor.wp_step ⟨h.toNeeded, h.parked⟩ (fun authorized => ?_) fun _ => hfailed
      have hrefused : ({ m with authorized := false } : Memory).Calling attempts killTried :=
        ⟨⟨h.marketOpen, h.away, h.back⟩, ⟨h.parked, rfl⟩, h.attempts, h.killTried⟩
      have hstill : Worked attempts killTried (.ok false) { m with authorized := false } ∧
          ∃ b, Except.ok (ε := Exn) false = .ok b :=
        ⟨⟨hrefused.unparked, fun _ => hrefused⟩, false, rfl⟩
      cases authorized with
      | false => exact Prog.Monitor.wp_step h.parked (fun _ => hstill) fun _ => hstill
      | true =>
          refine Prog.Monitor.wp_step h.parked (fun _ => ?_) fun _ => hstill
          exact ⟨⟨⟨⟨h.parked, rfl⟩, h.marketOpen⟩, fun hfalse => nomatch hfalse⟩, true, rfl⟩

/-- One shutdown, where the terminal is called; what it raises is swallowed. -/
theorem wp_shutdown {attempts : Nat} {killTried : Bool} {m : Memory}
    (h : m.Calling attempts killTried) (hlimit : attempts < if killTried then 30 else 15) :
    Prog.wp protocol.env (fun r m' => r = .ok () ∧ m'.Calling (attempts + 1) killTried)
      (Prog.tryCatch (host .shutdown) fun _ => pure ()) m := by
  have hnote : ∀ r, Memory.note .shutdown r m = { m with attempts := m.attempts + 1 } :=
    fun r => if_pos h.marketOpen
  have hbelow : m.attempts < m.limit := by
    rw [Memory.limit, h.attempts, h.killTried]
    exact hlimit
  have hnext : ({ m with attempts := m.attempts + 1 } : Memory).Calling (attempts + 1) killTried :=
    ⟨⟨h.marketOpen, h.away, h.back⟩, ⟨h.parked, h.authorized⟩, congrArg (· + 1) h.attempts,
      h.killTried⟩
  refine Prog.wp_tryCatch.mpr (Prog.wp_perform.mpr ⟨⟨h.parked, fun _ => ⟨h.toNeeded, hbelow⟩⟩, ?_⟩)
  rintro r m' rfl
  show _
  rw [show protocol.note .shutdown r m = _ from hnote r]
  cases r with
  | ok _ => exact ⟨rfl, hnext⟩
  | error e => exact ⟨rfl, hnext⟩

/-- Attempts to reconnect, as many as are left. -/
theorem wp_reconnect (delaySeconds : ℚ) (left : Nat) {attempts : Nat} {killTried : Bool}
    {m : Memory} (h : m.Calling attempts killTried)
    (hlimit : attempts + left ≤ if killTried then 30 else 15) :
    Prog.wp protocol.env (Worked (attempts + left) killTried) (reconnect delaySeconds left) m := by
  induction left generalizing attempts m with
  | zero => exact ⟨h.unparked, fun _ => h⟩
  | succ left ih =>
      have hleft : ∀ {m' : Memory} {k} (e : Exn), m'.Calling k killTried →
          Worked (attempts + (left + 1)) killTried (.error e) m' :=
        fun e h' => ⟨h'.unparked, fun hfalse => nomatch hfalse⟩
      refine Prog.Monitor.wp_step trivial (fun _ => ?_) fun e => hleft e h
      refine Prog.wp_bind_of (wp_shutdown h (by omega)) (fun _ m₁ h₁ => ?_)
        fun e m₁ h₁ => nomatch h₁.1
      refine Prog.wp_bind_of (wp_connect h₁.2) (fun connected m₂ h₂ => ?_) fun e m₂ h₂ => by
        obtain ⟨-, b, hb⟩ := h₂
        cases hb
      obtain ⟨⟨hunparked, hcalling⟩, -⟩ := h₂
      cases connected with
      | true => exact ⟨hunparked, fun hfalse => nomatch hfalse⟩
      | false =>
          have hcalling := hcalling rfl
          refine Prog.Monitor.wp_step trivial (fun _ => ?_) fun e => hleft e hcalling
          have hrest := ih hcalling (by omega)
          rwa [Nat.add_assoc, Nat.add_comm 1 left] at hrest

theorem wp_restartTerminal (path : Option String) (startupWait : ℚ) {m : Memory}
    (h : m.Calling 15 false) :
    Prog.wp protocol.env (fun r m' => m'.Unparked ∧ (∀ b, r = .ok b → m'.Calling 15 true))
      (restartTerminal path startupWait) m := by
  have htried : ({ m with killTried := true } : Memory).Calling 15 true :=
    ⟨⟨h.marketOpen, h.away, h.back⟩, ⟨h.parked, h.authorized⟩, h.attempts, rfl⟩
  have hdone : ∀ r : Except Exn Bool, ({ m with killTried := true } : Memory).Unparked ∧
      (∀ b, r = .ok b → ({ m with killTried := true } : Memory).Calling 15 true) :=
    fun r => ⟨htried.unparked, fun _ _ => htried⟩
  have hkill : Prog.wp protocol.env (fun r m' => (∃ code, r = .ok code) ∧
      m' = { m with killTried := true }) (Prog.tryCatch (host .taskkill) fun _ => pure 1) m := by
    refine Prog.wp_tryCatch.mpr (Prog.wp_perform.mpr
      ⟨⟨h.toNeeded, h.attempts, h.killTried⟩, ?_⟩)
    rintro r m' rfl
    cases r with
    | ok code => exact ⟨⟨code, rfl⟩, rfl⟩
    | error e => exact ⟨⟨1, rfl⟩, rfl⟩
  refine Prog.wp_bind_of hkill (fun _ m₁ h₁ => ?_) fun e m₁ h₁ => by
    obtain ⟨⟨code, hcode⟩, -⟩ := h₁
    cases hcode
  obtain ⟨-, rfl⟩ := h₁
  refine Prog.Monitor.wp_step trivial (fun _ => ?_) fun e => hdone (.error e)
  cases path with
  | none => exact hdone (.ok false)
  | some path =>
      refine Prog.Monitor.wp_step trivial (fun found => ?_) fun e => hdone (.error e)
      cases found with
      | false => exact hdone (.ok false)
      | true =>
          refine Prog.wp_tryCatch.mpr (Prog.Monitor.wp_step rfl (fun _ => ?_)
            fun e => hdone (.ok false))
          exact Prog.Monitor.wp_step trivial (fun _ => hdone (.ok true)) fun e => hdone (.ok false)

theorem wp_restartTerminalAndReconnect (path : Option String) {m : Memory}
    (h : m.Calling 15 false) :
    Prog.wp protocol.env (fun _ m' => m'.Unparked) (restartTerminalAndReconnect path) m := by
  refine Prog.wp_bind_of (wp_restartTerminal path 15 h) (fun restarted m₁ h₁ => ?_)
    fun e m₁ h₁ => h₁.1
  obtain ⟨hunparked, hcalling⟩ := h₁
  cases restarted with
  | false => exact wp_tell_last hunparked.toIdle hunparked fun _ => hunparked
  | true =>
      refine Prog.wp_bind_of (wp_reconnect 10 15 (hcalling true rfl) le_rfl)
        (fun connected m₂ h₂ => ?_) fun e m₂ h₂ => h₂.1
      cases connected with
      | false => exact wp_tell_last h₂.1.toIdle h₂.1 fun _ => h₂.1
      | true => exact wp_tell_last h₂.1.toIdle h₂.1 fun _ => h₂.1

theorem wp_reconnectOrRestart (path : Option String) {m : Memory} (h : m.Calling 0 false) :
    Prog.wp protocol.env (fun _ m' => m'.Unparked) (reconnectOrRestart path) m := by
  refine wp_tell h.toIdle ?_ fun _ => h.unparked
  refine Prog.wp_bind_of (wp_reconnect 10 15 h le_rfl) (fun connected m₁ h₁ => ?_)
    fun e m₁ h₁ => h₁.1
  cases connected with
  | true => exact wp_tell_last h₁.1.toIdle h₁.1 fun _ => h₁.1
  | false =>
      exact wp_tell h₁.1.toIdle (wp_restartTerminalAndReconnect path (h₁.2 rfl)) fun _ => h₁.1

theorem wp_openRound (path : Option String) {m : Memory} (h : m.Unparked) :
    Prog.wp protocol.env (fun _ m' => m'.Unparked) (openRound path) m := by
  have hcheck : Prog.wp protocol.env
      (fun r m' => m'.Unparked ∧ ∃ b, r = .ok b ∧ (b = false → m'.Calling 0 false))
      isConnected m := by
    refine Prog.wp_tryCatch.mpr (Prog.Monitor.wp_step h.parked (fun info => ?_) fun e => ?_)
    · refine ⟨⟨⟨h.parked, rfl⟩, h.marketOpen⟩, _, rfl, fun haway =>
        ⟨⟨h.marketOpen, ?_, rfl⟩, ⟨h.parked, rfl⟩, rfl, rfl⟩⟩
      show (!info.getD false) = true
      rw [haway]
      rfl
    · exact ⟨⟨⟨h.parked, rfl⟩, h.marketOpen⟩, false, rfl, fun _ =>
        ⟨⟨h.marketOpen, rfl, rfl⟩, ⟨h.parked, rfl⟩, rfl, rfl⟩⟩
  refine Prog.wp_tryCatch.mpr (Prog.wp_bind_of hcheck (fun connected m₁ h₁ => ?_)
    fun e m₁ h₁ => h₁.1)
  obtain ⟨hunparked, b, hb, hcalling⟩ := h₁
  obtain rfl := Except.ok.inj hb
  cases connected with
  | true => exact hunparked
  | false =>
      exact Prog.wp_bind_of (wp_reconnectOrRestart path (hcalling rfl))
        (fun _ m₂ h₂ => h₂) fun e m₂ h₂ => h₂

/-- A round that found the market closed: the connection is shut down where it was not. -/
theorem wp_closedRound {closedForWeekend : Bool} {m : Memory} (hclosed : m.marketOpen = false)
    (hread : m.authorized = false) (hflag : m.parked = true → closedForWeekend = true) :
    Prog.wp protocol.env (fun r m' => ∀ flag, r = .ok flag → m'.parked = true → flag = true)
      (closedRound closedForWeekend) m := by
  refine Prog.wp_tryCatch.mpr ?_
  cases closedForWeekend with
  | true =>
      rintro flag ⟨⟩ -
      rfl
  | false =>
      have hparked : m.parked = false := by
        cases hm : m.parked with
        | false => rfl
        | true => cases hflag hm
      have hshut : m.marketOpen = true → m.Needed ∧ m.attempts < m.limit := by
        rw [hclosed]
        exact fun h => nomatch h
      have hclose : Prog.wp protocol.env
          (fun r m' => (∃ e, r = .error e) → m'.parked = false) closeForWeekend m := by
        refine wp_tell ⟨hparked, hread⟩ ?_ fun _ _ => hparked
        refine Prog.wp_tryCatch.mpr (Prog.wp_perform.mpr ⟨⟨hparked, hshut⟩, ?_⟩)
        rintro r m' -
        cases r with
        | ok _ =>
            rintro ⟨e, he⟩
            cases he
        | error _ =>
            rintro ⟨e, he⟩
            cases he
      refine Prog.wp_bind_of hclose (fun _ m₁ _ => ?_) fun e m₁ h₁ => ?_
      · rintro flag ⟨⟩ -
        rfl
      · rintro flag - hm
        rw [h₁ ⟨e, rfl⟩] at hm
        cases hm

/-- One round. -/
theorem wp_round (path : Option String) {closedForWeekend : Bool} {m : Memory}
    (hflag : m.parked = true → closedForWeekend = true) :
    Prog.wp protocol.env
      (fun r m' => ∀ flag, r = .ok (some flag) → m'.parked = true → flag = true)
      (round path closedForWeekend) m := by
  refine Prog.Monitor.wp_step trivial (fun stopped => ?_) fun _ _ h => nomatch h
  cases stopped with
  | true =>
      rintro flag h
      cases h
  | false =>
      refine Prog.Monitor.wp_step trivial (fun time => ?_) fun _ _ h => nomatch h
      refine Prog.Monitor.wp_step trivial (fun stop => ?_) fun _ _ h => nomatch h
      cases stop with
      | true =>
          rintro flag h
          cases h
      | false =>
          show Prog.wp protocol.env _
            (if isMarketClosed time then some <$> closedRound closedForWeekend
              else some <$> openRound path)
            { m.unchecked with
              marketOpen := !isMarketClosed time
              parked := m.parked && isMarketClosed time }
          cases hclosed : isMarketClosed time with
          | true =>
              rw [if_pos rfl, map_eq_pure_bind]
              refine Prog.wp_bind_of (wp_closedRound rfl rfl fun hm => hflag ?_)
                (fun flag m₁ h₁ flag' hflag' => ?_) fun e m₁ _ _ h => nomatch h
              · rw [← hm, Bool.and_true]
              · obtain rfl := Option.some.inj (Except.ok.inj hflag')
                exact h₁ flag rfl
          | false =>
              rw [if_neg Bool.false_ne_true, map_eq_pure_bind]
              refine Prog.wp_bind_of (wp_openRound path ⟨⟨Bool.and_false _, rfl⟩, rfl⟩)
                (fun flag m₁ h₁ flag' _ hm => ?_) fun e m₁ _ _ h => nomatch h
              rw [h₁.parked] at hm
              cases hm

/-- Any number of rounds. -/
theorem wp_rounds (path : Option String) (n : Nat) {closedForWeekend : Bool} {m : Memory}
    (hflag : m.parked = true → closedForWeekend = true) :
    Prog.wp protocol.env (fun _ _ => True) (rounds path n closedForWeekend) m := by
  induction n generalizing closedForWeekend m with
  | zero => trivial
  | succ n ih =>
      refine Prog.wp_bind_of (wp_round path hflag) (fun next m₁ h₁ => ?_) fun _ _ _ => trivial
      cases next with
      | none => trivial
      | some flag => exact ih (h₁ flag rfl)

/-- **The thread keeps the protocol.** Whatever the clock, the terminal and the operating system
answer, over any number of rounds: a connection is tried only where the last reading of the clock
is of an open market and the last check found the terminal away; its end is tried once a check,
after fifteen attempts that failed; it is started only when its end was tried; and on a closed
market the connection is shut down once, and the terminal not spoken to until the clock reads
open. -/
theorem rounds_accepted {σ : Type} (S : Prog.Server HealthOp HealthOp.Ans Exn σ)
    (path : Option String) (n : Nat) (s : σ) :
    protocol.Accepts {} (Prog.dialogue S (rounds path n false) s) :=
  (protocol.accepts_of_wp (wp_rounds path n fun h => h) S s).1

end Health

end TradeWorker
