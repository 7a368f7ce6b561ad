import Mathlib.Tactic.Linarith
import TradeWorker.Work

/-!
# The loop that keeps the user stream alive

The exchange lets a listen key live for an hour after it was last renewed, and a socket may be
dead without anything on it to say so. `BinanceUserDataStream` renews the key every half hour,
tries again every half minute when that fails, and pings the socket every three minutes; it leaves
the loop, to connect anew, at the first dead socket and at the fifth renewal to fail in a row. At
every moment the loop is running, then, the key was renewed and a ping was written to the socket a
bounded time ago.
-/

namespace Prog

variable {Op : Type} {Ans : Op → Type} {ε α σ : Type}

def Server.watched (S : Server Op Ans ε σ) (I : σ → Prop) : Env Op Ans ε σ where
  guard _ s := I s
  answers o s r s' := S o s = (r, s')

/-- What is watched holds after any number of calls. -/
theorem watched_advance {S : Server Op Ans ε σ} {I : σ → Prop} {Q : Except ε α → σ → Prop}
    (hQ : ∀ r s, Q r s → I s) {p : Prog Op Ans ε α} {s : σ} (hp : wp (S.watched I) Q p s)
    (n : Nat) : I (advance S n p s).2 := by
  induction n generalizing p s with
  | zero =>
      cases p with
      | ret a => exact hQ _ s hp
      | raise e => exact hQ _ s hp
      | call o k => exact hp.1
  | succ n ih =>
      cases p with
      | ret a => exact hQ _ s hp
      | raise e => exact hQ _ s hp
      | call o k => exact ih (hp.2 _ _ rfl)

end Prog

namespace TradeWorker

namespace UserStream

/-! ## The loop -/

/-- The calls of the loop: the stop event, `time.monotonic`, `asyncio.sleep`, the look at the
private connection, its ping, and the renewal of the listen key. -/
inductive StreamOp where
  | stopped
  | monotonic
  | sleep (seconds : ℚ)
  | unavailable
  | ping
  | keepalive
  deriving DecidableEq, Repr

@[reducible] def StreamOp.Ans : StreamOp → Type
  | .stopped => Bool
  | .monotonic => ℚ
  | .sleep _ => Unit
  | .unavailable => Bool
  | .ping => Unit
  | .keepalive => Unit

abbrev StreamWork (α : Type) := Prog StreamOp StreamOp.Ans Exn α

def stream (o : StreamOp) : StreamWork o.Ans := Prog.perform o

def keepaliveInterval : ℚ := 30 * 60

def keepaliveRetry : ℚ := 30

def keepaliveMaxFailures : Nat := 5

def pingInterval : ℚ := 3 * 60

def listenKeyGone : Int := -1125

/-- `_ping_check`: whether to leave the loop. A ping that is not written in time is an
exception. -/
def pingCheck : StreamWork Bool := do
  let unavailable : Bool ← stream .unavailable
  if unavailable then pure true
  else
    Prog.tryCatch
      (do
        let _ : Unit ← stream .ping
        pure false)
      fun _ => pure true

/-- `_keepalive_check`: when to renew next, and whether this renewal went through. -/
def keepaliveCheck (statusCode : Exn → Option Int) (now : ℚ) : StreamWork (Option ℚ × Bool) :=
  Prog.tryCatch
    (do
      let _ : Unit ← stream .keepalive
      pure (some (now + keepaliveInterval), true))
    fun exc =>
      if statusCode exc = some listenKeyGone then pure (none, false)
      else pure (some (now + keepaliveRetry), false)

/-- The variables of `_run_loop`. -/
structure Timers where
  nextKeepalive : ℚ
  nextPing : ℚ
  keepaliveFailures : Nat := 0

/-- The end of a round: the renewal, if it is due. `none` leaves the loop. -/
def keepaliveTick (statusCode : Exn → Option Int) (now : ℚ) (t : Timers) :
    StreamWork (Option Timers) :=
  if t.nextKeepalive ≤ now then do
    let (nextKeepalive, ok) ← keepaliveCheck statusCode now
    match nextKeepalive with
    | none => pure none
    | some nextKeepalive =>
        if ok then pure (some { t with nextKeepalive, keepaliveFailures := 0 })
        else if keepaliveMaxFailures ≤ t.keepaliveFailures + 1 then pure none
        else
          pure (some { t with nextKeepalive, keepaliveFailures := t.keepaliveFailures + 1 })
  else pure (some t)

/-- One round of `_run_loop`; `none` leaves it. -/
def round (statusCode : Exn → Option Int) (t : Timers) : StreamWork (Option Timers) := do
  let stopped : Bool ← stream .stopped
  if stopped then pure none
  else do
    let _ : Unit ← stream (.sleep 1)
    let now : ℚ ← stream .monotonic
    if t.nextPing ≤ now then do
      let leave ← pingCheck
      if leave then pure none
      else keepaliveTick statusCode now { t with nextPing := now + pingInterval }
    else keepaliveTick statusCode now t

/-- The first rounds of the loop. -/
def rounds (statusCode : Exn → Option Int) : Nat → Timers → StreamWork (Option Timers)
  | 0, t => pure (some t)
  | n + 1, t => do
      let next ← round statusCode t
      match next with
      | none => pure none
      | some t => rounds statusCode n t

/-- `_run_loop`, for a number of rounds. -/
def runLoop (statusCode : Exn → Option Int) (n : Nat) : StreamWork (Option Timers) := do
  let start : ℚ ← stream .monotonic
  let start' : ℚ ← stream .monotonic
  rounds statusCode n
    { nextKeepalive := start + keepaliveInterval, nextPing := start' + pingInterval }

/-! ## Time -/

variable {σ : Type}

/-- A clock that goes on while the loop waits for its calls, each of which ends within `delay`;
when the key was last renewed, and when a ping was last written to the socket. -/
structure Feed (S : Prog.Server StreamOp StreamOp.Ans Exn σ) (now renewed pinged : σ → ℚ)
    (delay : ℚ) : Prop where
  forward : ∀ o s, now s ≤ now (S o s).2
  prompt : ∀ o s, now (S o s).2 ≤ now s + delay
  read : ∀ s, (S .monotonic s).1 = .ok (now s)
  renews : ∀ s, (S .keepalive s).1 = .ok () → now s ≤ renewed (S .keepalive s).2
  pings : ∀ s, (S .ping s).1 = .ok () → now s ≤ pinged (S .ping s).2
  renewed_le : ∀ o s, renewed s ≤ renewed (S o s).2
  pinged_le : ∀ o s, pinged s ≤ pinged (S o s).2

/-- The key was renewed and the socket pinged lately, with time left for some calls. -/
structure Alive (now renewed pinged : σ → ℚ) (delay setup calls : ℚ) (s : σ) : Prop where
  key : now s + calls * delay ≤ renewed s + setup + 1920 + 62 * delay
  socket : now s + calls * delay ≤ pinged s + setup + 180 + 14 * delay

structure Ready (now renewed pinged : σ → ℚ) (delay setup : ℚ) (t : Timers) (s : σ) : Prop where
  few : t.keepaliveFailures < keepaliveMaxFailures
  due : now s ≤ t.nextKeepalive + 6 * delay
  key : t.nextKeepalive ≤
    renewed s + setup + 2 * delay + 1800 + t.keepaliveFailures * (30 + 12 * delay)
  pingDue : now s ≤ t.nextPing + 6 * delay
  socket : t.nextPing ≤ pinged s + setup + 2 * delay + 180

/-- What the end of a round begins with: the clock was read, and no ping is due. -/
structure Polled (now renewed pinged : σ → ℚ) (delay setup reading : ℚ) (t : Timers) (s : σ) :
    Prop where
  few : t.keepaliveFailures < keepaliveMaxFailures
  due : reading ≤ t.nextKeepalive + 8 * delay
  key : t.nextKeepalive ≤
    renewed s + setup + 2 * delay + 1800 + t.keepaliveFailures * (30 + 12 * delay)
  pingDue : reading ≤ t.nextPing
  socket : t.nextPing ≤ pinged s + setup + 2 * delay + 180
  early : reading ≤ now s
  late : now s ≤ reading + 3 * delay
  alive : Alive now renewed pinged delay setup 1 s

section Loop

variable {S : Prog.Server StreamOp StreamOp.Ans Exn σ} {now renewed pinged : σ → ℚ}
  {delay setup : ℚ} (hS : Feed S now renewed pinged delay)

include hS

theorem Feed.delay_nonneg (s : σ) : 0 ≤ delay := by
  have hforward := hS.forward .stopped s
  have hprompt := hS.prompt .stopped s
  linarith

theorem Feed.alive_step {k : ℚ} {s : σ}
    (h : Alive now renewed pinged delay setup (k + 1) s) (o : StreamOp) :
    Alive now renewed pinged delay setup k (S o s).2 := by
  have hprompt := hS.prompt o s
  have hrenewed := hS.renewed_le o s
  have hwritten := hS.pinged_le o s
  have hkey := h.key
  have hsocket := h.socket
  rw [add_mul, one_mul] at hkey hsocket
  constructor
  · linarith
  · linarith

theorem Feed.alive_of_le {calls calls' : ℚ} {s : σ}
    (h : Alive now renewed pinged delay setup calls s) (hle : calls' ≤ calls) :
    Alive now renewed pinged delay setup calls' s := by
  have hmul := mul_le_mul_of_nonneg_right hle (hS.delay_nonneg s)
  have hkey := h.key
  have hsocket := h.socket
  constructor
  · linarith
  · linarith

/-- Whoever is ready has time for six calls. -/
theorem Feed.alive_of_ready {t : Timers} {s : σ}
    (h : Ready now renewed pinged delay setup t s) :
    Alive now renewed pinged delay setup 6 s := by
  have hdelay := hS.delay_nonneg s
  have hfew : (t.keepaliveFailures : ℚ) ≤ 4 := by
    have hfew := h.few
    rw [keepaliveMaxFailures] at hfew
    exact_mod_cast Nat.le_of_lt_succ hfew
  have hmul : (t.keepaliveFailures : ℚ) * (30 + 12 * delay) ≤ 4 * (30 + 12 * delay) :=
    mul_le_mul_of_nonneg_right hfew (by linarith)
  have hdue := h.due
  have hkey := h.key
  have hpingDue := h.pingDue
  have hsocket := h.socket
  constructor
  · linarith
  · linarith

/-- A call with time for it. -/
theorem Feed.wp_stream {o : StreamOp} {α : Type} {f : o.Ans → StreamWork α}
    {Q : Except Exn α → σ → Prop} {k : ℚ} (hk : 0 ≤ k) {s : σ}
    (h : Alive now renewed pinged delay setup (k + 1) s)
    (hQ : ∀ e, Alive now renewed pinged delay setup 0 (S o s).2 → Q (.error e) (S o s).2)
    (hf : ∀ a, (S o s).1 = .ok a →
      Prog.wp (S.watched (Alive now renewed pinged delay setup 0)) Q (f a) (S o s).2) :
    Prog.wp (S.watched (Alive now renewed pinged delay setup 0)) Q (stream o >>= f) s := by
  refine Prog.wp_bind.mpr (Prog.wp_perform.mpr ⟨hS.alive_of_le h (by linarith), ?_⟩)
  rintro r s' hr
  obtain rfl : (S o s).1 = r := congrArg Prod.fst hr
  obtain rfl : (S o s).2 = s' := congrArg Prod.snd hr
  cases hresult : (S o s).1 with
  | ok a => exact hf a hresult
  | error e => exact hQ e (hS.alive_of_le (hS.alive_step h o) hk)

omit hS in
/-- What a round leaves: the loop goes on ready for the next one, or is left. -/
def Went (now renewed pinged : σ → ℚ) (delay setup : ℚ) (r : Except Exn (Option Timers)) (s : σ) :
    Prop :=
  Alive now renewed pinged delay setup 0 s ∧
    ∀ t, r = .ok (some t) → Ready now renewed pinged delay setup t s

/-- The three answers of `_keepalive_check`. -/
theorem Feed.wp_keepaliveCheck (statusCode : Exn → Option Int) (reading : ℚ) {s : σ}
    (h : Alive now renewed pinged delay setup 1 s) :
    Prog.wp (S.watched (Alive now renewed pinged delay setup 0))
      (fun r s' => s' = (S .keepalive s).2 ∧
        ((S .keepalive s).1 = .ok () ∧ r = .ok (some (reading + keepaliveInterval), true) ∨
          r = .ok (none, false) ∨ r = .ok (some (reading + keepaliveRetry), false)))
      (keepaliveCheck statusCode reading) s := by
  refine Prog.wp_tryCatch.mpr (Prog.wp_bind.mpr (Prog.wp_perform.mpr
    ⟨hS.alive_of_le h (by norm_num), ?_⟩))
  rintro r s' hr
  obtain rfl : (S .keepalive s).1 = r := congrArg Prod.fst hr
  obtain rfl : (S .keepalive s).2 = s' := congrArg Prod.snd hr
  cases hresult : (S .keepalive s).1 with
  | ok a => exact ⟨rfl, .inl ⟨rfl, rfl⟩⟩
  | error e =>
      show Prog.wp _ _ (if statusCode e = some listenKeyGone then _ else _) _
      split
      · exact ⟨rfl, .inr (.inl rfl)⟩
      · exact ⟨rfl, .inr (.inr rfl)⟩

theorem Feed.wp_keepaliveTick (hsetup : 0 ≤ setup) (statusCode : Exn → Option Int) {reading : ℚ}
    {t : Timers} {s : σ} (h : Polled now renewed pinged delay setup reading t s) :
    Prog.wp (S.watched (Alive now renewed pinged delay setup 0))
      (Went now renewed pinged delay setup) (keepaliveTick statusCode reading t) s := by
  have hdelay := hS.delay_nonneg s
  unfold keepaliveTick
  by_cases hdue : t.nextKeepalive ≤ reading
  · rw [if_pos hdue]
    have hprompt := hS.prompt .keepalive s
    have hrenewed := hS.renewed_le .keepalive s
    have hwritten := hS.pinged_le .keepalive s
    have halive : Alive now renewed pinged delay setup 0 (S .keepalive s).2 :=
      hS.alive_step (k := 0) (by rw [zero_add]; exact h.alive) .keepalive
    have hpingDue : now (S .keepalive s).2 ≤ t.nextPing + 6 * delay := by
      linarith [h.pingDue, h.late]
    have hsocket : t.nextPing ≤ pinged (S .keepalive s).2 + setup + 2 * delay + 180 := by
      linarith [h.socket]
    refine Prog.wp_bind_of (hS.wp_keepaliveCheck statusCode reading h.alive) ?_ ?_
    · rintro ⟨next, ok⟩ s' ⟨rfl, hnext⟩
      rcases hnext with ⟨hok, hnext⟩ | hnext | hnext
      · obtain ⟨rfl, rfl⟩ := Prod.mk.inj (Except.ok.inj hnext)
        refine ⟨halive, fun t' ht' => ?_⟩
        obtain rfl := Option.some.inj (Except.ok.inj ht')
        have hrenews := hS.renews s hok
        refine ⟨Nat.zero_lt_succ _, ?_, ?_, hpingDue, hsocket⟩
        · show now (S .keepalive s).2 ≤ reading + keepaliveInterval + 6 * delay
          rw [keepaliveInterval]
          linarith [h.late]
        · show reading + keepaliveInterval ≤ _
          rw [keepaliveInterval, Nat.cast_zero, zero_mul]
          linarith [h.early]
      · obtain ⟨rfl, rfl⟩ := Prod.mk.inj (Except.ok.inj hnext)
        exact ⟨halive, fun t' ht' => nomatch ht'⟩
      · obtain ⟨rfl, rfl⟩ := Prod.mk.inj (Except.ok.inj hnext)
        show Prog.wp _ _ (if keepaliveMaxFailures ≤ t.keepaliveFailures + 1 then _ else _) _
        split
        · exact ⟨halive, fun t' ht' => nomatch ht'⟩
        · rename_i hfew
          refine ⟨halive, fun t' ht' => ?_⟩
          obtain rfl := Option.some.inj (Except.ok.inj ht')
          refine ⟨not_le.mp hfew, ?_, ?_, hpingDue, hsocket⟩
          · show now (S .keepalive s).2 ≤ reading + keepaliveRetry + 6 * delay
            rw [keepaliveRetry]
            linarith [h.late]
          · show reading + keepaliveRetry ≤ _
            rw [keepaliveRetry, Nat.cast_succ, add_mul, one_mul]
            linarith [h.due, h.key]
    · rintro e s' ⟨rfl, hnext⟩
      rcases hnext with ⟨-, hnext⟩ | hnext | hnext
      · cases hnext
      · cases hnext
      · cases hnext
  · rw [if_neg hdue]
    refine ⟨hS.alive_of_le h.alive zero_le_one, fun t' ht' => ?_⟩
    obtain rfl := Option.some.inj (Except.ok.inj ht')
    refine ⟨h.few, ?_, h.key, ?_, h.socket⟩
    · linarith [h.late]
    · linarith [h.late, h.pingDue]

omit hS in
/-- What the calls between two states leave of the first. -/
structure Later (now renewed pinged : σ → ℚ) (s s' : σ) : Prop where
  now : now s ≤ now s'
  renewed : renewed s ≤ renewed s'
  pinged : pinged s ≤ pinged s'

omit hS in
theorem Later.trans {s₁ s₂ s₃ : σ} (h : Later now renewed pinged s₁ s₂)
    (h' : Later now renewed pinged s₂ s₃) : Later now renewed pinged s₁ s₃ :=
  ⟨h.now.trans h'.now, h.renewed.trans h'.renewed, h.pinged.trans h'.pinged⟩

theorem Feed.later (o : StreamOp) (s : σ) : Later now renewed pinged s (S o s).2 :=
  ⟨hS.forward o s, hS.renewed_le o s, hS.pinged_le o s⟩

/-- A ping that does not end the loop was written. -/
theorem Feed.wp_pingCheck {s : σ} (h : Alive now renewed pinged delay setup 3 s) :
    Prog.wp (S.watched (Alive now renewed pinged delay setup 0))
      (fun r s' => Alive now renewed pinged delay setup 1 s' ∧ now s' ≤ now s + 2 * delay ∧
        Later now renewed pinged s s' ∧ (r = .ok false → now s ≤ pinged s'))
      pingCheck s := by
  let s₁ := (S .unavailable s).2
  have hfirst := hS.prompt .unavailable s
  have hlater := hS.later .unavailable s
  have hdelay := hS.delay_nonneg s
  have halive : Alive now renewed pinged delay setup 2 s₁ :=
    hS.alive_step (hS.alive_of_le h (by norm_num)) .unavailable
  refine hS.wp_stream (k := 2) (by norm_num) (hS.alive_of_le h (by norm_num)) ?_ ?_
  · intro e _
    exact ⟨hS.alive_of_le halive (by norm_num), by linarith, hlater, fun h => nomatch h⟩
  intro unavailable _
  cases unavailable with
  | true => exact ⟨hS.alive_of_le halive (by norm_num), by linarith, hlater, fun h => nomatch h⟩
  | false =>
      refine Prog.wp_tryCatch.mpr (Prog.wp_bind.mpr (Prog.wp_perform.mpr
        ⟨hS.alive_of_le halive (by norm_num), ?_⟩))
      rintro r s' hr
      obtain rfl : (S .ping s₁).1 = r := congrArg Prod.fst hr
      obtain rfl : (S .ping s₁).2 = s' := congrArg Prod.snd hr
      have hsecond := hS.prompt .ping s₁
      have halive' : Alive now renewed pinged delay setup 1 (S .ping s₁).2 :=
        hS.alive_step (hS.alive_of_le halive (by norm_num)) .ping
      have hnow : now (S .ping s₁).2 ≤ now s + 2 * delay := by linarith
      have hlater' := hlater.trans (hS.later .ping s₁)
      cases hresult : (S .ping s₁).1 with
      | ok a =>
          exact ⟨halive', hnow, hlater', fun _ => hlater.now.trans (hS.pings s₁ hresult)⟩
      | error e => exact ⟨halive', hnow, hlater', fun h => nomatch h⟩

/-- One round: every call of it finds the key and the socket alive. -/
theorem Feed.wp_round (hsetup : 0 ≤ setup) (statusCode : Exn → Option Int) {t : Timers} {s : σ}
    (h : Ready now renewed pinged delay setup t s) :
    Prog.wp (S.watched (Alive now renewed pinged delay setup 0))
      (Went now renewed pinged delay setup) (round statusCode t) s := by
  have hdelay := hS.delay_nonneg s
  have hleft : ∀ (e : Exn) s', Alive now renewed pinged delay setup 0 s' →
      Went now renewed pinged delay setup (.error e) s' := fun e s' h => ⟨h, fun _ h => nomatch h⟩
  let s₁ := (S .stopped s).2
  let s₂ := (S (.sleep 1) s₁).2
  let s₃ := (S .monotonic s₂).2
  have hready := hS.alive_of_ready h
  have halive₁ : Alive now renewed pinged delay setup 5 s₁ :=
    hS.alive_step (hS.alive_of_le hready (by norm_num)) .stopped
  have halive₂ : Alive now renewed pinged delay setup 4 s₂ :=
    hS.alive_step (hS.alive_of_le halive₁ (by norm_num)) (.sleep 1)
  have halive₃ : Alive now renewed pinged delay setup 3 s₃ :=
    hS.alive_step (hS.alive_of_le halive₂ (by norm_num)) .monotonic
  have hlater : Later now renewed pinged s s₃ :=
    ((hS.later .stopped s).trans (hS.later (.sleep 1) s₁)).trans (hS.later .monotonic s₂)
  have hreading : now s₂ ≤ now s + 2 * delay := by
    linarith [hS.prompt .stopped s, hS.prompt (.sleep 1) s₁]
  have hdue : now s₂ ≤ t.nextKeepalive + 8 * delay := by linarith [h.due]
  have hkey : t.nextKeepalive ≤
      renewed s₃ + setup + 2 * delay + 1800 + t.keepaliveFailures * (30 + 12 * delay) := by
    linarith [h.key, hlater.renewed]
  have hearly : now s₂ ≤ now s₃ := hS.forward .monotonic s₂
  have hlate : now s₃ ≤ now s₂ + delay := hS.prompt .monotonic s₂
  refine hS.wp_stream (k := 5) (by norm_num) (hS.alive_of_le hready (by norm_num))
    (fun e h => hleft e _ h) fun stopped _ => ?_
  cases stopped with
  | true => exact ⟨hS.alive_of_le halive₁ (by norm_num), fun _ h => nomatch h⟩
  | false =>
      refine hS.wp_stream (o := .sleep 1) (k := 4) (by norm_num)
        (hS.alive_of_le halive₁ (by norm_num)) (fun e h => hleft e _ h) fun _ _ => ?_
      refine hS.wp_stream (o := .monotonic) (k := 3) (by norm_num)
        (hS.alive_of_le halive₂ (by norm_num)) (fun e h => hleft e _ h) fun reading hread => ?_
      obtain rfl : now s₂ = reading := Except.ok.inj ((hS.read s₂).symm.trans hread)
      show Prog.wp _ _ (if t.nextPing ≤ now s₂ then _ else _) s₃
      by_cases hping : t.nextPing ≤ now s₂
      · rw [if_pos hping]
        refine Prog.wp_bind_of (hS.wp_pingCheck halive₃) (fun leave s₄ hpinged => ?_)
          fun e s₄ hpinged => hleft e s₄ (hS.alive_of_le hpinged.1 zero_le_one)
        obtain ⟨halive₄, hnow, hlater₄, hwritten⟩ := hpinged
        cases leave with
        | true => exact ⟨hS.alive_of_le halive₄ zero_le_one, fun _ h => nomatch h⟩
        | false =>
            have hsocket := hwritten rfl
            refine hS.wp_keepaliveTick hsetup statusCode
              ⟨h.few, hdue, ?_, ?_, ?_, hearly.trans hlater₄.now, by linarith, halive₄⟩
            · show t.nextKeepalive ≤ _ + t.keepaliveFailures * _
              linarith [hlater₄.renewed]
            · show now s₂ ≤ now s₂ + pingInterval
              rw [pingInterval]
              linarith
            · show now s₂ + pingInterval ≤ _
              rw [pingInterval]
              linarith
      · rw [if_neg hping]
        refine hS.wp_keepaliveTick hsetup statusCode
          ⟨h.few, hdue, hkey, by linarith, ?_, hearly, by linarith,
            hS.alive_of_le halive₃ (by norm_num)⟩
        linarith [h.socket, hlater.pinged]

/-- Any number of rounds. -/
theorem Feed.wp_rounds (hsetup : 0 ≤ setup) (statusCode : Exn → Option Int) (n : Nat)
    {t : Timers} {s : σ} (h : Ready now renewed pinged delay setup t s) :
    Prog.wp (S.watched (Alive now renewed pinged delay setup 0))
      (Went now renewed pinged delay setup) (rounds statusCode n t) s := by
  induction n generalizing t s with
  | zero =>
      refine ⟨hS.alive_of_le (hS.alive_of_ready h) (by norm_num), fun t' ht' => ?_⟩
      obtain rfl := Option.some.inj (Except.ok.inj ht')
      exact h
  | succ n ih =>
      refine Prog.wp_bind_of (hS.wp_round hsetup statusCode h) (fun next s' hnext => ?_)
        fun e s' hnext => ⟨hnext.1, fun _ h => nomatch h⟩
      cases next with
      | none => exact ⟨hnext.1, fun _ h => nomatch h⟩
      | some t' => exact ih (hnext.2 t' rfl)

/-- The whole loop, from a key and a socket that are `setup` old. -/
theorem Feed.alive_runLoop (hsetup : 0 ≤ setup) (statusCode : Exn → Option Int) {s : σ}
    (hkey : now s ≤ renewed s + setup) (hsocket : now s ≤ pinged s + setup) (n calls : Nat) :
    Alive now renewed pinged delay setup 0
      (Prog.advance S calls (runLoop statusCode n) s).2 := by
  have hdelay := hS.delay_nonneg s
  let s₁ := (S .monotonic s).2
  have halive : Alive now renewed pinged delay setup 6 s := by
    constructor
    · linarith
    · linarith
  have halive₁ : Alive now renewed pinged delay setup 5 s₁ :=
    hS.alive_step (hS.alive_of_le halive (by norm_num)) .monotonic
  have hleft : ∀ (e : Exn) s', Alive now renewed pinged delay setup 0 s' →
      Went now renewed pinged delay setup (.error e) s' := fun e s' h => ⟨h, fun _ h => nomatch h⟩
  refine Prog.watched_advance (fun r s' h => h.1) (Q := Went now renewed pinged delay setup)
    ?_ calls
  refine hS.wp_stream (k := 5) (by norm_num) (hS.alive_of_le halive (by norm_num))
    (fun e h => hleft e _ h) fun start hstart => ?_
  refine hS.wp_stream (o := .monotonic) (k := 4) (by norm_num)
    (hS.alive_of_le halive₁ (by norm_num)) (fun e h => hleft e _ h) fun start' hstart' => ?_
  obtain rfl : now s = start := Except.ok.inj ((hS.read s).symm.trans hstart)
  obtain rfl : now s₁ = start' := Except.ok.inj ((hS.read s₁).symm.trans hstart')
  have hfirst := hS.prompt .monotonic s
  have hsecond := hS.prompt .monotonic s₁
  have hlater := (hS.later .monotonic s).trans (hS.later .monotonic s₁)
  refine hS.wp_rounds hsetup statusCode n ⟨Nat.zero_lt_succ _, ?_, ?_, ?_, ?_⟩
  · show now (S .monotonic s₁).2 ≤ now s + keepaliveInterval + 6 * delay
    rw [keepaliveInterval]
    linarith
  · show now s + keepaliveInterval ≤ _
    rw [keepaliveInterval, Nat.cast_zero, zero_mul]
    linarith [hlater.renewed]
  · show now (S .monotonic s₁).2 ≤ now s₁ + pingInterval + 6 * delay
    rw [pingInterval]
    linarith
  · show now s₁ + pingInterval ≤ _
    rw [pingInterval]
    linarith [hlater.pinged]

/-- **The loop outlives neither its key nor its socket.** Where the calls end within `delay` and
the key and the socket are `setup` old when the loop begins, at every moment of the loop, after
any number of its rounds and of its calls, the key was renewed within 32 minutes and the socket
was pinged within 3, but for what the calls take: within the hour a key lives, where no call takes
more than 25 seconds and the key was at most 130 seconds old. -/
theorem runLoop_alive (hsetup : 0 ≤ setup) (statusCode : Exn → Option Int) {s : σ}
    (hkey : now s ≤ renewed s + setup) (hsocket : now s ≤ pinged s + setup) (n calls : Nat) :
    let s' := (Prog.advance S calls (runLoop statusCode n) s).2
    now s' ≤ renewed s' + setup + 1920 + 62 * delay ∧
      now s' ≤ pinged s' + setup + 180 + 14 * delay ∧
      (delay ≤ 25 → setup ≤ 130 → now s' ≤ renewed s' + 60 * 60) := by
  intro s'
  have halive : Alive now renewed pinged delay setup 0 s' :=
    hS.alive_runLoop hsetup statusCode hkey hsocket n calls
  have hrenewed := halive.key
  have hpinged := halive.socket
  rw [zero_mul, add_zero] at hrenewed hpinged
  exact ⟨hrenewed, hpinged, fun hprompt hfresh => by linarith⟩

end Loop

/-! ## A simulated connection -/

/-- A clock, the last renewal and the last ping, and whether the exchange renews at all. -/
structure SimFeed where
  now : ℚ := 0
  renewed : ℚ := 0
  pinged : ℚ := 0
  renews : Bool := true

namespace SimFeed

/-- Every call takes a second. -/
def serve : Prog.Server StreamOp StreamOp.Ans Exn SimFeed
  | .stopped, f => (.ok false, { f with now := f.now + 1 })
  | .monotonic, f => (.ok f.now, { f with now := f.now + 1 })
  | .sleep _, f => (.ok (), { f with now := f.now + 1 })
  | .unavailable, f => (.ok false, { f with now := f.now + 1 })
  | .ping, f => (.ok (), { f with now := f.now + 1, pinged := max f.pinged f.now })
  | .keepalive, f =>
      if f.renews then (.ok (), { f with now := f.now + 1, renewed := max f.renewed f.now })
      else (.error (.other "timed out"), { f with now := f.now + 1 })

theorem now_serve (o : StreamOp) (f : SimFeed) : (serve o f).2.now = f.now + 1 := by
  cases o with
  | keepalive =>
      show (if f.renews then _ else _ : Except Exn Unit × SimFeed).2.now = _
      split <;> rfl
  | _ => rfl

theorem feed : Feed serve now renewed pinged 1 where
  forward o f := by
    rw [now_serve]
    linarith
  prompt o f := (now_serve o f).le
  read _ := rfl
  renews f h := by
    have h : (if f.renews then _ else _ : Except Exn Unit × SimFeed).1 = .ok () := h
    show f.now ≤ (if f.renews then _ else _ : Except Exn Unit × SimFeed).2.renewed
    split at h
    · rename_i hrenews
      rw [if_pos hrenews]
      exact le_max_right _ _
    · cases h
  pings f _ := le_max_right _ _
  renewed_le o f := by
    cases o with
    | keepalive =>
        show f.renewed ≤ (if f.renews then _ else _ : Except Exn Unit × SimFeed).2.renewed
        split
        · exact le_max_left _ _
        · exact le_rfl
    | _ => exact le_rfl
  pinged_le o f := by
    cases o with
    | ping => exact le_max_left _ _
    | keepalive =>
        show f.pinged ≤ (if f.renews then _ else _ : Except Exn Unit × SimFeed).2.pinged
        split <;> exact le_rfl
    | _ => exact le_rfl

/-- An exchange that never renews: a thousand rounds of the loop, unless it is left before. -/
theorem unrenewed_alive :
    let f := (Prog.advance serve 5000 (runLoop (fun _ => none) 1000) { renews := false }).2
    f.now ≤ f.pinged + 0 + 180 + 14 * 1 ∧ f.now ≤ f.renewed + 60 * 60 := by
  have hstart : (0 : ℚ) ≤ 0 + 0 := by norm_num
  obtain ⟨-, hpinged, hkey⟩ := runLoop_alive feed le_rfl (fun _ => none)
    (s := { renews := false }) hstart hstart 1000 5000
  exact ⟨hpinged, hkey (by norm_num) (by norm_num)⟩

end SimFeed

end UserStream

end TradeWorker
