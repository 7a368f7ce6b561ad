import Mathlib.Tactic.Linarith
import TradeWorker.BinanceGateway

/-!
# Timestamps the exchange accepts

The exchange refuses a signed request whose timestamp is more than a second ahead of its own
clock, or further behind it than the window the request states. After a refusal `_send` measures
the two clocks against each other and sends once more. Where every call is answered within a
second, the second timestamp is one the exchange accepts, however far the local clock was off.
-/

namespace TradeWorker

namespace Binance

/-! ## Arithmetic -/

/-- `int` moves a number by less than one. -/
theorem abs_truncate_sub_le (x : ℚ) : |(truncate x : ℚ) - x| ≤ 1 := by
  have hden : (0 : ℚ) < x.den := by exact_mod_cast x.den_pos
  have hdiv : (x.den : ℚ) * (truncate x : ℚ) + (x.num.tmod x.den : ℚ) = x.num := by
    exact_mod_cast Int.mul_tdiv_add_tmod x.num x.den
  have hrem : |((x.num.tmod x.den : Int) : ℚ)| ≤ x.den := by
    have hlt : (x.num.tmod x.den).natAbs < x.den := by
      have hmod := Int.natAbs_tmod x.num x.den
      rw [hmod, Int.natAbs_natCast]
      exact Nat.mod_lt _ x.den_pos
    have hle : |x.num.tmod x.den| ≤ (x.den : Int) := by
      rw [Int.abs_eq_natAbs]
      exact_mod_cast hlt.le
    exact_mod_cast hle
  have hx : x * x.den = x.num := Rat.mul_den_eq_num x
  have hscaled : ((truncate x : ℚ) - x) * x.den = -((x.num.tmod x.den : Int) : ℚ) := by
    linarith
  have habs : |(truncate x : ℚ) - x| * x.den ≤ 1 * x.den := by
    rw [one_mul, ← abs_of_pos hden, ← abs_mul, hscaled, abs_neg, abs_of_pos hden]
    exact hrem
  exact le_of_mul_le_mul_right habs hden

/-- A moment of an interval is within half its length of the middle. -/
theorem abs_sub_middle_le {x start stop : ℚ} (hstart : start ≤ x) (hstop : x ≤ stop) :
    |x - (start + stop) / 2| ≤ (stop - start) / 2 := by
  rw [abs_le]
  constructor
  · linarith
  · linarith

/-! ## Two clocks -/

variable {σ : Type}

/-- A local clock, which `now` shows in milliseconds, and the exchange's clock, which is `skew`
ahead of it. -/
structure Clocks (S : Prog.Server WireOp WireOp.Ans Exn σ) (statusCode : Exn → Option Int)
    (now skew : σ → ℚ) (offset : σ → Int) (latency drift : ℚ) : Prop where
  forward : ∀ o s, now s ≤ now (S o s).2
  prompt : ∀ o s, now (S o s).2 ≤ now s + latency
  steady : ∀ o s, |skew (S o s).2 - skew s| ≤ drift
  /-- `time.time()` reads the local clock. -/
  read : ∀ s, (S .time s).1 = .ok (now s / 1000)
  stored : ∀ s, (S .timeOffset s).1 = .ok (offset s)
  set : ∀ n s, (S (.setTimeOffset n) s).1 = .ok () ∧ offset (S (.setTimeOffset n) s).2 = n
  kept : ∀ o s, (∀ n, o ≠ .setTimeOffset n) → offset (S o s).2 = offset s
  /-- The exchange says the time of a moment of the round trip, in whole milliseconds. -/
  served : ∀ s, ∃ (serverTime : Int) (x : ℚ), (S (.submit .time none) s).1 = .ok (some serverTime) ∧
    now s ≤ x ∧ x ≤ now (S (.submit .time none) s).2 ∧ |serverTime - (x + skew s)| ≤ 1
  /-- It refuses a timestamp that is out of the window when the request arrives. -/
  refuses : ∀ request (sig : Signature) s e, (S (.submit request (some sig)) s).1 = .error e →
    statusCode e = some timestampCode →
    ∃ x, now s ≤ x ∧ x ≤ now (S (.submit request (some sig)) s).2 ∧
      (x + skew s + 1000 < sig.timestamp ∨ sig.timestamp + sig.recvWindow < x + skew s)

/-- An outcome that is no refused timestamp. -/
def Accepted (statusCode : Exn → Option Int) {α : Type} (outcome : Except Exn α) : Prop :=
  ∀ e, outcome = .error e → statusCode e ≠ some timestampCode

namespace Clocks

variable {S : Prog.Server WireOp WireOp.Ans Exn σ} {statusCode : Exn → Option Int}
  {now skew : σ → ℚ} {offset : σ → Int} {latency drift : ℚ}

theorem run_wire {o : WireOp} {α : Type} {f : o.Ans → WireWork α} {s : σ} {a : o.Ans}
    (h : (S o s).1 = .ok a) : Prog.run S (wire o >>= f) s = Prog.run S (f a) (S o s).2 :=
  Prog.run_bind_ok S ((Prog.run_perform S o s).trans (Prod.ext h rfl))

/-- The offset is the skew, but for half the round trip and what the clocks count in. -/
def Aligned (skew : σ → ℚ) (offset : σ → Int) (error : ℚ) (s : σ) : Prop :=
  |offset s - skew s| ≤ error

variable (hS : Clocks S statusCode now skew offset latency drift)

include hS

/-- The skew after one call and after two. -/
theorem skew_two (o o' : WireOp) (s : σ) :
    |skew (S o' (S o s).2).2 - skew s| ≤ 2 * drift := by
  have h := abs_sub_le (skew (S o' (S o s).2).2) (skew (S o s).2) (skew s)
  have hfirst := hS.steady o s
  have hsecond := hS.steady o' (S o s).2
  linarith

/-- `_sync_time` succeeds, and leaves the clocks aligned. -/
theorem syncTime_aligned (s : σ) :
    ∃ s', Prog.run S BinanceFuturesGateway.syncTime s = (.ok (), s') ∧
      Aligned skew offset (latency + 2 + 3 * drift) s' := by
  obtain ⟨serverTime, x, hanswer, hstart, hstop, hserved⟩ := hS.served (S .time s).2
  let s₁ := (S .time s).2
  let s₂ := (S (.submit .time none) s₁).2
  let s₃ := (S .time s₂).2
  let middle := (now s / 1000 * 1000 + now s₂ / 1000 * 1000) / 2
  let measured := truncate (serverTime - middle)
  let s₄ := (S (.setTimeOffset measured) s₃).2
  have hmeasure : Prog.run S BinanceFuturesGateway.measure s = (.ok (), s₄) := by
    unfold BinanceFuturesGateway.measure
    rw [run_wire (hS.read s), run_wire hanswer, run_wire (hS.read s₂)]
    show Prog.run S (Prog.perform (WireOp.setTimeOffset measured)) s₃ = _
    rw [Prog.run_perform]
    exact Prod.ext (hS.set measured s₃).1 rfl
  refine ⟨s₄, ?_, ?_⟩
  · rw [BinanceFuturesGateway.syncTime, Prog.run_tryCatch, hmeasure]
  · have hoffset : offset s₄ = measured := (hS.set measured s₃).2
    have hmiddle : middle = (now s + now s₂) / 2 := by
      show (now s / 1000 * 1000 + now s₂ / 1000 * 1000) / 2 = _
      linarith
    have hround := abs_truncate_sub_le (serverTime - middle)
    have htransit : |x - middle| ≤ latency := by
      have hinside := abs_sub_middle_le ((hS.forward .time s).trans hstart) hstop
      have hfirst := hS.prompt .time s
      have hsecond := hS.prompt (.submit .time none) s₁
      rw [hmiddle]
      refine hinside.trans ?_
      show (now s₂ - now s) / 2 ≤ latency
      linarith
    have hskew : |skew s₄ - skew s₁| ≤ 3 * drift := by
      have hlast := hS.steady (.setTimeOffset measured) s₃
      have htwo := hS.skew_two (.submit .time none) .time s₁
      have hsum := abs_sub_le (skew s₄) (skew s₃) (skew s₁)
      show |skew s₄ - skew s₁| ≤ _
      linarith
    have hclose : (offset s₄ : ℚ) - skew s₄ =
        (measured - (serverTime - middle)) + (serverTime - (x + skew s₁)) + (x - middle) -
          (skew s₄ - skew s₁) := by
      rw [hoffset]
      ring
    rw [Aligned, hclose]
    have hthree := abs_add_three ((measured : ℚ) - (serverTime - middle))
      (serverTime - (x + skew s₁)) (x - middle)
    have hfour := abs_sub ((measured - (serverTime - middle)) + (serverTime - (x + skew s₁)) +
      (x - middle)) (skew s₄ - skew s₁)
    linarith

/-- A request signed on aligned clocks is not refused for its timestamp. -/
theorem call_accepted (gateway : BinanceFuturesGateway) {error : ℚ}
    (hahead : error + 1 + 2 * drift ≤ 1000)
    (hbehind : 3 * latency + error + 1 + 2 * drift ≤ gateway.recvWindow) (request : Request)
    {s : σ} (haligned : Aligned skew offset error s) :
    Accepted statusCode (Prog.run S (gateway.call request true) s).1 := by
  intro e hrun hcode
  let s₁ := (S .time s).2
  let s₂ := (S .timeOffset s₁).2
  let stamp := truncate (now s / 1000 * 1000) + offset s₁
  rw [BinanceFuturesGateway.call_signed, run_wire (hS.read s), run_wire (hS.stored s₁), wire,
    Prog.run_perform] at hrun
  obtain ⟨x, hstart, hstop, hout⟩ := hS.refuses request
    { timestamp := stamp, recvWindow := gateway.recvWindow } s₂ e hrun hcode
  have hoffset : offset s₁ = offset s := hS.kept .time s fun _ h => nomatch h
  have hskew : |skew s₂ - skew s| ≤ 2 * drift := hS.skew_two .time .timeOffset s
  have hnow : |(truncate (now s / 1000 * 1000) : ℚ) - now s| ≤ 1 := by
    rw [div_mul_cancel₀ _ (by norm_num)]
    exact abs_truncate_sub_le (now s)
  have hstamp : (stamp : ℚ) = truncate (now s / 1000 * 1000) + offset s := by
    rw [← hoffset]
    exact Int.cast_add _ _
  have htime : now s ≤ x :=
    ((hS.forward .time s).trans (hS.forward .timeOffset s₁)).trans hstart
  have harrival : x ≤ now s + 3 * latency := by
    have hfirst := hS.prompt .time s
    have hsecond := hS.prompt .timeOffset s₁
    have hthird := hS.prompt (.submit request
      (some { timestamp := stamp, recvWindow := gateway.recvWindow })) s₂
    linarith
  rw [Aligned, abs_le] at haligned
  rw [abs_le] at hskew hnow
  rcases hout with hout | hout
  · have hfast : x + skew s₂ + 1000 < (stamp : ℚ) := hout
    rw [hstamp] at hfast
    linarith [haligned.2, hskew.1, hnow.2]
  · have hslow : (stamp : ℚ) + gateway.recvWindow < x + skew s₂ := hout
    rw [hstamp] at hslow
    linarith [haligned.1, hskew.2, hnow.1]

/-- **A refused timestamp is not refused again.** Where every call is answered within `latency`
and a call lets the clocks drift apart by `drift` at most, `_send` ends with no timestamp
rejection, whatever the offset was when it began. -/
theorem send_accepted (gateway : BinanceFuturesGateway)
    (hcode : gateway.runtime.statusCode = statusCode)
    (hahead : latency + 3 + 5 * drift ≤ 1000)
    (hbehind : 4 * latency + 3 + 5 * drift ≤ gateway.recvWindow) (request : Request) (s : σ) :
    Accepted statusCode (Prog.run S (gateway.send request true) s).1 := by
  intro e hrun
  rw [BinanceFuturesGateway.send, Prog.run_tryCatch] at hrun
  rcases hfirst : Prog.run S (gateway.call request true) s with ⟨exc | body, s₁⟩
  · rw [hfirst] at hrun
    simp only [hcode] at hrun
    split at hrun
    · obtain ⟨s₂, hsync, haligned⟩ := hS.syncTime_aligned s₁
      rw [Prog.run_bind_ok S hsync] at hrun
      exact hS.call_accepted gateway (by linarith) (by linarith) request haligned e hrun
    · rename_i hother
      obtain rfl : exc = e := Except.error.inj hrun
      exact fun h => hother ⟨trivial, h⟩
  · rw [hfirst] at hrun
    cases hrun

end Clocks

/-! ## A clock a minute and a half ahead -/

/-- A local clock in milliseconds, and the offset held. -/
structure SimClock where
  now : ℚ
  offset : Int := 0

namespace SimClock

/-- The exchange's clock is behind the local one by this. -/
def behind : ℚ := -90000

/-- A request is on its way for a tenth of a second, half of it before it arrives. -/
def transit : ℚ := 100

def arrival (c : SimClock) : ℚ := c.now + transit / 2 + behind

def outside (c : SimClock) (sig : Signature) : Bool :=
  decide (c.arrival + 1000 < sig.timestamp ∨ sig.timestamp + sig.recvWindow < c.arrival)

def statusCode (e : Exn) : Option Int :=
  if e = .gateway "-1021" then some timestampCode else none

def body : (request : Request) → ℚ → Except Exn request.Body
  | .time, arrival => .ok (some ⌊arrival⌋)
  | .balance, _ => .ok ()
  | _, _ => .error (.other "no such endpoint")

def serve : Prog.Server WireOp WireOp.Ans Exn SimClock
  | .time, c => (.ok (c.now / 1000), c)
  | .timeOffset, c => (.ok c.offset, c)
  | .setTimeOffset n, c => (.ok (), { c with offset := n })
  | .filters, c => (.ok none, c)
  | .setFilters _, c => (.ok (), c)
  | .submit request none, c => (body request c.arrival, { c with now := c.now + transit })
  | .submit request (some sig), c =>
      (if c.outside sig then .error (.gateway "-1021") else body request c.arrival,
       { c with now := c.now + transit })

theorem now_serve (o : WireOp) (c : SimClock) :
    (serve o c).2.now = c.now ∨ (serve o c).2.now = c.now + transit := by
  match o with
  | .time | .timeOffset | .setTimeOffset _ | .filters | .setFilters _ => exact .inl rfl
  | .submit _ none | .submit _ (some _) => exact .inr rfl

theorem clocks : Clocks serve statusCode now (fun _ => behind) offset transit 0 where
  forward o c := by
    rcases now_serve o c with h | h
    · rw [h]
    · rw [h]
      norm_num [transit]
  prompt o c := by
    rcases now_serve o c with h | h
    · rw [h]
      norm_num [transit]
    · rw [h]
  steady _ _ := by simp
  read _ := rfl
  stored _ := rfl
  set _ _ := ⟨rfl, rfl⟩
  kept o c h := by
    match o with
    | .setTimeOffset n => exact absurd rfl (h n)
    | .time | .timeOffset | .filters | .setFilters _ => rfl
    | .submit _ none | .submit _ (some _) => rfl
  served c := by
    refine ⟨⌊c.arrival⌋, c.now + transit / 2, rfl, ?_, ?_, ?_⟩
    · norm_num [transit]
    · show c.now + transit / 2 ≤ c.now + transit
      norm_num [transit]
    · have hlow := Int.floor_le c.arrival
      have hhigh := Int.lt_floor_add_one c.arrival
      show |(⌊c.arrival⌋ : ℚ) - c.arrival| ≤ 1
      rw [abs_le]
      constructor
      · linarith
      · linarith
  refuses request sig c e hrun hcode := by
    refine ⟨c.now + transit / 2, ?_, ?_, ?_⟩
    · norm_num [transit]
    · show c.now + transit / 2 ≤ c.now + transit
      norm_num [transit]
    · by_contra hinside
      have hin : c.outside sig = false := decide_eq_false hinside
      have hbody : body request c.arrival = .error e := by
        have hrun : (if c.outside sig then .error (.gateway "-1021")
          else body request c.arrival) = .error e := hrun
        rwa [hin] at hrun
      cases request <;> cases hbody <;> exact absurd hcode (by decide)

def gateway : BinanceFuturesGateway where
  runtime :=
    { float := fun _ => .ok 0
      statusCode
      str := fun _ => ""
      hash := fun _ => 0 }

/-- The first timestamp is a minute and a half ahead, the second is not. -/
theorem balance_accepted :
    Accepted statusCode (Prog.run serve (gateway.send .balance true) { now := 1700000000000 }).1 :=
  clocks.send_accepted gateway rfl (by norm_num [transit]) (by norm_num [transit, gateway])
    .balance { now := 1700000000000 }

end SimClock

end Binance

end TradeWorker
