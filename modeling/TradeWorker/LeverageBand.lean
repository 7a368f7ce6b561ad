import TradeWorker.Chars
import TradeWorker.Control
import TradeWorker.Implement

/-!
# The leverage a worker requests

The leverage pass asks the exchange for each symbol's maximum and requests the smaller of
that and the worker's cap. An account may be held lower still, which only the refusal
says: a `-4421` whose message names the ceiling. The gateway reads it and requests once
more, at the ceiling, or at the operator's floor where the message names none it can use.

Every request is to lie between one and the smaller of maximum and cap, the second below
the first. The ceiling is checked for that on both sides. The floor is checked from above
only: a zero switches it off, and a negative one is requested.
-/

namespace TradeWorker

/-! ## The transport -/

/-- What `_send` may raise. -/
structure SendError where
  statusCode : Option Int := none
  errorMessage : Option String := none
  text : String := ""

/-- `POST /fapi/v1/leverage` by `_send`. A resend after the clock is synced again is part
of it. -/
inductive SendOp where
  | leverage (symbol : String) (leverage : Int)

/-- An exception, or the response: what `int` makes of its `leverage`, if anything. -/
@[reducible] def SendOp.Ans : SendOp → Type
  | .leverage .. => Except SendError (Option Int)

/-- The worker's calls with the transport beneath them. -/
abbrev GatewayOp := DeskOp ⊕ SendOp

abbrev GatewayOp.Ans : GatewayOp → Type := Prog.SumAns DeskOp.Ans SendOp.Ans

abbrev GatewayWork (α : Type) := Prog GatewayOp GatewayOp.Ans Exn α

def sendLeverage (symbol : String) (leverage : Int) :
    GatewayWork (Except SendError (Option Int)) :=
  @Prog.perform GatewayOp GatewayOp.Ans Exn (.inr (.leverage symbol leverage))

/-! ## The gateway -/

def leverageCapCode : Int := -4421

/-- A text without its first characters, where these are `pattern` in either case. -/
def dropPattern : List Char → List Char → Option (List Char)
  | [], text => some text
  | _ :: _, [] => none
  | p :: pattern, c :: text => if c.toLower = p then dropPattern pattern text else none

/-- `_LEVERAGE_CAP_RE` at the start of a text, and the digits it captures. The class of
digits has neither blanks nor letters in it, so the longest run of each is the only one. -/
def matchLeverageCap (text : List Char) : Option (List Char) :=
  match dropPattern "greater than ".toList text with
  | none => none
  | some rest =>
      let digits := rest.takeWhile Chars.isDigit
      match ((rest.dropWhile Chars.isDigit).dropWhile Chars.isSpace).head? with
      | some c => if digits ≠ [] ∧ c.toLower = 'x' then some digits else none
      | none => none

/-- `_LEVERAGE_CAP_RE.search`: the first place it matches at. -/
def searchLeverageCap : List Char → Option (List Char)
  | [] => none
  | c :: text => (matchLeverageCap (c :: text)).orElse fun _ => searchLeverageCap text

/-- The longest text `int` reads. -/
def maxStrDigits : Nat := 4300

namespace SendError

variable (exc : SendError)

def isLeverageCapError : Bool := exc.statusCode = some leverageCapCode

/-- `_leverage_cap_from_error`. -/
def leverageCap (upperBound : Int) : Except Exn (Option Int) :=
  if !exc.isLeverageCapError then .ok none
  else
    let msg := (text? exc.errorMessage).getD exc.text
    match searchLeverageCap msg.toList with
    | none => .ok none
    | some digits =>
        if maxStrDigits < digits.length then
          .error (.valueError "Exceeds the limit for integer string conversion")
        else
          let cap : Int := Chars.natOf digits
          if cap ≤ 0 then .ok none
          else if upperBound ≤ cap then .ok none
          else .ok (some cap)

/-- The leverage a refused request is repeated at, before it is compared with the first. -/
def retryCap (leverage : Int) (minLeverageCap : Option Int) : Except Exn (Option Int) :=
  (exc.leverageCap leverage).map fun cap =>
    match cap, minLeverageCap with
    | none, some floor =>
        if floor ≠ 0 ∧ exc.isLeverageCapError then some (min floor leverage) else none
    | cap, _ => cap

end SendError

/-- The second attempt of `set_leverage`: what it raises is only logged. -/
def retryLeverage (symbol : String) (cap : Int) : GatewayWork (Option Int) := do
  let answer : Except SendError (Option Int) ← sendLeverage symbol cap
  match answer with
  | .ok data => pure (some (data.getD cap))
  | .error _ => pure none

/-- `set_leverage`: what was applied, or `None`. -/
def setLeverage (symbol : String) (leverage : Int) (minLeverageCap : Option Int) :
    GatewayWork (Option Int) := do
  let answer : Except SendError (Option Int) ← sendLeverage symbol leverage
  match answer with
  | .ok data => pure (some (data.getD leverage))
  | .error exc => do
      let retry ← Prog.ofExcept (exc.retryCap leverage minLeverageCap)
      match retry with
      | none => pure none
      | some cap => if cap < leverage then retryLeverage symbol cap else pure none

/-- The worker's calls, with `set_leverage` by the gateway. -/
def throughGateway : (o : DeskOp) → GatewayWork (DeskOp.Ans o)
  | .inr (.setLeverage symbol leverage minLeverageCap) =>
      setLeverage symbol leverage minLeverageCap
  | o => @Prog.perform GatewayOp GatewayOp.Ans Exn (.inl o)

/-! ## A pass over the symbols -/

def GatewayOp.request? : GatewayOp → Option (String × Int)
  | .inr (.leverage symbol leverage) => some (symbol, leverage)
  | .inl _ => none

/-- The exception `_send` raised, if it did. -/
def refusal? : Except Exn (Except SendError (Option Int)) → Option SendError
  | .ok (.error exc) => some exc
  | _ => none

/-- What came of one listed symbol: the maximum reported, the leverage requested, in
order, and the refusal of the first request. -/
structure SymbolPass where
  symbol : String
  maximum : Option Int
  requested : List Int
  refusal : Option SendError

namespace LeverageInitJob

variable (job : LeverageInitJob)

/-- The symbols as `__init__` keeps them. -/
def listed : List String := (job.symbols.filter (· ≠ "")).eraseDups

section Pass

variable {σ : Type} (S : Prog.Server GatewayOp GatewayOp.Ans Exn σ)

def requests {α : Type} (p : DeskWork α) (s : σ) : List (String × Int) :=
  (Prog.calls S (Prog.implement throughGateway p) s).filterMap GatewayOp.request?

/-- The maximum the exchange reports. -/
def maximumAt (symbol : String) (s : σ) : Option Int :=
  ((S (.inl (.inr (.getMaxLeverage (job.resolve symbol)))) s).1).toOption.join

def refusalAt (symbol : String) (s : σ) : Option SendError :=
  let resolved := job.resolve symbol
  let s' := (S (.inl (.inr (.getMaxLeverage resolved))) s).2
  (job.maximumAt S symbol s).bind fun maxLev =>
    if maxLev ≤ 0 then none
    else refusal? (S (.inr (.leverage resolved (min maxLev job.cap))) s').1

/-- `_init_one`, seen from outside. -/
def passAt (symbol : String) (s : σ) : SymbolPass where
  symbol
  maximum := job.maximumAt S symbol s
  requested := (requests S (job.initOne symbol) s).map (·.2)
  refusal := job.refusalAt S symbol s

/-- The loop, symbol by symbol; an exception ends it. -/
def passesAt : List String → σ → List SymbolPass
  | [], _ => []
  | symbol :: rest, s =>
      job.passAt S symbol s ::
        match Prog.run S (Prog.implement throughGateway (job.initOne symbol)) s with
        | (.ok _, s') => passesAt rest s'
        | (.error _, _) => []

def passes (s : σ) : List SymbolPass :=
  if job.cap ≤ 0 then [] else job.passesAt S job.listed s

end Pass

end LeverageInitJob

/-! ## What is asked of a pass -/

namespace SymbolPass

variable (pass : SymbolPass)

/-- At most two requests, each between one and the smaller of the maximum and the cap, the
second below the first. -/
structure InBand (cap : Int) : Prop where
  atMostTwo : pass.requested.length ≤ 2
  band : ∀ leverage ∈ pass.requested, ∃ maxLev, pass.maximum = some maxLev ∧
    1 ≤ leverage ∧ leverage ≤ min maxLev cap
  descending : pass.requested.Pairwise (· > ·)

/-- The floor, where it is turned to: a `-4421` came back whose message names no ceiling
below the request. -/
def FloorUsable (job : LeverageInitJob) : Prop :=
  ∀ exc maxLev floor, pass.refusal = some exc → pass.maximum = some maxLev →
    exc.isLeverageCapError = true → exc.leverageCap (min maxLev job.cap) = .ok none →
      job.minCap = some floor → 0 ≤ floor

end SymbolPass

/-- One run: its requests are those of the passes, one pass a listed symbol, and each pass
stays in the band. -/
structure RequestsInBand {σ : Type} (job : LeverageInitJob)
    (S : Prog.Server GatewayOp GatewayOp.Ans Exn σ) (s : σ) : Prop where
  accounted : LeverageInitJob.requests S job.run s =
    (job.passes S s).flatMap fun pass => pass.requested.map (job.resolve pass.symbol, ·)
  once : ((job.passes S s).map (·.symbol)).Nodup
  listed : ∀ pass ∈ job.passes S s, pass.symbol ∈ job.symbols
  inBand : ∀ pass ∈ job.passes S s, pass.InBand job.cap

/-! ## The second request -/

namespace SendError

variable (exc : SendError)

/-- The request that follows a refusal, if one does. -/
def repeated (leverage : Int) (minLeverageCap : Option Int) : List Int :=
  match exc.retryCap leverage minLeverageCap with
  | .ok (some cap) => if cap < leverage then [cap] else []
  | _ => []

/-- A ceiling read off a message is positive and below the request. -/
theorem leverageCap_some {leverage cap : Int} (h : exc.leverageCap leverage = .ok (some cap)) :
    0 < cap ∧ cap < leverage := by
  unfold leverageCap at h
  split at h
  · cases h
  · dsimp only at h
    split at h
    · cases h
    · split at h
      · cases h
      · split at h
        · cases h
        · split at h
          · cases h
          · rename_i hpositive hbelow
            cases h
            omega

example : (SendError.mk (some (-4421))
    (some "Subaccounts are restricted from using leverage greater than 5x.") "").leverageCap 10 =
      .ok (some 5) := by decide +kernel

theorem length_repeated (leverage : Int) (minLeverageCap : Option Int) :
    (exc.repeated leverage minLeverageCap).length ≤ 1 := by
  unfold repeated
  split
  · split <;> simp
  · simp

theorem pairwise_repeated (leverage : Int) (minLeverageCap : Option Int) :
    (exc.repeated leverage minLeverageCap).Pairwise (· > ·) := by
  unfold repeated
  split
  · split <;> simp
  · simp

theorem lt_of_mem_repeated {leverage cap : Int} {minLeverageCap : Option Int}
    (h : cap ∈ exc.repeated leverage minLeverageCap) : cap < leverage := by
  unfold repeated at h
  split at h
  · split at h
    · rename_i hbelow
      obtain rfl := List.mem_singleton.mp h
      exact hbelow
    · cases h
  · cases h

/-- It is positive unless it is the floor's, and the floor is negative. -/
theorem repeated_positive_iff {leverage : Int} (hleverage : 0 < leverage)
    (minLeverageCap : Option Int) :
    (∀ cap ∈ exc.repeated leverage minLeverageCap, 1 ≤ cap) ↔
      ∀ floor, exc.isLeverageCapError = true → exc.leverageCap leverage = .ok none →
        minLeverageCap = some floor → 0 ≤ floor := by
  unfold repeated retryCap
  cases hcap : exc.leverageCap leverage with
  | error e => simp [Except.map]
  | ok cap =>
      cases cap with
      | some cap =>
          have hband := exc.leverageCap_some hcap
          simp only [Except.map, reduceCtorEq, Except.ok.injEq, false_imp_iff, implies_true,
            iff_true]
          intro c hc
          split at hc
          · obtain rfl := List.mem_singleton.mp hc
            omega
          · cases hc
      | none =>
          cases minLeverageCap with
          | none => simp [Except.map]
          | some floor =>
              simp only [Except.map]
              by_cases hturned : floor ≠ 0 ∧ exc.isLeverageCapError = true
              · rw [if_pos hturned]
                dsimp only
                constructor
                · rintro h _ hcode - ⟨rfl⟩
                  by_contra hnegative
                  have hmin : min floor leverage = floor := by omega
                  rw [hmin, if_pos (by omega)] at h
                  have hone := h floor (List.mem_singleton.mpr rfl)
                  omega
                · intro h c hc
                  have hfloor := h floor hturned.2 trivial rfl
                  split at hc
                  · obtain rfl := List.mem_singleton.mp hc
                    omega
                  · cases hc
              · rw [if_neg hturned]
                constructor
                · rintro - _ hcode - ⟨rfl⟩
                  by_contra hnegative
                  exact hturned ⟨by omega, hcode⟩
                · intro _ c hc
                  cases hc

end SendError

/-! ## One symbol -/

section Pass

variable {σ : Type} (S : Prog.Server GatewayOp GatewayOp.Ans Exn σ)

theorem run_sendLeverage (symbol : String) (leverage : Int) (s : σ) :
    Prog.run S (sendLeverage symbol leverage) s = S (.inr (.leverage symbol leverage)) s :=
  Prog.run_perform ..

theorem requests_sendLeverage (symbol : String) (leverage : Int) (s : σ) :
    (Prog.calls S (sendLeverage symbol leverage) s).filterMap GatewayOp.request? =
      [(symbol, leverage)] :=
  congrArg (List.filterMap GatewayOp.request?) (Prog.calls_perform S _ s)

theorem requests_retryLeverage (symbol : String) (cap : Int) (s : σ) :
    (Prog.calls S (retryLeverage symbol cap) s).filterMap GatewayOp.request? =
      [(symbol, cap)] := by
  have hrun := run_sendLeverage S symbol cap s
  unfold retryLeverage
  rcases hanswer : S (.inr (.leverage symbol cap)) s with ⟨e | ⟨exc | data⟩, s'⟩
  · rw [Prog.calls_bind_error S (hrun.trans hanswer), requests_sendLeverage]
  · rw [Prog.calls_bind_ok S (hrun.trans hanswer), List.filterMap_append,
      requests_sendLeverage]
    rfl
  · rw [Prog.calls_bind_ok S (hrun.trans hanswer), List.filterMap_append,
      requests_sendLeverage]
    rfl

/-- The requests of `set_leverage`: the first, and what its refusal leads to. -/
theorem requests_setLeverage (symbol : String) (leverage : Int) (minLeverageCap : Option Int)
    (s : σ) :
    (Prog.calls S (setLeverage symbol leverage minLeverageCap) s).filterMap
        GatewayOp.request? =
      (leverage :: ((refusal? (S (.inr (.leverage symbol leverage)) s).1).elim []
        (·.repeated leverage minLeverageCap))).map (symbol, ·) := by
  have hrun := run_sendLeverage S symbol leverage s
  unfold setLeverage
  rcases hanswer : S (.inr (.leverage symbol leverage)) s with ⟨e | ⟨exc | data⟩, s'⟩
  · rw [Prog.calls_bind_error S (hrun.trans hanswer), requests_sendLeverage]
    rfl
  · rw [Prog.calls_bind_ok S (hrun.trans hanswer), List.filterMap_append,
      requests_sendLeverage]
    dsimp only [refusal?, Option.elim_some]
    unfold SendError.repeated
    cases exc.retryCap leverage minLeverageCap with
    | error e => rfl
    | ok retry =>
        cases retry with
        | none => rfl
        | some cap =>
            simp only [Prog.ofExcept_ok, Prog.ret_bind]
            split
            · rw [requests_retryLeverage]
              rfl
            · rfl
  · rw [Prog.calls_bind_ok S (hrun.trans hanswer), List.filterMap_append,
      requests_sendLeverage]
    rfl

variable (job : LeverageInitJob)

/-- `_init_one`: nothing without a maximum, else the target and what its refusal leads
to. -/
theorem requests_initOne (symbol : String) (s : σ) :
    LeverageInitJob.requests S (job.initOne symbol) s =
      ((job.maximumAt S symbol s).elim [] fun maxLev =>
        if maxLev ≤ 0 then []
        else min maxLev job.cap :: (job.refusalAt S symbol s).elim []
          (·.repeated (min maxLev job.cap) job.minCap)).map (job.resolve symbol, ·) := by
  have hmax : Prog.implement throughGateway (control (.getMaxLeverage (job.resolve symbol))) =
      @Prog.perform GatewayOp GatewayOp.Ans Exn
        (.inl (.inr (.getMaxLeverage (job.resolve symbol)))) := Prog.implement_perform ..
  have hset : ∀ leverage, Prog.implement throughGateway
      (control (.setLeverage (job.resolve symbol) leverage job.minCap)) =
        setLeverage (job.resolve symbol) leverage job.minCap := fun _ => Prog.implement_perform ..
  have hrun := Prog.run_perform S (.inl (.inr (.getMaxLeverage (job.resolve symbol)))) s
  have hcalls : (Prog.calls S (@Prog.perform GatewayOp GatewayOp.Ans Exn
      (.inl (.inr (.getMaxLeverage (job.resolve symbol))))) s).filterMap GatewayOp.request? = [] :=
    congrArg (List.filterMap GatewayOp.request?) (Prog.calls_perform S _ s)
  unfold LeverageInitJob.requests LeverageInitJob.initOne
  dsimp only
  rw [Prog.implement_bind, hmax]
  rcases hanswer : S (.inl (.inr (.getMaxLeverage (job.resolve symbol)))) s with
    ⟨e | (_ | maxLev), s'⟩
  · have hmaximum : job.maximumAt S symbol s = none := by
      rw [LeverageInitJob.maximumAt, hanswer]
      rfl
    rw [Prog.calls_bind_error S (hrun.trans hanswer), hcalls, hmaximum]
    rfl
  · have hmaximum : job.maximumAt S symbol s = none := by
      rw [LeverageInitJob.maximumAt, hanswer]
      rfl
    rw [Prog.calls_bind_ok S (hrun.trans hanswer), List.filterMap_append, hcalls, hmaximum]
    rfl
  · have hmaximum : job.maximumAt S symbol s = some maxLev := by
      rw [LeverageInitJob.maximumAt, hanswer]
      rfl
    rw [Prog.calls_bind_ok S (hrun.trans hanswer), List.filterMap_append, hcalls, hmaximum,
      Option.elim_some, List.nil_append]
    dsimp only
    by_cases hpositive : maxLev ≤ 0
    · simp only [if_pos hpositive]
      rfl
    · simp only [if_neg hpositive]
      have hrefusal : job.refusalAt S symbol s = refusal?
          (S (.inr (.leverage (job.resolve symbol) (min maxLev job.cap))) s').1 := by
        rw [LeverageInitJob.refusalAt, hmaximum, Option.bind_some, if_neg hpositive, hanswer]
      rw [Prog.implement_bind, hset, hrefusal, ← requests_setLeverage]
      exact congrArg _ (Prog.calls_bind_ret S _ (fun _ => ()) s')

theorem passAt_requested (symbol : String) (s : σ) :
    (job.passAt S symbol s).requested =
      (job.maximumAt S symbol s).elim [] fun maxLev =>
        if maxLev ≤ 0 then []
        else min maxLev job.cap :: (job.refusalAt S symbol s).elim []
          (·.repeated (min maxLev job.cap) job.minCap) := by
  unfold LeverageInitJob.passAt
  dsimp only
  rw [requests_initOne, List.map_map]
  exact List.map_id _

/-- A pass leaves the band by the floor only. -/
theorem passAt_inBand_iff (hcap : 0 < job.cap) (symbol : String) (s : σ) :
    (job.passAt S symbol s).InBand job.cap ↔ (job.passAt S symbol s).FloorUsable job := by
  have hrequested := passAt_requested S job symbol s
  have hrefusal : (job.passAt S symbol s).refusal = job.refusalAt S symbol s := rfl
  cases hmaximum : job.maximumAt S symbol s with
  | none =>
      rw [hmaximum, Option.elim_none] at hrequested
      have hpassMaximum : (job.passAt S symbol s).maximum = none := hmaximum
      constructor
      · intro _ exc maxLev floor _ hsome
        rw [hpassMaximum] at hsome
        cases hsome
      · exact fun _ => ⟨by simp [hrequested], by simp [hrequested], by simp [hrequested]⟩
  | some maxLev =>
      have hpassMaximum : (job.passAt S symbol s).maximum = some maxLev := hmaximum
      rw [hmaximum, Option.elim_some] at hrequested
      by_cases hpositive : maxLev ≤ 0
      · have hnoRefusal : job.refusalAt S symbol s = none := by
          rw [LeverageInitJob.refusalAt, hmaximum, Option.bind_some, if_pos hpositive]
        rw [if_pos hpositive] at hrequested
        constructor
        · intro _ exc _ floor hsome
          rw [hrefusal, hnoRefusal] at hsome
          cases hsome
        · exact fun _ => ⟨by simp [hrequested], by simp [hrequested], by simp [hrequested]⟩
      · have htarget : 0 < min maxLev job.cap := by omega
        rw [if_neg hpositive] at hrequested
        cases hexc : job.refusalAt S symbol s with
        | none =>
            rw [hexc, Option.elim_none] at hrequested
            constructor
            · intro _ exc _ floor hsome
              rw [hrefusal, hexc] at hsome
              cases hsome
            · intro _
              refine ⟨by simp [hrequested], ?_, by simp [hrequested]⟩
              intro leverage hmem
              rw [hrequested] at hmem
              obtain rfl := List.mem_singleton.mp hmem
              exact ⟨maxLev, hpassMaximum, by omega, le_rfl⟩
        | some exc =>
            rw [hexc, Option.elim_some] at hrequested
            have hfloor := exc.repeated_positive_iff htarget job.minCap
            constructor
            · rintro ⟨-, hband, -⟩ exc' maxLev' floor hsome hmax hcode hnone hconfigured
              obtain rfl : exc = exc' := by
                rw [hrefusal, hexc] at hsome
                exact Option.some.inj hsome
              obtain rfl : maxLev = maxLev' := Option.some.inj (hpassMaximum.symm.trans hmax)
              refine hfloor.mp ?_ floor hcode hnone hconfigured
              intro cap hmem
              obtain ⟨_, -, hone, -⟩ := hband cap (by
                rw [hrequested]
                exact List.mem_cons_of_mem _ hmem)
              exact hone
            · intro husable
              have hone := hfloor.mpr fun floor hcode hnone hconfigured =>
                husable exc maxLev floor (hrefusal.trans hexc) hpassMaximum hcode hnone hconfigured
              have hlength := exc.length_repeated (min maxLev job.cap) job.minCap
              refine ⟨?_, ?_, ?_⟩
              · rw [hrequested, List.length_cons]
                omega
              · intro leverage hmem
                rw [hrequested] at hmem
                rcases List.mem_cons.mp hmem with rfl | hagain
                · exact ⟨maxLev, hpassMaximum, by omega, le_rfl⟩
                · have hbelow := exc.lt_of_mem_repeated hagain
                  exact ⟨maxLev, hpassMaximum, hone leverage hagain, by omega⟩
              · rw [hrequested, List.pairwise_cons]
                exact ⟨fun cap hagain => exc.lt_of_mem_repeated hagain,
                  exc.pairwise_repeated _ _⟩

/-! ## A run -/

/-- `dict.fromkeys` keeps each symbol once. -/
theorem listed_nodup : job.listed.Nodup := by
  unfold LeverageInitJob.listed
  generalize job.symbols.filter (· ≠ "") = symbols
  -- what follows the first symbol is shorter, but no tail of the list
  induction hn : symbols.length using Nat.strong_induction_on generalizing symbols with
  | _ n ih =>
      cases symbols with
      | nil => exact List.nodup_nil
      | cons symbol rest =>
          have hshorter := List.length_filter_le (fun other => !other == symbol) rest
          rw [List.length_cons] at hn
          rw [List.eraseDups_cons, List.nodup_cons]
          refine ⟨fun hmem => ?_, ih _ (by omega) _ rfl⟩
          simpa using (List.mem_filter.mp (List.mem_eraseDups.mp hmem)).2

/-- The loop's requests are those of its passes. -/
theorem requests_initEach (symbols : List String) (s : σ) :
    LeverageInitJob.requests S (job.initEach symbols) s =
      (job.passesAt S symbols s).flatMap fun pass =>
        pass.requested.map (job.resolve pass.symbol, ·) := by
  induction symbols generalizing s with
  | nil => rfl
  | cons symbol rest ih =>
      have hfirst : (job.passAt S symbol s).requested.map (job.resolve symbol, ·) =
          LeverageInitJob.requests S (job.initOne symbol) s := by
        rw [passAt_requested, requests_initOne]
      have hloop : Prog.implement throughGateway (job.initEach (symbol :: rest)) =
          (Prog.implement throughGateway (job.initOne symbol) >>= fun _ =>
            Prog.implement throughGateway (job.initEach rest)) := Prog.implement_bind ..
      unfold LeverageInitJob.passesAt LeverageInitJob.requests
      rw [List.flatMap_cons, hloop]
      rcases hrun : Prog.run S (Prog.implement throughGateway (job.initOne symbol)) s with
        ⟨e | u, s'⟩
      · rw [Prog.calls_bind_error S hrun, List.flatMap_nil, List.append_nil]
        exact hfirst.symm
      · rw [Prog.calls_bind_ok S hrun, List.filterMap_append]
        exact congrArg₂ (· ++ ·) hfirst.symm (ih s')

/-- Each symbol has one pass at most, in the order listed. -/
theorem passesAt_symbols (symbols : List String) (s : σ) :
    (job.passesAt S symbols s).map (·.symbol) <+: symbols := by
  induction symbols generalizing s with
  | nil => exact List.prefix_rfl
  | cons symbol rest ih =>
      unfold LeverageInitJob.passesAt
      rw [List.map_cons]
      refine List.cons_prefix_cons.mpr ⟨rfl, ?_⟩
      split
      · exact ih _
      · exact List.nil_prefix

theorem eq_passAt_of_mem {symbols : List String} {s : σ} {pass : SymbolPass}
    (h : pass ∈ job.passesAt S symbols s) : ∃ symbol s', pass = job.passAt S symbol s' := by
  induction symbols generalizing s with
  | nil => cases h
  | cons symbol rest ih =>
      unfold LeverageInitJob.passesAt at h
      rcases List.mem_cons.mp h with rfl | h
      · exact ⟨symbol, s, rfl⟩
      · split at h
        · exact ih h
        · cases h

theorem requests_run (s : σ) :
    LeverageInitJob.requests S job.run s =
      (job.passes S s).flatMap fun pass => pass.requested.map (job.resolve pass.symbol, ·) := by
  unfold LeverageInitJob.run LeverageInitJob.passes
  dsimp only
  by_cases hcap : job.cap ≤ 0
  · rw [if_pos hcap, if_pos hcap]
    split <;> rfl
  · rw [if_neg hcap, if_neg hcap]
    split
    · rename_i hnone
      rw [LeverageInitJob.listed, hnone]
      rfl
    · exact requests_initEach S job _ s

/-- Whatever the exchange reports and answers, a run stays in the band exactly when no pass
turns to a floor below zero. -/
theorem requestsInBand_iff (s : σ) :
    RequestsInBand job S s ↔ ∀ pass ∈ job.passes S s, pass.FloorUsable job := by
  have hpass : ∀ pass ∈ job.passes S s,
      pass.InBand job.cap ↔ pass.FloorUsable job := by
    intro pass hmem
    unfold LeverageInitJob.passes at hmem
    split at hmem
    · cases hmem
    · obtain ⟨symbol, s', rfl⟩ := eq_passAt_of_mem S job hmem
      exact passAt_inBand_iff S job (by omega) symbol s'
  have hfront : (job.passes S s).map (·.symbol) <+: job.listed := by
    unfold LeverageInitJob.passes
    split
    · exact List.nil_prefix
    · exact passesAt_symbols S job job.listed s
  constructor
  · exact fun h pass hmem => (hpass pass hmem).mp (h.inBand pass hmem)
  · intro h
    refine ⟨requests_run S job s, ?_, ?_, fun pass hmem => (hpass pass hmem).mpr (h pass hmem)⟩
    · exact hfront.sublist.nodup (listed_nodup job)
    · intro pass hmem
      have hlisted := List.mem_eraseDups.mp (hfront.subset (List.mem_map_of_mem hmem))
      exact (List.mem_filter.mp hlisted).1

end Pass

/-- An account held below its request, by a message that names no ceiling. -/
def rewordedRefusal : Prog.Server GatewayOp GatewayOp.Ans Exn Unit
  | .inl (.inr (.getMaxLeverage _)), s => (.ok (some 125), s)
  | .inl _, s => (.error (.other "not asked"), s)
  | .inr (.leverage ..), s =>
      (.ok (.error
        { statusCode := some (-4421)
          errorMessage := some "Leverage is limited to 5 for this account." }), s)

/-- A worker with `MIN_LEVERAGE_CAP=-5` that is asked to initialise one symbol. -/
def negativeFloor : LeverageInitJob :=
  leverageInitJob { config := {} } { minLeverageCap := -5 } { symbols := some ["BTCUSDT"] }

/-- The floor is requested as it stands. -/
theorem negativeFloor_requested :
    LeverageInitJob.requests rewordedRefusal negativeFloor.run () =
        [("BTCUSDT", 10), ("BTCUSDT", -5)] ∧
      ¬ RequestsInBand negativeFloor rewordedRefusal () := by
  have hrequests : LeverageInitJob.requests rewordedRefusal negativeFloor.run () =
      [("BTCUSDT", 10), ("BTCUSDT", -5)] := by decide +kernel
  refine ⟨hrequests, fun h => ?_⟩
  have hmem : ("BTCUSDT", (-5 : Int)) ∈
      LeverageInitJob.requests rewordedRefusal negativeFloor.run () := by
    rw [hrequests]
    exact List.mem_cons_of_mem _ (List.mem_singleton.mpr rfl)
  rw [h.accounted] at hmem
  obtain ⟨pass, hpass, hmem⟩ := List.mem_flatMap.mp hmem
  obtain ⟨leverage, hleverage, heq⟩ := List.mem_map.mp hmem
  obtain ⟨_, -, hone, -⟩ := (h.inBand pass hpass).band leverage hleverage
  obtain rfl : leverage = -5 := congrArg Prod.snd heq
  omega

end TradeWorker
