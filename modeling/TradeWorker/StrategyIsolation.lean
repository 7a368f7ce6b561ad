import TradeWorker.ForexReach
import TradeWorker.World

/-!
# Strategies that share a symbol

With several strategies allowed on one symbol, the magic number is all that
tells their positions apart. Every query the handler's exits and cleanups start
from is filtered by the magic of the signal's own strategy, and the one query
that is not, FLAT's retry without a strategy, is never reached. So no call on
an existing position leaves the strategy's own magic, against any platform and
any store.
-/

namespace TradeWorker

/-- No two strategies share a magic number. -/
def ForexExecutor.MagicsDistinct (ex : ForexExecutor) : Prop :=
  ∀ a b magic, ex.strategyMagicMap.lookup a = some magic →
    ex.strategyMagicMap.lookup b = some magic → a = b

/-- The position trades under the strategy's magic number, and under no other
strategy's. -/
def ForexExecutor.OwnedBy (ex : ForexExecutor) (strategy : String)
    (pos : PlatformPosition) : Prop :=
  ex.strategyMagicMap.lookup strategy = some pos.magic ∧
    ∀ other, ex.strategyMagicMap.lookup other = some pos.magic → other = strategy

/-- A query by strategy lists positions under the strategy's magic number only. -/
theorem ForexExecutor.scoped_magic (ex : ForexExecutor) (strategy : String)
    (ticket : Option String) :
    ex.Scoped (fun p => ex.strategyMagicMap.lookup strategy = some p.magic) (some strategy)
      ticket := by
  intro raw ps hps p hp
  have hlist := mem_of_mem_filterByTicket hp
  obtain ⟨magic, hmagic, rfl⟩ : ∃ magic, ex.magicFor (some strategy) = .ok magic ∧
      raw.filter (·.magic = magic) = ps := by
    unfold ForexExecutor.scope at hps
    cases h : ex.magicFor (some strategy) with
    | error e => simp [h, Except.map] at hps
    | ok magic => exact ⟨magic, rfl, by simpa [h, Except.map] using hps⟩
  have hlookup : ex.strategyMagicMap.lookup strategy = some magic := by
    unfold ForexExecutor.magicFor at hmagic
    split at hmagic
    · cases hmagic
    · rename_i s hs
      obtain ⟨hs, -⟩ := text?_eq_some.mp hs
      cases hs
      split at hmagic
      · rename_i m hm
        cases hmagic
        exact hm
      · cases hmagic
  have hown : p.magic = magic := by simpa using (List.mem_filter.mp hlist).2
  rw [hown]
  exact hlookup

/-- With distinct magic numbers these are the strategy's own. -/
theorem ForexExecutor.scoped_ownedBy {ex : ForexExecutor} (hdistinct : ex.MagicsDistinct)
    (strategy : String) (ticket : Option String) :
    ex.Scoped (ex.OwnedBy strategy) (some strategy) ticket := by
  intro raw ps hps p hp
  have hlookup := ex.scoped_magic strategy ticket raw ps hps p hp
  exact ⟨hlookup, fun other hother => hdistinct _ _ _ hother hlookup⟩

/-- Every route of the handler stays inside the strategy's own positions. -/
theorem handle_sends_ownedBy {ex : ForexExecutor} (hdistinct : ex.MagicsDistinct)
    (hmulti : ex.config.allowMultiStrategyPerSymbol = true) (signal : Signal) :
    Prog.Sends (touching (fun _ _ => True) (ex.OwnedBy signal.strategy)) (fun _ => True)
      (SignalHandler.handle (forexMarket ex) signal) := by
  have hscope := ex.scoped_ownedBy hdistinct signal.strategy
  refine Prog.Sends.bind (sends_host _) fun _ _ => ?_
  cases signal.action with
  | long | short => exact SignalHandler.handleEntry_sends fun _ _ t _ => hscope t
  | tp1 =>
      exact SignalHandler.executeExit_sends fun _ _ _ _ =>
        touching_of_onPlatform (forexMarket_handleTp1_sends (hscope none))
  | tp2 | sl | rSl =>
      exact SignalHandler.executeExit_sends fun _ _ _ _ =>
        touching_of_onPlatform (ForexExecutor.closeAllPositions_sends (hscope _))
  | flat =>
      exact SignalHandler.handleFlat_sends (Or.inl hmulti) (fun _ => hscope none)
        fun _ _ _ _ _ => hscope _

/-- Against every server: a close, a partial close or a stop move the handler
sends names a position of the signal's own strategy, and a strategy without a
magic number sends none. -/
theorem handle_touches_own_strategy {σ : Type} (S : Prog.Server WorkerOp WorkerOp.Ans Exn σ)
    (s : σ) (ex : ForexExecutor) (signal : Signal) (hdistinct : ex.MagicsDistinct)
    (hmulti : ex.config.allowMultiStrategyPerSymbol = true) :
    ∀ o ∈ Prog.calls S (SignalHandler.handle (forexMarket ex) signal) s,
      Touches (ex.OwnedBy signal.strategy) o ∧
        (ex.strategyMagicMap.lookup signal.strategy = none → Touches (fun _ => False) o) := by
  intro o ho
  have howned : Touches (ex.OwnedBy signal.strategy) o := by
    refine ((handle_sends_ownedBy hdistinct hmulti signal).calls (fun o s => ?_) s o ho).1
    cases o <;> trivial
  refine ⟨howned, fun hmissing => ?_⟩
  cases o with
  | fx o =>
      cases o with
      | closePosition pos _ _ => exact absurd (hmissing ▸ howned.1) (by simp)
      | modifySl pos _ => exact absurd (hmissing ▸ howned.1) (by simp)
      | _ => trivial
  | _ => trivial

/-! ## Two strategies on gold -/

/-- Two strategies with a magic each, allowed on one symbol together. -/
def twoStrategies : ForexExecutor where
  config := { allowMultiStrategyPerSymbol := true }
  strategyMagicMap := [("GOLD", 7), ("SCALP", 8)]

theorem twoStrategies_lookup {a : String} {magic : Int}
    (h : twoStrategies.strategyMagicMap.lookup a = some magic) :
    (a = "GOLD" ∧ magic = 7) ∨ (a = "SCALP" ∧ magic = 8) := by
  by_cases hgold : a = "GOLD"
  · subst hgold
    exact Or.inl ⟨rfl, by simpa [twoStrategies, eq_comm] using h⟩
  · by_cases hscalp : a = "SCALP"
    · subst hscalp
      exact Or.inr ⟨rfl, by simpa [twoStrategies, List.lookup_cons, eq_comm] using h⟩
    · simp [twoStrategies, List.lookup_cons, beq_eq_false_iff_ne.mpr hgold,
        beq_eq_false_iff_ne.mpr hscalp] at h

theorem twoStrategies_magicsDistinct : twoStrategies.MagicsDistinct := by
  intro a b magic ha hb
  rcases twoStrategies_lookup ha with ⟨rfl, rfl⟩ | ⟨rfl, rfl⟩ <;>
    rcases twoStrategies_lookup hb with ⟨rfl, h⟩ | ⟨rfl, h⟩ <;> simp_all

/-- A platform holding one position of each strategy on every symbol. -/
def sharedPlatform : Backend Unit where
  fx
    | .resolveSymbol s, b => (.ok s, b)
    | .getPositions _, b =>
        (.ok [{ ticket := 201, magic := 8, side := .short, volume := 1, priceOpen := 2400 },
          { ticket := 101, magic := 7, side := .long, volume := 1, priceOpen := 2390 }], b)
    | .closePosition pos _ _, b =>
        (.ok { success := true, ticket := some (ticketText pos.ticket) }, b)
    | _, b => (.error (.gateway "not asked"), b)
  cx _ b := (.error (.other "no exchange"), b)
  host
    | .handling _, b => (.ok (), b)
    | _, b => (.error (.other "not asked"), b)

/-- A FLAT of `GOLD` with an empty store. -/
def goldFlat : Signal :=
  { strategy := "GOLD", timestamp := 0, action := .flat, symbol := "XAUUSD" }

/-- The FLAT closes the one `GOLD` position of the two, and only calls inside
the strategy are made. -/
theorem goldFlat_touches_own_strategy :
    twoStrategies.MagicsDistinct ∧
      twoStrategies.config.allowMultiStrategyPerSymbol = true ∧
      ∀ o ∈ Prog.calls sharedPlatform.serve
          (SignalHandler.handle (forexMarket twoStrategies) goldFlat)
          { db := .empty, rest := () },
        Touches (twoStrategies.OwnedBy "GOLD") o ∧
          (twoStrategies.strategyMagicMap.lookup "GOLD" = none →
            Touches (fun _ => False) o) :=
  ⟨twoStrategies_magicsDistinct, rfl,
    handle_touches_own_strategy _ _ twoStrategies goldFlat twoStrategies_magicsDistinct rfl⟩

end TradeWorker
