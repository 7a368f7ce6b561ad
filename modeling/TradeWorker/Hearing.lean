import TradeWorker.Aside
import TradeWorker.EntryPolicy
import TradeWorker.Monitor

/-!
# What a handling is told

The answers of the calls a signal's handling makes, as far as they bear on what it leaves
behind: whether an order the signal is about was answered as executed, whether a stop was
refused, and whether a call raised before the log row or before the row of the position was
written. `Tells` is the triple for programs whose outcome is to be read off that.
-/

namespace TradeWorker

/-! ## What the answers tell -/

/-- The calls that order at the broker. -/
def WorkerOp.orders : WorkerOp → Bool
  | .fx (.placeOrder _) | .fx (.closePosition ..) | .cx (.placeMarketOrder ..) => true
  | _ => false

/-- The calls whose exception ends nothing before the rows are written: the reads of the store
and the profit lookup, which swallow it, and the report of the outcome. The insert of the
entry's row goes by its columns. -/
def WorkerOp.spared : WorkerOp → Bool
  | .db (.updateStatus _) => false
  | .db _ => true
  | .cx (.getOrderRealizedPnl ..) => true
  | .host (.recordCycle _ _ _ event _) => event.outcome != .forceClosed
  | .host (.notifyChannel (.forceClosed ..)) => false
  | .host (.notifyChannel _) => true
  | _ => false

def WorkerOp.logs : WorkerOp → Bool
  | .db (.insertLog _) => true
  | _ => false

/-- The quantity asked for, where an exchange's answer names none. -/
def TradeResult.withVolume (quantity : ℚ) (result : TradeResult) : TradeResult :=
  { result with volume := result.volume <|> some quantity }

namespace Signal

variable (signal : Signal)

/-- The orders a signal is about: the opening one of an entry, any of an exit. -/
def owns (o : WorkerOp) : Bool :=
  if signal.action.isEntry then o.opens else o.orders

/-- The `NOT NULL` columns of the row are there; a missing price may be the signal's. -/
def storable (result : TradeResult) : Bool :=
  (Processor.resultTicket result).isSome && result.volume.isSome &&
    (Processor.repairPrice signal result).price.isSome

/-- A success; an entry's has to name what its row needs. -/
def accepts (result : TradeResult) : Bool :=
  result.success && (!signal.action.isEntry || signal.storable result)

/-- An order of the signal was answered as executed. The crypto executor puts the quantity in
where the exchange names none. -/
def confirms (o : WorkerOp) (r : Except Exn o.Ans) : Bool :=
  signal.owns o &&
    match o, r with
    | .fx (.placeOrder _), .ok result => signal.accepts result
    | .fx (.closePosition ..), .ok result => signal.accepts result
    | .cx (.placeMarketOrder _ _ quantity _ _), .ok result =>
        signal.accepts (TradeResult.withVolume quantity result)
    | _, _ => false

def refuses : (o : WorkerOp) → Except Exn o.Ans → Bool
  | .cx (.setStopLoss ..), .ok result => signal.action.isEntry && !TradeResult.success result
  | _, _ => false

end Signal

/-- What a handling has been told since its first order. -/
structure Told where
  sent : Bool := false
  confirmed : Bool := false
  refused : Bool := false
  logged : Bool := false
  /-- A call raised before the log row was written. -/
  silenced : Bool := false
  /-- One raised between the log row and the row of the position. -/
  unsettled : Bool := false
  deriving DecidableEq, Repr

def Told.hear (signal : Signal) (o : WorkerOp) (r : Except Exn o.Ans) (t : Told) : Told :=
  if t.sent || signal.owns o then
    let raised := !r.isOk && !o.spared
    { sent := true
      confirmed := t.confirmed || signal.confirms o r
      refused := t.refused || signal.refuses o r
      logged := t.logged || o.logs
      silenced := t.silenced || (raised && !t.logged)
      unsettled := t.unsettled || (raised && t.logged) }
  else t

/-- Any call may be made; what is remembered is what was told. -/
def listener (signal : Signal) : Prog.Monitor WorkerOp WorkerOp.Ans Exn Told where
  note := Told.hear signal
  allows _ _ := True

variable {signal : Signal} {α β : Type}

theorem owns_of_orders {o : WorkerOp} (ho : o.orders = false) : signal.owns o = false := by
  unfold Signal.owns
  split
  · cases o with
    | db | host => rfl
    | fx o => cases o <;> first | rfl | cases ho
    | cx o => cases o <;> first | rfl | cases ho
  · exact ho

/-- A call raised: from the first order on that is remembered. -/
def Told.raise (t : Told) : Told :=
  if t.sent then
    { t with silenced := t.silenced || !t.logged, unsettled := t.unsettled || t.logged }
  else t

/-- The log row is being written. -/
def Told.log (t : Told) : Told := if t.sent then { t with logged := true } else t

section Told

variable (t : Told)

@[simp] theorem Told.raise_confirmed : t.raise.confirmed = t.confirmed := by
  unfold Told.raise
  split <;> rfl

@[simp] theorem Told.log_sent : t.log.sent = t.sent := by
  unfold Told.log
  split <;> rfl

@[simp] theorem Told.log_confirmed : t.log.confirmed = t.confirmed := by
  unfold Told.log
  split <;> rfl

@[simp] theorem Told.log_refused : t.log.refused = t.refused := by
  unfold Told.log
  split <;> rfl

@[simp] theorem Told.log_silenced : t.log.silenced = t.silenced := by
  unfold Told.log
  split <;> rfl

@[simp] theorem Told.log_unsettled : t.log.unsettled = t.unsettled := by
  unfold Told.log
  split <;> rfl

variable {t}

/-- Before the log row an exception silences the handling. -/
theorem Told.raise_silenced (hsent : t.sent = true) (hlogged : t.logged = false) :
    t.raise.silenced = true := by
  simp [Told.raise, hsent, hlogged]

/-- Behind it the exception leaves the position unsettled. -/
theorem Told.log_raise (hsent : t.sent = true) :
    t.log.raise.silenced = t.silenced ∧ t.log.raise.unsettled = true := by
  simp [Told.raise, Told.log, hsent]

end Told

/-- An answer that tells nothing leaves what was told. -/
theorem hear_ok {o : WorkerOp} (howns : signal.owns o = false) (hlogs : o.logs = false)
    {a : o.Ans} (hrefuses : signal.refuses o (.ok a) = false) (t : Told) :
    t.hear signal o (.ok a) = t := by
  unfold Told.hear Signal.confirms
  cases t with
  | mk sent confirmed refused logged silenced unsettled =>
      cases sent <;> simp [howns, hlogs, hrefuses, Except.isOk, Except.toBool]

theorem refuses_error {o : WorkerOp} {e : Exn} : signal.refuses o (.error e) = false := by
  cases o with
  | db | fx | host => rfl
  | cx o => cases o <;> rfl

theorem confirms_error {o : WorkerOp} {e : Exn} : signal.confirms o (.error e) = false := by
  cases o with
  | db | host => simp [Signal.confirms]
  | fx o => cases o <;> simp [Signal.confirms]
  | cx o => cases o <;> simp [Signal.confirms]

theorem hear_error {o : WorkerOp} (howns : signal.owns o = false) (hspared : o.spared = false)
    (hlogs : o.logs = false) (e : Exn) (t : Told) : t.hear signal o (.error e) = t.raise := by
  unfold Told.hear Told.raise
  cases t with
  | mk sent confirmed refused logged silenced unsettled =>
      cases sent <;> simp [howns, hspared, hlogs, refuses_error, confirms_error, Except.isOk,
        Except.toBool]

/-- So does an exception that is caught. -/
theorem hear_spared {o : WorkerOp} (howns : signal.owns o = false) (hspared : o.spared = true)
    (hlogs : o.logs = false) (e : Exn) (t : Told) : t.hear signal o (.error e) = t := by
  unfold Told.hear
  cases t with
  | mk sent confirmed refused logged silenced unsettled =>
      cases sent <;> simp [howns, hspared, hlogs, refuses_error, confirms_error]

/-! ## Programs that are heard out -/

/-- Nothing has gone wrong, and the log row is still to come. -/
structure Told.Listening (t : Told) : Prop where
  silenced : t.silenced = false
  unsettled : t.unsettled = false
  logged : t.logged = false
  sent : t.confirmed = true → t.sent = true

/-- A value is in `G` with what was told; an exception was heard of, or no order was sent. -/
def Ends (G : Told → α → Prop) : Except Exn α → Told → Prop
  | .ok a, t => t.Listening ∧ G t a
  | .error _, t => t.unsettled = false ∧ t.logged = false ∧
      (t.confirmed = true → t.sent = true) ∧ (t.sent = true → t.silenced = true)

/-- From anything told in `F`, whatever the answers are. -/
structure Tells (signal : Signal) (F : Told → Prop) (p : Work α) (G : Told → α → Prop) :
    Prop where
  ends : ∀ t, t.Listening → F t → Prog.wp (listener signal).env (Ends G) p t

variable {F : Told → Prop} {G : Told → α → Prop} {H : Told → β → Prop}

theorem Tells.ret {a : α} (h : ∀ t, F t → G t a) : Tells signal F (.ret a) G :=
  ⟨fun t ht hF => ⟨ht, h t hF⟩⟩

theorem Tells.bind {p : Work α} {f : α → Work β} (hp : Tells signal F p G)
    (hf : ∀ a, Tells signal (fun t => G t a) (f a) H) : Tells signal F (p >>= f) H := by
  refine ⟨fun t ht hF => ?_⟩
  refine Prog.wp_bind_of (hp.ends t ht hF) ?_ ?_
  · exact fun a t' h => (hf a).ends t' h.1 h.2
  · exact fun e t' h => h

theorem Tells.mono {F' : Told → Prop} {G' : Told → α → Prop} {p : Work α}
    (hp : Tells signal F p G) (hF : ∀ t, F' t → F t) (hG : ∀ t a, G t a → G' t a) :
    Tells signal F' p G' := by
  refine ⟨fun t ht hF' => ?_⟩
  refine Prog.wp_mono (hp.ends t ht (hF t hF')) fun r t' h => ?_
  cases r with
  | ok a => exact ⟨h.1, hG t' a h.2⟩
  | error e => exact h

/-- A last step that only changes the value. -/
theorem Tells.map {p : Work α} {g : α → β} (hp : Tells signal F p G)
    (hg : ∀ t a, G t a → H t (g a)) : Tells signal F (p >>= fun a => .ret (g a)) H :=
  hp.bind fun a => Tells.ret fun t h => hg t a h

/-- One call. An exception ends the program, and is heard of unless nothing was ordered. -/
theorem tells_perform {o : WorkerOp} {G : Told → o.Ans → Prop} (hspared : o.spared = false)
    (hlogs : o.logs = false)
    (hok : ∀ t a, t.Listening → F t →
      (t.hear signal o (.ok a)).Listening ∧ G (t.hear signal o (.ok a)) a) :
    Tells signal F (Prog.perform o) G := by
  refine ⟨fun t ht hF => Prog.wp_perform.mpr ⟨trivial, ?_⟩⟩
  rintro r t' rfl
  cases r with
  | ok a => exact hok t a ht hF
  | error e =>
      show Ends G (.error e) (t.hear signal o (.error e))
      unfold Told.hear
      split
      · simp [Ends, ht.unsettled, ht.logged, hlogs, hspared, Except.isOk, Except.toBool]
      · rename_i hnone
        simp only [Bool.or_eq_true, not_or, Bool.not_eq_true] at hnone
        exact ⟨ht.unsettled, ht.logged, ht.sent, fun hsent => by simp [hnone.1] at hsent⟩

/-- A call that tells nothing by its answer. -/
theorem tells_unowned {o : WorkerOp} (howns : signal.owns o = false) (hspared : o.spared = false)
    (hlogs : o.logs = false) (hrefuses : ∀ a, signal.refuses o (.ok a) = false) :
    Tells signal F (Prog.perform o) fun t _ => F t := by
  refine tells_perform hspared hlogs fun t a ht hF => ?_
  rw [hear_ok howns hlogs (hrefuses a)]
  exact ⟨ht, hF⟩

theorem tells_plain {o : WorkerOp} (horders : o.orders = false) (hspared : o.spared = false)
    (hlogs : o.logs = false) (hrefuses : ∀ a, signal.refuses o (.ok a) = false) :
    Tells signal F (Prog.perform o) fun t _ => F t :=
  tells_unowned (owns_of_orders horders) hspared hlogs hrefuses

/-- A call whose exception is caught. -/
theorem tells_swallow {o : WorkerOp} {b : o.Ans} (horders : o.orders = false)
    (hspared : o.spared = true) (hlogs : o.logs = false)
    (hrefuses : ∀ a, signal.refuses o (.ok a) = false) :
    Tells signal F (Prog.tryCatch (Prog.perform o) fun _ => .ret b) fun t _ => F t := by
  refine ⟨fun t ht hF => Prog.wp_tryCatch.mpr (Prog.wp_perform.mpr ⟨trivial, ?_⟩)⟩
  have howns : signal.owns o = false := owns_of_orders horders
  rintro r t' rfl
  cases r with
  | ok a =>
      show Ends _ _ (t.hear signal o (.ok a))
      rw [hear_ok howns hlogs (hrefuses a)]
      exact ⟨ht, hF⟩
  | error e =>
      show Ends _ _ (t.hear signal o (.error e))
      rw [hear_spared howns hspared hlogs]
      exact ⟨ht, hF⟩

def unowned (signal : Signal) : Prog.Contract WorkerOp WorkerOp.Ans Exn where
  guard o := signal.owns o = false
  answers _ _ := True

/-- Before the first order nothing is remembered. -/
theorem Tells.after_unowned {Q : α → Prop} {p : Work α} {f : α → Work β}
    (hp : Prog.Sends (unowned signal) Q p)
    (hf : ∀ a, Q a → Tells signal (· = {}) (f a) H) :
    Tells signal (· = {}) (p >>= f) H := by
  constructor
  rintro t ht rfl
  refine Prog.wp_bind_of (hp.wp (E := (listener signal).env) (I := (· = ({} : Told))) ?_ rfl)
    ?_ ?_
  · rintro o t rfl ho
    refine ⟨trivial, ?_⟩
    rintro r t' rfl
    refine ⟨trivial, ?_⟩
    have hnone : signal.owns o = false := ho
    show Told.hear signal o r {} = {}
    simp [Told.hear, hnone]
  · rintro a t ⟨rfl, hQ⟩
    exact (hf a (hQ a rfl)).ends {} ht rfl
  · rintro e t ⟨rfl, -⟩
    exact ⟨rfl, rfl, (nomatch ·), (nomatch ·)⟩

def orderless : Prog.Contract WorkerOp WorkerOp.Ans Exn where
  guard o := o.orders = false
  answers _ _ := True

theorem orderless_of_aside {Q : α → Prop} {p : Work α} (hp : Prog.Sends aside Q p) :
    Prog.Sends orderless Q p := by
  refine hp.relax (fun o ho => ?_) fun _ _ _ => trivial
  cases o with
  | db | host => rfl
  | fx o => cases o <;> first | rfl | cases ho
  | cx o => cases o <;> first | rfl | cases ho

theorem unowned_of_orderless {Q : α → Prop} {p : Work α} (hp : Prog.Sends orderless Q p) :
    Prog.Sends (unowned signal) Q p :=
  hp.relax (fun _ ho => owns_of_orders ho) fun _ _ _ => trivial

theorem unowned_of_aside {Q : α → Prop} {p : Work α} (hp : Prog.Sends aside Q p) :
    Prog.Sends (unowned signal) Q p :=
  unowned_of_orderless (orderless_of_aside hp)

theorem unowned_of_consulting {Q : α → Prop} {p : Work α} (hp : Prog.Sends consulting Q p) :
    Prog.Sends (unowned signal) Q p :=
  unowned_of_aside (aside_of_consulting hp)

theorem unowned_sql (o : DbOp) : Prog.Sends (unowned signal) (fun _ => True) (sql o) :=
  Prog.sends_perform (owns_of_orders rfl) fun _ _ => trivial

theorem unowned_host (o : HostOp) : Prog.Sends (unowned signal) (fun _ => True) (host o) :=
  Prog.sends_perform (owns_of_orders rfl) fun _ _ => trivial

/-- Calls of which nothing is ever heard. -/
def unheard : Prog.Contract WorkerOp WorkerOp.Ans Exn where
  guard o := o.spared = true ∧ o.logs = false
  answers _ _ := True

theorem hear_unheard {o : WorkerOp} (hspared : o.spared = true) (hlogs : o.logs = false)
    (r : Except Exn o.Ans) (t : Told) : t.hear signal o r = t := by
  have howns : signal.owns o = false := by
    refine owns_of_orders ?_
    cases o with
    | db | host => rfl
    | fx o => cases hspared
    | cx o => cases o <;> first | rfl | cases hspared
  cases r with
  | error e => exact hear_spared howns hspared hlogs e t
  | ok a =>
      refine hear_ok howns hlogs ?_ t
      cases o with
      | db | fx | host => rfl
      | cx o => cases o <;> first | rfl | cases hspared

/-! ## In a run -/

section Runs

variable {σ : Type} {S : Prog.Server WorkerOp WorkerOp.Ans Exn σ}

/-- What a run tells, after what was told before it. -/
def heard (S : Prog.Server WorkerOp WorkerOp.Ans Exn σ) (signal : Signal) (p : Work α) (s : σ)
    (t : Told) : Told :=
  (listener signal).after t (Prog.dialogue S p s)

theorem heard_bind_ok {p : Work α} {f : α → Work β} {s s' : σ} {a : α}
    (h : Prog.run S p s = (.ok a, s')) (t : Told) :
    heard S signal (p >>= f) s t = heard S signal (f a) s' (heard S signal p s t) := by
  rw [heard, Prog.dialogue_bind_ok h]
  exact List.foldl_append

theorem heard_bind_error {p : Work α} {f : α → Work β} {s s' : σ} {e : Exn}
    (h : Prog.run S p s = (.error e, s')) (t : Told) :
    heard S signal (p >>= f) s t = heard S signal p s t := by
  rw [heard, heard, Prog.dialogue_bind_error h]

theorem heard_perform (o : WorkerOp) (s : σ) (t : Told) :
    heard S signal (Prog.perform o) s t = t.hear signal o (S o s).1 := by
  rw [heard, Prog.dialogue_perform]
  rfl

theorem Tells.run {p : Work α} (hp : Tells signal F p G) {t : Told} (ht : t.Listening)
    (hF : F t) (S : Prog.Server WorkerOp WorkerOp.Ans Exn σ) (s : σ) :
    Ends G (Prog.run S p s).1 (heard S signal p s t) :=
  (Prog.Monitor.accepts_of_wp _ (hp.ends t ht hF) S s).2

theorem heard_of_unowned {Q : α → Prop} {p : Work α} (hp : Prog.Sends (unowned signal) Q p)
    (s : σ) : heard S signal p s {} = {} := by
  have howns := hp.calls (S := S) (fun _ _ => trivial) s
  rw [Prog.calls_eq_map_dialogue] at howns
  rw [heard]
  generalize Prog.dialogue S p s = talk at howns
  induction talk with
  | nil => rfl
  | cons x talk ih =>
      obtain ⟨hfirst, hrest⟩ := List.forall_mem_cons.mp howns
      have hnone : signal.owns x.1 = false := hfirst
      have hsame : Told.hear signal x.1 x.2 {} = {} := by simp [Told.hear, hnone]
      exact (congrArg (List.foldl _ · talk) hsame).trans (ih hrest)

theorem heard_of_unheard {Q : α → Prop} {p : Work α} (hp : Prog.Sends unheard Q p) (s : σ)
    (t : Told) : heard S signal p s t = t := by
  induction p generalizing s with
  | ret a => rfl
  | raise e => rfl
  | call o k ih =>
      have hrest := ih _ (hp.2 (S o s).1 () trivial) (S o s).2
      show heard S signal (k (S o s).1) (S o s).2 (t.hear signal o (S o s).1) = t
      rw [hear_unheard hp.1.1 hp.1.2]
      exact hrest

/-- Once an order went out it stays so. -/
theorem sent_of_mem {talk : List ((o : WorkerOp) × Except Exn o.Ans)}
    {x : (o : WorkerOp) × Except Exn o.Ans} (hx : x ∈ talk) (howns : signal.owns x.1 = true)
    (t : Told) : ((listener signal).after t talk).sent = true := by
  have hstays : ∀ talk (t : Told), t.sent = true →
      ((listener signal).after t talk).sent = true := by
    intro talk
    induction talk with
    | nil => exact fun _ h => h
    | cons y talk ih => exact fun t h => ih _ (by simp [listener, Told.hear, h])
  induction talk generalizing t with
  | nil => cases hx
  | cons y talk ih =>
      rcases List.mem_cons.mp hx with rfl | hx
      · exact hstays talk _ (by simp [listener, Told.hear, howns])
      · exact ih hx _

/-- An order the signal is about, whatever its answer. -/
theorem sent_of_reaches {R : WorkerOp → σ → Prop} {p : Work α} {s : σ}
    (h : Prog.Reaches S R p s) (hR : ∀ o s, R o s → signal.owns o = true) (t : Told) :
    (heard S signal p s t).sent = true := by
  obtain ⟨x, hx, s', hmade⟩ := h.exists_mem
  exact sent_of_mem hx (hR _ _ hmade) t

end Runs

end TradeWorker
