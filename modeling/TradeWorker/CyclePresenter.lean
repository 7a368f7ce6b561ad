import TradeWorker.CycleStore
import TradeWorker.Presenter
import TradeWorker.RealizedSignals

/-!
# The message of a cycle

The body is rebuilt from the timeline every time, as three boxes: the position, the actions
and the settings. Each box is its own preformatted block, since a block cannot hold another.
-/

namespace TradeWorker

open Markup (Line Clean Keeps block isPlain plain bold code)
open Markup.Source (own input escaped)

namespace CyclePresenter

/-! ## Words and numbers -/

/-- `CycleStatusEnum`. -/
def statusLabel : Option CycleStatus → String
  | none => "PENDING"
  | some .failed => "FAILED"
  | some (.position .opened) => "OPENED"
  | some (.position .tp1) => "TP1"
  | some (.position .tp2) => "TP2"
  | some (.position .sl) => "SL"
  | some (.position .rSl) => "R_SL"
  | some (.position .flatted) => "FLATTED"
  | some (.position .forcedClosed) => "FORCED_CLOSED"
  | some (.position .terminalClosed) => "TERMINAL_CLOSED"
  | some (.position .rejected) => "REJECTED"

/-- `_STATUS_ICONS`. -/
def statusIcon : Option CycleStatus → String
  | none => icons.unknown
  | some .failed => icons.failed
  | some (.position .rejected) => icons.rejected
  | some (.position s) => if s.isActive then icons.cycleOpened else icons.cycleClosed

/-- `_ACTION_ICONS`. -/
def actionIcon (action : String) : String :=
  if action = "LONG" then icons.long
  else if action = "SHORT" then icons.short
  else if action = "TP1" then icons.tp1
  else if action = "TP2" then icons.tp2
  else if action = "SL" then icons.stopLoss
  else if action = "R_SL" then icons.shield
  else if action = "FLAT" then icons.flat
  else icons.signal

/-- `_OUTCOME_ICONS`. -/
def outcomeIcon : CycleOutcome → String
  | .filled => icons.success
  | .failed => icons.failed
  | .rejected => icons.rejected
  | .forceClosed => icons.warning
  | .unprotectedClosed => icons.shield
  | .adminFlat => icons.admin
  | .reconciled => icons.sync
  | .platformClosed => icons.broker

/-- `_OUTCOME_LABELS`. -/
def outcomeLabel : CycleOutcome → String
  | .filled => "Filled"
  | .failed => "Failed"
  | .rejected => "Rejected"
  | .forceClosed => "Force Closed"
  | .unprotectedClosed => "Unprotected — Closed"
  | .adminFlat => "Admin FLAT"
  | .reconciled => "Reconciled"
  | .platformClosed => "Closed on Platform"

/-- `_num`: to eight decimals, unless that leaves nothing of the number. -/
def num : Option ℚ → String
  | none => "—"
  | some x =>
      if x.den = 1 then toString x.num
      else if pyRound (|x| * 10 ^ 8) = 0 then numText x
      else rstripChar '.' (rstripChar '0' (fixedText 8 x))

example : [2340, 13 / 125, 1 / 10 ^ 9].map (fun x => num (some x)) =
    ["2340", "0.104", "1e-09"] := by decide +kernel

def volume (value : Option ℚ) (unit : String) (auto : Bool) : String :=
  match value with
  | none => "—"
  | some x => num (some x) ++ (if unit = "" then "" else " " ++ unit) ++
      if auto then " " ++ icons.gear else ""

def volumeUnit (settings : Option PresenterSettings) : String :=
  if settings.any (·.marketType = .forex) then "lot" else ""

/-! ## Times -/

/-- `_display_tz`, in hours; nothing real is outside of fourteen. -/
def displayTz (settings : Option PresenterSettings) : ℚ :=
  match settings.bind (·.telegramMessageTimezone) with
  | none => 0
  | some hours => if -14 ≤ hours ∧ hours ≤ 14 then hours else 0

def tzLabel (tz : ℚ) : String :=
  let total := ⌊tz * 60⌋
  if total = 0 then "UTC"
  else
    let minutes := total.natAbs % 60
    "UTC" ++ (if 0 < total then "+" else "-") ++ toString (total.natAbs / 60) ++
      if minutes = 0 then "" else ":" ++ twoDigits minutes

/-- The year, month and day of a day counted from 1970-01-01. -/
def civil (day : Int) : Int × Nat × Nat :=
  -- years are counted from a March, so that a leap day is the last of its year
  let shifted := day + 719468
  let era := shifted / 146097
  let dayOfEra := shifted % 146097
  let yearOfEra :=
    (dayOfEra - dayOfEra / 1460 + dayOfEra / 36524 - dayOfEra / 146096) / 365
  let dayOfYear := dayOfEra - (365 * yearOfEra + yearOfEra / 4 - yearOfEra / 100)
  let shiftedMonth := (5 * dayOfYear + 2) / 153
  let month := if shiftedMonth < 10 then shiftedMonth + 3 else shiftedMonth - 9
  (yearOfEra + era * 400 + (if month ≤ 2 then 1 else 0), month.toNat,
    (dayOfYear - (153 * shiftedMonth + 2) / 5 + 1).toNat)

/-- `_timestamp`, of a time in seconds. -/
def timestamp (t tz : ℚ) : String :=
  let localTime := ⌊t + tz * 3600⌋
  let date := civil (localTime / 86400)
  let second := (localTime % 86400).toNat
  toString date.1 ++ "-" ++ twoDigits date.2.1 ++ "-" ++ twoDigits date.2.2 ++ " " ++
    twoDigits (second / 3600) ++ ":" ++ twoDigits (second / 60 % 60) ++ ":" ++
    twoDigits (second % 60) ++ " (" ++ tzLabel tz ++ ")"

example : timestamp 1709210096 7 = "2024-02-29 19:34:56 (UTC+7)" := by decide +kernel

/-! ## The boxes -/

def joined (parts : List (List Markup.Source)) : Line := [plain ([own " | "].intercalate parts)]

def joinedLines (parts : List (List Markup.Source)) : List Line :=
  if parts = [] then [] else [joined parts]

def entryEvent (events : List CycleEvent) : Option CycleEvent :=
  (events.find? fun e => e.action = "LONG" ∨ e.action = "SHORT").or events.head?

def positionBox (cycle : CycleView) (unit : String) : List Line :=
  let entry := entryEvent cycle.events
  let action := (entry.map (·.action)).getD ""
  let headline : Line :=
    if action = "" then [bold [escaped cycle.symbol]]
    else [plain [own (actionIcon action), own " "],
      bold [input action, own " ", escaped cycle.symbol]]
  let levels := [("SL", entry.bind (·.sl)), ("TP1", entry.bind (·.tp1)),
    ("TP2", entry.bind (·.tp2))].filterMap fun level =>
      level.2.map fun x => [own level.1, own ": ", own (num (some x))]
  let risk := (entry.bind (·.riskPercent)).map fun x =>
    [own "Risk: ", own (num (some x)), own "%",
      own (if entry.any (·.riskCustom) then " " ++ icons.gear else "")]
  let scaled := if entry.any (·.isScalePosition) then some [own "Scaled ", own icons.gear] else none
  let ticket := (text? (entry.bind (·.refSourceId))).map fun ref => [own "Ticket: ", escaped ref]
  [[plain [own "[", own (statusIcon cycle.status), own " "],
      bold [own (statusLabel cycle.status)], plain [own "]"]],
    headline, [plain [own divider]],
    joined [[own "Price: ", own (num (entry.bind (·.price)))],
      [own "Volume: ", own (volume (entry.bind (·.volume)) unit (entry.any (·.autoVolume)))]]] ++
    joinedLines levels ++ joinedLines ([risk, scaled, ticket].filterMap id) ++
    (if cycle.events.any (·.isClose) then
      [BaseMessagePresenter.pnlLine (realizedTotal cycle.events) (own "Realized")] else []) ++
    [[plain [own divider]]]

/-- The reason line of `_action_block`; `-1` is the worker's own mark. -/
def reasonLine (event : CycleEvent) : List Line :=
  match text? event.reason with
  | none => []
  | some reason =>
      if event.outcome = .filled then []
      else
        let code := match event.gatewayReturnCode with
          | none => ""
          | some code => if code = 0 ∨ code = -1 then "" else " (Code " ++ toString code ++ ")"
        [[plain [own "Reason: ", escaped reason, own code]]]

/-- The line of what a close booked, under the event's own label. -/
def profitLine (event : CycleEvent) : List Line :=
  if event.profit.isSome ∨ event.isClose then
    [BaseMessagePresenter.pnlLine event.profit
      (input (if event.profitLabel = "" then "PnL" else event.profitLabel))]
  else []

def actionBlock (unit : String) (tz : ℚ) (event : CycleEvent) : List Line :=
  let price := event.price.map fun x => [own "Price: ", own (num (some x))]
  let tp1 := (event.tp1Percent.map fun x => " (TP1 " ++ num (some x) ++ "%)").getD ""
  let volume := event.volume.map fun x =>
    [own "Volume: ", own (volume (some x) unit event.autoVolume), own tp1]
  let ticket := (text? event.refId).map fun ref => [own "Ticket: ", escaped ref]
  [[plain [own (outcomeIcon event.outcome), own " "], bold [input event.action],
      plain [own " — ", own (outcomeLabel event.outcome)]]] ++
    joinedLines ([price, volume, ticket].filterMap id) ++ reasonLine event ++
    profitLine event ++ [[plain [own (timestamp event.timestamp tz)]]]

/-- `_actions_box`: a blank line between the blocks. -/
def actionsBox (unit : String) (tz : ℚ) (events : List CycleEvent) : List Line :=
  [[plain [own icons.signal, own " "], bold [own "Actions"]], [plain [own divider]]] ++
    [[]].intercalate (events.map (actionBlock unit tz)) ++ [[plain [own divider]]]

/-- `_settings_box` but for the footer. -/
def settingsBox (cycle : CycleView) (settings : Option PresenterSettings) : List Line :=
  [[plain [own icons.gear, own " "], bold [own "Settings"]]] ++
    BaseMessagePresenter.overrideSection settings ++
    settings.toList.flatMap (fun s => BaseMessagePresenter.maxOpenOrdersLine s ++
      BaseMessagePresenter.multiStrategyLine s ++ BaseMessagePresenter.multiPositionsLine s) ++
    [[plain [own divider]],
      field "Strategy" [escaped (if cycle.strategy = "" then "—" else cycle.strategy)],
      [plain [own "Signal: "],
        code [escaped (if cycle.signalUxid = "" then "—" else cycle.signalUxid)]]]

def boxBreak : List Char := "\n</pre><pre>".toList

def formatCycleMessage (cycle : CycleView) (settings : Option PresenterSettings)
    (footer : String) : List Char :=
  let unit := volumeUnit settings
  boxBreak.intercalate ([block (positionBox cycle unit) []] ++
    (if cycle.events = [] then []
      else [block (actionsBox unit (displayTz settings) cycle.events) []]) ++
    [block (settingsBox cycle settings)
      (if footer = "" then [] else [Markup.trim (· = '\n') footer.toList])])

def lines (cycle : CycleView) (settings : Option PresenterSettings) : List Line :=
  let unit := volumeUnit settings
  positionBox cycle unit ++
    (if cycle.events = [] then [] else actionsBox unit (displayTz settings) cycle.events) ++
    settingsBox cycle settings

/-! ## What the boxes hold -/

section Takes

@[simp] theorem clean_statusLabel (status : Option CycleStatus) :
    Clean (statusLabel status).toList := by
  rcases status with _ | _ | s
  · decide
  · decide
  · cases s <;> decide

@[simp] theorem clean_statusIcon (status : Option CycleStatus) :
    Clean (statusIcon status).toList := by
  rcases status with _ | _ | s
  · decide
  · decide
  · cases s <;> decide

@[simp] theorem clean_actionIcon (action : String) : Clean (actionIcon action).toList := by
  unfold actionIcon
  split_ifs <;> decide

@[simp] theorem clean_outcomeIcon (outcome : CycleOutcome) :
    Clean (outcomeIcon outcome).toList := by
  cases outcome <;> decide

@[simp] theorem clean_outcomeLabel (outcome : CycleOutcome) :
    Clean (outcomeLabel outcome).toList := by
  cases outcome <;> decide

@[simp] theorem clean_num (x : Option ℚ) : Clean (num x).toList := by
  cases x with
  | none => decide
  | some x =>
      unfold num
      dsimp only
      split_ifs <;> simp

theorem clean_volumeUnit (settings : Option PresenterSettings) :
    Clean (volumeUnit settings).toList := by
  unfold volumeUnit
  split_ifs <;> decide

theorem clean_volume (value : Option ℚ) {unit : String} (hunit : Clean unit.toList)
    (auto : Bool) : Clean (volume value unit auto).toList := by
  cases value with
  | none => exact (by decide : Clean "—".toList)
  | some x =>
      unfold volume
      dsimp only
      split_ifs <;> simp [isPlain, hunit, icons.gear]

@[simp] theorem clean_tzLabel (tz : ℚ) : Clean (tzLabel tz).toList := by
  unfold tzLabel
  dsimp only
  split_ifs <;> simp [isPlain]

@[simp] theorem clean_timestamp (t tz : ℚ) : Clean (timestamp t tz).toList := by
  simp [timestamp, isPlain]

theorem joined_takes {parts : List (List Markup.Source)}
    (h : ∀ part ∈ parts, ∀ piece ∈ part, piece.Settled) : Takes [joined parts] [] :=
  Takes.settled (Markup.Source.settled_intercalate (by simp [isPlain]) h)

theorem joinedLines_takes {parts : List (List Markup.Source)}
    (h : ∀ part ∈ parts, ∀ piece ∈ part, piece.Settled) : Takes (joinedLines parts) [] := by
  unfold joinedLines
  split_ifs
  · exact Takes.nil
  · exact joined_takes h

/-- The label an event's profit is shown under, if it is shown. -/
def profitTexts (event : CycleEvent) : List String :=
  if event.profit.isSome ∨ event.isClose then
    [if event.profitLabel = "" then "PnL" else event.profitLabel]
  else []

theorem profitLine_takes (event : CycleEvent) : Takes (profitLine event) (profitTexts event) := by
  unfold profitLine profitTexts
  split_ifs
  · exact ⟨by simp, by simp⟩
  · exact ⟨by simp, by simp⟩
  · exact Takes.nil

/-- What the block of an event takes as it stands. -/
def eventTexts (event : CycleEvent) : List String := event.action :: profitTexts event

/-- The action the headline shows, if there is one. -/
def headlineTexts (events : List CycleEvent) : List String :=
  let action := ((entryEvent events).map (·.action)).getD ""
  if action = "" then [] else [action]

theorem positionBox_takes (cycle : CycleView) {unit : String} (hunit : Clean unit.toList) :
    Takes (positionBox cycle unit) (headlineTexts cycle.events) := by
  have hvolume (value : Option ℚ) (auto : Bool) := clean_volume value hunit auto
  unfold positionBox headlineTexts
  generalize entryEvent cycle.events = entry
  dsimp only
  have hstatus : Takes [[plain [own "[", own (statusIcon cycle.status), own " "],
      bold [own (statusLabel cycle.status)], plain [own "]"]]] [] :=
    ⟨by simp [isPlain], by simp⟩
  have hprice : Takes [joined [[own "Price: ", own (num (entry.bind (·.price)))],
      [own "Volume: ", own (volume (entry.bind (·.volume)) unit
        (entry.any (·.autoVolume)))]]] [] :=
    joined_takes (by simp [isPlain, hvolume])
  refine Takes.append_own (Takes.append_own (Takes.append_own (Takes.append_own ?_ ?_) ?_) ?_)
    divider_takes
  · generalize (entry.map (·.action)).getD "" = action
    have hrest := divider_takes.append_own hprice
    split_ifs with h
    · have hline : Takes [[bold [escaped cycle.symbol]]] [] := ⟨by simp, by simp⟩
      exact (hstatus.append_own hline).append_own hrest
    · have hline : Takes [[plain [own (actionIcon action), own " "],
          bold [input action, own " ", escaped cycle.symbol]]] [action] :=
        ⟨by simp [isPlain], by simp⟩
      exact (hstatus.append hline).append_own hrest
  · refine joinedLines_takes fun part hpart => ?_
    obtain ⟨level, hlevel, hmap⟩ := List.mem_filterMap.mp hpart
    obtain ⟨x, -, rfl⟩ := Option.map_eq_some_iff.mp hmap
    have hname : Clean level.1.toList := by
      simp only [List.mem_cons, List.not_mem_nil, or_false] at hlevel
      rcases hlevel with rfl | rfl | rfl <;> simp [isPlain]
    simp [hname, isPlain]
  · refine joinedLines_takes fun part hpart => ?_
    obtain ⟨extra, hextra, rfl⟩ := List.mem_filterMap.mp hpart
    simp only [List.mem_cons, List.not_mem_nil, or_false] at hextra
    rcases hextra with hrisk | hscaled | hticket
    · obtain ⟨x, -, rfl⟩ := Option.map_eq_some_iff.mp hrisk.symm
      split_ifs <;> simp [isPlain, icons.gear]
    · split_ifs at hscaled
      cases hscaled
      simp [isPlain, icons.gear]
    · obtain ⟨ref, -, rfl⟩ := Option.map_eq_some_iff.mp hticket.symm
      simp [isPlain]
  · split_ifs
    · exact ⟨by simp [isPlain], by simp⟩
    · exact Takes.nil

theorem reasonLine_takes (event : CycleEvent) : Takes (reasonLine event) [] := by
  unfold reasonLine
  split
  · exact Takes.nil
  · split_ifs
    · exact Takes.nil
    · refine Takes.settled ?_
      rcases event.gatewayReturnCode with _ | code
      · simp [isPlain]
      · dsimp only
        split_ifs <;> simp [isPlain]

theorem actionBlock_takes {unit : String} (hunit : Clean unit.toList) (tz : ℚ)
    (event : CycleEvent) : Takes (actionBlock unit tz event) (eventTexts event) := by
  unfold actionBlock
  dsimp only
  show Takes _ ([event.action] ++ profitTexts event)
  refine Takes.append_own (Takes.append (Takes.append_own (Takes.append_own ?_ ?_)
    (reasonLine_takes event)) (profitLine_takes event)) (Takes.settled (by simp))
  · exact ⟨by simp [isPlain], by simp⟩
  · refine joinedLines_takes fun part hpart => ?_
    obtain ⟨detail, hdetail, rfl⟩ := List.mem_filterMap.mp hpart
    simp only [List.mem_cons, List.not_mem_nil, or_false] at hdetail
    rcases hdetail with hprice | hvolume | hticket
    · obtain ⟨x, -, rfl⟩ := Option.map_eq_some_iff.mp hprice.symm
      simp [isPlain]
    · obtain ⟨x, -, rfl⟩ := Option.map_eq_some_iff.mp hvolume.symm
      have htp1 : Clean ((event.tp1Percent.map fun x =>
          " (TP1 " ++ num (some x) ++ "%)").getD "").toList := by
        cases event.tp1Percent <;> simp [isPlain]
      simp [isPlain, htp1, clean_volume (some x) hunit event.autoVolume]
    · obtain ⟨ref, -, rfl⟩ := Option.map_eq_some_iff.mp hticket.symm
      simp [isPlain]

theorem actionsBox_takes {unit : String} (hunit : Clean unit.toList) (tz : ℚ)
    (events : List CycleEvent) :
    Takes (actionsBox unit tz events) (events.flatMap eventTexts) := by
  have hheading : Takes [[plain [own icons.signal, own " "], bold [own "Actions"]],
      [plain [own divider]]] [] :=
    ⟨by simp [isPlain, icons.signal, divider], by simp⟩
  have hblocks : Takes ([[]].intercalate (events.map (actionBlock unit tz)))
      (events.flatMap eventTexts) :=
    Takes.intercalate ⟨by simp, rfl⟩ (actionBlock_takes hunit tz) events
  exact (hheading.append hblocks).append_own divider_takes

theorem settingsBox_takes (cycle : CycleView) (settings : Option PresenterSettings) :
    Takes (settingsBox cycle settings) [] := by
  have hheading : Takes [[plain [own icons.gear, own " "], bold [own "Settings"]]] [] :=
    ⟨by simp [isPlain, icons.gear], by simp⟩
  have hsettings : Takes (settings.toList.flatMap fun s =>
      BaseMessagePresenter.maxOpenOrdersLine s ++ BaseMessagePresenter.multiStrategyLine s ++
        BaseMessagePresenter.multiPositionsLine s) [] := by
    cases settings with
    | none => exact Takes.nil
    | some s =>
        simpa using ((BaseMessagePresenter.maxOpenOrdersLine_takes s).append_own
          (BaseMessagePresenter.multiStrategyLine_takes s)).append_own
            (BaseMessagePresenter.multiPositionsLine_takes s)
  have htrade : Takes [[plain [own divider]],
      field "Strategy" [escaped (if cycle.strategy = "" then "—" else cycle.strategy)],
      [plain [own "Signal: "],
        code [escaped (if cycle.signalUxid = "" then "—" else cycle.signalUxid)]]] [] :=
    ⟨by simp [isPlain, divider], by simp⟩
  exact ((hheading.append_own (BaseMessagePresenter.overrideSection_takes settings)).append_own
    hsettings).append_own htrade

/-- What the boxes take as it stands: the action of the headline and the texts of every
event. -/
theorem lines_take (cycle : CycleView) (settings : Option PresenterSettings) :
    Takes (lines cycle settings)
      (headlineTexts cycle.events ++ cycle.events.flatMap eventTexts) := by
  have hunit := clean_volumeUnit settings
  refine Takes.append_own ((positionBox_takes cycle hunit).append ?_)
    (settingsBox_takes cycle settings)
  split_ifs with h
  · rw [h]
    exact Takes.nil
  · exact actionsBox_takes hunit (displayTz settings) cycle.events

/-- Every event shows its action, also the one the headline shows. -/
theorem clean_texts {events : List CycleEvent}
    (h : ∀ s ∈ events.flatMap eventTexts, Clean s.toList) :
    ∀ s ∈ headlineTexts events ++ events.flatMap eventTexts, Clean s.toList := by
  have hentry : ∀ event ∈ entryEvent events, event ∈ events := by
    intro event hevent
    rw [entryEvent, Option.mem_def, Option.or_eq_some_iff] at hevent
    rcases hevent with hfind | ⟨-, hhead⟩
    · exact List.mem_of_find?_eq_some hfind
    · exact List.mem_of_mem_head? hhead
  intro s hs
  rcases List.mem_append.mp hs with hheadline | hevents
  · unfold headlineTexts at hheadline
    rcases hentryEvent : entryEvent events with _ | event
    · rw [hentryEvent] at hheadline
      cases hheadline
    · rw [hentryEvent] at hheadline
      simp only [Option.map_some, Option.getD_some] at hheadline
      split_ifs at hheadline with hempty
      · cases hheadline
      · rw [List.mem_singleton.mp hheadline]
        refine h event.action (List.mem_flatMap.mpr ⟨event, hentry event hentryEvent, ?_⟩)
        exact List.mem_cons_self
  · exact h s hevents

theorem keeps_boxBreak : Keeps [.pre] boxBreak := rfl

/-- The boxes follow each other inside of the block around them. -/
theorem formatCycleMessage_keeps {cycle : CycleView} {footer : String}
    (settings : Option PresenterSettings) (hfooter : Keeps [.pre] footer.toList)
    (hclean : ∀ s ∈ cycle.events.flatMap eventTexts, Clean s.toList) :
    Keeps [.pre] (formatCycleMessage cycle settings footer) := by
  have hlines := lines_take cycle settings
  have hunescaped : ∀ line ∈ lines cycle settings, ∀ s ∈ line.unescaped, Clean s.toList := by
    intro line hline s hs
    refine clean_texts hclean s ?_
    rw [← hlines.unescaped]
    exact List.mem_flatMap.mpr ⟨line, hline, hs⟩
  have hbox (box : List Line) (hbox : box ⊆ lines cycle settings) (tail : List (List Char))
      (htail : ∀ cs ∈ tail, Keeps [.pre] cs) : Keeps [.pre] (block box tail) :=
    Markup.block_keeps (fun line hline => hlines.sound line (hbox hline)) htail
      fun line hline => hunescaped line (hbox hline)
  have htrim : Keeps [.pre] (Markup.trim (· = '\n') footer.toList) := by
    refine hfooter.trim fun c hc => ?_
    rw [of_decide_eq_true hc]
    decide
  refine keeps_boxBreak.intercalate fun part hpart => ?_
  simp only [List.mem_append, List.mem_singleton] at hpart
  rcases hpart with (rfl | hactions) | rfl
  · refine hbox _ ?_ _ (by simp)
    exact fun line hline => List.mem_append_left _ (List.mem_append_left _ hline)
  · split_ifs at hactions with hempty
    · cases hactions
    · rw [List.mem_singleton.mp hactions]
      refine hbox _ ?_ _ (by simp)
      intro line hline
      refine List.mem_append_left _ (List.mem_append_right _ ?_)
      rwa [if_neg hempty]
  · refine hbox _ (fun line hline => List.mem_append_right _ hline) _ ?_
    split_ifs
    · simp
    · simpa using htrim

end Takes

end CyclePresenter

end TradeWorker
