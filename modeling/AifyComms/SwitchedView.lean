import AifyComms.OperationalView
import AifyComms.PyText
import Mathlib.Data.List.ReduceOption

/-!
How long an answer of the operational view may be kept, from `api_core/switched_view.py`:
`fresh_until` is the next moment at which a publisher of the agent's machine falls silent.

Times are microseconds. A receipt time is comms' own clock, whole seconds in UTC, so the
seconds that `report_age` multiplies are exact and the text order of `min` is time order.
-/

namespace AifyComms.SwitchedView
open AgentState OperationalView PyText

/-- The columns that place an agent. -/
structure AgentRow where
  machineId : String
  id : String

def placement (row : AgentRow) : String × String := (strip row.machineId, strip row.id)

/-- `_holders`: an agent comms cannot place is all unknown. -/
def agentHolders (row : AgentRow) (binding : Binding) : Holders :=
  if (placement row).1 = "" ∨ (placement row).2 = "" then ⟨[], true⟩
  else holdersOf binding (placement row).1 (placement row).2

/-- `eligibility_view`: no messaging fact but the run occupancy. -/
def eligibilityView (row : AgentRow) (binding : Binding) (runOccupied : Bool) :
    OperationalView.View :=
  commsView (agentHolders row binding) ⟨runOccupied, false, false, false, "", none⟩

/-- The last microsecond of the year 9999, past which `datetime` overflows. -/
def latestStamp : Int := 253402300799999999

/-- `_plus_ms`: the whole second it ends in, or none where the date overflows. -/
def plusMs (start : Int) (ms : Nat) : Option Int :=
  let moved := start + ms * 1000
  if latestStamp < moved then none else some (moved / 1000000 * 1000000)

/-- When the contact of a publisher that reports ends. -/
def contactEnd (publisher : Publisher) : Option Int :=
  match publisher.report with
  | some (some receivedAt, some everyMs) => plusMs receivedAt (missedReports * everyMs)
  | _ => none

def contactEnds (view : AgentState.View) (time : Stamp) (machine : String) : List (Option Int) :=
  (view.entries.filter fun entry =>
    entry.1.1 = machine && reportAge entry.2 time = .fresh).map fun entry => contactEnd entry.2

/-- `fresh_until`: the next contact expiry on the agent's machine, or none. -/
def freshUntil (row : AgentRow) (binding : Binding) : Option Stamp :=
  match binding.loss, binding.view with
  | false, some view =>
      if (placement row).1 = "" then none
      else
        let ends := contactEnds view binding.time (placement row).1
        -- An unreadable clock is read again at once.
        if none ∈ ends then some binding.time else (ends.reduceOption.min?).map some
  | _, _ => none

/-! ### What changes the holders -/

/-- The clock reaches the holders through the age of each report on the machine only. -/
theorem holdersOf_congr {view : AgentState.View} {machine : String} {first second : Stamp}
    (same : ∀ publisher, OnMachine view machine publisher →
      reportAge publisher first = reportAge publisher second) (agentId : String) :
    holdersOf ⟨some view, first, false⟩ machine agentId =
      holdersOf ⟨some view, second, false⟩ machine agentId := by
  have available : ∀ publisher, OnMachine view machine publisher →
      availabilityOf publisher first = availabilityOf publisher second := by
    intro publisher there
    unfold availabilityOf
    rw [same publisher there]
  have found : candidates view first machine agentId = candidates view second machine agentId := by
    unfold candidates
    refine List.map_congr_left ?_
    rintro ⟨⟨owner, inst⟩, publisher⟩ listed
    obtain ⟨entry, own⟩ := List.mem_filter.mp listed
    have own : owner = machine := by simpa using own
    subst own
    rw [available publisher ⟨inst, (Dict.get?_eq_some_iff _ _ _).mpr entry⟩]
  have kept : remaining (candidates view first machine agentId) first =
      remaining (candidates view second machine agentId) second := by
    rw [found]
    unfold remaining
    refine List.filter_congr ?_
    intro candidate listed
    obtain ⟨publisher, there, rfl⟩ := mem_candidates.1 listed
    have aged : reportAge (candidateOf agentId second publisher).publisher first =
        reportAge (candidateOf agentId second publisher).publisher second := same publisher there
    rw [aged]
  dsimp only [holdersOf]
  rw [kept]

theorem plusMs_le {start stop : Int} {ms : Nat} (reached : plusMs start ms = some stop) :
    stop ≤ start + ms * 1000 := by
  unfold plusMs at reached
  dsimp only at reached
  split at reached
  · cases reached
  · have same := Option.some.inj reached
    omega

theorem reportAge_reading {publisher : Publisher} {receipt time : Int} {everyMs : Nat}
    (report : publisher.report = some (some receipt, some everyMs))
    (interval : isReportInterval everyMs = true) (past : receipt ≤ time) :
    reportAge publisher (some time) =
      if time - receipt < missedReports * everyMs * 1000 then .fresh else .stale := by
  unfold reportAge
  rw [report]
  dsimp only
  rw [if_pos interval, if_neg (not_lt.mpr past)]

/-- A report that is fresh stays so until its contact ends; one that is not fresh stays what
it is, since no receipt is in the future. -/
theorem reportAge_until {publisher : Publisher} {start now : Int} (later : start ≤ now)
    (received : ∀ receipt every, publisher.report = some (some receipt, every) → receipt ≤ start)
    (before : reportAge publisher (some start) = .fresh →
      ∃ stop, contactEnd publisher = some stop ∧ now < stop) :
    reportAge publisher (some now) = reportAge publisher (some start) := by
  cases report : publisher.report with
  | none => simp only [reportAge, report]
  | some pair =>
      obtain ⟨receipt, every⟩ := pair
      cases every with
      | none => simp only [reportAge, report]
      | some everyMs =>
          by_cases interval : isReportInterval everyMs = true
          · cases receipt with
            | none => simp only [reportAge, report]
            | some receipt =>
                have past := received receipt _ report
                have first := reportAge_reading report interval past
                rw [reportAge_reading report interval (past.trans later), first]
                rw [first] at before
                by_cases fresh : start - receipt < missedReports * everyMs * 1000
                · rw [if_pos fresh] at before ⊢
                  obtain ⟨stop, ends, ahead⟩ := before rfl
                  rw [contactEnd, report] at ends
                  have bound := plusMs_le ends
                  push_cast at bound
                  rw [if_pos (by omega)]
                · rw [if_neg fresh, if_neg (by omega)]
          · simp only [reportAge, report, interval]
            rfl

/-! ### The next moment -/

/-- Up to `freshUntil`, every fresh report on the machine is still in contact. -/
theorem freshUntil_le {row : AgentRow} {view : AgentState.View} {start now : Int}
    (placed : (placement row).1 ≠ "") (later : start ≤ now)
    (before : ∀ stop, freshUntil row ⟨some view, some start, false⟩ = some (some stop) → now < stop)
    {publisher : Publisher} (there : OnMachine view (placement row).1 publisher)
    (fresh : reportAge publisher (some start) = .fresh) :
    ∃ stop, contactEnd publisher = some stop ∧ now < stop := by
  obtain ⟨inst, held⟩ := there
  have listed : contactEnd publisher ∈ contactEnds view (some start) (placement row).1 := by
    unfold contactEnds
    refine List.mem_map.mpr ⟨(((placement row).1, inst), publisher), List.mem_filter.mpr
      ⟨(Dict.get?_eq_some_iff _ _ _).mp held, ?_⟩, rfl⟩
    simp [fresh]
  dsimp only [freshUntil] at before
  rw [if_neg placed] at before
  by_cases overflow : none ∈ contactEnds view (some start) (placement row).1
  · rw [if_pos overflow] at before
    exact absurd (before start rfl) (not_lt.mpr later)
  · rw [if_neg overflow] at before
    cases ends : contactEnd publisher with
    | none =>
        rw [ends] at listed
        exact absurd listed overflow
    | some stop =>
        rw [ends] at listed
        refine ⟨stop, rfl, ?_⟩
        have kept : stop ∈ (contactEnds view (some start) (placement row).1).reduceOption :=
          List.reduceOption_mem_iff.mpr listed
        cases least : ((contactEnds view (some start) (placement row).1).reduceOption).min? with
        | none =>
            rw [List.min?_eq_none_iff.mp least] at kept
            cases kept
        | some first =>
            rw [least] at before
            exact (before first rfl).trans_le ((List.min?_eq_some_iff.mp least).2 stop kept)

/-- With no publication in between, every agent's holders and eligibility view stay what they
were when the binding was taken, up to `fresh_until`. -/
theorem fresh_until_sound (view : Option AgentState.View) (loss : Bool) (row : AgentRow)
    (start now : Int) (runOccupied : Bool)
    (received : ∀ mirrored, view = some mirrored → ∀ key publisher receipt every,
      mirrored.get? key = some publisher → publisher.report = some (some receipt, every) →
      receipt ≤ start)
    (later : start ≤ now)
    (before : ∀ stop, freshUntil row ⟨view, some start, loss⟩ = some (some stop) → now < stop) :
    agentHolders row ⟨view, some now, loss⟩ = agentHolders row ⟨view, some start, loss⟩ ∧
      eligibilityView row ⟨view, some now, loss⟩ runOccupied =
        eligibilityView row ⟨view, some start, loss⟩ runOccupied := by
  have holders : agentHolders row ⟨view, some now, loss⟩ =
      agentHolders row ⟨view, some start, loss⟩ := by
    unfold agentHolders
    split
    · rfl
    · rename_i placed
      rw [not_or] at placed
      cases loss with
      | true => rfl
      | false =>
          cases view with
          | none => rfl
          | some view =>
              refine holdersOf_congr ?_ _
              rintro publisher ⟨inst, held⟩
              refine reportAge_until later ?_ (freshUntil_le placed.1 later before ⟨inst, held⟩)
              exact fun receipt every => received view rfl _ publisher receipt every held
  refine ⟨holders, ?_⟩
  unfold eligibilityView
  rw [holders]

/-- Three publishers of one machine: two in contact, one silent. -/
def threePublishers : AgentState.View :=
  ((Dict.empty.set ("host", "a") (reporting 90000000 false [⟨"a", none, .idle, false⟩])).set
    ("host", "b") (reporting 85000000 false [])).set
    ("host", "c") (reporting 10000000 false [⟨"a", none, .working, true⟩])

/-- The publisher has no receipt after the limit. -/
def receivedBy (limit : Int) (publisher : Publisher) : Bool :=
  match publisher.report with
  | some (some receipt, _) => decide (receipt ≤ limit)
  | _ => true

theorem fresh_until_sound_three :
    freshUntil ⟨"host", "a"⟩ ⟨some threePublishers, some 100000000, false⟩ =
        some (some 115000000) ∧
      eligibilityView ⟨"host", "a"⟩ ⟨some threePublishers, some 114000000, false⟩ false =
        eligibilityView ⟨"host", "a"⟩ ⟨some threePublishers, some 100000000, false⟩ false := by
  have bound : freshUntil ⟨"host", "a"⟩ ⟨some threePublishers, some 100000000, false⟩ =
      some (some 115000000) := by
    decide
  refine ⟨bound, (fresh_until_sound _ false ⟨"host", "a"⟩ 100000000 114000000 false ?_ (by decide)
    ?_).2⟩
  · intro mirrored same key publisher receipt every held report
    have past : threePublishers.entries.all (fun entry => receivedBy 100000000 entry.2) = true := by
      decide
    rw [← Option.some.inj same] at held
    have checked := List.all_eq_true.mp past _ ((Dict.get?_eq_some_iff _ _ _).mp held)
    simpa [receivedBy, report] using checked
  · intro stop ends
    rw [bound] at ends
    cases ends
    decide

end AifyComms.SwitchedView
