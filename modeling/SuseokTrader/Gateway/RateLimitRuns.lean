import SuseokTrader.Gateway.RateLimit

/-!
# The broker calls of a run

No window of a second or an hour holds more calls that returned than its cap,
calls of one type keep their interval, and a refusal lasts for the wait it
reports, but for a wait under a millisecond, which is reported as one.
-/

namespace SuseokTrader

/-! ## Decisions -/

namespace Governor

variable {settings : RateLimitSettings} {governor : Governor} {commandType : String}
  {now limit : Rat}

theorem longest_eq_none {waits : List (Rat × String)} : longest waits = none ↔ waits = [] := by
  cases waits with
  | nil => simp [longest]
  | cons wait rest =>
      simp only [longest]
      split
      · split <;> simp
      · simp

theorem longest_mem {waits : List (Rat × String)} {wait : Rat × String}
    (isLongest : longest waits = some wait) : wait ∈ waits := by
  induction waits with
  | nil => cases isLongest
  | cons first rest ih =>
      simp only [longest] at isLongest
      split at isLongest
      · next other found =>
          split at isLongest
          · cases isLongest
            exact List.mem_cons_of_mem first (ih found)
          · cases isLongest
            exact List.mem_cons_self
      · cases isLongest
        exact List.mem_cons_self

theorem check_of_weightless (weightless : settings.weight commandType ≤ 0) :
    governor.check settings commandType now =
      (governor, { allowed := true, waitTimeSec := 0, reason := "" }) := by
  rw [check, if_pos weightless]

theorem waits_of_allowed (weighs : 0 < settings.weight commandType)
    (allowed : (governor.check settings commandType now).2.allowed = true) :
    (governor.trim now).waits settings commandType now = [] := by
  rw [check, if_neg (not_le.mpr weighs)] at allowed
  dsimp only at allowed
  split at allowed
  · next none => simpa using longest_eq_none.mp none
  · cases allowed

theorem check_state (weighs : 0 < settings.weight commandType) :
    (governor.check settings commandType now).1 = governor.trim now := by
  rw [check, if_neg (not_le.mpr weighs)]

theorem mem_waits {wait : Rat × String} :
    wait ∈ governor.waits settings commandType now ↔ 0 < wait.1 ∧
      ((governor.intervalWait settings commandType now = some wait.1 ∧
          wait.2 = "type_min_interval") ∨
        (windowWait governor.secondCalls 1 settings.secondCap (settings.weight commandType) now =
            some wait.1 ∧ wait.2 = "global_per_second") ∨
        (windowWait governor.hourlyCalls hourSec settings.hourCap (settings.weight commandType)
            now = some wait.1 ∧ wait.2 = "hourly_rolling_limit")) := by
  rcases wait with ⟨left, reason⟩
  simp only [waits, List.mem_filter, List.mem_filterMap, List.mem_cons, List.not_mem_nil, or_false,
    decide_eq_true_eq, Option.map_eq_some_iff, Prod.mk.injEq]
  constructor
  · rintro ⟨⟨source, isSource, length, found, rfl, rfl⟩, positive⟩
    refine ⟨positive, ?_⟩
    rcases isSource with rfl | rfl | rfl
    · exact Or.inl ⟨found, rfl⟩
    · exact Or.inr (Or.inl ⟨found, rfl⟩)
    · exact Or.inr (Or.inr ⟨found, rfl⟩)
  · rintro ⟨positive, ⟨found, rfl⟩ | ⟨found, rfl⟩ | ⟨found, rfl⟩⟩
    · exact ⟨⟨_, Or.inl rfl, left, found, rfl, rfl⟩, positive⟩
    · exact ⟨⟨_, Or.inr (Or.inl rfl), left, found, rfl, rfl⟩, positive⟩
    · exact ⟨⟨_, Or.inr (Or.inr rfl), left, found, rfl, rfl⟩, positive⟩

/-! ## Refusals -/

def Full (calls : List CallMark) (length cap weight limit : Rat) : Prop :=
  ∃ first rest, calls = first :: rest ∧ cap < Window.total CallMark.weight calls + weight ∧
    limit ≤ first.time + length

/-- Something keeps the type waiting until the limit. -/
def Blocks (settings : RateLimitSettings) (governor : Governor) (commandType : String)
    (limit : Rat) : Prop :=
  (∃ lastAt, governor.lastCallAt commandType = some lastAt ∧
      limit ≤ lastAt + settings.interval commandType) ∨
    Full governor.secondCalls 1 settings.secondCap (settings.weight commandType) limit ∨
    Full governor.hourlyCalls hourSec settings.hourCap (settings.weight commandType) limit

variable {calls : List CallMark} {length cap weight : Rat}

theorem full_of_windowWait {wait : Rat}
    (waits : windowWait calls length cap weight now = some wait) :
    Full calls length cap weight (now + wait) := by
  cases calls with
  | nil => cases waits
  | cons first rest =>
      simp only [windowWait] at waits
      split at waits
      · next noRoom =>
          cases waits
          exact ⟨first, rest, rfl, noRoom, by linarith⟩
      · cases waits

theorem Full.windowWait (full : Full calls length cap weight limit) (before : now < limit) :
    ∃ wait, 0 < wait ∧ windowWait calls length cap weight now = some wait := by
  rcases full with ⟨first, rest, rfl, noRoom, lasts⟩
  refine ⟨first.time + length - now, by linarith, ?_⟩
  simp [Governor.windowWait, noRoom]

theorem Full.expire (full : Full calls length cap weight limit) (before : now < limit) :
    Window.expire CallMark.time (now - length) calls = calls := by
  rcases full with ⟨first, rest, rfl, _, lasts⟩
  exact Window.expire_eq_self rfl (by linarith)

theorem Blocks.trim (blocks : Blocks settings governor commandType limit) (before : now < limit) :
    Blocks settings (governor.trim now) commandType limit := by
  rcases blocks with recent | second | hour
  · exact Or.inl recent
  · refine Or.inr (Or.inl ?_)
    rw [Governor.trim, second.expire before]
    exact second
  · refine Or.inr (Or.inr ?_)
    rw [Governor.trim, hour.expire before]
    exact hour

theorem Blocks.refuses (blocks : Blocks settings governor commandType limit)
    (weighs : 0 < settings.weight commandType) (before : now < limit) :
    (governor.check settings commandType now).2.allowed = false := by
  have waiting : (governor.trim now).waits settings commandType now ≠ [] := by
    rcases blocks.trim before with ⟨lastAt, isLast, lasts⟩ | second | hour
    · have isWait : (settings.interval commandType - (now - lastAt), "type_min_interval") ∈
          (governor.trim now).waits settings commandType now :=
        mem_waits.mpr ⟨by dsimp only; linarith, Or.inl ⟨by simp [intervalWait, isLast], rfl⟩⟩
      exact List.ne_nil_of_mem isWait
    · rcases second.windowWait before with ⟨wait, positive, found⟩
      have isWait : (wait, "global_per_second") ∈
          (governor.trim now).waits settings commandType now :=
        mem_waits.mpr ⟨positive, Or.inr (Or.inl ⟨found, rfl⟩)⟩
      exact List.ne_nil_of_mem isWait
    · rcases hour.windowWait before with ⟨wait, positive, found⟩
      have isWait : (wait, "hourly_rolling_limit") ∈
          (governor.trim now).waits settings commandType now :=
        mem_waits.mpr ⟨positive, Or.inr (Or.inr ⟨found, rfl⟩)⟩
      exact List.ne_nil_of_mem isWait
  rw [check, if_neg (not_le.mpr weighs)]
  dsimp only
  split
  · next none => exact absurd (by simpa using longest_eq_none.mp none) waiting
  · rfl

theorem blocks_of_refused
    (refused : (governor.check settings commandType now).2.allowed = false)
    (lasting : 1 / 1000 < (governor.check settings commandType now).2.waitTimeSec) :
    0 < settings.weight commandType ∧
      Blocks settings (governor.trim now) commandType
        (now + (governor.check settings commandType now).2.waitTimeSec) := by
  by_cases weightless : settings.weight commandType ≤ 0
  · rw [check_of_weightless weightless] at refused
    cases refused
  · refine ⟨not_le.mp weightless, ?_⟩
    rw [check, if_neg weightless] at refused lasting ⊢
    dsimp only at refused lasting ⊢
    split at refused
    · cases refused
    · next wait reason isLongest =>
        simp only [isLongest] at lasting ⊢
        rcases List.mem_map.mp (longest_mem isLongest) with ⟨⟨left, source⟩, isWait, same⟩
        simp only [Prod.mk.injEq] at same
        have isLeft : wait = left := by
          rcases max_cases left (1 / 1000) with ⟨isMax, _⟩ | ⟨isMax, _⟩
          · rw [← same.1, isMax]
          · rw [← same.1, isMax] at lasting
            exact absurd lasting (lt_irrefl _)
        rw [isLeft]
        rcases mem_waits.mp isWait with ⟨_, ⟨found, _⟩ | ⟨found, _⟩ | ⟨found, _⟩⟩
        · left
          rcases Option.map_eq_some_iff.mp found with ⟨lastAt, isLast, isWaiting⟩
          exact ⟨lastAt, isLast, by dsimp only at isWaiting; linarith⟩
        · exact Or.inr (Or.inl (full_of_windowWait found))
        · exact Or.inr (Or.inr (full_of_windowWait found))

def afterChecks (settings : RateLimitSettings) (governor : Governor)
    (checks : List (String × Rat)) : Governor :=
  checks.foldl (fun governor asked => (governor.check settings asked.1 asked.2).1) governor

theorem Blocks.afterChecks (blocks : Blocks settings governor commandType limit)
    (checks : List (String × Rat)) (before : ∀ asked ∈ checks, asked.2 < limit) :
    Blocks settings (governor.afterChecks settings checks) commandType limit := by
  induction checks generalizing governor with
  | nil => exact blocks
  | cons asked checks ih =>
      rw [List.forall_mem_cons] at before
      refine ih ?_ before.2
      dsimp only
      by_cases weightless : settings.weight asked.1 ≤ 0
      · rw [check_of_weightless weightless]
        exact blocks
      · rw [check_state (not_le.mp weightless)]
        exact blocks.trim before.1

theorem refuses_until (checks : List (String × Rat)) {later : Rat}
    (refused : (governor.check settings commandType now).2.allowed = false)
    (lasting : 1 / 1000 < (governor.check settings commandType now).2.waitTimeSec)
    (between : ∀ asked ∈ checks,
      asked.2 < now + (governor.check settings commandType now).2.waitTimeSec)
    (before : later < now + (governor.check settings commandType now).2.waitTimeSec) :
    ((((governor.check settings commandType now).1).afterChecks settings checks).check settings
      commandType later).2.allowed = false := by
  rcases blocks_of_refused refused lasting with ⟨weighs, blocks⟩
  rw [check_state weighs]
  exact (blocks.afterChecks checks between).refuses weighs before

end Governor

/-! ## What the deques hold -/

def AdmittedCommand.mark (admitted : AdmittedCommand) : Option CallMark :=
  if admitted.weight ≤ 0 then none
  else admitted.recordedAt.map fun time => { time := time, weight := admitted.weight }

/-- The deques hold the marks after their horizons. -/
structure HoldsMarks (governor : Governor) (marks : List CallMark) (clock : Rat) : Prop where
  ordered : Window.Ordered CallMark.time marks
  past : ∀ mark ∈ marks, mark.time ≤ clock
  second : ∃ horizon ≤ clock - 1,
    governor.secondCalls = Window.after CallMark.time horizon marks
  hour : ∃ horizon ≤ clock - hourSec,
    governor.hourlyCalls = Window.after CallMark.time horizon marks

section Marks

variable {settings : RateLimitSettings} {governor : Governor} {marks : List CallMark}
  {clock now : Rat} {commandType : String}

theorem HoldsMarks.trim (holds : HoldsMarks governor marks clock) (advances : clock ≤ now) :
    HoldsMarks (governor.trim now) marks now ∧
      (governor.trim now).secondCalls = Window.after CallMark.time (now - 1) marks ∧
      (governor.trim now).hourlyCalls = Window.after CallMark.time (now - hourSec) marks := by
  rcases holds.second with ⟨second, secondPast, isSecond⟩
  rcases holds.hour with ⟨hour, hourPast, isHour⟩
  have atSecond : (governor.trim now).secondCalls =
      Window.after CallMark.time (now - 1) marks := by
    rw [Governor.trim, isSecond]
    exact Window.expire_after holds.ordered (by linarith)
  have atHour : (governor.trim now).hourlyCalls =
      Window.after CallMark.time (now - hourSec) marks := by
    rw [Governor.trim, isHour]
    exact Window.expire_after holds.ordered (by linarith)
  refine ⟨⟨holds.ordered, ?_, ⟨_, le_refl _, atSecond⟩, ⟨_, le_refl _, atHour⟩⟩, atSecond, atHour⟩
  exact fun mark isMark => le_trans (holds.past mark isMark) advances

theorem HoldsMarks.later (holds : HoldsMarks governor marks clock) (advances : clock ≤ now) :
    HoldsMarks governor marks now := by
  rcases holds.second with ⟨second, secondPast, isSecond⟩
  rcases holds.hour with ⟨hour, hourPast, isHour⟩
  exact ⟨holds.ordered, fun mark isMark => le_trans (holds.past mark isMark) advances,
    ⟨second, by linarith, isSecond⟩, ⟨hour, by linarith, isHour⟩⟩

theorem after_append {length : Rat} (positive : 0 < length) (weight : Rat) :
    Window.after CallMark.time (now - length) (marks ++ [{ time := now, weight := weight }]) =
      Window.after CallMark.time (now - length) marks ++ [{ time := now, weight := weight }] := by
  simp [Window.after, positive]

theorem HoldsMarks.record (holds : HoldsMarks governor marks clock) (advances : clock ≤ now)
    (weighs : 0 < settings.weight commandType) :
    HoldsMarks (governor.record settings commandType now)
      (marks ++ [{ time := now, weight := settings.weight commandType }]) now := by
  rcases holds.trim advances with ⟨trimmed, atSecond, atHour⟩
  have hourPositive : (0 : Rat) < hourSec := by simp [hourSec]
  rw [Governor.record, if_neg (not_le.mpr weighs)]
  refine ⟨Window.ordered_append holds.ordered trimmed.past, ?_, ⟨now - 1, le_refl _, ?_⟩,
    ⟨now - hourSec, le_refl _, ?_⟩⟩
  · intro mark isMark
    rcases List.mem_append.mp isMark with old | new
    · exact trimmed.past mark old
    · rw [List.mem_singleton.mp new]
  · rw [after_append one_pos, ← atSecond]
  · rw [after_append hourPositive, ← atHour]

end Marks

/-! ## The invariant of a run -/

variable (state : GovernedState)

def GovernedState.marks : List CallMark :=
  state.admitted.filterMap AdmittedCommand.mark

def HasRoom (marks : List CallMark) (horizon cap weight : Rat) : Prop :=
  Window.after CallMark.time horizon marks = [] ∨
    Window.total CallMark.weight (Window.after CallMark.time horizon marks) + weight ≤ cap

/-- What lets a command through. -/
structure Lets (settings : RateLimitSettings) (earlier : List AdmittedCommand)
    (admitted : AdmittedCommand) : Prop where
  weight : admitted.weight = settings.weight admitted.commandType
  timely : ∀ calledAt ∈ admitted.calledAt, admitted.checkedAt ≤ calledAt ∧
    ∀ recordedAt ∈ admitted.recordedAt, calledAt ≤ recordedAt
  second : 0 < admitted.weight → HasRoom (earlier.filterMap AdmittedCommand.mark)
    (admitted.checkedAt - 1) settings.secondCap admitted.weight
  hour : 0 < admitted.weight → HasRoom (earlier.filterMap AdmittedCommand.mark)
    (admitted.checkedAt - hourSec) settings.hourCap admitted.weight
  interval : 0 < admitted.weight → ∀ other ∈ earlier, other.commandType = admitted.commandType →
    ∀ mark ∈ other.mark, settings.interval admitted.commandType ≤ admitted.checkedAt - mark.time

structure Governs (settings : RateLimitSettings) (state : GovernedState) : Prop where
  gated : Window.Gated (Lets settings) state.admitted
  holds : HoldsMarks state.governor state.marks state.clock
  last : ∀ admitted ∈ state.admitted, ∀ mark ∈ admitted.mark, ∃ lastAt,
    state.governor.lastCallAt admitted.commandType = some lastAt ∧ mark.time ≤ lastAt

section Steps

variable {settings : RateLimitSettings} {state : GovernedState} {command : HandledCommand}

theorem governs_start (clock : Rat) : Governs settings (governedStart clock) where
  gated := .nil
  holds := {
    ordered := List.Pairwise.nil
    past := fun _ isMark => absurd isMark List.not_mem_nil
    second := ⟨clock - 1, le_refl _, rfl⟩
    hour := ⟨clock - hourSec, le_refl _, rfl⟩ }
  last := fun _ isAdmitted => absurd isAdmitted List.not_mem_nil

theorem admitted_of_follows (follows : command.outcome.follows command.checkedAt) :
    (∀ calledAt ∈ (command.admitted settings).calledAt, command.checkedAt ≤ calledAt ∧
      ∀ recordedAt ∈ (command.admitted settings).recordedAt, calledAt ≤ recordedAt) ∧
    (∀ recordedAt ∈ (command.admitted settings).recordedAt, command.checkedAt ≤ recordedAt ∧
      (command.admitted settings).endedAt = recordedAt) ∧
    command.checkedAt ≤ (command.admitted settings).endedAt := by
  rw [HandledCommand.admitted]
  cases isOutcome : command.outcome with
  | withoutCall recordedAt =>
      rw [isOutcome] at follows
      cases recordedAt with
      | none => simp [AdmittedCommand.endedAt]
      | some recordedAt =>
          simpa [AdmittedCommand.endedAt] using follows recordedAt rfl
  | returned calledAt recordedAt =>
      rw [isOutcome] at follows
      simp [AdmittedCommand.endedAt, follows.1, follows.2, le_trans follows.1 follows.2]
  | raised calledAt =>
      rw [isOutcome] at follows
      simpa [AdmittedCommand.endedAt, BrokerOutcome.follows] using follows

theorem hasRoom_of_windowWait {marks calls : List CallMark} {length cap weight now : Rat}
    (held : calls = Window.after CallMark.time (now - length) marks)
    (noWait : ∀ wait, 0 < wait → Governor.windowWait calls length cap weight now ≠ some wait) :
    HasRoom marks (now - length) cap weight := by
  rw [HasRoom, ← held]
  cases isCalls : calls with
  | nil => exact Or.inl rfl
  | cons first rest =>
      right
      by_contra noRoom
      have lives : now - length < first.time := by
        have isMember : first ∈ Window.after CallMark.time (now - length) marks := by
          rw [← held, isCalls]
          exact List.mem_cons_self
        simpa using (List.mem_filter.mp isMember).2
      apply noWait (first.time + length - now) (by linarith)
      rw [isCalls, Governor.windowWait, if_pos (not_le.mp noRoom)]

theorem lets_of_allowed (governs : Governs settings state)
    (advances : ClockAdvances state command)
    (allowed : (state.governor.check settings command.commandType
      command.checkedAt).2.allowed = true) :
    Lets settings state.admitted (command.admitted settings) := by
  have timely := (@admitted_of_follows settings command advances.2).1
  rcases governs.holds.trim advances.1 with ⟨_, atSecond, atHour⟩
  have none : 0 < settings.weight command.commandType → ∀ wait : Rat × String, wait ∉
      (state.governor.trim command.checkedAt).waits settings command.commandType
        command.checkedAt := by
    intro weighs wait isWait
    rw [Governor.waits_of_allowed weighs allowed] at isWait
    cases isWait
  refine ⟨rfl, timely, ?_, ?_, ?_⟩
  · intro weighs
    refine hasRoom_of_windowWait atSecond fun wait positive found => ?_
    exact none weighs (wait, "global_per_second")
      (Governor.mem_waits.mpr ⟨positive, Or.inr (Or.inl ⟨found, rfl⟩)⟩)
  · intro weighs
    refine hasRoom_of_windowWait atHour fun wait positive found => ?_
    exact none weighs (wait, "hourly_rolling_limit")
      (Governor.mem_waits.mpr ⟨positive, Or.inr (Or.inr ⟨found, rfl⟩)⟩)
  · intro weighs other isOther sameType mark isMark
    rcases governs.last other isOther mark isMark with ⟨lastAt, isLast, past⟩
    have isType : (command.admitted settings).commandType = command.commandType := rfl
    rw [sameType] at isLast
    by_contra tooSoon
    rw [isType] at tooSoon
    have isChecked : (command.admitted settings).checkedAt = command.checkedAt := rfl
    apply none weighs (settings.interval command.commandType - (command.checkedAt - lastAt),
      "type_min_interval")
    refine Governor.mem_waits.mpr ⟨?_, Or.inl ⟨?_, rfl⟩⟩
    · linarith
    · rw [Governor.intervalWait]
      have kept : (state.governor.trim command.checkedAt).lastCallAt command.commandType =
          some lastAt := isLast
      rw [kept, Option.map_some]

/-- A command that is let through, and its record. -/
theorem governs_admit {governor : Governor} (governs : Governs settings state)
    (lets : Lets settings state.admitted (command.admitted settings))
    (follows : command.outcome.follows command.checkedAt)
    (holds : HoldsMarks governor state.marks command.checkedAt)
    (sameLast : governor.lastCallAt = state.governor.lastCallAt) :
    Governs settings {
      governor := match (command.admitted settings).recordedAt with
        | some recordedAt => governor.record settings command.commandType recordedAt
        | none => governor
      clock := (command.admitted settings).endedAt
      admitted := state.admitted ++ [command.admitted settings] } := by
  rcases @admitted_of_follows settings command follows with ⟨_, recorded, ended⟩
  have isType : (command.admitted settings).commandType = command.commandType := rfl
  have unmarked : (command.admitted settings).mark = none → Governs settings {
      governor := governor
      clock := (command.admitted settings).endedAt
      admitted := state.admitted ++ [command.admitted settings] } := by
    intro none
    refine ⟨.call governs.gated lets, ?_, ?_⟩
    · have same : state.marks = (state.admitted ++ [command.admitted settings]).filterMap
          AdmittedCommand.mark := by
        simp [GovernedState.marks, none]
      have later := holds.later ended
      rw [same] at later
      exact later
    · intro admitted isAdmitted mark isMark
      rcases List.mem_append.mp isAdmitted with old | new
      · rw [sameLast]
        exact governs.last admitted old mark isMark
      · rw [List.mem_singleton.mp new, none] at isMark
        cases isMark
  cases isRecorded : (command.admitted settings).recordedAt with
  | none => exact unmarked (by simp [AdmittedCommand.mark, isRecorded])
  | some recordedAt =>
      dsimp only
      by_cases weightless : settings.weight command.commandType ≤ 0
      · rw [Governor.record, if_pos weightless]
        exact unmarked (if_pos weightless)
      · rcases recorded recordedAt isRecorded with ⟨afterCheck, isEnd⟩
        have weighs := not_le.mp weightless
        have isMark : (command.admitted settings).mark =
            some { time := recordedAt, weight := settings.weight command.commandType } := by
          rw [AdmittedCommand.mark, isRecorded]
          exact if_neg weightless
        refine ⟨.call governs.gated lets, ?_, ?_⟩
        · have marked := @HoldsMarks.record settings _ _ _ _ _ holds afterCheck weighs
          rw [isEnd]
          simpa [isMark, GovernedState.marks] using marked
        · intro admitted isAdmitted mark present
          rw [Governor.record, if_neg weightless]
          dsimp only
          split
          · refine ⟨recordedAt, rfl, ?_⟩
            rcases List.mem_append.mp isAdmitted with old | new
            · have member : mark ∈ state.marks := List.mem_filterMap.mpr ⟨admitted, old, present⟩
              exact le_trans (holds.past mark member) afterCheck
            · rw [List.mem_singleton.mp new, isMark] at present
              cases present
              exact le_refl _
          · next otherType =>
              rcases List.mem_append.mp isAdmitted with old | new
              · have kept : (governor.trim recordedAt).lastCallAt =
                    state.governor.lastCallAt := sameLast
                rw [kept]
                exact governs.last admitted old mark present
              · rw [List.mem_singleton.mp new] at otherType
                exact absurd isType otherType

theorem governs_next (governs : Governs settings state) (advances : ClockAdvances state command) :
    Governs settings (handleNext settings state command) := by
  rw [handleNext]
  dsimp only
  cases allowed : (state.governor.check settings command.commandType
      command.checkedAt).2.allowed with
  | true =>
      have lets := lets_of_allowed governs advances allowed
      apply governs_admit governs lets advances.2
      · by_cases weightless : settings.weight command.commandType ≤ 0
        · rw [Governor.check_of_weightless weightless]
          exact governs.holds.later advances.1
        · rw [Governor.check_state (not_le.mp weightless)]
          exact (governs.holds.trim advances.1).1
      · by_cases weightless : settings.weight command.commandType ≤ 0
        · rw [Governor.check_of_weightless weightless]
        · rw [Governor.check_state (not_le.mp weightless)]
          rfl
  | false =>
      have weighs : 0 < settings.weight command.commandType := by
        by_contra weightless
        rw [Governor.check_of_weightless (not_lt.mp weightless)] at allowed
        cases allowed
      rw [Governor.check_state weighs]
      exact ⟨governs.gated, (governs.holds.trim advances.1).1, governs.last⟩

end Steps

/-! ## The calls of a run -/

def AdmittedCommand.isCounted (admitted : AdmittedCommand) : Bool :=
  0 < admitted.weight && admitted.calledAt.isSome && admitted.recordedAt.isSome

def AdmittedCommand.isIn (start length : Rat) (admitted : AdmittedCommand) : Bool :=
  admitted.isCounted &&
    admitted.calledAt.any fun calledAt => start ≤ calledAt && calledAt < start + length

def GovernedState.window (start length : Rat) : List AdmittedCommand :=
  state.admitted.filter (AdmittedCommand.isIn start length)

def WithinCap (length cap : Rat) : Prop :=
  ∀ start, (state.window start length).length ≤ 1 ∨
    Window.total AdmittedCommand.weight (state.window start length) ≤ cap

/-- What the governor promises of the calls of a run, and of the checks after it. -/
structure RateLimited (settings : RateLimitSettings) (state : GovernedState) : Prop where
  perSecond : WithinCap state 1 settings.secondCap
  perHour : WithinCap state hourSec settings.hourCap
  apart : (state.admitted.filter AdmittedCommand.isCounted).Pairwise fun earlier later =>
    earlier.commandType = later.commandType → ∀ first ∈ earlier.calledAt,
      ∀ second ∈ later.calledAt, settings.interval later.commandType ≤ second - first
  lasts : ∀ commandType now governor decision,
    state.governor.check settings commandType now = (governor, decision) →
      decision.allowed = false → 1 / 1000 < decision.waitTimeSec → ∀ checks later,
        (∀ asked ∈ checks, asked.2 < now + decision.waitTimeSec) →
          later < now + decision.waitTimeSec →
            ((governor.afterChecks settings checks).check settings commandType
              later).2.allowed = false

section Runs

variable {settings : RateLimitSettings} {state : GovernedState}

variable {call : AdmittedCommand} {length : Rat}

theorem weight_of_mark {mark : CallMark} (isMark : call.mark = some mark) : 0 ≤ mark.weight := by
  rw [AdmittedCommand.mark] at isMark
  split at isMark
  · cases isMark
  · next weighs =>
      rcases Option.map_eq_some_iff.mp isMark with ⟨time, _, rfl⟩
      exact le_of_lt (not_le.mp weighs)

theorem mark_of_inside {start : Rat}
    (timely : ∀ calledAt ∈ call.calledAt, ∀ recordedAt ∈ call.recordedAt, calledAt ≤ recordedAt)
    (isInside : call.isIn start length = true) :
    ∃ mark, call.mark = some mark ∧ mark.weight = call.weight ∧ start ≤ mark.time := by
  simp only [AdmittedCommand.isCounted, AdmittedCommand.isIn, Bool.and_eq_true, decide_eq_true_eq,
    Option.any_eq_true] at isInside
  rcases isInside with ⟨⟨⟨weighs, _⟩, isRecorded⟩, calledAt, isCalled, within, _⟩
  rcases Option.isSome_iff_exists.mp isRecorded with ⟨recordedAt, recorded⟩
  refine ⟨{ time := recordedAt, weight := call.weight }, ?_, rfl, ?_⟩
  · rw [AdmittedCommand.mark, if_neg (not_le.mpr weighs), recorded, Option.map_some]
  · exact le_trans within (timely calledAt isCalled recordedAt recorded)

theorem total_window_le {admitted : List AdmittedCommand} {start horizon : Rat}
    (timely : ∀ call ∈ admitted, ∀ calledAt ∈ call.calledAt, ∀ recordedAt ∈ call.recordedAt,
      calledAt ≤ recordedAt) (before : horizon < start) :
    let window := admitted.filter (AdmittedCommand.isIn start length)
    let held := Window.after CallMark.time horizon (admitted.filterMap AdmittedCommand.mark)
    (held = [] → window = []) ∧
      Window.total AdmittedCommand.weight window ≤ Window.total CallMark.weight held := by
  induction admitted with
  | nil => exact ⟨fun _ => rfl, le_refl _⟩
  | cons call admitted ih =>
      rw [List.forall_mem_cons] at timely
      rcases ih timely.2 with ⟨empty, bounded⟩
      cases isInside : call.isIn start length with
      | true =>
          rcases mark_of_inside timely.1 isInside with ⟨mark, isMark, isWeight, inTime⟩
          have lives : horizon < mark.time := lt_of_lt_of_le before inTime
          rw [List.filter_cons_of_pos isInside, List.filterMap_cons_some isMark, Window.after,
            List.filter_cons_of_pos (by simpa using lives)]
          refine ⟨fun empty => absurd empty (List.cons_ne_nil _ _), ?_⟩
          simp only [Window.total, List.map_cons, isWeight]
          exact add_le_add_right bounded _
      | false =>
          rw [List.filter_cons_of_neg (by simp [isInside])]
          cases isMark : call.mark with
          | none =>
              rw [List.filterMap_cons_none isMark]
              exact ⟨empty, bounded⟩
          | some mark =>
              rw [List.filterMap_cons_some isMark, Window.after]
              by_cases lives : horizon < mark.time
              · rw [List.filter_cons_of_pos (by simpa using lives)]
                refine ⟨fun empty => absurd empty (List.cons_ne_nil _ _), ?_⟩
                exact le_add_of_nonneg_of_le (weight_of_mark isMark) bounded
              · rw [List.filter_cons_of_neg (by simpa using lives)]
                exact ⟨empty, bounded⟩

theorem timely_of_lets {earlier : List AdmittedCommand} (lets : Lets settings earlier call) :
    ∀ calledAt ∈ call.calledAt,
      ∀ recordedAt ∈ call.recordedAt, calledAt ≤ recordedAt :=
  fun calledAt isCalled => (lets.timely calledAt isCalled).2

theorem withinCap_of_gated {cap : Rat} (gated : Window.Gated (Lets settings) state.admitted)
    (room : ∀ earlier call, Lets settings earlier call → 0 < call.weight →
      HasRoom (earlier.filterMap AdmittedCommand.mark) (call.checkedAt - length) cap
        call.weight) : WithinCap state length cap := by
  intro start
  apply (gated.strengthen fun _ _ lets => timely_of_lets lets).2.window
  rintro earlier call ⟨lets, timely⟩ isInside
  rw [AdmittedCommand.isIn] at isInside
  simp only [Option.any_eq_true, Bool.and_eq_true, decide_eq_true_eq] at isInside
  rcases isInside with ⟨counted, calledAt, isCalled, within⟩
  have weighs : 0 < call.weight := by
    simp only [AdmittedCommand.isCounted, Bool.and_eq_true, decide_eq_true_eq] at counted
    exact counted.1.1
  have checked := (lets.timely calledAt isCalled).1
  rcases @total_window_le length earlier start (call.checkedAt - length) timely (by linarith) with
    ⟨empty, bounded⟩
  rcases room earlier call lets weighs with none | fits
  · exact Or.inl (empty none)
  · exact Or.inr (le_trans (add_le_add_left bounded _) fits)

end Runs

/-! ## Calls that raise, and short waits -/

def defaultRateLimits : RateLimitSettings where
  globalPerSecond := 5
  hourlyLimit := 900
  minIntervalSec := []
  typeWeights := []

def raisingOrder : HandledCommand where
  commandType := "send_order"
  checkedAt := 0
  outcome := .raised 0

def answeredOrder : HandledCommand where
  commandType := "send_order"
  checkedAt := 0
  outcome := .returned 0 0

/-- All calls that were made in a window, those that raised among them. -/
def GovernedState.callsIn (start length : Rat) : List AdmittedCommand :=
  state.admitted.filter fun admitted =>
    admitted.calledAt.any fun calledAt => start ≤ calledAt && calledAt < start + length

theorem answeredOrder_advances :
    (governedSystem defaultRateLimits).Along ClockAdvances (governedStart 0) [answeredOrder] :=
  ⟨⟨le_refl _, le_refl _, le_refl _⟩, trivial⟩

def sixRaised : GovernedState :=
  (governedSystem defaultRateLimits).run (governedStart 0) (List.replicate 6 raisingOrder)

def shortWait : Governor × GovernorDecision :=
  ((governedSystem defaultRateLimits).run (governedStart 0) [answeredOrder]).governor.check
    defaultRateLimits "send_order" (1999 / 10000)

end SuseokTrader
