import SuseokTrader.Gateway.Admission

/-!
# The admissions of a run

However the calls come, no cap is exceeded. A profile is held back by its rate
without having used it up exactly where admissions of another source fill the
last minute.
-/

namespace SuseokTrader

/-! ## Histories -/

structure AdmissionHistory where
  controller : AdmissionController
  granted : List AdmissionRequest
  lastAt : Instant

def AdmissionHistory.initial : AdmissionHistory :=
  ⟨.initial, [], 0⟩

def admissionSystem : System AdmissionHistory AdmissionRequest AdmissionDecision where
  step history request :=
    let (decision, controller) := history.controller.decide request
    ({ controller := controller
       granted :=
         if decision.subscribed then history.granted ++ [request] else history.granted
       lastAt := request.now }, decision)

namespace AdmissionRequest

def isReal (profile : ConditionProfile) (request : AdmissionRequest) : Bool :=
  request.profile == profile && request.normalizedSource == "real_condition"

def isInitial (profile : ConditionProfile) (request : AdmissionRequest) : Bool :=
  request.profile == profile && request.normalizedSource == "tr_condition"

def hasId (profileId : String) (request : AdmissionRequest) : Bool :=
  request.profile.profileId == profileId

def isRecent (now : Instant) (request : AdmissionRequest) : Bool :=
  decide (now < request.now + AdmissionController.minute)

def isWithin (start : Instant) (request : AdmissionRequest) : Bool :=
  decide (start ≤ request.now) && decide (request.now < start + AdmissionController.minute)

end AdmissionRequest

namespace AdmissionHistory

variable (history : AdmissionHistory) (request : AdmissionRequest)

/-- The clock does not go back. -/
def InOrder : Prop :=
  history.lastAt ≤ request.now

def Grants : Prop :=
  (history.controller.decide request).1.subscribed = true

def AsksRate : Prop :=
  request.normalizedSource = "real_condition" ∧ history.controller.refusal request = none ∧
    request.placement.subscribed = true

def RefusedForRate : Prop :=
  history.AsksRate request ∧
    "PROFILE_REALTIME_RATE_LIMIT" ∈ (history.controller.decide request).1.reasonCodes

def recentReal : Nat :=
  history.granted.countP fun other => other.isReal request.profile && other.isRecent request.now

def recentAny : Nat :=
  history.granted.countP fun other =>
    other.hasId request.profile.profileId && other.isRecent request.now

/-- Admissions fill the last minute only if realtime ones do. -/
def Unshared : Prop :=
  history.AsksRate request → request.profile.maxRealtimePerMin ≤ history.recentAny request →
    request.profile.maxRealtimePerMin ≤ history.recentReal request

instance : Decidable (history.InOrder request) :=
  inferInstanceAs (Decidable (_ ≤ _))

instance : Decidable (history.AsksRate request) :=
  inferInstanceAs (Decidable (_ ∧ _ ∧ _))

instance : Decidable (history.RefusedForRate request) :=
  inferInstanceAs (Decidable (_ ∧ _))

instance : Decidable (history.Unshared request) :=
  inferInstanceAs (Decidable (_ → _ → _))

end AdmissionHistory

/-- No cap is exceeded, and none holds back what is below it. -/
structure AdmissionCaps (requests : List AdmissionRequest) : Prop where
  rate : ∀ profile start, (admissionSystem.run .initial requests).granted.countP
    (fun request => request.isReal profile && request.isWithin start) ≤ profile.maxRealtimePerMin
  refusals : admissionSystem.Along (fun history request => history.RefusedForRate request →
    request.profile.maxRealtimePerMin ≤ history.recentReal request) .initial requests
  initially : ∀ profile, (admissionSystem.run .initial requests).granted.countP
    (AdmissionRequest.isInitial profile) ≤ profile.maxInitial
  budget : admissionSystem.Along (fun history request => history.Grants request →
    request.effectiveRegisteredCount < request.budget.cap) .initial requests

/-! ## What a decision keeps -/

def grantedAt (profileId : String) (granted : List AdmissionRequest) : List Instant :=
  (granted.filter (AdmissionRequest.hasId profileId)).map AdmissionRequest.now

/-- What a request was granted after. -/
structure AdmissionGate (earlier : List AdmissionRequest) (request : AdmissionRequest) : Prop where
  past : ∀ other ∈ earlier, other.now ≤ request.now
  rate : request.normalizedSource = "real_condition" → earlier.countP (fun other =>
    other.hasId request.profile.profileId && other.isRecent request.now) <
      request.profile.maxRealtimePerMin
  initially : request.normalizedSource = "tr_condition" → earlier.countP (fun other =>
    other.hasId request.profile.profileId && other.normalizedSource == "tr_condition") <
      request.profile.maxInitial

structure AdmissionInvariant (history : AdmissionHistory) : Prop where
  gated : Window.Gated AdmissionGate history.granted
  past : ∀ request ∈ history.granted, request.now ≤ history.lastAt
  entries : ∀ profileId, ∃ horizon ≤ history.lastAt,
    history.controller.realtimeEnterAt profileId =
      Window.after (fun entered => entered + AdmissionController.minute) horizon
        (grantedAt profileId history.granted)
  counts : ∀ profileId, history.controller.initialEnterCounts profileId =
    history.granted.countP fun request =>
      request.hasId profileId && request.normalizedSource == "tr_condition"

variable {history : AdmissionHistory} {request : AdmissionRequest}

theorem grantedAt_append (profileId : String) (granted : List AdmissionRequest)
    (request : AdmissionRequest) :
    grantedAt profileId (granted ++ [request]) = grantedAt profileId granted ++
      if request.profile.profileId = profileId then [request.now] else [] := by
  by_cases same : request.profile.profileId = profileId
  · simp [grantedAt, AdmissionRequest.hasId, same]
  · simp [grantedAt, AdmissionRequest.hasId, same]

theorem length_after_times (expiry : Instant → Instant) (profileId : String) (now : Instant)
    (granted : List AdmissionRequest) :
    (Window.after expiry now (grantedAt profileId granted)).length =
      granted.countP fun other => other.hasId profileId && decide (now < expiry other.now) := by
  rw [List.countP_eq_length_filter, Window.after, grantedAt, List.filter_map, List.length_map,
    List.filter_filter]
  exact congrArg List.length (List.filter_congr fun other _ => Bool.and_comm _ _)

theorem length_after_grantedAt (profileId : String) (now : Instant)
    (granted : List AdmissionRequest) :
    (Window.after (fun entered => entered + AdmissionController.minute) now
      (grantedAt profileId granted)).length =
        granted.countP fun other => other.hasId profileId && other.isRecent now :=
  length_after_times (fun entered => entered + AdmissionController.minute) profileId now granted

theorem AdmissionInvariant.ordered (holds : AdmissionInvariant history) (profileId : String) :
    Window.Ordered (fun entered => entered + AdmissionController.minute)
      (grantedAt profileId history.granted) := by
  have inOrder := holds.gated.pairwise fun earlier call gate other present =>
    gate.past other present
  apply List.Pairwise.map _ _ (List.Pairwise.filter _ inOrder)
  intro earlier call before
  exact Nat.add_le_add_right before _

theorem AdmissionInvariant.expire (holds : AdmissionInvariant history)
    (inOrder : history.InOrder request) (profileId : String) :
    Window.expire (fun entered => entered + AdmissionController.minute) request.now
        (history.controller.realtimeEnterAt profileId) =
      Window.after (fun entered => entered + AdmissionController.minute) request.now
        (grantedAt profileId history.granted) := by
  rcases holds.entries profileId with ⟨horizon, moves, isAfter⟩
  rw [isAfter]
  exact Window.expire_after (holds.ordered profileId) (moves.trans inOrder)

theorem AdmissionInvariant.withinRate (holds : AdmissionInvariant history)
    (inOrder : history.InOrder request) :
    (history.controller.withinRealtimeRate request.profile request.now).1 = true ↔
      history.recentAny request < request.profile.maxRealtimePerMin := by
  rw [AdmissionController.withinRealtimeRate, AdmissionHistory.recentAny,
    ← length_after_grantedAt, holds.expire inOrder]
  split
  · next none =>
      rw [Nat.le_zero.mp none]
      simp
  · simp

theorem AdmissionInvariant.afterRate (holds : AdmissionInvariant history)
    (inOrder : history.InOrder request) (profileId : String) :
    ∃ horizon ≤ request.now,
      (history.controller.withinRealtimeRate request.profile
          request.now).2.realtimeEnterAt profileId =
        Window.after (fun entered => entered + AdmissionController.minute) horizon
          (grantedAt profileId history.granted) := by
  rcases holds.entries profileId with ⟨horizon, moves, isAfter⟩
  rw [AdmissionController.withinRealtimeRate]
  split
  · exact ⟨horizon, moves.trans inOrder, isAfter⟩
  · by_cases same : profileId = request.profile.profileId
    · subst same
      refine ⟨request.now, le_refl _, ?_⟩
      simp only [Function.update_self]
      exact holds.expire inOrder _
    · refine ⟨horizon, moves.trans inOrder, ?_⟩
      simpa only [Function.update_of_ne same] using isAfter

/-! ## Steps -/

theorem AdmissionInvariant.place_cases (holds : AdmissionInvariant history)
    (inOrder : history.InOrder request) :
    (∃ reason, history.controller.refusal request = some reason ∧
      history.controller.place request = (refusedPlacement reason, history.controller)) ∨
    (history.controller.refusal request = none ∧ request.normalizedSource = "real_condition" ∧
      request.profile.maxRealtimePerMin ≤ history.recentAny request ∧
      history.controller.place request =
        (refusedPlacement "PROFILE_REALTIME_RATE_LIMIT",
          (history.controller.withinRealtimeRate request.profile request.now).2)) ∨
    (history.controller.refusal request = none ∧
      (request.normalizedSource = "real_condition" →
        history.recentAny request < request.profile.maxRealtimePerMin) ∧
      ∃ controller, history.controller.place request = (request.placement, controller) ∧
        (controller = history.controller ∨
          controller = (history.controller.withinRealtimeRate request.profile request.now).2)) := by
  have within := holds.withinRate inOrder
  unfold AdmissionController.place
  cases refused : history.controller.refusal request with
  | some reason => exact Or.inl ⟨reason, rfl, rfl⟩
  | none =>
      right
      by_cases real : request.normalizedSource = "real_condition"
      · simp only [if_pos real]
        rcases looked : history.controller.withinRealtimeRate request.profile request.now with
          ⟨isWithin, controller⟩
        rw [looked] at within
        cases isWithin with
        | true => exact Or.inr ⟨trivial, fun _ => within.mp rfl, controller, rfl, Or.inr rfl⟩
        | false =>
            refine Or.inl ⟨trivial, real, ?_, rfl⟩
            apply not_lt.mp
            intro below
            cases within.mpr below
      · simp only [if_neg real]
        exact Or.inr ⟨trivial, fun isReal => absurd isReal real, _, rfl, Or.inl rfl⟩

variable {controller : AdmissionController}

theorem next_admission {placement : Placement}
    (placed : history.controller.place request = (placement, controller)) :
    admissionSystem.next history request =
      if placement.subscribed then
        ⟨controller.recordAdmission request, history.granted ++ [request], request.now⟩
      else ⟨controller, history.granted, request.now⟩ := by
  simp only [System.next, admissionSystem, AdmissionController.decide, placed]
  split <;> rfl

theorem refusal_eq_none (passes : controller.refusal request = none) :
    (request.normalizedSource = "tr_condition" →
      controller.initialEnterCounts request.profile.profileId < request.profile.maxInitial) ∧
    request.effectiveRegisteredCount < request.budget.cap := by
  unfold AdmissionController.refusal at passes
  split_ifs at passes with _ _ _ reached spent
  constructor
  · intro initial
    exact not_le.mp fun atCap => reached ⟨initial, atCap⟩
  · exact not_le.mp spent

/-- A controller that has lost at most expired times keeps to what was granted. -/
structure AdmissionController.Follows (controller : AdmissionController)
    (history : AdmissionHistory) (now : Instant) : Prop where
  entries : ∀ profileId, ∃ horizon ≤ now, controller.realtimeEnterAt profileId =
    Window.after (fun entered => entered + minute) horizon (grantedAt profileId history.granted)
  counts : controller.initialEnterCounts = history.controller.initialEnterCounts

theorem AdmissionInvariant.follows (holds : AdmissionInvariant history)
    (inOrder : history.InOrder request) : history.controller.Follows history request.now := by
  refine ⟨fun profileId => ?_, rfl⟩
  rcases holds.entries profileId with ⟨horizon, moves, isAfter⟩
  exact ⟨horizon, moves.trans inOrder, isAfter⟩

theorem AdmissionInvariant.follows_rate (holds : AdmissionInvariant history)
    (inOrder : history.InOrder request) :
    (history.controller.withinRealtimeRate request.profile request.now).2.Follows history
      request.now := by
  refine ⟨holds.afterRate inOrder, ?_⟩
  rw [AdmissionController.withinRealtimeRate]
  split <;> rfl

/-- A recorded admission is at the end of the times of its id. -/
theorem AdmissionInvariant.record (holds : AdmissionInvariant history)
    (inOrder : history.InOrder request) (follows : controller.Follows history request.now)
    (gate : AdmissionGate history.granted request) :
    AdmissionInvariant ⟨controller.recordAdmission request, history.granted ++ [request],
      request.now⟩ := by
  refine ⟨.call holds.gated gate, ?_, ?_, ?_⟩
  · intro other present
    rcases List.mem_append.mp present with early | last
    · exact (holds.past other early).trans inOrder
    · rw [List.mem_singleton.mp last]
  · intro profileId
    rcases follows.entries profileId with ⟨horizon, moves, isAfter⟩
    have entries : (controller.recordAdmission request).realtimeEnterAt profileId =
        controller.realtimeEnterAt profileId ++
          if request.profile.profileId = profileId then [request.now] else [] := by
      have times : (controller.recordAdmission request).realtimeEnterAt =
          (controller.recordRealtimeEnter request.profile.profileId
            request.now).realtimeEnterAt := by
        rw [AdmissionController.recordAdmission]
        split <;> rfl
      rw [times, AdmissionController.recordRealtimeEnter]
      by_cases same : request.profile.profileId = profileId
      · subst same
        simp
      · simp [Function.update_of_ne (Ne.symm same), same]
    refine ⟨horizon, moves, ?_⟩
    rw [entries, isAfter, grantedAt_append, Window.after, Window.after, List.filter_append]
    have lives : horizon < request.now + AdmissionController.minute :=
      lt_of_le_of_lt moves (Nat.lt_add_of_pos_right AdmissionController.minute_pos)
    split
    · rw [List.filter_cons_of_pos (by simpa using lives), List.filter_nil]
    · rw [List.filter_nil]
  · intro profileId
    rw [AdmissionController.recordAdmission]
    have counts := holds.counts profileId
    rw [← follows.counts] at counts
    rw [List.countP_append, ← counts]
    by_cases initial : request.normalizedSource = "tr_condition"
    · by_cases same : request.profile.profileId = profileId
      · subst same
        simp [initial, AdmissionRequest.hasId, AdmissionController.recordRealtimeEnter]
      · simp [initial, AdmissionRequest.hasId, AdmissionController.recordRealtimeEnter, same,
          Function.update_of_ne (Ne.symm same)]
    · simp [initial, AdmissionController.recordRealtimeEnter]

theorem AdmissionInvariant.gate (holds : AdmissionInvariant history)
    (inOrder : history.InOrder request) (passes : history.controller.refusal request = none)
    (below : request.normalizedSource = "real_condition" →
      history.recentAny request < request.profile.maxRealtimePerMin) :
    AdmissionGate history.granted request := by
  refine ⟨fun other present => (holds.past other present).trans inOrder, below, ?_⟩
  intro initial
  rw [← holds.counts]
  exact (refusal_eq_none passes).1 initial

theorem AdmissionInvariant.next (holds : AdmissionInvariant history)
    (inOrder : history.InOrder request) :
    AdmissionInvariant (admissionSystem.next history request) := by
  have kept : ∀ controller : AdmissionController, controller.Follows history request.now →
      AdmissionInvariant ⟨controller, history.granted, request.now⟩ := by
    intro controller follows
    refine ⟨holds.gated, fun other present => (holds.past other present).trans inOrder,
      follows.entries, ?_⟩
    intro profileId
    rw [follows.counts]
    exact holds.counts profileId
  rcases holds.place_cases inOrder with
    ⟨reason, _, placed⟩ | ⟨_, _, _, placed⟩ | ⟨passes, below, controller, placed, isOne⟩
  · rw [next_admission placed]
    exact kept _ (holds.follows inOrder)
  · rw [next_admission placed]
    exact kept _ (holds.follows_rate inOrder)
  · have follows : controller.Follows history request.now := by
      rcases isOne with rfl | rfl
      · exact holds.follows inOrder
      · exact holds.follows_rate inOrder
    rw [next_admission placed]
    split
    · exact holds.record inOrder follows (holds.gate inOrder passes below)
    · exact kept controller follows

theorem AdmissionInvariant.budget (holds : AdmissionInvariant history)
    (inOrder : history.InOrder request) (grants : history.Grants request) :
    request.effectiveRegisteredCount < request.budget.cap := by
  rw [AdmissionHistory.Grants, AdmissionController.decide] at grants
  rcases holds.place_cases inOrder with
    ⟨reason, _, placed⟩ | ⟨_, _, _, placed⟩ | ⟨passes, -⟩
  · rw [placed] at grants
    cases grants
  · rw [placed] at grants
    cases grants
  · exact (refusal_eq_none passes).2

theorem AdmissionInvariant.refusedForRate_iff (holds : AdmissionInvariant history)
    (inOrder : history.InOrder request) :
    history.RefusedForRate request ↔ history.AsksRate request ∧
      request.profile.maxRealtimePerMin ≤ history.recentAny request := by
  refine and_congr_right fun asks => ?_
  rcases asks with ⟨real, passes, subscribes⟩
  rw [AdmissionController.decide]
  rcases holds.place_cases inOrder with
    ⟨reason, refused, _⟩ | ⟨_, _, full, placed⟩ | ⟨_, below, controller, placed, _⟩
  · rw [passes] at refused
    cases refused
  · rw [placed]
    simp [refusedPlacement, full]
  · rw [placed]
    have other : request.placement.reason ≠ "PROFILE_REALTIME_RATE_LIMIT" := by
      rw [AdmissionRequest.placement]
      split
      · simp
      · split <;> repeat (first | simp [refusedPlacement] | split)
    simp [other.symm, below real]

/-! ## Runs -/

theorem AdmissionInvariant.initial : AdmissionInvariant .initial :=
  ⟨.nil, fun _ present => absurd present List.not_mem_nil,
    fun _ => ⟨0, le_refl _, rfl⟩, fun _ => rfl⟩

/-- The caps hold in every run, and hold back what is below them only where the last minute of a
profile is filled by admissions of another source. -/
theorem admission_caps_hold_iff {requests : List AdmissionRequest}
    (inOrder : admissionSystem.Along AdmissionHistory.InOrder .initial requests) :
    AdmissionCaps requests ↔
      admissionSystem.Along AdmissionHistory.Unshared .initial requests := by
  have preserved : ∀ history request, AdmissionInvariant history → history.InOrder request →
      AdmissionInvariant (admissionSystem.next history request) :=
    fun _ _ holds inOrder => holds.next inOrder
  have reached := inOrder.invariant AdmissionInvariant preserved .initial
  constructor
  · intro caps
    have both := (System.along_and _ _ _ _).mpr ⟨inOrder, caps.refusals⟩
    apply both.imp AdmissionInvariant (fun _ _ holds met => holds.next met.1) _ .initial
    intro history request holds met asks full
    exact met.2 ((holds.refusedForRate_iff met.1).mpr ⟨asks, full⟩)
  · intro unshared
    have both := (System.along_and _ _ _ _).mpr ⟨inOrder, unshared⟩
    refine ⟨?_, ?_, ?_, ?_⟩
    · intro profile start
      apply reached.gated.countP_le
      intro earlier call gate inside
      simp only [AdmissionRequest.isReal, AdmissionRequest.isWithin, Bool.and_eq_true,
        beq_iff_eq, decide_eq_true_eq] at inside
      rcases inside with ⟨⟨rfl, real⟩, _, ends⟩
      apply lt_of_le_of_lt _ (gate.rate real)
      apply List.countP_mono_left
      intro other _ within
      simp only [AdmissionRequest.isReal, AdmissionRequest.isWithin, AdmissionRequest.hasId,
        AdmissionRequest.isRecent, Bool.and_eq_true, beq_iff_eq, decide_eq_true_eq] at within ⊢
      exact ⟨congrArg _ within.1.1, lt_of_lt_of_le ends (Nat.add_le_add_right within.2.1 _)⟩
    · apply both.imp AdmissionInvariant (fun _ _ holds met => holds.next met.1) _ .initial
      intro history request holds met refused
      rcases (holds.refusedForRate_iff met.1).mp refused with ⟨asks, full⟩
      exact met.2 asks full
    · intro profile
      apply reached.gated.countP_le
      intro earlier call gate inside
      simp only [AdmissionRequest.isInitial, Bool.and_eq_true, beq_iff_eq] at inside
      rcases inside with ⟨rfl, initial⟩
      apply lt_of_le_of_lt _ (gate.initially initial)
      apply List.countP_mono_left
      intro other _ within
      simp only [AdmissionRequest.isInitial, AdmissionRequest.hasId, Bool.and_eq_true,
        beq_iff_eq] at within ⊢
      exact ⟨congrArg _ within.1, within.2⟩
    · apply inOrder.imp AdmissionInvariant preserved _ .initial
      intro history request holds met
      exact holds.budget met

def pullbackProfile : ConditionProfile where
  profileId := "PULLBACK"
  role := .pullback
  priceSubscribePolicy := .immediate
  priority := 100
  maxInitial := 50
  maxRealtimePerMin := 1

/-- An entry of the source, at the given second. -/
def entryFrom (source : String) (second : Nat) : AdmissionRequest where
  profile := pullbackProfile
  action := "ENTER"
  source := source
  registeredRealtimeCount := 0
  metrics := ⟨"", 0, 0, 0, 0⟩
  sessionProfile := .opening
  maxTotal := 100
  batchAllowed := false
  plannedBatchCount := 0
  now := second * 1000000

/-- Two realtime entries a minute apart are both granted, and the one between them is refused. -/
theorem admission_caps_hold_realtime :
    AdmissionCaps [entryFrom "real_condition" 1, entryFrom "real_condition" 31,
      entryFrom "real_condition" 61] :=
  (admission_caps_hold_iff (by decide +kernel)).mpr (by decide +kernel)

/-- An initial entry takes the place of a realtime one, which is refused though none was granted. -/
theorem initial_entries_use_up_the_rate :
    ¬ AdmissionCaps [entryFrom "tr_condition" 1, entryFrom "real_condition" 31] := by
  intro caps
  have held := caps.refusals.2.1
  revert held
  decide +kernel

end SuseokTrader
