import SuseokTrader.Gateway.CoreIo

/-!
# Delivery to Core

Events that matter for an order leave the queue in the order in which they came
in, and none is lost. Ticks of a stock stay in order as long as no tick replaces
one of another exchange, or one that others of its stock stand behind.
-/

namespace SuseokTrader

/-! ## Kinds of events -/

variable {types : List String} {queued other posted : QueuedEvent} {key : String × String}
  {host : Host} {events rest before selected : List QueuedEvent} {settings : CoreIoSettings}
  {result : Enqueued} {isMatching isInClass counted : QueuedEvent → Bool} {worker : CoreIoWorker}
  {history : CoreIoHistory}

theorem isOfType_eq_true :
    queued.isOfType types = true ↔ normalizeEventType queued.event.eventType ∈ types :=
  List.contains_iff_mem

theorem isOfType_apart {others : List String} (apart : ∀ kind ∈ types, kind ∉ others)
    (isType : queued.isOfType types = true) :
    queued.isOfType others = false := by
  rw [← Bool.not_eq_true, isOfType_eq_true]
  exact apart _ (isOfType_eq_true.mp isType)

theorem isOfType_within {others : List String} (within : ∀ kind ∈ types, kind ∈ others)
    (isType : queued.isOfType types = true) :
    queued.isOfType others = true :=
  isOfType_eq_true.mpr (within _ (isOfType_eq_true.mp isType))

theorem isOfType_congr (types : List String)
    (same : normalizeEventType queued.event.eventType = normalizeEventType other.event.eventType) :
    queued.isOfType types = other.isOfType types := by
  rw [QueuedEvent.isOfType, QueuedEvent.isOfType, same]

theorem dropProtected_of_critical (critical : queued.isCommandCriticalEvent = true) :
    queued.isDropProtectedEvent = true :=
  isOfType_within (by decide) critical

theorem not_dropProtected_of_droppable (droppable : queued.isDroppableEvent = true) :
    queued.isDropProtectedEvent = false :=
  isOfType_apart (by decide) droppable

theorem not_critical_of_unprotected (unprotected : queued.isDropProtectedEvent = false) :
    queued.isCommandCriticalEvent = false := by
  rw [← Bool.not_eq_true] at unprotected ⊢
  exact fun critical => unprotected (dropProtected_of_critical critical)

def coalescedEventTypes : List String :=
  ["heartbeat", "price_tick", "quote_tick", "market_index_tick"]

theorem keyUnlessBlank_eq_some {eventType text : String}
    (isKey : keyUnlessBlank eventType text = some key) : key = (eventType, Text.strip text) := by
  rw [keyUnlessBlank] at isKey
  split at isKey
  · cases isKey
  · exact (Option.some.inj isKey).symm

theorem coalescingKey_eq_some (isKey : coalescingKey host queued = some key) :
    key.1 = normalizeEventType queued.event.eventType ∧
      queued.isOfType coalescedEventTypes = true := by
  rw [isOfType_eq_true]
  rw [coalescingKey] at isKey
  split at isKey
  · next isType =>
      rw [Option.some.injEq] at isKey
      subst isKey
      exact ⟨rfl, by rw [isType]; decide⟩
  · split at isKey
    · next isType =>
        rw [keyUnlessBlank_eq_some isKey]
        refine ⟨rfl, ?_⟩
        rcases isType with isType | isType <;>
          · rw [isType]
            decide
    · split at isKey
      · next isType =>
          rw [keyUnlessBlank_eq_some isKey]
          exact ⟨rfl, by rw [isType]; decide⟩
      · cases isKey

theorem not_dropProtected_of_key (isKey : coalescingKey host queued = some key) :
    queued.isDropProtectedEvent = false :=
  isOfType_apart (by decide) (coalescingKey_eq_some isKey).2

theorem sameType_of_key (isKey : coalescingKey host queued = some key)
    (isOther : coalescingKey host other = some key) :
    normalizeEventType queued.event.eventType = normalizeEventType other.event.eventType :=
  (coalescingKey_eq_some isKey).1.symm.trans (coalescingKey_eq_some isOther).1

theorem sameEvent_of_equals {event other : GatewayEvent} (equal : event.equals host other = true) :
    event.eventId = other.eventId ∧ event.eventType = other.eventType := by
  simp only [GatewayEvent.equals, Bool.and_eq_true, decide_eq_true_eq] at equal
  exact ⟨equal.1.1.1.2, equal.1.1.1.1.1.1⟩

/-! ## What an overflow drops -/

structure Drops (before kept dropped : List QueuedEvent) : Prop where
  sublist : kept.Sublist before
  perm : (kept ++ dropped).Perm before
  unprotected : ∀ queued ∈ dropped, queued.isDropProtectedEvent = false

theorem takeOverflow_spec (takes : takeOverflow events = some (queued, rest)) :
    queued.isDropProtectedEvent = false ∧
      ∃ left right, events = left ++ queued :: right ∧ rest = left ++ right := by
  rw [takeOverflow, Option.or_eq_some_iff] at takes
  rcases takes with droppable | ⟨_, unprotected⟩
  · rcases takeOut_eq_some droppable with ⟨left, right, split, isRest, holds, _⟩
    exact ⟨not_dropProtected_of_droppable holds, left, right, split, isRest⟩
  · rcases takeOut_eq_some unprotected with ⟨left, right, split, isRest, holds, _⟩
    exact ⟨by simpa using holds, left, right, split, isRest⟩

theorem dropOverflow_drops (events : List QueuedEvent) (excess : Nat) :
    Drops events (dropOverflow events excess).1 (dropOverflow events excess).2 := by
  induction excess generalizing events with
  | zero => exact ⟨List.Sublist.refl _, by simp [dropOverflow], fun _ absent => nomatch absent⟩
  | succ excess ih =>
      rw [dropOverflow]
      split
      · exact ⟨List.Sublist.refl _, by simp, fun _ absent => nomatch absent⟩
      · next queued rest takes =>
          rcases takeOverflow_spec takes with ⟨unprotected, left, right, rfl, rfl⟩
          have later := ih (left ++ right)
          refine ⟨?_, ?_, ?_⟩
          · exact later.sublist.trans
              ((List.sublist_cons_self queued right).append_left left)
          · refine List.perm_middle.trans ?_
            exact (later.perm.cons queued).trans List.perm_middle.symm
          · intro other dropped
            rcases List.mem_cons.mp dropped with rfl | dropped
            · exact unprotected
            · exact later.unprotected other dropped

theorem Drops.filter_eq {kept dropped : List QueuedEvent} (drops : Drops before kept dropped)
    {property : QueuedEvent → Bool}
    (isProtected : ∀ queued, property queued = true → queued.isDropProtectedEvent = true) :
    kept.filter property = before.filter property := by
  apply (drops.sublist.filter property).eq_of_length
  have none : dropped.filter property = [] := by
    rw [List.filter_eq_nil_iff]
    intro queued isDropped holds
    have kept := isProtected queued holds
    rw [drops.unprotected queued isDropped] at kept
    cases kept
  have same := (drops.perm.filter property).length_eq
  rw [List.filter_append, none, List.append_nil] at same
  exact same

/-! ## What handing an event over does -/

/-- The queue with the event out of it that a priority event takes the place of. -/
inductive TakesOutdated (host : Host) (before : List QueuedEvent) (queued : QueuedEvent) :
    Option QueuedEvent → List QueuedEvent → Prop
  | nothing : TakesOutdated host before queued none before
  | outdated {left right : List QueuedEvent} {old : QueuedEvent} {key : String × String}
      (splits : before = left ++ old :: right) (isKey : coalescingKey host queued = some key)
      (sameKey : coalescingKey host old = some key)
      (priority : queued.isPriorityEvent = true) :
      TakesOutdated host before queued (some old) (left ++ right)

/-- An event goes into the queue, behind every one that matters for an order, or takes the place
of the first one with its key. -/
inductive EnqueueEffect (host : Host) (settings : CoreIoSettings) (before : List QueuedEvent)
    (queued : QueuedEvent) : Enqueued → Prop
  | inserted {left right kept dropped : List QueuedEvent} {outdated : Option QueuedEvent}
      (takes : TakesOutdated host before queued outdated (left ++ right))
      (noCritical : ∀ other ∈ right, other.isCommandCriticalEvent = false)
      (atEnd : queued.isCommandCriticalEvent = false → queued.isPriorityEvent = false →
        right = [])
      (drops : Drops (left ++ queued :: right) kept dropped) :
      EnqueueEffect host settings before queued
        { events := kept, replaced := outdated, dropped := dropped }
  | coalesced {left right : List QueuedEvent} {old : QueuedEvent} {key : String × String}
      (large : settings.coalesceAfterSize ≤ before.length)
      (splits : before = left ++ old :: right) (isKey : coalescingKey host queued = some key)
      (sameKey : coalescingKey host old = some key)
      (first : ∀ other ∈ left, coalescingKey host other ≠ some key) :
      EnqueueEffect host settings before queued
        { events := left ++ queued :: right, replaced := some old, dropped := [] }

theorem enqueuePriorityEvent_spec (host : Host) (events : List QueuedEvent)
    (priority : queued.isPriorityEvent = true) :
    ∃ left right, TakesOutdated host events queued (enqueuePriorityEvent host events queued).2
        (left ++ right) ∧
      (enqueuePriorityEvent host events queued).1 = left ++ queued :: right ∧
      ∀ other ∈ right, other.isCommandCriticalEvent = false := by
  rw [enqueuePriorityEvent]
  split
  · next old remaining takes =>
      rw [takeOutdated] at takes
      split at takes
      · cases takes
      · next key isKey =>
          rcases takeOut_eq_some takes with ⟨before, after, split, rfl, sameKey, _⟩
          rw [decide_eq_true_eq] at sameKey
          rcases insertAfterLast_splits (·.isCommandCriticalEvent) (before ++ after) queued with
            ⟨left, right, same, inserts, noCritical⟩
          refine ⟨left, right, ?_, inserts, noCritical⟩
          rw [← same]
          exact .outdated split isKey sameKey priority
  · rcases insertAfterLast_splits (·.isCommandCriticalEvent) events queued with
      ⟨left, right, same, inserts, noCritical⟩
    refine ⟨left, right, ?_, inserts, noCritical⟩
    rw [← same]
    exact .nothing

theorem enqueueEvent_effect (host : Host) (settings : CoreIoSettings) (events : List QueuedEvent)
    (queued : QueuedEvent) :
    EnqueueEffect host settings events queued (enqueueEvent host settings events queued) := by
  rw [enqueueEvent]
  split
  · next critical =>
      rcases insertAfterLast_splits (·.isCommandCriticalEvent) events queued with
        ⟨left, right, same, inserts, noCritical⟩
      rw [insertAfterCommandCritical, inserts]
      have takes : TakesOutdated host events queued none (left ++ right) := by
        rw [← same]
        exact .nothing
      refine .inserted takes noCritical ?_ (dropOverflow_drops _ _)
      intro notCritical
      rw [critical] at notCritical
      cases notCritical
  · split
    · next priority =>
        rcases enqueuePriorityEvent_spec host events priority with
          ⟨left, right, takes, inserts, noCritical⟩
        generalize enqueuePriorityEvent host events queued = called at takes inserts
        rcases called with ⟨inserted, outdated⟩
        subst inserts
        refine .inserted takes noCritical ?_ (dropOverflow_drops _ _)
        intro _ notPriority
        rw [priority] at notPriority
        cases notPriority
    · split
      · next coalesced old coalesces =>
          split at coalesces
          · next large =>
              rw [coalesceEvent] at coalesces
              split at coalesces
              · cases coalesces
              · next key isKey =>
                  rcases replaceFirst_eq_some coalesces with
                    ⟨left, right, split, rfl, sameKey, first⟩
                  rw [decide_eq_true_eq] at sameKey
                  refine .coalesced large split isKey sameKey ?_
                  intro other present
                  simpa using first other present
          · cases coalesces
      · have takes : TakesOutdated host events queued none (events ++ []) := by
          rw [List.append_nil]
          exact .nothing
        exact .inserted takes (fun _ absent => nomatch absent) (fun _ _ => rfl)
          (dropOverflow_drops _ _)

theorem TakesOutdated.perm {remaining : List QueuedEvent} {outdated : Option QueuedEvent}
    (takes : TakesOutdated host before queued outdated remaining) :
    (remaining ++ outdated.toList).Perm before := by
  cases takes with
  | nothing => simp
  | outdated splits isKey sameKey priority =>
      subst splits
      exact (List.perm_append_singleton _ _).trans List.perm_middle.symm

theorem TakesOutdated.unprotected {remaining : List QueuedEvent} {old : QueuedEvent}
    {outdated : Option QueuedEvent} (takes : TakesOutdated host before queued outdated remaining)
    (isOld : outdated = some old) :
    old.isDropProtectedEvent = false := by
  cases takes with
  | nothing => cases isOld
  | outdated splits isKey sameKey priority =>
      cases isOld
      exact not_dropProtected_of_key sameKey

theorem EnqueueEffect.perm (effect : EnqueueEffect host settings before queued result) :
    (result.events ++ (result.dropped ++ result.replaced.toList)).Perm (queued :: before) := by
  cases effect with
  | @inserted left right kept dropped outdated takes noCritical atEnd drops =>
      rw [← List.append_assoc]
      refine (drops.perm.append_right _).trans ?_
      refine (List.perm_middle.append_right _).trans ?_
      exact takes.perm.cons queued
  | @coalesced left right old key large splits isKey sameKey first =>
      subst splits
      refine (List.perm_append_singleton old _).trans ?_
      refine (List.perm_middle.cons old).trans ((List.Perm.swap queued old _).trans ?_)
      exact List.perm_middle.symm.cons queued

theorem EnqueueEffect.unprotected (effect : EnqueueEffect host settings before queued result) :
    ∀ lost ∈ result.dropped ++ result.replaced.toList, lost.isDropProtectedEvent = false := by
  intro lost isLost
  rw [List.mem_append, Option.mem_toList] at isLost
  cases effect with
  | inserted takes noCritical atEnd drops =>
      rcases isLost with isDropped | isOld
      · exact drops.unprotected lost isDropped
      · exact takes.unprotected isOld
  | coalesced large splits isKey sameKey first =>
      rcases isLost with isDropped | isOld
      · cases isDropped
      · cases isOld
        exact not_dropProtected_of_key sameKey

theorem EnqueueEffect.critical (effect : EnqueueEffect host settings before queued result) :
    result.events.filter (·.isCommandCriticalEvent) =
      before.filter (·.isCommandCriticalEvent) ++ [queued].filter (·.isCommandCriticalEvent) := by
  have ofKey : ∀ (old : QueuedEvent) (key : String × String), coalescingKey host old = some key →
      old.isCommandCriticalEvent = false := fun old key isKey =>
    not_critical_of_unprotected (not_dropProtected_of_key isKey)
  cases effect with
  | @inserted left right kept dropped outdated takes noCritical atEnd drops =>
      have noneRight : right.filter (·.isCommandCriticalEvent) = [] := by
        rw [List.filter_eq_nil_iff]
        intro other present
        simp [noCritical other present]
      have remaining : (left ++ right).filter (·.isCommandCriticalEvent) =
          before.filter (·.isCommandCriticalEvent) := by
        generalize left ++ right = items at takes
        cases takes with
        | nothing => rfl
        | outdated splits isKey sameKey priority =>
            rw [splits, List.filter_append, List.filter_append, List.filter_cons,
              ofKey _ _ sameKey]
            rfl
      rw [drops.filter_eq fun _ => dropProtected_of_critical, ← remaining, List.filter_append,
        List.filter_append, noneRight, List.append_nil, ← List.singleton_append,
        List.filter_append, noneRight, List.append_nil]
  | @coalesced left right old key large splits isKey sameKey first =>
      rw [splits, List.filter_append, List.filter_append, List.filter_cons, List.filter_cons,
        List.filter_cons, ofKey _ _ isKey, ofKey _ _ sameKey]
      simp

/-! ## Selecting a batch -/

def remains (isMatching : QueuedEvent → Bool) (selected : List QueuedEvent)
    (queued : QueuedEvent) : Bool :=
  !selected.any (·.isSame queued) && isMatching queued

theorem addMatching_eq {limit : Nat} (distinct : (events.map QueuedEvent.arrival).Nodup)
    (itemLimit : Nat) (selected : List QueuedEvent) :
    addMatching limit isMatching events itemLimit selected =
      selected ++ (events.filter (remains isMatching selected)).take
          (min itemLimit (limit - selected.length)) := by
  induction events generalizing itemLimit selected with
  | nil => simp [addMatching]
  | cons queued events ih =>
      rw [List.map_cons, List.nodup_cons] at distinct
      rw [addMatching]
      split
      · have none : min itemLimit (limit - selected.length) = 0 := by omega
        rw [none, List.take_zero, List.append_nil]
      · split
        · next skipped =>
            rw [ih distinct.2, List.filter_cons_of_neg]
            intro taken
            rw [remains, Bool.and_eq_true, Bool.not_eq_true'] at taken
            rw [taken.1, taken.2] at skipped
            cases skipped
        · next taken =>
            have isTaken : remains isMatching selected queued = true := by
              simpa [remains] using taken
            have others : events.filter (remains isMatching (selected ++ [queued])) =
                events.filter (remains isMatching selected) := by
              apply List.filter_congr
              intro other present
              have apart : queued.isSame other = false := by
                rw [QueuedEvent.isSame, decide_eq_false_iff_not]
                intro same
                exact distinct.1 (List.mem_map.mpr ⟨other, present, same.symm⟩)
              rw [remains, remains, List.any_append, List.any_cons, apart, List.any_nil,
                Bool.or_false, Bool.or_false]
            have count : min itemLimit (limit - selected.length) =
                min (itemLimit - 1) (limit - (selected ++ [queued]).length) + 1 := by
              rw [List.length_append, List.length_singleton]
              omega
            rw [ih distinct.2, others, List.filter_cons_of_pos isTaken, count,
              List.take_succ_cons, List.append_assoc, List.singleton_append]

structure Selects (isInClass : QueuedEvent → Bool) (events selected : List QueuedEvent) : Prop where
  present : ∀ queued ∈ selected, queued ∈ events
  distinct : (selected.map QueuedEvent.arrival).Nodup
  first : selected.filter isInClass <+: events.filter isInClass

theorem not_isSame_of_distinct {left right : List QueuedEvent}
    (distinct : ((left ++ right).map QueuedEvent.arrival).Nodup) (here : queued ∈ left)
    (there : other ∈ right) : queued.isSame other = false := by
  rw [List.map_append, List.nodup_append] at distinct
  rw [QueuedEvent.isSame, decide_eq_false_iff_not]
  exact distinct.2.2 _ (List.mem_map_of_mem here) _ (List.mem_map_of_mem there)

def SameNumbers (events others : List QueuedEvent) : Prop :=
  ∀ queued ∈ events, ∀ other ∈ others, queued.arrival = other.arrival → queued = other

theorem filter_remains (sameNumbers : SameNumbers selected events)
    (distinct : (events.map QueuedEvent.arrival).Nodup)
    (split : selected.filter isInClass ++ rest = events.filter isInClass)
    (matching : ∀ queued, isInClass queued = true → isMatching queued = true) :
    (events.filter (remains isMatching selected)).filter isInClass = rest := by
  have same : (events.filter (remains isMatching selected)).filter isInClass =
      (events.filter isInClass).filter fun queued => !selected.any (·.isSame queued) := by
    rw [List.filter_filter, List.filter_filter]
    apply List.filter_congr
    intro queued _
    cases inClass : isInClass queued with
    | false => rw [Bool.false_and, Bool.and_false]
    | true => simp [remains, matching queued inClass]
  have gone : (selected.filter isInClass).filter
      (fun queued => !selected.any (·.isSame queued)) = [] := by
    rw [List.filter_eq_nil_iff]
    intro queued inClass
    have self : selected.any (·.isSame queued) = true :=
      List.any_eq_true.mpr ⟨queued, (List.mem_filter.mp inClass).1, by
        rw [QueuedEvent.isSame, decide_eq_true_eq]⟩
    rw [self]
    exact Bool.false_ne_true
  have classDistinct : ((selected.filter isInClass ++ rest).map QueuedEvent.arrival).Nodup := by
    rw [split]
    exact nodup_map_filter distinct _
  rw [same, ← split, List.filter_append, gone, List.nil_append, List.filter_eq_self]
  intro queued isRest
  have member : queued ∈ events ∧ isInClass queued = true := by
    rw [← List.mem_filter, ← split]
    exact List.mem_append_right _ isRest
  rw [Bool.not_eq_true', List.any_eq_false]
  intro other isSelected isSame
  have identical : other = queued := by
    rw [QueuedEvent.isSame, decide_eq_true_eq] at isSame
    exact sameNumbers other isSelected queued member.1 isSame
  subst identical
  have apart := not_isSame_of_distinct classDistinct
    (List.mem_filter.mpr ⟨isSelected, member.2⟩) isRest
  rw [isSame] at apart
  cases apart

/-- Adding matching events keeps the order of a class whose members all match or all do not. -/
theorem Selects.addMatching (selects : Selects isInClass events selected)
    (distinct : (events.map QueuedEvent.arrival).Nodup) (limit itemLimit : Nat) {holds : Bool}
    (uniform : ∀ queued, isInClass queued = true → isMatching queued = holds) :
    Selects isInClass events (addMatching limit isMatching events itemLimit selected) := by
  rw [addMatching_eq distinct]
  generalize min itemLimit (limit - selected.length) = count
  have added : ((events.filter (remains isMatching selected)).take count).Sublist events :=
    (List.take_sublist _ _).trans List.filter_sublist
  have new : ∀ queued ∈ (events.filter (remains isMatching selected)).take count,
      selected.any (·.isSame queued) = false := by
    intro queued taken
    have kept := (List.mem_filter.mp (List.mem_of_mem_take taken)).2
    rw [remains, Bool.and_eq_true, Bool.not_eq_true'] at kept
    exact kept.1
  refine ⟨?_, ?_, ?_⟩
  · intro queued present
    rcases List.mem_append.mp present with earlier | taken
    · exact selects.present queued earlier
    · exact added.subset taken
  · rw [List.map_append, List.nodup_append]
    refine ⟨selects.distinct, distinct.sublist (added.map _), ?_⟩
    intro number earlier other taken same
    rcases List.mem_map.mp earlier with ⟨queued, isEarlier, rfl⟩
    rcases List.mem_map.mp taken with ⟨later, isTaken, rfl⟩
    have apart := List.any_eq_false.mp (new later isTaken) queued isEarlier
    rw [QueuedEvent.isSame, decide_eq_true_eq] at apart
    exact apart same
  · rcases selects.first with ⟨rest, split⟩
    rw [List.filter_append]
    cases holds with
    | false =>
        have none : ((events.filter (remains isMatching selected)).take count).filter isInClass =
            [] := by
          rw [List.filter_eq_nil_iff]
          intro queued taken inClass
          have kept := (List.mem_filter.mp (List.mem_of_mem_take taken)).2
          rw [remains, uniform queued inClass, Bool.and_false] at kept
          cases kept
        rw [none, List.append_nil]
        exact ⟨rest, split⟩
    | true =>
        have sameNumbers : SameNumbers selected events := fun queued isSelected other present =>
          List.inj_on_of_nodup_map distinct (selects.present queued isSelected) present
        have left := filter_remains sameNumbers distinct split uniform
        have taken :=
          (List.take_prefix count (events.filter (remains isMatching selected))).filter isInClass
        rw [left] at taken
        rcases taken with ⟨remaining, splitRest⟩
        refine ⟨remaining, ?_⟩
        rw [List.append_assoc, splitRest, split]

/-- A class of events that every stage of the selection takes as a whole or leaves as a whole. -/
structure TakenAsOne (isInClass : QueuedEvent → Bool) (fast critical priority market : Bool) :
    Prop where
  fast : ∀ queued, isInClass queued = true → queued.isCoreFastBatchEvent = fast
  critical : ∀ queued, isInClass queued = true → queued.isCommandCriticalEvent = critical
  priority : ∀ queued, isInClass queued = true → queued.isPriorityEvent = priority
  market : ∀ queued, isInClass queued = true → queued.isMarketRefreshEvent = market

theorem selectEventBatch_selects {fast critical priority market : Bool}
    (asOne : TakenAsOne isInClass fast critical priority market) (settings : CoreIoSettings)
    (distinct : (worker.events.map QueuedEvent.arrival).Nodup) :
    Selects isInClass worker.events (selectEventBatch settings worker) := by
  have nothing : Selects isInClass worker.events [] :=
    ⟨fun _ absent => absurd absent List.not_mem_nil, List.nodup_nil, List.nil_prefix⟩
  have uniform : ∀ (isMatching : QueuedEvent → Bool) (holds : Bool),
      (∀ queued, isInClass queued = true → isMatching queued = holds) →
      ∀ queued, isInClass queued = true →
        (decide (queued.isCoreFastBatchEvent = selectBatchFastGroup worker) && isMatching queued) =
          (decide (fast = selectBatchFastGroup worker) && holds) := by
    intro isMatching holds matching queued inClass
    rw [asOne.fast queued inClass, matching queued inClass]
  apply Selects.addMatching _ distinct _ _ (uniform _ true fun _ _ => rfl)
  apply Selects.addMatching _ distinct _ _ (uniform _ market asOne.market)
  apply Selects.addMatching _ distinct _ _ (uniform _ (priority && !critical) ?_)
  · exact nothing.addMatching distinct _ _ (uniform _ critical asOne.critical)
  · intro queued inClass
    rw [asOne.priority queued inClass, asOne.critical queued inClass]

theorem critical_takenAsOne :
    TakenAsOne QueuedEvent.isCommandCriticalEvent false true false false where
  fast _ := isOfType_apart (by decide)
  critical _ := id
  priority _ := isOfType_apart (by decide)
  market _ := isOfType_apart (by decide)

def QueuedEvent.isPriceTick : QueuedEvent → Bool :=
  isOfType ["price_tick"]

theorem priceTick_takenAsOne : TakenAsOne QueuedEvent.isPriceTick true false false true where
  fast _ := isOfType_within (by decide)
  critical _ := isOfType_apart (by decide)
  priority _ := isOfType_apart (by decide)
  market _ := isOfType_within (by decide)

/-! ## Removing what was posted -/

def isPosted (host : Host) (posted queued : QueuedEvent) : Bool :=
  queued.isSame posted || queued.event.equals host posted.event

theorem removePostedEvent_eq (host : Host) (events : List QueuedEvent) (posted : QueuedEvent) :
    removePostedEvent host events posted = events.eraseP (isPosted host posted) := by
  rw [removePostedEvent]
  split
  · next isHead =>
      cases events with
      | nil => cases isHead
      | cons first rest =>
          rw [List.head?_cons, Option.any_some] at isHead
          rw [List.tail_cons, List.eraseP_cons_of_pos]
          rw [isPosted, isHead, Bool.true_or]
  · rfl

theorem removePostedEvent_sublist (host : Host) (events : List QueuedEvent)
    (posted : QueuedEvent) : (removePostedEvent host events posted).Sublist events := by
  rw [removePostedEvent_eq]
  exact List.eraseP_sublist

theorem sameEvent_of_isPosted (sameNumbers : SameNumbers [posted] events)
    (present : queued ∈ events) (isMatch : isPosted host posted queued = true) :
    queued.event.eventId = posted.event.eventId ∧
      queued.event.eventType = posted.event.eventType := by
  rw [isPosted, Bool.or_eq_true] at isMatch
  rcases isMatch with same | equal
  · rw [QueuedEvent.isSame, decide_eq_true_eq] at same
    have identical := sameNumbers posted (List.mem_singleton_self posted) queued present same.symm
    subst identical
    exact ⟨rfl, rfl⟩
  · exact sameEvent_of_equals equal

theorem isOfType_of_isPosted (sameNumbers : SameNumbers [posted] events)
    (present : queued ∈ events) (isMatch : isPosted host posted queued = true)
    (types : List String) : queued.isOfType types = posted.isOfType types := by
  apply isOfType_congr
  rw [(sameEvent_of_isPosted sameNumbers present isMatch).2]

theorem isPosted_self (host : Host) (posted : QueuedEvent) :
    isPosted host posted posted = true := by
  rw [isPosted, Bool.or_eq_true, QueuedEvent.isSame, decide_eq_true_eq]
  exact Or.inl rfl

theorem filter_removePosted_of_other (sameNumbers : SameNumbers [posted] events)
    (other : posted.isOfType types = false) :
    (removePostedEvent host events posted).filter (·.isOfType types) =
      events.filter (·.isOfType types) := by
  rw [removePostedEvent_eq]
  rcases List.exists_or_eq_self_of_eraseP (isPosted host posted) events with
    same | ⟨removed, left, right, _, isMatch, split, after⟩
  · rw [same]
  · have present : removed ∈ events := by
      rw [split]
      exact List.mem_append_right _ List.mem_cons_self
    have outside := (isOfType_of_isPosted sameNumbers present isMatch types).trans other
    rw [after, split, List.filter_append, List.filter_append, List.filter_cons, outside]
    rfl

theorem filter_removePosted_of_first (sameNumbers : SameNumbers [posted] events)
    (first : events.filter (·.isOfType types) = posted :: rest) :
    (removePostedEvent host events posted).filter (·.isOfType types) = rest := by
  have isFirst : posted ∈ events ∧ posted.isOfType types = true := by
    rw [← List.mem_filter, first]
    exact List.mem_cons_self
  rw [removePostedEvent_eq]
  rcases List.exists_of_eraseP isFirst.1 (isPosted_self host posted) with
    ⟨removed, left, right, none, isMatch, split, after⟩
  have present : removed ∈ events := by
    rw [split]
    exact List.mem_append_right _ List.mem_cons_self
  have inClass := (isOfType_of_isPosted sameNumbers present isMatch types).trans isFirst.2
  rw [split, List.filter_append, List.filter_cons_of_pos inClass] at first
  rw [after, List.filter_append]
  cases earlier : left.filter (·.isOfType types) with
  | nil =>
      rw [earlier, List.nil_append, List.cons.injEq] at first
      exact first.2
  | cons head tail =>
      rw [earlier, List.cons_append, List.cons.injEq] at first
      have isHead : head ∈ left := by
        apply List.mem_of_mem_filter (p := (·.isOfType types))
        rw [earlier]
        exact List.mem_cons_self
      rw [first.1] at isHead
      exact absurd (isPosted_self host posted) (none posted isHead)

theorem countP_removePosted (sameNumbers : SameNumbers [posted] events)
    (sameCount : ∀ queued other : QueuedEvent, queued.event.eventId = other.event.eventId →
      queued.event.eventType = other.event.eventType → counted queued = counted other)
    (present : counted posted = true → posted ∈ events) :
    events.countP counted =
      [posted].countP counted + (removePostedEvent host events posted).countP counted := by
  rw [removePostedEvent_eq, List.countP_singleton]
  by_cases isCounted : counted posted = true
  · rcases List.exists_of_eraseP (present isCounted) (isPosted_self host posted) with
      ⟨removed, left, right, none, isMatch, split, after⟩
    have member : removed ∈ events := by
      rw [split]
      exact List.mem_append_right _ List.mem_cons_self
    have same := sameEvent_of_isPosted sameNumbers member isMatch
    have removedCounted := (sameCount _ _ same.1 same.2).trans isCounted
    rw [after, split, if_pos isCounted, List.countP_append, List.countP_append,
      List.countP_cons_of_pos removedCounted]
    omega
  · rw [if_neg isCounted, Nat.zero_add]
    rcases List.exists_or_eq_self_of_eraseP (isPosted host posted) events with
      same | ⟨removed, left, right, none, isMatch, split, after⟩
    · rw [same]
    · have member : removed ∈ events := by
        rw [split]
        exact List.mem_append_right _ List.mem_cons_self
      have same := sameEvent_of_isPosted sameNumbers member isMatch
      have notCounted : ¬ counted removed = true := by
        rw [sameCount _ _ same.1 same.2]
        exact isCounted
      rw [after, split, List.countP_append, List.countP_append,
        List.countP_cons_of_neg notCounted]

theorem succeed_batch_events (distinct : (worker.events.map QueuedEvent.arrival).Nodup)
    (first : QueuedEvent) (rest : List QueuedEvent) :
    (CoreIoPost.succeed host worker (.batch first rest)).events =
      worker.events.filter (remains (fun _ => true) (first :: rest)) := by
  rw [CoreIoPost.succeed, foldl_removeNamed distinct]
  apply List.filter_congr
  intro queued _
  rw [remains, Bool.and_true, Bool.eq_iff_iff, decide_eq_true_eq, Bool.not_eq_true',
    List.any_eq_false, List.mem_map]
  constructor
  · intro absent other isPosted same
    rw [QueuedEvent.isSame, decide_eq_true_eq] at same
    exact absent ⟨other, isPosted, same⟩
  · rintro none ⟨other, isPosted, same⟩
    refine none other isPosted ?_
    rw [QueuedEvent.isSame, decide_eq_true_eq]
    exact same

theorem succeed_sublist (host : Host) (distinct : (worker.events.map QueuedEvent.arrival).Nodup)
    (post : CoreIoPost) :
    (post.succeed host worker).events.Sublist worker.events := by
  cases post with
  | batch first rest =>
      rw [succeed_batch_events distinct]
      exact List.filter_sublist
  | single queued => exact removePostedEvent_sublist host worker.events queued

theorem filter_succeed {post : CoreIoPost} (types : List String)
    (distinct : (worker.events.map QueuedEvent.arrival).Nodup)
    (sameNumbers : SameNumbers post.events worker.events)
    (first : post.events.filter (·.isOfType types) ++ rest =
      worker.events.filter (·.isOfType types)) :
    (post.succeed host worker).events.filter (·.isOfType types) = rest := by
  cases post with
  | batch head tail =>
      rw [succeed_batch_events distinct]
      exact filter_remains sameNumbers distinct first fun _ _ => rfl
  | single queued =>
      rw [CoreIoPost.events] at first sameNumbers
      by_cases inClass : queued.isOfType types = true
      · rw [List.filter_cons_of_pos inClass] at first
        exact filter_removePosted_of_first sameNumbers first.symm
      · rw [List.filter_cons_of_neg inClass, List.filter_nil, List.nil_append] at first
        rw [first]
        exact filter_removePosted_of_other sameNumbers (Bool.eq_false_iff.mpr inClass)

theorem countP_remains (distinct : (events.map QueuedEvent.arrival).Nodup)
    (selectedDistinct : (selected.map QueuedEvent.arrival).Nodup)
    (sameNumbers : SameNumbers selected events)
    (present : ∀ queued ∈ selected, counted queued = true → queued ∈ events) :
    events.countP counted =
      selected.countP counted +
        (events.filter (remains (fun _ => true) selected)).countP counted := by
  have isSelected : ∀ queued ∈ events,
      (¬ remains (fun _ => true) selected queued = true ↔ queued ∈ selected) := by
    intro queued isQueued
    rw [remains, Bool.and_true, Bool.not_eq_true', Bool.not_eq_false, List.any_eq_true]
    constructor
    · rintro ⟨other, isOther, same⟩
      rw [QueuedEvent.isSame, decide_eq_true_eq] at same
      rw [← sameNumbers other isOther queued isQueued same]
      exact isOther
    · intro taken
      exact ⟨queued, taken, by rw [QueuedEvent.isSame, decide_eq_true_eq]⟩
  have taken : ((events.filter fun queued => !remains (fun _ => true) selected queued).filter
      counted).Perm (selected.filter counted) := by
    rw [List.perm_ext_iff_of_nodup]
    · intro queued
      rw [List.mem_filter, List.mem_filter, List.mem_filter, Bool.not_eq_true', ← Bool.not_eq_true]
      constructor
      · rintro ⟨⟨isQueued, isTaken⟩, isCounted⟩
        exact ⟨(isSelected queued isQueued).mp isTaken, isCounted⟩
      · rintro ⟨isTaken, isCounted⟩
        have isQueued := present queued isTaken isCounted
        exact ⟨⟨isQueued, (isSelected queued isQueued).mpr isTaken⟩, isCounted⟩
    · exact ((List.Nodup.of_map _ distinct).filter _).filter _
    · exact (List.Nodup.of_map _ selectedDistinct).filter _
  rw [List.countP_eq_length_filter (l := selected), ← taken.length_eq,
    ← List.countP_eq_length_filter, Nat.add_comm, ← List.countP_append]
  exact ((List.filter_append_perm _ _).countP_eq counted).symm

theorem countP_succeed (host : Host) {post : CoreIoPost}
    (distinct : (worker.events.map QueuedEvent.arrival).Nodup)
    (postDistinct : (post.events.map QueuedEvent.arrival).Nodup)
    (sameNumbers : SameNumbers post.events worker.events)
    (sameCount : ∀ queued other : QueuedEvent, queued.event.eventId = other.event.eventId →
      queued.event.eventType = other.event.eventType → counted queued = counted other)
    (present : ∀ queued ∈ post.events, counted queued = true → queued ∈ worker.events) :
    worker.events.countP counted =
      post.events.countP counted + (post.succeed host worker).events.countP counted := by
  cases post with
  | batch first rest =>
      rw [succeed_batch_events distinct]
      exact countP_remains distinct postDistinct sameNumbers present
  | single queued =>
      exact countP_removePosted sameNumbers sameCount
        (present queued (List.mem_singleton_self queued))

/-! ## Numbers -/

/-- The numbers of the events are those of the calls, and the queue holds each event once. -/
structure Numbered (history : CoreIoHistory) : Prop where
  numbered : history.enqueued.map QueuedEvent.arrival = List.range history.enqueued.length
  known : ∀ queued ∈ history.worker.events, queued ∈ history.enqueued
  distinct : (history.worker.events.map QueuedEvent.arrival).Nodup
  flying : ∀ post, history.inFlight = some post →
    (∀ queued ∈ post.events, queued ∈ history.enqueued) ∧
      (post.events.map QueuedEvent.arrival).Nodup

theorem Numbered.sameNumbers (numbered : Numbered history) {others : List QueuedEvent}
    (known : ∀ queued ∈ events, queued ∈ history.enqueued)
    (othersKnown : ∀ queued ∈ others, queued ∈ history.enqueued) : SameNumbers events others := by
  intro queued present other isOther same
  have distinct : (history.enqueued.map QueuedEvent.arrival).Nodup := by
    rw [numbered.numbered]
    exact List.nodup_range
  exact List.inj_on_of_nodup_map distinct (known queued present) (othersKnown other isOther) same

theorem Numbered.fresh (numbered : Numbered history) (known : queued ∈ history.enqueued) :
    queued.arrival < history.enqueued.length := by
  rw [← List.mem_range, ← numbered.numbered]
  exact List.mem_map_of_mem known

theorem EnqueueEffect.events_subset (effect : EnqueueEffect host settings before queued result)
    (present : other ∈ result.events) :
    other = queued ∨ other ∈ before :=
  List.mem_cons.mp (effect.perm.subset (List.mem_append_left _ present))

theorem EnqueueEffect.mem_of_protected (effect : EnqueueEffect host settings before queued result)
    (isProtected : other.isDropProtectedEvent = true) (present : other ∈ before) :
    other ∈ result.events := by
  have either := effect.perm.symm.subset (List.mem_cons_of_mem queued present)
  rcases List.mem_append.mp either with kept | lost
  · exact kept
  · rw [effect.unprotected other lost] at isProtected
    cases isProtected

/-- What the steps of a run can do. -/
inductive CoreIoStep (host : Host) (settings : CoreIoSettings) (history : CoreIoHistory) :
    CoreIoOp → CoreIoHistory → Prop
  | unchanged (op : CoreIoOp) : CoreIoStep host settings history op history
  | enqueue (event : GatewayEvent) :
      CoreIoStep host settings history (.enqueue event)
        (history.enqueue host settings (history.arriving event))
  | startBatch {first : QueuedEvent} {rest : List QueuedEvent}
      (selected : selectEventBatch settings history.worker = first :: rest) :
      CoreIoStep host settings history .startBatch
        { history with inFlight := some (.batch first rest) }
  | startSingle {queued : QueuedEvent} (head : history.worker.events.head? = some queued) :
      CoreIoStep host settings history .startSingle
        { history with inFlight := some (.single queued) }
  | succeed {post : CoreIoPost} (flying : history.inFlight = some post) :
      CoreIoStep host settings history (.finish true)
        { history with
          worker := post.succeed host history.worker
          inFlight := none
          posted := history.posted ++ post.events }
  | fail : CoreIoStep host settings history (.finish false) { history with inFlight := none }

theorem next_step (host : Host) (settings : CoreIoSettings) (history : CoreIoHistory)
    (op : CoreIoOp) : CoreIoStep host settings history op (history.next host settings op) := by
  have idle : ∀ starting : CoreIoOp, history.inFlight = none →
      history.starts settings starting = none →
        { history with inFlight := history.starts settings starting } = history := by
    intro starting isIdle nothing
    rw [nothing, ← isIdle]
  rw [CoreIoHistory.next.eq_def]
  split
  · split
    · exact .enqueue _
    · exact .unchanged _
  · next isIdle =>
      cases selected : selectEventBatch settings history.worker with
      | nil =>
          have nothing : history.starts settings .startBatch = none := by
            rw [CoreIoHistory.starts, selected]
          rw [idle _ isIdle nothing]
          exact .unchanged _
      | cons first rest =>
          have starts : history.starts settings .startBatch = some (.batch first rest) := by
            rw [CoreIoHistory.starts, selected]
          rw [starts]
          exact .startBatch selected
  · next isIdle =>
      cases starts : history.starts settings .startSingle with
      | none =>
          rw [← starts, idle _ isIdle starts]
          exact .unchanged _
      | some post =>
          rw [CoreIoHistory.starts] at starts
          split at starts
          · rw [Option.map_eq_some_iff] at starts
            rcases starts with ⟨queued, head, rfl⟩
            exact .startSingle head
          · cases starts
  · next flying => exact .succeed flying
  · exact .fail
  · exact .unchanged _

theorem numbered_start : Numbered .start where
  numbered := rfl
  known _ absent := absurd absent List.not_mem_nil
  distinct := List.nodup_nil
  flying _ flying := by cases flying

theorem Numbered.enqueue (host : Host) (settings : CoreIoSettings) (numbered : Numbered history)
    (event : GatewayEvent) :
    Numbered (history.enqueue host settings (history.arriving event)) := by
  have effect := enqueueEvent_effect host settings history.worker.events (history.arriving event)
  have arrival : (history.arriving event).arrival = history.enqueued.length := rfl
  rw [CoreIoHistory.enqueue]
  generalize history.arriving event = queued at effect arrival
  generalize enqueueEvent host settings history.worker.events queued = result at effect
  refine ⟨?_, ?_, ?_, ?_⟩
  · rw [List.map_append, numbered.numbered, List.length_append, List.length_singleton,
      List.range_succ, List.map_singleton, arrival]
  · intro other present
    rcases effect.events_subset present with rfl | earlier
    · exact List.mem_append_right _ (List.mem_singleton_self _)
    · exact List.mem_append_left _ (numbered.known other earlier)
  · have all : ((queued :: history.worker.events).map QueuedEvent.arrival).Nodup := by
      rw [List.map_cons, List.nodup_cons]
      refine ⟨?_, numbered.distinct⟩
      rw [List.mem_map]
      rintro ⟨other, present, same⟩
      have earlier := numbered.fresh (numbered.known other present)
      rw [same, arrival] at earlier
      exact Nat.lt_irrefl _ earlier
    have kept := (effect.perm.map QueuedEvent.arrival).nodup_iff.mpr all
    rw [List.map_append, List.nodup_append] at kept
    exact kept.1
  · intro post flying
    rcases numbered.flying post flying with ⟨known, distinct⟩
    exact ⟨fun other present => List.mem_append_left _ (known other present), distinct⟩

theorem Numbered.next (host : Host) (settings : CoreIoSettings) (numbered : Numbered history)
    (op : CoreIoOp) :
    Numbered (history.next host settings op) := by
  have step := next_step host settings history op
  generalize history.next host settings op = after at step
  cases step with
  | unchanged => exact numbered
  | enqueue event => exact numbered.enqueue host settings event
  | @startBatch first rest selected =>
      refine ⟨numbered.numbered, numbered.known, numbered.distinct, ?_⟩
      intro post flying
      cases flying
      have selects := selectEventBatch_selects critical_takenAsOne settings numbered.distinct
      rw [selected] at selects
      exact ⟨fun queued present => numbered.known queued (selects.present queued present),
        selects.distinct⟩
  | @startSingle queued head =>
      refine ⟨numbered.numbered, numbered.known, numbered.distinct, ?_⟩
      intro post flying
      cases flying
      refine ⟨?_, List.nodup_singleton _⟩
      intro other present
      rw [CoreIoPost.events, List.mem_singleton] at present
      subst present
      exact numbered.known other (List.mem_of_mem_head? head)
  | @succeed post flying =>
      have sublist := succeed_sublist host numbered.distinct post
      exact ⟨numbered.numbered,
        fun queued present => numbered.known queued (sublist.subset present),
        numbered.distinct.sublist (sublist.map _), fun _ flying => by cases flying⟩
  | fail =>
      exact ⟨numbered.numbered, numbered.known, numbered.distinct, fun _ flying => by cases flying⟩

/-! ## Events that matter for an order -/

def protectedUnder (eventId : String) (queued : QueuedEvent) : Bool :=
  queued.isDropProtectedEvent && queued.event.eventId = eventId

/-- Events that matter for an order are posted in the order in which they came in, those that are
not posted wait in it, and no protected event is lost, dropped or replaced. -/
structure DeliversInOrder (history : CoreIoHistory) : Prop where
  inOrder : history.enqueued.filter (·.isCommandCriticalEvent) =
    history.posted.filter (·.isCommandCriticalEvent) ++
      history.worker.events.filter (·.isCommandCriticalEvent)
  counted : ∀ eventId, history.enqueued.countP (protectedUnder eventId) =
    history.posted.countP (protectedUnder eventId) +
      history.worker.events.countP (protectedUnder eventId)
  dropped : ∀ queued ∈ history.dropped, queued.isDropProtectedEvent = false
  replaced : ∀ queued ∈ history.replaced, queued.1.isDropProtectedEvent = false

/-- An event that matters for an order leaves the queue only as a post that holds it succeeds. -/
def LeavesByPost (host : Host) (settings : CoreIoSettings) (history : CoreIoHistory)
    (op : CoreIoOp) : Prop :=
  ∀ queued ∈ history.worker.events, queued.isCommandCriticalEvent = true →
    queued ∉ (history.next host settings op).worker.events →
      op = .finish true ∧ ∃ post, history.inFlight = some post ∧ queued ∈ post.events

/-- The post that is under way has the first events that matter for an order, and no protected
event has left the queue meanwhile. -/
structure FliesInOrder (events : List QueuedEvent) (post : CoreIoPost) : Prop where
  present : ∀ queued ∈ post.events, queued.isDropProtectedEvent = true → queued ∈ events
  first : post.events.filter (·.isCommandCriticalEvent) <+: events.filter (·.isCommandCriticalEvent)

structure OrderLine (history : CoreIoHistory) : Prop extends Numbered history,
    DeliversInOrder history where
  flies : ∀ post, history.inFlight = some post → FliesInOrder history.worker.events post

theorem protectedUnder_congr (eventId : String) (queued other : QueuedEvent)
    (sameId : queued.event.eventId = other.event.eventId)
    (sameType : queued.event.eventType = other.event.eventType) :
    protectedUnder eventId queued = protectedUnder eventId other := by
  have same : queued.isDropProtectedEvent = other.isDropProtectedEvent :=
    isOfType_congr dropProtectedEventTypes (by rw [sameType])
  rw [protectedUnder, protectedUnder, same, sameId]

theorem isProtected_of_under {eventId : String} (under : protectedUnder eventId queued = true) :
    queued.isDropProtectedEvent = true :=
  (Bool.and_eq_true_iff.mp under).1

theorem EnqueueEffect.countP (effect : EnqueueEffect host settings before queued result)
    (eventId : String) :
    result.events.countP (protectedUnder eventId) =
      before.countP (protectedUnder eventId) + [queued].countP (protectedUnder eventId) := by
  have lost : (result.dropped ++ result.replaced.toList).countP (protectedUnder eventId) = 0 := by
    rw [List.countP_eq_zero]
    intro other isLost under
    have isProtected := isProtected_of_under under
    rw [effect.unprotected other isLost] at isProtected
    cases isProtected
  have all := effect.perm.countP_eq (protectedUnder eventId)
  rw [List.countP_append, lost, ← List.singleton_append, List.countP_append] at all
  omega

theorem OrderLine.enqueue (line : OrderLine history) (event : GatewayEvent) :
    OrderLine (history.enqueue host settings (history.arriving event)) := by
  have effect := enqueueEvent_effect host settings history.worker.events (history.arriving event)
  have numbered := line.toNumbered.enqueue host settings event
  rw [CoreIoHistory.enqueue] at numbered ⊢
  generalize history.arriving event = queued at effect numbered
  generalize enqueueEvent host settings history.worker.events queued = result at effect numbered
  refine ⟨numbered, ⟨?_, ?_, ?_, ?_⟩, ?_⟩
  · rw [effect.critical, List.filter_append, line.inOrder, List.append_assoc]
  · intro eventId
    rw [effect.countP, List.countP_append, line.counted eventId, Nat.add_assoc]
  · intro lost isLost
    rcases List.mem_append.mp isLost with earlier | now
    · exact line.dropped lost earlier
    · exact effect.unprotected lost (List.mem_append_left _ now)
  · intro lost isLost
    rcases List.mem_append.mp isLost with earlier | now
    · exact line.replaced lost earlier
    · rcases List.mem_map.mp now with ⟨old, isOld, rfl⟩
      exact effect.unprotected old (List.mem_append_right _ isOld)
  · intro post flying
    have flies := line.flies post flying
    refine ⟨?_, ?_⟩
    · intro other present isProtected
      exact effect.mem_of_protected isProtected (flies.present other present isProtected)
    · rw [effect.critical]
      exact flies.first.trans (List.prefix_append _ _)

theorem OrderLine.next (line : OrderLine history) (op : CoreIoOp) :
    OrderLine (history.next host settings op) ∧ LeavesByPost host settings history op := by
  have numbered := line.toNumbered.next host settings op
  have step := next_step host settings history op
  rw [LeavesByPost]
  generalize history.next host settings op = after at numbered step
  have stays : ∀ {events : List QueuedEvent}, history.worker.events = events →
      ∀ queued ∈ history.worker.events, queued.isCommandCriticalEvent = true → queued ∉ events →
        op = .finish true ∧ ∃ post, history.inFlight = some post ∧ queued ∈ post.events := by
    intro events same queued present _ gone
    rw [same] at present
    exact absurd present gone
  cases step with
  | unchanged => exact ⟨line, stays rfl⟩
  | enqueue event =>
      refine ⟨line.enqueue event, ?_⟩
      intro queued present critical gone
      have effect := enqueueEvent_effect host settings history.worker.events
        (history.arriving event)
      rw [CoreIoHistory.enqueue] at gone
      generalize history.arriving event = arriving at effect gone
      generalize enqueueEvent host settings history.worker.events arriving = result at effect gone
      exact absurd (effect.mem_of_protected (dropProtected_of_critical critical) present) gone
  | @startBatch first rest selected =>
      refine ⟨⟨numbered, ⟨line.inOrder, line.counted, line.dropped, line.replaced⟩, ?_⟩, stays rfl⟩
      intro post flying
      cases flying
      have selects := selectEventBatch_selects critical_takenAsOne settings line.distinct
      rw [selected] at selects
      exact ⟨fun queued present _ => selects.present queued present, selects.first⟩
  | @startSingle queued head =>
      refine ⟨⟨numbered, ⟨line.inOrder, line.counted, line.dropped, line.replaced⟩, ?_⟩, stays rfl⟩
      intro post flying
      cases flying
      rcases List.head?_eq_some_iff.mp head with ⟨tail, isHead⟩
      refine ⟨?_, ?_⟩
      · intro other present _
        rw [CoreIoPost.events, List.mem_singleton] at present
        subst present
        exact List.mem_of_mem_head? head
      · have isPrefix : [queued] <+: history.worker.events := ⟨tail, isHead.symm⟩
        exact isPrefix.filter _
  | @succeed post flying =>
      have flies := line.flies post flying
      rcases line.flying post flying with ⟨known, postDistinct⟩
      have sameNumbers := line.toNumbered.sameNumbers known line.known
      rcases flies.first with ⟨rest, split⟩
      have critical : (post.succeed host history.worker).events.filter
          (·.isCommandCriticalEvent) = rest :=
        filter_succeed commandCriticalEventTypes line.distinct sameNumbers split
      refine ⟨⟨numbered, ⟨?_, ?_, line.dropped, line.replaced⟩,
        fun _ flying => by cases flying⟩, ?_⟩
      · rw [critical, List.filter_append, List.append_assoc, split]
        exact line.inOrder
      · intro eventId
        have counts := countP_succeed host line.distinct postDistinct sameNumbers
          (protectedUnder_congr eventId) fun queued present under =>
            flies.present queued present (isProtected_of_under under)
        rw [line.counted eventId, counts, List.countP_append, Nat.add_assoc]
      · intro queued present isCritical gone
        refine ⟨rfl, post, flying, ?_⟩
        have member : queued ∈ history.worker.events.filter (·.isCommandCriticalEvent) :=
          List.mem_filter.mpr ⟨present, isCritical⟩
        rw [← split] at member
        rcases List.mem_append.mp member with taken | waits
        · exact List.mem_of_mem_filter taken
        · rw [← critical] at waits
          exact absurd (List.mem_of_mem_filter waits) gone
  | fail =>
      exact ⟨⟨numbered, ⟨line.inOrder, line.counted, line.dropped, line.replaced⟩,
        fun _ flying => by cases flying⟩, stays rfl⟩

theorem orderLine_start : OrderLine .start where
  toNumbered := numbered_start
  inOrder := rfl
  counted _ := rfl
  dropped _ absent := absurd absent List.not_mem_nil
  replaced _ absent := absurd absent List.not_mem_nil
  flies _ flying := by cases flying

/-- In every run, whatever is handed over, posted and overflows, the events that matter for an
order leave the queue in the order in which they came in, each by a post that holds it, and no
protected event is lost. -/
theorem command_events_delivered (host : Host) (settings : CoreIoSettings) (ops : List CoreIoOp) :
    (coreIoSystem host settings).Throughout DeliversInOrder .start ops ∧
      (coreIoSystem host settings).Along (LeavesByPost host settings) .start ops := by
  have keeps : ∀ history op, OrderLine history →
      OrderLine ((coreIoSystem host settings).next history op) :=
    fun history op line => (line.next op).1
  constructor
  · rintro before after rfl
    exact (System.run_invariant OrderLine keeps orderLine_start before).toDeliversInOrder
  · exact System.along_of_invariant keeps (fun history op line => (line.next op).2)
      orderLine_start ops

end SuseokTrader
