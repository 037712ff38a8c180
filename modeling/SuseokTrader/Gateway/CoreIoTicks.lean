import SuseokTrader.Gateway.CoreIoLaws

/-!
# Ticks on their way to Core

Above a size the queue puts a tick in the place of the first one of its code.
The ticks of a stock stay in order as long as that one is of the same exchange
and no other of its stock stands behind it.
-/

namespace SuseokTrader

/-! ## The law -/

def tickStock (host : Host) (queued : QueuedEvent) : Option (String × Option String) :=
  if queued.isPriceTick then
    some (Text.strip ((queued.event.payload.get "code").textOrEmpty host),
      (priceTickPayloadExchange host queued.event.payload).toOption)
  else none

def isOfStock (host : Host) (stock : String × Option String) (queued : QueuedEvent) : Bool :=
  tickStock host queued = some stock

def Ascending (events : List QueuedEvent) : Prop :=
  events.Pairwise fun earlier later => earlier.arrival < later.arrival

/-- The ticks of a stock are posted in the order in which they came in, the last of them waits, or
was posted or dropped, and no tick is replaced by one of another stock or exchange. -/
structure TicksInOrder (host : Host) (history : CoreIoHistory) : Prop where
  inOrder : ∀ stock, Ascending (history.posted.filter (isOfStock host stock))
  last : ∀ stock queued, (history.enqueued.filter (isOfStock host stock)).getLast? = some queued →
    queued ∈ history.worker.events ∨
      ∃ other ∈ history.posted ++ history.dropped, other.event.eventId = queued.event.eventId
  ownStock : ∀ pair ∈ history.replaced, ∀ stock, tickStock host pair.1 = some stock →
    tickStock host pair.2 = some stock

/-- A tick that is to replace one of its code meets one of its exchange first, and no other of its
stock behind that. -/
def KeepsTickOrder (host : Host) (settings : CoreIoSettings) (history : CoreIoHistory) :
    CoreIoOp → Prop
  | .enqueue event =>
      (history.arriving event).isPriceTick = true →
        settings.coalesceAfterSize ≤ history.worker.events.length →
          ∀ key left old right, history.worker.events = left ++ old :: right →
            coalescingKey host (history.arriving event) = some key →
              coalescingKey host old = some key →
                (∀ other ∈ left, coalescingKey host other ≠ some key) →
                  tickStock host old = tickStock host (history.arriving event) ∧
                    ∀ other ∈ right, tickStock host other ≠ tickStock host (history.arriving event)
  | _ => True

/-! ## Ticks and keys -/

variable {host : Host} {queued other : QueuedEvent} {stock : String × Option String}
  {before : List QueuedEvent} {isInClass : QueuedEvent → Bool} {settings : CoreIoSettings}
  {history : CoreIoHistory} {event : GatewayEvent} {result : Enqueued}

theorem isPriceTick_of_stock (isStock : tickStock host queued = some stock) :
    queued.isPriceTick = true := by
  rw [tickStock] at isStock
  split at isStock
  · next isTick => exact isTick
  · cases isStock

theorem coalescingKey_of_tick (isTick : queued.isPriceTick = true) :
    coalescingKey host queued =
      keyUnlessBlank "price_tick" ((queued.event.payload.get "code").textOrEmpty host) := by
  have isType : normalizeEventType queued.event.eventType = "price_tick" := by
    have member := isOfType_eq_true.mp isTick
    rw [List.mem_singleton] at member
    exact member
  have notHeartbeat : ¬ "price_tick" = "heartbeat" := by decide
  rw [coalescingKey, isType, if_neg notHeartbeat, if_pos (Or.inl rfl)]

theorem sameKey_of_stock (isStock : tickStock host queued = some stock)
    (isOther : tickStock host other = some stock) :
    coalescingKey host other = coalescingKey host queued := by
  have isTick := isPriceTick_of_stock isStock
  have isOtherTick := isPriceTick_of_stock isOther
  rw [tickStock, if_pos isTick] at isStock
  rw [tickStock, if_pos isOtherTick, ← isStock, Option.some.injEq, Prod.mk.injEq] at isOther
  rw [coalescingKey_of_tick isTick, coalescingKey_of_tick isOtherTick, keyUnlessBlank,
    keyUnlessBlank, isOther.1]

theorem isPriceTick_of_key {key : String × String} (isKey : coalescingKey host queued = some key)
    (isOther : coalescingKey host other = some key) :
    queued.isPriceTick = other.isPriceTick :=
  isOfType_congr _ (sameType_of_key isKey isOther)

theorem not_priceTick_of_priority (priority : queued.isPriorityEvent = true) :
    queued.isPriceTick = false :=
  isOfType_apart (by decide) priority

theorem not_priceTick_of_critical (critical : queued.isCommandCriticalEvent = true) :
    queued.isPriceTick = false :=
  isOfType_apart (by decide) critical

theorem isOfStock_eq_false (host : Host) (stock : String × Option String)
    (notTick : queued.isPriceTick = false) : isOfStock host stock queued = false := by
  rw [isOfStock, tickStock, notTick]
  rfl

/-! ## What handing over does to ticks -/

theorem TakesOutdated.sublist {remaining : List QueuedEvent} {outdated : Option QueuedEvent}
    (takes : TakesOutdated host before queued outdated remaining) : remaining.Sublist before := by
  cases takes with
  | nothing => exact List.Sublist.refl _
  | @outdated left right old key splits isKey sameKey priority =>
      rw [splits]
      exact (List.sublist_cons_self old right).append_left left

theorem sublist_of_inserted {left right kept dropped : List QueuedEvent}
    {outdated : Option QueuedEvent}
    (takes : TakesOutdated host before queued outdated (left ++ right))
    (atEnd : queued.isCommandCriticalEvent = false → queued.isPriorityEvent = false → right = [])
    (drops : Drops (left ++ queued :: right) kept dropped)
    (onlyTicks : ∀ other, isInClass other = true → other.isPriceTick = true) :
    (kept.filter isInClass).Sublist (before.filter isInClass ++ [queued].filter isInClass) := by
  have remaining := takes.sublist.filter isInClass
  refine (drops.sublist.filter isInClass).trans ?_
  by_cases inClass : isInClass queued = true
  · have isTick := onlyTicks queued inClass
    have noRight : right = [] := by
      apply atEnd
      · rw [← Bool.not_eq_true]
        intro critical
        rw [not_priceTick_of_critical critical] at isTick
        cases isTick
      · rw [← Bool.not_eq_true]
        intro priority
        rw [not_priceTick_of_priority priority] at isTick
        cases isTick
    subst noRight
    rw [List.append_nil] at remaining
    rw [List.filter_append]
    exact remaining.append_right _
  · rw [List.filter_append, List.filter_cons_of_neg inClass, ← List.filter_append,
      List.filter_cons_of_neg inClass, List.filter_nil, List.append_nil]
    exact remaining

/-- Where the condition holds, a new tick stands behind all others of its stock. -/
theorem filter_stock_of_enqueue (keeps : KeepsTickOrder host settings history (.enqueue event))
    (effect : EnqueueEffect host settings history.worker.events (history.arriving event) result)
    (stock : String × Option String) :
    (result.events.filter (isOfStock host stock)).Sublist
      (history.worker.events.filter (isOfStock host stock) ++
        [history.arriving event].filter (isOfStock host stock)) := by
  rw [KeepsTickOrder] at keeps
  generalize history.arriving event = queued at keeps effect
  cases effect with
  | inserted takes noCritical atEnd drops =>
      refine sublist_of_inserted takes atEnd drops ?_
      intro other isStock
      rw [isOfStock, decide_eq_true_eq] at isStock
      exact isPriceTick_of_stock isStock
  | @coalesced left right old key large splits isKey sameKey first =>
      dsimp only
      have sameTick := isPriceTick_of_key isKey sameKey
      by_cases isTick : queued.isPriceTick = true
      · rcases keeps isTick large key left old right splits isKey sameKey first with
          ⟨ofStock, behind⟩
        by_cases isStock : tickStock host queued = some stock
        · have noLeft : left.filter (isOfStock host stock) = [] := by
            rw [List.filter_eq_nil_iff]
            intro other present isOther
            rw [isOfStock, decide_eq_true_eq] at isOther
            have otherKey := sameKey_of_stock isStock isOther
            rw [isKey] at otherKey
            exact first other present otherKey
          have noRight : right.filter (isOfStock host stock) = [] := by
            rw [List.filter_eq_nil_iff]
            intro other present isOther
            rw [isOfStock, decide_eq_true_eq] at isOther
            exact behind other present (isOther.trans isStock.symm)
          rw [List.filter_append, noLeft, List.nil_append, ← List.singleton_append,
            List.filter_append, noRight, List.append_nil]
          exact List.sublist_append_right _ _
        · have notNew : ¬ isOfStock host stock queued = true := by
            rw [isOfStock, decide_eq_true_eq]
            exact isStock
          have notOld : ¬ isOfStock host stock old = true := by
            rw [isOfStock, decide_eq_true_eq, ofStock]
            exact isStock
          rw [splits, List.filter_append, List.filter_append, List.filter_cons_of_neg notNew,
            List.filter_cons_of_neg notOld]
          exact List.sublist_append_left _ _
      · rw [Bool.not_eq_true] at isTick
        have notNew := isOfStock_eq_false host stock isTick
        have notOld := isOfStock_eq_false host stock (sameTick.symm.trans isTick)
        rw [splits, List.filter_append, List.filter_append,
          List.filter_cons_of_neg (Bool.eq_false_iff.mp notNew),
          List.filter_cons_of_neg (Bool.eq_false_iff.mp notOld)]
        exact List.sublist_append_left _ _

/-! ## What a post does to ticks -/

theorem filter_ticks (onlyTicks : ∀ other, isInClass other = true → other.isPriceTick = true)
    (events : List QueuedEvent) :
    (events.filter (·.isPriceTick)).filter isInClass = events.filter isInClass := by
  rw [List.filter_filter]
  apply List.filter_congr
  intro queued _
  cases inClass : isInClass queued with
  | false => rfl
  | true => rw [onlyTicks queued inClass]; rfl

theorem filter_remains_of_apart {events : List QueuedEvent} {posted : QueuedEvent}
    (apart : ∀ queued ∈ events, isInClass queued = true → queued.arrival ≠ posted.arrival) :
    (events.filter (remains (fun _ => true) [posted])).filter isInClass =
      events.filter isInClass := by
  rw [List.filter_filter]
  apply List.filter_congr
  intro queued present
  cases inClass : isInClass queued with
  | false => rfl
  | true =>
      have other := (apart queued present inClass).symm
      simp [remains, QueuedEvent.isSame, other]

/-- A post takes its ticks out of the queue. -/
theorem filter_ticks_succeed (host : Host) {worker : CoreIoWorker} {post : CoreIoPost}
    (isInClass : QueuedEvent → Bool)
    (distinct : (worker.events.map QueuedEvent.arrival).Nodup)
    (sameNumbers : SameNumbers post.events worker.events)
    (front : ∀ queued, post = .single queued → queued.isPriceTick = true →
      queued ∈ worker.events → ∃ rest, worker.events.filter (·.isPriceTick) = queued :: rest)
    (onlyTicks : ∀ other, isInClass other = true → other.isPriceTick = true) :
    ((post.succeed host worker).events.filter isInClass).Sublist
      ((worker.events.filter (remains (fun _ => true) post.events)).filter isInClass) := by
  cases post with
  | batch first rest =>
      rw [succeed_batch_events distinct]
      exact List.Sublist.refl _
  | single queued =>
      rw [CoreIoPost.events] at sameNumbers ⊢
      by_cases isFront : queued.isPriceTick = true ∧ queued ∈ worker.events
      · rcases front queued rfl isFront.1 isFront.2 with ⟨rest, isRest⟩
        have taken : [queued].filter (·.isPriceTick) ++ rest =
            worker.events.filter (·.isPriceTick) := by
          rw [List.filter_cons_of_pos isFront.1, List.filter_nil, isRest, List.singleton_append]
        have left := filter_remains sameNumbers distinct taken fun _ _ => rfl
        have after : (removePostedEvent host worker.events queued).filter (·.isPriceTick) = rest :=
          filter_removePosted_of_first sameNumbers isRest
        rw [CoreIoPost.succeed, ← filter_ticks onlyTicks, after,
          ← filter_ticks onlyTicks (worker.events.filter _), left]
      · have apart : ∀ other ∈ worker.events, isInClass other = true →
            other.arrival ≠ queued.arrival := by
          intro other present inClass same
          have identical := sameNumbers queued (List.mem_singleton_self _) other present same.symm
          subst identical
          exact isFront ⟨onlyTicks _ inClass, present⟩
        rw [filter_remains_of_apart apart]
        exact (removePostedEvent_sublist host worker.events queued).filter isInClass

theorem mem_succeed_or {worker : CoreIoWorker} {post : CoreIoPost}
    (distinct : (worker.events.map QueuedEvent.arrival).Nodup)
    (sameNumbers : SameNumbers post.events worker.events) (present : queued ∈ worker.events) :
    queued ∈ (post.succeed host worker).events ∨
      ∃ other ∈ post.events, other.event.eventId = queued.event.eventId := by
  cases post with
  | batch first rest =>
      rw [succeed_batch_events distinct, List.mem_filter]
      by_cases isLeft : remains (fun _ => true) (first :: rest) queued = true
      · exact Or.inl ⟨present, isLeft⟩
      · rw [remains, Bool.and_true, Bool.not_eq_true', Bool.not_eq_false, List.any_eq_true]
          at isLeft
        rcases isLeft with ⟨other, isPosted, same⟩
        rw [QueuedEvent.isSame, decide_eq_true_eq] at same
        have identical := sameNumbers other isPosted queued present same
        exact Or.inr ⟨other, isPosted, by rw [identical]⟩
  | single posted =>
      rw [CoreIoPost.succeed, removePostedEvent_eq]
      rcases List.exists_or_eq_self_of_eraseP (isPosted host posted) worker.events with
        same | ⟨removed, left, right, _, isMatch, split, after⟩
      · rw [same]
        exact Or.inl present
      · rw [split, List.mem_append, List.mem_cons] at present
        rw [after, List.mem_append]
        rcases present with isLeft | rfl | isRight
        · exact Or.inl (Or.inl isLeft)
        · have isMember : queued ∈ worker.events := by
            rw [split]
            exact List.mem_append_right _ List.mem_cons_self
          have same := sameEvent_of_isPosted sameNumbers isMember isMatch
          exact Or.inr ⟨posted, List.mem_singleton_self _, same.1.symm⟩
        · exact Or.inl (Or.inr isRight)

/-! ## The line of a stock -/

theorem Ascending.append_new {events : List QueuedEvent} (ascending : Ascending events)
    (new : ∀ other ∈ events, other.arrival < queued.arrival) (isInClass : QueuedEvent → Bool) :
    Ascending (events ++ [queued].filter isInClass) := by
  have last : Ascending (events ++ [queued]) := by
    refine List.pairwise_append.mpr ⟨ascending, List.pairwise_singleton _ _, ?_⟩
    intro other present same isSame
    rw [List.mem_singleton] at isSame
    rw [isSame]
    exact new other present
  exact List.Pairwise.sublist (List.filter_sublist.append_left events) last

/-- Posted and waiting ticks of a stock stand in the order in which they came in, whether the post
that is under way succeeds or fails. -/
structure TickLine (host : Host) (history : CoreIoHistory) : Prop extends Numbered history,
    TicksInOrder host history where
  postedKnown : ∀ queued ∈ history.posted, queued ∈ history.enqueued
  waiting : ∀ stock, Ascending (history.posted.filter (isOfStock host stock) ++
    history.worker.events.filter (isOfStock host stock))
  flies : ∀ post, history.inFlight = some post → ∀ stock,
    Ascending ((history.posted ++ post.events).filter (isOfStock host stock) ++
      (history.worker.events.filter (remains (fun _ => true) post.events)).filter
        (isOfStock host stock))
  front : ∀ queued, history.inFlight = some (.single queued) → queued.isPriceTick = true →
    queued ∈ history.worker.events →
      ∃ rest, history.worker.events.filter (·.isPriceTick) = queued :: rest

theorem onlyTicks_isOfStock (other : QueuedEvent) (isStock : isOfStock host stock other = true) :
    other.isPriceTick = true := by
  rw [isOfStock, decide_eq_true_eq] at isStock
  exact isPriceTick_of_stock isStock

/-- The first tick stays the first for as long as it is in the queue. -/
theorem EnqueueEffect.front {first : QueuedEvent} {rest : List QueuedEvent}
    (effect : EnqueueEffect host settings before queued result)
    (distinct : (before.map QueuedEvent.arrival).Nodup)
    (isFront : before.filter (·.isPriceTick) = first :: rest) (other : first ≠ queued)
    (present : first ∈ result.events) :
    ∃ later, result.events.filter (·.isPriceTick) = first :: later := by
  have isTick : first.isPriceTick = true := by
    have member : first ∈ before.filter (·.isPriceTick) := by
      rw [isFront]
      exact List.mem_cons_self
    exact (List.mem_filter.mp member).2
  have once : first ∉ rest := by
    have ticks := (List.Nodup.of_map _ distinct).filter (·.isPriceTick)
    rw [isFront, List.nodup_cons] at ticks
    exact ticks.1
  cases effect with
  | @inserted left right kept dropped outdated takes noCritical atEnd drops =>
      have sublist := sublist_of_inserted takes atEnd drops
        (fun queued (isTick : queued.isPriceTick = true) => isTick)
      rw [isFront, List.cons_append, List.sublist_cons_iff] at sublist
      rcases sublist with within | ⟨later, same, _⟩
      · have member := within.subset (List.mem_filter.mpr ⟨present, isTick⟩)
        rcases List.mem_append.mp member with isRest | isNew
        · exact absurd isRest once
        · exact absurd (List.mem_singleton.mp (List.mem_of_mem_filter isNew)) other
      · exact ⟨later, same⟩
  | @coalesced left right old key large splits isKey sameKey isFirst =>
      rw [splits, List.filter_append] at isFront
      rw [List.filter_append]
      cases ticksLeft : left.filter (·.isPriceTick) with
      | cons head tail =>
          rw [ticksLeft, List.cons_append, List.cons.injEq] at isFront
          rw [isFront.1]
          exact ⟨_, rfl⟩
      | nil =>
          have isRight : first ∈ right := by
            rcases List.mem_append.mp present with isLeft | isLater
            · have member := List.mem_filter.mpr ⟨isLeft, isTick⟩
              rw [ticksLeft] at member
              cases member
            · exact (List.mem_cons.mp isLater).resolve_left other
          have member := List.mem_filter.mpr ⟨isRight, isTick⟩
          rw [ticksLeft, List.nil_append] at isFront
          by_cases oldTick : old.isPriceTick = true
          · rw [List.filter_cons_of_pos oldTick, List.cons.injEq] at isFront
            rw [isFront.2] at member
            exact absurd member once
          · have newTick : ¬ queued.isPriceTick = true := by
              rw [isPriceTick_of_key isKey sameKey]
              exact oldTick
            rw [List.filter_cons_of_neg oldTick] at isFront
            rw [List.filter_cons_of_neg newTick, isFront]
            exact ⟨rest, rfl⟩

theorem EnqueueEffect.new (effect : EnqueueEffect host settings before queued result) :
    queued ∈ result.events ∨ queued ∈ result.dropped := by
  cases effect with
  | inserted takes noCritical atEnd drops =>
      exact List.mem_append.mp (drops.perm.symm.subset (List.mem_append_right _ List.mem_cons_self))
  | coalesced large splits isKey sameKey first =>
      exact Or.inl (List.mem_append_right _ List.mem_cons_self)

theorem EnqueueEffect.old (effect : EnqueueEffect host settings before queued result)
    (present : other ∈ before) :
    other ∈ result.events ∨ other ∈ result.dropped ∨ result.replaced = some other := by
  have either := effect.perm.symm.subset (List.mem_cons_of_mem queued present)
  rwa [List.mem_append, List.mem_append, Option.mem_toList] at either

theorem TakesOutdated.not_priceTick {remaining : List QueuedEvent} {old : QueuedEvent}
    (takes : TakesOutdated host before queued (some old) remaining) : old.isPriceTick = false := by
  cases takes with
  | outdated splits isKey sameKey priority =>
      rw [isPriceTick_of_key sameKey isKey]
      exact not_priceTick_of_priority priority

theorem EnqueueEffect.ownStock (keeps : KeepsTickOrder host settings history (.enqueue event))
    {old : QueuedEvent}
    (effect : EnqueueEffect host settings history.worker.events (history.arriving event) result)
    (replaces : result.replaced = some old) (isStock : tickStock host old = some stock) :
    tickStock host (history.arriving event) = some stock := by
  have isTick := isPriceTick_of_stock isStock
  cases effect with
  | inserted takes noCritical atEnd drops =>
      subst replaces
      rw [takes.not_priceTick] at isTick
      cases isTick
  | coalesced large splits isKey sameKey first =>
      rw [Option.some.injEq] at replaces
      subst replaces
      rw [isPriceTick_of_key sameKey isKey] at isTick
      rw [← (keeps isTick large _ _ _ _ splits isKey sameKey first).1]
      exact isStock

theorem TickLine.enqueue (line : TickLine host history)
    (keeps : KeepsTickOrder host settings history (.enqueue event)) :
    TickLine host (history.enqueue host settings (history.arriving event)) := by
  have effect := enqueueEvent_effect host settings history.worker.events (history.arriving event)
  have numbered := line.toNumbered.enqueue host settings event
  have inStock := filter_stock_of_enqueue keeps effect
  have ownStock : ∀ old stock, (enqueueEvent host settings history.worker.events
      (history.arriving event)).replaced = some old → tickStock host old = some stock →
        tickStock host (history.arriving event) = some stock :=
    fun old stock replaces isStock => effect.ownStock keeps replaces isStock
  have new : ∀ queued ∈ history.enqueued, queued.arrival < (history.arriving event).arrival :=
    fun queued known => line.toNumbered.fresh known
  rw [CoreIoHistory.enqueue] at numbered ⊢
  generalize history.arriving event = queued at effect numbered inStock ownStock new
  generalize enqueueEvent host settings history.worker.events queued = result
    at effect numbered inStock ownStock
  refine ⟨numbered, ⟨line.inOrder, ?_, ?_⟩, ?_, ?_, ?_, ?_⟩
  · intro stock last isLast
    dsimp only at isLast ⊢
    rw [List.filter_append, List.getLast?_append] at isLast
    by_cases isStock : isOfStock host stock queued = true
    · rw [List.filter_cons_of_pos isStock] at isLast
      have isNew : queued = last := by simpa using isLast
      subst isNew
      rcases effect.new with waits | dropped
      · exact Or.inl waits
      · exact Or.inr ⟨queued, List.mem_append_right _ (List.mem_append_right _ dropped), rfl⟩
    · rw [List.filter_cons_of_neg isStock] at isLast
      have wasLast : (history.enqueued.filter (isOfStock host stock)).getLast? = some last := by
        simpa using isLast
      rcases line.last stock last wasLast with waits | ⟨other, isOther, sameId⟩
      · rcases effect.old waits with kept | dropped | replaced
        · exact Or.inl kept
        · exact Or.inr ⟨last, List.mem_append_right _ (List.mem_append_right _ dropped), rfl⟩
        · have lastStock : tickStock host last = some stock := by
            have member := List.mem_of_getLast? wasLast
            simpa [isOfStock] using (List.mem_filter.mp member).2
          refine absurd ?_ isStock
          rw [isOfStock, decide_eq_true_eq]
          exact ownStock last stock replaced lastStock
      · refine Or.inr ⟨other, ?_, sameId⟩
        rcases List.mem_append.mp isOther with posted | dropped
        · exact List.mem_append_left _ posted
        · exact List.mem_append_right _ (List.mem_append_left _ dropped)
  · intro pair isPair stock isStock
    rcases List.mem_append.mp isPair with earlier | now
    · exact line.ownStock pair earlier stock isStock
    · rcases List.mem_map.mp now with ⟨old, isOld, rfl⟩
      exact ownStock old stock (Option.mem_toList.mp isOld) isStock
  · exact fun other posted => List.mem_append_left _ (line.postedKnown other posted)
  · intro stock
    refine List.Pairwise.sublist ((inStock stock).append_left _) ?_
    rw [← List.append_assoc]
    refine (line.waiting stock).append_new ?_ _
    intro other present
    apply new
    rcases List.mem_append.mp present with posted | waits
    · exact line.postedKnown other (List.mem_of_mem_filter posted)
    · exact line.known other (List.mem_of_mem_filter waits)
  · intro post flying stock
    have left : ((result.events.filter (remains (fun _ => true) post.events)).filter
        (isOfStock host stock)).Sublist
        ((history.worker.events.filter (remains (fun _ => true) post.events)).filter
          (isOfStock host stock) ++ [queued].filter (isOfStock host stock)) := by
      rw [List.filter_comm, List.filter_comm (l := history.worker.events)]
      refine ((inStock stock).filter _).trans ?_
      rw [List.filter_append]
      exact List.filter_sublist.append_left _
    refine List.Pairwise.sublist (left.append_left _) ?_
    rw [← List.append_assoc]
    refine (line.flies post flying stock).append_new ?_ _
    intro other present
    apply new
    rcases List.mem_append.mp present with either | waits
    · rcases List.mem_append.mp (List.mem_of_mem_filter either) with posted | taken
      · exact line.postedKnown other posted
      · exact (line.flying post flying).1 other taken
    · exact line.known other (List.mem_of_mem_filter (List.mem_of_mem_filter waits))
  · intro first flying isTick present
    have known := (line.flying _ flying).1 first (List.mem_singleton_self first)
    have other : first ≠ queued := by
      rintro rfl
      exact Nat.lt_irrefl _ (new first known)
    rcases effect.events_subset present with isNew | before
    · exact absurd isNew other
    · rcases line.front first flying isTick before with ⟨rest, isFront⟩
      exact effect.front line.distinct isFront other present

theorem TickLine.next {op : CoreIoOp} (line : TickLine host history)
    (keeps : KeepsTickOrder host settings history op) :
    TickLine host (history.next host settings op) := by
  have numbered := line.toNumbered.next host settings op
  have step := next_step host settings history op
  generalize history.next host settings op = after at numbered step
  cases step with
  | unchanged => exact line
  | enqueue event => exact line.enqueue keeps
  | @startBatch first rest selected =>
      refine ⟨numbered, ⟨line.inOrder, line.last, line.ownStock⟩, line.postedKnown, line.waiting,
        ?_, ?_⟩
      · intro post flying stock
        cases flying
        have selects := selectEventBatch_selects priceTick_takenAsOne settings line.distinct
        rw [selected] at selects
        rcases selects.first with ⟨later, split⟩
        have sameNumbers : SameNumbers (first :: rest) history.worker.events :=
          line.toNumbered.sameNumbers
            (fun queued present => line.known queued (selects.present queued present)) line.known
        have left := filter_remains sameNumbers line.distinct split fun _ _ => rfl
        have ascending := line.waiting stock
        rw [← filter_ticks onlyTicks_isOfStock history.worker.events, ← split, List.filter_append,
          filter_ticks onlyTicks_isOfStock, ← List.append_assoc, ← List.filter_append] at ascending
        rw [CoreIoPost.events, ← filter_ticks onlyTicks_isOfStock (history.worker.events.filter _),
          left]
        exact ascending
      · exact fun _ flying => by cases flying
  | @startSingle queued head =>
      rcases List.head?_eq_some_iff.mp head with ⟨tail, isHead⟩
      refine ⟨numbered, ⟨line.inOrder, line.last, line.ownStock⟩, line.postedKnown, line.waiting,
        ?_, ?_⟩
      · intro post flying stock
        cases flying
        have ascending := line.waiting stock
        have distinct := line.distinct
        have sameNumbers : SameNumbers [queued] history.worker.events := by
          refine line.toNumbered.sameNumbers ?_ line.known
          intro other isQueued
          rw [List.mem_singleton] at isQueued
          subst isQueued
          exact line.known other (List.mem_of_mem_head? head)
        have split : [queued].filter (isOfStock host stock) ++ tail.filter (isOfStock host stock) =
            history.worker.events.filter (isOfStock host stock) := by
          rw [isHead, ← List.filter_append, List.singleton_append]
        have left := filter_remains sameNumbers distinct split fun _ _ => rfl
        rw [← split, ← List.append_assoc, ← List.filter_append] at ascending
        rw [CoreIoPost.events, left]
        exact ascending
      · intro other flying isTick _
        cases flying
        rw [isHead, List.filter_cons_of_pos isTick]
        exact ⟨_, rfl⟩
  | @succeed post flying =>
      have known := (line.flying post flying).1
      have sameNumbers := line.toNumbered.sameNumbers known line.known
      have front : ∀ queued, post = .single queued → queued.isPriceTick = true →
          queued ∈ history.worker.events →
            ∃ rest, history.worker.events.filter (·.isPriceTick) = queued :: rest := by
        rintro queued rfl
        exact line.front queued flying
      have waiting : ∀ stock, Ascending ((history.posted ++ post.events).filter
          (isOfStock host stock) ++ (post.succeed host history.worker).events.filter
            (isOfStock host stock)) := by
        intro stock
        have left := filter_ticks_succeed host (isOfStock host stock) line.distinct
          sameNumbers front onlyTicks_isOfStock
        exact List.Pairwise.sublist (left.append_left _) (line.flies post flying stock)
      refine ⟨numbered, ⟨?_, ?_, line.ownStock⟩, ?_, waiting, (fun _ flying => by cases flying),
        fun _ flying => by cases flying⟩
      · exact fun stock => (List.pairwise_append.mp (waiting stock)).1
      · intro stock last isLast
        rcases line.last stock last isLast with waits | ⟨other, isOther, sameId⟩
        · refine (mem_succeed_or line.distinct sameNumbers waits).imp_right ?_
          rintro ⟨other, isPosted, sameId⟩
          exact ⟨other, List.mem_append_left _ (List.mem_append_right _ isPosted), sameId⟩
        · refine Or.inr ⟨other, ?_, sameId⟩
          rcases List.mem_append.mp isOther with posted | dropped
          · exact List.mem_append_left _ (List.mem_append_left _ posted)
          · exact List.mem_append_right _ dropped
      · intro queued posted
        rcases List.mem_append.mp posted with earlier | now
        · exact line.postedKnown queued earlier
        · exact known queued now
  | fail =>
      exact ⟨numbered, ⟨line.inOrder, line.last, line.ownStock⟩, line.postedKnown, line.waiting,
        (fun _ flying => by cases flying), fun _ flying => by cases flying⟩

theorem tickLine_start (host : Host) : TickLine host .start where
  toNumbered := numbered_start
  inOrder _ := List.Pairwise.nil
  last _ _ isLast := by cases isLast
  ownStock _ absent := absurd absent List.not_mem_nil
  postedKnown _ absent := absurd absent List.not_mem_nil
  waiting _ := List.Pairwise.nil
  flies _ flying := by cases flying
  front _ flying := by cases flying

def threeTickSettings : CoreIoSettings :=
  .make true 2 10000 100 50

/-- A price tick of one stock on the first exchange. -/
def krxTick (eventId : String) (price : Int) (stripped : Stripped eventId) : GatewayEvent where
  eventId := eventId
  eventType := "price_tick"
  source := "kiwoom_gateway"
  ts := 0
  payload := [("code", .str "005930"), ("price", .int price),
    ("metadata", .obj [("exchange", .str "KRX")])]
  commandId := none
  idempotencyKey := none
  eventId_stripped := stripped
  eventType_stripped := stripped_priceTick
  source_stripped := stripped_kiwoomGateway
  commandId_stripped := strippedOption_none
  idempotencyKey_stripped := strippedOption_none

/-- Two ticks wait when a third one of the same stock comes, and all are posted. -/
def threeTicks : List CoreIoOp :=
  [.enqueue (krxTick "tick-1" 70000 stripped_firstTick),
    .enqueue (krxTick "tick-2" 70100 (by decide +kernel)),
    .enqueue (krxTick "tick-3" 70200 (by decide +kernel)), .startBatch, .finish true]

/-- A host for payloads without fractions. -/
def plainHost : Host where
  floatRepr := id
  float := fun _ => none
  floatOfInt := fun value => some (.finite value)
  reprText := id
  database := none

theorem threeTicks_posted :
    (((coreIoSystem plainHost threeTickSettings).run .start threeTicks).posted.filter
      (isOfStock plainHost ("005930", some "KRX"))).map QueuedEvent.arrival = [2, 1] := by
  decide +kernel

end SuseokTrader
