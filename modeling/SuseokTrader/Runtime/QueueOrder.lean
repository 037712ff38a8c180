import SuseokTrader.Lib.Sorting
import SuseokTrader.Runtime.QueueBackfill

/-!
# The order in which candidates are evaluated

Rows of one priority are taken by the time of their last stamp. Every further
tick stamps the row of its candidate anew, and so does a failed evaluation, so
a row keeps its place only where nothing stamps it while another row of its
priority stands behind it. In a run where that never happens the rows of a
priority are taken in the order in which they were first put in.
-/

namespace SuseokTrader

/-! ## Runs -/

/-- What happens to the queue. A batch is made of polls and of what becomes of the rows it took. -/
inductive QueueOp where
  | enqueue (candidate : EvaluatedCandidate) (reason : String) (sourceEventId : Option String)
      (priority : Int) (now : Instant)
  | poll (limit : Nat) (excluded : List String)
  | finish (candidateId : String)
  | fail (candidateId errorMessage : String) (now : Instant)
  | bury (candidateId : String)
  | others (candidates : List EvaluatedCandidate) (deadLetters : List EvaluationDeadLetter)

variable (tables : EvaluationTables)

def EvaluationTables.keptBy :
    Checked EvaluationTables → EvaluationTables
  | .ok after => after
  | .error _ => tables

variable (settings : EvaluationSettings)

def queueSystem :
    System EvaluationTables QueueOp (List EvaluationQueueRow) where
  step tables
    | .enqueue candidate reason sourceEventId priority now =>
        (tables.keptBy ((tables.enqueueCandidate settings candidate reason sourceEventId priority
          (datetimeToWire now)).map Prod.fst), [])
    | .poll limit excluded => (tables, queueRows settings tables limit excluded)
    | .finish candidateId => (tables.deleteQueueRow candidateId, [])
    | .fail candidateId errorMessage now =>
        (tables.keptBy (markQueueError settings tables candidateId errorMessage now), [])
    | .bury candidateId => (tables.keptBy (tables.moveQueueRowToDeadLetter candidateId), [])
    | .others candidates deadLetters =>
        ({ tables with candidates := candidates, deadLetters := deadLetters }, [])

/-! ## What a fair queue does -/

/-- A candidate that is queued again is still taken before the rows of its priority that it was
taken before. -/
def KeepsItsPlace (before after : EvaluationTables) (candidateId : String) : Prop :=
  ∀ row moved other, before.queue.find? candidateId = some row →
    after.queue.find? candidateId = some moved → other ∈ before.queue.rows →
    other.candidateInstanceId ≠ candidateId → other.priority = row.priority →
    row.place ≤ other.place → moved.place ≤ other.place

/-- Of two rows of one priority that a poll may take, the one that was put in first is taken
first. -/
def TakenInOrder (tables : EvaluationTables) (limit : Nat)
    (excluded : List String) : Prop :=
  ∀ first ∈ tables.queue.rows, first.attempts < settings.incrementalEvaluationRetryLimit →
    first.candidateInstanceId ∉ excluded →
    ∀ second ∈ queueRows settings tables limit excluded, first.priority = second.priority →
      first.enqueuedAt < second.enqueuedAt →
      ∃ front back, queueRows settings tables limit excluded = front ++ second :: back ∧
        first ∈ front

def ServesInOrder (tables : EvaluationTables) :
    QueueOp → Prop
  | .enqueue candidate reason sourceEventId priority now =>
      KeepsItsPlace tables ((queueSystem settings).next tables
        (.enqueue candidate reason sourceEventId priority now)) candidate.candidateInstanceId
  | .poll limit excluded => TakenInOrder settings tables limit excluded
  | _ => True

/-! ## When it does -/

/-- A row that is stamped with this time comes last: the other rows of its priority were put in at
the same time, or before and stamped before. -/
def StampsLast (candidateId enqueuedAt stamp : String)
    (priority : Int) : Prop :=
  ∀ other ∈ tables.queue.rows, other.candidateInstanceId ≠ candidateId →
    other.priority = priority → other.enqueuedAt ≠ enqueuedAt →
    other.enqueuedAt < enqueuedAt ∧ other.updatedAt < stamp

def StandsLast (row : EvaluationQueueRow) : Prop :=
  ∀ other ∈ tables.queue.rows, other.candidateInstanceId ≠ row.candidateInstanceId →
    other.priority = row.priority → ¬ row.place ≤ other.place

/-- A stamp finds its candidate new, or behind every other row of its priority. -/
def StampsInTurn : QueueOp → Prop
  | .enqueue candidate _ _ priority now =>
      let found := tables.queue.find? candidate.candidateInstanceId
      (found.isNone → StampsLast tables candidate.candidateInstanceId (datetimeToWire now)
        (datetimeToWire now) priority) ∧
      ∀ row ∈ found, StampsLast tables candidate.candidateInstanceId row.enqueuedAt
        (datetimeToWire now) (max priority row.priority) ∧
          (priority ≤ row.priority → StandsLast tables row)
  | .fail candidateId _ now =>
      ∀ row ∈ tables.queue.find? candidateId,
        StampsLast tables candidateId row.enqueuedAt (datetimeToWire now) row.priority
  | _ => True

instance (tables : EvaluationTables) (candidateId enqueuedAt stamp : String) (priority : Int) :
    Decidable (StampsLast tables candidateId enqueuedAt stamp priority) :=
  inferInstanceAs (Decidable (∀ other ∈ _, _))

instance (tables : EvaluationTables) (row : EvaluationQueueRow) :
    Decidable (StandsLast tables row) :=
  inferInstanceAs (Decidable (∀ other ∈ _, _))

instance (tables : EvaluationTables) : (op : QueueOp) → Decidable (StampsInTurn tables op)
  | .enqueue _ _ _ _ _ => inferInstanceAs (Decidable (_ ∧ ∀ row ∈ _, _))
  | .fail _ _ _ => inferInstanceAs (Decidable (∀ row ∈ _, _))
  | .poll _ _ | .finish _ | .bury _ | .others _ _ => inferInstanceAs (Decidable True)

def FirstComeFirst : Prop :=
  ∀ first ∈ tables.queue.rows, ∀ second ∈ tables.queue.rows, first.priority = second.priority →
    first.enqueuedAt < second.enqueuedAt → first.place ≤ second.place

variable {settings : EvaluationSettings} {tables after : EvaluationTables}
  {candidate : EvaluatedCandidate} {reason : String} {sourceEventId : Option String}
  {priority : Int}

/-! ## One step -/

theorem place_le_of_stamp {first second : EvaluationQueueRow}
    (same : first.priority = second.priority) (earlier : first.updatedAt < second.updatedAt) :
    first.place ≤ second.place := by
  rw [EvaluationQueueRow.place, EvaluationQueueRow.place, Prod.Lex.toLex_le_toLex,
    Prod.Lex.toLex_le_toLex]
  exact Or.inr ⟨by rw [same], Or.inl earlier⟩

theorem mem_upsertQueueRow {row other : EvaluationQueueRow}
    (present : other ∈ (tables.upsertQueueRow row).queue.rows) :
    other = row ∨ other ∈ tables.queue.rows ∧
      other.candidateInstanceId ≠ row.candidateInstanceId := by
  have found := Table.find?_of_mem present
  by_cases same : Keyed.key row = Keyed.key other
  · rw [← same] at found
    have stored : (tables.upsertQueueRow row).queue.find? (Keyed.key row) = some row :=
      Table.find?_upsert_self tables.queue row
    rw [stored, Option.some.injEq] at found
    exact Or.inl found.symm
  · have kept : (tables.upsertQueueRow row).queue.find? (Keyed.key other) =
        tables.queue.find? (Keyed.key other) := Table.find?_upsert_of_ne tables.queue same
    rw [kept] at found
    exact Or.inr ⟨Table.mem_of_find? found, Ne.symm same⟩

theorem FirstComeFirst.of_subset (law : FirstComeFirst tables)
    (fewer : after.queue.rows ⊆ tables.queue.rows) : FirstComeFirst after :=
  fun first isFirst second isSecond => law first (fewer isFirst) second (fewer isSecond)

theorem FirstComeFirst.upsertQueueRow {row : EvaluationQueueRow} (law : FirstComeFirst tables)
    (last : StampsLast tables row.candidateInstanceId row.enqueuedAt row.updatedAt row.priority) :
    FirstComeFirst (tables.upsertQueueRow row) := by
  intro first isFirst second isSecond same earlier
  rcases mem_upsertQueueRow isFirst with rfl | ⟨firstOld, notFirst⟩
  · rcases mem_upsertQueueRow isSecond with rfl | ⟨secondOld, notSecond⟩
    · exact absurd earlier (lt_irrefl _)
    · have before := last second secondOld notSecond same.symm (ne_of_gt earlier)
      exact absurd (earlier.trans before.1) (lt_irrefl _)
  · rcases mem_upsertQueueRow isSecond with rfl | ⟨secondOld, notSecond⟩
    · exact place_le_of_stamp same (last first firstOld notFirst same (ne_of_lt earlier)).2
    · exact law first firstOld second secondOld same earlier

theorem rows_deleteQueueRow (candidateId : String) :
    (tables.deleteQueueRow candidateId).queue.rows ⊆ tables.queue.rows :=
  fun _ present => List.mem_of_mem_filter present

theorem rows_moveQueueRowToDeadLetter {candidateId : String}
    (moved : tables.moveQueueRowToDeadLetter candidateId = .ok after) :
    after.queue.rows ⊆ tables.queue.rows := by
  unfold EvaluationTables.moveQueueRowToDeadLetter at moved
  split at moved
  · cases moved
    exact rows_deleteQueueRow candidateId
  · cases moved

theorem enqueueCandidate_cases {now : String} {queued : Bool}
    (success : tables.enqueueCandidate settings candidate reason sourceEventId priority now =
      .ok (after, queued)) :
    after.queue.rows ⊆ tables.queue.rows ∨
      after = tables.upsertQueueRow (tables.queuedRow candidate reason sourceEventId priority now) := by
  unfold EvaluationTables.enqueueCandidate at success
  by_cases exhausted : tables.isExhausted settings candidate.candidateInstanceId = true
  · rw [if_pos exhausted] at success
    rcases Checked.bind_eq_ok.mp success with ⟨middle, moved, rest⟩
    dsimp only at rest
    rw [if_pos (EvaluationTables.standsAs_moved exhausted moved).2] at rest
    cases rest
    exact Or.inl (rows_moveQueueRowToDeadLetter moved)
  · rw [if_neg exhausted] at success
    rcases Checked.bind_eq_ok.mp success with ⟨middle, isSame, rest⟩
    cases isSame
    dsimp only at rest
    split at rest
    · cases rest
      exact Or.inl (List.Subset.refl _)
    · cases rest
      exact Or.inr rfl

theorem keptBy_enqueueCandidate (settings : EvaluationSettings) (tables : EvaluationTables)
    (candidate : EvaluatedCandidate) (reason : String) (sourceEventId : Option String)
    (priority : Int) (now : Instant) :
    ((queueSystem settings).next tables
        (.enqueue candidate reason sourceEventId priority now)).queue.rows ⊆ tables.queue.rows ∨
      (queueSystem settings).next tables (.enqueue candidate reason sourceEventId priority now) =
        tables.upsertQueueRow (tables.queuedRow candidate reason sourceEventId priority
          (datetimeToWire now)) := by
  simp only [System.next, queueSystem]
  cases success : tables.enqueueCandidate settings candidate reason sourceEventId priority
      (datetimeToWire now) with
  | error failure => exact Or.inl (List.Subset.refl _)
  | ok result => exact enqueueCandidate_cases success

theorem FirstComeFirst.enqueue (law : FirstComeFirst tables) {now : Instant}
    (inTurn : StampsInTurn tables (.enqueue candidate reason sourceEventId priority now)) :
    FirstComeFirst ((queueSystem settings).next tables
      (.enqueue candidate reason sourceEventId priority now)) := by
  rcases keptBy_enqueueCandidate settings tables candidate reason sourceEventId priority now with
    fewer | stamps
  · exact law.of_subset fewer
  · rw [stamps]
    apply law.upsertQueueRow
    unfold EvaluationTables.queuedRow
    cases found : tables.queue.find? candidate.candidateInstanceId with
    | none => exact inTurn.1 (by rw [found]; rfl)
    | some row => exact (inTurn.2 row found).1

theorem keepsItsPlace_enqueue {now : Instant}
    (inTurn : StampsInTurn tables (.enqueue candidate reason sourceEventId priority now)) :
    KeepsItsPlace tables ((queueSystem settings).next tables
      (.enqueue candidate reason sourceEventId priority now)) candidate.candidateInstanceId := by
  intro row moved other found foundMoved present different same ahead
  rcases keptBy_enqueueCandidate settings tables candidate reason sourceEventId priority now with
    fewer | stamps
  · have kept := Table.find?_of_mem (fewer (Table.mem_of_find? foundMoved))
    rw [Table.key_of_find? foundMoved, found, Option.some.injEq] at kept
    exact kept ▸ ahead
  · rcases lt_or_ge row.priority priority with higher | lower
    · rw [stamps, EvaluationTables.find?_upsertQueuedRow, Option.some.injEq] at foundMoved
      subst foundMoved
      simp only [EvaluationTables.queuedRow, found, EvaluationQueueRow.place,
        Prod.Lex.toLex_le_toLex]
      omega
    · rw [← Table.key_of_find? found] at different
      exact absurd ahead ((inTurn.2 row found).2 lower other present different same)

theorem FirstComeFirst.fail (law : FirstComeFirst tables) {candidateId errorMessage : String}
    {now : Instant} (inTurn : StampsInTurn tables (.fail candidateId errorMessage now)) :
    FirstComeFirst ((queueSystem settings).next tables (.fail candidateId errorMessage now)) := by
  simp only [System.next, queueSystem, markQueueError]
  cases found : tables.queue.find? candidateId with
  | none => exact law
  | some row =>
      dsimp only
      split
      · cases moved : tables.moveQueueRowToDeadLetter candidateId with
        | error failure => exact law
        | ok after => exact law.of_subset (rows_moveQueueRowToDeadLetter moved)
      · have isKey : row.candidateInstanceId = candidateId := Table.key_of_find? found
        apply law.upsertQueueRow
        rw [isKey]
        exact inTurn row found

theorem FirstComeFirst.next (law : FirstComeFirst tables) (op : QueueOp)
    (inTurn : StampsInTurn tables op) : FirstComeFirst ((queueSystem settings).next tables op) := by
  cases op with
  | enqueue candidate reason sourceEventId priority now => exact law.enqueue inTurn
  | poll limit excluded => exact law
  | finish candidateId => exact law.of_subset (rows_deleteQueueRow candidateId)
  | fail candidateId errorMessage now => exact law.fail inTurn
  | bury candidateId =>
      simp only [System.next, queueSystem]
      cases moved : tables.moveQueueRowToDeadLetter candidateId with
      | error failure => exact law
      | ok after => exact law.of_subset (rows_moveQueueRowToDeadLetter moved)
  | others candidates deadLetters => exact law

theorem FirstComeFirst.takenInOrder (law : FirstComeFirst tables) (limit : Nat)
    (excluded : List String) : TakenInOrder settings tables limit excluded := by
  intro first present tries notExcluded second taken same earlier
  have isItem : first ∈ (tables.queue.rows.filter fun row =>
      row.attempts < settings.incrementalEvaluationRetryLimit &&
        row.candidateInstanceId ∉ excluded).insertionSort
          fun left right => left.place ≤ right.place := by
    simp [present, tries, notExcluded]
  have isSecond : second ∈ tables.queue.rows := by
    have sorted := List.mem_of_mem_take taken
    rw [List.mem_insertionSort] at sorted
    exact List.mem_of_mem_filter sorted
  refine exists_front_of_sorted (List.pairwise_insertionSort _ _) isItem taken ?_ ?_
  · rintro rfl
    exact lt_irrefl _ earlier
  · intro back
    have samePlace := le_antisymm (law first present second isSecond same earlier) back
    simp only [EvaluationQueueRow.place, EmbeddingLike.apply_eq_iff_eq, Prod.mk.injEq] at samePlace
    have isSame : first = second :=
      List.inj_on_of_nodup_map tables.queue.nodup present isSecond samePlace.2.2
    exact lt_irrefl _ (isSame ▸ earlier)

theorem FirstComeFirst.servesInOrder (law : FirstComeFirst tables) (op : QueueOp)
    (inTurn : StampsInTurn tables op) : ServesInOrder settings tables op := by
  cases op with
  | enqueue candidate reason sourceEventId priority now => exact keepsItsPlace_enqueue inTurn
  | poll limit excluded => exact law.takenInOrder limit excluded
  | finish _ | fail _ _ _ | bury _ | others _ _ => exact trivial

/-! ## Every run -/

/-- From an empty queue, while no stamp passes over a row that stands behind, no further tick costs
a candidate its place and the rows of a priority are taken in the order in which they came. -/
theorem queue_serves_in_order (settings : EvaluationSettings) {tables : EvaluationTables}
    (empty : tables.queue = .empty) {ops : List QueueOp}
    (inTurn : (queueSystem settings).Along StampsInTurn tables ops) :
    (queueSystem settings).Along (ServesInOrder settings) tables ops := by
  have law : FirstComeFirst tables := by
    intro first isFirst
    rw [empty] at isFirst
    cases isFirst
  exact inTurn.imp FirstComeFirst (fun _ op law inTurn => law.next op inTurn)
    (fun _ op law inTurn => law.servesInOrder op inTurn) law

def tickedCandidate (number : String) : EvaluatedCandidate :=
  ⟨"candidate-" ++ number, "2026-07-17", "00000" ++ number, .watching, "2026-07-17T01:00:00Z"⟩

/-- A tick for the candidate, some seconds after one o'clock. -/
def priceTick (number : String) (seconds : Nat) : QueueOp :=
  .enqueue (tickedCandidate number) "PRICE_TICK" (some "event") 100
    (63919846800000000 + seconds * 1000000)

def emptyQueue : EvaluationTables where
  candidates := [tickedCandidate "1", tickedCandidate "2"]
  krxTick _ := none
  strategyEvaluatedAt _ := none
  riskEvaluatedAt _ := none
  deadLetters := []
  queue := .empty

theorem queue_serves_in_order_twice :
    (queueSystem backfillSettings).Along (ServesInOrder backfillSettings) emptyQueue
      [priceTick "1" 1, priceTick "2" 2, .poll 1 [], .finish "candidate-1", priceTick "2" 3] :=
  queue_serves_in_order backfillSettings rfl (by decide +kernel)

def tickedRow (number enqueuedAt updatedAt : String) : EvaluationQueueRow where
  candidateInstanceId := "candidate-" ++ number
  tradeDate := "2026-07-17"
  code := "00000" ++ number
  reason := "PRICE_TICK"
  sourceEventId := some "event"
  priority := 100
  enqueuedAt := enqueuedAt
  updatedAt := updatedAt
  attempts := 0
  lastError := none

/-- The second tick of the first candidate puts it behind the second candidate. -/
theorem ticked_candidate_falls_behind :
    ¬ (queueSystem backfillSettings).Along (ServesInOrder backfillSettings) emptyQueue
      [priceTick "1" 1, priceTick "2" 2, priceTick "1" 3] := by
  rintro ⟨_, _, keeps, _⟩
  have behind := keeps (tickedRow "1" "2026-07-17T01:00:01Z" "2026-07-17T01:00:01Z")
    (tickedRow "1" "2026-07-17T01:00:01Z" "2026-07-17T01:00:03Z")
    (tickedRow "2" "2026-07-17T01:00:02Z" "2026-07-17T01:00:02Z") (by decide +kernel)
    (by decide +kernel) (by decide +kernel) (by decide) rfl (by decide +kernel)
  revert behind
  decide +kernel

end SuseokTrader
