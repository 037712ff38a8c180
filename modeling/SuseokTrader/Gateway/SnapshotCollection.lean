import SuseokTrader.Gateway.OrderAttribution
import SuseokTrader.Gateway.SnapshotCollector

/-!
# Collections of broker snapshots

A collection ends once, and is complete exactly if all pages were read, unless
a request that was called back already is then refused, or a page that comes
after its request has returned cannot be brought to its form.
-/

namespace SuseokTrader

/-! ## What is promised -/

def SnapshotEvent.isCompleted : SnapshotEvent → Bool
  | .completed _ _ => true
  | _ => false

def SnapshotEvent.isSubmitted : SnapshotEvent → Bool
  | .submitted _ _ => true
  | _ => false

def EndsOnce (events : List SnapshotEvent) : Prop :=
  ∃ before status state, events = before ++ [.completed status state] ∧
    ∀ event ∈ before, event.isCompleted = false

/-- The rows of all pages by section, if each section is read up to a page without a
continuation. -/
def readSections (host : Host) (maxPages : Nat) : TrBehaviour → List BrokerSnapshotSection → Nat →
    Option (BrokerSnapshotSection → List SnapshotRow)
  | _, [], _ => some fun _ => []
  | .refused _, _ :: _, _ => none
  | .calledBack _ result next, part :: parts, page =>
      match snapshotRows host part result.rows with
      | (_, some _) => none
      | (rows, none) =>
          if result.reportedErrors ≠ [] then none
          else
            (if result.continuation ≠ "2" then readSections host maxPages next parts 1
              else if maxPages ≤ page then none
              else readSections host maxPages next (part :: parts) (page + 1)).map fun later =>
                Function.update later part (rows ++ later part)

structure SnapshotCollected (host : Host) (snapshotId : String) (maxPagesPerSection : Int)
    (behaviour : TrBehaviour) : Prop where
  ends : EndsOnce (startCollection host snapshotId maxPagesPerSection behaviour).events
  bounded : (startCollection host snapshotId maxPagesPerSection behaviour).events.countP
    SnapshotEvent.isSubmitted ≤ 3 * clampPages maxPagesPerSection
  complete : ∀ status state, .completed status state ∈
      (startCollection host snapshotId maxPagesPerSection behaviour).events →
    (status = .complete ↔ (readSections host (clampPages maxPagesPerSection) behaviour
      BrokerSnapshotSection.requested 1).isSome) ∧
    ∀ rows, readSections host (clampPages maxPagesPerSection) behaviour
      BrokerSnapshotSection.requested 1 = some rows → state.rows = rows

def TrTiming.IsAccepted : TrTiming → Prop
  | .afterReturn => True
  | .beforeReturn refusal => refusal = none

/-- Of the requests that the collection comes to, none is refused after it was called back, and
none is called back after its return with a row that has no form. -/
def BehavesOrderly (host : Host) (maxPages : Nat) :
    TrBehaviour → List BrokerSnapshotSection → Nat → Prop
  | _, [], _ => True
  | .refused _, _ :: _, _ => True
  | .calledBack timing result next, part :: parts, page =>
      match pageOutcome host maxPages part page result with
      | .raised _ => timing ≠ .afterReturn
      | .failed | .overLimit => timing.IsAccepted
      | .more => timing.IsAccepted ∧ BehavesOrderly host maxPages next (part :: parts) (page + 1)
      | .last => timing.IsAccepted ∧ BehavesOrderly host maxPages next parts 1

/-! ## Orderly collections -/

section Orderly

variable {host : Host} {snapshotId : String} {maxPages : Nat}

theorem readSections_calledBack (timing : TrTiming) (result : TrRequestResult)
    (next : TrBehaviour) (part : BrokerSnapshotSection) (parts : List BrokerSnapshotSection)
    (page : Nat) :
    readSections host maxPages (.calledBack timing result next) (part :: parts) page =
      (match pageOutcome host maxPages part page result with
        | .more => readSections host maxPages next (part :: parts) (page + 1)
        | .last => readSections host maxPages next parts 1
        | _ => none).map fun later =>
          Function.update later part ((snapshotRows host part result.rows).1 ++ later part) := by
  rw [readSections, pageOutcome]
  rcases snapshotRows host part result.rows with ⟨rows, failure⟩
  cases failure with
  | some failure => rfl
  | none =>
      dsimp only
      split_ifs <;> rfl

theorem returnAll_of_accepted {returns : TrReturns} (accepted : ∀ entry ∈ returns, entry.2 = none)
    (collection : SnapshotCollection) : returnAll returns collection = collection := by
  induction returns with
  | nil => rfl
  | cons entry returns ih =>
      rcases entry with ⟨part, refusal⟩
      cases accepted _ List.mem_cons_self
      exact ih fun other later => accepted other (List.mem_cons_of_mem _ later)

def pageBudget (maxPages : Nat) : List BrokerSnapshotSection → Nat → Nat
  | [], _ => 0
  | _ :: parts, page => parts.length * maxPages + (maxPages + 1 - page)

/-- The collection goes on to one end, within its budget, with what is read on the way. -/
def SettlesFrom (host : Host) (maxPages : Nat) (behaviour : TrBehaviour)
    (parts : List BrokerSnapshotSection) (page : Nat) (before after : SnapshotCollection) : Prop :=
  ∃ events status state, after.events = before.events ++ (events ++ [.completed status state]) ∧
    (∀ event ∈ events, event.isCompleted = false) ∧
    events.countP SnapshotEvent.isSubmitted ≤ pageBudget maxPages parts page ∧
    (status = .complete ↔ (readSections host maxPages behaviour parts page).isSome) ∧
    ∀ rows, readSections host maxPages behaviour parts page = some rows →
      ∀ part, state.rows part = before.state.rows part ++ rows part

theorem TrTiming.enter_of_accepted {timing : TrTiming} (isAccepted : timing.IsAccepted)
    {returns : TrReturns} (accepted : ∀ entry ∈ returns, entry.2 = none)
    (part : BrokerSnapshotSection) (collection : SnapshotCollection) :
    (timing.enter part returns collection).1 = collection ∧
      ∀ entry ∈ (timing.enter part returns collection).2, entry.2 = none := by
  cases timing with
  | afterReturn => exact ⟨returnAll_of_accepted accepted collection, by simp [enter]⟩
  | beforeReturn refusal =>
      cases isAccepted
      exact ⟨rfl, List.forall_mem_cons.mpr ⟨rfl, accepted⟩⟩

theorem SnapshotCollection.refuse_eq (collection : SnapshotCollection)
    (part : BrokerSnapshotSection) (refusal : TrRefusal) :
    ∃ errors, collection.refuse part refusal = collection.complete .failed errors := by
  cases refusal with
  | rejected errors => exact ⟨_, rfl⟩
  | raised error => exact ⟨_, rfl⟩

variable {behaviour next : TrBehaviour} {parts others : List BrokerSnapshotSection}
  {part : BrokerSnapshotSection} {page nextPage : Nat} {before after middle : SnapshotCollection}

theorem settlesFrom_complete {requestId : String} {key : Option String}
    {events : List SnapshotEvent} {status : BrokerSnapshotStatus} (within : page ≤ maxPages)
    (unread : readSections host maxPages behaviour (part :: parts) page = none)
    (isMiddle : middle.events = before.events ++ .submitted requestId key :: events)
    (quiet : ∀ event ∈ events, event.isCompleted = false ∧ event.isSubmitted = false)
    (unfinished : status ≠ .complete) (errors : List String) :
    SettlesFrom host maxPages behaviour (part :: parts) page before
      (middle.complete status errors) := by
  refine ⟨.submitted requestId key :: events, status, _,
    (congrArg (· ++ [_]) isMiddle).trans (List.append_assoc _ _ _), ?_, ?_, ?_, ?_⟩
  · exact List.forall_mem_cons.mpr ⟨rfl, fun event present => (quiet event present).1⟩
  · have none : events.countP SnapshotEvent.isSubmitted = 0 :=
      List.countP_eq_zero.mpr fun event present => by simp [(quiet event present).2]
    rw [List.countP_cons, pageBudget]
    simp only [SnapshotEvent.isSubmitted, if_true]
    omega
  · simp [unread, unfinished]
  · simp [unread]

theorem settlesFrom_page {requestId : String} {key : Option String} {state : SnapshotState}
    {rows : List SnapshotRow}
    (settles : SettlesFrom host maxPages next others nextPage middle after)
    (events : middle.events = before.events ++ [.submitted requestId key, .progress state])
    (added : middle.state.rows =
      Function.update before.state.rows part (before.state.rows part ++ rows))
    (reads : readSections host maxPages behaviour parts page =
      (readSections host maxPages next others nextPage).map fun later =>
        Function.update later part (rows ++ later part))
    (budget : pageBudget maxPages others nextPage + 1 ≤ pageBudget maxPages parts page) :
    SettlesFrom host maxPages behaviour parts page before after := by
  rcases settles with ⟨later, status, last, isAfter, quiet, small, complete, kept⟩
  refine ⟨.submitted requestId key :: .progress state :: later, status, last, ?_, ?_, ?_, ?_, ?_⟩
  · simp [isAfter, events]
  · simpa [SnapshotEvent.isCompleted] using quiet
  · simp only [List.countP_cons]
    exact (Nat.succ_le_succ small).trans budget
  · rw [complete, reads, Option.isSome_map]
  · intro all isAll other
    rw [reads, Option.map_eq_some_iff] at isAll
    rcases isAll with ⟨rest, isRest, rfl⟩
    rw [kept rest isRest other, added]
    by_cases same : other = part
    · subst same
      simp
    · simp [same]

theorem lt_of_more {result : TrRequestResult}
    (more : pageOutcome host maxPages part page result = .more) : page < maxPages := by
  rw [pageOutcome] at more
  split at more
  · cases more
  · split_ifs at more with _ _ within
    exact Nat.lt_of_not_le within

theorem settlesFrom_submitPage (positive : 1 ≤ maxPages) {returns : TrReturns}
    {collection : SnapshotCollection} (within : page ≤ maxPages)
    (accepted : ∀ entry ∈ returns, entry.2 = none)
    (orderly : BehavesOrderly host maxPages behaviour parts page) :
    SettlesFrom host maxPages behaviour parts page collection
      (submitPage host snapshotId maxPages behaviour parts page returns collection) := by
  induction behaviour generalizing parts page returns collection with
  | refused refusal =>
      cases parts with
      | nil =>
          rw [submitPage, returnAll_of_accepted accepted]
          exact ⟨[], .complete, _, rfl, by simp, Nat.zero_le _, by simp [readSections],
            by simp [readSections]⟩
      | cons part parts =>
          rw [submitPage, returnAll_of_accepted accepted]
          rcases SnapshotCollection.refuse_eq (collection.submitted snapshotId part page) part
            refusal with ⟨errors, refused⟩
          rw [refused]
          exact settlesFrom_complete within (by simp [readSections]) rfl (by simp) (by simp) errors
  | calledBack timing result next ih =>
      cases parts with
      | nil =>
          rw [submitPage, returnAll_of_accepted accepted]
          exact ⟨[], .complete, _, rfl, by simp, Nat.zero_le _, by simp [readSections],
            by simp [readSections]⟩
      | cons part parts =>
          have reads := @readSections_calledBack host maxPages timing result next part parts page
          rw [submitPage]
          rw [BehavesOrderly] at orderly
          cases outcome : pageOutcome host maxPages part page result with
          | raised failure =>
              simp only [outcome] at orderly reads ⊢
              cases timing with
              | afterReturn => exact absurd rfl orderly
              | beforeReturn refusal =>
                  simp only [TrTiming.enter, raiseIn, returnAll_of_accepted accepted]
                  exact settlesFrom_complete within reads rfl (by simp) (by simp) _
          | failed =>
              simp only [outcome] at orderly reads ⊢
              have entered := timing.enter_of_accepted orderly accepted part
                (collection.submitted snapshotId part page)
              rw [entered.1, returnAll_of_accepted entered.2]
              exact settlesFrom_complete within reads rfl (by simp) (by simp) _
          | overLimit =>
              simp only [outcome] at orderly reads ⊢
              have entered := timing.enter_of_accepted orderly accepted part
                (collection.submitted snapshotId part page)
              rw [entered.1, returnAll_of_accepted entered.2]
              exact settlesFrom_complete within reads (List.append_assoc _ [_] [_])
                (by simp [SnapshotEvent.isCompleted, SnapshotEvent.isSubmitted]) (by simp) _
          | more =>
              simp only [outcome] at orderly reads ⊢
              have entered := timing.enter_of_accepted orderly.1 accepted part
                (collection.submitted snapshotId part page)
              rw [entered.1]
              have budget : pageBudget maxPages (part :: parts) (page + 1) + 1 ≤
                  pageBudget maxPages (part :: parts) page := by
                simp only [pageBudget]
                omega
              exact settlesFrom_page (ih (lt_of_more outcome) entered.2 orderly.2)
                (List.append_assoc _ [_] [_]) rfl reads budget
          | last =>
              simp only [outcome] at orderly reads ⊢
              have entered := timing.enter_of_accepted orderly.1 accepted part
                (collection.submitted snapshotId part page)
              rw [entered.1]
              have budget : pageBudget maxPages parts 1 + 1 ≤
                  pageBudget maxPages (part :: parts) page := by
                cases parts with
                | nil =>
                    simp only [pageBudget]
                    omega
                | cons other parts =>
                    simp only [pageBudget, List.length_cons, Nat.succ_mul]
                    omega
              exact settlesFrom_page (ih positive entered.2 orderly.2)
                (List.append_assoc _ [_] [_]) rfl reads budget

end Orderly

/-! ## Other collections -/

section Disorderly

variable {host : Host} {snapshotId : String} {maxPages : Nat} {returns : TrReturns}
  {collection before after : SnapshotCollection}

def Told (collection : SnapshotCollection) : Prop :=
  ∃ event ∈ collection.events, event.isCompleted = true

def Grows (before after : SnapshotCollection) : Prop :=
  ∃ event, before.events ++ [event] <+: after.events

theorem not_endsOnce_of_told (told : Told before) (grows : Grows before after) :
    ¬ EndsOnce after.events := by
  rintro ⟨quietly, status, state, isAll, quiet⟩
  rcases told with ⟨event, present, isCompleted⟩
  rcases grows with ⟨added, rest, whole⟩
  have lengths := congrArg List.length (whole.trans isAll)
  simp only [List.length_append, List.length_cons] at lengths
  have within : before.events <+: quietly :=
    List.prefix_of_prefix_length_le
      ((List.prefix_append _ _).trans (whole ▸ List.prefix_append _ _))
      (isAll ▸ List.prefix_append _ _) (by omega)
  have quietHere := quiet event (within.subset present)
  rw [isCompleted] at quietHere
  cases quietHere

theorem told_complete (status : BrokerSnapshotStatus) (errors : List String) :
    Told (collection.complete status errors) :=
  ⟨_, List.mem_append_right _ List.mem_cons_self, rfl⟩

variable (part : BrokerSnapshotSection)

theorem told_refuse (refusal : TrRefusal) :
    Told (collection.refuse part refusal) := by
  rcases collection.refuse_eq part refusal with ⟨errors, refused⟩
  rw [refused]
  exact told_complete _ errors

theorem grows_refuse (refusal : TrRefusal) :
    Grows collection (collection.refuse part refusal) := by
  rcases collection.refuse_eq part refusal with ⟨errors, refused⟩
  rw [refused]
  exact ⟨_, List.prefix_refl _⟩

theorem Grows.events_kept (grows : Grows before after) : before.events <+: after.events := by
  rcases grows with ⟨event, within⟩
  exact (List.prefix_append _ _).trans within

theorem Grows.followed {later : SnapshotCollection} (grows : Grows before after)
    (within : after.events <+: later.events) : Grows before later := by
  rcases grows with ⟨event, grown⟩
  exact ⟨event, grown.trans within⟩

theorem prefix_returnAll (returns : TrReturns) (collection : SnapshotCollection) :
    collection.events <+: (returnAll returns collection).events := by
  induction returns generalizing collection with
  | nil => exact List.prefix_refl _
  | cons entry returns ih =>
      rcases entry with ⟨part, refusal⟩
      cases refusal with
      | none => exact ih collection
      | some refusal => exact (grows_refuse part refusal).events_kept.trans (ih _)

def HasRefusal (returns : TrReturns) : Prop :=
  ∃ entry ∈ returns, entry.2 ≠ none

theorem returnAll_of_hasRefusal (refused : HasRefusal returns) (collection : SnapshotCollection) :
    Told (returnAll returns collection) ∧ Grows collection (returnAll returns collection) := by
  induction returns generalizing collection with
  | nil => simp [HasRefusal] at refused
  | cons entry returns ih =>
      rcases entry with ⟨part, refusal⟩
      cases refusal with
      | none => exact ih (by simpa [HasRefusal] using refused) collection
      | some refusal =>
          have within := prefix_returnAll returns (collection.refuse part refusal)
          have tells : Told (collection.refuse part refusal) := told_refuse part refusal
          rcases tells with ⟨event, present, told⟩
          exact ⟨⟨event, within.subset present, told⟩,
            (grows_refuse part refusal).followed within⟩

theorem not_endsOnce_returnAll (told : Told collection) (refused : HasRefusal returns) :
    ¬ EndsOnce (returnAll returns collection).events :=
  not_endsOnce_of_told told (returnAll_of_hasRefusal refused collection).2

theorem grows_complete (status : BrokerSnapshotStatus) (errors : List String) :
    Grows collection (collection.complete status errors) :=
  ⟨_, List.prefix_refl _⟩

theorem grows_raiseIn (failure : Failure) (returns : TrReturns) (collection : SnapshotCollection) :
    Grows collection (raiseIn failure returns collection) := by
  cases returns with
  | nil => exact ⟨_, List.prefix_refl _⟩
  | cons entry returns => exact (grows_refuse _ _).followed (prefix_returnAll _ _)

theorem prefix_submitted (page : Nat) :
    collection.events <+: (collection.submitted snapshotId part page).events :=
  List.prefix_append _ _

theorem grows_page {next : TrBehaviour} (timing : TrTiming) (result : TrRequestResult)
    (part : BrokerSnapshotSection) (parts : List BrokerSnapshotSection) (page : Nat)
    (later : ∀ parts page returns collection, collection.events <+:
      (submitPage host snapshotId maxPages next parts page returns collection).events) :
    Grows (timing.enter part returns (collection.submitted snapshotId part page)).1
      (submitPage host snapshotId maxPages (.calledBack timing result next) (part :: parts) page
        returns collection) := by
  rw [submitPage]
  generalize timing.enter part returns (collection.submitted snapshotId part page) = entered
  generalize (snapshotRows host part result.rows).1 = rows
  have progressed : Grows entered.1 (entered.1.addRows part rows).progress :=
    ⟨_, List.prefix_refl _⟩
  split
  · next failure _ => exact grows_raiseIn failure entered.2 (entered.1.addRows part rows)
  · have told : Grows entered.1
        ((entered.1.addRows part rows).complete .failed result.reportedErrors) :=
      ⟨_, List.prefix_refl _⟩
    exact told.followed (prefix_returnAll _ _)
  · exact progressed.followed ((grows_complete _ _).events_kept.trans (prefix_returnAll _ _))
  · exact progressed.followed (later _ _ _ _)
  · have within := later parts 1 entered.2
      ((entered.1.addRows part rows).progress.completeSection part)
    exact progressed.followed within

theorem prefix_submitPage (behaviour : TrBehaviour) (parts : List BrokerSnapshotSection)
    (page : Nat) (returns : TrReturns) (collection : SnapshotCollection) : collection.events <+:
      (submitPage host snapshotId maxPages behaviour parts page returns collection).events := by
  induction behaviour generalizing parts page returns collection with
  | refused refusal =>
      cases parts with
      | nil => exact (grows_complete _ _).events_kept.trans (prefix_returnAll _ _)
      | cons part parts =>
          exact (prefix_submitted part page).trans
            ((grows_refuse part refusal).events_kept.trans (prefix_returnAll _ _))
  | calledBack timing result next ih =>
      cases parts with
      | nil => exact (grows_complete _ _).events_kept.trans (prefix_returnAll _ _)
      | cons part parts =>
          refine List.IsPrefix.trans ?_ (grows_page timing result part parts page ih).events_kept
          cases timing with
          | afterReturn => exact (prefix_submitted part page).trans (prefix_returnAll _ _)
          | beforeReturn refusal => exact prefix_submitted part page

/-- Where a request is refused that was called back, or a row without a form comes after the
return, the end is told again or not at all. -/
theorem not_endsOnce_submitPage {behaviour : TrBehaviour} {parts : List BrokerSnapshotSection}
    {page : Nat}
    (fault : HasRefusal returns ∨ ¬ BehavesOrderly host maxPages behaviour parts page) :
    ¬ EndsOnce
      (submitPage host snapshotId maxPages behaviour parts page returns collection).events := by
  induction behaviour generalizing parts page returns collection with
  | refused refusal =>
      have refused : HasRefusal returns := by cases parts <;> simpa [BehavesOrderly] using fault
      cases parts with
      | nil => exact not_endsOnce_returnAll (told_complete _ _) refused
      | cons part parts => exact not_endsOnce_returnAll (told_refuse _ _) refused
  | calledBack timing result next ih =>
      cases parts with
      | nil =>
          have refused : HasRefusal returns := by simpa [BehavesOrderly] using fault
          exact not_endsOnce_returnAll (told_complete _ _) refused
      | cons part parts =>
          rw [BehavesOrderly] at fault
          cases timing with
          | afterReturn =>
              by_cases refused : HasRefusal returns
              · exact not_endsOnce_of_told (returnAll_of_hasRefusal refused _).1
                  (grows_page .afterReturn result part parts page (prefix_submitPage next))
              have disorderly := fault.resolve_left refused
              rw [submitPage]
              cases outcome : pageOutcome host maxPages part page result with
              | raised failure =>
                  rintro ⟨_, _, _, isAll, _⟩
                  cases (List.append_inj' isAll rfl).2
              | failed => simp [outcome, TrTiming.IsAccepted] at disorderly
              | overLimit => simp [outcome, TrTiming.IsAccepted] at disorderly
              | more =>
                  simp only [outcome, TrTiming.IsAccepted, true_and] at disorderly ⊢
                  exact ih (Or.inr disorderly)
              | last =>
                  simp only [outcome, TrTiming.IsAccepted, true_and] at disorderly ⊢
                  exact ih (Or.inr disorderly)
          | beforeReturn refusal =>
              have inside : HasRefusal returns ∨ refusal ≠ none →
                  HasRefusal ((part, refusal) :: returns) := by
                rintro (⟨entry, present, refused⟩ | refused)
                · exact ⟨entry, List.mem_cons_of_mem _ present, refused⟩
                · exact ⟨_, List.mem_cons_self, refused⟩
              rw [submitPage]
              cases outcome : pageOutcome host maxPages part page result with
              | raised failure =>
                  simp only [outcome] at fault ⊢
                  exact not_endsOnce_returnAll (told_refuse _ _) (by simpa using fault)
              | failed =>
                  simp only [outcome] at fault ⊢
                  exact not_endsOnce_returnAll (told_complete _ _) (inside fault)
              | overLimit =>
                  simp only [outcome] at fault ⊢
                  exact not_endsOnce_returnAll (told_complete _ _) (inside fault)
              | more =>
                  simp only [outcome, not_and_or, ← or_assoc] at fault ⊢
                  exact ih (fault.imp_left inside)
              | last =>
                  simp only [outcome, not_and_or, ← or_assoc] at fault ⊢
                  exact ih (fault.imp_left inside)

end Disorderly

/-! ## The collection -/

theorem one_le_clampPages (maxPagesPerSection : Int) : 1 ≤ clampPages maxPagesPerSection := by
  unfold clampPages
  omega

theorem snapshot_collected_iff (host : Host) (snapshotId : String) (maxPagesPerSection : Int)
    (behaviour : TrBehaviour) :
    SnapshotCollected host snapshotId maxPagesPerSection behaviour ↔
      BehavesOrderly host (clampPages maxPagesPerSection) behaviour
        BrokerSnapshotSection.requested 1 := by
  constructor
  · intro collected
    by_contra disorderly
    exact not_endsOnce_submitPage (Or.inr disorderly) collected.ends
  · intro orderly
    have positive := one_le_clampPages maxPagesPerSection
    rcases @settlesFrom_submitPage host snapshotId _ _ _ _ positive []
      ⟨⟨fun _ => [], [], []⟩, []⟩ positive (by simp) orderly with
      ⟨events, status, state, isAll, quiet, small, complete, kept⟩
    rw [List.nil_append] at isAll
    refine ⟨⟨events, status, state, isAll, quiet⟩, ?_, ?_⟩
    · simp only [pageBudget, BrokerSnapshotSection.requested, List.length_cons,
        List.length_nil] at small
      rw [startCollection, isAll, List.countP_append]
      simp only [List.countP_singleton, SnapshotEvent.isSubmitted]
      simp
      omega
    · intro otherStatus other present
      rw [startCollection, isAll, List.mem_append, List.mem_singleton] at present
      rcases present with early | last
      · cases quiet _ early
      · cases last
        exact ⟨complete, fun rows isRead => funext fun part => by simpa using kept rows isRead part⟩

/-- The broker's library hands the answer over and then says that it failed. -/
def refusedAfterCallback : TrBehaviour :=
  .calledBack (.beforeReturn (some (.rejected ["TR_REQUEST_FAILED:OPT10075:-200"])))
    ⟨"snapshot", "OPT10075", "live_sim_broker_snapshot_open_orders", [], 1, [], []⟩
    (.refused (.rejected []))

theorem refused_callback_ends_twice :
    ¬ SnapshotCollected digitHost "snapshot-1" 10 refusedAfterCallback := by
  intro collected
  have disorderly : ¬ BehavesOrderly digitHost (clampPages 10) refusedAfterCallback
      BrokerSnapshotSection.requested 1 := by
    rintro ⟨isAccepted, _⟩
    cases isAccepted
  exact not_endsOnce_submitPage (Or.inr disorderly) collected.ends

end SuseokTrader
