import SuseokTrader.Gateway.Realtime
import SuseokTrader.Lib.Batch

/-!
# Agreement of the realtime registrations

Runtime and client keep the registrations in sets of their own. They agree as
long as nothing happens to one of them alone: no chunk is refused after
another was taken, no code is put on a second screen, a removal meets codes
without a suffix on the screen it names, and a recovery is taken as a whole.
-/

namespace SuseokTrader

/-! ## Texts of codes -/

theorem StockCode.digits (code : StockCode) :
    code.val.toList.length = 6 ∧ ∀ c ∈ code.val.toList, isDigitChar c = true :=
  digits_of_normalizeCode code.property

@[simp]
theorem stockCode_val (code : StockCode) : stockCode code.val = .ok code := by
  unfold stockCode
  split
  · next normal =>
      rw [code.property, Except.ok.injEq] at normal
      exact congrArg Except.ok (Subtype.ext normal.symm)
  · next normal =>
      rw [code.property] at normal
      cases normal

theorem RealtimeExchange.suffix_plain (exchange : RealtimeExchange) :
    ∀ c ∈ exchange.suffix.toList, Text.isSpace c = false ∧ c.toUpper = c := by
  intro c present
  cases exchange with
  | krx => cases present
  | nxt =>
      have isOne : c = '_' ∨ c = 'N' ∨ c = 'X' := by
        simpa [RealtimeExchange.suffix] using present
      rcases isOne with rfl | rfl | rfl
      · exact ⟨rfl, rfl⟩
      · exact ⟨rfl, rfl⟩
      · exact ⟨rfl, rfl⟩
  | all =>
      have isOne : c = '_' ∨ c = 'A' ∨ c = 'L' := by
        simpa [RealtimeExchange.suffix] using present
      rcases isOne with rfl | rfl | rfl
      · exact ⟨rfl, rfl⟩
      · exact ⟨rfl, rfl⟩
      · exact ⟨rfl, rfl⟩

variable (code : KiwoomRealtimeCode)

theorem KiwoomRealtimeCode.kiwoomCode_plain :
    ∀ c ∈ code.kiwoomCode.toList, Text.isSpace c = false ∧ c.toUpper = c := by
  intro c present
  rw [kiwoomCode, String.toList_append] at present
  rcases List.mem_append.mp present with base | suffix
  · have apart := digit_apart (code.baseCode.digits.2 c base)
    exact ⟨apart.1, apart.2.1⟩
  · exact code.exchange.suffix_plain c suffix

theorem splitExchange_kiwoomCode :
    splitExchange code.kiwoomCode = (code.baseCode.val, code.exchange) := by
  have digits := code.baseCode.digits.2
  unfold splitExchange KiwoomRealtimeCode.kiwoomCode
  cases code.exchange with
  | nxt => simp [RealtimeExchange.suffix]
  | all => simp [RealtimeExchange.suffix]
  | krx =>
      -- The last character is a digit, so no suffix is found.
      have last : ∀ c rest, code.baseCode.val.toList.reverse = c :: rest →
          isDigitChar c = true := by
        intro c rest split
        apply digits
        rw [← List.mem_reverse, split]
        exact List.mem_cons_self
      simp only [RealtimeExchange.suffix, String.append_empty]
      split
      · next split => exact absurd (last _ _ split) (by decide)
      · next split => exact absurd (last _ _ split) (by decide)
      · next split => exact absurd (last _ _ split) (by decide)
      · rfl

@[simp]
theorem parse_kiwoomCode :
    parseKiwoomRealtimeCode code.kiwoomCode = .ok code := by
  have plain := code.kiwoomCode_plain
  have stripped : Text.strip code.kiwoomCode = code.kiwoomCode :=
    Text.strip_eq_self fun c present => (plain c present).1
  have raised : Text.upper code.kiwoomCode = code.kiwoomCode := by
    have same : code.kiwoomCode.toList.map Char.toUpper = code.kiwoomCode.toList.map id :=
      List.map_congr_left fun c present => (plain c present).2
    rw [Text.upper, same, List.map_id, String.ofList_toList]
  unfold parseKiwoomRealtimeCode
  rw [stripped, raised, splitExchange_kiwoomCode]
  simp

theorem kiwoomCode_eq_iff (stock : StockCode) :
    code.kiwoomCode = stock.val ↔ code.baseCode = stock ∧ code.exchange = .krx := by
  constructor
  · intro same
    have whole : (KiwoomRealtimeCode.mk stock .krx).kiwoomCode = stock.val := by
      simp [KiwoomRealtimeCode.kiwoomCode, RealtimeExchange.suffix]
    have parsed := parse_kiwoomCode code
    rw [same, ← whole, parse_kiwoomCode, Except.ok.injEq] at parsed
    rw [← parsed]
    exact ⟨rfl, rfl⟩
  · rintro ⟨rfl, plain⟩
    simp [KiwoomRealtimeCode.kiwoomCode, plain, RealtimeExchange.suffix]

/-! ## What a registration puts on the screens -/

/-- The chunks that `SetRealReg` takes. -/
def takenChunks (results : Nat → Int) (chunks : List Nat) : List Nat :=
  chunks.takeWhile fun chunk => 0 ≤ results chunk

def placedCodes (codes : List KiwoomRealtimeCode) (screenNo : Option String)
    (results : Nat → Int) : Finset (String × KiwoomRealtimeCode) :=
  ((takenChunks results (List.range (chunkCount codes))).flatMap
    (chunkCodes codes screenNo)).toFinset

def allTaken (codes : List KiwoomRealtimeCode) (results : Nat → Int) : Bool :=
  (List.range (chunkCount codes)).all fun chunk => 0 ≤ results chunk

variable {codes : List KiwoomRealtimeCode} {screenNo : Option String} {results : Nat → Int}

theorem registerChunks_eq (chunks : List Nat) (screenCodes : Finset (String × KiwoomRealtimeCode)) :
    (registerChunks codes screenNo results chunks screenCodes).1 =
        screenCodes ∪ ((takenChunks results chunks).flatMap (chunkCodes codes screenNo)).toFinset ∧
      ((registerChunks codes screenNo results chunks screenCodes).2 = none ↔
        chunks.all fun chunk => 0 ≤ results chunk) := by
  induction chunks generalizing screenCodes with
  | nil => simp [registerChunks, takenChunks]
  | cons chunk chunks ih =>
      by_cases refused : results chunk < 0
      · have notTaken : ¬ 0 ≤ results chunk := Int.not_le.mpr refused
        simp [registerChunks, takenChunks, refused, notTaken]
      · have taken : 0 ≤ results chunk := Int.not_lt.mp refused
        have later := ih (screenCodes ∪ (chunkCodes codes screenNo chunk).toFinset)
        simp only [registerChunks, refused, if_false]
        refine ⟨?_, ?_⟩
        · rw [later.1]
          simp [takenChunks, taken]
        · rw [later.2]
          simp [taken]

theorem mapM_parse_kiwoomCode (codes : List KiwoomRealtimeCode) :
    (codes.map KiwoomRealtimeCode.kiwoomCode).mapM parseKiwoomRealtimeCode = .ok codes := by
  induction codes with
  | nil => rfl
  | cons code codes ih =>
      rw [List.map_cons, List.mapM_cons, parse_kiwoomCode, ih]
      rfl

variable (client : KiwoomClient)

theorem registerRealtime_eq (codes : List KiwoomRealtimeCode)
    (screenNo : Option String) (results : Nat → Int) :
    (client.registerRealtime (codes.map KiwoomRealtimeCode.kiwoomCode) screenNo results).1 =
        { client with screenCodes := client.screenCodes ∪ placedCodes codes screenNo results } ∧
      ((client.registerRealtime (codes.map KiwoomRealtimeCode.kiwoomCode) screenNo results).2 =
        none ↔ allTaken codes results = true) := by
  have nonempty : ∀ code : KiwoomRealtimeCode, Text.strip code.kiwoomCode ≠ "" := by
    intro code isEmpty
    rw [Text.strip_eq_self fun c present => (code.kiwoomCode_plain c present).1] at isEmpty
    have length := congrArg (fun text : String => text.toList.length) isEmpty
    simp [KiwoomRealtimeCode.kiwoomCode, code.baseCode.digits.1] at length
  have kept : (codes.map KiwoomRealtimeCode.kiwoomCode).filter
      (fun code => Text.strip code ≠ "") = codes.map KiwoomRealtimeCode.kiwoomCode := by
    apply List.filter_eq_self.mpr
    intro text present
    rcases List.mem_map.mp present with ⟨code, _, rfl⟩
    simpa using nonempty code
  unfold KiwoomClient.registerRealtime
  rw [kept, mapM_parse_kiwoomCode]
  have registered := @registerChunks_eq codes screenNo results (List.range (chunkCount codes))
    client.screenCodes
  constructor
  · exact congrArg (fun screenCodes => { client with screenCodes := screenCodes }) registered.1
  · exact registered.2

variable {stocks : List StockCode} {exchange : RealtimeExchange} {texts : List String}

theorem mem_chunkCodes {placed : String × KiwoomRealtimeCode} {chunk : Nat}
    (present : placed ∈ chunkCodes codes screenNo chunk) :
    placed.2 ∈ codes ∧ placed.1 = chunkScreen screenNo chunk := by
  rcases List.mem_map.mp present with ⟨code, isMember, rfl⟩
  exact ⟨List.mem_of_mem_drop (List.mem_of_mem_take isMember), rfl⟩

theorem mem_of_placed {placed : String × KiwoomRealtimeCode}
    (isPlaced : placed ∈ placedCodes codes screenNo results) : placed.2 ∈ codes := by
  simp only [placedCodes, List.mem_toFinset, List.mem_flatMap] at isPlaced
  rcases isPlaced with ⟨chunk, _, present⟩
  exact (mem_chunkCodes present).1

theorem exists_placed (taken : allTaken codes results = true) {code : KiwoomRealtimeCode}
    (isMember : code ∈ codes) : ∃ placed ∈ placedCodes codes screenNo results, placed.2 = code := by
  rcases List.mem_iff_getElem?.mp isMember with ⟨index, atIndex⟩
  have inRange : index < codes.length := (List.getElem?_eq_some_iff.mp atIndex).1
  have chunkBound : index / realtimeChunkSize < chunkCount codes := by
    unfold chunkCount realtimeChunkSize
    omega
  have allKept : takenChunks results (List.range (chunkCount codes)) =
      List.range (chunkCount codes) := by
    apply List.takeWhile_eq_self_iff.mpr
    simpa [allTaken] using taken
  refine ⟨(chunkScreen screenNo (index / realtimeChunkSize), code), ?_, rfl⟩
  simp only [placedCodes, allKept, List.mem_toFinset, List.mem_flatMap, List.mem_range]
  refine ⟨index / realtimeChunkSize, chunkBound, List.mem_map.mpr ⟨code, ?_, rfl⟩⟩
  apply List.mem_iff_getElem?.mpr
  refine ⟨index % realtimeChunkSize, ?_⟩
  rw [List.getElem?_take_of_lt (Nat.mod_lt _ (by decide)), List.getElem?_drop,
    Nat.div_add_mod]
  exact atIndex

theorem placed_on_one_screen (distinct : (codes.map KiwoomRealtimeCode.baseCode).Nodup)
    {placed other : String × KiwoomRealtimeCode}
    (isPlaced : placed ∈ placedCodes codes screenNo results)
    (otherPlaced : other ∈ placedCodes codes screenNo results)
    (same : placed.2.baseCode = other.2.baseCode) : placed.1 = other.1 := by
  have position : ∀ pair ∈ placedCodes codes screenNo results, ∃ index : Nat,
      (codes.map KiwoomRealtimeCode.baseCode)[index]? = some pair.2.baseCode ∧
        pair.1 = chunkScreen screenNo (index / realtimeChunkSize) := by
    intro pair isPair
    simp only [placedCodes, List.mem_toFinset, List.mem_flatMap] at isPair
    rcases isPair with ⟨chunk, _, present⟩
    rcases List.mem_map.mp present with ⟨code, isMember, rfl⟩
    rcases List.mem_iff_getElem?.mp isMember with ⟨index, atIndex⟩
    have bound : index < realtimeChunkSize := by
      have inTake := (List.getElem?_eq_some_iff.mp atIndex).1
      rw [List.length_take] at inTake
      omega
    rw [List.getElem?_take_of_lt bound, List.getElem?_drop] at atIndex
    refine ⟨realtimeChunkSize * chunk + index, ?_, ?_⟩
    · simp [atIndex]
    · rw [Nat.mul_add_div (by decide), Nat.div_eq_of_lt bound, Nat.add_zero]
  rcases position placed isPlaced with ⟨index, atIndex, onScreen⟩
  rcases position other otherPlaced with ⟨otherIndex, atOther, otherScreen⟩
  rw [← same] at atOther
  have inRange : index < (codes.map KiwoomRealtimeCode.baseCode).length :=
    (List.getElem?_eq_some_iff.mp atIndex).1
  have sameIndex := (List.getElem?_inj inRange distinct).mp (atIndex.trans atOther.symm)
  rw [onScreen, otherScreen, sameIndex]

/-! ## Agreement -/

def KiwoomClient.baseCodes : Finset StockCode :=
  client.screenCodes.image fun placed => placed.2.baseCode

/-- Runtime and client have the same codes, each on one screen, and not too many. -/
structure Agrees (config : RealtimeConfig) (state : RealtimeState) : Prop where
  same : state.registeredCodes = state.client.baseCodes
  oneScreen : ∀ placed ∈ state.client.screenCodes, ∀ other ∈ state.client.screenCodes,
    placed.2.baseCode = other.2.baseCode → placed.1 = other.1
  bounded : state.registeredCodes.card ≤ config.realtimeMaxTotal

/-- A removed code is gone from both sides, and a recovery leaves what is registered. -/
def stepAgrees (config : RealtimeConfig) (state : RealtimeState) (op : RealtimeOp) : Prop :=
  let after := (realtimeSystem config).next state op
  match op with
  | .removeCommand codes order _ => ∀ removed,
      RealtimeState.commandCodes codes order = .ok removed → ∀ code ∈ removed, code ∉ after.registeredCodes ∧ code ∉ after.client.baseCodes
  | .recover _ => after.registeredCodes = state.registeredCodes ∧
      after.client.baseCodes = state.client.baseCodes ∧
      after.registeredIndices = state.registeredIndices ∧
      after.client.indexCodes = state.client.indexCodes
  | _ => True

/-! ## Steps that keep the agreement -/

def keepsScreens (codes : List KiwoomRealtimeCode)
    (screenNo : Option String) (results : Nat → Int) : Bool :=
  let placed := placedCodes codes screenNo results
  decide (∀ one ∈ placed, ∀ other ∈ client.screenCodes ∪ placed,
    one.2.baseCode = other.2.baseCode → one.1 = other.1)

def refusedAsAWhole (state : RealtimeState) (codes : List KiwoomRealtimeCode)
    (results : Nat → Int) : Bool :=
  allTaken codes results ||
    decide (∀ placed ∈ placedCodes codes none results, placed.2.baseCode ∈ state.registeredCodes)

/-- What a step must not do to one side alone: leave a part of a refused registration, put a code
on a second screen, force codes past the budget, remove a code that the client has with a suffix or
on another screen, or recover with a refusal or with indices registered. -/
def keepsAgreement (config : RealtimeConfig) (state : RealtimeState) : RealtimeOp → Bool
  | .registerCodes codes force results =>
      match orderedUniqueCodes codes, normalizeRealtimeExchange config.realtimeExchange with
      | .ok codes, .ok exchange =>
          let planned := state.plannedCodes config codes force
          let kiwoomCodes := planned.map (KiwoomRealtimeCode.mk · exchange)
          refusedAsAWhole state kiwoomCodes results &&
            (!force || (keepsScreens state.client kiwoomCodes none results &&
              decide ((state.registeredCodes ∪ planned.toFinset).card ≤ config.realtimeMaxTotal)))
      | _, _ => true
  | .registerCommand codes order screenNo results =>
      match RealtimeState.commandCodes codes order with
      | .ok codes =>
          let kiwoomCodes := codes.map (KiwoomRealtimeCode.mk · .krx)
          decide (config.realtimeMaxTotal < (state.registeredCodes ∪ codes.toFinset).card) ||
            (refusedAsAWhole state kiwoomCodes results &&
              keepsScreens state.client kiwoomCodes screenNo results)
      | .error _ => true
  | .removeCommand codes order screenNo =>
      match RealtimeState.commandCodes codes order with
      | .ok codes =>
          decide (∀ placed ∈ state.client.screenCodes, placed.2.baseCode ∈ codes →
            placed.2.exchange = .krx ∧
              (KiwoomClient.targetScreen screenNo = "ALL" ∨
                placed.1 = KiwoomClient.targetScreen screenNo))
      | .error _ => true
  | .registerMarketIndices _ _ => true
  | .recover results =>
      decide (state.registeredCodes = ∅) ||
        match normalizeRealtimeExchange config.realtimeExchange with
        | .ok exchange =>
            decide (state.client.indexCodes = ∅) &&
              allTaken (state.codesInOrder.map (KiwoomRealtimeCode.mk · exchange)) results
        | .error _ => false

variable {config : RealtimeConfig} {state : RealtimeState}

theorem mem_placed_none {pair : String × KiwoomRealtimeCode}
    (isPlaced : pair ∈ placedCodes codes screenNo results) :
    ∃ other ∈ placedCodes codes none results, other.2 = pair.2 := by
  simp only [placedCodes, List.mem_toFinset, List.mem_flatMap] at isPlaced ⊢
  rcases isPlaced with ⟨chunk, taken, present⟩
  rcases List.mem_map.mp present with ⟨code, isMember, rfl⟩
  exact ⟨(chunkScreen none chunk, code), ⟨chunk, taken, List.mem_map.mpr ⟨code, isMember, rfl⟩⟩,
    rfl⟩

theorem Agrees.placed (agrees : Agrees config state) {registered : Finset StockCode}
    (oneScreen : ∀ one ∈ placedCodes codes screenNo results,
      ∀ other ∈ state.client.screenCodes ∪ placedCodes codes screenNo results,
        one.2.baseCode = other.2.baseCode → one.1 = other.1)
    (same : registered = state.registeredCodes ∪
      (placedCodes codes screenNo results).image fun placed => placed.2.baseCode)
    (bounded : registered.card ≤ config.realtimeMaxTotal) :
    Agrees config { state with
      registeredCodes := registered
      client := { state.client with
        screenCodes := state.client.screenCodes ∪ placedCodes codes screenNo results } } := by
  refine ⟨?_, ?_, bounded⟩
  · rw [same, agrees.same]
    simp only [KiwoomClient.baseCodes, Finset.image_union]
  · intro one isOne other isOther sameCode
    simp only [Finset.mem_union] at isOne
    rcases isOne with before | isPlaced
    · rcases Finset.mem_union.mp isOther with otherBefore | otherPlaced
      · exact agrees.oneScreen one before other otherBefore sameCode
      · exact (oneScreen other otherPlaced one (Finset.mem_union_left _ before)
          sameCode.symm).symm
    · exact oneScreen one isPlaced other isOther sameCode

theorem image_placed (taken : allTaken codes results = true) :
    (placedCodes codes screenNo results).image (fun placed => placed.2.baseCode) =
      (codes.map KiwoomRealtimeCode.baseCode).toFinset := by
  ext code
  simp only [Finset.mem_image, List.mem_toFinset, List.mem_map]
  constructor
  · rintro ⟨placed, isPlaced, rfl⟩
    exact ⟨placed.2, mem_of_placed isPlaced, rfl⟩
  · rintro ⟨kiwoomCode, isMember, rfl⟩
    rcases exists_placed taken isMember with ⟨placed, isPlaced, rfl⟩
    exact ⟨placed, isPlaced, rfl⟩

theorem union_placed_of_refused (whole : refusedAsAWhole state codes results = true)
    (refused : allTaken codes results = false) :
    state.registeredCodes = state.registeredCodes ∪
      (placedCodes codes screenNo results).image fun placed => placed.2.baseCode := by
  symm
  apply Finset.union_eq_left.mpr
  intro code isImage
  rcases Finset.mem_image.mp isImage with ⟨placed, isPlaced, rfl⟩
  simp only [refusedAsAWhole, refused, Bool.false_or, decide_eq_true_eq] at whole
  rcases mem_placed_none isPlaced with ⟨other, otherPlaced, same⟩
  rw [← same]
  exact whole other otherPlaced

theorem map_baseCode (stocks : List StockCode) (exchange : RealtimeExchange) :
    (stocks.map (KiwoomRealtimeCode.mk · exchange)).map KiwoomRealtimeCode.baseCode = stocks := by
  rw [List.map_map]
  exact List.map_id stocks

theorem Agrees.registered (agrees : Agrees config state) {screenNo : Option String}
    (whole : refusedAsAWhole state (stocks.map (KiwoomRealtimeCode.mk · exchange)) results = true)
    (oneScreen : ∀ one ∈ placedCodes (stocks.map (KiwoomRealtimeCode.mk · exchange)) screenNo
        results,
      ∀ other ∈ state.client.screenCodes ∪
          placedCodes (stocks.map (KiwoomRealtimeCode.mk · exchange)) screenNo results,
        one.2.baseCode = other.2.baseCode → one.1 = other.1)
    (bounded : (state.registeredCodes ∪ stocks.toFinset).card ≤ config.realtimeMaxTotal)
    {client : KiwoomClient} {failure : Option RealtimeFailure}
    (registers : state.client.registerRealtime
      ((stocks.map (KiwoomRealtimeCode.mk · exchange)).map KiwoomRealtimeCode.kiwoomCode) screenNo
        results = (client, failure)) :
    Agrees config
      { state with
        registeredCodes :=
          if failure.isNone then state.registeredCodes ∪ stocks.toFinset else state.registeredCodes
        client := client } := by
  have effects := registerRealtime_eq state.client (stocks.map (KiwoomRealtimeCode.mk · exchange))
    screenNo results
  rw [registers] at effects
  rcases effects with ⟨rfl, succeeds⟩
  cases taken : allTaken (stocks.map (KiwoomRealtimeCode.mk · exchange)) results with
  | true =>
      have noFailure : failure = none := succeeds.mpr taken
      subst noFailure
      apply agrees.placed oneScreen
      · rw [image_placed taken, map_baseCode]
        rfl
      · exact bounded
  | false =>
      cases failure with
      | none => rw [succeeds.mp rfl] at taken; cases taken
      | some failure =>
          apply agrees.placed oneScreen
          · exact union_placed_of_refused whole taken
          · exact agrees.bounded

/-! ## Steps -/

theorem nodup_of_orderedUniqueCodes (unique : orderedUniqueCodes texts = .ok stocks) :
    stocks.Nodup := by
  rw [orderedUniqueCodes, Checked.bind_eq_ok] at unique
  rcases unique with ⟨parsed, _, isUnique⟩
  cases isUnique
  exact nodup_eraseDups parsed

theorem card_planned_le (agrees : Agrees config state) (stocks : List StockCode) :
    (state.registeredCodes ∪ (state.plannedCodes config stocks false).toFinset).card ≤
      config.realtimeMaxTotal := by
  have union := Finset.card_union_le state.registeredCodes
    (state.plannedCodes config stocks false).toFinset
  have planned := List.toFinset_card_le (state.plannedCodes config stocks false)
  have taken : (state.plannedCodes config stocks false).length ≤
      config.realtimeMaxTotal - state.registeredCodes.card := by
    exact List.length_take_le _ _
  have bounded := agrees.bounded
  omega

theorem planned_on_one_screen (agrees : Agrees config state) (distinct : stocks.Nodup)
    (exchange : RealtimeExchange) (results : Nat → Int) :
    let planned := (state.plannedCodes config stocks false).map (KiwoomRealtimeCode.mk · exchange)
    ∀ one ∈ placedCodes planned none results,
      ∀ other ∈ state.client.screenCodes ∪ placedCodes planned none results,
        one.2.baseCode = other.2.baseCode → one.1 = other.1 := by
  intro planned one isOne other isOther sameCode
  have kept : (state.plannedCodes config stocks false).Sublist
      (stocks.filter (· ∉ state.registeredCodes)) := by
    exact List.take_sublist _ _
  rcases Finset.mem_union.mp isOther with before | otherPlaced
  · exfalso
    have isPlanned : one.2.baseCode ∈ state.plannedCodes config stocks false := by
      rw [← map_baseCode (state.plannedCodes config stocks false) exchange]
      exact List.mem_map_of_mem (mem_of_placed isOne)
    have isNew : one.2.baseCode ∉ state.registeredCodes := by
      simpa using (List.mem_filter.mp (kept.subset isPlanned)).2
    apply isNew
    rw [agrees.same, sameCode]
    exact Finset.mem_image_of_mem _ before
  · apply placed_on_one_screen _ isOne otherPlaced sameCode
    rw [map_baseCode]
    exact (distinct.filter _).sublist kept

theorem Agrees.registerRealtimeCodes (agrees : Agrees config state) {force : Bool}
    {results : Nat → Int}
    (keeps : keepsAgreement config state (.registerCodes texts force results) = true) :
    Agrees config (state.registerRealtimeCodes config texts force results).1 := by
  unfold RealtimeState.registerRealtimeCodes
  unfold keepsAgreement at keeps
  cases unique : orderedUniqueCodes texts with
  | error failure => exact agrees
  | ok stocks =>
      dsimp only
      split
      · exact agrees
      · cases parsed : normalizeRealtimeExchange config.realtimeExchange with
        | error failure => exact agrees
        | ok exchange =>
            simp only [unique, parsed, Bool.and_eq_true, Bool.or_eq_true] at keeps
            rcases keeps with ⟨whole, forced⟩
            have screens : ∀ one ∈ placedCodes
                ((state.plannedCodes config stocks force).map (KiwoomRealtimeCode.mk · exchange))
                  none results, ∀ other ∈ state.client.screenCodes ∪ placedCodes
                ((state.plannedCodes config stocks force).map (KiwoomRealtimeCode.mk · exchange))
                  none results, one.2.baseCode = other.2.baseCode → one.1 = other.1 := by
              cases force with
              | false =>
                  exact planned_on_one_screen agrees (nodup_of_orderedUniqueCodes unique) exchange
                    results
              | true => simpa [keepsScreens] using (forced.resolve_left (by simp)).1
            have bounded : (state.registeredCodes ∪
                (state.plannedCodes config stocks force).toFinset).card ≤
                  config.realtimeMaxTotal := by
              cases force with
              | false => exact card_planned_le agrees stocks
              | true => simpa using (forced.resolve_left (by simp)).2
            have texts : (state.plannedCodes config stocks force).map (fun code =>
                (KiwoomRealtimeCode.mk code exchange).kiwoomCode) =
              ((state.plannedCodes config stocks force).map
                (KiwoomRealtimeCode.mk · exchange)).map KiwoomRealtimeCode.kiwoomCode := by
              simp
            dsimp only
            rw [texts]
            cases registers : state.client.registerRealtime
              (((state.plannedCodes config stocks force).map
                (KiwoomRealtimeCode.mk · exchange)).map KiwoomRealtimeCode.kiwoomCode) none
                results with
            | mk client failure =>
                have registered := agrees.registered whole screens bounded registers
                cases failure with
                | none => exact registered
                | some failure => exact registered

theorem Agrees.registerCommand (agrees : Agrees config state) {order : List StockCode}
    {screenNo : Option String} {results : Nat → Int}
    (keeps : keepsAgreement config state (.registerCommand texts order screenNo results) = true) :
    Agrees config (state.registerCommand config texts order screenNo results).1 := by
  unfold RealtimeState.registerCommand
  unfold keepsAgreement at keeps
  cases parsed : RealtimeState.commandCodes texts order with
  | error failure => exact agrees
  | ok stocks =>
      dsimp only
      split
      · exact agrees
      · next within =>
          have bounded := Nat.not_lt.mp within
          simp only [parsed, within, decide_false, Bool.false_or, Bool.and_eq_true] at keeps
          rcases keeps with ⟨whole, screens⟩
          have plain : stocks.map Subtype.val =
              (stocks.map (KiwoomRealtimeCode.mk · .krx)).map KiwoomRealtimeCode.kiwoomCode := by
            simp [KiwoomRealtimeCode.kiwoomCode, RealtimeExchange.suffix]
          rw [plain]
          cases registers : state.client.registerRealtime
              ((stocks.map (KiwoomRealtimeCode.mk · .krx)).map KiwoomRealtimeCode.kiwoomCode)
                screenNo results with
          | mk client failure =>
              have registered := agrees.registered whole (by simpa [keepsScreens] using screens)
                bounded registers
              cases failure with
              | none => exact registered
              | some failure => exact registered

theorem mem_removeRealtime (stocks : List StockCode) (client : KiwoomClient)
    (screenNo : Option String) (placed : String × KiwoomRealtimeCode) :
    placed ∈ (client.removeRealtime stocks screenNo).screenCodes ↔
      placed ∈ client.screenCodes ∧ ∀ code ∈ stocks,
        ¬ ((KiwoomClient.targetScreen screenNo = "ALL" ∨
          placed.1 = KiwoomClient.targetScreen screenNo) ∧ placed.2.kiwoomCode = code.val) := by
  induction stocks generalizing client with
  | nil => simp [KiwoomClient.removeRealtime]
  | cons code stocks ih =>
      have later := ih (client.discard screenNo code)
      simp only [KiwoomClient.removeRealtime, List.foldl_cons, List.forall_mem_cons] at later ⊢
      rw [later]
      simp only [KiwoomClient.discard, Finset.mem_filter, and_assoc]

theorem mem_removed_iff {screenNo : Option String}
    (meets : ∀ placed ∈ state.client.screenCodes, placed.2.baseCode ∈ stocks →
      placed.2.exchange = .krx ∧ (KiwoomClient.targetScreen screenNo = "ALL" ∨
        placed.1 = KiwoomClient.targetScreen screenNo)) (placed : String × KiwoomRealtimeCode) :
    placed ∈ (state.client.removeRealtime stocks screenNo).screenCodes ↔
      placed ∈ state.client.screenCodes ∧ placed.2.baseCode ∉ stocks := by
  rw [mem_removeRealtime]
  constructor
  · rintro ⟨present, survives⟩
    refine ⟨present, fun isRemoved => ?_⟩
    rcases meets placed present isRemoved with ⟨plain, onTarget⟩
    apply survives placed.2.baseCode isRemoved
    exact ⟨onTarget, (kiwoomCode_eq_iff placed.2 placed.2.baseCode).mpr ⟨rfl, plain⟩⟩
  · rintro ⟨present, notRemoved⟩
    refine ⟨present, ?_⟩
    rintro code isMember ⟨_, same⟩
    rw [((kiwoomCode_eq_iff placed.2 code).mp same).1] at notRemoved
    exact notRemoved isMember

theorem baseCodes_removed {screenNo : Option String}
    (meets : ∀ placed ∈ state.client.screenCodes, placed.2.baseCode ∈ stocks →
      placed.2.exchange = .krx ∧ (KiwoomClient.targetScreen screenNo = "ALL" ∨
        placed.1 = KiwoomClient.targetScreen screenNo)) :
    (state.client.removeRealtime stocks screenNo).baseCodes =
      state.client.baseCodes \ stocks.toFinset := by
  ext code
  simp only [KiwoomClient.baseCodes, Finset.mem_image, Finset.mem_sdiff, List.mem_toFinset]
  constructor
  · rintro ⟨placed, isPlaced, rfl⟩
    rcases (mem_removed_iff meets placed).mp isPlaced with ⟨present, notRemoved⟩
    exact ⟨⟨placed, present, rfl⟩, notRemoved⟩
  · rintro ⟨⟨placed, present, rfl⟩, notRemoved⟩
    exact ⟨placed, (mem_removed_iff meets placed).mpr ⟨present, notRemoved⟩, rfl⟩

theorem Agrees.removed (agrees : Agrees config state) {screenNo : Option String}
    (meets : ∀ placed ∈ state.client.screenCodes, placed.2.baseCode ∈ stocks →
      placed.2.exchange = .krx ∧ (KiwoomClient.targetScreen screenNo = "ALL" ∨
        placed.1 = KiwoomClient.targetScreen screenNo)) :
    Agrees config { state with
      registeredCodes := state.registeredCodes \ stocks.toFinset
      client := state.client.removeRealtime stocks screenNo } where
  same := by rw [baseCodes_removed meets, agrees.same]
  oneScreen placed isPlaced other isOther sameCode :=
    agrees.oneScreen placed ((mem_removed_iff meets placed).mp isPlaced).1 other
      ((mem_removed_iff meets other).mp isOther).1 sameCode
  bounded := (Finset.card_le_card Finset.sdiff_subset).trans agrees.bounded

/-! ## Recovery -/

theorem orderedUniqueCodes_val (distinct : stocks.Nodup) :
    orderedUniqueCodes (stocks.map Subtype.val) = .ok stocks := by
  have kept : (stocks.map Subtype.val).filter (fun code => Text.strip code ≠ "") =
      stocks.map Subtype.val := by
    apply List.filter_eq_self.mpr
    intro text present
    rcases List.mem_map.mp present with ⟨code, _, rfl⟩
    have plain : Text.strip code.val = code.val :=
      Text.strip_eq_self fun c isChar => (digit_apart ((StockCode.digits code).2 c isChar)).1
    rw [plain]
    simp only [decide_not, Bool.not_eq_eq_eq_not, Bool.not_true, decide_eq_false_iff_not]
    intro isEmpty
    have length := (StockCode.digits code).1
    rw [isEmpty] at length
    cases length
  have parsed : ∀ stocks : List StockCode,
      (stocks.map Subtype.val).mapM stockCode = .ok stocks := by
    intro stocks
    induction stocks with
    | nil => rfl
    | cons code stocks ih =>
        rw [List.map_cons, List.mapM_cons, stockCode_val, ih]
        rfl
  unfold orderedUniqueCodes
  rw [kept, parsed]
  exact congrArg Except.ok (eraseDups_of_nodup distinct)

theorem recover_eq {results : Nat → Int} (some : state.registeredCodes ≠ ∅)
    (parsed : normalizeRealtimeExchange config.realtimeExchange = .ok exchange)
    (taken : allTaken ((state.registeredCodes.sort (· ≤ ·)).map (KiwoomRealtimeCode.mk · exchange))
      results = true) :
    (state.recoverRealtime config results).1 = { state with
      client := ⟨placedCodes ((state.registeredCodes.sort (· ≤ ·)).map
        (KiwoomRealtimeCode.mk · exchange)) none results, ∅, ∅⟩ } := by
  have effects := registerRealtime_eq state.client.removeAllRealtime
    ((state.registeredCodes.sort (· ≤ ·)).map (KiwoomRealtimeCode.mk · exchange)) none results
  have succeeds := effects.2.mpr taken
  have unique := orderedUniqueCodes_val (state.registeredCodes.sort_nodup (· ≤ ·))
  have texts : (state.registeredCodes.sort (· ≤ ·)).map (fun code =>
      (KiwoomRealtimeCode.mk code exchange).kiwoomCode) =
    ((state.registeredCodes.sort (· ≤ ·)).map
      (KiwoomRealtimeCode.mk · exchange)).map KiwoomRealtimeCode.kiwoomCode := by
    simp
  unfold RealtimeState.recoverRealtime
  rw [if_neg some]
  unfold RealtimeState.registerRealtimeCodes
  simp only [unique, RealtimeState.plannedCodes, if_true, parsed]
  split
  · next isEmpty =>
      exfalso
      apply some
      rw [← state.registeredCodes.sort_toFinset (· ≤ ·), isEmpty]
      rfl
  · rw [texts]
    cases registers : state.client.removeAllRealtime.registerRealtime
        (((state.registeredCodes.sort (· ≤ ·)).map
          (KiwoomRealtimeCode.mk · exchange)).map KiwoomRealtimeCode.kiwoomCode) none results with
    | mk client failure =>
        rw [registers] at effects succeeds
        have isClient : client = _ := effects.1
        have noFailure : failure = none := succeeds
        subst noFailure
        subst isClient
        simp [KiwoomClient.removeAllRealtime]

theorem Agrees.recovered (agrees : Agrees config state) {results : Nat → Int}
    (taken : allTaken ((state.registeredCodes.sort (· ≤ ·)).map (KiwoomRealtimeCode.mk · exchange))
      results = true) :
    Agrees config { state with
      client := ⟨placedCodes ((state.registeredCodes.sort (· ≤ ·)).map
        (KiwoomRealtimeCode.mk · exchange)) none results, ∅, ∅⟩ } where
  same := by
    simp only [KiwoomClient.baseCodes]
    rw [image_placed taken, map_baseCode, Finset.sort_toFinset]
  oneScreen placed isPlaced other isOther sameCode := by
    apply placed_on_one_screen _ isPlaced isOther sameCode
    rw [map_baseCode]
    exact state.registeredCodes.sort_nodup (· ≤ ·)
  bounded := agrees.bounded

/-! ## Runs -/

theorem Agrees.next (agrees : Agrees config state) (op : RealtimeOp)
    (keeps : keepsAgreement config state op = true) :
    Agrees config ((realtimeSystem config).next state op) ∧ stepAgrees config state op := by
  cases op with
  | registerCodes texts force results =>
      have after := agrees.registerRealtimeCodes keeps
      exact ⟨after, True.intro⟩
  | registerCommand texts order screenNo results =>
      have after := agrees.registerCommand keeps
      exact ⟨after, True.intro⟩
  | removeCommand texts order screenNo =>
      cases parsed : RealtimeState.commandCodes texts order with
      | error failure =>
          have unchanged : (realtimeSystem config).next state
              (.removeCommand texts order screenNo) = state := by
            simp [System.next, realtimeSystem, RealtimeState.removeCommand, parsed]
          rw [unchanged]
          refine ⟨agrees, ?_⟩
          intro removed isRemoved
          rw [parsed] at isRemoved
          cases isRemoved
      | ok stocks =>
          have isNext : (realtimeSystem config).next state (.removeCommand texts order screenNo) =
              { state with
                registeredCodes := state.registeredCodes \ stocks.toFinset
                client := state.client.removeRealtime stocks screenNo } := by
            simp [System.next, realtimeSystem, RealtimeState.removeCommand, parsed]
          have meets : ∀ placed ∈ state.client.screenCodes, placed.2.baseCode ∈ stocks →
              placed.2.exchange = .krx ∧ (KiwoomClient.targetScreen screenNo = "ALL" ∨
                placed.1 = KiwoomClient.targetScreen screenNo) := by
            simpa only [keepsAgreement, parsed, decide_eq_true_eq] using keeps
          have after := agrees.removed meets
          refine ⟨isNext ▸ after, ?_⟩
          intro removed isRemoved code isMember
          rw [parsed, Except.ok.injEq] at isRemoved
          subst isRemoved
          rw [isNext]
          have gone : code ∉ state.registeredCodes \ stocks.toFinset := by
            simp [isMember]
          refine ⟨gone, ?_⟩
          rw [← after.same]
          exact gone
  | registerMarketIndices texts result =>
      refine ⟨?_, True.intro⟩
      have same : ((realtimeSystem config).next state
            (.registerMarketIndices texts result)).registeredCodes = state.registeredCodes ∧
          ((realtimeSystem config).next state
            (.registerMarketIndices texts result)).client.screenCodes =
              state.client.screenCodes := by
        simp only [System.next, realtimeSystem, RealtimeState.registerMarketIndices,
          KiwoomClient.registerMarketIndexRealtime]
        split
        · next client failure registers =>
            split at registers <;> (try split at registers) <;> cases registers <;> exact ⟨rfl, rfl⟩
        · next client codes registers =>
            split at registers <;> (try split at registers) <;> cases registers <;> exact ⟨rfl, rfl⟩
      refine ⟨?_, ?_, ?_⟩
      · rw [same.1, agrees.same, KiwoomClient.baseCodes, KiwoomClient.baseCodes, same.2]
      · rw [same.2]
        exact agrees.oneScreen
      · rw [same.1]
        exact agrees.bounded
  | recover results =>
      by_cases none : state.registeredCodes = ∅
      · have unchanged : (realtimeSystem config).next state (.recover results) = state := by
          simp [System.next, realtimeSystem, RealtimeState.recoverRealtime, none]
        dsimp only [stepAgrees]
        rw [unchanged]
        exact ⟨agrees, rfl, rfl, rfl, rfl⟩
      · simp only [keepsAgreement, none, decide_false, Bool.false_or] at keeps
        cases parsed : normalizeRealtimeExchange config.realtimeExchange with
        | error failure =>
            rw [parsed] at keeps
            cases keeps
        | ok exchange =>
            simp only [parsed, Bool.and_eq_true, decide_eq_true_eq] at keeps
            rcases keeps with ⟨noIndices, taken⟩
            have isNext : (realtimeSystem config).next state (.recover results) = _ :=
              recover_eq none parsed taken
            have after := agrees.recovered taken
            dsimp only [stepAgrees]
            rw [isNext]
            refine ⟨after, rfl, ?_, rfl, noIndices.symm⟩
            rw [← agrees.same]
            exact after.same.symm

theorem agrees_initial (config : RealtimeConfig) : Agrees config RealtimeState.initial where
  same := rfl
  oneScreen _ isPlaced := by simp [RealtimeState.initial] at isPlaced
  bounded := by simp [RealtimeState.initial]

/-- In a run whose steps keep the agreement, runtime and client agree in every state, a removed
code is gone from both sides, and a recovery leaves what is registered. -/
theorem registrations_agree (config : RealtimeConfig) (ops : List RealtimeOp)
    (keeps : (realtimeSystem config).Along (fun state op => keepsAgreement config state op = true)
      RealtimeState.initial ops) :
    (realtimeSystem config).Throughout (Agrees config) RealtimeState.initial ops ∧
      (realtimeSystem config).Along (stepAgrees config) RealtimeState.initial ops := by
  have preserved : ∀ state op, Agrees config state → keepsAgreement config state op = true →
      Agrees config ((realtimeSystem config).next state op) :=
    fun _ op agrees keeps => (agrees.next op keeps).1
  constructor
  · rw [System.throughout_iff]
    refine ⟨agrees_initial config, ?_⟩
    exact System.Along.imp (Agrees config) preserved preserved (agrees_initial config) keeps
  · exact System.Along.imp (Agrees config) preserved
      (fun _ op agrees keeps => (agrees.next op keeps).2) (agrees_initial config) keeps

def krxConfig : RealtimeConfig := ⟨"KRX", 100, "5700"⟩

/-- Two codes are registered, one is removed, and the other is recovered. -/
def orderlyRegistrations : List RealtimeOp :=
  [.registerCodes ["005930", "000660"] false fun _ => 0, .removeCommand ["000660"] [] none,
    .recover fun _ => 0]

theorem orderly_registrations_agree :
    (realtimeSystem krxConfig).Throughout (Agrees krxConfig) RealtimeState.initial
        orderlyRegistrations ∧
      (realtimeSystem krxConfig).Along (stepAgrees krxConfig) RealtimeState.initial
        orderlyRegistrations :=
  registrations_agree krxConfig orderlyRegistrations (by decide +kernel)

def removedAtExchange : List RealtimeOp :=
  [.registerCodes ["005930"] false fun _ => 0, .removeCommand ["005930"] [] none]

/-- The removal leaves the code with the suffix on its screen. -/
theorem removed_code_stays :
    ¬ ∀ (config : RealtimeConfig) (ops : List RealtimeOp),
      (realtimeSystem config).Throughout (Agrees config) RealtimeState.initial ops ∧
        (realtimeSystem config).Along (stepAgrees config) RealtimeState.initial ops := by
  intro agree
  have reached := (agree ⟨"ALL", 100, "5700"⟩ removedAtExchange).1 removedAtExchange [] rfl
  have apart : ¬ ((realtimeSystem ⟨"ALL", 100, "5700"⟩).run RealtimeState.initial
      removedAtExchange).registeredCodes =
    ((realtimeSystem ⟨"ALL", 100, "5700"⟩).run RealtimeState.initial
      removedAtExchange).client.baseCodes := by
    decide +kernel
  exact apart reached.same

end SuseokTrader
