import Augr.Foundation.Order
import Augr.Ledger.Inventory
import Mathlib.Data.List.ReduceOption
import Mathlib.Data.String.Basic

/-! A rebuild reads its input as a set and never past its boundary.

Two inputs that agree on what the boundary lets through fail together or give one
projection, whatever the order of their rows and whatever they hold about the future.
-/

set_option autoImplicit false

namespace Augr.Ledger

open Foundation ProjectionState

/-- Effective time, then observation time, then identity. -/
def chronology (effectiveAt observedAt : Instant) (id : Uuid) : ℤ ×ₗ ℤ ×ₗ String :=
  toLex (effectiveAt.nanos, toLex (observedAt.nanos, id.toText))

def Transaction.chronology (t : Transaction) : ℤ ×ₗ ℤ ×ₗ String :=
  Ledger.chronology t.effectiveAt t.observedAt t.id

def MarkObservation.chronology (mark : MarkObservation) : ℤ ×ₗ ℤ ×ₗ String :=
  Ledger.chronology mark.effectiveAt mark.observedAt mark.id

theorem projectionTransactionLess_iff (left right : Transaction) :
    projectionTransactionLess left right = true ↔ left.chronology < right.chronology := by
  simp only [Transaction.chronology, chronology, Prod.Lex.toLex_lt_toLex, projectionTransactionLess, Instant.equal,
    Instant.before]
  by_cases effective : left.effectiveAt.nanos = right.effectiveAt.nanos
  · by_cases observed : left.observedAt.nanos = right.observedAt.nanos
    · simp [effective, observed]
    · simp [effective, observed]
  · simp [effective]

theorem projectionMarkLater_iff (left right : MarkObservation) :
    projectionMarkLater left right = true ↔ right.chronology < left.chronology := by
  simp only [MarkObservation.chronology, chronology, Prod.Lex.toLex_lt_toLex, projectionMarkLater, Instant.equal,
    Instant.after]
  by_cases effective : left.effectiveAt.nanos = right.effectiveAt.nanos
  · by_cases observed : left.observedAt.nanos = right.observedAt.nanos
    · simp [effective, observed]
    · simp [effective, observed, Ne.symm observed]
  · simp [effective, Ne.symm effective]

theorem sortTransactions_eq_of_perm {left right : List Transaction} (perm : left.Perm right)
    (distinct : (left.map Transaction.id).Nodup) : sortTransactions left = sortTransactions right := by
  refine insertionSort_eq_of_perm Transaction.chronology (fun first second => ?_) perm (List.inj_on_of_nodup_map ?_)
  · rw [projectionTransactionLess_iff, not_lt]
  · -- the key ends in the identity, so distinct identities make distinct keys
    refine List.Nodup.of_map (fun key => (ofLex (ofLex key).2).2) ?_
    have texts : (left.map Transaction.id).map Uuid.toText = left.map fun t => t.id.toText := List.map_map
    rw [List.map_map]
    exact texts ▸ distinct.map Uuid.toText_injective

def visibleTransactions (asOf : Instant) (candidates : List (Option Transaction)) : List Transaction :=
  candidates.reduceOption.filter fun transaction => !isFuture asOf transaction

def rowsFor (transactions : List Transaction) (rows : List ProjectionMechanics) : List ProjectionMechanics :=
  rows.filter fun row => transactions.any fun transaction => transaction.id == row.transactionID

def visibleMarks (request : ProjectionRequest) (currency : String) (candidates : List (Option MarkObservation)) :
    List MarkObservation :=
  candidates.reduceOption.filter (markIsVisible request currency)

def Admitted (request : ProjectionRequest) (transaction : Transaction) : Prop :=
  transaction.validate = .ok () ∧ transaction.accountID = request.accountID

theorem eligibleTransactions_cons (request : ProjectionRequest) (candidate : Option Transaction)
    (rest : List (Option Transaction)) : eligibleTransactions request (candidate :: rest) = (do
      let first ← eligibleTransaction request candidate
      let others ← eligibleTransactions request rest
      pure (first.toList ++ others)) := by
  simp only [eligibleTransactions, List.mapM_cons, bind_assoc, pure_bind]
  refine bind_congr fun first => bind_congr fun others => ?_
  cases first <;> rfl

theorem eligibleTransactions_ok_iff (request : ProjectionRequest) (candidates : List (Option Transaction))
    (kept : List Transaction) : eligibleTransactions request candidates = .ok kept ↔
      none ∉ candidates ∧ (∀ t ∈ visibleTransactions request.asOf candidates, Admitted request t) ∧
        visibleTransactions request.asOf candidates = kept := by
  induction candidates generalizing kept with
  | nil => simp [eligibleTransactions, visibleTransactions, pure, Except.pure]
  | cons candidate rest ih =>
    rw [eligibleTransactions_cons]
    cases candidate with
    | none => simp [eligibleTransaction]
    | some transaction =>
      cases future : isFuture request.asOf transaction with
      | true =>
        have skipped : visibleTransactions request.asOf (some transaction :: rest) =
            visibleTransactions request.asOf rest := by
          simp [visibleTransactions, future]
        simp [eligibleTransaction, future, ih, skipped]
      | false =>
        have taken : visibleTransactions request.asOf (some transaction :: rest) =
            transaction :: visibleTransactions request.asOf rest := by
          simp [visibleTransactions, future]
        simp only [eligibleTransaction, future, taken]
        simp [bind_ok_iff, ih, Admitted, pure, Except.pure]
        grind

theorem eligibleProjectionMechanics_ok_iff (transactions : List Transaction) (rows : List ProjectionMechanics)
    (after : MechanicsMap) :
    eligibleProjectionMechanics rows transactions = .ok after ↔
      (∀ row ∈ rowsFor transactions rows, row.validate = .ok ()) ∧
        ((rowsFor transactions rows).map ProjectionMechanics.transactionID).Nodup ∧ rowsFor transactions rows = after := by
  -- the other rows are passed over
  have kept : eligibleProjectionMechanics rows transactions =
      (rowsFor transactions rows).foldlM (addMechanics transactions) [] := by
    rw [rowsFor, List.foldlM_filter, eligibleProjectionMechanics]
    congr
    funext sofar row
    unfold addMechanics
    split <;> simp_all [pure, Except.pure]
  have loop := @foldlM_checked_iff _ _ (addMechanics transactions) (fun row => row.validate = .ok ())
    (fun earlier later => earlier.transactionID ≠ later.transactionID) id (rowsFor transactions rows)
    (fun sofar row member next => by
      have absent : (MechanicsMap.lookup sofar row.transactionID).isSome = false ↔
          ∀ earlier ∈ sofar, earlier.transactionID ≠ row.transactionID := by
        simp [MechanicsMap.lookup]
      simp only [addMechanics, (List.mem_filter.mp member).2, Bool.not_true, Bool.false_eq_true, if_false, returns_iff,
        absent]
      grind) after
  rw [kept, loop, List.map_id, List.Nodup, List.pairwise_map]
  grind

def AcceptableMark (candidate : Option MarkObservation) : Prop :=
  ∃ mark, candidate = some mark ∧ mark.validate = .ok ()

theorem selectMark_returns (request : ProjectionRequest) (currency : String) (selected : SelectedMarks)
    {candidate : Option MarkObservation} (acceptable : AcceptableMark candidate) :
    ∃ after, selectMark request currency selected candidate = .ok after := by
  obtain ⟨mark, rfl, valid⟩ := acceptable
  simp only [selectMark, valid, wrapping, ok_bind]
  split
  · exact ⟨_, rfl⟩
  · split <;> exact ⟨_, rfl⟩

abbrev Latest (seen : List MarkObservation) (selected : SelectedMarks) : Prop :=
  Selects MarkObservation.instrumentID MarkObservation.chronology seen selected

theorem selectMark_latest {request : ProjectionRequest} {currency : String} {seen : List MarkObservation}
    {selected after : SelectedMarks} {candidate : Option MarkObservation} (latest : Latest seen selected)
    (ok : selectMark request currency selected candidate = .ok after) :
    AcceptableMark candidate ∧ Latest (seen ++ visibleMarks request currency [candidate]) after := by
  cases candidate with
  | none => cases ok
  | some mark =>
    simp only [selectMark, check_bind_ok_iff, wrapping_ok_iff] at ok
    obtain ⟨valid, ok⟩ := ok
    refine ⟨⟨mark, rfl, valid⟩, ?_⟩
    cases visible : markIsVisible request currency mark with
    | false =>
      simp only [visible, Bool.not_false, if_true] at ok
      cases ok
      simpa [visibleMarks, List.reduceOption, visible] using latest
    | true =>
      have taken : visibleMarks request currency [some mark] = [mark] := by
        simp [visibleMarks, List.reduceOption, visible]
      rw [taken]
      simp only [visible, Bool.not_true, Bool.false_eq_true, if_false] at ok
      split at ok
      · rename_i missing
        cases ok
        refine latest.store fun current found => ?_
        rw [SelectedMarks.lookup] at missing
        rw [missing] at found
        cases found
      · rename_i current found
        rw [SelectedMarks.lookup] at found
        cases later : projectionMarkLater mark current with
        | true =>
          simp only [later, if_true] at ok
          cases ok
          refine latest.store fun other isOther => ?_
          rw [found] at isOther
          cases isOther
          exact ((projectionMarkLater_iff mark current).mp later).le
        | false =>
          simp only [later, Bool.false_eq_true, if_false] at ok
          cases ok
          refine latest.keep found (not_lt.mp fun ahead => ?_)
          rw [(projectionMarkLater_iff mark current).mpr ahead] at later
          cases later

theorem selectMarks_latest {request : ProjectionRequest} {currency : String} {seen : List MarkObservation}
    {selected after : SelectedMarks} {candidates : List (Option MarkObservation)} (latest : Latest seen selected)
    (ok : candidates.foldlM (selectMark request currency) selected = .ok after) :
    (∀ candidate ∈ candidates, AcceptableMark candidate) ∧
      Latest (seen ++ visibleMarks request currency candidates) after := by
  induction candidates generalizing seen selected with
  | nil =>
    cases ok
    simpa [visibleMarks] using latest
  | cons candidate rest ih =>
    rw [List.foldlM_cons] at ok
    obtain ⟨middle, first, others⟩ := bind_ok_iff.mp ok
    obtain ⟨acceptable, stepped⟩ := selectMark_latest latest first
    obtain ⟨restAcceptable, final⟩ := ih stepped others
    refine ⟨List.forall_mem_cons.mpr ⟨acceptable, restAcceptable⟩, ?_⟩
    have split : visibleMarks request currency (candidate :: rest) =
        visibleMarks request currency [candidate] ++ visibleMarks request currency rest := by
      rw [visibleMarks, ← List.singleton_append, List.reduceOption_append, List.filter_append]
      rfl
    rw [split, ← List.append_assoc]
    exact final

theorem selectMarks_returns (request : ProjectionRequest) (currency : String) (selected : SelectedMarks)
    {candidates : List (Option MarkObservation)} (acceptable : ∀ candidate ∈ candidates, AcceptableMark candidate) :
    ∃ after, candidates.foldlM (selectMark request currency) selected = .ok after := by
  induction candidates generalizing selected with
  | nil => exact ⟨selected, rfl⟩
  | cons candidate rest ih =>
    obtain ⟨first, others⟩ := List.forall_mem_cons.mp acceptable
    obtain ⟨middle, stepped⟩ := selectMark_returns request currency selected first
    obtain ⟨after, final⟩ := ih middle others
    refine ⟨after, ?_⟩
    rw [List.foldlM_cons, stepped]
    exact final

/-- Two inputs that agree on everything up to a boundary. Beyond it each may hold any
transactions, mechanics and acceptable marks. -/
structure SameAsOf (request : ProjectionRequest) (currency : String) (left right : ProjectionInput) : Prop where
  nilTransaction : none ∈ left.transactions ↔ none ∈ right.transactions
  transactions : ∀ t, t ∈ visibleTransactions request.asOf left.transactions ↔
    t ∈ visibleTransactions request.asOf right.transactions
  leftDistinct : ((visibleTransactions request.asOf left.transactions).map Transaction.id).Nodup
  rightDistinct : ((visibleTransactions request.asOf right.transactions).map Transaction.id).Nodup
  mechanics : (rowsFor (visibleTransactions request.asOf left.transactions) left.mechanics).Perm
    (rowsFor (visibleTransactions request.asOf right.transactions) right.mechanics)
  acceptableMarks : (∀ candidate ∈ left.marks, AcceptableMark candidate) ↔
    ∀ candidate ∈ right.marks, AcceptableMark candidate
  marks : ∀ mark, mark ∈ visibleMarks request currency left.marks ↔ mark ∈ visibleMarks request currency right.marks
  distinctMarks : ∀ first ∈ visibleMarks request currency left.marks,
    ∀ second ∈ visibleMarks request currency left.marks, first.id = second.id → first = second

/-- The replay reads the mechanics only by looking them up. -/
structure Prepared.Same (left right : Prepared) : Prop where
  request : left.request = right.request
  currency : left.currency = right.currency
  transactions : left.transactions = right.transactions
  mechanics : ∀ id, left.mechanics.lookup id = right.mechanics.lookup id

theorem replay_same {left right : MechanicsMap} (same : ∀ id, left.lookup id = right.lookup id) (currency : String) :
    replay currency left = replay currency right := by
  have step : replayTransaction currency left = replayTransaction currency right := by
    funext state transaction
    simp only [replayTransaction, same]
  funext state transactions
  rw [replay, replay, step]

theorem projectionInputChecksum_same {left right : MechanicsMap} (same : ∀ id, left.lookup id = right.lookup id)
    (request : ProjectionRequest) (currency : String) (transactions : List Transaction) (marks : List ProjectionMark) :
    projectionInputChecksum request currency transactions left marks =
      projectionInputChecksum request currency transactions right marks := by
  simp only [projectionInputChecksum, same]

theorem valueInstrument_same {left right : SelectedMarks} (same : ∀ id, left.lookup id = right.lookup id)
    (state : ProjectionState) (request : ProjectionRequest) :
    state.valueInstrument request left = state.valueInstrument request right := by
  funext sofar id
  simp only [valueInstrument, same]

section
variable {request : ProjectionRequest} {currency : String} {left right : ProjectionInput}

theorem SameAsOf.perm (same : SameAsOf request currency left right) :
    (visibleTransactions request.asOf left.transactions).Perm (visibleTransactions request.asOf right.transactions) :=
  (List.perm_ext_iff_of_nodup same.leftDistinct.of_map same.rightDistinct.of_map).mpr same.transactions

theorem SameAsOf.eligible (same : SameAsOf request currency left right) :
    Matched (fun first second => sortTransactions first = sortTransactions second ∧ first.isEmpty = second.isEmpty ∧
        first = visibleTransactions request.asOf left.transactions ∧
        second = visibleTransactions request.asOf right.transactions)
      (eligibleTransactions request left.transactions) (eligibleTransactions request right.transactions) := by
  apply Matched.of_returns
  · simp only [eligibleTransactions_ok_iff, same.nilTransaction, same.transactions, exists_and_left, exists_eq']
  · intro first second inLeft inRight
    obtain ⟨_, _, rfl⟩ := (eligibleTransactions_ok_iff _ _ _).mp inLeft
    obtain ⟨_, _, rfl⟩ := (eligibleTransactions_ok_iff _ _ _).mp inRight
    exact ⟨sortTransactions_eq_of_perm same.perm same.leftDistinct, same.perm.isEmpty_eq, rfl, rfl⟩

theorem rowsFor_sort (transactions : List Transaction) (rows : List ProjectionMechanics) :
    rowsFor (sortTransactions transactions) rows = rowsFor transactions rows := by
  have any : ∀ test : Transaction → Bool, (sortTransactions transactions).any test = transactions.any test :=
    fun test => (List.perm_insertionSort _ transactions).any_eq
  simp only [rowsFor, any]

theorem SameAsOf.lookups (same : SameAsOf request currency left right) :
    Matched (fun first second => ∀ id, MechanicsMap.lookup first id = MechanicsMap.lookup second id)
      (eligibleProjectionMechanics left.mechanics
        (sortTransactions (visibleTransactions request.asOf left.transactions)))
      (eligibleProjectionMechanics right.mechanics
        (sortTransactions (visibleTransactions request.asOf right.transactions))) := by
  have unique := (same.mechanics.map ProjectionMechanics.transactionID).nodup_iff
  apply Matched.of_returns
  · simp only [eligibleProjectionMechanics_ok_iff, rowsFor_sort, same.mechanics.mem_iff, unique, exists_and_left, exists_eq']
  · intro first second inLeft inRight id
    obtain ⟨_, distinct, rfl⟩ := (eligibleProjectionMechanics_ok_iff _ _ _).mp inLeft
    obtain ⟨_, _, rfl⟩ := (eligibleProjectionMechanics_ok_iff _ _ _).mp inRight
    simp only [rowsFor_sort] at distinct ⊢
    exact find_group_eq_of_perm same.mechanics distinct id

theorem SameAsOf.marksFound (same : SameAsOf request currency left right) :
    Matched (fun first second => ∀ id, SelectedMarks.lookup first id = SelectedMarks.lookup second id)
      (selectMarks request currency left.marks) (selectMarks request currency right.marks) := by
  apply Matched.of_returns
  · constructor
    · rintro ⟨selected, ok⟩
      exact selectMarks_returns _ _ _ (same.acceptableMarks.mp (selectMarks_latest .empty ok).1)
    · rintro ⟨selected, ok⟩
      exact selectMarks_returns _ _ _ (same.acceptableMarks.mpr (selectMarks_latest .empty ok).1)
  · intro first second inLeft inRight
    have leftLatest := (selectMarks_latest .empty inLeft).2
    have rightLatest := (selectMarks_latest .empty inRight).2
    refine leftLatest.lookup_eq rightLatest same.marks fun one inOne other inOther tied => ?_
    -- marks that tie have one identity
    have texts : one.id.toText = other.id.toText := congrArg (fun key => (ofLex (ofLex key).2).2) tied
    exact same.distinctMarks one inOne other inOther (Uuid.toText_injective texts)

theorem SameAsOf.finalized (same : SameAsOf request currency left right) (state : ProjectionState) :
    Matched (· = ·) (state.finalize request currency left.marks) (state.finalize request currency right.marks) := by
  refine same.marksFound.bind fun first second found => ?_
  rw [valueInstrument_same found]
  exact Matched.refl _

end

theorem prepareProjection_same {left right : ProjectionInput} (sameRequest : left.request = right.request)
    (sameCurrency : left.baseCurrency = right.baseCurrency)
    (same : ∀ request currency, normalizeProjectionBoundary left.request left.baseCurrency = .ok (request, currency) →
      SameAsOf request currency left right) :
    Matched (fun first second => first.Same second ∧ SameAsOf first.request first.currency left right)
      (prepareProjection left) (prepareProjection right) := by
  unfold prepareProjection
  rw [← sameRequest, ← sameCurrency]
  cases boundary : normalizeProjectionBoundary left.request left.baseCurrency with
  | error fault => exact .failed fault fault
  | ok normalized =>
    obtain ⟨request, currency⟩ := normalized
    have agrees := same request currency boundary
    refine agrees.eligible.bind ?_
    rintro first second ⟨sorted, empty, rfl, rfl⟩
    rw [empty]
    refine (Matched.refl _).bind fun _ _ _ => ?_
    refine agrees.lookups.bind fun firstRows secondRows found => ?_
    exact .returned ⟨⟨rfl, rfl, sorted, found⟩, agrees⟩

/-- A rebuild depends only on what its boundary lets through: not on the order of the
rows, and not on what lies in the future of the boundary. -/
theorem buildPortfolioProjection_order_blind {left right : ProjectionInput} (sameRequest : left.request = right.request)
    (sameCurrency : left.baseCurrency = right.baseCurrency)
    (same : ∀ request currency, normalizeProjectionBoundary left.request left.baseCurrency = .ok (request, currency) →
      SameAsOf request currency left right) :
    (∃ leftFault rightFault, buildPortfolioProjection left = .error leftFault ∧
      buildPortfolioProjection right = .error rightFault) ∨
    ∃ projection, buildPortfolioProjection left = .ok projection ∧ buildPortfolioProjection right = .ok projection := by
  have runs : Matched (· = ·) (buildPortfolioProjection left) (buildPortfolioProjection right) := by
    refine (prepareProjection_same sameRequest sameCurrency same).bind ?_
    rintro ⟨request, currency, transactions, leftRows⟩ ⟨_, _, _, rightRows⟩ ⟨⟨rfl, rfl, rfl, found⟩, agrees⟩
    simp only [replay_same found]
    refine (Matched.refl _).bind fun state _ isState => ?_
    subst isState
    refine (agrees.finalized state).bind fun final _ isFinal => ?_
    subst isFinal
    simp only [projectionInputChecksum_same found]
    exact Matched.refl _
  generalize buildPortfolioProjection left = first at runs
  generalize buildPortfolioProjection right = second at runs
  cases runs with
  | failed leftFault rightFault => exact Or.inl ⟨leftFault, rightFault, rfl, rfl⟩
  | returned results =>
    subst results
    exact Or.inr ⟨_, rfl, rfl⟩

def sampleMark (observation : String) (seconds : Int) : MarkObservation :=
  let mark : MarkObservation :=
    { id := Uuid.nil
      instrumentID := Uuid.ofByte 2
      price := Decimal.newFromInt 12
      priceCurrency := "USD"
      source := "alpaca"
      sourceNamespace := "close"
      sourceObservationID := observation
      sourceRevision := ""
      effectiveAt := ⟨seconds * 1000000, true⟩
      observedAt := ⟨seconds * 1000000, true⟩
      metadata := emptyObject
      createdAt := ⟨9000000, true⟩ }
  { mark with id := markObservationID mark }

def sampleValued : ProjectionInput := { sampleInput with marks := [some (sampleMark "m1" 4)] }

/-- The same account with its rows in another order and with rows from the future. -/
def sampleShuffled : ProjectionInput :=
  { sampleInput with
    transactions := some (sampleTrade 30 .fillBuy 5 7) :: sampleInput.transactions.reverse
    mechanics := { sampleMechanics 30 .fillBuy 5 with normalizationID := Uuid.nil } :: sampleInput.mechanics.reverse
    marks := [some (sampleMark "m2" 8), some (sampleMark "m1" 4)] }

theorem sampleShuffled_same : SameAsOf sampleRequest "USD" sampleValued sampleShuffled := by
  have reversed : visibleTransactions sampleRequest.asOf sampleShuffled.transactions =
      (visibleTransactions sampleRequest.asOf sampleValued.transactions).reverse := by
    decide +kernel
  have distinct : ((visibleTransactions sampleRequest.asOf sampleValued.transactions).map Transaction.id).Nodup := by
    decide +kernel
  have valid : (sampleMark "m1" 4).validate = .ok () ∧ (sampleMark "m2" 8).validate = .ok () := by decide +kernel
  have shown : visibleMarks sampleRequest "USD" sampleShuffled.marks = [sampleMark "m1" 4] := by decide +kernel
  have one : visibleMarks sampleRequest "USD" sampleValued.marks = [sampleMark "m1" 4] := by decide +kernel
  refine ⟨?_, ?_, distinct, ?_, ?_, ?_, ?_, ?_⟩
  · simp [sampleValued, sampleShuffled, sampleInput]
  · simp [reversed]
  · rw [reversed, List.map_reverse]
    exact List.nodup_reverse.mpr distinct
  · decide +kernel
  · simp [sampleValued, sampleShuffled, AcceptableMark, valid]
  · simp [shown, one]
  · simp [one]

theorem sampleValued_evaluated : (buildPortfolioProjection sampleValued).toOption.any (fun _ => true) = true := by
  decide +kernel

theorem buildPortfolioProjection_order_blind_shuffled : ∃ projection,
    buildPortfolioProjection sampleValued = .ok projection ∧ buildPortfolioProjection sampleShuffled = .ok projection := by
  have boundary : normalizeProjectionBoundary sampleRequest "USD" = .ok (sampleRequest, "USD") := by
    decide
  obtain ⟨projection, built, _⟩ := ok_of_evaluated sampleValued_evaluated
  have together := @buildPortfolioProjection_order_blind sampleValued sampleShuffled rfl rfl
    fun request currency ok => by
      rw [show normalizeProjectionBoundary sampleValued.request sampleValued.baseCurrency = .ok (sampleRequest, "USD")
        from boundary] at ok
      cases ok
      exact sampleShuffled_same
  rcases together with ⟨_, _, failed, _⟩ | succeeded
  · rw [built] at failed
    cases failed
  · exact succeeded

end Augr.Ledger
