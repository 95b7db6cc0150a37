import Augr.Predictionreplay.Model

/-! A replayed request depends on the books and fee policies that were known when it was decided, and on
nothing that came later.

The recorder sorts, checks and scans all its books. The scan keeps the greatest eligible one, and the checks
make the greatest unique, so that what is kept is a function of the set of eligible books. -/

set_option autoImplicit false

namespace Augr.Predictionreplay

open Foundation
open Experimentrun (formatTime)

variable {limit quantity : Decimal} {given : FeePolicyInput} {index : Index} {values : List FeePolicyInput}
  {books books' : List ParsedBook} {fees fees' : List ParsedFee} {book : ParsedBook} {fee other : ParsedFee}
  {row : ReplayCanonical} {request value : ReplayInput}

def BookInput.knownAt (t : Instant) (book : BookInput) : Bool := !book.exchangeAt.after t && !book.availableAt.after t

def FeePolicyInput.knownAt (t : Instant) (fee : FeePolicyInput) : Bool :=
  !fee.availableAt.after t && !fee.effectiveFrom.after t

/-- What a replay reads of a book. The partition that holds the book is not part of it. -/
structure BookView where
  input : BookInput
  (bids asks : List ParsedLevel)

def ParsedBook.view (book : ParsedBook) : BookView := ⟨book.input, book.bids, book.asks⟩

structure ReadBook (given : BookInput) (book : ParsedBook) : Prop where
  input : book.input = given.normalized
  bids : normalizeLevels "bid" given.bids true = .ok book.bids
  asks : normalizeLevels "ask" given.asks false = .ok book.asks

theorem ReadBook.view_eq {given : BookInput} {other : ParsedBook} (first : ReadBook given book)
    (second : ReadBook given other) : book.view = other.view := by
  have bids := first.bids.symm.trans second.bids
  have asks := first.asks.symm.trans second.asks
  rw [Except.ok.injEq] at bids asks
  rw [ParsedBook.view, ParsedBook.view, first.input, second.input, bids, asks]

theorem addBook_ok {sofar next : List ParsedBook} {given : BookInput} (ok : addBook index sofar given = .ok next) :
    ∃ book, next = sofar ++ [book] ∧ ReadBook given book ∧
      ∀ earlier ∈ sofar, earlier.input.sourceKey ≠ book.input.sourceKey := by
  simp only [addBook, returns_iff] at ok
  obtain ⟨_, bids, bidsOk, asks, asksOk, _, fresh, rfl⟩ := ok
  refine ⟨_, rfl, ⟨rfl, bidsOk, asksOk⟩, fun earlier member same => ?_⟩
  exact List.any_eq_false.mp fresh earlier member (beq_iff_eq.mpr same)

structure ReadBooks (values : List BookInput) (books : List ParsedBook) : Prop where
  covers : ∀ given ∈ values, ∃ book ∈ books, ReadBook given book
  sources : ∀ book ∈ books, ∃ given ∈ values, ReadBook given book
  distinct : ∀ left ∈ books, ∀ right ∈ books, left.input.sourceKey = right.input.sourceKey → left = right

theorem normalizeBooks_ok {values : List BookInput} (ok : normalizeBooks values index = .ok books) :
    ReadBooks values books := by
  simp only [normalizeBooks, returns_iff] at ok
  obtain ⟨_, read, readOk, _, rfl⟩ := ok
  have each : ∀ sofar given next, addBook index sofar given = .ok next → ∃ book, next = sofar ++ [book] ∧
      ReadBook given book ∧ ∀ earlier ∈ sofar, earlier.input.sourceKey ≠ book.input.sourceKey := fun _ _ _ => addBook_ok
  obtain ⟨rows, rfl, matched, apart⟩ := foldlM_forall₂ each List.Pairwise.nil readOk
  have keys : (read.map fun book => book.input.sourceKey).Nodup := List.pairwise_map.mpr apart
  have reads := Reads.of_perm matched (perm_sortedBy (fun book : ParsedBook => book.input.sortKey) read)
  refine ⟨reads.covers, reads.sources, fun left inLeft right inRight => ?_⟩
  exact List.inj_on_of_nodup_map keys ((mem_sortedBy _ _ _).mp inLeft) ((mem_sortedBy _ _ _).mp inRight)

def BookInput.rank (value : BookInput) : Int ×ₗ Int ×ₗ List Nat :=
  toLex (value.exchangeAt.nanos, toLex (value.revision, byteOrder value.sourceKey))

theorem laterBook_iff (value selected : BookInput) : laterBook value selected = true ↔ selected.rank < value.rank := by
  simp only [laterBook, BookInput.rank, Prod.Lex.toLex_lt_toLex, Instant.after, Instant.equal, Bool.or_eq_true,
    Bool.and_eq_true, decide_eq_true_eq, beq_iff_eq]
  tauto

theorem knownAt_of_eligible {given : BookInput} (eligible : bookEligible request given.normalized = true) :
    given.knownAt request.decisionAt = true := by
  simp only [bookEligible, Bool.and_eq_true] at eligible
  rw [BookInput.knownAt, Bool.and_eq_true]
  exact ⟨eligible.1.2, eligible.2⟩

theorem selectBook_agree {values values' : List BookInput} (read : ReadBooks values books)
    (read' : ReadBooks values' books')
    (known : ∀ book, book.knownAt request.decisionAt = true → (book ∈ values ↔ book ∈ values')) :
    (selectBook books request).map ParsedBook.view = (selectBook books' request).map ParsedBook.view := by
  have first : Reads ReadBook values books := ⟨read.covers, read.sources⟩
  have second : Reads ReadBook values' books' := ⟨read'.covers, read'.sources⟩
  refine select_agree first second ParsedBook.view (fun view => bookEligible request view.input)
    (fun view selected => laterBook view.input selected.input) (fun view => view.input.rank)
    (fun view selected => laterBook_iff view.input selected.input) (fun _ _ _ => ReadBook.view_eq)
    (fun given book isRead eligible => ?_) ?_
  · -- An eligible book was read from one that was known, and both inputs have the same of those.
    exact known given (knownAt_of_eligible (isRead.input ▸ eligible))
  · intro first inFirst second inSecond _ _ same
    have keys : byteOrder first.input.sourceKey = byteOrder second.input.sourceKey :=
      congrArg (fun key : Int ×ₗ Int ×ₗ List Nat => (ofLex (ofLex key).2).2) same
    rw [read.distinct first inFirst second inSecond (byteOrder_injective keys)]

structure FeeView where
  input : FeePolicyInput
  rate : Decimal

def ParsedFee.view (fee : ParsedFee) : FeeView := ⟨fee.input, fee.rate⟩

/-- The policy was read from the given one, whose role is known and whose window is not empty. -/
structure ReadFee (given : FeePolicyInput) (fee : ParsedFee) : Prop where
  input : fee.input = given.normalized
  rate : exactDecimal given.rate = .ok fee.rate
  role : fee.input.role = .maker ∨ fee.input.role = .taker
  window : ∀ finish, fee.input.effectiveTo = some finish → fee.input.effectiveFrom.before finish = true

theorem ReadFee.view_eq (first : ReadFee given fee) (second : ReadFee given other) : fee.view = other.view := by
  have rates := first.rate.symm.trans second.rate
  rw [Except.ok.injEq] at rates
  rw [ParsedFee.view, ParsedFee.view, first.input, second.input, rates]

theorem addFee_ok {sofar next : List ParsedFee} (ok : addFee index sofar given = .ok next) :
    ∃ fee, next = sofar ++ [fee] ∧ ReadFee given fee := by
  unfold addFee at ok
  cases rateOk : exactDecimal given.normalized.rate with
  | error fault => simp [rateOk] at ok
  | ok rate =>
    simp only [rateOk, returns_iff, Bool.or_eq_false_iff] at ok
    obtain ⟨⟨valid, _⟩, rfl⟩ := ok
    simp only [feePolicyInvalid, Bool.or_eq_false_iff, Bool.not_eq_false', Bool.or_eq_true, beq_iff_eq] at valid
    obtain ⟨⟨⟨⟨⟨⟨⟨⟨⟨⟨⟨⟨_, role⟩, _⟩, _⟩, _⟩, _⟩, windows⟩, _⟩, _⟩, _⟩, _⟩, _⟩, _⟩ := valid
    refine ⟨_, rfl, rfl, rateOk, role, ?_⟩
    intro finish isFinish
    change given.normalized.effectiveTo = some finish at isFinish
    rw [isFinish, Option.any_some, Bool.or_eq_false_iff] at windows
    exact (Bool.not_eq_false' _).mp windows.2

theorem startKey_lt {prior current : FeePolicyInput} (sorted : ¬ current.sortKey < prior.sortKey)
    (apart : overlaps prior current = false) (priorRole : prior.role = .maker ∨ prior.role = .taker)
    (currentRole : current.role = .maker ∨ current.role = .taker)
    (window : ∀ finish, prior.effectiveTo = some finish → prior.effectiveFrom.before finish = true) :
    prior.startKey < current.startKey := by
  simp only [FeePolicyInput.sortKey, Prod.Lex.toLex_lt_toLex, not_or] at sorted
  refine lt_of_le_of_ne (not_lt.mp sorted.1) fun same => ?_
  have instrument := congrArg (fun key => (ofLex key).1) same
  have venue := congrArg (fun key => (ofLex (ofLex key).2).1) same
  have role := congrArg (fun key => (ofLex (ofLex (ofLex key).2).2).1) same
  have start := congrArg (fun key => (ofLex (ofLex (ofLex key).2).2).2) same
  simp only [FeePolicyInput.startKey, ofLex_toLex] at instrument venue role start
  have sameRole : prior.role = current.role := by
    have text := byteOrder_injective role
    rcases priorRole with isPrior | isPrior <;> rcases currentRole with isCurrent | isCurrent <;>
      rw [isPrior, isCurrent] at text ⊢ <;> exact absurd text (by decide)
  have overlapping : overlaps prior current = true := by
    simp only [overlaps, Bool.and_eq_true, beq_iff_eq, Option.all_eq_true]
    refine ⟨⟨⟨Uuid.toText_injective (byteOrder_injective instrument), byteOrder_injective venue⟩, sameRole⟩, ?_⟩
    intro finish isFinish
    have started := window finish isFinish
    rwa [Instant.before, start] at started
  rw [overlapping] at apart
  cases apart

theorem checkWindows_ascending (sorted : fees.Pairwise fun left right => ¬ right.input.sortKey < left.input.sortKey)
    (read : ∀ fee ∈ fees, ∃ given, ReadFee given fee) (ok : checkWindows fees = .ok ()) :
    Ascending (fun fee => fee.input.startKey) fees := by
  fun_induction checkWindows fees with
  | case1 prior current rest ih =>
    rw [failIf_bind_ok_iff] at ok
    obtain ⟨apart, restOk⟩ := ok
    rw [List.pairwise_cons] at sorted
    obtain ⟨_, priorRead⟩ := read prior List.mem_cons_self
    obtain ⟨_, currentRead⟩ := read current (List.mem_cons_of_mem _ List.mem_cons_self)
    refine List.IsChain.cons_cons ?_ (ih sorted.2 (fun fee member => read fee (List.mem_cons_of_mem _ member)) restOk)
    exact startKey_lt (sorted.1 current List.mem_cons_self) apart priorRead.role currentRead.role priorRead.window
  | case2 fees short =>
    match fees, short with
    | [], _ => exact List.IsChain.nil
    | [fee], _ => exact List.IsChain.singleton fee
    | prior :: current :: rest, short => exact absurd rfl (short prior current rest)

structure ReadFees (values : List FeePolicyInput) (fees : List ParsedFee) : Prop where
  covers : ∀ given ∈ values, ∃ fee ∈ fees, ReadFee given fee
  sources : ∀ fee ∈ fees, ∃ given ∈ values, ReadFee given fee
  ascending : Ascending (fun fee => fee.input.startKey) fees

theorem normalizeFees_ok (ok : normalizeFees values index = .ok fees) : ReadFees values fees := by
  simp only [normalizeFees, returns_iff] at ok
  obtain ⟨_, read, readOk, windowsOk, rfl⟩ := ok
  have each : ∀ sofar given next, addFee index sofar given = .ok next →
      ∃ fee, next = sofar ++ [fee] ∧ ReadFee given fee := fun _ _ _ => addFee_ok
  have reads := Reads.of_perm (foldlM_rows each readOk)
    (perm_sortedBy (fun fee : ParsedFee => fee.input.sortKey) read)
  refine ⟨reads.covers, reads.sources, checkWindows_ascending (pairwise_sortedBy _ _) (fun fee member => ?_) windowsOk⟩
  obtain ⟨given, _, isRead⟩ := reads.sources fee member
  exact ⟨given, isRead⟩

theorem ReadFees.eq_of_startKey (read : ReadFees values fees) {left right : ParsedFee} (inLeft : left ∈ fees)
    (inRight : right ∈ fees) (same : left.input.startKey = right.input.startKey) : left = right := by
  have distinct : (fees.map fun fee => fee.input.startKey).Nodup :=
    List.pairwise_map.mpr (read.ascending.pairwise.imp fun less => ne_of_lt less)
  exact List.inj_on_of_nodup_map distinct inLeft inRight same

def FeePolicyInput.rank (value : FeePolicyInput) : Int ×ₗ Int ×ₗ List Nat :=
  toLex (value.effectiveFrom.nanos, toLex (value.availableAt.nanos, byteOrder value.sourceKey))

theorem laterFee_iff (value selected : FeePolicyInput) :
    laterFee value selected = true ↔ selected.rank < value.rank := by
  simp only [laterFee, FeePolicyInput.rank, Prod.Lex.toLex_lt_toLex, Instant.after, Instant.equal, Bool.or_eq_true,
    Bool.and_eq_true, decide_eq_true_eq, beq_iff_eq]
  tauto

theorem fee_knownAt_of_eligible {venue : String} (eligible : feeEligible request venue given.normalized = true) :
    given.knownAt request.decisionAt = true := by
  simp only [feeEligible, Bool.and_eq_true] at eligible
  rw [FeePolicyInput.knownAt, Bool.and_eq_true]
  exact ⟨eligible.1.1.2, eligible.1.2⟩

theorem startKey_of_eligible {venue : String} {left right : FeePolicyInput}
    (first : feeEligible request venue left = true) (second : feeEligible request venue right = true)
    (start : left.effectiveFrom.nanos = right.effectiveFrom.nanos) : left.startKey = right.startKey := by
  simp only [feeEligible, Bool.and_eq_true, beq_iff_eq] at first second
  obtain ⟨⟨⟨⟨⟨leftInstrument, leftVenue⟩, leftRole⟩, _⟩, _⟩, _⟩ := first
  obtain ⟨⟨⟨⟨⟨rightInstrument, rightVenue⟩, rightRole⟩, _⟩, _⟩, _⟩ := second
  rw [FeePolicyInput.startKey, FeePolicyInput.startKey, leftInstrument, rightInstrument, leftVenue, rightVenue, leftRole,
    rightRole, start]

theorem selectFee_agree {values' : List FeePolicyInput} (read : ReadFees values fees) (read' : ReadFees values' fees')
    (venue : String) (known : ∀ fee, fee.knownAt request.decisionAt = true → (fee ∈ values ↔ fee ∈ values')) :
    (selectFee fees request venue).map ParsedFee.view = (selectFee fees' request venue).map ParsedFee.view := by
  have first : Reads ReadFee values fees := ⟨read.covers, read.sources⟩
  have second : Reads ReadFee values' fees' := ⟨read'.covers, read'.sources⟩
  refine select_agree first second ParsedFee.view (fun view => feeEligible request venue view.input)
    (fun view selected => laterFee view.input selected.input) (fun view => view.input.rank)
    (fun view selected => laterFee_iff view.input selected.input) (fun _ _ _ => ReadFee.view_eq)
    (fun given fee isRead eligible => ?_) ?_
  · rw [ParsedFee.view, isRead.input] at eligible
    exact known given (fee_knownAt_of_eligible eligible)
  · intro first inFirst second inSecond firstEligible secondEligible same
    have start : first.input.effectiveFrom.nanos = second.input.effectiveFrom.nanos :=
      congrArg (fun key : Int ×ₗ Int ×ₗ List Nat => (ofLex key).1) same
    rw [read.eq_of_startKey inFirst inSecond (startKey_of_eligible firstEligible secondEligible start)]

def ReplayCanonical.content (row : ReplayCanonical) : ReplayCanonical := { row with sequence := 0 }

theorem feeComponent_view {policy : ParsedFee} (same : policy.view = other.view) :
    feeComponent policy = feeComponent other := by
  simp only [ParsedFee.view, FeeView.mk.injEq] at same
  funext fill
  rw [feeComponent, feeComponent, same.1, same.2]

theorem calculateFee_view {policy : ParsedFee} (same : policy.view = other.view) (fills : List FillCanonical) :
    calculateFee policy fills = calculateFee other fills := by
  have inputs : policy.input = other.input := congrArg FeeView.input same
  rw [calculateFee, calculateFee, feeComponent_view same, inputs]

theorem filledRow_view {book' : ParsedBook} {fee' : ParsedFee} {row' : ReplayCanonical}
    (sameBook : book.view = book'.view) (sameFee : fee.view = fee'.view) (sameRow : row.content = row'.content) :
    (filledRow value quantity limit book fee row).map ReplayCanonical.content =
      (filledRow value quantity limit book' fee' row').map ReplayCanonical.content := by
  have bids : book.bids = book'.bids := congrArg BookView.bids sameBook
  have asks : book.asks = book'.asks := congrArg BookView.asks sameBook
  cases row
  cases row'
  simp only [ReplayCanonical.content, ReplayCanonical.mk.injEq] at sameRow
  obtain ⟨_, rfl, rfl, rfl, rfl, rfl, rfl, rfl, rfl, rfl, rfl, rfl, rfl, rfl, rfl, rfl, rfl, rfl⟩ := sameRow
  simp only [filledRow, bids, asks, calculateFee_view sameFee]
  generalize takeLevels value.side limit _ _ = taken
  cases (quantity.sub taken.remaining).isZero with
  | true => rfl
  | false => cases calculateFee fee' taken.fills <;> rfl

theorem replayRow_view (sequence sequence' : Nat)
    (sameBook : (selectBook books value).map ParsedBook.view = (selectBook books' value).map ParsedBook.view)
    (sameFee : ∀ venue, (selectFee fees value venue).map ParsedFee.view = (selectFee fees' value venue).map ParsedFee.view) :
    (replayRow books fees sequence value quantity limit).map ReplayCanonical.content =
      (replayRow books' fees' sequence' value quantity limit).map ReplayCanonical.content := by
  unfold replayRow
  cases selected : selectBook books value with
  | none =>
    rw [selected, Option.map_none, eq_comm, Option.map_eq_none_iff] at sameBook
    rw [sameBook]
    rfl
  | some book =>
    rw [selected, Option.map_some, eq_comm, Option.map_eq_some_iff] at sameBook
    obtain ⟨book', selected', same⟩ := sameBook
    have inputs : book'.input = book.input := congrArg BookView.input same
    have policies := sameFee book.input.venue
    rw [selected']
    simp only [inputs]
    cases chosen : selectFee fees value book.input.venue with
    | none =>
      rw [chosen, Option.map_none, eq_comm, Option.map_eq_none_iff] at policies
      rw [policies]
      rfl
    | some fee =>
      rw [chosen, Option.map_some, eq_comm, Option.map_eq_some_iff] at policies
      obtain ⟨fee', chosen', sameView⟩ := policies
      have feeInputs : fee'.input = fee.input := congrArg FeeView.input sameView
      rw [chosen']
      simp only [feeInputs]
      exact filledRow_view same.symm sameView.symm rfl

structure Replayed (books : List ParsedBook) (fees : List ParsedFee) (request : ReplayInput) (row : ReplayCanonical) :
    Prop where
  computed : ∃ sequence quantity limit, exactDecimal request.quantity = .ok quantity ∧
    exactDecimal request.limitPrice = .ok limit ∧
    replayRow books fees sequence request.trimmed quantity limit = .ok row

theorem addReplay_ok {cutoff : Instant} {sofar next : String × List ReplayCanonical}
    (ok : addReplay books fees cutoff sofar request = .ok next) :
    ∃ row, next.2 = sofar.2 ++ [row] ∧ Replayed books fees request row := by
  unfold addReplay at ok
  cases quantityOk : exactDecimal request.trimmed.quantity with
  | error fault => simp [quantityOk] at ok
  | ok quantity =>
    cases limitOk : exactDecimal request.trimmed.limitPrice with
    | error fault => simp [quantityOk, limitOk] at ok
    | ok limit =>
      simp only [quantityOk, limitOk, returns_iff] at ok
      obtain ⟨_, row, rowOk, rfl⟩ := ok
      exact ⟨row, rfl, ⟨_, quantity, limit, quantityOk, limitOk, rowOk⟩⟩

theorem foldlM_addReplay {cutoff : Instant} {requests : List ReplayInput}
    {start result : String × List ReplayCanonical}
    (ok : requests.foldlM (addReplay books fees cutoff) start = .ok result) :
    ∃ rows, result.2 = start.2 ++ rows ∧ List.Forall₂ (Replayed books fees) requests rows := by
  induction requests generalizing start with
  | nil =>
    cases ok
    exact ⟨[], (List.append_nil _).symm, .nil⟩
  | cons request rest ih =>
    rw [List.foldlM_cons, bind_ok_iff] at ok
    obtain ⟨next, stepped, restOk⟩ := ok
    obtain ⟨row, isNext, isRow⟩ := addReplay_ok stepped
    obtain ⟨rows, isResult, matched⟩ := ih restOk
    exact ⟨row :: rows, by rw [isResult, isNext, List.append_assoc, List.singleton_append], .cons isRow matched⟩

theorem newRecorder_ok {input : Input} {recorder : Recorder} (ok : newRecorder input = .ok recorder) :
    ∃ books fees, ReadBooks input.books books ∧ ReadFees input.fees fees ∧
      List.Forall₂ (Replayed books fees) (orderedRequests input.replays) recorder.canonical.replays := by
  simp only [newRecorder, buildReplays, returns_iff] at ok
  obtain ⟨manifest, _, index, _, books, booksOk, fees, feesOk, replays, ⟨_, built, builtOk, rfl⟩, rfl⟩ := ok
  refine ⟨books, fees, normalizeBooks_ok booksOk, normalizeFees_ok feesOk, ?_⟩
  obtain ⟨rows, isRows, matched⟩ := foldlM_addReplay builtOk
  rw [List.nil_append] at isRows
  change List.Forall₂ _ _ built.2
  rw [isRows]
  exact matched

theorem exactDecimal_toText {text : String} {d : Decimal} (ok : exactDecimal text = .ok d) : d.toText = text := by
  unfold exactDecimal at ok
  rw [failIf_bind_ok_iff] at ok
  obtain ⟨_, ok⟩ := ok
  cases parsed : Decimal.newFromString text with
  | error fault => simp [parsed] at ok
  | ok value =>
    simp only [parsed, failIf_bind_ok_iff, pure_ok_iff, Bool.or_eq_false_iff] at ok
    obtain ⟨⟨written, _⟩, rfl⟩ := ok
    simpa using written

structure ReplayCanonical.Answers (row : ReplayCanonical) (request : ReplayInput) : Prop where
  decisionAt : row.decisionAt = formatTime request.decisionAt
  marketID : row.marketID = Text.trimSpace request.marketID
  outcomeID : row.outcomeID = request.outcomeID.toText
  side : row.side = request.side.text
  role : row.role = request.role.text
  quantity : row.quantity = request.quantity
  limitPrice : row.limitPrice = request.limitPrice

theorem filledRow_answers {filled : ReplayCanonical} (answers : row.Answers request)
    (ok : filledRow value quantity limit book fee row = .ok filled) : filled.Answers request := by
  simp only [filledRow] at ok
  generalize takeLevels value.side limit _ _ = taken at ok
  split at ok
  · cases ok
    exact ⟨answers.1, answers.2, answers.3, answers.4, answers.5, answers.6, answers.7⟩
  · rw [bind_ok_iff] at ok
    obtain ⟨feeValue, _, ok⟩ := ok
    cases ok
    exact ⟨answers.1, answers.2, answers.3, answers.4, answers.5, answers.6, answers.7⟩

theorem Replayed.answers (replayed : Replayed books fees request row) : row.Answers request := by
  obtain ⟨sequence, quantity, limit, quantityOk, limitOk, ok⟩ := replayed.computed
  have empty : (emptyRow sequence request.trimmed quantity limit).Answers request :=
    ⟨rfl, rfl, rfl, rfl, rfl, exactDecimal_toText quantityOk, exactDecimal_toText limitOk⟩
  unfold replayRow at ok
  split at ok
  · cases ok
    exact empty
  · split at ok
    · cases ok
      exact ⟨empty.1, empty.2, empty.3, empty.4, empty.5, empty.6, empty.7⟩
    · refine filledRow_answers ?_ ok
      exact ⟨empty.1, empty.2, empty.3, empty.4, empty.5, empty.6, empty.7⟩

theorem Replayed.content_eq {row' : ReplayCanonical} (first : Replayed books fees request row)
    (second : Replayed books' fees' request row')
    (sameBook : (selectBook books request.trimmed).map ParsedBook.view = (selectBook books' request.trimmed).map ParsedBook.view)
    (sameFee : ∀ venue,
      (selectFee fees request.trimmed venue).map ParsedFee.view = (selectFee fees' request.trimmed venue).map ParsedFee.view) :
    row.content = row'.content := by
  obtain ⟨sequence, quantity, limit, quantityOk, limitOk, ok⟩ := first.computed
  obtain ⟨sequence', quantity', limit', quantityOk', limitOk', ok'⟩ := second.computed
  cases quantityOk.symm.trans quantityOk'
  cases limitOk.symm.trans limitOk'
  have same : (replayRow books fees sequence request.trimmed quantity limit).map ReplayCanonical.content = _ :=
    replayRow_view sequence sequence' sameBook sameFee
  rw [ok, ok'] at same
  exact Except.ok.inj same

/-- Two recorders that know the same books and fee policies when a request is decided replay it alike. The rows
of a recorder stand in the order of its requests. -/
theorem newRecorder_no_lookahead {input input' : Input} {recorder recorder' : Recorder}
    (ok : newRecorder input = .ok recorder) (ok' : newRecorder input' = .ok recorder') {request : ReplayInput} {i j : Nat}
    (shared : (orderedRequests input.replays)[i]? = some request)
    (shared' : (orderedRequests input'.replays)[j]? = some request)
    (books : ∀ book, book.knownAt request.decisionAt = true → (book ∈ input.books ↔ book ∈ input'.books))
    (fees : ∀ fee, fee.knownAt request.decisionAt = true → (fee ∈ input.fees ↔ fee ∈ input'.fees)) :
    ∃ row row', recorder.canonical.replays[i]? = some row ∧ recorder'.canonical.replays[j]? = some row' ∧
      row.Answers request ∧ row'.Answers request ∧ row.content = row'.content := by
  obtain ⟨readBooks, readFees, booksRead, feesRead, matched⟩ := newRecorder_ok ok
  obtain ⟨readBooks', readFees', booksRead', feesRead', matched'⟩ := newRecorder_ok ok'
  obtain ⟨row, isRow, replayed⟩ := getElem?_right matched shared
  obtain ⟨row', isRow', replayed'⟩ := getElem?_right matched' shared'
  refine ⟨row, row', isRow, isRow', replayed.answers, replayed'.answers, ?_⟩
  apply replayed.content_eq replayed'
  · exact selectBook_agree booksRead booksRead' books
  · exact fun venue => selectFee_agree feesRead feesRead' venue fees

/-! Two recorders that differ in a later book and in another request. -/

def sampleDigest : String := String.ofList (List.replicate 64 'a')

def sampleHour (hours : Int) : Instant := ⟨63902822400000000000 + hours * 3600000000000, true⟩

def sampleBook (key : String) (hours : Int) (ask : String) : BookInput where
  marketID := "m"
  outcomeID := Uuid.ofByte 1
  venue := "V"
  sourceKey := key
  contentSHA256 := sampleDigest
  exchangeAt := sampleHour hours
  availableAt := sampleHour (hours + 1)
  revision := 0
  correctionOf := ""
  bids := [⟨"0.4", "10"⟩]
  asks := [⟨ask, "10"⟩]

def sampleFee : FeePolicyInput where
  instrumentID := Uuid.ofByte 1
  venue := "v"
  role := .taker
  sourceKey := "f"
  contentSHA256 := sampleDigest
  availableAt := sampleHour 0
  effectiveFrom := sampleHour 0
  effectiveTo := none
  formula := .notionalBPS
  rate := "10"
  scale := 2
  rounding := .ceiling

def sampleRequest (hours : Int) : ReplayInput where
  decisionAt := sampleHour hours
  marketID := "m"
  outcomeID := Uuid.ofByte 1
  side := .buy
  role := .taker
  quantity := "5"
  limitPrice := "0.6"

def sampleObservation (key : String) (available : Int) : Observation where
  sourceKey := key
  contentSHA256 := sampleDigest
  availableAt := formatTime (sampleHour available)
  instrumentID := (Uuid.ofByte 1).toText

def sampleManifest : Manifest where
  id := Uuid.ofByte 9
  digest := sampleDigest
  decisionCutoff := sampleHour 100
  partitions := [
    ⟨.predictionBooks, sampleDigest, [sampleObservation "a" 1, sampleObservation "b" 11]⟩,
    ⟨.predictionFees, sampleDigest, [sampleObservation "f" 0]⟩]

def sampleInput : Input where
  manifest := some sampleManifest
  books := [sampleBook "a" 0 "0.5"]
  fees := [sampleFee]
  replays := [sampleRequest 5]

def sampleLater : Input where
  manifest := some sampleManifest
  books := [sampleBook "b" 10 "0.45", sampleBook "a" 0 "0.5"]
  fees := [sampleFee]
  replays := [sampleRequest 20, sampleRequest 5]

theorem sampleInput_accepted : (newRecorder sampleInput).toOption.isSome = true := by decide

theorem sampleLater_accepted : (newRecorder sampleLater).toOption.isSome = true := by decide

theorem sampleBooks_known (book : BookInput) (known : book.knownAt (sampleRequest 5).decisionAt = true) :
    book ∈ sampleInput.books ↔ book ∈ sampleLater.books := by
  have later : (sampleBook "b" 10 "0.45").knownAt (sampleRequest 5).decisionAt = false := by decide
  constructor
  · intro member
    exact List.mem_cons_of_mem _ member
  · intro member
    rcases List.mem_cons.mp member with rfl | member
    · rw [later] at known
      cases known
    · exact member

theorem sampleRequest_replayed_alike : ∃ recorder recorder', newRecorder sampleInput = .ok recorder ∧
    newRecorder sampleLater = .ok recorder' ∧ ∃ row row', recorder.canonical.replays[0]? = some row ∧
      recorder'.canonical.replays[0]? = some row' ∧ row.Answers (sampleRequest 5) ∧ row'.Answers (sampleRequest 5) ∧
      row.content = row'.content := by
  obtain ⟨recorder, isRecorder⟩ := Option.isSome_iff_exists.mp sampleInput_accepted
  obtain ⟨recorder', isRecorder'⟩ := Option.isSome_iff_exists.mp sampleLater_accepted
  have ok := ok_of_toOption isRecorder
  have ok' := ok_of_toOption isRecorder'
  refine ⟨recorder, recorder', ok, ok', ?_⟩
  apply newRecorder_no_lookahead ok ok' (by decide) (by decide)
  · exact sampleBooks_known
  · exact fun _ _ => Iff.rfl

end Augr.Predictionreplay
