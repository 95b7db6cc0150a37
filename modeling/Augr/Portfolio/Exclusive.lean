import Augr.Portfolio.Limits

/-! Runs of the allocator job over one table of opportunities. -/

set_option autoImplicit false

namespace Augr.Portfolio

open Foundation Domain

variable {runs : List Progress} {thread : Nat} {status : OpportunityStatus} {progress : Progress} {id : Uuid}

section
variable {F : Type} {rows : List (Opportunity F)} {change : Opportunity F → Opportunity F}

def statusOf (rows : List (Opportunity F)) (id : Uuid) : Option OpportunityStatus :=
  (rows.find? fun row => row.id == id).map Opportunity.status

def setStatus (rows : List (Opportunity F)) (id : Uuid) (status : OpportunityStatus) : List (Opportunity F) :=
  rows.map fun row => if row.id = id then { row with status := status } else row

def expire (before : Instant) (rows : List (Opportunity F)) : List (Opportunity F) :=
  rows.map fun row =>
    if row.status = .queued ∧ !row.expiresAt.after before then { row with status := .expired } else row

/-- The earliest to expire comes first. -/
def allocationRank (row : Opportunity F) : Int ×ₗ Int ×ₗ List Nat :=
  toLex (row.expiresAt.nanos, toLex (row.createdAt.nanos, byteOrder row.id.toText))

def queuedForAllocation (asOf : Instant) (rows : List (Opportunity F)) : List (Opportunity F) :=
  sortedBy allocationRank (rows.filter fun row => row.status = .queued && row.expiresAt.after asOf)

/-- A row with the same key is refreshed while it is queued; the table keeps its id and the time it was made. -/
def upsert (rows : List (Opportunity F)) (fresh : Opportunity F) : List (Opportunity F) :=
  if rows.any fun row => row.dedupeKey == fresh.dedupeKey then
    rows.map fun row =>
      if row.dedupeKey = fresh.dedupeKey ∧ row.status = .queued then
        { fresh with id := row.id, createdAt := row.createdAt }
      else row
  else rows ++ [fresh]

theorem statusOf_cons (row : Opportunity F) (rows : List (Opportunity F)) (id : Uuid) :
    statusOf (row :: rows) id = if row.id = id then some row.status else statusOf rows id := by
  by_cases isIt : row.id = id <;> simp [statusOf, isIt]

theorem statusOf_of_mem (distinct : (rows.map Opportunity.id).Nodup) {row : Opportunity F} (member : row ∈ rows) :
    statusOf rows row.id = some row.status := by
  have found : rows.find? (fun other => other.id == row.id) = some row :=
    (find_group_eq_some distinct row.id row).mpr ⟨member, rfl⟩
  rw [statusOf, found, Option.map_some]

theorem ids_map (keeps : ∀ row, (change row).id = row.id) :
    (rows.map change).map Opportunity.id = rows.map Opportunity.id := by
  rw [List.map_map]
  exact List.map_congr_left fun row _ => keeps row

theorem statusOf_map (rows : List (Opportunity F)) (keeps : ∀ row, (change row).id = row.id) (id : Uuid) :
    statusOf (rows.map change) id = (rows.find? fun row => row.id == id).map fun row => (change row).status := by
  rw [statusOf, List.find?_map, Option.map_map]
  simp only [Function.comp_def, keeps]

theorem statusOf_setStatus (rows : List (Opportunity F)) (id other : Uuid) (status : OpportunityStatus) :
    statusOf (setStatus rows id status) other =
      if other = id then (statusOf rows id).map fun _ => status else statusOf rows other := by
  induction rows with
  | nil => by_cases same : other = id <;> simp [setStatus, statusOf, same]
  | cons row rest ih =>
    have step : setStatus (row :: rest) id status =
      (if row.id = id then { row with status := status } else row) :: setStatus rest id status := rfl
    rw [step, statusOf_cons, statusOf_cons, statusOf_cons, ih]
    by_cases same : other = id <;> by_cases isIt : row.id = id <;> by_cases isOther : row.id = other <;> simp_all

/-- Rows stay, and only the status of a queued one changes. -/
structure Later (rows later : List (Opportunity F)) : Prop where
  known : ∀ id, (statusOf rows id).isSome → (statusOf later id).isSome
  settled : ∀ id status, statusOf rows id = some status → status ≠ .queued → statusOf later id = some status

theorem later_map (rows : List (Opportunity F)) (keeps : ∀ row, (change row).id = row.id)
    (frozen : ∀ row, row.status ≠ .queued → (change row).status = row.status) : Later rows (rows.map change) := by
  constructor
  · intro id known
    rw [statusOf_map rows keeps]
    simpa [statusOf] using known
  · intro id status found settled
    rw [statusOf, Option.map_eq_some_iff] at found
    obtain ⟨row, found, rfl⟩ := found
    rw [statusOf_map rows keeps, found, Option.map_some, frozen row settled]

theorem expire_later (before : Instant) (rows : List (Opportunity F)) : Later rows (expire before rows) := by
  refine later_map rows (fun row => ?_) fun row settled => ?_
  · split <;> rfl
  · rw [if_neg fun due => settled due.1]

theorem upsert_later (rows : List (Opportunity F)) (fresh : Opportunity F) : Later rows (upsert rows fresh) := by
  unfold upsert
  split
  · refine later_map rows (fun row => ?_) fun row settled => ?_
    · split <;> rfl
    · rw [if_neg fun due => settled due.2]
  · constructor
    · intro id known
      have found : (rows.find? fun row => row.id == id).isSome := by simpa [statusOf] using known
      simp [statusOf, found]
    · intro id status found settled
      rw [statusOf, Option.map_eq_some_iff] at found ⊢
      obtain ⟨row, found, rfl⟩ := found
      exact ⟨row, by rw [List.find?_append, found, Option.some_or], rfl⟩

theorem expire_ids (before : Instant) (rows : List (Opportunity F)) :
    (expire before rows).map Opportunity.id = rows.map Opportunity.id :=
  ids_map fun row => by split <;> rfl

theorem setStatus_ids (rows : List (Opportunity F)) (id : Uuid) (status : OpportunityStatus) :
    (setStatus rows id status).map Opportunity.id = rows.map Opportunity.id :=
  ids_map fun row => by split <;> rfl

theorem upsert_ids (distinct : (rows.map Opportunity.id).Nodup) {fresh : Opportunity F}
    (new : fresh.id ∉ rows.map Opportunity.id) : ((upsert rows fresh).map Opportunity.id).Nodup := by
  unfold upsert
  split
  · rw [ids_map fun row => by split <;> rfl]
    exact distinct
  · rw [List.map_append]
    exact List.nodup_append_comm.mp (List.nodup_cons.mpr ⟨new, distinct⟩)

theorem queuedForAllocation_rows (distinct : (rows.map Opportunity.id).Nodup) (asOf : Instant) :
    ((queuedForAllocation asOf rows).map Opportunity.id).Nodup ∧
      ∀ row ∈ queuedForAllocation asOf rows, statusOf rows row.id = some .queued := by
  have listed : (queuedForAllocation asOf rows).Perm (rows.filter fun row => row.status = .queued && row.expiresAt.after asOf) :=
    List.perm_insertionSort _ _
  constructor
  · exact ((listed.map _).nodup_iff).mpr (distinct.sublist (List.filter_sublist.map _))
  · intro row member
    obtain ⟨stored, queued⟩ := List.mem_filter.mp (listed.mem_iff.mp member)
    have queued : row.status = .queued := by simp at queued; exact queued.1
    rw [statusOf_of_mem distinct stored, queued]

end

structure Placed where
  thread : Nat
  opportunity : Uuid
  /-- The stored status when the order was made. -/
  status : Option OpportunityStatus
  /-- Another run had marked the opportunity as selected. -/
  contested : Bool
  deriving DecidableEq

/-- The table, which run has marked which opportunity as selected, and the orders that were made. -/
structure World (F : Type) where
  rows : List (Opportunity F)
  claims : List (Nat × Uuid)
  orders : List Placed

section
variable {F : Type} {world : World F}

def World.write (world : World F) (thread : Nat) (id : Uuid) (status : OpportunityStatus) : World F :=
  { world with
    rows := setStatus world.rows id status
    claims := if status = .selected then world.claims ++ [(thread, id)] else world.claims }

def World.order (world : World F) (thread : Nat) (id : Uuid) : World F :=
  { world with
    orders := world.orders ++ [{
      thread := thread
      opportunity := id
      status := statusOf world.rows id
      contested := world.claims.any fun claim => claim.1 != thread && claim.2 == id }] }

/-- A call that fails may have been carried out or not. -/
def handles (world : World F) (thread : Nat) : (request : Request F) → request.Answer F → World F → Prop
  | .expireQueuedBefore before, .ok _, next => next = { world with rows := expire before world.rows }
  | .expireQueuedBefore before, .error _, next => next = world ∨ next = { world with rows := expire before world.rows }
  | .listQueuedForAllocation asOf, answer, next =>
      (∀ rows, answer = .ok rows → rows = queuedForAllocation asOf world.rows) ∧ next = world
  | .updateStatus id status _, .ok _, next => (statusOf world.rows id).isSome ∧ next = world.write thread id status
  | .updateStatus id status _, .error _, next =>
      next = world ∨ (statusOf world.rows id).isSome ∧ next = world.write thread id status
  | .processPaperOrder id _, _, next => next = world.order thread id
  | _, _, next => next = world

/-- Opportunities are refreshed and expire by themselves. -/
inductive Moves : World F → World F → Prop
  | refresh {world : World F} (fresh : Opportunity F) (new : fresh.id ∉ world.rows.map Opportunity.id) :
      Moves world { world with rows := upsert world.rows fresh }
  | expire {world : World F} (before : Instant) : Moves world { world with rows := expire before world.rows }

/-- A write finds the opportunity still queued, or marked as selected by the same run. -/
def undisturbed (world : World F) (thread : Nat) : Request F → Prop
  | .updateStatus id _ _ => statusOf world.rows id = some .queued ∨ (thread, id) ∈ world.claims
  | _ => True

/-- Handling a call, where a status write is only made while it is undisturbed. -/
def handlesUndisturbed (world : World F) (thread : Nat) (request : Request F) (answer : request.Answer F)
    (next : World F) : Prop := handles world thread request answer next ∧ undisturbed world thread request

/-- No other run had marked the opportunity as selected, and it was not executed, rejected or expired. -/
def Placed.Proper (placed : Placed) : Prop :=
  placed.contested = false ∧ placed.status ≠ some .executed ∧ placed.status ≠ some .rejected ∧
    placed.status ≠ some .expired

/-- Each opportunity is ordered at most once, and properly. -/
def World.Exclusive (world : World F) : Prop :=
  (world.orders.map Placed.opportunity).Nodup ∧ ∀ placed ∈ world.orders, placed.Proper

structure Consistent (world : World F) (thread : Nat) (progress : Progress) : Prop where
  apart : progress.pending.Nodup
  known : ∀ id ∈ progress.pending, (statusOf world.rows id).isSome
  unclaimed : ∀ id ∈ progress.pending, (thread, id) ∉ world.claims
  held : ∀ id, progress.stage = .claimed id → (thread, id) ∈ world.claims ∧
    statusOf world.rows id = some .selected ∧ id ∉ world.orders.map Placed.opportunity

structure Safe (world : World F) (runs : List Progress) : Prop where
  ids : (world.rows.map Opportunity.id).Nodup
  single : (world.claims.map Prod.snd).Nodup
  marked : ∀ claim ∈ world.claims, ∃ status, statusOf world.rows claim.2 = some status ∧ status ≠ .queued
  placed : ∀ placed ∈ world.orders, (placed.thread, placed.opportunity) ∈ world.claims ∧ placed.Proper
  once : (world.orders.map Placed.opportunity).Nodup
  consistent : ∀ (thread : Nat) progress, runs[thread]? = some progress → Consistent world thread progress

theorem Safe.claimer (safe : Safe world runs) {other : Nat} (first : (thread, id) ∈ world.claims)
    (second : (other, id) ∈ world.claims) : thread = other := by
  have same : (thread, id) = (other, id) := List.inj_on_of_nodup_map safe.single first second rfl
  exact (Prod.mk.inj same).1

theorem Safe.not_held (safe : Safe world runs) {other : Nat}
    (free : statusOf world.rows id = some .queued ∨ (thread, id) ∈ world.claims)
    (state : runs[other]? = some progress) (held : progress.stage = .claimed id) : other = thread := by
  obtain ⟨claimed, selected, _⟩ := (safe.consistent other progress state).held id held
  rcases free with queued | mine
  · rw [selected] at queued
    cases queued
  · exact safe.claimer claimed mine

theorem consistent_set (own : Consistent world thread progress)
    (others : ∀ (other : Nat) state, other ≠ thread → runs[other]? = some state → Consistent world other state) :
    ∀ (other : Nat) state, (runs.set thread progress)[other]? = some state → Consistent world other state := by
  intro other state found
  rcases getElem?_set_cases found with ⟨rfl, rfl⟩ | ⟨apart, before⟩
  · exact own
  · exact others other state apart before

theorem Safe.later (safe : Safe world runs) {rows : List (Opportunity F)} (later : Later world.rows rows)
    (ids : (rows.map Opportunity.id).Nodup) :
    Safe { world with rows := rows } runs where
  ids := ids
  single := safe.single
  marked claim member := by
    obtain ⟨status, found, settled⟩ := safe.marked claim member
    exact ⟨status, later.settled _ _ found settled, settled⟩
  placed := safe.placed
  once := safe.once
  consistent thread progress state := by
    obtain ⟨apart, known, unclaimed, held⟩ := safe.consistent thread progress state
    refine ⟨apart, fun id pending => later.known id (known id pending), unclaimed, fun id claimed => ?_⟩
    obtain ⟨mine, selected, unordered⟩ := held id claimed
    exact ⟨mine, later.settled id _ selected nofun, unordered⟩

theorem Safe.advance (safe : Safe world runs) (own : Consistent world thread progress) :
    Safe world (runs.set thread progress) :=
  { safe with consistent := consistent_set own fun other state _ => safe.consistent other state }

theorem World.mem_write_claims {claim : Nat × Uuid} : claim ∈ (world.write thread id status).claims ↔
      claim ∈ world.claims ∨ status = .selected ∧ claim = (thread, id) := by
  by_cases selects : status = .selected <;> simp [World.write, selects]

theorem World.write_status (status : OpportunityStatus) (known : (statusOf world.rows id).isSome) :
    statusOf (world.write thread id status).rows id = some status := by
  obtain ⟨old, found⟩ := Option.isSome_iff_exists.mp known
  rw [World.write, statusOf_setStatus, if_pos rfl, found, Option.map_some]

theorem World.write_status_other {other : Uuid} (apart : other ≠ id) :
    statusOf (world.write thread id status).rows other = statusOf world.rows other := by
  rw [World.write, statusOf_setStatus, if_neg apart]

theorem World.write_known {other : Uuid} (known : (statusOf world.rows other).isSome) :
    (statusOf (world.write thread id status).rows other).isSome := by
  by_cases same : other = id
  · subst same
    rw [World.write_status status known, Option.isSome_some]
  · rw [World.write_status_other same]
    exact known

theorem Consistent.write (consistent : Consistent world thread progress) (known : (statusOf world.rows id).isSome)
    {stage : Stage} {pending : List Uuid} {left : Nat} (fewer : pending.Sublist progress.pending)
    (clear : status = .selected → id ∉ pending)
    (held : ∀ other, stage = .claimed other → other = id ∧ status = .selected ∧ id ∉ world.orders.map Placed.opportunity) :
    Consistent (world.write thread id status) thread ⟨stage, pending, left⟩ where
  apart := consistent.apart.sublist fewer
  known other waiting := World.write_known (consistent.known other (fewer.subset waiting))
  unclaimed other waiting claimed := by
    rcases World.mem_write_claims.mp claimed with before | ⟨selects, same⟩
    · exact consistent.unclaimed other (fewer.subset waiting) before
    · obtain rfl : other = id := (Prod.mk.inj same).2
      exact clear selects waiting
  held other claims := by
    obtain ⟨rfl, selects, unordered⟩ := held other claims
    refine ⟨World.mem_write_claims.mpr (.inr ⟨selects, rfl⟩), ?_, unordered⟩
    rw [World.write_status status known, selects]

theorem Safe.write (safe : Safe world runs)
    (free : statusOf world.rows id = some .queued ∨ (thread, id) ∈ world.claims)
    (known : (statusOf world.rows id).isSome) (final : status ≠ .queued)
    (first : status = .selected → (thread, id) ∉ world.claims)
    (own : Consistent (world.write thread id status) thread progress) :
    Safe (world.write thread id status) (runs.set thread progress) where
  ids := by
    rw [World.write, setStatus_ids]
    exact safe.ids
  single := by
    by_cases selects : status = .selected
    · have queued := free.resolve_right (first selects)
      have unclaimed : id ∉ world.claims.map Prod.snd := by
        intro claimed
        obtain ⟨claim, member, rfl⟩ := List.mem_map.mp claimed
        obtain ⟨old, found, settled⟩ := safe.marked claim member
        rw [queued] at found
        exact settled (Option.some.inj found).symm
      rw [World.write, if_pos selects, List.map_append]
      exact List.nodup_append_comm.mp (List.nodup_cons.mpr ⟨unclaimed, safe.single⟩)
    · rw [World.write, if_neg selects]
      exact safe.single
  marked claim member := by
    by_cases same : claim.2 = id
    · exact ⟨status, by rw [same, World.write_status status known], final⟩
    · rw [World.write_status_other same]
      rcases World.mem_write_claims.mp member with before | ⟨_, rfl⟩
      · exact safe.marked claim before
      · exact absurd rfl same
  placed placed member := by
    obtain ⟨claimed, proper⟩ := safe.placed placed member
    exact ⟨World.mem_write_claims.mpr (.inl claimed), proper⟩
  once := safe.once
  consistent := by
    refine consistent_set own fun other state apart found => ?_
    obtain ⟨separate, knows, unclaimed, held⟩ := safe.consistent other state found
    refine ⟨separate, fun id waiting => World.write_known (knows id waiting), fun id waiting claimed => ?_, fun mine claims => ?_⟩
    · rcases World.mem_write_claims.mp claimed with before | ⟨_, same⟩
      · exact unclaimed id waiting before
      · exact apart (Prod.mk.inj same).1
    · obtain ⟨claimed, selected, unordered⟩ := held mine claims
      have another : mine ≠ id := by
        rintro rfl
        exact apart (safe.not_held free found claims)
      exact ⟨World.mem_write_claims.mpr (.inl claimed), by rw [World.write_status_other another, selected], unordered⟩

theorem consistent_stopped (world : World F) (thread : Nat) : Consistent world thread ⟨.stopped, [], 0⟩ :=
  ⟨.nil, fun _ member => absurd member List.not_mem_nil, fun _ member => absurd member List.not_mem_nil, nofun⟩

theorem Safe.order (safe : Safe world runs) (state : runs[thread]? = some progress)
    (claims : progress.stage = .claimed id) :
    Safe (world.order thread id) (runs.set thread { progress with stage := .ordered id }) := by
  obtain ⟨apart, known, unclaimed, held⟩ := safe.consistent thread progress state
  obtain ⟨claimed, selected, unordered⟩ := held id claims
  have uncontested : (world.claims.any fun claim => claim.1 != thread && claim.2 == id) = false := by
    rw [List.any_eq_false]
    intro claim member
    by_cases same : claim.2 = id
    · subst same
      simp [safe.claimer claimed member]
    · simp [same]
  refine { safe with placed := forall_mem_concat safe.placed ?_, once := ?_, consistent := ?_ }
  · exact ⟨claimed, uncontested, by simp [selected]⟩
  · rw [World.order, List.map_append]
    exact List.nodup_append_comm.mp (List.nodup_cons.mpr ⟨unordered, safe.once⟩)
  · refine consistent_set ⟨apart, known, unclaimed, nofun⟩ fun other state others found => ?_
    obtain ⟨separate, knows, unclaimed, held⟩ := safe.consistent other state found
    refine ⟨separate, knows, unclaimed, fun mine claims => ?_⟩
    obtain ⟨mineClaimed, mineSelected, mineUnordered⟩ := held mine claims
    refine ⟨mineClaimed, mineSelected, fun ordered => ?_⟩
    rw [World.order, List.map_append] at ordered
    rcases List.mem_append.mp ordered with before | here
    · exact mineUnordered before
    · obtain rfl : mine = id := List.mem_singleton.mp here
      exact others (safe.claimer mineClaimed claimed)

theorem Safe.expire (safe : Safe world runs) (before : Instant) :
    Safe { world with rows := Portfolio.expire before world.rows } runs :=
  safe.later (expire_later before world.rows) (by rw [expire_ids]; exact safe.ids)

theorem consistent_listed (safe : Safe world runs) (thread : Nat) (asOf : Instant) :
    Consistent world thread ⟨.free, (queuedForAllocation asOf world.rows).map Opportunity.id, maxOrders⟩ := by
  obtain ⟨apart, queued⟩ := queuedForAllocation_rows safe.ids asOf
  refine ⟨apart, fun id member => ?_, fun id member claimed => ?_, nofun⟩
  · obtain ⟨row, listed, rfl⟩ := List.mem_map.mp member
    rw [queued row listed, Option.isSome_some]
  · obtain ⟨row, listed, rfl⟩ := List.mem_map.mp member
    obtain ⟨status, found, settled⟩ := safe.marked _ claimed
    rw [queued row listed] at found
    exact settled (Option.some.inj found).symm

theorem Safe.written (safe : Safe world runs) (state : runs[thread]? = some progress)
    (free : statusOf world.rows id = some .queued ∨ (thread, id) ∈ world.claims)
    (known : (statusOf world.rows id).isSome)
    (allowed : (progress.stage = .free ∧ id ∈ progress.pending ∧
        (status = .selected ∧ 0 < progress.left ∨ status = .rejected)) ∨
      ((progress.stage = .claimed id ∨ progress.stage = .ordered id) ∧ (status = .executed ∨ status = .rejected))) :
    Consistent (world.write thread id status) thread (progress.written id status (.ok ())) := by
  have consistent := safe.consistent thread progress state
  rcases allowed with ⟨stage, waiting, claims⟩ | ⟨stage, final⟩
  · have gone : id ∉ progress.pending.erase id := consistent.apart.not_mem_erase
    simp only [Progress.written, stage]
    split
    · rename_i selects
      have queued := free.resolve_right (consistent.unclaimed id waiting)
      refine consistent.write known List.erase_sublist (fun _ => gone) fun other held => ?_
      obtain rfl : id = other := Stage.claimed.inj held
      refine ⟨rfl, selects, fun ordered => ?_⟩
      obtain ⟨placed, member, same⟩ := List.mem_map.mp ordered
      obtain ⟨status, found, settled⟩ := safe.marked _ (safe.placed placed member).1
      rw [same, queued] at found
      exact settled (Option.some.inj found).symm
    · exact consistent.write known List.erase_sublist (fun _ => gone) (by rintro _ ⟨⟩)
  · have written : progress.written id status (.ok ()) = { progress with stage := .free } := by
      rcases stage with stage | stage <;> simp [Progress.written, stage]
    rw [written]
    refine consistent.write known (.refl _) (fun selects => ?_) (by rintro _ ⟨⟩)
    rcases final with rfl | rfl <;> cases selects

theorem Safe.act {next : World F} (safe : Safe world runs) (state : runs[thread]? = some progress)
    {request : Request F} {answer : request.Answer F} (allowed : progress.allows request)
    (handled : handles world thread request answer next) (free : undisturbed world thread request) :
    Safe next (runs.set thread (progress.after request answer)) := by
  cases request with
  | expireQueuedBefore before =>
    rcases answer with fault | count
    · rcases handled with rfl | rfl
      · exact safe.advance (safe.consistent thread progress state)
      · exact (safe.expire before).advance ((safe.expire before).consistent thread progress state)
    · subst handled
      exact (safe.expire before).advance ((safe.expire before).consistent thread progress state)
  | listQueuedForAllocation asOf =>
    obtain ⟨listed, rfl⟩ := handled
    rcases answer with fault | rows
    · exact safe.advance (consistent_stopped _ thread)
    · obtain rfl := listed rows rfl
      exact safe.advance (consistent_listed safe thread asOf)
  | updateStatus id status reason =>
    have final : status ≠ .queued := by
      rcases allowed with ⟨_, _, ⟨rfl, _⟩ | rfl⟩ | ⟨_, rfl | rfl⟩ <;> nofun
    have first : status = .selected → (thread, id) ∉ world.claims := by
      rintro rfl
      rcases allowed with ⟨_, waiting, _⟩ | ⟨_, same | same⟩
      · exact (safe.consistent thread progress state).unclaimed id waiting
      · cases same
      · cases same
    rcases answer with fault | ⟨⟨⟩⟩
    · rcases handled with rfl | ⟨known, rfl⟩
      · exact safe.advance (consistent_stopped _ thread)
      · exact safe.write free known final first (consistent_stopped _ thread)
    · obtain ⟨known, rfl⟩ := handled
      exact safe.write free known final first (safe.written state free known allowed)
  | processPaperOrder id request =>
    subst handled
    exact safe.order state allowed
  | _ =>
    subst handled
    exact safe.advance (safe.consistent thread progress state)

theorem Safe.move {next : World F} (safe : Safe world runs) (moved : Moves world next) : Safe next runs := by
  cases moved with
  | refresh fresh new => exact safe.later (upsert_later world.rows fresh) (upsert_ids safe.ids new)
  | expire before => exact safe.expire before

theorem Safe.start (safe : Safe world runs) : Safe world (runs ++ [⟨.unlisted, [], 0⟩]) := by
  refine { safe with consistent := fun thread progress state => ?_ }
  rcases getElem?_append_singleton state with before | ⟨_, rfl⟩
  · exact safe.consistent thread progress before
  · exact ⟨.nil, fun _ member => absurd member List.not_mem_nil, fun _ member => absurd member List.not_mem_nil, nofun⟩

end

section
variable {F : Type} [Float64 F]

def isPaperRun (program : Program (interface F) (Outcome JobSummary)) : Prop :=
  ∃ deps : Deps, deps.allocatorMode = .paper ∧ program = (runPortfolioAllocator deps).run

def opening (rows : List (Opportunity F)) : System (interface F) (World F) (Outcome JobSummary) := ⟨⟨rows, [], []⟩, []⟩

/-- In every interleaving in which each status write of a run finds the opportunity still queued or marked by the
same run, no opportunity is ordered twice or after another run has taken or settled it. -/
theorem undisturbed_runs_exclusive (rows : List (Opportunity F)) (distinct : (rows.map Opportunity.id).Nodup)
    (reached : System (interface F) (World F) (Outcome JobSummary))
    (reaches : Reaches isPaperRun handlesUndisturbed Moves (opening rows) reached) : reached.world.Exclusive := by
  have started : Invariant (settling F) (fun _ _ => True) Safe (opening rows) := by
    refine ⟨[], .nil, distinct, .nil, fun _ member => absurd member List.not_mem_nil,
      fun _ member => absurd member List.not_mem_nil, .nil, fun thread progress state => ?_⟩
    cases state
  obtain ⟨runs, _, safe⟩ := Reaches.invariant reaches started
    (fun world runs program isRun safe => by
      obtain ⟨deps, paper, rfl⟩ := isRun
      exact ⟨⟨.unlisted, [], 0⟩, Follows.imp (runPortfolioAllocator_follows paper) fun _ _ _ => trivial, safe.start⟩)
    (fun world runs thread progress request answer next safe state allowed handled =>
      safe.act state allowed handled.1 handled.2)
    (fun world runs next safe moved => safe.move moved)
  exact ⟨safe.once, fun placed member => (safe.placed placed member).2⟩

end

/-! Two runs that list the same opportunity before either has claimed it. -/

def sampleTime : Instant := ⟨36900000000000, true⟩

def sampleWorld (world : World Exact) (thread : Nat) :
    (request : Request Exact) → Option (request.Answer Exact × World Exact)
  | .expireQueuedBefore before => some (.ok 0, { world with rows := expire before world.rows })
  | .listQueuedForAllocation asOf => some (.ok (queuedForAllocation asOf world.rows), world)
  | .updateStatus id status _ =>
      if (statusOf world.rows id).isSome then some (.ok (), world.write thread id status) else none
  | .processPaperOrder id _ => some (.ok ⟨some (Uuid.ofByte 203), false, ""⟩, world.order thread id)
  | request => some (sampleAnswers sampleTime [] request, world)

theorem sampleWorld_handles (world : World Exact) (thread : Nat) (request : Request Exact)
    (answer : request.Answer Exact) (next : World Exact) (performed : sampleWorld world thread request = some (answer, next)) :
    handles world thread request answer next := by
  cases request with
  | updateStatus id status reason =>
    simp only [sampleWorld] at performed
    split at performed
    · rename_i known
      cases performed
      exact ⟨known, rfl⟩
    · cases performed
  | listQueuedForAllocation asOf =>
    cases performed
    exact ⟨fun rows same => (Except.ok.inj same).symm, rfl⟩
  | _ =>
    cases performed
    rfl

def sampleRun : Program (interface Exact) (Outcome JobSummary) := (runPortfolioAllocator sampleDeps).run

def sampleRows : List (Opportunity Exact) := [sampleOpportunity 1 sampleTime]

def sampleSchedule : List (Choice (interface Exact) (Outcome JobSummary)) :=
  [.start sampleRun, .start sampleRun] ++ List.replicate 3 (.act 0) ++ List.replicate 3 (.act 1) ++
    List.replicate 11 (.act 0) ++ List.replicate 11 (.act 1)

theorem sampleRun_isPaperRun {choices : List (Choice (interface Exact) (Outcome JobSummary))}
    (runs : ∀ program, .start program ∈ choices → program = sampleRun) (program : Program (interface Exact) (Outcome JobSummary))
    (member : .start program ∈ choices) : isPaperRun program := by
  rw [runs program member]
  exact ⟨sampleDeps, rfl, rfl⟩

theorem sampleSchedule_ordered_twice : ∃ reached : System (interface Exact) (World Exact) (Outcome JobSummary),
    Reaches isPaperRun handles Moves (opening sampleRows) reached ∧ ¬ reached.world.Exclusive := by
  have orders : ((opening sampleRows).play sampleWorld sampleSchedule).map (fun reached => reached.world.orders) =
      some [⟨0, Uuid.ofByte 1, some .selected, false⟩, ⟨1, Uuid.ofByte 1, some .selected, true⟩] := by decide +kernel
  obtain ⟨reached, played, orders⟩ := Option.map_eq_some_iff.mp orders
  refine ⟨reached, System.play_reaches sampleWorld_handles (sampleRun_isPaperRun ?_) played, fun exclusive => ?_⟩
  · intro program member
    simpa [sampleSchedule] using member
  · have once := exclusive.1
    rw [orders] at once
    revert once
    decide

instance (world : World Exact) (thread : Nat) (request : Request Exact) : Decidable (undisturbed world thread request) :=
  match request with
  | .updateStatus id _ _ =>
      inferInstanceAs (Decidable (statusOf world.rows id = some .queued ∨ (thread, id) ∈ world.claims))
  | .now | .newUUID | .contextErr | .expireQueuedBefore _ | .listQueuedForAllocation _ | .listAllOpenPositions
  | .getAccountBalance | .getRun _ | .getStrategy _ | .processPaperOrder _ _ | .createDecision _ => isTrue trivial

def undisturbedWorld (world : World Exact) (thread : Nat) (request : Request Exact) :
    Option (request.Answer Exact × World Exact) :=
  if undisturbed world thread request then sampleWorld world thread request else none

theorem undisturbedWorld_handles (world : World Exact) (thread : Nat) (request : Request Exact)
    (answer : request.Answer Exact) (next : World Exact)
    (performed : undisturbedWorld world thread request = some (answer, next)) :
    handlesUndisturbed world thread request answer next := by
  unfold undisturbedWorld at performed
  split at performed
  · rename_i free
    exact ⟨sampleWorld_handles world thread request answer next performed, free⟩
  · cases performed

/-- The second run finds nothing in the queue when the first one has ended. -/
def sampleTurns : List (Choice (interface Exact) (Outcome JobSummary)) :=
  [.start sampleRun, .start sampleRun] ++ List.replicate 14 (.act 0) ++ List.replicate 6 (.act 1)

theorem sampleTurns_exclusive : ∃ reached : System (interface Exact) (World Exact) (Outcome JobSummary),
    Reaches isPaperRun handlesUndisturbed Moves (opening sampleRows) reached ∧ reached.world.orders.length = 1 ∧
      reached.world.Exclusive := by
  have orders : ((opening sampleRows).play undisturbedWorld sampleTurns).map (fun reached => reached.world.orders.length) =
      some 1 := by decide +kernel
  obtain ⟨reached, played, orders⟩ := Option.map_eq_some_iff.mp orders
  have reaches : Reaches isPaperRun handlesUndisturbed Moves (opening sampleRows) reached := by
    refine System.play_reaches undisturbedWorld_handles (sampleRun_isPaperRun fun program member => ?_) played
    simpa [sampleTurns] using member
  exact ⟨reached, reaches, orders, undisturbed_runs_exclusive sampleRows (by decide) reached reaches⟩

end Augr.Portfolio
