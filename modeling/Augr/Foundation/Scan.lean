import Augr.Foundation.Outcome
import Mathlib.Data.List.Forall2
import Mathlib.Data.List.Induction
import Mathlib.Order.Lattice

/-! Loops over rows: one that builds a row from each item, and one that keeps the best eligible row. -/

set_option autoImplicit false

namespace Augr.Foundation

section
variable {α β : Type} {related : α → β → Prop} {items : List α} {result : List β} {step : List β → α → Outcome (List β)}

theorem getElem?_right {rows : List β} (matched : List.Forall₂ related items rows) {i : Nat} {item : α}
    (here : items[i]? = some item) : ∃ row, rows[i]? = some row ∧ related item row := by
  induction matched generalizing i with
  | nil => cases here
  | cons first _ ih =>
    cases i with
    | zero =>
      cases here
      exact ⟨_, rfl, first⟩
    | succ i => exact ih here

theorem getElem?_set_cases {n m : Nat} {item found : α} (here : (items.set n item)[m]? = some found) :
    m = n ∧ found = item ∨ m ≠ n ∧ items[m]? = some found := by
  rw [List.getElem?_set] at here
  split at here
  · rename_i same
    split at here
    · exact .inl ⟨same.symm, (Option.some.inj here).symm⟩
    · cases here
  · rename_i apart
    exact .inr ⟨Ne.symm apart, here⟩

theorem getElem?_append_singleton {n : Nat} {item found : α} (here : (items ++ [item])[n]? = some found) :
    items[n]? = some found ∨ n = items.length ∧ found = item := by
  rw [List.getElem?_append] at here
  split at here
  · exact .inl here
  · rw [List.getElem?_singleton] at here
    split at here
    · exact .inr ⟨by omega, (Option.some.inj here).symm⟩
    · cases here

theorem exists_right_of_mem {rows : List β} (matched : List.Forall₂ related items rows) {item : α}
    (member : item ∈ items) : ∃ row ∈ rows, related item row := by
  obtain ⟨i, here⟩ := List.mem_iff_getElem?.mp member
  obtain ⟨row, there, holds⟩ := getElem?_right matched here
  exact ⟨row, List.mem_of_getElem? there, holds⟩

theorem exists_left_of_mem {rows : List β} (matched : List.Forall₂ related items rows) {row : β} (member : row ∈ rows) :
    ∃ item ∈ items, related item row := exists_right_of_mem matched.flip member

theorem foldlM_preserves (invariant : β → Prop) {step : β → α → Outcome β} {start result : β}
    (each : ∀ sofar item next, invariant sofar → step sofar item = .ok next → invariant next)
    (holds : invariant start) (ok : items.foldlM step start = .ok result) : invariant result := by
  induction items generalizing start with
  | nil =>
    cases ok
    exact holds
  | cons item rest ih =>
    rw [List.foldlM_cons, bind_ok_iff] at ok
    obtain ⟨next, passed, ok⟩ := ok
    exact ih (each start item next holds passed) ok

theorem foldlM_appends {made : List β → α → β → Prop} {start : List β}
    (each : ∀ sofar item next, step sofar item = .ok next → ∃ row, next = sofar ++ [row] ∧ made sofar item row)
    (ok : items.foldlM step start = .ok result) :
    ∃ rows, result = start ++ rows ∧
      List.Forall₂ (fun item row => ∃ before after, result = before ++ row :: after ∧ made before item row) items rows := by
  induction items generalizing start with
  | nil =>
    cases ok
    exact ⟨[], (List.append_nil _).symm, .nil⟩
  | cons item rest ih =>
    rw [List.foldlM_cons, bind_ok_iff] at ok
    obtain ⟨next, passed, ok⟩ := ok
    obtain ⟨row, rfl, isMade⟩ := each start item next passed
    obtain ⟨rows, rfl, others⟩ := ih ok
    exact ⟨row :: rows, by simp, .cons ⟨start, rows, by simp, isMade⟩ others⟩

theorem foldlM_forall₂ {apart : β → β → Prop}
    (each : ∀ sofar item next, step sofar item = .ok next →
      ∃ row, next = sofar ++ [row] ∧ related item row ∧ ∀ earlier ∈ sofar, apart earlier row)
    {start : List β} (distinct : start.Pairwise apart) (ok : items.foldlM step start = .ok result) :
    ∃ rows, result = start ++ rows ∧ List.Forall₂ related items rows ∧ result.Pairwise apart := by
  obtain ⟨rows, isResult, made⟩ := foldlM_appends each ok
  refine ⟨rows, isResult, made.imp fun _ _ ⟨_, _, _, isRelated, _⟩ => isRelated, ?_⟩
  refine foldlM_preserves _ (fun sofar item next pairwise passed => ?_) distinct ok
  obtain ⟨row, rfl, _, fresh⟩ := each sofar item next passed
  refine List.pairwise_append.mpr ⟨pairwise, List.pairwise_singleton _ _, fun earlier member => ?_⟩
  exact List.forall_mem_singleton.mpr (fresh earlier member)

theorem foldlM_rows
    (each : ∀ sofar item next, step sofar item = .ok next → ∃ row, next = sofar ++ [row] ∧ related item row)
    (ok : items.foldlM step [] = .ok result) : List.Forall₂ related items result := by
  obtain ⟨_, rfl, made⟩ := foldlM_appends each ok
  exact made.imp fun _ _ ⟨_, _, _, isRelated⟩ => isRelated

theorem foldlM_keyed {κ : Type} {key : α → κ} (rowKey : β → κ)
    (each : ∀ sofar item next, step sofar item = .ok next →
      ∃ row, next = sofar ++ [row] ∧ rowKey row = key item ∧ ∀ earlier ∈ sofar, rowKey earlier ≠ rowKey row)
    (ok : items.foldlM step [] = .ok result) : (items.map key).Nodup := by
  obtain ⟨_, rfl, keyed, apart⟩ := foldlM_forall₂ each .nil ok
  have keys : items.map key = result.map rowKey := by
    rw [← List.forall₂_eq_eq_eq, List.forall₂_map_left_iff, List.forall₂_map_right_iff]
    exact keyed.imp fun _ _ same => same.symm
  rw [keys]
  exact List.pairwise_map.mpr apart

end

/-! The best eligible row. A later row replaces the kept one only if it is better. -/

section
variable {α β κ : Type} {rows : List α}

def select (eligible : α → Bool) (better : α → α → Bool) (rows : List α) : Option α :=
  rows.foldl (fun selected row =>
    if !eligible row then selected
    else match selected with
      | none => some row
      | some current => if better row current then some row else selected) none

/-- What the loop keeps: an eligible row that no eligible row is better than. -/
structure Best [LinearOrder κ] (eligible : α → Bool) (key : α → κ) (rows : List α) (selected : Option α) : Prop where
  kept : ∀ row, selected = some row → row ∈ rows ∧ eligible row = true
  highest : ∀ row ∈ rows, eligible row = true → ∃ best, selected = some best ∧ key row ≤ key best

variable [LinearOrder κ] {eligible : α → Bool} {better : α → α → Bool} {key : α → κ}

theorem Best.skip {selected : Option α} {last : α} (best : Best eligible key rows selected)
    (low : eligible last = true → ∃ kept, selected = some kept ∧ key last ≤ key kept) :
    Best eligible key (rows ++ [last]) selected where
  kept row isKept := (best.kept row isKept).imp_left (List.mem_append_left _)
  highest := forall_mem_concat best.highest low

theorem Best.take {last : α} (isEligible : eligible last = true)
    (above : ∀ row ∈ rows, eligible row = true → key row ≤ key last) :
    Best eligible key (rows ++ [last]) (some last) := by
  refine ⟨fun row isKept => ?_, forall_mem_concat (fun row member allowed => ?_) fun _ => ⟨last, rfl, le_rfl⟩⟩
  · cases isKept
    exact ⟨by simp, isEligible⟩
  · exact ⟨last, rfl, above row member allowed⟩

theorem select_best (ordered : ∀ row current, better row current = true ↔ key current < key row) (rows : List α) :
    Best eligible key rows (select eligible better rows) := by
  -- The rows are taken from the end: the loop has seen all rows but the last.
  induction rows using List.reverseRecOn with
  | nil => exact ⟨nofun, nofun⟩
  | append_singleton rows last ih =>
    have unfolded : select eligible better (rows ++ [last]) =
        if !eligible last then select eligible better rows
        else match select eligible better rows with
          | none => some last
          | some current => if better last current then some last else select eligible better rows := by
      simp [select]
    rw [unfolded]
    generalize select eligible better rows = selected at ih
    cases isEligible : eligible last with
    | false => exact ih.skip fun allowed => by cases isEligible.symm.trans allowed
    | true =>
      cases selected with
      | none =>
        refine Best.take isEligible fun row member allowed => ?_
        obtain ⟨_, none, _⟩ := ih.highest row member allowed
        cases none
      | some current =>
        by_cases isBetter : better last current = true
        · simp only [Bool.not_true, Bool.false_eq_true, if_false, isBetter, if_true]
          refine Best.take isEligible fun row member allowed => ?_
          obtain ⟨_, isBest, least⟩ := ih.highest row member allowed
          cases isBest
          exact le_trans least (le_of_lt ((ordered last current).mp isBetter))
        · simp only [Bool.not_true, Bool.false_eq_true, if_false, isBetter]
          exact ih.skip fun _ => ⟨current, rfl, not_lt.mp (mt (ordered last current).mpr isBetter)⟩

theorem Best.unique {others : List α} {selected other : Option α} (first : Best eligible key rows selected)
    (second : Best eligible key others other) (same : ∀ row, eligible row = true → (row ∈ rows ↔ row ∈ others))
    (apart : ∀ left ∈ rows, ∀ right ∈ rows, eligible left = true → eligible right = true → key left = key right → left = right) :
    selected = other := by
  cases isFirst : selected with
  | none =>
    cases isSecond : other with
    | none => rfl
    | some row =>
      obtain ⟨inside, allowed⟩ := second.kept row isSecond
      obtain ⟨best, isBest, _⟩ := first.highest row ((same row allowed).mpr inside) allowed
      rw [isFirst] at isBest
      cases isBest
  | some row =>
    obtain ⟨inside, allowed⟩ := first.kept row isFirst
    obtain ⟨best, isBest, least⟩ := second.highest row ((same row allowed).mp inside) allowed
    obtain ⟨bestInside, bestAllowed⟩ := second.kept best isBest
    have bestFirst := (same best bestAllowed).mpr bestInside
    obtain ⟨top, isTop, most⟩ := first.highest best bestFirst bestAllowed
    rw [isFirst] at isTop
    cases isTop
    rw [isBest, apart row inside best bestFirst allowed bestAllowed (le_antisymm least most)]

omit [LinearOrder κ] in
theorem map_select (seen : α → β) {allowed : β → Bool} {above : β → β → Bool}
    (sameEligible : ∀ row, eligible row = allowed (seen row))
    (sameBetter : ∀ row current, better row current = above (seen row) (seen current)) (rows : List α) :
    (select eligible better rows).map seen = select allowed above (rows.map seen) := by
  induction rows using List.reverseRecOn with
  | nil => rfl
  | append_singleton rows last ih =>
    simp only [select, List.foldl_append, List.map_append, List.map_cons, List.map_nil, List.foldl_cons, List.foldl_nil]
    rw [select, select] at ih
    rw [← ih, ← sameEligible]
    cases eligible last with
    | false => rfl
    | true =>
      cases rows.foldl _ none with
      | none => rfl
      | some current =>
        simp only [Bool.not_true, Bool.false_eq_true, if_false, Option.map_some, ← sameBetter]
        split <;> rfl

/-! Rows that were read from given items. -/

variable {γ : Type} {related : γ → α → Prop}

structure Reads (related : γ → α → Prop) (items : List γ) (rows : List α) : Prop where
  covers : ∀ item ∈ items, ∃ row ∈ rows, related item row
  sources : ∀ row ∈ rows, ∃ item ∈ items, related item row

omit [LinearOrder κ] in
theorem Reads.of_perm {items : List γ} {others : List α} (matched : List.Forall₂ related items rows)
    (perm : others.Perm rows) : Reads related items others := by
  refine ⟨fun item member => ?_, fun row member => exists_left_of_mem matched (perm.mem_iff.mp member)⟩
  obtain ⟨row, inside, isRead⟩ := exists_right_of_mem matched member
  exact ⟨row, perm.mem_iff.mpr inside, isRead⟩

/-- Two tables that agree on the items an allowed row can come from select rows that look alike. -/
theorem select_agree {items others : List γ} {rows' : List α} (read : Reads related items rows)
    (read' : Reads related others rows') (seen : α → β) (allowed : β → Bool) (above : β → β → Bool) (rank : β → κ)
    (ordered : ∀ row current, above row current = true ↔ rank current < rank row)
    (same : ∀ item first second, related item first → related item second → seen first = seen second)
    (known : ∀ item row, related item row → allowed (seen row) = true → (item ∈ items ↔ item ∈ others))
    (apart : ∀ left ∈ rows, ∀ right ∈ rows, allowed (seen left) = true → allowed (seen right) = true →
      rank (seen left) = rank (seen right) → seen left = seen right) :
    (select (fun row => allowed (seen row)) (fun row current => above (seen row) (seen current)) rows).map seen =
      (select (fun row => allowed (seen row)) (fun row current => above (seen row) (seen current)) rows').map seen := by
  have mem_seen {items : List γ} {rows : List α} (read : Reads related items rows) (view : β) :
      view ∈ rows.map seen ↔ ∃ item, item ∈ items ∧ ∃ row, related item row ∧ seen row = view := by
    rw [List.mem_map]
    constructor
    · rintro ⟨row, member, rfl⟩
      obtain ⟨item, inside, isRead⟩ := read.sources row member
      exact ⟨item, inside, row, isRead, rfl⟩
    · rintro ⟨item, inside, row, isRead, rfl⟩
      obtain ⟨stored, member, storedRead⟩ := read.covers item inside
      exact ⟨stored, member, same item stored row storedRead isRead⟩
  rw [map_select seen (fun _ => rfl) (fun _ _ => rfl), map_select seen (fun _ => rfl) (fun _ _ => rfl)]
  refine (select_best ordered _).unique (select_best ordered _) (fun view isAllowed => ?_) ?_
  · rw [mem_seen read, mem_seen read']
    refine exists_congr fun item => and_congr_left ?_
    rintro ⟨row, isRead, rfl⟩
    exact known item row isRead isAllowed
  · intro left inLeft right inRight
    obtain ⟨first, inFirst, rfl⟩ := List.mem_map.mp inLeft
    obtain ⟨second, inSecond, rfl⟩ := List.mem_map.mp inRight
    exact apart first inFirst second inSecond

end

end Augr.Foundation
