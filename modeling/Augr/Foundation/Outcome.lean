import Mathlib.Data.List.Basic

/-! Fallible computations with the error values of `fmt.Errorf`.

A fault keeps the format text and its operands apart, so two faults agree
exactly when the program would build them from the same format and operands.
Guard clauses are sequenced in program order; the first one that fires decides.
-/

set_option autoImplicit false

namespace Augr.Foundation

/-- An error value. A dereferenced nil pointer stops the program; it is kept
apart from every error the program returns by itself. -/
inductive Fault where
  | errorf (format : String) (operands : List String)
  | wrapf (format : String) (operands : List String) (cause : Fault)
  | nilDereference (pointer : String)
  deriving DecidableEq, Repr

abbrev Outcome (α : Type) := Except Fault α

/-- A guard clause: leave with the fault when the condition holds. -/
def failIf (condition : Bool) (fault : Fault) : Outcome Unit :=
  if condition then .error fault else .ok ()

/-- `fmt.Errorf` with a `%w` verb around the fault of a callee. -/
def wrapping {α : Type} (format : String) (operands : List String) : Outcome α → Outcome α
  | .ok value => .ok value
  | .error fault => .error (.wrapf format operands fault)

/-- The pointee, or the nil dereference. -/
def deref {α : Type} (pointer : String) : Option α → Outcome α
  | some value => .ok value
  | none => .error (.nilDereference pointer)

def required {α : Type} (fault : Fault) : Option α → Outcome α
  | some value => .ok value
  | none => .error fault

/-- A range loop that leaves at the first fault. -/
def forEach {α : Type} (check : α → Outcome Unit) : List α → Outcome Unit
  | [] => .ok ()
  | item :: rest => check item >>= fun _ => forEach check rest

section
variable {α β : Type}

@[simp] theorem failIf_ok_iff (condition : Bool) (fault : Fault) (done : Unit) :
    failIf condition fault = .ok done ↔ condition = false := by
  cases condition <;> simp [failIf]

theorem bind_ok_iff {action : Outcome α} {next : α → Outcome β} {result : β} :
    (action >>= next) = .ok result ↔ ∃ value, action = .ok value ∧ next value = .ok result := by
  cases action with
  | error fault => simp [bind, Except.bind]
  | ok value => simp [bind, Except.bind]

theorem exists_done (holds : Unit → Prop) : (∃ done, holds done) ↔ holds () :=
  ⟨fun ⟨(), proof⟩ => proof, fun proof => ⟨(), proof⟩⟩

theorem pure_ok_iff {value result : α} : (pure value : Outcome α) = .ok result ↔ value = result := by
  simp [pure, Except.pure]

theorem check_bind_ok_iff {check : Outcome Unit} {next : Unit → Outcome β} {result : β} :
    (check >>= next) = .ok result ↔ check = .ok () ∧ next () = .ok result := by
  cases check with
  | error fault => simp [bind, Except.bind]
  | ok value => simp [bind, Except.bind]

@[simp] theorem failIf_bind_ok_iff (condition : Bool) (fault : Fault) (next : Unit → Outcome α)
    (result : α) :
    (failIf condition fault >>= next) = .ok result ↔ condition = false ∧ next () = .ok result := by
  cases condition <;> simp [failIf, bind, Except.bind]

@[simp] theorem ok_bind (value : α) (next : α → Outcome β) :
    ((Except.ok value : Outcome α) >>= next) = next value := rfl

@[simp] theorem error_bind (fault : Fault) (next : α → Outcome β) :
    ((Except.error fault : Outcome α) >>= next) = .error fault := rfl

@[simp] theorem failIf_false (fault : Fault) : failIf false fault = .ok () := rfl

@[simp] theorem failIf_true (fault : Fault) : failIf true fault = .error fault := rfl

@[simp] theorem wrapping_ok_iff (format : String) (operands : List String) (action : Outcome α)
    (result : α) : wrapping format operands action = .ok result ↔ action = .ok result := by
  cases action <;> simp [wrapping]

@[simp] theorem deref_ok_iff (pointer : String) (target : Option α) (result : α) :
    deref pointer target = .ok result ↔ target = some result := by
  cases target <;> simp [deref]

@[simp] theorem required_ok_iff (fault : Fault) (value : Option α) (result : α) :
    required fault value = .ok result ↔ value = some result := by
  cases value <;> simp [required]

/-- How the steps of a computation succeed, as one rule. -/
theorem returns_iff :
    (∀ {α β : Type} {action : Outcome α} {next : α → Outcome β} {result : β},
      (action >>= next) = .ok result ↔ ∃ value, action = .ok value ∧ next value = .ok result) ∧
    (∀ {α : Type} {value result : α}, (pure value : Outcome α) = .ok result ↔ value = result) ∧
    (∀ condition fault done, failIf condition fault = .ok done ↔ condition = false) ∧
    (∀ holds : Unit → Prop, (∃ done, holds done) ↔ holds ()) ∧
    (∀ {α : Type} format operands (action : Outcome α) result,
      wrapping format operands action = .ok result ↔ action = .ok result) ∧
    (∀ {α : Type} pointer (target : Option α) result, deref pointer target = .ok result ↔ target = some result) ∧
    (∀ {α : Type} fault (value : Option α) result, required fault value = .ok result ↔ value = some result) :=
  ⟨bind_ok_iff, pure_ok_iff, failIf_ok_iff, exists_done, wrapping_ok_iff, deref_ok_iff, required_ok_iff⟩

theorem toOption_eq_some {action : Outcome α} {value : α} : action.toOption = some value ↔ action = .ok value := by
  cases action <;> simp [Except.toOption]

theorem ok_of_toOption {action : Outcome α} {value : α} (evaluated : action.toOption = some value) : action = .ok value :=
  toOption_eq_some.mp evaluated

/-- What an action that succeeds returns. -/
def returned (action : Outcome α) (succeeds : action.toOption.isSome = true) : α := action.toOption.get succeeds

theorem ok_returned (action : Outcome α) (succeeds : action.toOption.isSome = true) :
    action = .ok (returned action succeeds) :=
  ok_of_toOption (Option.some_get succeeds).symm

theorem ok_of_evaluated {action : Outcome α} {test : α → Bool} (evaluated : action.toOption.any test = true) :
    ∃ value, action = .ok value ∧ test value = true := by
  simpa only [Option.any_eq_true, toOption_eq_some] using evaluated

theorem forall_mem_concat {holds : α → Prop} {rows : List α} {last : α} (each : ∀ row ∈ rows, holds row)
    (isLast : holds last) : ∀ row ∈ rows ++ [last], holds row :=
  List.forall_mem_append.mpr ⟨each, List.forall_mem_singleton.mpr isLast⟩

theorem forEach_ok_iff (check : α → Outcome Unit) (items : List α) :
    forEach check items = .ok () ↔ ∀ item ∈ items, check item = .ok () := by
  induction items with
  | nil => simp [forEach]
  | cons item rest ih => simp [forEach, check_bind_ok_iff, ih]

theorem foldlM_checked_iff {step : List β → α → Outcome (List β)} (good : α → Prop) (apart : β → β → Prop) (row : α → β)
    (items : List α) (each : ∀ sofar, ∀ item ∈ items, ∀ next, step sofar item = .ok next ↔
      next = sofar ++ [row item] ∧ good item ∧ ∀ earlier ∈ sofar, apart earlier (row item)) (result : List β) :
    items.foldlM step [] = .ok result ↔
      result = items.map row ∧ (∀ item ∈ items, good item) ∧ (items.map row).Pairwise apart := by
  have general : ∀ start, items.foldlM step start = .ok result ↔ result = start ++ items.map row ∧
      (∀ item ∈ items, good item) ∧ (items.map row).Pairwise apart ∧
        ∀ earlier ∈ start, ∀ later ∈ items.map row, apart earlier later := by
    induction items with
    | nil =>
      intro start
      simp [pure, Except.pure, eq_comm]
    | cons item rest ih =>
      intro start
      have here := fun sofar => each sofar item List.mem_cons_self
      have later := ih fun sofar other member => each sofar other (List.mem_cons_of_mem _ member)
      simp only [List.foldlM_cons, bind_ok_iff, here, later, List.map_cons, List.pairwise_cons, List.forall_mem_cons]
      constructor
      · rintro ⟨next, ⟨rfl, isGood, before⟩, rfl, goods, pairwise, cross⟩
        rw [List.forall_mem_append, List.forall_mem_singleton] at cross
        exact ⟨by simp, ⟨isGood, goods⟩, ⟨cross.2, pairwise⟩, fun earlier member =>
          ⟨before earlier member, cross.1 earlier member⟩⟩
      · rintro ⟨rfl, ⟨isGood, goods⟩, ⟨first, pairwise⟩, cross⟩
        refine ⟨_, ⟨rfl, isGood, fun earlier member => (cross earlier member).1⟩, by simp, goods, pairwise, ?_⟩
        rw [List.forall_mem_append, List.forall_mem_singleton]
        exact ⟨fun earlier member => (cross earlier member).2, first⟩
  simpa using general []

end

/-! A fault that a computation never returns is excluded step by step. -/

/-- Every fault of the computation satisfies the predicate. -/
def FaultsIn {α : Type} (allowed : Fault → Prop) (action : Outcome α) : Prop :=
  ∀ fault, action = .error fault → allowed fault

section
variable {α β : Type} {allowed : Fault → Prop} {items : List α} {action : α → Outcome β}

theorem FaultsIn.ok (value : α) : FaultsIn allowed (.ok value : Outcome α) := by
  intro fault failed
  cases failed

theorem FaultsIn.error {fault : Fault} (known : allowed fault) :
    FaultsIn allowed (.error fault : Outcome α) := by
  intro other failed
  cases failed
  exact known

theorem FaultsIn.failIf {condition : Bool} {fault : Fault} (known : allowed fault) :
    FaultsIn allowed (failIf condition fault) := by
  cases condition with
  | false => exact .ok ()
  | true => exact .error known

theorem FaultsIn.bind {action : Outcome α} {next : α → Outcome β}
    (first : FaultsIn allowed action) (second : ∀ value, FaultsIn allowed (next value)) :
    FaultsIn allowed (action >>= next) := by
  cases action with
  | error fault => exact .error (first fault rfl)
  | ok value => exact second value

theorem FaultsIn.wrapping {format : String} {operands : List String} {action : Outcome α}
    (known : ∀ cause, allowed (.wrapf format operands cause)) :
    FaultsIn allowed (wrapping format operands action) := by
  cases action with
  | error fault => exact .error (known fault)
  | ok value => exact .ok value

theorem FaultsIn.deref {pointer : String} {target : Option α}
    (known : allowed (.nilDereference pointer)) : FaultsIn allowed (deref pointer target) := by
  cases target with
  | none => exact .error known
  | some value => exact .ok value

theorem FaultsIn.pure (value : α) : FaultsIn allowed (pure value : Outcome α) := .ok value

theorem FaultsIn.mapM (each : ∀ item, FaultsIn allowed (action item)) : FaultsIn allowed (items.mapM action) := by
  induction items with
  | nil => exact .pure []
  | cons item rest ih =>
    rw [List.mapM_cons]
    exact .bind (each item) fun _ => .bind ih fun _ => .pure _

theorem mapM_succeeds_iff :
    (∃ results, items.mapM action = .ok results) ↔ ∀ item ∈ items, ∃ result, action item = .ok result := by
  induction items with
  | nil => simp [pure, Except.pure]
  | cons item rest ih =>
    simp only [List.mapM_cons, bind_ok_iff, List.forall_mem_cons, ← ih]
    constructor
    · rintro ⟨_, result, first, results, others, _⟩
      exact ⟨⟨result, first⟩, results, others⟩
    · rintro ⟨⟨result, first⟩, results, others⟩
      exact ⟨_, result, first, results, others, rfl⟩

theorem mapM_ok_iff {results : List β} :
    items.mapM action = .ok results ↔ List.Forall₂ (fun item result => action item = .ok result) items results := by
  induction items generalizing results with
  | nil =>
    constructor
    · rintro ⟨⟩
      exact .nil
    · rintro ⟨⟩
      rfl
  | cons item rest ih =>
    simp only [List.mapM_cons, bind_ok_iff]
    constructor
    · rintro ⟨result, first, others, follow, built⟩
      cases built
      exact .cons first (ih.mp follow)
    · rintro (_ | ⟨first, follow⟩)
      exact ⟨_, first, _, ih.mpr follow, rfl⟩

theorem FaultsIn.foldlM {step : β → α → Outcome β} {start : β}
    (each : ∀ sofar item, FaultsIn allowed (step sofar item)) : FaultsIn allowed (items.foldlM step start) := by
  induction items generalizing start with
  | nil => exact .pure start
  | cons item rest ih =>
    rw [List.foldlM_cons]
    exact .bind (each start item) fun _ => ih

end

/-! Two runs are compared by what they return when both return. -/

/-- Both computations fail, or both return, and what they return is related. -/
inductive Matched {α β : Type} (related : α → β → Prop) : Outcome α → Outcome β → Prop where
  | failed (left right : Fault) : Matched related (.error left) (.error right)
  | returned {left : α} {right : β} (results : related left right) : Matched related (.ok left) (.ok right)

section
variable {α β γ δ : Type} {related : α → β → Prop} {next : γ → δ → Prop}

theorem Matched.refl (action : Outcome α) : Matched (· = ·) action action := by
  cases action with
  | error fault => exact .failed fault fault
  | ok value => exact .returned rfl

theorem Matched.bind {left : Outcome α} {right : Outcome β} (runs : Matched related left right)
    {leftNext : α → Outcome γ} {rightNext : β → Outcome δ}
    (rest : ∀ first second, related first second → Matched next (leftNext first) (rightNext second)) :
    Matched next (left >>= leftNext) (right >>= rightNext) := by
  cases runs with
  | failed left right => exact .failed left right
  | returned results => exact rest _ _ results

theorem Matched.of_returns {left : Outcome α} {right : Outcome β}
    (together : (∃ value, left = .ok value) ↔ ∃ value, right = .ok value)
    (results : ∀ first second, left = .ok first → right = .ok second → related first second) :
    Matched related left right := by
  cases left with
  | error leftFault =>
    cases right with
    | error rightFault => exact .failed leftFault rightFault
    | ok second =>
      obtain ⟨first, impossible⟩ := together.mpr ⟨second, rfl⟩
      cases impossible
  | ok first =>
    obtain ⟨second, isSecond⟩ := together.mp ⟨first, rfl⟩
    subst isSecond
    exact .returned (results first second rfl rfl)

end

end Augr.Foundation
