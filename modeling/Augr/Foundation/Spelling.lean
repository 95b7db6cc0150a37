import Augr.Foundation.Fields

/-! Two encoded documents with the same bytes have the same parts.

An encoded value ends where its reader stops, so what is written after it does not change it.
A field of raw bytes has no such end; it is kept apart when it is the same on both sides.
-/

set_option autoImplicit false

namespace Augr.Foundation.Json

/-- The bytes spell some value that is not nested deeper. -/
def Spells (depth : Nat) (bytes : Bytes) : Prop := ∃ result, Reads anyNumber depth bytes result

section
variable {depth : Nat}

theorem spells_quote (text : String) : Spells depth (quote text) := ⟨_, reads_quote text⟩

theorem spells_bool (choice : Bool) : Spells depth (encodeBool choice) := ⟨_, reads_bool choice⟩

theorem spells_int (number : Int) : Spells depth (encodeInt number) := ⟨_, reads_encodeInt number rfl⟩

theorem spells_optional (text : Option String) : Spells depth (encodeOptional text) := ⟨_, reads_optional text⟩

theorem spells_null : Spells depth (Text.utf8 "null") := ⟨_, reads_null⟩

theorem exists_forall₂ {α β : Type} {related : α → β → Prop} {items : List α} (each : ∀ item ∈ items, ∃ row, related item row) :
    ∃ rows, List.Forall₂ related items rows := by
  induction items with
  | nil => exact ⟨[], .nil⟩
  | cons item items ih =>
    obtain ⟨row, first⟩ := each item List.mem_cons_self
    obtain ⟨rows, others⟩ := ih fun item member => each item (List.mem_cons_of_mem _ member)
    exact ⟨row :: rows, .cons first others⟩

theorem spells_array {items : List Bytes} (each : ∀ item ∈ items, Spells depth item) :
    Spells (depth + 1) (encodeArray items) := by
  obtain ⟨results, spelt⟩ := exists_forall₂ each
  exact ⟨_, reads_encodeArray spelt⟩

theorem spells_object {fields : List (String × Bytes)} (each : ∀ field ∈ fields, Spells depth field.2) :
    Spells (depth + 1) (encodeObject fields) := by
  have members : ∀ field ∈ fields, ∃ result, MemberReads anyNumber depth field result := by
    intro field member
    obtain ⟨result, spelt⟩ := each field member
    exact ⟨(field.1, result), rfl, spelt⟩
  obtain ⟨results, spelt⟩ := exists_forall₂ members
  exact ⟨_, reads_encodeObject spelt⟩

theorem Reads.unique {bytes : Bytes} {first second : Json} (reads : Reads anyNumber depth bytes first)
    (others : Reads anyNumber depth bytes second) : first = second := by
  have one := reads.reads (Nat.le_refl depth) (Nat.le_refl _) (show Closes [] from trivial)
  rw [others.reads (Nat.le_refl depth) (Nat.le_refl _) (show Closes [] from trivial)] at one
  injection one with results
  exact (Prod.mk.inj results).1.symm

theorem Spells.isValid {bytes : Bytes} (spelt : Spells depth bytes) (shallow : depth ≤ maxNestingDepth) :
    isValid bytes = true := by
  obtain ⟨result, reads⟩ := spelt
  rw [Json.isValid, decode_of_reads reads shallow]
  rfl

end

/-- What follows does not change which of the two was written. -/
def Delimited (left right : Bytes) : Prop :=
  ∀ afterLeft afterRight, Closes afterLeft → Closes afterRight → left ++ afterLeft = right ++ afterRight → left = right

theorem Delimited.refl (bytes : Bytes) : Delimited bytes bytes := fun _ _ _ _ _ => rfl

theorem Spells.delimited {depth : Nat} {left right : Bytes} (first : Spells depth left) (second : Spells depth right) :
    Delimited left right := by
  intro afterLeft afterRight closesLeft closesRight same
  obtain ⟨leftResult, leftReads⟩ := first
  obtain ⟨rightResult, rightReads⟩ := second
  have fromLeft := leftReads.reads (Nat.le_refl depth) (Nat.le_add_right (2 * left.length) (2 * right.length)) closesLeft
  have fromRight := rightReads.reads (Nat.le_refl depth) (Nat.le_add_left (2 * right.length) (2 * left.length)) closesRight
  rw [same, fromRight] at fromLeft
  injection fromLeft with results
  injection results with _ rests
  subst rests
  exact List.append_cancel_right same

theorem Delimited.member {left right : Bytes} (apart : Delimited left right) (name : String) :
    Delimited (encodeMember (name, left)) (encodeMember (name, right)) := by
  intro afterLeft afterRight closesLeft closesRight same
  simp only [encodeMember, List.append_assoc, List.cons_append, List.append_cancel_left_eq, List.cons.injEq, true_and] at same
  rw [apart _ _ closesLeft closesRight same]

theorem commaSeparated_cons_cons (item next : Bytes) (items : List Bytes) :
    commaSeparated (item :: next :: items) = item ++ 0x2C :: commaSeparated (next :: items) := rfl

theorem commaSeparated_inj {closing : UInt8} {lefts rights : List Bytes} {afterLeft afterRight : Bytes}
    (apart : List.Forall₂ Delimited lefts rights) (closes : ∀ rest, Closes (closing :: rest))
    (same : commaSeparated lefts ++ closing :: afterLeft = commaSeparated rights ++ closing :: afterRight) :
    lefts = rights := by
  induction apart with
  | nil => rfl
  | @cons left right lefts rights first others ih =>
    cases others with
    | nil =>
      rw [first _ _ (closes _) (closes _) same]
    | cons =>
      rw [commaSeparated_cons_cons, commaSeparated_cons_cons, List.append_assoc, List.append_assoc] at same
      obtain rfl := first _ _ (closes_comma _) (closes_comma _) same
      simp only [List.append_cancel_left_eq, List.cons_append, List.cons.injEq, true_and] at same
      rw [ih same]

theorem quote_injective {left right : String} (same : quote left = quote right) : left = right :=
  Json.string.inj ((reads_quote left : Reads anyNumber 0 _ _).unique (same ▸ reads_quote right))

/-- Records with the same names, each field delimited, have the same fields when they have the same bytes. -/
theorem encodeObject_inj {lefts rights : List (String × Bytes)}
    (apart : List.Forall₂ (fun left right => left.1 = right.1 ∧ Delimited left.2 right.2) lefts rights)
    (same : encodeObject lefts = encodeObject rights) : lefts = rights := by
  rw [encodeObject_eq, encodeObject_eq] at same
  have members : lefts.map encodeMember = rights.map encodeMember := by
    refine @commaSeparated_inj 0x7D _ _ [] [] ?_ closes_brace (List.cons.inj same).2
    rw [List.forall₂_map_left_iff, List.forall₂_map_right_iff]
    refine apart.imp fun left right related => ?_
    obtain ⟨name, value⟩ := left
    obtain ⟨_, other⟩ := right
    obtain ⟨rfl, values⟩ := related
    exact values.member _
  clear same
  induction apart with
  | nil => rfl
  | @cons left right lefts rights first _ ih =>
    obtain ⟨name, value⟩ := left
    obtain ⟨_, other⟩ := right
    obtain ⟨rfl, _⟩ := first
    rw [List.map_cons, List.map_cons] at members
    injection members with member others
    rw [ih others]
    simp only [encodeMember, List.append_cancel_left_eq, List.cons.injEq, true_and] at member
    rw [member]

theorem texts_inj {left right : List (String × String)} (names : left.map Prod.fst = right.map Prod.fst)
    (same : encodeObject (left.map fun field => (field.1, quote field.2)) =
      encodeObject (right.map fun field => (field.1, quote field.2))) : left = right := by
  rw [← List.forall₂_eq_eq_eq, List.forall₂_map_left_iff, List.forall₂_map_right_iff] at names
  have fields := encodeObject_inj (List.forall₂_map_left_iff.mpr (List.forall₂_map_right_iff.mpr
    (names.imp fun first second name =>
    ⟨name, (spells_quote first.2 : Spells 0 _).delimited (spells_quote second.2)⟩))) same
  refine List.map_injective_iff.mpr (fun first second equal => ?_) fields
  obtain ⟨name, text⟩ := Prod.mk.inj equal
  exact Prod.ext name (quote_injective text)

theorem encodeArray_inj {depth : Nat} {lefts rights : List Bytes} (left : ∀ item ∈ lefts, Spells depth item)
    (right : ∀ item ∈ rights, Spells depth item) (same : encodeArray lefts = encodeArray rights) : lefts = rights := by
  obtain ⟨leftResults, leftReads⟩ := exists_forall₂ left
  obtain ⟨rightResults, rightReads⟩ := exists_forall₂ right
  have values := Json.array.inj ((reads_encodeArray leftReads).unique (same ▸ reads_encodeArray rightReads))
  have sizes : lefts.length = rights.length := by rw [leftReads.length_eq, rightReads.length_eq, values]
  rw [encodeArray_eq, encodeArray_eq] at same
  refine @commaSeparated_inj 0x5D _ _ [] [] (List.forall₂_iff_get.mpr ⟨sizes, ?_⟩) closes_bracket (List.cons.inj same).2
  intro n inLeft inRight
  exact (left _ (List.get_mem _ _)).delimited (right _ (List.get_mem _ _))

end Augr.Foundation.Json
