import Augr.Foundation.Text
import Mathlib.Data.List.DropRight

/-! Upper case, white space and separators do not disturb each other. -/

set_option autoImplicit false

namespace Augr.Foundation.Text

def separators : List Nat :=
  [9, 10, 11, 12, 13, 32, 58, 0x85, 0xA0, 0x1680, 0x2000, 0x2001, 0x2002, 0x2003, 0x2004, 0x2005, 0x2006, 0x2007, 0x2008,
    0x2009, 0x200A, 0x2028, 0x2029, 0x202F, 0x205F, 0x3000]

theorem mem_separators_of_isSpace {c : Char} (space : isSpace c = true) : c.toNat ∈ separators := by
  simp only [isSpace, Bool.or_eq_true, Bool.and_eq_true, decide_eq_true_eq, beq_iff_eq] at space
  simp only [separators, List.mem_cons, List.not_mem_nil, or_false]
  omega

/-- The tables map no separator and nothing to a separator; in ASCII the case changes nothing about them. -/
theorem upper_evaluated :
    (upperRanges.all fun range => separators.all fun code =>
      !range.covers code && !range.covers ((code : Int) - range.2.2.2).toNat) = true ∧
    ∀ code < 128, let c := Char.ofNat code
      isSpace (upperChar c) = isSpace c ∧ (upperChar c = ':' ↔ c = ':') := by
  decide +kernel

theorem toNat_ofNat {code : Nat} (positive : (Char.ofNat code).toNat ≠ 0) : (Char.ofNat code).toNat = code := by
  by_cases valid : code.isValidChar
  · rw [Char.ofNat, dif_pos valid]
    rfl
  · rw [Char.ofNat, dif_neg valid] at positive
    exact absurd rfl positive

/-- Outside ASCII, upper case leaves a character alone or is about characters that separate nothing. -/
theorem upperChar_cases {c : Char} (ascii : ¬ c.toNat < 128) :
    upperChar c = c ∨ (c.toNat ∉ separators ∧ (upperChar c).toNat ∉ separators) := by
  cases found : upperRanges.find? (CaseRange.covers · c.toNat) with
  | none =>
    left
    rw [upperChar, if_neg ascii, mapCase, found]
  | some range =>
    right
    have covered : range.covers c.toNat = true := by simpa using List.find?_some found
    have apart : ∀ code ∈ separators, range.covers code = false ∧ range.covers ((code : Int) - range.2.2.2).toNat = false := by
      have known := List.all_eq_true.mp upper_evaluated.1 range (List.mem_of_find?_eq_some found)
      simpa using known
    refine ⟨fun member => ?_, fun member => ?_⟩
    · rw [(apart _ member).1] at covered
      cases covered
    · have positive : ∀ code ∈ separators, code ≠ 0 := by decide
      have image : upperChar c = Char.ofNat ((c.toNat : Int) + range.2.2.2).toNat := by
        rw [upperChar, if_neg ascii, mapCase, found]
      have coded := toNat_ofNat (image ▸ positive _ member)
      rw [image] at member
      have source : (((Char.ofNat ((c.toNat : Int) + range.2.2.2).toNat).toNat : Int) - range.2.2.2).toNat = c.toNat := by
        have nonzero := positive _ member
        omega
      have uncovered := (apart _ member).2
      rw [source, covered] at uncovered
      cases uncovered

@[simp] theorem isSpace_upperChar (c : Char) : isSpace (upperChar c) = isSpace c := by
  by_cases ascii : c.toNat < 128
  · have known := (upper_evaluated.2 c.toNat ascii).1
    rwa [Char.ofNat_toNat] at known
  rcases upperChar_cases ascii with same | ⟨before, after⟩
  · rw [same]
  · have solid : ∀ {d : Char}, d.toNat ∉ separators → isSpace d = false := fun apart =>
      Bool.eq_false_iff.mpr fun space => apart (mem_separators_of_isSpace space)
    rw [solid before, solid after]

@[simp] theorem upperChar_eq_colon (c : Char) : upperChar c = ':' ↔ c = ':' := by
  by_cases ascii : c.toNat < 128
  · have known := (upper_evaluated.2 c.toNat ascii).2
    rwa [Char.ofNat_toNat] at known
  rcases upperChar_cases ascii with same | ⟨before, after⟩
  · rw [same]
  · have listed : (':' : Char).toNat ∈ separators := by decide
    exact iff_of_false (fun same => after (same ▸ listed)) fun same => before (same ▸ listed)

theorem toList_toUpper (value : String) : (toUpper value).toList = value.toList.map upperChar := by
  rw [toUpper, mapCharacters_eq, String.toList_ofList]

theorem toList_trimSpace (value : String) : (trimSpace value).toList = trim value.toList := by
  rw [trimSpace_eq, String.toList_ofList]

theorem dropWhile_isSpace_map (text : List Char) :
    (text.map upperChar).dropWhile isSpace = (text.dropWhile isSpace).map upperChar := by
  rw [List.dropWhile_map]
  congr 2
  funext c
  exact isSpace_upperChar c

theorem trim_map_upperChar (text : List Char) : trim (text.map upperChar) = (trim text).map upperChar := by
  rw [trim, trim, dropWhile_isSpace_map, ← List.map_reverse, dropWhile_isSpace_map, List.map_reverse]

theorem dropWhile_of_start {text start : List Char} (full : text.dropWhile isSpace = text) (begins : start <+: text) :
    start.dropWhile isSpace = start := by
  cases start with
  | nil => rfl
  | cons first rest =>
    obtain ⟨tail, rfl⟩ := begins
    apply List.dropWhile_cons_of_neg
    intro space
    rw [List.cons_append, List.dropWhile_cons_of_pos space] at full
    have shorter := length_dropWhile_le isSpace (rest ++ tail)
    rw [full, List.length_cons] at shorter
    omega

theorem trim_trim (text : List Char) : trim (trim text) = trim text := by
  have start : (trim text).dropWhile isSpace = trim text :=
    dropWhile_of_start (List.dropWhile_idempotent isSpace text) (List.rdropWhile_prefix isSpace _)
  rw [trim, start]
  exact List.rdropWhile_idempotent isSpace _

@[simp] theorem trimSpace_trimSpace (value : String) : trimSpace (trimSpace value) = trimSpace value := by
  apply String.toList_inj.mp
  rw [toList_trimSpace, toList_trimSpace, trim_trim]

theorem trimSpace_toUpper (value : String) : trimSpace (toUpper value) = toUpper (trimSpace value) := by
  apply String.toList_inj.mp
  rw [toList_trimSpace, toList_toUpper, trim_map_upperChar, toList_toUpper, toList_trimSpace]

def cut (mark : Char) (value : String) : Option (String × String) :=
  let given := characters value
  match given.dropWhile (· != mark) with
  | [] => none
  | _ :: rest => some (String.ofList (given.takeWhile (· != mark)), String.ofList rest)

theorem cut_of_notMem {mark : Char} {value : String} (absent : mark ∉ value.toList) : cut mark value = none := by
  have all : value.toList.dropWhile (· != mark) = [] := by
    rw [List.dropWhile_eq_nil_iff]
    intro c member
    exact bne_iff_ne.mpr fun same => absent (same ▸ member)
  rw [cut, characters_eq, all]

theorem notMem_of_cut {mark : Char} {value first rest : String} (found : cut mark value = some (first, rest)) :
    mark ∉ first.toList := by
  simp only [cut, characters_eq] at found
  split at found
  · cases found
  · cases found
    rw [String.toList_ofList]
    intro member
    have different := List.mem_takeWhile_imp member
    exact bne_iff_ne.mp different rfl

end Augr.Foundation.Text
