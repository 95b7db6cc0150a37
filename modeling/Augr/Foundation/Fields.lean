import Augr.Foundation.Records

/-! Fields of 64-bit integers and of pointers to texts, as a record is written and read. -/

set_option autoImplicit false

namespace Augr.Foundation.Json

variable {accepts : NumberParts → Bool} {depth : Nat}

def int64Field (fields : List (String × Json)) (key : String) : Option Int64 := (intField 64 fields key).map Int64.ofInt

theorem int64Field_eq {fields : List (String × Json)} {key : String} {number : Int64}
    (found : fields.lookup key = some (integer number.toInt)) : int64Field fields key = some number := by
  rw [int64Field, intField_eq found (Int64.le_toInt number) (Int64.toInt_lt number)]
  simp

theorem reads_int64 (number : Int64) : Reads anyNumber depth (encodeInt number.toInt) (integer number.toInt) :=
  reads_encodeInt _ rfl

def encodeOptional : Option String → Bytes
  | none => Text.utf8 "null"
  | some text => quote text

theorem reads_optional (text : Option String) : Reads accepts depth (encodeOptional text) (optional text) := by
  cases text with
  | none => exact reads_null
  | some text => exact reads_quote text

/-! Each field of a record is read from the members that were written. -/

section
variable {members : List (String × Json)} (distinct : (members.map Prod.fst).Nodup)
include distinct

theorem textField_stored (name : String) {value : String} (found : members.lookup name = some (.string value)) :
    textField (stored members) name = some value := textField_eq ((lookup_stored distinct name).trans found)

theorem int64Field_stored (name : String) {value : Int64} (found : members.lookup name = some (integer value.toInt)) :
    int64Field (stored members) name = some value := int64Field_eq ((lookup_stored distinct name).trans found)

theorem optionalField_stored (name : String) {value : Option String} (found : members.lookup name = some (optional value)) :
    optionalField (stored members) name = some value := optionalField_eq ((lookup_stored distinct name).trans found)

theorem arrayField_stored (name : String) {items : List Json} (found : members.lookup name = some (.array items)) :
    arrayField (stored members) name = some items := arrayField_eq ((lookup_stored distinct name).trans found)

end

theorem memberReads {name : String} {bytes : Bytes} {value : Json} (spelt : Reads accepts depth bytes value) :
    MemberReads accepts depth (name, bytes) (name, value) := ⟨rfl, spelt⟩

end Augr.Foundation.Json
