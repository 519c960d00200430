import GokeWebcam.Common.Misc
import GokeWebcam.Lib.ByteMemory

/-!
# JSON values

`common/cJSON`: the tree that `cJSON_Parse` builds and `cJSON_Print` prints. A number is kept as its
`valueint`, the only member of a number that the program reads; a key is compared without regard to
case.

* `getObjectItem_map`: in an object built from a list whose names differ, also without regard to case,
  the item found under a name is its own.
-/

namespace GokeWebcam.Common

open Lib

/-- Source: `common/cJSON/cJSON.h` `cJSON` -/
inductive CJson
  | null
  | bool (value : Bool)
  | number (valueint : CInt)
  | string (valuestring : CStr)
  | array (child : List CJson)
  | object (child : List (List Char × CJson))

namespace CJson

/-- Zero in an item that is no number, except `true`.
Source: `common/cJSON/cJSON.c` `parse_value` -/
def valueint : CJson → CInt
  | .number n => n
  | .bool true => 1#32
  | _ => 0#32

/-- The null pointer in an item that is no string.
Source: `common/cJSON/cJSON.c` `parse_value` -/
def valuestring : CJson → Option CStr
  | .string s => some s
  | _ => none

/-- Source: `common/cJSON/cJSON.c` `cJSON_IsNumber` -/
def isNumber : CJson → Bool
  | .number _ => true
  | _ => false

/-- Source: `common/cJSON/cJSON.c` `cJSON_IsString` -/
def isString : CJson → Bool
  | .string _ => true
  | _ => false

/-- Source: `common/cJSON/cJSON.c` `case_insensitive_strcmp` -/
def sameName (s t : List Char) : Bool := s.map Char.toLower = t.map Char.toLower

/-- The first item whose name is `name` in any case; the items of an array have no name.
Source: `common/cJSON/cJSON.c` `get_object_item` -/
def getObjectItem (name : List Char) : CJson → Option CJson
  | .object child => (child.find? fun item => sameName name item.1).map (·.2)
  | _ => none

/-- The items by their names, exactly. -/
def stored (name : List Char) (child : List (List Char × CJson)) : Option CJson :=
  (child.find? fun item => name = item.1).map (·.2)

/-- The names of an object. -/
def keys (child : List (List Char × CJson)) : List (List Char) := child.map (·.1)

variable {name : List Char} {child : List (List Char × CJson)}

theorem sameName_refl : sameName name name = true := decide_eq_true rfl

theorem stored_isSome_iff : (stored name child).isSome ↔ name ∈ keys child := by
  rw [stored, Option.isSome_map, List.find?_isSome, keys, List.mem_map]
  constructor
  · rintro ⟨item, hitem, hname⟩
    exact ⟨item, hitem, (of_decide_eq_true hname).symm⟩
  · rintro ⟨item, hitem, rfl⟩
    exact ⟨item, hitem, decide_eq_true rfl⟩

/-- In an object made of the entries of a list, whose names differ in any case, every entry is
found. -/
theorem getObjectItem_map {α : Type} {es : List α} {nameOf : α → List Char} {value : α → CJson}
    (hnames : (es.map fun e => (nameOf e).map Char.toLower).Nodup) {e : α} (he : e ∈ es) :
    getObjectItem (nameOf e) (.object (es.map fun e => (nameOf e, value e))) = some (value e) := by
  rw [getObjectItem, List.find?_map, Option.map_map]
  have hfind : es.find? (fun f => sameName (nameOf e) (nameOf f)) = some e := by
    induction es with
    | nil => cases he
    | cons f es ih =>
        rw [List.map_cons, List.nodup_cons] at hnames
        rcases List.mem_cons.mp he with rfl | he
        · exact List.find?_cons_of_pos sameName_refl
        · rw [List.find?_cons_of_neg, ih hnames.2 he]
          rw [sameName, decide_eq_true_eq]
          intro hsame
          refine hnames.1 ?_
          rw [← hsame]
          exact List.mem_map_of_mem he
  rw [show ((fun item : List Char × CJson => sameName (nameOf e) item.1) ∘
    fun e => (nameOf e, value e)) = fun f => sameName (nameOf e) (nameOf f) from rfl, hfind]
  rfl

end CJson

end GokeWebcam.Common
