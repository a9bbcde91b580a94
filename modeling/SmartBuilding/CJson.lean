import SmartBuilding.Lib.Binary64
import SmartBuilding.Lib.CText

/-!
# `SmartBuilding.CJson`: the part of cJSON that the message handlers use

A `CJson` is a node of `packages/cJSON-v1.7.17`. A node keeps what its kind stores: the
members of an object in their order with their keys, the items of an array, the
`valuestring` of a string, and the `valueint` and the `valuedouble` of a number. The functions
`valueint`, `isTrue` and `valuestring` read any node as the C code does, whatever its kind.

For the handlers the parser is a parameter (`CJsonParser`): a function from the text to the
tree, and `none` for a null result. `SmartBuilding.CJsonText` has the parser of the package. The
handlers parse the payload up to its first NUL (`parsePayload`), because they end the payload
with a NUL and pass it as a C string.
-/

set_option autoImplicit false

namespace SmartBuilding

open CText Binary64

/-- A cJSON node. -/
inductive CJson where
  | jFalse
  | jTrue
  | jNull
  | number (valueint : Int32) (valuedouble : Double)
  | string (valuestring : List UInt8)
  | array (items : List CJson)
  | object (members : List (List UInt8 × CJson))

namespace CJson

/-- `node->type == cJSON_True`. -/
def isTrue : CJson → Bool
  | .jTrue => true
  | _ => false

/-- `node->type == cJSON_True` or `node->type == cJSON_False`. -/
def isBool : CJson → Bool
  | .jTrue => true
  | .jFalse => true
  | _ => false

/-- `node->valueint`. The parser sets it for a number and for `true`, and a new node has
`0`. -/
def valueint : CJson → Int32
  | .number n _ => n
  | .jTrue => 1
  | _ => 0

/-- `node->valuestring`. It is `none`, the null pointer, for a node that is not a string. -/
def valuestring : CJson → Option (List UInt8)
  | .string s => some s
  | _ => none

/-- The node is a number. -/
def isNumber : CJson → Bool
  | .number _ _ => true
  | _ => false

/-- The node is an object. -/
def isObject : CJson → Bool
  | .object _ => true
  | _ => false

/-- The node that `cJSON_CreateNumber` makes of an `int`. -/
def int (n : Int32) : CJson := .number n (Double.ofInt n.toInt)

@[simp] theorem valueint_int (n : Int32) : (int n).valueint = n := rfl

end CJson

/-! ### Numbers -/

/-- `item->valueint` of a double, with saturation in case of overflow. The conversion of a NaN
is undefined in C, and here it is 0. -/
def valueintOf (number : Double) : Int32 :=
  if (Double.ofInt 2147483647).le number then 2147483647
  else if number.le (Double.ofInt (-2147483648)) then -2147483648
  else Int32.ofInt number.trunc

/-- `cJSON_CreateNumber`. -/
def cJSONCreateNumber (num : Double) : CJson := .number (valueintOf num) num

theorem natAbs_toInt_le (n : Int32) : n.toInt.natAbs ≤ 2 ^ 53 := by
  have hlow := n.le_toInt
  have hhigh := n.toInt_lt
  omega

/-- An `int` is its own value, also at the ends of its range. -/
theorem valueintOf_ofInt (n : Int32) : valueintOf (Double.ofInt n.toInt) = n := by
  have hlow := n.le_toInt
  have hhigh := n.toInt_lt
  have hn := natAbs_toInt_le n
  have hmax : (2147483647 : Int).natAbs ≤ 2 ^ 53 := by decide
  have hmin : (-2147483648 : Int).natAbs ≤ 2 ^ 53 := by decide
  simp only [valueintOf, Double.le_ofInt_iff hmax hn, Double.le_ofInt_iff hn hmin,
    Double.trunc_ofInt hn]
  split
  · rw [← Int32.toInt_inj]
    have hint : (2147483647 : Int32).toInt = 2147483647 := rfl
    omega
  · split
    · rw [← Int32.toInt_inj]
      have hint : (-2147483648 : Int32).toInt = -2147483648 := rfl
      omega
    · exact Int32.ofInt_toInt n

theorem cJSONCreateNumber_ofInt (n : Int32) :
    cJSONCreateNumber (Double.ofInt n.toInt) = .int n := by
  rw [cJSONCreateNumber, valueintOf_ofInt, CJson.int]

/-! ### Objects and payloads -/

/-- `case_insensitive_strcmp` of two C strings: whether they are equal. -/
def caseInsensitiveEq (s t : List UInt8) : Bool := s.map tolower = t.map tolower

/-- `get_object_item` without case sensitivity, over the members of the object. The items
of an array have no key, so no key finds them. -/
def getObjectItem (object : Option CJson) (name : String) : Option CJson :=
  match object with
  | some (.object members) =>
      -- The first match counts, so a repeated key keeps its first value.
      (members.find? fun m => caseInsensitiveEq (ofText name) m.1).map (·.2)
  | _ => none

/-- `cJSON_Parse` as a function of the C string. -/
class CJsonParser where
  cJSONParse : List UInt8 → Option CJson

/-- The tree of a message payload. The handler writes a NUL after the last byte, and the
parser reads up to the first NUL. -/
def parsePayload [CJsonParser] (payload : List UInt8) : Option CJson :=
  CJsonParser.cJSONParse (cString payload)

/-- The parser on the texts of a table. No other text parses. -/
abbrev CJsonParser.table (entries : List (String × CJson)) : CJsonParser where
  cJSONParse s := (entries.find? fun e => s = cString (ofText e.1)).map (·.2)

/-- The first text of a table parses to its tree. -/
theorem parsePayload_table (text : String) (tree : CJson) (entries : List (String × CJson)) :
    @parsePayload (.table ((text, tree) :: entries)) (ofText text) = some tree := by
  show Option.map _ (List.find? _ _) = _
  simp

@[simp] theorem getObjectItem_none (name : String) : getObjectItem none name = none := rfl

end SmartBuilding
