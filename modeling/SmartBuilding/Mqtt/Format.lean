import SmartBuilding.Mqtt.Publish
import SmartBuilding.Mqtt.Response

/-!
# `SmartBuilding.Mqtt.Format`: the formats of the published objects, and their timestamps

A comment above each builder of `mqtt_sample.c` gives the format of its object: the keys, the
meaning of each value, and a timestamp like `2024-03-20T10:30:00`. `Publication.HasFormat` is
this format for the object of a publisher, and `Publication.FollowsFormat` for a text.

The builders make the timestamp in the same way: `strftime` prints the time to the pointer
`timestamp`, with `strlen(timestamp)` as the size. The pointer is null and stays null.
`Publication.textCalls` has the calls of a builder that get a pointer to a text or a buffer.
What `strlen` finds at the null pointer is the text at address 0 (`NullText`).
-/

set_option autoImplicit false

namespace SmartBuilding

open CText

/-! ### The timestamp -/

/-- The parts of `struct tm` that the format of the timestamp prints. `year` is the full
year. -/
structure Tm where
  year : Nat
  mon : Nat
  mday : Nat
  hour : Nat
  min : Nat
  sec : Nat

/-- The time of a clock with a year of four digits. -/
structure Tm.Valid (tm : Tm) : Prop where
  year : 1000 ≤ tm.year ∧ tm.year < 10000
  mon : 1 ≤ tm.mon ∧ tm.mon ≤ 12
  mday : 1 ≤ tm.mday ∧ tm.mday ≤ 31
  hour : tm.hour < 24
  min : tm.min < 60
  sec : tm.sec ≤ 60

/-- A number with at least two digits. -/
def twoDigits (n : Nat) : List UInt8 := if n < 10 then 48 :: decimal n else decimal n

/-- What `strftime` prints with the format `"%Y-%m-%dT%H:%M:%S"`. -/
def stampText (tm : Tm) : List UInt8 :=
  decimal tm.year ++ 45 :: (twoDigits tm.mon ++ 45 :: (twoDigits tm.mday ++ 84 ::
    (twoDigits tm.hour ++ 58 :: (twoDigits tm.min ++ 58 :: twoDigits tm.sec))))

/-- The form of a timestamp. A `d` stands for a digit. -/
def stampForm : List UInt8 := ofText "dddd-dd-ddTdd:dd:dd"

/-- The text has the form of a timestamp. -/
def IsTimestamp (text : List UInt8) : Prop :=
  List.Forall₂ (fun form b => if form = 100 then isDigit b = true else b = form) stampForm text

/-- `strlen`. -/
def strlen [NullText] (s : Option (List UInt8)) : Nat := (s.getD NullText.nullText).length

/-- `strftime`: the text behind the pointer `s` afterwards. A text that does not fit is not
written, and the null pointer stays null. -/
def strftime (s : Option (List UInt8)) (maxsize : Nat) (text : List UInt8) :
    Option (List UInt8) :=
  s.map fun old => if text.length < maxsize then text else old

/-- The pointer `timestamp` of a builder, as it is declared. -/
def timestampInit : Option (List UInt8) := none

/-- The pointer `timestamp` after the call of `strftime` at the time `now`. -/
def timestampAt [NullText] (now : Tm) : Option (List UInt8) :=
  strftime timestampInit (strlen timestampInit) (stampText now)

/-- The name that a call gives its member. -/
def Field.name : Field → String
  | .number name _ => name
  | .bool name _ => name
  | .string name _ => name

/-- The members of a builder whose `timestamp` has the text `stamp`. The call for the
timestamp is the last one of every builder. -/
def Publication.fieldsAt (p : Publication) (stamp : Option (List UInt8)) : List Field :=
  p.fields.dropLast ++ [.string "timestamp" stamp]

/-! ### The formats -/

/-- The keys in the format comment of the builder. -/
def Publication.documentedKeys : Publication → List String
  | .syncRequest => ["type", "timestamp"]
  | .environmentData _ => ["temperature", "humidity", "light", "smoke", "timestamp"]
  | .deviceStatus _ => ["warningLight", "fillLight", "exhaustFan", "alarm", "emergencyDoor",
      "dht11Status", "lightSensorStatus", "timestamp"]
  | .deviceResponse _ => ["commandId", "success", "message", "timestamp"]
  | .thresholdsResponse _ => ["commandId", "success", "message", "timestamp"]
  | .alarmInfo _ _ _ => ["alarmType", "actualValue", "thresholdValue", "timestamp"]

/-- The numeric fields, with the integers that are passed in. -/
def Publication.documentedNumbers : Publication → List (String × Int32)
  | .environmentData enviData => [("temperature", enviData.temp), ("humidity", enviData.humi),
      ("light", enviData.light), ("smoke", enviData.smoke)]
  | .alarmInfo alarmType actual threshold => [("alarmType", Int32.ofNat alarmType.toNat),
      ("actualValue", actual), ("thresholdValue", threshold)]
  | _ => []

/-- The object has the documented format: exactly the documented keys, the numbers that are
passed in, and a timestamp. -/
def Publication.HasFormat (p : Publication) (root : CJson) : Prop :=
  ∃ members, root = .object members ∧
    (members.map Prod.fst).Perm (p.documentedKeys.map ofText) ∧
    (∀ n ∈ p.documentedNumbers, (ofText n.1, CJson.int n.2) ∈ members) ∧
    ∃ stamp, (ofText "timestamp", CJson.string stamp) ∈ members ∧ IsTimestamp stamp

/-- The text parses to an object with the documented format. -/
def Publication.FollowsFormat [CJsonParser] (p : Publication) (text : List UInt8) : Prop :=
  ∃ root, CJsonParser.cJSONParse text = some root ∧ p.HasFormat root

/-! ### The calls with texts -/

/-- A call of a builder that gets a pointer to a text or a buffer. -/
inductive TextCall where
  | strlen (s : Option (List UInt8))
  | strftime (s : Option (List UInt8)) (text : List UInt8)
  | addMember (f : Field)
  | strncpy (dest src : Option (List UInt8))

/-- No pointer of the call is null. -/
def TextCall.NoNull : TextCall → Prop
  | .strlen s => s.isSome = true
  | .strftime s _ => s.isSome = true
  | .addMember (.string _ text) => text.isSome = true
  | .addMember _ => True
  | .strncpy dest src => dest.isSome = true ∧ src.isSome = true

/-- The calls of the builder at the time `now`, in order. -/
def Publication.textCalls [CJsonPrinter] (p : Publication) (now : Tm) (io : PublishIO) :
    List TextCall :=
  let built := p.builder io
  [.strlen timestampInit, .strftime timestampInit (stampText now)] ++
    (if io.createObject then p.fields.map .addMember else []) ++
    (if built.msgStr.isSome then [.strlen built.msgStr] else []) ++
    (if built.outBuff.isSome then
      [.strlen built.msgStr, .strncpy built.outBuff built.msgStr] else [])

/-- What should hold of a builder at the time `now`: it passes no null pointer, and a text that
it builds follows the format. -/
def Publication.BuildsFormat [CJsonPrinter] [CJsonParser] (p : Publication) (now : Tm)
    (io : PublishIO) : Prop :=
  (∀ call ∈ p.textCalls now io, call.NoNull) ∧
    ∀ text, (p.builder io).msgStr = some text → p.FollowsFormat text

end SmartBuilding
