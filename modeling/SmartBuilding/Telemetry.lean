import SmartBuilding.Lib.CText

/-!
# `SmartBuilding.Telemetry`: the texts for the TCP console and for the display

Five functions of the firmware format a reading into an array on their stack:
`my_send_DHT11data` and `my_send_Lightdata` of `applications/src/my_TCP.c`, which send the
text, and `my_oled_print_dht`, `my_oled_print_light` and `my_oled_print_mq2` of
`applications/src/my_oled.c`, which draw it. Here is what each of them writes with `sprintf`
into its array, call by call.

A reading of type `uint8_t` is promoted to a nonnegative `int`. A reading of type
`rt_uint32_t` is printed with `%d`, so it is printed as an `int`.

The second call of `sprintf` for a DHT11 reading has its own array as an argument of `%s`. It
is taken as what it is meant to be, an append.
-/

set_option autoImplicit false

namespace SmartBuilding

open CText

/-- A call of one of the five functions. -/
inductive Telemetry where
  | mySendDHT11data (data1 data2 : UInt8)
  | mySendLightdata (value : UInt32)
  | myOledPrintDht (temp humi : UInt8)
  | myOledPrintLight (value : UInt32)
  | myOledPrintMq2 (value : UInt32)
  deriving DecidableEq, Repr

/-- The format `"temp:%dC humi:%d"`. -/
def dht11Text (temp humi : UInt8) : List UInt8 :=
  ofText "temp:" ++ decimal temp.toNat ++ ofText "C humi:" ++ decimal humi.toNat

/-- The format `"light:%dL\n"`. -/
def lightText (value : UInt32) : List UInt8 :=
  ofText "light:" ++ decimalInt value.toInt32 ++ ofText "L\n"

/-- The format `"mq2:%dppm\n"`. -/
def mq2Text (value : UInt32) : List UInt8 :=
  ofText "mq2:" ++ decimalInt value.toInt32 ++ ofText "ppm\n"

/-- The two calls of `sprintf` for a DHT11 reading: the text, and the same text with the
suffix. -/
def dht11Texts (temp humi : UInt8) : List (List UInt8) :=
  [dht11Text temp humi, dht11Text temp humi ++ ofText "%\n"]

namespace Telemetry

/-- The size of the array `send_data` or `str_data`. -/
def arraySize : Telemetry → Nat
  | .mySendDHT11data _ _ => 15
  | .mySendLightdata _ => 15
  | .myOledPrintDht _ _ => 25
  | .myOledPrintLight _ => 50
  | .myOledPrintMq2 _ => 25

/-- The texts that the calls of `sprintf` write to the array, in order. -/
def texts : Telemetry → List (List UInt8)
  | .mySendDHT11data data1 data2 => dht11Texts data1 data2
  | .mySendLightdata value => [lightText value]
  | .myOledPrintDht temp humi => dht11Texts temp humi
  | .myOledPrintLight value => [lightText value]
  | .myOledPrintMq2 value => [mq2Text value]

/-- Every text fits into the array, together with its terminating NUL. -/
def TextFits (t : Telemetry) : Prop := ∀ text ∈ t.texts, text.length + 1 ≤ t.arraySize

instance (t : Telemetry) : Decidable t.TextFits := inferInstanceAs (Decidable (∀ _ ∈ _, _))

end Telemetry

end SmartBuilding
