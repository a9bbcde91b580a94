import SmartBuilding.Telemetry
import SmartBuilding.Proofs.File

/-!
# `SmartBuilding.Proofs.Telemetry`: which texts fit their arrays

The width of a printed reading decides. A `uint8_t` takes one to three characters, and an
`rt_uint32_t` printed with `%d` up to eleven, with a sign from `2 ^ 31` on.

The three arrays of the display hold the longest text. The array of `my_send_DHT11data` has
15 bytes, and the text without the two numbers takes 15 bytes already, so no reading fits.
The array of `my_send_Lightdata` holds six characters of the number
(`telemetry_fits_iff`).
-/

set_option autoImplicit false

namespace SmartBuilding

open CText

/-- The condition on a call: it is not a call of `my_send_DHT11data`, and a value that
`my_send_Lightdata` prints as an `int` is between -99999 and 999999. -/
def Telemetry.NarrowValue : Telemetry → Prop
  | .mySendDHT11data _ _ => False
  | .mySendLightdata value => -99999 ≤ value.toInt32.toInt ∧ value.toInt32.toInt ≤ 999999
  | _ => True

/-! ### The lengths of the texts -/

/-- The longer of the two texts of a DHT11 reading. -/
theorem length_dht11Text (temp humi : UInt8) :
    (dht11Text temp humi ++ ofText "%\n").length = 14 + width temp + width humi := by
  have h1 : (ofText "temp:").length = 5 := by decide
  have h2 : (ofText "C humi:").length = 7 := by decide
  have h3 : (ofText "%\n").length = 2 := by decide
  simp only [dht11Text, width, List.length_append, h1, h2, h3]
  omega

theorem length_lightText (value : UInt32) :
    (lightText value).length = 8 + (decimalInt value.toInt32).length := by
  have h1 : (ofText "light:").length = 6 := by decide
  have h2 : (ofText "L\n").length = 2 := by decide
  simp only [lightText, List.length_append, h1, h2]
  omega

theorem length_mq2Text (value : UInt32) :
    (mq2Text value).length = 8 + (decimalInt value.toInt32).length := by
  have h1 : (ofText "mq2:").length = 4 := by decide
  have h2 : (ofText "ppm\n").length = 4 := by decide
  simp only [mq2Text, List.length_append, h1, h2]
  omega

/-! ### The five functions -/

/-- The two texts of a DHT11 reading fit exactly when the longer one does. -/
theorem dht11Texts_fit_iff (temp humi : UInt8) (size : Nat) :
    (∀ text ∈ dht11Texts temp humi, text.length + 1 ≤ size) ↔
      15 + width temp + width humi ≤ size := by
  have hlong := length_dht11Text temp humi
  simp only [dht11Texts, List.forall_mem_cons, List.not_mem_nil, false_imp_iff, implies_true,
    and_true, hlong]
  rw [List.length_append] at hlong
  omega

/-- The texts of a call fit its array exactly when the value is narrow enough. -/
theorem telemetry_fits_iff (t : Telemetry) : t.TextFits ↔ t.NarrowValue := by
  cases t with
  | mySendDHT11data data1 data2 =>
    have hfits := dht11Texts_fit_iff data1 data2 15
    have hpos := width_pos data1
    show (∀ text ∈ dht11Texts data1 data2, text.length + 1 ≤ 15) ↔ False
    rw [hfits, iff_false]
    omega
  | mySendLightdata value =>
    have hlength := length_lightText value
    have hwidth := length_decimalInt_le_iff (n := value.toInt32) (show 0 < 5 by decide)
    show (∀ text ∈ [lightText value], text.length + 1 ≤ 15) ↔
      -99999 ≤ value.toInt32.toInt ∧ value.toInt32.toInt ≤ 999999
    rw [List.forall_mem_singleton, hlength]
    omega
  | myOledPrintDht temp humi =>
    have hfits := dht11Texts_fit_iff temp humi 25
    have htemp := width_le temp
    have hhumi := width_le humi
    show (∀ text ∈ dht11Texts temp humi, text.length + 1 ≤ 25) ↔ True
    rw [hfits, iff_true]
    omega
  | myOledPrintLight value =>
    have hlength := length_lightText value
    have hwidth := length_decimalInt_le value.toInt32
    show (∀ text ∈ [lightText value], text.length + 1 ≤ 50) ↔ True
    rw [List.forall_mem_singleton, hlength, iff_true]
    omega
  | myOledPrintMq2 value =>
    have hlength := length_mq2Text value
    have hwidth := length_decimalInt_le value.toInt32
    show (∀ text ∈ [mq2Text value], text.length + 1 ≤ 25) ↔ True
    rw [List.forall_mem_singleton, hlength, iff_true]
    omega

/-- A reading of one digit each is too long for `my_send_DHT11data`. -/
theorem telemetry_overruns : ¬ ∀ t : Telemetry, t.TextFits := by
  intro h
  have hfits := h (.mySendDHT11data 5 5)
  revert hfits
  decide

end SmartBuilding
