import SmartBuilding.Tcp

/-!
# `SmartBuilding.Proofs.Splitter`: the command splitter of the TCP console

The last branch of `my_tcp_control` copies a packet and splits it at the colons. It looks at
no length on the way: a packet can be longer than the copy, it can have more tokens than
`strtok_str` has slots, and the token that a command reads can be missing.
`split_safe_iff` gives the packets that it handles without such an access, in terms of the
pieces of the packet between colons.

`setCommand_isSome_iff` says that `setCommand` models exactly these packets.
-/

set_option autoImplicit false

namespace SmartBuilding

open CText

/-- Every access of the last branch is in bounds. -/
def SplitSafe (recvData : List UInt8) : Prop :=
  ∀ access ∈ splitAccesses recvData, access.InBounds

/-- The text fits the copy with its NUL, it has one to four nonempty pieces between colons,
and a piece comes after the name of a command that sets a limit. -/
structure SplitsWell (recvData : List UInt8) : Prop where
  fits : recvData.length < tempRecvCommSize
  some_piece : pieces 58 recvData ≠ []
  few_pieces : (pieces 58 recvData).length < strtokStrSize
  value : (pieces 58 recvData).head? = some (ofText "Set templimit") ∨
      (pieces 58 recvData).head? = some (ofText "Set lightlimit") →
    2 ≤ (pieces 58 recvData).length

section
variable {recvData : List UInt8} (hs : ∀ b ∈ recvData, b ≠ 0)

include hs in
theorem strtokStores_eq :
    strtokStores recvData =
      ((pieces 58 recvData).map some ++ [none]).zipIdx.map
        fun (token, index) => (token, index % 256) := by
  rw [strtokStores, ← strtok_pieces 58 hs, List.map_map]
  rfl

include hs in
/-- With at most four tokens, a slot holds its token, and the slot after them is null. -/
theorem strtokSlot_eq (hfew : (pieces 58 recvData).length < strtokStrSize) {index : Nat}
    (hindex : index ≤ 1) :
    strtokSlot recvData index = (pieces 58 recvData)[index]? := by
  rw [strtokSlot, strtokStores_eq hs]
  generalize pieces 58 recvData = ps at hfew
  -- No index wraps around, so the stores go to different slots.
  obtain rfl | rfl : index = 0 ∨ index = 1 := by omega
  all_goals
    rcases ps with _ | ⟨a, _ | ⟨b, _ | ⟨c, _ | ⟨d, _ | ⟨e, ps⟩⟩⟩⟩⟩
    all_goals first
      | rfl
      | simp only [List.length_cons, strtokStrSize] at hfew; omega

include hs in
/-- The stores stay inside `strtok_str` exactly when there are at most four tokens. -/
theorem slots_inBounds_iff :
    (∀ store ∈ strtokStores recvData, store.2 < strtokStrSize) ↔
      (pieces 58 recvData).length < strtokStrSize := by
  rw [strtokStores_eq hs]
  simp only [strtokStrSize]
  constructor
  · intro h
    by_contra hmany
    -- With five tokens or more, the store after the first five goes to the slot 5.
    have hlength : 5 < ((pieces 58 recvData).map some ++ [none]).length := by simp; omega
    have hstore := h (((pieces 58 recvData).map some ++ [none])[5], 5 % 256)
      (List.mem_map.mpr ⟨(_, 5), List.mk_mem_zipIdx_iff_getElem?.mpr
        (List.getElem?_eq_getElem hlength), rfl⟩)
    have hslot : 5 % 256 < 5 := hstore
    exact absurd hslot (by decide)
  · intro hfew store hstore
    obtain ⟨⟨token, index⟩, hmem, rfl⟩ := List.mem_map.mp hstore
    have hindex : index < ((pieces 58 recvData).map some ++ [none]).length := by
      have := List.mk_mem_zipIdx_iff_getElem?.mp hmem
      exact (List.getElem?_eq_some_iff.mp this).1
    simp only [List.length_append, List.length_map, List.length_singleton] at hindex
    show index % 256 < 5
    omega

include hs in
/-- With at most four tokens, every pointer that is read is a token exactly when there is a
token, and a second one where a command reads it. -/
theorem reads_inBounds_iff (hfew : (pieces 58 recvData).length < strtokStrSize) :
    (∀ token ∈ strtokReads recvData, token.isSome = true) ↔
      pieces 58 recvData ≠ [] ∧
        ((pieces 58 recvData).head? = some (ofText "Set templimit") ∨
          (pieces 58 recvData).head? = some (ofText "Set lightlimit") →
        2 ≤ (pieces 58 recvData).length) := by
  rw [strtokReads, strtokSlot_eq hs hfew (Nat.zero_le 1), strtokSlot_eq hs hfew (Nat.le_refl 1)]
  generalize pieces 58 recvData = ps
  cases ps with
  | nil => simp
  | cons a ps =>
    by_cases htemp : a = ofText "Set templimit"
    · cases ps <;> simp [htemp]
    · by_cases hlight : a = ofText "Set lightlimit"
      · subst hlight
        cases ps <;> simp [htemp]
      · simp [htemp, hlight]

include hs in
/-- The accesses to a text without a NUL are safe exactly when it splits well. -/
theorem splitSafe_iff_splitsWell : SplitSafe recvData ↔ SplitsWell recvData := by
  have hcopy : (∀ index ∈ List.range (recvData.length + 1), index < tempRecvCommSize) ↔
      recvData.length < tempRecvCommSize := by
    simp only [List.mem_range]
    exact ⟨fun h => h _ (Nat.lt_succ_self _), fun h index hindex => by omega⟩
  have hsplit : SplitSafe recvData ↔
      (∀ index ∈ List.range (recvData.length + 1), index < tempRecvCommSize) ∧
      (∀ store ∈ strtokStores recvData, store.2 < strtokStrSize) ∧
      (∀ token ∈ strtokReads recvData, token.isSome = true) := by
    simp only [SplitSafe, splitAccesses, List.forall_mem_append, List.forall_mem_map,
      SplitAccess.InBounds, and_assoc]
  rw [hsplit, hcopy, slots_inBounds_iff hs]
  constructor
  · rintro ⟨hfits, hfew, hreads⟩
    obtain ⟨hsome, hvalue⟩ := (reads_inBounds_iff hs hfew).mp hreads
    exact ⟨hfits, hsome, hfew, hvalue⟩
  · rintro ⟨hfits, hsome, hfew, hvalue⟩
    exact ⟨hfits, hfew, (reads_inBounds_iff hs hfew).mpr ⟨hsome, hvalue⟩⟩

end

/-- The last branch handles a packet without leaving its arrays and without a null pointer
exactly when the text of the packet splits well. -/
theorem split_safe_iff (packet : List UInt8) :
    SplitSafe (cString packet) ↔ SplitsWell (cString packet) :=
  splitSafe_iff_splitsWell fun _ hb => ne_zero_of_mem_cString hb

/-- `setCommand` has a result for the texts that split well, and for no other. -/
theorem setCommand_isSome_iff {recvData : List UInt8} (hs : ∀ b ∈ recvData, b ≠ 0) (w : World) :
    (setCommand recvData w).isSome = true ↔ SplitsWell recvData := by
  have hsplit : splitCommand recvData =
      if recvData.length + 1 ≤ tempRecvCommSize then
        if (pieces 58 recvData).length + 1 ≤ strtokStrSize then some (pieces 58 recvData)
        else none
      else none := by
    simp only [splitCommand, strtok_pieces 58 hs]
  have hwell : SplitsWell recvData ↔ recvData.length + 1 ≤ tempRecvCommSize ∧
      (pieces 58 recvData).length + 1 ≤ strtokStrSize ∧ pieces 58 recvData ≠ [] ∧
      ((pieces 58 recvData).head? = some (ofText "Set templimit") ∨
          (pieces 58 recvData).head? = some (ofText "Set lightlimit") →
        2 ≤ (pieces 58 recvData).length) :=
    ⟨fun h => ⟨h.fits, h.few_pieces, h.some_piece, h.value⟩,
      fun ⟨hfits, hfew, hsome, hvalue⟩ => ⟨hfits, hsome, hfew, hvalue⟩⟩
  rw [hwell, setCommand, hsplit]
  by_cases hfits : recvData.length + 1 ≤ tempRecvCommSize
  · by_cases hfew : (pieces 58 recvData).length + 1 ≤ strtokStrSize
    · -- The tokens fit, so what is left is whether the command finds the tokens it reads.
      rw [if_pos hfits, if_pos hfew]
      simp only [hfits, hfew, true_and]
      generalize pieces 58 recvData = ps
      cases ps with
      | nil => simp
      | cons a ps =>
        by_cases htemp : a = ofText "Set templimit"
        · cases ps <;> simp [htemp]
        · by_cases hlight : a = ofText "Set lightlimit"
          · subst hlight
            cases ps <;> simp [htemp]
          · simp [htemp, hlight]
    · simp [hfits, hfew]
  · simp [hfits]

/-! ### Packets that go wrong -/

/-- A packet that `recv` can deliver: at least one byte, and room for the final NUL. -/
def Deliverable (packet : List UInt8) : Prop := 1 ≤ packet.length ∧ packet.length ≤ bufsz - 1

/-- The commands of `my_tcp_control` that do not reach the last branch. -/
def FixedCommand (recvData : List UInt8) : Prop :=
  recvData.head? = some 113 ∨ recvData.head? = some 81 ∨
  recvData = ofText "LED0 ON" ∨ recvData = ofText "LED0 OFF" ∨
  recvData = ofText "LED1 ON" ∨ recvData = ofText "LED1 OFF" ∨
  recvData = ofText "DHT11data Load" ∨ recvData = ofText "Lightdata Load" ∨
  recvData = ofText "DHT11 file position reset" ∨ recvData = ofText "Light file position reset"

/-- A colon alone has no token, and `strcmp` reads a null pointer. -/
theorem split_not_safe :
    ¬ ∀ packet, Deliverable packet → ¬ FixedCommand (cString packet) →
      SplitSafe (cString packet) := by
  intro h
  have hcolon := h (ofText ":") (by unfold Deliverable; decide) (by unfold FixedCommand; decide)
  have hs : ∀ b ∈ cString (ofText ":"), b ≠ 0 := fun _ hb => ne_zero_of_mem_cString hb
  exact ((splitSafe_iff_splitsWell hs).mp hcolon).some_piece (by decide)

end SmartBuilding
