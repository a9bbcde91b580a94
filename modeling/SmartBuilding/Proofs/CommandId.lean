import SmartBuilding.Lib.EventMachine
import SmartBuilding.Proofs.Controller
import SmartBuilding.Proofs.Response

/-!
# `SmartBuilding.Proofs.CommandId`: the ownership of the saved command id

`UUID` is one pointer for both command topics. A message with a `commandId` sets it to a
fresh block. Every response reads and frees the block that it points to, and no code sets it
back to null. So after the first duplicated id the pointer dangles, and a message without an
id reads and frees the same block again.

`Owned` is the law: each duplicated id is freed exactly once and never read after that
(`Ledger.Clean`), and each published response carries the id of its message.
`owned_iff` gives the exact condition on the messages of a run. A message without an id must
find `UUID` null. A message with an id whose response goes out must have a string as its id,
and memory for the duplicate and for the member of the response.
-/

set_option autoImplicit false

namespace SmartBuilding

open CText

/-- The handlers of the two command topics as one machine. A record is a command with the
response that was published for it. -/
def commands [CJsonParser] [TimeoutCalc] [NullText] :
    Machine Mcu Command (Command × CJson) where
  step m c := (handleCommand c m).2
  out m c := ((handleCommand c m).1.map fun reply => (c, reply)).toList

/-- A response carries the command id of its message, and none when the message has none. -/
def Correlated [CJsonParser] (c : Command) (reply : CJson) : Prop :=
  getObjectItem (some reply) "commandId" = c.idNode

/-- Along a run, each duplicated id is freed exactly once and never read after that, and
each published response carries the id of its message. -/
def Owned [CJsonParser] [TimeoutCalc] [NullText] (m : Mcu) (cs : List Command) : Prop :=
  Ledger.Clean (commands.run m cs).ops ∧ ∀ r ∈ commands.log m cs, Correlated r.1 r.2

/-- The condition on one message. -/
def IdServed [CJsonParser] (m : Mcu) (c : Command) : Prop :=
  match c.idNode with
  | none => m.uuid = none
  | some node => c.rio.delivers = true →
      node.valuestring.isSome = true ∧ c.rio.strdup = true ∧ c.rio.addCommandId = true

/-! ### One message -/

/-- A published response carries the id of its message exactly when the message has no id
and `UUID` points to no text, or the id is a string that reached the response. -/
private theorem correlated_iff [CJsonParser] [NullText] (c : Command) (m : Mcu) :
    Correlated c (.object (responseMembers c.topic.message c.rio (saved c m).savedId)) ↔
      match c.idNode with
      | none => c.rio.addCommandId = true → m.savedId = none
      | some node => node.valuestring.isSome = true ∧ c.rio.strdup = true ∧
          c.rio.addCommandId = true := by
  unfold Correlated
  rw [getObjectItem_commandId]
  cases hid : c.idNode with
  | none => cases c.rio.addCommandId <;> simp [saved, hid]
  | some node =>
    cases hdup : c.rio.strdup
    · cases c.rio.addCommandId <;> simp [saved, hid, saveCommandId, hdup, Mcu.savedId]
    · cases c.rio.addCommandId
      · simp
      · cases node <;>
          simp [saved, hid, saveCommandId, hdup, Mcu.savedId, CJson.valuestring]

/-- What holds between two messages: the ledger speaks of the blocks that exist, and `UUID`
is null or points to a block that was freed. -/
structure Mcu.Settled (m : Mcu) : Prop where
  bounded : ∀ op ∈ m.ops, op.resource < m.blocks.length
  freed : ∀ p, m.uuid = some p →
    Ledger.Op.acquire p ∈ m.ops ∧ Ledger.Op.release p ∈ m.ops

/-- A message that adds no block and leaves `UUID` null keeps what holds. -/
theorem Mcu.Settled.of_unchanged {m m' : Mcu} (hm : m.Settled) (hclean : Ledger.Clean m.ops)
    (hstep : m'.ops = m.ops ∧ m'.uuid = none ∧ m'.blocks = m.blocks) :
    m'.Settled ∧ Ledger.Clean m'.ops := by
  obtain ⟨hops, huuid, hblocks⟩ := hstep
  refine ⟨⟨?_, ?_⟩, ?_⟩
  · rw [hops, hblocks]; exact hm.bounded
  · rw [huuid]; simp
  · rw [hops]; exact hclean

section
variable [CJsonParser] [TimeoutCalc] [NullText] (c : Command) (m : Mcu)

/-- A message without an id, with `UUID` null: the ledger stays, and so does the pointer. -/
private theorem step_of_no_id (hid : c.idNode = none) (huuid : m.uuid = none) :
    (handleCommand c m).2.ops = m.ops ∧ (handleCommand c m).2.uuid = none ∧
      (handleCommand c m).2.blocks = m.blocks := by
  rw [handleCommand_eq]
  simp [saved, hid, huuid, uuidOps]

/-- A message without an id, with a dangling `UUID`: the block is freed again. -/
private theorem step_of_dangling (hid : c.idNode = none) {p : Nat} (huuid : m.uuid = some p) :
    (handleCommand c m).2.ops = m.ops ++ uuidOps c.rio (some p) := by
  rw [handleCommand_eq]
  simp [saved, hid, huuid]

/-- A message with an id that `strdup` duplicates: a fresh block is acquired, read and
freed. -/
private theorem step_of_duplicated {node : CJson} (hid : c.idNode = some node)
    (hdup : c.rio.strdup = true) :
    (handleCommand c m).2.ops =
        m.ops ++ (.acquire m.blocks.length :: uuidOps c.rio (some m.blocks.length)) ∧
      (handleCommand c m).2.uuid = some m.blocks.length ∧
      (handleCommand c m).2.blocks =
        m.blocks ++ [node.valuestring.getD NullText.nullText] := by
  rw [handleCommand_eq]
  simp [saved, hid, saveCommandId, hdup]

/-- A message with an id that `strdup` has no memory for: `UUID` becomes null. -/
private theorem step_of_not_duplicated {node : CJson} (hid : c.idNode = some node)
    (hdup : c.rio.strdup = false) :
    (handleCommand c m).2.ops = m.ops ∧ (handleCommand c m).2.uuid = none ∧
      (handleCommand c m).2.blocks = m.blocks := by
  rw [handleCommand_eq]
  simp [saved, hid, saveCommandId, hdup, uuidOps]

/-- The ledger of a run extends the ledger at its start. -/
private theorem ops_extends (cs : List Command) (m : Mcu) :
    ∃ t, (commands.run m cs).ops = m.ops ++ t := by
  induction cs generalizing m with
  | nil => exact ⟨[], by simp⟩
  | cons c cs ih =>
    obtain ⟨t, ht⟩ := ih (handleCommand c m).2
    refine ⟨(match c.idNode with
      | none => []
      | some _ => if c.rio.strdup then [.acquire m.blocks.length] else []) ++
      uuidOps c.rio (saved c m).uuid ++ t, ?_⟩
    show (commands.run (handleCommand c m).2 cs).ops = _
    rw [ht, handleCommand_eq]
    cases hid : c.idNode with
    | none => simp [saved, hid]
    | some node =>
      cases hdup : c.rio.strdup <;> simp [saved, hid, saveCommandId, hdup, uuidOps]

/-- The published response of a message. -/
private theorem mem_out {r : Command × CJson} :
    r ∈ commands.out m c ↔ c.rio.delivers = true ∧
      r = (c, .object (responseMembers c.topic.message c.rio (saved c m).savedId)) := by
  show r ∈ ((handleCommand c m).1.map fun reply => (c, reply)).toList ↔ _
  rw [handleCommand_eq]
  cases c.rio.delivers <;> simp

/-- A message that meets the condition keeps the ledger clean and the state settled, and its
response carries its id. -/
private theorem step_of_served (hm : m.Settled) (hclean : Ledger.Clean m.ops)
    (h : IdServed m c) :
    (handleCommand c m).2.Settled ∧ Ledger.Clean (handleCommand c m).2.ops ∧
      ∀ r ∈ commands.out m c, Correlated r.1 r.2 := by
  have hreply : ∀ r ∈ commands.out m c, Correlated r.1 r.2 := by
    intro r hr
    obtain ⟨hdelivers, rfl⟩ := (mem_out c m).mp hr
    rw [correlated_iff]
    unfold IdServed at h
    cases hid : c.idNode with
    | none =>
      rw [hid] at h
      intro _
      have huuid : m.uuid = none := h
      simp [Mcu.savedId, huuid]
    | some node =>
      rw [hid] at h
      exact h hdelivers
  unfold IdServed at h
  cases hid : c.idNode with
  | none =>
    rw [hid] at h
    obtain ⟨hsettled, hclean'⟩ := hm.of_unchanged hclean (step_of_no_id c m hid h)
    exact ⟨hsettled, hclean', hreply⟩
  | some node =>
    cases hdup : c.rio.strdup with
    | false =>
      obtain ⟨hsettled, hclean'⟩ :=
        hm.of_unchanged hclean (step_of_not_duplicated c m hid hdup)
      exact ⟨hsettled, hclean', hreply⟩
    | true =>
      obtain ⟨hops, huuid, hblocks⟩ := step_of_duplicated c m hid hdup
      -- All entries of this message are about the fresh block.
      have hentries : ∀ op ∈ Ledger.Op.acquire m.blocks.length ::
          uuidOps c.rio (some m.blocks.length), op.resource = m.blocks.length := by
        intro op hop
        cases hcreate : c.rio.createObject <;>
          simp only [uuidOps, hcreate, Bool.false_eq_true, if_false, if_true, List.nil_append,
            List.cons_append, List.mem_cons, List.not_mem_nil, or_false] at hop
        · obtain rfl | rfl := hop <;> rfl
        · obtain rfl | rfl | rfl := hop <;> rfl
      refine ⟨⟨?_, ?_⟩, ?_, hreply⟩
      · intro op hop
        rw [hops, List.mem_append] at hop
        rw [hblocks, List.length_append, List.length_singleton]
        rcases hop with hop | hop
        · exact Nat.lt_succ_of_lt (hm.bounded op hop)
        · rw [hentries op hop]
          exact Nat.lt_succ_self _
      · intro p hp
        rw [huuid] at hp
        cases hp
        rw [hops]
        simp [uuidOps]
      · rw [hops]
        -- Older entries are about older blocks, so the two ledgers do not meet.
        refine hclean.append (Ledger.clean_single m.blocks.length c.rio.createObject) ?_
        intro a ha b hb
        rw [hentries b hb]
        exact Nat.ne_of_lt (hm.bounded a ha)

/-- A message without an id that finds a dangling `UUID` breaks the ownership law for the
rest of the run. -/
private theorem not_clean_of_dangling (hm : m.Settled) (hid : c.idNode = none) {p : Nat}
    (huuid : m.uuid = some p) (cs : List Command) :
    ¬ Ledger.Clean (commands.run (handleCommand c m).2 cs).ops := by
  obtain ⟨t, ht⟩ := ops_extends cs (handleCommand c m).2
  obtain ⟨hacquire, hrelease⟩ := hm.freed p huuid
  rw [ht, step_of_dangling c m hid huuid]
  refine Ledger.not_clean_of_released_twice (List.mem_append_left _ hacquire) ?_ t
  -- One release is in the ledger already, and this message adds another one.
  have hbefore : 1 ≤ m.ops.count (.release p) := List.one_le_count_iff.mpr hrelease
  have hagain : 1 ≤ (uuidOps c.rio (some p)).count (.release p) :=
    List.one_le_count_iff.mpr (by simp [uuidOps])
  rw [List.count_append]
  omega

end

/-! ### Runs -/

/-- From a settled board, the law holds along a run exactly when every message of the run
meets the condition. -/
theorem owned_iff_of_settled [CJsonParser] [TimeoutCalc] [NullText] (cs : List Command) :
    ∀ m : Mcu, m.Settled → Ledger.Clean m.ops →
      (Owned m cs ↔ commands.Along IdServed m cs) := by
  induction cs with
  | nil =>
    intro m _ hclean
    simp [Owned, hclean]
  | cons c cs ih =>
    intro m hm hclean
    have hlog : ∀ r, r ∈ commands.log m (c :: cs) ↔
        r ∈ commands.out m c ∨ r ∈ commands.log (handleCommand c m).2 cs := by
      intro r
      exact List.mem_append
    rw [Machine.along_cons]
    constructor
    · rintro ⟨hend, hreplies⟩
      have hserved : IdServed m c := by
        unfold IdServed
        cases hid : c.idNode with
        | none =>
          cases huuid : m.uuid with
          | none => rfl
          | some p => exact absurd hend (not_clean_of_dangling c m hm hid huuid cs)
        | some node =>
          intro hdelivers
          have hcorrelated := hreplies _
            ((hlog _).mpr (.inl ((mem_out c m).mpr ⟨hdelivers, rfl⟩)))
          rw [correlated_iff, hid] at hcorrelated
          exact hcorrelated
      obtain ⟨hsettled, hstep, -⟩ := step_of_served c m hm hclean hserved
      refine ⟨hserved, (ih _ hsettled hstep).mp ⟨hend, ?_⟩⟩
      intro r hr
      exact hreplies r ((hlog r).mpr (.inr hr))
    · rintro ⟨hserved, hrest⟩
      obtain ⟨hsettled, hstep, hreply⟩ := step_of_served c m hm hclean hserved
      obtain ⟨hend, hreplies⟩ := (ih _ hsettled hstep).mpr hrest
      refine ⟨hend, ?_⟩
      intro r hr
      rcases (hlog r).mp hr with hr | hr
      · exact hreply r hr
      · exact hreplies r hr

/-- From the start of the client, the law holds along a run exactly when every message of the
run meets the condition. -/
theorem owned_iff [CJsonParser] [TimeoutCalc] [NullText] (w : World) (cs : List Command) :
    Owned (.start w) cs ↔ commands.Along IdServed (.start w) cs :=
  owned_iff_of_settled cs (.start w) ⟨by simp [Mcu.start], by simp [Mcu.start]⟩
    (by simp [Mcu.start])

/-- A message with an id, and then one without: the id is freed twice. -/
theorem owned_twice_freed :
    ¬ @Owned (.table [("\x7b\"commandId\":\"a\"\x7d",
        .object [(ofText "commandId", .string (ofText "a"))]), ("\x7b\x7d", .object [])])
      .board ⟨[]⟩ (.start (boot ⟨.low, .low, .low, .low⟩))
      [⟨.deviceControl, ofText "\x7b\"commandId\":\"a\"\x7d", .ok, .ok⟩,
        ⟨.thresholdSet, ofText "\x7b\x7d", .ok, .ok⟩] := by
  rintro ⟨hclean, -⟩
  have honce := (hclean 0 (by decide)).once
  revert honce
  decide

end SmartBuilding
