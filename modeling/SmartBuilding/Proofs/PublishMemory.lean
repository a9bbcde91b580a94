import SmartBuilding.Mqtt.PublishMemory
import SmartBuilding.Proofs.Publish

/-!
# `SmartBuilding.Proofs.PublishMemory`: what a publisher frees

cJSON frees what it made, on all of its exits: a node that could not be attached is deleted
at once, and deleting the root deletes every member (`members_clean`). The builders free the
object and the print at their label `__exit`. But without memory for the buffer they return
before the label. So a publisher frees everything exactly when it does not get that far, or
gets the buffer (`publisher_frees_all_iff`).

`publish_ops_eq` connects the ledger with the coarser one of `Publication.publish`.
-/

set_option autoImplicit false

namespace SmartBuilding

open CText Ledger

/-! ### Members -/

/-- The number of the member of a block. -/
def HeapBlock.member? : HeapBlock → Option Nat
  | .item i => some i
  | .valuestring i => some i
  | .key i => some i
  | _ => none

/-- The ledger acquires blocks of the member `i`, and then frees each of them once. -/
def FreesMember (i : Nat) (ops : List (Op HeapBlock)) : Prop :=
  ∃ got freed : List HeapBlock, ops = got.map .acquire ++ freed.map .release ∧
    got ⊆ freed ∧ freed.Nodup ∧ ∀ b ∈ freed, b.member? = some i

theorem FreesMember.clean {i : Nat} {ops : List (Op HeapBlock)} (h : FreesMember i ops) :
    Clean ops := by
  obtain ⟨got, freed, rfl, hsub, hnodup, -⟩ := h
  refine clean_release_all ?_ hnodup ?_
  · intro r hr
    simp at hr
  · intro r hr
    exact hsub (by simpa using hr)

theorem FreesMember.member? {i : Nat} {ops : List (Op HeapBlock)} (h : FreesMember i ops) :
    ∀ op ∈ ops, op.resource.member? = some i := by
  obtain ⟨got, freed, rfl, hsub, -, hmember⟩ := h
  intro op hop
  rw [List.mem_append, List.mem_map, List.mem_map] at hop
  rcases hop with ⟨b, hb, rfl⟩ | ⟨b, hb, rfl⟩
  · exact hmember b (hsub hb)
  · exact hmember b hb

/-- Whatever memory a member gets, its blocks are freed. -/
theorem freesMember (i : Nat) (f : Field) (io : MemberIO) :
    FreesMember i ((addItem i f io).2 ++ deleteMember i f io) := by
  have hnone : FreesMember i [] := ⟨[], [], rfl, by simp, by simp, by simp⟩
  have hitem : FreesMember i [.acquire (.item i), .release (.item i)] :=
    ⟨[.item i], [.item i], rfl, by simp, by simp, by simp [HeapBlock.member?]⟩
  have hkeyed : FreesMember i [.acquire (.item i), .acquire (.key i), .release (.key i),
      .release (.item i)] :=
    ⟨[.item i, .key i], [.key i, .item i], rfl, by simp, by simp, by simp [HeapBlock.member?]⟩
  -- The ledger of a member without a string, for the answers about its node and its key.
  have hplain : ∀ f' : Field, (∀ io, createItem i f' io =
      if io.item then (true, [.acquire (.item i)]) else (false, [])) →
      (∀ keyed, deleteItem i f' keyed =
        (if keyed then [.release (.key i)] else []) ++ [.release (.item i)]) →
      FreesMember i ((addItem i f' io).2 ++ deleteMember i f' io) := by
    intro f' hcreate hdelete
    simp only [addItem, deleteMember, hcreate, hdelete]
    cases io.item <;> cases io.key
    · exact hnone
    · exact hnone
    · exact hitem
    · exact hkeyed
  cases f with
  | number name value =>
    exact hplain _ (fun io => by cases hi : io.item <;> simp [createItem, hi]) fun _ => rfl
  | bool name value =>
    exact hplain _ (fun io => by cases hi : io.item <;> simp [createItem, hi]) fun _ => rfl
  | string name text =>
    cases text with
    | none =>
      cases hi : io.item
      · simpa [addItem, deleteMember, createItem, hi] using hnone
      · simpa [addItem, deleteMember, createItem, hi] using hitem
    | some text =>
      cases hi : io.item
      · simpa [addItem, deleteMember, createItem, hi] using hnone
      · cases hv : io.valuestring
        · simpa [addItem, deleteMember, createItem, hi, hv] using hitem
        · cases hk : io.key
          · have hlist : FreesMember i [.acquire (.item i), .acquire (.valuestring i),
                .release (.valuestring i), .release (.item i)] :=
              ⟨[.item i, .valuestring i], [.valuestring i, .item i], rfl, by simp, by simp,
                by simp [HeapBlock.member?]⟩
            simpa [addItem, deleteMember, createItem, deleteItem, hi, hv, hk] using hlist
          · have hlist : FreesMember i [.acquire (.item i), .acquire (.valuestring i),
                .acquire (.key i), .release (.valuestring i), .release (.key i),
                .release (.item i)] :=
              ⟨[.item i, .valuestring i, .key i], [.valuestring i, .key i, .item i], rfl,
                by simp, by simp, by simp [HeapBlock.member?]⟩
            simpa [addItem, deleteMember, createItem, deleteItem, hi, hv, hk] using hlist

section
variable (io : Nat → MemberIO)

theorem addItems_cons (k : Nat) (f : Field) (fields : List Field) :
    addItems io k (f :: fields) = (addItem k f (io k)).2 ++ addItems io (k + 1) fields := rfl

theorem deleteMembers_cons (k : Nat) (f : Field) (fields : List Field) :
    deleteMembers io k (f :: fields) =
      deleteMember k f (io k) ++ deleteMembers io (k + 1) fields := rfl

/-- The blocks of the members from the number `k` on. -/
theorem member?_of_mem_members (fields : List Field) :
    ∀ k, ∀ op ∈ addItems io k fields ++ deleteMembers io k fields,
      ∃ i, k ≤ i ∧ op.resource.member? = some i := by
  induction fields with
  | nil =>
    intro k op hop
    simp [addItems, deleteMembers] at hop
  | cons f fields ih =>
    intro k op hop
    rw [addItems_cons, deleteMembers_cons, List.mem_append, List.mem_append,
      List.mem_append] at hop
    have hfirst := (freesMember k f (io k)).member? op
    rw [List.mem_append] at hfirst
    have hrest := ih (k + 1) op
    rw [List.mem_append] at hrest
    rcases hop with (hop | hop) | (hop | hop)
    · exact ⟨k, Nat.le_refl k, hfirst (.inl hop)⟩
    · obtain ⟨i, hi, hmember⟩ := hrest (.inl hop)
      exact ⟨i, Nat.le_of_succ_le hi, hmember⟩
    · exact ⟨k, Nat.le_refl k, hfirst (.inr hop)⟩
    · obtain ⟨i, hi, hmember⟩ := hrest (.inr hop)
      exact ⟨i, Nat.le_of_succ_le hi, hmember⟩

/-- Adding the members and deleting them later frees all of their blocks. -/
theorem members_clean (fields : List Field) :
    ∀ k, Clean (addItems io k fields ++ deleteMembers io k fields) := by
  induction fields with
  | nil =>
    intro k
    exact clean_nil
  | cons f fields ih =>
    intro k
    have hmember := freesMember k f (io k)
    -- The blocks of the first member, among those of the members after it.
    have hmerged := hmember.clean.merge (fun b => b.member? = some k) (a := [])
      (c := addItems io (k + 1) fields) (e := deleteMembers io (k + 1) fields)
      (by simpa using ih (k + 1)) (fun op hop => by simpa using hmember.member? op hop) ?_
    · simpa [addItems_cons, deleteMembers_cons] using hmerged
    · intro op hop
      rw [List.nil_append] at hop
      obtain ⟨i, hi, hother⟩ := member?_of_mem_members io fields (k + 1) op hop
      rw [hother]
      simpa using Nat.ne_of_gt hi

/-- The blocks of the members are none of the other three. -/
theorem not_mem_members {b : HeapBlock} (hb : b.member? = none) (fields : List Field) :
    Op.release b ∉ addItems io 0 fields := by
  intro hop
  obtain ⟨i, -, hmember⟩ :=
    member?_of_mem_members io fields 0 _ (List.mem_append_left _ hop)
  have hnone : (Op.release b).resource.member? = none := hb
  rw [hnone] at hmember
  cases hmember

/-- The ledger with one block for the whole object has no entries about the members. -/
theorem filterMap_members (fields : List Field) :
    (addItems io 0 fields).filterMap (Op.rename HeapBlock.publishBlock) = [] ∧
      (deleteMembers io 0 fields).filterMap (Op.rename HeapBlock.publishBlock) = [] := by
  have hmember := member?_of_mem_members io fields 0
  have hrename : ∀ op : Op HeapBlock, op.resource.member? ≠ none →
      op.rename HeapBlock.publishBlock = none := by
    intro op hop
    cases op with
    | acquire b => cases b <;> first | rfl | exact absurd rfl hop
    | use b => cases b <;> first | rfl | exact absurd rfl hop
    | release b => cases b <;> first | rfl | exact absurd rfl hop
  constructor
  · refine List.filterMap_eq_nil_iff.mpr fun op hop => hrename op ?_
    obtain ⟨i, -, hi⟩ := hmember op (List.mem_append_left _ hop)
    simp [hi]
  · refine List.filterMap_eq_nil_iff.mpr fun op hop => hrename op ?_
    obtain ⟨i, -, hi⟩ := hmember op (List.mem_append_right _ hop)
    simp [hi]

/-- The members between the blocks of the publisher itself. -/
theorem clean_around_members (before between after : List (Op HeapBlock))
    (h : Clean (before ++ between ++ after))
    (hother : ∀ op ∈ before ++ between ++ after, op.resource.member? = none)
    (fields : List Field) :
    Clean (before ++ addItems io 0 fields ++ between ++
      deleteMembers io 0 fields ++ after) := by
  refine (members_clean io fields 0).merge (fun b => b.member?.isSome) h ?_ ?_
  · intro op hop
    obtain ⟨i, -, hmember⟩ := member?_of_mem_members io fields 0 op hop
    rw [hmember]
    rfl
  · intro op hop
    rw [hother op hop]
    rfl

end

/-! ### Publishers -/

section
variable [CJsonPrinter]

/-- A builder hands over a buffer exactly when it returns `RT_EOK`. -/
theorem build_handsOver (fields : List Field) (io : PublishIO) :
    (build fields io).outBuff.isSome = true ↔ (build fields io).result = rtEok := by
  rcases memory_or io.createObject io.print io.sendBuffer with ⟨hcreate, hprint, hbuffer⟩ | hfails
  · rw [build_of_memory hcreate hprint hbuffer]
    exact iff_of_true rfl rfl
  · rw [build_result_of_no_memory hfails]
    refine iff_of_false ?_ (by decide)
    unfold build
    rcases hfails with h | h | h
    · simp [h]
    · cases io.createObject <;> simp [h]
    · cases io.createObject <;> cases io.print <;> simp [rtMalloc, h]

section
variable (p : Publication) (io : MemoryIO)

/-- A publisher without a buffer does what its builder did, and no more. -/
theorem memoryOps_of_no_memory
    (h : io.createObject = false ∨ io.print = false ∨ io.sendBuffer = false) :
    p.memoryOps io = buildOps p.fields io := by
  have hresult : (build p.fields (io.toPublishIO p.fields)).result = -rtEnomem :=
    build_result_of_no_memory h
  have hnone : (build p.fields (io.toPublishIO p.fields)).outBuff.isSome ≠ true := by
    rw [Ne, build_handsOver, hresult]
    decide
  have hneg : -rtEnomem < 0 := by decide
  simp only [Publication.memoryOps, p.builder_eq, hresult, if_pos hneg, if_neg hnone,
    List.append_nil]

/-- The ledger of a publisher that gets all its blocks. -/
theorem memoryOps_of_memory (hcreate : io.createObject = true) (hprint : io.print = true)
    (hbuffer : io.sendBuffer = true) :
    p.memoryOps io = [.acquire .root] ++ addItems io.member 0 p.fields ++
      [.acquire .msgStr, .acquire .sendBuffer] ++ deleteMembers io.member 0 p.fields ++
      [.release .root, .release .msgStr, .use .sendBuffer, .release .sendBuffer] := by
  have hbuild : build p.fields (io.toPublishIO p.fields) = _ :=
    build_of_memory hcreate hprint hbuffer
  have hmalloc := rtMalloc_renderedText p.fields (io.toPublishIO p.fields)
  have hops : buildOps p.fields io = [.acquire .root] ++ addItems io.member 0 p.fields ++
      [.acquire .msgStr, .acquire .sendBuffer] ++ cJSONDelete io.member p.fields ++
      [.release .msgStr] := by
    unfold buildOps
    simp only [hcreate, hprint, hbuffer, Bool.not_true, Bool.false_eq_true, if_false]
    rw [← renderedText, if_pos hmalloc]
  simp only [Publication.memoryOps, p.builder_eq, hbuild, hops, cJSONDelete]
  simp [rtEok]

/-- With all its blocks, a publisher frees the object, the print and the buffer. -/
theorem clean_of_memory (hcreate : io.createObject = true) (hprint : io.print = true)
    (hbuffer : io.sendBuffer = true) : Clean (p.memoryOps io) := by
  rw [memoryOps_of_memory p io hcreate hprint hbuffer]
  refine clean_around_members io.member _ _ _ ?_ (by simp [Op.resource, HeapBlock.member?])
    p.fields
  -- The buffer lives longest, and the print longer than the object.
  have hbuf : Clean ([] ++ [Op.acquire HeapBlock.sendBuffer] ++
      [.use .sendBuffer, .release .sendBuffer]) :=
    clean_single HeapBlock.sendBuffer true
  have hmsg : Clean ([Op.acquire HeapBlock.msgStr] ++ [.release .msgStr]) :=
    clean_single HeapBlock.msgStr false
  have hroot : Clean ([Op.acquire HeapBlock.root] ++ [.release .root]) :=
    clean_single HeapBlock.root false
  have hlater : Clean ([] ++ [Op.acquire HeapBlock.msgStr, .acquire .sendBuffer] ++
      [.release .msgStr, .use .sendBuffer, .release .sendBuffer]) :=
    hmsg.merge (fun b => b = .msgStr) hbuf (by simp [Op.resource]) (by simp [Op.resource])
  exact hroot.merge (fun b => b = .root) hlater (by simp [Op.resource]) (by simp [Op.resource])

/-- Without memory for the object there is nothing to free, and without memory for the print
the object is freed. -/
theorem clean_of_no_print (h : io.createObject = false ∨ io.print = false) :
    Clean (p.memoryOps io) := by
  rw [memoryOps_of_no_memory p io (h.imp_right .inl)]
  unfold buildOps
  cases hcreate : io.createObject with
  | false => exact clean_nil
  | true =>
    have hprint : io.print = false := by simpa [hcreate] using h
    simp only [hprint, Bool.not_true, Bool.not_false, Bool.false_eq_true, if_false, if_true,
      cJSONDelete]
    have hroot : Clean ([Op.acquire HeapBlock.root] ++ [] ++ [.release .root]) :=
      clean_single HeapBlock.root false
    have hall := clean_around_members io.member _ _ _ hroot
      (by simp [Op.resource, HeapBlock.member?]) p.fields
    simpa using hall

/-- Without memory for the buffer the builder returns at once, and the object is lost. -/
theorem not_clean_of_no_buffer (hcreate : io.createObject = true) (hprint : io.print = true)
    (hbuffer : io.sendBuffer = false) : ¬ Clean (p.memoryOps io) := by
  have hops : p.memoryOps io =
      [.acquire .root] ++ addItems io.member 0 p.fields ++ [.acquire .msgStr] := by
    rw [memoryOps_of_no_memory p io (.inr (.inr hbuffer))]
    simp [buildOps, hcreate, hprint, hbuffer, rtMalloc]
  intro hclean
  have hacquired : Op.acquire HeapBlock.root ∈ p.memoryOps io := by simp [hops]
  have honce := (hclean .root hacquired).once
  have hnever : Op.release HeapBlock.root ∉ p.memoryOps io := by
    simpa [hops] using not_mem_members io.member (b := .root) rfl p.fields
  rw [List.count_eq_zero_of_not_mem hnever] at honce
  cases honce

/-- The ledger of `Publication.publish` is this one without the members. -/
theorem publish_ops_eq (behind : List UInt8) :
    (p.publish (io.toPublishIO p.fields) behind).ops =
      (p.memoryOps io).filterMap (Op.rename HeapBlock.publishBlock) := by
  obtain ⟨hadd, hdelete⟩ := filterMap_members io.member p.fields
  rcases memory_or io.createObject io.print io.sendBuffer with ⟨hcreate, hprint, hbuffer⟩ | hfails
  · have hbuild : build p.fields (io.toPublishIO p.fields) = _ :=
      build_of_memory hcreate hprint hbuffer
    rw [memoryOps_of_memory p io hcreate hprint hbuffer]
    simp only [Publication.publish, p.builder_eq, hbuild, List.filterMap_append, hadd, hdelete]
    rfl
  · have hresult : (build p.fields (io.toPublishIO p.fields)).result = -rtEnomem :=
      build_result_of_no_memory hfails
    have hneg : -rtEnomem < 0 := by decide
    rw [memoryOps_of_no_memory p io hfails]
    simp only [Publication.publish, p.builder_eq, hresult, if_pos hneg]
    -- Each exit of the builder, with the two ledgers side by side.
    unfold build buildOps
    cases hcreate : io.createObject with
    | false => simp [hcreate, MemoryIO.toPublishIO]
    | true =>
      cases hprint : io.print with
      | false =>
        simp [hcreate, MemoryIO.toPublishIO, hprint, cJSONDelete, hadd, hdelete, Op.rename,
          HeapBlock.publishBlock]
      | true =>
        have hbuffer : io.sendBuffer = false := by simpa [hcreate, hprint] using hfails
        simp [hcreate, MemoryIO.toPublishIO, hprint, hbuffer, rtMalloc, hadd, Op.rename,
          HeapBlock.publishBlock]

end

/-- Everything that a publisher allocated is freed exactly once when it returns, and its
builder handed over a buffer exactly when it returned `RT_EOK`. -/
structure FreesAll (p : Publication) (io : MemoryIO) : Prop where
  clean : Clean (p.memoryOps io)
  handsOver : (p.builder (io.toPublishIO p.fields)).outBuff.isSome = true ↔
    (p.builder (io.toPublishIO p.fields)).result = rtEok

/-- A publisher frees everything exactly when it has no object, no print, or a buffer. -/
theorem publisher_frees_all_iff (p : Publication) (io : MemoryIO) :
    FreesAll p io ↔ io.createObject = false ∨ io.print = false ∨ io.sendBuffer = true := by
  constructor
  · rintro ⟨hclean, -⟩
    by_contra hleak
    simp only [not_or, Bool.not_eq_false, Bool.not_eq_true] at hleak
    obtain ⟨hcreate, hprint, hbuffer⟩ := hleak
    exact not_clean_of_no_buffer p io hcreate hprint hbuffer hclean
  · intro h
    refine ⟨?_, by rw [p.builder_eq]; exact build_handsOver _ _⟩
    by_cases hmemory : io.createObject = false ∨ io.print = false
    · exact clean_of_no_print p io hmemory
    · simp only [not_or, Bool.not_eq_false] at hmemory
      obtain ⟨hcreate, hprint⟩ := hmemory
      have hbuffer : io.sendBuffer = true := by simpa [hcreate, hprint] using h
      exact clean_of_memory p io hcreate hprint hbuffer

end

/-- Everything succeeds but the allocation of the buffer. -/
def noSendBuffer : MemoryIO where
  createObject := true
  member _ := ⟨true, true, true⟩
  print := true
  sendBuffer := false
  publish := 0

/-- Without memory for the buffer, a sync request loses its object and its print. -/
theorem publisher_leaks : ¬ ∀ p io, @FreesAll syncPrinter p io := by
  intro h
  obtain ⟨hclean, -⟩ := h .syncRequest noSendBuffer
  exact @not_clean_of_no_buffer syncPrinter .syncRequest noSendBuffer rfl rfl rfl hclean

end SmartBuilding
