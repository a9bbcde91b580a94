import SmartBuilding.Mqtt.PubPipe
import SmartBuilding.Proofs.Pipe
import SmartBuilding.Proofs.Serialize
import Mathlib.Data.List.Forall2

/-!
# `SmartBuilding.Proofs.PubPipe`: the worker sends the frames that meet an empty pipe

The worker reads all that is in the pipe at once, and sends the first frame of it. So of the
frames that fit into the pipe, those are sent that were put into an empty pipe, one packet for
each, in their order (`publish_sends_first`). The others are dropped, and their publishers
have got a success.
-/

set_option autoImplicit false

namespace SmartBuilding

open CText

variable {cast : List UInt8 → MqttMessage}

theorem mqttPacketLen_le (remLen : Nat) : mqttPacketLen remLen ≤ remLen + 5 := by
  rw [mqttPacketLen]
  split <;> [skip; split <;> [skip; split]] <;> omega

namespace MqttPublishFrame

variable {p : PublishPacket} {frame : List UInt8}

theorem length (hf : MqttPublishFrame cast p frame) :
    frame.length = sizeofMqttMessage + p.payload.length + p.topicName.length + 1 := by
  obtain ⟨message, hlen, -, rfl⟩ := hf.frame
  simp only [List.length_append, hlen, List.length_singleton]
  omega

/-- The worker sends the packet of the frame that its bytes start with. -/
theorem pubSock_eq (hf : MqttPublishFrame cast p frame) (hfit : frame.length ≤ readbufSize)
    {buf : List UInt8} (hbuf : buf.length = readbufSize) (s : List UInt8) {len : Nat}
    (hlen : frame.length ≤ len) :
    pubSock cast buf (frame ++ s) len = some (.send p.bytes) := by
  have hframe := hf.length
  obtain ⟨message, hmessage, hcast, heq⟩ := hf.frame
  have hreadbuf : frame ++ s = message ++ (p.payload ++ (p.topicName ++ 0 :: s)) := by
    rw [heq]
    simp
  have htake : (frame ++ s).take sizeofMqttMessage = message := by
    rw [hreadbuf, List.take_left' hmessage]
  have hdrop : (frame ++ s).drop sizeofMqttMessage =
      p.payload ++ (p.topicName ++ 0 :: s) := by
    rw [hreadbuf, List.drop_left' hmessage]
  have htopic : (frame ++ s).drop (sizeofMqttMessage + p.payload.length) =
      p.topicName ++ 0 :: s := by
    rw [← List.drop_drop, hdrop, List.drop_left]
  -- The packet is shorter than the frame.
  have hid : p.idBytes.length ≤ 2 := by
    rw [PublishPacket.idBytes]
    split
    case isTrue h => exact Nat.le_refl 2
    case isFalse h => exact Nat.zero_le 2
  have hrest := p.length_rest
  have hpacket := mqttPacketLen_le p.rest.length
  have hsize : sizeofMqttMessage = 16 := rfl
  have hroom : mqttPacketLen p.rest.length ≤ buf.length := by omega
  have hsmall : buf.length < 128 ^ maxNoOfRemainingLengthBytes := by
    rw [hbuf]
    decide
  have hserialize := mqttSerializePublish_eq p hsmall
  rw [hf.dup, if_pos hroom] at hserialize
  rw [pubSock, if_neg (by omega), htake, hcast]
  dsimp only
  rw [htopic, if_pos (by simp), hdrop, cString_append s hf.topicName, List.take_left, hserialize]
  have hpos : ¬ (p.bytes.length : Int) ≤ 0 := by
    rw [PublishPacket.bytes, List.length_cons]
    omega
  dsimp only
  rw [if_neg hpos, Int.toNat_natCast, List.take_left]

end MqttPublishFrame

/-! ### The frames in the pipe -/

section Frames

variable {T : Type} [DecidableEq T] {n : Nat} {w : T}

/-- What the events keep: the pipe has whole frames in it, and a thread that writes has put
nothing of its frame yet. -/
structure HoldsFrames (cast : List UInt8 → MqttMessage) (n : Nat) (p : RtPipe T)
    (frames : List (List UInt8)) : Prop where
  valid : p.Valid n
  contents : p.fifo.contents = frames.flatten
  frames : ∀ f ∈ frames, ∃ q, MqttPublishFrame cast q f
  pbuf : ∀ t, p.pbuf t ≠ [] → ∃ q, MqttPublishFrame cast q (p.pbuf t)

variable {p : RtPipe T} {frames : List (List UInt8)}

omit [DecidableEq T] in
/-- There is nothing in the pipe exactly when there is no frame. -/
theorem HoldsFrames.contents_eq_nil (h : HoldsFrames cast n p frames) :
    p.fifo.contents = [] ↔ frames = [] := by
  rw [h.contents]
  cases frames with
  | nil => exact iff_of_true rfl rfl
  | cons f fs =>
    refine iff_of_false (fun hnil => ?_) (List.cons_ne_nil _ _)
    obtain ⟨q, hq⟩ := h.frames f List.mem_cons_self
    have hlen := hq.length
    have hf : f = [] := (List.append_eq_nil_iff.mp (List.flatten_cons ▸ hnil)).1
    rw [hf] at hlen
    exact absurd hlen (Nat.succ_ne_zero _).symm

/-- A call of a publisher. -/
theorem HoldsFrames.write (h : HoldsFrames cast n p frames) (t : T) {buf : List UInt8}
    (hbuf : ∃ q, MqttPublishFrame cast q buf) :
    HoldsFrames cast n (p.step (.write t buf)) frames := by
  have hvalid := h.valid.step (.write t buf)
  rw [RtPipe.step] at hvalid ⊢
  split at hvalid
  case isFalse hbusy =>
    rw [if_neg hbusy]
    exact h
  case isTrue hidle =>
    rw [if_pos hidle]
    refine ⟨hvalid, h.contents, h.frames, fun t' hne => ?_⟩
    have hpbuf : Function.update p.pbuf t buf t' ≠ [] := hne
    show ∃ q, MqttPublishFrame cast q (Function.update p.pbuf t buf t')
    rw [Function.update_apply] at hpbuf ⊢
    by_cases ht : t' = t
    · rw [if_pos ht]
      exact hbuf
    · rw [if_neg ht] at hpbuf ⊢
      exact h.pbuf t' hpbuf

/-- A round that puts a whole frame. -/
theorem HoldsFrames.put (h : HoldsFrames cast n p frames) (t : T) (hbusy : p.pbuf t ≠ [])
    (hfit : (p.pbuf t).length ≤ p.fifo.spaceLen) :
    (p.putRest t).2 = (p.pbuf t).length ∧
      HoldsFrames cast n (p.step (.put t)) (frames ++ [p.pbuf t]) := by
  have hvalid := h.valid.step (.put t)
  have hends := h.valid.put_ends (w := t) (Nat.not_lt.mpr hfit)
  have hspace := h.valid.putRest_space t
  obtain ⟨-, -, hcontents, -⟩ := h.valid.putRest t
  rw [RtPipe.step, if_neg hbusy] at hvalid hends ⊢
  have hrest : (p.pbuf t).drop (p.putRest t).2 = [] := by
    rwa [← Function.update_self t ((p.pbuf t).drop (p.putRest t).2) p.pbuf]
  have hcount : (p.putRest t).2 = (p.pbuf t).length :=
    Nat.le_antisymm hspace.2 (List.drop_eq_nil_iff.mp hrest)
  refine ⟨hcount, hvalid, ?_, ?_, fun t' hne => ?_⟩
  · show (p.putRest t).1.contents = _
    rw [hcontents, hcount, List.take_length, h.contents, List.flatten_append,
      List.flatten_singleton]
  · intro f hf
    rcases List.mem_append.mp hf with hf | hf
    · exact h.frames f hf
    · rw [List.mem_singleton.mp hf]
      exact h.pbuf t hbusy
  · have hpbuf : Function.update p.pbuf t ((p.pbuf t).drop (p.putRest t).2) t' ≠ [] := hne
    show ∃ q, MqttPublishFrame cast q (Function.update p.pbuf t _ t')
    rw [Function.update_apply] at hpbuf ⊢
    by_cases ht : t' = t
    · rw [if_pos ht] at hpbuf
      exact absurd hrest hpbuf
    · rw [if_neg ht] at hpbuf ⊢
      exact h.pbuf t' hpbuf

/-- A read of the worker takes everything. -/
theorem HoldsFrames.read (h : HoldsFrames cast n p frames) (hn : n ≤ readbufSize) (t : T)
    (hidle : p.pbuf t = []) :
    (p.getCount readbufSize).2 = p.fifo.contents ∧
      HoldsFrames cast n (p.step (.read t readbufSize)) [] := by
  have hvalid := h.valid.step (.read t readbufSize)
  have hlen := h.valid.length_contents
  obtain ⟨-, hcontents, hdata⟩ := h.valid.fifo.get (readbufSize % uint16Size)
  have hall : p.fifo.contents.length ≤ readbufSize % uint16Size := by
    have hmod : readbufSize % uint16Size = readbufSize := by decide
    omega
  rw [List.drop_eq_nil_of_le hall] at hcontents
  rw [List.take_of_length_le hall] at hdata
  refine ⟨hdata, hvalid, ?_, ?_, ?_⟩
  · rw [RtPipe.step, if_pos hidle]
    exact hcontents
  · exact fun f hf => absurd hf List.not_mem_nil
  · rw [RtPipe.step, if_pos hidle]
    exact h.pbuf

omit [DecidableEq T] in
/-- The bytes that the worker reads start with the first frame. -/
theorem HoldsFrames.sendsFirst {f : List UInt8} {fs : List (List UInt8)}
    (h : HoldsFrames cast n p (f :: fs)) (hn : n ≤ readbufSize) :
    SendsFirst cast p.fifo.contents f := by
  obtain ⟨q, hq⟩ := h.frames f List.mem_cons_self
  have hlen := h.valid.length_contents
  have hcontents : p.fifo.contents = f ++ fs.flatten := by rw [h.contents, List.flatten_cons]
  have hle : f.length ≤ p.fifo.contents.length := by
    rw [hcontents, List.length_append]
    exact Nat.le_add_right _ _
  refine ⟨q, hq, fun buf behind hbuf => ?_⟩
  have hread := hq.pubSock_eq (by omega) hbuf (fs.flatten ++ behind) hle
  rw [← List.append_assoc, ← hcontents] at hread
  exact hread

/-- A run, from any pipe with whole frames in it. -/
theorem HoldsFrames.run (hn : n ≤ readbufSize) : ∀ (es : List (PipeEvent T)) (p : RtPipe T)
    (frames : List (List UInt8)), HoldsFrames cast n p frames →
    (∀ e ∈ es, e.Publishing cast w) → (rtPipe T).Along PipeEvent.Fits p es →
    ∃ firsts frames', HoldsFrames cast n ((rtPipe T).run p es) frames' ∧
      frames.head?.toList ++ ((rtPipe T).log p es).filterMap PipeRecord.first? =
        firsts ++ frames'.head?.toList ∧
      List.Forall₂ (SendsFirst cast) (((rtPipe T).log p es).filterMap PipeRecord.read?)
        firsts := by
  intro es
  induction es with
  | nil =>
    intro p frames h _ _
    exact ⟨[], frames, h, List.append_nil _, List.Forall₂.nil⟩
  | cons e es ih =>
    intro p frames h hevents hfits
    rw [Machine.along_cons] at hfits
    have hrest : ∀ e ∈ es, e.Publishing cast w := fun e he =>
      hevents e (List.mem_cons_of_mem _ he)
    have he := hevents e List.mem_cons_self
    have hlog : (rtPipe T).log p (e :: es) = p.out e ++ (rtPipe T).log (p.step e) es := rfl
    have hrun : (rtPipe T).run p (e :: es) = (rtPipe T).run (p.step e) es := rfl
    rw [hlog, hrun, List.filterMap_append, List.filterMap_append]
    cases e with
    | write t buf =>
      obtain ⟨firsts, frames', h', heq, hsent⟩ := ih _ _ (h.write t he) hrest hfits.2
      have hno : (p.out (.write t buf)).filterMap PipeRecord.first? = [] ∧
          (p.out (.write t buf)).filterMap PipeRecord.read? = [] := by
        rw [RtPipe.out]
        split <;> exact ⟨rfl, rfl⟩
      rw [hno.1, hno.2]
      exact ⟨firsts, frames', h', heq, hsent⟩
    | put t =>
      by_cases hidle : p.pbuf t = []
      · have hstep : p.step (.put t) = p := by rw [RtPipe.step, if_pos hidle]
        have hout : p.out (.put t) = [] := by rw [RtPipe.out, if_pos hidle]
        rw [hout]
        have hfits' : (rtPipe T).Along PipeEvent.Fits (p.step (.put t)) es := hfits.2
        rw [hstep] at hfits' ⊢
        exact ih p frames h hrest hfits'
      obtain ⟨hcount, hput⟩ := h.put t hidle hfits.1
      obtain ⟨firsts, frames', h', heq, hsent⟩ := ih _ _ hput hrest hfits.2
      have hout : p.out (.put t) = [.taken t (p.pbuf t) p.fifo.contents.length] := by
        rw [RtPipe.out, if_neg hidle, hcount, List.take_length]
      refine ⟨firsts, frames', h', ?_, ?_⟩
      · rw [hout, ← heq, ← List.append_assoc]
        congr 1
        show _ ++ [PipeRecord.taken t _ _].filterMap _ = _
        rw [List.filterMap_cons, PipeRecord.first?]
        cases hframes : frames with
        | nil =>
          rw [if_pos (List.length_eq_zero_iff.mpr (h.contents_eq_nil.mpr hframes))]
          rfl
        | cons f fs =>
          have hne : p.fifo.contents ≠ [] := fun hnil => by
            rw [h.contents_eq_nil.mp hnil] at hframes
            cases hframes
          rw [if_neg (mt List.length_eq_zero_iff.mp hne)]
          rfl
      · rw [hout]
        exact hsent
    | read t count =>
      obtain ⟨rfl, rfl⟩ : t = w ∧ count = readbufSize := he
      by_cases hidle : p.pbuf t = []
      · obtain ⟨hdata, hread⟩ := h.read hn t hidle
        obtain ⟨firsts, frames', h', heq, hsent⟩ := ih _ _ hread hrest hfits.2
        cases hframes : frames with
        | nil =>
          have hnil : p.fifo.contents = [] := h.contents_eq_nil.mpr hframes
          have hout : p.out (.read t readbufSize) = [] := by
            rw [RtPipe.out, if_neg fun hr => hr.2 (hdata.trans hnil)]
          rw [hout]
          exact ⟨firsts, frames', h', heq, hsent⟩
        | cons f fs =>
          have hne : p.fifo.contents ≠ [] := fun hnil => by
            rw [h.contents_eq_nil.mp hnil] at hframes
            cases hframes
          have hout : p.out (.read t readbufSize) = [.given t p.fifo.contents] := by
            rw [RtPipe.out, if_pos ⟨hidle, by rwa [hdata]⟩, hdata]
          rw [hframes] at h
          rw [hout]
          refine ⟨f :: firsts, frames', h', ?_, ?_⟩
          · show f :: ([] ++ _) = _
            rw [List.nil_append, List.cons_append, ← heq]
            rfl
          · exact List.Forall₂.cons (h.sendsFirst hn) hsent
      · have hstep : p.step (.read t readbufSize) = p := by rw [RtPipe.step, if_neg hidle]
        have hout : p.out (.read t readbufSize) = [] := by
          rw [RtPipe.out, if_neg fun hr => hidle hr.1]
        rw [hout]
        have hfits' : (rtPipe T).Along PipeEvent.Fits (p.step (.read t readbufSize)) es := hfits.2
        rw [hstep] at hfits' ⊢
        exact ih p frames h hrest hfits'

end Frames

/-- In every run of any publishers and the worker on a new pipe, in which each frame finds room
when it is put: every read of the worker sends the packet of one frame. These are the frames
that were put into an empty pipe, in their order. When there is something in the pipe, the
last of these frames is still there, in front. -/
theorem publish_sends_first {T : Type} [DecidableEq T] (cast : List UInt8 → MqttMessage)
    (pool : List UInt8) (size : Nat) (es : List (PipeEvent T)) (w : T)
    (hsize : size ≤ readbufSize) (hfour : 4 ≤ size)
    (hpool : pool.length = rtAlignDown size rtAlignSize)
    (hevents : ∀ e ∈ es, e.Publishing cast w)
    (hfits : (rtPipe T).Along PipeEvent.Fits (RtPipe.create T pool size) es) :
    let log := (rtPipe T).log (RtPipe.create T pool size) es
    let p := (rtPipe T).run (RtPipe.create T pool size) es
    ∃ sent : List (List UInt8),
      List.Forall₂ (SendsFirst cast) (log.filterMap PipeRecord.read?) sent ∧
      (p.fifo.contents = [] ∧ log.filterMap PipeRecord.first? = sent ∨
        ∃ first rest : List UInt8, p.fifo.contents = first ++ rest ∧
          (∃ q, MqttPublishFrame cast q first) ∧
          log.filterMap PipeRecord.first? = sent ++ [first]) := by
  intro log p
  obtain ⟨hvalid, hempty⟩ := RtPipe.valid_create (T := T)
    (Nat.lt_of_le_of_lt hsize (by decide)) hfour hpool
  have hle : pool.length ≤ readbufSize := by
    rw [hpool, rtAlignDown]
    omega
  have hstart : HoldsFrames cast pool.length (RtPipe.create T pool size) [] :=
    ⟨hvalid, hempty, fun f hf => absurd hf List.not_mem_nil, fun t hne => absurd rfl hne⟩
  obtain ⟨sent, frames, h, heq, hsent⟩ := HoldsFrames.run hle es _ [] hstart hevents hfits
  refine ⟨sent, hsent, ?_⟩
  cases frames with
  | nil =>
    have hfirsts : log.filterMap PipeRecord.first? = sent ++ [] := heq
    rw [List.append_nil] at hfirsts
    exact Or.inl ⟨h.contents, hfirsts⟩
  | cons f fs =>
    exact Or.inr ⟨f, fs.flatten, h.contents, h.frames f List.mem_cons_self, heq⟩

/-- A message `1` on the topic `a`, as it goes into the pipe. -/
def oneOnA : List UInt8 := [1, 0, 0, 0, 7, 0, 0, 0, 0, 0, 0, 0, 1, 0, 0, 0, 49, 97, 0]

/-- Two of them before the worker reads, and one behind: two packets are sent. -/
theorem publish_sends_first_three :
    let es : List (PipeEvent Bool) := [.write true oneOnA, .put true, .write true oneOnA, .put true,
      .read false readbufSize, .write true oneOnA, .put true, .read false readbufSize]
    let log := (rtPipe Bool).log (RtPipe.create Bool (List.replicate 64 0) 64) es
    ∃ sent : List (List UInt8), sent.length = 2 ∧
      List.Forall₂ (SendsFirst mqttMessageCast) (log.filterMap PipeRecord.read?) sent := by
  intro es log
  have hframe : ∃ q, MqttPublishFrame mqttMessageCast q oneOnA :=
    ⟨⟨false, ⟨1, by decide⟩, false, 7, [97], [49], by decide⟩, rfl, by decide +kernel,
      oneOnA.take 16, rfl, by rfl, rfl⟩
  have hevents : ∀ e ∈ es, e.Publishing mqttMessageCast false := by
    simp only [es, List.mem_cons, List.not_mem_nil, or_false]
    rintro e (rfl | rfl | rfl | rfl | rfl | rfl | rfl | rfl)
    all_goals first | exact hframe | exact trivial | exact ⟨rfl, rfl⟩
  have hfits : (rtPipe Bool).Along PipeEvent.Fits
      (RtPipe.create Bool (List.replicate 64 0) 64) es := by
    simp only [es, Machine.along_cons, Machine.along_nil, PipeEvent.Fits, true_and, and_true]
    decide +kernel
  obtain ⟨sent, hsent, -⟩ := publish_sends_first mqttMessageCast (List.replicate 64 0) 64 es false
    (by decide) (by decide) (by decide) hevents hfits
  have hreads : (log.filterMap PipeRecord.read?).length = 2 := by decide +kernel
  exact ⟨sent, hsent.length_eq ▸ hreads, hsent⟩

end SmartBuilding
