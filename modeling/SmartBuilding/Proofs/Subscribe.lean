import SmartBuilding.Mqtt.Subscribe
import SmartBuilding.Proofs.Serialize
import SmartBuilding.Proofs.Topic
import Mathlib.Data.List.Nodup
import Mathlib.Data.List.Perm.Subperm

/-!
# `SmartBuilding.Proofs.Subscribe`: the table of subscriptions is a small map

Both functions compare as many bytes of a filter as the topic has. So a filter that only
starts with the topic counts as the topic. On topics of which none starts with another, the
table is a list of topics with their callbacks (`subscriber_refines`), whatever the network and
the allocator answer. In general a subscription gets lost exactly when a longer filter is
there, or when its packet does not fit into the buffer (`subscription_lost_iff`). The topics of
the firmware are of the first kind, and `firmware_delivery` says which handler each message runs.
-/

set_option autoImplicit false

namespace SmartBuilding

open CText

variable {κ : Type}

/-! ### The comparison -/

/-- `rt_strncmp` over the length of the second text. -/
theorem rtStrncmpEq_length (cs ct : List UInt8) :
    rtStrncmpEq cs ct ct.length = true ↔ ct <+: cs := by
  induction ct generalizing cs with
  | nil =>
    rw [List.length_nil, rtStrncmpEq]
    exact iff_of_true rfl List.nil_prefix
  | cons d ct ih =>
    cases cs with
    | nil => simp [rtStrncmpEq]
    | cons c cs =>
      rw [List.length_cons, rtStrncmpEq, Bool.and_eq_true, beq_iff_eq, ih,
        List.cons_prefix_cons, eq_comm]

/-- A handler is taken for the topic when its filter starts with the topic. -/
theorem MessageHandler.names_iff {topic : List UInt8} {h : MessageHandler κ} :
    h.names topic = true ↔ ∃ filter, h.topicFilter = some filter ∧ topic <+: filter := by
  rw [MessageHandler.names]
  cases hf : h.topicFilter with
  | none => exact iff_of_false Bool.false_ne_true fun ⟨_, heq, _⟩ => nomatch heq
  | some filter =>
    show rtStrncmpEq filter topic topic.length = true ↔ _
    rw [rtStrncmpEq_length]
    constructor
    · intro h
      exact ⟨filter, rfl, h⟩
    · rintro ⟨_, heq, h⟩
      rwa [Option.some.inj heq]

/-! ### The slots -/

/-- What every call keeps of the client: the number of slots, the size of the buffer, and that
a filter has its callback. -/
structure SubscribeClient.Valid (size : Nat) (c : SubscribeClient κ) : Prop where
  slots : c.messageHandlers.length = maxMessageHandlers
  size : c.buf.length = size
  callback : ∀ h ∈ c.messageHandlers, h.topicFilter.isSome → h.callback.isSome

/-- The first slot with a property, with the slots before and behind it. -/
theorem split_of_findIdx? {α : Type} {p : α → Bool} {l : List α} {i : Nat}
    (h : l.findIdx? p = some i) :
    ∃ pre x post, l = pre ++ x :: post ∧ pre.length = i ∧ p x = true ∧ ∀ y ∈ pre, p y = false := by
  obtain ⟨hlt, hp, hbefore⟩ := List.findIdx?_eq_some_iff_getElem.mp h
  refine ⟨l.take i, l[i], l.drop (i + 1), ?_, ?_, hp, ?_⟩
  · rw [← List.drop_eq_getElem_cons hlt, List.take_append_drop]
  · rw [List.length_take, Nat.min_eq_left (Nat.le_of_lt hlt)]
  · intro y hy
    obtain ⟨j, hj, rfl⟩ := List.getElem_of_mem hy
    rw [List.length_take] at hj
    rw [List.getElem_take]
    exact Bool.eq_false_iff.mpr (hbefore j (by omega))

theorem modify_append {α : Type} (pre : List α) (x : α) (post : List α) (f : α → α) :
    (pre ++ x :: post).modify pre.length f = pre ++ f x :: post := by
  induction pre with
  | nil => rfl
  | cons y pre ih => rw [List.cons_append, List.length_cons, List.modify_succ_cons, ih]; rfl

section Slots

variable {handlers : List (MessageHandler κ)}

theorem mem_subscribed {t : List UInt8} {k : κ} :
    (t, k) ∈ subscribed handlers ↔
      ∃ h ∈ handlers, h.topicFilter = some t ∧ h.callback = some k := by
  rw [subscribed, List.mem_filterMap]
  refine exists_congr fun h => and_congr_right fun _ => ?_
  rw [MessageHandler.subscription]
  cases h.topicFilter <;> cases h.callback <;> simp

/-- When every filter has its callback, the topics of the table are its filters. -/
theorem mem_topics (hcb : ∀ h ∈ handlers, h.topicFilter.isSome → h.callback.isSome)
    {t : List UInt8} :
    t ∈ (subscribed handlers).map (·.1) ↔ ∃ h ∈ handlers, h.topicFilter = some t := by
  rw [List.mem_map]
  constructor
  · rintro ⟨⟨t', k⟩, hmem, rfl⟩
    obtain ⟨h, hh, hf, -⟩ := mem_subscribed.mp hmem
    exact ⟨h, hh, hf⟩
  · rintro ⟨h, hh, hf⟩
    obtain ⟨k, hk⟩ := Option.isSome_iff_exists.mp (hcb h hh (by rw [hf]; rfl))
    exact ⟨(t, k), mem_subscribed.mpr ⟨h, hh, hf, hk⟩, rfl⟩

/-- There is no free slot exactly when all slots are subscriptions. -/
theorem no_free_slot_iff (hcb : ∀ h ∈ handlers, h.topicFilter.isSome → h.callback.isSome) :
    handlers.findIdx? (·.topicFilter.isNone) = none ↔
      (subscribed handlers).length = handlers.length := by
  rw [List.findIdx?_eq_none_iff, subscribed, List.length_filterMap_eq_countP,
    List.countP_eq_length]
  refine forall₂_congr fun h hh => ?_
  have hsome := hcb h hh
  rw [MessageHandler.subscription]
  cases hf : h.topicFilter with
  | none => simp
  | some t =>
    rw [hf] at hsome
    obtain ⟨k, hk⟩ := Option.isSome_iff_exists.mp (hsome rfl)
    simp [hk]

end Slots

/-! ### The packets -/

/-- A serializer keeps the size of the buffer, and succeeds exactly when the packet fits. -/
theorem serializeParts_fits {buf : List UInt8} (header : UInt8) {remLen : Nat}
    {parts : List (List UInt8)} (hrem : remLen = parts.flatten.length)
    (hbuf : buf.length < 128 ^ maxNoOfRemainingLengthBytes) :
    ∃ buf' rc, serializeParts buf header remLen parts = some (buf', rc) ∧
      buf'.length = buf.length ∧ (rc ≤ 0 ↔ ¬ mqttPacketLen remLen ≤ buf.length) := by
  have heq := serializeParts_eq header hrem hbuf
  by_cases hfit : mqttPacketLen remLen ≤ buf.length
  · have hle := le_mqttPacketLen remLen
    have hlen := mqttPacketLen_eq remLen (by omega)
    rw [if_pos hfit] at heq
    refine ⟨_, _, heq, ?_, iff_of_false (by omega) (not_not_intro hfit)⟩
    rw [List.length_append, List.length_cons, List.length_append, List.length_drop, ← hrem]
    omega
  · rw [if_neg hfit] at heq
    exact ⟨_, _, heq, rfl, iff_of_true (by decide) hfit⟩

/-- The SUBSCRIBE packet of one topic. -/
theorem mqttSerializeSubscribe_fits (buf topic : List UInt8) (packetid : UInt16) (qos : UInt8)
    (hbuf : buf.length < 128 ^ maxNoOfRemainingLengthBytes) :
    ∃ buf' rc, mqttSerializeSubscribe buf false packetid [(.ofCString topic, qos)] =
        some (buf', rc) ∧ buf'.length = buf.length ∧
      (rc ≤ 0 ↔ topicFits buf.length 5 topic = false) := by
  have hrem : mqttSerializeSubscribeLength [(.ofCString topic, qos)] = 5 + topic.length := by
    show 2 + (2 + topic.length + 1 + 0) = _
    omega
  have hparts : 5 + topic.length =
      (PublishPacket.writeInt packetid.toNat ::
        [(MqttString.ofCString topic, qos)].flatMap fun f => [f.1.written, [f.2]]).flatten.length :=
    by
    simp [length_writeInt]
    omega
  rw [mqttSerializeSubscribe, hrem, topicFits, decide_eq_false_iff_not]
  exact serializeParts_fits _ hparts hbuf

/-- The UNSUBSCRIBE packet of one topic. -/
theorem mqttSerializeUnsubscribe_fits (buf topic : List UInt8) (packetid : UInt16)
    (hbuf : buf.length < 128 ^ maxNoOfRemainingLengthBytes) :
    ∃ buf' rc, mqttSerializeUnsubscribe buf false packetid [.ofCString topic] =
        some (buf', rc) ∧ buf'.length = buf.length ∧
      (rc ≤ 0 ↔ topicFits buf.length 4 topic = false) := by
  have hrem : mqttSerializeUnsubscribeLength [.ofCString topic] = 4 + topic.length := by
    show 2 + (2 + topic.length + 0) = _
    omega
  have hparts : 4 + topic.length = (PublishPacket.writeInt packetid.toNat ::
      [MqttString.ofCString topic].map MqttString.written).flatten.length := by
    simp [length_writeInt]
    omega
  rw [mqttSerializeUnsubscribe, hrem, topicFits, decide_eq_false_iff_not]
  exact serializeParts_fits _ hparts hbuf

/-! ### One call -/

section Calls

variable {size : Nat} {c : SubscribeClient κ}

/-- What `paho_mqtt_subscribe` does, one case after the other. -/
theorem pahoMqttSubscribe_cases (hv : c.Valid size)
    (hsize : size < 128 ^ maxNoOfRemainingLengthBytes) (io : SubscribeIO) (topic : List UInt8)
    (callback : κ) :
    ∃ c' : SubscribeClient κ, (c'.messageHandlers = c.messageHandlers ∧ c'.buf.length = size) ∧
      pahoMqttSubscribe io qos1 topic (some callback) c =
        if c.messageHandlers.any (·.names topic) then (pahoSuccess, c)
        else
          match c.messageHandlers.findIdx? (·.topicFilter.isNone) with
          | none => (pahoFailure, c)
          | some i =>
              if !topicFits size 5 topic then (pahoSuccess, { c' with isconnected := false })
              else if !io.send then (pahoFailure, { c' with isconnected := false })
              else
                (pahoSuccess, { c' with
                  messageHandlers := c.messageHandlers.modify i fun _ =>
                    ⟨if io.strdup then some topic else none, some callback, qos1⟩ }) := by
  obtain ⟨buf', rc, heq, hlen, hrc⟩ := mqttSerializeSubscribe_fits c.buf topic
    (getNextPacketId c).1.toUInt16 qos1 (by rw [hv.size]; exact hsize)
  rw [hv.size] at hlen hrc
  refine ⟨{ (getNextPacketId c).2 with buf := buf' }, ⟨rfl, hlen⟩, ?_⟩
  rw [pahoMqttSubscribe, if_neg (not_not_intro rfl)]
  by_cases hknown : c.messageHandlers.any (·.names topic) = true
  · rw [if_pos hknown, if_pos hknown]
  rw [if_neg hknown, if_neg hknown]
  have hbuf : (getNextPacketId c).2.buf = c.buf := rfl
  cases c.messageHandlers.findIdx? (·.topicFilter.isNone) with
  | none => rfl
  | some i =>
    dsimp only
    rw [hbuf, heq, Option.getD_some]
    dsimp only
    by_cases hfit : topicFits size 5 topic = true
    · have hpos : ¬ rc ≤ 0 := fun h => by rw [hrc.mp h] at hfit; cases hfit
      rw [if_neg hpos, hfit]
      rfl
    · have hno := Bool.eq_false_iff.mpr hfit
      rw [if_pos (hrc.mpr hno), hno]
      rfl

/-- What `paho_mqtt_unsubscribe` does, one case after the other. -/
theorem pahoMqttUnsubscribe_cases (hv : c.Valid size)
    (hsize : size < 128 ^ maxNoOfRemainingLengthBytes) (io : SubscribeIO) (topic : List UInt8) :
    ∃ c' : SubscribeClient κ, (c'.messageHandlers = c.messageHandlers ∧ c'.buf.length = size) ∧
      pahoMqttUnsubscribe io topic c =
        match c.messageHandlers.findIdx? (·.names topic) with
        | none => (pahoFailure, c)
        | some i =>
            if !topicFits size 4 topic then (pahoSuccess, { c' with isconnected := false })
            else if !io.send then (pahoFailure, { c' with isconnected := false })
            else
              (pahoSuccess, { c' with
                messageHandlers := c.messageHandlers.modify i fun h =>
                  { h with topicFilter := none, callback := none } }) := by
  obtain ⟨buf', rc, heq, hlen, hrc⟩ := mqttSerializeUnsubscribe_fits c.buf topic
    (getNextPacketId c).1.toUInt16 (by rw [hv.size]; exact hsize)
  rw [hv.size] at hlen hrc
  refine ⟨{ (getNextPacketId c).2 with buf := buf' }, ⟨rfl, hlen⟩, ?_⟩
  rw [pahoMqttUnsubscribe]
  have hbuf : (getNextPacketId c).2.buf = c.buf := rfl
  cases c.messageHandlers.findIdx? (·.names topic) with
  | none => rfl
  | some i =>
    dsimp only
    rw [hbuf, heq, Option.getD_some]
    dsimp only
    by_cases hfit : topicFits size 4 topic = true
    · have hpos : ¬ rc ≤ 0 := fun h => by rw [hrc.mp h] at hfit; cases hfit
      rw [if_neg hpos, hfit]
      rfl
    · have hno := Bool.eq_false_iff.mpr hfit
      rw [if_pos (hrc.mpr hno), hno]
      rfl

end Calls

/-! ### The table as a map -/

/-- No topic of the set starts with another one. -/
def PrefixFree (S : List UInt8 → Prop) : Prop := ∀ s t, S s → S t → s <+: t → s = t

/-- The table holds the subscriptions, and no other topic than those of the set. -/
structure Represents (S : List UInt8 → Prop) (size : Nat) (c : SubscribeClient κ)
    (subs : Subscriptions κ) : Prop where
  valid : c.Valid size
  perm : (subscribed c.messageHandlers).Perm subs
  nodup : (subs.map (·.1)).Nodup
  topics : ∀ h ∈ c.messageHandlers, ∀ t, h.topicFilter = some t → S t

section Represents

variable {S : List UInt8 → Prop} {size : Nat} {c : SubscribeClient κ} {subs : Subscriptions κ}

/-- On the topics of the set, a handler is taken for a topic when it has it. -/
theorem Represents.names (hr : Represents S size c subs) (hS : PrefixFree S) {topic : List UInt8}
    (htopic : S topic) {h : MessageHandler κ} (hh : h ∈ c.messageHandlers) :
    h.names topic = true ↔ h.topicFilter = some topic := by
  rw [MessageHandler.names_iff]
  constructor
  · rintro ⟨filter, hfilter, hpre⟩
    rw [hfilter, hS topic filter htopic (hr.topics h hh filter hfilter) hpre]
  · intro hfilter
    exact ⟨topic, hfilter, List.prefix_refl topic⟩

theorem Represents.mem_keys (hr : Represents S size c subs) {topic : List UInt8} :
    topic ∈ subs.map (·.1) ↔ ∃ h ∈ c.messageHandlers, h.topicFilter = some topic := by
  rw [← mem_topics hr.valid.callback]
  exact (hr.perm.map (·.1)).mem_iff.symm

theorem Represents.any_names (hr : Represents S size c subs) (hS : PrefixFree S)
    {topic : List UInt8} (htopic : S topic) :
    c.messageHandlers.any (·.names topic) = true ↔ topic ∈ subs.map (·.1) := by
  rw [hr.mem_keys, List.any_eq_true]
  exact exists_congr fun h => and_congr_right fun hh => hr.names hS htopic hh

/-- The client of a call that leaves the table alone. -/
theorem Represents.congr (hr : Represents S size c subs) {c' : SubscribeClient κ}
    (hhandlers : c'.messageHandlers = c.messageHandlers) (hbuf : c'.buf.length = size) :
    Represents S size c' subs where
  valid := ⟨by rw [hhandlers]; exact hr.valid.slots, hbuf,
    by rw [hhandlers]; exact hr.valid.callback⟩
  perm := by rw [hhandlers]; exact hr.perm
  nodup := hr.nodup
  topics := by rw [hhandlers]; exact hr.topics

/-- A new subscription in a free slot. -/
theorem Represents.fill (hr : Represents S size c subs) {topic : List UInt8} (htopic : S topic)
    (hnew : topic ∉ subs.map (·.1)) (callback : κ) (strdup : Bool) {i : Nat}
    (hi : c.messageHandlers.findIdx? (·.topicFilter.isNone) = some i) {c' : SubscribeClient κ}
    (hbuf : c'.buf.length = size)
    (hc' : c'.messageHandlers = c.messageHandlers.modify i fun _ =>
      ⟨if strdup then some topic else none, some callback, qos1⟩) :
    Represents S size c' (if strdup then (topic, callback) :: subs else subs) := by
  obtain ⟨pre, h, post, hsplit, rfl, hfree, -⟩ := split_of_findIdx? hi
  have hslots := hr.valid.slots
  have hcb := hr.valid.callback
  have htopics := hr.topics
  have hperm := hr.perm
  have hnone : h.subscription = none := by
    rw [MessageHandler.subscription, Option.isNone_iff_eq_none.mp hfree]
  rw [hsplit, modify_append] at hc'
  rw [hsplit] at hslots hcb htopics hperm
  rw [subscribed, List.filterMap_append, List.filterMap_cons_none hnone] at hperm
  refine ⟨⟨?_, hbuf, ?_⟩, ?_, ?_, ?_⟩
  · rw [hc', ← hslots]
    simp
  · intro x hx hfilter
    rw [hc', List.mem_append, List.mem_cons] at hx
    rcases hx with hx | rfl | hx
    · exact hcb x (by simp [hx]) hfilter
    · rfl
    · exact hcb x (by simp [hx]) hfilter
  · rw [hc', subscribed, List.filterMap_append]
    cases strdup with
    | false => exact hperm
    | true => exact List.perm_middle.trans (hperm.cons _)
  · cases strdup with
    | false => exact hr.nodup
    | true => exact List.nodup_cons.mpr ⟨hnew, hr.nodup⟩
  · intro x hx t ht
    rw [hc', List.mem_append, List.mem_cons] at hx
    rcases hx with hx | rfl | hx
    · exact htopics x (by simp [hx]) t ht
    · cases strdup with
      | false => cases ht
      | true => rwa [← Option.some.inj ht]
    · exact htopics x (by simp [hx]) t ht

/-- A subscription that is taken out of its slot. -/
theorem Represents.clear (hr : Represents S size c subs) (hS : PrefixFree S) {topic : List UInt8}
    (htopic : S topic) {i : Nat} (hi : c.messageHandlers.findIdx? (·.names topic) = some i)
    {c' : SubscribeClient κ} (hbuf : c'.buf.length = size)
    (hc' : c'.messageHandlers = c.messageHandlers.modify i fun h =>
      { h with topicFilter := none, callback := none }) :
    Represents S size c' (subs.filter (·.1 ≠ topic)) := by
  obtain ⟨pre, h, post, hsplit, rfl, hnames, -⟩ := split_of_findIdx? hi
  have hslots := hr.valid.slots
  have hcb := hr.valid.callback
  have htopics := hr.topics
  have hperm := hr.perm
  have hmem : h ∈ c.messageHandlers := by rw [hsplit]; simp
  have hfilter := (hr.names hS htopic hmem).mp hnames
  obtain ⟨k, hk⟩ := Option.isSome_iff_exists.mp (hcb h hmem (by rw [hfilter]; rfl))
  have hsome : h.subscription = some (topic, k) := by
    rw [MessageHandler.subscription, hfilter, hk]
  rw [hsplit, modify_append] at hc'
  rw [hsplit] at hslots hcb htopics hperm
  rw [subscribed, List.filterMap_append, List.filterMap_cons_some hsome] at hperm
  have hleft : (subscribed pre ++ subscribed post).Perm (subs.filter (·.1 ≠ topic)) := by
    -- The topic occurs once, so the filter takes this one subscription.
    have hmiddle := List.perm_middle.symm.trans hperm
    have hnodup := (hmiddle.map (·.1)).nodup_iff.mpr hr.nodup
    rw [List.map_cons, List.nodup_cons] at hnodup
    have hkeep : (subscribed pre ++ subscribed post).filter (·.1 ≠ topic) =
        subscribed pre ++ subscribed post := by
      refine List.filter_eq_self.mpr fun p hp => decide_eq_true fun heq => hnodup.1 ?_
      exact List.mem_map.mpr ⟨p, hp, heq⟩
    have hfiltered := hmiddle.filter (·.1 ≠ topic)
    rw [List.filter_cons_of_neg (by simp)] at hfiltered
    exact (List.Perm.of_eq hkeep.symm).trans hfiltered
  have hempty : ({ h with topicFilter := none, callback := none } : MessageHandler κ).subscription
      = none := rfl
  refine ⟨⟨?_, hbuf, ?_⟩, ?_, ?_, ?_⟩
  · rw [hc', ← hslots]
    simp
  · intro x hx hxfilter
    rw [hc', List.mem_append, List.mem_cons] at hx
    rcases hx with hx | rfl | hx
    · exact hcb x (by simp [hx]) hxfilter
    · cases hxfilter
    · exact hcb x (by simp [hx]) hxfilter
  · rw [hc', subscribed, List.filterMap_append, List.filterMap_cons_none hempty]
    exact hleft
  · exact (List.Sublist.map _ List.filter_sublist).nodup hr.nodup
  · intro x hx t ht
    rw [hc', List.mem_append, List.mem_cons] at hx
    rcases hx with hx | rfl | hx
    · exact htopics x (by simp [hx]) t ht
    · cases ht
    · exact htopics x (by simp [hx]) t ht

/-- There is no free slot when the map has as many topics as there are slots. -/
theorem Represents.full_iff (hr : Represents S size c subs) :
    c.messageHandlers.findIdx? (·.topicFilter.isNone) = none ↔
      subs.length = maxMessageHandlers := by
  rw [no_free_slot_iff hr.valid.callback, hr.valid.slots, hr.perm.length_eq]

theorem Represents.subscribe (hr : Represents S size c subs) (hS : PrefixFree S)
    (hsize : size < 128 ^ maxNoOfRemainingLengthBytes) (io : SubscribeIO) {topic : List UInt8}
    (htopic : S topic) (callback : κ) :
    Represents S size (pahoMqttSubscribe io qos1 topic (some callback) c).2
        (subs.call size (.subscribe io topic callback)).1 ∧
      (pahoMqttSubscribe io qos1 topic (some callback) c).1 =
        (subs.call size (.subscribe io topic callback)).2 := by
  obtain ⟨c', ⟨hsame, hbuf⟩, heq⟩ := pahoMqttSubscribe_cases hr.valid hsize io topic callback
  rw [heq, Subscriptions.call]
  by_cases hknown : topic ∈ subs.map (·.1)
  · rw [if_pos ((hr.any_names hS htopic).mpr hknown), if_pos hknown]
    exact ⟨hr, rfl⟩
  rw [if_neg fun h => hknown ((hr.any_names hS htopic).mp h), if_neg hknown]
  cases hi : c.messageHandlers.findIdx? (·.topicFilter.isNone) with
  | none =>
    rw [if_pos (hr.full_iff.mp hi)]
    exact ⟨hr, rfl⟩
  | some i =>
    have hroom : ¬ subs.length = maxMessageHandlers := by
      rw [← hr.full_iff, hi]
      exact fun h => (nomatch h)
    rw [if_neg hroom]
    dsimp only
    by_cases hlong : (!topicFits size 5 topic) = true
    · rw [if_pos hlong, if_pos hlong]
      exact ⟨hr.congr hsame hbuf, rfl⟩
    rw [if_neg hlong, if_neg hlong]
    by_cases hsend : (!io.send) = true
    · rw [if_pos hsend, if_pos hsend]
      exact ⟨hr.congr hsame hbuf, rfl⟩
    rw [if_neg hsend, if_neg hsend]
    exact ⟨hr.fill htopic hknown callback io.strdup hi hbuf rfl, rfl⟩

theorem Represents.unsubscribe (hr : Represents S size c subs) (hS : PrefixFree S)
    (hsize : size < 128 ^ maxNoOfRemainingLengthBytes) (io : SubscribeIO) {topic : List UInt8}
    (htopic : S topic) :
    Represents S size (pahoMqttUnsubscribe io topic c).2
        (subs.call size (.unsubscribe io topic)).1 ∧
      (pahoMqttUnsubscribe io topic c).1 = (subs.call size (.unsubscribe io topic)).2 := by
  obtain ⟨c', ⟨hsame, hbuf⟩, heq⟩ := pahoMqttUnsubscribe_cases hr.valid hsize io topic
  have hfound : c.messageHandlers.findIdx? (·.names topic) = none ↔ topic ∉ subs.map (·.1) := by
    rw [← hr.any_names hS htopic, List.findIdx?_eq_none_iff, List.any_eq_true]
    simp only [not_exists, not_and]
    exact forall₂_congr fun h _ => Bool.eq_false_iff
  rw [heq, Subscriptions.call]
  cases hi : c.messageHandlers.findIdx? (·.names topic) with
  | none =>
    rw [if_pos (hfound.mp hi)]
    exact ⟨hr, rfl⟩
  | some i =>
    have hknown : ¬ topic ∉ subs.map (·.1) := by
      rw [← hfound, hi]
      exact fun h => (nomatch h)
    rw [if_neg hknown]
    dsimp only
    by_cases hlong : (!topicFits size 4 topic) = true
    · rw [if_pos hlong, if_pos hlong]
      exact ⟨hr.congr hsame hbuf, rfl⟩
    rw [if_neg hlong, if_neg hlong]
    by_cases hsend : (!io.send) = true
    · rw [if_pos hsend, if_pos hsend]
      exact ⟨hr.congr hsame hbuf, rfl⟩
    rw [if_neg hsend, if_neg hsend]
    exact ⟨hr.clear hS htopic hi hbuf rfl, rfl⟩

/-- The client with its table simulates the map. -/
theorem subscriber_simulation (hS : PrefixFree S)
    (hsize : size < 128 ^ maxNoOfRemainingLengthBytes) :
    Machine.Simulation (subscriber κ) (subscriptions κ size) (Represents S size)
      fun call => S call.topic := by
  intro c subs call hr htopic
  cases call with
  | subscribe io topic callback =>
    obtain ⟨hnext, hresult⟩ := hr.subscribe hS hsize io htopic callback
    exact ⟨hnext, congrArg (fun r => [r]) hresult⟩
  | unsubscribe io topic =>
    obtain ⟨hnext, hresult⟩ := hr.unsubscribe hS hsize io htopic
    exact ⟨hnext, congrArg (fun r => [r]) hresult⟩

end Represents

/-- The table of a new client is the empty map. -/
theorem represents_initial (S : List UInt8 → Prop) (size : Nat) :
    Represents S size (SubscribeClient.initial κ size) [] where
  valid := by
    refine ⟨List.length_replicate, List.length_replicate, fun h hh hf => ?_⟩
    rw [List.eq_of_mem_replicate hh] at hf
    cases hf
  perm := List.Perm.refl _
  nodup := List.nodup_nil
  topics h hh t ht := by
    rw [List.eq_of_mem_replicate hh] at ht
    cases ht

/-- In every run of subscriptions and unsubscriptions of topics of which none starts with
another, the table is the map: the same subscriptions and the same results, whatever the
network and the allocator answer. -/
theorem subscriber_refines (S : List UInt8 → Prop) (size : Nat) (calls : List (SubscribeCall κ))
    (hS : PrefixFree S) (hsize : size < 128 ^ maxNoOfRemainingLengthBytes)
    (hcalls : ∀ call ∈ calls, S call.topic) :
    let c := (subscriber κ).run (SubscribeClient.initial κ size) calls
    let subs := (subscriptions κ size).run [] calls
    (subscribed c.messageHandlers).Perm subs ∧ (subs.map (·.1)).Nodup ∧
      subs.length ≤ maxMessageHandlers ∧
      (subscriber κ).log (SubscribeClient.initial κ size) calls =
        (subscriptions κ size).log [] calls := by
  intro c subs
  obtain ⟨hr, hlog⟩ := (subscriber_simulation hS hsize).run calls _ _
    (represents_initial S size) hcalls
  refine ⟨hr.perm, hr.nodup, ?_, hlog⟩
  rw [← hr.valid.slots, ← hr.perm.length_eq]
  exact List.length_filterMap_le _ _

/-- Two topics in a buffer of 32 bytes, with a failure of the network in between. -/
theorem subscriber_refines_two :
    let calls : List (SubscribeCall Bool) := [.subscribe ⟨true, true⟩ (ofText "up") true,
      .subscribe ⟨false, true⟩ (ofText "down") false, .unsubscribe ⟨true, true⟩ (ofText "up")]
    let c := (subscriber Bool).run (SubscribeClient.initial Bool 32) calls
    let subs := (subscriptions Bool 32).run [] calls
    (subscribed c.messageHandlers).Perm subs ∧ (subs.map (·.1)).Nodup ∧
      subs.length ≤ maxMessageHandlers ∧
      (subscriber Bool).log (SubscribeClient.initial Bool 32) calls =
        (subscriptions Bool 32).log [] calls := by
  intro calls
  have hfree : PrefixFree fun t => t = ofText "up" ∨ t = ofText "down" := by
    intro s t hs ht hpre
    rcases hs with rfl | rfl <;> rcases ht with rfl | rfl
    case inl.inl => rfl
    case inl.inr => exact absurd hpre (by decide)
    case inr.inl => exact absurd hpre (by decide)
    case inr.inr => rfl
  refine subscriber_refines (fun t => t = ofText "up" ∨ t = ofText "down") 32 calls hfree
    (by decide) fun call hcall => ?_
  simp only [calls, List.mem_cons, List.not_mem_nil, or_false] at hcall
  rcases hcall with rfl | rfl | rfl
  · exact .inl rfl
  · exact .inr rfl
  · exact .inl rfl

/-! ### Delivery -/

section Delivery

variable {handlers : List (MessageHandler κ)} {subs : Subscriptions κ}

/-- The callbacks of a message are those of the subscriptions that match it. -/
theorem deliverMessage_eq (d : Option κ) (t : List UInt8) :
    deliverMessage d t handlers =
      let called := (subscribed handlers).filterMap fun s =>
        if handlerMatches s.1 t then some s.2 else none
      if called = [] then d.toList else called := by
  have hcalled : handlers.filterMap (·.called t) =
      (subscribed handlers).filterMap fun s => if handlerMatches s.1 t then some s.2 else none := by
    rw [subscribed, List.filterMap_filterMap]
    refine List.filterMap_congr fun h _ => ?_
    rw [MessageHandler.subscription, MessageHandler.called]
    cases h.topicFilter with
    | none => rfl
    | some filter =>
      cases h.callback with
      | none => simp
      | some callback => rfl
  rw [deliverMessage, hcalled]

/-- The subscriptions of one topic, when no topic occurs twice. -/
theorem filterMap_topic (hnodup : (subs.map (·.1)).Nodup) {t : List UInt8} {k : κ}
    (hmem : (t, k) ∈ subs) :
    (subs.filterMap fun s => if t = s.1 then some s.2 else none) = [k] := by
  induction subs with
  | nil => cases hmem
  | cons s subs ih =>
    rw [List.map_cons, List.nodup_cons] at hnodup
    rw [List.filterMap_cons]
    rcases List.mem_cons.mp hmem with rfl | hmem
    · have hrest : (subs.filterMap fun s => if t = s.1 then some s.2 else none) = [] := by
        refine List.filterMap_eq_nil_iff.mpr fun s hs => if_neg fun heq => ?_
        exact hnodup.1 (List.mem_map.mpr ⟨s, hs, heq.symm⟩)
      rw [hrest, if_pos rfl]
    · have hne : ¬ t = s.1 := fun heq => hnodup.1 (List.mem_map.mpr ⟨(t, k), hmem, heq⟩)
      rw [if_neg hne]
      exact ih hnodup.2 hmem

/-- The filters that have no wildcard in them, as they are compared with a topic. -/
theorem filterMap_literal
    (hliteral : ∀ s ∈ subs, ∀ b ∈ s.1, b ≠ mqttMarks.plus ∧ b ≠ mqttMarks.hash)
    (t : List UInt8) :
    (subs.filterMap fun s => if handlerMatches s.1 t then some s.2 else none) =
      subs.filterMap fun s => if t = s.1 then some s.2 else none := by
  refine List.filterMap_congr fun s hs => ?_
  rw [handlerMatches_literal (hliteral s hs)]
  simp

/-- A message on a subscribed topic runs its callback. -/
theorem deliverMessage_subscribed (hperm : (subscribed handlers).Perm subs)
    (hnodup : (subs.map (·.1)).Nodup)
    (hliteral : ∀ s ∈ subs, ∀ b ∈ s.1, b ≠ mqttMarks.plus ∧ b ≠ mqttMarks.hash)
    {t : List UInt8} {k : κ} (hmem : (t, k) ∈ subs) (d : Option κ) :
    deliverMessage d t handlers = [k] := by
  have hcalled := hperm.filterMap fun s => if handlerMatches s.1 t then some s.2 else none
  rw [filterMap_literal hliteral, filterMap_topic hnodup hmem] at hcalled
  rw [deliverMessage_eq, List.perm_singleton.mp hcalled]
  rfl

/-- A message on any other topic runs the default handler. -/
theorem deliverMessage_default (hperm : (subscribed handlers).Perm subs)
    (hliteral : ∀ s ∈ subs, ∀ b ∈ s.1, b ≠ mqttMarks.plus ∧ b ≠ mqttMarks.hash)
    {t : List UInt8} (hno : t ∉ subs.map (·.1)) (d : Option κ) :
    deliverMessage d t handlers = d.toList := by
  have hcalled := hperm.filterMap fun s => if handlerMatches s.1 t then some s.2 else none
  have hnil : (subs.filterMap fun s => if t = s.1 then some s.2 else none) = [] := by
    refine List.filterMap_eq_nil_iff.mpr fun s hs => if_neg fun heq => hno ?_
    exact List.mem_map.mpr ⟨s, hs, heq.symm⟩
  rw [filterMap_literal hliteral, hnil] at hcalled
  rw [deliverMessage_eq, List.perm_nil.mp hcalled]
  rfl

end Delivery

/-! ### The subscriptions of the firmware -/

section Firmware

variable {size : Nat} {table : Subscriptions κ}

/-- A subscription from the table has reached the client. -/
def Reached (calls : List (SubscribeCall κ)) (p : List UInt8 × κ) : Prop :=
  .subscribe ⟨true, true⟩ p.1 p.2 ∈ calls

/-- A call subscribes to an entry of the table. -/
def FromTable (table : Subscriptions κ) (call : SubscribeCall κ) : Prop :=
  ∃ io, ∃ p ∈ table, call = .subscribe io p.1 p.2

/-- One call of an entry of the table adds it when it reaches the client. -/
theorem Subscriptions.call_table (hkeys : (table.map (·.1)).Nodup)
    (hroom : table.length ≤ maxMessageHandlers)
    (hfits : ∀ p ∈ table, topicFits size 5 p.1 = true) {subs : Subscriptions κ}
    (hsub : ∀ p ∈ subs, p ∈ table) (hnodup : subs.Nodup) (io : SubscribeIO)
    {p : List UInt8 × κ} (hp : p ∈ table) :
    let subs' := (subs.call size (.subscribe io p.1 p.2)).1
    subs'.Nodup ∧ ∀ q, q ∈ subs' ↔ q ∈ subs ∨ (q = p ∧ io = ⟨true, true⟩) := by
  -- An entry is known by its topic.
  have hentry : p.1 ∈ subs.map (·.1) → p ∈ subs := by
    intro h
    obtain ⟨q, hq, heq⟩ := List.mem_map.mp h
    rwa [← List.inj_on_of_nodup_map hkeys (hsub q hq) hp heq]
  intro subs'
  by_cases hknown : p.1 ∈ subs.map (·.1)
  · have hsame : subs' = subs := by
      show (subs.call size _).1 = subs
      rw [Subscriptions.call, if_pos hknown]
    rw [hsame]
    refine ⟨hnodup, fun q => ⟨.inl, ?_⟩⟩
    rintro (hq | ⟨rfl, -⟩)
    · exact hq
    · exact hentry hknown
  have hnew : p ∉ subs := fun h => hknown (List.mem_map.mpr ⟨p, h, rfl⟩)
  have hlength : ¬ subs.length = maxMessageHandlers := by
    -- With the new entry, the subscriptions are still among those of the table.
    have hle : (p :: subs).length ≤ table.length := by
      refine ((List.nodup_cons.mpr ⟨hnew, hnodup⟩).subperm fun q hq => ?_).length_le
      rcases List.mem_cons.mp hq with rfl | hq
      · exact hp
      · exact hsub q hq
    rw [List.length_cons] at hle
    omega
  obtain ⟨send, strdup⟩ := io
  have heq : subs' = if send && strdup then p :: subs else subs := by
    show (subs.call size _).1 = _
    rw [Subscriptions.call, if_neg hknown, if_neg hlength, hfits p hp]
    cases send <;> cases strdup <;> rfl
  rw [heq]
  cases send <;> cases strdup
  case true.true =>
    refine ⟨List.nodup_cons.mpr ⟨hnew, hnodup⟩, fun q => ?_⟩
    show q ∈ p :: subs ↔ _
    rw [List.mem_cons, or_comm]
    simp
  all_goals
    refine ⟨hnodup, fun q => ?_⟩
    simp

/-- After a run of subscriptions from a table of at most as many entries as there are slots,
the subscriptions are the entries that have reached the client. -/
theorem Subscriptions.run_table (hkeys : (table.map (·.1)).Nodup)
    (hroom : table.length ≤ maxMessageHandlers)
    (hfits : ∀ p ∈ table, topicFits size 5 p.1 = true) :
    ∀ (calls : List (SubscribeCall κ)) (subs : Subscriptions κ), (∀ p ∈ subs, p ∈ table) →
      subs.Nodup → (∀ call ∈ calls, FromTable table call) → ∀ q,
      q ∈ (subscriptions κ size).run subs calls ↔ q ∈ subs ∨ Reached calls q := by
  intro calls
  induction calls with
  | nil =>
    intro subs _ _ _ q
    rw [Machine.run_nil, Reached]
    simp
  | cons call calls ih =>
    intro subs hsub hnodup hcalls q
    obtain ⟨io, p, hp, rfl⟩ := hcalls call List.mem_cons_self
    obtain ⟨hnodup', hmem⟩ := Subscriptions.call_table hkeys hroom hfits hsub hnodup io hp
    have hsub' : ∀ q ∈ (subs.call size (.subscribe io p.1 p.2)).1, q ∈ table := by
      intro q hq
      rcases (hmem q).mp hq with hq | ⟨rfl, -⟩
      · exact hsub q hq
      · exact hp
    have hrest := ih _ hsub' hnodup' (fun c hc => hcalls c (List.mem_cons_of_mem _ hc)) q
    have hhead : (q = p ∧ io = ⟨true, true⟩) ↔
        SubscribeCall.subscribe ⟨true, true⟩ q.1 q.2 = .subscribe io p.1 p.2 := by
      rw [SubscribeCall.subscribe.injEq, eq_comm (a := io), Prod.ext_iff]
      tauto
    rw [Machine.run_cons, Reached, List.mem_cons, ← hhead, ← or_assoc, ← hmem q]
    exact hrest

end Firmware

/-- A subscription of the firmware reaches the client in some round. -/
theorem reached_rounds (rounds : List (List (Option SubscribeIO)))
    (p : List UInt8 × FirmwareHandler) :
    Reached (rounds.flatMap mqttSubInit) p ↔ firmwareAnswered rounds p = true := by
  rw [Reached, firmwareAnswered, List.mem_flatMap, List.any_eq_true]
  refine exists_congr fun answers => and_congr_right fun _ => ?_
  rw [mqttSubInit, List.mem_filterMap, List.any_eq_true]
  refine exists_congr fun s => and_congr_right fun _ => ?_
  rw [Bool.and_eq_true, decide_eq_true_eq, decide_eq_true_eq]
  obtain ⟨q, answer⟩ := s
  cases answer with
  | none => exact iff_of_false (fun h => (nomatch h)) fun h => (nomatch h.2)
  | some io =>
    show some (SubscribeCall.subscribe io q.1 q.2) = some (.subscribe ⟨true, true⟩ p.1 p.2) ↔ _
    rw [Option.some.injEq, SubscribeCall.subscribe.injEq, Option.some.injEq, Prod.ext_iff]
    tauto

theorem fromTable_rounds (rounds : List (List (Option SubscribeIO))) :
    ∀ call ∈ rounds.flatMap mqttSubInit, FromTable firmwareTopics call := by
  intro call hcall
  obtain ⟨answers, -, hcall⟩ := List.mem_flatMap.mp hcall
  obtain ⟨⟨p, answer⟩, hs, heq⟩ := List.mem_filterMap.mp hcall
  obtain ⟨io, -, rfl⟩ := Option.map_eq_some_iff.mp heq
  exact ⟨io, p, (List.of_mem_zip hs).1, rfl⟩

/-- No topic of the firmware starts with another one. -/
theorem prefixFree_firmware : PrefixFree fun t => t ∈ firmwareTopics.map (·.1) := by
  have hall : ∀ s ∈ firmwareTopics.map (·.1), ∀ t ∈ firmwareTopics.map (·.1),
      s <+: t → s = t := by decide
  exact fun s t hs ht => hall s hs t ht

/-- The handlers of a message are the handler of its topic, after any rounds. -/
theorem firmwareDeliver_eq (rounds : List (List (Option SubscribeIO))) (topicName : List UInt8) :
    firmwareDeliver topicName ((subscriber FirmwareHandler).run
        (SubscribeClient.initial FirmwareHandler readbufSize) (rounds.flatMap mqttSubInit)) =
      [firmwareHandler rounds topicName] := by
  have hfrom := fromTable_rounds rounds
  have hcalls : ∀ call ∈ rounds.flatMap mqttSubInit,
      call.topic ∈ firmwareTopics.map (·.1) := by
    intro call hcall
    obtain ⟨io, p, hp, rfl⟩ := hfrom call hcall
    exact List.mem_map.mpr ⟨p, hp, rfl⟩
  obtain ⟨hr, -⟩ := (subscriber_simulation prefixFree_firmware (by decide)).run
    (rounds.flatMap mqttSubInit) _ _ (represents_initial _ readbufSize) hcalls
  have hmem : ∀ q, q ∈ (subscriptions FirmwareHandler readbufSize).run []
      (rounds.flatMap mqttSubInit) ↔ firmwareAnswered rounds q = true := by
    intro q
    rw [Subscriptions.run_table (by decide) (by decide) (by decide) _ [] (by simp)
      List.nodup_nil hfrom q, reached_rounds]
    simp
  have htable : ∀ q, firmwareAnswered rounds q = true → q ∈ firmwareTopics := by
    intro q hq
    obtain ⟨answers, -, hany⟩ := List.any_eq_true.mp hq
    obtain ⟨s, hs, heq⟩ := List.any_eq_true.mp hany
    rw [Bool.and_eq_true, decide_eq_true_eq] at heq
    rw [← heq.1]
    exact (List.of_mem_zip hs).1
  have hliteral : ∀ s ∈ (subscriptions FirmwareHandler readbufSize).run []
      (rounds.flatMap mqttSubInit), ∀ b ∈ s.1, b ≠ mqttMarks.plus ∧ b ≠ mqttMarks.hash := by
    have hall : ∀ s ∈ firmwareTopics, ∀ b ∈ s.1, b ≠ mqttMarks.plus ∧ b ≠ mqttMarks.hash := by
      decide +kernel
    exact fun s hs => hall s (htable s ((hmem s).mp hs))
  rw [firmwareHandler]
  cases hfind : firmwareTopics.find? fun p => p.1 = topicName && firmwareAnswered rounds p with
  | some p =>
    have hp := List.find?_some hfind
    rw [Bool.and_eq_true, decide_eq_true_eq] at hp
    obtain ⟨rfl, hanswered⟩ := hp
    exact deliverMessage_subscribed hr.perm hr.nodup hliteral ((hmem p).mpr hanswered) _
  | none =>
    refine deliverMessage_default hr.perm hliteral (fun h => ?_) _
    obtain ⟨q, hq, heq⟩ := List.mem_map.mp h
    have hanswered := (hmem q).mp hq
    refine List.find?_eq_none.mp hfind q (htable q hanswered) ?_
    rw [Bool.and_eq_true, decide_eq_true_eq]
    exact ⟨heq, hanswered⟩

/-- After any number of rounds of `mqtt_sub_init`, with any answers of the network and the
allocator: a message on a topic of the firmware runs its own handler and no other, if some
round has subscribed to it, and every other message runs the default handler alone. -/
theorem firmware_delivery (rounds : List (List (Option SubscribeIO))) (topicName : List UInt8) :
    firmwareDeliver topicName ((subscriber FirmwareHandler).run
        (SubscribeClient.initial FirmwareHandler readbufSize) (rounds.flatMap mqttSubInit)) =
      match firmwareTopics.find? fun p => p.1 = topicName && firmwareAnswered rounds p with
      | some p => [p.2]
      | none => [.mqttSubDefaultCallback] := by
  rw [firmwareDeliver_eq, firmwareHandler]
  cases firmwareTopics.find? fun p => p.1 = topicName && firmwareAnswered rounds p with
  | some p => rfl
  | none => rfl

/-! ### Lost subscriptions -/

/-- A slot that a call fills or clears keeps the client valid. -/
theorem SubscribeClient.Valid.modify {size : Nat} {c c' : SubscribeClient κ} (hv : c.Valid size)
    (hbuf : c'.buf.length = size) {p : MessageHandler κ → Bool} {i : Nat}
    (hi : c.messageHandlers.findIdx? p = some i) {f : MessageHandler κ → MessageHandler κ}
    (hf : ∀ h, (f h).topicFilter.isSome → (f h).callback.isSome)
    (hc' : c'.messageHandlers = c.messageHandlers.modify i f) : c'.Valid size := by
  obtain ⟨pre, h, post, hsplit, rfl, -, -⟩ := split_of_findIdx? hi
  have hcb := hv.callback
  refine ⟨by rw [hc', List.length_modify]; exact hv.slots, hbuf, fun x hx hfilter => ?_⟩
  rw [hc', hsplit, modify_append, List.mem_append, List.mem_cons] at hx
  rw [hsplit] at hcb
  rcases hx with hx | rfl | hx
  · exact hcb x (by simp [hx]) hfilter
  · exact hf h hfilter
  · exact hcb x (by simp [hx]) hfilter

/-- Every call keeps the client valid. -/
theorem SubscribeClient.Valid.run {size : Nat} {c : SubscribeClient κ} (hv : c.Valid size)
    (hsize : size < 128 ^ maxNoOfRemainingLengthBytes) (call : SubscribeCall κ) :
    (call.run c).2.Valid size := by
  -- A call that leaves the table alone.
  have hkeep : ∀ c' : SubscribeClient κ, c'.messageHandlers = c.messageHandlers →
      c'.buf.length = size → c'.Valid size := by
    intro c' hsame hbuf
    exact ⟨by rw [hsame]; exact hv.slots, hbuf, by rw [hsame]; exact hv.callback⟩
  cases call with
  | subscribe io topic callback =>
    obtain ⟨c', ⟨hsame, hbuf⟩, heq⟩ := pahoMqttSubscribe_cases hv hsize io topic callback
    show (pahoMqttSubscribe io qos1 topic (some callback) c).2.Valid size
    rw [heq]
    split
    case isTrue => exact hv
    case isFalse =>
      cases hi : c.messageHandlers.findIdx? (·.topicFilter.isNone) with
      | none => exact hv
      | some i =>
        dsimp only
        split
        case isTrue => exact hkeep _ hsame hbuf
        case isFalse =>
          split
          case isTrue => exact hkeep _ hsame hbuf
          case isFalse => exact hv.modify hbuf hi (fun _ _ => rfl) rfl
  | unsubscribe io topic =>
    obtain ⟨c', ⟨hsame, hbuf⟩, heq⟩ := pahoMqttUnsubscribe_cases hv hsize io topic
    show (pahoMqttUnsubscribe io topic c).2.Valid size
    rw [heq]
    cases hi : c.messageHandlers.findIdx? (·.names topic) with
    | none => exact hv
    | some i =>
      dsimp only
      split
      case isTrue => exact hkeep _ hsame hbuf
      case isFalse =>
        split
        case isTrue => exact hkeep _ hsame hbuf
        case isFalse =>
          exact hv.modify (f := fun h => { h with topicFilter := none, callback := none }) hbuf hi
            (fun _ h => absurd h Bool.false_ne_true) rfl

/-- One subscription is lost exactly when its topic is not in the table, and a longer filter is or
the topic is too long for the buffer. -/
theorem SubscribeClient.Valid.lost_iff {size : Nat} {c : SubscribeClient κ} (hv : c.Valid size)
    (hsize : size < 128 ^ maxNoOfRemainingLengthBytes) (call : SubscribeCall κ) :
    call.Lost c ↔ call.Skipped size c := by
  cases call with
  | unsubscribe io topic => exact Iff.rfl
  | subscribe io topic callback =>
    obtain ⟨c', ⟨hsame, hbuf⟩, heq⟩ := pahoMqttSubscribe_cases hv hsize io topic callback
    refine and_congr_right fun hsend => and_congr_right fun hstrdup => ?_
    rw [heq]
    by_cases hknown : c.messageHandlers.any (·.names topic) = true
    · rw [if_pos hknown]
      obtain ⟨h, hh, hnames⟩ := List.any_eq_true.mp hknown
      have hshadows : c.Shadows topic := ⟨h, hh, MessageHandler.names_iff.mp hnames⟩
      exact and_congr_left fun _ => iff_of_true rfl (Or.inl hshadows)
    rw [if_neg hknown]
    have hno : ¬ c.Shadows topic := by
      rintro ⟨h, hh, hnames⟩
      exact hknown (List.any_eq_true.mpr ⟨h, hh, MessageHandler.names_iff.mpr hnames⟩)
    rw [or_iff_right hno]
    cases hi : c.messageHandlers.findIdx? (·.topicFilter.isNone) with
    | none =>
      -- The table is full, and the call says so.
      refine iff_of_false (fun h => absurd (show pahoFailure = pahoSuccess from h.1) (by decide)) ?_
      rintro ⟨⟨⟨h, hh, hfree⟩, -⟩, -⟩
      have hused := List.findIdx?_eq_none_iff.mp hi h hh
      rw [hfree] at hused
      cases hused
    | some i =>
      obtain ⟨pre, h, post, hsplit, rfl, hfree, -⟩ := split_of_findIdx? hi
      dsimp only
      cases hfits : topicFits size 5 topic with
      | false =>
        have hslot : c.Overlong size topic := by
          refine ⟨⟨h, ?_, Option.isNone_iff_eq_none.mp hfree⟩, hfits⟩
          rw [hsplit]
          exact List.mem_append_right pre List.mem_cons_self
        rw [Bool.not_false, if_pos rfl]
        dsimp only
        rw [hsame]
        exact and_congr_left fun _ => iff_of_true rfl hslot
      | true =>
        refine iff_of_false ?_ fun h => Bool.noConfusion (hfits.symm.trans h.1.2)
        rintro ⟨-, habsent⟩
        -- The slot that is filled has the topic.
        apply habsent
        rw [hsend, hstrdup]
        refine ⟨⟨some topic, some callback, qos1⟩, ?_, rfl⟩
        show _ ∈ c.messageHandlers.modify pre.length _
        rw [hsplit, modify_append]
        simp

/-- In every run of calls on any topics, a subscription is lost exactly when its topic is not in
the table, and a longer filter is or the topic is too long for the buffer. -/
theorem subscription_lost_iff (size : Nat) (calls : List (SubscribeCall κ))
    (hsize : size < 128 ^ maxNoOfRemainingLengthBytes) :
    (subscriber κ).Along (fun c call => call.Lost c ↔ call.Skipped size c)
      (SubscribeClient.initial κ size) calls := by
  intro pre call _
  have hvalid : ((subscriber κ).run (SubscribeClient.initial κ size) pre).Valid size :=
    (subscriber κ).run_invariant _ (fun _ call hv => hv.run hsize call) pre _
      (represents_initial (fun _ => True) size).valid
  exact hvalid.lost_iff hsize call

/-- After a subscription to `a/b`, one to `a` is lost in a buffer of 32 bytes. -/
theorem subscription_lost_example :
    let io : SubscribeIO := ⟨true, true⟩
    (SubscribeCall.subscribe io (ofText "a") ()).Lost
      ((subscriber Unit).run (SubscribeClient.initial Unit 32)
        [.subscribe io (ofText "a/b") ()]) := by
  intro io
  refine (subscription_lost_iff 32 [.subscribe io (ofText "a/b") (),
    .subscribe io (ofText "a") ()] (by decide) [.subscribe io (ofText "a/b") ()] _
    (List.prefix_refl _)).mpr ?_
  have htable : ((subscriber Unit).run (SubscribeClient.initial Unit 32)
      [.subscribe io (ofText "a/b") ()]).messageHandlers =
      [⟨some (ofText "a/b"), some (), qos1⟩, ⟨none, none, 0⟩, ⟨none, none, 0⟩] := by decide +kernel
  refine ⟨rfl, rfl, Or.inl ?_, ?_⟩
  · rw [SubscribeClient.Shadows, htable]
    exact ⟨_, List.mem_cons_self, _, rfl, by decide⟩
  · rw [htable]
    decide

end SmartBuilding
