import Mathlib.Data.List.Induction
import SmartBuilding.Lib.EventMachine

/-!
# `SmartBuilding.Lib.Pager`: a log that is read page by page

A writer appends records to a log, and a reader sends the log on in pages of at most `limit`
records. `Machine.Pages` says what a pager is for: the records sent are the first records of
the log, in order and each one once, and a page with room left over has reached the end.

A reader that looks for the next record before it checks the page limit takes one record too
many. `overreading` is the abstract machine of such a reader, which may also get the records
of a page wrong (`decode`). It has its place in the log after every event exactly when every
page had room for all that was unread, and was decoded right (`overreading_iff`).

A concrete pager meets `Pages` when a machine that simulates it does
(`Machine.Pages.of_simulation`).
-/

set_option autoImplicit false

variable {σ τ ρ ι : Type}

/-- One event: the writer appends a record, or the reader loads a page. `i` is what the load
depends on beside the log. -/
inductive PagerEvent (ρ ι : Type) where
  | write (r : ρ)
  | load (i : ι)

namespace PagerEvent

/-- The records written, in order. -/
def written (es : List (PagerEvent ρ ι)) : List ρ :=
  es.filterMap fun
    | .write r => some r
    | .load _ => none

/-- The records written since the last load. -/
def unread (es : List (PagerEvent ρ ι)) : List ρ :=
  es.foldl (fun rs e =>
    match e with
    | .write r => rs ++ [r]
    | .load _ => []) []

@[simp] theorem written_write (es : List (PagerEvent ρ ι)) (r : ρ) :
    written (es ++ [.write r]) = written es ++ [r] := by
  simp [written]

@[simp] theorem written_load (es : List (PagerEvent ρ ι)) (i : ι) :
    written (es ++ [.load i]) = written es := by
  simp [written]

@[simp] theorem unread_write (es : List (PagerEvent ρ ι)) (r : ρ) :
    unread (es ++ [.write r]) = unread es ++ [r] := by
  simp [unread]

@[simp] theorem unread_load (es : List (PagerEvent ρ ι)) (i : ι) :
    unread (es ++ [.load i]) = [] := by
  simp [unread]

end PagerEvent

open PagerEvent

/-- The pages of a run go through the log: nothing is lost, and nothing is sent twice. -/
structure Machine.Pages (m : Machine σ (PagerEvent ρ ι) ρ) (limit : Nat) (s : σ)
    (es : List (PagerEvent ρ ι)) : Prop where
  /-- The records sent are the first records written, in order. -/
  sent_prefix : ∀ pre, pre <+: es → m.log s pre <+: written pre
  /-- No page is longer than the limit. -/
  page_le : ∀ pre i, pre ++ [.load i] <+: es →
    (m.out (m.run s pre) (.load i)).length ≤ limit
  /-- After a page below the limit, everything written has been sent. -/
  short_page : ∀ pre i, pre ++ [.load i] <+: es →
    (m.out (m.run s pre) (.load i)).length < limit →
    m.log s (pre ++ [.load i]) = written pre

/-- The pages of a machine are those of a machine that simulates it. -/
theorem Machine.Pages.of_simulation {m : Machine σ (PagerEvent ρ ι) ρ}
    {n : Machine τ (PagerEvent ρ ι) ρ} {R : σ → τ → Prop} {E : PagerEvent ρ ι → Prop}
    (hsim : Machine.Simulation m n R E) {limit : Nat} {s : σ} {t : τ}
    {es : List (PagerEvent ρ ι)} (h0 : R s t) (hE : ∀ e ∈ es, E e)
    (h : n.Pages limit t es) : m.Pages limit s es := by
  have hrun : ∀ pre, pre <+: es → R (m.run s pre) (n.run t pre) ∧ m.log s pre = n.log t pre :=
    fun pre hpre => hsim.run pre s t h0 fun e he => hE e (hpre.subset he)
  have hout : ∀ pre i, pre ++ [.load i] <+: es →
      m.out (m.run s pre) (.load i) = n.out (n.run t pre) (.load i) := by
    intro pre i hpre
    -- The states before the load are related, so the load emits the same page.
    have hbefore : pre <+: es := (List.prefix_append pre _).trans hpre
    exact (hsim _ _ _ (hrun pre hbefore).1 (hE _ (hpre.subset (by simp)))).2
  refine ⟨fun pre hpre => ?_, fun pre i hpre => ?_, fun pre i hpre hshort => ?_⟩
  · rw [(hrun pre hpre).2]
    exact h.sent_prefix pre hpre
  · rw [hout pre i hpre]
    exact h.page_le pre i hpre
  · rw [hout pre i hpre] at hshort
    rw [(hrun _ hpre).2]
    exact h.short_page pre i hpre hshort

/-! ### A reader that takes one record too many -/

/-- A log and the place of its reader: `next` records are behind it. -/
structure PagedLog (ρ : Type) where
  records : List ρ
  next : Nat

namespace PagedLog

/-- The log before the first event. -/
def empty : PagedLog ρ := ⟨[], 0⟩

/-- The records before the reader. -/
def rest (s : PagedLog ρ) : List ρ := s.records.drop s.next

/-- The machine of a reader that goes past one record more than a full page has. `decode`
is what the reader makes of a page. -/
def overreading (limit : Nat) (decode : List ρ → List ρ) :
    Machine (PagedLog ρ) (PagerEvent ρ ι) ρ where
  step s
    | .write r => { s with records := s.records ++ [r] }
    | .load _ => { s with next := s.next + (s.rest.take (limit + 1)).length }
  out s
    | .write _ => []
    | .load _ => decode (s.rest.take limit)

/-- The reader is in its place after the events `es`: what it went past was sent, and the
rest is unread. -/
structure InPlace (limit : Nat) (decode : List ρ → List ρ) (es : List (PagerEvent ρ ι)) :
    Prop where
  sent : (overreading limit decode).log empty es ++ unread es = written es
  next : ((overreading limit decode).run empty es).next =
    ((overreading limit decode).log empty es).length

section
variable {limit : Nat} {decode : List ρ → List ρ} {es : List (PagerEvent ρ ι)}

/-- The log holds what was written. -/
theorem records_run (es : List (PagerEvent ρ ι)) :
    ((overreading limit decode).run empty es).records = written es := by
  induction es using List.reverseRecOn with
  | nil => rfl
  | append_singleton es e ih =>
    rw [Machine.run_append]
    cases e with
    | write r => rw [written_write, ← ih]; rfl
    | load i => rw [written_load, ← ih]; rfl

theorem InPlace.nil : InPlace limit decode ([] : List (PagerEvent ρ ι)) := ⟨rfl, rfl⟩

/-- The reader in its place sees the unread records. -/
theorem InPlace.rest (h : InPlace limit decode es) :
    ((overreading limit decode).run empty es).rest = unread es := by
  rw [PagedLog.rest, records_run, h.next, ← h.sent, List.drop_left]

theorem InPlace.write (h : InPlace limit decode es) (r : ρ) :
    InPlace limit decode (es ++ [.write r]) := by
  refine ⟨?_, ?_⟩
  · rw [Machine.log_concat, unread_write, written_write, ← h.sent]
    simp [overreading]
  · rw [Machine.run_append, Machine.log_concat]
    simpa [overreading] using h.next

/-- The log after a load. -/
theorem InPlace.log_load (h : InPlace limit decode es) (i : ι) :
    (overreading limit decode).log empty (es ++ [.load i]) =
      (overreading limit decode).log empty es ++ decode ((unread es).take limit) := by
  rw [Machine.log_concat, ← h.rest]
  rfl

/-- The place of the reader after a load. -/
theorem InPlace.next_load (h : InPlace limit decode es) (i : ι) :
    ((overreading limit decode).run empty (es ++ [.load i])).next =
      ((overreading limit decode).log empty es).length +
        ((unread es).take (limit + 1)).length := by
  rw [Machine.run_append, ← h.rest, ← h.next]
  rfl

/-- A load keeps the reader in its place when the unread records fit into the page and are
decoded right. -/
theorem InPlace.load (h : InPlace limit decode es) (hfit : (unread es).length ≤ limit)
    (hdecode : decode (unread es) = unread es) (i : ι) :
    InPlace limit decode (es ++ [.load i]) := by
  refine ⟨?_, ?_⟩
  · rw [h.log_load, List.take_of_length_le hfit, hdecode, unread_load, written_load,
      List.append_nil, h.sent]
  · rw [h.log_load, h.next_load, List.take_of_length_le hfit, hdecode,
      List.take_of_length_le (by omega), List.length_append]

/-- Only such a load keeps the records sent a beginning of the log and the reader in its
place. -/
theorem InPlace.of_load (hlength : ∀ rs, (decode rs).length = rs.length)
    (h : InPlace limit decode es) (i : ι)
    (hsent : (overreading limit decode).log empty (es ++ [.load i]) <+: written es)
    (hnext : ((overreading limit decode).run empty (es ++ [.load i])).next =
      ((overreading limit decode).log empty (es ++ [.load i])).length) :
    (unread es).length ≤ limit ∧ decode (unread es) = unread es := by
  rw [h.log_load, ← h.sent, List.prefix_append_right_inj] at hsent
  rw [h.log_load, h.next_load, List.length_append, hlength, List.length_take,
    List.length_take] at hnext
  -- The place moved by one more than was sent, unless everything fitted.
  have hfit : (unread es).length ≤ limit := by omega
  rw [List.take_of_length_le hfit] at hsent
  -- A beginning of the same length is the whole.
  exact ⟨hfit, hsent.eq_of_length (hlength _)⟩

/-- When every page has room for all that is unread and is decoded right, the reader is in
its place after every event. -/
theorem inPlace_of_pages (h : ∀ pre i, pre ++ [.load i] <+: es →
      (unread pre).length ≤ limit ∧ decode (unread pre) = unread pre) :
    ∀ pre, pre <+: es → InPlace limit decode pre := by
  intro pre
  induction pre using List.reverseRecOn with
  | nil => intro _; exact InPlace.nil
  | append_singleton pre e ih =>
    intro hpre
    have hplace := ih ((List.prefix_append pre _).trans hpre)
    cases e with
    | write r => exact hplace.write r
    | load i =>
      obtain ⟨hfit, hdecode⟩ := h pre i hpre
      exact hplace.load hfit hdecode i

/-- A reader that sends a beginning of the log and stays behind its last record is in its
place after every event. -/
theorem inPlace_of_sent (hlength : ∀ rs, (decode rs).length = rs.length)
    (hsent : ∀ pre, pre <+: es → (overreading limit decode).log empty pre <+: written pre)
    (hnext : ∀ pre, pre <+: es → ((overreading limit decode).run empty pre).next =
      ((overreading limit decode).log empty pre).length) :
    ∀ pre, pre <+: es → InPlace limit decode pre := by
  intro pre
  induction pre using List.reverseRecOn with
  | nil => intro _; exact InPlace.nil
  | append_singleton pre e ih =>
    intro hpre
    have hplace := ih ((List.prefix_append pre _).trans hpre)
    cases e with
    | write r => exact hplace.write r
    | load i =>
      have hbegin := hsent _ hpre
      rw [written_load] at hbegin
      obtain ⟨hfit, hdecode⟩ := hplace.of_load hlength i hbegin (hnext _ hpre)
      exact hplace.load hfit hdecode i

/-- The overreading reader goes through the log, and is behind the last record sent after
every event, exactly when every page has room for all that is unread and is decoded
right. -/
theorem overreading_iff (hlength : ∀ rs, (decode rs).length = rs.length) :
    ((overreading limit decode).Pages limit empty es ∧
        ∀ pre, pre <+: es → ((overreading limit decode).run empty pre).next =
          ((overreading limit decode).log empty pre).length) ↔
      ∀ pre i, pre ++ [.load i] <+: es →
        (unread pre).length ≤ limit ∧ decode (unread pre) = unread pre := by
  constructor
  · rintro ⟨hpages, hnext⟩ pre i hpre
    -- In its place before the load, the reader sees the unread records.
    have hplace := inPlace_of_sent hlength hpages.sent_prefix hnext pre
      ((List.prefix_append pre _).trans hpre)
    have hbegin := hpages.sent_prefix _ hpre
    rw [written_load] at hbegin
    exact hplace.of_load hlength i hbegin (hnext _ hpre)
  · intro h
    have hplace := inPlace_of_pages h
    have hout : ∀ pre i, pre ++ [.load i] <+: es →
        (overreading limit decode).out ((overreading limit decode).run empty pre) (.load i) =
          unread pre := by
      intro pre i hpre
      obtain ⟨hfit, hdecode⟩ := h pre i hpre
      have hrest := (hplace pre ((List.prefix_append pre _).trans hpre)).rest
      show decode (((overreading limit decode).run empty pre).rest.take limit) = unread pre
      rw [hrest, List.take_of_length_le hfit, hdecode]
    refine ⟨⟨fun pre hpre => ?_, fun pre i hpre => ?_, fun pre i hpre _ => ?_⟩,
      fun pre hpre => (hplace pre hpre).next⟩
    · exact ⟨unread pre, (hplace pre hpre).sent⟩
    · rw [hout pre i hpre]
      exact (h pre i hpre).1
    · have hsent := (hplace _ hpre).sent
      rw [unread_load, written_load, List.append_nil] at hsent
      exact hsent

end

end PagedLog
