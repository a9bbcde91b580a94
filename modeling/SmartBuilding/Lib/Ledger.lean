import Mathlib.Data.List.Count
import Mathlib.Data.List.Nodup
import Mathlib.Tactic.Common

/-!
# `SmartBuilding.Lib.Ledger`: resources that are released exactly once

A ledger is the list of what a program did with its resources, in order: it acquired one,
used one, or released one. `Clean` is the ownership law: a resource that the ledger acquires
is released exactly once, and never used after that.

* `Clean.merge`: two clean ledgers over different resources are clean when they are merged.
  `Clean.append` is the case where one comes after the other.
* `clean_release_all`: a ledger without a release becomes clean when each of its resources is
  released at the end.
* `not_clean_of_released_twice`: a resource that is released a second time breaks the law
  for good, whatever follows.
-/

set_option autoImplicit false

namespace Ledger

/-- One entry: the resource `r` is acquired, used or released. -/
inductive Op (ρ : Type) where
  | acquire (r : ρ)
  | use (r : ρ)
  | release (r : ρ)
  deriving DecidableEq

/-- The resource of an entry. -/
def Op.resource {ρ : Type} : Op ρ → ρ
  | .acquire r => r
  | .use r => r
  | .release r => r

variable {ρ : Type}

/-- An entry about a resource that `f` names, under its new name. -/
def Op.rename {τ : Type} (f : ρ → Option τ) : Op ρ → Option (Op τ)
  | .acquire r => (f r).map .acquire
  | .use r => (f r).map .use
  | .release r => (f r).map .release

/-- The ledger releases nothing. -/
def NothingReleased (t : List (Op ρ)) : Prop := ∀ r, Op.release r ∉ t

@[simp] theorem nothingReleased_nil : NothingReleased ([] : List (Op ρ)) := by
  intro r hr
  simp at hr

@[simp] theorem nothingReleased_append {t s : List (Op ρ)} :
    NothingReleased (t ++ s) ↔ NothingReleased t ∧ NothingReleased s := by
  simp only [NothingReleased, List.mem_append, not_or, forall_and]

@[simp] theorem nothingReleased_cons {op : Op ρ} {t : List (Op ρ)} :
    NothingReleased (op :: t) ↔ (∀ r, op ≠ .release r) ∧ NothingReleased t := by
  simp only [NothingReleased, List.mem_cons, not_or, forall_and, ne_comm, ne_eq]

variable [DecidableEq ρ]

/-- The ledger releases `r` exactly once, and does not use it after that. -/
structure ReleasedOnce (r : ρ) (t : List (Op ρ)) : Prop where
  once : t.count (.release r) = 1
  not_used_after : ∀ pre post, t = pre ++ .release r :: post → Op.use r ∉ post

/-- Every resource that the ledger acquires is released exactly once, and never used after
that. -/
def Clean (t : List (Op ρ)) : Prop := ∀ r, Op.acquire r ∈ t → ReleasedOnce r t

@[simp] theorem clean_nil : Clean ([] : List (Op ρ)) := by
  intro r hr
  simp at hr

/-- A resource that is acquired, perhaps used, and released. -/
theorem clean_single (r : ρ) (used : Bool) :
    Clean (Op.acquire r :: ((if used then [.use r] else []) ++ [.release r])) := by
  intro r' hr'
  have hr : r' = r := by
    cases used <;> simpa using hr'
  subst hr
  refine ⟨?_, ?_⟩
  · cases used <;> simp
  · intro pre post h
    -- The release is the last entry, so nothing comes after it.
    rcases pre with _ | ⟨x, _ | ⟨y, _ | ⟨z, pre⟩⟩⟩ <;> cases used <;> simp_all

/-- Whether `r` is released once is decided by the entries about the resources of any part
that has `r`. -/
theorem releasedOnce_filter {p : ρ → Bool} {r : ρ} (hr : p r = true) {t : List (Op ρ)} :
    ReleasedOnce r (t.filter fun op => p op.resource) ↔ ReleasedOnce r t := by
  have hrelease : p (Op.release r).resource = true := hr
  have hcounts : (t.filter fun op => p op.resource).count (.release r) =
      t.count (.release r) :=
    List.count_filter (p := fun op : Op ρ => p op.resource) hrelease
  constructor
  · rintro ⟨hcount, hafter⟩
    rw [hcounts] at hcount
    refine ⟨hcount, ?_⟩
    rintro pre post rfl huse
    -- The entries before and after the release, without those of the other resources.
    refine hafter (pre.filter fun op => p op.resource) (post.filter fun op => p op.resource)
      ?_ (List.mem_filter.mpr ⟨huse, hr⟩)
    simp only [List.filter_append, List.filter_cons, hrelease, if_true]
  · rintro ⟨hcount, hafter⟩
    refine ⟨hcounts.trans hcount, ?_⟩
    intro pre post h huse
    obtain ⟨pre', rest, rfl, -, hrest⟩ := List.filter_eq_append_iff.mp h
    obtain ⟨mid, post', rfl, -, -, rfl⟩ := List.filter_eq_cons_iff.mp hrest
    refine hafter (pre' ++ mid) post' (by simp) ?_
    exact (List.mem_filter.mp huse).1

/-- A ledger is clean when its entries about some of the resources are, and its entries about
the others are. -/
theorem clean_of_filter (p : ρ → Bool) {t : List (Op ρ)}
    (hp : Clean (t.filter fun op => p op.resource))
    (hn : Clean (t.filter fun op => !p op.resource)) : Clean t := by
  intro r hr
  cases hpr : p r with
  | true => exact (releasedOnce_filter hpr).mp (hp r (List.mem_filter.mpr ⟨hr, hpr⟩))
  | false =>
    have hnr : (!p r) = true := by rw [hpr]; rfl
    have honce := hn r (List.mem_filter.mpr ⟨hr, hnr⟩)
    exact (releasedOnce_filter (p := fun r => !p r) hnr).mp honce

/-- Two clean ledgers over the resources inside and outside of `p` are clean when they are
merged. -/
theorem Clean.merge (p : ρ → Bool) {a b c d e : List (Op ρ)} (hin : Clean (b ++ d))
    (hout : Clean (a ++ c ++ e)) (hp : ∀ op ∈ b ++ d, p op.resource = true)
    (hn : ∀ op ∈ a ++ c ++ e, p op.resource = false) : Clean (a ++ b ++ c ++ d ++ e) := by
  simp only [List.mem_append, or_imp, forall_and] at hp hn
  obtain ⟨hb, hd⟩ := hp
  obtain ⟨⟨ha, hc⟩, he⟩ := hn
  have hnone : ∀ {l : List (Op ρ)}, (∀ op ∈ l, p op.resource = false) →
      (l.filter fun op => p op.resource) = [] ∧ (l.filter fun op => !p op.resource) = l :=
    fun h => ⟨List.filter_eq_nil_iff.mpr fun op hop => by simp [h op hop],
      List.filter_eq_self.mpr fun op hop => by simp [h op hop]⟩
  have hall : ∀ {l : List (Op ρ)}, (∀ op ∈ l, p op.resource = true) →
      (l.filter fun op => p op.resource) = l ∧ (l.filter fun op => !p op.resource) = [] :=
    fun h => ⟨List.filter_eq_self.mpr h,
      List.filter_eq_nil_iff.mpr fun op hop => by simp [h op hop]⟩
  refine clean_of_filter p ?_ ?_
  · simpa [List.filter_append, hnone ha, hnone hc, hnone he, hall hb, hall hd] using hin
  · simpa [List.filter_append, hnone ha, hnone hc, hnone he, hall hb, hall hd] using hout

/-- Two clean ledgers over different resources are clean one after the other. -/
theorem Clean.append {t s : List (Op ρ)} (ht : Clean t) (hs : Clean s)
    (hdisjoint : ∀ a ∈ t, ∀ b ∈ s, a.resource ≠ b.resource) : Clean (t ++ s) := by
  have hin : Clean (t ++ []) := by simpa using ht
  have hout : Clean ([] ++ [] ++ s) := by simpa using hs
  have hmerged := hin.merge (fun r => t.any fun a => a.resource = r) hout ?_ ?_
  · simpa using hmerged
  · intro a ha
    simp only [List.append_nil] at ha
    exact List.any_eq_true.mpr ⟨a, ha, by simp⟩
  · intro b hb
    simp only [List.nil_append] at hb
    simpa [List.any_eq_false] using fun a ha => hdisjoint a ha b hb

/-- A ledger without a release becomes clean when each of its resources is released at the
end, in any order. -/
theorem clean_release_all {t : List (Op ρ)} (ht : NothingReleased t) {rs : List ρ}
    (hnodup : rs.Nodup) (hall : ∀ r, Op.acquire r ∈ t → r ∈ rs) :
    Clean (t ++ rs.map .release) := by
  intro r hr
  have hacquired : Op.acquire r ∈ t := by simpa using hr
  have hmem : r ∈ rs := hall r hacquired
  refine ⟨?_, ?_⟩
  · have hinj : Function.Injective (Op.release : ρ → Op ρ) := fun a b h => by injection h
    rw [List.count_append, List.count_eq_zero_of_not_mem (ht r),
      List.count_map_of_injective rs _ hinj, List.count_eq_one_of_mem hnodup hmem]
  · intro pre post h huse
    -- The release comes after the whole of `t`, and only releases come after it.
    rcases List.append_eq_append_iff.mp h with ⟨mid, -, hmid⟩ | ⟨mid, hpre, hmid⟩
    · have hpost : Op.use r ∈ rs.map Op.release := by
        rw [hmid]
        exact List.mem_append_right _ (List.mem_cons_of_mem _ huse)
      simp at hpost
    · cases mid with
      | nil =>
        have hpost : Op.use r ∈ rs.map Op.release := by
          rw [List.nil_append] at hmid
          rw [← hmid]
          exact List.mem_cons_of_mem _ huse
        simp at hpost
      | cons x mid =>
        obtain ⟨rfl, -⟩ := List.cons.inj hmid
        exact ht r (hpre ▸ by simp)

/-- A resource that is released twice breaks the law for good. -/
theorem not_clean_of_released_twice {t : List (Op ρ)} {r : ρ} (hacquire : Op.acquire r ∈ t)
    (htwice : 2 ≤ t.count (.release r)) (s : List (Op ρ)) : ¬ Clean (t ++ s) := by
  intro h
  -- What follows can only add to the two releases.
  have honce := (h r (List.mem_append_left s hacquire)).once
  rw [List.count_append] at honce
  omega

end Ledger
