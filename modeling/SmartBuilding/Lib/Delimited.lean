import Mathlib.Tactic.Common

/-!
# `SmartBuilding.Lib.Delimited`: lists with separators, read and written

A `Reader` takes a value from the start of a text and leaves the rest of the text. `sepBy`
reads values with a separator between them up to an end mark, and `delimited` reads what is
behind an opening mark, where the end mark may follow at once. White space is dropped before
and behind every value.

`sepBy` has a bound on the number of values, so that it is structural.
A reader that takes at least one element (`Progress`) makes the bound harmless: every bound
above the length of the text gives the same result (`sepBy_rounds`).

A list is written with `List.intercalate`. `delimited_intercalate` is the round trip, for
values that the reader takes or refuses: the list is taken when all its values are.
-/

set_option autoImplicit false

namespace Delimited

variable {β α γ : Type}

/-- A reader: the value at the start of a text, and the rest of the text. -/
abbrev Reader (β α : Type) := List β → Option (α × List β)

/-- A reader takes at least one element. -/
def Progress (item : Reader β α) : Prop :=
  ∀ s x rest, item s = some (x, rest) → rest.length < s.length

section
variable [DecidableEq β] (skip : List β → List β) (item : Reader β α) (sep close : β)

/-- Values with separators up to the end mark: at least one value, and at most `rounds`. -/
def sepBy : Nat → Reader β (List α)
  | 0, _ => none
  | rounds + 1, s =>
      match item (skip s) with
      | none => none
      | some (x, rest) =>
          match skip rest with
          | [] => none
          | c :: rest =>
              if c = sep then (sepBy rounds rest).map fun r => (x :: r.1, r.2)
              else if c = close then some ([x], rest)
              else none

/-- What is behind an opening mark: nothing up to the end mark, or values with separators. -/
def delimited : Reader β (List α) := fun s =>
  if (skip s).head? = some close then some ([], (skip s).tail)
  else sepBy skip item sep close (s.length + 1) (skip s)

end

section
variable [DecidableEq β] {skip : List β → List β} {item : Reader β α} {sep close : β}

/-- A value with a separator behind it. -/
theorem sepBy_more {rounds : Nat} {s rest rest' : List β} {x : α}
    (hitem : item (skip s) = some (x, rest)) (hskip : skip rest = sep :: rest') :
    sepBy skip item sep close (rounds + 1) s =
      (sepBy skip item sep close rounds rest').map fun r => (x :: r.1, r.2) := by
  rw [sepBy, hitem]
  dsimp only
  rw [hskip]
  exact if_pos rfl

/-- A value with the end mark behind it. -/
theorem sepBy_last {rounds : Nat} {s rest rest' : List β} {x : α} (hne : close ≠ sep)
    (hitem : item (skip s) = some (x, rest)) (hskip : skip rest = close :: rest') :
    sepBy skip item sep close (rounds + 1) s = some ([x], rest') := by
  rw [sepBy, hitem]
  dsimp only
  rw [hskip]
  dsimp only
  rw [if_neg hne, if_pos rfl]

/-- A value that is refused. -/
theorem sepBy_refused {rounds : Nat} {s : List β} (hitem : item (skip s) = none) :
    sepBy skip item sep close rounds s = none := by
  cases rounds with
  | zero => rfl
  | succ rounds => rw [sepBy, hitem]

/-- What a round of `sepBy` does, when it gives a list. -/
theorem sepBy_cases {rounds : Nat} {s rest : List β} {xs : List α}
    (h : sepBy skip item sep close (rounds + 1) s = some (xs, rest)) :
    ∃ x behind c tail, item (skip s) = some (x, behind) ∧ skip behind = c :: tail ∧
      (xs = [x] ∧ rest = tail ∨
        ∃ ys, xs = x :: ys ∧ sepBy skip item sep close rounds tail = some (ys, rest)) := by
  rw [sepBy] at h
  cases hitem : item (skip s) with
  | none =>
    rw [hitem] at h
    cases h
  | some r =>
    rw [hitem] at h
    dsimp only at h
    cases hskip : skip r.2 with
    | nil =>
      rw [hskip] at h
      cases h
    | cons c tail =>
      rw [hskip] at h
      dsimp only at h
      refine ⟨r.1, r.2, c, tail, rfl, hskip, ?_⟩
      split at h
      · obtain ⟨r', hr', heq⟩ := Option.map_eq_some_iff.mp h
        obtain ⟨rfl, rfl⟩ := Prod.mk.inj heq
        exact Or.inr ⟨r'.1, rfl, hr'⟩
      · split at h
        · obtain ⟨rfl, rfl⟩ := Prod.mk.inj (Option.some.inj h)
          exact Or.inl ⟨rfl, rfl⟩
        · cases h

/-! ### What is read -/

/-- A list is not empty, and every value comes from the reader. -/
theorem forall_sepBy {P : α → Prop} (hitem : ∀ s x rest, item s = some (x, rest) → P x) :
    ∀ (rounds : Nat) (s : List β) (xs : List α) (rest : List β),
      sepBy skip item sep close rounds s = some (xs, rest) → ∀ x ∈ xs, P x := by
  intro rounds
  induction rounds with
  | zero => exact fun s xs rest h => (nomatch h)
  | succ rounds ih =>
    intro s xs rest h
    obtain ⟨x, behind, c, tail, hx, -, hlist⟩ := sepBy_cases h
    rcases hlist with ⟨rfl, -⟩ | ⟨ys, rfl, hys⟩
    · intro y hy
      rw [List.mem_singleton.mp hy]
      exact hitem _ _ _ hx
    · intro y hy
      rcases List.mem_cons.mp hy with rfl | hmem
      · exact hitem _ _ _ hx
      · exact ih tail ys rest hys y hmem

theorem forall_delimited {P : α → Prop} (hitem : ∀ s x rest, item s = some (x, rest) → P x)
    {s rest : List β} {xs : List α} (h : delimited skip item sep close s = some (xs, rest)) :
    ∀ x ∈ xs, P x := by
  rw [delimited] at h
  split at h
  · obtain ⟨rfl, -⟩ := Prod.mk.inj (Option.some.inj h)
    exact fun x hx => absurd hx List.not_mem_nil
  · exact forall_sepBy hitem _ _ _ _ h

variable (hskip : ∀ s, (skip s).length ≤ s.length)
include hskip

theorem sepBy_progress (hitem : Progress item) :
    ∀ rounds, Progress (sepBy skip item sep close rounds) := by
  intro rounds
  induction rounds with
  | zero => exact fun s xs rest h => (nomatch h)
  | succ rounds ih =>
    intro s xs rest h
    obtain ⟨x, behind, c, tail, hx, hbehind, hlist⟩ := sepBy_cases h
    have hlt := hitem _ _ _ hx
    have hle := hskip s
    have htail := hskip behind
    rw [hbehind, List.length_cons] at htail
    rcases hlist with ⟨-, rfl⟩ | ⟨ys, -, hys⟩
    · omega
    · have hrest := ih tail ys rest hys
      omega

theorem delimited_progress (hitem : Progress item) :
    Progress (delimited skip item sep close) := by
  intro s xs rest h
  have hle := hskip s
  rw [delimited] at h
  split at h
  · rename_i hclose
    obtain ⟨-, rfl⟩ := Prod.mk.inj (Option.some.inj h)
    obtain ⟨tail, htail⟩ := List.head?_eq_some_iff.mp hclose
    rw [htail, List.length_cons] at hle
    rw [htail, List.tail_cons]
    omega
  · have hlt := sepBy_progress hskip hitem _ _ _ _ h
    omega

/-- A bound above the length of the text never ends the list. -/
theorem sepBy_rounds (hitem : Progress item) :
    ∀ (n m : Nat) (s : List β), s.length < n → s.length < m →
      sepBy skip item sep close n s = sepBy skip item sep close m s := by
  intro n
  induction n with
  | zero => exact fun m s hn => absurd hn (Nat.not_lt_zero _)
  | succ n ih =>
    intro m s hn hm
    obtain ⟨m, rfl⟩ : ∃ k, m = k + 1 := ⟨m - 1, by omega⟩
    rw [sepBy, sepBy]
    cases hx : item (skip s) with
    | none => rfl
    | some r =>
      dsimp only
      cases hbehind : skip r.2 with
      | nil => rfl
      | cons c tail =>
        have hlt := hitem _ _ _ hx
        have hle := hskip s
        have htail := hskip r.2
        rw [hbehind, List.length_cons] at htail
        dsimp only
        rw [ih m tail (by omega) (by omega)]

end

/-! ### Round trip -/

section
variable [DecidableEq β] {skip : List β → List β} {item : Reader β γ} {sep close : β}
  {print : α → List β} {read : α → Option γ}

omit [DecidableEq β] in
/-- The text of a list of two values and more. -/
theorem intercalate_map_cons (sep : β) (x x' : α) (xs : List α) :
    [sep].intercalate ((x :: x' :: xs).map print) =
      print x ++ sep :: [sep].intercalate ((x' :: xs).map print) := by
  show [sep].intercalate (print x :: print x' :: xs.map print) = _
  rw [List.intercalate_cons_cons, List.append_assoc, List.singleton_append]
  rfl

omit [DecidableEq β] in
/-- What is in the text of a list: separators, and what is in the texts of the values. -/
theorem mem_intercalate {b : β} {texts : List (List β)} (h : b ∈ [sep].intercalate texts) :
    b = sep ∨ ∃ text ∈ texts, b ∈ text := by
  induction texts with
  | nil => exact absurd h List.not_mem_nil
  | cons text texts ih =>
    cases texts with
    | nil =>
      rw [List.intercalate_singleton] at h
      exact Or.inr ⟨text, List.mem_cons_self, h⟩
    | cons text' texts =>
      rw [List.intercalate_cons_cons, List.append_assoc, List.singleton_append] at h
      rcases List.mem_append.mp h with hfirst | hmore
      · exact Or.inr ⟨text, List.mem_cons_self, hfirst⟩
      · rcases List.mem_cons.mp hmore with hsep | hrest
        · exact Or.inl hsep
        · rcases ih hrest with hsep | ⟨u, hu, hb⟩
          · exact Or.inl hsep
          · exact Or.inr ⟨u, List.mem_cons_of_mem text hu, hb⟩

omit [DecidableEq β] in
/-- The joined texts are at least as long as the list, when no text is empty. -/
theorem length_le_intercalate (sep : β) (xs : List α) (hne : ∀ x ∈ xs, print x ≠ []) :
    xs.length ≤ ([sep].intercalate (xs.map print)).length := by
  induction xs with
  | nil => exact Nat.zero_le _
  | cons x xs ih =>
    have hx := List.length_pos_iff.mpr (hne x List.mem_cons_self)
    have hxs := ih fun y hy => hne y (List.mem_cons_of_mem x hy)
    cases xs with
    | nil =>
      rw [List.map_cons, List.map_nil, List.intercalate_singleton]
      exact hx
    | cons y ys =>
      rw [intercalate_map_cons, List.length_append]
      simp only [List.length_cons] at hxs ⊢
      omega

/-- Reading back values with separators. With a value that is refused there is no list. -/
theorem sepBy_intercalate (hne : close ≠ sep) (s : List β)
    (hsep : ∀ s, skip (sep :: s) = sep :: s) (hclose : skip (close :: s) = close :: s)
    (xs : List α) (hstart : ∀ x ∈ xs, ∀ s, skip (print x ++ s) = print x ++ s)
    (hread : ∀ x ∈ xs, ∀ c s, c = sep ∨ c = close →
      item (print x ++ c :: s) = (read x).map fun y => (y, c :: s)) :
    xs ≠ [] → ∀ rounds, xs.length ≤ rounds →
      sepBy skip item sep close rounds ([sep].intercalate (xs.map print) ++ close :: s) =
        (xs.mapM read).map fun ys => (ys, s) := by
  induction xs with
  | nil => exact fun h => absurd rfl h
  | cons x xs ih =>
    intro _ rounds hrounds
    rw [List.length_cons] at hrounds
    obtain ⟨n, rfl⟩ : ∃ k, rounds = k + 1 := ⟨rounds - 1, by omega⟩
    have hsome : ∀ t, skip (print x ++ t) = print x ++ t := hstart x List.mem_cons_self
    rw [List.mapM_cons]
    cases xs with
    | nil =>
      rw [List.map_cons, List.map_nil, List.intercalate_singleton]
      have hx := hread x List.mem_cons_self close s (Or.inr rfl)
      rw [← hsome] at hx
      cases hy : read x with
      | none =>
        rw [hy] at hx
        exact sepBy_refused hx
      | some y =>
        rw [hy] at hx
        exact sepBy_last hne hx hclose
    | cons x' xs =>
      have htext : [sep].intercalate ((x :: x' :: xs).map print) ++ close :: s =
          print x ++ sep :: ([sep].intercalate ((x' :: xs).map print) ++ close :: s) := by
        rw [intercalate_map_cons, List.append_assoc, List.cons_append]
      rw [htext]
      have hx := hread x List.mem_cons_self sep
        ([sep].intercalate ((x' :: xs).map print) ++ close :: s) (Or.inl rfl)
      rw [← hsome] at hx
      cases hy : read x with
      | none =>
        rw [hy] at hx
        exact sepBy_refused hx
      | some y =>
        rw [hy] at hx
        have hxs := ih (fun z hz => hstart z (List.mem_cons_of_mem x hz))
          (fun z hz => hread z (List.mem_cons_of_mem x hz)) (List.cons_ne_nil x' xs) n
          (Nat.le_of_succ_le_succ hrounds)
        rw [sepBy_more hx (hsep _), hxs]
        cases (x' :: xs).mapM read with
        | none => rfl
        | some ys => rfl

/-- The round trip of a list between its marks. -/
theorem delimited_intercalate (hne : close ≠ sep) (s : List β)
    (hsep : ∀ s, skip (sep :: s) = sep :: s) (hclose : skip (close :: s) = close :: s)
    (xs : List α) (hstart : ∀ x ∈ xs, ∀ s, skip (print x ++ s) = print x ++ s)
    (hhead : ∀ x ∈ xs, ∃ c t, print x = c :: t ∧ c ≠ close)
    (hread : ∀ x ∈ xs, ∀ c s, c = sep ∨ c = close →
      item (print x ++ c :: s) = (read x).map fun y => (y, c :: s)) :
    delimited skip item sep close ([sep].intercalate (xs.map print) ++ close :: s) =
      (xs.mapM read).map fun ys => (ys, s) := by
  cases xs with
  | nil =>
    rw [List.map_nil, List.intercalate_nil, List.nil_append, delimited, hclose,
      if_pos List.head?_cons]
    rfl
  | cons x xs =>
    have hnil : ∀ x' ∈ x :: xs, print x' ≠ [] := by
      intro x' hx'
      obtain ⟨c, t, hprint, -⟩ := hhead x' hx'
      rw [hprint]
      exact List.cons_ne_nil c t
    have hlength := length_le_intercalate sep (x :: xs) hnil
    have hfirst : ∃ rest, [sep].intercalate ((x :: xs).map print) = print x ++ rest := by
      cases xs with
      | nil =>
        rw [List.map_cons, List.map_nil, List.intercalate_singleton]
        exact ⟨[], (List.append_nil _).symm⟩
      | cons x' xs =>
        exact ⟨_, intercalate_map_cons sep x x' xs⟩
    obtain ⟨rest, hrest⟩ := hfirst
    obtain ⟨c, t, hprint, hc⟩ := hhead x List.mem_cons_self
    have hskip : skip ([sep].intercalate ((x :: xs).map print) ++ close :: s) =
        [sep].intercalate ((x :: xs).map print) ++ close :: s := by
      rw [hrest, List.append_assoc]
      exact hstart x List.mem_cons_self _
    have hopen : ([sep].intercalate ((x :: xs).map print) ++ close :: s).head? ≠ some close := by
      rw [hrest, hprint]
      exact fun h => hc (Option.some.inj h)
    rw [delimited, hskip, if_neg hopen]
    apply sepBy_intercalate hne s hsep hclose (x :: xs) hstart hread (List.cons_ne_nil x xs)
    rw [List.length_append]
    omega

end

end Delimited
