import Mathlib.Tactic.Common

/-!
# `SmartBuilding.Lib.TopicFilter`: topics with levels, and filters with wildcards

A topic is a list of levels, and a level is a word. A filter is a list of patterns: a word
that stands for itself, a wildcard for one level, and a wildcard for all levels that are left
(`Pattern`). `Matches` is the meaning of a filter in the publish-subscribe protocol: the last
wildcard also stands for no level at all, and a level may be empty.

On the wire, levels and patterns are joined by a separator (`joinLevels`, `render`). A filter
is well formed over given marks when its words have no marks in them and the wildcard for the
rest is last.

`Filled` says that the levels opposite a wildcard are not empty, and that there is a level
opposite the last one. It is what a matcher needs that looks at one character at a time.
-/

set_option autoImplicit false

namespace TopicFilter

variable {α : Type}

/-- One level of a filter. -/
inductive Pattern (α : Type) where
  | word (w : List α)
  | single
  | multi
  deriving DecidableEq, Repr

/-- The meaning of a filter. -/
def Matches : List (Pattern α) → List (List α) → Prop
  | [], [] => True
  | [.multi], _ => True
  | .single :: fs, _ :: ns => Matches fs ns
  | .word w :: fs, n :: ns => w = n ∧ Matches fs ns
  | _, _ => False

/-- The levels opposite the wildcards are not empty, and the last wildcard has one. -/
def Filled : List (Pattern α) → List (List α) → Prop
  | .multi :: _, ns => ∃ n rest, ns = n :: rest ∧ n ≠ []
  | .single :: fs, n :: ns => n ≠ [] ∧ Filled fs ns
  | .word _ :: fs, _ :: ns => Filled fs ns
  | _, _ => True

/-- Levels joined by a separator. -/
def joinLevels (sep : α) : List (List α) → List α
  | [] => []
  | [n] => n
  | n :: ns => n ++ sep :: joinLevels sep ns

/-- The marks of a filter: the separator, and the two wildcards. -/
structure Marks (α : Type) where
  sep : α
  plus : α
  hash : α

/-- A pattern as it is written. -/
def Pattern.render (m : Marks α) : Pattern α → List α
  | .word w => w
  | .single => [m.plus]
  | .multi => [m.hash]

/-- A filter as it is written. -/
def render (m : Marks α) (fs : List (Pattern α)) : List α :=
  joinLevels m.sep (fs.map (Pattern.render m))

/-- A word of a filter has no marks in it. -/
def Plain (m : Marks α) (w : List α) : Prop := ∀ c ∈ w, c ≠ m.sep ∧ c ≠ m.plus ∧ c ≠ m.hash

/-- The words have no marks in them, and the wildcard for the rest is last. -/
def WellFormed (m : Marks α) : List (Pattern α) → Prop
  | [] => True
  | .word w :: fs => Plain m w ∧ WellFormed m fs
  | .single :: fs => WellFormed m fs
  | .multi :: fs => fs = []

/-- What is behind a level of a joined list: nothing, or the separator and the other levels. -/
def behind (sep : α) : List (List α) → List α
  | [] => []
  | ns => sep :: joinLevels sep ns

theorem joinLevels_cons (sep : α) (n : List α) (ns : List (List α)) :
    joinLevels sep (n :: ns) = n ++ behind sep ns := by
  cases ns with
  | nil => rw [joinLevels, behind, List.append_nil]
  | cons n' ns => rfl

theorem render_cons (m : Marks α) (f : Pattern α) (fs : List (Pattern α)) :
    render m (f :: fs) = f.render m ++ behind m.sep (fs.map (Pattern.render m)) := by
  rw [render, List.map_cons, joinLevels_cons]

/-- What is behind a level is empty, or starts with a separator. -/
theorem behind_cases (sep : α) (ns : List (List α)) :
    behind sep ns = [] ∨ ∃ s, behind sep ns = sep :: s := by
  cases ns with
  | nil => exact Or.inl rfl
  | cons n ns => exact Or.inr ⟨_, rfl⟩

end TopicFilter
