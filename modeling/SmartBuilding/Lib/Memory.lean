import Mathlib.Tactic.Common

/-!
# `SmartBuilding.Lib.Memory`: writes into a block of memory

A block is a list of cells. `store buf pos xs` is the block after the cells `xs` are written
from `pos` on. It leaves the size of the block (`length_store`) and the cells before and behind
the write (`store_getElem?`), and two writes one behind the other are one write
(`store_store`).

`writeCells` is a write at a cursor. It moves the cursor behind what it wrote, and fails when
that would leave the block. A sequence of such writes is one write (`writeCells_append`).

Nothing here depends on a particular program.
-/

set_option autoImplicit false

namespace Memory

variable {α : Type}

/-- The buffer after `memcpy` of `xs` to the position `pos`. -/
def store (buf : List α) (pos : Nat) (xs : List α) : List α :=
  buf.take pos ++ xs ++ buf.drop (pos + xs.length)

theorem length_store (buf : List α) {pos : Nat} {xs : List α}
    (h : pos + xs.length ≤ buf.length) : (store buf pos xs).length = buf.length := by
  rw [store, List.length_append, List.length_append, List.length_take, List.length_drop]
  omega

theorem store_getElem? (buf : List α) {pos : Nat} {xs : List α}
    (h : pos + xs.length ≤ buf.length) (i : Nat) :
    (store buf pos xs)[i]? =
      if pos ≤ i ∧ i < pos + xs.length then xs[i - pos]? else buf[i]? := by
  have hpos : (buf.take pos).length = pos := by
    rw [List.length_take, Nat.min_eq_left (by omega)]
  rw [store, List.append_assoc, List.getElem?_append, hpos]
  by_cases h1 : i < pos
  · rw [if_pos h1, if_neg (by omega), List.getElem?_take_of_lt h1]
  · rw [if_neg h1, List.getElem?_append]
    by_cases h2 : i - pos < xs.length
    · rw [if_pos h2, if_pos (by omega)]
    · rw [if_neg h2, if_neg (by omega), List.getElem?_drop]
      congr 1
      omega

@[simp] theorem store_zero (buf xs : List α) :
    store buf 0 xs = xs ++ buf.drop xs.length := by
  rw [store, List.take_zero, List.nil_append, Nat.zero_add]

@[simp] theorem store_nil (buf : List α) (pos : Nat) : store buf pos [] = buf := by
  rw [store, List.append_nil, List.length_nil, Nat.add_zero, List.take_append_drop]

/-- Two writes one behind the other. -/
theorem store_store (buf : List α) {pos : Nat} (xs ys : List α)
    (h : pos + xs.length ≤ buf.length) :
    store (store buf pos xs) (pos + xs.length) ys = store buf pos (xs ++ ys) := by
  have hfront : (buf.take pos ++ xs).length = pos + xs.length := by
    rw [List.length_append, List.length_take, Nat.min_eq_left (by omega)]
  have htake : (store buf pos xs).take (pos + xs.length) = buf.take pos ++ xs :=
    List.take_left' hfront
  have hdrop : (store buf pos xs).drop (pos + xs.length + ys.length) =
      buf.drop (pos + (xs ++ ys).length) := by
    rw [← List.drop_drop, store, List.drop_left' hfront, List.drop_drop, List.length_append,
      Nat.add_assoc]
  rw [store, htake, hdrop, store, List.append_assoc (buf.take pos)]

/-! ### Writes at a cursor -/

/-- The block and the cursor after a write at the cursor, when the write stays in the block. -/
def writeCells (xs : List α) (cur : List α × Nat) : Option (List α × Nat) :=
  if cur.2 + xs.length ≤ cur.1.length then some (store cur.1 cur.2 xs, cur.2 + xs.length)
  else none

/-- Two writes at the cursor are one. -/
theorem writeCells_append (xs ys : List α) (cur : List α × Nat) :
    (writeCells xs cur).bind (writeCells ys) = writeCells (xs ++ ys) cur := by
  rw [writeCells, writeCells, List.length_append]
  by_cases h : cur.2 + xs.length ≤ cur.1.length
  · rw [if_pos h, Option.bind_some, writeCells, length_store _ h, Nat.add_assoc,
      store_store _ _ _ h]
  · rw [if_neg h, if_neg (by omega), Option.bind_none]

end Memory
