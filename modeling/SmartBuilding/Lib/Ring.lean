import Mathlib.Data.List.DropRight
import SmartBuilding.Lib.Memory

/-!
# `SmartBuilding.Lib.Ring`: cyclic memory and the queue that it holds

A buffer of `n` cells is a list of length `n`. Laid twice one after the other it has no end
to run over: `window buf s k` is the run of `k` cells from the position `s` of the doubled
buffer, for `s` up to `2 * n`. A position of the second copy is the same cell as `n` before
it (`window_sub`).

`cyclicStore buf w xs` writes the cells `xs` from `w` on, and goes on at cell `0` when it
meets the end. Seen from `w`, the cells `w ..< w + xs.length` of the doubled buffer are then
`xs`, and the cells up to `w + n` are as before (`window_cyclicStore_self`,
`window_cyclicStore_of_le`). These two facts are all that is used of it.

`held buf w k` is the list of the last `k` cells before the position `w`, the oldest first.
It is the queue of a producer that writes at `w` while `k` cells wait. Writing on replaces
the oldest cells first (`held_cyclicStore`), and taking some of the oldest cells off leaves
the others (`held_drop`).

The last part is the queue without a memory: `Queue.push` takes what fits, `Queue.force`
takes everything and gives up the oldest cells.

Nothing here depends on a particular program.
-/

set_option autoImplicit false

namespace Ring

open Memory

variable {α : Type}

/-! ### Windows of the doubled buffer -/

/-- The run of `k` cells from the position `s` of the doubled buffer. -/
def window (buf : List α) (s k : Nat) : List α := ((buf ++ buf).drop s).take k

theorem length_window (buf : List α) {s k : Nat} (h : s + k ≤ 2 * buf.length) :
    (window buf s k).length = k := by
  rw [window, List.length_take, List.length_drop, List.length_append]
  omega

@[simp] theorem window_zero (buf : List α) (s : Nat) : window buf s 0 = [] := rfl

/-- The cell of a window, as a cell of the buffer. -/
theorem window_getElem? (buf : List α) {s k i : Nat} (hi : i < k) :
    (window buf s k)[i]? =
      if s + i < buf.length then buf[s + i]? else buf[s + i - buf.length]? := by
  rw [window, List.getElem?_take_of_lt hi, List.getElem?_drop, List.getElem?_append]

/-- A run, then the run behind it. -/
theorem window_add (buf : List α) (s j k : Nat) :
    window buf s (j + k) = window buf s j ++ window buf (s + j) k := by
  rw [window, window, window, List.take_add, List.drop_drop]

/-- What is left of a run without its first cells. -/
theorem window_drop (buf : List α) (s : Nat) {j k : Nat} (h : j ≤ k)
    (hk : s + k ≤ 2 * buf.length) :
    (window buf s k).drop j = window buf (s + j) (k - j) := by
  have hsplit : window buf s k = window buf s j ++ window buf (s + j) (k - j) := by
    rw [← window_add, Nat.add_sub_cancel' h]
  rw [hsplit]
  exact List.drop_left' (length_window buf (by omega))

/-- The first cells of a run. -/
theorem window_take (buf : List α) (s : Nat) {j k : Nat} (h : j ≤ k) :
    (window buf s k).take j = window buf s j := by
  rw [window, window, List.take_take, Nat.min_eq_left h]

/-- Two runs with the same cells are the same. -/
theorem window_ext {buf buf' : List α} {s s' k : Nat} (hs : s + k ≤ 2 * buf.length)
    (hs' : s' + k ≤ 2 * buf'.length)
    (h : ∀ i, i < k → (window buf s k)[i]? = (window buf' s' k)[i]?) :
    window buf s k = window buf' s' k := by
  apply List.ext_getElem?
  intro i
  by_cases hi : i < k
  · exact h i hi
  · rw [List.getElem?_eq_none (by rw [length_window buf hs]; omega),
      List.getElem?_eq_none (by rw [length_window buf' hs']; omega)]

/-- A position of the second copy is a position of the first. -/
theorem window_sub (buf : List α) {s k : Nat} (h : buf.length ≤ s)
    (hk : s + k ≤ 2 * buf.length) :
    window buf s k = window buf (s - buf.length) k := by
  apply window_ext hk (by omega)
  intro i hi
  rw [window_getElem? buf hi, window_getElem? buf hi, if_neg (by omega), if_pos (by omega)]
  congr 1
  omega

/-- A run inside the first copy is a slice of the buffer. -/
theorem window_of_le (buf : List α) {s k : Nat} (h : s + k ≤ buf.length) :
    window buf s k = (buf.drop s).take k := by
  rw [window, List.drop_append_of_le_length (by omega), List.take_append_of_le_length]
  rw [List.length_drop]
  omega

/-- A run across the end of the buffer is its tail and then a part of its head. -/
theorem window_of_ge (buf : List α) {s k : Nat} (hs : s ≤ buf.length)
    (h : buf.length ≤ s + k) :
    window buf s k = buf.drop s ++ buf.take (k - (buf.length - s)) := by
  rw [window, List.drop_append_of_le_length hs, List.take_append, List.length_drop,
    List.take_of_length_le (by rw [List.length_drop]; omega)]

/-! ### Writing -/

/-- The buffer after `xs` is written from `w` on, and from cell `0` on behind the end. -/
def cyclicStore (buf : List α) (w : Nat) (xs : List α) : List α :=
  if buf.length - w > xs.length then store buf w xs
  else store (store buf w (xs.take (buf.length - w))) 0 (xs.drop (buf.length - w))

/-- The cells of the buffer after a cyclic write. -/
theorem cyclicStore_getElem? (buf : List α) {w : Nat} {xs : List α} (hw : w < buf.length)
    (hxs : xs.length ≤ buf.length) (i : Nat) :
    (cyclicStore buf w xs)[i]? =
      if w ≤ i ∧ i < buf.length ∧ i < w + xs.length then xs[i - w]?
      else if i + buf.length < w + xs.length then xs[i + buf.length - w]? else buf[i]? := by
  rw [cyclicStore]
  split
  case isTrue h =>
    rw [store_getElem? buf (by omega)]
    by_cases h1 : w ≤ i ∧ i < w + xs.length
    · rw [if_pos h1, if_pos (by omega)]
    · rw [if_neg h1, if_neg (by omega), if_neg (by omega)]
  case isFalse h =>
    have hhead : (xs.take (buf.length - w)).length = buf.length - w := by
      rw [List.length_take]; omega
    have hfirst : w + (xs.take (buf.length - w)).length ≤ buf.length := by omega
    have hsecond : 0 + (xs.drop (buf.length - w)).length
        ≤ (store buf w (xs.take (buf.length - w))).length := by
      rw [length_store buf hfirst, List.length_drop]; omega
    rw [store_getElem? _ hsecond, store_getElem? buf hfirst, List.length_drop, hhead]
    by_cases h1 : i + buf.length < w + xs.length
    · -- A cell of the head, which the second write has reached.
      rw [if_pos (by omega), if_neg (by omega), if_pos h1, List.getElem?_drop]
      congr 1
      omega
    · rw [if_neg (by omega)]
      by_cases h2 : w ≤ i ∧ i < buf.length
      · rw [if_pos (by omega), if_pos (by omega), List.getElem?_take_of_lt (by omega)]
      · rw [if_neg (by omega), if_neg (by omega), if_neg h1]

theorem length_cyclicStore (buf : List α) {w : Nat} {xs : List α} (hw : w < buf.length)
    (hxs : xs.length ≤ buf.length) : (cyclicStore buf w xs).length = buf.length := by
  rw [cyclicStore]
  split
  case isTrue h => exact length_store buf (by omega)
  case isFalse h =>
    have hhead : (xs.take (buf.length - w)).length = buf.length - w := by
      rw [List.length_take]; omega
    have hfirst : (store buf w (xs.take (buf.length - w))).length = buf.length :=
      length_store buf (by omega)
    rw [length_store _ (by rw [hfirst, List.length_drop]; omega), hfirst]

/-- Seen from the place of the write, the cells are those written. -/
theorem window_cyclicStore_self (buf : List α) {w : Nat} {xs : List α} (hw : w < buf.length)
    (hxs : xs.length ≤ buf.length) :
    window (cyclicStore buf w xs) w xs.length = xs := by
  have hlen := length_cyclicStore buf hw hxs
  apply List.ext_getElem?
  intro i
  by_cases hi : i < xs.length
  · rw [window_getElem? _ hi, hlen, cyclicStore_getElem? buf hw hxs,
      cyclicStore_getElem? buf hw hxs]
    by_cases h1 : w + i < buf.length
    · rw [if_pos h1, if_pos (by omega), Nat.add_sub_cancel_left]
    · rw [if_neg h1, if_neg (by omega), if_pos (by omega)]
      congr 1
      omega
  · rw [List.getElem?_eq_none (by rw [length_window _ (by omega)]; omega),
      List.getElem?_eq_none (by omega)]

/-- Seen from the place of the write, the cells behind those written are as before. -/
theorem window_cyclicStore_of_le (buf : List α) {w : Nat} {xs : List α} (hw : w < buf.length)
    (hxs : xs.length ≤ buf.length) {s k : Nat} (hs : w + xs.length ≤ s)
    (hk : s + k ≤ w + buf.length) :
    window (cyclicStore buf w xs) s k = window buf s k := by
  have hlen := length_cyclicStore buf hw hxs
  apply window_ext (by omega) (by omega)
  intro i hi
  rw [window_getElem? _ hi, window_getElem? _ hi, hlen, cyclicStore_getElem? buf hw hxs,
    cyclicStore_getElem? buf hw hxs]
  by_cases h1 : s + i < buf.length
  · rw [if_pos h1, if_pos h1, if_neg (by omega), if_neg (by omega)]
  · rw [if_neg h1, if_neg h1, if_neg (by omega), if_neg (by omega)]

/-! ### The queue before a position -/

/-- The position `len` cells behind `w` in a buffer of `n` cells. -/
def advance (n w len : Nat) : Nat := if n - w > len then w + len else len - (n - w)

theorem advance_lt {n w len : Nat} (hw : w < n) (hlen : len ≤ n) : advance n w len < n := by
  rw [advance]
  split <;> omega

/-- The last `k` cells before the position `w`, the oldest first. -/
def held (buf : List α) (w k : Nat) : List α := window buf (w + buf.length - k) k

theorem length_held (buf : List α) {w k : Nat} (hw : w < buf.length) (hk : k ≤ buf.length) :
    (held buf w k).length = k :=
  length_window buf (by omega)

/-- Without its oldest cells the queue is a shorter queue before the same position. -/
theorem held_drop (buf : List α) {w k j : Nat} (hw : w < buf.length) (hk : k ≤ buf.length)
    (hj : j ≤ k) : (held buf w k).drop j = held buf w (k - j) := by
  rw [held, held, window_drop buf _ hj (by omega)]
  congr 1
  omega

/-- The queue read from a start position that wraps. -/
theorem held_eq_window (buf : List α) {w k r : Nat} (hw : w < buf.length)
    (hr : r + k = w ∨ r + k = w + buf.length) : held buf w k = window buf r k := by
  rw [held]
  rcases hr with hr | hr
  · rw [window_sub buf (by omega) (by omega)]
    congr 1
    omega
  · congr 1
    omega

/-- Writing on: the queue before the new position holds the old queue and the cells written,
or the last of them when they are more than the buffer has cells. -/
theorem held_cyclicStore (buf : List α) {w k : Nat} (xs : List α) (hw : w < buf.length)
    (hk : k ≤ buf.length) (hxs : xs.length ≤ buf.length) :
    held (cyclicStore buf w xs) (advance buf.length w xs.length)
        (min buf.length (k + xs.length)) =
      (held buf w k ++ xs).rtake buf.length := by
  have hlen := length_cyclicStore buf hw hxs
  -- `j` cells of the old queue stay.
  generalize hj : min buf.length (k + xs.length) - xs.length = j
  have hmin : min buf.length (k + xs.length) = j + xs.length := by omega
  have hold : (held buf w k ++ xs).rtake buf.length = held buf w j ++ xs := by
    have hkj : k - (k + xs.length - buf.length) = j := by omega
    rw [List.rtake, List.length_append, length_held buf hw hk,
      List.drop_append_of_le_length (by rw [length_held buf hw hk]; omega),
      held_drop buf hw hk (by omega), hkj]
  have hnew : held (cyclicStore buf w xs) (advance buf.length w xs.length) (j + xs.length) =
      window (cyclicStore buf w xs) (w + buf.length - j) j
        ++ window (cyclicStore buf w xs) w xs.length := by
    have hadv := advance_lt hw hxs
    rw [advance] at hadv ⊢
    split at hadv
    case isTrue h =>
      rw [if_pos h, held, hlen, window_add]
      congr 1
      · congr 1; omega
      · rw [window_sub _ (by omega) (by omega)]
        congr 1
        omega
    case isFalse h =>
      rw [if_neg h, held_eq_window _ (by omega) (r := w - j) (by omega), window_add,
        window_sub _ (s := w + buf.length - j) (by omega) (by omega), hlen]
      congr 2 <;> omega
  rw [hmin, hnew, hold, window_cyclicStore_self buf hw hxs,
    window_cyclicStore_of_le buf hw hxs (by omega) (by omega), held]

/-! ### The queue without a memory -/

namespace Queue

/-- The queue of at most `n` cells after it is offered `xs` and takes what fits. -/
def push (n : Nat) (items xs : List α) : List α := items ++ xs.take (n - items.length)

/-- The queue of at most `n` cells after it takes all of `xs` and gives up the oldest
cells. -/
def force (n : Nat) (items xs : List α) : List α := (items ++ xs).rtake n

@[simp] theorem length_force (n : Nat) (items xs : List α) :
    (force n items xs).length = min n (items.length + xs.length) := by
  rw [force, List.rtake, List.length_drop, List.length_append]
  omega

/-- What fits is taken without a loss. -/
theorem force_of_le {n : Nat} {items xs : List α} (h : items.length + xs.length ≤ n) :
    force n items xs = items ++ xs := by
  rw [force, List.rtake, List.length_append, Nat.sub_eq_zero_of_le h, List.drop_zero]

/-- Only the last `n` cells of what is offered matter. -/
theorem force_rtake (n : Nat) (items xs : List α) :
    force n items (xs.rtake n) = force n items xs := by
  by_cases h : xs.length ≤ n
  · rw [List.rtake.eq_1 xs, Nat.sub_eq_zero_of_le h, List.drop_zero]
  · have hlen : (xs.rtake n).length = n := by rw [List.rtake, List.length_drop]; omega
    have hskip : items.length + n - n = items.length := by omega
    have hmore : items.length + xs.length - n = items.length + (xs.length - n) := by omega
    rw [force, force, List.rtake.eq_1 (items ++ xs), List.rtake.eq_1 (items ++ _),
      List.length_append, List.length_append, hlen, hskip, hmore, List.drop_left,
      List.drop_append, List.drop_eq_nil_of_le (by omega), List.nil_append,
      Nat.add_sub_cancel_left, List.rtake]

end Queue

end Ring
