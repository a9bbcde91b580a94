import Mathlib.Logic.Function.Iterate
import SmartBuilding.Lib.EventMachine

/-!
# `SmartBuilding.Lib.Interrupt`: programs that an interrupt can enter between two actions

`Prog σ α` is a program over the memory `σ` as a chain of atomic actions: each action
changes the memory, and the rest of the program depends on the memory right after it. So a
program text in `do` notation says where an interrupt can enter: between any two actions.

A program has two meanings here.

* `Prog.run` is the run without interrupts.
* `interruptible proc isr` is the machine that runs calls of the procedures `proc` one after
  another. Its schedule is a list of three kinds of events: a call starts, the running call
  performs one action, or the interrupt handler `isr` runs. So the interrupts can occur at
  every point between the calls and inside them, in any number.

`Prog.Safe isr G Q p s` is the proof obligation for one call: from the memory `s`, whatever
the interrupts do, `G` holds at every point of the call and `Q` at its end, and both survive
further interrupts. The rules `Safe.done`, `Safe.act` and `Safe.bind` follow the program
text. Each asks for an assertion that the handler preserves (`Stable`), as in a
rely-guarantee proof where the rely is the handler. `interruptible_invariant` turns the
obligations of the calls into an invariant of the whole machine.
-/

set_option autoImplicit false

/-- A program over the memory `σ` with result `α`: a result, or an atomic action `f` and the
rest of the program, which depends on the memory right after the action. -/
inductive Prog (σ α : Type) where
  | done (a : α)
  | act (f : σ → σ) (k : σ → Prog σ α)

namespace Prog

variable {σ τ α β : Type}

/-- `p`, then the program that `k` gives for its result. -/
protected def bind : Prog σ α → (α → Prog σ β) → Prog σ β
  | .done a, k => k a
  | .act f p, k => .act f (fun s => (p s).bind k)

instance : Monad (Prog σ) where
  pure := .done
  bind := Prog.bind

/-- One read of the memory. -/
def get : Prog σ σ := .act id .done

/-- One write of the memory. -/
def modify (f : σ → σ) : Prog σ Unit := .act f (fun _ => .done ())

/-- The program `p` over a part of the memory, as a program over the whole memory. -/
def zoom (view : σ → τ) (put : σ → τ → σ) : Prog τ α → Prog σ α
  | .done a => .done a
  | .act f k => .act (fun s => put s (f (view s))) (fun s => (k (view s)).zoom view put)

@[simp] theorem pure_eq (a : α) : (pure a : Prog σ α) = .done a := rfl

@[simp] theorem done_bind (a : α) (k : α → Prog σ β) : (Prog.done a >>= k) = k a := rfl

@[simp] theorem act_bind (f : σ → σ) (p : σ → Prog σ α) (k : α → Prog σ β) :
    (Prog.act f p >>= k) = .act f (fun s => p s >>= k) := rfl

theorem get_bind (k : σ → Prog σ α) : (get >>= k) = .act id k := rfl

theorem modify_bind (f : σ → σ) (k : Unit → Prog σ α) :
    (modify f >>= k) = .act f (fun _ => k ()) := rfl

theorem bind_assoc (p : Prog σ α) (k : α → Prog σ β) {γ : Type} (l : β → Prog σ γ) :
    ((p >>= k) >>= l) = p >>= fun a => k a >>= l := by
  induction p with
  | done a => rfl
  | act f p ih => exact congrArg (Prog.act f) (funext ih)

/-! ### The run without interrupts -/

/-- The result of the program and the memory after it, when no interrupt occurs. -/
def run : Prog σ α → σ → α × σ
  | .done a, s => (a, s)
  | .act f k, s => (k (f s)).run (f s)

/-- The memory after the program, when no interrupt occurs. -/
def exec (p : Prog σ α) (s : σ) : σ := (p.run s).2

@[simp] theorem run_done (a : α) (s : σ) : (Prog.done a : Prog σ α).run s = (a, s) := rfl

@[simp] theorem run_get (s : σ) : (get : Prog σ σ).run s = (s, s) := rfl

@[simp] theorem run_modify (f : σ → σ) (s : σ) : (modify f).run s = ((), f s) := rfl

@[simp] theorem run_bind (p : Prog σ α) (k : α → Prog σ β) (s : σ) :
    (p >>= k).run s = (k (p.run s).1).run (p.run s).2 := by
  induction p generalizing s with
  | done a => rfl
  | act f p ih => exact ih (f s) (f s)

/-- The run of a program over a part of the memory changes that part alone. -/
theorem run_zoom (view : σ → τ) (put : σ → τ → σ) (hview : ∀ s t, view (put s t) = t)
    (hput : ∀ s t t', put (put s t) t' = put s t') (hself : ∀ s, put s (view s) = s)
    (p : Prog τ α) (s : σ) :
    (p.zoom view put).run s = ((p.run (view s)).1, put s (p.run (view s)).2) := by
  induction p generalizing s with
  | done a => simp [zoom, run, hself]
  | act f k ih =>
    simp only [zoom, run]
    rw [ih, hview, hput]

/-! ### One call under interrupts -/

/-- The interrupt handler `isr` preserves the assertion `A`. -/
def Stable (isr : σ → σ) (A : σ → Prop) : Prop := ∀ s, A s → A (isr s)

theorem Stable.iterate {isr : σ → σ} {A : σ → Prop} (hA : Stable isr A) (n : Nat) (s : σ)
    (h : A s) : A (isr^[n] s) := by
  induction n generalizing s with
  | zero => exact h
  | succ n ih => exact ih _ (hA s h)

/-- From the memory `s`, with any number of interrupts between the actions, `G` holds at
every point of the program `p` and `Q` holds at its end. -/
def Safe (isr : σ → σ) (G : σ → Prop) (Q : α → σ → Prop) : Prog σ α → σ → Prop
  | .done a, s => ∀ n, G (isr^[n] s) ∧ Q a (isr^[n] s)
  | .act f k, s =>
      ∀ n, G (isr^[n] s) ∧ Safe isr G Q (k (f (isr^[n] s))) (f (isr^[n] s))

/-- `G` holds at the current point of a safe program. -/
theorem Safe.guarantee {isr : σ → σ} {G : σ → Prop} {Q : α → σ → Prop} {p : Prog σ α}
    {s : σ} (h : Safe isr G Q p s) : G s := by
  cases p with
  | done a => exact (h 0).1
  | act f k => exact (h 0).1

/-- A safe program stays safe when an interrupt occurs. -/
theorem Safe.irq {isr : σ → σ} {G : σ → Prop} {Q : α → σ → Prop} {p : Prog σ α} {s : σ}
    (h : Safe isr G Q p s) : Safe isr G Q p (isr s) := by
  cases p with
  | done a => exact fun n => h (n + 1)
  | act f k => exact fun n => h (n + 1)

/-- A safe program stays safe when it performs its next action. -/
theorem Safe.next {isr : σ → σ} {G : σ → Prop} {Q : α → σ → Prop} {f : σ → σ}
    {k : σ → Prog σ α} {s : σ} (h : Safe isr G Q (.act f k) s) :
    Safe isr G Q (k (f s)) (f s) :=
  (h 0).2

/-- `Q` holds at the end of a safe program. -/
theorem Safe.post {isr : σ → σ} {G : σ → Prop} {Q : α → σ → Prop} {a : α} {s : σ}
    (h : Safe isr G Q (.done a) s) : Q a s :=
  (h 0).2

/-- The rule for a result: a stable assertion that gives `G` and `Q`. -/
theorem Safe.done {isr : σ → σ} {G A : σ → Prop} {Q : α → σ → Prop} (hA : Stable isr A)
    (hG : ∀ s, A s → G s) {a : α} (hQ : ∀ s, A s → Q a s) {s : σ} (h : A s) :
    Safe isr G Q (.done a) s :=
  fun n => ⟨hG _ (hA.iterate n s h), hQ _ (hA.iterate n s h)⟩

/-- The rule for an action: a stable assertion that gives `G`, and from which the rest of
the program is safe after the action. -/
theorem Safe.act {isr : σ → σ} {G A : σ → Prop} {Q : α → σ → Prop} (hA : Stable isr A)
    (hG : ∀ s, A s → G s) {f : σ → σ} {k : σ → Prog σ α}
    (hk : ∀ s, A s → Safe isr G Q (k (f s)) (f s)) {s : σ} (h : A s) :
    Safe isr G Q (.act f k) s :=
  fun n => ⟨hG _ (hA.iterate n s h), hk _ (hA.iterate n s h)⟩

/-- A program over a part of the memory. The handler acts on the part as `isrT` does. The
assertion `R` about the whole memory must survive every change of the part, and every
interrupt at a point where `G` holds. -/
theorem Safe.zoom {isr : σ → σ} {isrT : τ → τ} {view : σ → τ} {put : σ → τ → σ}
    (hview : ∀ s t, view (put s t) = t) (hisr : ∀ s, view (isr s) = isrT (view s))
    {G : τ → Prop} {Q : α → τ → Prop} {R : σ → Prop} (hput : ∀ s t, R s → R (put s t))
    (hR : ∀ s, R s → G (view s) → R (isr s)) {p : Prog τ α} {s : σ}
    (hp : Safe isrT G Q p (view s)) (h : R s) :
    Safe isr (fun s => G (view s) ∧ R s) (fun a s => Q a (view s) ∧ R s)
      (p.zoom view put) s := by
  -- The handler acts on the part alone, and keeps `R` while `G` holds.
  -- Interrupts at one point of the program.
  have hiterate : ∀ s, R s → (∀ n, G (isrT^[n] (view s))) →
      ∀ n, view (isr^[n] s) = isrT^[n] (view s) ∧ R (isr^[n] s) := by
    intro s hs hG n
    induction n with
    | zero => exact ⟨rfl, hs⟩
    | succ n ih =>
      rw [Function.iterate_succ_apply', Function.iterate_succ_apply', hisr, ih.1]
      exact ⟨rfl, hR _ ih.2 (ih.1 ▸ hG n)⟩
  induction p generalizing s with
  | done a =>
    intro n
    obtain ⟨hv, hs⟩ := hiterate s h (fun n => (hp n).1) n
    show (G (view (isr^[n] s)) ∧ R (isr^[n] s)) ∧ Q a (view (isr^[n] s)) ∧ R (isr^[n] s)
    rw [hv]
    exact ⟨⟨(hp n).1, hs⟩, (hp n).2, hs⟩
  | act f k ih =>
    intro n
    obtain ⟨hv, hs⟩ := hiterate s h (fun n => (hp n).1) n
    refine ⟨?_, ih _ ?_ (hput _ _ hs)⟩
    · show G (view (isr^[n] s)) ∧ R (isr^[n] s)
      rw [hv]
      exact ⟨(hp n).1, hs⟩
    · show Safe isrT G Q (k (view (put _ (f (view (isr^[n] s))))))
        (view (put _ (f (view (isr^[n] s)))))
      rw [hview, hv]
      exact (hp n).2

/-- The rule for a sequence: the first program ends in a memory from which the second one is
safe. -/
theorem Safe.bind {isr : σ → σ} {G : σ → Prop} {R : α → σ → Prop} {Q : β → σ → Prop}
    {p : Prog σ α} {k : α → Prog σ β} {s : σ} (hp : Safe isr G R p s)
    (hk : ∀ a s, R a s → Safe isr G Q (k a) s) : Safe isr G Q (p >>= k) s := by
  induction p generalizing s with
  | done a => exact hk a s hp.post
  | act f p ih => exact fun n => ⟨(hp n).1, ih _ (hp n).2⟩

/-- Weaker assertions for the points and for the end. -/
theorem Safe.mono {isr : σ → σ} {G G' : σ → Prop} {Q Q' : α → σ → Prop} {p : Prog σ α}
    {s : σ} (h : Safe isr G Q p s) (hG : ∀ s, G s → G' s) (hQ : ∀ a s, Q a s → Q' a s) :
    Safe isr G' Q' p s := by
  induction p generalizing s with
  | done a => exact fun n => ⟨hG _ (h n).1, hQ _ _ (h n).2⟩
  | act f p ih => exact fun n => ⟨hG _ (h n).1, ih _ (h n).2⟩

end Prog

/-! ### Calls one after another, with interrupts at every point -/

/-- The machine of a caller: the memory, the call that runs and the rest of its program, and
the last call that completed. -/
structure Caller (σ β : Type) where
  mem : σ
  current : Option (β × Prog σ Unit)
  last : Option β

/-- One event of a schedule: the call `b` starts, the running call performs one action, or
the interrupt handler runs. -/
inductive Sched (β : Type) where
  | call (b : β)
  | cpu
  | irq

namespace Caller

variable {σ β : Type}

/-- One event. A call that starts while another one runs, and an action while none runs,
change nothing. -/
def step (proc : β → Prog σ Unit) (isr : σ → σ) (c : Caller σ β) : Sched β → Caller σ β
  | .irq => { c with mem := isr c.mem }
  | .call b =>
      match c.current with
      | none => { c with current := some (b, proc b) }
      | some _ => c
  | .cpu =>
      match c.current with
      | none => c
      | some (b, .done _) => { c with current := none, last := some b }
      | some (b, .act f k) => { c with mem := f c.mem, current := some (b, k (f c.mem)) }

/-- The caller before the first call. -/
def start (s : σ) : Caller σ β := { mem := s, current := none, last := none }

end Caller

/-- The machine that runs calls of `proc` under the interrupt handler `isr`. -/
def interruptible {σ β : Type} (proc : β → Prog σ Unit) (isr : σ → σ) :
    Machine (Caller σ β) (Sched β) Empty where
  step := Caller.step proc isr
  out _ _ := []

/-- The caller is in order: between two calls `Rest last` holds, and a running call is safe
for its guarantee and ends in `Rest`. -/
def Caller.InOrder {σ β : Type} (isr : σ → σ) (Rest : Option β → σ → Prop)
    (G : Option β → β → σ → Prop) (c : Caller σ β) : Prop :=
  match c.current with
  | none => Rest c.last c.mem
  | some (b, p) => Prog.Safe isr (G c.last b) (fun _ => Rest (some b)) p c.mem

/-- Suppose that `Rest` survives the interrupts between two calls, and that each call from
`Rest` is safe and ends in `Rest`. Then the caller is in order after every schedule. -/
theorem interruptible_invariant {σ β : Type} (proc : β → Prog σ Unit) (isr : σ → σ)
    (Rest : Option β → σ → Prop) (G : Option β → β → σ → Prop)
    (hstable : ∀ last, Prog.Stable isr (Rest last))
    (hcall : ∀ last b s, Rest last s →
      Prog.Safe isr (G last b) (fun _ => Rest (some b)) (proc b) s)
    (s : σ) (h0 : Rest none s) (es : List (Sched β)) :
    ((interruptible proc isr).run (Caller.start s) es).InOrder isr Rest G := by
  refine Machine.run_invariant _ (Caller.InOrder isr Rest G) ?_ es (Caller.start s) h0
  -- One event keeps the caller in order. A call that completes hands over its assertion.
  rintro ⟨mem, current, last⟩ e h
  cases e with
  | irq =>
    cases current with
    | none => exact hstable last mem h
    | some bp => exact Prog.Safe.irq h
  | call b =>
    cases current with
    | none => exact hcall last b mem h
    | some bp => exact h
  | cpu =>
    cases current with
    | none => exact h
    | some bp =>
      obtain ⟨b, p⟩ := bp
      cases p with
      | done a =>
        have hsafe : Prog.Safe isr (G last b) (fun _ => Rest (some b)) (.done a) mem := h
        exact hsafe.post
      | act f k => exact Prog.Safe.next h
