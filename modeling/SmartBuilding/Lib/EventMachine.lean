import Mathlib.Tactic.Common

/-!
# `SmartBuilding.Lib.EventMachine`: event-driven machines, their runs and their logs

A `Machine` is a deterministic machine that takes one event at a time. Each step gives the
next state and the records that the step emits. `run` is the state after a list of events,
and `log` is the list of all records, in the order of their emission.

Two predicates speak about a whole run. `Always P` says that `P` holds in every state of the
run, the first and the last included. `Along C` says that every step of the run meets `C` in
the state before the step. The rules:

* `run_invariant`: what every step preserves holds after every run.
* `always_iff_along`: when one step keeps `P` exactly under the condition `C`, a run keeps
  `P` exactly when every step meets `C`.
* `always_and_along_iff`: the same for a property of the states and a property of the steps
  together, under an invariant.
* `always_of_along` and `along_of_always`: a condition on all steps gives a property of all
  states, and the other way round.

`Simulation.run`: two machines with a simulation between them stay related, and have the same
log. `run_of_erase_eq` is the case of one machine and a part of its state that nothing reads.

The last part is about two-valued signals that a log describes. `replay` reads the value of
a signal back from the records, and `Guarded` says that a record which needs a value occurs
only at that value. A machine whose steps keep both (`Tracks`) has logs in which a record
that sets the signal and a later record that needs the other value have a record between
them that sets the other value (`Tracks.exists_between`). This is the argument behind every
"the alarms alternate" law of a controller with hysteresis.

Nothing here depends on a particular machine.
-/

set_option autoImplicit false

/-- A deterministic machine over the states `σ`, the events `ε` and the records `ω`. -/
structure Machine (σ ε ω : Type) where
  /-- The state after one event. -/
  step : σ → ε → σ
  /-- The records that the step on one event emits, in order. -/
  out : σ → ε → List ω

namespace Machine

variable {σ ε ω : Type}

/-! ### Runs -/

/-- The state after a list of events. -/
def run (m : Machine σ ε ω) (s : σ) (es : List ε) : σ :=
  es.foldl m.step s

@[simp] theorem run_nil (m : Machine σ ε ω) (s : σ) : m.run s [] = s := rfl

@[simp] theorem run_cons (m : Machine σ ε ω) (s : σ) (e : ε) (es : List ε) :
    m.run s (e :: es) = m.run (m.step s e) es := rfl

@[simp] theorem run_append (m : Machine σ ε ω) (s : σ) (xs ys : List ε) :
    m.run s (xs ++ ys) = m.run (m.run s xs) ys :=
  List.foldl_append

/-- What every step preserves holds after every run. -/
theorem run_invariant (m : Machine σ ε ω) (P : σ → Prop)
    (hstep : ∀ s e, P s → P (m.step s e)) :
    ∀ (es : List ε) (s : σ), P s → P (m.run s es) := by
  intro es
  induction es with
  | nil => intro s h; exact h
  | cons e es ih => intro s h; exact ih _ (hstep s e h)

/-- `P` holds in every state that the run on `es` reaches, the first and the last
included. -/
def Always (m : Machine σ ε ω) (P : σ → Prop) (s : σ) (es : List ε) : Prop :=
  ∀ pre, pre <+: es → P (m.run s pre)

/-- Every step of the run on `es` meets `C` in the state before the step. -/
def Along (m : Machine σ ε ω) (C : σ → ε → Prop) (s : σ) (es : List ε) : Prop :=
  ∀ pre e, pre ++ [e] <+: es → C (m.run s pre) e

@[simp] theorem always_nil (m : Machine σ ε ω) (P : σ → Prop) (s : σ) :
    m.Always P s [] ↔ P s := by
  constructor
  · intro h; exact h [] List.nil_prefix
  · intro h pre hpre
    rw [List.prefix_nil] at hpre
    subst hpre
    exact h

@[simp] theorem always_cons (m : Machine σ ε ω) (P : σ → Prop) (s : σ) (e : ε)
    (es : List ε) :
    m.Always P s (e :: es) ↔ P s ∧ m.Always P (m.step s e) es := by
  constructor
  · intro h
    -- The empty run gives the first state, and the longer ones start with `e`.
    refine ⟨h [] List.nil_prefix, fun pre hpre => ?_⟩
    exact h (e :: pre) ((List.prefix_cons_inj e).mpr hpre)
  · rintro ⟨h0, h⟩ pre hpre
    cases pre with
    | nil => exact h0
    | cons x pre =>
      obtain ⟨rfl, htail⟩ := List.cons_prefix_cons.mp hpre
      exact h pre htail

@[simp] theorem along_nil (m : Machine σ ε ω) (C : σ → ε → Prop) (s : σ) :
    m.Along C s [] := by
  intro pre e hpre
  -- No event, so no step.
  simp at hpre

@[simp] theorem along_cons (m : Machine σ ε ω) (C : σ → ε → Prop) (s : σ) (e : ε)
    (es : List ε) :
    m.Along C s (e :: es) ↔ C s e ∧ m.Along C (m.step s e) es := by
  constructor
  · intro h
    refine ⟨h [] e (by simp), fun pre x hpre => ?_⟩
    exact h (e :: pre) x ((List.prefix_cons_inj e).mpr hpre)
  · rintro ⟨h0, h⟩ pre x hpre
    cases pre with
    | nil =>
      obtain ⟨rfl, -⟩ := List.cons_prefix_cons.mp hpre
      exact h0
    | cons y pre =>
      obtain ⟨rfl, htail⟩ := List.cons_prefix_cons.mp hpre
      exact h pre x htail

/-- When one step keeps `P` exactly under the condition `C`, a run from a state of `P` keeps
`P` exactly when every step of the run meets `C`. -/
theorem always_iff_along (m : Machine σ ε ω) (P : σ → Prop) (C : σ → ε → Prop)
    (hstep : ∀ s e, P s → (P (m.step s e) ↔ C s e)) :
    ∀ (es : List ε) (s : σ), P s → (m.Always P s es ↔ m.Along C s es) := by
  intro es
  induction es with
  | nil => intro s h; simp [h]
  | cons e es ih =>
    intro s h
    rw [always_cons, along_cons, ← hstep s e h]
    constructor
    · rintro ⟨-, hall⟩
      -- The state after `e` is in `P`, so the rest of the run starts from `P` again.
      have hP : P (m.step s e) := hall [] List.nil_prefix
      exact ⟨hP, (ih _ hP).mp hall⟩
    · rintro ⟨hP, halong⟩
      exact ⟨h, (ih _ hP).mpr halong⟩

/-- `always_iff_along` under an invariant `J` that every step keeps. -/
theorem always_iff_along_of_invariant (m : Machine σ ε ω) (J P : σ → Prop)
    (C : σ → ε → Prop) (hJ : ∀ s e, J s → J (m.step s e))
    (hstep : ∀ s e, J s → P s → (P (m.step s e) ↔ C s e)) (es : List ε) (s : σ)
    (hj : J s) (hp : P s) : m.Always P s es ↔ m.Along C s es := by
  have hboth : ∀ s e, J s ∧ P s → ((J (m.step s e) ∧ P (m.step s e)) ↔ C s e) := by
    intro s e h
    rw [and_iff_right (hJ s e h.1)]
    exact hstep s e h.1 h.2
  rw [← m.always_iff_along (fun s => J s ∧ P s) C hboth es s ⟨hj, hp⟩]
  constructor
  · intro h pre hpre
    exact ⟨m.run_invariant J hJ pre s hj, h pre hpre⟩
  · intro h pre hpre
    exact (h pre hpre).2

/-- When a step with `C` keeps `P`, a run from a state of `P` with `C` at every step stays in
`P`. -/
theorem always_of_along (m : Machine σ ε ω) (P : σ → Prop) (C : σ → ε → Prop)
    (hstep : ∀ s e, P s → C s e → P (m.step s e)) :
    ∀ (es : List ε) (s : σ), P s → m.Along C s es → m.Always P s es := by
  intro es
  induction es with
  | nil => intro s h _; exact (m.always_nil P s).mpr h
  | cons e es ih =>
    intro s h halong
    obtain ⟨h0, hrest⟩ := (m.along_cons C s e es).mp halong
    rw [always_cons]
    exact ⟨h, ih _ (hstep s e h h0) hrest⟩

/-- When one step meets `Q` exactly under the condition `C`, as long as the invariant `J`
holds, a run meets `Q` at every step exactly when it meets `C` at every step. -/
theorem along_iff_of_invariant (m : Machine σ ε ω) (J : σ → Prop) (Q C : σ → ε → Prop)
    (hJ : ∀ s e, J s → J (m.step s e)) (hstep : ∀ s e, J s → (Q s e ↔ C s e)) (es : List ε)
    (s : σ) (hj : J s) : m.Along Q s es ↔ m.Along C s es := by
  have hrun : ∀ pre, J (m.run s pre) := fun pre => m.run_invariant J hJ pre s hj
  constructor
  · intro h pre e hpre
    exact (hstep _ e (hrun pre)).mp (h pre e hpre)
  · intro h pre e hpre
    exact (hstep _ e (hrun pre)).mpr (h pre e hpre)

/-- Suppose that `P` before and after a step gives `C` for the step, as long as `J` holds, and
that a step with `C` keeps `J`. Then a run that stays in `P` meets `C` at every step. -/
theorem along_of_always (m : Machine σ ε ω) (P J : σ → Prop) (C : σ → ε → Prop)
    (hC : ∀ s e, J s → P s → P (m.step s e) → C s e)
    (hJ : ∀ s e, J s → C s e → J (m.step s e)) :
    ∀ (es : List ε) (s : σ), J s → m.Always P s es → m.Along C s es := by
  intro es
  induction es with
  | nil => intro s _ _; exact m.along_nil C s
  | cons e es ih =>
    intro s hs hall
    obtain ⟨h0, hrest⟩ := (m.always_cons P s e es).mp hall
    -- `C` for this step, and with it `J` after the step.
    have hstep : C s e := hC s e hs h0 (hrest [] List.nil_prefix)
    rw [along_cons]
    exact ⟨hstep, ih _ (hJ s e hs hstep) hrest⟩

/-- Under an invariant `J` that gives `P`, let one step meet `Q` and reach `P` exactly under the
condition `C`, and let `C` keep `J`. Then a run stays in `P` with `Q` at every step exactly when
every step meets `C`. -/
theorem always_and_along_iff (m : Machine σ ε ω) (J P : σ → Prop) (Q C : σ → ε → Prop)
    (hP : ∀ s, J s → P s) (hstep : ∀ s e, J s → (Q s e ∧ P (m.step s e) ↔ C s e))
    (hJ : ∀ s e, J s → C s e → J (m.step s e)) :
    ∀ (es : List ε) (s : σ), J s → (m.Always P s es ∧ m.Along Q s es ↔ m.Along C s es) := by
  intro es
  induction es with
  | nil => intro s h; simp [hP s h]
  | cons e es ih =>
    intro s h
    rw [always_cons, along_cons, along_cons, ← hstep s e h]
    constructor
    · rintro ⟨⟨-, hall⟩, hq, halong⟩
      have hnext : Q s e ∧ P (m.step s e) := ⟨hq, hall [] List.nil_prefix⟩
      exact ⟨hnext, (ih _ (hJ s e h ((hstep s e h).mp hnext))).mp ⟨hall, halong⟩⟩
    · rintro ⟨hnext, halong⟩
      obtain ⟨hall, hq⟩ := (ih _ (hJ s e h ((hstep s e h).mp hnext))).mpr halong
      exact ⟨⟨hP s h, hall⟩, hnext.1, hq⟩

/-! ### Logs -/

/-- All records of the run on a list of events, in the order of their emission. -/
def log (m : Machine σ ε ω) : σ → List ε → List ω
  | _, [] => []
  | s, e :: es => m.out s e ++ m.log (m.step s e) es

@[simp] theorem log_nil (m : Machine σ ε ω) (s : σ) : m.log s [] = [] := rfl

@[simp] theorem log_cons (m : Machine σ ε ω) (s : σ) (e : ε) (es : List ε) :
    m.log s (e :: es) = m.out s e ++ m.log (m.step s e) es := rfl

theorem log_append (m : Machine σ ε ω) (xs ys : List ε) :
    ∀ s, m.log s (xs ++ ys) = m.log s xs ++ m.log (m.run s xs) ys := by
  induction xs with
  | nil => intro s; rfl
  | cons e xs ih => intro s; rw [List.cons_append, log_cons, log_cons, ih, run_cons,
      List.append_assoc]

/-- The log after one more event. -/
theorem log_concat (m : Machine σ ε ω) (s : σ) (es : List ε) (e : ε) :
    m.log s (es ++ [e]) = m.log s es ++ m.out (m.run s es) e := by
  rw [log_append, log_cons, log_nil, List.append_nil]

/-! ### Simulation -/

/-- The relation `R` between the states of two machines is a simulation for the events of
`E`: a step on both sides keeps `R`, and both steps emit the same records. -/
def Simulation {τ : Type} (m : Machine σ ε ω) (n : Machine τ ε ω) (R : σ → τ → Prop)
    (E : ε → Prop) : Prop :=
  ∀ s t e, R s t → E e → R (m.step s e) (n.step t e) ∧ m.out s e = n.out t e

/-- Along a simulation the two machines stay related, and they have the same log. -/
theorem Simulation.run {τ : Type} {m : Machine σ ε ω} {n : Machine τ ε ω}
    {R : σ → τ → Prop} {E : ε → Prop} (hsim : Simulation m n R E) :
    ∀ (es : List ε) (s : σ) (t : τ), R s t → (∀ e ∈ es, E e) →
      R (m.run s es) (n.run t es) ∧ m.log s es = n.log t es := by
  intro es
  induction es with
  | nil => intro s t h _; exact ⟨h, rfl⟩
  | cons e es ih =>
    intro s t h hE
    obtain ⟨hnext, hout⟩ := hsim s t e h (hE e List.mem_cons_self)
    obtain ⟨hrun, hlog⟩ := ih _ _ hnext fun x hx => hE x (List.mem_cons_of_mem e hx)
    exact ⟨hrun, by rw [log_cons, log_cons, hout, hlog]⟩

/-- When a step and its records do not depend on what `erase` takes away, two states that
differ in that alone have runs that differ in that alone, with the same log. -/
theorem run_of_erase_eq (m : Machine σ ε ω) {erase : σ → σ}
    (hstep : ∀ s e, erase (m.step (erase s) e) = erase (m.step s e))
    (hout : ∀ s e, m.out (erase s) e = m.out s e) (es : List ε) {s t : σ}
    (h : erase s = erase t) :
    erase (m.run s es) = erase (m.run t es) ∧ m.log s es = m.log t es := by
  have hsim : Simulation m m (fun s t => erase s = erase t) (fun _ => True) := by
    intro s t e h _
    have h : erase s = erase t := h
    refine ⟨?_, ?_⟩
    · show erase (m.step s e) = erase (m.step t e)
      rw [← hstep s e, ← hstep t e, h]
    · rw [← hout s e, ← hout t e, h]
  exact hsim.run es s t h fun _ _ => trivial

end Machine

/-! ### Signals in a log -/

namespace Signal

variable {ω : Type}

/-- The value of a signal after the records `l`, from the value `b`. `sets w` is the value
that the record `w` sets, and `none` when `w` leaves the signal alone. -/
def replay (sets : ω → Option Bool) (b : Bool) (l : List ω) : Bool :=
  l.foldl (fun b w => (sets w).getD b) b

@[simp] theorem replay_nil (sets : ω → Option Bool) (b : Bool) : replay sets b [] = b := rfl

@[simp] theorem replay_cons (sets : ω → Option Bool) (b : Bool) (w : ω) (l : List ω) :
    replay sets b (w :: l) = replay sets ((sets w).getD b) l := rfl

@[simp] theorem replay_append (sets : ω → Option Bool) (b : Bool) (l₁ l₂ : List ω) :
    replay sets b (l₁ ++ l₂) = replay sets (replay sets b l₁) l₂ :=
  List.foldl_append

/-- A signal that changes over a list of records is set to its last value by one of them. -/
theorem exists_mem_of_replay_ne (sets : ω → Option Bool) :
    ∀ (l : List ω) (b : Bool), replay sets b l ≠ b →
      ∃ w ∈ l, sets w = some (replay sets b l) := by
  intro l
  induction l with
  | nil => intro b h; exact absurd rfl h
  | cons w l ih =>
    intro b h
    rw [replay_cons] at h ⊢
    by_cases hlast : replay sets ((sets w).getD b) l = (sets w).getD b
    · -- The value does not change after `w`, so `w` itself set it.
      rw [hlast] at h ⊢
      cases hw : sets w with
      | none => simp [hw] at h
      | some c => exact ⟨w, List.mem_cons_self, by simp [hw]⟩
    · obtain ⟨x, hx, hset⟩ := ih _ hlast
      exact ⟨x, List.mem_cons_of_mem w hx, hset⟩

/-- From the value `b`, each record of the list occurs at the value that it needs. -/
def Guarded (sets needs : ω → Option Bool) (b : Bool) (l : List ω) : Prop :=
  ∀ pre w post, l = pre ++ w :: post → ∀ c, needs w = some c → replay sets b pre = c

@[simp] theorem guarded_nil (sets needs : ω → Option Bool) (b : Bool) :
    Guarded sets needs b [] := by
  intro pre w post h
  simp at h

@[simp] theorem guarded_cons (sets needs : ω → Option Bool) (b : Bool) (w : ω)
    (l : List ω) :
    Guarded sets needs b (w :: l) ↔
      (∀ c, needs w = some c → b = c) ∧ Guarded sets needs ((sets w).getD b) l := by
  constructor
  · intro h
    refine ⟨h [] w l rfl, fun pre x post hl => ?_⟩
    exact h (w :: pre) x post (by rw [hl, List.cons_append])
  · rintro ⟨h0, h⟩ pre x post hl
    cases pre with
    | nil =>
      obtain ⟨rfl, -⟩ := List.cons.inj hl
      exact h0
    | cons y pre =>
      obtain ⟨rfl, htail⟩ := List.cons.inj hl
      exact h pre x post htail

/-- A guarded list followed by one that is guarded from the value reached. -/
theorem guarded_append (sets needs : ω → Option Bool) :
    ∀ (l₁ : List ω) (b : Bool) (l₂ : List ω),
      Guarded sets needs b l₁ → Guarded sets needs (replay sets b l₁) l₂ →
      Guarded sets needs b (l₁ ++ l₂) := by
  intro l₁
  induction l₁ with
  | nil => intro b l₂ _ h₂; exact h₂
  | cons w l₁ ih =>
    intro b l₂ h₁ h₂
    rw [guarded_cons] at h₁
    rw [List.cons_append, guarded_cons]
    exact ⟨h₁.1, ih _ l₂ h₁.2 h₂⟩

/-- In a guarded list, a record that sets the value `c` and a later record that needs the
other value have a record between them that sets the other value. -/
theorem exists_between (sets needs : ω → Option Bool) (b : Bool) (l₁ l₂ l₃ : List ω)
    (a z : ω) (c : Bool) (h : Guarded sets needs b (l₁ ++ a :: (l₂ ++ z :: l₃)))
    (ha : sets a = some c) (hz : needs z = some (!c)) :
    ∃ w ∈ l₂, sets w = some (!c) := by
  have hbefore : replay sets b (l₁ ++ a :: l₂) = !c :=
    h (l₁ ++ a :: l₂) z l₃ (by simp) _ hz
  have hflip : replay sets c l₂ = !c := by
    simpa [ha] using hbefore
  obtain ⟨w, hw, hset⟩ := exists_mem_of_replay_ne sets l₂ c (by rw [hflip]; cases c <;> decide)
  exact ⟨w, hw, by rw [hset, hflip]⟩

end Signal

namespace Machine

variable {σ ε ω : Type}

/-- The records of the machine describe the value `flag` of its state: `sets` gives the
changes, and each record occurs only at the value that it `needs`. -/
structure Tracks (m : Machine σ ε ω) (flag : σ → Bool) (sets needs : ω → Option Bool) :
    Prop where
  /-- The records of one step account for the change of the value in the step. -/
  replay_out : ∀ s e, Signal.replay sets (flag s) (m.out s e) = flag (m.step s e)
  /-- The records of one step occur at the values that they need. -/
  guarded_out : ∀ s e, Signal.Guarded sets needs (flag s) (m.out s e)

/-- The log of a run is guarded from the value at its start. -/
theorem Tracks.guarded_log {m : Machine σ ε ω} {flag : σ → Bool}
    {sets needs : ω → Option Bool} (ht : m.Tracks flag sets needs) :
    ∀ (es : List ε) (s : σ), Signal.Guarded sets needs (flag s) (m.log s es) := by
  intro es
  induction es with
  | nil => intro s; exact Signal.guarded_nil _ _ _
  | cons e es ih =>
    intro s
    refine Signal.guarded_append _ _ _ _ _ (ht.guarded_out s e) ?_
    rw [ht.replay_out]
    exact ih _

/-- In the log of a run, a record that sets the value `c` and a later record that needs the
other value have a record between them that sets the other value. -/
theorem Tracks.exists_between {m : Machine σ ε ω} {flag : σ → Bool}
    {sets needs : ω → Option Bool} (ht : m.Tracks flag sets needs) {s : σ} {es : List ε}
    {l₁ l₂ l₃ : List ω} {a z : ω} {c : Bool}
    (hlog : m.log s es = l₁ ++ a :: (l₂ ++ z :: l₃))
    (ha : sets a = some c) (hz : needs z = some (!c)) :
    ∃ w ∈ l₂, sets w = some (!c) := by
  have hguarded := ht.guarded_log es s
  rw [hlog] at hguarded
  exact Signal.exists_between sets needs (flag s) l₁ l₂ l₃ a z c hguarded ha hz

end Machine
