import Mathlib.Logic.Relation

/-!
# Machines and their runs

A machine executes one action at a time and refuses the actions that are not enabled. A run is
a chain of executed actions; `Run ok` restricts it to the actions that satisfy `ok` in the state
they are executed in. Every state invariant is proved through `Run.invariant`, from what one
action preserves.
-/

namespace EdgeKvm.Lib

universe u v

/-- `exec s a` is the state after action `a`, or `none` when `a` is not enabled in `s`. -/
structure Machine (σ : Type u) (α : Type v) where
  exec : σ → α → Option σ

namespace Machine

variable {σ : Type u} {α : Type v} (M : Machine σ α)

/-- One executed action that satisfies `ok` in its start state. -/
def Step (ok : σ → α → Prop) (s t : σ) : Prop := ∃ a, ok s a ∧ M.exec s a = some t

/-- A run whose actions all satisfy `ok` where they are executed. -/
def Run (ok : σ → α → Prop) : σ → σ → Prop := Relation.ReflTransGen (M.Step ok)

/-- No restriction on the actions of a run. -/
def anyAction : σ → α → Prop := fun _ _ => True

/-- Executes a list of actions from left to right. -/
def runList (s : σ) : List α → Option σ
  | [] => some s
  | a :: as => (M.exec s a).bind fun t => runList t as

variable {M} {ok ok' : σ → α → Prop} {s t u : σ}

theorem Run.refl : M.Run ok s s := Relation.ReflTransGen.refl

theorem Run.trans (first : M.Run ok s t) (rest : M.Run ok t u) : M.Run ok s u :=
  Relation.ReflTransGen.trans first rest

theorem Run.head {a : α} (allowed : ok s a) (executed : M.exec s a = some t)
    (rest : M.Run ok t u) : M.Run ok s u :=
  Relation.ReflTransGen.head ⟨a, allowed, executed⟩ rest

/-- Fewer restrictions allow more runs. -/
theorem Run.mono (weaker : ∀ s a, ok s a → ok' s a) (run : M.Run ok s t) : M.Run ok' s t := by
  refine Relation.ReflTransGen.mono ?_ _ _ run
  rintro s t ⟨a, allowed, executed⟩
  exact ⟨a, weaker s a allowed, executed⟩

/-- What every allowed action preserves holds along the whole run. -/
theorem Run.invariant {I : σ → Prop}
    (preserved : ∀ s a t, ok s a → M.exec s a = some t → I s → I t)
    (run : M.Run ok s t) (initial : I s) : I t := by
  induction run with
  | refl => exact initial
  | tail _ step ih =>
    obtain ⟨a, allowed, executed⟩ := step
    exact preserved _ a _ allowed executed ih

/-- A property that an invariant makes stable, once true, stays true. -/
theorem Run.stable {I P : σ → Prop}
    (preserved : ∀ s a t, ok s a → M.exec s a = some t → I s → I t)
    (stable : ∀ s a t, ok s a → M.exec s a = some t → I s → P s → P t)
    (run : M.Run ok s t) (initial : I s) (holds : P s) : P t := by
  have both : I t ∧ P t := by
    refine run.invariant (I := fun x => I x ∧ P x) ?_ ⟨initial, holds⟩
    rintro s a t allowed executed ⟨hi, hp⟩
    exact ⟨preserved s a t allowed executed hi, stable s a t allowed executed hi hp⟩
  exact both.2

/-- What comes to hold along a run comes to hold by one of its actions. -/
theorem Run.became {P : σ → Prop} (run : M.Run ok s t) (before : ¬ P s) (holds : P t) :
    ∃ a u v, M.Run ok s u ∧ M.exec u a = some v ∧ M.Run ok v t ∧ ¬ P u ∧ P v := by
  induction run with
  | refl => exact absurd holds before
  | @tail u v first step ih =>
    by_cases already : P u
    · obtain ⟨a, x, y, toX, executed, fromY, absent, present⟩ := ih already
      exact ⟨a, x, y, toX, executed, Relation.ReflTransGen.tail fromY step, absent, present⟩
    · obtain ⟨a, allowed, executed⟩ := step
      exact ⟨a, u, v, first, executed, .refl, already, holds⟩

/-- Executing a list of actions is a run. -/
theorem run_of_runList : ∀ (as : List α) {s t : σ}, M.runList s as = some t →
    M.Run anyAction s t := by
  intro as
  induction as with
  | nil =>
    intro s t executed
    cases executed
    exact .refl
  | cons a as ih =>
    intro s t executed
    obtain ⟨mid, first, rest⟩ := Option.bind_eq_some_iff.mp executed
    exact .head trivial first (ih rest)

/-- The state after a list of actions, for lists that are enabled. -/
def reach (M : Machine σ α) (s : σ) (as : List α) : σ := (M.runList s as).getD s

theorem runList_reach {as : List α} (enabled : (M.runList s as).isSome) :
    M.runList s as = some (M.reach s as) := by
  obtain ⟨t, executed⟩ := Option.isSome_iff_exists.mp enabled
  simp [reach, executed]

theorem exec_reach {a : α} (enabled : (M.exec s a).isSome) : M.exec s a = some (M.reach s [a]) := by
  obtain ⟨t, executed⟩ := Option.isSome_iff_exists.mp enabled
  simp [reach, runList, executed]

theorem run_reach (as : List α) (enabled : (M.runList s as).isSome) :
    M.Run anyAction s (M.reach s as) := run_of_runList as (runList_reach enabled)

/-- `ok` holds of every action of the list, each in the state it is executed in. -/
def allowedList (ok : σ → α → Bool) (s : σ) : List α → Bool
  | [] => true
  | a :: as => ok s a && ((M.exec s a).map fun t => allowedList ok t as).getD false

theorem run_of_allowedList {ok : σ → α → Prop} {test : σ → α → Bool}
    (sound : ∀ s a, test s a = true → ok s a) : ∀ (as : List α) {s t : σ},
    M.allowedList test s as = true → M.runList s as = some t → M.Run ok s t := by
  intro as
  induction as with
  | nil =>
    intro s t _ executed
    cases executed
    exact .refl
  | cons a as ih =>
    intro s t allowed executed
    obtain ⟨mid, first, rest⟩ := Option.bind_eq_some_iff.mp executed
    simp only [allowedList, first, Option.map_some, Option.getD_some, Bool.and_eq_true] at allowed
    exact .head (sound s a allowed.1) first (ih allowed.2 rest)

/-- Where an action keeps `P` exactly if it passes the test, a run keeps `P` exactly if all its
    actions pass. -/
theorem iff_allowedList {I P : σ → Prop} {test : σ → α → Bool}
    (preserved : ∀ s a t, M.exec s a = some t → I s → I t)
    (exact : ∀ s a t, M.exec s a = some t → I s → (P t ↔ P s ∧ test s a = true)) :
    ∀ (as : List α) {s t : σ}, I s → M.runList s as = some t →
      (P t ↔ P s ∧ M.allowedList test s as = true) := by
  intro as
  induction as with
  | nil =>
    intro s t _ executed
    cases executed
    simp [allowedList]
  | cons a as ih =>
    intro s t holds executed
    obtain ⟨mid, first, rest⟩ := Option.bind_eq_some_iff.mp executed
    rw [ih (preserved s a mid first holds) rest, exact s a mid first holds]
    simp only [allowedList, first, Option.map_some, Option.getD_some, Bool.and_eq_true, and_assoc]

/-- Where an action keeps `P` exactly if it passes the test, `P` holds in every state of a run
    exactly if all its actions pass. -/
theorem always_iff_allowedList {I P : σ → Prop} {test : σ → α → Bool}
    (preserved : ∀ s a t, M.exec s a = some t → I s → I t)
    (exact : ∀ s a t, M.exec s a = some t → I s → P s → (P t ↔ test s a = true)) :
    ∀ (as : List α) {s : σ}, I s → P s → (M.runList s as).isSome →
      ((∀ done, done <+: as → ∀ t, M.runList s done = some t → P t) ↔
        M.allowedList test s as = true) := by
  intro as
  induction as with
  | nil =>
    intro s _ holds _
    simp only [List.prefix_nil, forall_eq, allowedList, iff_true]
    rintro t executed
    cases executed
    exact holds
  | cons a as ih =>
    intro s invariant holds enabled
    obtain ⟨last, executed⟩ := Option.isSome_iff_exists.mp enabled
    obtain ⟨mid, first, rest⟩ := Option.bind_eq_some_iff.mp executed
    have step := exact s a mid first invariant holds
    have goesOn : (M.runList mid as).isSome := Option.isSome_iff_exists.mpr ⟨last, rest⟩
    simp only [allowedList, first, Option.map_some, Option.getD_some, Bool.and_eq_true, ← step]
    constructor
    · intro always
      have here : P mid := always [a] (by simp) mid (by simp [runList, first])
      refine ⟨here, (ih (preserved s a mid first invariant) here goesOn).mp ?_⟩
      intro done within t reached
      exact always (a :: done) (by simpa using within) t (by simpa [runList, first] using reached)
    · rintro ⟨here, passed⟩ done within t reached
      have later := (ih (preserved s a mid first invariant) here goesOn).mpr passed
      cases done with
      | nil =>
        cases reached
        exact holds
      | cons b done =>
        obtain ⟨same, shorter⟩ := List.cons_prefix_cons.mp within
        subst same
        exact later done shorter t (by simpa [runList, first] using reached)

/-- The same run, up to the state the list reaches. -/
theorem run_reach_of_allowedList {ok : σ → α → Prop} (test : σ → α → Bool)
    (sound : ∀ s a, test s a = true → ok s a) (as : List α)
    (allowed : M.allowedList test s as = true) (enabled : (M.runList s as).isSome) :
    M.Run ok s (M.reach s as) := run_of_allowedList sound as allowed (runList_reach enabled)

/-! ## History variables -/

section Recording

universe w

variable {γ : Type w} {note : γ → σ → α → σ → γ}

/-- The machine together with a history variable, which `note` updates at every action; it has
    the same runs. -/
def recording (M : Machine σ α) (note : γ → σ → α → σ → γ) : Machine (σ × γ) α where
  exec s a := (M.exec s.1 a).map fun t => (t, note s.2 s.1 a t)

theorem exec_recording {s t : σ × γ} {a : α} : (M.recording note).exec s a = some t ↔
    M.exec s.1 a = some t.1 ∧ t.2 = note s.2 s.1 a t.1 := by
  simp only [recording, Option.map_eq_some_iff, Prod.ext_iff]
  constructor
  · rintro ⟨u, executed, rfl, noted⟩
    exact ⟨executed, noted.symm⟩
  · rintro ⟨executed, noted⟩
    exact ⟨t.1, executed, rfl, noted.symm⟩

end Recording

end Machine

end EdgeKvm.Lib
