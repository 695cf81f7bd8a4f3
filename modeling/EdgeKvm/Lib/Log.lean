import Mathlib.Data.List.Basic
import Mathlib.Data.List.Induction
import Mathlib.Tactic.Tauto

/-!
# Order in a log

A log lists what happened, oldest entry first. `Precedes first later log` says that no `later`
entry stands in it without a `first` entry before it; `After P log` says of every entry what
follows it, `Before P log` what it follows, and `ClosedBefore` that what an entry opens is closed
before it ends. They are proved along a log that grows at its end.
-/

namespace EdgeKvm.Lib

universe u

variable {α : Type u} {first later : α → Prop} {P : α → List α → Prop} {x : α} {log more : List α}

/-- Every `later` entry of the log has a `first` entry before it. -/
def Precedes (first later : α → Prop) (log : List α) : Prop :=
  ∀ before x after, log = before ++ x :: after → later x → ∃ y ∈ before, first y

/-- `P` holds of every entry and the log behind it. -/
def After (P : α → List α → Prop) (log : List α) : Prop :=
  ∀ before x after, log = before ++ x :: after → P x after

/-- `P` holds of the log in front of every entry and the entry. -/
def Before (P : List α → α → Prop) (log : List α) : Prop :=
  ∀ before x after, log = before ++ x :: after → P before x

@[simp] theorem precedes_nil : Precedes first later [] := by
  intro before x after split
  simp at split

@[simp] theorem precedes_cons :
    Precedes first later (x :: log) ↔ ¬ later x ∧ (first x ∨ Precedes first later log) := by
  constructor
  · intro ordered
    have silent : ¬ later x := by
      intro isLater
      obtain ⟨y, ⟨⟩, -⟩ := ordered [] x log rfl isLater
    refine ⟨silent, ?_⟩
    by_cases opened : first x
    · exact .inl opened
    · refine .inr fun before z after split isLater => ?_
      obtain ⟨y, found, isFirst⟩ := ordered (x :: before) z after (by rw [split]; rfl) isLater
      rcases List.mem_cons.mp found with rfl | found
      · exact absurd isFirst opened
      · exact ⟨y, found, isFirst⟩
  · rintro ⟨silent, rest⟩ before z after split isLater
    cases before with
    | nil =>
      obtain ⟨rfl, -⟩ := List.cons.inj split
      exact absurd isLater silent
    | cons y before =>
      obtain ⟨rfl, same⟩ := List.cons.inj split
      rcases rest with opened | ordered
      · exact ⟨x, List.mem_cons_self, opened⟩
      · obtain ⟨y, found, isFirst⟩ := ordered before z after same isLater
        exact ⟨y, List.mem_cons_of_mem _ found, isFirst⟩

theorem precedes_append : Precedes first later (log ++ more) ↔
    Precedes first later log ∧ ((∃ y ∈ log, first y) ∨ Precedes first later more) := by
  induction log with
  | nil => simp
  | cons x log ih =>
    simp only [List.cons_append, precedes_cons, ih, List.mem_cons, exists_eq_or_imp]
    grind

/-- A log without a `later` entry. -/
theorem precedes_of_none (none : ∀ x ∈ log, ¬ later x) : Precedes first later log := by
  rintro before x after rfl isLater
  exact absurd isLater (none x (by simp))

/-- A log without a `first` entry has no `later` one. -/
theorem Precedes.none (ordered : Precedes first later log) (closed : ∀ y ∈ log, ¬ first y) :
    ∀ x ∈ log, ¬ later x := by
  intro x found isLater
  obtain ⟨before, after, split⟩ := List.append_of_mem found
  obtain ⟨y, earlier, isFirst⟩ := ordered before x after split isLater
  exact closed y (by simp [split, earlier]) isFirst

@[simp] theorem after_nil : After P [] := by
  intro before x after split
  simp at split

@[simp] theorem after_cons : After P (x :: log) ↔ P x log ∧ After P log := by
  constructor
  · intro all
    refine ⟨all [] x log rfl, fun before y after split => ?_⟩
    exact all (x :: before) y after (by rw [split]; rfl)
  · rintro ⟨head, rest⟩ before y after split
    cases before with
    | nil =>
      obtain ⟨rfl, rfl⟩ := List.cons.inj split
      exact head
    | cons z before =>
      obtain ⟨rfl, same⟩ := List.cons.inj split
      exact rest before y after same

/-- What holds of every entry, whatever follows it. -/
theorem after_of_forall (all : ∀ x ∈ log, ∀ rest, P x rest) : After P log := by
  rintro before x after rfl
  exact all x (by simp) after

/-- What held behind every entry of the log still holds once more is added. -/
theorem After.append {P' : α → List α → Prop} (holds : After P log)
    (grown : ∀ x after, x ∈ log → P x after → P' x (after ++ more)) (new : After P' more) :
    After P' (log ++ more) := by
  induction log with
  | nil => simpa
  | cons x log ih =>
    rw [after_cons] at holds
    rw [List.cons_append, after_cons]
    exact ⟨grown x log List.mem_cons_self holds.1,
      ih holds.2 fun y after found => grown y after (List.mem_cons_of_mem _ found)⟩

theorem after_append :
    After P (log ++ more) ↔ After (fun x rest => P x (rest ++ more)) log ∧ After P more := by
  induction log with
  | nil => simp
  | cons x log ih => rw [List.cons_append, after_cons, after_cons, ih, and_assoc]

/-- What holds of every entry, whatever stands in front of it. -/
theorem before_of_forall {P : List α → α → Prop} (all : ∀ x ∈ log, ∀ front, P front x) :
    Before P log := by
  rintro before x after rfl
  exact all x (by simp) before

/-- The entries that are added follow the whole log. -/
theorem before_append {P : List α → α → Prop} :
    Before P (log ++ more) ↔ Before P log ∧ Before (fun front x => P (log ++ front) x) more := by
  constructor
  · intro all
    refine ⟨fun before x after split => ?_, fun before x after split => ?_⟩
    · exact all before x (after ++ more) (by rw [split, List.append_assoc, List.cons_append])
    · exact all (log ++ before) x after (by rw [split, List.append_assoc])
  · rintro ⟨earlier, added⟩ before x after split
    rcases List.append_eq_append_iff.mp split with ⟨front, rfl, rest⟩ | ⟨behind, rfl, rest⟩
    · exact added front x after rest
    · cases behind with
      | nil =>
        have first := added [] x after rest.symm
        rwa [List.append_nil, List.append_nil] at first
      | cons y behind =>
        obtain ⟨rfl, rfl⟩ := List.cons.inj rest
        exact earlier before x behind rfl

theorem before_cons {P : List α → α → Prop} :
    Before P (x :: log) ↔ P [] x ∧ Before (fun front y => P (x :: front) y) log := by
  rw [← List.singleton_append, before_append]
  refine and_congr_left fun _ => ⟨fun all => all [] x [] rfl, fun holds before y after split => ?_⟩
  obtain ⟨rfl, same⟩ | ⟨front, rfl, same⟩ := List.cons_eq_append_iff.mp split
  · obtain ⟨rfl, -⟩ := List.cons.inj same
    exact holds
  · cases front <;> cases same

/-! ## What must be closed before an end -/

section Closing

variable {opens closes ends : α → Bool}

/-- Every `opens` entry is followed by a `closes` entry before any `ends` entry. -/
def ClosedBefore (opens closes ends : α → Bool) (log : List α) : Prop :=
  After (fun x rest => opens x = true → Precedes (closes · = true) (ends · = true) rest) log

/-- An `opens` entry has no `closes` entry behind it. -/
def leftOpen (opens closes : α → Bool) (log : List α) : Bool :=
  log.foldl (fun left x => (left && !closes x) || opens x) false

@[simp] theorem leftOpen_nil : leftOpen opens closes [] = false := rfl

theorem leftOpen_snoc : leftOpen opens closes (log ++ [x]) =
    ((leftOpen opens closes log && !closes x) || opens x) := by
  simp [leftOpen]

theorem leftOpen_append : leftOpen opens closes (log ++ more) =
    (leftOpen opens closes more || (leftOpen opens closes log && !more.any closes)) := by
  induction more using List.reverseRecOn with
  | nil => simp
  | append_singleton more x ih =>
    have any : (more ++ [x]).any closes = (more.any closes || closes x) := by simp
    rw [← List.append_assoc, leftOpen_snoc, leftOpen_snoc, ih, any, Bool.not_or]
    cases leftOpen opens closes more <;> cases closes x <;> cases opens x <;> simp

theorem leftOpen_cons : leftOpen opens closes (x :: log) =
    (leftOpen opens closes log || (opens x && !log.any closes)) := by
  rw [← List.singleton_append, leftOpen_append]
  simp [leftOpen]

/-- No `closes` entry follows the last `opens` entry, exactly if one is left open. -/
theorem leftOpen_eq_false : leftOpen opens closes log = false ↔
    After (fun x rest => opens x = true → ∃ y ∈ rest, closes y = true) log := by
  induction log with
  | nil => simp
  | cons x log ih =>
    rw [after_cons, ← ih, leftOpen_cons]
    cases leftOpen opens closes log <;> simp

@[simp] theorem closedBefore_nil : ClosedBefore opens closes ends [] := after_nil

theorem closedBefore_cons : ClosedBefore opens closes ends (x :: log) ↔
    (opens x = true → Precedes (closes · = true) (ends · = true) log) ∧
      ClosedBefore opens closes ends log := after_cons

/-- What is left open has to be closed before what is added ends it. -/
theorem closedBefore_append : ClosedBefore opens closes ends (log ++ more) ↔
    ClosedBefore opens closes ends log ∧ ClosedBefore opens closes ends more ∧
      (leftOpen opens closes log = true → Precedes (closes · = true) (ends · = true) more) := by
  induction log with
  | nil => simp
  | cons x log ih =>
    rw [List.cons_append, closedBefore_cons, closedBefore_cons, ih, precedes_append, leftOpen_cons]
    by_cases closed : ∃ y ∈ log, closes y = true
    · have any : log.any closes = true := List.any_eq_true.mpr closed
      simp only [any, closed, true_or, and_true, Bool.not_true, Bool.and_false, Bool.or_false]
      tauto
    · have none : log.any closes = false := by
        rw [← Bool.not_eq_true, List.any_eq_true]
        exact closed
      simp only [none, closed]
      cases opens x <;> simp
      tauto

end Closing

end EdgeKvm.Lib
