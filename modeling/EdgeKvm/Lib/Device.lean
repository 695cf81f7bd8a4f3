import Mathlib.Data.Finset.Basic
import Mathlib.Data.List.Lemmas

/-!
# Devices that may fail

A device takes events that press and release keys. A send carries a list of events and may fail;
one that fails has delivered some of them, but not the last one. What is held down afterwards is
compared with the keys that a caller has recorded.
-/

namespace EdgeKvm.Lib

/-- The keys a device holds down, and how its sends will end: `none` succeeds, `some n` fails
    with at most `n` events delivered. Sends past the list succeed. -/
structure Device (κ : Type) where
  held : Finset κ := ∅
  outcomes : List (Option Nat) := []

namespace Device

variable {κ ε : Type} [DecidableEq κ]

/-- An event presses a key, releases one, or does neither. -/
def apply (touch : ε → Option (κ × Bool)) (held : Finset κ) (event : ε) : Finset κ :=
  match touch event with
  | some (key, true) => insert key held
  | some (key, false) => held.erase key
  | none => held

/-- Whether the send succeeded, and the device after it. -/
def send (touch : ε → Option (κ × Bool)) (d : Device κ) (events : List ε) : Bool × Device κ :=
  match d.outcomes with
  | [] => (true, { d with held := events.foldl (apply touch) d.held })
  | none :: rest => (true, { held := events.foldl (apply touch) d.held, outcomes := rest })
  | some delivered :: rest =>
    (false,
      { held := (events.dropLast.take delivered).foldl (apply touch) d.held, outcomes := rest })

/-- The next send fails. -/
def failsNext (d : Device κ) : Bool := d.outcomes.head?.any Option.isSome

variable {touch : ε → Option (κ × Bool)} {d : Device κ} {events : List ε} {event : ε}

theorem send_fst : (d.send touch events).1 = !d.failsNext := by
  unfold send failsNext
  split <;> simp [*]

theorem held_send_of_succeeds (succeeds : d.failsNext = false) :
    (d.send touch events).2.held = events.foldl (apply touch) d.held := by
  unfold send
  split
  · rfl
  · rfl
  · rename_i delivered rest outcomes
    rw [failsNext, outcomes] at succeeds
    cases succeeds

theorem outcomes_send : (d.send touch events).2.outcomes = d.outcomes.tail := by
  unfold send
  split <;> simp [*]

/-- A send of one event delivers it or fails without any effect. -/
theorem held_send_one :
    (d.send touch [event]).2.held = if d.failsNext then d.held else apply touch d.held event := by
  unfold send failsNext
  split <;> simp [*]

/-- A release that fails for no held key leaves the device as one that arrives. -/
theorem held_send_release {key : κ} (touched : touch event = some (key, false))
    (arrives : d.failsNext = true → key ∉ d.held) :
    (d.send touch [event]).2.held = d.held.erase key := by
  have released : apply touch d.held event = d.held.erase key := by simp only [apply, touched]
  rw [held_send_one, released]
  split
  next fails => exact (Finset.erase_eq_of_notMem (arrives fails)).symm
  next => rfl

/-- Sends that touch no key leave what is held. -/
theorem held_send_still {key : κ} (still : ∀ event ∈ events, touch event = none)
    (inside : key ∈ (d.send touch events).2.held) : key ∈ d.held := by
  have unchanged : ∀ (events : List ε), (∀ event ∈ events, touch event = none) →
      events.foldl (apply touch) d.held = d.held := by
    intro events
    induction events with
    | nil => exact fun _ => rfl
    | cons event rest ih =>
      intro still
      have first : apply touch d.held event = d.held := by
        simp only [apply, still event List.mem_cons_self]
      rw [List.foldl_cons, first]
      exact ih fun other listed => still other (List.mem_cons_of_mem _ listed)
  have taken : ∀ n, ∀ event ∈ events.dropLast.take n, touch event = none := fun n event listed =>
    still event (List.mem_of_mem_dropLast (List.mem_of_mem_take listed))
  unfold send at inside
  split at inside
  · rwa [unchanged events still] at inside
  · rwa [unchanged events still] at inside
  · rename_i delivered rest outcomes
    rwa [unchanged _ (taken delivered)] at inside

/-- Sends that only release keys press none, however they end. -/
theorem held_send_subset (releases : ∀ event ∈ events, ∃ key, touch event = some (key, false)) :
    (d.send touch events).2.held ⊆ d.held := by
  have shrinks : ∀ (events : List ε) (held : Finset κ),
      (∀ event ∈ events, ∃ key, touch event = some (key, false)) →
      events.foldl (apply touch) held ⊆ held := by
    intro events
    induction events with
    | nil => exact fun held _ => Finset.Subset.refl held
    | cons event rest ih =>
      intro held releases
      obtain ⟨key, touched⟩ := releases event List.mem_cons_self
      have first : apply touch held event = held.erase key := by simp only [apply, touched]
      rw [List.foldl_cons, first]
      have smaller := ih (held.erase key) fun other listed =>
        releases other (List.mem_cons_of_mem _ listed)
      exact smaller.trans (Finset.erase_subset key held)
  unfold send
  split
  · exact shrinks events d.held releases
  · exact shrinks events d.held releases
  · refine shrinks _ d.held fun event listed => releases event ?_
    exact List.mem_of_mem_dropLast (List.mem_of_mem_take listed)

/-- Releasing a list of keys leaves none of them. -/
theorem mem_foldl_release {key : κ} : ∀ {keys : List κ} {release : κ → ε} {held : Finset κ},
    (∀ key, touch (release key) = some (key, false)) →
    (key ∈ (keys.map release).foldl (apply touch) held ↔ key ∈ held ∧ key ∉ keys) := by
  intro keys
  induction keys with
  | nil => simp
  | cons first rest ih =>
    intro release held releases
    have one : apply touch held (release first) = held.erase first := by
      simp only [apply, releases first]
    rw [List.map_cons, List.foldl_cons, one, ih releases, Finset.mem_erase, List.mem_cons]
    grind

end Device

end EdgeKvm.Lib
