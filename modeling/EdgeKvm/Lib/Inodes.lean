import Mathlib.Logic.Function.Basic
import Mathlib.Data.List.Basic

/-!
# Files and their names

A directory of names that stand for files. An open file is held by its number, not by its name:
it stays the same file when it is renamed or its name is given to another one, and whoever holds
it may go on writing to it.
-/

namespace EdgeKvm.Lib

universe u

/-- `file` says which file a name stands for, `bytes` what is in a file; `fresh` is a number that
    no file has yet. -/
structure Inodes (ν : Type u) where
  file : ν → Option Nat
  bytes : Nat → List UInt8
  fresh : Nat

/-- `bytes` written into `old` at `offset`; a gap reads as zeros. -/
def overwrite (old : List UInt8) (offset : Nat) (bytes : List UInt8) : List UInt8 :=
  (old ++ List.replicate (offset - old.length) 0).take offset ++ bytes ++
    old.drop (offset + bytes.length)

theorem overwrite_end (old bytes : List UInt8) : overwrite old old.length bytes = old ++ bytes := by
  simp [overwrite]

namespace Inodes

variable {ν : Type u} [DecidableEq ν]

/-- No name stands for a file. -/
def empty : Inodes ν := ⟨fun _ => none, fun _ => [], 0⟩

/-- Opens a name for writing, empty, and makes it if it is not there. -/
def openTruncated (f : Inodes ν) (name : ν) : Nat × Inodes ν :=
  match f.file name with
  | some i => (i, { f with bytes := Function.update f.bytes i [] })
  | none => (f.fresh, { file := Function.update f.file name (some f.fresh)
                        bytes := Function.update f.bytes f.fresh []
                        fresh := f.fresh + 1 })

/-- Writes into an open file. -/
def writeAt (f : Inodes ν) (i offset : Nat) (bytes : List UInt8) : Inodes ν :=
  { f with bytes := Function.update f.bytes i (overwrite (f.bytes i) offset bytes) }

/-- Gives a file another name, taking the name from the file that had it. -/
def rename (f : Inodes ν) (source target : ν) : Option (Inodes ν) :=
  (f.file source).map fun i =>
    { f with file := Function.update (Function.update f.file source none) target (some i) }

/-- Two names stand for two files, and their numbers are taken. -/
structure Apart (f : Inodes ν) : Prop where
  distinct : ∀ n m i, f.file n = some i → f.file m = some i → n = m
  taken : ∀ n i, f.file n = some i → i < f.fresh

variable {f g : Inodes ν} {name other source target : ν} {i j offset : Nat} {bytes : List UInt8}

omit [DecidableEq ν] in
theorem empty_apart : (empty : Inodes ν).Apart :=
  ⟨fun _ _ _ named => by simp [empty] at named, fun _ _ named => by simp [empty] at named⟩

omit [DecidableEq ν] in
@[simp] theorem writeAt_file : (f.writeAt i offset bytes).file = f.file := rfl

omit [DecidableEq ν] in
@[simp] theorem writeAt_fresh : (f.writeAt i offset bytes).fresh = f.fresh := rfl

omit [DecidableEq ν] in
@[simp] theorem writeAt_bytes_self :
    (f.writeAt i offset bytes).bytes i = overwrite (f.bytes i) offset bytes := by
  simp [writeAt]

omit [DecidableEq ν] in
theorem writeAt_bytes_other (apart : j ≠ i) :
    (f.writeAt i offset bytes).bytes j = f.bytes j := by
  simp [writeAt, apart]

omit [DecidableEq ν] in
theorem Apart.writeAt (apart : f.Apart) : (f.writeAt i offset bytes).Apart :=
  ⟨apart.distinct, apart.taken⟩

/-- The opened file is empty and has the name; every other name and file stays. -/
structure Opened (f : Inodes ν) (name : ν) (i : Nat) (g : Inodes ν) : Prop where
  named : g.file name = some i
  others : ∀ other, other ≠ name → g.file other = f.file other
  empty : g.bytes i = []
  bytes : ∀ j, j ≠ i → g.bytes j = f.bytes j
  fresh : f.fresh ≤ g.fresh
  unnamed : f.Apart → ∀ other, other ≠ name → f.file other ≠ some i
  apart : f.Apart → g.Apart

theorem openTruncated_opened (f : Inodes ν) (name : ν) :
    Opened f name (f.openTruncated name).1 (f.openTruncated name).2 := by
  unfold openTruncated
  split
  · rename_i i named
    refine ⟨named, fun _ _ => rfl, by simp, ?_, Nat.le_refl _, ?_, ?_⟩
    · intro j apart
      simp [apart]
    · intro apart other different same
      exact different (apart.distinct other name i same named)
    · intro apart
      exact ⟨apart.distinct, apart.taken⟩
  · rename_i absent
    refine ⟨by simp, ?_, by simp, ?_, Nat.le_succ _, ?_, ?_⟩
    · intro other different
      simp [different]
    · intro j apart
      simp [apart]
    · intro apart other different same
      exact absurd (apart.taken other f.fresh same) (Nat.lt_irrefl _)
    · intro apart
      have taken : ∀ n i, Function.update f.file name (some f.fresh) n = some i →
          n = name ∧ i = f.fresh ∨ n ≠ name ∧ f.file n = some i := by
        intro n i same
        by_cases own : n = name
        · subst own
          rw [Function.update_self] at same
          exact .inl ⟨rfl, (Option.some.inj same).symm⟩
        · rw [Function.update_of_ne own] at same
          exact .inr ⟨own, same⟩
      refine ⟨fun n m i first second => ?_, fun n i same => ?_⟩
      · rcases taken n i first with ⟨rfl, rfl⟩ | ⟨-, known⟩
        · rcases taken m f.fresh second with ⟨rfl, -⟩ | ⟨-, known⟩
          · rfl
          · exact absurd (apart.taken m f.fresh known) (Nat.lt_irrefl _)
        · rcases taken m i second with ⟨rfl, rfl⟩ | ⟨-, known'⟩
          · exact absurd (apart.taken n f.fresh known) (Nat.lt_irrefl _)
          · exact apart.distinct n m i known known'
      · rcases taken n i same with ⟨-, rfl⟩ | ⟨-, known⟩
        · exact Nat.lt_succ_self _
        · exact Nat.lt_succ_of_lt (apart.taken n i known)

/-- The renamed file has its new name only. -/
structure Renamed (f : Inodes ν) (source target : ν) (i : Nat) (g : Inodes ν) : Prop where
  before : f.file source = some i
  named : g.file target = some i
  gone : g.file source = none
  bytes : g.bytes = f.bytes
  fresh : g.fresh = f.fresh
  apart : f.Apart → g.Apart

theorem rename_renamed (different : source ≠ target) (renamed : f.rename source target = some g) :
    ∃ i, Renamed f source target i g := by
  obtain ⟨i, before, rfl⟩ := Option.map_eq_some_iff.mp renamed
  refine ⟨i, before, by simp, by simp [different], rfl, rfl, ?_⟩
  intro apart
  have taken : ∀ n j, Function.update (Function.update f.file source none) target (some i) n =
      some j → n = target ∧ j = i ∨ n ≠ source ∧ f.file n = some j := by
    intro n j same
    by_cases own : n = target
    · subst own
      rw [Function.update_self] at same
      exact .inl ⟨rfl, (Option.some.inj same).symm⟩
    · rw [Function.update_of_ne own] at same
      by_cases old : n = source
      · subst old
        rw [Function.update_self] at same
        cases same
      · rw [Function.update_of_ne old] at same
        exact .inr ⟨old, same⟩
  refine ⟨fun n m j first second => ?_, fun n j same => ?_⟩
  · rcases taken n j first with ⟨rfl, rfl⟩ | ⟨moved, known⟩
    · rcases taken m j second with ⟨rfl, -⟩ | ⟨moved, known⟩
      · rfl
      · exact absurd (apart.distinct m source j known before) moved
    · rcases taken m j second with ⟨rfl, rfl⟩ | ⟨-, known'⟩
      · exact absurd (apart.distinct n source j known before) moved
      · exact apart.distinct n m j known known'
  · rcases taken n j same with ⟨-, rfl⟩ | ⟨-, known⟩
    · exact apart.taken source j before
    · exact apart.taken n j known

end Inodes

end EdgeKvm.Lib
