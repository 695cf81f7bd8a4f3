import Mathlib.Logic.Function.Basic
import Mathlib.Data.List.Basic

/-!
# A disk that may lose power

A directory of names that stand for files. What was written to a file is safe once the file is
synced; a name may fall back to anything it stood for since the directory was synced. Numbers of
files are never used again.
-/

namespace EdgeKvm.Lib

universe u

/-- `file` says which file a name stands for, `past` what it stood for since the directory was
    synced, newest first; `synced` are the files that have all of their bytes on the device. -/
structure Disk (ν : Type u) where
  file : ν → Option Nat := fun _ => none
  past : ν → List (Option Nat) := fun _ => []
  bytes : Nat → List UInt8 := fun _ => []
  synced : Nat → Bool := fun _ => true
  fresh : Nat := 0

namespace Disk

variable {ν : Type u} [DecidableEq ν]

/-- What a name stands for after a loss of power. -/
def candidates (d : Disk ν) (name : ν) : List (Option Nat) := d.file name :: d.past name

/-- A name stands for something else. -/
def point (d : Disk ν) (name : ν) (target : Option Nat) : Disk ν :=
  { d with
    file := Function.update d.file name target
    past := Function.update d.past name (d.candidates name) }

/-- Makes a file and opens it, if there is none of that name. -/
def createNew (d : Disk ν) (name : ν) : Option (Nat × Disk ν) :=
  if (d.file name).isSome then none
  else some (d.fresh, { d.point name (some d.fresh) with
    bytes := Function.update d.bytes d.fresh []
    synced := Function.update d.synced d.fresh false
    fresh := d.fresh + 1 })

/-- Writes at the end of a file. -/
def append (d : Disk ν) (i : Nat) (chunk : List UInt8) : Disk ν :=
  { d with
    bytes := Function.update d.bytes i (d.bytes i ++ chunk)
    synced := Function.update d.synced i false }

def sync (d : Disk ν) (i : Nat) : Disk ν := { d with synced := Function.update d.synced i true }

/-- Gives a file another name, in place of the file that had it. -/
def rename (d : Disk ν) (source target : ν) : Option (Disk ν) :=
  (d.file source).map fun i => (d.point target (some i)).point source none

/-- Removes a name, if it is there. -/
def remove (d : Disk ν) (name : ν) : Disk ν :=
  if (d.file name).isSome then d.point name none else d

def syncDirectory (d : Disk ν) : Disk ν := { d with past := fun _ => [] }

/-- Each name stands for one of its candidates, and a file that is not synced holds anything. -/
def losePower (d : Disk ν) (pick : ν → Nat) (left : Nat → List UInt8) : Disk ν where
  file name := (d.candidates name)[pick name]?.getD (d.file name)
  bytes i := if d.synced i then d.bytes i else left i
  fresh := d.fresh

variable {d e : Disk ν} {name other source target : ν} {c : Option Nat} {i j : Nat}

/-- All files that names may stand for have been made. -/
def Bounded (d : Disk ν) : Prop := ∀ name i, some i ∈ d.candidates name → i < d.fresh

@[simp] theorem candidates_point :
    (d.point name c).candidates name = c :: d.candidates name := by
  simp [candidates, point]

theorem candidates_point_of_ne (apart : other ≠ name) :
    (d.point name c).candidates other = d.candidates other := by
  simp [candidates, point, apart]

omit [DecidableEq ν] in
@[simp] theorem candidates_syncDirectory : d.syncDirectory.candidates name = [d.file name] := rfl

omit [DecidableEq ν] in
theorem file_mem_candidates : d.file name ∈ d.candidates name := List.mem_cons_self

omit [DecidableEq ν] in
/-- After a loss of power a name stands for something it may have stood for. -/
theorem candidates_losePower {pick : ν → Nat} {left : Nat → List UInt8}
    (member : c ∈ (d.losePower pick left).candidates name) : c ∈ d.candidates name := by
  obtain rfl : c = (d.candidates name)[pick name]?.getD (d.file name) := by
    simpa [candidates, losePower] using member
  cases found : (d.candidates name)[pick name]? with
  | none => exact file_mem_candidates
  | some candidate => exact List.mem_of_getElem? found

theorem mem_candidates_point (member : c ∈ (d.point name (some j)).candidates other) :
    c = some j ∧ other = name ∨ c ∈ d.candidates other := by
  by_cases same : other = name
  · subst same
    rw [candidates_point] at member
    rcases List.mem_cons.mp member with rfl | old
    · exact .inl ⟨rfl, rfl⟩
    · exact .inr old
  · rw [candidates_point_of_ne same] at member
    exact .inr member

theorem mem_candidates_unlink (member : some i ∈ (d.point name none).candidates other) :
    some i ∈ d.candidates other := by
  by_cases same : other = name
  · subst same
    rw [candidates_point] at member
    exact (List.mem_cons.mp member).resolve_left (by simp)
  · rwa [candidates_point_of_ne same] at member

/-- A new file has one name, which had none. -/
structure Created (d : Disk ν) (name : ν) (i : Nat) (e : Disk ν) : Prop where
  number : i = d.fresh
  fresh : e.fresh = d.fresh + 1
  named : e.file name = some i
  files : ∀ other, other ≠ name → e.file other = d.file other
  others : ∀ other, other ≠ name → e.candidates other = d.candidates other
  mine : ∀ j, some j ∈ e.candidates name → j = i ∨ some j ∈ d.candidates name
  empty : e.bytes i = []
  bytes : ∀ j, j ≠ i → e.bytes j = d.bytes j
  synced : ∀ j, j ≠ i → e.synced j = d.synced j

theorem createNew_created (made : d.createNew name = some (i, e)) : Created d name i e := by
  unfold createNew at made
  split at made
  · cases made
  · cases made
    refine ⟨rfl, rfl, by simp [point], ?_, ?_, ?_, by simp, ?_, ?_⟩
    · intro other apart
      simp [point, apart]
    · intro other apart
      exact candidates_point_of_ne apart
    · intro j member
      rcases mem_candidates_point (d := d) member with ⟨same, -⟩ | old
      · exact .inl (Option.some.inj same)
      · exact .inr old
    · intro j apart
      simp [apart]
    · intro j apart
      simp [apart]

theorem Created.bounded (created : Created d name i e) (bounded : d.Bounded) : e.Bounded := by
  intro other j member
  rw [created.fresh]
  by_cases same : other = name
  · subst same
    rcases created.mine j member with rfl | old
    · rw [created.number]
      exact Nat.lt_succ_self _
    · exact Nat.lt_succ_of_lt (bounded _ _ old)
  · rw [created.others other same] at member
    exact Nat.lt_succ_of_lt (bounded _ _ member)

/-- A renamed file has its new name only; other names stay. -/
structure Renamed (d : Disk ν) (source target : ν) (i : Nat) (e : Disk ν) : Prop where
  before : d.file source = some i
  named : e.candidates target = some i :: d.candidates target
  files : ∀ other, other ≠ source → other ≠ target → e.file other = d.file other
  mine : ∀ other j, other ≠ target → some j ∈ e.candidates other → some j ∈ d.candidates other
  bytes : e.bytes = d.bytes
  synced : e.synced = d.synced
  fresh : e.fresh = d.fresh

theorem rename_renamed (apart : target ≠ source) (renamed : d.rename source target = some e) :
    ∃ i, Renamed d source target i e := by
  obtain ⟨i, before, rfl⟩ := Option.map_eq_some_iff.mp renamed
  refine ⟨i, before, ?_, ?_, ?_, rfl, rfl, rfl⟩
  · rw [candidates_point_of_ne apart, candidates_point]
  · intro other fromSource fromTarget
    simp [point, fromSource, fromTarget]
  · intro other j fromTarget member
    have old := mem_candidates_unlink member
    rwa [candidates_point_of_ne fromTarget] at old

theorem Renamed.bounded (renamed : Renamed d source target i e) (bounded : d.Bounded) :
    e.Bounded := by
  intro other j member
  rw [renamed.fresh]
  by_cases same : other = target
  · subst same
    rw [renamed.named] at member
    rcases List.mem_cons.mp member with same | old
    · obtain rfl := Option.some.inj same
      exact bounded source j (renamed.before ▸ file_mem_candidates)
    · exact bounded _ _ old
  · exact bounded other j (renamed.mine other j same member)

/-- Removing a name adds no file to any name. -/
theorem mem_candidates_remove (member : some i ∈ (d.remove name).candidates other) :
    some i ∈ d.candidates other := by
  unfold remove at member
  split at member
  · exact mem_candidates_unlink member
  · exact member

theorem remove_file_of_ne (apart : other ≠ name) : (d.remove name).file other = d.file other := by
  unfold remove
  split
  · simp [point, apart]
  · rfl

theorem remove_candidates_of_ne (apart : other ≠ name) :
    (d.remove name).candidates other = d.candidates other := by
  unfold remove
  split
  · exact candidates_point_of_ne apart
  · rfl

@[simp] theorem remove_bytes : (d.remove name).bytes = d.bytes := by
  unfold remove
  split <;> rfl

@[simp] theorem remove_synced : (d.remove name).synced = d.synced := by
  unfold remove
  split <;> rfl

@[simp] theorem remove_fresh : (d.remove name).fresh = d.fresh := by
  unfold remove
  split <;> rfl

end Disk

end EdgeKvm.Lib
