import EdgeKvm.Lib.Disk
import EdgeKvm.Lib.Machine
import Mathlib.Data.List.Perm.Basic
import Mathlib.Data.List.Nodup
import Mathlib.Tactic.Tauto
import Mathlib.Tactic.ByContra

/-!
# Files that are replaced as a whole

`write_atomic_with` of `edge-crypto`, which saves the identity and the pins: any number of saves of
one file, from any number of processes, on a disk that may lose power.
-/

namespace EdgeKvm.Storage

open EdgeKvm.Lib Machine

/-- The file and the temporary files beside it, each named after a process and a number of its
    `TEMP_COUNTER`. -/
inductive SaveName where
  | path
  | temp (process counter : Nat)
  deriving DecidableEq, Repr

/-- Where a save is. -/
inductive SaveStage where
  | create
  | write (file offset : Nat)
  | sync (file : Nat)
  | rename
  | syncDirectory (version : Nat)
  /-- A step has failed. -/
  | cleanUp
  deriving DecidableEq, Repr

/-- A call of `write_atomic_with`. -/
structure AtomicWrite where
  process : Nat
  counter : Nat
  contents : List UInt8
  stage : SaveStage := .create
  deriving DecidableEq, Repr

def AtomicWrite.temp (save : AtomicWrite) : SaveName := .temp save.process save.counter

/-- The step of `write_all` at an offset, or the `sync_all` behind it. -/
def AtomicWrite.writeNext (save : AtomicWrite) (file offset : Nat) : SaveStage :=
  if save.contents.length ≤ offset then .sync file else .write file offset

/-- The saves that are under way. `replaced` are the contents that the file was replaced with, in
    their order; `confirmed` is how many of them were there when the last save returned. -/
structure Saves where
  disk : Disk SaveName
  tempCounter : Nat → Nat := fun _ => 0
  running : List AtomicWrite := []
  replaced : List (List UInt8) := []
  confirmed : Nat := 0

/-- A save begins; the next step of one is done, a write of some bytes, or fails after them; a
    process ends; the power goes. -/
inductive SaveAction where
  | begin (process : Nat) (contents : List UInt8)
  | step (i length : Nat) (fails : Bool)
  | exit (process : Nat)
  | losePower (pick : SaveName → Nat) (left : Nat → List UInt8)

namespace Saves

variable (s : Saves)

/-- A running save is at another stage. -/
def advance (i : Nat) (save : AtomicWrite) (stage : SaveStage) : Saves :=
  { s with running := s.running.set i { save with stage } }

/-- A save returns. -/
def finish (i : Nat) : Saves := { s with running := s.running.eraseIdx i }

/-- The next step of a save. -/
def perform (i : Nat) (save : AtomicWrite) (length : Nat) (fails : Bool) : Saves :=
  match save.stage with
  | .create =>
    match fails, s.disk.createNew save.temp with
    | false, some (file, disk) => { s with disk }.advance i save (save.writeNext file 0)
    | _, _ => s.advance i save .cleanUp
  | .write file offset =>
    let chunk := (save.contents.drop offset).take (length + 1)
    if fails then
      { s with disk := s.disk.append file (chunk.take length) }.advance i save .cleanUp
    else
      { s with disk := s.disk.append file chunk }.advance i save
        (save.writeNext file (offset + chunk.length))
  | .sync file =>
    if fails then s.advance i save .cleanUp
    else { s with disk := s.disk.sync file }.advance i save .rename
  | .rename =>
    match fails, s.disk.rename save.temp .path with
    | false, some disk =>
      { s with disk, replaced := s.replaced ++ [save.contents] }.advance i save
        (.syncDirectory (s.replaced.length + 1))
    | _, _ => s.advance i save .cleanUp
  | .syncDirectory version =>
    if fails then s.advance i save .cleanUp
    else
      { s with disk := s.disk.syncDirectory, confirmed := max s.confirmed version }.finish i
  | .cleanUp =>
    if fails then s.finish i else { s with disk := s.disk.remove save.temp }.finish i

def exec : SaveAction → Option Saves
  | .begin process contents =>
    some { s with
      tempCounter := Function.update s.tempCounter process (s.tempCounter process + 1)
      running := s.running ++ [{ process, counter := s.tempCounter process, contents }] }
  | .step i length fails => s.running[i]?.map fun save => s.perform i save length fails
  | .exit process => some { s with
      tempCounter := Function.update s.tempCounter process 0
      running := s.running.filter fun save => save.process ≠ process }
  | .losePower pick left => some { s with
      disk := s.disk.losePower pick left
      tempCounter := fun _ => 0
      running := [] }

def machine : Machine Saves SaveAction := ⟨exec⟩

/-- What the file holds. -/
def content : Option (List UInt8) := (s.disk.file .path).map s.disk.bytes

/-- The contents of the file, before it was replaced or as it was replaced last. -/
def version (initial : Option (List UInt8)) : Nat → Option (List UInt8)
  | 0 => initial
  | n + 1 => s.replaced[n]?

/-- No save yet, on a disk that has the file with `initial` in it, or has not. -/
structure Initial (initial : Option (List UInt8)) : Prop where
  content : s.content = initial
  settled : s.disk.past .path = []
  synced : ∀ i, s.disk.synced i = true
  bounded : s.disk.Bounded
  running : s.running = []
  replaced : s.replaced = []
  confirmed : s.confirmed = 0

/-! ## What a step leaves alone -/

/-- A file that only the temporary name of a save stands for, or may. -/
structure Owns (save : AtomicWrite) (file : Nat) : Prop where
  named : s.disk.file save.temp = some file
  only : ∀ name, some file ∈ s.disk.candidates name → name = save.temp

/-- The file holds a version from `v` on. -/
def Current (initial : Option (List UInt8)) (v : Nat) : Prop :=
  ∃ u, v ≤ u ∧ u ≤ s.replaced.length ∧ s.content = s.version initial u

/-- The open file of a save is its own and holds what was written; it is synced before it is
    renamed. -/
def SaveOk (initial : Option (List UInt8)) (save : AtomicWrite) : Prop :=
  match save.stage with
  | .create | .cleanUp => True
  | .write file offset => s.Owns save file ∧ s.disk.bytes file = save.contents.take offset
  | .sync file => s.Owns save file ∧ s.disk.bytes file = save.contents
  | .rename => ∃ file, s.Owns save file ∧ s.disk.bytes file = save.contents ∧
      s.disk.synced file = true
  | .syncDirectory version => s.Current initial version

/-- What the file may stand for is a whole version, on the device, and none that is older than a
    save that has returned. -/
def PathOk (initial : Option (List UInt8)) : Prop :=
  ∀ c ∈ s.disk.candidates .path, (∀ i, c = some i → s.disk.synced i = true) ∧
    ∃ v, s.confirmed ≤ v ∧ v ≤ s.replaced.length ∧ c.map s.disk.bytes = s.version initial v

/-- A name and the files it may stand for are left alone. -/
structure Keeps (s t : Saves) (name : SaveName) : Prop where
  file : t.disk.file name = s.disk.file name
  files : ∀ i, some i ∈ s.disk.candidates name →
    t.disk.bytes i = s.disk.bytes i ∧ t.disk.synced i = s.disk.synced i
  others : ∀ i other, some i ∈ s.disk.candidates name → some i ∈ t.disk.candidates other →
    some i ∈ s.disk.candidates other

variable {s} {t : Saves} {save : AtomicWrite} {initial : Option (List UInt8)} {file v : Nat}

theorem Owns.mem (owns : s.Owns save file) : some file ∈ s.disk.candidates save.temp :=
  owns.named ▸ Disk.file_mem_candidates

theorem Owns.keeps (owns : s.Owns save file) (keeps : Keeps s t save.temp) : t.Owns save file :=
  ⟨keeps.file.trans owns.named, fun name member => owns.only name
    (keeps.others file name owns.mem member)⟩

theorem SaveOk.keeps (ok : s.SaveOk initial save) (keeps : Keeps s t save.temp)
    (current : ∀ v, s.Current initial v → t.Current initial v) : t.SaveOk initial save := by
  unfold SaveOk at ok ⊢
  cases stage : save.stage with
  | create | cleanUp => trivial
  | write file offset =>
    rw [stage] at ok
    exact ⟨ok.1.keeps keeps, (keeps.files file ok.1.mem).1.trans ok.2⟩
  | sync file =>
    rw [stage] at ok
    exact ⟨ok.1.keeps keeps, (keeps.files file ok.1.mem).1.trans ok.2⟩
  | rename =>
    rw [stage] at ok
    obtain ⟨file, owns, bytes, synced⟩ := ok
    obtain ⟨same, still⟩ := keeps.files file owns.mem
    exact ⟨file, owns.keeps keeps, same.trans bytes, still.trans synced⟩
  | syncDirectory version =>
    rw [stage] at ok
    exact current version ok

theorem version_append (more : List (List UInt8)) (inside : v ≤ s.replaced.length)
    (grown : t.replaced = s.replaced ++ more) : t.version initial v = s.version initial v := by
  cases v with
  | zero => rfl
  | succ n => rw [version, version, grown, List.getElem?_append_left inside]

/-- The file stays the same, and holds the same. -/
theorem Current.same (named : t.disk.file .path = s.disk.file .path)
    (bytes : ∀ i, s.disk.file .path = some i → t.disk.bytes i = s.disk.bytes i)
    (replaced : t.replaced = s.replaced) (current : s.Current initial v) :
    t.Current initial v := by
  obtain ⟨u, newer, inside, holds⟩ := current
  refine ⟨u, newer, replaced ▸ inside, ?_⟩
  rw [version_append (t := t) [] inside (by simp [replaced]), ← holds, content, content,
    named]
  cases named : s.disk.file .path with
  | none => rfl
  | some i => exact congrArg some (bytes i named)

/-- The file may stand for nothing new, and the files it may stand for are left alone. -/
theorem PathOk.fewer (ok : s.PathOk initial)
    (candidates : ∀ c ∈ t.disk.candidates .path, c ∈ s.disk.candidates .path)
    (files : ∀ i, some i ∈ s.disk.candidates .path →
      t.disk.bytes i = s.disk.bytes i ∧ t.disk.synced i = s.disk.synced i)
    (replaced : t.replaced = s.replaced) (confirmed : t.confirmed = s.confirmed) :
    t.PathOk initial := by
  intro c member
  obtain ⟨synced, v, recent, inside, holds⟩ := ok c (candidates c member)
  constructor
  · intro i same
    rw [(files i (same ▸ candidates c member)).2]
    exact synced i same
  · refine ⟨v, confirmed ▸ recent, replaced ▸ inside, ?_⟩
    rw [version_append (t := t) [] inside (by simp [replaced]), ← holds]
    cases c with
    | none => rfl
    | some i => exact congrArg some (files i (candidates _ member)).1

/-! ## The invariant -/

structure Inv (initial : Option (List UInt8)) (s : Saves) : Prop where
  bounded : s.disk.Bounded
  path : s.PathOk initial
  saves : ∀ save ∈ s.running, s.SaveOk initial save
  apart : (s.running.map AtomicWrite.temp).Nodup
  counters : ∀ save ∈ s.running, save.counter < s.tempCounter save.process

theorem temp_eq {other : AtomicWrite} : save.temp = other.temp ↔
    save.process = other.process ∧ save.counter = other.counter := by
  simp [AtomicWrite.temp]

/-- A save moves on, to another stage or to its end, and leaves the other saves alone. -/
theorem Inv.move (inv : Inv initial s) {i : Nat} (stage : Option SaveStage)
    (current : s.running[i]? = some save)
    (running : t.running = match stage with
      | some stage => s.running.set i { save with stage }
      | none => s.running.eraseIdx i)
    (counters : t.tempCounter = s.tempCounter) (kept : ∀ v, s.Current initial v → t.Current initial v)
    (bounded : t.disk.Bounded) (path : t.PathOk initial)
    (mine : ∀ next, stage = some next → t.SaveOk initial { save with stage := next })
    (others : ∀ other ∈ s.running, other.temp ≠ save.temp → Keeps s t other.temp) :
    Inv initial t := by
  obtain ⟨inside, same⟩ := List.getElem?_eq_some_iff.mp current
  have split : ∃ before after, s.running = before ++ save :: after ∧
      t.running = before ++ (stage.map fun stage => { save with stage }).toList ++ after := by
    refine ⟨s.running.take i, s.running.drop (i + 1), ?_, ?_⟩
    · rw [← same, ← List.drop_eq_getElem_cons inside, List.take_append_drop]
    · cases stage with
      | none => simp [running, List.eraseIdx_eq_take_drop_succ]
      | some stage => simp [running, List.set_eq_take_append_cons_drop, inside]
  obtain ⟨before, after, whole, changed⟩ := split
  have apart := inv.apart
  rw [whole, List.map_append, List.map_cons] at apart
  have different : ∀ other ∈ before ++ after, other ∈ s.running ∧ other.temp ≠ save.temp := by
    intro other member
    have here : other ∈ before ∨ other ∈ after := List.mem_append.mp member
    constructor
    · rw [whole]
      simp only [List.mem_append, List.mem_cons]
      tauto
    · have moved : (save.temp :: (before ++ after).map AtomicWrite.temp).Nodup := by
        rw [List.map_append]
        exact List.perm_middle.nodup_iff.mp apart
      intro equal
      exact (List.nodup_cons.mp moved).1 (equal ▸ List.mem_map_of_mem member)
  have member : ∀ other ∈ t.running, other ∈ before ++ after ∨
      ∃ next, stage = some next ∧ other = { save with stage := next } := by
    intro other member
    rw [changed] at member
    simp only [List.mem_append, Option.mem_toList, Option.map_eq_some_iff] at member ⊢
    rcases member with (first | ⟨next, now, rfl⟩) | last
    · exact .inl (.inl first)
    · exact .inr ⟨next, now, rfl⟩
    · exact .inl (.inr last)
  constructor
  · exact bounded
  · exact path
  · intro other running
    rcases member other running with old | ⟨next, now, rfl⟩
    · obtain ⟨known, apart⟩ := different other old
      exact (inv.saves other known).keeps (others other known apart) kept
    · exact mine next now
  · rw [changed, List.map_append, List.map_append]
    refine apart.sublist ?_
    rw [List.append_assoc]
    refine (List.Sublist.refl _).append ?_
    cases stage with
    | none => exact List.sublist_cons_self _ _
    | some next => exact List.Sublist.refl _
  · intro other running
    rw [counters]
    rcases member other running with old | ⟨next, -, rfl⟩
    · exact inv.counters other (different other old).1
    · exact inv.counters save (List.mem_of_getElem? current)

/-- Only the stage changes. -/
theorem Inv.stay (inv : Inv initial s) {i : Nat} {stage : SaveStage}
    (current : s.running[i]? = some save)
    (mine : s.SaveOk initial { save with stage }) : Inv initial (s.advance i save stage) := by
  refine inv.move (t := s.advance i save stage) (some stage) current rfl rfl
    (fun _ still => still) inv.bounded inv.path ?_ ?_
  · rintro next ⟨⟩
    exact SaveOk.keeps mine ⟨rfl, fun _ _ => ⟨rfl, rfl⟩, fun _ _ _ member => member⟩ (fun _ still => still)
  · exact fun other _ _ => ⟨rfl, fun _ _ => ⟨rfl, rfl⟩, fun _ _ _ member => member⟩

/-! ## The steps of a save -/

section Steps

variable {i length : Nat} {fails : Bool} {other : AtomicWrite}

theorem saveOk_writeNext {offset : Nat} (owns : s.Owns save file)
    (bytes : s.disk.bytes file = save.contents.take offset) :
    s.SaveOk initial { save with stage := save.writeNext file offset } := by
  rw [AtomicWrite.writeNext]
  by_cases through : save.contents.length ≤ offset
  · rw [if_pos through]
    rw [List.take_of_length_le through] at bytes
    exact ⟨⟨owns.named, owns.only⟩, bytes⟩
  · rw [if_neg through]
    exact ⟨⟨owns.named, owns.only⟩, bytes⟩

/-- Another save's file is another file. -/
theorem Owns.apart (owns : s.Owns save file) (different : other.temp ≠ save.temp) :
    some file ∉ s.disk.candidates other.temp :=
  fun member => different (owns.only _ member)

theorem Inv.create (inv : Inv initial s) (current : s.running[i]? = some save)
    (stage : save.stage = .create) : Inv initial (s.perform i save length fails) := by
  unfold perform
  simp only [stage]
  split
  · rename_i file disk made
    have created := Disk.createNew_created made
    have below : ∀ name, some file ∉ s.disk.candidates name := by
      intro name member
      have old := inv.bounded name file member
      rw [created.number] at old
      exact Nat.lt_irrefl _ old
    refine inv.move (some (save.writeNext file 0)) current rfl rfl
      (fun v => Current.same (created.files .path (by simp [AtomicWrite.temp])) ?_ rfl)
      (created.bounded inv.bounded) ?_ ?_ ?_
    · intro j named
      refine created.bytes j ?_
      rintro rfl
      exact below .path (named ▸ Disk.file_mem_candidates)
    · refine inv.path.fewer ?_ ?_ rfl rfl
      · intro c member
        have member : c ∈ disk.candidates .path := member
        rwa [created.others .path (by simp [AtomicWrite.temp])] at member
      · intro j member
        have apart : j ≠ file := fun same => below _ (same ▸ member)
        exact ⟨created.bytes j apart, created.synced j apart⟩
    · rintro next ⟨⟩
      refine saveOk_writeNext ⟨created.named, ?_⟩ created.empty
      intro name member
      by_contra different
      have old : some file ∈ s.disk.candidates name := created.others name different ▸ member
      exact below name old
    · intro other running different
      refine ⟨created.files _ different, ?_, ?_⟩
      · intro j member
        have apart : j ≠ file := fun same => below _ (same ▸ member)
        exact ⟨created.bytes j apart, created.synced j apart⟩
      · intro j name known member
        by_cases mine : name = save.temp
        · subst mine
          rcases created.mine j member with rfl | old
          · exact absurd known (below _)
          · exact old
        · have member : some j ∈ disk.candidates name := member
          rwa [created.others name mine] at member
  · exact inv.stay current trivial

/-- What is written to the file of a save, or synced of it, leaves other files alone. -/
theorem Inv.touch (inv : Inv initial s) (current : s.running[i]? = some save)
    {disk : Disk SaveName} {stage : SaveStage} (owns : s.Owns save file)
    (names : disk.file = s.disk.file) (past : disk.past = s.disk.past)
    (fresh : disk.fresh = s.disk.fresh)
    (files : ∀ j, j ≠ file → disk.bytes j = s.disk.bytes j ∧ disk.synced j = s.disk.synced j)
    (mine : ({ s with disk } : Saves).Owns save file →
      ({ s with disk } : Saves).SaveOk initial { save with stage }) :
    Inv initial ({ s with disk }.advance i save stage) := by
  have candidates : ∀ name, disk.candidates name = s.disk.candidates name := by
    intro name
    rw [Disk.candidates, Disk.candidates, names, past]
  refine inv.move (t := { s with disk }.advance i save stage) (some stage) current rfl rfl
    (fun v => Current.same (congrFun names _) ?_ rfl) ?_ ?_ ?_ ?_
  · intro j named
    refine (files j ?_).1
    rintro rfl
    cases owns.only .path (named ▸ Disk.file_mem_candidates)
  · intro name j member
    have known : some j ∈ disk.candidates name := member
    rw [candidates] at known
    exact fresh ▸ inv.bounded name j known
  · refine inv.path.fewer ?_ ?_ rfl rfl
    · intro c member
      have known : c ∈ disk.candidates .path := member
      rwa [candidates] at known
    · intro j member
      refine files j ?_
      rintro rfl
      cases owns.only _ member
  · rintro next ⟨⟩
    refine SaveOk.keeps (mine ⟨names ▸ owns.named, fun name member => ?_⟩)
      ⟨rfl, fun _ _ => ⟨rfl, rfl⟩, fun _ _ _ member => member⟩ (fun _ still => still)
    have known : some file ∈ disk.candidates name := member
    exact owns.only name (candidates name ▸ known)
  · intro other _ different
    refine ⟨congrFun names _, ?_, ?_⟩
    · intro j member
      refine files j ?_
      rintro rfl
      exact owns.apart different member
    · intro j name _ member
      have known : some j ∈ disk.candidates name := member
      rwa [candidates] at known

theorem Inv.write {offset : Nat} (inv : Inv initial s) (current : s.running[i]? = some save)
    (stage : save.stage = .write file offset) : Inv initial (s.perform i save length fails) := by
  have ok := inv.saves save (List.mem_of_getElem? current)
  simp only [SaveOk, stage] at ok
  obtain ⟨owns, bytes⟩ := ok
  have files (chunk : List UInt8) : ∀ j, j ≠ file →
      (s.disk.append file chunk).bytes j = s.disk.bytes j ∧
        (s.disk.append file chunk).synced j = s.disk.synced j := by
    intro j apart
    simp [Disk.append, apart]
  unfold perform
  simp only [stage]
  split
  · exact inv.touch current owns rfl rfl rfl (files _) fun _ => trivial
  · refine inv.touch current owns rfl rfl rfl (files _) fun still => saveOk_writeNext still ?_
    simp only [Disk.append, Function.update_self, bytes, List.length_take, List.length_drop]
    rw [← List.take_add, List.take_eq_take_iff]
    omega

theorem Inv.sync (inv : Inv initial s) (current : s.running[i]? = some save)
    (stage : save.stage = .sync file) : Inv initial (s.perform i save length fails) := by
  have ok := inv.saves save (List.mem_of_getElem? current)
  simp only [SaveOk, stage] at ok
  obtain ⟨owns, bytes⟩ := ok
  unfold perform
  simp only [stage]
  split
  · exact inv.stay current trivial
  · refine inv.touch current owns rfl rfl rfl ?_ fun still => ⟨file, ?_, bytes, ?_⟩
    · intro j apart
      simp [Disk.sync, apart]
    · exact ⟨still.named, still.only⟩
    · simp [Disk.sync]

theorem Inv.rename (inv : Inv initial s) (current : s.running[i]? = some save)
    (stage : save.stage = .rename) : Inv initial (s.perform i save length fails) := by
  have ok := inv.saves save (List.mem_of_getElem? current)
  simp only [SaveOk, stage] at ok
  obtain ⟨file, owns, bytes, synced⟩ := ok
  unfold perform
  simp only [stage]
  split
  · rename_i disk moved
    obtain ⟨i', renamed⟩ := Disk.rename_renamed (by simp [AtomicWrite.temp]) moved
    obtain rfl : file = i' := Option.some.inj (owns.named.symm.trans renamed.before)
    obtain ⟨-, v, recent, inside, -⟩ := inv.path _ Disk.file_mem_candidates
    have named : disk.file .path = some file := (List.cons.inj renamed.named).1
    have newest : (some file).map disk.bytes = ({ s with
        disk, replaced := s.replaced ++ [save.contents] } : Saves).version initial
          (s.replaced.length + 1) := by
      simp [version, renamed.bytes, bytes]
    refine inv.move (some (.syncDirectory (s.replaced.length + 1))) current rfl rfl ?_
      (renamed.bounded inv.bounded) ?_ ?_ ?_
    · rintro w ⟨u, newer, older, -⟩
      refine ⟨s.replaced.length + 1, by omega, by simp [advance], ?_⟩
      exact (congrArg (Option.map disk.bytes) named).trans newest
    · intro c member
      have member : c ∈ disk.candidates .path := member
      rw [renamed.named] at member
      rcases List.mem_cons.mp member with rfl | old
      · constructor
        · rintro j ⟨⟩
          exact renamed.synced ▸ synced
        · exact ⟨s.replaced.length + 1, Nat.le_succ_of_le (Nat.le_trans recent inside),
            by simp [advance], newest⟩
      · obtain ⟨whole, u, newer, older, holds⟩ := inv.path c old
        refine ⟨fun j same => ?_, u, newer, ?_, ?_⟩
        · exact renamed.synced ▸ whole j same
        · simp only [advance, List.length_append]
          omega
        · rw [version_append (s := s) [save.contents] older rfl, ← holds]
          exact congrArg (c.map ·) renamed.bytes
    · rintro next ⟨⟩
      refine ⟨s.replaced.length + 1, Nat.le_refl _, by simp [advance], ?_⟩
      exact (congrArg (Option.map disk.bytes) named).trans newest
    · intro other _ different
      refine ⟨renamed.files _ different (by simp [AtomicWrite.temp]), ?_, ?_⟩
      · intro j _
        exact ⟨congrFun renamed.bytes j, congrFun renamed.synced j⟩
      · intro j name known member
        by_cases path : name = .path
        · subst path
          have member : some j ∈ disk.candidates .path := member
          rw [renamed.named] at member
          rcases List.mem_cons.mp member with same | old
          · obtain rfl := Option.some.inj same
            exact absurd known (owns.apart different)
          · exact old
        · exact renamed.mine name j path member
  · exact inv.stay current trivial

theorem Inv.syncDirectory {version : Nat} (inv : Inv initial s)
    (current : s.running[i]? = some save) (stage : save.stage = .syncDirectory version) :
    Inv initial (s.perform i save length fails) := by
  have ok := inv.saves save (List.mem_of_getElem? current)
  simp only [SaveOk, stage] at ok
  unfold perform
  simp only [stage]
  split
  · exact inv.stay current trivial
  · refine inv.move none current rfl rfl
      (fun v => Current.same rfl (fun _ _ => rfl) rfl) ?_ ?_ ?_ ?_
    · intro name j member
      have known : some j ∈ [s.disk.file name] := member
      exact inv.bounded name j (List.mem_singleton.mp known ▸ Disk.file_mem_candidates)
    · intro c member
      have here : c ∈ [s.disk.file .path] := member
      obtain rfl := List.mem_singleton.mp here
      obtain ⟨whole, u, recent, inside, holds⟩ := inv.path _ Disk.file_mem_candidates
      obtain ⟨u', newer, inside', holds'⟩ := ok
      refine ⟨whole, max u u', ?_, Nat.max_le.mpr ⟨inside, inside'⟩, ?_⟩
      · exact Nat.max_le.mpr ⟨Nat.le_trans recent (Nat.le_max_left _ _),
          Nat.le_trans newer (Nat.le_max_right _ _)⟩
      · rcases Nat.le_total u u' with le | le
        · rw [Nat.max_eq_right le]
          exact holds'
        · rw [Nat.max_eq_left le]
          exact holds
    · intro next none
      cases none
    · intro other _ different
      refine ⟨rfl, fun _ _ => ⟨rfl, rfl⟩, ?_⟩
      intro j name _ member
      have known : some j ∈ [s.disk.file name] := member
      exact List.mem_singleton.mp known ▸ Disk.file_mem_candidates

theorem Inv.cleanUp (inv : Inv initial s) (current : s.running[i]? = some save)
    (stage : save.stage = .cleanUp) : Inv initial (s.perform i save length fails) := by
  unfold perform
  simp only [stage]
  split
  · refine inv.move none current rfl rfl (fun _ still => still) inv.bounded inv.path ?_
      fun other _ _ => ⟨rfl, fun _ _ => ⟨rfl, rfl⟩, fun _ _ _ member => member⟩
    intro next none
    cases none
  · have path : (s.disk.remove save.temp).candidates .path = s.disk.candidates .path :=
      Disk.remove_candidates_of_ne (by simp [AtomicWrite.temp])
    refine inv.move none current rfl rfl
      (fun v => Current.same (Disk.remove_file_of_ne (by simp [AtomicWrite.temp])) ?_ rfl) ?_ ?_ ?_ ?_
    · intro j _
      exact congrFun Disk.remove_bytes j
    · intro name j member
      have below := inv.bounded name j (Disk.mem_candidates_remove member)
      rwa [← Disk.remove_fresh] at below
    · refine inv.path.fewer ?_ ?_ rfl rfl
      · intro c member
        exact path ▸ member
      · intro j _
        exact ⟨congrFun Disk.remove_bytes j, congrFun Disk.remove_synced j⟩
    · intro next none
      cases none
    · intro other _ different
      refine ⟨Disk.remove_file_of_ne different, ?_, ?_⟩
      · intro j _
        exact ⟨congrFun Disk.remove_bytes j, congrFun Disk.remove_synced j⟩
      · intro j name _ member
        exact Disk.mem_candidates_remove member

end Steps

/-! ## Whole runs -/

theorem Inv.perform (inv : Inv initial s) {i : Nat} (current : s.running[i]? = some save)
    (length : Nat) (fails : Bool) : Inv initial (s.perform i save length fails) := by
  cases stage : save.stage with
  | create => exact inv.create current stage
  | write file offset => exact inv.write current stage
  | sync file => exact inv.sync current stage
  | rename => exact inv.rename current stage
  | syncDirectory version => exact inv.syncDirectory current stage
  | cleanUp => exact inv.cleanUp current stage

theorem Inv.begin (inv : Inv initial s) {process : Nat} {contents : List UInt8}
    (begun : s.exec (.begin process contents) = some t) : Inv initial t := by
  obtain rfl := Option.some.inj begun
  have counted : ∀ other ∈ s.running, other.counter <
      Function.update s.tempCounter process (s.tempCounter process + 1) other.process := by
    intro other member
    have below := inv.counters other member
    by_cases same : other.process = process
    · rw [same] at below ⊢
      rw [Function.update_self]
      omega
    · rwa [Function.update_of_ne same]
  constructor
  · exact inv.bounded
  · exact inv.path
  · intro other member
    rcases List.mem_append.mp member with old | new
    · exact (inv.saves other old).keeps ⟨rfl, fun _ _ => ⟨rfl, rfl⟩, fun _ _ _ member => member⟩
        fun _ still => still
    · obtain rfl := List.mem_singleton.mp new
      trivial
  · rw [List.map_append, List.nodup_append]
    refine ⟨inv.apart, List.nodup_singleton _, ?_⟩
    intro name known new fresh same
    obtain ⟨other, member, rfl⟩ := List.mem_map.mp known
    obtain rfl := List.mem_singleton.mp fresh
    obtain ⟨here, equal⟩ := temp_eq.mp same
    have below := inv.counters other member
    rw [here, equal] at below
    exact Nat.lt_irrefl _ below
  · intro other member
    rcases List.mem_append.mp member with old | new
    · exact counted other old
    · obtain rfl := List.mem_singleton.mp new
      simp

theorem Inv.exit (inv : Inv initial s) {process : Nat}
    (exited : s.exec (.exit process) = some t) : Inv initial t := by
  obtain rfl := Option.some.inj exited
  constructor
  · exact inv.bounded
  · exact inv.path
  · intro other member
    exact (inv.saves other (List.mem_of_mem_filter member)).keeps
      ⟨rfl, fun _ _ => ⟨rfl, rfl⟩, fun _ _ _ member => member⟩ fun _ still => still
  · exact inv.apart.sublist (List.filter_sublist.map _)
  · intro other member
    have apart : other.process ≠ process := by simpa using List.of_mem_filter member
    exact Nat.lt_of_lt_of_eq (inv.counters other (List.mem_of_mem_filter member))
      (Function.update_of_ne apart 0 s.tempCounter).symm

theorem Inv.losePower (inv : Inv initial s) {pick : SaveName → Nat} {left : Nat → List UInt8}
    (lost : s.exec (.losePower pick left) = some t) : Inv initial t := by
  obtain rfl := Option.some.inj lost
  constructor
  · intro name i member
    exact inv.bounded name i (Disk.candidates_losePower member)
  · intro c member
    obtain ⟨whole, v, recent, inside, holds⟩ := inv.path c (Disk.candidates_losePower member)
    refine ⟨fun _ _ => rfl, v, recent, inside, ?_⟩
    rw [version_append (s := s) [] inside (by simp), ← holds]
    cases c with
    | none => rfl
    | some i => simp [Disk.losePower, whole i rfl]
  · intro other none
    cases none
  · exact List.nodup_nil
  · intro other none
    cases none

theorem Inv.exec (inv : Inv initial s) {action : SaveAction} (step : s.exec action = some t) :
    Inv initial t := by
  cases action with
  | begin process contents => exact inv.begin step
  | step i length fails =>
    obtain ⟨save, current, rfl⟩ := Option.map_eq_some_iff.mp step
    exact inv.perform current length fails
  | exit process => exact inv.exit step
  | losePower pick left => exact inv.losePower step

theorem Initial.inv (start : s.Initial initial) : Inv initial s := by
  constructor
  · exact start.bounded
  · intro c member
    have here : c = s.disk.file .path := by
      rw [Disk.candidates, start.settled] at member
      exact List.mem_singleton.mp member
    exact ⟨fun i _ => start.synced i, 0, Nat.le_of_eq start.confirmed, Nat.zero_le _, here ▸ start.content⟩
  all_goals simp [start.running]

/-- Two saves of a file, the second of which has replaced the file when the power goes. -/
def interrupted : List SaveAction :=
  [.begin 7 [1, 2], .begin 7 [3], .step 0 9 false, .step 0 9 false, .step 0 9 false,
    .step 0 9 false, .step 0 9 false, .step 0 9 false, .step 0 9 false, .step 0 9 false,
    .step 0 9 false, .losePower (fun _ => 1) fun _ => []]

end Saves

end EdgeKvm.Storage
