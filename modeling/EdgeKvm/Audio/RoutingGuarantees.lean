import EdgeKvm.Audio.RoutingTurns
import Mathlib.Data.List.Perm.Basic

/-!
# What redirecting guarantees

However orderly calls are cut short, `recover_portable_routing` undoes what they have left behind;
where none is cut short, nothing is left behind. A phone's sound never goes back to the phone.
-/

namespace EdgeKvm.Audio

open EdgeKvm.Lib Machine

namespace Routing

variable {home : String} {r r' : Routing} {t : RoutingTask} {v : VirtualSink}

/-- Before the first redirect. -/
structure Fresh (home : String) (r : Routing) : Prop where
  device : home ∈ r.server.devices
  defaultSink : r.server.defaultSink = .device home
  modules : r.server.modules = []
  journals : ∀ v, r.journals v = .missing
  guards : r.guards = []
  tasks : r.tasks = []
  returned : r.returned = none

/-- Nothing is redirected, and no journal says otherwise. -/
def Undone (home : String) (r : Routing) : Prop :=
  r.server.defaultSink = .device home ∧ r.server.modules = [] ∧ ∀ v, r.journals v = .missing

theorem record_of_missing (idle : r.tasks = []) (missing : r.journals v = .missing) :
    r.record v = none := by
  rw [record_of_idle idle, missing]
  rfl

theorem Fresh.nested (fresh : r.Fresh home) : r.Nested home := by
  obtain ⟨device, defaultSink, modules, journals, guards, tasks, returned⟩ := fresh
  have absent : ∀ v, r.redirects.record v = none := fun v => record_of_missing tasks (journals v)
  refine ⟨⟨?_, ?_, ?_, .inl defaultSink, ?_, ?_, ?_⟩, device, ?_, ?_, ?_, ?_, ?_, ?_, ?_⟩
  · intro id v member
    have none' : (id, v) ∈ r.server.modules := member
    rw [modules] at none'
    cases none'
  · intro v w journal known
    cases (absent v).symm.trans known
  · intro v journal known
    cases (absent v).symm.trans known
  · intro v journal known
    cases (absent v).symm.trans known
  · intro v journal back known
    cases (absent v).symm.trans known
  · intro v journal default known
    cases (absent v).symm.trans known
  all_goals simp [tasks, guards, returned]

/-! ## Calls begin and are cut short -/

theorem redirects_begin (idle : r.tasks = []) (written : t.stage.unwritten = none) :
    (r.begin t).redirects = r.redirects := by
  have tasks : (r.begin t).tasks = [t] := by simp [begin, idle]
  unfold redirects
  congr 1
  funext v
  rw [record_of_alone tasks, record_of_idle idle, written, ite_self]
  rfl

theorem Nested.begin (nested : r.Nested home) (idle : r.tasks = [])
    (written : t.stage.unwritten = none) (fits : t.Fits r)
    (free : ∀ g ∈ r.guards, g.sink ≠ t.sink)
    (recovering : ∀ rest, t.call = .recover rest →
      r.guards = [] ∧ ∀ v, v ≠ t.sink → v ∉ rest → r.journals v = .missing) :
    (r.begin t).Nested home := by
  have tasks : (r.begin t).tasks = [t] := by simp [Routing.begin, idle]
  have redirects := redirects_begin idle written
  have only {task : RoutingTask} (running : task ∈ (r.begin t).tasks) : task = t := by
    rw [tasks] at running
    exact List.mem_singleton.mp running
  refine ⟨redirects ▸ nested.sound, nested.device, by simp [tasks], ?_, ?_, nested.single, ?_, ?_,
    ?_⟩
  · intro task running
    cases only running
    exact fits_of_same fits rfl redirects rfl
  · exact fun g held => guard_fits (nested.guards g held) rfl (redirects ▸ id)
  · intro task running
    cases only running
    exact free
  · intro task running
    cases only running
    exact recovering
  · rintro rest ⟨⟩

/-- A guard is gone. -/
theorem Nested.release {guards : List AudioRoutingGuard} (nested : r.Nested home)
    (fewer : guards.Sublist r.guards) : { r with guards }.Nested home := by
  have none' (empty : r.guards = []) : guards = [] := List.sublist_nil.mp (empty ▸ fewer)
  refine ⟨nested.sound, nested.device, nested.alone, ?_, ?_, ?_, ?_, ?_, ?_⟩
  · exact fun task running => fits_of_same (nested.fits task running) rfl rfl rfl
  · exact fun g held => guard_fits (nested.guards g (fewer.subset held)) rfl id
  · exact nested.single.sublist (fewer.map _)
  · exact fun task running g held => nested.free task running g (fewer.subset held)
  · intro task running rest recovers
    obtain ⟨empty, missing⟩ := nested.recovering task running rest recovers
    exact ⟨none' empty, missing⟩
  · intro rest returned
    obtain ⟨idle, empty, missing⟩ := nested.returned rest returned
    exact ⟨idle, none' empty, missing⟩

/-- The running call is cut short. -/
theorem Nested.cut (nested : r.Nested home)
    (written : r.tasks.all (·.stage.unwritten.isNone) = true) :
    { r with tasks := [], returned := none }.Nested home := by
  have records : ∀ v,
      ({ r with tasks := [], returned := none } : Routing).record v = r.record v := by
    intro v
    rw [record_of_idle rfl]
    rcases tasks : r.tasks with _ | ⟨t, rest⟩
    · rw [record_of_idle tasks]
    · cases rest with
      | nil =>
        rw [record_of_alone tasks]
        rw [tasks] at written
        have none' : t.stage.unwritten = none := by simpa using written
        rw [none', ite_self]
      | cons u rest =>
        have alone := nested.alone
        rw [tasks] at alone
        simp at alone
  have redirects :
      ({ r with tasks := [], returned := none } : Routing).redirects = r.redirects := by
    unfold Routing.redirects
    congr 1
    exact funext records
  refine ⟨redirects ▸ nested.sound, nested.device, Nat.zero_le 1, ?_, ?_, nested.single, ?_, ?_, ?_⟩
  · exact List.forall_mem_nil _
  · exact fun g held => guard_fits (nested.guards g held) rfl (redirects ▸ id)
  · exact List.forall_mem_nil _
  · exact List.forall_mem_nil _
  · rintro rest ⟨⟩

theorem Nested.streams {inputs : List (Nat × Sink)} (nested : r.Nested home) :
    { r with server := { r.server with inputs } }.Nested home :=
  ⟨nested.sound, nested.device, nested.alone,
    fun task running => fits_of_same (nested.fits task running) rfl rfl rfl,
    fun g held => guard_fits (nested.guards g held) rfl id, nested.single, nested.free,
    nested.recovering, nested.returned⟩

/-- The only call. -/
theorem Nested.alone_of_getElem? {index : Nat} (nested : r.Nested home)
    (running : r.tasks[index]? = some t) : index = 0 ∧ r.tasks = [t] := by
  have alone := nested.alone
  rcases tasks : r.tasks with _ | ⟨first, rest⟩
  · rw [tasks] at running
    cases running
  · rw [tasks, List.length_cons] at alone
    obtain rfl : rest = [] := List.length_eq_zero_iff.mp (by omega)
    rw [tasks] at running
    cases index with
    | zero =>
      cases running
      exact ⟨rfl, rfl⟩
    | succ index => cases running

/-- A guard that is given up, and the others. -/
theorem Nested.apart {index : Nat} {guard : AudioRoutingGuard} (nested : r.Nested home)
    (held : r.guards[index]? = some guard) :
    guard ∈ r.guards ∧ (∀ g ∈ r.guards, g = guard ∨ g ∈ r.guards.eraseIdx index) ∧
      ∀ g ∈ r.guards.eraseIdx index, g.sink ≠ guard.sink := by
  obtain ⟨inside, rfl⟩ := List.getElem?_eq_some_iff.mp held
  have moved := List.getElem_cons_eraseIdx_perm inside
  refine ⟨List.getElem_mem inside, fun g member => ?_, fun g member same => ?_⟩
  · exact List.mem_cons.mp (moved.mem_iff.mpr member)
  · have single := (moved.map AudioRoutingGuard.sink).nodup_iff.mpr nested.single
    exact (List.nodup_cons.mp single).1 (List.mem_map.mpr ⟨g, member, same⟩)

theorem Nested.restoreNow {index : Nat} {guard : AudioRoutingGuard} (nested : r.Nested home)
    (idle : r.tasks = []) (held : r.guards[index]? = some guard) :
    (r.restoreNow index guard).Nested home := by
  obtain ⟨member, -, free⟩ := nested.apart held
  have fits := nested.guards guard member
  unfold AudioRoutingGuard.Fits at fits
  have released := nested.release (List.eraseIdx_sublist r.guards index)
  obtain ⟨sink, journal⟩ := guard
  cases journal with
  | none =>
    refine released.begin idle rfl ?_ free (fun rest other => by cases other)
    exact nested.sound.not_loaded (record_of_missing idle fits)
  | some journal =>
    exact released.begin idle rfl fits.1 free (fun rest other => by cases other)

theorem Nested.drop {index : Nat} {guard : AudioRoutingGuard} (nested : r.Nested home)
    (idle : r.tasks = []) (held : r.guards[index]? = some guard) :
    (r.drop index guard).Nested home := by
  obtain ⟨member, -, free⟩ := nested.apart held
  have fits := nested.guards guard member
  unfold AudioRoutingGuard.Fits at fits
  have released := nested.release (List.eraseIdx_sublist r.guards index)
  obtain ⟨sink, journal⟩ := guard
  cases journal with
  | none => exact released
  | some journal =>
    exact released.begin idle rfl fits.1 free (fun rest other => by cases other)

/-- Every orderly action. -/
theorem Nested.exec {action : RoutingAction} (nested : r.Nested home)
    (allowed : r.orderly action = true) (executed : machine.exec r action = some r') :
    r'.Nested home := by
  cases action with
  | activate sink redirect =>
    cases executed
    simp only [orderly, Bool.and_eq_true, List.isEmpty_iff, List.all_eq_true,
      decide_eq_true_eq] at allowed
    exact nested.begin allowed.1 rfl trivial allowed.2 (fun rest other => by cases other)
  | restoreNow index =>
    obtain ⟨guard, held, rfl⟩ := Option.map_eq_some_iff.mp executed
    exact nested.restoreNow (List.isEmpty_iff.mp allowed) held
  | drop index =>
    obtain ⟨guard, held, rfl⟩ := Option.map_eq_some_iff.mp executed
    exact nested.drop (List.isEmpty_iff.mp allowed) held
  | recover =>
    cases executed
    simp only [orderly, Bool.and_eq_true, List.isEmpty_iff] at allowed
    obtain ⟨idle, unheld⟩ := allowed
    refine nested.begin idle rfl trivial ?_ ?_
    · rw [unheld]
      exact List.forall_mem_nil _
    · rintro rest ⟨⟩
      refine ⟨unheld, fun v other absent => ?_⟩
      cases v <;> simp at other absent
  | step index fails =>
    obtain ⟨t, running, rfl⟩ := Option.map_eq_some_iff.mp executed
    obtain ⟨rfl, alone⟩ := nested.alone_of_getElem? running
    refine nested.step alone fun failing => ?_
    subst failing
    simpa [orderly, alone] using allowed
  | abort index =>
    obtain ⟨t, running, rfl⟩ := Option.map_eq_some_iff.mp executed
    obtain ⟨rfl, alone⟩ := nested.alone_of_getElem? running
    have cut := nested.cut allowed
    rw [show r.tasks.eraseIdx 0 = [] by rw [alone]; rfl]
    exact cut
  | crash =>
    cases executed
    exact (nested.cut allowed).release (List.nil_sublist _)
  | streams inputs =>
    cases executed
    exact nested.streams

theorem Fresh.run_nested {start : Routing} (fresh : start.Fresh home)
    (run : machine.Run (fun r action => r.orderly action = true) start r) : r.Nested home :=
  run.invariant (fun _ _ _ allowed executed nested => nested.exec allowed executed) fresh.nested

/-! ## Recovery -/

/-- Without journals nothing is redirected. -/
theorem Nested.undone (nested : r.Nested home) (idle : r.tasks = [])
    (missing : ∀ v, r.journals v = .missing) : r.Undone home := by
  obtain ⟨defaultSink, modules⟩ := nested.sound.undone fun v => record_of_missing idle (missing v)
  exact ⟨defaultSink, modules, missing⟩

/-- A journal is torn only while it is written. -/
def Written (r : Routing) : Prop :=
  ∀ v, r.journals v = .torn →
    ∃ t ∈ r.tasks, t.sink = v ∧ ∃ journal, t.stage = .writeJournal journal

theorem Written.of_tasks (written : r.Written) (journals : r'.journals = r.journals)
    (fewer : ∀ t ∈ r.tasks, t.stage.unwritten ≠ none → t ∈ r'.tasks) : r'.Written := by
  intro v torn
  rw [journals] at torn
  obtain ⟨t, running, same, journal, stage⟩ := written v torn
  exact ⟨t, fewer t running (by simp [stage, RoutingStage.unwritten]), same, journal, stage⟩

/-- The other steps leave the file alone or remove it. -/
theorem step_file (server : SoundServer) (file : JournalFile) (fails : Bool)
    (written : t.stage.unwritten = none) :
    (t.step server file fails).2.1 = file ∨ (t.step server file fails).2.1 = .missing := by
  obtain ⟨sink, call, stage⟩ := t
  cases stage with
  | readJournal => cases fails <;> cases file <;> exact .inl rfl
  | restoreDefault journal | unload journal => exact .inl rfl
  | restoreList journal | load previousSink | list journal => cases fails <;> exact .inl rfl
  | restoreMove journal inputs => cases inputs <;> exact .inl rfl
  | removeJournal => cases fails with
    | true => exact .inl rfl
    | false => exact .inr rfl
  | getDefault =>
    unfold RoutingTask.step
    dsimp only
    left
    split
    · rfl
    · split <;> rfl
  | createJournal journal | writeJournal journal => cases written
  | setDefault journal =>
    unfold RoutingTask.step
    dsimp only
    split <;> exact .inl rfl
  | move journal inputs =>
    cases inputs with
    | nil => exact .inl rfl
    | cons input inputs =>
      unfold RoutingTask.step
      dsimp only
      split <;> exact .inl rfl

/-- Only the step before the writing leaves a torn journal. -/
theorem step_torn (server : SoundServer) {file : JournalFile} {fails : Bool}
    (writes : file = .torn → ∃ journal, t.stage = .writeJournal journal)
    (allowed : fails = true → t.stage.mayFail = true)
    (torn : (t.step server file fails).2.1 = .torn) :
    ∃ journal, (t.step server file fails).2.2 = t.goTo (.writeJournal journal) := by
  cases written : t.stage.unwritten with
  | none =>
    rcases step_file server file fails written with same | gone
    · obtain ⟨journal, stage⟩ := writes (same.symm.trans torn)
      rw [stage] at written
      cases written
    · cases gone.symm.trans torn
  | some journal =>
    obtain ⟨sink, call, stage⟩ := t
    cases stage with
    | createJournal journal =>
      cases fails with
      | true => cases allowed rfl
      | false => exact ⟨journal, rfl⟩
    | writeJournal journal =>
      cases fails with
      | true => cases allowed rfl
      | false => cases torn
    | _ => cases written

theorem Written.step (written : r.Written) (alone : r.tasks = [t]) {fails : Bool}
    (allowed : fails = true → t.stage.mayFail = true) : (r.stepTask 0 t fails).Written := by
  have writes : r.journals t.sink = .torn → ∃ journal, t.stage = .writeJournal journal := by
    intro torn
    obtain ⟨task, running, -, stage⟩ := written t.sink torn
    rw [alone] at running
    cases List.mem_singleton.mp running
    exact stage
  have torn := step_torn r.server writes allowed
  rw [stepTask_eq alone]
  generalize t.step r.server (r.journals t.sink) fails = out at torn ⊢
  obtain ⟨server, file, next⟩ := out
  dsimp only at torn ⊢
  intro v broken
  have journals :
      (r.proceed t server file next).journals = Function.update r.journals t.sink file := by
    cases next <;> rfl
  rw [journals] at broken
  by_cases here : v = t.sink
  · subst here
    obtain ⟨journal, rfl⟩ := torn ((Function.update_self _ _ _).symm.trans broken)
    exact ⟨_, List.mem_singleton_self _, rfl, journal, rfl⟩
  · rw [Function.update_of_ne here] at broken
    obtain ⟨task, running, same, -⟩ := written v broken
    rw [alone] at running
    cases List.mem_singleton.mp running
    exact absurd same.symm here

/-- No orderly action leaves a torn journal behind. -/
theorem Written.exec {action : RoutingAction} (written : r.Written) (nested : r.Nested home)
    (allowed : r.orderly action = true) (executed : machine.exec r action = some r') :
    r'.Written := by
  have more (task : RoutingTask) :
      ∀ t ∈ r.tasks, t.stage.unwritten ≠ none → t ∈ r.tasks ++ [task] :=
    fun t running _ => List.mem_append_left _ running
  have cut (clean : r.tasks.all (·.stage.unwritten.isNone) = true) :
      ∀ t ∈ r.tasks, t.stage.unwritten ≠ none → t ∈ ([] : List RoutingTask) := by
    intro t running unwritten
    have none' := List.all_eq_true.mp clean t running
    exact absurd (Option.isNone_iff_eq_none.mp none') unwritten
  cases action with
  | activate sink redirect =>
    cases executed
    exact written.of_tasks rfl (more _)
  | restoreNow index =>
    obtain ⟨guard, held, rfl⟩ := Option.map_eq_some_iff.mp executed
    exact written.of_tasks rfl (more _)
  | drop index =>
    obtain ⟨guard, held, rfl⟩ := Option.map_eq_some_iff.mp executed
    unfold Routing.drop
    cases guard.journal with
    | none => exact written
    | some journal => exact written.of_tasks rfl (more _)
  | recover =>
    cases executed
    exact written.of_tasks rfl (more _)
  | step index fails =>
    obtain ⟨t, running, rfl⟩ := Option.map_eq_some_iff.mp executed
    obtain ⟨rfl, alone⟩ := nested.alone_of_getElem? running
    refine written.step alone fun failing => ?_
    subst failing
    simpa [orderly, alone] using allowed
  | abort index =>
    obtain ⟨t, running, rfl⟩ := Option.map_eq_some_iff.mp executed
    refine written.of_tasks rfl fun t running unwritten => ?_
    cases cut allowed t running unwritten
  | crash =>
    cases executed
    exact written.of_tasks rfl (cut allowed)
  | streams inputs =>
    cases executed
    exact written

/-- A call that is let go on, and whose steps succeed. -/
def goingOn (_ : Routing) : RoutingAction → Bool
  | .step 0 fails => !fails
  | _ => false

theorem goingOn_orderly {action : RoutingAction} (goes : r.goingOn action = true) :
    r.orderly action = true := by
  unfold goingOn at goes
  split at goes
  · rename_i fails
    simp only [orderly, goes, Bool.true_or]
  · cases goes

/-- The runs of a call that is let go on. -/
abbrev Leads (r r' : Routing) : Prop := machine.Run (fun r action => r.goingOn action = true) r r'

section Leads

variable {server : SoundServer} {file : JournalFile} {t' : RoutingTask}

theorem leads_step (alone : r.tasks = [t]) : r.Leads (r.stepTask 0 t false) := by
  have executed : machine.exec r (.step 0 false) = some (r.stepTask 0 t false) := by
    simp [machine, alone]
  exact .head rfl executed .refl

/-- One more step of the call. -/
theorem Leads.more (first : r.Leads (r.proceed t server file (.goesOn t')))
    (sink : t'.sink = t.sink) (call : t'.call = t.call) :
    r.Leads (r.proceed t (t'.step server file false).1 (t'.step server file false).2.1
      (t'.step server file false).2.2) := by
  have own : (r.proceed t server file (.goesOn t')).journals t'.sink = file := by
    rw [sink]
    exact Function.update_self _ _ _
  have twice (next : SoundServer × JournalFile × RoutingNext) :
      (r.proceed t server file (.goesOn t')).proceed t' next.1 next.2.1 next.2.2 =
        r.proceed t next.1 next.2.1 next.2.2 := by
    obtain ⟨server', file', later | ⟨ok, made⟩⟩ := next <;> simp [proceed, sink, call]
  have step : (r.proceed t server file (.goesOn t')).Leads _ := leads_step rfl
  rw [stepTask_eq rfl, own, twice] at step
  exact first.trans step

/-- The moves of the streams. -/
theorem Leads.moves {journal : RoutingJournal} {inputs : List Nat}
    (first : r.Leads (r.proceed t server file (t.goTo (.restoreMove journal inputs)))) :
    ∃ server', r.Leads (r.proceed t server' file (t.goTo (.unload journal))) := by
  induction inputs generalizing server with
  | nil => exact ⟨server, first.more rfl rfl⟩
  | cons input inputs ih => exact ih (first.more rfl rfl)

/-- A sink is recovered. -/
theorem recovers_sink {rest : List VirtualSink} (alone : r.tasks = [t])
    (recovers : t.call = .recover rest) (stage : t.stage = .readJournal)
    (whole : r.journals t.sink ≠ .torn) :
    ∃ server, r.Leads (r.proceed t server .missing t.afterRemoval) := by
  have first := leads_step alone
  rw [stepTask_eq alone] at first
  have same {stage : RoutingStage} :
      ({ t with stage } : RoutingTask).afterRemoval = t.afterRemoval := by
    unfold RoutingTask.afterRemoval
    rw [recovers]
    cases rest <;> rfl
  cases file : r.journals t.sink with
  | missing =>
    have read : t.step r.server .missing false = (r.server, .missing, t.afterRemoval) := by
      unfold RoutingTask.step
      rw [stage]
      rfl
    rw [file, read] at first
    exact ⟨_, first⟩
  | torn => exact absurd file whole
  | whole journal =>
    have read : t.step r.server (.whole journal) false =
        (r.server, .whole journal, t.goTo (.restoreDefault journal)) := by
      unfold RoutingTask.step
      rw [stage]
      rfl
    rw [file, read] at first
    have listed := (Leads.more first rfl rfl).more rfl rfl
    obtain ⟨server, moved⟩ := listed.moves
    have removed : r.Leads (r.proceed t _ .missing
        ({ t with stage := .removeJournal } : RoutingTask).afterRemoval) :=
      (moved.more rfl rfl).more rfl rfl
    rw [same] at removed
    exact ⟨_, removed⟩

end Leads

/-- A computer whose sound nothing redirects yet. -/
def sampleRouting : Routing :=
  { server :=
      { devices := ["speakers"], defaultSink := .device "speakers"
        inputs := [(1, .device "speakers")] } }

theorem sampleRouting_fresh : sampleRouting.Fresh "speakers" := by
  refine ⟨?_, rfl, rfl, fun _ => rfl, rfl, rfl, rfl⟩
  decide

/-- Steps of the running call that all succeed. -/
def sampleSteps (count : Nat) : List RoutingAction := List.replicate count (.step 0 false)

/-- The sound goes to a peer, and is about to go to a phone when the process ends. -/
def sampleCrashed : List RoutingAction :=
  .activate .remote true :: sampleSteps 9 ++ .activate .phone true :: sampleSteps 6 ++ [.crash]

/-- No call is cut short, and the journals can be removed. -/
def uncut (r : Routing) (action : RoutingAction) : Bool :=
  r.orderly action &&
    match action with
    | .abort _ | .crash => false
    | .step _ fails => !fails || r.tasks.all (·.stage ≠ .removeJournal)
    | _ => true

end Routing

/-- The stages behind the recovery an activation begins with, up to the new module. -/
def RoutingStage.clears : RoutingStage → Bool
  | .readJournal | .getDefault | .load _ => true
  | _ => false

/-- A step leaves no journal without a call or a guard behind it. -/
theorem RoutingTask.step_leaves {t : RoutingTask} (server : SoundServer) {file : JournalFile}
    {fails : Bool} (clears : t.stage.clears = true → file = .missing)
    (succeeds : fails = true → t.stage.mayFail = true ∧ t.stage ≠ .removeJournal) :
    (t.step server file fails).2.1 = .missing ∨
      (∃ t', (t.step server file fails).2.2 = .goesOn t' ∧ t'.sink = t.sink ∧
        t'.stage.clears = false) ∨
      ∃ ok g, (t.step server file fails).2.2 = .returns ok (some g) ∧ g.sink = t.sink := by
  obtain ⟨sink, call, stage⟩ := t
  cases stage with
  | readJournal =>
    obtain rfl := clears rfl
    cases fails <;> exact .inl rfl
  | getDefault =>
    obtain rfl := clears rfl
    unfold RoutingTask.step
    dsimp only
    left
    split
    · rfl
    · split <;> rfl
  | load previousSink =>
    obtain rfl := clears rfl
    cases fails <;> exact .inl rfl
  | restoreDefault journal | unload journal => exact .inr (.inl ⟨_, rfl, rfl, rfl⟩)
  | restoreList journal | list journal =>
    cases fails <;> exact .inr (.inl ⟨_, rfl, rfl, rfl⟩)
  | restoreMove journal inputs => cases inputs <;> exact .inr (.inl ⟨_, rfl, rfl, rfl⟩)
  | removeJournal =>
    cases fails with
    | true => exact absurd rfl (succeeds rfl).2
    | false => exact .inl rfl
  | createJournal journal | writeJournal journal =>
    cases fails with
    | true => cases (succeeds rfl).1
    | false => exact .inr (.inl ⟨_, rfl, rfl, rfl⟩)
  | setDefault journal =>
    unfold RoutingTask.step
    dsimp only
    split <;> exact .inr (.inl ⟨_, rfl, rfl, rfl⟩)
  | move journal inputs =>
    cases inputs with
    | nil => exact .inr (.inr ⟨_, _, rfl, rfl⟩)
    | cons input inputs =>
      unfold RoutingTask.step
      dsimp only
      split <;> exact .inr (.inl ⟨_, rfl, rfl, rfl⟩)

namespace Routing

variable {home : String} {r r' : Routing} {t : RoutingTask} {v : VirtualSink}

/-- Every journal belongs to a guard or to the running call. -/
def Held (r : Routing) : Prop :=
  ∀ v, r.journals v = .missing ∨ (∃ g ∈ r.guards, g.sink = v) ∨
    ∃ t ∈ r.tasks, t.sink = v ∧ t.stage.clears = false

theorem Held.step (held : r.Held) (nested : r.Nested home) (alone : r.tasks = [t])
    {fails : Bool} (succeeds : fails = true → t.stage.mayFail = true ∧ t.stage ≠ .removeJournal) :
    (r.stepTask 0 t fails).Held := by
  have free := nested.free t (alone ▸ List.mem_singleton_self t)
  have clears : t.stage.clears = true → r.journals t.sink = .missing := by
    intro clears
    rcases held t.sink with missing | ⟨g, member, same⟩ | ⟨task, running, -, past⟩
    · exact missing
    · exact absurd same (free g member)
    · rw [alone] at running
      cases List.mem_singleton.mp running
      cases clears.symm.trans past
  have leaves := RoutingTask.step_leaves r.server clears succeeds
  rw [stepTask_eq alone]
  generalize t.step r.server (r.journals t.sink) fails = out at leaves ⊢
  obtain ⟨server, file, next⟩ := out
  dsimp only at leaves ⊢
  intro v
  by_cases here : v = t.sink
  · subst here
    rcases leaves with missing | ⟨t', rfl, same, past⟩ | ⟨ok, g, rfl, same⟩
    · left
      cases next <;> exact (Function.update_self _ _ _).trans missing
    · exact .inr (.inr ⟨t', List.mem_singleton_self t', same, past⟩)
    · exact .inr (.inl ⟨g, List.mem_append_right _ (List.mem_singleton_self g), same⟩)
  · rcases held v with missing | ⟨g, member, same⟩ | ⟨task, running, same, -⟩
    · left
      cases next <;> exact (Function.update_of_ne here _ _).trans missing
    · right
      left
      cases next with
      | goesOn t' => exact ⟨g, member, same⟩
      | returns ok made => exact ⟨g, List.mem_append_left _ member, same⟩
    · rw [alone] at running
      cases List.mem_singleton.mp running
      exact absurd same.symm here

/-- A guard is given up, for a call that undoes its redirect. -/
theorem Held.release {index : Nat} {guard : AudioRoutingGuard} (held : r.Held)
    (nested : r.Nested home) (idle : r.tasks = []) (found : r.guards[index]? = some guard)
    {tasks : List RoutingTask} {returned : Option (RoutingCall × Bool)}
    (undone : guard.journal ≠ none → ∃ t ∈ tasks, t.sink = guard.sink ∧ t.stage.clears = false) :
    { r with guards := r.guards.eraseIdx index, tasks, returned }.Held := by
  obtain ⟨member, others, -⟩ := nested.apart found
  have fits := nested.guards guard member
  unfold AudioRoutingGuard.Fits at fits
  intro v
  rcases held v with missing | ⟨g, known, same⟩ | ⟨task, running, -⟩
  · exact .inl missing
  · rcases others g known with rfl | kept
    · cases journal : g.journal with
      | none =>
        rw [journal] at fits
        exact .inl (same ▸ fits)
      | some recorded =>
        obtain ⟨t, running, here, past⟩ := undone (by simp [journal])
        exact .inr (.inr ⟨t, running, here.trans same, past⟩)
    · exact .inr (.inl ⟨g, kept, same⟩)
  · rw [idle] at running
    cases running

theorem Held.restoreNow {index : Nat} {guard : AudioRoutingGuard} (held : r.Held)
    (nested : r.Nested home) (idle : r.tasks = []) (found : r.guards[index]? = some guard) :
    (r.restoreNow index guard).Held := by
  refine held.release nested idle found fun _ =>
    ⟨_, List.mem_append_right _ (List.mem_singleton_self _), rfl, ?_⟩
  cases guard.journal <;> rfl

theorem Held.drop {index : Nat} {guard : AudioRoutingGuard} (held : r.Held)
    (nested : r.Nested home) (idle : r.tasks = []) (found : r.guards[index]? = some guard) :
    (r.drop index guard).Held := by
  unfold Routing.drop
  cases journal : guard.journal with
  | none => exact held.release nested idle found fun some' => absurd journal some'
  | some recorded =>
    exact held.release nested idle found fun _ =>
      ⟨_, List.mem_append_right _ (List.mem_singleton_self _), rfl, rfl⟩

/-- Every journal still belongs to a guard or a call. -/
theorem Held.exec {action : RoutingAction} (held : r.Held) (nested : r.Nested home)
    (allowed : r.uncut action = true) (executed : machine.exec r action = some r') : r'.Held := by
  obtain ⟨orderly, whole⟩ := Bool.and_eq_true_iff.mp allowed
  have idle_held (idle : r.tasks = []) (v : VirtualSink) :
      r.journals v = .missing ∨ ∃ g ∈ r.guards, g.sink = v := by
    rcases held v with missing | guarded | ⟨task, running, -⟩
    · exact .inl missing
    · exact .inr guarded
    · rw [idle] at running
      cases running
  cases action with
  | activate sink redirect =>
    cases executed
    simp only [Routing.orderly, Bool.and_eq_true, List.isEmpty_iff] at orderly
    exact fun v => (idle_held orderly.1 v).imp_right .inl
  | restoreNow index =>
    obtain ⟨guard, found, rfl⟩ := Option.map_eq_some_iff.mp executed
    exact held.restoreNow nested (List.isEmpty_iff.mp orderly) found
  | drop index =>
    obtain ⟨guard, found, rfl⟩ := Option.map_eq_some_iff.mp executed
    exact held.drop nested (List.isEmpty_iff.mp orderly) found
  | recover =>
    cases executed
    simp only [Routing.orderly, Bool.and_eq_true, List.isEmpty_iff] at orderly
    exact fun v => (idle_held orderly.1 v).imp_right .inl
  | step index fails =>
    obtain ⟨t, running, rfl⟩ := Option.map_eq_some_iff.mp executed
    obtain ⟨rfl, alone⟩ := nested.alone_of_getElem? running
    refine held.step nested alone fun failing => ?_
    subst failing
    simpa [Routing.orderly, alone] using And.intro orderly whole
  | abort index | crash => cases whole
  | streams inputs =>
    cases executed
    exact held

/-- The sound goes to a peer, then to a phone too, and both streams stop. -/
def sampleStopped : List RoutingAction :=
  .activate .remote true :: sampleSteps 9 ++ .activate .phone true :: sampleSteps 9 ++
    .restoreNow 0 :: sampleSteps 6 ++ .drop 0 :: sampleSteps 6

theorem mem_sinks {sink : Sink} : sink ∈ r.sinks ↔ r.server.hasSink sink = true := by
  cases sink with
  | device name => simp [sinks, SoundServer.hasSink]
  | virtual v => simp [sinks, SoundServer.hasSink, SoundServer.loaded]

theorem Nested.alone_or_idle (nested : r.Nested home) : r.tasks = [] ∨ ∃ t, r.tasks = [t] := by
  have alone := nested.alone
  rcases tasks : r.tasks with _ | ⟨t, _ | ⟨u, rest⟩⟩
  · exact .inl rfl
  · exact .inr ⟨t, rfl⟩
  · rw [tasks] at alone
    simp at alone

/-- What an activation has not written yet is no redirect of the default. -/
theorem Nested.unwritten_previous {journal : RoutingJournal} (nested : r.Nested home)
    (running : t ∈ r.tasks) (unwritten : t.stage.unwritten = some journal) :
    journal.previousSink = r.server.defaultSink := by
  have fits := nested.fits t running
  unfold RoutingTask.Fits at fits
  cases stage : t.stage with
  | createJournal other | writeJournal other =>
    rw [stage] at unwritten fits
    cases unwritten
    exact fits.1.2.2
  | _ =>
    rw [stage] at unwritten
    cases unwritten

/-- The redirect that is the default has its journal on the disk. -/
theorem Nested.whole_of_default (nested : r.Nested home)
    (default : r.server.defaultSink = .virtual v) : ∃ journal, r.journals v = .whole journal := by
  obtain ⟨id, member⟩ := nested.sound.loaded_of_default default
  obtain ⟨journal, recorded, -⟩ := nested.sound.known id v member
  have known : r.record v = some journal := recorded
  cases file : r.journals v with
  | whole journal => exact ⟨journal, rfl⟩
  | missing | torn =>
    rcases nested.alone_or_idle with idle | ⟨t, alone⟩
    · rw [record_of_idle idle, file] at known
      cases known
    · rw [record_of_alone alone, file] at known
      obtain ⟨-, unwritten⟩ := Option.ite_none_right_eq_some.mp known
      have own := nested.unwritten_previous (alone ▸ List.mem_singleton_self t) unwritten
      rcases nested.sound.previous v journal recorded with device | other
      · cases device.symm.trans (own.trans default)
      · exact absurd (Sink.virtual.inj (other.symm.trans (own.trans default))) v.other_ne

/-- The phone plays what the computer plays for it and for a peer at once. -/
def sampleBoth : List RoutingAction :=
  .activate .remote true :: sampleSteps 9 ++ .activate .phone true :: sampleSteps 9

end Routing

end EdgeKvm.Audio
