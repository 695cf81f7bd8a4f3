import EdgeKvm.Audio.Redirects

/-!
# The steps of a redirect

Where the calls come one after another, every step of a call is at most one operation on the
redirects, and none of them is lost: whatever is loaded has a record, which is on the disk but for
the steps between loading the module and writing its journal.
-/

namespace EdgeKvm.Audio

open EdgeKvm.Lib Machine

/-- The record that a running activation has not written yet. -/
def RoutingStage.unwritten : RoutingStage → Option RoutingJournal
  | .createJournal journal | .writeJournal journal => some journal
  | _ => none

/-- The steps that can fail and leave nothing behind. -/
def RoutingStage.mayFail : RoutingStage → Bool
  | .restoreDefault _ | .restoreList _ | .restoreMove _ _ | .unload _ => false
  | .createJournal _ | .writeJournal _ => false
  | _ => true

namespace Routing

/-- What is known of the redirect to a sink. -/
def record (r : Routing) (v : VirtualSink) : Option RoutingJournal :=
  match r.journals v with
  | .whole journal => some journal
  | _ => r.tasks.findSome? fun task => if task.sink = v then task.stage.unwritten else none

def redirects (r : Routing) : Redirects :=
  { defaultSink := r.server.defaultSink, modules := r.server.modules
    nextModule := r.server.nextModule, record := r.record }

/-- The calls come one after another, none for a sink that a guard still holds; undoing a redirect
    succeeds, and nothing fails or ends between loading a module and writing its journal. -/
def orderly (r : Routing) : RoutingAction → Bool
  | .activate sink _ => r.tasks.isEmpty && r.guards.all (·.sink ≠ sink)
  | .restoreNow _ | .drop _ => r.tasks.isEmpty
  | .recover => r.tasks.isEmpty && r.guards.isEmpty
  | .step _ fails => !fails || r.tasks.all (·.stage.mayFail)
  | .abort _ | .crash => r.tasks.all (·.stage.unwritten.isNone)
  | .streams _ => true

end Routing

/-- The calls of `activate_sink`. -/
def RoutingCall.activates : RoutingCall → Bool
  | .activate _ => true
  | _ => false

/-! ## What holds at a step -/

/-- What the stage of a call relies on. -/
def RoutingTask.Fits (r : Routing) (t : RoutingTask) : Prop :=
  match t.stage with
  | .readJournal => True
  | .restoreDefault journal => r.journals t.sink = .whole journal
  | .restoreList journal | .restoreMove journal _ | .unload journal =>
    r.journals t.sink = .whole journal ∧ r.redirects.Away t.sink
  | .removeJournal => ¬ r.redirects.Loaded t.sink
  | .getDefault => r.journals t.sink = .missing ∧ t.call.activates = true
  | .load previousSink =>
    (r.journals t.sink = .missing ∧ previousSink = r.server.defaultSink) ∧
      t.call.activates = true
  | .createJournal journal | .writeJournal journal =>
    ((∀ other, r.journals t.sink ≠ .whole other) ∧ r.redirects.Loaded t.sink ∧
      journal.previousSink = r.server.defaultSink) ∧ t.call.activates = true
  | .setDefault journal =>
    (r.journals t.sink = .whole journal ∧ r.redirects.Loaded t.sink ∧
      journal.previousSink = r.server.defaultSink) ∧ t.call.activates = true
  | .list journal | .move journal _ =>
    (r.journals t.sink = .whole journal ∧ r.redirects.Loaded t.sink) ∧ t.call.activates = true

/-- The journal of a guard is on the disk, and its sink loaded. -/
def AudioRoutingGuard.Fits (r : Routing) (g : AudioRoutingGuard) : Prop :=
  match g.journal with
  | none => r.journals g.sink = .missing
  | some journal => r.journals g.sink = .whole journal ∧ r.redirects.Loaded g.sink

/-- What orderly calls keep. -/
structure Routing.Nested (home : String) (r : Routing) : Prop where
  sound : r.redirects.Sound home
  device : home ∈ r.server.devices
  alone : r.tasks.length ≤ 1
  fits : ∀ t ∈ r.tasks, t.Fits r
  guards : ∀ g ∈ r.guards, g.Fits r
  single : (r.guards.map (·.sink)).Nodup
  free : ∀ t ∈ r.tasks, ∀ g ∈ r.guards, g.sink ≠ t.sink
  recovering : ∀ t ∈ r.tasks, ∀ rest, t.call = .recover rest →
    r.guards = [] ∧ ∀ v, v ≠ t.sink → v ∉ rest → r.journals v = .missing
  returned : ∀ rest, r.returned = some (.recover rest, true) →
    r.tasks = [] ∧ r.guards = [] ∧ ∀ v, r.journals v = .missing

namespace Routing

variable {home : String} {r r' : Routing} {t t' : RoutingTask} {server : SoundServer}
  {file : JournalFile} {v : VirtualSink} {journal : RoutingJournal} {fails : Bool}

theorem record_of_whole (whole : r.journals v = .whole journal) : r.record v = some journal := by
  unfold record
  rw [whole]

/-- A journal file and what an activation has not written yet. -/
def entry (file : JournalFile) (unwritten : Option RoutingJournal) : Option RoutingJournal :=
  match file with
  | .whole journal => some journal
  | _ => unwritten

theorem record_of_alone (alone : r.tasks = [t]) :
    r.record v = entry (r.journals v) (if t.sink = v then t.stage.unwritten else none) := by
  unfold record entry
  rw [alone]
  cases r.journals v <;> simp [List.findSome?_cons] <;> split <;> simp_all

theorem record_of_idle (idle : r.tasks = []) : r.record v = entry (r.journals v) none := by
  unfold record entry
  rw [idle]
  rfl

/-- What a step of the only call leads to. -/
def proceed (r : Routing) (t : RoutingTask) (server : SoundServer) (file : JournalFile) :
    RoutingNext → Routing
  | .goesOn task =>
    { r with server, journals := Function.update r.journals t.sink file, tasks := [task] }
  | .returns ok made =>
    { r with
      server
      journals := Function.update r.journals t.sink file
      tasks := []
      guards := r.guards ++ made.toList
      returned := some (t.call, ok) }

theorem stepTask_eq (alone : r.tasks = [t]) :
    r.stepTask 0 t fails =
      r.proceed t (t.step r.server (r.journals t.sink) fails).1
        (t.step r.server (r.journals t.sink) fails).2.1
        (t.step r.server (r.journals t.sink) fails).2.2 := by
  unfold stepTask proceed
  rcases t.step r.server (r.journals t.sink) fails with ⟨server, file, task | ⟨ok, made⟩⟩
  · simp [alone]
  · simp [alone]

/-- The redirects behind a step. -/
def changed (r : Routing) (t : RoutingTask) (server : SoundServer)
    (known : Option RoutingJournal) : Redirects :=
  { defaultSink := server.defaultSink, modules := server.modules, nextModule := server.nextModule
    record := Function.update r.record t.sink known }

theorem redirects_goesOn (alone : r.tasks = [t])
    (same : t'.sink = t.sink ∨ t'.stage.unwritten = none) :
    (r.proceed t server file (.goesOn t')).redirects =
      r.changed t server (entry file t'.stage.unwritten) := by
  unfold redirects changed
  congr 1
  funext v
  rw [record_of_alone (t := t') rfl]
  by_cases here : v = t.sink
  · subst here
    rcases same with same | written
    · simp [proceed, same]
    · simp [proceed, written]
  · rcases same with same | written
    · simp [proceed, same, here, Ne.symm here, record_of_alone alone]
    · simp [proceed, written, here, Ne.symm here, record_of_alone alone]

theorem redirects_returns {ok : Bool} {made : Option AudioRoutingGuard} (alone : r.tasks = [t]) :
    (r.proceed t server file (.returns ok made)).redirects =
      r.changed t server (entry file none) := by
  unfold redirects changed
  congr 1
  funext v
  rw [record_of_idle rfl]
  by_cases here : v = t.sink
  · subst here
    simp [proceed]
  · simp [proceed, here, Ne.symm here, record_of_alone alone]

/-! ## What a step has to keep -/

section Kept

variable {ok : Bool} {made : Option AudioRoutingGuard} {known : Option RoutingJournal}

/-- A guard of another sink is not affected. -/
theorem guard_fits {g : AudioRoutingGuard} (fits : g.Fits r)
    (journals : r'.journals g.sink = r.journals g.sink)
    (loaded : r.redirects.Loaded g.sink → r'.redirects.Loaded g.sink) : g.Fits r' := by
  unfold AudioRoutingGuard.Fits at fits ⊢
  cases made : g.journal with
  | none =>
    rw [made] at fits
    exact journals.trans fits
  | some journal =>
    rw [made] at fits
    exact ⟨journals.trans fits.1, loaded fits.2⟩

/-- The call goes on with the same sink. -/
theorem Nested.goesOn (nested : r.Nested home) (alone : r.tasks = [t]) (sink : t'.sink = t.sink)
    (call : t'.call = t.call ∨ t'.call = .failed) (devices : server.devices = r.server.devices)
    (sound : (r.changed t server (entry file t'.stage.unwritten)).Sound home)
    (kept : ∀ v, v ≠ t.sink → r.redirects.Loaded v → ∃ id, (id, v) ∈ server.modules)
    (fits : t'.Fits (r.proceed t server file (.goesOn t'))) :
    (r.proceed t server file (.goesOn t')).Nested home := by
  have member : t ∈ r.tasks := alone ▸ List.mem_singleton_self t
  have free := nested.free t member
  refine ⟨?_, ?_, Nat.le_refl 1, ?_, ?_, nested.single, ?_, ?_, ?_⟩
  · rw [redirects_goesOn alone (.inl sink)]
    exact sound
  · exact devices ▸ nested.device
  · intro task running
    cases List.mem_singleton.mp running
    exact fits
  · intro g held
    refine guard_fits (nested.guards g held) ?_ (kept _ (free g held))
    exact Function.update_of_ne (free g held) _ _
  · intro task running g held
    cases List.mem_singleton.mp running
    rw [sink]
    exact free g held
  · intro task running rest recovers
    cases List.mem_singleton.mp running
    rcases call with same | failed
    · obtain ⟨idle, missing⟩ := nested.recovering t member rest (same.symm.trans recovers)
      refine ⟨idle, fun v elsewhere absent => ?_⟩
      rw [sink] at elsewhere
      exact (Function.update_of_ne elsewhere _ _).trans (missing v elsewhere absent)
    · cases failed.symm.trans recovers
  · intro rest returned
    have idle := (nested.returned rest returned).1
    cases alone.symm.trans idle

/-- The call returns. -/
theorem Nested.returns (nested : r.Nested home) (alone : r.tasks = [t])
    (devices : server.devices = r.server.devices)
    (sound : (r.changed t server (entry file none)).Sound home)
    (kept : ∀ v, v ≠ t.sink → r.redirects.Loaded v → ∃ id, (id, v) ∈ server.modules)
    (fits : ∀ g, made = some g →
      g.sink = t.sink ∧ g.Fits (r.proceed t server file (.returns ok made)))
    (done : ok = true → ∀ rest, t.call = .recover rest →
      rest = [] ∧ made = none ∧ file = .missing) :
    (r.proceed t server file (.returns ok made)).Nested home := by
  have member : t ∈ r.tasks := alone ▸ List.mem_singleton_self t
  have free := nested.free t member
  have absent {task : RoutingTask} {P : Prop}
      (running : task ∈ (r.proceed t server file (.returns ok made)).tasks) : P := by
    cases running
  refine ⟨?_, ?_, Nat.zero_le 1, fun _ running => absent running, ?_, ?_,
    fun _ running => absent running, fun _ running => absent running, ?_⟩
  · rw [redirects_returns alone]
    exact sound
  · exact devices ▸ nested.device
  · intro g held
    rcases List.mem_append.mp held with old | new
    · refine guard_fits (nested.guards g old) ?_ (kept _ (free g old))
      exact Function.update_of_ne (free g old) _ _
    · exact (fits g (Option.mem_toList.mp new)).2
  · show ((r.guards ++ made.toList).map (·.sink)).Nodup
    cases made with
    | none => simpa using nested.single
    | some g =>
      obtain ⟨same, -⟩ := fits g rfl
      rw [List.map_append, Option.toList_some, List.map_singleton]
      refine List.nodup_append.mpr ⟨nested.single, by simp, ?_⟩
      rintro v held w new rfl
      obtain ⟨other, here, rfl⟩ := List.mem_map.mp held
      exact free other here ((List.mem_singleton.mp new).trans same)
  · intro rest returned
    obtain ⟨recovers, rfl⟩ := Prod.mk.inj (Option.some.inj returned)
    obtain ⟨last, rfl, missing⟩ := done rfl rest recovers
    obtain ⟨idle, others⟩ := nested.recovering t member rest recovers
    refine ⟨rfl, by simp [proceed, idle], fun v => ?_⟩
    by_cases here : v = t.sink
    · subst here
      exact (Function.update_self _ _ _).trans missing
    · refine (Function.update_of_ne here _ _).trans (others v here ?_)
      rw [last]
      exact List.not_mem_nil

/-- The recovery goes on with the next sink. -/
theorem Nested.next {rest : List VirtualSink} (nested : r.Nested home) (alone : r.tasks = [t])
    (recovers : t.call = .recover (v :: rest)) (devices : server.devices = r.server.devices)
    (sound : (r.changed t server none).Sound home) :
    (r.proceed t server .missing
      (.goesOn { sink := v, call := .recover rest, stage := .readJournal })).Nested home := by
  have member : t ∈ r.tasks := alone ▸ List.mem_singleton_self t
  obtain ⟨idle, others⟩ := nested.recovering t member _ recovers
  have unheld {g : AudioRoutingGuard} {P : Prop} (held : g ∈ r.guards) : P := by
    rw [idle] at held
    cases held
  refine ⟨?_, ?_, Nat.le_refl 1, ?_, fun g held => unheld held, nested.single,
    fun _ _ g held => unheld held, ?_, ?_⟩
  · rw [redirects_goesOn alone (.inr rfl)]
    exact sound
  · exact devices ▸ nested.device
  · intro task running
    cases List.mem_singleton.mp running
    trivial
  · intro task running later recovers'
    cases List.mem_singleton.mp running
    cases recovers'
    refine ⟨idle, fun w elsewhere absent => ?_⟩
    by_cases here : w = t.sink
    · subst here
      exact Function.update_self _ _ _
    · refine (Function.update_of_ne here _ _).trans (others w here ?_)
      exact List.not_mem_cons_of_ne_of_not_mem elsewhere absent
  · intro later returned
    have waiting := (nested.returned later returned).1
    cases alone.symm.trans waiting

/-- The file is gone, and so is the redirect. -/
theorem Nested.afterRemoval (nested : r.Nested home) (alone : r.tasks = [t])
    (sound : (r.redirects.forget t.sink).Sound home) :
    (r.proceed t r.server .missing t.afterRemoval).Nested home := by
  have kept : ∀ v, v ≠ t.sink → r.redirects.Loaded v → ∃ id, (id, v) ∈ r.server.modules :=
    fun v _ loaded => loaded
  unfold RoutingTask.afterRemoval
  cases call : t.call with
  | activate redirect =>
    refine nested.goesOn alone rfl (.inl rfl) rfl sound kept ⟨?_, ?_⟩
    · exact Function.update_self _ _ _
    · rw [call]
      rfl
  | failed | restoreNow | dropped =>
    refine nested.returns alone rfl sound kept (fun _ absent => by cases absent) ?_
    intro _ rest recovers
    cases call.symm.trans recovers
  | recover rest =>
    cases rest with
    | nil =>
      refine nested.returns alone rfl sound kept (fun _ absent => by cases absent) ?_
      intro _ rest recovers
      cases call.symm.trans recovers
      exact ⟨rfl, rfl, rfl⟩
    | cons v rest => exact nested.next alone call rfl sound

end Kept

/-! ## Steps that change no redirect -/

/-- Another state of the streams. -/
structure Alike (s s' : SoundServer) : Prop where
  devices : s'.devices = s.devices
  defaultSink : s'.defaultSink = s.defaultSink
  modules : s'.modules = s.modules
  nextModule : s'.nextModule = s.nextModule

theorem alike_move_getD {s : SoundServer} {input : Nat} {sink : Sink} :
    Alike s ((s.moveSinkInput input sink).getD s) := by
  unfold SoundServer.moveSinkInput
  split <;> exact ⟨rfl, rfl, rfl, rfl⟩

theorem alike_move {s s' : SoundServer} {input : Nat} {sink : Sink}
    (moved : s.moveSinkInput input sink = some s') : Alike s s' := by
  unfold SoundServer.moveSinkInput at moved
  split at moved
  · cases moved
    exact ⟨rfl, rfl, rfl, rfl⟩
  · cases moved

/-- What a call relies on does not depend on the streams. -/
theorem fits_of_same (fits : t.Fits r) (journals : r'.journals = r.journals)
    (redirects : r'.redirects = r.redirects)
    (defaultSink : r'.server.defaultSink = r.server.defaultSink) : t.Fits r' := by
  unfold RoutingTask.Fits at fits ⊢
  rw [journals, redirects, defaultSink]
  exact fits

/-- The same records at another state of the sound server. -/
def behind (r : Routing) (server : SoundServer) : Redirects :=
  { defaultSink := server.defaultSink, modules := server.modules, nextModule := server.nextModule
    record := r.record }

theorem behind_alike (alike : Alike r.server server) : r.behind server = r.redirects := by
  unfold behind redirects
  rw [alike.defaultSink, alike.modules, alike.nextModule]

theorem changed_same : r.changed t server (r.record t.sink) = r.behind server := by
  unfold changed behind
  rw [Function.update_eq_self]

theorem entry_own (alone : r.tasks = [t]) :
    entry (r.journals t.sink) t.stage.unwritten = r.record t.sink := by
  rw [record_of_alone alone, if_pos rfl]

/-- A step of the call that changes no record. -/
theorem Nested.goTo {stage : RoutingStage} {call : RoutingCall} (nested : r.Nested home)
    (alone : r.tasks = [t]) (same : call = t.call ∨ call = .failed)
    (known : entry file stage.unwritten = r.record t.sink)
    (devices : server.devices = r.server.devices) (sound : (r.behind server).Sound home)
    (kept : ∀ v, v ≠ t.sink → r.redirects.Loaded v → (r.behind server).Loaded v)
    (fits : ∀ r' : Routing, r'.journals t.sink = file → r'.redirects = r.behind server →
      r'.server = server → RoutingTask.Fits r' { sink := t.sink, call, stage }) :
    (r.proceed t server file (.goesOn { sink := t.sink, call, stage })).Nested home := by
  have changed : r.changed t server (entry file stage.unwritten) = r.behind server := by
    rw [known, changed_same]
  refine nested.goesOn alone rfl same devices (changed ▸ sound) kept (fits _ ?_ ?_ rfl)
  · exact Function.update_self _ _ _
  · rw [redirects_goesOn alone]
    · exact changed
    · exact .inl rfl

/-- A step that only looks, or moves streams. -/
theorem Nested.quietly {stage : RoutingStage} {call : RoutingCall} (nested : r.Nested home)
    (alone : r.tasks = [t]) (alike : Alike r.server server)
    (same : call = t.call ∨ call = .failed) (unwritten : stage.unwritten = t.stage.unwritten)
    (fits : ∀ r' : Routing, r'.journals t.sink = r.journals t.sink → r'.redirects = r.redirects →
      r'.server.defaultSink = r.server.defaultSink →
      RoutingTask.Fits r' { sink := t.sink, call, stage }) :
    (r.proceed t server (r.journals t.sink)
      (.goesOn { sink := t.sink, call, stage })).Nested home := by
  have unchanged := behind_alike alike
  refine nested.goTo alone same ?_ alike.devices ?_ ?_ ?_
  · rw [unwritten, entry_own alone]
  · rw [unchanged]
    exact nested.sound
  · rw [unchanged]
    exact fun v _ loaded => loaded
  · intro r' journals redirects here
    exact fits r' journals (redirects.trans unchanged) (here ▸ alike.defaultSink)

/-- A call that returns and leaves everything as it is. -/
theorem Nested.givesUp (nested : r.Nested home) (alone : r.tasks = [t])
    (written : t.stage.unwritten = none) {ok : Bool}
    (other : ok = true → ∀ rest, t.call ≠ .recover rest) :
    (r.proceed t r.server (r.journals t.sink) (.returns ok none)).Nested home := by
  refine nested.returns alone rfl ?_ (fun v _ loaded => loaded) (fun _ absent => by cases absent) ?_
  · rw [← written, entry_own alone, changed_same]
    exact nested.sound
  · exact fun succeeds rest recovers => absurd recovers (other succeeds rest)

/-! ## The steps of a call -/

theorem hasSink_previous (device : home ∈ r.server.devices) (sound : r.redirects.Sound home)
    (recorded : r.record v = some journal) :
    r.server.hasSink journal.previousSink = true ↔
      (journal.previousSink = .virtual v.other → r.redirects.Loaded v.other) := by
  have loaded : r.server.loaded v.other = true ↔ r.redirects.Loaded v.other := by
    simp [SoundServer.loaded, Redirects.Loaded, redirects]
  rcases sound.previous v journal recorded with home' | nested
  · rw [home']
    simp [SoundServer.hasSink, device]
  · rw [nested]
    simpa [SoundServer.hasSink] using loaded

theorem fits_at (nested : r.Nested home) (alone : r.tasks = [t]) : t.Fits r :=
  nested.fits t (alone ▸ List.mem_singleton_self t)

/-- The default sink is the one before again, if that is still there. -/
theorem Nested.restoring (nested : r.Nested home) (alone : r.tasks = [t])
    (stage : t.stage = .restoreDefault journal) :
    (r.proceed t ((r.server.setDefaultSink journal.previousSink).getD r.server)
      (r.journals t.sink) (t.goTo (.restoreList journal))).Nested home := by
  have whole : r.journals t.sink = .whole journal := by
    have fits := fits_at nested alone
    unfold RoutingTask.Fits at fits
    rwa [stage] at fits
  have recorded := record_of_whole whole
  have there := hasSink_previous nested.device nested.sound recorded
  have known : entry (r.journals t.sink) none = r.record t.sink := by
    rw [whole, recorded]
    rfl
  unfold SoundServer.setDefaultSink
  by_cases found : r.server.hasSink journal.previousSink = true
  · obtain ⟨sound, away⟩ := nested.sound.goBack recorded (there.mp found)
    rw [if_pos found]
    refine nested.goTo alone (.inl rfl) known rfl sound (fun v _ loaded => loaded) ?_
    exact fun r' journals redirects _ => ⟨journals.trans whole, redirects ▸ away⟩
  · rw [if_neg found]
    refine nested.goTo alone (.inl rfl) known rfl nested.sound (fun v _ loaded => loaded) ?_
    obtain ⟨previous, gone⟩ := Classical.not_imp.mp (mt there.mpr found)
    exact fun r' journals redirects _ =>
      ⟨journals.trans whole, redirects ▸ nested.sound.away recorded previous gone⟩

theorem Nested.unloading (nested : r.Nested home) (alone : r.tasks = [t])
    (stage : t.stage = .unload journal) :
    (r.proceed t (r.server.unloadModule journal.moduleId) (r.journals t.sink)
      (t.goTo .removeJournal)).Nested home := by
  have fits := fits_at nested alone
  unfold RoutingTask.Fits at fits
  rw [stage] at fits
  obtain ⟨whole, away⟩ := fits
  have recorded := record_of_whole whole
  obtain ⟨sound, unloaded⟩ := nested.sound.unload recorded away
  refine nested.goTo alone (.inl rfl) ?_ rfl sound ?_ ?_
  · rw [whole, recorded]
    rfl
  · exact fun v other loaded => nested.sound.loaded_unload recorded other loaded
  · intro r' _ redirects _
    show ¬ r'.redirects.Loaded t.sink
    rw [redirects]
    exact unloaded

/-- The module is loaded, and its record not written yet. -/
theorem Nested.loading {previousSink : Sink} (nested : r.Nested home) (alone : r.tasks = [t])
    (stage : t.stage = .load previousSink) :
    (r.proceed t (r.server.loadModule t.sink) (r.journals t.sink)
      (t.goTo (.createJournal { previousSink, moduleId := r.server.nextModule }))).Nested home := by
  have fits := fits_at nested alone
  unfold RoutingTask.Fits at fits
  rw [stage] at fits
  obtain ⟨⟨missing, rfl⟩, activates⟩ := fits
  have absent : r.record t.sink = none := by
    rw [← entry_own alone, missing, stage]
    rfl
  refine nested.goesOn alone rfl (.inl rfl) rfl ?_ ?_ ?_
  · rw [missing]
    exact nested.sound.load absent
  · exact fun v _ loaded => loaded.load
  · refine ⟨⟨fun other whole => ?_, ?_, rfl⟩, activates⟩
    · cases missing.symm.trans ((Function.update_self _ _ _).symm.trans whole)
    · exact ⟨r.server.nextModule, List.mem_cons_self⟩

theorem Nested.creating (nested : r.Nested home) (alone : r.tasks = [t])
    (stage : t.stage = .createJournal journal) :
    (r.proceed t r.server .torn (t.goTo (.writeJournal journal))).Nested home := by
  have fits := fits_at nested alone
  unfold RoutingTask.Fits at fits
  rw [stage] at fits
  obtain ⟨⟨unwritten, loaded, before⟩, activates⟩ := fits
  refine nested.goTo alone (.inl rfl) ?_ rfl nested.sound (fun v _ loaded => loaded) ?_
  · rw [← entry_own alone, stage]
    cases file : r.journals t.sink with
    | missing | torn => rfl
    | whole other => exact absurd file (unwritten other)
  · intro r' journals redirects server
    refine ⟨⟨fun other whole => ?_, redirects ▸ loaded, server ▸ before⟩, activates⟩
    cases journals.symm.trans whole

theorem Nested.writing (nested : r.Nested home) (alone : r.tasks = [t])
    (stage : t.stage = .writeJournal journal) :
    (r.proceed t r.server (.whole journal) (t.goTo (.setDefault journal))).Nested home := by
  have fits := fits_at nested alone
  unfold RoutingTask.Fits at fits
  rw [stage] at fits
  obtain ⟨⟨unwritten, loaded, before⟩, activates⟩ := fits
  refine nested.goTo alone (.inl rfl) ?_ rfl nested.sound (fun v _ loaded => loaded) ?_
  · rw [← entry_own alone, stage]
    cases file : r.journals t.sink with
    | missing | torn => rfl
    | whole other => exact absurd file (unwritten other)
  · exact fun r' journals redirects server =>
      ⟨⟨journals, redirects ▸ loaded, server ▸ before⟩, activates⟩

theorem Nested.taking (nested : r.Nested home) (alone : r.tasks = [t])
    (stage : t.stage = .setDefault journal)
    (set : r.server.setDefaultSink (.virtual t.sink) = some server) :
    (r.proceed t server (r.journals t.sink) (t.goTo (.list journal))).Nested home := by
  have fits := fits_at nested alone
  unfold RoutingTask.Fits at fits
  rw [stage] at fits
  obtain ⟨⟨whole, loaded, before⟩, activates⟩ := fits
  have recorded := record_of_whole whole
  unfold SoundServer.setDefaultSink at set
  split at set
  · cases set
    refine nested.goTo alone (.inl rfl) ?_ rfl (nested.sound.take recorded loaded before)
      (fun v _ loaded => loaded) ?_
    · rw [whole, recorded]
      rfl
    · exact fun r' journals redirects _ =>
        ⟨⟨journals.trans whole, redirects ▸ loaded⟩, activates⟩
  · cases set

/-- An activation that could not route is undone. -/
theorem Nested.undoing (nested : r.Nested home) (alone : r.tasks = [t])
    (whole : r.journals t.sink = .whole journal) (written : t.stage.unwritten = none) :
    (r.proceed t r.server (r.journals t.sink) (t.undo journal)).Nested home := by
  refine nested.quietly alone ⟨rfl, rfl, rfl, rfl⟩ (.inr rfl) written.symm ?_
  exact fun r' journals _ _ => journals.trans whole

/-- An activation is over. -/
theorem Nested.activated {made : Option RoutingJournal} (nested : r.Nested home)
    (alone : r.tasks = [t]) (alike : Alike r.server server) (written : t.stage.unwritten = none)
    (activates : t.call.activates = true)
    (fits : AudioRoutingGuard.Fits r { sink := t.sink, journal := made }) :
    (r.proceed t server (r.journals t.sink)
      (.returns true (some { sink := t.sink, journal := made }))).Nested home := by
  have changed : r.changed t server (entry (r.journals t.sink) none) = r.redirects := by
    rw [← written, entry_own alone, changed_same, behind_alike alike]
  refine nested.returns alone alike.devices (changed ▸ nested.sound) ?_ ?_ ?_
  · intro v _ loaded
    rw [alike.modules]
    exact loaded
  · rintro _ ⟨⟩
    refine ⟨rfl, guard_fits fits (Function.update_self _ _ _) ?_⟩
    rw [redirects_returns alone, changed]
    exact id
  · intro _ rest recovers
    rw [recovers] at activates
    cases activates

/-- Every step of the only call. -/
theorem Nested.step (nested : r.Nested home) (alone : r.tasks = [t])
    (allowed : fails = true → t.stage.mayFail = true) : (r.stepTask 0 t fails).Nested home := by
  have fits := fits_at nested alone
  have still : Alike r.server r.server := ⟨rfl, rfl, rfl, rfl⟩
  rw [stepTask_eq alone]
  obtain ⟨sink, call, stage⟩ := t
  unfold RoutingTask.Fits at fits
  cases stage with
  | readJournal =>
    cases fails with
    | true => exact nested.givesUp alone rfl (by simp)
    | false =>
      unfold RoutingTask.step
      cases file : r.journals sink with
      | missing =>
        have absent : r.record sink = none := by
          rw [← entry_own alone, file]
          rfl
        exact nested.afterRemoval alone (nested.sound.forget (nested.sound.not_loaded absent))
      | torn =>
        have kept : (r.proceed ⟨sink, call, .readJournal⟩ r.server (r.journals sink)
            (.returns false none)).Nested home := nested.givesUp alone rfl (by simp)
        rwa [file] at kept
      | whole journal =>
        have kept : (r.proceed ⟨sink, call, .readJournal⟩ r.server (r.journals sink)
            (.goesOn ⟨sink, call, .restoreDefault journal⟩)).Nested home := by
          refine nested.quietly alone still (.inl rfl) rfl ?_
          exact fun r' journals _ _ => journals.trans file
        rwa [file] at kept
  | restoreDefault journal =>
    cases fails with
    | true => cases allowed rfl
    | false => exact nested.restoring alone rfl
  | restoreList journal =>
    cases fails with
    | true => cases allowed rfl
    | false =>
      refine nested.quietly alone still (.inl rfl) rfl ?_
      exact fun r' journals redirects _ => ⟨journals.trans fits.1, redirects ▸ fits.2⟩
  | restoreMove journal inputs =>
    cases inputs with
    | nil =>
      refine nested.quietly alone still (.inl rfl) rfl ?_
      exact fun r' journals redirects _ => ⟨journals.trans fits.1, redirects ▸ fits.2⟩
    | cons input inputs =>
      cases fails with
      | true => cases allowed rfl
      | false =>
        refine nested.quietly alone alike_move_getD (.inl rfl) rfl ?_
        exact fun r' journals redirects _ => ⟨journals.trans fits.1, redirects ▸ fits.2⟩
  | unload journal =>
    cases fails with
    | true => cases allowed rfl
    | false => exact nested.unloading alone rfl
  | removeJournal =>
    cases fails with
    | true =>
      refine nested.givesUp alone rfl fun dropped rest recovers => ?_
      cases (of_decide_eq_true dropped).symm.trans recovers
    | false => exact nested.afterRemoval alone (nested.sound.forget fits)
  | getDefault =>
    cases fails with
    | true => exact nested.givesUp alone rfl (by simp)
    | false =>
      by_cases redirects : call = .activate true
      · subst redirects
        refine nested.quietly alone still (.inl rfl) rfl ?_
        exact fun r' journals _ defaultSink => ⟨⟨journals.trans fits.1, defaultSink.symm⟩, rfl⟩
      · unfold RoutingTask.step
        simp only [Bool.false_eq_true, if_false, redirects]
        exact nested.activated alone still rfl fits.2 fits.1
  | load previousSink =>
    cases fails with
    | true => exact nested.givesUp alone rfl (by simp)
    | false => exact nested.loading alone rfl
  | createJournal journal =>
    cases fails with
    | true => cases allowed rfl
    | false => exact nested.creating alone rfl
  | writeJournal journal =>
    cases fails with
    | true => cases allowed rfl
    | false => exact nested.writing alone rfl
  | setDefault journal =>
    obtain ⟨⟨whole, loaded, before⟩, activates⟩ := fits
    cases fails with
    | true => exact nested.undoing alone whole rfl
    | false =>
      unfold RoutingTask.step
      cases set : r.server.setDefaultSink (.virtual sink) with
      | none => simpa [set] using nested.undoing alone whole rfl
      | some server => simpa [set] using nested.taking alone rfl set
  | list journal =>
    obtain ⟨⟨whole, loaded⟩, activates⟩ := fits
    cases fails with
    | true => exact nested.undoing alone whole rfl
    | false =>
      refine nested.quietly alone still (.inl rfl) rfl ?_
      exact fun r' journals redirects _ =>
        ⟨⟨journals.trans whole, redirects ▸ loaded⟩, activates⟩
  | move journal inputs =>
    obtain ⟨⟨whole, loaded⟩, activates⟩ := fits
    cases inputs with
    | nil => exact nested.activated alone still rfl activates ⟨whole, loaded⟩
    | cons input inputs =>
      cases fails with
      | true => exact nested.undoing alone whole rfl
      | false =>
        unfold RoutingTask.step
        cases moved : r.server.moveSinkInput input (.virtual sink) with
        | none => simpa [moved] using nested.undoing alone whole rfl
        | some server =>
          have kept : (r.proceed ⟨sink, call, .move journal (input :: inputs)⟩ server
              (r.journals sink) (.goesOn ⟨sink, call, .move journal inputs⟩)).Nested home := by
            refine nested.quietly alone (alike_move moved) (.inl rfl) rfl ?_
            exact fun r' journals redirects _ =>
              ⟨⟨journals.trans whole, redirects ▸ loaded⟩, activates⟩
          simpa [moved, RoutingTask.goTo] using kept

end Routing

end EdgeKvm.Audio
