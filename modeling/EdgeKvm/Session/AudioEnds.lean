import EdgeKvm.Session.AudioTurns
import Mathlib.Data.List.Perm.Basic

/-!
# The streams of the two ends

What the turns of an end keep: it sends and receives only what its route allows, and no start task
has the number of another. A receiver holds the secrets of the last `Start` its end has sent, which
the other end either has not seen yet or follows.
-/

namespace EdgeKvm.Session

open EdgeKvm.Lib

namespace AudioEnd

variable {p : Platform} {localFingerprint peerFingerprint : String} {audioPort : Nat}
  {received : Option AudioControl} {a a' : AudioEnd} {out : List AudioControl}

/-! ## The direction of the streams -/

/-- An end sends only what it is the source of, and receives only from the other. -/
structure Sided (localFingerprint peerFingerprint : String) (a : AudioEnd) : Prop where
  sends : a.sender.isSome = true → a.source = some localFingerprint
  starts : a.startTask = true → a.source = some localFingerprint
  receives : a.receiver.isSome = true → a.source = some peerFingerprint

theorem Turned.sided
    (turned : Turned p localFingerprint peerFingerprint audioPort received a a' out)
    (sided : a.Sided localFingerprint peerFingerprint) :
    a'.Sided localFingerprint peerFingerprint := by
  cases turned with
  | same => exact sided
  | stopped source stored =>
    exact ⟨Bool.noConfusion, Bool.noConfusion, Bool.noConfusion⟩
  | reaped own fewerSenders fewerReceivers =>
    refine ⟨fun sending => sided.sends ?_, sided.starts, fun receiving => sided.receives ?_⟩
    · rcases fewerSenders with gone | same
      · rw [gone] at sending
        cases sending
      · rwa [← same]
    · rcases fewerReceivers with gone | same
      · rw [gone] at receiving
        cases receiving
      · rwa [← same]
  | ended own ends =>
    obtain ⟨-, index, task, -, rfl | ⟨result, -, rfl⟩⟩ := ended_eq_some ends
    · exact ⟨sided.sends, sided.starts, sided.receives⟩
    · exact ⟨sided.sends, sided.starts, sided.receives⟩
  | started own taken =>
    obtain ⟨-, ⟨started, results, held, -, ⟨-, rfl⟩ | ⟨-, sender, rfl, -⟩⟩, -⟩ :=
      takeResult_eq_some taken
    · exact ⟨sided.sends, sided.starts, sided.receives⟩
    · exact ⟨fun _ => sided.starts held, Bool.noConfusion, sided.receives⟩
  | answered jitterTargetMs control offer receives =>
    exact ⟨sided.sends, sided.starts, fun _ => receives⟩
  | spawned asked sends =>
    exact ⟨Bool.noConfusion, fun _ => sends, sided.receives⟩

/-! ## The start tasks -/

/-- Every start task has a number of its own, and none is the current one unless the end waits
    for it. -/
structure Numbered (a : AudioEnd) : Prop where
  tasks : ∀ task ∈ a.tasks, task.generation ≤ a.generation
  results : ∀ result ∈ a.results, result.generation ≤ a.generation
  distinct : (a.tasks.map (·.generation) ++ a.results.map (·.generation)).Nodup
  settled : a.startTask = false → (∀ task ∈ a.tasks, task.generation ≠ a.generation) ∧
    ∀ result ∈ a.results, result.generation ≠ a.generation

theorem numbered_of_idle (tasks : a.tasks = []) (results : a.results = []) : a.Numbered := by
  refine ⟨?_, ?_, ?_, fun _ => ⟨?_, ?_⟩⟩ <;> simp [tasks, results]

theorem nextGeneration_eq (below : a.generation + 1 < UInt64.size) :
    a.nextGeneration = a.generation + 1 := Nat.mod_eq_of_lt below

theorem tasks_dropStartTask :
    (a.dropStartTask.tasks.map (·.generation)) = a.tasks.map (·.generation) := by
  simp [dropStartTask]

theorem mem_dropStartTask {task : AudioStartTask} (member : task ∈ a.dropStartTask.tasks) :
    ∃ old ∈ a.tasks, task.generation = old.generation := by
  obtain ⟨old, known, rfl⟩ := List.mem_map.mp member
  exact ⟨old, known, rfl⟩

/-- The next number is new. -/
theorem Numbered.lt_next (numbered : a.Numbered) (below : a.generation + 1 < UInt64.size) :
    (∀ task ∈ a.dropStartTask.tasks, task.generation < a.nextGeneration) ∧
      ∀ result ∈ a.results, result.generation < a.nextGeneration := by
  rw [nextGeneration_eq below]
  refine ⟨fun task member => ?_, fun result member => ?_⟩
  · obtain ⟨old, known, same⟩ := mem_dropStartTask member
    have bound := numbered.tasks old known
    omega
  · have bound := numbered.results result member
    omega

theorem Turned.numbered
    (turned : Turned p localFingerprint peerFingerprint audioPort received a a' out)
    (below : a.generation + 1 < UInt64.size) (numbered : a.Numbered) : a'.Numbered := by
  obtain ⟨tasks, results⟩ := numbered.lt_next below
  have distinct := numbered.distinct
  cases turned with
  | same | reaped | answered =>
    exact ⟨numbered.tasks, numbered.results, numbered.distinct, numbered.settled⟩
  | stopped source stored =>
    refine ⟨fun task member => Nat.le_of_lt (tasks task member),
      fun result member => Nat.le_of_lt (results result member), ?_, fun _ =>
        ⟨fun task member => Nat.ne_of_lt (tasks task member),
          fun result member => Nat.ne_of_lt (results result member)⟩⟩
    rwa [← tasks_dropStartTask] at distinct
  | ended own ends =>
    obtain ⟨-, index, task, running, ended⟩ := ended_eq_some ends
    obtain ⟨inside, rfl⟩ := List.getElem?_eq_some_iff.mp running
    have fewer : ∀ other ∈ a.tasks.eraseIdx index, other ∈ a.tasks :=
      fun other member => List.mem_of_mem_eraseIdx member
    have here : a.tasks[index] ∈ a.tasks := List.getElem_mem inside
    rcases ended with rfl | ⟨result, -, rfl⟩
    · refine ⟨fun other member => numbered.tasks other (fewer other member), numbered.results,
        numbered.distinct.sublist ?_, fun idle => ⟨fun other member =>
          (numbered.settled idle).1 other (fewer other member), (numbered.settled idle).2⟩⟩
      exact ((List.eraseIdx_sublist _ _).map _).append_right _
    · refine ⟨fun other member => numbered.tasks other (fewer other member), ?_, ?_, ?_⟩
      · intro other member
        rcases List.mem_append.mp member with old | new
        · exact numbered.results other old
        · obtain rfl := List.mem_singleton.mp new
          exact numbered.tasks _ here
      · refine (List.Perm.nodup_iff ?_).mp numbered.distinct
        have moved := (List.getElem_cons_eraseIdx_perm inside).map (·.generation)
        refine (moved.symm.append_right _).trans ?_
        rw [List.map_append, List.map_cons, List.cons_append, ← List.append_assoc]
        exact (List.perm_append_singleton _ _).symm
      · intro idle
        obtain ⟨tasks, results⟩ := numbered.settled idle
        refine ⟨fun other member => tasks other (fewer other member), fun other member => ?_⟩
        rcases List.mem_append.mp member with old | new
        · exact results other old
        · obtain rfl := List.mem_singleton.mp new
          exact tasks _ here
  | started own taken =>
    obtain ⟨-, ⟨started, results, held, unread, stage⟩, -⟩ := takeResult_eq_some taken
    have fewer : ∀ other ∈ results, other ∈ a.results := by
      intro other member
      rw [unread]
      exact List.mem_cons_of_mem _ member
    rw [unread, List.map_cons] at distinct
    have rest := distinct.sublist ((List.sublist_cons_self _ _).append_left _)
    rcases stage with ⟨-, rfl⟩ | ⟨current, sender, rfl, -⟩
    · exact ⟨numbered.tasks, fun other member => numbered.results other (fewer other member), rest,
        fun idle => Bool.noConfusion (held.symm.trans idle)⟩
    · refine ⟨numbered.tasks, fun other member => numbered.results other (fewer other member), rest,
        fun _ => ⟨fun task member same => ?_, fun other member same => ?_⟩⟩
      · obtain ⟨-, -, apart⟩ := List.nodup_append.mp distinct
        refine apart _ (List.mem_map_of_mem member) _ List.mem_cons_self ?_
        rw [same, current]
      · obtain ⟨-, own, -⟩ := List.nodup_append.mp distinct
        refine (List.nodup_cons.mp own).1 (List.mem_map.mpr ⟨other, member, ?_⟩)
        rw [same, current]
  | spawned asked sends =>
    refine ⟨fun task member => ?_, fun result member => Nat.le_of_lt (results result member), ?_,
      Bool.noConfusion⟩
    · rcases List.mem_append.mp member with old | new
      · exact Nat.le_of_lt (tasks task old)
      · obtain rfl := List.mem_singleton.mp new
        exact Nat.le_refl _
    · show ((a.dropStartTask.tasks ++ [_]).map _ ++ _).Nodup
      rw [List.map_append, List.map_singleton, List.append_assoc, List.singleton_append,
        List.perm_middle.nodup_iff, tasks_dropStartTask]
      refine List.nodup_cons.mpr ⟨fun known => ?_, distinct⟩
      rcases List.mem_append.mp known with known | known
      · rw [← tasks_dropStartTask] at known
        obtain ⟨task, member, same⟩ := List.mem_map.mp known
        exact Nat.ne_of_lt (tasks task member) same
      · obtain ⟨result, member, same⟩ := List.mem_map.mp known
        exact Nat.ne_of_lt (results result member) same

/-! ## The secrets an end sends with -/

/-- An end sends with these secrets, or will once a start task has reported. -/
inductive Holds (a : AudioEnd) (secrets : SessionSecrets) : Prop
  | sender (holds : a.sender = some secrets)
  | task {task : AudioStartTask} (runs : task ∈ a.tasks)
      (current : task.generation = a.generation) (holds : task.secrets = secrets)
  | result {result : AudioStartResult} (unread : result ∈ a.results)
      (current : result.generation = a.generation) (holds : result.result = .ok secrets)

/-- An end that is not the source sends nothing. -/
theorem Holds.source {secrets : SessionSecrets} (holds : a.Holds secrets) (numbered : a.Numbered)
    (sided : a.Sided localFingerprint peerFingerprint) : a.source = some localFingerprint := by
  by_cases held : a.startTask = true
  · exact sided.starts held
  · obtain ⟨tasks, results⟩ := numbered.settled (Bool.eq_false_iff.mpr held)
    cases holds with
    | sender holds => exact sided.sends (by rw [holds]; rfl)
    | task runs current => exact absurd current (tasks _ runs)
    | result unread current => exact absurd current (results _ unread)

/-- A turn without a `Start` brings no new secrets. -/
theorem Turned.holds_old {secrets : SessionSecrets}
    (turned : Turned p localFingerprint peerFingerprint audioPort received a a' out)
    (numbered : a.Numbered) (below : a.generation + 1 < UInt64.size)
    (other : ∀ control, received = some control → control.startSecrets = none)
    (holds : a'.Holds secrets) : a.Holds secrets := by
  obtain ⟨tasks, results⟩ := numbered.lt_next below
  cases turned with
  | same => exact holds
  | answered =>
    cases holds with
    | sender holds => exact .sender holds
    | task runs current holds => exact .task runs current holds
    | result unread current holds => exact .result unread current holds
  | stopped source stored =>
    cases holds with
    | sender holds => cases holds
    | task runs current => exact absurd current (Nat.ne_of_lt (tasks _ runs))
    | result unread current => exact absurd current (Nat.ne_of_lt (results _ unread))
  | reaped own fewerSenders =>
    cases holds with
    | sender holds =>
      rcases fewerSenders with gone | same
      · cases gone.symm.trans holds
      · exact .sender (same.symm.trans holds)
    | task runs current holds => exact .task runs current holds
    | result unread current holds => exact .result unread current holds
  | ended own ends =>
    obtain ⟨-, index, task, running, ended⟩ := ended_eq_some ends
    have here : task ∈ a.tasks := List.mem_of_getElem? running
    rcases ended with rfl | ⟨result, same, rfl⟩
    · cases holds with
      | sender holds => exact .sender holds
      | task runs current holds => exact .task (List.mem_of_mem_eraseIdx runs) current holds
      | result unread current holds => exact .result unread current holds
    · cases holds with
      | sender holds => exact .sender holds
      | task runs current holds => exact .task (List.mem_of_mem_eraseIdx runs) current holds
      | result unread current holds =>
        rcases List.mem_append.mp unread with old | new
        · exact .result old current holds
        · obtain rfl := List.mem_singleton.mp new
          exact .task here current (same _ holds).symm
  | started own taken =>
    obtain ⟨-, ⟨started, rest, -, unread, stage⟩, -⟩ := takeResult_eq_some taken
    have fewer : ∀ result ∈ rest, result ∈ a.results := by
      intro result member
      rw [unread]
      exact List.mem_cons_of_mem _ member
    rcases stage with ⟨-, rfl⟩ | ⟨current, sender, rfl, same | ⟨reported, rfl, result⟩⟩
    · cases holds with
      | sender holds => exact .sender holds
      | task runs current holds => exact .task runs current holds
      | result unread current holds => exact .result (fewer _ unread) current holds
    · cases holds with
      | sender holds => exact .sender (same.symm.trans holds)
      | task runs current holds => exact .task runs current holds
      | result unread current holds => exact .result (fewer _ unread) current holds
    · cases holds with
      | sender holds =>
        cases holds
        exact .result (unread ▸ List.mem_cons_self) current result
      | task runs current holds => exact .task runs current holds
      | result unread current holds => exact .result (fewer _ unread) current holds
  | spawned asked =>
    have absent := other _ asked
    cases absent

/-- A `Start` of the receiving end, as it sends them. -/
def Proper (control : AudioControl) : Prop :=
  ∀ udpPort secrets codec frame jitterTargetMs,
    control = .start udpPort secrets codec frame jitterTargetMs →
      udpPort ≠ 0 ∧ codec = .pcmS16Stereo48Khz ∧ frame = frameMs

/-- After a `Start` an end sends with its secrets or not at all. -/
theorem Turned.holds_new {secrets asked : SessionSecrets} {control : AudioControl}
    (turned : Turned p localFingerprint peerFingerprint audioPort (some control) a a' out)
    (numbered : a.Numbered) (below : a.generation + 1 < UInt64.size)
    (sided : a.Sided localFingerprint peerFingerprint) (proper : Proper control)
    (start : control.startSecrets = some asked) (holds : a'.Holds secrets) : secrets = asked := by
  obtain ⟨tasks, results⟩ := numbered.lt_next below
  cases turned with
  | same refused =>
    cases control with
    | start udpPort asked codec frame jitterTargetMs =>
      obtain ⟨bound, rfl, rfl⟩ := proper _ _ _ _ _ rfl
      exact absurd (holds.source numbered sided) (refused _ _ _ rfl bound)
    | _ => cases start
  | stopped source stored =>
    cases holds with
    | sender holds => cases holds
    | task runs current => exact absurd current (Nat.ne_of_lt (tasks _ runs))
    | result unread current => exact absurd current (Nat.ne_of_lt (results _ unread))
  | reaped own | ended own | started own => cases own
  | answered _ _ offer =>
    have absent := offer _ rfl
    cases absent.symm.trans start
  | spawned spawns =>
    cases spawns
    cases start
    cases holds with
    | sender holds => cases holds
    | task runs current holds =>
      rcases List.mem_append.mp runs with old | new
      · exact absurd current (Nat.ne_of_lt (tasks _ old))
      · obtain rfl := List.mem_singleton.mp new
        exact holds.symm
    | result unread current => exact absurd current (Nat.ne_of_lt (results _ unread))

/-! ## Two ends -/

/-- Whoever receives holds the secrets of the last `Start` it has sent: of the last one on its
    way, or else the only ones the other end sends with. -/
def KeysAgree (receiving : AudioEnd) (onTheWay : List AudioControl) (sending : AudioEnd) : Prop :=
  ∀ secrets, receiving.receiver = some secrets →
    match (startSecrets onTheWay).getLast? with
    | some last => last = secrets
    | none => ∀ other, sending.Holds other → other = secrets

variable {sending sending' : AudioEnd} {way : List AudioControl}

/-- A turn of the receiving end. -/
theorem Turned.keys_receiving
    (turned : Turned p localFingerprint peerFingerprint audioPort received a a' out)
    (calm : p.receiverStart ≠ none → a.receiver = none) (agree : KeysAgree a way sending) :
    KeysAgree a' (way ++ out) sending := by
  intro secrets receiving
  have quietly (quiet : startSecrets out = []) : startSecrets (way ++ out) = startSecrets way := by
    rw [startSecrets_append, quiet, List.append_nil]
  cases turned with
  | same refused quiet => rw [quietly quiet]; exact agree secrets receiving
  | stopped => cases receiving
  | reaped own fewerSenders fewerReceivers quiet =>
    rcases fewerReceivers with gone | same
    · cases gone.symm.trans receiving
    · rw [quietly quiet]
      exact agree secrets (same.symm.trans receiving)
  | ended own ends =>
    obtain ⟨-, index, task, -, rfl | ⟨result, -, rfl⟩⟩ := ended_eq_some ends
    · rw [List.append_nil]
      exact agree secrets receiving
    · rw [List.append_nil]
      exact agree secrets receiving
  | started own taken quiet =>
    obtain ⟨-, ⟨started, results, -, -, ⟨-, rfl⟩ | ⟨-, sender, rfl, -⟩⟩, -⟩ :=
      takeResult_eq_some taken
    · rw [quietly quiet]
      exact agree secrets receiving
    · rw [quietly quiet]
      exact agree secrets receiving
  | answered jitterTargetMs control offer receives quiet =>
    have last : (startSecrets (way ++ [.start audioPort p.secrets .pcmS16Stereo48Khz frameMs
        jitterTargetMs, control])).getLast? = some p.secrets := by
      rw [startSecrets_append, startSecrets_cons, startSecrets_cons, quiet]
      exact List.getLast?_concat
    rw [last]
    cases starts : p.receiverStart with
    | none =>
      rw [starts] at receiving
      exact Option.some.inj receiving
    | some failure =>
      rw [starts] at receiving
      have gone := calm (by rw [starts]; exact Option.some_ne_none failure)
      cases gone.symm.trans receiving
  | spawned asked sends quiet => rw [quietly quiet]; exact agree secrets receiving

/-- A turn of the sending end, on the oldest message on its way or on none. -/
theorem Turned.keys_sending
    (turned : Turned p localFingerprint peerFingerprint audioPort received sending sending' out)
    (numbered : sending.Numbered) (below : sending.generation + 1 < UInt64.size)
    (sided : sending.Sided localFingerprint peerFingerprint)
    (proper : ∀ control ∈ received.toList, Proper control)
    (agree : KeysAgree a (received.toList ++ way) sending) : KeysAgree a way sending' := by
  intro secrets receiving
  have agreed := agree secrets receiving
  rw [startSecrets_append] at agreed
  cases asked : received.bind AudioControl.startSecrets with
  | none =>
    have other : ∀ control, received = some control → control.startSecrets = none := by
      rintro control rfl
      exact asked
    have quiet : startSecrets received.toList = [] := by
      cases received with
      | none => rfl
      | some control => simp [other control rfl]
    rw [quiet, List.nil_append] at agreed
    split at agreed
    · exact agreed
    · intro key holds
      exact agreed key (turned.holds_old numbered below other holds)
  | some key =>
    obtain ⟨control, rfl, start⟩ := Option.bind_eq_some_iff.mp asked
    cases rest : (startSecrets way).getLast? with
    | none =>
      have done := List.getLast?_eq_none_iff.mp rest
      simp only [Option.toList_some, startSecrets_cons, start, startSecrets_nil, done,
        List.append_nil, List.getLast?_singleton] at agreed
      intro other holds
      have new := turned.holds_new numbered below sided (proper control (by simp)) start holds
      exact new.trans agreed
    | some last =>
      rw [List.getLast?_append, rest] at agreed
      exact agreed

/-- Every `Start` a turn sends is proper. -/
theorem Turned.proper
    (turned : Turned p localFingerprint peerFingerprint audioPort received a a' out)
    (bound : audioPort ≠ 0) : ∀ control ∈ out, Proper control := by
  have quietly {controls : List AudioControl} (quiet : startSecrets controls = []) :
      ∀ control ∈ controls, Proper control := by
    rintro control member udpPort secrets codec frame jitterTargetMs rfl
    have absent := List.filterMap_eq_nil_iff.mp quiet _ member
    cases absent
  cases turned with
  | same refused quiet => exact quietly quiet
  | stopped source stored quiet => exact quietly quiet
  | reaped own fewerSenders fewerReceivers quiet => exact quietly quiet
  | ended => exact quietly rfl
  | started own taken quiet => exact quietly quiet
  | answered jitterTargetMs control offer receives quiet =>
    intro told member
    rcases List.mem_cons.mp member with rfl | member
    · rintro _ _ _ _ _ ⟨⟩
      exact ⟨bound, rfl, rfl⟩
    · exact quietly (by simp [quiet]) told member
  | spawned asked sends quiet => exact quietly quiet

end AudioEnd

end EdgeKvm.Session
