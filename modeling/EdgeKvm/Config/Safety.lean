import EdgeKvm.Config.Migration

/-!
# What a migration keeps

A migrated file stands for the same settings and is not migrated again. The text it replaces is in
the file or in its copy at every moment, unless there was a copy of another text before.
-/

namespace EdgeKvm.Config

open EdgeKvm.Lib Toml Handler ConfigDisk

variable {format : ConfigFormat} {answers : FileAnswers} {config : AppConfig} {file : ConfigFile}
  {text saved : String} {bytes : ByteArray} {disk : ConfigDisk} {P : ConfigDisk → Prop}

/-! ## Settings -/

/-- The transport of a role in the first layout. -/
def Role.transport : Role → TransportMode
  | .controller => .connect
  | .receiver => .listen

/-- What the file says, by a current key or else by a key of the first layout, is what the
    configuration has. -/
structure ConfigFile.Expresses (file : ConfigFile) (config : AppConfig) : Prop where
  deviceName : config.deviceName = file.deviceName
  startWithWindows : config.startWithWindows = file.startWithWindows
  preferredRole : ∀ role, (file.preferredRole <|> file.role) = some role →
    config.preferredRole = role
  transport : ∀ mode, (file.transport <|> file.role.map Role.transport) = some mode →
    config.transport = mode
  listen : config.listen = file.listen
  peerName : ∀ name, file.peer.name = some name → config.peer.name = name
  peerHost : ∀ host, (file.peer.host <|> file.peer.laptop.map (·.host)) = some host →
    config.peer.host = host
  peerPort : ∀ port, (file.peer.port <|> file.peer.laptop.map (·.port)) = some port →
    config.peer.port = port
  peerFingerprint : ∀ fingerprint, (file.peer.pinnedFingerprint <|>
    file.peer.laptop.map (·.pinnedFingerprint)) = some fingerprint →
      config.peer.pinnedFingerprint = fingerprint
  position : ∀ position, (file.layout.map (·.listenerPosition) <|>
    file.peer.laptop.map (·.position)) = some position →
      config.layout.listenerPosition = position
  captureBackend : ∀ backend, (file.input.capture.bind (·.backend) <|> file.input.backend) =
    some backend → config.input.capture.backend = backend
  captureOutput : ∀ output, file.input.capture.bind (·.output) = some output →
    config.input.capture.output = output
  releaseHotkey : ∀ hotkey, (file.input.capture.bind (·.releaseHotkey) <|> file.releaseHotkey) =
    some hotkey → config.input.capture.releaseHotkey = hotkey
  gameCompatibility : ∀ mode, (file.input.capture.bind (·.gameCompatibility) <|>
    file.input.gameCompatibility) = some mode → config.input.capture.gameCompatibility = mode
  injectBackend : ∀ backend, (file.input.inject.bind (·.backend) <|> file.input.backend) =
    some backend → config.input.inject.backend = backend
  injectOutput : ∀ output, (file.input.inject.bind (·.output) <|> file.monitor) = some output →
    config.input.inject.output = output
  clipboard : config.clipboard = file.clipboard
  audio : ∀ audio, file.audio = some audio → config.audio = audio
  phone : config.phone = file.phone
  notifications : config.notifications = file.notifications

section Merging

variable {α σ : Type} {first second : Option α} {value missing : α}

theorem getD_of_said (said : first = some value) : first.getD missing = value := by
  rw [said, Option.getD_some]

/-- One value that two keys can give, the second through a default. -/
theorem getD_getD_of_said (said : (first <|> second) = some value) :
    first.getD (second.getD missing) = value := by
  cases first with
  | none =>
    have later : second = some value := said
    rw [Option.getD_none]
    exact getD_of_said later
  | some first => exact Option.some.inj said

/-- A missing section says nothing. -/
theorem field_getD {part : Option σ} (empty : σ) (field : σ → Option α)
    (nothing : field empty = none) : field (part.getD empty) = part.bind field := by
  cases part with
  | none => exact nothing
  | some part => rfl

end Merging

theorem ConfigFile.expresses (file : ConfigFile) : file.Expresses file.intoAppConfig where
  deviceName := rfl
  startWithWindows := rfl
  preferredRole role said := by
    apply getD_of_said
    cases current : file.preferredRole with
    | some current =>
      rw [current] at said
      exact said
    | none =>
      rw [current] at said
      cases legacy : file.role with
      | some legacy =>
        rw [legacy] at said
        exact said
      | none =>
        rw [legacy] at said
        cases said
  transport mode said := by
    cases current : file.transport with
    | some current =>
      rw [current] at said
      simp only [intoAppConfig, current, Option.getD_some]
      exact Option.some.inj said
    | none =>
      rw [current] at said
      obtain ⟨role, legacy, rfl⟩ := Option.map_eq_some_iff.mp said
      simp only [intoAppConfig, current, legacy, Option.getD_none]
      cases role <;> rfl
  listen := rfl
  peerName _ said := getD_of_said said
  peerHost _ said := getD_of_said said
  peerPort _ said := getD_of_said said
  peerFingerprint _ said := getD_of_said said
  position _ said := getD_of_said said
  captureBackend _ said := by
    rw [← field_getD {} ConfigInputCapture.backend rfl] at said
    exact getD_getD_of_said said
  captureOutput _ said := by
    rw [← field_getD {} ConfigInputCapture.output rfl] at said
    exact getD_of_said said
  releaseHotkey _ said := by
    rw [← field_getD {} ConfigInputCapture.releaseHotkey rfl] at said
    exact getD_of_said said
  gameCompatibility _ said := by
    rw [← field_getD {} ConfigInputCapture.gameCompatibility rfl] at said
    exact getD_of_said said
  injectBackend _ said := by
    rw [← field_getD {} ConfigInputInject.backend rfl] at said
    exact getD_getD_of_said said
  injectOutput _ said := by
    rw [← field_getD {} ConfigInputInject.output rfl] at said
    exact getD_of_said said
  clipboard := rfl
  audio _ said := getD_of_said said
  phone := rfl
  notifications := rfl

/-! ## The text that is saved -/

/-- What is saved is loaded. -/
theorem load_print (printed : format.print config = some saved) :
    format.load saved = some config := by
  unfold ConfigFormat.load
  rw [format.read_print printed, Option.bind_some]
  exact config.read_write

/-- The saved text has the current keys, and none of the first layout. -/
theorem needs_print (printed : format.print config = some saved) :
    configNeedsV2Migration format saved = false := by
  unfold configNeedsV2Migration
  cases document : format.value saved with
  | none => rfl
  | some root =>
    have same : root = config.write :=
      Option.some.inj ((format.read_value document).symm.trans (format.read_print printed))
    subst same
    simp [AppConfig.write, hasNested, PeerConfig.write, PeerConfig.fields, InputConfig.write,
      Value.asTable]

/-! ## The states of the disk -/

/-- `P` survives, in every state on the way. -/
def Holding (P : ConfigDisk → Prop) (before after : ConfigDisk) (between : List ConfigDisk) :
    Prop := P before → P after ∧ ∀ disk ∈ between, P disk

theorem Holding.trans {s t u : ConfigDisk} {o o' : List ConfigDisk} (first : Holding P s t o)
    (rest : Holding P t u o') : Holding P s u (o ++ o') := by
  intro holds
  obtain ⟨middle, early⟩ := first holds
  obtain ⟨last, late⟩ := rest middle
  refine ⟨last, fun disk member => ?_⟩
  rcases List.mem_append.mp member with before | after
  · exact early disk before
  · exact late disk after

theorem Holding.pure {α : Type} {a : α} : (pure a : MigrationM α).Within (Holding P) disk :=
  fun holds => ⟨holds, fun _ member => by cases member⟩

theorem Holding.leave {α : Type} {error : CommonError} :
    (leave error : MigrationM α).Within (Holding P) disk :=
  fun holds => ⟨holds, fun _ member => by cases member⟩

theorem change_spec {f : ConfigDisk → ConfigDisk} :
    (change f).wp (fun r t o => r = .ok () ∧ t = f disk ∧ o = [f disk]) disk := ⟨rfl, rfl, rfl⟩

theorem Holding.change {f : ConfigDisk → ConfigDisk} (keeps : ∀ disk, P disk → P (f disk)) :
    (change f).Within (Holding P) disk := by
  intro holds
  refine ⟨keeps disk holds, fun state member => ?_⟩
  rw [List.mem_singleton.mp member]
  exact keeps disk holds

theorem Holding.writeParts {put : ByteArray → ConfigDisk → ConfigDisk}
    (keeps : ∀ bytes disk, P disk → P (put bytes disk)) (lengths : List Nat) :
    ∀ {disk}, (writeParts put bytes lengths).Within (Holding P) disk := by
  induction lengths with
  | nil => exact Holding.pure
  | cons n rest ih =>
    exact Within.bind Holding.trans (Holding.change (keeps _)) fun _ _ => ih

theorem Holding.abandon {error : CommonError} (keeps : ∀ disk, P disk → P (removeTemporary disk)) :
    (abandon answers error).Within (Holding P) disk := by
  unfold EdgeKvm.Config.abandon
  by_cases removed : answers.removed = true
  · rw [if_pos removed]
    exact Within.bind Holding.trans (Holding.change keeps) fun _ _ => Holding.leave
  · rw [if_neg removed]
    exact Holding.leave

/-- What no write to the configuration file harms survives `save`. -/
theorem Holding.save (keeps : ∀ bytes disk, P disk → P (withConfig bytes disk)) :
    (save format answers config).Within (Holding P) disk := by
  unfold EdgeKvm.Config.save
  by_cases parent : answers.parent = false
  · rw [if_pos parent]
    exact Holding.leave
  · rw [if_neg parent]
    cases format.print config with
    | none => exact Holding.leave
    | some text =>
      dsimp only
      by_cases opened : answers.opened = false
      · rw [if_pos opened]
        exact Holding.leave
      · rw [if_neg opened]
        refine Within.bind Holding.trans (Holding.change (keeps _)) fun _ _ => ?_
        refine Within.bind Holding.trans (Holding.writeParts keeps _) fun _ _ => ?_
        by_cases done : answers.writeDone = false
        · rw [if_pos done]
          exact Holding.leave
        · rw [if_neg done]
          exact Holding.change (keeps _)

/-- The copy that is there already is left alone. -/
theorem createV1Backup_there (there : disk.backup.isSome = true) :
    (createV1Backup answers bytes).wp (fun r t o =>
      (answers.probed = true → r = .ok ()) ∧ t = disk ∧ o = []) disk := by
  unfold createV1Backup
  by_cases probed : answers.probed = false
  · rw [if_pos probed]
    exact ⟨fun other => absurd (probed.symm.trans other) (by decide), rfl, rfl⟩
  · rw [if_neg probed, wp_read_bind, if_pos there]
    exact ⟨fun _ => rfl, rfl, rfl⟩

/-- What the temporary file and its rename do not harm survives the copy. -/
theorem Holding.createV1Backup (written : ∀ bytes disk, P disk → P (withTemporary bytes disk))
    (removed : ∀ disk, P disk → P (removeTemporary disk))
    (renamed : ∀ disk, P disk → P (renameTemporary disk)) :
    (createV1Backup answers bytes).Within (Holding P) disk := by
  unfold EdgeKvm.Config.createV1Backup
  by_cases probed : answers.probed = false
  · rw [if_pos probed]
    exact Holding.leave
  rw [if_neg probed, Within, wp_read_bind]
  by_cases there : disk.backup.isSome = true
  · rw [if_pos there]
    exact Holding.pure
  rw [if_neg there]
  by_cases created : answers.created = false
  · rw [if_pos created]
    exact Holding.leave
  rw [if_neg created]
  refine Within.bind Holding.trans (Holding.change (written _)) fun _ _ => ?_
  refine Within.bind Holding.trans (Holding.writeParts written _) fun _ _ => ?_
  by_cases copied : answers.copyDone = false
  · rw [if_pos copied]
    exact Holding.abandon removed
  rw [if_neg copied]
  refine Within.bind Holding.trans (Holding.change (written _)) fun _ state => ?_
  by_cases synced : answers.synced = false
  · rw [if_pos synced]
    exact Holding.abandon removed
  rw [if_neg synced]
  by_cases installed : answers.renamed = true
  · rw [if_pos installed]
    exact Holding.change renamed
  rw [if_neg installed, Within, wp_read_bind]
  by_cases other : (answers.probedAgain && state.backup.isSome) = true
  · rw [if_pos other]
    by_cases gone : answers.removed = true
    · rw [if_pos gone]
      exact Holding.change removed
    · rw [if_neg gone]
      exact Holding.pure
  · rw [if_neg other]
    exact Holding.abandon removed

/-- Without the temporary file the copy fails. -/
theorem abandon_fails {error : CommonError} :
    (abandon answers error).wp (fun r _ _ => r ≠ .ok ()) disk := by
  unfold abandon
  by_cases removed : answers.removed = true
  · rw [if_pos removed]
    exact fun impossible => by cases impossible
  · rw [if_neg removed]
    exact fun impossible => by cases impossible

/-- A copy that succeeds has the whole text. -/
theorem createV1Backup_made (absent : disk.backup = none) :
    (createV1Backup answers bytes).wp (fun r t _ => r = .ok () → t.backup = some bytes) disk := by
  have failed {m : MigrationM Unit} {state : ConfigDisk}
      (fails : m.wp (fun r _ _ => r ≠ .ok ()) state) :
      m.wp (fun r t _ => r = .ok () → t.backup = some bytes) state :=
    wp_mono (fun _ _ _ error ok => absurd ok error) fails
  have still (disk : ConfigDisk) (bytes : ByteArray) (absent : disk.backup = none) :
      (withTemporary bytes disk).backup = none := absent
  unfold createV1Backup
  by_cases probed : answers.probed = false
  · rw [if_pos probed]
    exact failed fun impossible => by cases impossible
  rw [if_neg probed, wp_read_bind, absent, if_neg (by simp)]
  by_cases created : answers.created = false
  · rw [if_pos created]
    exact failed fun impossible => by cases impossible
  rw [if_neg created]
  refine wp_seq (Holding.change (P := fun disk => disk.backup = none)
    fun disk absent => still disk _ absent) (fun _ _ _ _ impossible => by cases impossible) ?_
  intro _ first _ opened
  refine wp_seq (Holding.writeParts (P := fun disk => disk.backup = none)
    (fun bytes disk absent => still disk bytes absent) _)
    (fun _ _ _ _ impossible => by cases impossible) ?_
  intro _ second _ copied
  have bare : second.backup = none := (copied (opened absent).1).1
  by_cases done : answers.copyDone = false
  · rw [if_pos done]
    exact failed abandon_fails
  rw [if_neg done]
  refine wp_seq change_spec (fun _ _ _ _ impossible => by cases impossible) ?_
  rintro _ third _ ⟨-, rfl, -⟩
  by_cases synced : answers.synced = false
  · rw [if_pos synced]
    exact failed abandon_fails
  rw [if_neg synced]
  by_cases renamed : answers.renamed = true
  · rw [if_pos renamed]
    exact fun _ => rfl
  rw [if_neg renamed, wp_read_bind]
  have other : ¬ (answers.probedAgain && (withTemporary bytes second).backup.isSome) = true := by
    rw [still second bytes bare]
    simp
  rw [if_neg other]
  exact failed abandon_fails

/-! ## Loading -/

@[simp] theorem fromUTF8_toByteArray : String.fromUTF8? text.toByteArray = some text := by
  unfold String.fromUTF8?
  rw [dif_pos text.isValidUTF8]
  rfl

/-- A file that cannot be read stops the load. -/
theorem loadMigrating_unreadable (unreadable : answers.readable = false) :
    (loadMigrating format answers).wp (fun r t o => (∃ e, r = .error e) ∧ t = disk ∧ o = [])
      disk := by
  unfold loadMigrating
  rw [wp_read_bind, unreadable]
  exact ⟨⟨_, rfl⟩, rfl, rfl⟩

/-- A file that needs no migration is loaded and left alone. -/
theorem loadMigrating_current (stored : disk.config = some text.toByteArray)
    (readable : answers.readable = true) (loaded : format.load text = some config)
    (current : configNeedsV2Migration format text = false) :
    (loadMigrating format answers).wp (fun r t o => r = .ok config ∧ t = disk ∧ o = []) disk := by
  unfold loadMigrating
  rw [wp_read_bind, if_pos readable, stored, Option.bind_some, fromUTF8_toByteArray]
  dsimp only
  rw [loaded]
  dsimp only
  rw [current]
  exact ⟨rfl, rfl, rfl⟩

/-- A file that needs the migration is copied, and then written. -/
theorem loadMigrating_legacy
    {Q : Except CommonError AppConfig → ConfigDisk → List ConfigDisk → Prop}
    (stored : disk.config = some text.toByteArray) (readable : answers.readable = true)
    (loaded : format.load text = some config)
    (needs : configNeedsV2Migration format text = true)
    (migrated : (do
      createV1Backup answers text.toByteArray
      save format answers config
      pure config : MigrationM AppConfig).wp Q disk) :
    (loadMigrating format answers).wp Q disk := by
  unfold loadMigrating
  rw [wp_read_bind, if_pos readable, stored, Option.bind_some, fromUTF8_toByteArray]
  dsimp only
  rw [loaded]
  dsimp only
  rw [needs]
  exact migrated

/-! ## The file after a load -/

theorem wp_any {α : Type} {m : MigrationM α} : m.wp (fun _ _ _ => True) disk := trivial

/-- A save that succeeds leaves the saved text in the file. -/
theorem save_done : (save format answers config).wp (fun r t _ => r = .ok () →
    ∃ saved, format.print config = some saved ∧ t.config = some saved.toByteArray) disk := by
  unfold save
  by_cases parent : answers.parent = false
  · rw [if_pos parent]
    exact fun impossible => by cases impossible
  rw [if_neg parent]
  cases printed : format.print config with
  | none => exact fun impossible => by cases impossible
  | some saved =>
    dsimp only
    by_cases opened : answers.opened = false
    · rw [if_pos opened]
      exact fun impossible => by cases impossible
    rw [if_neg opened]
    refine wp_seq change_spec (fun _ _ _ _ impossible => by cases impossible) ?_
    rintro _ first _ ⟨-, rfl, -⟩
    refine wp_seq wp_any
      (fun _ _ _ _ impossible => by cases impossible) ?_
    intro _ second _ _
    by_cases done : answers.writeDone = false
    · rw [if_pos done]
      exact fun impossible => by cases impossible
    rw [if_neg done]
    exact fun _ => ⟨saved, rfl, rfl⟩

/-- A load that succeeds gives the settings of the text, and leaves a file that is loaded as it
    is. -/
theorem loadMigrating_done (stored : disk.config = some text.toByteArray)
    (loaded : format.load text = some config) :
    (loadMigrating format answers).wp (fun r t _ => ∀ result, r = .ok result → result = config ∧
      ∃ left, t.config = some left.toByteArray ∧ format.load left = some config ∧
        configNeedsV2Migration format left = false) disk := by
  by_cases readable : answers.readable = true
  · cases needs : configNeedsV2Migration format text with
    | false =>
      refine wp_mono (fun r t o => ?_) (loadMigrating_current stored readable loaded needs)
      rintro ⟨rfl, rfl, -⟩ result same
      exact ⟨(Except.ok.inj same).symm, text, stored, loaded, needs⟩
    | true =>
      refine loadMigrating_legacy stored readable loaded needs ?_
      refine wp_seq wp_any
        (fun _ _ _ _ _ impossible => by cases impossible) ?_
      intro _ copied _ _
      refine wp_seq save_done (fun _ _ _ _ _ impossible => by cases impossible) ?_
      rintro _ final _ done result same
      obtain ⟨saved, printed, held⟩ := done rfl
      exact ⟨(Except.ok.inj same).symm, saved, held, load_print printed, needs_print printed⟩
  · refine wp_mono (fun r t o => ?_) (loadMigrating_unreadable (Bool.not_eq_true _ ▸ readable))
    rintro ⟨⟨e, rfl⟩, -, -⟩ result impossible
    cases impossible

/-! ## The text that is replaced -/

theorem save_unprintable (unprintable : format.print config = none) :
    (save format answers config).wp (fun _ t o => t = disk ∧ o = []) disk := by
  unfold save
  rw [unprintable]
  by_cases parent : answers.parent = false
  · rw [if_pos parent]
    exact ⟨rfl, rfl⟩
  · rw [if_neg parent]
    exact ⟨rfl, rfl⟩

/-- Once the copy has the text, the rest of the migration may go as it likes. -/
theorem save_keeps (copied : disk.backup = some text.toByteArray) :
    (save format answers config).wp (fun _ t o =>
      t.Keeps text ∧ ∀ state ∈ o, state.Keeps text) disk := by
  have held : (save format answers config).Within
      (Holding fun state => state.backup = some text.toByteArray) disk :=
    Holding.save fun _ _ copied => copied
  obtain ⟨last, between⟩ := held copied
  exact ⟨.inr last, fun state member => .inr (between state member)⟩

/-- The result of the load does not touch the disk. -/
theorem wp_then_pure {m : MigrationM Unit} {Q : ConfigDisk → List ConfigDisk → Prop}
    (holds : m.wp (fun _ t o => Q t o) disk) :
    (do m; pure config : MigrationM AppConfig).wp (fun _ t o => Q t o) disk := by
  refine wp_seq holds (fun _ _ _ ended => ended) fun _ t o ended => ?_
  rw [wp_pure, List.append_nil]
  exact ended

/-- The text is not lost when there is no copy of another text, or nothing to write. -/
theorem loadMigrating_keeps (stored : disk.config = some text.toByteArray)
    (loaded : format.load text = some config)
    (fits : configNeedsV2Migration format text = true → (format.print config).isSome = true →
      ∀ old, disk.backup = some old → old = text.toByteArray) :
    (loadMigrating format answers).wp (fun _ t o =>
      t.Keeps text ∧ ∀ state ∈ o, state.Keeps text) disk := by
  have unchanged (t : ConfigDisk) (o : List ConfigDisk) (same : t = disk) (none : o = []) :
      t.Keeps text ∧ ∀ state ∈ o, state.Keeps text := by
    subst same none
    exact ⟨.inl stored, fun _ member => by cases member⟩
  by_cases readable : answers.readable = true
  · cases needs : configNeedsV2Migration format text with
    | false =>
      refine wp_mono (fun r t o => ?_) (loadMigrating_current stored readable loaded needs)
      rintro ⟨-, same, none⟩
      exact unchanged t o same none
    | true =>
      refine loadMigrating_legacy stored readable loaded needs ?_
      cases backup : disk.backup with
      | some old =>
        refine wp_seq (createV1Backup_there (by rw [backup]; rfl)) ?_ ?_
        · rintro e t o ⟨-, same, none⟩
          exact unchanged t o same none
        rintro _ t o ⟨-, rfl, rfl⟩
        refine wp_then_pure ?_
        cases printed : format.print config with
        | none =>
          refine wp_mono (fun r t o => ?_) (save_unprintable printed)
          rintro ⟨same, none⟩
          exact unchanged t o same none
        | some saved =>
          have same := fits needs (by rw [printed]; rfl) old backup
          exact save_keeps (same ▸ backup)
      | none =>
        have held : (createV1Backup answers text.toByteArray).Within
            (Holding fun state => state.config = some text.toByteArray) disk :=
          Holding.createV1Backup (fun _ _ same => same) (fun _ same => same) fun _ same => same
        refine wp_seq (wp_and held (createV1Backup_made backup)) ?_ ?_
        · rintro e t o ⟨held, -⟩
          obtain ⟨last, between⟩ := held stored
          exact ⟨.inl last, fun state member => .inl (between state member)⟩
        · rintro _ t o ⟨held, made⟩
          obtain ⟨-, between⟩ := held stored
          refine wp_then_pure (wp_mono (fun r u o' => ?_) (save_keeps (made rfl)))
          rintro ⟨last, later⟩
          refine ⟨last, fun state member => ?_⟩
          rcases List.mem_append.mp member with before | after
          · exact .inl (between state before)
          · exact later state after
  · refine wp_mono (fun r t o => ?_) (loadMigrating_unreadable (Bool.not_eq_true _ ▸ readable))
    rintro ⟨-, same, none⟩
    exact unchanged t o same none

/-- A load in which every call succeeds. -/
theorem save_default (printed : format.print config = some saved) :
    (save format {} config).wp (fun r t o => r = .ok () ∧ t ∈ o ∧
      t.config = some saved.toByteArray ∧ t.backup = disk.backup) disk := by
  unfold save
  rw [printed]
  refine ⟨rfl, ?_, rfl, rfl⟩
  exact List.mem_append_right _ (List.mem_append_right _ (List.mem_singleton.mpr rfl))

/-- With a copy of another text the migration loses the one it replaces, even if nothing fails. -/
theorem loadMigrating_loses {old : ByteArray} (stored : disk.config = some text.toByteArray)
    (loaded : format.load text = some config)
    (needs : configNeedsV2Migration format text = true)
    (printed : format.print config = some saved) (there : disk.backup = some old)
    (other : old ≠ text.toByteArray) :
    (loadMigrating format {}).wp (fun _ t o => t ∈ o ∧ ¬ t.Keeps text) disk := by
  refine loadMigrating_legacy stored rfl loaded needs ?_
  refine wp_seq (createV1Backup_there (by rw [there]; rfl)) ?_ ?_
  · rintro e t o ⟨done, -⟩
    cases done rfl
  rintro _ t o ⟨-, rfl, rfl⟩
  refine wp_then_pure (wp_mono (fun r u o => ?_) (save_default printed))
  rintro ⟨-, member, config, backup⟩
  refine ⟨member, ?_⟩
  rintro (kept | kept)
  · -- The saved text needs no migration, so it is another one.
    have same : saved = text := String.toByteArray_inj.mp (Option.some.inj (config.symm.trans kept))
    rw [← same, needs_print printed] at needs
    cases needs
  · rw [backup, there] at kept
    exact other (Option.some.inj kept)

/-- For every text that parses, the migrated file stands for the same settings, all that the text
    said included, needs no migration, and is loaded as it is. The text that is replaced is in the
    file or in its copy at every moment exactly if there was no copy of another text before the
    migration. -/
theorem migration_keeps (stored : disk.config = some text.toByteArray)
    (parsed : (format.read text).bind ConfigFile.read = some file) :
    ((∀ saved, format.print file.intoAppConfig = some saved →
        configNeedsV2Migration format saved = false ∧
          format.load saved = some file.intoAppConfig) ∧
      file.Expresses file.intoAppConfig) ∧
      (∀ answers config, (loadMigrating format answers disk).result = .ok config →
        config = file.intoAppConfig ∧ ∀ again : FileAnswers, again.readable = true →
          let left := (loadMigrating format answers disk).state
          (loadMigrating format again left).result = .ok config ∧
            (loadMigrating format again left).state = left ∧
              (loadMigrating format again left).output = []) ∧
        ((∀ answers, ∀ state ∈ disk :: (loadMigrating format answers disk).output,
            state.Keeps text) ↔
          (configNeedsV2Migration format text = true →
            (format.print file.intoAppConfig).isSome = true →
              ∀ old, disk.backup = some old → old = text.toByteArray)) := by
  have loaded : format.load text = some file.intoAppConfig := by
    unfold ConfigFormat.load
    rw [parsed, Option.map_some]
  refine ⟨⟨?_, file.expresses⟩, ?_, ?_⟩
  · exact fun saved printed => ⟨needs_print printed, load_print printed⟩
  · intro answers config result
    obtain ⟨same, left, held, reloaded, current⟩ :=
      loadMigrating_done stored loaded config result
    refine ⟨same, fun again readable => ?_⟩
    rw [same]
    exact loadMigrating_current held readable reloaded current
  · constructor
    · intro kept needs printed old there
      obtain ⟨saved, printed⟩ := Option.isSome_iff_exists.mp printed
      apply Classical.byContradiction
      intro other
      obtain ⟨member, lost⟩ := loadMigrating_loses stored loaded needs printed there other
      exact lost (kept {} _ (List.mem_cons_of_mem _ member))
    · intro fits answers state member
      rcases List.mem_cons.mp member with rfl | later
      · exact .inl stored
      · exact (loadMigrating_keeps stored loaded fits).2 state later

/-! ## A file of the first layout -/

def legacyText : String :=
  "device_name = \"Main PC\"\nrole = \"controller\"\n\n[peer.laptop]\n" ++
    "host = \"192.168.0.11\"\nport = 42420\nposition = \"right\"\n"

def legacyFields : Fields := record [
  ("device_name", some (.string "Main PC")),
  ("peer", some (.table (record [("laptop", some (.table (record [
    ("host", some (.string "192.168.0.11")),
    ("port", some (.integer 42420)),
    ("position", some (.string "right"))])))]))),
  ("role", some (.string "controller"))]

def legacyFile : ConfigFile where
  deviceName := "Main PC"
  role := some .controller
  peer := { laptop := some ⟨"192.168.0.11", 42420, .right, ""⟩ }

def migratedText : String :=
  "device_name = \"Main PC\"\nstart_with_windows = false\npreferred_role = \"controller\"\n" ++
    "transport = \"connect\"\n\n[peer]\nname = \"Peer\"\nhost = \"192.168.0.11\"\n" ++
    "port = 42420\npinned_fingerprint = \"\"\n\n[layout]\nlistener_position = \"right\"\n\n" ++
    "[input.capture]\nbackend = \"auto\"\noutput = \"\"\nrelease_hotkey = \"Ctrl+Alt+Pause\"\n" ++
    "game_compatibility = \"always-enabled\"\n\n[input.inject]\nbackend = \"auto\"\n" ++
    "output = \"\"\n\n[clipboard]\nenabled = true\nimages_enabled = true\n" ++
    "max_bytes = 1048576\nmax_image_bytes = 4194304\n\n[audio]\nenabled = true\n" ++
    "local_playback = \"redirect\"\njitter_target_ms = 60\n"

/-- A reader and writer that know these two texts. -/
def twoTexts : ConfigFormat where
  read text := if text = legacyText then some legacyFields
    else if text = migratedText then some legacyFile.intoAppConfig.write else none
  value text := if text = legacyText then some legacyFields
    else if text = migratedText then some legacyFile.intoAppConfig.write else none
  print config := if config = legacyFile.intoAppConfig then some migratedText else none
  read_print := by
    intro config text printed
    split at printed
    · rename_i same
      cases printed
      rw [if_neg (by decide +kernel), if_pos rfl, same]
    · cases printed
  read_value := fun document => document

/-- The file without a copy beside it. -/
theorem migration_keeps_legacyText :
    (∀ state ∈ ⟨some legacyText.toByteArray, none, none⟩ ::
      (loadMigrating twoTexts { written := [20] } ⟨some legacyText.toByteArray, none, none⟩).output,
        state.Keeps legacyText) ∧
      twoTexts.load migratedText = some legacyFile.intoAppConfig := by
  have parsed : (twoTexts.read legacyText).bind ConfigFile.read = some legacyFile := by
    decide +kernel
  have stored : (⟨some legacyText.toByteArray, none, none⟩ : ConfigDisk).config =
      some legacyText.toByteArray := rfl
  obtain ⟨⟨saved, -⟩, -, kept⟩ := migration_keeps stored parsed
  have printed : twoTexts.print legacyFile.intoAppConfig = some migratedText := by
    show (if legacyFile.intoAppConfig = legacyFile.intoAppConfig then some migratedText else none) =
      some migratedText
    rw [if_pos rfl]
  exact ⟨kept.mpr (fun _ _ _ impossible => by cases impossible) _,
    (saved migratedText printed).2⟩

set_option maxRecDepth 4000 in
/-- A copy of another text is there, and the process ends after it truncated the file. -/
theorem truncated_text_lost :
    let disk : ConfigDisk := ⟨some legacyText.toByteArray, some "role = 1".toByteArray, none⟩
    (loadMigrating twoTexts { writeDone := false } disk).output =
        [⟨some ByteArray.empty, some "role = 1".toByteArray, none⟩] ∧
      ¬ ConfigDisk.Keeps legacyText ⟨some ByteArray.empty, some "role = 1".toByteArray, none⟩ := by
  refine ⟨?_, by decide +kernel⟩
  rfl

end EdgeKvm.Config
