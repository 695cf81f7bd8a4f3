import EdgeKvm.Config.RoundTrip
import EdgeKvm.Lib.Handler

/-!
# The migration of a configuration file

`load_migrating` rewrites a file of the first layout after it copied it to a file beside it. The
copy is written apart and renamed; the file itself is truncated and written in place, so it is
empty or cut off in between. A copy that is there already is taken for the one that is needed.
-/

namespace EdgeKvm.Config

open EdgeKvm.Lib Toml Handler

/-- The texts of configurations. -/
abbrev ConfigFormat : Type := Format AppConfig AppConfig.write

/-- `toml::from_str::<AppConfig>`. -/
def ConfigFormat.load (format : ConfigFormat) (text : String) : Option AppConfig :=
  ((format.read text).bind ConfigFile.read).map ConfigFile.intoAppConfig

/-- A key of a table that is a field of the document. -/
def hasNested (root : Fields) (table key : String) : Bool :=
  ((root.lookup table).bind Value.asTable).any fun fields => (fields.lookup key).isSome

/-- `config_needs_v2_migration`. -/
def configNeedsV2Migration (format : ConfigFormat) (text : String) : Bool :=
  match format.value text with
  | none => false
  | some root =>
    (root.lookup "role").isSome || (root.lookup "release_hotkey").isSome ||
      (root.lookup "monitor").isSome || (root.lookup "preferred_role").isNone ||
      (root.lookup "transport").isNone || hasNested root "peer" "laptop" ||
      hasNested root "input" "backend" || hasNested root "input" "game_compatibility"

/-! ## The files -/

/-- The configuration file, the copy beside it, and the file that becomes the copy. -/
structure ConfigDisk where
  config : Option ByteArray
  backup : Option ByteArray := none
  temporary : Option ByteArray := none

/-- The path in an error. -/
inductive ConfigPath where
  | config
  | parent
  | backup
  | temporary
  deriving DecidableEq, Repr

/-- `CommonError`. -/
inductive CommonError where
  | readConfig (path : ConfigPath)
  | parseConfig (path : ConfigPath)
  | writeConfig (path : ConfigPath)
  | encodeConfig
  deriving DecidableEq, Repr

/-- Which calls on the file system succeed, and where the writes pause: `copied` and `written` are
    the lengths that the copy and the file have then. -/
structure FileAnswers where
  readable : Bool := true
  probed : Bool := true
  created : Bool := true
  copied : List Nat := []
  copyDone : Bool := true
  synced : Bool := true
  renamed : Bool := true
  probedAgain : Bool := true
  removed : Bool := true
  parent : Bool := true
  opened : Bool := true
  written : List Nat := []
  writeDone : Bool := true

/-- A part of `load_migrating`; its outputs are the states of the disk it goes through, in any of
    which the process may end. -/
abbrev MigrationM (α : Type) : Type := Handler ConfigDisk ConfigDisk CommonError α

namespace ConfigDisk

def withConfig (bytes : ByteArray) (disk : ConfigDisk) : ConfigDisk :=
  { disk with config := some bytes }

def withTemporary (bytes : ByteArray) (disk : ConfigDisk) : ConfigDisk :=
  { disk with temporary := some bytes }

def removeTemporary (disk : ConfigDisk) : ConfigDisk := { disk with temporary := none }

/-- The rename of the temporary file. -/
def renameTemporary (disk : ConfigDisk) : ConfigDisk :=
  { disk with backup := disk.temporary, temporary := none }

/-- The whole text is in the configuration file or in its copy. -/
def Keeps (text : String) (disk : ConfigDisk) : Prop :=
  disk.config = some text.toByteArray ∨ disk.backup = some text.toByteArray

instance (text : String) (disk : ConfigDisk) : Decidable (disk.Keeps text) :=
  inferInstanceAs (Decidable (_ ∨ _))

end ConfigDisk

open ConfigDisk

/-- One change of the disk. -/
def change (f : ConfigDisk → ConfigDisk) : MigrationM Unit := do
  update f
  let disk ← read
  emit disk

/-- The parts of a file that is being written. -/
def writeParts (put : ByteArray → ConfigDisk → ConfigDisk) (bytes : ByteArray) :
    List Nat → MigrationM Unit
  | [] => pure ()
  | n :: rest => do
    change (put (bytes.extract 0 n))
    writeParts put bytes rest

/-- Gives up the temporary file. -/
def abandon (answers : FileAnswers) (error : CommonError) : MigrationM Unit := do
  if answers.removed then change removeTemporary
  leave error

/-- `create_v1_backup`. -/
def createV1Backup (answers : FileAnswers) (bytes : ByteArray) : MigrationM Unit := do
  if answers.probed = false then leave (.writeConfig .backup)
  let disk ← read
  if disk.backup.isSome then pure ()
  else do
    if answers.created = false then leave (.writeConfig .temporary)
    change (withTemporary ByteArray.empty)
    writeParts withTemporary bytes answers.copied
    if answers.copyDone = false then abandon answers (.writeConfig .temporary)
    else do
      change (withTemporary bytes)
      if answers.synced = false then abandon answers (.writeConfig .temporary)
      else if answers.renamed then change renameTemporary
      else do
        let disk ← read
        if answers.probedAgain && disk.backup.isSome then
          if answers.removed then change removeTemporary
        else abandon answers (.writeConfig .backup)

/-- `AppConfig::save`. -/
def save (format : ConfigFormat) (answers : FileAnswers) (config : AppConfig) :
    MigrationM Unit := do
  if answers.parent = false then leave (.writeConfig .parent)
  match format.print config with
  | none => leave .encodeConfig
  | some text => do
    if answers.opened = false then leave (.writeConfig .config)
    change (withConfig ByteArray.empty)
    writeParts withConfig text.toByteArray answers.written
    if answers.writeDone = false then leave (.writeConfig .config)
    change (withConfig text.toByteArray)

/-- `load_migrating`. -/
def loadMigrating (format : ConfigFormat) (answers : FileAnswers) : MigrationM AppConfig := do
  let disk ← read
  match if answers.readable then disk.config.bind String.fromUTF8? else none with
  | none => leave (.readConfig .config)
  | some text =>
    match format.load text with
    | none => leave (.parseConfig .config)
    | some config => do
      if configNeedsV2Migration format text then
        createV1Backup answers text.toByteArray
        save format answers config
      pure config

end EdgeKvm.Config
