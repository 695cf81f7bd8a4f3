import EdgeKvm.Config.File

/-!
# What is written is read

A configuration that is written and read again is the same, whichever fields the writer left out.
-/

namespace EdgeKvm.Config

open EdgeKvm.Lib Toml

/-! ## Names -/

@[simp] theorem Role.read_name (role : Role) : Role.read (.string role.name) = some role := by
  cases role <;> decide

@[simp] theorem TransportMode.read_name (mode : TransportMode) :
    TransportMode.read (.string mode.name) = some mode := by
  cases mode <;> decide

@[simp] theorem PeerPosition.read_name (position : PeerPosition) :
    PeerPosition.read (.string position.name) = some position := by
  cases position <;> decide

@[simp] theorem AudioLocalPlayback.read_name (playback : AudioLocalPlayback) :
    AudioLocalPlayback.read (.string playback.name) = some playback := by
  cases playback <;> decide

@[simp] theorem AudioRoutePreference.read_name (route : AudioRoutePreference) :
    AudioRoutePreference.read (.string route.name) = some route := by
  cases route <;> decide

@[simp] theorem GameCompatibilityMode.read_name (mode : GameCompatibilityMode) :
    GameCompatibilityMode.read (.string mode.name) = some mode := by
  cases mode <;> decide

/-! ## Tables -/

@[simp] theorem LayoutConfig.read_write (layout : LayoutConfig) :
    LayoutConfig.read layout.write = some layout := by
  simp [LayoutConfig.read, LayoutConfig.write, Value.fields, Fields.required]

theorem ClipboardConfig.read_table {clipboard : ClipboardConfig} {fields : Fields}
    (enabled : fields.required boolean "enabled" = some clipboard.enabled)
    (images : fields.defaulted boolean "images_enabled" true = some clipboard.imagesEnabled)
    (bytes : fields.required u64 "max_bytes" = some clipboard.maxBytes)
    (imageBytes : fields.defaulted u64 "max_image_bytes" 4194304 =
      some clipboard.maxImageBytes) :
    ClipboardConfig.read (.table fields) = some clipboard := by
  simp [ClipboardConfig.read, Value.fields, enabled, images, bytes, imageBytes]

@[simp] theorem ClipboardConfig.read_write (clipboard : ClipboardConfig) :
    ClipboardConfig.read clipboard.write = some clipboard := by
  apply ClipboardConfig.read_table
  · simp [ClipboardConfig.fields, Fields.required]
  · simp [ClipboardConfig.fields, Fields.defaulted]
  · exact (required_of_some (by simp [ClipboardConfig.fields])).trans (u64_integer _)
  · simp [ClipboardConfig.fields, Fields.defaulted]

theorem AudioConfig.read_table {audio : AudioConfig} {fields : Fields}
    (route : fields.optional AudioRoutePreference.read "route" = some audio.route)
    (enabled : fields.defaulted boolean "enabled" false = some audio.enabled)
    (playback : fields.required AudioLocalPlayback.read "local_playback" =
      some audio.localPlayback)
    (jitter : fields.required u32 "jitter_target_ms" = some audio.jitterTargetMs) :
    AudioConfig.read (.table fields) = some audio := by
  simp [AudioConfig.read, Value.fields, route, enabled, playback, jitter]

@[simp] theorem AudioConfig.read_write (audio : AudioConfig) :
    AudioConfig.read audio.write = some audio := by
  apply AudioConfig.read_table
  · exact optional_of_map AudioRoutePreference.read_name (by simp [AudioConfig.fields])
  · simp [AudioConfig.fields, Fields.defaulted]
  · simp [AudioConfig.fields, Fields.required]
  · exact (required_of_some (by simp [AudioConfig.fields])).trans (u32_integer _)

@[simp] theorem PhoneConfig.read_write (phone : PhoneConfig) :
    PhoneConfig.read phone.write = some phone := by
  simp [PhoneConfig.read, PhoneConfig.write, Value.fields, Fields.defaulted]

@[simp] theorem NotificationConfig.read_write (notifications : NotificationConfig) :
    NotificationConfig.read notifications.write = some notifications := by
  have peers : list string (.array (notifications.peers.map .string)) = some notifications.peers :=
    list_array string_string notifications.peers
  simp [NotificationConfig.read, NotificationConfig.write, Value.fields, Fields.defaulted, peers]

/-- `ConfigPeer` of a peer that was written. -/
def PeerConfig.file (peer : PeerConfig) : ConfigPeer where
  name := some peer.name
  host := some peer.host
  port := some peer.port
  pinnedFingerprint := some peer.pinnedFingerprint

theorem PeerConfig.read_table {peer : PeerConfig} {fields : Fields}
    (name : fields.optional string "name" = some (some peer.name))
    (host : fields.optional string "host" = some (some peer.host))
    (port : fields.optional u16 "port" = some (some peer.port))
    (fingerprint : fields.optional string "pinned_fingerprint" =
      some (some peer.pinnedFingerprint))
    (laptop : fields.optional LegacyPeerConfig.read "laptop" = some none) :
    ConfigPeer.read (.table fields) = some peer.file := by
  simp [ConfigPeer.read, PeerConfig.file, Value.fields, name, host, port, fingerprint, laptop]

@[simp] theorem PeerConfig.read_write (peer : PeerConfig) :
    ConfigPeer.read peer.write = some peer.file := by
  apply PeerConfig.read_table
  · simp [PeerConfig.fields, Fields.optional]
  · simp [PeerConfig.fields, Fields.optional]
  · simp [PeerConfig.fields, Fields.optional]
  · simp [PeerConfig.fields, Fields.optional]
  · simp [PeerConfig.fields, Fields.optional]

/-- `ConfigInput` of an input section that was written. -/
def InputConfig.file (input : InputConfig) : ConfigInput where
  capture := some {
    backend := some input.capture.backend
    output := some input.capture.output
    releaseHotkey := some input.capture.releaseHotkey
    gameCompatibility := some input.capture.gameCompatibility }
  inject := some {
    backend := some input.inject.backend
    output := some input.inject.output }

@[simp] theorem InputConfig.read_write (input : InputConfig) :
    ConfigInput.read input.write = some input.file := by
  simp [ConfigInput.read, InputConfig.write, InputConfig.file, ConfigInputCapture.read,
    InputCaptureConfig.write, ConfigInputInject.read, InputInjectConfig.write, Value.fields,
    Fields.optional]

/-! ## The file -/

/-- `ConfigFile` of a configuration that was written: it has the current keys, and no others. -/
def AppConfig.file (config : AppConfig) : ConfigFile where
  deviceName := config.deviceName
  startWithWindows := config.startWithWindows
  preferredRole := some config.preferredRole
  transport := some config.transport
  listen := config.listen
  peer := config.peer.file
  layout := some config.layout
  input := config.input.file
  clipboard := config.clipboard
  audio := some config.audio
  phone := config.phone
  notifications := config.notifications

theorem ConfigFile.read_write (config : AppConfig) :
    ConfigFile.read config.write = some config.file := by
  have listen : config.write.optional string "listen" = some config.listen :=
    optional_of_map string_string (by simp [AppConfig.write])
  have phone : config.write.defaulted PhoneConfig.read "phone" {} = some config.phone :=
    defaulted_of_skipped PhoneConfig.read_write of_decide_eq_true
      (by simp [AppConfig.write, PhoneConfig.isDefault])
  have notifications : config.write.defaulted NotificationConfig.read "notifications" {} =
      some config.notifications :=
    defaulted_of_skipped NotificationConfig.read_write of_decide_eq_true
      (by simp [AppConfig.write, NotificationConfig.isDefault])
  unfold ConfigFile.read
  rw [listen, phone, notifications]
  simp [AppConfig.write, AppConfig.file, Fields.required, Fields.optional, Fields.defaulted]

/-- No default replaces a value that was written. -/
theorem AppConfig.intoAppConfig_file (config : AppConfig) : config.file.intoAppConfig = config :=
  rfl

theorem AppConfig.read_write (config : AppConfig) :
    (ConfigFile.read config.write).map ConfigFile.intoAppConfig = some config := by
  rw [ConfigFile.read_write, Option.map_some, intoAppConfig_file]

end EdgeKvm.Config
