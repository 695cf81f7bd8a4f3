import EdgeKvm.Lib.Toml

/-!
# The configuration file

`AppConfig` of `edge-common`, what it is written as, and `ConfigFile`, which reads both the
current keys and the keys of the first layout.
-/

namespace EdgeKvm.Config

open EdgeKvm.Lib Toml

/-! ## The settings -/

/-- `Role`. -/
inductive Role where
  | controller
  | receiver
  deriving DecidableEq, Repr

/-- `TransportMode`. -/
inductive TransportMode where
  | connect
  | listen
  deriving DecidableEq, Repr

/-- `PeerPosition`. -/
inductive PeerPosition where
  | left
  | right
  | top
  | bottom
  deriving DecidableEq, Repr

/-- `AudioLocalPlayback`. -/
inductive AudioLocalPlayback where
  | redirect
  | mirror
  deriving DecidableEq, Repr

/-- `AudioRoutePreference`. -/
inductive AudioRoutePreference where
  | disabled
  | localToPeer
  | peerToLocal
  deriving DecidableEq, Repr

/-- `GameCompatibilityMode`. -/
inductive GameCompatibilityMode where
  | compatible
  | borderless
  | alwaysEnabled
  deriving DecidableEq, Repr

/-- `PeerConfig`. -/
structure PeerConfig where
  name : String := "Peer"
  host : String := ""
  port : UInt16 := 42420
  pinnedFingerprint : String := ""
  deriving DecidableEq, Repr

/-- `LayoutConfig`. -/
structure LayoutConfig where
  listenerPosition : PeerPosition := .left
  deriving DecidableEq, Repr

/-- `InputCaptureConfig`. -/
structure InputCaptureConfig where
  backend : String := "auto"
  output : String := ""
  releaseHotkey : String := "Ctrl+Alt+Pause"
  gameCompatibility : GameCompatibilityMode := .alwaysEnabled
  deriving DecidableEq, Repr

/-- `InputInjectConfig`. -/
structure InputInjectConfig where
  backend : String := "auto"
  output : String := ""
  deriving DecidableEq, Repr

/-- `InputConfig`. -/
structure InputConfig where
  capture : InputCaptureConfig := {}
  inject : InputInjectConfig := {}
  deriving DecidableEq, Repr

/-- `ClipboardConfig`. -/
structure ClipboardConfig where
  enabled : Bool := true
  imagesEnabled : Bool := true
  maxBytes : UInt64 := 1048576
  maxImageBytes : UInt64 := 4194304
  deriving DecidableEq, Repr

/-- `AudioConfig`. A route of `none` means that the legacy flag `enabled` decides. -/
structure AudioConfig where
  route : Option AudioRoutePreference := some .disabled
  enabled : Bool := false
  localPlayback : AudioLocalPlayback := .redirect
  jitterTargetMs : UInt32 := 60
  deriving DecidableEq, Repr

/-- `PhoneConfig`. -/
structure PhoneConfig where
  forwardClipboardToPcs : Bool := true
  deriving DecidableEq, Repr

/-- `NotificationConfig`. -/
structure NotificationConfig where
  enabled : Bool := false
  coordinatorFingerprint : String := ""
  peers : List String := []
  deriving DecidableEq, Repr

/-- `AppConfig`. -/
structure AppConfig where
  deviceName : String
  startWithWindows : Bool
  preferredRole : Role
  transport : TransportMode
  listen : Option String
  peer : PeerConfig
  layout : LayoutConfig
  input : InputConfig
  clipboard : ClipboardConfig
  audio : AudioConfig
  phone : PhoneConfig
  notifications : NotificationConfig
  deriving DecidableEq, Repr

/-! ## Names -/

def Role.name : Role → String
  | .controller => "controller"
  | .receiver => "receiver"

def TransportMode.name : TransportMode → String
  | .connect => "connect"
  | .listen => "listen"

def PeerPosition.name : PeerPosition → String
  | .left => "left"
  | .right => "right"
  | .top => "top"
  | .bottom => "bottom"

def AudioLocalPlayback.name : AudioLocalPlayback → String
  | .redirect => "redirect"
  | .mirror => "mirror"

def AudioRoutePreference.name : AudioRoutePreference → String
  | .disabled => "disabled"
  | .localToPeer => "local-to-peer"
  | .peerToLocal => "peer-to-local"

def GameCompatibilityMode.name : GameCompatibilityMode → String
  | .compatible => "compatible"
  | .borderless => "borderless"
  | .alwaysEnabled => "always-enabled"

def Role.read : Value → Option Role :=
  variant ([.controller, .receiver].map fun role => (role.name, role))

def TransportMode.read : Value → Option TransportMode :=
  variant ([.connect, .listen].map fun mode => (mode.name, mode))

def PeerPosition.read : Value → Option PeerPosition :=
  variant ([.left, .right, .top, .bottom].map fun position => (position.name, position))

def AudioLocalPlayback.read : Value → Option AudioLocalPlayback :=
  variant ([.redirect, .mirror].map fun playback => (playback.name, playback))

def AudioRoutePreference.read : Value → Option AudioRoutePreference :=
  variant ([.disabled, .localToPeer, .peerToLocal].map fun route => (route.name, route))

def GameCompatibilityMode.read : Value → Option GameCompatibilityMode :=
  variant ([.compatible, .borderless, .alwaysEnabled].map fun mode => (mode.name, mode))

/-! ## What a configuration is written as -/

def PeerConfig.fields (peer : PeerConfig) : Fields := record [
  ("host", some (.string peer.host)),
  ("name", some (.string peer.name)),
  ("pinned_fingerprint", some (.string peer.pinnedFingerprint)),
  ("port", some (.integer peer.port.toNat))]

def PeerConfig.write (peer : PeerConfig) : Value := .table peer.fields

def LayoutConfig.write (layout : LayoutConfig) : Value := .table (record [
  ("listener_position", some (.string layout.listenerPosition.name))])

def InputCaptureConfig.write (capture : InputCaptureConfig) : Value := .table (record [
  ("backend", some (.string capture.backend)),
  ("game_compatibility", some (.string capture.gameCompatibility.name)),
  ("output", some (.string capture.output)),
  ("release_hotkey", some (.string capture.releaseHotkey))])

def InputInjectConfig.write (inject : InputInjectConfig) : Value := .table (record [
  ("backend", some (.string inject.backend)),
  ("output", some (.string inject.output))])

def InputConfig.write (input : InputConfig) : Value := .table (record [
  ("capture", some input.capture.write),
  ("inject", some input.inject.write)])

def ClipboardConfig.fields (clipboard : ClipboardConfig) : Fields := record [
  ("enabled", some (.boolean clipboard.enabled)),
  ("images_enabled", some (.boolean clipboard.imagesEnabled)),
  ("max_bytes", some (.integer clipboard.maxBytes.toNat)),
  ("max_image_bytes", some (.integer clipboard.maxImageBytes.toNat))]

def ClipboardConfig.write (clipboard : ClipboardConfig) : Value := .table clipboard.fields

def AudioConfig.fields (audio : AudioConfig) : Fields := record [
  ("enabled", some (.boolean audio.enabled)),
  ("jitter_target_ms", some (.integer audio.jitterTargetMs.toNat)),
  ("local_playback", some (.string audio.localPlayback.name)),
  ("route", audio.route.map fun route => .string route.name)]

def AudioConfig.write (audio : AudioConfig) : Value := .table audio.fields

def PhoneConfig.write (phone : PhoneConfig) : Value := .table (record [
  ("forward_clipboard_to_pcs", some (.boolean phone.forwardClipboardToPcs))])

def NotificationConfig.write (notifications : NotificationConfig) : Value := .table (record [
  ("coordinator_fingerprint", some (.string notifications.coordinatorFingerprint)),
  ("enabled", some (.boolean notifications.enabled)),
  ("peers", some (.array (notifications.peers.map .string)))])

def PhoneConfig.isDefault (phone : PhoneConfig) : Bool := phone = {}

def NotificationConfig.isDefault (notifications : NotificationConfig) : Bool := notifications = {}

def AppConfig.write (config : AppConfig) : Fields := record [
  ("audio", some config.audio.write),
  ("clipboard", some config.clipboard.write),
  ("device_name", some (.string config.deviceName)),
  ("input", some config.input.write),
  ("layout", some config.layout.write),
  ("listen", config.listen.map .string),
  ("notifications",
    if config.notifications.isDefault then none else some config.notifications.write),
  ("peer", some config.peer.write),
  ("phone", if config.phone.isDefault then none else some config.phone.write),
  ("preferred_role", some (.string config.preferredRole.name)),
  ("start_with_windows", some (.boolean config.startWithWindows)),
  ("transport", some (.string config.transport.name))]

/-! ## What is read -/

def LayoutConfig.read (value : Value) : Option LayoutConfig := do
  let fields ← value.fields ["listener_position"]
  return ⟨← fields.required PeerPosition.read "listener_position"⟩

def ClipboardConfig.read (value : Value) : Option ClipboardConfig := do
  let fields ← value.fields ["enabled", "images_enabled", "max_bytes", "max_image_bytes"]
  return {
    enabled := ← fields.required boolean "enabled"
    imagesEnabled := ← fields.defaulted boolean "images_enabled" true
    maxBytes := ← fields.required u64 "max_bytes"
    maxImageBytes := ← fields.defaulted u64 "max_image_bytes" 4194304 }

def AudioConfig.read (value : Value) : Option AudioConfig := do
  let fields ← value.fields ["route", "enabled", "local_playback", "jitter_target_ms"]
  return {
    route := ← fields.optional AudioRoutePreference.read "route"
    enabled := ← fields.defaulted boolean "enabled" false
    localPlayback := ← fields.required AudioLocalPlayback.read "local_playback"
    jitterTargetMs := ← fields.required u32 "jitter_target_ms" }

def PhoneConfig.read (value : Value) : Option PhoneConfig := do
  let fields ← value.fields ["forward_clipboard_to_pcs"]
  return ⟨← fields.defaulted boolean "forward_clipboard_to_pcs" true⟩

def NotificationConfig.read (value : Value) : Option NotificationConfig := do
  let fields ← value.fields ["enabled", "coordinator_fingerprint", "peers"]
  return {
    enabled := ← fields.defaulted boolean "enabled" false
    coordinatorFingerprint := ← fields.defaulted string "coordinator_fingerprint" ""
    peers := ← fields.defaulted (list string) "peers" [] }

/-- `LegacyPeerConfig`. -/
structure LegacyPeerConfig where
  host : String
  port : UInt16
  position : PeerPosition
  pinnedFingerprint : String
  deriving DecidableEq, Repr

def LegacyPeerConfig.read (value : Value) : Option LegacyPeerConfig := do
  let fields ← value.fields ["host", "port", "position", "pinned_fingerprint"]
  return {
    host := ← fields.required string "host"
    port := ← fields.required u16 "port"
    position := ← fields.required PeerPosition.read "position"
    pinnedFingerprint := ← fields.defaulted string "pinned_fingerprint" "" }

/-- `ConfigPeer`. -/
structure ConfigPeer where
  name : Option String := none
  host : Option String := none
  port : Option UInt16 := none
  pinnedFingerprint : Option String := none
  laptop : Option LegacyPeerConfig := none
  deriving DecidableEq, Repr

def ConfigPeer.read (value : Value) : Option ConfigPeer := do
  let fields ← value.fields ["name", "host", "port", "pinned_fingerprint", "laptop"]
  return {
    name := ← fields.optional string "name"
    host := ← fields.optional string "host"
    port := ← fields.optional u16 "port"
    pinnedFingerprint := ← fields.optional string "pinned_fingerprint"
    laptop := ← fields.optional LegacyPeerConfig.read "laptop" }

/-- `ConfigInputCapture`. -/
structure ConfigInputCapture where
  backend : Option String := none
  output : Option String := none
  releaseHotkey : Option String := none
  gameCompatibility : Option GameCompatibilityMode := none
  deriving DecidableEq, Repr

def ConfigInputCapture.read (value : Value) : Option ConfigInputCapture := do
  let fields ← value.fields ["backend", "output", "release_hotkey", "game_compatibility"]
  return {
    backend := ← fields.optional string "backend"
    output := ← fields.optional string "output"
    releaseHotkey := ← fields.optional string "release_hotkey"
    gameCompatibility := ← fields.optional GameCompatibilityMode.read "game_compatibility" }

/-- `ConfigInputInject`. -/
structure ConfigInputInject where
  backend : Option String := none
  output : Option String := none
  deriving DecidableEq, Repr

def ConfigInputInject.read (value : Value) : Option ConfigInputInject := do
  let fields ← value.fields ["backend", "output"]
  return {
    backend := ← fields.optional string "backend"
    output := ← fields.optional string "output" }

/-- `ConfigInput`. -/
structure ConfigInput where
  backend : Option String := none
  gameCompatibility : Option GameCompatibilityMode := none
  capture : Option ConfigInputCapture := none
  inject : Option ConfigInputInject := none
  deriving DecidableEq, Repr

def ConfigInput.read (value : Value) : Option ConfigInput := do
  let fields ← value.fields ["backend", "game_compatibility", "capture", "inject"]
  return {
    backend := ← fields.optional string "backend"
    gameCompatibility := ← fields.optional GameCompatibilityMode.read "game_compatibility"
    capture := ← fields.optional ConfigInputCapture.read "capture"
    inject := ← fields.optional ConfigInputInject.read "inject" }

/-- `ConfigFile`. -/
structure ConfigFile where
  deviceName : String
  startWithWindows : Bool := false
  preferredRole : Option Role := none
  transport : Option TransportMode := none
  role : Option Role := none
  releaseHotkey : Option String := none
  listen : Option String := none
  monitor : Option String := none
  peer : ConfigPeer := {}
  layout : Option LayoutConfig := none
  input : ConfigInput := {}
  clipboard : ClipboardConfig := {}
  audio : Option AudioConfig := none
  phone : PhoneConfig := {}
  notifications : NotificationConfig := {}
  deriving DecidableEq, Repr

def ConfigFile.read (fields : Fields) : Option ConfigFile := do
  return {
    deviceName := ← fields.required string "device_name"
    startWithWindows := ← fields.defaulted boolean "start_with_windows" false
    preferredRole := ← fields.optional Role.read "preferred_role"
    transport := ← fields.optional TransportMode.read "transport"
    role := ← fields.optional Role.read "role"
    releaseHotkey := ← fields.optional string "release_hotkey"
    listen := ← fields.optional string "listen"
    monitor := ← fields.optional string "monitor"
    peer := ← fields.defaulted ConfigPeer.read "peer" {}
    layout := ← fields.optional LayoutConfig.read "layout"
    input := ← fields.defaulted ConfigInput.read "input" {}
    clipboard := ← fields.defaulted ClipboardConfig.read "clipboard" {}
    audio := ← fields.optional AudioConfig.read "audio"
    phone := ← fields.defaulted PhoneConfig.read "phone" {}
    notifications := ← fields.defaulted NotificationConfig.read "notifications" {} }

/-- `ConfigFile::into_app_config`. -/
def ConfigFile.intoAppConfig (file : ConfigFile) : AppConfig :=
  let legacyRole := file.role
  let preferredRole := (file.preferredRole <|> legacyRole <|> match file.transport with
    | some .connect => some .controller
    | some .listen => some .receiver
    | none => none).getD .receiver
  let transport := file.transport.getD (match legacyRole with
    | some .controller => .connect
    | some .receiver | none => .listen)
  let laptop := file.peer.laptop
  let listenerPosition :=
    (file.layout.map (·.listenerPosition) <|> laptop.map (·.position)).getD .left
  let peer : PeerConfig := {
    name := file.peer.name.getD "Peer"
    host := (file.peer.host <|> laptop.map (·.host)).getD ""
    port := (file.peer.port <|> laptop.map (·.port)).getD 42420
    pinnedFingerprint :=
      (file.peer.pinnedFingerprint <|> laptop.map (·.pinnedFingerprint)).getD "" }
  let legacyBackend := file.input.backend.getD "auto"
  let capture := file.input.capture.getD {}
  let inject := file.input.inject.getD {}
  let input : InputConfig := {
    capture := {
      backend := capture.backend.getD legacyBackend
      output := capture.output.getD ""
      releaseHotkey := (capture.releaseHotkey <|> file.releaseHotkey).getD "Ctrl+Alt+Pause"
      gameCompatibility :=
        (capture.gameCompatibility <|> file.input.gameCompatibility).getD .alwaysEnabled }
    inject := {
      backend := inject.backend.getD legacyBackend
      output := (inject.output <|> file.monitor).getD "" } }
  let audio := file.audio.getD { route := none, enabled := legacyRole = some .controller }
  { deviceName := file.deviceName
    startWithWindows := file.startWithWindows
    preferredRole
    transport
    listen := file.listen
    peer
    layout := { listenerPosition }
    input
    clipboard := file.clipboard
    audio
    phone := file.phone
    notifications := file.notifications }

end EdgeKvm.Config
