import EdgeKvm.Notification.PhoneSource
import EdgeKvm.Lib.Machine

/-!
# The bridge to the shell

`NotificationHub::bridge` of `notification_hub.rs`: the messages of the shell, the copies the hub
shows of shared records, and the removals it queues. Between two steps of the bridge other tasks
may change the store and the cache of phone projections.
-/

namespace EdgeKvm.Notification

open EdgeKvm.Lib EdgeKvm.Lib.Machine

/-- The order of `NotificationKey`. -/
instance : LT NotificationKey where
  lt a b := a.origin < b.origin ∨ a.origin = b.origin ∧ a.instance' < b.instance'

instance : DecidableLT NotificationKey := fun a b =>
  inferInstanceAs (Decidable (a.origin < b.origin ∨ a.origin = b.origin ∧ a.instance' < b.instance'))

/-- `BridgeMessage`. -/
inductive BridgeMessage where
  | start
  | posted (id : Nat) (instance' : String) (content : SharedNotification)
  | copy (id : Nat) (key : NotificationKey) (content : SharedNotification)
  | closed (id reason : Nat) (instance' : Option String) (key : Option NotificationKey)
  | finish
  deriving DecidableEq, Repr

/-- Where the loop of `bridge` is: reading, reconciling the records of a view of which `todo` are
    left, or over. -/
inductive BridgePhase where
  | ended
  | reading
  | reconciling (records todo : List NotificationRecord)
  deriving DecidableEq, Repr

structure Bridge where
  hub : NotificationHub
  cache : PhoneProjections
  native : List (NotificationKey × Nat) := []
  projections : List (NotificationKey × Nat × SharedNotification) := []
  inventory : Option (List NotificationKey) := none
  phase : BridgePhase := .ended

inductive BridgeAction where
  | connect
  | message (message : BridgeMessage) (desktop : Desktop) (closed : Except String Unit)
      (persist : Persist)
  | changed
  | reconcile (desktop : Desktop) (shown : Except String Nat)
  | retire (written : Except String Unit)
  | others (hub : NotificationHub) (cache : PhoneProjections)
  | disconnect

namespace Bridge

/-- `NotificationHub::local_phone`. -/
def localPhone (s : Bridge) (key : NotificationKey) : Bool :=
  key.origin = s.hub.identity ∧ startsWith key.instance' "phone/"

/-- Runs a routine on the cache; its error is only recorded. -/
def cached {α : Type} (s : Bridge) (m : CacheM α) : Bridge :=
  { s with cache := (m.run { cache := s.cache }).1.cache }

/-- The key a message without a known id is about. -/
def candidate (s : Bridge) (instance' : Option String) (key : Option NotificationKey) :
    Option NotificationKey :=
  key.or (instance'.map fun instance' => { origin := s.hub.identity, instance' })

/-- The lookups of the `Closed` arm: the maps without the id, and the key whose removal is to be
    queued. -/
def closed (s : Bridge) (id reason : Nat) (instance' : Option String)
    (key : Option NotificationKey) : Bridge × Option NotificationKey :=
  match s.native.find? fun entry => entry.2 = id with
  | some (native, _) =>
    ({ s with native := Ordered.remove native s.native },
      if 1 ≤ reason ∧ reason ≤ 3 then some native else none)
  | none =>
    match s.projections.find? fun entry => entry.2.1 = id with
    | some (copy, _) =>
      ({ s with projections := Ordered.remove copy s.projections },
        if reason = 2 then some copy else none)
    | none =>
      -- A closure that was queued while the local backend was down.
      if 1 ≤ reason ∧ reason ≤ 3 then
        (s, (s.candidate instance' key).filter fun key =>
          (lookupRecord key s.hub.state.view).isSome ∧ (key.origin = s.hub.identity ∨ reason = 2))
      else (s, none)

/-- `NotificationHub::local_from_bridge`; an error is only recorded. -/
def localFromBridge (s : Bridge) (key : NotificationKey) (content : Option SharedNotification)
    (persist : Persist) : Bridge :=
  { s with hub := (s.hub.local' key content persist).1 }

/-- The first lookup of the `Closed` arm, in the cache of phone projections. -/
def phoneClosed (s : Bridge) (desktop : Desktop) (id reason : Nat)
    (key : Option NotificationKey) : Bridge :=
  match key.filter s.localPhone with
  | some key => s.cached (.closed desktop key.instance' id reason)
  | none => s

/-- The arms of a message. -/
def handle (s : Bridge) (desktop : Desktop) (closeShared : Except String Unit)
    (persist : Persist) : BridgeMessage → Bridge × Except String Unit
  | .start => ({ s with native := [], projections := [], inventory := some [] }, .ok ())
  | .posted id instance' content =>
    let key : NotificationKey := { origin := s.hub.identity, instance' }
    let s := { s with
      native := Ordered.insert key id s.native
      inventory := s.inventory.map (· ++ [key]) }
    (s.localFromBridge key (some content) persist, .ok ())
  | .copy id key content =>
    match s.hub.state.record key with
    | none => (s, .ok ())
    | some record =>
      if record.content.isSome then
        let s := if s.localPhone key then s.cached (.adopt desktop key id content) else s
        let projections := if (Ordered.get key s.projections).isSome then s.projections
          else Ordered.insert key (id, content) s.projections
        ({ s with projections }, .ok ())
      else (s, closeShared)
  | .closed id reason instance' key =>
    let closed := (s.phoneClosed desktop id reason key).closed id reason instance' key
    match closed.2 with
    | none => (closed.1, .ok ())
    | some removed => (closed.1.localFromBridge removed none persist, .ok ())
  | .finish =>
    match s.inventory with
    | none => (s, .error "notification inventory end without start")
    | some _ => ({ s with inventory := none }, .ok ())

/-- The end of a turn: the maps are bounded, and outside an inventory the records of the view are
    gone through. -/
def settle (s : Bridge) : Except String Unit → Bridge
  | .error _ => { s with phase := .ended }
  | .ok () =>
    if maxRecords < s.native.length + s.projections.length then { s with phase := .ended }
    else if s.inventory.isSome then s
    else { s with phase := .reconciling s.hub.state.view s.hub.state.view }

/-- One record of the reconciliation. -/
def reconcile (s : Bridge) (desktop : Desktop) (shown : Except String Nat)
    (record : NotificationRecord) : Bridge × Except String Unit :=
  if s.localPhone record.key then
    match s.hub.state.record record.key with
    | none => (s, .ok ())
    | some current => (s.cached (.show' desktop current.key current.content false), .ok ())
  else
    match record.content with
    | none =>
      ({ s with
        native := Ordered.remove record.key s.native
        projections := Ordered.remove record.key s.projections }, .ok ())
    | some content =>
      if (Ordered.get record.key s.native).isSome ∨
          (Ordered.get record.key s.projections).any fun old => old.2 = content then (s, .ok ())
      else match shown with
        | .error error => (s, .error error)
        | .ok id =>
          ({ s with projections := Ordered.insert record.key (id, content) s.projections }, .ok ())

/-- Copies of records that are gone from the view are closed. -/
def retire (s : Bridge) (records : List NotificationRecord) : Bridge :=
  { s with projections := s.projections.filter fun entry =>
      records.any fun record => record.key = entry.1 ∧ record.content.isSome }

def exec (s : Bridge) : BridgeAction → Option Bridge
  | .connect =>
    if s.phase = .ended then
      some { s with native := [], projections := [], inventory := none, phase := .reading }
    else none
  | .message message desktop closeShared persist =>
    if s.phase = .reading then
      let handled := s.handle desktop closeShared persist message
      some (handled.1.settle handled.2)
    else none
  | .changed =>
    if s.phase = .reading ∧ s.inventory = none then
      some { s with phase := .reconciling s.hub.state.view s.hub.state.view }
    else none
  | .reconcile desktop shown =>
    match s.phase with
    | .reconciling records (record :: todo) =>
      let reconciled := s.reconcile desktop shown record
      match reconciled.2 with
      | .error _ => some { reconciled.1 with phase := .ended }
      | .ok () => some { reconciled.1 with phase := .reconciling records todo }
    | _ => none
  | .retire written =>
    match s.phase with
    | .reconciling records [] =>
      some { s.retire records with
        phase := match written with
          | .ok () => .reading
          | .error _ => .ended }
    | _ => none
  | .others hub cache =>
    if hub.identity = s.hub.identity then some { s with hub, cache } else none
  | .disconnect => some { s with phase := .ended }

/-- The bridge, connected again and again, with whatever other tasks do to the hub. -/
def machine : Machine Bridge BridgeAction := ⟨exec⟩

/-! ## Copies and removals -/

/-- The ids under which copies are shown. -/
def copies (s : Bridge) : List (Nat × NotificationKey) :=
  s.projections.map (fun entry => (entry.2.1, entry.1)) ++
    s.cache.entries.map fun entry =>
      (entry.2.id, { origin := s.hub.identity, instance' := entry.1 })

/-- A removal that a `Closed` message asked for: what was closed, and whether the store queued it. -/
structure Removal where
  key : NotificationKey
  reason : Nat
  ofCopy : Bool
  ofNative : Bool
  queued : Bool
  deriving DecidableEq, Repr

/-- What has happened at the bridge: every id that a copy was shown under, unless a native
    notification has taken it since; the removals that were asked for; and the native
    notifications that were closed with reason 1, 2 or 3. -/
structure History where
  copies : List (Nat × NotificationKey) := []
  removals : List Removal := []
  closings : List NotificationKey := []

/-- The native notification of an id. -/
def nativeOf (s : Bridge) (id : Nat) : Option NotificationKey :=
  (s.native.find? fun entry => entry.2 = id).map Prod.fst

/-- An id that is a copy's and no native notification's. -/
def ShowsCopy (s : Bridge) (history : History) (id : Nat) : Prop :=
  s.nativeOf id = none ∧ ∃ copy ∈ history.copies, copy.1 = id

instance (s : Bridge) (history : History) (id : Nat) : Decidable (s.ShowsCopy history id) :=
  inferInstanceAs (Decidable (_ ∧ _))

/-- Keeps the history. -/
def note (history : History) (s : Bridge) (a : BridgeAction) (t : Bridge) : History :=
  match a with
  | .message (.posted id _ _) _ _ _ =>
    { history with copies := (history.copies ++ t.copies).filter fun copy => copy.1 ≠ id }
  | .message (.copy id key _) _ _ _ =>
    { history with copies := history.copies ++ t.copies ++ [(id, key)] }
  | .message (.closed id reason instance' key) _ _ persist =>
    { copies := history.copies ++ t.copies
      removals := history.removals ++ (s.closed id reason instance' key).2.toList.map fun removed =>
        { key := removed, reason, ofCopy := s.ShowsCopy history id
          ofNative := (s.nativeOf id).isSome
          queued := (s.hub.accepts removed none persist).isSome }
      closings := history.closings ++
        if 1 ≤ reason ∧ reason ≤ 3 then (s.nativeOf id).toList else [] }
  | _ => { history with copies := history.copies ++ t.copies }

/-- No closure with reason 1 or 3 comes for a copy that is not in `projections`, if it is a copy of
    a live record of this hub's own. -/
def Forwarded (s : Bridge × History) : BridgeAction → Prop
  | .message (.closed id reason instance' key) _ _ _ => s.1.ShowsCopy s.2 id →
    (∀ entry ∈ s.1.projections, entry.2.1 ≠ id) → reason = 1 ∨ reason = 3 →
    ∀ removed, s.1.candidate instance' key = some removed → removed.origin = s.1.hub.identity →
      ∀ record, lookupRecord removed s.1.hub.state.view = some record → record.content = none
  | _ => True

/-- Copies are removed by user dismissals only, and every native notification that is closed with
    reason 1, 2 or 3 asks for one removal. -/
structure Dismissals (history : History) : Prop where
  copies : ∀ removal ∈ history.removals, removal.ofCopy = true → removal.queued = true →
    removal.reason = 2
  natives : (history.removals.filter (·.ofNative)).map (·.key) = history.closings

variable {s t : Bridge} {history : History} {a : BridgeAction}

/-- A removal is not queued of a record that is removed already. -/
theorem live_of_accepts {hub : NotificationHub} {key : NotificationKey} {persist : Persist}
    (accepted : (hub.accepts key none persist).isSome) {record : NotificationRecord}
    (found : lookupRecord key hub.state.view = some record) : record.content ≠ none := by
  intro removed
  have again : hub.state.queueLocal key none hub.isCoordinator = .ok (false, hub.state) := by
    rw [Store.queueLocal, if_pos (by simp [found, removed])]
  simp [NotificationHub.accepts, again] at accepted

/-- What the closure of a native notification asks for. -/
theorem closed_native {id reason : Nat} {instance' : Option String} {key : Option NotificationKey}
    {native : NotificationKey} (isNative : s.nativeOf id = some native) :
    (s.closed id reason instance' key).2 = if 1 ≤ reason ∧ reason ≤ 3 then some native else none := by
  obtain ⟨⟨native, id'⟩, found, rfl⟩ := Option.map_eq_some_iff.mp isNative
  simp only [closed, found]

/-- What another closure asks for. -/
theorem closed_other {id reason : Nat} {instance' : Option String} {key : Option NotificationKey}
    {removed : NotificationKey} (other : s.nativeOf id = none)
    (asked : (s.closed id reason instance' key).2 = some removed) :
    reason = 2 ∨ (∀ entry ∈ s.projections, entry.2.1 ≠ id) ∧ (reason = 1 ∨ reason = 3) ∧
      s.candidate instance' key = some removed ∧ removed.origin = s.hub.identity ∧
        (lookupRecord removed s.hub.state.view).isSome := by
  have notNative := Option.map_eq_none_iff.mp other
  simp only [closed, notNative] at asked
  split at asked
  · by_cases user : reason = 2
    · exact .inl user
    · rw [if_neg user] at asked
      cases asked
  · rename_i notShown
    by_cases user : reason = 2
    · exact .inl user
    · split at asked
      · rename_i range
        obtain ⟨named, known⟩ := Option.filter_eq_some_iff.mp asked
        have known := of_decide_eq_true known
        refine .inr ⟨?_, by omega, named, known.2.resolve_right user, known.1⟩
        simpa using List.find?_eq_none.mp notShown
      · cases asked

/-- One more closure. -/
theorem Dismissals.closed {id reason : Nat} {instance' : Option String}
    {key : Option NotificationKey} {desktop : Desktop} {closeShared : Except String Unit}
    {persist : Persist} (inv : Dismissals history)
    (forwarded : Forwarded (s, history)
      (.message (.closed id reason instance' key) desktop closeShared persist)) :
    Dismissals (note history s (.message (.closed id reason instance' key) desktop closeShared
      persist) t) := by
  cases isNative : s.nativeOf id with
  | some native =>
    constructor
    · intro removal member ofCopy
      rcases List.mem_append.mp member with old | new
      · exact inv.copies removal old ofCopy
      · obtain ⟨removed, -, rfl⟩ := List.mem_map.mp new
        have shows := of_decide_eq_true ofCopy
        rw [shows.1] at isNative
        cases isNative
    · simp only [note, closed_native isNative, isNative, List.filter_append, List.map_append,
        inv.natives]
      congr 1
      by_cases range : 1 ≤ reason ∧ reason ≤ 3
      · simp [range]
      · simp [range]
  | none =>
    constructor
    · intro removal member ofCopy queued
      rcases List.mem_append.mp member with old | new
      · exact inv.copies removal old ofCopy queued
      · obtain ⟨removed, asked, rfl⟩ := List.mem_map.mp new
        have shows := of_decide_eq_true ofCopy
        obtain user | ⟨notShown, range, named, own, known⟩ :=
          closed_other isNative (Option.mem_toList.mp asked)
        · exact user
        · obtain ⟨record, found⟩ := Option.isSome_iff_exists.mp known
          exact absurd (forwarded shows notShown range removed named own record found)
            (live_of_accepts queued found)
    · simp only [note, isNative, List.filter_append, List.map_append, inv.natives]
      simp

/-- One more step. -/
theorem Dismissals.note (inv : Dismissals history) (forwarded : Forwarded (s, history) a) :
    Dismissals (note history s a t) := by
  cases a with
  | message message desktop closeShared persist =>
    cases message with
    | closed id reason instance' key => exact inv.closed forwarded
    | _ => exact ⟨inv.copies, inv.natives⟩
  | _ => exact ⟨inv.copies, inv.natives⟩

/-! ## What changes the store -/

@[simp] theorem cached_hub {α : Type} (m : CacheM α) : (s.cached m).hub = s.hub := rfl

@[simp] theorem settle_hub (result : Except String Unit) : (s.settle result).hub = s.hub := by
  unfold settle
  split
  · rfl
  · split
    · rfl
    · split <;> rfl

theorem closed_hub {id reason : Nat} {instance' : Option String} {key : Option NotificationKey} :
    (s.closed id reason instance' key).1.hub = s.hub := by
  unfold closed
  split
  · rfl
  · split
    · rfl
    · split <;> rfl

theorem reconcile_hub {desktop : Desktop} {shown : Except String Nat}
    {record : NotificationRecord} : (s.reconcile desktop shown record).1.hub = s.hub := by
  unfold reconcile
  split
  · split <;> rfl
  · split
    · rfl
    · split
      · rfl
      · split <;> rfl

/-- The cache has no say in what is removed. -/
theorem closed_cached {α : Type} (m : CacheM α) {id reason : Nat} {instance' : Option String}
    {key : Option NotificationKey} : ((s.cached m).closed id reason instance' key).2 =
      (s.closed id reason instance' key).2 := by
  cases native : s.native.find? fun entry => entry.2 = id with
  | some entry => simp only [closed, cached, native]
  | none =>
    cases copy : s.projections.find? fun entry => entry.2.1 = id with
    | some entry => simp only [closed, cached, native, copy]
    | none =>
      simp only [closed, cached, native, copy, candidate]
      split <;> rfl

theorem phoneClosed_closed {desktop : Desktop} {id reason : Nat} {instance' : Option String}
    {key : Option NotificationKey} :
    ((s.phoneClosed desktop id reason key).closed id reason instance' key).2 =
      (s.closed id reason instance' key).2 := by
  unfold phoneClosed
  split
  · exact closed_cached _
  · rfl

theorem phoneClosed_hub {desktop : Desktop} {id reason : Nat} {key : Option NotificationKey} :
    (s.phoneClosed desktop id reason key).hub = s.hub := by
  unfold phoneClosed
  split <;> rfl

/-- The hub that a message leaves: that of a post, or of a closure that asked for a removal. -/
theorem handle_hub {desktop : Desktop} {closeShared : Except String Unit} {persist : Persist}
    {message : BridgeMessage}
    (changed : (s.handle desktop closeShared persist message).1.hub ≠ s.hub) :
    (∃ id instance' content, message = .posted id instance' content) ∨
      ∃ id reason instance' key removed, message = .closed id reason instance' key ∧
        (s.closed id reason instance' key).2 = some removed ∧
        (s.handle desktop closeShared persist message).1.hub =
          (s.hub.local' removed none persist).1 := by
  cases message with
  | posted id instance' content => exact .inl ⟨id, instance', content, rfl⟩
  | start => exact absurd rfl changed
  | finish =>
    refine absurd ?_ changed
    simp only [handle]
    split <;> rfl
  | copy id key content =>
    refine absurd ?_ changed
    simp only [handle]
    split
    · rfl
    · split
      · split <;> rfl
      · rfl
  | closed id reason instance' key =>
    right
    have hub := @closed_hub (s.phoneClosed desktop id reason key) id reason instance' key
    rw [phoneClosed_hub] at hub
    cases asked : (s.closed id reason instance' key).2 with
    | none =>
      refine absurd ?_ changed
      simp only [handle, phoneClosed_closed, asked]
      exact hub
    | some removed =>
      refine ⟨id, reason, instance', key, removed, rfl, asked, ?_⟩
      simp only [handle, phoneClosed_closed, asked, localFromBridge]
      rw [hub]

/-- The store changes by other tasks, by a post, or by a removal that a closure asked for. -/
theorem exec_hub (executed : exec s a = some t) (changed : t.hub ≠ s.hub) :
    (∃ hub cache, a = .others hub cache) ∨
      ∃ message desktop closeShared persist, a = .message message desktop closeShared persist ∧
        ((∃ id instance' content, message = .posted id instance' content) ∨
          ∃ id reason instance' key removed, message = .closed id reason instance' key ∧
            (s.closed id reason instance' key).2 = some removed ∧
            t.hub = (s.hub.local' removed none persist).1) := by
  cases a with
  | others hub cache => exact .inl ⟨hub, cache, rfl⟩
  | message message desktop closeShared persist =>
    right
    simp only [exec] at executed
    split at executed
    · obtain rfl := Option.some.inj executed
      rw [settle_hub] at changed ⊢
      exact ⟨message, desktop, closeShared, persist, rfl, handle_hub changed⟩
    · cases executed
  | connect =>
    refine absurd ?_ changed
    simp only [exec] at executed
    split at executed
    · obtain rfl := Option.some.inj executed
      rfl
    · cases executed
  | changed =>
    refine absurd ?_ changed
    simp only [exec] at executed
    split at executed
    · obtain rfl := Option.some.inj executed
      rfl
    · cases executed
  | reconcile desktop shown =>
    refine absurd ?_ changed
    simp only [exec] at executed
    split at executed
    · split at executed
      · obtain rfl := Option.some.inj executed
        exact reconcile_hub
      · obtain rfl := Option.some.inj executed
        exact reconcile_hub
    · cases executed
  | retire written =>
    refine absurd ?_ changed
    simp only [exec] at executed
    split at executed
    · obtain rfl := Option.some.inj executed
      rfl
    · cases executed
  | disconnect =>
    obtain rfl := Option.some.inj executed
    exact absurd rfl changed

/-! ## Runs -/

/-- While no closure with reason 1 or 3 comes for a forgotten copy of a live record of its own, the
    bridge removes copies for user dismissals only, and asks for one removal for every native
    notification that is closed. Nothing else it does queues a removal: its steps change the store
    for posts and for these removals only. -/
theorem bridge_dismissals (hub : NotificationHub) (cache : PhoneProjections)
    {t : Bridge × History}
    (run : (machine.recording note).Run Forwarded ({ hub, cache }, {}) t) :
    Dismissals t.2 ∧ ∀ a u, exec t.1 a = some u → u.hub ≠ t.1.hub →
      (∃ hub cache, a = .others hub cache) ∨
        ∃ message desktop closeShared persist, a = .message message desktop closeShared persist ∧
          ((∃ id instance' content, message = .posted id instance' content) ∨
            ∃ id reason instance' key removed, message = .closed id reason instance' key ∧
              (t.1.closed id reason instance' key).2 = some removed ∧
              u.hub = (t.1.hub.local' removed none persist).1) := by
  refine ⟨?_, fun a u executed changed => exec_hub executed changed⟩
  have initial : Dismissals ({} : History) := ⟨fun _ member => (by cases member), rfl⟩
  refine run.invariant (I := fun s : Bridge × History => Dismissals s.2) ?_ initial
  intro s a u forwarded executed inv
  obtain ⟨-, noted⟩ := exec_recording.mp executed
  rw [noted]
  exact inv.note forwarded

/-- The hub of a coordinator whose phone has posted a notification, which is shown under 7. -/
def ownFingerprint : String := "00000000:00000000:00000000:00000001"

def phoneKey : NotificationKey := { origin := ownFingerprint, instance' := "phone/1/5/a" }

def phoneContent : SharedNotification where
  appName := "chat"
  title := "hello"
  body := ""
  icon := "phone"
  iconPng := none
  postedMs := 0
  urgency := 1

def phoneHub : NotificationHub where
  config := { coordinatorFingerprint := ownFingerprint, peers := [] }
  identity := ownFingerprint
  state :=
    { coordinator := ownFingerprint, epoch := "e", localIdentity := ownFingerprint, sequence := 1
      records := [{ key := phoneKey, sourceSequence := 1, content := some phoneContent }] }
  disk := {}

def phoneCache : PhoneProjections where
  owner := "daemon"
  entries := [("phone/1/5/a", { id := 7, digest := phoneContent, dismissed := false })]
  loaded := true

def quietDesktop : Desktop where
  generation := .ok "daemon"
  saved := .ok none
  showShared _ := .ok 8
  close _ := .ok ()
  save _ := .ok ()

/-- The shell connects with an empty inventory, and the hub reconciles. -/
def inventoried : List BridgeAction :=
  [.connect, .message .start quietDesktop (.ok ()) .stored,
    .message .finish quietDesktop (.ok ()) .stored, .reconcile quietDesktop (.ok 8),
    .retire (.ok ())]

/-- The copy under 7 is closed. -/
def copyClosed (reason : Nat) : List BridgeAction :=
  inventoried ++ [.message (.closed 7 reason none (some phoneKey)) quietDesktop (.ok ()) .stored]

theorem bridge_dismissals_user : Dismissals
    ((machine.recording note).reach ({ hub := phoneHub, cache := phoneCache }, {})
      (copyClosed 2)).2 := by
  have run : (machine.recording note).Run Forwarded ({ hub := phoneHub, cache := phoneCache }, {})
      ((machine.recording note).reach ({ hub := phoneHub, cache := phoneCache }, {})
        (copyClosed 2)) := by
    refine run_reach_of_allowedList (fun _ a => match a with
      | .message (.closed _ reason _ _) _ _ _ => reason = 2
      | _ => true) ?_ (copyClosed 2) (by decide +kernel) (by decide +kernel)
    intro s a allowed
    cases a with
    | message message desktop closeShared persist =>
      cases message with
      | closed id reason instance' key =>
        intro _ _ other
        have user : reason = 2 := of_decide_eq_true allowed
        omega
      | _ => trivial
    | _ => trivial
  exact (bridge_dismissals phoneHub phoneCache run).1

theorem expiry_removes : ¬ ∀ (hub : NotificationHub) (cache : PhoneProjections) (t : Bridge × History),
    (machine.recording note).Run anyAction ({ hub, cache }, {}) t → Dismissals t.2 := by
  intro claimed
  have dismissals := claimed phoneHub phoneCache _ (run_reach (copyClosed 1) (by decide +kernel))
  have removed : { key := phoneKey, reason := 1, ofCopy := true, ofNative := false, queued := true } ∈
      ((machine.recording note).reach ({ hub := phoneHub, cache := phoneCache }, {})
        (copyClosed 1)).2.removals := by decide +kernel
  have user := dismissals.copies _ removed rfl rfl
  simp at user

end Bridge

end EdgeKvm.Notification
