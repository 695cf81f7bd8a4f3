import EdgeKvm.Notification.PhoneSnapshots

/-!
# Removals of phone notifications

What makes an event withdraw a notification, that a removed one stays removed in the history and
on the desktop, and that a withdrawn identity gets a new instance.
-/

namespace EdgeKvm.Notification

open EdgeKvm.Lib EdgeKvm.Lib.Machine

universe u

variable {ι : Type u} [DecidableEq ι] {host : Option ι} {s s' : PhoneHistory ι}

/-! ## What withdraws a notification -/

open PhoneNotificationSource in
/-- Why an event of a phone makes an instance terminal: the phone removed it, its post met a
    dismissal on the desktop, or the end of a complete snapshot found it missing. -/
inductive Withdraws (source : PhoneNotificationSource) (hub : NotificationHub)
    (cache : PhoneProjections) (desktop : Option Desktop) : NotificationEvent → String → Prop where
  | removed (id : Nat) (entry : PhoneInstance)
      (known : (source.entryId id, entry) ∈ hub.state.phoneInstances) (live : entry.present) :
      Withdraws source hub cache desktop (.removed id) entry.instance'
  | retired (id : Nat) (seen : PhoneProjections) (instance' : String)
      (seeing : seenCache desktop cache = .ok (some seen))
      (shown : seen.instance' (source.entryId id ++ "/") = some instance') :
      Withdraws source hub cache desktop (.removed id) instance'
  | dismissed (phone : PhoneNotification) (seen : PhoneProjections) (instance' : String)
      (seeing : seenCache desktop cache = .ok (some seen)) (gone : seen.dismissed instance') :
      Withdraws source hub cache desktop (.posted phone) instance'
  | swept (id : String) (entry : PhoneInstance) (complete : source.snapshotFailed = false)
      (known : (id, entry) ∈ hub.state.phoneInstances)
      (missing : source.swept (source.resent.getD ∅) id entry) :
      Withdraws source hub cache desktop .snapshotEnd entry.instance'

section Causes

open PhoneNotificationSource

variable {source : PhoneNotificationSource} {event : NotificationEvent} {desktop : Option Desktop}
  {epoch : Except String String} {persist : Persist} {seen : Option PhoneProjections}
  {operations : List (String × Option SharedNotification)} {instance' : String}

theorem mem_dismissal {content : Option SharedNotification}
    (member : (instance', content) ∈ operations.map (dismissal seen)) :
    (instance', content) ∈ operations ∧
        (content ≠ none → seen.any (·.dismissed instance') = false) ∨
      content = none ∧ ∃ dropped, (instance', some dropped) ∈ operations ∧
        seen.any (·.dismissed instance') = true := by
  obtain ⟨⟨known, given⟩, queued, same⟩ := List.mem_map.mp member
  unfold dismissal at same
  split at same
  · rename_i gone
    obtain ⟨rfl, rfl⟩ := Prod.mk.inj same
    cases given with
    | none => exact .inl ⟨queued, fun some => absurd rfl some⟩
    | some dropped => exact .inr ⟨rfl, dropped, queued, gone⟩
  · rename_i kept
    obtain ⟨rfl, rfl⟩ := Prod.mk.inj same
    exact .inl ⟨queued, fun _ => by simpa using kept⟩

/-- The removals an event queues. -/
theorem withdraws_of_queued {hub : NotificationHub} {cache : PhoneProjections}
    {prepared : Prepared} (seeing : seenCache desktop cache = .ok seen)
    (complete : event = .snapshotEnd → source.snapshotFailed = false)
    (prepares : Prepares source hub.state seen epoch event prepared)
    (member : (instance', none) ∈ prepared.operations.map (dismissal seen)) :
    Withdraws source hub cache desktop event instance' := by
  rcases mem_dismissal member with ⟨queued, -⟩ | ⟨-, dropped, queued, gone⟩
  · cases prepares with
    | updated => simp at queued
    | allocated => simp at queued
    | withdrawn id entry found live =>
      rw [(Prod.mk.inj (List.mem_singleton.mp queued)).1]
      exact .removed id entry (Ordered.mem_of_get found) live
    | retired id absent =>
      simp only [Option.mem_toList, Option.map_eq_some_iff, Prod.mk.injEq] at queued
      obtain ⟨_, shown, rfl, -⟩ := queued
      obtain ⟨cached, rfl, shown⟩ := Option.bind_eq_some_iff.mp shown
      exact .retired id cached _ seeing shown
    | ended prepared ended =>
      rw [(prepareEnd_eq ended).2] at queued
      obtain ⟨id, entry, known, missing, rfl, -⟩ := mem_swept_operations.mp queued
      exact .swept id entry (complete rfl) known missing
  · obtain ⟨cached, rfl, gone⟩ := (Option.any_eq_true _ _).mp gone
    cases prepares with
    | updated phone => exact .dismissed phone cached _ seeing gone
    | allocated phone => exact .dismissed phone cached _ seeing gone
    | withdrawn => simp at queued
    | retired =>
      simp at queued
    | ended prepared ended =>
      rw [(prepareEnd_eq ended).2] at queued
      obtain ⟨_, _, _, _, _, impossible⟩ := mem_swept_operations.mp queued
      cases impossible

omit [DecidableEq ι] in
theorem PhoneHistory.Inv.withdraws (inv : s.Inv host) {key : NotificationKey}
    (terminal : (s.turn host source event desktop epoch persist).hub.state.Terminal key) :
    (s.world.hub host).state.Terminal key ∨ key.origin = (s.world.hub host).identity ∧
      Withdraws source (s.world.hub host) s.cache desktop event key.instance' := by
  have turned : source.Turned (s.world.hub host) s.cache event desktop epoch
      (s.turn host source event desktop epoch persist) := inv.turned
  cases turned with
  | kept same =>
    rw [same] at terminal
    exact .inl terminal
  | committed seen prepared changed next seeing complete opened prepares queued commits done =>
    rcases commits.state with same | new
    · rw [same] at terminal
      exact .inl terminal
    · rw [new] at terminal
      rcases queued.only key terminal with before | ⟨instance', member, rfl⟩
      · exact .inl before
      · exact .inr ⟨rfl, withdraws_of_queued seeing complete prepares member⟩

end Causes

/-! ## Removed for good -/

section Removed

variable {key : NotificationKey}

theorem PhoneHistory.Inv.stays_terminal (inv : s.Inv host) {action : PhoneAction ι}
    (executed : (phones ι host).exec s action = some s')
    (terminal : (s.world.hub host).state.Terminal key) :
    (s'.world.hub host).state.Terminal key := by
  have moved : s'.world = s.world ∨
      ∃ step, (system ι).exec s.world step = some s'.world := by
    cases action with
    | system action =>
      simp only [phones, exec] at executed
      split at executed
      · cases executed
      · obtain ⟨world, moved, rfl⟩ := Option.map_eq_some_iff.mp executed
        exact .inr ⟨action, moved⟩
      · obtain ⟨world, moved, rfl⟩ := Option.map_eq_some_iff.mp executed
        exact .inr ⟨action, moved⟩
    | projections cache =>
      cases executed
      exact .inl rfl
    | connect phone name =>
      cases executed
      exact .inl rfl
    | event phone event desktop epoch persist =>
      obtain ⟨source, connected, rfl⟩ := Option.map_eq_some_iff.mp executed
      exact s.withHub_step PhoneNotificationSource.apply_hub
  rcases moved with same | ⟨step, moved⟩
  · rw [same]
    exact terminal
  · exact (inv.terminal_step moved terminal).state

omit [DecidableEq ι] in
theorem PhoneHistory.Inv.outbox' (inv : s.Inv host) : (s.world.hub host).state.Outbox := by
  cases role : (s.world.hub host).isCoordinator with
  | false => exact inv.replica_outbox role
  | true =>
    obtain ⟨empty, -⟩ := inv.outbox role
    constructor <;> simp [empty]

omit [DecidableEq ι] in
theorem PhoneHistory.Inv.view_distinct (inv : s.Inv host) :
    (s.world.hub host).state.view.Pairwise fun a b => a.key ≠ b.key := by
  refine Store.view_distinct ?_
  cases host with
  | none => exact inv.world.coordinator.state
  | some i => exact (inv.world.pair i).replica.state.distinct

/-- What the host shows as removed never has content again. -/
theorem PhoneHistory.Inv.removed_for_good (inv : s.Inv host)
    (later : (phones ι host).Run anyAction s s')
    (shown : ShowsRemoved (s.world.hub host).state.view key) :
    ¬ ShowsContent (s'.world.hub host).state.view key := by
  obtain ⟨record, member, same, removed⟩ := shown
  have terminal : (s.world.hub host).state.Terminal key :=
    Store.terminal_of_view (lookup_of_shown inv.view_distinct member same) removed
  have after : s'.Inv host ∧ (s'.world.hub host).state.Terminal key :=
    later.invariant (I := fun x => x.Inv host ∧ (x.world.hub host).state.Terminal key)
      (fun _ _ _ _ executed held => ⟨held.1.step executed, held.1.stays_terminal executed held.2⟩)
      ⟨inv, terminal⟩
  rintro ⟨record', member', same', live⟩
  exact live (after.2.view after.1.outbox' (lookup_of_shown after.1.view_distinct member' same'))

end Removed

/-! ## What reaches the desktop -/

section Shows

open PhoneNotificationSource CacheM

variable {source : PhoneNotificationSource} {event : NotificationEvent} {desktop : Option Desktop}
  {epoch : Except String String} {persist : Persist} {P : DesktopCall → Prop} {store : Store}

theorem asks_loadCache : Asks P (loadCache desktop) := by
  cases desktop with
  | none => exact .pure _
  | some desktop => exact .bind .load fun _ => .pure _

/-- Nothing is shown before the commit. -/
theorem asks_plan : Asks P (source.plan store desktop epoch event) := by
  refine .bind ?_ fun prepared => .bind ?_ fun _ => .pure _
  · cases event with
    | posted phone =>
      simp only [prepare, preparePosted]
      split
      · exact .bind (.pure _) fun _ => .pure _
      · exact .bind asks_loadCache fun _ => .bind (.lift _) fun _ => .pure _
    | removed id =>
      simp only [prepare, prepareRemoved]
      split
      · exact .pure _
      · exact .bind asks_loadCache fun _ => .pure _
    | snapshotStart => exact .pure _
    | snapshotEnd => exact .lift _
  · refine .bind asks_loadCache fun seen => ?_
    split <;> exact .pure _

/-- A call that shows nothing, or shows queued content the history has not removed. -/
def Shows (hub : NotificationHub) (operations : List (String × Option SharedNotification))
    (call : DesktopCall) : Prop :=
  ∀ key content replaces silent, call = .showShared key content replaces silent →
    key.origin = hub.identity ∧ ¬ ShowsRemoved hub.state.view key ∧
      (key.instance', some content) ∈ operations

theorem asks_deliver {hub : NotificationHub} {desktop : Desktop} {fresh withdrawal : Bool}
    {operations : List (String × Option SharedNotification)}
    {operation : String × Option SharedNotification} (member : operation ∈ operations) :
    Asks (Shows hub operations) (deliver hub desktop fresh withdrawal operation) := by
  have saves : ∀ cache, Shows hub operations (.save cache) := by
    rintro cache key content replaces silent ⟨⟩
  have closes : ∀ id owner, Shows hub operations (.close id owner) := by
    rintro id owner key content replaces silent ⟨⟩
  refine .bind (.show' saves closes ?_) fun _ => ?_
  · rintro shown replaces silent live _ _ _ _ ⟨⟩
    split at live
    · cases live
    · rename_i kept
      refine ⟨rfl, ?_, by rw [← live]; exact member⟩
      rintro ⟨record, found, same, removed⟩
      exact kept (List.any_eq_true.mpr ⟨record, found, by simp [same, removed]⟩)
  · split
    · exact .withdraw _ saves closes
    · exact .pure _

theorem asks_deliverAll {hub : NotificationHub}
    {operations : List (String × Option SharedNotification)} :
    Asks (Shows hub operations) (source.deliverAll hub desktop event operations) := by
  unfold deliverAll
  cases desktop with
  | none => exact .pure _
  | some desktop =>
    refine .bind (.forM fun operation member => asks_deliver member) fun _ => ?_
    split
    · refine .bind .cache fun _ => .forM fun instance' _ => .withdraw instance' ?_ ?_
      · rintro cache key content replaces silent ⟨⟩
      · rintro id owner key content replaces silent ⟨⟩
    · exact .pure _

theorem commit_identity {hub : NotificationHub} {prepared : Prepared}
    {operations : List (String × Option SharedNotification)} :
    (source.commit hub event prepared operations persist).1.identity = hub.identity := by
  unfold commit
  split
  · rfl
  · unfold NotificationHub.applyPhone
    dsimp only
    split
    · rfl
    · split
      · exact (NotificationHub.commit_commits hub _ persist).identity
      · rfl

theorem shown_applyInner {hub : NotificationHub} {cache : PhoneProjections}
    {key : NotificationKey} {content : SharedNotification} {replaces : Nat} {silent : Bool}
    (shown : .showShared key content replaces silent ∈
      (source.applyInner hub cache event desktop epoch persist).projected.calls) :
    key.origin = hub.identity ∧
      ¬ ShowsRemoved (source.applyInner hub cache event desktop epoch persist).hub.state.view key ∧
      ∀ seen, seenCache desktop cache = .ok (some seen) → seen.dismissed key.instance' = false := by
  unfold applyInner at shown ⊢
  dsimp only at shown ⊢
  split at shown
  · split at shown <;> simp at shown
  · rename_i started
    rw [if_neg started]
    split at shown
    · simp at shown
    · have asked : Asks (fun _ => False) (source.plan hub.state desktop epoch event) := asks_plan
      have silently := asked { cache }
      split at shown
      · rename_i projected error planned
        rw [planned] at silently
        rcases silently _ shown with none | none <;> cases none
      · rename_i projected prepared operations planned
        rw [planned] at silently
        obtain ⟨seen, seeing, -, rfl⟩ := run_plan started planned
        dsimp only at shown ⊢
        rcases asks_deliverAll projected _ shown with earlier | live
        · rcases silently _ earlier with none | none <;> cases none
        · obtain ⟨origin, kept, queued⟩ := live key content replaces silent rfl
          refine ⟨origin.trans commit_identity, kept, fun other seeing' => ?_⟩
          rw [seeing] at seeing'
          cases seeing'
          rcases mem_dismissal queued with ⟨-, kept⟩ | ⟨none, -⟩
          · exact kept (by simp)
          · cases none

/-- What an event shows on the desktop is neither removed in the history nor dismissed there. -/
theorem shown_live {hub : NotificationHub} {cache : PhoneProjections} {key : NotificationKey}
    {content : SharedNotification} {replaces : Nat} {silent : Bool}
    (shown : .showShared key content replaces silent ∈
      (source.apply hub cache event desktop epoch persist).projected.calls) :
    key.origin = hub.identity ∧
      ¬ ShowsRemoved (source.apply hub cache event desktop epoch persist).hub.state.view key ∧
      ∀ seen, seenCache desktop cache = .ok (some seen) → seen.dismissed key.instance' = false := by
  unfold apply at shown ⊢
  dsimp only at shown ⊢
  split at shown
  · rename_i failed
    rw [if_pos failed]
    exact shown_applyInner shown
  · rename_i failed
    rw [if_neg failed]
    exact shown_applyInner shown

end Shows

/-! ## New lifetimes -/

open PhoneNotificationSource in
/-- A post draws an instance the history has not removed. -/
def PhoneHistory.Fresh (host : Option ι) (s : PhoneHistory ι) : PhoneAction ι → Prop
  | .event phone (.posted post) desktop epoch _ => ∀ source seen instance',
    s.source phone = some source → seenCache desktop s.cache = .ok seen →
    source.Draws (s.world.hub host).state post.id seen epoch instance' →
    ¬ (s.world.hub host).state.Terminal { origin := (s.world.hub host).identity, instance' }
  | _ => True

section Lifetime

open PhoneNotificationSource

variable {source : PhoneNotificationSource} {store : Store} {seen : Option PhoneProjections}
  {epoch : Except String String} {event : NotificationEvent} {prepared : Prepared}

/-- A lifetime that an event leaves is an old one, or a post has just drawn it. -/
theorem live_of_prepares (prepares : Prepares source store seen epoch event prepared)
    {id : String} {entry : PhoneInstance} (member : (id, entry) ∈ prepared.phoneInstances)
    (present : entry.present) : (id, entry) ∈ store.phoneInstances ∨
      ∃ phone, event = .posted phone ∧ source.Draws store phone.id seen epoch entry.instance' := by
  cases prepares with
  | updated => exact .inl member
  | allocated phone instance' phoneInstances absent allocated =>
    by_cases own : id = source.entryId phone.id
    · have new := allocated.only _ member own
      rw [(Prod.mk.inj new).2]
      exact .inr ⟨phone, rfl, allocated.origin⟩
    · exact .inl (allocated.others _ member own)
  | withdrawn removed old found live =>
    rcases Ordered.mem_insert.mp member with new | ⟨kept, -⟩
    · rw [(Prod.mk.inj new).2] at present
      cases present
    · exact .inl kept
  | retired => exact .inl member
  | ended prepared ended =>
    rw [(prepareEnd_eq ended).1] at member
    obtain ⟨old, before, rfl⟩ := Ordered.mem_mapValues.mp member
    split at present
    · cases present
    · rename_i kept
      rw [if_neg kept]
      exact .inl before

/-- The lifetimes of `next` are those of a store, or new ones the store has not removed. -/
def Renewed (identity : String) (s : Store) (next : List (String × PhoneInstance)) : Prop :=
  ∀ id entry, (id, entry) ∈ next → entry.present → (id, entry) ∈ s.phoneInstances ∨
    ¬ s.Terminal { origin := identity, instance' := entry.instance' }

/-- What a step does to the phone identities in memory and on disk. -/
inductive PhonesStep (hub hub' : NotificationHub) : Prop where
  | committed (renewed : Renewed hub.identity hub.state hub'.state.phoneInstances)
      (disk : hub'.disk.phoneInstances = hub'.state.phoneInstances)
  | failed (renewed : Renewed hub.identity hub.state hub'.disk.phoneInstances)
      (state : hub'.state.phoneInstances = hub.state.phoneInstances)
  | kept (state : hub'.state.phoneInstances = hub.state.phoneInstances)
      (disk : hub'.disk.phoneInstances = hub.disk.phoneInstances)
  | crashed (state : hub'.state.phoneInstances = hub.disk.phoneInstances)
      (disk : hub'.disk.phoneInstances = hub.disk.phoneInstances)

theorem phonesStep_of_commits {hub hub' : NotificationHub} {next : Store}
    (commits : hub.Commits next hub')
    (renewed : Renewed hub.identity hub.state next.phoneInstances) : PhonesStep hub hub' := by
  rcases commits.stores with ⟨state, disk⟩ | ⟨state, disk | disk⟩
  · exact .committed (by rw [state]; exact renewed) (by rw [state, disk])
  · exact .failed (by rw [disk]; exact renewed) (by rw [state])
  · exact .kept (by rw [state]) (by rw [disk])

theorem PhoneHistory.Inv.phones_step (inv : s.Inv host) {action : PhoneAction ι}
    (fresh : s.Fresh host action) (executed : (phones ι host).exec s action = some s') :
    (s'.world.hub host).identity = (s.world.hub host).identity ∧
      PhonesStep (s.world.hub host) (s'.world.hub host) := by
  cases action with
  | system action =>
    simp only [phones, exec] at executed
    cases step : hostStep host action with
    | phone => simp [step] at executed
    | crash =>
      simp only [step] at executed
      obtain ⟨world, moved, rfl⟩ := Option.map_eq_some_iff.mp executed
      obtain ⟨state, disk, identity⟩ := World.hub_crash step moved
      exact ⟨identity, .crashed (by rw [state]) (by rw [disk])⟩
    | other =>
      simp only [step] at executed
      obtain ⟨world, moved, rfl⟩ := Option.map_eq_some_iff.mp executed
      obtain ⟨next, commits, phones, -⟩ := World.hub_environment step moved
      refine ⟨commits.identity, phonesStep_of_commits commits fun id entry member _ => ?_⟩
      exact .inl (phones ▸ member)
  | projections cache =>
    cases executed
    exact ⟨rfl, .kept rfl rfl⟩
  | connect phone name =>
    cases executed
    exact ⟨rfl, .kept rfl rfl⟩
  | event phone event desktop epoch persist =>
    obtain ⟨source, connected, rfl⟩ := Option.map_eq_some_iff.mp executed
    have turned : source.Turned (s.world.hub host) s.cache event desktop epoch
        (s.turn host source event desktop epoch persist) := inv.turned
    have hub : (s.handle host phone (s.turn host source event desktop epoch persist)).world.hub
        host = (s.turn host source event desktop epoch persist).hub := s.hub_withHub _
    rw [hub]
    cases turned with
    | kept same =>
      rw [same]
      exact ⟨rfl, .kept rfl rfl⟩
    | committed seen prepared changed next seeing complete opened prepares queued commits done =>
      refine ⟨commits.identity, phonesStep_of_commits commits fun id entry member present => ?_⟩
      rw [queued.phones] at member
      rcases live_of_prepares prepares member present with old | ⟨post, rfl, drawn⟩
      · exact .inl old
      · exact .inr (fresh source seen entry.instance' connected seeing drawn)

/-- The disk never holds the lifetime that the memory has withdrawn. -/
structure Renews (host : Option ι) (s : PhoneHistory ι) : Prop where
  inv : s.Inv host
  disk : ∀ id withdrawn live, (id, withdrawn) ∈ (s.world.hub host).state.phoneInstances →
    withdrawn.present = false → (id, live) ∈ (s.world.hub host).disk.phoneInstances →
    live.present → live.instance' ≠ withdrawn.instance'

theorem Renews.step (renews : Renews host s) {action : PhoneAction ι}
    (fresh : s.Fresh host action) (executed : (phones ι host).exec s action = some s') :
    Renews host s' := by
  have inv' := renews.inv.step executed
  refine ⟨inv', ?_⟩
  obtain ⟨identity, step⟩ := renews.inv.phones_step fresh executed
  have alone : ∀ {s : Store} {identity : String}, s.Lifetimes identity → ∀ id withdrawn live,
      (id, withdrawn) ∈ s.phoneInstances → withdrawn.present = false →
      (id, live) ∈ s.phoneInstances → live.present → live.instance' ≠ withdrawn.instance' := by
    intro s identity lifetimes id withdrawn live first gone second present
    rw [lifetimes.distinct.unique first second, present] at gone
    cases gone
  cases step with
  | committed renewed disk =>
    rw [disk]
    exact alone inv'.state
  | failed renewed state =>
    rw [state]
    intro id withdrawn live first gone second present same
    rcases renewed id live second present with old | kept
    · exact alone renews.inv.state id withdrawn live first gone old present same
    · rw [same] at kept
      exact kept (renews.inv.state.withdrawn id withdrawn first gone)
  | kept state disk =>
    rw [state, disk]
    exact renews.disk
  | crashed state disk =>
    rw [state, disk]
    exact alone renews.inv.disk

/-- An instance that was withdrawn: its key is terminal, and no lifetime of the identity has it. -/
structure Retired (host : Option ι) (identity id instance' : String) (s : PhoneHistory ι) :
    Prop where
  inv : s.Inv host
  identified : (s.world.hub host).identity = identity
  terminal : (s.world.hub host).state.Terminal { origin := identity, instance' }
  state : ∀ live, (id, live) ∈ (s.world.hub host).state.phoneInstances → live.present →
    live.instance' ≠ instance'
  disk : ∀ live, (id, live) ∈ (s.world.hub host).disk.phoneInstances → live.present →
    live.instance' ≠ instance'

theorem Retired.step {identity id instance' : String}
    (retired : Retired host identity id instance' s) {action : PhoneAction ι}
    (fresh : s.Fresh host action) (executed : (phones ι host).exec s action = some s') :
    Retired host identity id instance' s' := by
  obtain ⟨same, step⟩ := retired.inv.phones_step fresh executed
  have others : ∀ {next : List (String × PhoneInstance)},
      Renewed (s.world.hub host).identity (s.world.hub host).state next →
      ∀ live, (id, live) ∈ next → live.present → live.instance' ≠ instance' := by
    intro next renewed live member present reused
    rcases renewed id live member present with old | kept
    · exact retired.state live old present reused
    · rw [reused, retired.identified] at kept
      exact kept retired.terminal
  refine ⟨retired.inv.step executed, same.trans retired.identified,
    retired.inv.stays_terminal executed retired.terminal, ?_, ?_⟩
  · cases step with
    | committed renewed disk => exact others renewed
    | failed renewed state => rw [state]; exact retired.state
    | kept state disk => rw [state]; exact retired.state
    | crashed state disk => rw [state]; exact retired.disk
  · cases step with
    | committed renewed disk => rw [disk]; exact others renewed
    | failed renewed state => exact others renewed
    | kept state disk => rw [disk]; exact retired.disk
    | crashed state disk => rw [disk]; exact retired.disk

end Lifetime

end EdgeKvm.Notification
