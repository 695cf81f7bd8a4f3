import EdgeKvm.Notification.Lifetimes

/-!
# Snapshots of a phone

What a phone said it shows in the snapshot it is sending, beside the system, and how the live
identities of the store follow it: at the end of a complete snapshot they are the same.
-/

namespace EdgeKvm.Notification

open EdgeKvm.Lib EdgeKvm.Lib.Machine

universe u

/-! ## Prefixes -/

theorem startsWith_iff {text pattern : String} :
    startsWith text pattern = true ↔ pattern.toList <+: text.toList :=
  List.isPrefixOf_iff_prefix

theorem PhoneNotificationSource.startsWith_entryId (source : PhoneNotificationSource) (n : Nat) :
    startsWith (source.entryId n) source.idPrefix = true := by
  rw [startsWith_iff, entryId, String.toList_append]
  exact List.prefix_append _ _

/-- A separator that occurs in neither part ends the first part. -/
theorem eq_of_separated {α : Type} {separator : α} :
    ∀ {first second rest : List α}, separator ∉ first → separator ∉ second →
      first ++ [separator] <+: second ++ separator :: rest → first = second := by
  intro first
  induction first with
  | nil =>
    intro second rest _ absent starts
    cases second with
    | nil => rfl
    | cons c second =>
      obtain ⟨same, -⟩ := List.cons_prefix_cons.mp starts
      exact absurd (List.mem_cons.mpr (.inl same)) absent
  | cons a first ih =>
    intro second rest absent absent' starts
    cases second with
    | nil =>
      obtain ⟨same, -⟩ := List.cons_prefix_cons.mp starts
      exact absurd (List.mem_cons.mpr (.inl same.symm)) absent
    | cons c second =>
      obtain ⟨same, later⟩ := List.cons_prefix_cons.mp starts
      rw [same, ih (fun member => absent (List.mem_cons_of_mem _ member))
        (fun member => absent' (List.mem_cons_of_mem _ member)) later]

namespace Fingerprint

variable {phone other : Fingerprint}

theorem separator_notMem (phone : Fingerprint) : '/' ∉ phone.digits.toList := by
  intro member
  exact absurd (phone.hex _ member) (by decide)

/-- No identity of another phone starts with a phone's prefix. -/
theorem eq_of_startsWith {text : String}
    (starts : startsWith (other.idPrefix ++ text) phone.idPrefix = true) : phone = other := by
  rw [startsWith_iff] at starts
  simp only [idPrefix, String.toList_append, List.append_assoc] at starts
  have starts := (List.prefix_append_right_inj _).mp starts
  have same := eq_of_separated phone.separator_notMem other.separator_notMem starts
  have digits : phone.digits = other.digits := String.toList_inj.mp same
  cases phone
  cases other
  cases digits
  rfl

end Fingerprint

theorem toString_inj {m n : Nat} (same : toString m = toString n) : m = n := by
  have digits : (toString m).toList = (toString n).toList := congrArg String.toList same
  simp only [Nat.toString_eq_repr, Nat.toList_repr] at digits
  rw [← Nat.ofDigitChars_toDigits (b := 10) (n := m) (by decide) (by decide), digits,
    Nat.ofDigitChars_toDigits (by decide) (by decide)]

theorem PhoneNotificationSource.entryId_inj {source : PhoneNotificationSource} {m n : Nat}
    (same : source.entryId m = source.entryId n) : m = n :=
  toString_inj (String.append_right_inj _ |>.mp same)

/-! ## Live identities -/

/-- The identity has a lifetime that was not withdrawn. -/
def Live (phoneInstances : List (String × PhoneInstance)) (id : String) : Prop :=
  ∃ entry, (id, entry) ∈ phoneInstances ∧ entry.present = true

instance (phoneInstances : List (String × PhoneInstance)) (id : String) :
    Decidable (Live phoneInstances id) :=
  decidable_of_iff (∃ entry ∈ phoneInstances, entry.1 = id ∧ entry.2.present = true)
    ⟨fun ⟨⟨_, entry⟩, member, same, present⟩ => ⟨entry, same ▸ member, present⟩,
      fun ⟨entry, member, present⟩ => ⟨(id, entry), member, rfl, present⟩⟩

namespace PhoneNotificationSource

variable {source : PhoneNotificationSource} {store : Store} {seen : Option PhoneProjections}
  {epoch : Except String String} {event : NotificationEvent} {prepared : Prepared}

/-- What an event makes of the live identities. -/
def Follows (source : PhoneNotificationSource) (before after : String → Prop) :
    NotificationEvent → Prop
  | .posted phone => after (source.entryId phone.id) ∧
      ∀ id, id ≠ source.entryId phone.id → (after id ↔ before id)
  | .removed removed => ¬ after (source.entryId removed) ∧
      ∀ id, id ≠ source.entryId removed → (after id ↔ before id)
  | .snapshotEnd => ∀ id, after id ↔
      before id ∧ (startsWith id source.idPrefix → id ∈ source.resent.getD ∅)
  | .snapshotStart => True

/-- The identities of other phones stay live or not. -/
theorem Follows.others {before after : String → Prop} (follows : source.Follows before after event)
    (started : event ≠ .snapshotStart) {id : String}
    (other : startsWith id source.idPrefix = false) : after id ↔ before id := by
  have apart : ∀ n, id ≠ source.entryId n := by
    rintro n rfl
    rw [source.startsWith_entryId n] at other
    cases other
  cases event with
  | posted phone => exact follows.2 id (apart _)
  | removed removed => exact follows.2 id (apart _)
  | snapshotStart => exact absurd rfl started
  | snapshotEnd =>
    rw [follows id, other]
    exact and_iff_left fun starts => by cases starts

theorem Prepares.started (prepares : Prepares source store seen epoch event prepared) :
    event ≠ .snapshotStart := by
  rintro rfl
  cases prepares

theorem Prepares.live (prepares : Prepares source store seen epoch event prepared)
    (distinct : Ordered.Distinct store.phoneInstances) :
    source.Follows (Live store.phoneInstances) (Live prepared.phoneInstances) event := by
  cases prepares with
  | updated phone entry found live =>
    exact ⟨⟨entry, Ordered.mem_of_get found, live⟩, fun _ _ => Iff.rfl⟩
  | allocated phone instance' phoneInstances absent allocated =>
    refine ⟨⟨_, allocated.own, rfl⟩, fun id apart => ⟨?_, ?_⟩⟩
    · rintro ⟨entry, member, present⟩
      exact ⟨entry, allocated.others _ member apart, present⟩
    · rintro ⟨entry, member, present⟩
      exact ⟨entry, allocated.present _ member present apart, present⟩
  | withdrawn removed entry found live =>
    refine ⟨?_, fun id apart => ⟨?_, ?_⟩⟩
    · rintro ⟨entry, member, present⟩
      rcases Ordered.mem_insert.mp member with new | ⟨-, apart⟩
      · rw [(Prod.mk.inj new).2] at present
        cases present
      · exact apart rfl
    · rintro ⟨entry, member, present⟩
      rcases Ordered.mem_insert.mp member with new | ⟨old, -⟩
      · exact absurd (Prod.mk.inj new).1 apart
      · exact ⟨entry, old, present⟩
    · rintro ⟨entry, member, present⟩
      exact ⟨entry, Ordered.mem_insert.mpr (.inr ⟨member, apart⟩), present⟩
  | retired removed absent =>
    refine ⟨?_, fun _ _ => Iff.rfl⟩
    rintro ⟨entry, member, present⟩
    cases found : Ordered.get (source.entryId removed) store.phoneInstances with
    | none => exact Ordered.get_eq_none.mp found entry member
    | some known =>
      have same := distinct.unique (Ordered.mem_of_get found) member
      have gone := absent known found
      rw [same, present] at gone
      cases gone
  | ended prepared ended =>
    intro id
    rw [(prepareEnd_eq ended).1]
    constructor
    · rintro ⟨entry, member, present⟩
      obtain ⟨old, before, rfl⟩ := Ordered.mem_mapValues.mp member
      split at present
      · cases present
      · rename_i kept
        refine ⟨⟨old, before, present⟩, fun starts => ?_⟩
        by_contra absent
        exact kept ⟨starts, present, absent⟩
    · rintro ⟨⟨entry, member, present⟩, listed⟩
      refine ⟨entry, Ordered.mem_mapValues.mpr ⟨entry, member, ?_⟩, present⟩
      rw [if_neg]
      rintro ⟨starts, -, absent⟩
      exact absent (listed starts)

end PhoneNotificationSource

/-! ## What the phone listed -/

/-- The notifications of the snapshot a phone is sending: posted, and not removed since. -/
def listed (listing : Option (Finset Nat)) : NotificationEvent → Option (Finset Nat)
  | .posted phone => listing.map (insert phone.id)
  | .removed id => listing.map (·.erase id)
  | .snapshotStart => some (listing.getD ∅)
  | .snapshotEnd => none

section Listing

variable {ι : Type u} [DecidableEq ι] {host : Option ι}

/-- The snapshots of all phones; a reconnect or a crash of the host ends one. -/
def noteListing (host : Option ι) (listing : Fingerprint → Option (Finset Nat))
    (_ : PhoneHistory ι) (action : PhoneAction ι) (_ : PhoneHistory ι) :
    Fingerprint → Option (Finset Nat) :=
  match action with
  | .system action => if hostStep host action = .crash then fun _ => none else listing
  | .projections _ => listing
  | .connect phone _ => Function.update listing phone none
  | .event phone event _ _ _ => Function.update listing phone (listed (listing phone) event)

/-- The phones of `host`, with the snapshots they are sending. -/
def phonesListing (ι : Type u) [DecidableEq ι] (host : Option ι) :
    Machine (PhoneHistory ι × (Fingerprint → Option (Finset Nat))) (PhoneAction ι) :=
  (phones ι host).recording (noteListing host)

/-- How a source's snapshot follows what the phone listed: exactly, unless an event failed. -/
structure Tracks (live : String → Prop) (source : PhoneNotificationSource)
    (listing : Option (Finset Nat)) : Prop where
  opened : source.resent.isSome = listing.isSome
  exact : ∀ resent ids, source.resent = some resent → listing = some ids →
    source.snapshotFailed = false →
    (∀ id ∈ resent, ∃ n, id = source.entryId n) ∧ (∀ n ∈ ids, source.entryId n ∈ resent) ∧
      ∀ n, source.entryId n ∈ resent → (live (source.entryId n) ↔ n ∈ ids)

theorem listed_isSome (listing : Option (Finset Nat)) (event : NotificationEvent)
    (source : PhoneNotificationSource) (opened : source.resent.isSome = listing.isSome) :
    (listed listing event).isSome = source.opened event := by
  cases event <;> simp [listed, PhoneNotificationSource.opened, opened]

/-- The live identities of this phone alone matter. -/
theorem Tracks.congr {live live' : String → Prop} {source : PhoneNotificationSource}
    {listing : Option (Finset Nat)} (tracks : Tracks live source listing)
    (same : ∀ n, live' (source.entryId n) ↔ live (source.entryId n)) :
    Tracks live' source listing := by
  refine ⟨tracks.opened, fun resent ids open' listed intact => ?_⟩
  obtain ⟨own, inside, present⟩ := tracks.exact resent ids open' listed intact
  exact ⟨own, inside, fun n member => (same n).trans (present n member)⟩

/-- A failed snapshot promises nothing. -/
theorem Tracks.of_failed {live : String → Prop} {source : PhoneNotificationSource}
    {listing : Option (Finset Nat)} (opened : source.resent.isSome = listing.isSome)
    (failed : source.resent.isSome → source.snapshotFailed = true) :
    Tracks live source listing := by
  refine ⟨opened, fun resent ids open' _ intact => ?_⟩
  rw [failed (by rw [open']; rfl)] at intact
  cases intact

open PhoneNotificationSource in
/-- An event keeps the source in step with the phone. -/
theorem Tracks.event {live live' : String → Prop} {source : PhoneNotificationSource}
    {listing : Option (Finset Nat)} {event : NotificationEvent} {turn : Turn}
    (tracks : Tracks live source listing) (left : source.Left event turn)
    (follows : turn.result = .ok () → source.Follows live live' event) :
    Tracks live' turn.source (listed listing event) := by
  have opened : turn.source.resent.isSome = (listed listing event).isSome :=
    left.opened.trans (listed_isSome listing event source tracks.opened).symm
  by_cases ok : turn.result = .ok ()
  · have follows := follows ok
    rw [left.ok ok] at opened ⊢
    cases event with
    | snapshotStart =>
      refine ⟨opened, fun resent ids open' listed _ => ?_⟩
      cases open'
      have fresh : listing = none := by
        rw [← Option.isNone_iff_eq_none, ← Option.not_isSome, ← tracks.opened,
          left.started ok rfl]
        rfl
      rw [fresh] at listed
      cases listed
      simp
    | snapshotEnd => exact ⟨opened, fun resent ids open' => by cases open'⟩
    | posted phone =>
      refine ⟨opened, fun resent ids open' list intact => ?_⟩
      obtain ⟨before, known, rfl⟩ := Option.map_eq_some_iff.mp open'
      obtain ⟨old, listed, rfl⟩ := Option.map_eq_some_iff.mp list
      obtain ⟨own, inside, present⟩ := tracks.exact before old known listed intact
      obtain ⟨posted, others⟩ := follows
      refine ⟨?_, ?_, ?_⟩
      · intro id member
        rcases Finset.mem_insert.mp member with rfl | earlier
        · exact ⟨phone.id, rfl⟩
        · exact own id earlier
      · intro n member
        rcases Finset.mem_insert.mp member with rfl | earlier
        · exact Finset.mem_insert_self _ _
        · exact Finset.mem_insert_of_mem (inside n earlier)
      · intro n member
        by_cases same : n = phone.id
        · subst same
          exact ⟨fun _ => Finset.mem_insert_self _ _, fun _ => posted⟩
        · have apart : source.entryId n ≠ source.entryId phone.id := fun equal =>
            same (entryId_inj equal)
          have earlier : source.entryId n ∈ before :=
            (Finset.mem_insert.mp member).resolve_left apart
          rw [Finset.mem_insert, or_iff_right same]
          exact (others _ apart).trans (present n earlier)
    | removed removed =>
      refine ⟨opened, fun resent ids open' list intact => ?_⟩
      obtain ⟨old, listed, rfl⟩ := Option.map_eq_some_iff.mp list
      obtain ⟨own, inside, present⟩ := tracks.exact resent old open' listed intact
      obtain ⟨gone, others⟩ := follows
      refine ⟨own, fun n member => inside n (Finset.mem_of_mem_erase member), fun n member => ?_⟩
      by_cases same : n = removed
      · subst same
        exact ⟨fun live => absurd live gone, fun listed => absurd listed (Finset.notMem_erase _ _)⟩
      · rw [Finset.mem_erase, and_iff_right same]
        exact (others _ fun equal => same (entryId_inj equal)).trans (present n member)
  · exact .of_failed opened (left.failed ok)

end Listing

/-! ## The sources and their phones -/

section Sources

variable {ι : Type u} [DecidableEq ι] {host : Option ι} {s : PhoneHistory ι}

/-- The sources are in step with what their phones listed. -/
structure Tracked (host : Option ι) (s : PhoneHistory ι × (Fingerprint → Option (Finset Nat))) :
    Prop where
  inv : s.1.Inv host
  tracks : ∀ phone source, s.1.source phone = some source →
    Tracks (Live (s.1.world.hub host).state.phoneInstances) source (s.2 phone)

/-- The turn an event of a connected phone takes. -/
abbrev PhoneHistory.turn (host : Option ι) (s : PhoneHistory ι) (source : PhoneNotificationSource)
    (event : NotificationEvent) (desktop : Option Desktop) (epoch : Except String String)
    (persist : Persist) : PhoneNotificationSource.Turn :=
  source.apply (s.world.hub host) s.cache event desktop epoch persist

section Turns

variable {source : PhoneNotificationSource} {event : NotificationEvent} {desktop : Option Desktop}
  {epoch : Except String String} {persist : Persist}

omit [DecidableEq ι] in
theorem PhoneHistory.Inv.turned (inv : s.Inv host) :
    source.Turned (s.world.hub host) s.cache event desktop epoch
      (s.turn host source event desktop epoch persist) :=
  PhoneNotificationSource.apply_turned inv.replica_outbox

omit [DecidableEq ι] in
/-- The live identities after a successful event. -/
theorem PhoneHistory.Inv.follows (inv : s.Inv host)
    (ok : (s.turn host source event desktop epoch persist).result = .ok ()) :
    source.Follows (Live (s.world.hub host).state.phoneInstances)
      (Live (s.turn host source event desktop epoch persist).hub.state.phoneInstances) event := by
  have turned : source.Turned (s.world.hub host) s.cache event desktop epoch
      (s.turn host source event desktop epoch persist) := inv.turned
  cases turned with
  | kept same refused =>
    rcases refused with rfl | refused
    · trivial
    · exact absurd ok refused
  | committed seen prepared changed next seeing complete opened prepares queued commits done =>
    rw [done ok, queued.phones]
    exact prepares.live inv.state.distinct

omit [DecidableEq ι] in
/-- However an event ends, the identities of other phones stay live or not. -/
theorem PhoneHistory.Inv.others (inv : s.Inv host) {id : String}
    (other : startsWith id source.idPrefix = false) :
    Live (s.turn host source event desktop epoch persist).hub.state.phoneInstances id ↔
      Live (s.world.hub host).state.phoneInstances id := by
  have turned : source.Turned (s.world.hub host) s.cache event desktop epoch
      (s.turn host source event desktop epoch persist) := inv.turned
  cases turned with
  | kept same => rw [same]
  | committed seen prepared changed next seeing complete opened prepares queued commits done =>
    rcases commits.state with same | new
    · rw [same]
    · rw [new, queued.phones]
      exact (prepares.live inv.state.distinct).others prepares.started other

/-- Every step keeps the sources in step. -/
theorem Tracked.step {x y : PhoneHistory ι × (Fingerprint → Option (Finset Nat))}
    {action : PhoneAction ι} (tracked : Tracked host x)
    (executed : (phonesListing ι host).exec x action = some y) : Tracked host y := by
  obtain ⟨t, listing⟩ := y
  obtain ⟨stepped, noted⟩ := exec_recording.mp executed
  clear executed
  dsimp only at stepped noted
  subst noted
  refine ⟨tracked.inv.step stepped, ?_⟩
  cases action with
  | system action =>
    simp only [phones, PhoneHistory.exec] at stepped
    cases step : hostStep host action with
    | phone => simp [step] at stepped
    | crash =>
      simp only [step] at stepped
      obtain ⟨world, moved, rfl⟩ := Option.map_eq_some_iff.mp stepped
      intro phone source found
      cases found
    | other =>
      simp only [step] at stepped
      obtain ⟨world, moved, rfl⟩ := Option.map_eq_some_iff.mp stepped
      obtain ⟨next, commits, phones, -⟩ := World.hub_environment step moved
      have same : (world.hub host).state.phoneInstances =
          (x.1.world.hub host).state.phoneInstances := by
        rcases commits.state with same | new
        · rw [same]
        · rw [new, phones]
      intro phone source found
      simp only [noteListing, step, same]
      exact tracked.tracks phone source found
  | projections cache =>
    cases stepped
    exact tracked.tracks
  | connect phone name =>
    cases stepped
    intro other source found
    by_cases same : other = phone
    · subst same
      simp only [Function.update_self, Option.some.injEq] at found
      subst found
      simp only [noteListing, Function.update_self]
      exact .of_failed rfl fun open' => by cases open'
    · simp only [Function.update_of_ne same] at found
      simp only [noteListing, Function.update_of_ne same]
      exact tracked.tracks other source found
  | event phone event desktop epoch persist =>
    obtain ⟨source, connected, rfl⟩ := Option.map_eq_some_iff.mp stepped
    intro other source' found
    simp only [PhoneHistory.handle, PhoneHistory.hub_withHub]
    by_cases same : other = phone
    · subst same
      simp only [PhoneHistory.handle, Function.update_self, Option.some.injEq] at found
      subst found
      simp only [noteListing, Function.update_self]
      exact (tracked.tracks other source connected).event PhoneNotificationSource.apply_left
        tracked.inv.follows
    · simp only [PhoneHistory.handle, Function.update_of_ne same] at found
      simp only [noteListing, Function.update_of_ne same]
      refine (tracked.tracks other source' found).congr fun n => tracked.inv.others ?_
      rw [tracked.inv.sources phone source connected, PhoneNotificationSource.entryId,
        tracked.inv.sources other source' found, Bool.eq_false_iff]
      exact fun starts => same (Fingerprint.eq_of_startsWith starts).symm

end Turns

/-! ## The end of a snapshot -/

/-- What the end of a phone's snapshot leaves, `ids` being the notifications the phone listed. -/
structure SnapshotImported (phone : Fingerprint) (ids : Finset Nat)
    (before after : NotificationHub) : Prop where
  present : ∀ id, startsWith id phone.idPrefix →
    (Live after.state.phoneInstances id ↔ ∃ n ∈ ids, id = phone.idPrefix ++ toString n)
  withdrawn : ∀ id entry, (id, entry) ∈ before.state.phoneInstances → entry.present →
    ¬ Live after.state.phoneInstances id →
    after.state.Terminal { origin := before.identity, instance' := entry.instance' }
  others : ∀ id entry, startsWith id phone.idPrefix = false →
    ((id, entry) ∈ after.state.phoneInstances ↔ (id, entry) ∈ before.state.phoneInstances)

section Sweep

open PhoneNotificationSource

variable {source : PhoneNotificationSource} {store : Store} {prepared : Prepared}
  {resent : Finset String} {id : String} {entry : PhoneInstance}

theorem mem_ended_of_kept (ended : source.prepareEnd store resent = .ok prepared)
    (member : (id, entry) ∈ store.phoneInstances) (kept : ¬ source.swept resent id entry) :
    (id, entry) ∈ prepared.phoneInstances := by
  rw [(prepareEnd_eq ended).1]
  exact Ordered.mem_mapValues.mpr ⟨entry, member, by rw [if_neg kept]⟩

theorem mem_ended_other (ended : source.prepareEnd store resent = .ok prepared)
    (other : startsWith id source.idPrefix = false) :
    (id, entry) ∈ prepared.phoneInstances ↔ (id, entry) ∈ store.phoneInstances := by
  have unswept : ∀ entry, ¬ source.swept resent id entry := by
    rintro entry ⟨starts, -⟩
    rw [other] at starts
    cases starts
  constructor
  · intro member
    rw [(prepareEnd_eq ended).1] at member
    obtain ⟨old, before, same⟩ := Ordered.mem_mapValues.mp member
    rw [if_neg (unswept old)] at same
    exact same ▸ before
  · exact fun member => mem_ended_of_kept ended member (unswept entry)

end Sweep

omit [DecidableEq ι] in
theorem Tracked.imported {listing : Fingerprint → Option (Finset Nat)} {phone : Fingerprint}
    {source : PhoneNotificationSource} {desktop : Option Desktop} {epoch : Except String String}
    {persist : Persist} (tracked : Tracked host (s, listing))
    (connected : s.source phone = some source)
    (ok : (s.turn host source .snapshotEnd desktop epoch persist).result = .ok ()) :
    ∃ ids, listing phone = some ids ∧ SnapshotImported phone ids (s.world.hub host)
      (s.turn host source .snapshotEnd desktop epoch persist).hub := by
  have follows : source.Follows (Live (s.world.hub host).state.phoneInstances)
      (Live (s.turn host source .snapshotEnd desktop epoch persist).hub.state.phoneInstances)
      .snapshotEnd := tracked.inv.follows ok
  have idPrefix : source.idPrefix = phone.idPrefix := tracked.inv.sources phone source connected
  have turned : source.Turned (s.world.hub host) s.cache .snapshotEnd desktop epoch
      (s.turn host source .snapshotEnd desktop epoch persist) := tracked.inv.turned
  cases turned with
  | kept same refused =>
    rcases refused with start | refused
    · cases start
    · exact absurd ok refused
  | committed seen prepared changed next seeing complete opened prepares queued commits done =>
    have tracks := tracked.tracks phone source connected
    obtain ⟨resent, open'⟩ := Option.isSome_iff_exists.mp (opened rfl)
    obtain ⟨ids, listed⟩ := Option.isSome_iff_exists.mp (tracks.opened ▸ opened rfl)
    obtain ⟨own, inside, present⟩ := tracks.exact resent ids open' listed (complete rfl)
    refine ⟨ids, listed, ?_, ?_, ?_⟩
    · intro id starts
      rw [follows id, idPrefix, open', Option.getD_some]
      constructor
      · rintro ⟨live, member⟩
        obtain ⟨n, rfl⟩ := own id (member starts)
        exact ⟨n, (present n (member starts)).mp live, by rw [← idPrefix]; rfl⟩
      · rintro ⟨n, member, rfl⟩
        have entry : phone.idPrefix ++ toString n = source.entryId n := by rw [← idPrefix]; rfl
        rw [entry]
        exact ⟨(present n (inside n member)).mpr member, fun _ => inside n member⟩
    · intro id entry member live gone
      cases prepares with
      | ended prepared ended =>
        rw [done ok] at gone ⊢
        have swept : source.swept (source.resent.getD ∅) id entry := by
          by_contra kept
          refine gone ⟨entry, ?_, live⟩
          rw [queued.phones]
          exact mem_ended_of_kept ended member kept
        refine queued.removed _ (PhoneNotificationSource.removal_mem_dismissal ?_)
        rw [(PhoneNotificationSource.prepareEnd_eq ended).2]
        exact PhoneNotificationSource.mem_swept_operations.mpr
          ⟨id, entry, member, swept, rfl, rfl⟩
    · intro id entry other
      cases prepares with
      | ended prepared ended =>
        rw [done ok, queued.phones]
        exact mem_ended_other ended (by rw [idPrefix]; exact other)

end Sources

end EdgeKvm.Notification
