import EdgeKvm.Notification.PhoneRemovals

/-!
# The lifecycle of phone notifications

What a complete snapshot leaves at the host, what alone withdraws a notification, and that a
removed one stays removed while its identity gets a new instance.
-/

namespace EdgeKvm.Notification

open EdgeKvm.Lib EdgeKvm.Lib.Machine

universe u

variable {ι : Type u} [DecidableEq ι] {host : Option ι} {s s' start : PhoneHistory ι}

/-- The phones' computer starts as the system does, with no phone connected. -/
structure PhoneHistory.Initial (s : PhoneHistory ι) : Prop where
  world : s.world.Initial
  source : ∀ phone, s.source phone = none

omit [DecidableEq ι] in
theorem PhoneHistory.Initial.phoneInstances (initial : s.Initial) :
    (s.world.hub host).state.phoneInstances = [] := by
  cases host with
  | none =>
    obtain ⟨config, epoch, -, same⟩ := initial.world.coordinator
    rw [World.hub, same]
    rfl
  | some i =>
    obtain ⟨config, -, -, same⟩ := initial.world.replica i
    rw [World.hub, same]
    rfl

omit [DecidableEq ι] in
theorem PhoneHistory.Initial.inv (initial : s.Initial) : s.Inv host := by
  have fresh : ∃ config epoch, s.world.hub host =
      .start config (s.world.hub host).identity epoch := by
    cases host with
    | none =>
      obtain ⟨config, epoch, -, same⟩ := initial.world.coordinator
      exact ⟨config, epoch, same⟩
    | some i =>
      obtain ⟨config, -, -, same⟩ := initial.world.replica i
      exact ⟨config, "", same⟩
  obtain ⟨config, epoch, same⟩ := fresh
  have empty : (s.world.hub host).state.phoneInstances = [] ∧
      (s.world.hub host).state.pending = [] ∧
      (s.world.hub host).disk = (s.world.hub host).state := by
    rw [same]
    exact ⟨rfl, rfl, rfl⟩
  obtain ⟨phones, pending, disk⟩ := empty
  have lifetimes : (s.world.hub host).state.Lifetimes (s.world.hub host).identity := by
    refine ⟨?_, fun id entry member => ?_⟩
    · rw [phones]
      exact .nil
    · rw [phones] at member
      cases member
  refine ⟨initial.world.inv, fun _ => ⟨pending, by rw [disk, pending]⟩, lifetimes,
    by rw [disk]; exact lifetimes, fun phone source found => ?_⟩
  rw [initial.source phone] at found
  cases found

/-- The same run without the phones' listings. -/
theorem run_phones {x y : PhoneHistory ι × (Fingerprint → Option (Finset Nat))}
    (run : (phonesListing ι host).Run anyAction x y) :
    (phones ι host).Run anyAction x.1 y.1 := by
  induction run with
  | refl => exact .refl
  | tail _ step ih =>
    obtain ⟨action, -, executed⟩ := step
    exact ih.trans (.head trivial (exec_recording.mp executed).1 .refl)

def samplePhone : Fingerprint := 
  ⟨"33333333333333333333333333333333", List.all_eq_true.mp (by decide +kernel)⟩

def samplePhonePost (id : Nat) : NotificationEvent :=
  .posted { id, appName := "Messages", title := "Hello", body := "", iconPng := none, postedMs := 1 }

/-- An event of the phone on a computer without a desktop. -/
def samplePhoneEvent (event : NotificationEvent) (epoch : String) : PhoneAction Unit :=
  .event samplePhone event none (.ok epoch) .stored

/-- The phone lists two notifications, and removes the second before the snapshot ends. -/
def samplePhoneActions : List (PhoneAction Unit) :=
  [.connect samplePhone "Phone", samplePhoneEvent .snapshotStart "",
    samplePhoneEvent (samplePhonePost 1) "a1", samplePhoneEvent (samplePhonePost 2) "a2",
    samplePhoneEvent (.removed 2) ""]

def samplePhoneStart : PhoneHistory Unit := { world := sampleStart }

def samplePhoneListed : PhoneHistory Unit × (Fingerprint → Option (Finset Nat)) :=
  (phonesListing Unit none).reach (samplePhoneStart, fun _ => none) samplePhoneActions

def samplePhoneSource : PhoneNotificationSource :=
  (samplePhoneListed.1.source samplePhone).get (by decide +kernel)

/-- The turn of the snapshot's end. -/
def samplePhoneEnd : PhoneNotificationSource.Turn :=
  samplePhoneListed.1.turn none samplePhoneSource .snapshotEnd none (.ok "") .stored

theorem samplePhoneStart_initial : samplePhoneStart.Initial := ⟨sampleStart_initial, fun _ => rfl⟩

end EdgeKvm.Notification
