import EdgeKvm.Lib.Log
import EdgeKvm.Lib.Machine
import EdgeKvm.Session.Protocol

/-!
# The liveness of a session

`LivenessTracker` and the verdicts of its polls: when the silence of the peer ends the session,
and when it only releases the input. Times are milliseconds.
-/

namespace EdgeKvm.Session

open EdgeKvm.Lib Machine

/-! ## The tracker -/

/-- The timeouts of `LivenessConfig`. -/
structure LivenessConfig where
  softInputTimeout : Nat := 2000
  hardSessionTimeout : Nat := 5000
  deriving DecidableEq, Repr

structure LivenessTracker where
  config : LivenessConfig
  lastAuthenticatedActivity : Nat
  inputActiveSince : Option Nat
  softTimeoutReported : Bool
  hardTimeoutReported : Bool
  deriving DecidableEq, Repr

namespace LivenessTracker

/-- `new`, which asserts the order of the timeouts. -/
def new (config : LivenessConfig) (now : Nat) : Option LivenessTracker :=
  if config.softInputTimeout < config.hardSessionTimeout then
    some {
      config
      lastAuthenticatedActivity := now
      inputActiveSince := none
      softTimeoutReported := false
      hardTimeoutReported := false }
  else none

/-- `observe_authenticated_frame` -/
def observeAuthenticatedFrame (t : LivenessTracker) (now : Nat) : LivenessTracker :=
  { t with
    lastAuthenticatedActivity := now
    softTimeoutReported := false
    hardTimeoutReported := false }

def elapsed (t : LivenessTracker) (now : Nat) : Nat := now - t.lastAuthenticatedActivity

def poll (t : LivenessTracker) (now : Nat) (inputActive : Bool) :
    Option LivenessEvent × LivenessTracker :=
  if t.config.hardSessionTimeout ≤ t.elapsed now ∧ !t.hardTimeoutReported then
    (some .hardSessionTimeout, { t with hardTimeoutReported := true })
  else if !inputActive then
    (none, { t with inputActiveSince := none, softTimeoutReported := false })
  else
    let inputActiveSince := t.inputActiveSince.getD now
    let softTimeoutBaseline := max t.lastAuthenticatedActivity inputActiveSince
    if t.config.softInputTimeout ≤ now - softTimeoutBaseline ∧ !t.softTimeoutReported then
      (some .softInputTimeout,
        { t with inputActiveSince := some inputActiveSince, softTimeoutReported := true })
    else (none, { t with inputActiveSince := some inputActiveSince })

/-- The ways a poll ends. -/
inductive Polled (t : LivenessTracker) (now : Nat) :
    Bool → Option LivenessEvent → LivenessTracker → Prop
  | hard (inputActive : Bool) (due : t.config.hardSessionTimeout ≤ t.elapsed now ∧
        !t.hardTimeoutReported) :
      Polled t now inputActive (some .hardSessionTimeout) { t with hardTimeoutReported := true }
  | inactive (quiet : ¬ (t.config.hardSessionTimeout ≤ t.elapsed now ∧ !t.hardTimeoutReported)) :
      Polled t now false none { t with inputActiveSince := none, softTimeoutReported := false }
  | soft (quiet : ¬ (t.config.hardSessionTimeout ≤ t.elapsed now ∧ !t.hardTimeoutReported))
      (due : t.config.softInputTimeout ≤
          now - max t.lastAuthenticatedActivity (t.inputActiveSince.getD now) ∧
        !t.softTimeoutReported) :
      Polled t now true (some .softInputTimeout)
        { t with
          inputActiveSince := some (t.inputActiveSince.getD now)
          softTimeoutReported := true }
  | active (quiet : ¬ (t.config.hardSessionTimeout ≤ t.elapsed now ∧ !t.hardTimeoutReported))
      (early : ¬ (t.config.softInputTimeout ≤
          now - max t.lastAuthenticatedActivity (t.inputActiveSince.getD now) ∧
        !t.softTimeoutReported)) :
      Polled t now true none { t with inputActiveSince := some (t.inputActiveSince.getD now) }

theorem poll_polled (t : LivenessTracker) (now : Nat) (inputActive : Bool) :
    t.Polled now inputActive (t.poll now inputActive).1 (t.poll now inputActive).2 := by
  unfold poll
  split
  · rename_i due
    exact .hard inputActive due
  · rename_i quiet
    cases inputActive with
    | false => exact .inactive quiet
    | true =>
      rw [if_neg (by simp)]
      dsimp only
      split
      · rename_i due
        exact .soft quiet due
      · rename_i early
        exact .active quiet early

end LivenessTracker

/-! ## Histories -/

inductive LivenessCall where
  | observe (now : Nat)
  | poll (now : Nat) (inputActive : Bool)
  deriving DecidableEq, Repr

def LivenessCall.time : LivenessCall → Nat
  | observe now | poll now _ => now

/-- A call that was made, with the verdict of a poll. -/
inductive LivenessEntry where
  | observed (now : Nat)
  | polled (now : Nat) (inputActive : Bool) (verdict : Option LivenessEvent)
  deriving DecidableEq, Repr

namespace LivenessEntry

def time : LivenessEntry → Nat
  | observed now | polled now _ _ => now

/-- A poll, while the peer is silent. -/
def isPoll : LivenessEntry → Bool
  | observed _ => false
  | polled _ _ _ => true

/-- A poll with active input. -/
def isActive : LivenessEntry → Bool
  | polled _ true _ => true
  | _ => false

end LivenessEntry

/-- A tracker, the time it was made at and the calls since, the latest first. -/
structure WatchedSession where
  tracker : LivenessTracker
  start : Nat
  log : List LivenessEntry
  deriving DecidableEq, Repr

namespace WatchedSession

/-- The time of the latest call. -/
def latest (s : WatchedSession) : Nat := (s.log.head?.map (·.time)).getD s.start

def after (s : WatchedSession) : LivenessCall → WatchedSession
  | .observe now =>
    { s with tracker := s.tracker.observeAuthenticatedFrame now, log := .observed now :: s.log }
  | .poll now inputActive =>
    { s with
      tracker := (s.tracker.poll now inputActive).2
      log := .polled now inputActive (s.tracker.poll now inputActive).1 :: s.log }

/-- The calls in the order of their times. -/
def calls : Machine WatchedSession LivenessCall where
  exec s call := if s.latest ≤ call.time then some (s.after call) else none

/-- A tracker that was just made. -/
structure Started (s : WatchedSession) : Prop where
  tracker : LivenessTracker.new s.tracker.config s.start = some s.tracker
  log : s.log = []

end WatchedSession

/-! ## The law of the verdicts -/

section Law

variable (config : LivenessConfig) (start : Nat)

/-- The time of the last observation in a log with the latest call first; a tracker starts with
    one. -/
def lastObservation : List LivenessEntry → Nat
  | [] => start
  | .observed now :: _ => now
  | .polled _ _ _ :: earlier => lastObservation earlier

/-- The polls since the last observation. -/
def silence (log : List LivenessEntry) : List LivenessEntry := log.takeWhile (·.isPoll)

/-- The times of the latest polls as long as each has active input. -/
def activePolls (log : List LivenessEntry) : List Nat :=
  ((log.filter (·.isPoll)).takeWhile (·.isActive)).map (·.time)

/-- The calls since the last observation and the last poll without active input. -/
def sinceReset (log : List LivenessEntry) : List LivenessEntry := log.takeWhile (·.isActive)

/-- A poll at `now` is the first of the silence behind the hard timeout. -/
def HardDue (earlier : List LivenessEntry) (now : Nat) : Prop :=
  config.hardSessionTimeout ≤ now - lastObservation start earlier ∧
    ∀ poll ∈ silence earlier,
      poll.time - lastObservation start earlier < config.hardSessionTimeout

instance (earlier : List LivenessEntry) (now : Nat) :
    Decidable (HardDue config start earlier now) :=
  inferInstanceAs (Decidable (_ ∧ _))

/-- A poll at `now` finds input active for the soft timeout, in a silence of that length. -/
def SoftDue (earlier : List LivenessEntry) (now : Nat) (inputActive : Bool) : Prop :=
  inputActive = true ∧
    (∃ s ∈ now :: activePolls earlier,
      config.softInputTimeout ≤ now - max s (lastObservation start earlier)) ∧
    ¬ HardDue config start earlier now ∧
    ∀ now' inputActive', .polled now' inputActive' (some .softInputTimeout) ∉ sinceReset earlier

/-- The verdict of a poll is the one its history asks for. -/
def Judged : LivenessEntry → List LivenessEntry → Prop
  | .observed _, _ => True
  | .polled now inputActive verdict, earlier =>
    (verdict = some .hardSessionTimeout ↔ HardDue config start earlier now) ∧
      (verdict = some .softInputTimeout ↔ SoftDue config start earlier now inputActive)

/-- The input was active at the last poll. -/
def wasActive (log : List LivenessEntry) : Bool :=
  (log.find? (·.isPoll)).any (·.isActive)

/-- A poll that gives the hard verdict finds the input as active as the poll before it. -/
def WatchedSession.Steady (s : WatchedSession) : LivenessCall → Prop
  | .observe _ => True
  | .poll now inputActive =>
    HardDue s.tracker.config s.start s.log now → inputActive = wasActive s.log

instance (s : WatchedSession) (call : LivenessCall) : Decidable (s.Steady call) :=
  match call with
  | .observe _ => inferInstanceAs (Decidable True)
  | .poll _ _ => inferInstanceAs (Decidable (_ → _))

end Law

/-! ## What the tracker remembers -/

section Memory

variable {config : LivenessConfig} {start now : Nat} {inputActive : Bool}
  {verdict : Option LivenessEvent} {log : List LivenessEntry} {s : WatchedSession}

@[simp] theorem silence_observed : silence (.observed now :: log) = [] := rfl

@[simp] theorem silence_polled :
    silence (.polled now inputActive verdict :: log) =
      .polled now inputActive verdict :: silence log := rfl

@[simp] theorem activePolls_observed : activePolls (.observed now :: log) = activePolls log := rfl

@[simp] theorem activePolls_active :
    activePolls (.polled now true verdict :: log) = now :: activePolls log := rfl

@[simp] theorem activePolls_inactive : activePolls (.polled now false verdict :: log) = [] := rfl

@[simp] theorem sinceReset_observed : sinceReset (.observed now :: log) = [] := rfl

@[simp] theorem sinceReset_active :
    sinceReset (.polled now true verdict :: log) = .polled now true verdict :: sinceReset log := rfl

@[simp] theorem sinceReset_inactive : sinceReset (.polled now false verdict :: log) = [] := rfl

/-- Without input at the last poll no poll counts as active. -/
theorem activePolls_of_inactive (inactive : wasActive log = false) : activePolls log = [] := by
  induction log with
  | nil => rfl
  | cons entry log ih =>
    cases entry with
    | observed now => exact ih inactive
    | polled now inputActive verdict =>
      cases inputActive with
      | true => cases inactive
      | false => rfl

theorem sinceReset_of_inactive (inactive : wasActive log = false) : sinceReset log = [] := by
  cases log with
  | nil => rfl
  | cons entry log =>
    cases entry with
    | observed now => rfl
    | polled now inputActive verdict =>
      cases inputActive with
      | true => cases inactive
      | false => rfl

theorem activePolls_of_active (active : wasActive log = true) : activePolls log ≠ [] := by
  induction log with
  | nil => cases active
  | cons entry log ih =>
    cases entry with
    | observed now => exact ih active
    | polled now inputActive verdict =>
      cases inputActive with
      | true => simp
      | false => cases active

/-- The times of the active polls are among those of the log. -/
theorem mem_activePolls {time : Nat} (found : time ∈ activePolls log) :
    ∃ entry ∈ log, entry.time = time := by
  obtain ⟨entry, listed, rfl⟩ := List.mem_map.mp found
  have polled := (List.takeWhile_sublist _).subset listed
  exact ⟨entry, List.mem_of_mem_filter polled, rfl⟩

/-- The calls of a log stand in the order of their times. -/
def InOrder (log : List LivenessEntry) : Prop :=
  log.Pairwise fun later earlier => earlier.time ≤ later.time

/-- The first of the active polls. -/
theorem first_activePoll (ordered : InOrder log) {since : Nat}
    (first : (activePolls log).getLast? = some since) :
    since ∈ activePolls log ∧ ∀ time ∈ activePolls log, since ≤ time := by
  have falling : (activePolls log).Pairwise fun later earlier => earlier ≤ later := by
    refine List.pairwise_map.mpr ?_
    exact (ordered.filter _).sublist (List.takeWhile_sublist _)
  obtain ⟨later, same⟩ := List.getLast?_eq_some_iff.mp first
  rw [same] at falling ⊢
  refine ⟨by simp, fun time found => ?_⟩
  rcases List.mem_append.mp found with found | found
  · exact (List.pairwise_append.mp falling).2.2 time found since (by simp)
  · obtain rfl := List.mem_singleton.mp found
    exact Nat.le_refl _

/-- No call of the log is later than the latest one. -/
theorem WatchedSession.time_le_latest (ordered : InOrder s.log) :
    ∀ entry ∈ s.log, entry.time ≤ s.latest := by
  intro entry found
  unfold latest
  cases log : s.log with
  | nil =>
    rw [log] at found
    cases found
  | cons newest earlier =>
    rw [log] at found ordered
    rcases List.mem_cons.mp found with rfl | found
    · exact Nat.le_refl _
    · exact (List.pairwise_cons.mp ordered).1 entry found

/-- The fields of the tracker as the log has them. -/
structure Remembers (timeouts : LivenessConfig) (began : Nat) (s : WatchedSession) : Prop where
  config : s.tracker.config = timeouts
  start : s.start = began
  activity : s.tracker.lastAuthenticatedActivity = lastObservation began s.log
  hard : s.tracker.hardTimeoutReported = true ↔ ∃ poll ∈ silence s.log,
    timeouts.hardSessionTimeout ≤ poll.time - lastObservation began s.log
  since : s.tracker.inputActiveSince = (activePolls s.log).getLast?
  soft : s.tracker.softTimeoutReported = true ↔ ∃ now inputActive,
    .polled now inputActive (some .softInputTimeout) ∈ sinceReset s.log
  ordered : InOrder s.log

namespace Remembers

/-- The first test of a poll. -/
theorem hardDue (kept : Remembers config start s) :
    (s.tracker.config.hardSessionTimeout ≤ s.tracker.elapsed now ∧
      !s.tracker.hardTimeoutReported) ↔ HardDue config start s.log now := by
  have silent : (!s.tracker.hardTimeoutReported) = true ↔ ∀ poll ∈ silence s.log,
      poll.time - lastObservation start s.log < config.hardSessionTimeout := by
    rw [Bool.not_eq_true', ← Bool.not_eq_true, kept.hard]
    simp only [not_exists, not_and, Nat.not_le]
  unfold LivenessTracker.elapsed HardDue
  rw [kept.config, kept.activity, silent]

/-- The last test of a poll, at which input is active. -/
theorem softDue (kept : Remembers config start s) (late : s.latest ≤ now)
    (quiet : ¬ HardDue config start s.log now) :
    (config.softInputTimeout ≤
        now - max s.tracker.lastAuthenticatedActivity (s.tracker.inputActiveSince.getD now) ∧
      !s.tracker.softTimeoutReported) ↔ SoftDue config start s.log now true := by
  have unreported : (!s.tracker.softTimeoutReported) = true ↔ ∀ now' inputActive',
      .polled now' inputActive' (some .softInputTimeout) ∉ sinceReset s.log := by
    rw [Bool.not_eq_true', ← Bool.not_eq_true, kept.soft]
    simp only [not_exists]
  have passed : config.softInputTimeout ≤
        now - max s.tracker.lastAuthenticatedActivity (s.tracker.inputActiveSince.getD now) ↔
      ∃ since ∈ now :: activePolls s.log,
        config.softInputTimeout ≤ now - max since (lastObservation start s.log) := by
    rw [kept.activity, kept.since]
    cases first : (activePolls s.log).getLast? with
    | none =>
      rw [List.getLast?_eq_none_iff.mp first]
      simp [Nat.max_comm]
    | some since =>
      obtain ⟨listed, least⟩ := first_activePoll kept.ordered first
      simp only [Option.getD_some]
      constructor
      · intro long
        exact ⟨since, List.mem_cons_of_mem _ listed, by rwa [Nat.max_comm]⟩
      · rintro ⟨time, found, long⟩
        have earlier : since ≤ time := by
          rcases List.mem_cons.mp found with rfl | found
          · obtain ⟨entry, logged, rfl⟩ := mem_activePolls listed
            exact Nat.le_trans (WatchedSession.time_le_latest kept.ordered entry logged) late
          · exact least time found
        omega
  rw [passed, unreported]
  unfold SoftDue
  simp [quiet]

/-- A poll gives the verdict its history asks for. -/
theorem judged (kept : Remembers config start s) (late : s.latest ≤ now) :
    Judged config start (.polled now inputActive (s.tracker.poll now inputActive).1) s.log := by
  have polled := s.tracker.poll_polled now inputActive
  revert polled
  generalize s.tracker.poll now inputActive = done
  obtain ⟨verdict, tracker⟩ := done
  intro polled
  cases polled with
  | hard inputActive due =>
    have silent := kept.hardDue.mp due
    simp [Judged, silent, SoftDue]
  | inactive quiet =>
    rw [kept.hardDue] at quiet
    simp [Judged, quiet, SoftDue]
  | soft quiet due =>
    rw [kept.hardDue] at quiet
    rw [kept.config, kept.softDue late quiet] at due
    simp [Judged, quiet, due]
  | active quiet early =>
    rw [kept.hardDue] at quiet
    rw [kept.config, kept.softDue late quiet] at early
    simp [Judged, quiet, early]

/-- A call later than the log. -/
theorem inOrder_cons (ordered : InOrder s.log) {entry : LivenessEntry}
    (late : s.latest ≤ entry.time) : InOrder (entry :: s.log) :=
  List.pairwise_cons.mpr ⟨fun earlier logged =>
    Nat.le_trans (WatchedSession.time_le_latest ordered earlier logged) late, ordered⟩

theorem observe (kept : Remembers config start s) (late : s.latest ≤ now) :
    Remembers config start (s.after (.observe now)) where
  config := kept.config
  start := kept.start
  activity := rfl
  hard := by simp [WatchedSession.after, LivenessTracker.observeAuthenticatedFrame]
  since := kept.since
  soft := by simp [WatchedSession.after, LivenessTracker.observeAuthenticatedFrame]
  ordered := inOrder_cons kept.ordered late

/-- A poll without the hard verdict changes nothing about it. -/
theorem hard_of_quiet (kept : Remembers config start s)
    (quiet : ¬ (s.tracker.config.hardSessionTimeout ≤ s.tracker.elapsed now ∧
      !s.tracker.hardTimeoutReported)) :
    s.tracker.hardTimeoutReported = true ↔
      ∃ poll ∈ silence (.polled now inputActive verdict :: s.log),
        config.hardSessionTimeout ≤ poll.time - lastObservation start s.log := by
  rw [silence_polled, kept.hard]
  simp only [List.mem_cons, exists_eq_or_imp]
  constructor
  · exact .inr
  · rintro (long | earlier)
    · refine kept.hard.mp ?_
      rw [kept.config, LivenessTracker.elapsed, kept.activity] at quiet
      simpa using fun unreported => quiet ⟨long, unreported⟩
    · exact earlier

/-- The first of the active polls is remembered. -/
theorem since_active (kept : Remembers config start s) :
    some (s.tracker.inputActiveSince.getD now) =
      (activePolls (.polled now true verdict :: s.log)).getLast? := by
  rw [activePolls_active, List.getLast?_cons, kept.since]

theorem polled (kept : Remembers config start s) {tracker : LivenessTracker}
    (late : s.latest ≤ now) (steady : s.Steady (.poll now inputActive))
    (polled : s.tracker.Polled now inputActive verdict tracker) :
    Remembers config start
      { s with tracker, log := .polled now inputActive verdict :: s.log } := by
  have ordered : InOrder (.polled now inputActive verdict :: s.log) :=
    inOrder_cons kept.ordered late
  cases polled with
  | hard inputActive due =>
    have silent := kept.hardDue.mp due
    have same : inputActive = wasActive s.log := by
      refine steady ?_
      rwa [kept.config, kept.start]
    refine ⟨kept.config, kept.start, kept.activity, ?_, ?_, ?_, ordered⟩
    · simpa using .inl silent.1
    · cases inputActive with
      | false => simpa [activePolls_of_inactive same.symm] using kept.since
      | true =>
        rw [activePolls_active, List.getLast?_cons_of_ne_nil (activePolls_of_active same.symm)]
        exact kept.since
    · cases inputActive with
      | false =>
        have none := kept.soft
        rw [sinceReset_of_inactive same.symm] at none
        simpa using none
      | true => simpa using kept.soft
  | inactive quiet =>
    exact ⟨kept.config, kept.start, kept.activity, kept.hard_of_quiet quiet, rfl, by simp, ordered⟩
  | soft quiet due =>
    refine ⟨kept.config, kept.start, kept.activity, kept.hard_of_quiet quiet, kept.since_active, ?_,
      ordered⟩
    exact ⟨fun _ => ⟨now, true, by simp⟩, fun _ => rfl⟩
  | active quiet early =>
    refine ⟨kept.config, kept.start, kept.activity, kept.hard_of_quiet quiet, kept.since_active, ?_,
      ordered⟩
    simpa using kept.soft

theorem of_started (started : s.Started) : Remembers s.tracker.config s.start s := by
  have made := started.tracker
  unfold LivenessTracker.new at made
  split at made
  · have fresh := Option.some.inj made
    have ordered : InOrder s.log := by
      rw [started.log]
      exact List.Pairwise.nil
    refine ⟨rfl, rfl, ?_, ?_, ?_, ?_, ordered⟩ <;> rw [← fresh, started.log]
    · rfl
    · simp [silence]
    · rfl
    · simp [sinceReset]
  · cases made

end Remembers

end Memory

/-! ## The verdicts of a session -/

def newWatched : WatchedSession where
  tracker := {
    config := {}
    lastAuthenticatedActivity := 0
    inputActiveSince := none
    softTimeoutReported := false
    hardTimeoutReported := false }
  start := 0
  log := []

theorem newWatched_started : newWatched.Started := ⟨rfl, rfl⟩

/-- Input stays active while the peer falls silent. -/
def silentPeer : List LivenessCall :=
  [.poll 0 true, .observe 1000, .poll 3000 true, .poll 6000 true]

/-- Input is active, then not at the poll with the hard verdict, then active again. -/
def interruptedInput : List LivenessCall := [.poll 0 true, .poll 5000 false, .poll 5000 true]

end EdgeKvm.Session
