import EdgeKvm.Audio.JitterBuffer
import EdgeKvm.Lib.Machine

/-!
# Reports of lost audio

`AudioLossReporter`: warnings about concealed packets and dropped output frames, at most one in an
interval. Times are milliseconds, counters are unbounded.
-/

namespace EdgeKvm.Audio

open EdgeKvm.Lib Machine

/-! ## Counters -/

/-- `AUDIO_LOSS_WARNING_INTERVAL` -/
def audioLossWarningInterval : Nat := 250

structure PlaybackStats where
  authenticatedPackets : Nat := 0
  rejectedPackets : Nat := 0
  latePackets : Nat := 0
  concealedPackets : Nat := 0
  outputUnderruns : Nat := 0
  droppedOutputFrames : Nat := 0
  queuedOutputSamples : Nat := 0
  outputSamplesPerMs : Nat := 0
  outputFramesPerMs : Nat := 0
  deriving DecidableEq, Repr

structure PlaybackStatsSnapshot where
  authenticatedPackets : Nat := 0
  rejectedPackets : Nat := 0
  latePackets : Nat := 0
  concealedPackets : Nat := 0
  outputUnderruns : Nat := 0
  droppedOutputFrames : Nat := 0
  droppedOutputMs : Nat := 0
  queuedOutputMs : Nat := 0
  deriving DecidableEq, Repr

def PlaybackStats.snapshot (stats : PlaybackStats) : PlaybackStatsSnapshot where
  authenticatedPackets := stats.authenticatedPackets
  rejectedPackets := stats.rejectedPackets
  latePackets := stats.latePackets
  concealedPackets := stats.concealedPackets
  outputUnderruns := stats.outputUnderruns
  droppedOutputFrames := stats.droppedOutputFrames
  droppedOutputMs := stats.droppedOutputFrames / max stats.outputFramesPerMs 1
  queuedOutputMs := stats.queuedOutputSamples / max stats.outputSamplesPerMs 1

/-- The counters that tell of losses do not go back. -/
structure PlaybackStatsSnapshot.Before (earlier later : PlaybackStatsSnapshot) : Prop where
  concealed : earlier.concealedPackets ≤ later.concealedPackets
  frames : earlier.droppedOutputFrames ≤ later.droppedOutputFrames
  ms : earlier.droppedOutputMs ≤ later.droppedOutputMs

instance (earlier later : PlaybackStatsSnapshot) : Decidable (earlier.Before later) :=
  decidable_of_iff (earlier.concealedPackets ≤ later.concealedPackets ∧
      earlier.droppedOutputFrames ≤ later.droppedOutputFrames ∧
      earlier.droppedOutputMs ≤ later.droppedOutputMs)
    ⟨fun all => ⟨all.1, all.2.1, all.2.2⟩, fun all => ⟨all.concealed, all.frames, all.ms⟩⟩

/-- Snapshots of counters that grow, of an output at one rate. -/
theorem PlaybackStats.snapshot_before {earlier later : PlaybackStats}
    (concealed : earlier.concealedPackets ≤ later.concealedPackets)
    (frames : earlier.droppedOutputFrames ≤ later.droppedOutputFrames)
    (rate : earlier.outputFramesPerMs = later.outputFramesPerMs) :
    earlier.snapshot.Before later.snapshot where
  concealed := concealed
  frames := frames
  ms := by
    unfold PlaybackStats.snapshot
    rw [rate]
    exact Nat.div_le_div_right frames

/-! ## The reporter -/

structure AudioLossReport where
  concealedPackets : Nat
  concealedMs : Nat
  droppedOutputMs : Nat
  droppedOutputFrames : Nat
  deriving DecidableEq, Repr

structure AudioLossReporter where
  reported : PlaybackStatsSnapshot := {}
  lastWarning : Option Nat := none
  deriving DecidableEq, Repr

namespace AudioLossReporter

/-- The losses since the last report; the milliseconds of the packets wrap. -/
def pending (r : AudioLossReporter) (current : PlaybackStatsSnapshot) : AudioLossReport :=
  let concealedPackets := current.concealedPackets - r.reported.concealedPackets
  { concealedPackets
    concealedMs := concealedPackets * frameMs % 2 ^ 64
    droppedOutputMs := current.droppedOutputMs - r.reported.droppedOutputMs
    droppedOutputFrames := current.droppedOutputFrames - r.reported.droppedOutputFrames }

def check (r : AudioLossReporter) (current : PlaybackStatsSnapshot) (now : Nat) :
    Option AudioLossReport × AudioLossReporter :=
  let report := r.pending current
  if report.concealedPackets = 0 ∧ report.droppedOutputFrames = 0 then (none, r)
  else if r.lastWarning.any fun last => now - last < audioLossWarningInterval then (none, r)
  else (some report, { reported := current, lastWarning := some now })

/-- A check reports what is pending, or leaves it pending. -/
theorem check_cases (r : AudioLossReporter) (current : PlaybackStatsSnapshot) (now : Nat) :
    (r.check current now = (none, r) ∧
      (((r.pending current).concealedPackets = 0 ∧ (r.pending current).droppedOutputFrames = 0) ∨
        ∃ last, r.lastWarning = some last ∧ now - last < audioLossWarningInterval)) ∨
    (r.check current now =
        (some (r.pending current), { reported := current, lastWarning := some now }) ∧
      ∀ last, r.lastWarning = some last → audioLossWarningInterval ≤ now - last) := by
  unfold check
  dsimp only
  by_cases none : (r.pending current).concealedPackets = 0 ∧
      (r.pending current).droppedOutputFrames = 0
  · exact .inl ⟨if_pos none, .inl none⟩
  · rw [if_neg none]
    by_cases soon : r.lastWarning.any fun last => now - last < audioLossWarningInterval
    · obtain ⟨last, warned, early⟩ := (Option.any_eq_true _ _).mp soon
      exact .inl ⟨if_pos soon, .inr ⟨last, warned, of_decide_eq_true early⟩⟩
    · refine .inr ⟨if_neg soon, fun last warned => ?_⟩
      simpa [warned] using soon

end AudioLossReporter

/-! ## Runs -/

/-- A reporter, the snapshot and the time of the last check, and the reports, the latest first. -/
structure LossRun where
  reporter : AudioLossReporter := {}
  current : PlaybackStatsSnapshot := {}
  latest : Nat := 0
  reports : List (Nat × AudioLossReport) := []
  deriving DecidableEq, Repr

namespace LossRun

def after (s : LossRun) (current : PlaybackStatsSnapshot) (now : Nat) : LossRun where
  reporter := (s.reporter.check current now).2
  current := current
  latest := now
  reports := ((s.reporter.check current now).1.map fun report => (now, report)).toList ++ s.reports

/-- Checks of counters and times that do not go back. -/
def checks : Machine LossRun (PlaybackStatsSnapshot × Nat) where
  exec s check :=
    if s.current.Before check.1 ∧ s.latest ≤ check.2 then some (s.after check.1 check.2) else none

end LossRun

/-- The total of a field of the reports. -/
def reportedTotal (field : AudioLossReport → Nat) : List (Nat × AudioLossReport) → Nat
  | [] => 0
  | report :: reports => field report.2 + reportedTotal field reports

/-- The reports add up: with what is pending they make the whole growth of each counter. They are
    an interval apart, and a check an interval behind the last one reports any loss. -/
structure LossRun.AddsUp (s : LossRun) : Prop where
  concealed : reportedTotal (·.concealedPackets) s.reports +
    (s.reporter.pending s.current).concealedPackets = s.current.concealedPackets
  frames : reportedTotal (·.droppedOutputFrames) s.reports +
    (s.reporter.pending s.current).droppedOutputFrames = s.current.droppedOutputFrames
  ms : reportedTotal (·.droppedOutputMs) s.reports +
    (s.reporter.pending s.current).droppedOutputMs = s.current.droppedOutputMs
  apart : s.reports.Pairwise fun later earlier =>
    earlier.1 + audioLossWarningInterval ≤ later.1
  prompt : ∀ current now t, LossRun.checks.exec s (current, now) = some t →
    ((s.reporter.pending current).concealedPackets ≠ 0 ∨
      (s.reporter.pending current).droppedOutputFrames ≠ 0) →
    (∀ report ∈ s.reports, report.1 + audioLossWarningInterval ≤ now) →
      t.reports = (now, s.reporter.pending current) :: s.reports

namespace LossRun

variable {s t : LossRun} {current : PlaybackStatsSnapshot} {now : Nat}

/-- What holds in every reachable state. -/
structure Inv (s : LossRun) : Prop where
  concealed : reportedTotal (·.concealedPackets) s.reports = s.reporter.reported.concealedPackets
  frames : reportedTotal (·.droppedOutputFrames) s.reports =
    s.reporter.reported.droppedOutputFrames
  ms : reportedTotal (·.droppedOutputMs) s.reports = s.reporter.reported.droppedOutputMs
  behind : s.reporter.reported.Before s.current
  warned : s.reporter.lastWarning = s.reports.head?.map (·.1)
  apart : s.reports.Pairwise fun later earlier =>
    earlier.1 + audioLossWarningInterval ≤ later.1

theorem Inv.started : Inv {} where
  concealed := rfl
  frames := rfl
  ms := rfl
  behind := ⟨Nat.le_refl _, Nat.le_refl _, Nat.le_refl _⟩
  warned := rfl
  apart := List.Pairwise.nil

theorem Inv.after (inv : s.Inv) (before : s.current.Before current) :
    (s.after current now).Inv := by
  have onward : s.reporter.reported.Before current :=
    ⟨Nat.le_trans inv.behind.concealed before.concealed,
      Nat.le_trans inv.behind.frames before.frames, Nat.le_trans inv.behind.ms before.ms⟩
  unfold LossRun.after
  rcases s.reporter.check_cases current now with ⟨held, -⟩ | ⟨reports, rested⟩
  · rw [held]
    exact ⟨inv.concealed, inv.frames, inv.ms, onward, inv.warned, inv.apart⟩
  · rw [reports]
    refine ⟨?_, ?_, ?_, ⟨Nat.le_refl _, Nat.le_refl _, Nat.le_refl _⟩, rfl, ?_⟩
    · show (s.reporter.pending current).concealedPackets +
        reportedTotal (·.concealedPackets) s.reports = current.concealedPackets
      rw [inv.concealed]
      exact Nat.sub_add_cancel onward.concealed
    · show (s.reporter.pending current).droppedOutputFrames +
        reportedTotal (·.droppedOutputFrames) s.reports = current.droppedOutputFrames
      rw [inv.frames]
      exact Nat.sub_add_cancel onward.frames
    · show (s.reporter.pending current).droppedOutputMs +
        reportedTotal (·.droppedOutputMs) s.reports = current.droppedOutputMs
      rw [inv.ms]
      exact Nat.sub_add_cancel onward.ms
    · refine List.pairwise_cons.mpr ⟨fun report found => ?_, inv.apart⟩
      have warned := inv.warned
      cases listed : s.reports with
      | nil =>
        rw [listed] at found
        cases found
      | cons last earlier =>
        have interval := rested last.1 (by rw [warned, listed]; rfl)
        have apart := inv.apart
        rw [listed] at found apart
        unfold audioLossWarningInterval at interval apart ⊢
        show report.1 + 250 ≤ now
        rcases List.mem_cons.mp found with rfl | old
        · omega
        · have spaced := (List.pairwise_cons.mp apart).1 report old
          omega

theorem Inv.addsUp (inv : s.Inv) : s.AddsUp where
  concealed := by
    rw [inv.concealed]
    exact Nat.add_sub_cancel' inv.behind.concealed
  frames := by
    rw [inv.frames]
    exact Nat.add_sub_cancel' inv.behind.frames
  ms := by
    rw [inv.ms]
    exact Nat.add_sub_cancel' inv.behind.ms
  apart := inv.apart
  prompt := by
    intro current now t executed lost rested
    unfold checks at executed
    simp only at executed
    split at executed
    · cases executed
      unfold LossRun.after
      rcases s.reporter.check_cases current now with ⟨-, none | ⟨last, warned, soon⟩⟩ | ⟨reports, -⟩
      · exact absurd none (by rwa [not_and_or])
      · rw [inv.warned] at warned
        obtain ⟨report, head, rfl⟩ := Option.map_eq_some_iff.mp warned
        have interval := rested report (List.mem_of_head? head)
        omega
      · rw [reports]
        rfl
    · cases executed

end LossRun

/-- The reports of every sequence of checks add up. -/
theorem loss_reports_add_up {s : LossRun} (run : LossRun.checks.Run anyAction {} s) :
    s.AddsUp := by
  have inv : s.Inv := by
    refine run.invariant ?_ LossRun.Inv.started
    rintro s check t - executed inv
    unfold LossRun.checks at executed
    simp only at executed
    split at executed
    · rename_i later
      cases executed
      exact inv.after later.1
    · cases executed
  exact inv.addsUp

/-- Losses at once, within the interval and behind it. -/
def threeLosses : List (PlaybackStatsSnapshot × Nat) :=
  [({ concealedPackets := 2 }, 0),
    ({ concealedPackets := 5, droppedOutputFrames := 4800, droppedOutputMs := 100 }, 100),
    ({ concealedPackets := 5, droppedOutputFrames := 4810, droppedOutputMs := 100 }, 250)]

theorem loss_reports_add_up_three : (LossRun.checks.reach {} threeLosses).AddsUp :=
  loss_reports_add_up (run_reach threeLosses (by decide +kernel))

end EdgeKvm.Audio
