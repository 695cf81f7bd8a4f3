import EdgeKvm.Lib.Spaced
import EdgeKvm.Pairing.Window
import Mathlib.Data.List.Induction

/-!
# Attempts on the pairing window

What an address gets from `PairingWindow::check` depends on its own attempts. `compared` lists the
attempts whose token was compared and found wrong; they alone limit an address.
-/

namespace EdgeKvm.Pairing

open EdgeKvm.Lib

/-! ## Comparing tokens -/

/-- `constant_time_eq` -/
def constantTimeEq (left right : List UInt8) : Bool :=
  left.length = right.length &&
    (left.zip right).foldl (fun difference pair => difference ||| (pair.1 ^^^ pair.2)) 0 = 0

theorem foldl_difference_eq_zero (pairs : List (UInt8 × UInt8)) (difference : UInt8) :
    pairs.foldl (fun difference pair => difference ||| (pair.1 ^^^ pair.2)) difference = 0 ↔
      difference = 0 ∧ ∀ pair ∈ pairs, pair.1 = pair.2 := by
  induction pairs generalizing difference with
  | nil => simp
  | cons pair pairs ih =>
    rw [List.foldl_cons, ih, UInt8.or_eq_zero_iff, UInt8.xor_eq_zero_iff, List.forall_mem_cons,
      and_assoc]

/-- The comparison looks at every byte, and is an equality nevertheless. -/
theorem constantTimeEq_iff (left right : List UInt8) :
    constantTimeEq left right = true ↔ left = right := by
  unfold constantTimeEq
  rw [Bool.and_eq_true, decide_eq_true_iff, decide_eq_true_iff, foldl_difference_eq_zero]
  constructor
  · rintro ⟨length, -, same⟩
    refine List.ext_getElem length fun i inLeft inRight => ?_
    have member : (left[i], right[i]) ∈ left.zip right := by
      rw [← List.getElem_zip (h := by rw [List.length_zip]; omega)]
      exact List.getElem_mem _
    exact same _ member
  · rintro rfl
    refine ⟨rfl, rfl, ?_⟩
    rintro ⟨a, b⟩ found
    obtain ⟨i, bound, pair⟩ := List.mem_iff_getElem.mp found
    rw [List.getElem_zip, Prod.mk.injEq] at pair
    exact pair.1.symm.trans pair.2

/-! ## Sequences of attempts -/

/-- A call of `PairingWindow::check`. -/
structure Attempt where
  token : String
  ip : IpAddr
  now : Instant
  deriving DecidableEq, Repr

/-- A window, and the attempts so far whose token was compared and is wrong, newest first. -/
structure WindowRun where
  window : PairingWindow
  wrong : List (IpAddr × Instant) := []

namespace WindowRun

/-- What the next attempt gets. -/
def verdict (run : WindowRun) (attempt : Attempt) : Except PairingRefusal Unit :=
  (run.window.check attempt.token attempt.ip attempt.now).1

def attempt (run : WindowRun) (attempt : Attempt) : WindowRun where
  window := (run.window.check attempt.token attempt.ip attempt.now).2
  wrong :=
    if run.verdict attempt = .error .wrongToken then (attempt.ip, attempt.now) :: run.wrong
    else run.wrong

/-- A window with this token, opened at `opened`, after the attempts. -/
def after (token : String) (opened : Instant) (attempts : List Attempt) : WindowRun :=
  attempts.foldl attempt { window := .open' token opened }

/-- When tokens of the address were compared and found wrong, newest first. -/
def compared (run : WindowRun) (ip : IpAddr) : List Instant :=
  (run.wrong.filter fun entry => entry.1 = ip).map (·.2)

/-- The address had its free failures, and the last of its failures was a moment ago. -/
def RateLimited (run : WindowRun) (ip : IpAddr) (now : Instant) : Prop :=
  freeFailures ≤ (run.compared ip).length ∧
    ∃ last ∈ (run.compared ip).head?, now - last < failureSpacing

end WindowRun

/-! ## One attempt -/

namespace PairingWindow

variable {window other : PairingWindow} {token : String} {ip : IpAddr} {now : Instant}

/-- What an attempt can get, and what it records. -/
theorem check_cases (window : PairingWindow) (token : String) (ip : IpAddr) (now : Instant) :
    window.isOpen now = false ∧ window.check token ip now = (.error .closed, window) ∨
    window.isOpen now = true ∧ window.limited ip now = true ∧
      window.check token ip now = (.error .rateLimited, window) ∨
    window.isOpen now = true ∧ window.limited ip now = false ∧ token = window.token ∧
      window.check token ip now = (.ok (), window) ∨
    window.isOpen now = true ∧ window.limited ip now = false ∧ token ≠ window.token ∧
      window.check token ip now = (.error .wrongToken, { window with
        failures := window.failures.insert ip
          { count := ((window.failures.lookup ip).getD { count := 0, last := now }).count + 1
            last := now } }) := by
  unfold check
  cases isOpen : window.isOpen now with
  | false => exact .inl ⟨rfl, rfl⟩
  | true =>
    cases limited : window.limited ip now with
    | true => exact .inr (.inl ⟨rfl, rfl, rfl⟩)
    | false =>
      by_cases same : token = window.token
      · exact .inr (.inr (.inl ⟨rfl, rfl, same, by simp [same]⟩))
      · exact .inr (.inr (.inr ⟨rfl, rfl, same, by simp [same]⟩))

theorem check_token : (window.check token ip now).2.token = window.token := by
  rcases check_cases window token ip now with ⟨-, result⟩ | ⟨-, -, result⟩ | ⟨-, -, -, result⟩ |
    ⟨-, -, -, result⟩ <;> rw [result]

theorem check_expires : (window.check token ip now).2.expires = window.expires := by
  rcases check_cases window token ip now with ⟨-, result⟩ | ⟨-, -, result⟩ | ⟨-, -, -, result⟩ |
    ⟨-, -, -, result⟩ <;> rw [result]

/-- An attempt records nothing about other addresses. -/
theorem check_other {elsewhere : IpAddr} (apart : elsewhere ≠ ip) :
    (window.check token ip now).2.failures.lookup elsewhere = window.failures.lookup elsewhere := by
  rcases check_cases window token ip now with ⟨-, result⟩ | ⟨-, -, result⟩ | ⟨-, -, -, result⟩ |
    ⟨-, -, -, result⟩
  · rw [result]
  · rw [result]
  · rw [result]
  · rw [result]
    exact AList.lookup_insert_ne apart

/-- Two windows are the same for an address. -/
structure Agree (ip : IpAddr) (window other : PairingWindow) : Prop where
  token : window.token = other.token
  expires : window.expires = other.expires
  failures : window.failures.lookup ip = other.failures.lookup ip

theorem Agree.limited (agree : Agree ip window other) :
    window.limited ip now = other.limited ip now := by
  unfold PairingWindow.limited
  rw [agree.failures]

/-- An attempt of the address gets the same from both, and they stay the same for it. -/
theorem Agree.check (agree : Agree ip window other) :
    (window.check token ip now).1 = (other.check token ip now).1 ∧
      Agree ip (window.check token ip now).2 (other.check token ip now).2 := by
  have isOpen : window.isOpen now = other.isOpen now := by
    unfold PairingWindow.isOpen
    rw [agree.expires]
  unfold PairingWindow.check
  rw [isOpen, agree.limited, agree.token, agree.failures]
  cases other.isOpen now with
  | false => exact ⟨rfl, agree⟩
  | true =>
    cases other.limited ip now with
    | true => exact ⟨rfl, agree⟩
    | false =>
      by_cases same : token = other.token
      · simp only [same, if_true, Bool.not_true, Bool.false_eq_true, if_false]
        exact ⟨trivial, agree⟩
      · simp only [same, if_false, Bool.not_true, Bool.false_eq_true]
        refine ⟨trivial, rfl, agree.expires, ?_⟩
        rw [AList.lookup_insert, AList.lookup_insert]

/-- An attempt of another address makes no difference. -/
theorem Agree.check_other {elsewhere : IpAddr} (agree : Agree ip window other)
    (apart : ip ≠ elsewhere) : Agree ip (window.check token elsewhere now).2 other :=
  ⟨check_token.trans agree.token, check_expires.trans agree.expires,
    (PairingWindow.check_other apart).trans agree.failures⟩

end PairingWindow

/-! ## Attempts of one address -/

namespace WindowRun

variable {token : String} {opened now : Instant} {ip : IpAddr} {run : WindowRun}

theorem after_append (attempts : List Attempt) (next : Attempt) :
    after token opened (attempts ++ [next]) = (after token opened attempts).attempt next := by
  rw [after, List.foldl_append]
  rfl

/-- The attempts of other addresses can be left out. -/
theorem after_agrees (ip : IpAddr) (attempts : List Attempt) :
    PairingWindow.Agree ip (after token opened attempts).window
      (after token opened (attempts.filter fun attempt => attempt.ip = ip)).window := by
  induction attempts using List.reverseRecOn with
  | nil => exact ⟨rfl, rfl, rfl⟩
  | append_singleton attempts next ih =>
    rw [after_append, List.filter_append]
    by_cases same : next.ip = ip
    · subst same
      rw [List.filter_cons_of_pos (by simp), List.filter_nil, after_append]
      exact ih.check.2
    · rw [List.filter_cons_of_neg (by simpa using same), List.filter_nil, List.append_nil]
      exact ih.check_other (Ne.symm same)

/-- What an attempt gets depends on the earlier attempts of its address. -/
theorem verdict_of_own {before other : List Attempt} {next : Attempt}
    (own : other.filter (fun attempt => attempt.ip = next.ip) =
      before.filter fun attempt => attempt.ip = next.ip) :
    (after token opened other).verdict next = (after token opened before).verdict next := by
  have left : (after token opened other).verdict next = _ :=
    (after_agrees next.ip other).check.1
  have right : (after token opened before).verdict next = _ :=
    (after_agrees next.ip before).check.1
  rw [left, right, own]

/-! ## The failures on record -/

/-- The window has the number and the newest of the failures of each address, which are spaced. -/
structure Recorded (run : WindowRun) (now : Instant) : Prop where
  failures : ∀ ip, run.window.failures.lookup ip =
    (run.compared ip).head?.map fun last => { count := (run.compared ip).length, last }
  spaced : ∀ ip, Spaced freeFailures failureSpacing (run.compared ip)
  past : ∀ ip, ∀ time ∈ run.compared ip, time ≤ now

theorem Recorded.limited_iff (recorded : run.Recorded now) {later : Instant} :
    run.window.limited ip later = true ↔ run.RateLimited ip later := by
  unfold PairingWindow.limited RateLimited
  rw [recorded.failures ip]
  cases run.compared ip with
  | nil => simp
  | cons last earlier => simp

/-- An attempt that was not compared leaves the failures as they are. -/
theorem compared_of_not_wrong {next : Attempt} (other : run.verdict next ≠ .error .wrongToken) :
    (run.attempt next).compared ip = run.compared ip := by
  simp [attempt, compared, other]

theorem compared_of_wrong {next : Attempt} (wrong : run.verdict next = .error .wrongToken) :
    (run.attempt next).compared next.ip = next.now :: run.compared next.ip := by
  simp [attempt, compared, wrong]

theorem compared_of_wrong_elsewhere {next : Attempt} (wrong : run.verdict next = .error .wrongToken)
    (apart : ip ≠ next.ip) : (run.attempt next).compared ip = run.compared ip := by
  simp [attempt, compared, wrong, apart.symm]

theorem Recorded.attempt {next : Attempt} (recorded : run.Recorded now) (later : now ≤ next.now) :
    (run.attempt next).Recorded next.now := by
  have unchanged (other : run.verdict next ≠ .error .wrongToken)
      (same : (run.attempt next).window = run.window) : (run.attempt next).Recorded next.now := by
    constructor
    · intro ip
      rw [same, compared_of_not_wrong other]
      exact recorded.failures ip
    · intro ip
      rw [compared_of_not_wrong other]
      exact recorded.spaced ip
    · intro ip time found
      rw [compared_of_not_wrong other] at found
      exact le_trans (recorded.past ip time found) later
  rcases PairingWindow.check_cases run.window next.token next.ip next.now with
    ⟨-, result⟩ | ⟨-, -, result⟩ | ⟨-, -, -, result⟩ | ⟨-, limited, -, result⟩
  · exact unchanged (by simp [verdict, result]) (by simp [WindowRun.attempt, result])
  · exact unchanged (by simp [verdict, result]) (by simp [WindowRun.attempt, result])
  · exact unchanged (by simp [verdict, result]) (by simp [WindowRun.attempt, result])
  · have wrong : run.verdict next = .error .wrongToken := by rw [verdict, result]
    have failures : (run.attempt next).window.failures = run.window.failures.insert next.ip
        { count := ((run.window.failures.lookup next.ip).getD
            { count := 0, last := next.now }).count + 1
          last := next.now } := by
      rw [WindowRun.attempt, result]
    have free : ¬ run.RateLimited next.ip next.now := by
      rw [← recorded.limited_iff, limited]
      exact Bool.false_ne_true
    constructor
    · intro ip
      rw [failures]
      by_cases same : ip = next.ip
      · subst same
        rw [AList.lookup_insert, compared_of_wrong wrong, recorded.failures]
        cases run.compared next.ip with
        | nil => rfl
        | cons last earlier => rfl
      · rw [AList.lookup_insert_ne same, compared_of_wrong_elsewhere wrong same]
        exact recorded.failures ip
    · intro ip
      by_cases same : ip = next.ip
      · subst same
        rw [compared_of_wrong wrong]
        refine ⟨?_, recorded.spaced next.ip⟩
        intro last newest
        have earlier : last ≤ now :=
          recorded.past next.ip last (List.mem_of_mem_head? newest)
        refine ⟨le_trans earlier later, fun many => ?_⟩
        by_contra close
        exact free ⟨many, last, newest,
          Nat.sub_lt_left_of_lt_add (le_trans earlier later) (not_le.mp close)⟩
      · rw [compared_of_wrong_elsewhere wrong same]
        exact recorded.spaced ip
    · intro ip time found
      by_cases same : ip = next.ip
      · subst same
        rw [compared_of_wrong wrong] at found
        rcases List.mem_cons.mp found with rfl | found
        · exact le_refl _
        · exact le_trans (recorded.past next.ip time found) later
      · rw [compared_of_wrong_elsewhere wrong same] at found
        exact le_trans (recorded.past ip time found) later

theorem recorded_after {attempts : List Attempt}
    (ordered : attempts.Pairwise fun first second => first.now ≤ second.now)
    (latest : ∀ attempt ∈ attempts, attempt.now ≤ now) :
    (after token opened attempts).Recorded now := by
  induction attempts using List.reverseRecOn generalizing now with
  | nil =>
    exact ⟨fun ip => rfl, fun ip => trivial, fun ip time found => (by cases found)⟩
  | append_singleton attempts next ih =>
    obtain ⟨ordered, -, before⟩ := List.pairwise_append.mp ordered
    have recorded : (after token opened attempts).Recorded next.now :=
      ih ordered fun attempt found => before attempt found next (List.mem_singleton_self next)
    rw [after_append]
    have stepped := recorded.attempt (le_refl next.now)
    have last : next.now ≤ now := latest next (by simp)
    exact ⟨stepped.failures, stepped.spaced, fun ip time found =>
      le_trans (stepped.past ip time found) last⟩

theorem spaced_after {attempts : List Attempt}
    (ordered : attempts.Pairwise fun first second => first.now ≤ second.now) :
    Spaced freeFailures failureSpacing ((after token opened attempts).compared ip) := by
  induction attempts using List.reverseRecOn with
  | nil => trivial
  | append_singleton attempts next _ =>
    have latest : ∀ attempt ∈ attempts ++ [next], attempt.now ≤ next.now := by
      intro attempt found
      rcases List.mem_append.mp found with found | found
      · exact (List.pairwise_append.mp ordered).2.2 attempt found next
          (List.mem_singleton_self next)
      · rw [List.mem_singleton.mp found]
    exact (recorded_after ordered latest).spaced ip

theorem window_after (attempts : List Attempt) :
    (after token opened attempts).window.token = token ∧
      (after token opened attempts).window.expires = opened + pairingWindow := by
  induction attempts using List.reverseRecOn with
  | nil => exact ⟨rfl, rfl⟩
  | append_singleton attempts next ih =>
    rw [after_append]
    exact ⟨PairingWindow.check_token.trans ih.1, PairingWindow.check_expires.trans ih.2⟩

/-- The right token is accepted unless the address is limited. -/
theorem Recorded.verdict_of_right {next : Attempt} (recorded : run.Recorded now)
    (right : next.token = run.window.token) (early : next.now < run.window.expires) :
    run.verdict next = .ok () ∨ run.RateLimited next.ip next.now := by
  rcases PairingWindow.check_cases run.window next.token next.ip next.now with
    ⟨closed, -⟩ | ⟨-, limited, -⟩ | ⟨-, -, -, result⟩ | ⟨-, -, wrong, -⟩
  · simp [PairingWindow.isOpen, early] at closed
  · exact .inr (recorded.limited_iff.mp limited)
  · exact .inl (by rw [verdict, result])
  · exact absurd right wrong

/-! ## Wrong tokens hurt nobody else -/

/-- At times that do not go back, what an attempt gets depends on the earlier attempts of its
    address, the right token is refused only after the window expired or to an address that is
    limited, and an address has few wrong tokens compared in a span of time. -/
theorem wrong_tokens_hurt_nobody_else (token : String) (opened : Instant) (attempts : List Attempt)
    (ordered : attempts.Pairwise fun first second => first.now ≤ second.now) :
    (∀ before next rest, attempts = before ++ next :: rest →
      (∀ other : List Attempt, other.filter (fun attempt => attempt.ip = next.ip) =
          before.filter (fun attempt => attempt.ip = next.ip) →
        (after token opened other).verdict next = (after token opened before).verdict next) ∧
      (next.token = token → next.now < opened + pairingWindow →
        (after token opened before).verdict next = .ok () ∨
          (after token opened before).RateLimited next.ip next.now)) ∧
    ∀ ip start span, (within start span ((after token opened attempts).compared ip)).length ≤
      freeFailures + span / failureSpacing + 1 := by
  constructor
  · rintro before next rest rfl
    obtain ⟨ordered, -, earlier⟩ := List.pairwise_append.mp ordered
    have recorded : (after token opened before).Recorded next.now :=
      recorded_after ordered fun attempt found => earlier attempt found next List.mem_cons_self
    have window : (after token opened before).window.token = token ∧
        (after token opened before).window.expires = opened + pairingWindow := window_after before
    refine ⟨fun other own => verdict_of_own own, fun right early => ?_⟩
    exact recorded.verdict_of_right (right.trans window.1.symm) (by rw [window.2]; exact early)
  · intro ip start span
    exact (spaced_after ordered).length_within_le (by decide)

/-- Garbage from one address, then the right token from another and from the first. -/
def garbage : List Attempt :=
  [⟨"00", "192.168.0.99", 0⟩, ⟨"01", "192.168.0.99", 0⟩, ⟨"02", "192.168.0.99", 0⟩,
    ⟨"ff", "192.168.0.21", 0⟩, ⟨"ff", "192.168.0.99", 1000000000⟩]

theorem wrong_tokens_hurt_nobody_else_garbage :
    (after "ff" 0 [⟨"ff", "192.168.0.21", 0⟩]).compared "192.168.0.99" = [] ∧
    (after "ff" 0 []).verdict ⟨"ff", "192.168.0.21", 0⟩ =
      (after "ff" 0 (garbage.take 3)).verdict ⟨"ff", "192.168.0.21", 0⟩ ∧
    (within 0 1000000000 ((after "ff" 0 garbage).compared "192.168.0.99")).length ≤ 5 := by
  have ordered : garbage.Pairwise fun first second => first.now ≤ second.now := by
    decide
  have apart := wrong_tokens_hurt_nobody_else "ff" 0 garbage ordered
  exact ⟨by decide, (apart.1 (garbage.take 3) ⟨"ff", "192.168.0.21", 0⟩ (garbage.drop 4) rfl).1 []
    (by decide), apart.2 "192.168.0.99" 0 1000000000⟩

end WindowRun

end EdgeKvm.Pairing
