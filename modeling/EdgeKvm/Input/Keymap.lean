import Mathlib.Data.UInt
import Mathlib.Logic.Basic

/-!
# Key codes

`crates/edge-keymap/src/lib.rs`: Windows scan codes against the evdev codes that input frames
carry. Codes are `u16` on both sides.
-/

namespace EdgeKvm.Input

/-- `WindowsScanCode`. -/
structure WindowsScanCode where
  scanCode : UInt16
  extended : Bool
  deriving DecidableEq, Repr

/-- The arms of `windows_scancode_to_evdev`. -/
def evdevCodes : List (WindowsScanCode × UInt16) :=
  [ (⟨0x02, false⟩, 2), (⟨0x03, false⟩, 3), (⟨0x04, false⟩, 4), (⟨0x05, false⟩, 5),
    (⟨0x06, false⟩, 6), (⟨0x07, false⟩, 7), (⟨0x08, false⟩, 8), (⟨0x09, false⟩, 9),
    (⟨0x0a, false⟩, 10), (⟨0x0b, false⟩, 11), (⟨0x10, false⟩, 16), (⟨0x11, false⟩, 17),
    (⟨0x12, false⟩, 18), (⟨0x13, false⟩, 19), (⟨0x14, false⟩, 20), (⟨0x15, false⟩, 21),
    (⟨0x16, false⟩, 22), (⟨0x17, false⟩, 23), (⟨0x18, false⟩, 24), (⟨0x19, false⟩, 25),
    (⟨0x1e, false⟩, 30), (⟨0x1f, false⟩, 31), (⟨0x20, false⟩, 32), (⟨0x21, false⟩, 33),
    (⟨0x22, false⟩, 34), (⟨0x23, false⟩, 35), (⟨0x24, false⟩, 36), (⟨0x25, false⟩, 37),
    (⟨0x26, false⟩, 38), (⟨0x2c, false⟩, 44), (⟨0x2d, false⟩, 45), (⟨0x2e, false⟩, 46),
    (⟨0x2f, false⟩, 47), (⟨0x30, false⟩, 48), (⟨0x31, false⟩, 49), (⟨0x32, false⟩, 50),
    (⟨0x01, false⟩, 1), (⟨0x0e, false⟩, 14), (⟨0x0f, false⟩, 15), (⟨0x1c, false⟩, 28),
    (⟨0x39, false⟩, 57), (⟨0x1c, true⟩, 28), (⟨0x3a, false⟩, 58), (⟨0x2a, false⟩, 42),
    (⟨0x36, false⟩, 54), (⟨0x1d, false⟩, 29), (⟨0x1d, true⟩, 97), (⟨0x38, false⟩, 56),
    (⟨0x38, true⟩, 100), (⟨0x5b, true⟩, 125), (⟨0x5c, true⟩, 126), (⟨0x48, true⟩, 103),
    (⟨0x50, true⟩, 108), (⟨0x4b, true⟩, 105), (⟨0x4d, true⟩, 106), (⟨0x52, true⟩, 110),
    (⟨0x53, true⟩, 111), (⟨0x47, true⟩, 102), (⟨0x4f, true⟩, 107), (⟨0x49, true⟩, 104),
    (⟨0x51, true⟩, 109), (⟨0x3b, false⟩, 59), (⟨0x3c, false⟩, 60), (⟨0x3d, false⟩, 61),
    (⟨0x3e, false⟩, 62), (⟨0x3f, false⟩, 63), (⟨0x40, false⟩, 64), (⟨0x41, false⟩, 65),
    (⟨0x42, false⟩, 66), (⟨0x43, false⟩, 67), (⟨0x44, false⟩, 68), (⟨0x57, false⟩, 87),
    (⟨0x58, false⟩, 88), (⟨0x0c, false⟩, 12), (⟨0x0d, false⟩, 13), (⟨0x1a, false⟩, 26),
    (⟨0x1b, false⟩, 27), (⟨0x27, false⟩, 39), (⟨0x28, false⟩, 40), (⟨0x29, false⟩, 41),
    (⟨0x2b, false⟩, 43), (⟨0x33, false⟩, 51), (⟨0x34, false⟩, 52), (⟨0x35, false⟩, 53)]

/-- `windows_scancode_to_evdev`. -/
def windowsScancodeToEvdev (key : WindowsScanCode) : Option UInt16 := evdevCodes.lookup key

/-- The arms of `evdev_to_windows_scancode` for one code each. -/
def scanCodes : List (UInt16 × WindowsScanCode) :=
  [ (1, ⟨0x01, false⟩), (14, ⟨0x0e, false⟩), (15, ⟨0x0f, false⟩), (28, ⟨0x1c, false⟩),
    (57, ⟨0x39, false⟩), (58, ⟨0x3a, false⟩), (42, ⟨0x2a, false⟩), (54, ⟨0x36, false⟩),
    (29, ⟨0x1d, false⟩), (97, ⟨0x1d, true⟩), (56, ⟨0x38, false⟩), (100, ⟨0x38, true⟩),
    (125, ⟨0x5b, true⟩), (126, ⟨0x5c, true⟩), (103, ⟨0x48, true⟩), (108, ⟨0x50, true⟩),
    (105, ⟨0x4b, true⟩), (106, ⟨0x4d, true⟩), (110, ⟨0x52, true⟩), (111, ⟨0x53, true⟩),
    (102, ⟨0x47, true⟩), (107, ⟨0x4f, true⟩), (104, ⟨0x49, true⟩), (109, ⟨0x51, true⟩),
    (87, ⟨0x57, false⟩), (88, ⟨0x58, false⟩), (12, ⟨0x0c, false⟩), (13, ⟨0x0d, false⟩),
    (26, ⟨0x1a, false⟩), (27, ⟨0x1b, false⟩), (39, ⟨0x27, false⟩), (40, ⟨0x28, false⟩),
    (41, ⟨0x29, false⟩), (43, ⟨0x2b, false⟩), (51, ⟨0x33, false⟩), (52, ⟨0x34, false⟩),
    (53, ⟨0x35, false⟩)]

/-- `evdev_to_windows_scancode`; no code has more than one arm. -/
def evdevToWindowsScancode (code : UInt16) : Option WindowsScanCode :=
  if 2 ≤ code ∧ code ≤ 11 then some ⟨code - 2 + 0x02, false⟩
  else if 16 ≤ code ∧ code ≤ 25 then some ⟨code - 16 + 0x10, false⟩
  else if 30 ≤ code ∧ code ≤ 38 then some ⟨code - 30 + 0x1e, false⟩
  else if 44 ≤ code ∧ code ≤ 50 then some ⟨code - 44 + 0x2c, false⟩
  else if 59 ≤ code ∧ code ≤ 68 then some ⟨code - 59 + 0x3b, false⟩
  else scanCodes.lookup code

/-- No code past the last modifier is mapped. -/
theorem code_le {code : UInt16} {key : WindowsScanCode}
    (mapped : evdevToWindowsScancode code = some key) : code ≤ 126 := by
  have inTable : ∀ entry ∈ scanCodes, entry.1 ≤ 126 := by decide
  unfold evdevToWindowsScancode at mapped
  split at mapped
  · rename_i inRange
    exact UInt16.le_trans inRange.2 (by decide)
  split at mapped
  · rename_i inRange
    exact UInt16.le_trans inRange.2 (by decide)
  split at mapped
  · rename_i inRange
    exact UInt16.le_trans inRange.2 (by decide)
  split at mapped
  · rename_i inRange
    exact UInt16.le_trans inRange.2 (by decide)
  split at mapped
  · rename_i inRange
    exact UInt16.le_trans inRange.2 (by decide)
  · obtain ⟨before, after, arms, -⟩ := List.lookup_eq_some_iff.mp mapped
    exact inTable (code, key) (by rw [arms]; simp)

/-- Every code that can be injected is the code its key is captured as. -/
theorem windowsScancodeToEvdev_of_mapped {code : UInt16} {key : WindowsScanCode}
    (mapped : evdevToWindowsScancode code = some key) :
    windowsScancodeToEvdev key = some code := by
  have small : ∀ n < 127, (evdevToWindowsScancode (UInt16.ofNat n)).all fun key =>
      windowsScancodeToEvdev key = some (UInt16.ofNat n) := by decide +kernel
  have checked := small code.toNat (Nat.lt_succ_of_le (code_le mapped))
  rw [UInt16.ofNat_toNat, mapped] at checked
  simpa using checked

/-- Two codes never share a key. -/
theorem evdevToWindowsScancode_injective {first second : UInt16} {key : WindowsScanCode}
    (left : evdevToWindowsScancode first = some key)
    (right : evdevToWindowsScancode second = some key) : first = second := by
  have same := windowsScancodeToEvdev_of_mapped left
  rw [windowsScancodeToEvdev_of_mapped right] at same
  exact (Option.some.inj same).symm

end EdgeKvm.Input
