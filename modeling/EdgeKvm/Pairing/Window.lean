import EdgeKvm.Lib.Table
import EdgeKvm.Lib.Fallible

/-!
# The phone pairing window

`PairingWindow` of `phone_pairing.rs`. Instants are nanoseconds.
-/

namespace EdgeKvm.Pairing

open EdgeKvm.Lib

abbrev Instant := Nat

abbrev IpAddr := String

/-- `PAIRING_WINDOW`. -/
def pairingWindow : Nat := 5 * 60 * 1000000000

/-- `FREE_FAILURES`. -/
def freeFailures : Nat := 3

/-- `FAILURE_SPACING`. -/
def failureSpacing : Nat := 1000000000

/-- `PairingRefusal`. -/
inductive PairingRefusal where
  | closed
  | wrongToken
  | rateLimited
  | failed
  deriving DecidableEq, Repr

namespace PairingRefusal

def code : PairingRefusal → String
  | .closed => "pairing_closed"
  | .wrongToken => "pairing_wrong_token"
  | .rateLimited => "pairing_rate_limited"
  | .failed => "pairing_failed"

def message : PairingRefusal → String
  | .closed => "pairing isn't open on the computer; run pair-phone again"
  | .wrongToken => "the pairing code doesn't match; scan the current QR code"
  | .rateLimited => "too many wrong pairing codes; wait a moment"
  | .failed => "the computer couldn't save the pairing; see its log"

end PairingRefusal

/-- `Failures`. -/
structure Failures where
  count : Nat
  last : Instant
  deriving DecidableEq, Repr

/-- `PairingWindow`. -/
structure PairingWindow where
  token : String
  expires : Instant
  failures : Table IpAddr Failures := ∅

namespace PairingWindow

/-- `PairingWindow::open`, for a token from the random source. -/
def open' (token : String) (now : Instant) : PairingWindow :=
  { token, expires := now + pairingWindow }

/-- `PairingWindow::is_open`. -/
def isOpen (window : PairingWindow) (now : Instant) : Bool := now < window.expires

/-- The address failed often enough to be limited, and a moment ago. -/
def limited (window : PairingWindow) (ip : IpAddr) (now : Instant) : Bool :=
  (window.failures.lookup ip).any fun failures =>
    freeFailures ≤ failures.count && now - failures.last < failureSpacing

/-- `PairingWindow::check`. -/
def check (window : PairingWindow) (token : String) (ip : IpAddr) (now : Instant) :
    Except PairingRefusal Unit × PairingWindow :=
  if !window.isOpen now then (.error .closed, window)
  else if window.limited ip now then (.error .rateLimited, window)
  else if token = window.token then (.ok (), window)
  else
    let failures := (window.failures.lookup ip).getD { count := 0, last := now }
    (.error .wrongToken, { window with
      failures := window.failures.insert ip { count := failures.count + 1, last := now } })

end PairingWindow

end EdgeKvm.Pairing
