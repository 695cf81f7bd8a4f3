import EdgeKvm.Notification.Protocol
import EdgeKvm.Lib.Ordered
import Mathlib.Data.Finset.Card

/-!
# Phone notifications on the desktop

`PhoneProjections` of `phone_projection.rs`: the desktop's ids for the phone notifications it
shows, in memory and in a file of its own. A digest stands for the content it was taken of.
-/

namespace EdgeKvm.Notification

open EdgeKvm.Lib

/-- `str::starts_with`. -/
def startsWith (text pattern : String) : Bool := pattern.toList.isPrefixOf text.toList

/-- `Entry` of `phone_projection.rs`. -/
structure Projection where
  id : Nat
  digest : SharedNotification
  dismissed : Bool
  deriving DecidableEq, Repr

/-- `PhoneProjections`. -/
structure PhoneProjections where
  owner : String := ""
  entries : List (String × Projection) := []
  loaded : Bool := false
  deriving DecidableEq, Repr

/-- A request to the desktop, or a write of the cache file. -/
inductive DesktopCall where
  | showShared (key : NotificationKey) (content : SharedNotification) (replaces : Nat)
      (silent : Bool)
  | close (id : Nat) (owner : String)
  | save (cache : PhoneProjections)
  deriving DecidableEq, Repr

/-- `FreedesktopNotifications` and the cache file while one event is handled: the daemon's
    `generation`, what the file holds, and how each call ends after the calls made before it. -/
structure Desktop where
  generation : Except String String
  saved : Except String (Option PhoneProjections)
  showShared : List DesktopCall → Except String Nat
  close : List DesktopCall → Except String Unit
  save : List DesktopCall → Except String Unit

/-- The cache, and the calls made since the event came in, oldest first. -/
structure Projected where
  cache : PhoneProjections
  calls : List DesktopCall := []

/-- A routine on the cache, which can fail half way. -/
def CacheM (α : Type) : Type := Projected → Projected × Except String α

namespace PhoneProjections

/-- `PhoneProjections::instance`. -/
def instance' (cache : PhoneProjections) (pattern : String) : Option String :=
  (cache.entries.find? fun entry => startsWith entry.1 pattern).map Prod.fst

/-- `PhoneProjections::dismissed`. -/
def dismissed (cache : PhoneProjections) (instance' : String) : Bool :=
  (Ordered.get instance' cache.entries).any (·.dismissed)

/-- `PhoneProjections::missing`. -/
def missing (cache : PhoneProjections) (pattern : String) (present : Finset String) :
    List String :=
  (cache.entries.map Prod.fst).filter fun key =>
    startsWith key pattern ∧ ∀ id ∈ present, ¬ startsWith key (id ++ "/")

/-- The part of `PhoneProjections::load` behind the reading of the file. -/
def renew (cache : PhoneProjections) (owner : String) : PhoneProjections :=
  if cache.owner = owner then cache else { cache with owner, entries := [] }

/-- `PhoneProjections::load`. -/
def load (desktop : Desktop) (cache : PhoneProjections) : Except String PhoneProjections := do
  let owner ← desktop.generation
  if cache.loaded then
    return cache.renew owner
  match ← desktop.saved with
  | none => return { cache with loaded := true }.renew owner
  | some saved =>
    let cache := if saved.owner = owner then saved else cache
    return { cache with loaded := true }.renew owner

end PhoneProjections

namespace CacheM

variable {α β : Type}

def run (m : CacheM α) (s : Projected) : Projected × Except String α := m s

instance : Monad CacheM where
  pure a := fun s => (s, .ok a)
  bind m f := fun s =>
    match m s with
    | (s, .error error) => (s, .error error)
    | (s, .ok a) => f a s

instance : MonadLift (Except String) CacheM := ⟨fun x s => (s, x)⟩

/-- The cache as it is. -/
def cache : CacheM PhoneProjections := fun s => (s, .ok s.cache)

/-- Puts another cache in place. -/
def setCache (cache : PhoneProjections) : CacheM Unit := fun s => ({ s with cache }, .ok ())

/-- Makes a call and returns how it ends. -/
def ask (call : DesktopCall) (answer : List DesktopCall → Except String α) : CacheM α :=
  fun s => ({ s with calls := s.calls ++ [call] }, answer s.calls)

variable {s : Projected} {m : CacheM α} {f : α → CacheM β}

@[simp] theorem run_pure (a : α) : (pure a : CacheM α).run s = (s, .ok a) := rfl

@[simp] theorem run_bind : (m >>= f).run s =
    match m.run s with
    | (s, .error error) => (s, .error error)
    | (s, .ok a) => (f a).run s := rfl

@[simp] theorem run_lift (x : Except String α) : (liftM x : CacheM α).run s = (s, x) := rfl

@[simp] theorem run_cache : cache.run s = (s, .ok s.cache) := rfl

@[simp] theorem run_setCache (cache : PhoneProjections) :
    (setCache cache).run s = ({ s with cache }, .ok ()) := rfl

@[simp] theorem run_ask (call : DesktopCall) (answer : List DesktopCall → Except String α) :
    (ask call answer).run s = ({ s with calls := s.calls ++ [call] }, answer s.calls) := rfl

/-- `PhoneProjections::load`, in place. -/
def load (desktop : Desktop) : CacheM PhoneProjections := do
  let loaded ← (← cache).load desktop
  setCache loaded
  return loaded

/-- Changes the entries of the cache. -/
def edit (f : List (String × Projection) → List (String × Projection)) : CacheM Unit := do
  let cache ← cache
  setCache { cache with entries := f cache.entries }

/-- `PhoneProjections::save`. -/
def save (desktop : Desktop) : CacheM Unit := do
  ask (.save (← cache)) desktop.save

/-- The arm of `PhoneProjections::show` for content that is to be shown in place of `replaces`. -/
def project (desktop : Desktop) (key : NotificationKey) (content : SharedNotification)
    (replaces : Nat) (fresh : Bool) : CacheM Unit := do
  let entries := (← cache).entries
  ensure ((Ordered.get key.instance' entries).isSome ∨ entries.length < 4096)
    "phone projection cache full"
  let id ← ask (.showShared key content replaces !fresh) desktop.showShared
  edit (Ordered.insert key.instance' { id, digest := content, dismissed := false })
  save desktop

/-- `PhoneProjections::show`. -/
def show' (desktop : Desktop) (key : NotificationKey) (content : Option SharedNotification)
    (fresh : Bool) : CacheM Unit := do
  let cache ← load desktop
  match content, Ordered.get key.instance' cache.entries with
  | none, none => pure ()
  | none, some entry =>
    if entry.dismissed then
      pure ()
    else
      ask (.close entry.id cache.owner) desktop.close
      edit (Ordered.insert key.instance' { entry with dismissed := true })
      save desktop
  | some content, none => project desktop key content 0 fresh
  | some content, some entry =>
    if entry.dismissed ∨ entry.digest = content then
      pure ()
    else
      project desktop key content entry.id fresh

/-- `PhoneProjections::withdraw`. -/
def withdraw (desktop : Desktop) (instance' : String) : CacheM Unit := do
  let cache ← load desktop
  match Ordered.get instance' cache.entries with
  | none => pure ()
  | some entry =>
    edit (Ordered.remove instance')
    if entry.dismissed then
      pure ()
    else
      ask (.close entry.id cache.owner) desktop.close
    save desktop

/-- `PhoneProjections::adopt`. -/
def adopt (desktop : Desktop) (key : NotificationKey) (id : Nat) (content : SharedNotification) :
    CacheM Unit := do
  let cache ← load desktop
  let entry := Ordered.get key.instance' cache.entries
  if entry.any fun entry => entry.id = id then
    pure ()
  else
    -- The retained shell entry is preferred, and an older duplicate retired.
    entry.toList.forM fun entry => ask (.close entry.id cache.owner) desktop.close
    ensure (entry.isSome ∨ cache.entries.length < 4096) "phone projection cache full"
    edit (Ordered.insert key.instance' { id, digest := content, dismissed := false })
    save desktop

/-- `PhoneProjections::closed`. -/
def closed (desktop : Desktop) (instance' : String) (id reason : Nat) : CacheM Bool := do
  match (Ordered.get instance' (← cache).entries).filter fun entry => entry.id = id with
  | none => return false
  | some entry =>
    if reason = 2 then
      edit (Ordered.insert instance' { entry with dismissed := true })
    else
      edit (Ordered.remove instance')
    save desktop
    return true

/-! ## The calls a routine makes -/

/-- All calls the routine makes satisfy `P`. -/
def Asks (P : DesktopCall → Prop) (m : CacheM α) : Prop :=
  ∀ s, ∀ call ∈ (m.run s).1.calls, call ∈ s.calls ∨ P call

section Asks

variable {P : DesktopCall → Prop} {desktop : Desktop}

theorem Asks.pure (a : α) : Asks P (Pure.pure a : CacheM α) := fun _ _ => .inl

theorem Asks.lift (x : Except String α) : Asks P (liftM x : CacheM α) := fun _ _ => .inl

theorem Asks.cache : Asks P cache := fun _ _ => .inl

theorem Asks.setCache (cache : PhoneProjections) : Asks P (setCache cache) := fun _ _ => .inl

theorem Asks.ask {call : DesktopCall} {answer : List DesktopCall → Except String α}
    (holds : P call) : Asks P (ask call answer) := by
  intro s asked member
  rcases List.mem_append.mp member with old | new
  · exact .inl old
  · rw [List.mem_singleton.mp new]
    exact .inr holds

theorem Asks.bind (first : Asks P m) (rest : ∀ a, Asks P (f a)) : Asks P (m >>= f) := by
  intro s call member
  rw [run_bind] at member
  have before := first s call
  cases ran : m.run s with
  | mk mid result =>
    rw [ran] at member before
    cases result with
    | error error => exact before member
    | ok a =>
      rcases rest a mid call member with earlier | holds
      · exact before earlier
      · exact .inr holds

theorem Asks.forM {f : α → CacheM PUnit} {l : List α} (each : ∀ a ∈ l, Asks P (f a)) :
    Asks P (l.forM f) := by
  induction l with
  | nil => exact .pure _
  | cons a l ih =>
    obtain ⟨one, others⟩ := List.forall_mem_cons.mp each
    exact .bind one fun _ => ih others

theorem Asks.load : Asks P (load desktop) :=
  .bind .cache fun _ => .bind (.lift _) fun _ => .bind (.setCache _) fun _ => .pure _

theorem Asks.edit (f : List (String × Projection) → List (String × Projection)) :
    Asks P (edit f) := .bind .cache fun _ => .setCache _

theorem Asks.save (holds : ∀ cache, P (.save cache)) : Asks P (save desktop) :=
  .bind .cache fun _ => .ask (holds _)

theorem Asks.withdraw (instance' : String) (saves : ∀ cache, P (.save cache))
    (closes : ∀ id owner, P (.close id owner)) : Asks P (withdraw desktop instance') := by
  refine .bind .load fun cache => ?_
  split
  · exact .pure _
  · refine .bind (.edit _) fun _ => ?_
    split
    · exact .save saves
    · exact .bind (.ask (closes _ _)) fun _ => .save saves

theorem Asks.project {key : NotificationKey} {content : SharedNotification} {replaces : Nat}
    {fresh : Bool} (saves : ∀ cache, P (.save cache))
    (shows' : ∀ replaces silent, P (.showShared key content replaces silent)) :
    Asks P (project desktop key content replaces fresh) := by
  refine .bind .cache fun _ => .bind (.lift _) fun _ => ?_
  exact .bind (.ask (shows' _ _)) fun _ => .bind (.edit _) fun _ => .save saves

/-- Only content is shown. -/
theorem Asks.show' {key : NotificationKey} {content : Option SharedNotification} {fresh : Bool}
    (saves : ∀ cache, P (.save cache)) (closes : ∀ id owner, P (.close id owner))
    (shows' : ∀ shown replaces silent, content = some shown →
      P (.showShared key shown replaces silent)) :
    Asks P (show' desktop key content fresh) := by
  refine .bind .load fun cache => ?_
  split
  · exact .pure _
  · split
    · exact .pure _
    · exact .bind (.ask (closes _ _)) fun _ => .bind (.edit _) fun _ => .save saves
  · exact .project saves fun _ _ => shows' _ _ _ rfl
  · split
    · exact .pure _
    · exact .project saves fun _ _ => shows' _ _ _ rfl

end Asks

end CacheM

end EdgeKvm.Notification
