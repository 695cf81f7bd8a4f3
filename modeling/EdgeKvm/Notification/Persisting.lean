import EdgeKvm.Notification.SessionLink
import EdgeKvm.Lib.Inodes

/-!
# Persisting a store

`NotificationHub::persist` of `notification_hub.rs` step by step, on a file system whose
operations run on the blocking pool. A call is on one operation at a time; when its task is
aborted, an operation that the pool already has is left over and is still carried out. Calls are
made under the state lock, so there is at most one.
-/

namespace EdgeKvm.Notification

open EdgeKvm.Lib EdgeKvm.Lib.Machine

/-- `serde_json` on stores. -/
structure StoreCodec (σ : Type) where
  encode : σ → List UInt8
  parse : List UInt8 → Option σ
  lossless : ∀ s, parse (encode s) = some s
  nonempty : ∀ s, encode s ≠ []

/-- `store.json` and the name `persist` writes under. -/
inductive StoreName where
  | store
  | pending
  deriving DecidableEq, Repr

/-- What `persist` hands to the blocking pool. -/
inductive FileOperation where
  | openTruncated
  | write (file offset : Nat) (chunk : List UInt8)
  | sync
  | rename
  | syncDirectory
  deriving DecidableEq, Repr

inductive Answer where
  | done
  | failed
  deriving DecidableEq, Repr

/-- Carries an operation out; `failed` is how much of a write is done when it fails. The result
    is the file that was opened, what the caller will see, and the files. -/
def FileOperation.perform (files : Inodes StoreName) (failed : Option Nat) :
    FileOperation → Option Nat × Answer × Inodes StoreName
  | .openTruncated =>
    match failed with
    | none => (some (files.openTruncated .pending).1, .done, (files.openTruncated .pending).2)
    | some _ => (none, .failed, files)
  | .write file offset chunk =>
    match failed with
    | none => (none, .done, files.writeAt file offset chunk)
    | some n => (none, .failed, files.writeAt file offset (chunk.take n))
  | .rename =>
    match failed, files.rename .pending .store with
    | none, some renamed => (none, .done, renamed)
    | _, _ => (none, .failed, files)
  | .sync | .syncDirectory =>
    match failed with
    | none => (none, .done, files)
    | some _ => (none, .failed, files)

/-- A running `persist`: what it was given, the store its caller had in memory, its open file, the
    operation it is on, and what came back of it. -/
structure PersistCall (σ : Type) where
  given : σ
  held : Option σ
  file : Option Nat := none
  operation : FileOperation := .openTruncated
  answer : Option Answer := none

/-- The hub's persisting. `given` are the stores that calls were made with. -/
structure Persister (σ : Type) where
  files : Inodes StoreName
  memory : Option σ := none
  call : Option (PersistCall σ) := none
  leftover : List FileOperation := []
  given : List σ := []

/-- `load` is what `start` makes of the stored store, if there is one. -/
inductive PersistAction (σ : Type) where
  | start (load : Option σ → Option σ)
  | persist (next : σ)
  | perform (failed : Option Nat)
  | resume (length : Nat)
  | abort
  | finishLeftover (i : Nat) (failed : Option Nat)
  | crash

namespace PersistCall

variable {σ : Type}

/-- What came back of an operation of a call. -/
def answered (call : PersistCall σ) (opened : Option Nat) (answer : Answer) : PersistCall σ :=
  { call with file := opened.or call.file, answer := some answer }

/-- The next operation of `write_all` at `offset`, or the `sync_all` behind it. -/
def writeNext (codec : StoreCodec σ) (call : PersistCall σ) (offset length : Nat) :
    FileOperation :=
  match call.file, (codec.encode call.given).drop offset with
  | some file, byte :: rest => .write file offset ((byte :: rest).take (length + 1))
  | _, _ => .sync

/-- The operation after a successful one; `none` when the call is through. -/
def next (codec : StoreCodec σ) (call : PersistCall σ) (length : Nat) : Option FileOperation :=
  match call.operation with
  | .openTruncated => some (call.writeNext codec 0 length)
  | .write _ offset chunk => some (call.writeNext codec (offset + chunk.length) length)
  | .sync => some .rename
  | .rename => some .syncDirectory
  | .syncDirectory => none

end PersistCall

namespace Persister

variable {σ : Type} (codec : StoreCodec σ)

/-- A call is made. -/
def begin (s : Persister σ) (next : σ) : Persister σ :=
  if maxStoreBytes < (codec.encode next).length then s
  else { s with call := some { given := next, held := s.memory }, given := next :: s.given }

/-- `start` reads the store file, if there is one, and persists what it makes of it. -/
def start (s : Persister σ) (load : Option σ → Option σ) : Option (Persister σ) :=
  if s.memory.isSome ∨ s.call.isSome then none
  else match s.files.file .store with
    | none => (load none).map (s.begin codec)
    | some i =>
      if maxStoreBytes < (s.files.bytes i).length then none
      else (codec.parse (s.files.bytes i)).bind fun stored =>
        (load (some stored)).map (s.begin codec)

/-- The call sees the answer and goes on; at the end its caller sets the store in memory. -/
def resume (s : Persister σ) (length : Nat) : Option (Persister σ) :=
  s.call.bind fun call =>
    match call.answer with
    | none => none
    | some .failed => some { s with call := none }
    | some .done =>
      match call.next codec length with
      | some operation => some { s with call := some { call with operation, answer := none } }
      | none => some { s with call := none, memory := some call.given }

def exec (s : Persister σ) : PersistAction σ → Option (Persister σ)
  | .start load => s.start codec load
  | .persist next =>
    if s.memory.isSome ∧ s.call.isNone then some (s.begin codec next) else none
  | .perform failed =>
    s.call.bind fun call =>
      if call.answer.isSome then none
      else
        let result := call.operation.perform s.files failed
        some { s with files := result.2.2, call := some (call.answered result.1 result.2.1) }
  | .resume length => s.resume codec length
  | .abort =>
    s.call.map fun call =>
      { s with
        call := none
        leftover := if call.answer.isNone then s.leftover ++ [call.operation] else s.leftover }
  | .finishLeftover i failed =>
    s.leftover[i]?.map fun operation =>
      { s with
        files := (operation.perform s.files failed).2.2, leftover := s.leftover.eraseIdx i }
  | .crash => some { s with memory := none, call := none, leftover := [] }

/-- All calls of a hub, its crashes and restarts. -/
def machine : Machine (Persister σ) (PersistAction σ) := ⟨exec codec⟩

end Persister

/-! ## Leftover operations that do no harm -/

namespace PersistCall

variable {σ : Type} (codec : StoreCodec σ) (call : PersistCall σ)

/-- How much of its store a call has written. -/
def written : Nat :=
  match call.operation, call.answer with
  | .openTruncated, _ => 0
  | .write _ offset _, none => offset
  | .write _ offset chunk, some _ => offset + chunk.length
  | _, _ => (codec.encode call.given).length

def failed : Bool := call.answer = some .failed

def renamed : Bool :=
  match call.operation, call.answer with
  | .rename, some .done | .syncDirectory, _ => true
  | _, _ => false

/-- A call that still needs the file it has opened. -/
def NeedsFile : Prop := call.failed = false ∧ call.renamed = false

end PersistCall

namespace Persister

variable {σ : Type} (codec : StoreCodec σ)

/-- A leftover operation does no harm when it opens the file before the call has written to it or
    after it was renamed, writes to a file that is not the store and that the call does not need,
    or renames a file that is written as a whole. -/
def Harmless (s : Persister σ) (failed : Option Nat) : FileOperation → Prop
  | .openTruncated => failed = none → ∀ call, s.call = some call → call.NeedsFile →
    call.written codec = 0
  | .write file _ _ => s.files.file .store ≠ some file ∧
    ∀ call, s.call = some call → call.NeedsFile → call.file ≠ some file
  | .rename => failed = none → ∀ i, s.files.file .pending = some i →
    (∃ stored ∈ s.given, s.files.bytes i = codec.encode stored) ∧
      ∀ call, s.call = some call → call.NeedsFile → call.file ≠ none →
        call.written codec = (codec.encode call.given).length
  | .sync | .syncDirectory => True

/-- Every leftover operation is carried out where it does no harm. -/
def Orderly (s : Persister σ) : PersistAction σ → Prop
  | .finishLeftover i failed => ∀ operation, s.leftover[i]? = some operation →
    s.Harmless codec failed operation
  | _ => True

/-! ## The invariant -/

/-- The open file of a call holds what it has written, and keeps its name until all is written. -/
structure CallInv (s : Persister σ) (call : PersistCall σ) : Prop where
  given : call.given ∈ s.given
  held : call.held = s.memory
  unopened : call.file = none → call.failed = false →
    call.operation = .openTruncated ∧ call.answer = none
  chunk : ∀ file offset chunk, call.operation = .write file offset chunk →
    call.file = some file ∧ chunk ≠ [] ∧
      chunk = ((codec.encode call.given).drop offset).take chunk.length
  file : ∀ i, call.file = some i → call.NeedsFile →
    s.files.bytes i = (codec.encode call.given).take (call.written codec) ∧
      (s.files.file .pending = some i ∨
        call.written codec = (codec.encode call.given).length ∧ s.files.file .pending = none)

/-- The store file is whole. -/
def Whole (s : Persister σ) (files : Inodes StoreName) : Prop :=
  ∀ i, files.file .store = some i → ∃ stored ∈ s.given, files.bytes i = codec.encode stored

structure Inv (s : Persister σ) : Prop where
  apart : s.files.Apart
  store : s.Whole codec s.files
  call : ∀ call, s.call = some call → CallInv codec s call

variable {codec} {s t : Persister σ} {call : PersistCall σ} {files : Inodes StoreName}

/-- A file that has the name the store does not have is not the store. -/
theorem store_ne_pending (apart : files.Apart) {i : Nat} (named : files.file .pending = some i) :
    files.file .store ≠ some i :=
  fun same => by cases apart.distinct _ _ i named same

/-- Opening leaves the store file alone. -/
theorem Whole.opened {i : Nat} (whole : s.Whole codec s.files)
    (apart : s.files.Apart) (opened : Inodes.Opened s.files .pending i files) :
    s.Whole codec files := by
  intro j named
  rw [opened.others .store (by decide)] at named
  have other : j ≠ i := by
    rintro rfl
    exact opened.unnamed apart .store (by decide) named
  rw [opened.bytes j other]
  exact whole j named

/-- Writing to another file leaves the store file alone. -/
theorem Whole.written {i offset : Nat} {bytes : List UInt8} (whole : s.Whole codec s.files)
    (other : s.files.file .store ≠ some i) :
    s.Whole codec (s.files.writeAt i offset bytes) := by
  intro j named
  rw [Inodes.writeAt_file] at named
  have apart : j ≠ i := by
    rintro rfl
    exact other named
  rw [Inodes.writeAt_bytes_other apart]
  exact whole j named

/-- Renaming a whole file leaves a whole store. -/
theorem Whole.renamed {i : Nat} (renamed : Inodes.Renamed s.files .pending .store i files)
    (complete : ∃ stored ∈ s.given, s.files.bytes i = codec.encode stored) :
    s.Whole codec files := by
  intro j named
  rw [renamed.named] at named
  cases named
  rw [renamed.bytes]
  exact complete

/-! ## What an operation of the call does -/

/-- An operation that is not yet answered leaves its call in need of the file, up to the rename. -/
theorem needsFile_of_pending (pending : call.answer = none)
    (early : call.operation ≠ .syncDirectory) : call.NeedsFile := by
  constructor
  · simp [PersistCall.failed, pending]
  · unfold PersistCall.renamed
    rw [pending]
    split <;> simp_all

/-- There is something left to write while a chunk is being written. -/
theorem written_lt {file offset : Nat} {chunk : List UInt8}
    (writing : call.operation = .write file offset chunk) (pending : call.answer = none)
    (nonempty : chunk ≠ [])
    (chunkEq : chunk = ((codec.encode call.given).drop offset).take chunk.length) :
    call.written codec = offset ∧ offset < (codec.encode call.given).length := by
  refine ⟨by simp [PersistCall.written, writing, pending], ?_⟩
  by_contra beyond
  rw [List.drop_eq_nil_of_le (by omega), List.take_nil] at chunkEq
  exact nonempty chunkEq

/-- After an operation of the call the files are apart and the store is whole. -/
theorem Inv.perform_whole (inv : Inv codec s) (current : s.call = some call)
    (pending : call.answer = none) (failed : Option Nat) :
    (call.operation.perform s.files failed).2.2.Apart ∧
      s.Whole codec (call.operation.perform s.files failed).2.2 := by
  have before := inv.call call current
  cases op : call.operation with
  | openTruncated =>
    cases failed with
    | some n => exact ⟨inv.apart, inv.store⟩
    | none =>
      have opened := Inodes.openTruncated_opened s.files .pending
      exact ⟨opened.apart inv.apart, inv.store.opened inv.apart opened⟩
  | write file offset chunk =>
    obtain ⟨named, nonempty, chunkEq⟩ := before.chunk file offset chunk op
    obtain ⟨written, room⟩ := written_lt op pending nonempty chunkEq
    have needs := needsFile_of_pending pending (by rw [op]; simp)
    have other : s.files.file .store ≠ some file := by
      rcases (before.file file named needs).2 with own | ⟨all, -⟩
      · exact store_ne_pending inv.apart own
      · omega
    cases failed with
    | some n => exact ⟨inv.apart.writeAt, inv.store.written other⟩
    | none => exact ⟨inv.apart.writeAt, inv.store.written other⟩
  | sync => cases failed <;> exact ⟨inv.apart, inv.store⟩
  | syncDirectory => cases failed <;> exact ⟨inv.apart, inv.store⟩
  | rename =>
    cases failed with
    | some n => exact ⟨inv.apart, inv.store⟩
    | none =>
      simp only [FileOperation.perform]
      split
      · rename_i renamed
        obtain ⟨i, moved⟩ := Inodes.rename_renamed (by decide) renamed
        refine ⟨moved.apart inv.apart, Whole.renamed moved ⟨call.given, before.given, ?_⟩⟩
        have needs := needsFile_of_pending pending (by rw [op]; simp)
        cases named : call.file with
        | none =>
          have opening := (before.unopened named needs.1).1
          rw [op] at opening
          cases opening
        | some j =>
          obtain ⟨bytes, place⟩ := before.file j named needs
          rcases place with own | ⟨-, gone⟩
          · cases own.symm.trans moved.before
            rw [bytes]
            simp [PersistCall.written, op]
          · cases gone.symm.trans moved.before
      · exact ⟨inv.apart, inv.store⟩

/-- A call whose operation failed has nothing more to keep. -/
theorem CallInv.failed (before : CallInv codec s call) :
    CallInv codec { s with files } (call.answered none .failed) where
  given := before.given
  held := before.held
  unopened := fun _ failed => by simp [PersistCall.answered, PersistCall.failed] at failed
  chunk := before.chunk
  file := fun _ _ needs => by
    have := needs.1
    simp [PersistCall.answered, PersistCall.failed] at this

/-- The call after an operation of its own. -/
theorem CallInv.perform (before : CallInv codec s call)
    (pending : call.answer = none) (failed : Option Nat) :
    CallInv codec { s with files := (call.operation.perform s.files failed).2.2 }
      (call.answered (call.operation.perform s.files failed).1
        (call.operation.perform s.files failed).2.1) := by
  cases op : call.operation with
  | openTruncated =>
    cases failed with
    | some n => exact before.failed
    | none =>
      have opened := Inodes.openTruncated_opened s.files .pending
      refine ⟨before.given, before.held, fun absent _ => ?_, fun _ _ _ writing => ?_, fun i named _ => ?_⟩
      · simp [FileOperation.perform, PersistCall.answered] at absent
      · simp [PersistCall.answered, op] at writing
      · simp only [FileOperation.perform, PersistCall.answered, Option.some_or,
          Option.some.injEq] at named
        subst named
        refine ⟨?_, .inl opened.named⟩
        simpa [PersistCall.answered, PersistCall.written, op, FileOperation.perform] using
          opened.empty
  | write file offset chunk =>
    cases failed with
    | some n => exact before.failed
    | none =>
      obtain ⟨opened, nonempty, chunkEq⟩ := before.chunk file offset chunk op
      obtain ⟨written, room⟩ := written_lt op pending nonempty chunkEq
      have needs := needsFile_of_pending pending (by rw [op]; simp)
      obtain ⟨bytes, place⟩ := before.file file opened needs
      refine ⟨before.given, before.held, fun absent _ => ?_, before.chunk, fun i named _ => ?_⟩
      · simp [FileOperation.perform, PersistCall.answered, opened] at absent
      · have same : i = file := by
          simpa [FileOperation.perform, PersistCall.answered, opened] using named.symm
        subst same
        rw [written] at bytes place
        refine ⟨?_, .inl (place.resolve_right fun ⟨all, _⟩ => by omega)⟩
        have length : (s.files.bytes i).length = offset := by
          rw [bytes, List.length_take]
          omega
        simp only [FileOperation.perform, Inodes.writeAt_bytes_self, PersistCall.answered,
          PersistCall.written, op]
        rw [← length, overwrite_end, length, bytes, List.take_add, ← chunkEq]
  | sync =>
    cases failed with
    | some n => exact before.failed
    | none =>
      have needs := needsFile_of_pending pending (by rw [op]; simp)
      refine ⟨before.given, before.held, fun absent _ => ?_, fun _ _ _ writing => ?_, fun i named _ => ?_⟩
      · have := (before.unopened absent needs.1).1
        simp [op] at this
      · simp [PersistCall.answered, op] at writing
      · simpa [PersistCall.answered, PersistCall.written, op, FileOperation.perform] using
          before.file i named needs
  | syncDirectory =>
    cases failed with
    | some n => exact before.failed
    | none =>
      refine ⟨before.given, before.held, fun absent _ => ?_, fun _ _ _ writing => ?_, fun i named needs => ?_⟩
      · have := (before.unopened absent (by simp [PersistCall.failed, pending])).1
        simp [op] at this
      · simp [PersistCall.answered, op] at writing
      · have := needs.2
        simp [PersistCall.answered, PersistCall.renamed, op] at this
  | rename =>
    have needs := needsFile_of_pending pending (by rw [op]; simp)
    cases failed with
    | some n => exact before.failed
    | none =>
      simp only [FileOperation.perform]
      split
      · refine ⟨before.given, before.held, fun absent _ => ?_, fun _ _ _ writing => ?_, fun i named needs => ?_⟩
        · have := (before.unopened absent needs.1).1
          simp [op] at this
        · simp [PersistCall.answered, op] at writing
        · have := needs.2
          simp [PersistCall.answered, PersistCall.renamed, op] at this
      · exact before.failed

/-! ## What a call does with an answer -/

theorem writeNext_end {offset length : Nat}
    (through : (codec.encode call.given).length ≤ offset) :
    call.writeNext codec offset length = .sync := by
  rw [PersistCall.writeNext, List.drop_eq_nil_of_le through]
  cases call.file <;> rfl

theorem writeNext_chunk {i offset length : Nat} (opened : call.file = some i)
    (room : offset < (codec.encode call.given).length) :
    call.writeNext codec offset length =
      .write i offset (((codec.encode call.given).drop offset).take (length + 1)) := by
  rw [PersistCall.writeNext, opened, List.drop_eq_getElem_cons room]

/-- The operation `writeNext` gives a call that has written up to `offset`. -/
theorem CallInv.writeNext {i offset : Nat} (given : call.given ∈ s.given)
    (held : call.held = s.memory)
    (opened : call.file = some i)
    (bytes : s.files.bytes i = (codec.encode call.given).take offset)
    (place : s.files.file .pending = some i ∨
      offset = (codec.encode call.given).length ∧ s.files.file .pending = none)
    (within : offset ≤ (codec.encode call.given).length) (length : Nat) :
    CallInv codec s { call with
      operation := call.writeNext codec offset length, answer := none } := by
  have absent : call.file ≠ none := by rw [opened]; simp
  rcases Nat.lt_or_eq_of_le within with room | all
  · rw [writeNext_chunk opened room]
    refine ⟨given, held, fun none => absurd none absent, fun file offset' chunk writing => ?_,
      fun j named _ => ?_⟩
    · obtain ⟨rfl, rfl, rfl⟩ := by simpa using writing
      refine ⟨opened, by simpa using room, ?_⟩
      rw [List.length_take, ← List.take_eq_take_min]
    · cases opened.symm.trans named
      exact ⟨bytes, place⟩
  · rw [writeNext_end (Nat.le_of_eq all.symm)]
    refine ⟨given, held, fun none => absurd none absent, fun _ _ _ writing => ?_, fun j named _ => ?_⟩
    · simp at writing
    · cases opened.symm.trans named
      rw [all] at bytes place
      exact ⟨bytes, place⟩

/-- The operation after a successful one. -/
theorem CallInv.next (before : CallInv codec s call) (done : call.answer = some .done)
    {length : Nat} {operation : FileOperation} (next : call.next codec length = some operation) :
    CallInv codec s { call with operation, answer := none } := by
  have unfailed : call.failed = false := by simp [PersistCall.failed, done]
  obtain ⟨i, opened⟩ : ∃ i, call.file = some i := by
    cases named : call.file with
    | some i => exact ⟨i, rfl⟩
    | none => simp [(before.unopened named unfailed).2] at done
  have absent : call.file ≠ none := by rw [opened]; simp
  cases op : call.operation with
  | openTruncated =>
    obtain rfl : call.writeNext codec 0 length = operation := by
      simpa [PersistCall.next, op] using next
    have needs : call.NeedsFile := ⟨unfailed, by simp [PersistCall.renamed, op]⟩
    obtain ⟨bytes, place⟩ := before.file i opened needs
    rw [show call.written codec = 0 by simp [PersistCall.written, op]] at bytes place
    exact CallInv.writeNext before.given before.held opened bytes place (Nat.zero_le _) length
  | write file offset chunk =>
    obtain rfl : call.writeNext codec (offset + chunk.length) length = operation := by
      simpa [PersistCall.next, op] using next
    obtain ⟨-, nonempty, chunkEq⟩ := before.chunk file offset chunk op
    have needs : call.NeedsFile := ⟨unfailed, by simp [PersistCall.renamed, op]⟩
    obtain ⟨bytes, place⟩ := before.file i opened needs
    rw [show call.written codec = offset + chunk.length by
      simp [PersistCall.written, op, done]] at bytes place
    refine CallInv.writeNext before.given before.held opened bytes place ?_ length
    have lengthEq := congrArg List.length chunkEq
    have := List.length_pos_of_ne_nil nonempty
    rw [List.length_take, List.length_drop] at lengthEq
    omega
  | sync =>
    obtain rfl : FileOperation.rename = operation := by simpa [PersistCall.next, op] using next
    have needs : call.NeedsFile := ⟨unfailed, by simp [PersistCall.renamed, op]⟩
    refine ⟨before.given, before.held, fun none => absurd none absent, fun _ _ _ writing => ?_,
      fun j named _ => ?_⟩
    · simp at writing
    · simpa [PersistCall.written, op] using before.file j named needs
  | rename =>
    obtain rfl : FileOperation.syncDirectory = operation := by
      simpa [PersistCall.next, op] using next
    refine ⟨before.given, before.held, fun none => absurd none absent, fun _ _ _ writing => ?_,
      fun j named needs => ?_⟩
    · simp at writing
    · simp [PersistCall.NeedsFile, PersistCall.renamed] at needs
  | syncDirectory => simp [PersistCall.next, op] at next

/-! ## What a leftover operation does -/

/-- Another file system in which the file of a call that needs it is as it should be. -/
theorem CallInv.refiled (before : CallInv codec s call)
    (file : ∀ i, call.file = some i → call.NeedsFile →
      files.bytes i = (codec.encode call.given).take (call.written codec) ∧
        (files.file .pending = some i ∨
          call.written codec = (codec.encode call.given).length ∧ files.file .pending = none)) :
    CallInv codec { s with files } call :=
  ⟨before.given, before.held, before.unopened, before.chunk, file⟩

theorem inv_refiled (apart : files.Apart) (store : s.Whole codec files)
    (call : ∀ call, s.call = some call → CallInv codec { s with files } call)
    (leftover : List FileOperation) : Inv codec { s with files, leftover } :=
  ⟨apart, store, fun c current => ⟨(call c current).given, (call c current).held,
    (call c current).unopened, (call c current).chunk, (call c current).file⟩⟩

theorem Inv.leftover {operation : FileOperation} {failed : Option Nat} (inv : Inv codec s)
    (harmless : s.Harmless codec failed operation) (rest : List FileOperation) :
    Inv codec { s with
      files := (operation.perform s.files failed).2.2, leftover := rest } := by
  have unchanged : Inv codec { s with files := s.files, leftover := rest } :=
    inv_refiled inv.apart inv.store inv.call rest
  cases operation with
  | openTruncated =>
    cases failed with
    | some n => exact unchanged
    | none =>
      have opened := Inodes.openTruncated_opened s.files .pending
      refine inv_refiled (opened.apart inv.apart) (inv.store.opened inv.apart opened)
        (fun call current => (inv.call call current).refiled fun i named needs => ?_) rest
      have written := harmless rfl call current needs
      obtain ⟨bytes, place⟩ := (inv.call call current).file i named needs
      have nonempty := List.length_pos_of_ne_nil (codec.nonempty call.given)
      have own : s.files.file .pending = some i := place.resolve_right fun ⟨all, _⟩ => by omega
      have same : (s.files.openTruncated .pending).1 = i := by
        simp [Inodes.openTruncated, own]
      rw [same] at opened
      exact ⟨by rw [opened.empty, written, List.take_zero], .inl opened.named⟩
  | write file offset chunk =>
    obtain ⟨notStore, unneeded⟩ := harmless
    have untouched : ∀ bytes, Inv codec { s with
        files := s.files.writeAt file offset bytes, leftover := rest } := by
      intro bytes
      refine inv_refiled inv.apart.writeAt (inv.store.written notStore)
        (fun call current => (inv.call call current).refiled fun i named needs => ?_) rest
      have other : i ≠ file := by
        rintro rfl
        exact unneeded call current needs named
      rw [Inodes.writeAt_bytes_other other, Inodes.writeAt_file]
      exact (inv.call call current).file i named needs
    cases failed with
    | none => exact untouched _
    | some n => exact untouched _
  | rename =>
    cases failed with
    | some n => exact unchanged
    | none =>
      simp only [FileOperation.perform]
      split
      · rename_i renamed
        obtain ⟨i, moved⟩ := Inodes.rename_renamed (by decide) renamed
        obtain ⟨whole, written⟩ := harmless rfl i moved.before
        refine inv_refiled (moved.apart inv.apart) (Whole.renamed moved whole)
          (fun call current => (inv.call call current).refiled fun j named needs => ?_) rest
        rw [moved.bytes]
        exact ⟨((inv.call call current).file j named needs).1,
          .inr ⟨written call current needs (by rw [named]; simp), moved.gone⟩⟩
      · exact unchanged
  | sync => cases failed <;> exact unchanged
  | syncDirectory => cases failed <;> exact unchanged

/-! ## Every step -/

/-- A call begins. -/
theorem Inv.begin (inv : Inv codec s) (next : σ) : Inv codec (s.begin codec next) := by
  unfold Persister.begin
  split
  · exact inv
  · refine ⟨inv.apart, fun i named => ?_, fun call current => ?_⟩
    · obtain ⟨stored, given, bytes⟩ := inv.store i named
      exact ⟨stored, List.mem_cons_of_mem _ given, bytes⟩
    · obtain rfl := Option.some.inj current
      exact ⟨List.mem_cons_self, rfl, fun _ _ => ⟨rfl, rfl⟩,
        fun _ _ _ writing => (by simp at writing), fun _ named => (by simp at named)⟩

/-- Nobody is on a call. -/
theorem Inv.idle (inv : Inv codec s) (memory : Option σ) (leftover : List FileOperation) :
    Inv codec { s with memory, call := none, leftover } :=
  ⟨inv.apart, inv.store, fun _ current => by simp at current⟩

/-- A call that goes on. -/
theorem Inv.onCall (inv : Inv codec s) (on : CallInv codec s call) :
    Inv codec { s with call := some call } :=
  ⟨inv.apart, inv.store, fun _ current => by cases current; exact ⟨on.given, on.held, on.unopened,
    on.chunk, on.file⟩⟩

theorem Inv.resume {length : Nat} (inv : Inv codec s)
    (resumed : s.resume codec length = some t) : Inv codec t := by
  obtain ⟨call, current, resumed⟩ := Option.bind_eq_some_iff.mp resumed
  cases answered : call.answer with
  | none => simp [answered] at resumed
  | some answer =>
    cases answer with
    | failed =>
      obtain rfl : _ = t := by simpa [answered] using resumed
      exact inv.idle s.memory s.leftover
    | done =>
      cases next : call.next codec length with
      | none =>
        obtain rfl : _ = t := by simpa [answered, next] using resumed
        exact inv.idle _ s.leftover
      | some operation =>
        obtain rfl : _ = t := by simpa [answered, next] using resumed
        exact inv.onCall ((inv.call call current).next answered next)

theorem Inv.start {load : Option σ → Option σ} (inv : Inv codec s)
    (started : s.start codec load = some t) : Inv codec t := by
  unfold Persister.start at started
  split at started
  · cases started
  · split at started
    · obtain ⟨fresh, -, rfl⟩ := Option.map_eq_some_iff.mp started
      exact inv.begin fresh
    · split at started
      · cases started
      · obtain ⟨stored, -, started⟩ := Option.bind_eq_some_iff.mp started
        obtain ⟨loaded, -, rfl⟩ := Option.map_eq_some_iff.mp started
        exact inv.begin loaded

theorem Inv.step {a : PersistAction σ} (inv : Inv codec s) (orderly : s.Orderly codec a)
    (executed : (machine codec).exec s a = some t) : Inv codec t := by
  cases a with
  | start load => exact inv.start executed
  | persist next =>
    simp only [machine, exec] at executed
    split at executed
    · obtain rfl := Option.some.inj executed
      exact inv.begin next
    · cases executed
  | perform failed =>
    obtain ⟨call, current, executed⟩ := Option.bind_eq_some_iff.mp executed
    split at executed
    · cases executed
    · rename_i pending
      have pending : call.answer = none := by simpa using pending
      obtain rfl := Option.some.inj executed
      obtain ⟨apart, store⟩ := inv.perform_whole current pending failed
      have on := (inv.call call current).perform pending failed
      exact ⟨apart, store, fun _ current => by cases current; exact ⟨on.given, on.held, on.unopened,
        on.chunk, on.file⟩⟩
  | resume length => exact inv.resume executed
  | abort =>
    obtain ⟨call, -, rfl⟩ := Option.map_eq_some_iff.mp executed
    exact inv.idle s.memory _
  | finishLeftover i failed =>
    obtain ⟨operation, left, rfl⟩ := Option.map_eq_some_iff.mp executed
    exact inv.leftover (orderly operation left) _
  | crash =>
    obtain rfl := Option.some.inj executed
    exact inv.idle none []

/-- Before the first `start` there is no file. -/
def fresh : Persister σ := { files := .empty }

@[simp] theorem begin_memory (next : σ) : (s.begin codec next).memory = s.memory := by
  unfold Persister.begin
  split <;> rfl

theorem start_memory {load : Option σ → Option σ} (started : s.start codec load = some t) :
    t.memory = s.memory := by
  unfold Persister.start at started
  split at started
  · cases started
  · split at started
    · obtain ⟨fresh, -, rfl⟩ := Option.map_eq_some_iff.mp started
      exact begin_memory fresh
    · split at started
      · cases started
      · obtain ⟨stored, -, started⟩ := Option.bind_eq_some_iff.mp started
        obtain ⟨loaded, -, rfl⟩ := Option.map_eq_some_iff.mp started
        exact begin_memory loaded

/-- The store in memory changes when a call returns without an error, and is lost in a crash. -/
theorem memory_changed {a : PersistAction σ} (executed : (machine codec).exec s a = some t)
    (changed : t.memory ≠ s.memory) :
    a = .crash ∨ ∃ call length, a = .resume length ∧ s.call = some call ∧
      call.answer = some .done ∧ call.operation = .syncDirectory ∧ t.memory = some call.given := by
  cases a with
  | start load => exact absurd (start_memory executed) changed
  | persist next =>
    simp only [machine, exec] at executed
    split at executed
    · obtain rfl := Option.some.inj executed
      exact absurd (begin_memory next) changed
    · cases executed
  | perform failed =>
    obtain ⟨call, -, executed⟩ := Option.bind_eq_some_iff.mp executed
    split at executed
    · cases executed
    · obtain rfl := Option.some.inj executed
      exact absurd rfl changed
  | resume length =>
    obtain ⟨call, current, executed⟩ := Option.bind_eq_some_iff.mp executed
    right
    refine ⟨call, length, rfl, current, ?_⟩
    cases answered : call.answer with
    | none => simp [answered] at executed
    | some answer =>
      cases answer with
      | failed =>
        obtain rfl : _ = t := by simpa [answered] using executed
        exact absurd rfl changed
      | done =>
        cases next : call.next codec length with
        | some operation =>
          obtain rfl : _ = t := by simpa [answered, next] using executed
          exact absurd rfl changed
        | none =>
          obtain rfl : _ = t := by simpa [answered, next] using executed
          refine ⟨rfl, ?_, rfl⟩
          cases op : call.operation <;> simp [PersistCall.next, op] at next
          rfl
  | abort =>
    obtain ⟨call, -, rfl⟩ := Option.map_eq_some_iff.mp executed
    exact absurd rfl changed
  | finishLeftover i failed =>
    obtain ⟨operation, -, rfl⟩ := Option.map_eq_some_iff.mp executed
    exact absurd rfl changed
  | crash => exact .inl rfl

theorem Inv.fresh : Inv codec (fresh : Persister σ) :=
  ⟨Inodes.empty_apart, fun _ named => by simp [Persister.fresh, Inodes.empty] at named,
    fun _ current => by simp [Persister.fresh] at current⟩

/-- While no leftover operation does harm, `store.json` is a store that a call was given, and a
    call that returns an error leaves the store in memory as it was. -/
theorem persist_atomic (codec : StoreCodec σ) {t : Persister σ}
    (run : (machine codec).Run (Orderly codec) fresh t) :
    (∀ i, t.files.file .store = some i →
      ∃ stored ∈ t.given, codec.parse (t.files.bytes i) = some stored) ∧
    (∀ call length u, t.call = some call → call.answer = some .failed →
      (machine codec).exec t (.resume length) = some u → u.memory = call.held) ∧
    (∀ next u, maxStoreBytes < (codec.encode next).length →
      (machine codec).exec t (.persist next) = some u → u.memory = t.memory) ∧
    (∀ a u, (machine codec).exec t a = some u → u.memory ≠ t.memory →
      a = .crash ∨ ∃ call length, a = .resume length ∧ t.call = some call ∧
        call.answer = some .done ∧ call.operation = .syncDirectory ∧
          u.memory = some call.given) := by
  have inv : Inv codec t := by
    refine run.invariant (fun s a u orderly executed inv => ?_) .fresh
    exact inv.step orderly executed
  refine ⟨fun i named => ?_, fun call length u current failed executed => ?_,
    fun next u _ executed => ?_, fun a u executed changed => memory_changed executed changed⟩
  · obtain ⟨stored, given, bytes⟩ := inv.store i named
    exact ⟨stored, given, by rw [bytes, codec.lossless]⟩
  · obtain rfl : _ = u := by simpa [machine, exec, resume, current, failed] using executed
    exact (inv.call call current).held.symm
  · by_contra changed
    obtain same | ⟨_, _, same, _⟩ := memory_changed executed changed
    · cases same
    · cases same

/-! ## A rename that is left over -/

/-- A store of one byte, between braces. -/
def bracedByte : StoreCodec UInt8 where
  encode b := [123, b, 125]
  parse
    | [123, b, 125] => some b
    | _ => none
  lossless _ := rfl
  nonempty _ := by simp

/-- A call that goes well, up to its rename. -/
def upToRename : List (PersistAction UInt8) :=
  [.perform none, .resume 2, .perform none, .resume 2, .perform none, .resume 2]

/-- A hub starts and persists its first store. -/
def firstStore : List (PersistAction UInt8) :=
  .start (fun _ => some 1) :: upToRename ++ [.perform none, .resume 2, .perform none, .resume 2]

/-- A session ends while the pool syncs; the next call goes through. -/
def syncLeftOver : List (PersistAction UInt8) :=
  firstStore ++ [.persist 2, .perform none, .resume 2, .perform none, .resume 2, .abort,
    .persist 3] ++ upToRename ++ [.finishLeftover 0 none, .perform none]

/-- A session ends while the pool renames; the next call has emptied the file by then. -/
def renameLeftOver : List (PersistAction UInt8) :=
  firstStore ++ .persist 2 :: upToRename ++ [.abort, .persist 3, .perform none,
    .finishLeftover 0 none]

theorem persist_atomic_sync : ∃ stored ∈ ((machine bracedByte).reach fresh syncLeftOver).given,
    bracedByte.parse (((machine bracedByte).reach fresh syncLeftOver).files.bytes 1) =
      some stored := by
  have run : (machine bracedByte).Run (Orderly bracedByte) fresh
      ((machine bracedByte).reach fresh syncLeftOver) := by
    refine run_reach_of_allowedList (fun s a => match a with
      | .finishLeftover i _ => s.leftover[i]? = some .sync
      | _ => true) ?_ syncLeftOver (by decide +kernel) (by decide +kernel)
    intro s a allowed
    cases a with
    | finishLeftover i failed =>
      intro operation left
      obtain rfl := Option.some.inj ((of_decide_eq_true allowed).symm.trans left)
      trivial
    | _ => trivial
  exact (persist_atomic bracedByte run).1 1 (by decide +kernel)

theorem renameLeftOver_partial : ¬ ∀ t : Persister UInt8,
    (machine bracedByte).Run anyAction fresh t → ∀ i, t.files.file .store = some i →
      ∃ stored ∈ t.given, bracedByte.parse (t.files.bytes i) = some stored := by
  intro claimed
  obtain ⟨stored, -, parsed⟩ := claimed _
    (run_reach renameLeftOver (by decide +kernel)) 1 (by decide +kernel)
  have empty : ((machine bracedByte).reach fresh renameLeftOver).files.bytes 1 = [] := by
    decide +kernel
  rw [empty] at parsed
  cases parsed

end Persister

end EdgeKvm.Notification
