import EdgeKvm.Lib.Machine

/-!
# Event handlers

The body of an event loop as a program over the loop's state: it reads and updates the state,
emits outputs in order, and may leave the loop. `Handler.wp` is its weakest precondition, and
the rules below compute it one construct at a time. A loop that runs one handler for each
event is a machine (`Handler.loop`); what every handler preserves holds in every state the loop
reaches (`Handler.Run.invariant`).
-/

namespace EdgeKvm.Lib

/-- What a handler did: its result or the reason it left the loop, the state, the outputs. -/
structure Turn (σ ω ε α : Type) where
  result : Except ε α
  state : σ
  output : List ω := []

/-- A program over the state `σ` with outputs `ω` that may leave the loop with an `ε`. -/
def Handler (σ ω ε α : Type) : Type := σ → Turn σ ω ε α

namespace Handler

variable {σ ω ε α β : Type}

instance : Monad (Handler σ ω ε) where
  pure a := fun s => { result := .ok a, state := s }
  bind h f := fun s =>
    let first := h s
    match first.result with
    | .error e => { result := .error e, state := first.state, output := first.output }
    | .ok a =>
      let rest := f a first.state
      { rest with output := first.output ++ rest.output }

def read : Handler σ ω ε σ := fun s => { result := .ok s, state := s }

def update (f : σ → σ) : Handler σ ω ε Unit := fun s => { result := .ok (), state := f s }

def emit (o : ω) : Handler σ ω ε Unit := fun s => { result := .ok (), state := s, output := [o] }

/-- Ends the loop. -/
def leave (e : ε) : Handler σ ω ε α := fun s => { result := .error e, state := s }

/-- Ends the loop if the call it stands for failed. -/
def check : Option ε → Handler σ ω ε Unit
  | none => pure ()
  | some e => leave e

/-- The value of a fallible step, or the end of the loop with the error it maps to. -/
def ofExcept {δ : Type} (g : δ → ε) : Except δ α → Handler σ ω ε α
  | .ok a => pure a
  | .error d => leave (g d)

/-- `Q` holds of the result, the state and the outputs when the handler is run in `s`. -/
def wp (h : Handler σ ω ε α) (Q : Except ε α → σ → List ω → Prop) (s : σ) : Prop :=
  Q (h s).result (h s).state (h s).output

variable {h : Handler σ ω ε α} {f : α → Handler σ ω ε β} {s : σ} {a : α} {e : ε}
  {Q Q' : Except ε α → σ → List ω → Prop}

theorem wp_mono (weaker : ∀ r t o, Q r t o → Q' r t o) (holds : h.wp Q s) : h.wp Q' s :=
  weaker _ _ _ holds

theorem wp_and (first : h.wp Q s) (second : h.wp Q' s) :
    h.wp (fun r t o => Q r t o ∧ Q' r t o) s := ⟨first, second⟩

@[simp] theorem wp_pure : (pure a : Handler σ ω ε α).wp Q s ↔ Q (.ok a) s [] := Iff.rfl

@[simp] theorem wp_bind {Q : Except ε β → σ → List ω → Prop} :
    (h >>= f).wp Q s ↔ h.wp (fun r t o => match r with
      | .error e => Q (.error e) t o
      | .ok a => (f a).wp (fun r' t' o' => Q r' t' (o ++ o')) t) s := by
  simp only [wp, bind]
  cases (h s).result <;> rfl

@[simp] theorem wp_read {Q : Except ε σ → σ → List ω → Prop} :
    (read : Handler σ ω ε σ).wp Q s ↔ Q (.ok s) s [] := Iff.rfl

@[simp] theorem wp_update {Q : Except ε Unit → σ → List ω → Prop} {f : σ → σ} :
    (update f : Handler σ ω ε Unit).wp Q s ↔ Q (.ok ()) (f s) [] := Iff.rfl

@[simp] theorem wp_emit {Q : Except ε Unit → σ → List ω → Prop} {o : ω} :
    (emit o : Handler σ ω ε Unit).wp Q s ↔ Q (.ok ()) s [o] := Iff.rfl

@[simp] theorem wp_leave : (leave e : Handler σ ω ε α).wp Q s ↔ Q (.error e) s [] := Iff.rfl

@[simp] theorem wp_check {Q : Except ε Unit → σ → List ω → Prop} {failure : Option ε} :
    (check failure : Handler σ ω ε Unit).wp Q s ↔
      (failure = none → Q (.ok ()) s []) ∧ ∀ e, failure = some e → Q (.error e) s [] := by
  cases failure <;> simp [check]

@[simp] theorem wp_ofExcept {δ : Type} {g : δ → ε} {x : Except δ α} :
    (ofExcept g x : Handler σ ω ε α).wp Q s ↔
      (∀ a, x = .ok a → Q (.ok a) s []) ∧ ∀ d, x = .error d → Q (.error (g d)) s [] := by
  cases x <;> simp [ofExcept]

@[simp] theorem wp_ite {c : Prop} [Decidable c] {k : Handler σ ω ε α} :
    (if c then h else k).wp Q s ↔ (c → h.wp Q s) ∧ (¬ c → k.wp Q s) := by
  by_cases hc : c <;> simp [hc]

/-- What the first handler ensures is what the rest starts from. -/
theorem wp_seq {Q₁ : Except ε α → σ → List ω → Prop} {Q : Except ε β → σ → List ω → Prop}
    (first : h.wp Q₁ s) (failed : ∀ e t o, Q₁ (.error e) t o → Q (.error e) t o)
    (rest : ∀ a t o, Q₁ (.ok a) t o → (f a).wp (fun r t' o' => Q r t' (o ++ o')) t) :
    (h >>= f).wp Q s := by
  rw [wp_bind]
  refine wp_mono (fun r t o ensured => ?_) first
  cases r with
  | error e => exact failed e t o ensured
  | ok a => exact rest a t o ensured

theorem wp_read_bind {f : σ → Handler σ ω ε β} {Q : Except ε β → σ → List ω → Prop} :
    (read >>= f).wp Q s ↔ (f s).wp Q s := by
  rw [wp_bind, wp_read]
  simp only [List.nil_append]

/-- `wp_seq` for a handler that never leaves the loop. -/
theorem wp_total {h : Handler σ ω Empty α} {f : α → Handler σ ω Empty β}
    {Q₁ : Except Empty α → σ → List ω → Prop} {Q : Except Empty β → σ → List ω → Prop}
    (first : h.wp Q₁ s)
    (rest : ∀ a t o, Q₁ (.ok a) t o → (f a).wp (fun r t' o' => Q r t' (o ++ o')) t) :
    (h >>= f).wp Q s := wp_seq first (fun e => e.elim) rest

/-- However the handler ends, `R` relates the states around it and its outputs. -/
def Within (R : σ → σ → List ω → Prop) (h : Handler σ ω ε α) (s : σ) : Prop :=
  h.wp (fun _ t o => R s t o) s

/-- Two handlers one behind the other, for a relation that is transitive. -/
theorem Within.bind {R : σ → σ → List ω → Prop}
    (trans : ∀ {s t u o o'}, R s t o → R t u o' → R s u (o ++ o'))
    (first : h.Within R s) (rest : ∀ a t, (f a).Within R t) : (h >>= f).Within R s := by
  refine wp_seq first (fun _ _ _ ended => ended) ?_
  intro a t o related
  exact wp_mono (fun _ _ _ further => trans related further) (rest a t)

/-- The handler only counts when the loop goes on. -/
def Keeps (I : σ → Prop) (h : Handler σ ω ε α) (s : σ) : Prop :=
  h.wp (fun r t _ => ∀ a, r = .ok a → I t) s

theorem Keeps.bind {I J : σ → Prop} (first : h.Keeps J s)
    (rest : ∀ a t, J t → (f a).Keeps I t) : (h >>= f).Keeps I s := by
  unfold Keeps
  rw [wp_bind]
  cases result : (h s).result with
  | error e => simp [wp, result]
  | ok a =>
    simp only [wp, result]
    exact rest a _ (first a result)

/-- The loop that runs one handler for each event. -/
def loop {η : Type} (handle : η → Handler σ ω ε Unit) : Machine σ η where
  exec s event :=
    match (handle event s).result with
    | .ok _ => some (handle event s).state
    | .error _ => none

variable {η : Type} {handle : η → Handler σ ω ε Unit} {event : η} {t : σ}

theorem exec_loop : (loop handle).exec s event = some t ↔
    (handle event s).result = .ok () ∧ (handle event s).state = t := by
  simp only [loop]
  cases (handle event s).result <;> simp

theorem Keeps.exec {I : σ → Prop} (keeps : (handle event).Keeps I s)
    (executed : (loop handle).exec s event = some t) : I t := by
  obtain ⟨result, rfl⟩ := exec_loop.mp executed
  exact keeps () result

end Handler

end EdgeKvm.Lib
