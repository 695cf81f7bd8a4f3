import Mathlib.Order.Lattice

/-!
# Copies fed through a queue

A source holds a growing value of a join semilattice and feeds a copy through a first-in
first-out queue of two kinds of message: the whole value at some moment, which replaces the
copy, and a part the source already contains, which is joined to the copy. `Feed lo q hi` says
that a copy at `lo` only grows while it takes in the messages `q`, and ends below `hi`.
-/

namespace EdgeKvm.Lib

universe u v

/-- A message on the way from the source to the copy. -/
inductive FeedMessage (L : Type u) where
  | whole (value : L)
  | part (value : L)

/-- The same whole value, or a smaller part. -/
def FeedMessage.Below {L : Type u} [LE L] : FeedMessage L → FeedMessage L → Prop
  | .whole value, .whole value' => value = value'
  | .part value, .part value' => value ≤ value'
  | _, _ => False

/-- Taking in `q` from `lo` never loses anything and ends below `hi`. -/
def Feed {L : Type u} [SemilatticeSup L] : L → List (FeedMessage L) → L → Prop
  | lo, [], hi => lo ≤ hi
  | lo, .whole value :: q, hi => lo ≤ value ∧ Feed value q hi
  | lo, .part value :: q, hi => Feed (lo ⊔ value) q hi

namespace Feed

variable {L : Type u} [SemilatticeSup L] {lo lo' hi hi' value : L} {q q' : List (FeedMessage L)}

theorem le (feed : Feed lo q hi) : lo ≤ hi := by
  induction q generalizing lo with
  | nil => exact feed
  | cons message q ih =>
    cases message with
    | whole value => exact feed.1.trans (ih feed.2)
    | part value => exact le_sup_left.trans (ih feed)

/-- The source may grow. -/
theorem grow (grown : hi ≤ hi') (feed : Feed lo q hi) : Feed lo q hi' := by
  induction q generalizing lo with
  | nil => exact le_trans feed grown
  | cons message q ih =>
    cases message with
    | whole value => exact ⟨feed.1, ih feed.2⟩
    | part value => exact ih feed

/-- A copy that is behind may be fed the same messages. -/
theorem behind (below : lo' ≤ lo) (feed : Feed lo q hi) : Feed lo' q hi := by
  induction q generalizing lo lo' with
  | nil => exact below.trans feed
  | cons message q ih =>
    cases message with
    | whole value => exact ⟨below.trans feed.1, feed.2⟩
    | part value => exact ih (sup_le_sup_right below value) feed

/-- The source sends its whole value. -/
theorem push_whole (feed : Feed lo q hi) : Feed lo (q ++ [.whole hi]) hi := by
  induction q generalizing lo with
  | nil => exact ⟨feed, le_refl hi⟩
  | cons message q ih =>
    cases message with
    | whole value => exact ⟨feed.1, ih feed.2⟩
    | part value => exact ih feed

/-- The source sends a part of its value. -/
theorem push_part (contained : value ≤ hi) (feed : Feed lo q hi) :
    Feed lo (q ++ [.part value]) hi := by
  induction q generalizing lo with
  | nil => exact sup_le feed contained
  | cons message q ih =>
    cases message with
    | whole value => exact ⟨feed.1, ih feed.2⟩
    | part value => exact ih feed

/-- Parts may shrink. -/
theorem shrink {δ : Type v} {f g : δ → FeedMessage L} {ds : List δ}
    (below : ∀ d ∈ ds, (f d).Below (g d)) (feed : Feed lo (ds.map g) hi) :
    Feed lo (ds.map f) hi := by
  induction ds generalizing lo with
  | nil => exact feed
  | cons d ds ih =>
    obtain ⟨first, rest⟩ := List.forall_mem_cons.mp below
    simp only [List.map_cons] at feed ⊢
    cases hf : f d <;> cases hg : g d <;> simp only [hf, hg, FeedMessage.Below, Feed] at *
    · exact first ▸ ⟨feed.1, ih rest feed.2⟩
    · exact (ih rest feed).behind (sup_le_sup_left first lo)

/-- The messages at the end may be lost. -/
theorem lose (feed : Feed lo (q ++ q') hi) : Feed lo q hi := by
  induction q generalizing lo with
  | nil => exact feed.le
  | cons message q ih =>
    cases message with
    | whole value => exact ⟨feed.1, ih feed.2⟩
    | part value => exact ih feed

end Feed

end EdgeKvm.Lib
