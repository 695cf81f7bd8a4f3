import Mathlib.Data.List.Basic

/-!
# Cutting a coded text

A text is coded letter by letter, each letter as a short word, and the code is then cut to what
weighs at most `n`. The cut falls between two words, or inside one of them: then only a part of
that word is left at the end.
-/

namespace EdgeKvm.Lib

universe u v

variable {α : Type u} {β : Type v} (w : β → Nat)

/-- The longest prefix that weighs at most `n`. -/
def takeWithin : List β → Nat → List β
  | [], _ => []
  | b :: bs, n => if w b ≤ n then b :: takeWithin bs (n - w b) else []

def weight : List β → Nat
  | [] => 0
  | b :: bs => w b + weight bs

@[simp] theorem weight_nil : weight w [] = 0 := rfl

@[simp] theorem weight_cons (b : β) (bs : List β) : weight w (b :: bs) = w b + weight w bs := rfl

@[simp] theorem weight_append (bs cs : List β) :
    weight w (bs ++ cs) = weight w bs + weight w cs := by
  induction bs with
  | nil => simp
  | cons b bs ih => rw [List.cons_append, weight_cons, weight_cons, ih, Nat.add_assoc]

variable {w}

theorem utf8ByteSize_ofList (text : List Char) :
    (String.ofList text).utf8ByteSize = weight Char.utf8Size text := by
  induction text with
  | nil => rfl
  | cons c text ih =>
    rw [← List.singleton_append, String.ofList_append, String.utf8ByteSize_append, ih,
      List.singleton_append, weight_cons]
    congr 1
    rw [← String.singleton_eq_ofList, String.utf8ByteSize_singleton]

theorem utf8ByteSize_eq_weight (text : String) :
    text.utf8ByteSize = weight Char.utf8Size text.toList := by
  rw [← utf8ByteSize_ofList, String.ofList_toList]

theorem takeWithin_of_le {bs : List β} : ∀ {n : Nat}, weight w bs ≤ n → takeWithin w bs n = bs := by
  induction bs with
  | nil =>
    intro n _
    rfl
  | cons b bs ih =>
    intro n light
    rw [weight_cons] at light
    rw [takeWithin, if_pos (by omega), ih (by omega)]

theorem takeWithin_initial (bs : List β) : ∀ n : Nat, takeWithin w bs n <+: bs := by
  induction bs with
  | nil =>
    intro n
    exact List.prefix_rfl
  | cons b bs ih =>
    intro n
    rw [takeWithin]
    split
    · exact List.cons_prefix_cons.mpr ⟨rfl, ih _⟩
    · exact List.nil_prefix

theorem weight_takeWithin (bs : List β) : ∀ n : Nat, weight w (takeWithin w bs n) ≤ n := by
  induction bs with
  | nil =>
    intro n
    exact Nat.zero_le n
  | cons b bs ih =>
    intro n
    rw [takeWithin]
    split
    · rename_i fits
      have := ih (n - w b)
      rw [weight_cons]
      omega
    · exact Nat.zero_le n

/-- What fits is kept, and the rest is cut. -/
theorem takeWithin_append_of_le {bs : List β} (cs : List β) : ∀ {n : Nat}, weight w bs ≤ n →
    takeWithin w (bs ++ cs) n = bs ++ takeWithin w cs (n - weight w bs) := by
  induction bs with
  | nil =>
    intro n _
    rfl
  | cons b bs ih =>
    intro n light
    rw [weight_cons] at light
    rw [List.cons_append, takeWithin, if_pos (by omega), ih (by omega), weight_cons, Nat.sub_sub]
    rfl

/-- What does not fit is cut, and nothing of the rest is kept. -/
theorem takeWithin_append_of_lt {bs : List β} (cs : List β) : ∀ {n : Nat}, n < weight w bs →
    takeWithin w (bs ++ cs) n = takeWithin w bs n := by
  induction bs with
  | nil =>
    intro n heavy
    exact absurd heavy (Nat.not_lt_zero n)
  | cons b bs ih =>
    intro n heavy
    rw [weight_cons] at heavy
    rw [List.cons_append, takeWithin, takeWithin]
    split
    · rw [ih (by omega)]
    · rfl

theorem takeWithin_ne_of_lt {bs : List β} {n : Nat} (heavy : n < weight w bs) :
    takeWithin w bs n ≠ bs := by
  intro whole
  have := weight_takeWithin (w := w) bs n
  rw [whole] at this
  omega

/-! ## Codes -/

variable (w) (code : α → List β)

/-- The cut at `n` falls inside the word of the letter `c`, which follows `before`. -/
structure CutsInside (text : List α) (n : Nat) (before : List α) (c : α) : Prop where
  text : before ++ [c] <+: text
  fits : weight w (before.flatMap code) ≤ n
  beyond : n < weight w ((before ++ [c]).flatMap code)
  part : takeWithin w (code c) (n - weight w (before.flatMap code)) ≠ []

/-- The cut falls inside no word. -/
def CutsBetween (text : List α) (n : Nat) : Prop :=
  ∀ before c, ¬ CutsInside w code text n before c

variable {w code} {text : List α} {n : Nat} {before : List α} {c : α}

/-- A part of the last word is left. -/
theorem CutsInside.cut (inside : CutsInside w code text n before c) :
    takeWithin w (text.flatMap code) n = before.flatMap code ++
      takeWithin w (code c) (n - weight w (before.flatMap code)) := by
  obtain ⟨after, rfl⟩ := inside.text
  have beyond := inside.beyond
  simp only [List.flatMap_append, List.flatMap_singleton, weight_append] at beyond
  simp only [List.flatMap_append, List.flatMap_singleton, List.append_assoc]
  have fits := inside.fits
  rw [takeWithin_append_of_le _ fits, takeWithin_append_of_lt _ (by omega)]

/-- The part is not the whole word. -/
theorem CutsInside.part_ne (inside : CutsInside w code text n before c) :
    takeWithin w (code c) (n - weight w (before.flatMap code)) ≠ code c := by
  have beyond := inside.beyond
  have := inside.fits
  simp only [List.flatMap_append, List.flatMap_singleton, weight_append] at beyond
  exact takeWithin_ne_of_lt (by omega)

/-- The cut falls inside a word, or the code of a prefix is left. -/
theorem cut_cases (code : α → List β) : ∀ (text : List α) (n : Nat),
    (∃ before c, CutsInside w code text n before c) ∨
      ∃ kept, kept <+: text ∧ takeWithin w (text.flatMap code) n = kept.flatMap code := by
  intro text
  induction text with
  | nil =>
    intro n
    exact .inr ⟨[], List.prefix_rfl, rfl⟩
  | cons c text ih =>
    intro n
    rw [List.flatMap_cons]
    by_cases fits : weight w (code c) ≤ n
    · rw [takeWithin_append_of_le _ fits]
      obtain ⟨before, d, inside⟩ | ⟨kept, keptPrefix, cut⟩ := ih (n - weight w (code c))
      · left
        refine ⟨c :: before, d, List.cons_prefix_cons.mpr ⟨rfl, inside.text⟩, ?_, ?_, ?_⟩
        · have := inside.fits
          rw [List.flatMap_cons, weight_append]
          omega
        · have := inside.beyond
          rw [List.cons_append, List.flatMap_cons, weight_append]
          omega
        · have := inside.part
          rwa [List.flatMap_cons, weight_append, ← Nat.sub_sub]
      · right
        exact ⟨c :: kept, List.cons_prefix_cons.mpr ⟨rfl, keptPrefix⟩, by
          rw [cut, List.flatMap_cons]⟩
    · have heavy : n < weight w (code c) := Nat.lt_of_not_le fits
      rw [takeWithin_append_of_lt _ heavy]
      by_cases nothing : takeWithin w (code c) n = []
      · right
        exact ⟨[], List.nil_prefix, nothing⟩
      · left
        refine ⟨[], c, List.cons_prefix_cons.mpr ⟨rfl, List.nil_prefix⟩, Nat.zero_le n, ?_, nothing⟩
        simpa using heavy

/-- A cut between words leaves the code of a prefix. -/
theorem CutsBetween.cut (between : CutsBetween w code text n) :
    ∃ kept, kept <+: text ∧ takeWithin w (text.flatMap code) n = kept.flatMap code := by
  obtain ⟨before, c, inside⟩ | kept := cut_cases code text n
  · exact absurd inside (between before c)
  · exact kept

end EdgeKvm.Lib
