import Mathlib.Data.List.Basic

/-!
# Lines and words

What is written line by line and read line by line, what is joined from words and split at blanks,
and what is split at the first or the last separator. Nothing is escaped, so that each of them is
undone only where no separator stands inside.
-/

namespace EdgeKvm.Lib.Lines

universe u

variable {α : Type u} {text line a b : List α} {written words : List (List α)} {blank : α → Bool}

/-! ## Parts -/

theorem not_blank_of_mem_splitOnP {p : α → Bool} {part : List α} :
    ∀ {text : List α}, part ∈ text.splitOnP p → ∀ x ∈ part, p x = false := by
  intro text
  induction text generalizing part with
  | nil =>
    intro member x inside
    rw [List.splitOnP_nil, List.mem_singleton] at member
    rw [member] at inside
    exact absurd inside List.not_mem_nil
  | cons first rest ih =>
    intro member x inside
    rw [List.splitOnP_cons_eq_if_modifyHead] at member
    by_cases stops : p first = true
    · rw [if_pos stops] at member
      obtain rfl | later := List.mem_cons.mp member
      · exact absurd inside List.not_mem_nil
      · exact ih later x inside
    · rw [if_neg stops] at member
      obtain ⟨head, parts, split⟩ := List.exists_cons_of_ne_nil (List.splitOnP_ne_nil p rest)
      rw [split, List.modifyHead_cons] at member
      obtain rfl | later := List.mem_cons.mp member
      · obtain rfl | behind := List.mem_cons.mp inside
        · exact Bool.eq_false_iff.mpr stops
        · exact ih (split ▸ List.mem_cons_self) x behind
      · exact ih (split ▸ List.mem_cons_of_mem _ later) x inside

theorem length_splitOnP (p : α → Bool) (text : List α) :
    (text.splitOnP p).length = text.countP p + 1 := by
  induction text with
  | nil => rfl
  | cons first rest ih =>
    rw [List.splitOnP_cons_eq_if_modifyHead, List.countP_cons]
    split
    · rw [List.length_cons, ih]
    · rw [List.length_modifyHead, ih]

/-! ## Words -/

/-- The parts between blanks that are not empty. -/
def splitBlank (blank : α → Bool) (text : List α) : List (List α) :=
  (text.splitOnP blank).filter fun word => !word.isEmpty

/-- The words of a text have a blank nowhere, and none is empty. -/
theorem of_mem_splitBlank (member : line ∈ splitBlank blank text) :
    line ≠ [] ∧ ∀ x ∈ line, blank x = false := by
  obtain ⟨part, filled⟩ := List.mem_filter.mp member
  refine ⟨?_, not_blank_of_mem_splitOnP part⟩
  rintro rfl
  cases filled

theorem splitBlank_cons {gap : α} (separates : blank gap = true) (word : List α)
    (filled : word ≠ []) (whole : ∀ x ∈ word, blank x = false) (rest : List α) :
    splitBlank blank (word ++ gap :: rest) = word :: splitBlank blank rest := by
  unfold splitBlank
  rw [List.splitOnP_append_cons_of_forall_mem whole gap separates, List.filter_cons_of_pos]
  simpa using filled

/-- A blank at the end makes no word. -/
theorem splitBlank_snoc {gap : α} (separates : blank gap = true) (text : List α) :
    splitBlank blank (text ++ [gap]) = splitBlank blank text := by
  unfold splitBlank
  rw [List.splitOnP_append_cons text [] separates, List.filter_append, List.splitOnP_nil]
  exact List.append_nil _

theorem splitBlank_word (filled : line ≠ []) (whole : ∀ x ∈ line, blank x = false) :
    splitBlank blank line = [line] := by
  unfold splitBlank
  rw [List.splitOnP_eq_singleton whole, List.filter_cons_of_pos (by simpa using filled)]
  rfl

/-- Words that are joined are split again. -/
theorem splitBlank_intercalate {gap : α} (separates : blank gap = true)
    (whole : ∀ word ∈ words, word ≠ [] ∧ ∀ x ∈ word, blank x = false) :
    splitBlank blank ([gap].intercalate words) = words := by
  induction words with
  | nil => rfl
  | cons word words ih =>
    obtain ⟨filled, unbroken⟩ := whole word List.mem_cons_self
    cases words with
    | nil =>
      rw [List.intercalate_singleton]
      exact splitBlank_word filled unbroken
    | cons next words =>
      rw [List.intercalate_cons_cons, List.append_assoc, List.singleton_append,
        splitBlank_cons separates word filled unbroken,
        ih fun other member => whole other (List.mem_cons_of_mem _ member)]

/-! ## The first and the last separator -/

variable [DecidableEq α] {sep : α}

/-- What stands before the first separator and behind it. -/
def splitOnce (sep : α) : List α → Option (List α × List α)
  | [] => none
  | first :: rest =>
    if first = sep then some ([], rest)
    else (splitOnce sep rest).map fun parts => (first :: parts.1, parts.2)

/-- What stands before the last separator and behind it. -/
def rsplitOnce (sep : α) (text : List α) : Option (List α × List α) :=
  (splitOnce sep text.reverse).map fun parts => (parts.2.reverse, parts.1.reverse)

theorem splitOnce_append (absent : sep ∉ a) : splitOnce sep (a ++ sep :: b) = some (a, b) := by
  induction a with
  | nil => rw [List.nil_append, splitOnce, if_pos rfl]
  | cons first rest ih =>
    rw [List.mem_cons, not_or] at absent
    rw [List.cons_append, splitOnce, if_neg (Ne.symm absent.1), ih absent.2]
    rfl

theorem splitOnce_none (absent : sep ∉ a) : splitOnce sep a = none := by
  induction a with
  | nil => rfl
  | cons first rest ih =>
    rw [List.mem_cons, not_or] at absent
    rw [splitOnce, if_neg (Ne.symm absent.1), ih absent.2]
    rfl

theorem rsplitOnce_append (absent : sep ∉ b) : rsplitOnce sep (a ++ sep :: b) = some (a, b) := by
  have split : splitOnce sep (b.reverse ++ sep :: a.reverse) = some (b.reverse, a.reverse) :=
    splitOnce_append (mt List.mem_reverse.mp absent)
  unfold rsplitOnce
  rw [List.reverse_append, List.reverse_cons, List.append_assoc, List.singleton_append, split]
  simp only [Option.map_some, List.reverse_reverse]

theorem eq_of_splitOnce : ∀ {text a b : List α}, splitOnce sep text = some (a, b) →
    text = a ++ sep :: b := by
  intro text
  induction text with
  | nil => intro a b split; cases split
  | cons first rest ih =>
    intro a b split
    rw [splitOnce] at split
    by_cases stops : first = sep
    · rw [if_pos stops] at split
      cases split
      rw [stops, List.nil_append]
    · rw [if_neg stops] at split
      obtain ⟨⟨before, behind⟩, later, same⟩ := Option.map_eq_some_iff.mp split
      cases same
      rw [ih later, List.cons_append]

theorem eq_of_rsplitOnce (split : rsplitOnce sep text = some (a, b)) : text = a ++ sep :: b := by
  obtain ⟨⟨before, behind⟩, reversed, same⟩ := Option.map_eq_some_iff.mp split
  cases same
  have whole := congrArg List.reverse (eq_of_splitOnce reversed)
  rw [List.reverse_reverse, List.reverse_append, List.reverse_cons, List.append_assoc,
    List.singleton_append] at whole
  exact whole

/-! ## Lines -/

/-- The line without a carriage return at its end. -/
def chomp (cr : α) (line : List α) : List α :=
  if line.getLast? = some cr then line.dropLast else line

/-- The lines of a text: those that a newline ends, without a carriage return before it, and what
    stands behind the last newline. -/
def readLines (newline cr : α) (text : List α) : List (List α) :=
  (text.splitOn newline).dropLast.map (chomp cr) ++
    ((text.splitOn newline).getLast?.toList.filter fun line => !line.isEmpty)

/-- The text of lines that a newline ends each. -/
def writeLines (newline : α) (written : List (List α)) : List α :=
  written.flatMap (· ++ [newline])

variable {newline cr : α}

/-- What stands before the first separator is the start of the first part. -/
theorem splitOn_append (absent : newline ∉ a) (rest : List α) :
    (a ++ rest).splitOn newline = (rest.splitOn newline).modifyHead (a ++ ·) := by
  induction a with
  | nil =>
    obtain ⟨head, parts, split⟩ := List.exists_cons_of_ne_nil (List.splitOn_ne_nil newline rest)
    rw [List.nil_append, split]
    rfl
  | cons first before ih =>
    rw [List.mem_cons, not_or] at absent
    obtain ⟨head, parts, split⟩ := List.exists_cons_of_ne_nil (List.splitOn_ne_nil newline rest)
    rw [List.cons_append, List.splitOn_cons_eq_if_modifyHead, if_neg (by simpa using Ne.symm absent.1),
      ih absent.2, split]
    rfl

theorem splitOn_writeLines (whole : ∀ line ∈ written, newline ∉ line) :
    (writeLines newline written).splitOn newline = written ++ [[]] := by
  induction written with
  | nil => rfl
  | cons line written ih =>
    rw [writeLines, List.flatMap_cons, List.append_assoc, List.singleton_append,
      List.splitOn_append_cons_self_of_not_mem (whole line List.mem_cons_self)]
    exact congrArg (line :: ·) (ih fun other member => whole other (List.mem_cons_of_mem _ member))

/-- A text that a newline ends. -/
theorem readLines_snoc (text : List α) :
    readLines newline cr (text ++ [newline]) = (text.splitOn newline).map (chomp cr) := by
  unfold readLines
  rw [List.splitOn_append_cons_self, List.splitOn_nil, List.dropLast_concat, List.getLast?_append]
  exact List.append_nil _

/-- Lines without newlines are read as they were written. -/
theorem readLines_writeLines (whole : ∀ line ∈ written, newline ∉ line) :
    readLines newline cr (writeLines newline written) = written.map (chomp cr) := by
  unfold readLines
  rw [splitOn_writeLines whole, List.dropLast_concat, List.getLast?_append]
  exact List.append_nil _

theorem count_writeLines : (writeLines newline written).count newline =
    written.length + written.flatten.count newline := by
  induction written with
  | nil => rfl
  | cons line written ih =>
    rw [writeLines, List.flatMap_cons, ← writeLines, List.count_append, List.count_append, ih,
      List.count_singleton_self, List.length_cons, List.flatten_cons, List.count_append]
    omega

/-- There are as many lines as newlines. -/
theorem length_readLines_writeLines :
    (readLines newline cr (writeLines newline written)).length =
      written.length + written.flatten.count newline := by
  rw [← count_writeLines]
  obtain rfl | ⟨before, last, rfl⟩ := List.eq_nil_or_concat' written
  · rfl
  · have ended : writeLines newline (before ++ [last]) =
        (writeLines newline before ++ last) ++ [newline] := by
      rw [writeLines, List.flatMap_append, List.flatMap_singleton, List.append_assoc]
      rfl
    rw [ended, readLines_snoc, List.length_map, List.splitOn_eq_splitOnP, length_splitOnP,
      List.count_append, List.count_singleton_self]
    rfl

/-- Lines that hold a newline are not read as they were written: there are more of them. -/
theorem whole_of_length_readLines (kept :
    (readLines newline cr (writeLines newline written)).length = written.length) :
    ∀ line ∈ written, newline ∉ line := by
  rw [length_readLines_writeLines] at kept
  have none_inside : written.flatten.count newline = 0 := by omega
  intro line member inside
  exact List.count_eq_zero.mp none_inside (List.mem_flatten_of_mem member inside)

theorem mem_of_mem_chomp {x : α} (member : x ∈ chomp cr line) : x ∈ line := by
  unfold chomp at member
  split at member
  · exact List.dropLast_subset _ member
  · exact member

/-- A line that is read has no newline. -/
theorem newline_not_mem (member : line ∈ readLines newline cr text) : newline ∉ line := by
  have parts : ∀ part ∈ text.splitOn newline, newline ∉ part := by
    intro part split inside
    rw [List.splitOn_eq_splitOnP] at split
    simpa using not_blank_of_mem_splitOnP split newline inside
  intro inside
  obtain ended | rest := List.mem_append.mp member
  · obtain ⟨part, split, rfl⟩ := List.mem_map.mp ended
    exact parts part (List.dropLast_subset _ split) (mem_of_mem_chomp inside)
  · have last := Option.mem_toList.mp (List.mem_filter.mp rest).1
    exact parts line (List.mem_of_getLast? last) inside

/-- A carriage return is taken from behind the last separator. -/
theorem chomp_append (differ : sep ≠ cr) (a b : List α) :
    chomp cr (a ++ sep :: b) = a ++ sep :: chomp cr b := by
  unfold chomp
  cases b with
  | nil =>
    rw [List.getLast?_append, List.getLast?_singleton, List.getLast?_nil]
    simp [differ]
  | cons first rest =>
    have last : (a ++ sep :: first :: rest).getLast? = (first :: rest).getLast? := by
      rw [List.getLast?_append_of_ne_nil _ (List.cons_ne_nil _ _), List.getLast?_cons_cons]
    rw [last]
    split
    · rw [List.dropLast_append_of_ne_nil (List.cons_ne_nil _ _), List.dropLast_cons_cons]
    · rfl

end EdgeKvm.Lib.Lines
