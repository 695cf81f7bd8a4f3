import EdgeKvm.Notification.PhoneSource
import EdgeKvm.Lib.Cut
import Mathlib.Data.List.Infix

/-!
# The text of phone notifications

What `desktop_notification` and `apply_inner` of the phone source make of a phone's text: it is
cut, escaped and cut again. The second cut sees escaped text.
-/

namespace EdgeKvm.Notification

open EdgeKvm.Lib

/-! ## Escaped text -/

/-- What `escape_markup` makes of a character. -/
def escapeChar (c : Char) : List Char :=
  if c = '&' then "&amp;".toList
  else if c = '<' then "&lt;".toList
  else if c = '>' then "&gt;".toList
  else [c]

theorem escapeMarkup_toList (text : String) :
    (escapeMarkup text).toList = text.toList.flatMap escapeChar := String.toList_ofList

/-- Reads the entities that `escape_markup` writes. -/
def unescape : List Char → List Char
  | '&' :: 'a' :: 'm' :: 'p' :: ';' :: rest => '&' :: unescape rest
  | '&' :: 'l' :: 't' :: ';' :: rest => '<' :: unescape rest
  | '&' :: 'g' :: 't' :: ';' :: rest => '>' :: unescape rest
  | c :: rest => c :: unescape rest
  | [] => []

/-- The rest of a text after an `&` completes an entity. -/
def CompletesEntity (rest : List Char) : Prop :=
  "amp;".toList <+: rest ∨ "lt;".toList <+: rest ∨ "gt;".toList <+: rest

instance (rest : List Char) : Decidable (CompletesEntity rest) :=
  inferInstanceAs (Decidable (_ ∨ _ ∨ _))

/-- Escaped text without raw markup, that reads as a prefix of `source` and perhaps an ellipsis. -/
structure EscapedPrefix (source text : List Char) : Prop where
  noRaw : '<' ∉ text ∧ '>' ∉ text
  entities : ∀ before rest, text = before ++ '&' :: rest → CompletesEntity rest
  reads : ∃ said, said <+: source ∧ (unescape text = said ∨ unescape text = said ++ ['…'])

theorem escapeChar_cases (c : Char) : (c = '&' ∧ escapeChar c = "&amp;".toList) ∨
    (c = '<' ∧ escapeChar c = "&lt;".toList) ∨ (c = '>' ∧ escapeChar c = "&gt;".toList) ∨
    (c ≠ '&' ∧ c ≠ '<' ∧ c ≠ '>' ∧ escapeChar c = [c]) := by
  unfold escapeChar
  by_cases amp : c = '&'
  · exact .inl ⟨amp, if_pos amp⟩
  · by_cases lt : c = '<'
    · exact .inr (.inl ⟨lt, by rw [if_neg amp, if_pos lt]⟩)
    · by_cases gt : c = '>'
      · exact .inr (.inr (.inl ⟨gt, by rw [if_neg amp, if_neg lt, if_pos gt]⟩))
      · exact .inr (.inr (.inr ⟨amp, lt, gt, by rw [if_neg amp, if_neg lt, if_neg gt]⟩))

theorem unescape_cons {c : Char} (plain : c ≠ '&') (rest : List Char) :
    unescape (c :: rest) = c :: unescape rest := by
  conv_lhs => unfold unescape
  split <;> simp_all

theorem unescape_escape (text : List Char) : unescape (text.flatMap escapeChar) = text := by
  induction text with
  | nil => rfl
  | cons c text ih =>
    rw [List.flatMap_cons]
    obtain ⟨rfl, word⟩ | ⟨rfl, word⟩ | ⟨rfl, word⟩ | ⟨amp, -, -, word⟩ := escapeChar_cases c
    · rw [word]
      exact congrArg _ ih
    · rw [word]
      exact congrArg _ ih
    · rw [word]
      exact congrArg _ ih
    · rw [word, List.singleton_append, unescape_cons amp, ih]

theorem noRaw_escape (text : List Char) :
    '<' ∉ text.flatMap escapeChar ∧ '>' ∉ text.flatMap escapeChar := by
  have words : ∀ c, '<' ∉ escapeChar c ∧ '>' ∉ escapeChar c := by
    intro c
    obtain ⟨-, word⟩ | ⟨-, word⟩ | ⟨-, word⟩ | ⟨-, lt, gt, word⟩ := escapeChar_cases c
    · rw [word]; decide
    · rw [word]; decide
    · rw [word]; decide
    · rw [word]
      exact ⟨fun mem => lt (List.mem_singleton.mp mem).symm,
        fun mem => gt (List.mem_singleton.mp mem).symm⟩
  simp only [List.mem_flatMap, not_exists, not_and]
  exact ⟨fun c _ => (words c).1, fun c _ => (words c).2⟩

theorem split_entity {t before rest : List Char} (plain : '&' ∉ t)
    (split : '&' :: t = before ++ '&' :: rest) : before = [] ∧ rest = t := by
  cases before with
  | nil => exact ⟨rfl, (List.cons.inj split).2.symm⟩
  | cons b before =>
    have := (List.cons.inj split).2
    exact absurd (this ▸ List.mem_append_right before List.mem_cons_self) plain

/-- An `&` of a word starts an entity that the word completes. -/
theorem completesEntity_word {c : Char} {before rest : List Char}
    (split : escapeChar c = before ++ '&' :: rest) (after : List Char) :
    before = [] ∧ CompletesEntity (rest ++ after) := by
  obtain ⟨-, word⟩ | ⟨-, word⟩ | ⟨-, word⟩ | ⟨amp, -, -, word⟩ := escapeChar_cases c
  · obtain ⟨rfl, rfl⟩ := split_entity (t := "amp;".toList) (by decide) (word.symm.trans split)
    exact ⟨rfl, .inl (List.prefix_append _ _)⟩
  · obtain ⟨rfl, rfl⟩ := split_entity (t := "lt;".toList) (by decide) (word.symm.trans split)
    exact ⟨rfl, .inr (.inl (List.prefix_append _ _))⟩
  · obtain ⟨rfl, rfl⟩ := split_entity (t := "gt;".toList) (by decide) (word.symm.trans split)
    exact ⟨rfl, .inr (.inr (List.prefix_append _ _))⟩
  · rw [word] at split
    have : '&' ∈ [c] := split ▸ List.mem_append_right before List.mem_cons_self
    exact absurd (List.mem_singleton.mp this).symm amp

theorem entities_escape (text : List Char) : ∀ before rest,
    text.flatMap escapeChar = before ++ '&' :: rest → CompletesEntity rest := by
  induction text with
  | nil => simp
  | cons c text ih =>
    intro before rest split
    rw [List.flatMap_cons] at split
    obtain ⟨later, -, inText⟩ | ⟨part, word, amp⟩ := List.append_eq_append_iff.mp split
    · exact ih later rest inText
    · cases part with
      | nil => exact ih [] rest amp.symm
      | cons a part =>
        obtain ⟨rfl, rfl⟩ := List.cons.inj amp
        exact (completesEntity_word word _).2

/-- The ellipsis is not escaped. -/
theorem escape_ellipsis (text : List Char) :
    (text ++ ['…']).flatMap escapeChar = text.flatMap escapeChar ++ ['…'] := by
  rw [List.flatMap_append]
  rfl

/-- A prefix of what reads as a prefix. -/
theorem prefix_reads {source text kept : List Char}
    (reads : ∃ said, said <+: source ∧ (text = said ∨ text = said ++ ['…']))
    (keptPrefix : kept <+: text) :
    ∃ said, said <+: source ∧ (kept = said ∨ kept = said ++ ['…']) := by
  obtain ⟨said, saidPrefix, rfl | rfl⟩ := reads
  · exact ⟨kept, keptPrefix.trans saidPrefix, .inl rfl⟩
  · rcases List.prefix_concat_iff.mp keptPrefix with rfl | keptPrefix
    · exact ⟨said, saidPrefix, .inr rfl⟩
    · exact ⟨kept, keptPrefix.trans saidPrefix, .inl rfl⟩

/-- Escaped text is well formed. -/
theorem escapedPrefix_escape {source text said : List Char} (prefixOf : said <+: source)
    (reads : text = said ∨ text = said ++ ['…']) :
    EscapedPrefix source (text.flatMap escapeChar) :=
  ⟨noRaw_escape text, entities_escape text, said, prefixOf, by rwa [unescape_escape]⟩

/-- A word that is cut, and what may come after it, is not well formed. -/
theorem not_completesEntity_part {c : Char} {part after : List Char} (cut : part <+: escapeChar c)
    (some : part ≠ []) (notAll : part ≠ escapeChar c) (ellipsis : after ∈ [[], ['…']]) :
    part ++ after = '&' :: (part ++ after).tail ∧ ¬ CompletesEntity (part ++ after).tail := by
  have entity : ∀ word ∈ ["&amp;".toList, "&lt;".toList, "&gt;".toList], ∀ part ∈ word.inits,
      part ≠ [] → part ≠ word → ∀ after ∈ [[], ['…']],
        part ++ after = '&' :: (part ++ after).tail ∧ ¬ CompletesEntity (part ++ after).tail := by
    decide +kernel
  rw [← List.mem_inits] at cut
  obtain ⟨-, word⟩ | ⟨-, word⟩ | ⟨-, word⟩ | ⟨-, -, -, word⟩ := escapeChar_cases c
  · rw [word] at cut notAll
    exact entity _ (by simp) part cut some notAll after ellipsis
  · rw [word] at cut notAll
    exact entity _ (by simp) part cut some notAll after ellipsis
  · rw [word] at cut notAll
    exact entity _ (by simp) part cut some notAll after ellipsis
  · rw [word] at cut notAll
    simp [some, notAll] at cut

/-- Escaped text that is cut inside an entity is not well formed. -/
theorem not_escapedPrefix {w : Char → Nat} {source text before after : List Char} {n : Nat}
    {c : Char} (inside : CutsInside w escapeChar text n before c) (ellipsis : after ∈ [[], ['…']]) :
    ¬ EscapedPrefix source (takeWithin w (text.flatMap escapeChar) n ++ after) := by
  intro wellFormed
  obtain ⟨amp, broken⟩ := not_completesEntity_part (takeWithin_initial _ _) inside.part
    inside.part_ne ellipsis
  refine broken (wellFormed.entities (before.flatMap escapeChar) _ ?_)
  rw [inside.cut, List.append_assoc, ← amp]

/-! ## Cuts -/

theorem take_eq_takeWithin (text : List Char) : ∀ n : Nat,
    text.take n = takeWithin (fun _ => 1) text n := by
  induction text with
  | nil => simp [takeWithin]
  | cons c text ih =>
    intro n
    cases n with
    | zero => simp [takeWithin]
    | succ n => simp [takeWithin, ih]

theorem takeBytes_eq_takeWithin (text : List Char) : ∀ n : Nat,
    takeBytes text n = takeWithin Char.utf8Size text n := by
  induction text with
  | nil =>
    intro n
    rfl
  | cons c text ih =>
    intro n
    rw [takeBytes, takeWithin, ih]

/-- What `truncate_chars` leaves reads as a prefix, perhaps with an ellipsis. -/
theorem truncateChars_reads (text : String) (max : Nat) :
    ∃ said, said <+: text.toList ∧ ((truncateChars text max).toList = said ∨
      (truncateChars text max).toList = said ++ ['…']) := by
  unfold truncateChars
  split
  · exact ⟨text.toList, List.prefix_rfl, .inl rfl⟩
  · exact ⟨text.toList.take max, List.take_prefix _ _, .inr (by simp)⟩

/-- What `truncate_bytes` leaves reads as a prefix, perhaps with an ellipsis. -/
theorem truncateBytes_reads (text : String) (max : Nat) :
    ∃ said, said <+: text.toList ∧ ((truncateBytes text max).toList = said ∨
      (truncateBytes text max).toList = said ++ ['…']) := by
  unfold truncateBytes
  split
  · exact ⟨text.toList, List.prefix_rfl, .inl rfl⟩
  · refine ⟨takeBytes text.toList (max - "…".utf8ByteSize), ?_, .inr (by simp)⟩
    rw [takeBytes_eq_takeWithin]
    exact takeWithin_initial _ _

theorem utf8ByteSize_truncateBytes (text : String) {max : Nat} (room : 3 ≤ max) :
    (truncateBytes text max).utf8ByteSize ≤ max := by
  unfold truncateBytes
  split
  · assumption
  · have fits := weight_takeWithin (w := Char.utf8Size) text.toList (max - "…".utf8ByteSize)
    have ellipsis : "…".utf8ByteSize = 3 := rfl
    rw [String.utf8ByteSize_append, utf8ByteSize_ofList, takeBytes_eq_takeWithin]
    omega

/-! ## The title -/

/-- The text that `desktop_notification` shows as the summary: the cut title, or the cut name of
    the app when there is nothing in the title. -/
def summary (phone : PhoneNotification) : String :=
  if (truncateChars phone.title 256).toList.all isWhiteSpace then truncateChars phone.appName 64
  else truncateChars phone.title 256

/-- The text of the phone that the summary is cut from. -/
def summarySource (phone : PhoneNotification) : String :=
  if (truncateChars phone.title 256).toList.all isWhiteSpace then phone.appName else phone.title

theorem summary_reads (phone : PhoneNotification) :
    ∃ said, said <+: (summarySource phone).toList ∧ ((summary phone).toList = said ∨
      (summary phone).toList = said ++ ['…']) := by
  unfold summary summarySource
  split
  · exact truncateChars_reads _ _
  · exact truncateChars_reads _ _

theorem title_eq (phone : PhoneNotification) (phoneName : String) :
    (sharedNotification phone phoneName).title.toList =
      takeWithin (fun _ => 1) ((summary phone).toList.flatMap escapeChar) 256 := by
  rw [← take_eq_takeWithin, ← escapeMarkup_toList]
  exact String.toList_ofList

/-- The title is well formed just when the cut of the escaped summary falls inside no entity. -/
theorem title_escapedPrefix_iff (phone : PhoneNotification) (phoneName : String) :
    EscapedPrefix (summarySource phone).toList
        (sharedNotification phone phoneName).title.toList ↔
      CutsBetween (fun _ => 1) escapeChar (summary phone).toList 256 := by
  rw [title_eq]
  constructor
  · intro wellFormed before c inside
    rw [← List.append_nil (takeWithin _ _ _)] at wellFormed
    exact not_escapedPrefix inside List.mem_cons_self wellFormed
  · intro between
    obtain ⟨kept, keptPrefix, cut⟩ := between.cut
    obtain ⟨said, saidPrefix, reads⟩ := prefix_reads (summary_reads phone) keptPrefix
    rw [cut]
    exact escapedPrefix_escape saidPrefix reads

/-! ## The body -/

/-- The body of the phone, cut for the first time. -/
def cutBody (phone : PhoneNotification) : String := truncateBytes phone.body 4096

theorem body_eq (phone : PhoneNotification) (phoneName : String) :
    (sharedNotification phone phoneName).body.toList =
      if (escapeMarkup (cutBody phone)).utf8ByteSize ≤ 4096 then
        (cutBody phone).toList.flatMap escapeChar
      else takeWithin Char.utf8Size ((cutBody phone).toList.flatMap escapeChar) 4093 ++ ['…'] := by
  have cut : (sharedNotification phone phoneName).body =
      truncateBytes (escapeMarkup (cutBody phone)) 4096 := by
    simp only [sharedNotification, cutBody]
  rw [cut, truncateBytes]
  split
  · exact escapeMarkup_toList _
  · have ellipsis : "…".utf8ByteSize = 3 := rfl
    rw [String.toList_append, String.toList_ofList, takeBytes_eq_takeWithin, escapeMarkup_toList,
      ellipsis]
    rfl

/-- The body is well formed just when it is not cut again, or the cut of the escaped body falls
    inside no entity. -/
theorem body_escapedPrefix_iff (phone : PhoneNotification) (phoneName : String) :
    EscapedPrefix phone.body.toList (sharedNotification phone phoneName).body.toList ↔
      (escapeMarkup (cutBody phone)).utf8ByteSize ≤ 4096 ∨
        CutsBetween Char.utf8Size escapeChar (cutBody phone).toList 4093 := by
  have bodyReads := truncateBytes_reads phone.body 4096
  rw [body_eq]
  by_cases short : (escapeMarkup (cutBody phone)).utf8ByteSize ≤ 4096
  · obtain ⟨said, saidPrefix, reads⟩ := bodyReads
    simp only [short, if_true, true_or, iff_true]
    exact escapedPrefix_escape saidPrefix reads
  · simp only [short, if_false, false_or]
    constructor
    · intro wellFormed before c inside
      exact not_escapedPrefix inside (by simp) wellFormed
    · intro between
      obtain ⟨kept, keptPrefix, cut⟩ := between.cut
      have proper : kept ≠ (cutBody phone).toList := by
        rintro rfl
        have light := weight_takeWithin (w := Char.utf8Size)
          ((cutBody phone).toList.flatMap escapeChar) 4093
        rw [cut, ← escapeMarkup_toList, ← utf8ByteSize_eq_weight] at light
        omega
      have keptBody : kept <+: phone.body.toList := by
        obtain ⟨said, saidPrefix, reads | reads⟩ := bodyReads
        · rw [cutBody, reads] at keptPrefix
          exact keptPrefix.trans saidPrefix
        · rw [cutBody, reads] at keptPrefix proper
          exact ((List.prefix_concat_iff.mp keptPrefix).resolve_left proper).trans saidPrefix
      rw [cut, ← escape_ellipsis]
      exact escapedPrefix_escape keptBody (.inr rfl)

theorem validateContent_sharedNotification (phone : PhoneNotification) (phoneName : String) :
    validateContent (sharedNotification phone phoneName) = .ok () := by
  have title : (sharedNotification phone phoneName).title.length ≤ 256 := by
    rw [← String.length_toList, title_eq, ← take_eq_takeWithin]
    exact List.length_take_le _ _
  have body : (sharedNotification phone phoneName).body.utf8ByteSize ≤ 4096 := by
    simp only [sharedNotification]
    exact utf8ByteSize_truncateBytes _ (by omega)
  have appName : (sharedNotification phone phoneName).appName.length ≤ 64 := by
    simp only [sharedNotification, String.length_ofList]
    exact List.length_take_le _ _
  have png : ∀ png ∈ (sharedNotification phone phoneName).iconPng, png.length ≤ maxIconBytes := by
    intro png member
    simp only [sharedNotification, Option.mem_def, Option.filter_eq_some_iff] at member
    exact of_decide_eq_true member.2
  simp only [validateContent, unit_bind_eq_ok, ensure_eq_ok]
  have icon : (sharedNotification phone phoneName).icon = "phone" := rfl
  rw [icon]
  exact ⟨⟨appName, title, body⟩, by decide, by simp [sharedNotification], png⟩

/-- What is shared of a phone's notification passes its checks, and its title and body are well
    formed just when the second cut of each falls inside no entity. -/
theorem phone_text_wellFormed (phone : PhoneNotification) (phoneName : String) :
    (validateContent (sharedNotification phone phoneName) = .ok () ∧
      EscapedPrefix (summarySource phone).toList
        (sharedNotification phone phoneName).title.toList ∧
      EscapedPrefix phone.body.toList (sharedNotification phone phoneName).body.toList) ↔
    CutsBetween (fun _ => 1) escapeChar (summary phone).toList 256 ∧
      ((escapeMarkup (cutBody phone)).utf8ByteSize ≤ 4096 ∨
        CutsBetween Char.utf8Size escapeChar (cutBody phone).toList 4093) := by
  rw [title_escapedPrefix_iff, body_escapedPrefix_iff]
  exact and_iff_right (validateContent_sharedNotification phone phoneName)

/-- A title that is as long as allowed and ends with an ampersand. -/
def longTitle : PhoneNotification where
  id := 1
  appName := "app"
  title := String.ofList (List.replicate 255 'a' ++ ['&'])
  body := ""
  iconPng := none
  postedMs := 0

theorem longTitle_cut : ¬ ∀ (phone : PhoneNotification) (phoneName : String),
    validateContent (sharedNotification phone phoneName) = .ok () ∧
      EscapedPrefix (summarySource phone).toList
        (sharedNotification phone phoneName).title.toList ∧
      EscapedPrefix phone.body.toList (sharedNotification phone phoneName).body.toList := by
  intro claimed
  obtain ⟨-, wellFormed, -⟩ := claimed longTitle "phone"
  have between := (title_escapedPrefix_iff longTitle "phone").mp wellFormed
  have whole : truncateChars longTitle.title 256 = longTitle.title := by
    rw [truncateChars, if_pos]
    rw [longTitle, String.length_ofList]
    decide +kernel
  have visible : ¬ (List.replicate 255 'a' ++ ['&']).all isWhiteSpace := by decide +kernel
  have text : (summary longTitle).toList = List.replicate 255 'a' ++ ['&'] := by
    rw [summary, whole, longTitle, String.toList_ofList, if_neg visible, String.toList_ofList]
  rw [text] at between
  refine between (List.replicate 255 'a') '&' ⟨?_, ?_, ?_, ?_⟩
  all_goals decide +kernel

end EdgeKvm.Notification
