import EdgeKvm.Pairing.Control
import Mathlib.Data.List.TakeWhile

/-!
# The names on the control socket

The receiver formats the names raw, splits the command at whitespace and joins its words; the
client splits a line at its first or its last space. The ends agree on the names without newlines
whose words are joined by single spaces.
-/

namespace EdgeKvm.Pairing

open EdgeKvm.Lib Lines

/-! ## Keywords -/

theorem keyword_append {before : Text} (absent : ' ' ∉ before) (behind : Text) :
    keyword (before ++ ' ' :: behind) = before ∧
      (splitKeyword (before ++ ' ' :: behind)).2 = behind := by
  unfold keyword splitKeyword
  rw [splitOnce_append absent]
  exact ⟨rfl, rfl⟩

/-- A line whose keyword the client reads although carriage returns are dropped. -/
def Readable (line : Text) : Prop := ∃ before behind, ' ' ∉ before ∧
  (line = before ++ ' ' :: behind ∨ (line = before ∧ before.getLast? ≠ some '\r'))

theorem Readable.keyword_chomp {line : Text} (readable : Readable line) :
    keyword (chomp '\r' line) = keyword line := by
  obtain ⟨before, behind, absent, rfl | ⟨rfl, last⟩⟩ := readable
  · rw [chomp_append (by decide), (keyword_append absent _).1, (keyword_append absent _).1]
  · rw [chomp, if_neg last]

theorem readable_valueLine {name : String} (absent : ' ' ∉ name.toList) (value : Text) :
    Readable (valueLine name value) := ⟨name.toList, value, absent, .inl rfl⟩

theorem readable_bare {name : String} (absent : ' ' ∉ name.toList)
    (last : name.toList.getLast? ≠ some '\r') : Readable name.toList :=
  ⟨name.toList, [], absent, .inr ⟨rfl, last⟩⟩

/-- The client reads as many lines as were written, each under the keyword it was written
    with. -/
def ReadAsWritten (lines : List Text) : Prop :=
  (replyLines (written lines)).map keyword = lines.map keyword

theorem readAsWritten_iff {lines : List Text} (readable : ∀ line ∈ lines, Readable line) :
    ReadAsWritten lines ↔ ∀ line ∈ lines, '\n' ∉ line := by
  unfold ReadAsWritten replyLines written
  constructor
  · intro same
    have kept := congrArg List.length same
    rw [List.length_map, List.length_map] at kept
    exact whole_of_length_readLines kept
  · intro whole
    rw [readLines_writeLines whole, List.map_map]
    exact List.map_congr_left fun line member => (readable line member).keyword_chomp

/-! ## The list of the phones -/

theorem mem_valueLine {name : String} {value : Text} (absent : '\n' ∉ name.toList) :
    '\n' ∉ valueLine name value ↔ '\n' ∉ value := by
  unfold valueLine
  rw [List.mem_append, List.mem_cons]
  simp [absent]

theorem readable_phonesReply (phones : List (String × Bool)) :
    ∀ line ∈ phonesReply phones, Readable line := by
  intro line member
  obtain listed | last := List.mem_append.mp member
  · obtain ⟨phone, -, rfl⟩ := List.mem_map.mp listed
    exact readable_valueLine (by decide) _
  · rw [List.mem_singleton.mp last]
    exact readable_bare (by decide) (by decide)

theorem whole_phonesReply {phones : List (String × Bool)} :
    (∀ line ∈ phonesReply phones, '\n' ∉ line) ↔ ∀ phone ∈ phones, '\n' ∉ phone.1.toList := by
  have state (connected : Bool) :
      '\n' ∉ (if connected then "connected" else "disconnected").toList := by
    cases connected <;> decide
  have entry (phone : String × Bool) : '\n' ∉ valueLine "phone" (phone.1.toList ++
      ' ' :: (if phone.2 then "connected" else "disconnected").toList) ↔
        '\n' ∉ phone.1.toList := by
    rw [mem_valueLine (by decide), List.mem_append, List.mem_cons]
    simp [state]
  constructor
  · intro whole phone member
    exact (entry phone).mp (whole _ (List.mem_append_left _ (List.mem_map_of_mem member)))
  · intro whole line member
    obtain listed | last := List.mem_append.mp member
    · obtain ⟨phone, found, rfl⟩ := List.mem_map.mp listed
      exact (entry phone).mpr (whole phone found)
    · rw [List.mem_singleton.mp last]
      decide

/-- An entry that the client lists was part of one line. -/
theorem newline_not_mem_parsePhones {text : Text} {entry : PhoneEntry}
    (listed : entry ∈ parsePhones (replyLines text)) : '\n' ∉ entry.name.toList := by
  obtain ⟨line, member, parsed⟩ := List.mem_filterMap.mp listed
  have whole : '\n' ∉ line := newline_not_mem member
  unfold parsePhone at parsed
  split at parsed
  · obtain ⟨⟨name, state⟩, split, rfl⟩ := Option.map_eq_some_iff.mp parsed
    rw [String.toList_ofList]
    intro inside
    apply whole
    have behind : '\n' ∈ (splitKeyword line).2 := by
      rw [eq_of_rsplitOnce split]
      exact List.mem_append_left _ inside
    unfold splitKeyword at behind
    cases once : splitOnce ' ' line with
    | none => rw [once] at behind; cases behind
    | some parts =>
      rw [once] at behind
      rw [eq_of_splitOnce once]
      exact List.mem_append_right _ (List.mem_cons_of_mem _ behind)
  · cases parsed

/-- The line of a phone is read as it was written. -/
theorem parsePhone_line (name : String) (connected : Bool) :
    parsePhone (chomp '\r' (valueLine "phone" (name.toList ++
      ' ' :: (if connected then "connected" else "disconnected").toList))) =
      some ⟨name, connected⟩ := by
  have ends : chomp '\r' (if connected then "connected" else "disconnected").toList =
      (if connected then "connected" else "disconnected").toList := by
    cases connected <;> decide
  have single : ' ' ∉ (if connected then "connected" else "disconnected").toList := by
    cases connected <;> decide
  have state : decide ((if connected then "connected" else "disconnected").toList =
      "connected".toList) = connected := by
    cases connected <;> decide
  have front : ' ' ∉ "phone".toList := by decide
  rw [valueLine, ← List.cons_append, ← List.append_assoc, chomp_append (by decide), ends,
    List.append_assoc, List.cons_append, parsePhone, (keyword_append front _).1, if_pos rfl,
    (keyword_append front _).2, rsplitOnce_append single, Option.map_some, String.ofList_toList,
    state]

/-- The client lists the phones, each once, exactly when no name holds a newline. -/
theorem parsePhones_iff (phones : List (String × Bool)) :
    parsePhones (replyLines (written (phonesReply phones))) =
        phones.map (fun phone => ⟨phone.1, phone.2⟩) ↔
      ∀ phone ∈ phones, '\n' ∉ phone.1.toList := by
  constructor
  · intro same phone member
    have listed : (⟨phone.1, phone.2⟩ : PhoneEntry) ∈
        parsePhones (replyLines (written (phonesReply phones))) := by
      rw [same]
      exact List.mem_map.mpr ⟨phone, member, rfl⟩
    exact newline_not_mem_parsePhones listed
  · intro whole
    unfold replyLines written
    rw [readLines_writeLines (whole_phonesReply.mpr whole), phonesReply, List.map_append,
      List.map_map, parsePhones, List.filterMap_append, List.filterMap_map,
      show [("end".toList : Text)].map (chomp '\r') = ["end".toList] by decide,
      show [("end".toList : Text)].filterMap parsePhone = [] by decide, List.append_nil,
      ← List.filterMap_eq_map]
    exact List.filterMap_congr fun phone _ => parsePhone_line phone.1 phone.2

/-! ## The name that is unpaired -/

/-- What the receiver makes of the name that the client sends. -/
def receivedName (name : String) : Text :=
  joinWords (splitWhitespace (name.toList.takeWhile (· ≠ '\n')))

/-- A name that the command carries: not empty, and its words joined by single spaces. -/
def Plain (name : String) : Prop :=
  name ≠ "" ∧ joinWords (splitWhitespace name.toList) = name.toList

instance (name : String) : Decidable (Plain name) := by
  unfold Plain
  infer_instance

theorem mem_joinWords {words : List Text} {c : Char} (member : c ∈ joinWords words) :
    c = ' ' ∨ ∃ word ∈ words, c ∈ word := by
  unfold joinWords at member
  induction words with
  | nil => exact absurd member List.not_mem_nil
  | cons word words ih =>
    cases words with
    | nil =>
      rw [List.intercalate_singleton] at member
      exact .inr ⟨word, List.mem_cons_self, member⟩
    | cons next words =>
      rw [List.intercalate_cons_cons, List.append_assoc] at member
      obtain first | rest := List.mem_append.mp member
      · exact .inr ⟨word, List.mem_cons_self, first⟩
      · obtain rfl | later := List.mem_cons.mp rest
        · exact .inl rfl
        · obtain space | ⟨other, found, inside⟩ := ih later
          · exact .inl space
          · exact .inr ⟨other, List.mem_cons_of_mem _ found, inside⟩

/-- Words that are joined hold no newline. -/
theorem newline_not_mem_joinWords (text : Text) : '\n' ∉ joinWords (splitWhitespace text) := by
  intro member
  obtain space | ⟨word, found, inside⟩ := mem_joinWords member
  · exact absurd space (by decide)
  · exact absurd ((of_mem_splitBlank found).2 _ inside) (by decide)

theorem splitWhitespace_joinWords (text : Text) :
    splitWhitespace (joinWords (splitWhitespace text)) = splitWhitespace text :=
  splitBlank_intercalate (by decide) fun _ => of_mem_splitBlank

/-- The name arrives as it is exactly when it is plain. -/
theorem receivedName_iff (name : String) :
    receivedName name = name.toList ∧ receivedName name ≠ [] ↔ Plain name := by
  constructor
  · rintro ⟨same, filled⟩
    refine ⟨?_, ?_⟩
    · rintro rfl
      exact filled same
    · rw [← same, receivedName, splitWhitespace_joinWords]
  · rintro ⟨filled, joined⟩
    have single : name.toList.takeWhile (· ≠ '\n') = name.toList := by
      have whole := newline_not_mem_joinWords name.toList
      rw [joined] at whole
      refine List.takeWhile_eq_self_iff.mpr fun c inside => ?_
      rw [decide_eq_true_eq]
      rintro rfl
      exact whole inside
    rw [receivedName, single, joined]
    refine ⟨rfl, fun empty => filled ?_⟩
    rw [← String.ofList_toList (s := name), empty]

theorem takeWhile_snoc (text : Text) :
    (text ++ ['\n']).takeWhile (· ≠ '\n') = text.takeWhile (· ≠ '\n') := by
  induction text with
  | nil => rfl
  | cons c rest ih =>
    rw [List.cons_append, List.takeWhile_cons, List.takeWhile_cons, ih]

theorem readLine_valueLine {keyword : String} (whole : ∀ c ∈ keyword.toList, c ≠ '\n')
    (value : Text) : readLine (valueLine keyword value ++ ['\n']) =
      valueLine keyword (value.takeWhile (· ≠ '\n')) ++ ['\n'] := by
  have ended : '\n' ∈ valueLine keyword value ++ ['\n'] :=
    List.mem_append_right _ (List.mem_singleton_self _)
  rw [readLine, if_pos ended, valueLine, List.append_assoc,
    List.takeWhile_append_of_pos fun c member => decide_eq_true (whole c member),
    List.cons_append, List.takeWhile_cons, if_pos (by decide), takeWhile_snoc]
  rfl

/-- The words of the command. -/
theorem words_unpairCommand (name : String) :
    splitWhitespace (readLine (unpairCommand name)) =
      "unpair-phone".toList :: splitWhitespace (name.toList.takeWhile (· ≠ '\n')) := by
  have space : isWhitespace ' ' = true := rfl
  have newline : isWhitespace '\n' = true := rfl
  have letters : ("unpair-phone".toList.all fun c => !isWhitespace c) = true := by decide +kernel
  have command : ∀ c ∈ "unpair-phone".toList, isWhitespace c = false := by
    intro c member
    have letter := List.all_eq_true.mp letters c member
    rwa [Bool.not_eq_true'] at letter
  have filled : "unpair-phone".toList ≠ [] := by decide +kernel
  have single : ∀ c ∈ "unpair-phone".toList, c ≠ '\n' := by
    rintro c member rfl
    exact absurd (command '\n' member) (by decide)
  rw [unpairCommand, readLine_valueLine single, splitWhitespace, splitBlank_snoc newline, valueLine,
    splitBlank_cons space _ filled command, splitWhitespace]

/-- The receiver unpairs the name it received, unless that is empty. -/
theorem handleClient_unpair (answers : ControlAnswers) (name : String) :
    handleClient answers (unpairCommand name) =
      if receivedName name = [] then (none, [valueLine "error" "unknown command".toList])
      else (some (.unpair (String.ofList (receivedName name))),
        unpairReply (receivedName name) (answers.unpair (String.ofList (receivedName name)))) := by
  unfold handleClient
  rw [words_unpairCommand]
  show (if "unpair-phone".toList = "pair-phone".toList then _
    else if "unpair-phone".toList = "unpair-phone".toList ∧ receivedName name ≠ [] then _
    else if "unpair-phone".toList = "list-phones".toList then _
    else if "unpair-phone".toList = "notification-setup".toList then _
    else if "unpair-phone".toList = "status".toList then _
    else if "unpair-phone".toList = "arm-pairing".toList then _ else _) = _
  rw [if_neg (by decide)]
  by_cases empty : receivedName name = []
  · rw [if_neg fun both => both.2 empty, if_neg (by decide), if_neg (by decide),
      if_neg (by decide), if_neg (by decide), if_pos empty]
  · rw [if_pos ⟨rfl, empty⟩, if_neg empty]
    rfl

/-- The first line is read under its keyword, whatever its value holds. -/
theorem keyword_head {name : String} (single : '\n' ∉ name.toList) (absent : ' ' ∉ name.toList)
    (value : Text) : ∃ line, (replyLines (written [valueLine name value])).head? = some line ∧
      keyword line = name.toList := by
  obtain ⟨first, parts, split⟩ := List.exists_cons_of_ne_nil (List.splitOn_ne_nil '\n' value)
  have front : '\n' ∉ name.toList ++ [' '] := by
    rw [List.mem_append, not_or]
    exact ⟨single, by decide⟩
  have lines : replyLines (written [valueLine name value]) =
      (name.toList ++ ' ' :: chomp '\r' first) :: parts.map (chomp '\r') := by
    rw [replyLines, written, writeLines, List.flatMap_singleton, readLines_snoc, valueLine,
      ← List.singleton_append, ← List.append_assoc, splitOn_append front, split,
      List.modifyHead_cons, List.map_cons, List.append_assoc, List.singleton_append,
      chomp_append (by decide)]
  exact ⟨_, by rw [lines, List.head?_cons], (keyword_append absent _).1⟩

/-- The client reports success only for a receiver that found nothing to object. -/
theorem unpairResult_ok {received : Text} {outcome : Except String Bool}
    (reported : unpairResult (replyLines (written (unpairReply received outcome))) = .ok ()) :
    ∃ removed, outcome = .ok removed := by
  cases outcome with
  | ok removed => exact ⟨removed, rfl⟩
  | error error =>
    exfalso
    have single : '\n' ∉ "error".toList := by decide +kernel
    have absent : ' ' ∉ "error".toList := by decide +kernel
    obtain ⟨line, first, read⟩ := keyword_head single absent error.toList
    have other : ¬ ("error".toList = "unpaired".toList ∨ "error".toList = "not-paired".toList) := by
      decide +kernel
    rw [unpairReply, unpairResult, first] at reported
    simp only [read, if_neg other, if_true] at reported
    cases reported

/-- A phone that was unpaired, or not found, is not pinned. -/
theorem PhoneSessions.unpair_ok {phones : PhoneSessions} {pins : PinStore} {name : String}
    {saved removed : Bool} {removal : Except String Unit}
    (done : (phones.unpair pins name saved removal).2.2 = .ok removed) :
    (phones.unpair pins name saved removal).2.1.phones.lookup name = none := by
  unfold unpair PinStore.removePhone at *
  cases found : pins.phones.lookup name with
  | none =>
    simp only [found] at done ⊢
  | some pinned =>
    simp only [found] at done ⊢
    cases saved with
    | false => cases done
    | true => exact AList.lookup_erase _ _

/-! ## The status -/

theorem readable_statusReply (status : TrayStatus) :
    ∀ line ∈ statusReply status, Readable line := by
  intro line member
  simp only [statusReply, List.mem_append, List.mem_map, List.mem_singleton] at member
  obtain (((rfl | ⟨peer, -, rfl⟩) | ⟨ping, -, rfl⟩) | ⟨entry, -, rfl⟩) | rfl := member
  · exact readable_valueLine (by decide) _
  · exact readable_valueLine (by decide) _
  · exact readable_valueLine (by decide) _
  · exact readable_valueLine (by decide) _
  · exact readable_bare (by decide) (by decide)

theorem newline_not_mem_toString (n : Nat) : '\n' ∉ (toString n).toList := by
  intro inside
  rw [show (toString n).toList = Nat.toDigits 10 n from Nat.toList_repr] at inside
  have digit := Nat.isDigit_of_mem_toDigits (by decide) (by decide) inside
  exact absurd digit (by decide)

/-- The diagnostics hold no newline, and the ping is a number. -/
theorem whole_statusReply {status : TrayStatus} :
    (∀ line ∈ statusReply status, '\n' ∉ line) ↔
      '\n' ∉ status.summary.toList ∧ ∀ peer ∈ status.peer, '\n' ∉ peer.toList := by
  have diagnostic (entry : Diagnostic × String) : '\n' ∉ entry.1.key.toList ++
      '=' :: entry.2.toList.map fun c => if c = '\n' then ' ' else c := by
    have key : '\n' ∉ entry.1.key.toList := by
      cases entry.1 <;> decide
    rw [List.mem_append, List.mem_cons, not_or, not_or]
    refine ⟨key, by decide, fun member => ?_⟩
    obtain ⟨c, -, replaced⟩ := List.mem_map.mp member
    split at replaced
    · exact absurd replaced (by decide)
    · rename_i other
      exact other replaced
  constructor
  · intro whole
    refine ⟨?_, fun peer found => ?_⟩
    · refine (mem_valueLine (by decide)).mp (whole (valueLine "summary" status.summary.toList) ?_)
      simp [statusReply]
    · refine (mem_valueLine (by decide)).mp (whole (valueLine "peer" peer.toList) ?_)
      simp only [statusReply, List.mem_append, List.mem_map]
      exact .inl (.inl (.inl (.inr ⟨peer, Option.mem_toList.mpr found, rfl⟩)))
  · rintro ⟨summary, peers⟩ line member
    simp only [statusReply, List.mem_append, List.mem_map, List.mem_singleton] at member
    obtain (((rfl | ⟨peer, found, rfl⟩) | ⟨ping, -, rfl⟩) | ⟨entry, -, rfl⟩) | rfl := member
    · exact (mem_valueLine (by decide)).mpr summary
    · exact (mem_valueLine (by decide)).mpr (peers peer (Option.mem_toList.mp found))
    · exact (mem_valueLine (by decide)).mpr (newline_not_mem_toString ping)
    · exact (mem_valueLine (by decide)).mpr (diagnostic entry)
    · decide

/-! ## All replies -/

/-- The command lines of `ControlLink::phones` and `ControlLink::status`. -/
def listCommand : Text := "list-phones".toList ++ ['\n']

def statusCommand : Text := "status".toList ++ ['\n']

theorem handleClient_list (answers : ControlAnswers) :
    handleClient answers listCommand = (some .list, phonesReply answers.phones) := by
  have words : splitWhitespace (readLine listCommand) = ["list-phones".toList] := by
    decide +kernel
  unfold handleClient
  rw [words]
  rfl

theorem handleClient_status (answers : ControlAnswers) (status : TrayStatus) :
    handleClient { answers with tray := some status } statusCommand =
      (none, statusReply status) := by
  have words : splitWhitespace (readLine statusCommand) = ["status".toList] := by
    decide +kernel
  unfold handleClient
  rw [words]
  rfl

theorem readAsWritten_pairedReply (paired : String) :
    ReadAsWritten (pairedReply (some paired)) ↔ '\n' ∉ paired.toList := by
  have readable : ∀ line ∈ pairedReply (some paired), Readable line := by
    intro line member
    rw [List.mem_singleton.mp member]
    exact readable_valueLine (by decide) _
  rw [readAsWritten_iff readable, pairedReply, List.forall_mem_singleton]
  exact mem_valueLine (by decide)

/-- The reply to an `unpair` that succeeded names the phone without its newlines. -/
theorem readAsWritten_unpairReply (text : Text) (removed : Bool) :
    ReadAsWritten (unpairReply (joinWords (splitWhitespace text)) (.ok removed)) := by
  cases removed with
  | true =>
    refine (readAsWritten_iff fun line member => ?_).mpr fun line member => ?_
    · rw [List.mem_singleton.mp member]
      exact readable_valueLine (by decide) _
    · rw [List.mem_singleton.mp member]
      exact (mem_valueLine (by decide)).mpr (newline_not_mem_joinWords text)
  | false =>
    show ReadAsWritten ["not-paired".toList]
    unfold ReadAsWritten
    decide +kernel

namespace ControlledReceiver

variable (r : ControlledReceiver) (other : ControlAnswers) (name : String)

/-- What the control socket is for. -/
structure MeansThePhone (status : TrayStatus) (paired : String) : Prop where
  /-- The client lists the pinned names with their states. -/
  listed : parsePhones (replyLines (written (handleClient (r.answers other) listCommand).2)) =
    r.pins.phones.keys.map fun name => ⟨name, r.phones.connected.contains name⟩
  /-- It lists each once. -/
  once : ((parsePhones (replyLines (written
    (handleClient (r.answers other) listCommand).2))).map PhoneEntry.name).Nodup
  /-- The receiver unpairs the name the client was given. -/
  requested : (handleClient (r.answers other) (unpairCommand name)).1 = some (.unpair name)
  /-- The client reports success only where no phone of that name is pinned. -/
  unpaired : unpairResult (replyLines (written
      (handleClient (r.answers other) (unpairCommand name)).2)) = .ok () →
    (r.pinsAfter (handleClient (r.answers other) (unpairCommand name)).1).phones.lookup name = none
  /-- No name, summary or diagnostic makes a line of its own. -/
  phones : ReadAsWritten (handleClient (r.answers other) listCommand).2
  status : ReadAsWritten (handleClient
    { r.answers other with tray := some status } statusCommand).2
  paired : ReadAsWritten (pairedReply (some paired))
  removed : ∀ removed, (r.answers other).unpair name = .ok removed →
    ReadAsWritten (handleClient (r.answers other) (unpairCommand name)).2

variable {r other name}

/-- The client lists the pinned phones exactly when no name holds a newline. -/
theorem listed_iff : parsePhones (replyLines (written (phonesReply (r.phones.list r.pins)))) =
    (r.pins.phones.keys.map fun name => ⟨name, r.phones.connected.contains name⟩) ↔
      ∀ phone ∈ r.pins.phones.keys, '\n' ∉ phone.toList := by
  have listed := parsePhones_iff (r.phones.list r.pins)
  rw [PhoneSessions.list, List.map_map, List.forall_mem_map] at listed
  exact listed

/-- The request names the phone exactly when the name is plain. -/
theorem requested_iff : (handleClient (r.answers other) (unpairCommand name)).1 =
    some (.unpair name) ↔ Plain name := by
  rw [handleClient_unpair, ← receivedName_iff]
  split
  · rename_i empty
    refine ⟨fun asked => ?_, fun both => absurd empty both.2⟩
    cases asked
  · rename_i filled
    constructor
    · intro asked
      have same : String.ofList (receivedName name) = name := by
        injection asked with request
        injection request
      refine ⟨?_, filled⟩
      rw [← String.toList_ofList (l := receivedName name), same]
    · rintro ⟨same, -⟩
      rw [same, String.ofList_toList]

/-- A plain name is unpaired where the client reports success. -/
theorem unpaired_of_plain (plain : Plain name)
    (reported : unpairResult (replyLines (written
      (handleClient (r.answers other) (unpairCommand name)).2)) = .ok ()) :
    (r.pinsAfter (handleClient (r.answers other) (unpairCommand name)).1).phones.lookup name =
      none := by
  obtain ⟨same, filled⟩ := (receivedName_iff name).mpr plain
  rw [requested_iff.mpr plain]
  rw [handleClient_unpair, if_neg filled, same, String.ofList_toList] at reported
  obtain ⟨removed, done⟩ := unpairResult_ok reported
  exact PhoneSessions.unpair_ok done

theorem removed_readAsWritten (removed : Bool)
    (done : (r.answers other).unpair (String.ofList (receivedName name)) = .ok removed) :
    ReadAsWritten (handleClient (r.answers other) (unpairCommand name)).2 := by
  rw [handleClient_unpair]
  split
  · unfold ReadAsWritten
    decide +kernel
  · rw [done]
    exact readAsWritten_unpairReply _ removed

/-- The three ends agree exactly when no name or summary holds a newline, and the name to unpair
    is its words joined by single spaces. -/
theorem meansThePhone_iff (r : ControlledReceiver) (other : ControlAnswers) (name : String)
    (status : TrayStatus) (paired : String) :
    r.MeansThePhone other name status paired ↔
      (∀ phone ∈ r.pins.phones.keys, '\n' ∉ phone.toList) ∧ Plain name ∧
      '\n' ∉ status.summary.toList ∧ (∀ peer ∈ status.peer, '\n' ∉ peer.toList) ∧
      '\n' ∉ paired.toList := by
  have statusRead : ReadAsWritten (statusReply status) ↔ _ :=
    (readAsWritten_iff (readable_statusReply status)).trans whole_statusReply
  constructor
  · intro means
    have agreed := means.listed
    rw [handleClient_list] at agreed
    have shown := means.status
    rw [handleClient_status, statusRead] at shown
    exact ⟨listed_iff.mp agreed, requested_iff.mp means.requested, shown.1, shown.2,
      (readAsWritten_pairedReply paired).mp means.paired⟩
  · rintro ⟨names, plain, summary, peer, pairedWhole⟩
    have agreed := listed_iff.mpr names
    refine ⟨?_, ?_, requested_iff.mpr plain, unpaired_of_plain plain, ?_, ?_,
      (readAsWritten_pairedReply paired).mpr pairedWhole, fun removed done => ?_⟩
    · rw [handleClient_list]
      exact agreed
    · rw [handleClient_list]
      show ((parsePhones (replyLines (written (phonesReply (r.phones.list r.pins))))).map
        PhoneEntry.name).Nodup
      rw [agreed, List.map_map, show PhoneEntry.name ∘ (fun name => PhoneEntry.mk name
        (r.phones.connected.contains name)) = id from rfl, List.map_id]
      exact r.pins.phones.nodupKeys
    · rw [handleClient_list]
      refine (readAsWritten_iff (readable_phonesReply _)).mpr (whole_phonesReply.mpr ?_)
      exact List.forall_mem_map.mpr names
    · rw [handleClient_status]
      exact statusRead.mpr ⟨summary, peer⟩
    · refine removed_readAsWritten removed ?_
      rw [((receivedName_iff name).mpr plain).1, String.ofList_toList]
      exact done

/-- A receiver with a pinned phone whose name has two spaces. -/
def spacedPhone : ControlledReceiver where
  pins := PinStore.pinPhone {} "Pixel  8" "aa" PhoneFeature.all
  phones := {}
  saved := true
  removal := .ok ()

/-- The other phone is not found, which the client reports as a success. -/
theorem doubled_space_stays_pinned : ¬ ∀ (r : ControlledReceiver) (other : ControlAnswers)
    (name : String) (status : TrayStatus) (paired : String),
    r.MeansThePhone other name status paired := by
  intro all
  have means := all spacedPhone ⟨"", 0, none, fun _ => .ok false, [], none, none⟩ "Pixel  8"
    ⟨"Running", none, none, []⟩ "Pixel  8"
  have gone := means.unpaired (by decide +kernel)
  exact absurd gone (by decide +kernel)

end ControlledReceiver

end EdgeKvm.Pairing
