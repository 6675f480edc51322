/-
# The line that tells of a job

A status command may speak of many jobs, one in each line, and the names of some may begin with the name
of another. A line tells of a job if the job is its first word and there is a second one, the state. The
first such line is all that the status of the job is read from, so no line of another job is taken for
one, wherever it stands and however far it is indented.

A line is read in steps of its own: it is trimmed, the job is taken off its front, and what follows is
looked at. That this comes to the first two words of the line is said once, by `jobState?_eq_some_iff`,
and follows from what a blank does to the words of a text.
-/

import ChangeFeed.Service.Spec
import ChangeFeed.Service.Status
import Mathlib.Data.List.DropRight

namespace ChangeFeed

namespace Text

/-! ## Words -/

/-- A text that is one word: it is not empty and holds no blank. -/
def IsWord (text : List Char) : Prop :=
  text ≠ [] ∧ ∀ c ∈ text, isBlank c = false

/-- The characters of the word being read go in front of the first piece that follows. -/
theorem wordsFrom_eq (word cs : List Char) :
    wordsFrom word cs =
      ((cs.splitOnP isBlank).modifyHead (word.reverse ++ ·)).filter fun piece => !piece.isEmpty := by
  induction cs generalizing word with
  | nil => cases word <;> simp [wordsFrom, List.splitOnP_nil]
  | cons c rest ih =>
    have fresh : wordsFrom [] rest = (rest.splitOnP isBlank).filter fun piece => !piece.isEmpty := by
      rw [ih []]
      cases rest.splitOnP isBlank <;> rfl
    rw [wordsFrom, List.splitOnP_cons_eq_if_modifyHead]
    split
    · rw [fresh]
      cases word <;> simp
    · rw [ih (c :: word), List.modifyHead_modifyHead]
      congr 2
      funext piece
      simp

/-- **The words of a text are the pieces between its blanks**, but for the empty ones. -/
theorem words_eq_filter_splitOnP (cs : List Char) :
    words cs = (cs.splitOnP isBlank).filter fun piece => !piece.isEmpty := by
  rw [words, wordsFrom_eq]
  cases cs.splitOnP isBlank <;> rfl

/-- **A blank parts the words on both sides of it.** -/
theorem words_append_cons {c : Char} (blank : isBlank c = true) (before after : List Char) :
    words (before ++ c :: after) = words before ++ words after := by
  simp only [words_eq_filter_splitOnP, List.splitOnP_append_cons before after blank, List.filter_append]

theorem words_nil : words [] = [] := rfl

theorem words_cons {c : Char} (blank : isBlank c = true) (cs : List Char) :
    words (c :: cs) = words cs := by
  rw [← List.nil_append (c :: cs), words_append_cons blank, words_nil, List.nil_append]

theorem IsWord.words_eq {word : List Char} (isWord : IsWord word) : words word = [word] := by
  rw [words_eq_filter_splitOnP, List.splitOnP_eq_singleton isWord.2]
  simp [isWord.1]

theorem words_append_of_blank {indent : List Char} (blank : ∀ c ∈ indent, isBlank c = true)
    (cs : List Char) : words (indent ++ cs) = words cs := by
  induction indent with
  | nil => rfl
  | cons c indent ih =>
    obtain ⟨now, later⟩ := List.forall_mem_cons.mp blank
    rw [List.cons_append, words_cons now, ih later]

/-- Trimming leaves the words as they are. -/
theorem words_trimBlanks (cs : List Char) : words (trimBlanks cs) = words cs := by
  have front : words (dropBlanks cs) = words cs := by
    have blank : ∀ c ∈ cs.takeWhile isBlank, isBlank c = true := fun _ => List.mem_takeWhile_imp
    rw [← words_append_of_blank blank (dropBlanks cs), dropBlanks, List.takeWhile_append_dropWhile]
  have back (text : List Char) : words (text.rdropWhile isBlank) = words text := by
    induction text using List.reverseRecOn with
    | nil => rfl
    | append_singleton text c ih =>
      rw [List.rdropWhile_concat]
      split
      · next blank => rw [ih, words_append_cons blank, words_nil, List.append_nil]
      · rfl
  exact (back _).trans front

/-- A trimmed text does not begin with a blank. -/
theorem isBlank_head_trimBlanks {cs rest : List Char} {c : Char} (begins : trimBlanks cs = c :: rest) :
    isBlank c = false := by
  obtain ⟨after, whole⟩ := List.rdropWhile_prefix isBlank (dropBlanks cs)
  have front : cs.dropWhile isBlank = c :: (rest ++ after) := by
    rw [← List.cons_append, ← begins]
    exact whole.symm
  have unblank := List.head?_dropWhile_not isBlank cs
  rwa [front] at unblank

/-- A text that does not begin with a blank has two words exactly if a blank ends the first of them and
there is another word behind it. -/
theorem words_eq_cons_cons_iff {cs first second : List Char} {more : List (List Char)}
    (unblank : ∀ c rest, cs = c :: rest → isBlank c = false) :
    words cs = first :: second :: more ↔
      IsWord first ∧ ∃ c rest, cs = first ++ c :: rest ∧ isBlank c = true ∧ words rest = second :: more := by
  constructor
  · intro words
    have whole : cs.takeWhile (!isBlank ·) ++ cs.dropWhile (!isBlank ·) = cs :=
      List.takeWhile_append_dropWhile
    have plain : ∀ c ∈ cs.takeWhile (!isBlank ·), isBlank c = false := fun c listed => by
      simpa using List.mem_takeWhile_imp listed
    have ended := List.head?_dropWhile_not (!isBlank ·) cs
    generalize cs.takeWhile (!isBlank ·) = word at whole plain
    generalize cs.dropWhile (!isBlank ·) = behind at whole ended
    subst whole
    cases behind with
    | nil =>
      -- There is no blank, and so there are no two words.
      rw [List.append_nil] at words
      rcases Classical.em (word = []) with rfl | filled
      · cases words
      · rw [IsWord.words_eq ⟨filled, plain⟩] at words
        cases words
    | cons c rest =>
      have blank : isBlank c = true := by simpa using ended
      have filled : word ≠ [] := by
        rintro rfl
        rw [unblank c rest rfl] at blank
        cases blank
      rw [words_append_cons blank, IsWord.words_eq ⟨filled, plain⟩] at words
      obtain ⟨rfl, later⟩ := List.cons.inj words
      exact ⟨⟨filled, plain⟩, c, rest, rfl, blank, later⟩
  · rintro ⟨isWord, c, rest, rfl, blank, later⟩
    rw [words_append_cons blank, isWord.words_eq, later]
    rfl

/-- A text without its commas at the end, and how many they are. -/
theorem exists_commas (cs : List Char) :
    ∃ commas, cs = dropEndWhile (· == ',') cs ++ List.replicate commas ',' := by
  show ∃ commas, cs = cs.rdropWhile (· == ',') ++ List.replicate commas ','
  induction cs using List.reverseRecOn with
  | nil => exact ⟨0, rfl⟩
  | append_singleton cs c ih =>
    rw [List.rdropWhile_concat]
    split
    · next comma =>
      obtain ⟨commas, same⟩ := ih
      obtain rfl : c = ',' := eq_of_beq comma
      refine ⟨commas + 1, ?_⟩
      rw [List.replicate_succ', ← List.append_assoc, ← same]
    · exact ⟨0, (List.append_nil _).symm⟩

theorem getLast?_dropEndWhile (cs : List Char) :
    (dropEndWhile (· == ',') cs).getLast? ≠ some ',' := by
  intro last
  have filled : dropEndWhile (· == ',') cs ≠ [] := by
    intro empty
    rw [empty] at last
    cases last
  have other := List.rdropWhile_last_not (· == ',') cs filled
  rw [List.getLast?_eq_some_getLast filled] at last
  exact other (beq_of_eq (Option.some.inj last))

end Text

namespace ServiceStatus

variable {job : String} {line state text start rest : List Char} {output : String}

/-! ## Lines that tell of a job -/

/-- The line has the job for its first word, and a second word. -/
def tells (job : String) (line : List Char) : Bool :=
  match Text.words line with
  | first :: _ :: _ => first = job.toList
  | _ => false

/-- The line begins, behind blanks, with a word that begins with the job and is longer. -/
def IsOfLongerName (job : String) (line : List Char) : Prop :=
  ∃ indent c rest, line = indent ++ (job.toList ++ c :: rest) ∧
    (∀ d ∈ indent, Text.isBlank d = true) ∧ Text.isBlank c = false

theorem tells_iff : tells job line = true ↔ ∃ state more, Text.words line = job.toList :: state :: more := by
  unfold tells
  split
  · next first second more words => simp [words]
  · next few =>
    refine iff_of_false Bool.false_ne_true ?_
    rintro ⟨state, more, words⟩
    exact few _ _ _ words

theorem after?_eq_some_iff : after? start text = some rest ↔ text = start ++ rest := by
  induction start generalizing text with
  | nil => simp [after?]
  | cons c start ih =>
    cases text with
    | nil => simp [after?]
    | cons d text =>
      by_cases same : c = d
      · simp [after?, same, ih]
      · simp [after?, same, Ne.symm same]

/-- **A line gives a state to a job exactly if its first two words are the job and the state.** -/
theorem jobState?_eq_some_iff (isWord : Text.IsWord job.toList) :
    jobState? job line = some state ↔ ∃ more, Text.words line = job.toList :: state :: more := by
  have begins : ∀ c rest, Text.trimBlanks line = c :: rest → Text.isBlank c = false := fun _ _ =>
    Text.isBlank_head_trimBlanks
  simp only [← Text.words_trimBlanks line, Text.words_eq_cons_cons_iff begins, jobState?]
  constructor
  · intro read
    split at read
    · next c rest found =>
      split at read
      · next blank =>
        obtain ⟨more, words⟩ := List.head?_eq_some_iff.mp read
        exact ⟨more, isWord, c, rest, after?_eq_some_iff.mp found, blank, words⟩
      · cases read
    · cases read
  · rintro ⟨more, -, c, rest, same, blank, words⟩
    rw [after?_eq_some_iff.mpr same]
    simp only [blank, if_true, words, List.head?_cons]

/-- A line that does not tell of the job gives it no state. -/
theorem jobState?_eq_none (isWord : Text.IsWord job.toList) (silent : tells job line = false) :
    jobState? job line = none := by
  refine Option.eq_none_iff_forall_ne_some.mpr fun state read => ?_
  obtain ⟨more, words⟩ := (jobState?_eq_some_iff isWord).mp read
  rw [tells_iff.mpr ⟨state, more, words⟩] at silent
  cases silent

/-- A line of a job with a longer name does not tell of the job, as no blank follows the job in it. -/
theorem tells_of_isOfLongerName (isWord : Text.IsWord job.toList) (longer : IsOfLongerName job line) :
    tells job line = false := by
  obtain ⟨indent, c, rest, rfl, blanks, unblank⟩ := longer
  refine Bool.eq_false_iff.mpr fun told => ?_
  obtain ⟨state, more, words⟩ := tells_iff.mp told
  have begins : ∀ d behind, job.toList ++ c :: rest = d :: behind → Text.isBlank d = false := by
    intro d behind same
    obtain ⟨d', name, named⟩ := List.exists_cons_of_ne_nil isWord.1
    rw [named] at same
    obtain ⟨rfl, -⟩ := List.cons.inj same
    exact isWord.2 d' (named ▸ List.mem_cons_self)
  rw [Text.words_append_of_blank blanks, Text.words_eq_cons_cons_iff begins] at words
  obtain ⟨-, d, behind, same, blank, -⟩ := words
  obtain ⟨rfl, -⟩ := List.cons.inj (List.append_cancel_left same)
  rw [unblank] at blank
  cases blank

/-! ## The first of them -/

/-- The first line that tells of a job. -/
def tellingLine? (job output : String) : Option (List Char) :=
  (Text.lines output).find? (tells job)

/-- **The status is the state in the first line that tells of the job.** -/
theorem ofUpstart_of_tellingLine? (isWord : Text.IsWord job.toList)
    (first : tellingLine? job output = some line) :
    ∃ state more, Text.words line = job.toList :: state :: more ∧ ofUpstart job output = ofJobState state := by
  obtain ⟨told, before, after, split, silent⟩ := List.find?_eq_some_iff_append.mp first
  obtain ⟨state, more, words⟩ := tells_iff.mp told
  have found : (Text.lines output).findSome? (jobState? job) = some state := by
    refine List.findSome?_eq_some_iff.mpr ⟨before, line, after, split,
      (jobState?_eq_some_iff isWord).mpr ⟨more, words⟩, fun other listed => ?_⟩
    exact jobState?_eq_none isWord (by simpa using silent other listed)
  refine ⟨state, more, words, ?_⟩
  rw [ofUpstart, found]

theorem ofUpstart_of_no_tellingLine? (isWord : Text.IsWord job.toList)
    (none : tellingLine? job output = none) : ofUpstart job output = unrecognised output := by
  have silent := List.find?_eq_none.mp none
  have nothing : (Text.lines output).findSome? (jobState? job) = .none :=
    List.findSome?_eq_none_iff.mpr fun line listed =>
      jobState?_eq_none isWord (Bool.eq_false_iff.mpr (silent line listed))
  rw [ofUpstart, nothing]

theorem startsWith_iff {start : String} : startsWith start text = true ↔ start.toList <+: text :=
  List.isPrefixOf_iff_prefix

/-- What a state is read as, once the commas at its end are off. -/
theorem ofJobState_cases (state : List Char) :
    ∃ word commas, state = word ++ List.replicate commas ',' ∧ word.getLast? ≠ some ',' ∧
      (ofJobState state = running ↔ word = "start/running".toList) ∧
      (ofJobState state = stopped ↔ "stop/".toList <+: word) ∧
      (ofJobState state = unknown (String.ofList word) ↔
        word ≠ "start/running".toList ∧ ¬ "stop/".toList <+: word) := by
  obtain ⟨commas, same⟩ := Text.exists_commas state
  refine ⟨Text.dropEndWhile (· == ',') state, commas, same, Text.getLast?_dropEndWhile state, ?_⟩
  have apart : ¬ "stop/".toList <+: "start/running".toList := by decide
  rw [ofJobState]
  generalize Text.dropEndWhile (· == ',') state = word
  by_cases started : word = "start/running".toList
  · rw [if_pos started]
    exact ⟨iff_of_true rfl started, iff_of_false (fun same => by cases same) (started ▸ apart),
      iff_of_false (fun same => by cases same) fun other => other.1 started⟩
  · rw [if_neg started]
    by_cases halted : "stop/".toList <+: word
    · rw [if_pos (startsWith_iff.mpr halted)]
      exact ⟨iff_of_false (fun same => by cases same) started, iff_of_true rfl halted,
        iff_of_false (fun same => by cases same) fun other => other.2 halted⟩
    · rw [if_neg fun starts => halted (startsWith_iff.mp starts)]
      exact ⟨iff_of_false (fun same => by cases same) started,
        iff_of_false (fun same => by cases same) halted, iff_of_true rfl ⟨started, halted⟩⟩

/-- A line that does not tell of the job can be left out. -/
theorem tellingLine?_insert {other : String} {before after : List (List Char)}
    (whole : Text.lines output = before ++ line :: after) (shorter : Text.lines other = before ++ after)
    (silent : tells job line = false) : tellingLine? job output = tellingLine? job other := by
  rw [tellingLine?, tellingLine?, whole, shorter, List.find?_append, List.find?_append, List.find?_cons,
    silent]

end ServiceStatus

namespace ServiceSpec

variable {spec : ServiceSpec} {c : Char}

/-! ## Names as jobs -/

/-- What a name may contain lies between the controls and the blanks beyond ASCII. -/
theorem isBlank_of_isNameChar (named : isNameChar c = true) : Text.isBlank c = false := by
  have code : 45 ≤ c.toNat ∧ c.toNat ≤ 122 := by
    have within (low high : Char) (wide : 45 ≤ low.toNat ∧ high.toNat ≤ 122)
        (range : low.toNat ≤ c.toNat ∧ c.toNat ≤ high.toNat) : 45 ≤ c.toNat ∧ c.toNat ≤ 122 :=
      ⟨Nat.le_trans wide.1 range.1, Nat.le_trans range.2 wide.2⟩
    simp only [isNameChar, Bool.or_eq_true, beq_iff_eq] at named
    rcases named with ((alphanumeric | rfl) | rfl) | rfl
    · have kinds : ((c.isUpper || c.isLower) || c.isDigit) = true := alphanumeric
      simp only [Bool.or_eq_true] at kinds
      rcases kinds with (upper | lower) | digit
      · have range : c.val ≥ 'A'.val ∧ c.val ≤ 'Z'.val := of_decide_eq_true upper
        exact within 'A' 'Z' (by decide) (range.imp UInt32.le_iff_toNat_le.mp UInt32.le_iff_toNat_le.mp)
      · have range : c.val ≥ 'a'.val ∧ c.val ≤ 'z'.val :=
          (Bool.and_eq_true_iff.mp lower).imp of_decide_eq_true of_decide_eq_true
        exact within 'a' 'z' (by decide) (range.imp UInt32.le_iff_toNat_le.mp UInt32.le_iff_toNat_le.mp)
      · exact within '0' '9' (by decide) (Char.isDigit_iff_toNat.mp digit)
    all_goals decide
  simp only [Text.isBlank, Bool.or_eq_false_iff, Bool.and_eq_false_iff, decide_eq_false_iff_not,
    beq_eq_false_iff_ne]
  omega

/-- The name of a specification without defects is a word. -/
theorem isWord_name (accepted : spec.defect? = none) : Text.IsWord spec.name.toList := by
  unfold defect? at accepted
  split at accepted
  · cases accepted
  · next filled =>
    split at accepted
    · cases accepted
    · next named =>
      have chars : spec.name.toList.all isNameChar = true := by simpa using named
      refine ⟨fun empty => filled ?_, fun c listed =>
        isBlank_of_isNameChar (List.all_eq_true.mp chars c listed)⟩
      rw [String.toList_eq_nil_iff.mp empty]
      rfl

end ServiceSpec

namespace ServiceStatus

/-- **The status of a job is read from the first line that tells of it.** Let a name be that of a
specification without defects. If the output has a line with the name for its first word and with a
second word, the first such line decides: its second word without the commas at its end is
`start/running` exactly if the service runs, begins with `stop/` exactly if it has stopped, and is what is
unknown otherwise; any other output with the same first line of this kind has the same status. If there is
none, the status is unknown, with the output as it stands but for blanks at its ends. So a line of a job
with a longer name can stand anywhere and behind any blanks, or be left out: where a line tells of the
job, nothing changes, and where none does, none does without it. -/
theorem status_read_from_first_telling_line {spec : ServiceSpec} (accepted : spec.defect? = none)
    (output : String) :
    let status := ofUpstart spec.name output
    (∀ line, tellingLine? spec.name output = some line →
        (∃ state more word commas, Text.words line = spec.name.toList :: state :: more ∧
          state = word ++ List.replicate commas ',' ∧ word.getLast? ≠ some ',' ∧
          (status = running ↔ word = "start/running".toList) ∧
          (status = stopped ↔ "stop/".toList <+: word) ∧
          (status = unknown (String.ofList word) ↔
            word ≠ "start/running".toList ∧ ¬ "stop/".toList <+: word)) ∧
        ∀ other, tellingLine? spec.name other = some line → ofUpstart spec.name other = status) ∧
      (tellingLine? spec.name output = none → status = unknown (Text.trim output)) ∧
      ∀ other before line after, Text.lines output = before ++ line :: after →
        Text.lines other = before ++ after → IsOfLongerName spec.name line →
        ((∃ told ∈ Text.lines other, tells spec.name told = true) →
            status = ofUpstart spec.name other) ∧
          ((∀ told ∈ Text.lines other, tells spec.name told = false) →
            status = unknown (Text.trim output) ∧
              ofUpstart spec.name other = unknown (Text.trim other)) := by
  intro status
  have isWord := ServiceSpec.isWord_name accepted
  have same : ∀ {line first second}, tellingLine? spec.name first = some line →
      tellingLine? spec.name second = some line → ofUpstart spec.name first = ofUpstart spec.name second := by
    intro line first second found again
    obtain ⟨state, more, words, read⟩ := ofUpstart_of_tellingLine? isWord found
    obtain ⟨state', more', words', read'⟩ := ofUpstart_of_tellingLine? isWord again
    cases words.symm.trans words'
    rw [read, read']
  have unread : ∀ {text}, tellingLine? spec.name text = none →
      ofUpstart spec.name text = unknown (Text.trim text) :=
    ofUpstart_of_no_tellingLine? isWord
  refine ⟨fun line first => ⟨?_, fun other found => same found first⟩, unread,
    fun other before line after whole shorter longer => ?_⟩
  · obtain ⟨state, more, words, read⟩ := ofUpstart_of_tellingLine? isWord first
    obtain ⟨word, commas, stripped, bare, meaning⟩ := ofJobState_cases state
    rw [← read] at meaning
    exact ⟨state, more, word, commas, words, stripped, bare, meaning⟩
  · have kept := tellingLine?_insert whole shorter (tells_of_isOfLongerName isWord longer)
    constructor
    · rintro ⟨told, listed, tells⟩
      obtain ⟨first, found⟩ := Option.isSome_iff_exists.mp
        (List.find?_isSome.mpr ⟨told, listed, tells⟩)
      exact same (kept.trans found) found
    · intro silent
      have none : tellingLine? spec.name other = none :=
        List.find?_eq_none.mpr fun told listed => Bool.eq_false_iff.mp (silent told listed)
      exact ⟨unread (kept.trans none), unread none⟩

/-- A line of `agent-2` in front and one that holds the name alone are passed over. The state of the agent
is then read across blanks of all kinds and without its commas, the line of `agent-2` can be left out, and
by itself it gives no status. -/
theorem agent_stopped_behind_others :
    let spec : ServiceSpec := { name := "agent", description := "", executable := "/bin/agent" }
    let other := "\u2003agent-2 start/running\n"
    let own := "agent\r\n\tagent\u00a0stop/waiting,, now\nagent start/running\n"
    let line := "\tagent\u00a0stop/waiting,, now".toList
    spec.defect? = none ∧ tellingLine? spec.name (other ++ own) = some line ∧
      ofUpstart spec.name (other ++ own) = stopped ∧
      (∃ word commas, "stop/waiting,,".toList = word ++ List.replicate commas ',' ∧
        word.getLast? ≠ some ',' ∧ "stop/".toList <+: word) ∧
      ofUpstart spec.name (other ++ own) = ofUpstart spec.name own ∧
      ofUpstart spec.name other = unknown (Text.trim other) := by
  intro spec other own line
  have accepted : spec.defect? = none := by decide
  have first : tellingLine? spec.name (other ++ own) = some line := by decide +kernel
  have halts : ofUpstart spec.name (other ++ own) = stopped := by decide +kernel
  have second : Text.words line = [spec.name.toList, "stop/waiting,,".toList, "now".toList] := by
    decide +kernel
  have longer : IsOfLongerName spec.name "\u2003agent-2 start/running".toList :=
    ⟨['\u2003'], '-', "2 start/running".toList, by decide +kernel,
      List.forall_mem_singleton.mpr rfl, rfl⟩
  obtain ⟨read, -, passed⟩ := status_read_from_first_telling_line accepted (other ++ own)
  obtain ⟨-, unread, -⟩ := status_read_from_first_telling_line accepted other
  obtain ⟨⟨state, more, word, commas, words, stripped, bare, -, stops, -⟩, -⟩ := read line first
  obtain ⟨rfl, -⟩ := List.cons.inj (List.cons.inj (second.symm.trans words)).2
  refine ⟨accepted, first, halts, ⟨word, commas, stripped, bare, stops.mp halts⟩, ?_,
    unread (by decide +kernel)⟩
  exact (passed own [] _ (Text.lines own) (by decide +kernel) rfl longer).1
    ⟨line, by decide +kernel, by decide +kernel⟩

end ServiceStatus

end ChangeFeed
