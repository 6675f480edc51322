/-
# What a definition file says

A definition file is a template of lines with places for a description and a command line, and the values
go in as they are. So the file says what the template says as long as the values stay on their lines, and
only so long: a line feed inside a value ends the line there, and whatever follows it in the value is a
line of its own, a directive like any other.

What a text reads as is said here for any lines, and for a word between quotes; the templates are then a
matter of looking at each line once.
-/

import ChangeFeed.Service.Definition
import Mathlib.Data.List.Basic

namespace ChangeFeed

namespace Text

/-! ## Lines that read back -/

/-- A line that is read back as it was written: it holds no line feed, and no carriage return at its end
that would pass for a part of the line end. -/
def IsLine (line : List Char) : Prop :=
  '\n' ∉ line ∧ line.getLast? ≠ some '\r'

instance (line : List Char) : Decidable (IsLine line) :=
  inferInstanceAs (Decidable (_ ∧ _))

variable {line : List Char} {written : List (List Char)}

/-- What stands before a value on its line makes no difference to it, if it is a line itself. -/
theorem isLine_append_iff {before : String} (good : IsLine before.toList) (value : String) :
    IsLine (before ++ value).toList ↔ IsLine value.toList := by
  unfold IsLine
  rw [String.toList_append, List.mem_append, List.getLast?_append]
  cases value.toList.getLast? with
  | none =>
    rw [Option.none_or]
    simp [good.1, good.2]
  | some c => simp [good.1]

/-- A value that is followed by a quote does not end its line. -/
theorem isLine_append_quote_iff (value : String) : IsLine (value ++ "\"").toList ↔ '\n' ∉ value.toList := by
  simp [IsLine]

theorem closeLine_reverse_eq_iff : closeLine line.reverse = line ↔ line.getLast? ≠ some '\r' := by
  rcases List.eq_nil_or_concat line with rfl | ⟨init, last, rfl⟩
  · simp [closeLine]
  · by_cases carriage : last = '\r'
    · subst carriage
      simp [closeLine]
    · have kept : closeLine (last :: init.reverse) = (last :: init.reverse).reverse := by
        unfold closeLine
        split
        · next same => exact absurd (List.cons.inj same).1 carriage
        · rfl
      simp [kept, carriage]

theorem mem_of_mem_closeLine {c : Char} (member : c ∈ closeLine line) : c ∈ line := by
  unfold closeLine at member
  split at member
  · exact List.mem_cons_of_mem _ (List.mem_reverse.mp member)
  · exact List.mem_reverse.mp member

theorem linesFrom_cons {c : Char} (other : c ≠ '\n') (begun rest : List Char) :
    linesFrom begun (c :: rest) = linesFrom (c :: begun) rest :=
  linesFrom.eq_3 begun c rest other

/-- No line that is read holds a line feed. -/
theorem newline_not_mem_of_mem_linesFrom {begun text : List Char} (plain : '\n' ∉ begun)
    (listed : line ∈ linesFrom begun text) : '\n' ∉ line := by
  induction text generalizing begun with
  | nil =>
    rw [linesFrom] at listed
    split at listed
    · cases listed
    · rw [List.mem_singleton.mp listed]
      exact fun member => plain (List.mem_reverse.mp member)
  | cons c rest ih =>
    by_cases ends : c = '\n'
    · subst ends
      rcases List.mem_cons.mp listed with rfl | later
      · exact fun member => plain (mem_of_mem_closeLine member)
      · exact ih List.not_mem_nil later
    · rw [linesFrom_cons ends] at listed
      exact ih (List.not_mem_cons_of_ne_of_not_mem (Ne.symm ends) plain) listed

/-- What stands before a line feed is one line. -/
theorem linesFrom_append (plain : '\n' ∉ line) (begun rest : List Char) :
    linesFrom begun (line ++ '\n' :: rest) = closeLine (line.reverse ++ begun) :: linesFrom [] rest := by
  induction line generalizing begun with
  | nil => rfl
  | cons c line ih =>
    have other : c ≠ '\n' := Ne.symm (List.ne_of_not_mem_cons plain)
    rw [List.cons_append, linesFrom_cons other, ih (List.not_mem_of_not_mem_cons plain),
      List.reverse_cons, List.append_assoc]
    rfl

/-- **Lines read back as they were written, exactly if each of them does.** -/
theorem linesFrom_flatMap_iff :
    linesFrom [] (written.flatMap (· ++ ['\n'])) = written ↔ ∀ line ∈ written, IsLine line := by
  have closed : (∀ line ∈ written, '\n' ∉ line) →
      linesFrom [] (written.flatMap (· ++ ['\n'])) = written.map fun line => closeLine line.reverse := by
    induction written with
    | nil => exact fun _ => rfl
    | cons line rest ih =>
      intro plain
      obtain ⟨now, later⟩ := List.forall_mem_cons.mp plain
      rw [List.flatMap_cons, List.append_assoc, List.singleton_append, linesFrom_append now, ih later,
        List.append_nil, List.map_cons]
  have each : (written.map fun line => closeLine line.reverse) = written ↔
      ∀ line ∈ written, line.getLast? ≠ some '\r' := by
    calc (written.map fun line => closeLine line.reverse) = written
        ↔ (written.map fun line => closeLine line.reverse) = written.map id := by rw [List.map_id]
      _ ↔ ∀ line ∈ written, closeLine line.reverse = id line := List.map_inj_left
      _ ↔ ∀ line ∈ written, line.getLast? ≠ some '\r' :=
        forall₂_congr fun _ _ => closeLine_reverse_eq_iff
  constructor
  · intro same line listed
    have plain : ∀ line ∈ written, '\n' ∉ line := fun line listed =>
      newline_not_mem_of_mem_linesFrom List.not_mem_nil (same ▸ listed)
    exact ⟨plain line listed, each.mp ((closed plain).symm.trans same) line listed⟩
  · intro good
    rw [closed fun line listed => (good line listed).1]
    exact each.mpr fun line listed => (good line listed).2

/-! ## Words between quotes -/

/-- Reads on inside a word between quotes: the word up to the closing quote, and what follows. For a
reader who knows escapes, a backslash is no part of the word, and `escaped` what comes behind it is. -/
def readQuoted? (escapes : Bool) (escaped : Bool) : List Char → Option (List Char × List Char)
  | [] => none
  | c :: text =>
    if escaped then (readQuoted? escapes false text).map fun (word, rest) => (c :: word, rest)
    else if c = '"' then some ([], text)
    else if escapes && c = '\\' then readQuoted? escapes true text
    else (readQuoted? escapes false text).map fun (word, rest) => (c :: word, rest)

variable {escapes escaped : Bool} {text word rest : List Char}

/-- A word that is read is shorter than what it is read from, as the closing quote is no part of it. -/
theorem length_lt_of_readQuoted? (read : readQuoted? escapes escaped text = some (word, rest)) :
    word.length + rest.length < text.length := by
  induction text generalizing escaped word with
  | nil => cases read
  | cons c text ih =>
    have longer (read : ((readQuoted? escapes false text).map fun (word, rest) => (c :: word, rest)) =
        some (word, rest)) : word.length + rest.length < (c :: text).length := by
      obtain ⟨⟨tail, _⟩, read, same⟩ := Option.map_eq_some_iff.mp read
      cases same
      have shorter := ih read
      simp only [List.length_cons]
      lia
    unfold readQuoted? at read
    split at read
    · exact longer read
    · split at read
      · cases read
        simp
      · split at read
        · exact Nat.lt_succ_of_lt (ih read)
        · exact longer read

/-- **A word reads back from between quotes, exactly if it has no quote of its own**, and no backslash
that the reader takes for an escape. -/
theorem readQuoted?_append_quote_iff :
    readQuoted? escapes false (word ++ ['"']) = some (word, []) ↔
      '"' ∉ word ∧ (escapes = true → '\\' ∉ word) := by
  induction word with
  | nil => simp [readQuoted?]
  | cons c word ih =>
    rw [List.cons_append, readQuoted?, if_neg Bool.false_ne_true]
    by_cases quote : c = '"'
    · simp [quote]
    · rw [if_neg quote]
      by_cases escape : (escapes && c = '\\') = true
      · rw [if_pos escape]
        constructor
        · intro read
          have shorter := length_lt_of_readQuoted? read
          simp at shorter
        · rintro ⟨-, plain⟩
          simp only [Bool.and_eq_true, decide_eq_true_eq] at escape
          exact absurd (by simp [escape.2]) (plain escape.1)
      · have unescaped : escapes = true → '\\' ≠ c := by
          rintro rfl rfl
          exact escape rfl
        rw [if_neg escape]
        constructor
        · intro read
          obtain ⟨⟨tail, _⟩, read, same⟩ := Option.map_eq_some_iff.mp read
          cases same
          obtain ⟨unquoted, plain⟩ := ih.mp read
          exact ⟨List.not_mem_cons_of_ne_of_not_mem (Ne.symm quote) unquoted, fun knows =>
            List.not_mem_cons_of_ne_of_not_mem (unescaped knows) (plain knows)⟩
        · rintro ⟨unquoted, plain⟩
          rw [ih.mpr ⟨List.not_mem_of_not_mem_cons unquoted, fun knows =>
            List.not_mem_of_not_mem_cons (plain knows)⟩]
          rfl

/-- The word that a text is, if it is one word between quotes and nothing else. -/
def unquote? (escapes : Bool) (text : String) : Option String :=
  match text.toList with
  | '"' :: text =>
    match readQuoted? escapes false text with
    | some (word, []) => some (String.ofList word)
    | _ => none
  | _ => none

theorem unquote?_eq_some_iff {text : String} :
    unquote? escapes ("\"" ++ text ++ "\"") = some text ↔
      '"' ∉ text.toList ∧ (escapes = true → '\\' ∉ text.toList) := by
  have chars : ("\"" ++ text ++ "\"").toList = '"' :: (text.toList ++ ['"']) := by simp
  rw [← readQuoted?_append_quote_iff, unquote?, chars]
  constructor
  · intro read
    simp only at read
    split at read
    · next word found =>
      rw [found, ← Option.some.inj read, String.toList_ofList]
    · cases read
  · intro read
    simp only [read, String.ofList_toList]

end Text

namespace ServiceSpec

variable {spec : ServiceSpec}

/-! ## The command line -/

theorem mem_intercalate_iff {c : Char} (space : c ≠ ' ') {parts : List (List Char)} :
    c ∈ [' '].intercalate parts ↔ ∃ part ∈ parts, c ∈ part := by
  induction parts with
  | nil => simp
  | cons first rest ih =>
    cases rest with
    | nil => simp
    | cons second rest => simp [space, ih]

theorem getLast?_intercalate_ne {c : Char} (space : c ≠ ' ') {parts : List (List Char)}
    (good : ∀ part ∈ parts, part.getLast? ≠ some c) : ([' '].intercalate parts).getLast? ≠ some c := by
  induction parts with
  | nil => simp
  | cons first rest ih =>
    obtain ⟨now, later⟩ := List.forall_mem_cons.mp good
    cases rest with
    | nil => simpa using now
    | cons second rest =>
      have last := ih later
      rw [List.intercalate_cons_cons, List.getLast?_append, List.getLast?_append]
      cases ends : ([' '].intercalate (second :: rest)).getLast? with
      | none => simpa using Ne.symm space
      | some _ => simpa [ends] using last

/-- A character that the command line does not bring along is in one of its parts. -/
theorem mem_commandLine_iff {c : Char} (space : c ≠ ' ') (quote : c ≠ '"') :
    c ∈ spec.commandLine.toList ↔ ∃ part ∈ spec.executable :: spec.args, c ∈ part.toList := by
  have within (part : String) : c ∈ (quotePart part).toList ↔ c ∈ part.toList := by
    unfold quotePart
    split <;> simp [quote]
  rw [commandLine, String.toList_intercalate]
  apply (mem_intercalate_iff space).trans
  simp only [List.map_map, List.mem_map, exists_exists_and_eq_and, Function.comp_apply, within]

/-- A part that contains a blank is quoted, so that none is at the end of the command line. -/
theorem getLast?_commandLine_ne (spec : ServiceSpec) : spec.commandLine.toList.getLast? ≠ some '\r' := by
  rw [commandLine, String.toList_intercalate]
  apply getLast?_intercalate_ne (by decide)
  intro part listed
  obtain ⟨_, quoted, rfl⟩ := List.mem_map.mp listed
  obtain ⟨part, -, rfl⟩ := List.mem_map.mp quoted
  unfold quotePart
  split
  · rw [String.toList_append, List.getLast?_append]
    simp
  · next unblank =>
    intro last
    exact unblank (List.any_eq_true.mpr ⟨'\r', List.mem_of_getLast? last, rfl⟩)

/-! ## The files -/

/-- The lines of the definition file of a service, where the init system uses one. -/
def definitionLines? (spec : ServiceSpec) (init : InitSystem) : Option (List String) :=
  (spec.definition? init).map fun file => (Text.lines file.text).map String.ofList

/-- No value holds a line feed, so all stay on their lines in a job. -/
def FitsJob (spec : ServiceSpec) : Prop :=
  ∀ value ∈ spec.description :: spec.executable :: spec.args, '\n' ∉ value.toList

/-- In a unit the description is also the end of its line. -/
def FitsUnit (spec : ServiceSpec) : Prop :=
  spec.FitsJob ∧ spec.description.toList.getLast? ≠ some '\r'

instance (spec : ServiceSpec) : Decidable spec.FitsJob :=
  inferInstanceAs (Decidable (∀ value ∈ spec.description :: spec.executable :: spec.args, _))

instance (spec : ServiceSpec) : Decidable spec.FitsUnit :=
  inferInstanceAs (Decidable (_ ∧ _))

theorem lines_textOf_iff (written : List String) :
    (Text.lines (textOf written)).map String.ofList = written ↔
      ∀ line ∈ written, Text.IsLine line.toList := by
  have text : (textOf written).toList = (written.map String.toList).flatMap (· ++ ['\n']) := by
    simp [textOf, String.toList_join, List.flatMap_map]
  have back (chars : List (List Char)) :
      chars.map String.ofList = written ↔ chars = written.map String.toList := by
    constructor <;> rintro rfl <;> simp [Function.comp_def]
  rw [back, Text.lines, text, Text.linesFrom_flatMap_iff, List.forall_mem_map]

theorem isLine_commandLine_iff :
    Text.IsLine spec.commandLine.toList ↔
      ∀ part ∈ spec.executable :: spec.args, '\n' ∉ part.toList := by
  unfold Text.IsLine
  rw [mem_commandLine_iff (by decide) (by decide)]
  simp [getLast?_commandLine_ne]

theorem fitsJob_iff :
    spec.FitsJob ↔ '\n' ∉ spec.description.toList ∧ Text.IsLine spec.commandLine.toList := by
  rw [isLine_commandLine_iff]
  exact List.forall_mem_cons

theorem fitsUnit_iff :
    spec.FitsUnit ↔ Text.IsLine spec.description.toList ∧ Text.IsLine spec.commandLine.toList := by
  rw [FitsUnit, fitsJob_iff, and_right_comm]
  rfl

/-- **A unit reads as it was written, exactly if the values fit.** -/
theorem definitionLines?_systemd_eq_iff :
    spec.definitionLines? .systemd = some spec.unitLines ↔ spec.FitsUnit := by
  rw [definitionLines?, definition?, Option.map_some, Option.some.injEq, lines_textOf_iff, fitsUnit_iff]
  have description :=
    Text.isLine_append_iff (show Text.IsLine "Description=".toList by decide) spec.description
  have command := Text.isLine_append_iff (show Text.IsLine "ExecStart=".toList by decide) spec.commandLine
  have fixed : ∀ line ∈ ["[Unit]", "After=network-online.target", "", "[Service]", "Restart=on-failure",
      "[Install]", "WantedBy=multi-user.target"], Text.IsLine line.toList := by decide
  simp only [List.forall_mem_cons] at fixed
  simp only [unitLines, List.forall_mem_cons, description, command, fixed, true_and, List.not_mem_nil,
    IsEmpty.forall_iff, implies_true, and_true]

/-- **So does a job.** -/
theorem definitionLines?_upstart_eq_iff :
    spec.definitionLines? .upstart = some spec.jobLines ↔ spec.FitsJob := by
  rw [definitionLines?, definition?, Option.map_some, Option.some.injEq, lines_textOf_iff, fitsJob_iff]
  have description : Text.IsLine ("description \"" ++ spec.description ++ "\"").toList ↔
      '\n' ∉ spec.description.toList := by
    apply (Text.isLine_append_quote_iff _).trans
    simp
  have command := Text.isLine_append_iff (show Text.IsLine "exec ".toList by decide) spec.commandLine
  have fixed : ∀ line ∈ ["start on runlevel [2345]", "stop on runlevel [!2345]", "respawn", ""],
      Text.IsLine line.toList := by decide
  simp only [List.forall_mem_cons] at fixed
  simp only [jobLines, List.forall_mem_cons, description, command, fixed, true_and, List.not_mem_nil,
    IsEmpty.forall_iff, implies_true, and_true]

/-- **A definition says what its template says, exactly if the values fit their places.** The unit of a
service reads as its ten lines, with the description and the command line as they are, exactly if no value
holds a line feed and the description does not end with a carriage return. The job reads as its six lines
exactly if no value holds a line feed. The description reads back from between the quotes of a job exactly
if it holds no quote and, for a reader who knows escapes, no backslash. So of values that fit, another
description makes another line, and all other lines are the same. -/
theorem definition_reads_as_template_iff (spec : ServiceSpec) :
    let quoted := "\"" ++ spec.description ++ "\""
    (spec.definitionLines? .systemd =
        some ["[Unit]", "Description=" ++ spec.description, "After=network-online.target", "", "[Service]",
          "ExecStart=" ++ spec.commandLine, "Restart=on-failure", "", "[Install]",
          "WantedBy=multi-user.target"] ↔
        (∀ value ∈ spec.description :: spec.executable :: spec.args, '\n' ∉ value.toList) ∧
          spec.description.toList.getLast? ≠ some '\r') ∧
      (spec.definitionLines? .upstart =
        some ["description " ++ quoted, "start on runlevel [2345]", "stop on runlevel [!2345]", "respawn",
          "", "exec " ++ spec.commandLine] ↔
        ∀ value ∈ spec.description :: spec.executable :: spec.args, '\n' ∉ value.toList) ∧
      (∀ escapes, Text.unquote? escapes quoted = some spec.description ↔
        '"' ∉ spec.description.toList ∧ (escapes = true → '\\' ∉ spec.description.toList)) ∧
      ∀ description,
        let other := { spec with description }
        (spec.FitsUnit → other.FitsUnit → other.definitionLines? .systemd =
          (spec.definitionLines? .systemd).map (·.set 1 ("Description=" ++ description))) ∧
        (spec.FitsJob → other.FitsJob → other.definitionLines? .upstart =
          (spec.definitionLines? .upstart).map (·.set 0 ("description \"" ++ description ++ "\""))) := by
  intro quoted
  have job : spec.jobLines = ["description " ++ quoted, "start on runlevel [2345]",
      "stop on runlevel [!2345]", "respawn", "", "exec " ++ spec.commandLine] := by
    have first : "description \"" ++ spec.description ++ "\"" = "description " ++ quoted := by
      rw [← String.append_assoc, ← String.append_assoc]
      rfl
    rw [jobLines, first]
  refine ⟨definitionLines?_systemd_eq_iff, ?_, fun _ => Text.unquote?_eq_some_iff, ?_⟩
  · rw [← job]
    exact definitionLines?_upstart_eq_iff
  · intro description other
    refine ⟨fun fits otherFits => ?_, fun fits otherFits => ?_⟩
    · rw [definitionLines?_systemd_eq_iff.mpr fits, definitionLines?_systemd_eq_iff.mpr otherFits]
      rfl
    · rw [definitionLines?_upstart_eq_iff.mpr fits, definitionLines?_upstart_eq_iff.mpr otherFits]
      rfl

/-- Blanks of all kinds in the command line are no harm, and neither is a backslash in the description, to
a reader who knows no escapes. -/
theorem blank_parts_read_as_template :
    let spec : ServiceSpec :=
      { name := "agent", description := "agent", executable := "/opt/my agent", args := ["", "a\rb"] }
    let other := { spec with description := "a \\ b" }
    spec.FitsUnit ∧ other.FitsUnit ∧
      other.definitionLines? .systemd =
        (spec.definitionLines? .systemd).map (·.set 1 ("Description=" ++ "a \\ b")) ∧
      other.definitionLines? .upstart =
        some ["description \"a \\ b\"", "start on runlevel [2345]", "stop on runlevel [!2345]", "respawn",
          "", "exec \"/opt/my agent\"  \"a\rb\""] ∧
      Text.unquote? false "\"a \\ b\"" = some "a \\ b" := by
  intro spec other
  have fits : spec.FitsUnit := by decide
  have otherFits : other.FitsUnit := by decide
  obtain ⟨-, job, word, -⟩ := definition_reads_as_template_iff other
  obtain ⟨-, -, -, differ⟩ := definition_reads_as_template_iff spec
  have first : "description " ++ ("\"" ++ other.description ++ "\"") = "description \"a \\ b\"" := by decide
  have last : "exec " ++ other.commandLine = "exec \"/opt/my agent\"  \"a\rb\"" := by decide
  have lines := job.mpr otherFits.1
  rw [first, last] at lines
  exact ⟨fits, otherFits, (differ _).1 fits otherFits, lines, (word false).mpr (by decide)⟩

/-- A description that is accepted puts a command of its own into the unit, and one with quotes reads back
as something else. -/
theorem description_adds_directive :
    let agent : ServiceSpec := { name := "agent", description := "agent", executable := "/bin/agent" }
    let other := { agent with description := "agent\nExecStartPre=/bin/false" }
    let quoting := { agent with description := "the \"fast\" agent" }
    agent.defect? = none ∧ other.defect? = none ∧ quoting.defect? = none ∧
      other.definitionLines? .systemd =
        some ["[Unit]", "Description=agent", "ExecStartPre=/bin/false", "After=network-online.target", "",
          "[Service]", "ExecStart=/bin/agent", "Restart=on-failure", "", "[Install]",
          "WantedBy=multi-user.target"] ∧
      ∀ escapes,
        Text.unquote? escapes ("\"" ++ quoting.description ++ "\"") ≠ some quoting.description := by
  decide +kernel

end ServiceSpec

end ChangeFeed
