/-
# What a command line is read back as

Whoever is handed a command line parts it at the blanks outside quotes and takes the quotes away. A part
that holds a blank is therefore put between quotes, and is read back as it was. Two kinds of parts are not.
Between the words of a text there is no empty one, so an empty part is lost unless every single blank
counts. And a quote inside a part is taken for one that encloses, whoever reads.
-/

import ChangeFeed.Service.Spec
import Mathlib.Data.List.Basic

namespace ChangeFeed

namespace Text

/-! ## Words between blanks outside quotes -/

/-- The pieces between the blanks of a text that stand outside quotes, each with its quotes. `quoted` says
whether the text begins inside quotes. -/
def piecesFrom (quoted : Bool) : List Char → List (List Char)
  | [] => [[]]
  | c :: rest =>
    if isBlank c && !quoted then [] :: piecesFrom false rest
    else (piecesFrom (quoted != (c == '"')) rest).modifyHead (c :: ·)

/-- The characters of a piece but its quotes. -/
def unquoted (piece : List Char) : List Char :=
  piece.filter (· ≠ '"')

/-- The words of a text, without quotes, as blanks outside quotes part them. Where `each` blank parts two
words there is an empty one between two blanks; otherwise blanks in a row part like one. -/
def wordsOutsideQuotes (each : Bool) (text : String) : List String :=
  ((piecesFrom false text.toList).filter fun piece => each || !piece.isEmpty).map fun piece =>
    String.ofList (unquoted piece)

/-- A text that stands in one piece, whatever follows it. -/
def IsPiece (text : List Char) : Prop :=
  ∀ rest, piecesFrom false (text ++ rest) = (piecesFrom false rest).modifyHead (text ++ ·)

variable {quoted : Bool} {text : List Char} {texts : List (List Char)}

/-- A text without quotes goes into the piece that follows, if that is inside quotes or it holds no blank. -/
theorem piecesFrom_append (plain : '"' ∉ text) (kept : quoted = true ∨ ∀ c ∈ text, isBlank c = false)
    (rest : List Char) :
    piecesFrom quoted (text ++ rest) = (piecesFrom quoted rest).modifyHead (text ++ ·) := by
  induction text with
  | nil =>
    show _ = (piecesFrom quoted rest).modifyHead id
    rw [List.modifyHead_id]
    rfl
  | cons c text ih =>
    have other : (c == '"') = false := beq_false_of_ne (Ne.symm (List.ne_of_not_mem_cons plain))
    have stays : (isBlank c && !quoted) = false := by
      rcases kept with rfl | unblank
      · exact Bool.and_false _
      · rw [unblank c List.mem_cons_self, Bool.false_and]
    have later := ih (List.not_mem_of_not_mem_cons plain)
      (kept.imp_right fun unblank d listed => unblank d (List.mem_cons_of_mem c listed))
    rw [List.cons_append, piecesFrom, stays, other, Bool.bne_false, later]
    exact List.modifyHead_modifyHead

theorem isPiece_of_unblank (plain : '"' ∉ text) (unblank : ∀ c ∈ text, isBlank c = false) : IsPiece text :=
  piecesFrom_append plain (Or.inr unblank)

/-- Between quotes there may be blanks. -/
theorem isPiece_quoted (plain : '"' ∉ text) : IsPiece ('"' :: (text ++ ['"'])) := by
  intro rest
  have opening (text : List Char) :
      piecesFrom false ('"' :: text) = (piecesFrom true text).modifyHead ('"' :: ·) := rfl
  have closing (text : List Char) :
      piecesFrom true ('"' :: text) = (piecesFrom false text).modifyHead ('"' :: ·) := rfl
  rw [List.cons_append, List.append_assoc, opening, piecesFrom_append plain (Or.inl rfl),
    List.singleton_append, closing, List.modifyHead_modifyHead, List.modifyHead_modifyHead]
  simp [Function.comp_def]

/-- **Pieces that are joined with spaces are parted again.** -/
theorem piecesFrom_intercalate (some_text : texts ≠ []) (pieces : ∀ text ∈ texts, IsPiece text) :
    piecesFrom false ([' '].intercalate texts) = texts := by
  induction texts with
  | nil => exact absurd rfl some_text
  | cons first rest ih =>
    obtain ⟨now, later⟩ := List.forall_mem_cons.mp pieces
    cases rest with
    | nil =>
      have alone := now []
      rw [List.append_nil] at alone
      rw [List.intercalate_singleton, alone]
      simp [piecesFrom]
    | cons second rest =>
      have parted (text : List Char) : piecesFrom false (' ' :: text) = [] :: piecesFrom false text := rfl
      rw [List.intercalate_cons_cons, List.append_assoc, List.singleton_append, now, parted,
        ih (List.cons_ne_nil _ _) later]
      simp

/-- No word that is read holds a quote. -/
theorem quote_not_mem_of_mem_wordsOutsideQuotes {each : Bool} {line word : String}
    (listed : word ∈ wordsOutsideQuotes each line) : '"' ∉ word.toList := by
  obtain ⟨piece, -, rfl⟩ := List.mem_map.mp listed
  simp [unquoted]

end Text

namespace ServiceSpec

variable {spec other : ServiceSpec} {part : String} {each : Bool}

/-! ## Parts that are read back -/

/-- What the command line is made of. -/
def parts (spec : ServiceSpec) : List String :=
  spec.executable :: spec.args

/-- No part of the command line has a quote of its own. -/
def IsUnquoted (spec : ServiceSpec) : Prop :=
  ∀ part ∈ spec.parts, '"' ∉ part.toList

instance (spec : ServiceSpec) : Decidable spec.IsUnquoted :=
  inferInstanceAs (Decidable (∀ part ∈ spec.parts, _))

theorem isPiece_quotePart (plain : '"' ∉ part.toList) : Text.IsPiece (quotePart part).toList := by
  unfold quotePart
  split
  · have chars : ("\"" ++ part ++ "\"").toList = '"' :: (part.toList ++ ['"']) := by simp
    rw [chars]
    exact Text.isPiece_quoted plain
  · next unblank =>
    exact Text.isPiece_of_unblank plain fun c listed =>
      Bool.eq_false_iff.mpr fun blank => unblank (List.any_eq_true.mpr ⟨c, listed, blank⟩)

/-- A part is itself again without the quotes that it was given. -/
theorem unquoted_quotePart (plain : '"' ∉ part.toList) :
    Text.unquoted (quotePart part).toList = part.toList := by
  have kept : part.toList.filter (· ≠ '"') = part.toList :=
    List.filter_eq_self.mpr fun c listed => decide_eq_true fun quote => plain (quote ▸ listed)
  unfold quotePart
  split
  · rw [String.toList_append, String.toList_append, Text.unquoted, List.filter_append, List.filter_append,
      kept]
    exact List.append_nil _
  · exact kept

/-- Only an empty part is written as nothing. -/
theorem quotePart_eq_empty_iff : (quotePart part).toList = [] ↔ part = "" := by
  unfold quotePart
  split
  · next blank =>
    constructor
    · simp
    · rintro rfl
      cases blank
  · exact String.toList_eq_nil_iff

/-- **Parts without quotes are read back**, all of them where each blank counts, and all but the empty ones
otherwise. -/
theorem IsUnquoted.words_eq (plain : spec.IsUnquoted) (each : Bool) :
    Text.wordsOutsideQuotes each spec.commandLine = spec.parts.filter (each || · ≠ "") := by
  let written (part : String) : List Char := (quotePart part).toList
  have line : spec.commandLine.toList = [' '].intercalate (spec.parts.map written) := by
    rw [commandLine, String.toList_intercalate, List.map_map]
    rfl
  have pieces : ∀ text ∈ spec.parts.map written, Text.IsPiece text := by
    intro text listed
    obtain ⟨part, member, rfl⟩ := List.mem_map.mp listed
    exact isPiece_quotePart (plain part member)
  have filled (part : String) : (!(written part).isEmpty) = decide (part ≠ "") := by
    rw [decide_not, Bool.not_inj_iff, Bool.eq_iff_iff, List.isEmpty_iff, decide_eq_true_iff]
    exact quotePart_eq_empty_iff
  calc Text.wordsOutsideQuotes each spec.commandLine
      = ((spec.parts.map written).filter fun piece => each || !piece.isEmpty).map fun piece =>
          String.ofList (Text.unquoted piece) := by
        rw [Text.wordsOutsideQuotes, line, Text.piecesFrom_intercalate (by simp [parts]) pieces]
    _ = (spec.parts.filter fun part => each || !(written part).isEmpty).map fun part =>
          String.ofList (Text.unquoted (written part)) := by
        rw [List.filter_map, List.map_map]
        rfl
    _ = (spec.parts.filter (each || · ≠ "")).map id := by
        simp only [filled]
        refine List.map_congr_left fun part listed => ?_
        rw [unquoted_quotePart (plain part (List.mem_of_mem_filter listed)), String.ofList_toList]
        rfl
    _ = spec.parts.filter (each || · ≠ "") := List.map_id _

/-- Parts that are read back have no quotes. -/
theorem isUnquoted_of_words_eq (same : Text.wordsOutsideQuotes each spec.commandLine = spec.parts) :
    spec.IsUnquoted := fun _ listed =>
  Text.quote_not_mem_of_mem_wordsOutsideQuotes (same.symm ▸ listed)

/-- **Where blanks in a row part like one**, parts are read back exactly if none has a quote and none is
empty. -/
theorem words_eq_parts_iff : Text.wordsOutsideQuotes false spec.commandLine = spec.parts ↔
    spec.IsUnquoted ∧ "" ∉ spec.parts := by
  constructor
  · intro same
    have plain := isUnquoted_of_words_eq same
    rw [plain.words_eq] at same
    exact ⟨plain, fun listed => by simpa using List.filter_eq_self.mp same "" listed⟩
  · rintro ⟨plain, filled⟩
    rw [plain.words_eq]
    exact List.filter_eq_self.mpr fun _ listed => decide_eq_true fun empty => filled (empty ▸ listed)

/-- **Where each blank counts**, they are read back exactly if none has a quote. -/
theorem eachWord_eq_parts_iff :
    Text.wordsOutsideQuotes true spec.commandLine = spec.parts ↔ spec.IsUnquoted := by
  refine ⟨isUnquoted_of_words_eq, fun plain => ?_⟩
  rw [plain.words_eq]
  exact List.filter_eq_self.mpr fun _ _ => rfl

/-- **Without quotes in them, different parts make different command lines.** -/
theorem IsUnquoted.parts_eq (plain : spec.IsUnquoted) (otherPlain : other.IsUnquoted)
    (same : spec.commandLine = other.commandLine) : spec.parts = other.parts := by
  rw [← eachWord_eq_parts_iff.mpr plain, ← eachWord_eq_parts_iff.mpr otherPlain, same]

/-- **A command line is read back exactly if none of its parts is empty or has a quote.** Read at the blanks
outside quotes, and without the quotes, it gives the executable and the arguments, in order. A reader for
whom each single blank counts gets the empty ones too, but none that has a quote. Without quotes in them,
different executables or arguments make different command lines. -/
theorem command_line_read_back_iff (spec : ServiceSpec) :
    let parts := spec.executable :: spec.args
    (Text.wordsOutsideQuotes false spec.commandLine = parts ↔
        ∀ part ∈ parts, part ≠ "" ∧ '"' ∉ part.toList) ∧
      (Text.wordsOutsideQuotes true spec.commandLine = parts ↔ ∀ part ∈ parts, '"' ∉ part.toList) ∧
      ∀ other : ServiceSpec, spec.IsUnquoted → other.IsUnquoted →
        (spec.commandLine = other.commandLine ↔ parts = other.executable :: other.args) := by
  intro parts
  refine ⟨words_eq_parts_iff.trans ?_, eachWord_eq_parts_iff, fun other plain otherPlain => ⟨?_, ?_⟩⟩
  · constructor
    · rintro ⟨plain, filled⟩ part listed
      exact ⟨fun empty => filled (empty ▸ listed), plain part listed⟩
    · intro good
      exact ⟨fun part listed => (good part listed).2, fun listed => (good "" listed).1 rfl⟩
  · exact plain.parts_eq otherPlain
  · intro same
    unfold commandLine
    rw [show spec.executable :: spec.args = other.executable :: other.args from same]

/-- Blanks of all kinds are read back, also where they stand at the ends of parts, and where words end does
not get lost. -/
theorem blank_parts_read_back :
    let spec : ServiceSpec :=
      { name := "agent", description := "agent", executable := "/opt/my agent"
        args := [" ", "a\tb", "c\u00a0", "d"] }
    let other := { spec with args := [" ", "a\tb", "c\u00a0 d"] }
    spec.IsUnquoted ∧ other.IsUnquoted ∧
      Text.wordsOutsideQuotes false spec.commandLine = ["/opt/my agent", " ", "a\tb", "c\u00a0", "d"] ∧
      spec.commandLine ≠ other.commandLine := by
  intro spec other
  have plain : spec.IsUnquoted := by decide
  have otherPlain : other.IsUnquoted := by decide
  obtain ⟨words, -, same⟩ := command_line_read_back_iff spec
  refine ⟨plain, otherPlain, words.mpr (by decide), fun equal => ?_⟩
  exact absurd ((same other plain otherPlain).mp equal) (by decide)

/-- An empty argument is lost, and two arguments with quotes pass for one with a space, to whoever reads. -/
theorem empty_and_quoting_parts_not_read_back :
    let agent : ServiceSpec := { name := "agent", description := "agent", executable := "/bin/agent" }
    let empty := { agent with args := ["", "-v"] }
    let quoting := { agent with args := ["\"x", "y\""] }
    let spaced := { agent with args := ["x y"] }
    empty.defect? = none ∧ quoting.defect? = none ∧ spaced.defect? = none ∧
      Text.wordsOutsideQuotes false empty.commandLine = ["/bin/agent", "-v"] ∧
      quoting.commandLine = spaced.commandLine ∧
      ∀ each, Text.wordsOutsideQuotes each quoting.commandLine = ["/bin/agent", "x y"] := by
  decide +kernel

end ServiceSpec

end ChangeFeed
