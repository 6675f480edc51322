/-
# What a failed request leaves of a reader's place

A reader keeps its place in two parts, the committed position and the cursor that it reads with, and five
kinds of requests share them. A request can fail on its way: when a cursor is to be opened, in the middle
of a batch, or when a snapshot is taken. Whatever the source does, the committed position is then what it
was, and a failed read or fresh start leaves no cursor, so that the next read begins behind the committed
position once more. Only the first cursor of all moves the committed position on the way: it fixes it
before anything is read.
-/

import ChangeFeed.Proofs.Reads
import ChangeFeed.Proofs.Run
import ChangeFeed.Script
import Mathlib.Data.List.Basic

namespace ChangeFeed

namespace Reader

variable {σ κ : Type} {reader : Reader σ κ}

/-! ## Committed positions -/

theorem committed_le_refl (committed : Option Position) : committed ≤ committed := by
  cases committed <;> simp

/-- Positions are compared as they are, and having none is less than having any. -/
theorem committed_le_trans {first second third : Option Position} (earlier : first ≤ second)
    (later : second ≤ third) : first ≤ third := by
  cases first with
  | none => exact Option.none_le
  | some position =>
    cases second with
    | none => cases earlier
    | some middle =>
      cases third with
      | none => cases later
      | some last => exact Option.some_le_some.mpr (Nat.le_trans earlier later)

/-- Committing takes the greater of two positions. -/
theorem committed_commit (reader : Reader σ κ) (position : Position) :
    (reader.commit position).committed = max reader.committed (some position) := by
  unfold commit
  split
  · next none => rw [none]; rfl
  · next held => rw [held]; rfl

theorem committed_le_commit (reader : Reader σ κ) (position : Position) :
    reader.committed ≤ (reader.commit position).committed := by
  rw [committed_commit]
  cases reader.committed with
  | none => exact Option.none_le
  | some committed => exact Option.some_le_some.mpr (Nat.le_max_left committed position)

/-- A reader with a cursor has a committed position. -/
def IsAnchored (reader : Reader σ κ) : Prop :=
  ∀ cursor, reader.cursor = some cursor → ∃ position, reader.committed = some position

theorem isAnchored_of_closed (closed : reader.cursor = none) : reader.IsAnchored := by
  intro cursor present
  rw [closed] at present
  cases present

theorem isAnchored_commit (reader : Reader σ κ) (position : Position) :
    (reader.commit position).IsAnchored := by
  intro _ _
  unfold commit
  split <;> exact ⟨_, rfl⟩

variable [Source σ κ] {cursor : κ} {source : σ} {start : Option Position}

/-! ## What a read leaves -/

/-- The first cursor of all is opened, and its resume point becomes the committed position. -/
def IsFirstOpening (reader after : Reader σ κ) : Prop :=
  reader.cursor = none ∧ reader.committed = none ∧ ∃ cursor source,
    Source.openCursor none reader.source = (.ok cursor, source) ∧
      after.committed = some (Source.resumePoint σ cursor)

/-- The next read, whatever the source has become by then, begins with the opening of a cursor after the
committed position: it fails if that fails, and is the read with that cursor otherwise. -/
def Reopens (reader : Reader σ κ) : Prop :=
  ∀ source : σ,
    let waiting : Reader σ κ := { reader with source }
    match Source.openCursor reader.committed source with
    | (.error fault, left) => waiting.next = (.error (.ofFault fault), { waiting with source := left })
    | (.ok cursor, left) =>
      let start := reader.committed.getD (Source.resumePoint σ cursor)
      waiting.next =
        { waiting with source := left, cursor := some cursor, committed := some start }.next

/-- The entries that a read takes: of those that it is given, the ones beyond its start. -/
def Takes (reader : Reader σ κ) (taken : List Entry) : Prop :=
  ∃ cursor source start given last left, reader.Begins cursor source (some start) ∧
    Source.Gives cursor source given last left ∧
    taken = given.filter fun entry => start < entry.position

theorem Begins.start_cases (begins : reader.Begins cursor source start) :
    start = reader.committed ∨
      ∀ after : Reader σ κ, after.committed = start → reader.IsFirstOpening after := by
  cases begins with
  | present => exact Or.inl rfl
  | opened closed asked =>
    cases held : reader.committed with
    | some committed => exact Or.inl (by rw [Option.getD_some])
    | none =>
      rw [held] at asked
      exact Or.inr fun after fixed => ⟨closed, held, cursor, source, asked, fixed⟩

theorem Begins.exists_start (begins : reader.Begins cursor source start)
    (anchored : reader.IsAnchored) : ∃ position, start = some position := by
  cases begins with
  | present present => exact anchored cursor present
  | opened => exact ⟨_, rfl⟩

/-- **A read leaves the committed position as it was**, unless it opens the first cursor of all. -/
theorem committed_next_cases (reader : Reader σ κ) :
    reader.next.2.committed = reader.committed ∨ reader.IsFirstOpening reader.next.2 := by
  have reads := reader.reads_next
  generalize reader.next = outcome at reads ⊢
  cases reads with
  | refused => exact Or.inl rfl
  | broken begins | brought begins => exact begins.start_cases.imp_right fun first => first _ rfl

theorem committed_le_next (reader : Reader σ κ) : reader.committed ≤ reader.next.2.committed := by
  rcases reader.committed_next_cases with same | ⟨-, none, -⟩
  · rw [same]
    exact committed_le_refl _
  · rw [none]
    exact Option.none_le

theorem cursor_next_of_error {error : ReadError} (failed : reader.next.1 = .error error) :
    reader.next.2.cursor = none := by
  have reads := reader.reads_next
  generalize reader.next = outcome at reads failed ⊢
  cases reads with
  | refused closed => exact closed
  | broken => rfl
  | brought => cases failed

theorem isAnchored_next (anchored : reader.IsAnchored) : reader.next.2.IsAnchored := by
  have reads := reader.reads_next
  generalize reader.next = outcome at reads ⊢
  cases reads with
  | refused closed => exact isAnchored_of_closed closed
  | broken => exact isAnchored_of_closed rfl
  | brought begins => exact fun _ _ => begins.exists_start anchored

/-- **A batch holds what the read takes**, nothing of it at or below the committed position. -/
theorem exists_takes_of_next (anchored : reader.IsAnchored) {batch : Batch}
    (read : reader.next.1 = .ok batch) :
    ∃ taken, reader.Takes taken ∧ batch = .ofEntries taken ∧
      ∀ entry ∈ taken, reader.committed < some entry.position := by
  have reads := reader.reads_next
  generalize reader.next = outcome at reads read
  cases reads with
  | refused | broken => cases read
  | brought begins gives =>
    cases read
    obtain ⟨start, rfl⟩ := begins.exists_start anchored
    rw [unhanded_some]
    refine ⟨_, ⟨_, _, start, _, _, _, begins, gives, rfl⟩, rfl, fun entry taken => ?_⟩
    have beyond : start < entry.position := of_decide_eq_true (List.mem_filter.mp taken).2
    cases held : reader.committed with
    | none => exact Option.none_lt_some
    | some committed =>
      obtain rfl : start = committed := Option.some.inj (begins.start_eq held)
      exact Option.some_lt_some.mpr beyond

/-- A reader without a cursor opens one before it reads on. -/
theorem reopens_of_closed (closed : reader.cursor = none) : reader.Reopens := by
  intro source waiting
  split
  · next asked => simp only [waiting, next, openCursor, closed, asked]
  · next asked => simp only [waiting, next, openCursor, closed, asked]

/-! ## Fresh starts and priming -/

theorem cursor_reopenFresh (reader : Reader σ κ) : reader.reopenFresh.2.cursor = none := by
  unfold reopenFresh
  split <;> rfl

/-- A fresh start that fails leaves the committed position as it was. -/
theorem committed_reopenFresh_of_error {error : ReadError}
    (failed : reader.reopenFresh.1 = .error error) :
    reader.reopenFresh.2.committed = reader.committed := by
  unfold reopenFresh at failed ⊢
  split
  · rfl
  · next asked =>
    rw [asked] at failed
    cases failed

/-- Priming that brings no snapshot leaves the reader as it was. -/
theorem prime_of_no_snapshot (nothing : ∀ snapshot, reader.prime.1 ≠ .ok (some snapshot)) :
    reader.prime.2 = { reader with source := (Source.takeSnapshot reader.source).2 } := by
  unfold prime at nothing ⊢
  split
  · next asked => rw [asked]
  · next asked => rw [asked]
  · next snapshot after asked =>
    rw [asked] at nothing
    exact absurd rfl (nothing snapshot)

theorem isAnchored_prime (anchored : reader.IsAnchored) : reader.prime.2.IsAnchored := by
  unfold prime
  split
  · exact anchored
  · exact anchored
  · exact isAnchored_of_closed rfl

/-! ## Requests in any order -/

/-- What can be asked of a reader. -/
inductive Request where
  | next
  | commit (position : Position)
  | reset
  | reopenFresh
  | prime
  deriving DecidableEq, Repr

/-- The error that an outcome is, if it is one. -/
def errorOf? {α : Type} : Except ReadError α → Option ReadError
  | .error error => some error
  | .ok _ => none

/-- The error that a request is answered with, if it fails. -/
def error? (reader : Reader σ κ) : Request → Option ReadError
  | .next => errorOf? reader.next.1
  | .commit _ | .reset => none
  | .reopenFresh => errorOf? reader.reopenFresh.1
  | .prime => errorOf? reader.prime.1

/-- The reader after a request. -/
def leftBy (reader : Reader σ κ) : Request → Reader σ κ
  | .next => reader.next.2
  | .commit position => reader.commit position
  | .reset => reader.resetCursor
  | .reopenFresh => reader.reopenFresh.2
  | .prime => reader.prime.2

/-- What happens to a reader: it is asked for something, or its source has become another. -/
inductive Happening (σ : Type) where
  | asked (request : Request)
  | becomes (source : σ)

def act (reader : Reader σ κ) : Happening σ → Reader σ κ
  | .asked request => reader.leftBy request
  | .becomes source => { reader with source }

/-- The reader after everything that has happened. -/
def run (reader : Reader σ κ) (happenings : List (Happening σ)) : Reader σ κ :=
  happenings.foldl act reader

/-- The reader gives its place up for that of a snapshot, or for the oldest entry held. -/
def StartsAnew (reader : Reader σ κ) : Happening σ → Prop
  | .asked .reopenFresh => ∃ snapshot, reader.reopenFresh.1 = .ok snapshot
  | .asked .prime => ∃ snapshot, reader.prime.1 = .ok (some snapshot)
  | _ => False

theorem eq_error_of_errorOf? {α : Type} {outcome : Except ReadError α} {error : ReadError}
    (failed : errorOf? outcome = some error) : outcome = .error error := by
  cases outcome with
  | error other => exact congrArg _ (Option.some.inj failed)
  | ok value => cases failed

theorem isAnchored_run (anchored : reader.IsAnchored) (happenings : List (Happening σ)) :
    (reader.run happenings).IsAnchored := by
  induction happenings generalizing reader with
  | nil => exact anchored
  | cons happening rest ih =>
    apply ih
    match happening with
    | .becomes _ => exact anchored
    | .asked .next => exact isAnchored_next anchored
    | .asked (.commit position) => exact isAnchored_commit reader position
    | .asked .reset => exact isAnchored_of_closed rfl
    | .asked .reopenFresh => exact isAnchored_of_closed reader.cursor_reopenFresh
    | .asked .prime => exact isAnchored_prime anchored

/-- **A request that fails leaves the committed position as it was**, unless it is the read that opens
the first cursor of all. -/
theorem committed_leftBy_of_error {request : Request} {error : ReadError}
    (failed : reader.error? request = some error) :
    (reader.leftBy request).committed = reader.committed ∨
      (request = .next ∧ reader.IsFirstOpening (reader.leftBy request)) := by
  match request with
  | .next => exact reader.committed_next_cases.imp_right fun first => ⟨rfl, first⟩
  | .commit _ | .reset => cases failed
  | .reopenFresh => exact Or.inl (committed_reopenFresh_of_error (eq_error_of_errorOf? failed))
  | .prime =>
    have nothing := eq_error_of_errorOf? failed
    refine Or.inl ?_
    rw [leftBy, prime_of_no_snapshot fun snapshot given => by rw [nothing] at given; cases given]

/-- A request that fails leaves no cursor, except for priming. -/
theorem cursor_leftBy_of_error {request : Request} {error : ReadError}
    (failed : reader.error? request = some error) (unprimed : request ≠ .prime) :
    (reader.leftBy request).cursor = none := by
  match request with
  | .next => exact cursor_next_of_error (eq_error_of_errorOf? failed)
  | .commit _ | .reset => cases failed
  | .reopenFresh => exact reader.cursor_reopenFresh
  | .prime => exact absurd rfl unprimed

/-- **The committed position does not go back unless reading starts anew.** -/
theorem committed_le_act {happening : Happening σ} (goesOn : ¬ reader.StartsAnew happening) :
    reader.committed ≤ (reader.act happening).committed := by
  match happening with
  | .becomes _ | .asked .reset => exact committed_le_refl _
  | .asked .next => exact reader.committed_le_next
  | .asked (.commit position) => exact reader.committed_le_commit position
  | .asked .reopenFresh =>
    cases outcome : reader.reopenFresh.1 with
    | error error =>
      rw [act, leftBy, committed_reopenFresh_of_error outcome]
      exact committed_le_refl _
    | ok snapshot => exact absurd ⟨snapshot, outcome⟩ goesOn
  | .asked .prime =>
    rw [act, leftBy, prime_of_no_snapshot fun snapshot given => goesOn ⟨snapshot, given⟩]
    exact committed_le_refl _

theorem committed_le_run {happenings : List (Happening σ)}
    (goesOn : Run.Allows act (fun reader happening => ¬ reader.StartsAnew happening) reader happenings) :
    reader.committed ≤ (reader.run happenings).committed :=
  Run.induction (fun later => reader.committed ≤ later.committed)
    (fun _ _ now earlier => committed_le_trans earlier (committed_le_act now)) goesOn
    (committed_le_refl _)

/-- **A request that fails keeps the reader's place.** Let anything be asked of a reader, in any order, of
a source that does anything. Then no read, commit or dropping of the cursor moves the committed position
back, a commit takes the greater of two positions, and while reading does not start anew no more requests
move it back either. A request that fails leaves it as it was, except that a read may fix it by the first
cursor of all, at that cursor's resume point. A read or fresh start that fails leaves no cursor, and the
next read opens one after the committed position. Priming that fails or brings no snapshot changes
nothing. And a batch holds the entries that the source gave beyond the start of the read, none of them at
or below the position that was committed when the read was asked for. -/
theorem failed_requests_keep_place (source : σ) (resume : Option Position) (maxBatch : Nat)
    (happenings : List (Happening σ)) :
    let reader : Reader σ κ := (ofSource source resume maxBatch).run happenings
    (reader.committed ≤ (reader.leftBy .next).committed ∧
        reader.committed = (reader.leftBy .reset).committed ∧
        (∀ position, reader.committed ≤ (reader.leftBy (.commit position)).committed ∧
          (reader.leftBy (.commit position)).committed = max reader.committed (some position)) ∧
        ∀ more, Run.Allows act (fun reader happening => ¬ reader.StartsAnew happening) reader more →
          reader.committed ≤ (reader.run more).committed) ∧
      (∀ request error, reader.error? request = some error →
        ((reader.leftBy request).committed = reader.committed ∨
            (request = .next ∧ reader.IsFirstOpening (reader.leftBy request))) ∧
          (request ≠ .prime →
            (reader.leftBy request).cursor = none ∧ (reader.leftBy request).Reopens)) ∧
      ((∀ snapshot, reader.prime.1 ≠ .ok (some snapshot)) →
        reader.leftBy .prime = { reader with source := (Source.takeSnapshot reader.source).2 }) ∧
      ∀ batch, reader.next.1 = .ok batch →
        ∃ taken, reader.Takes taken ∧ batch = .ofEntries taken ∧
          ∀ entry ∈ taken, reader.committed < some entry.position := by
  intro reader
  have anchored : reader.IsAnchored := isAnchored_run (isAnchored_of_closed rfl) happenings
  refine ⟨⟨reader.committed_le_next, rfl, fun position => ?_, fun more goesOn => ?_⟩,
    fun request error failed => ⟨committed_leftBy_of_error failed, fun unprimed => ?_⟩,
    prime_of_no_snapshot, fun batch read => exists_takes_of_next anchored read⟩
  · exact ⟨reader.committed_le_commit position, reader.committed_commit position⟩
  · exact committed_le_run goesOn
  · have closed := cursor_leftBy_of_error failed unprimed
    exact ⟨closed, reopens_of_closed closed⟩

/-- The source fails in the middle of the first batch, and then repeats an entry that lies at the
committed position and one that it had given before it failed. The next read brings what lies beyond,
a commit goes on from there, and priming without a snapshot leaves it so. -/
theorem broken_batch_read_again :
    let pear : Entry := ⟨5, .update ⟨"fruit", "pear"⟩ 1⟩
    let plum : Entry := ⟨6, .update ⟨"fruit", "plum"⟩ 1⟩
    let script : Script :=
      { opens := [.resumeAt 4]
        reads := [.entry pear, .fault (.transient "down"),
          .entry ⟨4, .update ⟨"fruit", "apple"⟩ 1⟩, .entry pear, .entry plum] }
    let first : Reader Script Script.Cursor := (ofSource script none 2).run []
    let second : Reader Script Script.Cursor := (ofSource script none 2).run [.asked .next]
    first.error? .next = some (.retryable "down") ∧ first.IsFirstOpening (first.leftBy .next) ∧
      (first.leftBy .next).cursor = none ∧ (first.leftBy .next).Reopens ∧
      second.next.1 = .ok (.ofEntries [pear, plum]) ∧ second.committed = some 4 ∧
      (∃ taken, second.Takes taken ∧ Batch.ofEntries [pear, plum] = .ofEntries taken ∧
        ∀ entry ∈ taken, some 4 < some entry.position) ∧
      some 4 ≤ (second.run [.asked .next, .asked (.commit 6)]).committed ∧
      second.leftBy .prime = { second with source := (Source.takeSnapshot second.source).2 } := by
  intro pear plum script first second
  have failed : first.error? .next = some (.retryable "down") := by decide +kernel
  have fixed : (first.leftBy .next).committed ≠ first.committed := by decide +kernel
  have read : second.next.1 = .ok (.ofEntries [pear, plum]) := by decide +kernel
  have held : second.committed = some 4 := by decide +kernel
  have unprimed : ∀ snapshot, second.prime.1 ≠ .ok (some snapshot) := by
    have nothing : second.prime.1 = .ok none := by decide +kernel
    intro snapshot given
    rw [nothing] at given
    cases given
  obtain ⟨-, fails, -, -⟩ := failed_requests_keep_place script none 2 []
  obtain ⟨⟨-, -, -, goesOn⟩, -, primes, brings⟩ :=
    failed_requests_keep_place script none 2 [.asked .next]
  obtain ⟨place, closes⟩ := fails .next _ failed
  obtain ⟨closed, reopens⟩ := closes (by decide)
  have still := goesOn [.asked .next, .asked (.commit 6)] ⟨id, id, trivial⟩
  rw [held] at still brings
  exact ⟨failed, (place.resolve_left fixed).2, closed, reopens, read, held, brings _ read, still,
    primes unprimed⟩

end Reader

end ChangeFeed
