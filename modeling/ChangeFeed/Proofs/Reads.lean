/-
# What a read can come to

A read goes by a cursor, the one that is open or one that it opens, and by a committed position, which the
first cursor of all fixes. It then takes entries until its batch is full, the cursor has caught up or the
source fails. `Reads` lists all that this can come to, with the entries that the source gave on the way.
What is said of a read goes through that list, and never back to the loop.
-/

import ChangeFeed.Reader

namespace ChangeFeed

namespace Batch

/-- The batch of these entries. -/
def ofEntries (entries : List Entry) : Batch :=
  ⟨entries.map Entry.change, entries.getLast?.map Entry.position⟩

theorem push_ofEntries (entries : List Entry) (entry : Entry) :
    (ofEntries entries).push entry = ofEntries (entries ++ [entry]) := by
  simp [ofEntries, push]

theorem length_changes_ofEntries (entries : List Entry) :
    (ofEntries entries).changes.length = entries.length :=
  List.length_map Entry.change

end Batch

variable {σ κ : Type} [Source σ κ]

/-- A cursor gives these entries, one after the other. -/
inductive Source.Gives : κ → σ → List Entry → κ → σ → Prop where
  | nothing (cursor : κ) (source : σ) : Gives cursor source [] cursor source
  | entry {cursor later last : κ} {source after left : σ} {entry : Entry} {given : List Entry}
    (read : Source.nextEntry cursor source = (.ok (some entry), later, after))
    (rest : Gives later after given last left) : Gives cursor source (entry :: given) last left

namespace Reader

/-! ## Filling a batch -/

/-- The entries that have not been handed over before. -/
def unhanded (committed : Option Position) (entries : List Entry) : List Entry :=
  entries.filter fun entry => !isHandedOver committed entry

/-- Where a position is committed, they are the entries beyond it. -/
theorem unhanded_some (committed : Position) (entries : List Entry) :
    unhanded (some committed) entries = entries.filter fun entry => committed < entry.position := by
  refine List.filter_congr fun entry _ => ?_
  rw [isHandedOver, ← decide_not, decide_eq_decide, Nat.not_le]

/-- **A batch is filled with the entries given that are not handed over**, and not beyond its limit,
unless the source fails on the way. The induction is on the entries read, and `taken` are those in the
batch so far. -/
theorem fill_gives (committed : Option Position) {limit : Nat} {taken : List Entry}
    (room : taken.length ≤ limit) (cursor : κ) (source : σ) :
    ∃ given last left, Source.Gives cursor source given last left ∧
      ((∃ fault later after, Source.nextEntry last left = (.error fault, later, after) ∧
          fill committed limit (.ofEntries taken) cursor source = (.error fault, later, after)) ∨
        (taken ++ unhanded committed given).length ≤ limit ∧
          ∃ later after, fill committed limit (.ofEntries taken) cursor source =
            (.ok (.ofEntries (taken ++ unhanded committed given)), later, after)) := by
  have nothing : taken ++ unhanded committed [] = taken := List.append_nil taken
  generalize begun : Batch.ofEntries taken = batch
  fun_induction fill committed limit batch cursor source generalizing taken with
  | case1 batch cursor source short fault later after read =>
    exact ⟨[], cursor, source, .nothing cursor source, Or.inl ⟨fault, later, after, read, rfl⟩⟩
  | case2 batch cursor source short later after read =>
    refine ⟨[], cursor, source, .nothing cursor source, Or.inr ?_⟩
    rw [nothing, begun]
    exact ⟨room, later, after, rfl⟩
  | case3 batch cursor source short entry later after read fewer handed ih =>
    obtain ⟨given, last, left, gives, came⟩ := ih room nothing begun
    have skipped : unhanded committed (entry :: given) = unhanded committed given := by
      simp [unhanded, handed]
    refine ⟨entry :: given, last, left, .entry read gives, ?_⟩
    rwa [skipped]
  | case4 batch cursor source short entry later after read fewer fresh ih =>
    have grown : Batch.ofEntries (taken ++ [entry]) = batch.push entry := by
      rw [← begun, Batch.push_ofEntries]
    have fits : (taken ++ [entry]).length ≤ limit := by
      rw [← begun, Batch.length_changes_ofEntries] at short
      simpa using Nat.succ_le_of_lt short
    obtain ⟨given, last, left, gives, came⟩ := ih fits (List.append_nil _) grown
    have kept : unhanded committed (entry :: given) = entry :: unhanded committed given := by
      simp [unhanded, fresh]
    refine ⟨entry :: given, last, left, .entry read gives, ?_⟩
    rwa [kept, List.append_cons]
  | case5 batch cursor source full =>
    refine ⟨[], cursor, source, .nothing cursor source, Or.inr ?_⟩
    rw [nothing, begun]
    exact ⟨room, cursor, source, rfl⟩

/-! ## Whole reads -/

/-- What a read begins with: a cursor, the source as it is then, and the committed position that the
read goes by. -/
inductive Begins (reader : Reader σ κ) : κ → σ → Option Position → Prop where
  | present {cursor : κ} (present : reader.cursor = some cursor) :
    Begins reader cursor reader.source reader.committed
  | opened {cursor : κ} {source : σ} (closed : reader.cursor = none)
    (asked : Source.openCursor reader.committed reader.source = (.ok cursor, source)) :
    Begins reader cursor source (some (reader.committed.getD (Source.resumePoint σ cursor)))

/-- All that a read can come to: no cursor can be opened, the source fails on the way, or there is a
batch. -/
inductive Reads (reader : Reader σ κ) : Except ReadError Batch × Reader σ κ → Prop where
  | refused {fault : Fault} {source : σ} (closed : reader.cursor = none)
    (asked : Source.openCursor reader.committed reader.source = (.error fault, source)) :
    Reads reader (.error (.ofFault fault), { reader with source })
  | broken {cursor last later : κ} {source left after : σ} {start : Option Position}
    {given : List Entry} {fault : Fault} (begins : reader.Begins cursor source start)
    (gives : Source.Gives cursor source given last left)
    (failed : Source.nextEntry last left = (.error fault, later, after)) :
    Reads reader
      (.error (.ofFault fault), { reader with source := after, cursor := none, committed := start })
  | brought {cursor last later : κ} {source left after : σ} {start : Option Position}
    {given : List Entry} (begins : reader.Begins cursor source start)
    (gives : Source.Gives cursor source given last left)
    (fits : (unhanded start given).length ≤ reader.batchLimit) :
    Reads reader (.ok (.ofEntries (unhanded start given)),
      { reader with source := after, cursor := some later, committed := start })

variable {reader : Reader σ κ} {cursor : κ} {source : σ} {start : Option Position}

/-- A reader whose cursor is in place fills a batch. -/
theorem Begins.reads (begins : reader.Begins cursor source start)
    (opens : reader.openCursor =
      (.ok cursor, { reader with source, cursor := some cursor, committed := start })) :
    reader.Reads reader.next := by
  have room : ([] : List Entry).length ≤ reader.batchLimit := Nat.zero_le _
  obtain ⟨given, last, left, gives,
      ⟨fault, later, after, failed, filled⟩ | ⟨fits, later, after, filled⟩⟩ :=
    fill_gives start room cursor source
  · have broken : fill start reader.batchLimit {} cursor source = (.error fault, later, after) := filled
    have read : reader.next = (.error (.ofFault fault),
        { reader with source := after, cursor := none, committed := start }) := by
      rw [next, opens]
      simp only [broken]
    rw [read]
    exact .broken begins gives failed
  · have whole : fill start reader.batchLimit {} cursor source =
        (.ok (.ofEntries (unhanded start given)), later, after) := filled
    have read : reader.next = (.ok (.ofEntries (unhanded start given)),
        { reader with source := after, cursor := some later, committed := start }) := by
      rw [next, opens]
      simp only [whole]
    rw [read]
    exact .brought begins gives fits

/-- **Every read comes to one of these.** -/
theorem reads_next (reader : Reader σ κ) : reader.Reads reader.next := by
  cases present : reader.cursor with
  | some cursor =>
    refine (Begins.present present).reads ?_
    simp only [openCursor, present]
    rw [← present]
  | none =>
    rcases asked : Source.openCursor reader.committed reader.source with ⟨fault | cursor, source⟩
    · have read : reader.next = (.error (.ofFault fault), { reader with source }) := by
        simp only [next, openCursor, present, asked]
      rw [read]
      exact .refused present asked
    · refine (Begins.opened present asked).reads ?_
      simp only [openCursor, present, asked]

/-- A read starts at the committed position, if there is one. -/
theorem Begins.start_eq (begins : reader.Begins cursor source start) {committed : Position}
    (held : reader.committed = some committed) : start = some committed := by
  cases begins with
  | present => exact held
  | opened => rw [held, Option.getD_some]

/-- A read leaves a committed position where it is. -/
theorem committed_next {position : Position} (held : reader.committed = some position) :
    reader.next.2.committed = some position := by
  have reads := reader.reads_next
  generalize reader.next = outcome at reads ⊢
  cases reads with
  | refused => exact held
  | broken begins | brought begins => exact begins.start_eq held

theorem batchLimit_next (reader : Reader σ κ) : reader.next.2.batchLimit = reader.batchLimit := by
  have reads := reader.reads_next
  generalize reader.next = outcome at reads ⊢
  cases reads with
  | refused | broken | brought => rfl

/-- A read brings no more than a batch may hold. -/
theorem length_next_le {batch : Batch} (read : reader.next.1 = .ok batch) :
    batch.changes.length ≤ reader.batchLimit := by
  have reads := reader.reads_next
  generalize reader.next = outcome at reads read
  cases reads with
  | refused | broken => cases read
  | brought begins gives fits =>
    cases read
    rwa [Batch.length_changes_ofEntries]

end Reader

end ChangeFeed
