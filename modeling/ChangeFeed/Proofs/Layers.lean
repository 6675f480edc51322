/-
# What a table says under another

A layer overrides the layers below it entry by entry. So a key is answered by the upper table laid over
the lower one's answer, and by the lower one alone where the upper is silent. Tables that say the same
kind of thing are laid over each other at every depth; whatever else the upper says stands as it is.

This holds of keys that are written as they are compared, in lower case, and that stand once. It can be said
without a merge at hand: followed from table to table, keys lead to what the upper value says there, and to
what the lower one says where the upper is silent. A way to merge layers that does this with each layer over
the ones before is a merge in this sense, and the one of settings is one.
-/

import ChangeFeed.Settings.Load

namespace ChangeFeed

namespace Value

/-- The keys are in lower case, and each stands once. -/
structure IsPlain (entries : List (String × Value)) : Prop where
  lowered : ∀ entry ∈ entries, Text.lowered entry.1 = entry.1
  nodup : (entries.map (·.1)).Nodup

variable {lower upper inner : List (String × Value)} {entry : String × Value} {name : String}

theorem lookup_eq_none_of_not_mem (absent : name ∉ upper.map (·.1)) : upper.lookup name = none := by
  apply List.lookup_eq_none_iff.mpr
  intro entry listed
  refine bne_iff_ne.mpr fun same => absent ?_
  rw [same]
  exact List.mem_map_of_mem listed

theorem mem_of_lookup_eq_some {value : Value} (found : upper.lookup name = some value) :
    (name, value) ∈ upper := by
  obtain ⟨before, after, rfl, -⟩ := List.lookup_eq_some_iff.mp found
  exact List.mem_append_right _ List.mem_cons_self

/-- **What a table says under another.** -/
theorem lookup_overlayEntries (plain : IsPlain upper) (lower : List (String × Value)) (name : String) :
    (overlayEntries lower upper).lookup name =
      match upper.lookup name with
      | none => lower.lookup name
      | some value => some (overlay (lower.lookup name) value) := by
  induction upper generalizing lower with
  | nil => rfl
  | cons entry rest ih =>
    obtain ⟨key, value⟩ := entry
    obtain ⟨once, nodup⟩ := List.nodup_cons.mp plain.nodup
    have later := ih ⟨fun entry listed => plain.lowered entry (List.mem_cons_of_mem _ listed), nodup⟩
      (overlayEntry lower (key, value))
    have lowered : Text.lowered key = key := plain.lowered (key, value) List.mem_cons_self
    have below : (overlayEntry lower (key, value)).lookup name =
        if name = key then some (overlay (lower.lookup key) value) else lower.lookup name := by
      rw [overlayEntry, lowered, lookup_setEntry]
    rw [overlayEntries, later, below, lookup_entry]
    by_cases here : name = key
    · subst here
      rw [if_pos rfl, if_pos rfl, lookup_eq_none_of_not_mem once]
    · rw [if_neg here, if_neg here]

/-! ## Keys on a way -/

/-- What keys lead to, from table to table. -/
def at? : List String → Value → Option Value
  | [], value => some value
  | key :: keys, value => (value.get? key).bind (at? keys)

/-- A value that is no table. -/
def IsLeaf (value : Value) : Prop :=
  ∀ entries, value ≠ table entries

/-- On the way along the keys, a table has no entry for the next one. -/
def IsSilent : List String → Value → Prop
  | [], _ => False
  | key :: keys, table entries => ∀ value ∈ entries.lookup key, IsSilent keys value
  | _, _ => False

/-- Every table that keys lead to is plain. -/
def IsPlainInside (value : Value) : Prop :=
  ∀ keys entries, value.at? keys = some (table entries) → IsPlain entries

/-- **What is laid over another value** says the same as the upper one, where that is no table, and the same
as the lower one where the upper one is silent. -/
structure IsLaid (lower upper result : Value) : Prop where
  overrides : ∀ keys value, upper.at? keys = some value → value.IsLeaf → result.at? keys = some value
  keeps : ∀ keys, upper.IsSilent keys → result.at? keys = lower.at? keys

variable {value part leaf : Value} {keys : List String} {key : String}

theorem at?_append (keys later : List String) (value : Value) :
    value.at? (keys ++ later) = (value.at? keys).bind (at? later) := by
  induction keys generalizing value with
  | nil => rfl
  | cons key keys ih =>
    show (value.get? key).bind (at? (keys ++ later)) = ((value.get? key).bind (at? keys)).bind (at? later)
    rw [Option.bind_assoc]
    exact congrArg _ (funext ih)

theorem IsSilent.at?_eq_none (silent : value.IsSilent keys) :
    value.at? keys = none := by
  induction keys generalizing value with
  | nil => exact silent.elim
  | cons key keys ih =>
    cases value with
    | table entries => exact Option.bind_eq_none_iff.mpr fun part found => ih (silent part found)
    | _ => exact silent.elim

theorem lookup_entriesOf (below : Option Value) (key : String) :
    (entriesOf below).lookup key = below.bind (·.get? key) := by
  cases below with
  | none => rfl
  | some value => cases value <;> rfl

theorem at?_key (key : String) : (table upper).at? [key] = upper.lookup key :=
  Option.bind_fun_some _

/-- A way into a table goes on in the entries of the value that stands there, if it goes on. -/
theorem at?_part (name key : String) (keys : List String) :
    (table upper).at? (name :: key :: keys) =
      (table (entriesOf (upper.lookup name))).at? (key :: keys) := by
  show ((upper.lookup name).bind fun value => (value.get? key).bind (at? keys)) =
    ((entriesOf (upper.lookup name)).lookup key).bind (at? keys)
  rw [lookup_entriesOf, Option.bind_assoc]

theorem IsPlainInside.isPlain (inside : (table upper).IsPlainInside) : IsPlain upper :=
  inside [] upper rfl

theorem IsPlainInside.of_get? (inside : value.IsPlainInside)
    (found : value.get? key = some part) : part.IsPlainInside := by
  intro keys entries leads
  apply inside (key :: keys) entries
  rw [at?, found, Option.bind_some, leads]

theorem IsLeaf.isPlainInside (leaf : value.IsLeaf) : value.IsPlainInside := by
  intro keys entries leads
  cases keys with
  | nil => exact absurd (Option.some.inj leads) (leaf entries)
  | cons key keys =>
    cases value with
    | table entries => exact absurd rfl (leaf entries)
    | _ => cases leads

theorem isPlainInside_table (plain : IsPlain upper) (inside : ∀ entry ∈ upper, entry.2.IsPlainInside) :
    (table upper).IsPlainInside := by
  intro keys entries leads
  cases keys with
  | nil =>
    cases leads
    exact plain
  | cons key keys =>
    obtain ⟨value, found, leads⟩ := Option.bind_eq_some_iff.mp leads
    exact inside (key, value) (mem_of_lookup_eq_some found) keys entries leads

/-- The empty table makes no difference to a table below it. -/
theorem IsLaid.trans_nil {lower middle result : Value} (laid : IsLaid lower (table upper) middle)
    (nothing : IsLaid middle (table []) result) : IsLaid lower (table upper) result where
  overrides keys value leads leaf := by
    cases keys with
    | nil => exact absurd (Option.some.inj leads).symm (leaf upper)
    | cons key keys =>
      rw [nothing.keeps (key :: keys) nofun]
      exact laid.overrides _ value leads leaf
  keeps keys silent := by
    cases keys with
    | nil => exact silent.elim
    | cons key keys =>
      rw [nothing.keeps (key :: keys) nofun]
      exact laid.keeps _ silent

/-! ## One value over another -/

theorem overlay_of_isLeaf (leaf : value.IsLeaf) (below : Option Value) : overlay below value = value := by
  cases value with
  | table entries => exact absurd rfl (leaf entries)
  | _ => rfl

/-- What a table says of a key, laid over another value or over none. -/
theorem get?_overlay_table (plain : IsPlain upper) (below : Option Value) (key : String) :
    (overlay below (table upper)).get? key =
      match upper.lookup key with
      | none => below.bind (·.get? key)
      | some value => some (overlay (below.bind (·.get? key)) value) := by
  cases upper with
  | nil => cases below <;> rfl
  | cons entry rest =>
    show (overlayEntries (entriesOf below) (entry :: rest)).lookup key = _
    rw [lookup_overlayEntries plain, lookup_entriesOf]

theorem at?_overlay_of_isLeaf (inside : value.IsPlainInside) (leads : value.at? keys = some leaf)
    (isLeaf : leaf.IsLeaf) (below : Option Value) : (overlay below value).at? keys = some leaf := by
  -- On the way along the keys, what is below may be anything, or have come to an end.
  induction keys generalizing value below with
  | nil =>
    cases leads
    rw [overlay_of_isLeaf isLeaf]
    rfl
  | cons key keys ih =>
    obtain ⟨part, found, onward⟩ := Option.bind_eq_some_iff.mp leads
    cases value with
    | table entries =>
      have here : entries.lookup key = some part := found
      rw [at?, get?_overlay_table inside.isPlain, here]
      exact ih (inside.of_get? found) onward _
    | _ => cases found

theorem at?_overlay_of_isSilent (inside : value.IsPlainInside) (silent : value.IsSilent keys)
    (below : Option Value) :
    (overlay below value).at? keys = below.bind (at? keys) := by
  induction keys generalizing value below with
  | nil => exact silent.elim
  | cons key keys ih =>
    cases value with
    | table entries =>
      rw [at?, get?_overlay_table inside.isPlain]
      show _ = below.bind fun value => (value.get? key).bind (at? keys)
      rw [← Option.bind_assoc]
      cases found : entries.lookup key with
      | none => rfl
      | some part => exact ih (inside.of_get? found) (silent part found) _
    | _ => exact silent.elim

/-- **A table laid over another, entry by entry, is laid over it.** -/
theorem isLaid_overlayEntries (inside : (table upper).IsPlainInside) (lower : List (String × Value)) :
    IsLaid (table lower) (table upper) (table (overlayEntries lower upper)) := by
  have entrywise : table (overlayEntries lower upper) = overlay (some (table lower)) (table upper) := by
    cases upper <;> rfl
  rw [entrywise]
  exact ⟨fun _ _ leads leaf => at?_overlay_of_isLeaf inside leads leaf _,
    fun _ silent => at?_overlay_of_isSilent inside silent _⟩

end Value

namespace Settings

/-- A layer whose paths are single keys is laid over the values like one table over another. -/
theorem apply_eq {layer : Layer} (single : ∀ entry ∈ layer, Path.ofText entry.1 = [.key entry.1])
    (lowered : ∀ entry ∈ layer, Text.lowered entry.1 = entry.1) (values : List (String × Value)) :
    apply (.table values) layer = .ok (.table (Value.overlayEntries values layer)) := by
  induction layer generalizing values with
  | nil => rfl
  | cons entry rest ih =>
    obtain ⟨key, upper⟩ := entry
    have path : Path.ofText key = [.key key] := single (key, upper) List.mem_cons_self
    have lower : Text.lowered key = key := lowered (key, upper) List.mem_cons_self
    have first : setAt upper (.ofText key) (some (.table values)) =
        .ok (.table (Value.overlayEntry values (key, upper))) := by
      rw [path, Value.overlayEntry, lower]
      rfl
    have later := ih (fun entry listed => single entry (List.mem_cons_of_mem _ listed))
      (fun entry listed => lowered entry (List.mem_cons_of_mem _ listed))
      (Value.overlayEntry values (key, upper))
    rw [apply, List.foldlM_cons]
    show (setAt upper (.ofText key) (some (.table values)) >>= fun values => apply values rest) = _
    rw [first]
    exact later

/-! ## Ways to merge layers -/

/-- The outermost keys are no longer paths, and every table is plain. -/
structure IsSimple (layer : Layer) : Prop where
  single : ∀ entry ∈ layer, Path.ofText entry.1 = [.key entry.1]
  inside : (Value.table layer).IsPlainInside

/-- A way to merge layers that starts with the empty table and lays each layer over the ones before. -/
structure IsMerge (merge : Merge) : Prop where
  empty : merge [] = .ok (.table [])
  lays : ∀ {layers : List Layer} {layer : Layer} {values : List (String × Value)},
    merge layers = .ok (.table values) → IsSimple layer →
      ∃ result, merge (layers ++ [layer]) = .ok (.table result) ∧
        Value.IsLaid (.table values) (.table layer) (.table result)

theorem isSimple_nil : IsSimple [] :=
  ⟨nofun, Value.isPlainInside_table ⟨nofun, List.nodup_nil⟩ nofun⟩

theorem isMerge_merged : IsMerge merged where
  empty := rfl
  lays := by
    intro layers layer values before simple
    have laid : apply (.table values) layer = .ok (.table (Value.overlayEntries values layer)) :=
      apply_eq simple.single simple.inside.isPlain.lowered values
    refine ⟨_, ?_, Value.isLaid_overlayEntries simple.inside values⟩
    rw [merged] at before ⊢
    rw [List.foldlM_append, before]
    show (apply (.table values) layer >>= fun values => .ok values) = _
    rw [laid]
    rfl

end Settings

end ChangeFeed
