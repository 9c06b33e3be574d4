import QuotationPress.Merge.Lookup
import QuotationPress.Proofs.Context.Paths
import QuotationPress.Proofs.Format.Amount

/-!
# When a text can be filled in

`Lookup.Answers` says of which paths the text can be told, and `Lookup.Fills` that it can be told of
every placeholder in a text; `Lookup.AnswersInRow` and `Lookup.FillsInRow` say the same of the row
of an item. `Lookup.Tells` says when it can be told whether a totals line is shown.
-/

namespace QuotationPress.Merge

open Outcome (Succeeds)
open Format (Oversized Overflows)

/-! ### Texts with placeholders -/

/-- A text is filled in exactly if each of its placeholders is resolved. -/
theorem succeeds_fillSegments_iff (resolve : String → Outcome String) (parts : List Segment) :
    Succeeds (fillSegments resolve parts) ↔
      ∀ path, .placeholder path ∈ parts → Succeeds (resolve (String.ofList path)) := by
  induction parts with
  | nil => exact iff_of_true Outcome.succeeds_ok nofun
  | cons part rest ih =>
    cases part with
    | char c =>
      rw [fillSegments, Outcome.succeeds_bind_iff_left fun _ => Outcome.succeeds_pure, ih]
      simp
    | placeholder path =>
      simp only [fillSegments, List.mem_cons, Segment.placeholder.injEq, forall_eq_or_imp, ← ih]
      exact Outcome.succeeds_bind_iff_and fun value _ =>
        Outcome.succeeds_bind_iff_left fun _ => Outcome.succeeds_pure

theorem succeeds_fill_iff (resolve : String → Outcome String) (s : String) :
    Succeeds (fill resolve s) ↔
      ∀ path, .placeholder path ∈ segments s.toList → Succeeds (resolve (String.ofList path)) := by
  rw [fill, Outcome.succeeds_bind_iff_left fun _ => Outcome.succeeds_pure,
    succeeds_fillSegments_iff]

/-! ### Paths into the data of a document -/

/-- Where the numbers are amounts of money. -/
def BelowTotals (path : String) : Prop := "totals.".toList <+: path.toList

instance (path : String) : Decidable (BelowTotals path) := inferInstanceAs (Decidable (_ <+: _))

/-- Whether the text of the value at a path can be told. -/
def HasText (path : String) (v : Value) : Prop :=
  BelowTotals path → v.isText = false → ¬ Oversized v

theorem hasText_null (path : String) : HasText path .null :=
  fun _ _ => by simp [Oversized, Format.magnitude?, Format.decimalOf?]

/-- Only an amount of money that is too large has no text. -/
theorem succeeds_pathText_iff {v : Value} (json : v.IsJson) (symbol path : String) :
    Succeeds (pathText symbol path v) ↔ HasText path v := by
  have plain := Format.succeeds_plain json
  have below : "totals.".toList.isPrefixOf path.toList = true ↔ BelowTotals path :=
    List.isPrefixOf_iff_prefix
  unfold pathText HasText
  split
  · -- a text, or no place for amounts of money
    next elsewhere =>
    refine iff_of_true plain fun totals amount => ?_
    rw [below.mpr totals, amount] at elsewhere
    cases elsewhere
  · next amount =>
    simp only [Bool.or_eq_true, Bool.not_eq_true', not_or, Bool.not_eq_true,
      Bool.not_eq_false] at amount
    simp only [below.mp amount.2, amount.1, forall_const]
    obtain ⟨d, hd⟩ := Format.succeeds_decimalOf? json
    rw [hd, Outcome.ok_bind]
    cases d with
    | some d => exact Format.succeeds_currency_iff json symbol
    | none => exact iff_of_true plain (by simp [Oversized, Format.magnitude?, hd])

/-- Leaves have texts exactly if each of them has one. -/
theorem succeeds_leafTexts_iff (symbol : String) {fs : Fields} (json : ∀ e ∈ fs, e.2.IsJson) :
    Succeeds (Lookup.leafTexts symbol fs) ↔ ∀ e ∈ fs, HasText e.1 e.2 := by
  induction fs with
  | nil => exact iff_of_true Outcome.succeeds_ok nofun
  | cons e rest ih =>
    rw [List.forall_mem_cons] at json ⊢
    rw [← succeeds_pathText_iff json.1 symbol, ← ih json.2]
    exact Outcome.succeeds_bind_iff_and fun text _ =>
      Outcome.succeeds_bind_iff_left fun _ => Outcome.succeeds_pure

namespace Lookup

variable {l : Lookup}

/-- Following a path, and the path that answers for it when there is nothing, fails nowhere. -/
def Reaches (l : Lookup) (path : String) : Prop :=
  ¬ (Value.obj l.data).Stumbles (Text.splitAt '.' path) ∧
    ((Value.obj l.data).walk path = .ok .null → ∀ other, otherPath? path = some other →
      ¬ (Value.obj l.data).Stumbles (Text.splitAt '.' other))

/-- The value at a path can be told exactly if the path reaches. -/
theorem succeeds_raw_iff (l : Lookup) (path : String) : Succeeds (l.raw path) ↔ l.Reaches path := by
  unfold raw Reaches
  rw [← Value.succeeds_walkSteps_iff]
  refine Outcome.succeeds_bind_iff_and fun v walked => ?_
  -- only from null the other path matters
  cases null : v.isNull with
  | true =>
    obtain rfl := Value.eq_null_of_isNull null
    simp only [walked, ↓reduceIte, forall_const, ← Value.succeeds_walkSteps_iff]
    cases otherPath? path with
    | none => exact iff_of_true Outcome.succeeds_ok nofun
    | some other => simp [Value.walk]
  | false =>
    refine iff_of_true Outcome.succeeds_ok fun nothing => ?_
    rw [Except.ok.inj (walked.symm.trans nothing)] at null
    cases null

/-- What a path leads to in data of JSON is such data. -/
theorem isJson_of_raw (json : (Value.obj l.data).IsJson) {path : String} {v : Value}
    (h : l.raw path = .ok v) : v.IsJson := by
  obtain ⟨w, walked, h⟩ := Outcome.bind_eq_ok.mp h
  split at h
  · split at h
    · exact json.walkSteps h
    · exact Except.ok.inj h ▸ .null
  · exact Except.ok.inj h ▸ json.walkSteps walked

/-- The text at a path can be told: the table has it, or the value is found and has a text. -/
def Answers (l : Lookup) (path : String) : Prop :=
  (l.table.lookup path).getD "" ≠ "" ∨
    l.Reaches path ∧ ∀ v, l.raw path = .ok v → HasText path v

/-- A path is resolved exactly if it is answered. -/
theorem succeeds_resolve_iff (json : (Value.obj l.data).IsJson) (path : String) :
    Succeeds (l.resolve path) ↔ l.Answers path := by
  unfold resolve Answers
  dsimp only
  split
  · next found => exact iff_of_true Outcome.succeeds_ok (.inl found)
  · next blank =>
    rw [or_iff_right blank, ← succeeds_raw_iff, Outcome.succeeds_bind_iff_forall]
    refine and_congr_right fun _ => forall₂_congr fun v found => ?_
    split
    · next null =>
      rw [Value.eq_null_of_isNull null]
      exact iff_of_true Outcome.succeeds_ok (hasText_null path)
    · rw [Outcome.succeeds_bind_iff_left fun _ => Outcome.succeeds_pure]
      exact succeeds_pathText_iff (isJson_of_raw json found) l.symbol path

/-- Every placeholder in a text is answered. -/
def Fills (l : Lookup) (s : String) : Prop :=
  ∀ path, .placeholder path ∈ segments s.toList → l.Answers (String.ofList path)

/-- A text can be filled in exactly if all its placeholders are answered. -/
theorem succeeds_mergeText_iff (json : (Value.obj l.data).IsJson) (s : String) :
    Succeeds (l.mergeText s) ↔ l.Fills s := by
  simp only [mergeText, succeeds_fill_iff, succeeds_resolve_iff json, Fills]

theorem succeeds_mergeText?_iff (json : (Value.obj l.data).IsJson) (s : Option String) :
    Succeeds (l.mergeText? s) ↔ ∀ t ∈ s, l.Fills t := by
  cases s with
  | none => exact iff_of_true Outcome.succeeds_ok nofun
  | some t => simp [mergeText?, succeeds_mergeText_iff json]

/-- A text is filled in; any other value has a text of its own. -/
theorem succeeds_merge_iff (json : (Value.obj l.data).IsJson) {v : Value} (given : v.IsJson) :
    Succeeds (l.merge v) ↔ ∀ s, v = .str s → l.Fills s := by
  have plain := Format.succeeds_plain given
  cases v with
  | str s => exact (succeeds_mergeText_iff json s).trans (by simp)
  | _ => exact iff_of_true plain nofun

end Lookup

/-! ### Rows of items -/

/-- The words that stand for the texts of a row. -/
def rowWords : List String :=
  ["item_no", "item_name", "item_description", "item_capacity", "item_quantity", "item_unit",
    "item_duration", "item_rate", "item_amount"]

/-- Every row has the same words, whatever the item is. -/
theorem rowValues_words {symbol : String} {item : Fields} {index : Int}
    {row : List (String × String)} (h : rowValues symbol item index = .ok row) :
    row.map Prod.fst = rowWords := by
  simp only [rowValues, Outcome.bind_eq_ok] at h
  obtain ⟨_, -, _, -, _, -, _, -, _, -, _, -, _, -, _, -, _, -, h⟩ := h
  rw [← Except.ok.inj h]
  rfl

/-- The texts of the row of an item can be told: the number of the row stands for a missing one. -/
structure HasRow (item : Fields) (index : ℕ) : Prop where
  number : (item.get "no").isTruthy = false → digitCount (index + 1) ≤ numeralLimit
  rate : ¬ Oversized (item.get "rate")
  amount : ¬ Oversized (item.get "amount")

/-- The number of a row counts only where the item has none that counts as given. -/
theorem succeeds_rowNumber_iff {item : Fields} (json : (Value.obj item).IsJson) (index : ℕ) :
    Succeeds (Format.plain ((item.get "no").orElse (.int (index + 1)))) ↔
      ((item.get "no").isTruthy = false → digitCount (index + 1) ≤ numeralLimit) := by
  unfold Value.orElse
  split
  · next given => exact iff_of_true (Format.succeeds_plain (json.get "no")) (by simp [given])
  · next missing =>
    simp only [missing, forall_const]
    have count : (index + 1 : Int).natAbs = index + 1 := by omega
    have written : Format.plain (.int (index + 1)) = Value.intText (index + 1) := rfl
    rw [written, Value.intText, count]
    split
    · next long => exact iff_of_false Outcome.not_succeeds_error (not_le.mpr long)
    · next short => exact iff_of_true Outcome.succeeds_ok (not_lt.mp short)

/-- There is a row for an item exactly if its number, its rate and its amount have texts. -/
theorem succeeds_rowValues_iff {item : Fields} (json : (Value.obj item).IsJson) (symbol : String)
    (index : ℕ) : Succeeds (rowValues symbol item index) ↔ HasRow item index := by
  have plain (v : Value) (h : v.IsJson) : Succeeds (Format.plain v) := Format.succeeds_plain h
  have either (a b : String) : ((item.get a).orElse (item.get b)).IsJson :=
    (json.get a).orElse (json.get b)
  have shape : HasRow item index ↔
      ((item.get "no").isTruthy = false → digitCount (index + 1) ≤ numeralLimit) ∧
      ¬ Oversized (item.get "rate") ∧ ¬ Oversized (item.get "amount") :=
    ⟨fun h => ⟨h.number, h.rate, h.amount⟩, fun h => ⟨h.1, h.2.1, h.2.2⟩⟩
  rw [shape, ← succeeds_rowNumber_iff json index]
  unfold rowValues
  refine Outcome.succeeds_bind_iff_and fun _ _ => ?_
  -- the texts between number and rate can always be told
  refine Outcome.succeeds_bind_iff_right (plain _ (either "name" "description")) fun _ _ => ?_
  refine Outcome.succeeds_bind_iff_right (plain _ (either "description" "name")) fun _ _ => ?_
  refine Outcome.succeeds_bind_iff_right (plain _ (json.get "capacity")) fun _ _ => ?_
  refine Outcome.succeeds_bind_iff_right (plain _ (json.get "quantity")) fun _ _ => ?_
  refine Outcome.succeeds_bind_iff_right (plain _ (json.get "unit")) fun _ _ => ?_
  refine Outcome.succeeds_bind_iff_right (plain _ (json.get "duration")) fun _ _ => ?_
  rw [← Format.succeeds_currency_iff (json.get "rate") symbol,
    ← Format.succeeds_currency_iff (json.get "amount") symbol]
  exact Outcome.succeeds_bind_iff_and fun _ _ =>
    Outcome.succeeds_bind_iff_left fun _ => Outcome.succeeds_pure

/-- The text at a path can be told in the row of an item: the row has it, or the path leads into the
item, or the document answers. -/
def Lookup.AnswersInRow (l : Lookup) (item : Fields) (path : String) : Prop :=
  path ∈ rowWords ∨ match RowLookup.itemPath? path with
    | some inner => ¬ (Value.obj item).Stumbles (Text.splitAt '.' inner)
    | none => l.Answers path

/-- Every placeholder in a text is answered in the row of an item. -/
def Lookup.FillsInRow (l : Lookup) (item : Fields) (s : String) : Prop :=
  ∀ path, .placeholder path ∈ segments s.toList → l.AnswersInRow item (String.ofList path)

namespace RowLookup

variable {r : RowLookup}

/-- In a row a path is resolved exactly if it is answered there. -/
theorem succeeds_resolve_iff (json : (Value.obj r.parent.data).IsJson)
    (given : (Value.obj r.item).IsJson) (words : r.row.map Prod.fst = rowWords) (path : String) :
    Succeeds (r.resolve path) ↔ r.parent.AnswersInRow r.item path := by
  unfold resolve Lookup.AnswersInRow
  rw [← words]
  cases found : r.row.lookup path with
  | some text =>
    obtain ⟨before, behind, row, -⟩ := List.lookup_eq_some_iff.mp found
    exact iff_of_true Outcome.succeeds_ok (.inl (by simp [row]))
  | none =>
    have missing : path ∉ r.row.map Prod.fst := fun there => by
      obtain ⟨e, he, rfl⟩ := List.mem_map.mp there
      simpa using List.lookup_eq_none_iff.mp found e he
    rw [or_iff_right missing]
    cases itemPath? path with
    | none => exact Lookup.succeeds_resolve_iff json path
    | some inner =>
      dsimp only
      rw [← Value.succeeds_walkSteps_iff, Outcome.succeeds_bind_iff_forall]
      exact and_iff_left fun v found => Format.succeeds_plain (given.walkSteps found)

theorem succeeds_mergeText_iff (json : (Value.obj r.parent.data).IsJson)
    (given : (Value.obj r.item).IsJson) (words : r.row.map Prod.fst = rowWords) (s : String) :
    Succeeds (r.mergeText s) ↔ r.parent.FillsInRow r.item s := by
  simp only [mergeText, succeeds_fill_iff, succeeds_resolve_iff json given words, Lookup.FillsInRow]

end RowLookup

/-! ### Conditions -/

/-- It can be told whether a totals line is shown. -/
def Lookup.Tells (l : Lookup) (flag : String) : Prop :=
  match flag with
  | "" => True
  | "always" => True
  | "never" => True
  | "hasDiscount" =>
    l.Reaches "totals.discount" ∧ ∀ v, l.raw "totals.discount" = .ok v → ¬ Overflows v
  | "hasTax" => l.Reaches "totals.tax" ∧ ∀ v, l.raw "totals.tax" = .ok v → ¬ Overflows v
  | path => l.Reaches path

theorem succeeds_isShownValue {v : Value} (json : v.IsJson) : Succeeds (isShownValue v) := by
  cases json <;> exact Outcome.succeeds_ok

/-- Whether a line is shown can be told exactly if its flag is none to look up, or can be looked
up. -/
theorem succeeds_isShown_iff {l : Lookup} (json : (Value.obj l.data).IsJson) (flag : String) :
    Succeeds (isShown l (some flag)) ↔ l.Tells flag := by
  have amount (path : String) : Succeeds (l.raw path >>= Format.isPositiveAmount) ↔
      l.Reaches path ∧ ∀ v, l.raw path = .ok v → ¬ Overflows v := by
    rw [Outcome.succeeds_bind_iff_forall, Lookup.succeeds_raw_iff]
    exact and_congr_right fun _ => forall₂_congr fun v found =>
      Format.succeeds_isPositiveAmount_iff (Lookup.isJson_of_raw json found)
  unfold isShown
  split
  · next h => cases h
  · next h =>
    obtain rfl := Option.some.inj h
    exact iff_of_true Outcome.succeeds_ok trivial
  · next h =>
    obtain rfl := Option.some.inj h
    exact iff_of_true Outcome.succeeds_ok trivial
  · next h =>
    obtain rfl := Option.some.inj h
    exact iff_of_true Outcome.succeeds_ok trivial
  · next h =>
    obtain rfl := Option.some.inj h
    exact amount "totals.discount"
  · next h =>
    obtain rfl := Option.some.inj h
    exact amount "totals.tax"
  · -- no word that is known, so that it is a path
    next path empty always never discount tax h =>
    obtain rfl := Option.some.inj h
    have tells : l.Tells flag = l.Reaches flag := by
      unfold Lookup.Tells
      split <;> simp_all
    rw [tells, ← Lookup.succeeds_raw_iff, Outcome.succeeds_bind_iff_forall]
    exact and_iff_left fun v found => succeeds_isShownValue (Lookup.isJson_of_raw json found)

end QuotationPress.Merge
