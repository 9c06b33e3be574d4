import QuotationPress.Proofs.Merge.Rows
import QuotationPress.Proofs.Merge.Substitution

/-!
# Two ways to show a field of an item in a table

A field is shown under the standard column of its key, or by the placeholder of the row that bears
its name. `itemCell_standard` and `itemCell_slot` say of which value either cell is the text, and
`itemRows_readsAlike_iff` when both are the same: for most keys they always are, but for the number
and the description a placeholder looks elsewhere as soon as the value does not count as given.
-/

namespace QuotationPress

theorem eq_of_intText {i : ℤ} {s : String} (h : Value.intText i = .ok s) :
    s = String.ofList (intNumeral i) := by
  unfold Value.intText at h
  split at h
  · cases h
  · exact (Except.ok.inj h).symm

/-! ### Texts of values that do not count as given -/

/-- A text that begins like the numeral of a number above zero. -/
def StartsPositive (s : String) : Prop :=
  ∃ c, s.toList.head? = some c ∧ (Text.isAsciiDigit c && c ≠ '0') = true

instance (s : String) : Decidable (StartsPositive s) := decidable_of_iff _ (Option.any_eq_true _ _)

/-- The numeral of a row number begins so. -/
theorem startsPositive_numeral (n : ℕ) : StartsPositive (String.ofList (intNumeral (n + 1))) := by
  have positive : ¬ (n + 1 : ℤ) < 0 := by omega
  have count : (n + 1 : ℤ).natAbs = n + 1 := by omega
  rw [StartsPositive, intNumeral, if_neg positive, count, String.toList_ofList]
  cases digits : numeral (n + 1) with
  | nil => exact absurd digits (numeral_ne_nil _)
  | cons c rest =>
    have all := all_isAsciiDigit_numeral (n + 1)
    have first := head?_numeral (Nat.succ_pos n)
    rw [digits] at all first
    have digit := List.all_eq_true.mp all c List.mem_cons_self
    have lead : c ≠ '0' := fun zero => first (congrArg some zero)
    exact ⟨c, rfl, Bool.and_eq_true_iff.mpr ⟨digit, decide_eq_true lead⟩⟩

/-- Zero begins with a zero, whatever its scale, or with a sign. -/
theorem Decimal.head?_finiteText_zero (negative : Bool) (e : ℤ) :
    (finiteText negative 0 e).head? = some (if negative then '-' else '0') := by
  have body (point : ℤ) (scale : List Char) :
      ((if point ≤ 0 then '0' :: '.' :: List.replicate point.natAbs '0' ++ ['0']
        else if 1 ≤ point.toNat then ['0'] ++ List.replicate (point.toNat - 1) '0'
        else ['0'].take point.toNat ++ '.' :: ['0'].drop point.toNat) ++ scale).head? =
        some '0' := by
    -- before the point, as a whole number, or a case that cannot be
    split_ifs with small enough
    · rfl
    · rfl
    · omega
  cases negative with
  | true => rfl
  | false => exact body _ _

/-- Either zero of the floats is the whole number zero. -/
theorem Binary64.whole?_of_isZero {x : Binary64} (zero : x.isZero = true) : x.whole? = some 0 := by
  simp only [isZero, Bool.and_eq_true, beq_iff_eq] at zero
  have finite : x.isFinite = true := by simp [isFinite, zero.1]
  have significand : x.significand = 0 := by simp [Binary64.significand, zero.1, zero.2]
  simp [whole?, finite, significand]

theorem Value.isBlankField_iff {v : Value} : v.isBlankField = true ↔ v = .null ∨ v = .str "" := by
  cases v <;> simp [isBlankField]

namespace Format

/-- The text of a value that does not count as given is not that of a number above zero. -/
theorem not_startsPositive_plain {v : Value} (missing : v.isTruthy = false) {s : String}
    (h : plain v = .ok s) : ¬ StartsPositive s := by
  have word {w : String} (same : plain v = .ok w) (other : ¬ StartsPositive w) :
      ¬ StartsPositive s :=
    Except.ok.inj (same.symm.trans h) ▸ other
  -- each kind of value has one that does not count as given, with one text, but for the decimal
  -- zeros
  cases v with
  | null => exact word rfl (by decide)
  | bool b =>
    cases b with
    | true => cases missing
    | false => exact word rfl (by decide)
  | int i =>
    obtain rfl : i = 0 := by simpa [Value.isTruthy] using missing
    exact word rfl (by decide)
  | float x =>
    have zero : x.whole? = some 0 :=
      Binary64.whole?_of_isZero (by simpa [Value.isTruthy] using missing)
    have written : plain (.float x) = .ok "0" := by
      rw [plain, zero]
      rfl
    exact word written (by decide)
  | decimal d =>
    cases d with
    | finite negative c e =>
      obtain rfl : c = 0 := by simpa [Value.isTruthy, Decimal.isZero] using missing
      refine word (w := String.ofList (Decimal.finiteText negative 0 e)) rfl ?_
      rintro ⟨first, at_first, positive⟩
      rw [String.toList_ofList, Decimal.head?_finiteText_zero] at at_first
      obtain rfl := Option.some.inj at_first
      cases negative <;> exact absurd positive (by decide)
    | infinity negative => cases missing
    | nan negative signaling payload => cases missing
  | date d => cases missing
  | moment m => cases missing
  | str t =>
    obtain rfl : t = "" := by simpa [Value.isTruthy] using missing
    exact word rfl (by decide)
  | list xs => exact word rfl (by decide)
  | tuple xs => exact word rfl (by decide)
  | obj fs => exact word rfl (by decide)
  | keyed es => exact word rfl (by decide)
  | bytes bs =>
    obtain rfl : bs = [] := by simpa [Value.isTruthy] using missing
    exact word rfl (by decide)
  | keySet ks =>
    obtain rfl : ks = [] := by simpa [Value.isTruthy] using missing
    exact word rfl (by decide)

/-- A cell without a format has the plain text. -/
theorem cell_none (symbol : String) (v : Value) : cell symbol none v = plain v := by
  unfold cell
  split
  · next blank => rcases Value.isBlankField_iff.mp blank with rfl | rfl <;> rfl
  · rfl

/-- A cell for money shows the amount of money, and nothing for a blank field. -/
theorem cell_currency (symbol : String) (v : Value) :
    cell symbol (some "currency") v = currency symbol v := by
  unfold cell
  split
  · next blank => rcases Value.isBlankField_iff.mp blank with rfl | rfl <;> rfl
  · rfl

end Format

namespace Merge

/-! ### One cell -/

/-- The keys under which an item has a standard column and a placeholder. -/
def placedKeys : List String :=
  ["no", "description", "capacity", "quantity", "duration", "rate", "amount"]

/-- The placeholder of the row for a key. -/
def rowWord (key : String) : String := "item_" ++ key

/-- The text of a cell: a dash where there is none. -/
def dashed (s : String) : String := if s = "" then "-" else s

/-- The dash in the place of nothing does not begin so. -/
theorem startsPositive_dashed {s : String} : StartsPositive (dashed s) ↔ StartsPositive s := by
  unfold dashed
  split
  · next empty =>
    subst empty
    exact iff_of_false (by decide) (by decide)
  · rfl

/-- The value that the placeholder of a key stands for: where none counts as given, the number of
the row stands for the number, and the name for the description. -/
def slotValue (item : Fields) (index : ℕ) (key : String) : Value :=
  if key = "no" then (item.get "no").orElse (.int (index + 1))
  else if key = "description" then (item.get "description").orElse (item.get "name")
  else item.get key

/-- The text of the value under a key: an amount of money, or the plain text. -/
def keyText (symbol key : String) (v : Value) : Outcome String :=
  if moneyKeys.contains key then Format.currency symbol v else Format.plain v

variable {l : Lookup} {item : Fields} {index : ℕ} {r : RowLookup}

/-- The row of an item has the text of each key under its placeholder. -/
theorem lookup_row (h : l.forRow item index = .ok r) : ∀ key ∈ placedKeys, ∃ text,
    keyText l.symbol key (slotValue item index key) = .ok text ∧
      r.row.lookup (rowWord key) = some text := by
  obtain ⟨row, written, h⟩ := Outcome.bind_eq_ok.mp h
  obtain rfl := Except.ok.inj h
  simp only [rowValues, Outcome.bind_eq_ok] at written
  obtain ⟨no, hno, _, -, description, hdescription, capacity, hcapacity, quantity, hquantity, _, -,
    duration, hduration, rate, hrate, amount, hamount, written⟩ := written
  rw [← Except.ok.inj written]
  simp only [placedKeys, List.forall_mem_cons]
  exact ⟨⟨no, hno, rfl⟩, ⟨description, hdescription, rfl⟩, ⟨capacity, hcapacity, rfl⟩,
    ⟨quantity, hquantity, rfl⟩, ⟨duration, hduration, rfl⟩, ⟨rate, hrate, rfl⟩,
    ⟨amount, hamount, rfl⟩,
    List.forall_mem_nil _⟩

/-- Standard columns show the value under their key, amounts of money as such. -/
theorem standardColumns_spec : ∀ c ∈ standardColumns, c.value = none ∧
    nonempty? c.format = if moneyKeys.contains c.key then some "currency" else none := by decide

theorem cellFormat_standard {c : Column} (standard : c ∈ standardColumns) (v : Value) :
    cellFormat c v = if moneyKeys.contains c.key then some "currency" else none := by
  rw [cellFormat, (standardColumns_spec c standard).2]
  cases moneyKeys.contains c.key <;> rfl

/-- Under its standard column a key shows the value that the item has under it. -/
theorem itemCell_standard (h : l.forRow item index = .ok r) {c : Column}
    (standard : c ∈ standardColumns) :
    itemCell r index c = dashed <$> keyText l.symbol c.key (cellValue item index c.key) := by
  obtain ⟨row, -, h⟩ := Outcome.bind_eq_ok.mp h
  obtain rfl := Except.ok.inj h
  rw [itemCell, (standardColumns_spec c standard).1]
  dsimp only [nonempty?]
  rw [cellFormat_standard standard]
  unfold keyText
  split
  · rw [Format.cell_currency]
    rfl
  · rw [Format.cell_none]
    rfl

/-- A text that is one placeholder is filled in by its value. -/
theorem fill_slot (resolve : String → Outcome String) {path : String}
    (isPath : IsPath path.toList) :
    fill resolve (slot path) = resolve path := by
  let m : Mark := ⟨[], path.toList, [], List.forall_mem_nil _, isPath, List.forall_mem_nil _⟩
  have text : (slot path).toList = m.text ++ [] := by
    simp [slot, Mark.text, m]
  rw [fill, text, segments_mark, fillSegments, String.ofList_toList]
  have none : segments [] = [] := by rw [segments]
  rw [none]
  cases resolve path with
  | error e => rfl
  | ok value => simp [fillSegments]

/-- A column that shows the placeholder of a key in every row. -/
def ShowsSlot (c : Column) (key : String) : Prop := c.value = some (slot (rowWord key))

theorem isPath_rowWord :
    ∀ key ∈ placedKeys, IsPath (rowWord key).toList ∧ slot (rowWord key) ≠ "" := by decide

/-- A placeholder shows the value that it stands for. -/
theorem itemCell_slot (h : l.forRow item index = .ok r) {key : String} (placed : key ∈ placedKeys)
    {c : Column} (shows : ShowsSlot c key) :
    itemCell r index c = dashed <$> keyText l.symbol key (slotValue item index key) := by
  obtain ⟨text, written, found⟩ := lookup_row h key placed
  obtain ⟨isPath, nonempty⟩ := isPath_rowWord key placed
  have given : nonempty? c.value = some (slot (rowWord key)) := by
    rw [shows]
    unfold nonempty?
    split
    · next same => exact absurd (Option.some.inj same) nonempty
    · rfl
  have filled : r.mergeText (slot (rowWord key)) = .ok text := by
    rw [RowLookup.mergeText, fill_slot r.resolve isPath, RowLookup.resolve, found]
  rw [itemCell, given, written]
  dsimp only
  rw [filled]
  rfl

/-! ### When both read alike -/

/-- Two values look the same in a cell. -/
def LookAlike (u v : Value) : Prop := dashed <$> Format.plain u = dashed <$> Format.plain v

/-- An item shows the same under a standard column and by the placeholder of its row: its number is
not given at all or counts as given, and its description counts as given or looks like its name. -/
def ReadsAlike (item : Fields) (key : String) : Prop :=
  (key = "no" → (item.get "no").isNull = true ∨ (item.get "no").isTruthy = true) ∧
  (key = "description" →
    (item.get "description").isTruthy = true ∨ LookAlike (item.get "description") (item.get "name"))

theorem readsAlike_other {key : String} (number : key ≠ "no") (description : key ≠ "description") :
    ReadsAlike item key := ⟨fun h => absurd h number, fun h => absurd h description⟩

/-- A number that is given without counting as given never looks like that of a row. -/
theorem dashed_ne_rowNumber {v : Value} (missing : v.isTruthy = false) {s t : String}
    (hs : Format.plain v = .ok s) (ht : Format.plain (.int (index + 1)) = .ok t) :
    dashed s ≠ dashed t := by
  intro same
  have positive : StartsPositive t := by
    rw [eq_of_intText ht]
    exact startsPositive_numeral index
  rw [← startsPositive_dashed, ← same, startsPositive_dashed] at positive
  exact Format.not_startsPositive_plain missing hs positive

/-- A standard column numbers the row itself only where the number is null. -/
theorem cellValue_no : cellValue item index "no" =
    if (item.get "no").isNull then .int (index + 1) else item.get "no" := by
  simp [cellValue]

theorem cellValue_of_ne {key : String} (other : key ≠ "no") :
    cellValue item index key = item.get key := by
  simp [cellValue, other]

/-- Column and placeholder number a row alike unless the item has a number that does not count as
given. -/
theorem keyText_no_iff {symbol : String} {s t : String}
    (hs : keyText symbol "no" (cellValue item index "no") = .ok s)
    (ht : keyText symbol "no" (slotValue item index "no") = .ok t) :
    dashed s = dashed t ↔ (item.get "no").isNull = true ∨ (item.get "no").isTruthy = true := by
  rw [cellValue_no] at hs
  change keyText symbol "no" (if (item.get "no").isTruthy then _ else _) = .ok t at ht
  -- given, null, or a zero or empty text
  cases given : (item.get "no").isTruthy with
  | true =>
    have present : (item.get "no").isNull = false := by
      by_contra null
      rw [Value.eq_null_of_isNull (eq_true_of_ne_false null)] at given
      cases given
    rw [if_neg (ne_true_of_eq_false present)] at hs
    rw [if_pos given, hs] at ht
    exact iff_of_true (congrArg dashed (Except.ok.inj ht)) (.inr rfl)
  | false =>
    rw [if_neg (ne_true_of_eq_false given)] at ht
    cases null : (item.get "no").isNull with
    | true =>
      rw [if_pos null, ht] at hs
      exact iff_of_true (congrArg dashed (Except.ok.inj hs).symm) (.inl rfl)
    | false =>
      rw [if_neg (ne_true_of_eq_false null)] at hs
      exact iff_of_false (dashed_ne_rowNumber given hs ht) (by simp)

/-- They describe it alike if the description counts as given, or looks like the name. -/
theorem keyText_description_iff {symbol : String} {s t : String}
    (hs : keyText symbol "description" (cellValue item index "description") = .ok s)
    (ht : keyText symbol "description" (slotValue item index "description") = .ok t) :
    dashed s = dashed t ↔
      (item.get "description").isTruthy = true ∨
      LookAlike (item.get "description") (item.get "name") := by
  rw [cellValue_of_ne (by decide)] at hs
  change keyText symbol "description"
    (if (item.get "description").isTruthy then _ else _) = .ok t at ht
  cases given : (item.get "description").isTruthy with
  | true =>
    rw [if_pos given, hs] at ht
    exact iff_of_true (congrArg dashed (Except.ok.inj ht)) (.inl rfl)
  | false =>
    rw [if_neg (ne_true_of_eq_false given)] at ht
    have alike : LookAlike (item.get "description") (item.get "name") ↔ dashed s = dashed t := by
      change Format.plain (item.get "description") = .ok s at hs
      change Format.plain (item.get "name") = .ok t at ht
      rw [LookAlike, hs, ht]
      exact ⟨Except.ok.inj, congrArg Except.ok⟩
    simp [alike]

/-- Of the two, each key shows the same exactly if the item reads alike. -/
theorem keyText_alike_iff {symbol key : String} {s t : String}
    (hs : keyText symbol key (cellValue item index key) = .ok s)
    (ht : keyText symbol key (slotValue item index key) = .ok t) : dashed s = dashed t ↔
      ReadsAlike item key := by
  by_cases number : key = "no"
  · subst number
    rw [keyText_no_iff hs ht]
    exact ⟨fun h => ⟨fun _ => h, by simp⟩, fun h => h.1 rfl⟩
  by_cases description : key = "description"
  · subst description
    rw [keyText_description_iff hs ht]
    exact ⟨fun h => ⟨by simp, fun _ => h⟩, fun h => h.2 rfl⟩
  · rw [cellValue_of_ne number] at hs
    rw [slotValue, if_neg number, if_neg description, hs] at ht
    exact iff_of_true (congrArg dashed (Except.ok.inj ht)) (readsAlike_other number description)

/-! ### Cells of a table -/

/-- The cell of a row and a column. -/
def TableRows.cell? (t : TableRows) (row column : ℕ) : Option String :=
  t.rows[row]?.bind (·[column]?)

/-- The row of an item stands at its position. -/
theorem getElem?_itemRowsFrom {columns : List Column} {xs : List Value} {start : ℕ}
    {rows : List (List String)} (h : itemRowsFrom l columns start xs = .ok rows) {i : ℕ}
    (at_i : (xs.map asItem)[i]? = some item) :
    ∃ row, rows[i]? = some row ∧ itemRow l columns (start + i) item = .ok row := by
  induction xs generalizing start rows i with
  | nil => simp at at_i
  | cons x rest ih =>
    obtain ⟨row, first, h⟩ := Outcome.bind_eq_ok.mp h
    obtain ⟨more, behind, h⟩ := Outcome.bind_eq_ok.mp h
    obtain rfl := Except.ok.inj h
    cases i with
    | zero =>
      obtain rfl := Option.some.inj at_i
      exact ⟨row, rfl, first⟩
    | succ i =>
      obtain ⟨found, at_found, written⟩ := ih behind at_i
      exact ⟨found, at_found, by rwa [Nat.add_right_comm, Nat.add_assoc] at written⟩

/-- Every item and every column have their cell. -/
theorem itemRows_cell {content : TableContent} {t : TableRows} (h : itemRows content l = .ok t)
    {i j : ℕ} (at_i : l.items[i]? = some item) {c : Column} (at_j : t.columns[j]? = some c) :
    ∃ r s, l.forRow item i = .ok r ∧ itemCell r i c = .ok s ∧ t.cell? i j = some s := by
  rw [columns_itemRows h] at at_j
  obtain ⟨rows, written, h⟩ := Outcome.bind_eq_ok.mp h
  obtain rfl := Except.ok.inj h
  obtain ⟨row, at_row, cells⟩ := getElem?_itemRowsFrom written at_i
  rw [Nat.zero_add] at cells
  obtain ⟨r, forRow, cells⟩ := Outcome.bind_eq_ok.mp cells
  obtain ⟨s, cell, at_s⟩ := Outcome.getElem?_of_mapM_eq_ok cells at_j
  exact ⟨r, s, forRow, cell, by simp [TableRows.cell?, at_row, at_s]⟩

/-- For every item of a document, the cell of the standard column of a key and the cell of a column
that shows the placeholder of this key are both there, and they are the same exactly when the item
reads alike: under `capacity`, `quantity`, `duration`, `rate` and `amount` always. -/
theorem itemRows_readsAlike_iff {content content' : TableContent} {t t' : TableRows}
    (h : itemRows content l = .ok t) (h' : itemRows content' l = .ok t') {c p : Column}
    (standard : c ∈ standardColumns) (placed : c.key ∈ placedKeys) (shows : ShowsSlot p c.key)
    {i j k : ℕ} (at_i : l.items[i]? = some item) (at_j : t.columns[j]? = some c)
    (at_k : t'.columns[k]? = some p) :
    ∃ shown filled, t.cell? i j = some shown ∧ t'.cell? i k = some filled ∧
      (shown = filled ↔ ReadsAlike item c.key) := by
  obtain ⟨r, shown, forRow, cell, at_shown⟩ := itemRows_cell h at_i at_j
  obtain ⟨r', filled, forRow', cell', at_filled⟩ := itemRows_cell h' at_i at_k
  rw [itemCell_standard forRow standard, Outcome.map_eq_ok] at cell
  rw [itemCell_slot forRow' placed shows, Outcome.map_eq_ok] at cell'
  obtain ⟨s, hs, rfl⟩ := cell
  obtain ⟨s', hs', rfl⟩ := cell'
  exact ⟨_, _, at_shown, at_filled, keyText_alike_iff hs hs'⟩

/-- An item that has a name and no description. -/
def hydraOffer : RenderContext where
  items := [[("name", .str "Hydra"), ("quantity", .str "2")]]

def hydraLookup : Lookup where
  data := hydraOffer.fields
  symbol := "₹"
  table := [("items.0.name", "Hydra"), ("items.0.quantity", "2")]

theorem of?_hydraOffer : Lookup.of? "₹" hydraOffer = .ok hydraLookup := by rfl

/-- The description and the quantity, each under its standard column and by its placeholder. -/
def shownTwice : TableContent where
  columns := .listed
    [{ key := "description", label := "Description/Equipment Name", width := some "25%" },
     { key := "named", value := some (slot "item_description") },
     { key := "quantity", label := "Quantity", width := some "8%", alignment := "center" },
     { key := "counted", value := some (slot "item_quantity") }]

/-- The rows of this table. -/
def hydraRows : TableRows where
  columns := itemColumns shownTwice.columns
  rows := [["-", "Hydra", "2", "2"]]

theorem itemRows_hydraOffer : itemRows shownTwice hydraLookup = .ok hydraRows := by
  let item : Fields := hydraOffer.items.headD []
  let columns := itemColumns shownTwice.columns
  obtain ⟨r, hr⟩ : Outcome.Succeeds (hydraLookup.forRow item 0) := ⟨_, rfl⟩
  -- the four cells by the two lemmas on cells, since the table is too large to be computed
  have description : itemCell r 0 (columns.getD 0 { }) = .ok "-" := itemCell_standard hr (by decide)
  have named : itemCell r 0 (columns.getD 1 { }) = .ok "Hydra" :=
    @itemCell_slot _ _ _ _ hr "description" (by decide) _ rfl
  have quantity : itemCell r 0 (columns.getD 2 { }) = .ok "2" := itemCell_standard hr (by decide)
  have counted : itemCell r 0 (columns.getD 3 { }) = .ok "2" :=
    @itemCell_slot _ _ _ _ hr "quantity" (by decide) _ rfl
  have row : itemRow hydraLookup columns 0 item = .ok ["-", "Hydra", "2", "2"] := by
    have listed :
        columns =
          [columns.getD 0 { }, columns.getD 1 { }, columns.getD 2 { }, columns.getD 3 { }] :=
      rfl
    rw [itemRow, Nat.cast_zero, hr, Outcome.ok_bind, listed]
    simp only [List.mapM_cons, description, named, quantity, counted]
    rfl
  change (do
    let rows ←
      (do return (← itemRow hydraLookup columns 0 item) ::
      (← itemRowsFrom hydraLookup columns 1 []))
    return (⟨columns, rows⟩ : TableRows)) = _
  rw [row]
  rfl

theorem hydraRows_quantityAlike : itemRows shownTwice hydraLookup = .ok hydraRows ∧
    ReadsAlike (hydraOffer.items.headD []) "quantity" ∧
      hydraRows.cell? 0 2 = hydraRows.cell? 0 3 := by
  have alike : ReadsAlike (hydraOffer.items.headD []) "quantity" :=
    readsAlike_other (by decide) (by decide)
  have shows : ShowsSlot (hydraRows.columns.getD 3 { }) (hydraRows.columns.getD 2 { }).key := rfl
  have at_item : hydraLookup.items[0]? = some (hydraOffer.items.headD []) := rfl
  have at_key : hydraRows.columns[2]? = some (hydraRows.columns.getD 2 { }) := rfl
  have at_slot : hydraRows.columns[3]? = some (hydraRows.columns.getD 3 { }) := rfl
  obtain ⟨shown, filled, at_shown, at_filled, same⟩ := itemRows_readsAlike_iff itemRows_hydraOffer
    itemRows_hydraOffer (by decide) (by decide) shows at_item at_key at_slot
  exact ⟨itemRows_hydraOffer, alike, by rw [at_shown, at_filled, same.mpr alike]⟩

/-- Under its standard column the missing description of this item is a dash; the placeholder shows
its name. -/
theorem hydraRows_descriptionDiffers : ¬ ∀ (symbol : String) (context : RenderContext) (l : Lookup)
    (content : TableContent) (t : TableRows) (c p : Column) (item : Fields) (i j k : ℕ),
    Lookup.of? symbol context = .ok l → itemRows content l = .ok t → c ∈ standardColumns →
    c.key ∈ placedKeys → ShowsSlot p c.key → l.items[i]? = some item → t.columns[j]? = some c →
    t.columns[k]? = some p → t.cell? i j = t.cell? i k := by
  intro always
  have same := always "₹" hydraOffer hydraLookup shownTwice hydraRows (hydraRows.columns.getD 0 { })
    (hydraRows.columns.getD 1 { })
      (hydraOffer.items.headD []) 0 0 1 of?_hydraOffer itemRows_hydraOffer
    (by decide) (by decide) rfl rfl rfl rfl
  exact absurd same (by decide)

end Merge

end QuotationPress
