import QuotationPress.Proofs.Calendar.Ordinals
import QuotationPress.Proofs.Format.Amount
import QuotationPress.Proofs.Json.Plain
import QuotationPress.Proofs.Value.Texts
import QuotationPress.Quotation.Record

/-!
# Which records can be mapped to a context

`contextOfRecord_mappable` says that a record of the kinds that JSON has can be mapped, whatever it
holds under which name, unless something in it is too large, or its lines are a number:
`Record.Mappable`.
-/

namespace QuotationPress

open Outcome (Succeeds succeeds_bind_iff_and succeeds_bind_iff_left succeeds_bind_iff_right)

/-! ### Values that are not too large -/

namespace Value

variable {v : Value}

/-- What does not count as given has a text. -/
theorem short_of_not_isTruthy (missing : v.isTruthy = false) : v.Short := by
  cases v with
  | int i =>
    obtain rfl : i = 0 := by simpa [isTruthy] using missing
    exact .int (by decide)
  | list xs =>
    obtain rfl : xs = [] := by simpa [isTruthy] using missing
    exact .list (List.forall_mem_nil _)
  | tuple xs =>
    obtain rfl : xs = [] := by simpa [isTruthy] using missing
    exact .tuple (List.forall_mem_nil _)
  | obj fs =>
    obtain rfl : fs = [] := by simpa [isTruthy] using missing
    exact .obj (List.forall_mem_nil _)
  | keyed es =>
    obtain rfl : es = [] := by simpa [isTruthy] using missing
    exact .keyed (List.forall_mem_nil _)
  | _ => exact .other rfl (by simp)

/-- A value that goes member by member. -/
def isIterable : Value → Bool
  | list _ => true
  | tuple _ => true
  | str _ => true
  | obj _ => true
  | keyed _ => true
  | bytes _ => true
  | keySet _ => true
  | _ => false

/-- Lists, texts and objects have members, and nothing else has. -/
theorem succeeds_members_iff : Succeeds v.members ↔ v.isIterable = true := by
  cases v <;> first
    | exact iff_of_true Outcome.succeeds_ok rfl
    | exact iff_of_false Outcome.not_succeeds_error Bool.false_ne_true

/-- Plain values have no keys that are no texts. -/
theorem MadeOf.strayIssues_eq {number : Binary64 → Prop} (plain : v.MadeOf number) :
    Lenient.strayIssues v = [] := by
  cases plain <;> rfl

theorem MadeOf.ne_decimal {number : Binary64 → Prop} (plain : v.MadeOf number) (d : Decimal) :
    v ≠ .decimal d := by
  rintro rfl
  cases plain

end Value

namespace Record

open Format (Oversized Overflows)

variable {record : Fields} {v : Value}

theorem isPlain_firstFilled {vs : List Value} (plain : ∀ v ∈ vs, v.IsPlain) :
    (firstFilled vs).IsPlain := by
  unfold firstFilled
  cases found : vs.find? fun v => !v.isBlankField with
  | none => exact .null
  | some v => exact plain v (List.mem_of_find?_eq_some found)

/-! ### What a record is mapped from -/

/-- The value with the lines of a record. -/
def listOf (record : Fields) : Value := (record.get "items").orElse (record.get "selected_machines")

def quantityOf (raw : Fields) : Value := firstFilled [raw.get "quantity", .int 1]

def rateOf (raw : Fields) : Value :=
  firstFilled [raw.get "rate", raw.get "base_rate", raw.get "baseRate"]

/-- The amount of a line is filled in, or its quantity and its rate are not too large to be
multiplied. -/
def Computable (raw : Fields) : Prop := (raw.get "amount").isBlankField = true →
  ((quantityOf raw).Short ∧ ¬ Overflows (quantityOf raw)) ∧ (rateOf raw).Short ∧
    ¬ Overflows (rateOf raw)

/-- The names of each of the totals. -/
def totalNames : List (List String) :=
  [["total_rent", "subtotal"], ["discount"], ["gst_amount", "tax"], ["total_cost", "total"],
    ["working_cost"],
    ["mob_demob_cost"], ["food_accom_cost"]]

/-- The amount of money under the first of some names that is filled in. -/
def amountOf (record : Fields) (names : List String) : Value :=
  (firstFilled (names.map record.get)).orElse (.int 0)

/-- Nothing in a record is too large for what is made of it, and its lines are no number. -/
structure Mappable (record : Fields) (today : Date) : Prop where
  id : (record.get "id").Short
  days : (record.get "number_of_days").Short
  parties : ∀ key ∈ ["company", "customer", "customer_contact"],
    ∀ i, record.get key = .int i → IsShort i
  inCalendar : dayOf? (record.get "valid_until") = none →
    (issuedOn record today).ordinal + Settings.validityDays ≤ Date.lastDay.ordinal
  listed : (listOf record).isTruthy = true → (listOf record).isIterable = true
  lines : ∀ entries, listOf record = .list entries → ∀ raw, .obj raw ∈ entries → Computable raw
  totals : ∀ names ∈ totalNames, (amountOf record names).Short ∧ ¬ Oversized (amountOf record names)

/-! ### Parts of a record -/

/-- The id of a record can be told exactly if it has a text. -/
theorem succeeds_idText_iff : Succeeds (idText record) ↔ (record.get "id").Short := by
  rw [idText, Value.succeeds_text_iff, Value.orElse]
  split
  · rfl
  · next missing =>
    exact iff_of_true (.other rfl (by simp [blank]))
      (Value.short_of_not_isTruthy (eq_false_of_ne_true missing))

theorem succeeds_daysText?_iff :
    Succeeds (daysText? record) ↔ (record.get "number_of_days").Short := by
  rw [daysText?]
  split
  · rw [succeeds_bind_iff_left fun _ => Outcome.succeeds_pure, Value.succeeds_text_iff]
  · next missing =>
    exact iff_of_true Outcome.succeeds_ok
      (Value.short_of_not_isTruthy (eq_false_of_ne_true missing))

/-- A record that does not say how long it is valid must not be too late in the calendar. -/
theorem succeeds_validUntil_iff {issued : Date} : Succeeds (validUntil record issued) ↔
    (dayOf? (record.get "valid_until") = none →
      issued.ordinal + Settings.validityDays ≤ Date.lastDay.ordinal) := by
  rw [validUntil, ← Date.isSome_addDays?_iff]
  cases dayOf? (record.get "valid_until") with
  | some d => exact iff_of_true Outcome.succeeds_ok (by simp)
  | none =>
    cases issued.addDays? Settings.validityDays with
    | some d => exact iff_of_true Outcome.succeeds_ok fun _ => rfl
    | none => exact iff_of_false Outcome.not_succeeds_error (by simp)

/-- The lines of a record can be told unless they are given as a number. -/
theorem succeeds_rawItems_iff : Succeeds (rawItems record) ↔
    ((listOf record).isTruthy = true → (listOf record).isIterable = true) := by
  change Succeeds (if (listOf record).isTruthy then _ else _) ↔ _
  split
  · next given => exact Value.succeeds_members_iff.trans (imp_iff_right given).symm
  · next missing => exact iff_of_true Outcome.succeeds_ok fun given => absurd given missing

theorem succeeds_named_iff : Succeeds (named v) ↔ v.Short := by
  rw [named, succeeds_bind_iff_left fun _ => Outcome.succeeds_pure, Value.succeeds_text_iff]

/-- A party can be made of anything but an integer that is too long. -/
theorem succeeds_party_iff : Succeeds (party v) ↔ ∀ i, v = .int i → IsShort i := by
  cases v with
  | int i =>
    refine succeeds_named_iff.trans
      (Value.short_int.trans ⟨fun short j same => ?_, fun all => all i rfl⟩)
    exact Value.int.inj same ▸ short
  | str s => exact iff_of_true (succeeds_named_iff.mpr (.other rfl (by simp))) (by simp)
  | float x => exact iff_of_true (succeeds_named_iff.mpr (.other rfl (by simp))) (by simp)
  | _ => exact iff_of_true Outcome.succeeds_ok (by simp)

/-- An amount is computed of a quantity and a rate that have texts and are not too large for
floats. -/
theorem succeeds_computedAmount_iff {quantity rate : Value} (plain : quantity.IsPlain)
    (plain' : rate.IsPlain) :
    Succeeds (computedAmount quantity rate) ↔
      (quantity.Short ∧ ¬ Overflows quantity) ∧ rate.Short ∧ ¬ Overflows rate := by
  rw [← Format.succeeds_readAmount?_iff fun _ _ => plain.ne_decimal _,
    ← Format.succeeds_readAmount?_iff fun _ _ => plain'.ne_decimal _]
  refine succeeds_bind_iff_and fun q _ => succeeds_bind_iff_left fun r => ?_
  cases q with
  | none => exact Outcome.succeeds_pure
  | some q => cases r <;> exact Outcome.succeeds_pure

/-- A line can be made exactly if its amount can be computed and the days have a text. -/
theorem succeeds_item_iff {raw : Fields} (plain : (Value.obj raw).IsPlain) (index : ℕ)
    (record : Fields) :
    Succeeds (item raw index record) ↔ Computable raw ∧ (record.get "number_of_days").Short := by
  have quantity : (quantityOf raw).IsPlain := isPlain_firstFilled (by simp [plain.get])
  have rate : (rateOf raw).IsPlain := isPlain_firstFilled (by simp [plain.get])
  unfold item Computable
  dsimp only
  rw [← succeeds_computedAmount_iff quantity rate]
  exact Outcome.succeeds_bind_iff_of_ite Outcome.succeeds_pure fun _ =>
    (succeeds_bind_iff_left fun _ => Outcome.succeeds_pure).trans succeeds_daysText?_iff

/-- The lines of a record can be made if the amount of each of them can. -/
theorem succeeds_items_iff {entries : List Value} (plain : ∀ v ∈ entries, v.IsPlain)
    (days : (record.get "number_of_days").Short) (index : ℕ) :
    Succeeds (items record index entries) ↔ ∀ raw, .obj raw ∈ entries → Computable raw := by
  induction entries generalizing index with
  | nil => exact iff_of_true Outcome.succeeds_ok (by simp)
  | cons v rest ih =>
    obtain ⟨first, others⟩ := List.forall_mem_cons.mp plain
    have behind := ih others
    rw [items]
    -- only an object makes a line
    cases first with
    | @obj raw values =>
      have item := succeeds_item_iff (.obj values) index record
      rw [and_iff_left days] at item
      have both :
        Succeeds (do return (← Record.item raw index record) :: (← items record (index + 1) rest)) ↔
          Succeeds (Record.item raw index record) ∧ Succeeds (items record (index + 1) rest) :=
        succeeds_bind_iff_and fun _ _ => succeeds_bind_iff_left fun _ => Outcome.succeeds_pure
      refine both.trans ((and_congr item (behind (index + 1))).trans ?_)
      simp only [List.mem_cons, Value.obj.injEq, or_imp, forall_and, forall_eq]
    | _ => simpa [Value.fields?] using behind (index + 1)

theorem isPlain_listOf (plain : (Value.obj record).IsPlain) : (listOf record).IsPlain := by
  unfold listOf Value.orElse
  split
  · exact plain.get _
  · exact plain.get _

/-- Only a list has lines that are objects; the members of a text or an object are texts. -/
theorem rawItems_eq_ok (plain : (Value.obj record).IsPlain) {entries : List Value}
    (h : rawItems record = .ok entries) : (∀ v ∈ entries, v.IsPlain) ∧
      ((∀ raw, .obj raw ∈ entries → Computable raw) ↔
        ∀ entries, listOf record = .list entries → ∀ raw, .obj raw ∈ entries → Computable raw) := by
  have whole := isPlain_listOf plain
  have h : (if (listOf record).isTruthy then (listOf record).members else .ok []) = .ok entries := h
  generalize listOf record = v at h whole
  -- lines that are no list are texts, so that there is nothing to compute
  have ofTexts (noList : ∀ xs, v ≠ .list xs) (texts : ∀ x ∈ entries, ∃ s, x = .str s) :
      (∀ v ∈ entries, v.IsPlain) ∧ ((∀ raw, .obj raw ∈ entries → Computable raw) ↔
        ∀ entries, v = .list entries → ∀ raw, .obj raw ∈ entries → Computable raw) := by
    refine ⟨fun x hx => ?_, iff_of_true (fun raw hraw => ?_) fun xs same => absurd same (noList xs)⟩
    · obtain ⟨s, rfl⟩ := texts x hx
      exact .str s
    · obtain ⟨s, same⟩ := texts _ hraw
      cases same
  cases whole with
  | @list xs items =>
    obtain rfl : entries = xs := by
      cases xs with
      | nil => exact (Except.ok.inj h).symm
      | cons x rest => exact (Except.ok.inj h).symm
    exact ⟨items, fun all ys same => Value.list.inj same ▸ all, fun all => all _ rfl⟩
  | null =>
    obtain rfl := Except.ok.inj h
    exact ofTexts (by simp) (List.forall_mem_nil _)
  | str s =>
    refine ofTexts (by simp) ?_
    split at h
    · obtain rfl := Except.ok.inj h
      exact List.forall_mem_map.mpr fun c _ => ⟨_, rfl⟩
    · obtain rfl := Except.ok.inj h
      exact List.forall_mem_nil _
  | @obj fs _ =>
    refine ofTexts (by simp) ?_
    split at h
    · obtain rfl := Except.ok.inj h
      exact List.forall_mem_map.mpr fun e _ => ⟨_, rfl⟩
    · obtain rfl := Except.ok.inj h
      exact List.forall_mem_nil _
  | _ =>
    refine ofTexts (by simp) ?_
    split at h
    · cases h
    · obtain rfl := Except.ok.inj h
      exact List.forall_mem_nil _

/-- Data of JSON has no keys but texts. -/
theorem keyIssues_eq {company : Value} (plain : company.IsPlain) {lines : List Value}
    (plain' : ∀ v ∈ lines, v.IsPlain) : keyIssues company lines = [] := by
  rw [keyIssues, plain.strayIssues_eq, List.map_nil, List.nil_append, List.flatMap_eq_nil_iff]
  intro ⟨line, i⟩ placed
  have there : line ∈ lines := List.mem_of_mem_filter (List.fst_mem_of_mem_zipIdx placed)
  simp only [(plain' line there).strayIssues_eq, List.map_nil]

theorem succeeds_client_iff : Succeeds (client record) ↔
    ∀ key ∈ ["customer", "customer_contact"], ∀ i, record.get key = .int i → IsShort i := by
  simp only [List.forall_mem_cons, ← succeeds_party_iff, List.not_mem_nil, IsEmpty.forall_iff,
    implies_true, and_true]
  exact succeeds_bind_iff_and fun _ _ => succeeds_bind_iff_left fun _ => Outcome.succeeds_pure

theorem succeeds_quotation_iff {id : String} {issued valid : Date} :
    Succeeds (quotation record id issued valid) ↔ (record.get "number_of_days").Short :=
  (succeeds_bind_iff_left fun _ => Outcome.succeeds_pure).trans succeeds_daysText?_iff

theorem succeeds_money_iff {names : List String} : Succeeds (money record names) ↔
    (amountOf record names).Short ∧ ¬ Oversized (amountOf record names) :=
  (succeeds_bind_iff_left fun _ => Outcome.succeeds_pure).trans
    (Format.succeeds_currency_iff_short _ _)

/-- The totals can be written exactly if each of them can. -/
theorem succeeds_totals_iff : Succeeds (totals record) ↔
    ∀ names ∈ totalNames, (amountOf record names).Short ∧ ¬ Oversized (amountOf record names) := by
  simp only [← succeeds_money_iff, totalNames, List.forall_mem_cons]
  rw [totals]
  iterate 6 refine succeeds_bind_iff_and fun _ _ => ?_
  rw [and_iff_left (List.forall_mem_nil _)]
  exact succeeds_bind_iff_left fun _ => Outcome.succeeds_pure

end Record

/-- The days are written in any case, also where there are no lines. -/
theorem short_days_of_contextOfRecord {record company : Fields} {today : Date}
    (maps : Succeeds (contextOfRecord record company today)) :
      (record.get "number_of_days").Short := by
  obtain ⟨c, built⟩ := maps
  obtain ⟨_, -, built⟩ := Outcome.bind_eq_ok.mp built
  obtain ⟨_, -, built⟩ := Outcome.bind_eq_ok.mp built
  obtain ⟨_, -, built⟩ := Outcome.bind_eq_ok.mp built
  obtain ⟨_, -, built⟩ := Outcome.bind_eq_ok.mp built
  obtain ⟨_, -, built⟩ := Outcome.bind_eq_ok.mp built
  obtain ⟨_, -, built⟩ := Outcome.bind_eq_ok.mp built
  obtain ⟨quotation, written, -⟩ := Outcome.bind_eq_ok.mp built
  exact Record.succeeds_quotation_iff.mp ⟨quotation, written⟩

/-- A record of the kinds that JSON has, with numbers of any size, can be mapped exactly if nothing
in it is too large for what is made of it and its lines are no number. -/
theorem contextOfRecord_mappable {record company : Fields} {today : Date}
    (plain : (Value.obj record).IsPlain) :
    Succeeds (contextOfRecord record company today) ↔ Record.Mappable record today := by
  by_cases days : (record.get "number_of_days").Short
  · -- the steps in the order in which they are taken
    have steps : Succeeds (contextOfRecord record company today) ↔
        Succeeds (Record.idText record) ∧
          Succeeds (Record.validUntil record (Record.issuedOn record today)) ∧
        Succeeds (Record.rawItems record) ∧
        (∀ entries, Record.listOf record = .list entries → ∀ raw, .obj raw ∈ entries →
          Record.Computable raw) ∧
        Succeeds (Record.party (record.get "company")) ∧ Succeeds (Record.client record) ∧
        Succeeds (Record.totals record) := by
      refine succeeds_bind_iff_and fun id _ => succeeds_bind_iff_and fun valid _ =>
        succeeds_bind_iff_and fun entries members => ?_
      obtain ⟨entriesPlain, lines⟩ := Record.rawItems_eq_ok plain members
      rw [← lines, ← Record.succeeds_items_iff entriesPlain days 0]
      refine succeeds_bind_iff_and fun items _ => succeeds_bind_iff_and fun own _ =>
        succeeds_bind_iff_and fun client _ =>
          succeeds_bind_iff_right (Record.succeeds_quotation_iff.mpr days)
          fun quotation _ => succeeds_bind_iff_left fun totals => ?_
      rw [Record.keyIssues_eq (plain.get "company") entriesPlain]
      exact Outcome.succeeds_pure
    rw [steps, Record.succeeds_idText_iff, Record.succeeds_validUntil_iff,
      Record.succeeds_rawItems_iff, Record.succeeds_party_iff, Record.succeeds_client_iff,
      Record.succeeds_totals_iff]
    constructor
    · rintro ⟨id, inCalendar, listed, lines, company, others, totals⟩
      exact ⟨id, days, List.forall_mem_cons.mpr ⟨company, others⟩, inCalendar, listed,
        lines, totals⟩
    · rintro ⟨id, -, parties, inCalendar, listed, lines, totals⟩
      obtain ⟨company, others⟩ := List.forall_mem_cons.mp parties
      exact ⟨id, inCalendar, listed, lines, company, others, totals⟩
  · exact iff_of_false (fun maps => days (short_days_of_contextOfRecord maps)) fun mappable =>
      days mappable.days

/-- A record with values of other kinds than are looked for. -/
def oddRecord : Fields :=
  [("customer", .int 7), ("created_at", .obj [("bad", .int 1)]),
    ("selected_machines", .str "crane"),
    ("total_cost", .bool true), ("number_of_days", .list [.null])]

theorem oddRecord_mappable : (Value.obj oddRecord).IsPlain ∧
    Succeeds (contextOfRecord oddRecord [] { year := 2026, month := 1, day := 5 }) ∧
    Record.Mappable oddRecord { year := 2026, month := 1, day := 5 } := by
  have plain : (Value.obj oddRecord).IsPlain := by simp [oddRecord]
  have maps : Succeeds (contextOfRecord oddRecord [] { year := 2026, month := 1, day := 5 }) := by
    decide +kernel
  exact ⟨plain, maps, (contextOfRecord_mappable plain).mp maps⟩

/-- A number in the place of the lines. -/
def numberedRecord : Fields := [("items", .int 5)]

/-- The number is gone through like a list, which fails. -/
theorem numberedRecord_unmapped :
    ¬ ∀ (record company : Fields) (today : Date), (Value.obj record).IsPlain →
    Succeeds (contextOfRecord record company today) := by
  intro always
  have plain : (Value.obj numberedRecord).IsPlain := by simp [numberedRecord]
  have fails :
      ¬ Succeeds (contextOfRecord numberedRecord [] { year := 2026, month := 1, day := 5 }) := by
    decide +kernel
  exact fails (always numberedRecord [] _ plain)

end QuotationPress
