import QuotationPress.Proofs.Json.Listing
import QuotationPress.Quotation.Record

/-!
# The lines of a quotation

`Record.LineOf` says what of an entry comes into its line; `contextOfRecord_lines` that the lines of
a context are those of the objects among the entries, in order, and that they are numbered by their
places among all entries: from one on without a gap exactly if no other entry stands in front of an
object.
-/

namespace QuotationPress

/-- The places at which the members with a property stand follow one another from the first one on
exactly if these members stand in front. -/
theorem findIdxs_eq_range'_iff {α : Type} {p : α → Bool} {l : List α} {i : Nat} :
    l.findIdxs p i = List.range' i (l.filter p).length ↔ l.filter p <+: l := by
  induction l generalizing i with
  | nil => exact iff_of_true rfl List.nil_prefix
  | cons a rest ih =>
    rw [List.findIdxs_cons, List.filter_cons]
    by_cases ha : p a
    · rw [if_pos ha, if_pos ha, List.length_cons, List.range'_succ, List.cons.injEq,
        and_iff_right rfl, ih, List.prefix_cons_inj]
    · rw [if_neg ha, if_neg ha]
      cases found : rest.filter p with
      | nil =>
        have none : rest.findIdxs p (i + 1) = [] :=
          List.findIdxs_eq_nil_iff.mpr fun x hx => by
            simpa using List.filter_eq_nil_iff.mp found x hx
        exact iff_of_true none List.nil_prefix
      | cons b more =>
        -- the first one found stands behind `a`, and is another member
        refine iff_of_false (fun same => ?_) fun front => ?_
        · have first : i ∈ rest.findIdxs p (i + 1) := by
            rw [same, List.length_cons, List.range'_succ]
            exact List.mem_cons_self
          exact absurd (List.ge_of_mem_findIdxs i first) (Nat.not_succ_le_self i)
        · obtain ⟨rfl, -⟩ := List.cons_prefix_cons.mp front
          exact ha (List.of_mem_filter (found ▸ List.mem_cons_self))

namespace Fields

/-- A new entry counts where there is none yet. -/
theorem get?_putNew (fs : Fields) (key k : String) (v : Value) :
    (fs.putNew k v).get? key = (fs.get? key).or (if key = k then some v else none) := by
  unfold putNew has
  split
  · next there =>
    by_cases same : key = k
    · obtain ⟨w, hw⟩ := Option.isSome_iff_exists.mp there
      rw [same, hw, Option.some_or]
    · rw [if_neg same, Option.or_none]
  · next missing =>
    by_cases same : key = k
    · rw [same, get?_put_self, Option.not_isSome_iff_eq_none.mp missing, Option.none_or, if_pos rfl]
    · rw [get?_put_of_ne same, if_neg same, Option.or_none]

/-- Entries that are added behind others do not count where there are others. -/
theorem get?_foldl_putNew (fs raw : Fields) (key : String) :
    (raw.foldl (fun fs e => fs.putNew e.1 e.2) fs).get? key = (fs.get? key).or (raw.get? key) := by
  induction raw generalizing fs with
  | nil => rw [List.foldl_nil, get?_nil, Option.or_none]
  | cons e rest ih =>
    rw [List.foldl_cons, ih, get?_putNew, get?_cons, Option.or_assoc]
    split <;> rfl

end Fields

namespace Record

/-- A line has all keys of an entry, and all its values but for the number and for what counts as
not given. -/
structure LineOf (raw line : Fields) : Prop where
  keys : ∀ key, (raw.get? key).isSome → (line.get? key).isSome
  values : ∀ key v, key ≠ "no" → raw.get? key = some v → v.isTruthy = true → line.get? key = some v

theorem not_isBlankField_of_isTruthy {v : Value} (given : v.isTruthy = true) :
    v.isBlankField = false := by
  cases v <;> simp_all [Value.isBlankField, Value.isTruthy]

theorem firstFilled_of_isTruthy {v : Value} (given : v.isTruthy = true) (rest : List Value) :
    firstFilled (v :: rest) = v := by
  rw [firstFilled, List.find?_cons, not_isBlankField_of_isTruthy given]
  rfl

/-- A line begins with its number and with what its own entry gives for it. -/
theorem item_eq_ok {raw record line : Fields} {index : Nat} (h : item raw index record = .ok line) :
    ∃ named : Fields, line = raw.foldl (fun fs e => fs.putNew e.1 e.2) named ∧
      named.get? "no" = some (.int (index + 1)) ∧
      ∀ e ∈ named, e.1 ≠ "no" → ∀ v, raw.get? e.1 = some v → v.isTruthy = true → e.2 = v := by
  have first {key : String} {v : Value} (others : List Value) (found : raw.get? key = some v)
      (given : v.isTruthy = true) : firstFilled (raw.get key :: others) = v := by
    rw [Fields.get_of_get? found, firstFilled_of_isTruthy given]
  have orBlank {w v : Value} (same : w = v) (given : v.isTruthy = true) : w.orElse blank = v := by
    rw [same, Value.orElse, if_pos given]
  -- the amount is computed only if none is filled in
  unfold item at h
  dsimp only at h
  split at h
  all_goals
    obtain ⟨amount, hamount, h⟩ := Outcome.bind_eq_ok.mp h
    obtain ⟨days, -, h⟩ := Outcome.bind_eq_ok.mp h
    have total (v : Value) (found : raw.get? "amount" = some v) (given : v.isTruthy = true) :
        amount = v := by
      have filled := not_isBlankField_of_isTruthy given
      rw [← Fields.get_of_get? found] at filled ⊢
      simp_all [pure, Except.pure]
    refine ⟨_, (Except.ok.inj h).symm, rfl, ?_⟩
    simp only [List.forall_mem_cons]
    exact ⟨fun no => absurd rfl no, fun _ v found given => orBlank (first _ found given) given,
      fun _ v found given => orBlank (first _ found given) given,
      fun _ v found given => orBlank (first _ found given) given, fun _ v => first _,
      fun _ v found given => orBlank (Fields.get_of_get? found) given,
      fun _ v found given => orBlank (first _ found given) given, fun _ v => first _,
      fun _ v found _ => Fields.get_of_get? found, fun _ v found _ => Fields.get_of_get? found,
      fun _ v found _ => Fields.get_of_get? found, fun _ => total, nofun⟩

/-- A line has the number of its place and what its entry gives. -/
theorem lineOf_item {raw record line : Fields} {index : Nat}
    (h : item raw index record = .ok line) :
    LineOf raw line ∧ line.get? "no" = some (.int (index + 1)) := by
  obtain ⟨named, rfl, number, own⟩ := item_eq_ok h
  refine ⟨⟨fun key there => ?_, fun key v other found given => ?_⟩, ?_⟩
  · rw [Fields.get?_foldl_putNew, Option.isSome_or, there, Bool.or_true]
  · rw [Fields.get?_foldl_putNew]
    cases there : named.get? key with
    | none => rw [Option.none_or, found]
    | some w => exact congrArg some (own (key, w) (Fields.mem_of_get? there) other v found given)
  · rw [Fields.get?_foldl_putNew, number, Option.some_or]

/-- Each object among the entries gives a line, which is numbered by its place among all entries. -/
theorem items_eq_ok {record : Fields} {index : Nat} {entries : List Value} {lines : List Fields}
    (h : items record index entries = .ok lines) :
    List.Forall₂ LineOf (entries.filterMap Value.fields?) lines ∧
      lines.map (fun line : Fields => line.get? "no") =
        (entries.findIdxs Value.isObject index).map fun i : Nat => some (Value.int (i + 1)) := by
  induction entries generalizing index lines with
  | nil =>
    obtain rfl := Except.ok.inj h
    exact ⟨.nil, rfl⟩
  | cons v rest ih =>
    rw [items] at h
    rw [List.filterMap_cons, List.findIdxs_cons, Value.isObject]
    -- an entry that is no object makes no line but takes a number
    cases object : v.fields? with
    | none =>
      rw [object] at h
      exact ih h
    | some raw =>
      rw [object] at h
      obtain ⟨line, hline, h⟩ := Outcome.bind_eq_ok.mp h
      obtain ⟨more, hmore, h⟩ := Outcome.bind_eq_ok.mp h
      obtain rfl := Except.ok.inj h
      obtain ⟨own, number⟩ := lineOf_item hline
      obtain ⟨others, numbers⟩ := ih hmore
      refine ⟨.cons own others, ?_⟩
      rw [Option.isSome_some, if_pos rfl, List.map_cons, List.map_cons, number, numbers]

/-- Lines are numbered from one on if the list of their numbers says so. -/
theorem numbered_iff {lines : List Fields} :
    (∀ (k : Nat) (line : Fields), lines[k]? = some line → line.get? "no" = some (.int (k + 1))) ↔
      lines.map (fun line => line.get? "no") =
        (List.range' 0 lines.length).map fun i : Nat => some (Value.int (i + 1)) := by
  constructor
  · intro all
    refine List.ext_getElem (by simp) fun k hk _ => ?_
    rw [List.length_map] at hk
    simpa using all k lines[k] (List.getElem?_eq_getElem hk)
  · intro same k line hk
    obtain ⟨short, rfl⟩ := List.getElem?_eq_some_iff.mp hk
    have here := congrArg (fun numbers => numbers[k]?) same
    simpa [short] using here

theorem rawItems_of_list {record : Fields} {entries : List Value}
    (listed : (record.get "items").orElse (record.get "selected_machines") = .list entries) :
    rawItems record = .ok entries := by
  rw [rawItems, listed]
  cases entries <;> rfl

end Record

/-- The items of a context are the lines of its record. -/
theorem items_of_contextOfRecord {record company : Fields} {today : Date} {c : RenderContext}
    {entries : List Value} (built : contextOfRecord record company today = .ok c)
    (listed : (record.get "items").orElse (record.get "selected_machines") = .list entries) :
    Record.items record 0 entries = .ok c.items := by
  obtain ⟨_, -, built⟩ := Outcome.bind_eq_ok.mp built
  obtain ⟨_, -, built⟩ := Outcome.bind_eq_ok.mp built
  obtain ⟨given, hgiven, built⟩ := Outcome.bind_eq_ok.mp built
  obtain rfl : given = entries := Except.ok.inj (hgiven.symm.trans (Record.rawItems_of_list listed))
  obtain ⟨lines, hlines, built⟩ := Outcome.bind_eq_ok.mp built
  obtain ⟨_, -, built⟩ := Outcome.bind_eq_ok.mp built
  obtain ⟨_, -, built⟩ := Outcome.bind_eq_ok.mp built
  obtain ⟨_, -, built⟩ := Outcome.bind_eq_ok.mp built
  obtain ⟨_, -, built⟩ := Outcome.bind_eq_ok.mp built
  dsimp only at built
  split at built
  · cases built
  · rw [← Except.ok.inj built, hlines]

/-- The objects among the entries of a record are the lines of its context, in order, each with what
its entry says, and they are numbered by their places among all entries. So the numbers go from one
on without a gap exactly if no other entry stands in front of an object. -/
theorem contextOfRecord_lines {record company : Fields} {today : Date} {c : RenderContext}
    {entries : List Value} (built : contextOfRecord record company today = .ok c)
    (listed : (record.get "items").orElse (record.get "selected_machines") = .list entries) :
    List.Forall₂ Record.LineOf (entries.filterMap Value.fields?) c.items ∧
    c.items.map (fun line : Fields => line.get? "no") =
      (entries.findIdxs Value.isObject).map (fun i : Nat => some (Value.int (i + 1))) ∧
    ((∀ (k : Nat) (line : Fields), c.items[k]? = some line → line.get? "no" = some (.int (k + 1))) ↔
      entries.filter Value.isObject <+: entries) := by
  obtain ⟨own, numbers⟩ := Record.items_eq_ok (items_of_contextOfRecord built listed)
  refine ⟨own, numbers, ?_⟩
  have count : c.items.length = (entries.filter Value.isObject).length := by
    have lengths := congrArg List.length numbers
    rwa [List.length_map, List.length_map, List.length_findIdxs,
      List.countP_eq_length_filter] at lengths
  have number : Function.Injective fun i : Nat => some (Value.int (i + 1)) := fun i j same => by
    simpa using same
  rw [Record.numbered_iff, numbers, count, (List.map_injective_iff.mpr number).eq_iff,
    findIdxs_eq_range'_iff]

/-- A crane, described, and a bare word behind it. -/
def craneRecord : Fields :=
  [("items", .list [.obj [("description", .str "Tower crane"), ("no", .int 7)], .str "crane"])]

theorem craneRecord_lines :
    ∃ c, contextOfRecord craneRecord [] { year := 2026, month := 1, day := 5 } = .ok c ∧
      c.items.length = 1 ∧
      ∀ (k : Nat) (line : Fields), c.items[k]? = some line →
        line.get? "no" = some (.int (k + 1)) := by
  obtain ⟨c, built⟩ :
      Outcome.Succeeds (contextOfRecord craneRecord [] { year := 2026, month := 1, day := 5 }) := by
    decide +kernel
  obtain ⟨own, -, numbered⟩ := contextOfRecord_lines built rfl
  exact ⟨c, built, own.length_eq.symm, numbered.mpr ⟨[.str "crane"], rfl⟩⟩

/-- The same entries, the word in front. -/
def wordRecord : Fields :=
  [("items", .list [.str "crane", .obj [("description", .str "Tower crane")]])]

/-- The only line has the number two. -/
theorem wordRecord_skips :
    ¬ ∀ (record company : Fields) (today : Date) (c : RenderContext) (entries : List Value),
    contextOfRecord record company today = .ok c →
    (record.get "items").orElse (record.get "selected_machines") = .list entries →
    ∀ (k : Nat) (line : Fields), c.items[k]? = some line →
      line.get? "no" = some (.int (k + 1)) := by
  intro always
  obtain ⟨c, built⟩ :
      Outcome.Succeeds (contextOfRecord wordRecord [] { year := 2026, month := 1, day := 5 }) := by
    decide +kernel
  obtain ⟨-, numbers⟩ := Record.items_eq_ok (items_of_contextOfRecord built rfl)
  have numbers : c.items.map (fun line : Fields => line.get? "no") = [some (.int 2)] := numbers
  have first := always _ _ _ c _ built rfl 0
  cases lines : c.items with
  | nil =>
    rw [lines] at numbers
    cases numbers
  | cons line more =>
    rw [lines] at numbers first
    rw [List.map_cons, first line rfl] at numbers
    cases numbers

end QuotationPress
