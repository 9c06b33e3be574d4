import QuotationPress.Merge.Lookup
import QuotationPress.Proofs.Json.Listing
import QuotationPress.Proofs.Outcome

/-!
# The table of a lookup

The table has the text of every leaf of the data, and the text of a leaf of client or customer also
under the other path, unless that path is a leaf as well: `Lookup.lookup_table`.
-/

namespace QuotationPress.Merge

open Outcome (Succeeds)

/-! ### Client and customer -/

/-- A path is cut behind the bucket, at its first dot. -/
theorem partition_of_bucket {bucket : String} (dotless : '.' ∉ bucket.toList) (rest : String) :
    Text.partition '.' (bucket ++ "." ++ rest) = (bucket, rest) := by
  have chars : (bucket ++ "." ++ rest).toList = bucket.toList ++ '.' :: rest.toList := by simp
  have before : ∀ c ∈ bucket.toList, decide (c ≠ '.') = true := by
    intro c hc
    exact decide_eq_true fun dot => dotless (dot ▸ hc)
  have stop : ∀ c ∈ ('.' :: rest.toList).head?, decide (c ≠ '.') = false := by
    intro c hc
    obtain rfl : '.' = c := Option.some.inj hc
    rfl
  have cut := Text.takeWhile_dropWhile_append before stop
  rw [Text.partition, chars, cut.1, cut.2]
  simp

/-- A path is made of the two parts that it is cut into. -/
theorem eq_of_partition {path bucket rest : String} (h : Text.partition '.' path = (bucket, rest))
    (more : rest ≠ "") : path = bucket ++ "." ++ rest := by
  obtain ⟨hbucket, hrest⟩ := Prod.mk.inj h
  have split := @List.takeWhile_append_dropWhile _ (fun c => decide (c ≠ '.')) path.toList
  apply String.toList_injective
  rw [← split]
  cases behind : path.toList.dropWhile fun c => decide (c ≠ '.') with
  | nil =>
    rw [behind] at hrest
    exact absurd hrest.symm more
  | cons c cs =>
    have dot : c = '.' := by
      have stop := List.head?_dropWhile_not (fun c => decide (c ≠ '.')) path.toList
      rw [behind] at stop
      simpa using stop
    rw [← hbucket, ← hrest, behind, dot]
    simp

/-- The other path has the other bucket and goes on the same way. -/
theorem otherPath?_bucket {bucket other : String} (dotless : '.' ∉ bucket.toList)
    (h : otherBucket? bucket = some other) (rest : String) :
    otherPath? (bucket ++ "." ++ rest) = if rest = "" then none
      else some (other ++ "." ++ rest) := by
  simp [otherPath?, partition_of_bucket dotless, h]

theorem otherPath?_client (rest : String) :
    otherPath? ("client." ++ rest) = if rest = "" then none else some ("customer." ++ rest) :=
  @otherPath?_bucket "client" "customer" (by decide) rfl rest

theorem otherPath?_customer (rest : String) :
    otherPath? ("customer." ++ rest) = if rest = "" then none else some ("client." ++ rest) :=
  @otherPath?_bucket "customer" "client" (by decide) rfl rest

/-- A path has another one if it leads into client or customer. -/
theorem otherPath?_eq_some_iff {path other : String} : otherPath? path = some other ↔
    ∃ rest, rest ≠ "" ∧ (path = "client." ++ rest ∧ other = "customer." ++ rest ∨
      path = "customer." ++ rest ∧ other = "client." ++ rest) := by
  constructor
  · intro h
    unfold otherPath? at h
    split at h
    next bucket rest parts =>
    split at h
    · cases h
    · next given =>
      have more : rest ≠ "" := by simpa using given
      obtain ⟨o, known, rfl⟩ := Option.map_eq_some_iff.mp h
      have path_eq := eq_of_partition parts more
      refine ⟨rest, more, ?_⟩
      unfold otherBucket? at known
      split_ifs at known with client customer
      · left
        rw [path_eq, client, ← Option.some.inj known]
        exact ⟨rfl, rfl⟩
      · right
        rw [path_eq, customer, ← Option.some.inj known]
        exact ⟨rfl, rfl⟩
  · rintro ⟨rest, more, ⟨rfl, rfl⟩ | ⟨rfl, rfl⟩⟩
    · rw [otherPath?_client, if_neg more]
    · rw [otherPath?_customer, if_neg more]

/-- Two paths are the other one of each other. -/
theorem otherPath?_comm {path other : String} :
    otherPath? path = some other ↔ otherPath? other = some path := by
  simp only [otherPath?_eq_some_iff]
  refine exists_congr fun rest => and_congr_right fun _ => ?_
  constructor
  · rintro (⟨hpath, hother⟩ | ⟨hpath, hother⟩)
    · exact .inr ⟨hother, hpath⟩
    · exact .inl ⟨hother, hpath⟩
  · rintro (⟨hother, hpath⟩ | ⟨hother, hpath⟩)
    · exact .inr ⟨hpath, hother⟩
    · exact .inl ⟨hpath, hother⟩

/-- A path into client or customer, be it to nothing but the bucket's name. -/
def IntoBucket (path : String) : Prop :=
  ∃ rest, path = "client." ++ rest ∨ path = "customer." ++ rest

theorem intoBucket_of_otherPath? {path other : String} (h : otherPath? path = some other) :
    IntoBucket path := by
  obtain ⟨rest, -, ⟨rfl, -⟩ | ⟨rfl, -⟩⟩ := otherPath?_eq_some_iff.mp h
  · exact ⟨rest, .inl rfl⟩
  · exact ⟨rest, .inr rfl⟩

theorem IntoBucket.head {path : String} (h : IntoBucket path) : path.toList.head? = some 'c' := by
  obtain ⟨rest, rfl | rfl⟩ := h <;> simp

/-- Nothing stands for what is missing there. -/
theorem IntoBucket.missingText {path : String} (h : IntoBucket path) : missingText path = "" := by
  have unnamed : namedWhenMissing.contains path = false := by
    by_contra named
    have found : path ∈ namedWhenMissing := by simpa using named
    have quotation : ∀ p ∈ namedWhenMissing, p.toList.head? = some 'q' := by decide
    have head := quotation path found
    rw [h.head] at head
    exact absurd head (by decide)
  rw [Merge.missingText, unnamed]
  rfl

/-- The values there are no amounts of money. -/
theorem IntoBucket.pathText {path : String} (h : IntoBucket path) (symbol : String) (v : Value) :
    pathText symbol path v = Format.plain v := by
  have elsewhere : "totals.".toList.isPrefixOf path.toList = false := by
    cases chars : path.toList with
    | nil => rfl
    | cons c cs =>
      have head := h.head
      rw [chars] at head
      obtain rfl : c = 'c' := Option.some.inj head
      rfl
  rw [Merge.pathText, elsewhere]
  simp

/-! ### The table -/

theorem lookup_cons_of_ne {p key : String} (other : p ≠ key) (text : String)
    (table : List (String × String)) :
    ((key, text) :: table).lookup p = table.lookup p := by
  have different : (p == key) = false := by simpa using other
  rw [List.lookup_cons, different]

namespace Lookup

/-- A new entry counts where there is none yet. -/
theorem lookup_putNew (table : List (String × String)) (path text p : String) :
    (putNew table path text).lookup p =
      (table.lookup p).or (if p = path then some text else none) := by
  unfold putNew
  by_cases known : (table.lookup path).isSome = true
  · rw [if_pos known]
    by_cases same : p = path
    · rw [same, if_pos rfl]
      obtain ⟨t, found⟩ := Option.isSome_iff_exists.mp known
      rw [found]
      rfl
    · rw [if_neg same, Option.or_none]
  · rw [if_neg known, List.lookup_append]
    by_cases same : p = path
    · rw [same, List.lookup_cons_self, if_pos rfl]
    · rw [lookup_cons_of_ne same, if_neg same]
      rfl

/-- What the first entries of a table add to another one under their other paths. -/
theorem lookup_addOtherPaths (entries table : List (String × String)) (path : String) :
    (entries.foldl (fun t e => match otherPath? e.1 with
      | some other => putNew t other e.2
      | none => t) table).lookup path =
    (table.lookup path).or ((otherPath? path).bind fun other => entries.lookup other) := by
  induction entries generalizing table with
  | nil => cases otherPath? path <;> simp
  | cons e rest ih =>
    obtain ⟨key, text⟩ := e
    rw [List.foldl_cons, ih]
    -- an entry is added under the path only if it is the other one of the path
    by_cases mine : otherPath? key = some path
    · have back := otherPath?_comm.mp mine
      simp only [mine, back, lookup_putNew, if_pos, Option.bind_some, List.lookup_cons_self]
      cases table.lookup path <;> rfl
    · have later : ((otherPath? path).bind fun other => List.lookup other ((key, text) :: rest)) =
          (otherPath? path).bind fun other => rest.lookup other := by
        cases back : otherPath? path with
        | none => rfl
        | some other =>
          have apart : other ≠ key := by
            rintro rfl
            exact mine (otherPath?_comm.mp back)
          exact lookup_cons_of_ne apart text rest
      rw [later]
      cases there : otherPath? key with
      | none => rfl
      | some p =>
        have apart : path ≠ p := by
          rintro rfl
          exact mine there
        simp only [lookup_putNew, if_neg apart, Option.or_none]

/-- An entry of its own comes first, then the one of the other path. -/
theorem lookup_withOtherPaths (table : List (String × String)) (path : String) :
    (withOtherPaths table).lookup path =
      (table.lookup path).or ((otherPath? path).bind fun other => table.lookup other) :=
  lookup_addOtherPaths table table path

/-- Each leaf has its text in the table. -/
theorem lookup_leafTexts {symbol : String} {fs : Fields} {table : List (String × String)}
    (h : leafTexts symbol fs = .ok table) (path : String) :
    table.lookup path = (fs.get? path).bind fun v => (pathText symbol path v).toOption := by
  induction fs generalizing table with
  | nil =>
    obtain rfl := Except.ok.inj h
    rfl
  | cons e rest ih =>
    obtain ⟨key, v⟩ := e
    obtain ⟨text, told, h⟩ := Outcome.bind_eq_ok.mp h
    obtain ⟨texts, others, h⟩ := Outcome.bind_eq_ok.mp h
    rw [← Except.ok.inj h, Fields.get?_cons]
    by_cases same : path = key
    · rw [same, List.lookup_cons_self, if_pos rfl, Option.bind_some, told]
      rfl
    · rw [lookup_cons_of_ne same, if_neg same, ih others]

theorem succeeds_pathText_of_mem {symbol : String} {fs : Fields} {table : List (String × String)}
    (h : leafTexts symbol fs = .ok table) {e : String × Value} (he : e ∈ fs) :
    Succeeds (pathText symbol e.1 e.2) := by
  induction fs generalizing table with
  | nil => cases he
  | cons f rest ih =>
    obtain ⟨text, told, h⟩ := Outcome.bind_eq_ok.mp h
    obtain ⟨texts, others, -⟩ := Outcome.bind_eq_ok.mp h
    rcases List.mem_cons.mp he with rfl | later
    · exact ⟨text, told⟩
    · exact ih others later

/-- The leaf at a path. -/
def leaf? (l : Lookup) (path : String) : Option Value := (flatten (.obj l.data)).get? path

/-- The text of the leaf at a path. -/
def leafText? (l : Lookup) (path : String) : Option String :=
  (l.leaf? path).bind fun v => (pathText l.symbol path v).toOption

variable {symbol : String} {c : RenderContext} {l : Lookup}

theorem of?_eq_ok (h : of? symbol c = .ok l) : ∃ table,
    leafTexts symbol (flatten (.obj c.mapping)) = .ok table ∧
      { data := c.mapping, symbol, table := withOtherPaths table } = l := by
  obtain ⟨table, texts, h⟩ := Outcome.bind_eq_ok.mp h
  exact ⟨table, texts, Except.ok.inj h⟩

/-- A leaf has a text if there is one and it can be written. -/
theorem leafText?_eq_some_iff {path text : String} :
    l.leafText? path = some text ↔
      ∃ v, l.leaf? path = some v ∧ pathText l.symbol path v = .ok text := by
  unfold leafText?
  constructor
  · intro told
    obtain ⟨v, leaf, told⟩ := Option.bind_eq_some_iff.mp told
    refine ⟨v, leaf, ?_⟩
    cases written : pathText l.symbol path v with
    | error e =>
      rw [written] at told
      cases told
    | ok t =>
      rw [written] at told
      rw [Option.some.inj told]
  · rintro ⟨v, leaf, told⟩
    rw [leaf, Option.bind_some, told]
    rfl

/-- Every leaf has its text. -/
theorem leafText?_eq_none_iff (h : of? symbol c = .ok l) {path : String} :
    l.leafText? path = none ↔ l.leaf? path = none := by
  constructor
  · intro untold
    by_contra given
    obtain ⟨v, leaf⟩ := Option.ne_none_iff_exists'.mp given
    obtain ⟨table, texts, rfl⟩ := of?_eq_ok h
    obtain ⟨text, told⟩ := succeeds_pathText_of_mem texts (Fields.mem_of_get? leaf)
    have found := leafText?_eq_some_iff.mpr ⟨v, leaf, told⟩
    rw [untold] at found
    cases found
  · intro absent
    rw [leafText?, absent]
    rfl

/-- The table answers with the leaf at a path, and with the leaf at its other path if there is
none. -/
theorem lookup_table (h : of? symbol c = .ok l) (path : String) :
    l.table.lookup path = (l.leafText? path).or ((otherPath? path).bind l.leafText?) := by
  obtain ⟨table, texts, rfl⟩ := of?_eq_ok h
  have entry (p : String) : table.lookup p = ((flatten (.obj c.mapping)).get? p).bind fun v =>
      (pathText symbol p v).toOption := lookup_leafTexts texts p
  show (withOtherPaths table).lookup path = _
  rw [lookup_withOtherPaths]
  simp only [entry]
  rfl

end Lookup

end QuotationPress.Merge
