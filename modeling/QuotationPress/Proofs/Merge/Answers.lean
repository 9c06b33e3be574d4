import QuotationPress.Proofs.Context.Leaves
import QuotationPress.Proofs.Merge.LookupTable

/-!
# What a lookup answers, from its table and from the walk

`Lookup.resolve_walkText` says where both give the same answer, and what the table gives elsewhere;
`Lookup.resolve_mirrored` says when client and customer have an answer for each other.
-/

namespace QuotationPress

open Outcome (Succeeds)

namespace RenderContext

/-- Client and customer in the place of each other bring no dots with them. -/
theorem dotless_mapping {c : RenderContext} (d : (Value.obj c.fields).Dotless) :
    (Value.obj c.mapping).Dotless := by
  cases d with
  | obj distinct steps values =>
    obtain ⟨company, client, customer, others⟩ := by
      simpa only [fields, List.cons_append, List.forall_mem_cons] using values
    unfold mapping mirrored
    -- an empty client or customer takes what the other one has
    split_ifs
    · refine .obj distinct steps ?_
      simpa only [fields, List.cons_append, List.forall_mem_cons] using
        ⟨company, customer, customer, others⟩
    · refine .obj distinct steps ?_
      simpa only [fields, List.cons_append, List.forall_mem_cons] using
        ⟨company, client, client, others⟩
    · exact .obj distinct steps values
  | leaf single => cases single

end RenderContext

namespace Merge

namespace Lookup

variable {symbol : String} {c : RenderContext} {l : Lookup}

/-! ### The walk alone -/

/-- The answer without the table. -/
def walkText (l : Lookup) (path : String) : Outcome String := do
  let v ← l.raw path
  let text ← if v.isNull then pure "" else pathText l.symbol path v
  return if text ≠ "" then text else missingText path

theorem resolve_of_lookup {path text : String} (h : l.table.lookup path = some text)
    (given : text ≠ "") :
    l.resolve path = .ok text := by
  unfold resolve
  rw [h, Option.getD_some, if_pos given]
  rfl

/-- Where the table has no text, or an empty one, the walk answers. -/
theorem resolve_of_lookup_empty {path : String} (h : (l.table.lookup path).getD "" = "") :
    l.resolve path = l.walkText path := by
  unfold resolve
  rw [h]
  exact if_neg (not_not_intro rfl)

theorem raw_of_walk {path : String} {v : Value} (h : (Value.obj l.data).walk path = .ok v)
    (given : v.isNull = false) : l.raw path = .ok v := by
  rw [raw, h, Outcome.ok_bind, given]
  rfl

/-- From null the walk turns to the other path. -/
theorem raw_of_walk_null {path other : String} (h : (Value.obj l.data).walk path = .ok .null)
    (there : otherPath? path = some other) : l.raw path = (Value.obj l.data).walk other := by
  rw [raw, h, Outcome.ok_bind, there]
  rfl

theorem raw_of_walk_null_alone {path : String} (h : (Value.obj l.data).walk path = .ok .null)
    (alone : otherPath? path = none) : l.raw path = .ok .null := by
  rw [raw, h, Outcome.ok_bind, alone]
  rfl

theorem isNull_eq_false_of_text {write : Value → Outcome String} (blank : write .null = .ok "")
    {v : Value} {text : String} (told : write v = .ok text) (nonempty : text ≠ "") :
    v.isNull = false := by
  by_contra null
  obtain rfl := Value.eq_null_of_isNull (by simpa using null)
  exact nonempty (Except.ok.inj (told.symm.trans blank))

theorem pathText_null (symbol path : String) : pathText symbol path .null = .ok "" := by
  unfold pathText
  split <;> rfl

/-- A value that is found answers with its text, if that is not empty. -/
theorem walkText_of_raw {path : String} {v : Value} (h : l.raw path = .ok v)
    (given : v.isNull = false) {text : String} (told : pathText l.symbol path v = .ok text)
    (nonempty : text ≠ "") :
    l.walkText path = .ok text := by
  unfold walkText
  rw [h, Outcome.ok_bind]
  dsimp only
  rw [if_neg (by simp [given]), told, Outcome.ok_bind, if_pos nonempty]
  rfl

/-- The walk ends at the leaf that the table knows. -/
theorem walk_of_leaf? (d : (Value.obj l.data).Dotless) {path : String} {v : Value}
    (leaf : l.leaf? path = some v) (ends : Succeeds ((Value.obj l.data).walk path)) :
    (Value.obj l.data).walk path = .ok v :=
  walk_of_mem_flatten d (Fields.mem_of_get? leaf) ends

/-- The text of a leaf at the other path stands in the table for something that is no leaf: the path
leads to more than null, a container for example. -/
structure Overlaid (l : Lookup) (path text : String) : Prop where
  noLeaf : l.leaf? path = none
  told : (otherPath? path).bind l.leafText? = some text
  nonempty : text ≠ ""
  leads : (Value.obj l.data).walk path ≠ .ok .null

/-- An overlaid path answers with the text of the leaf at the other path. -/
theorem resolve_overlaid (h : of? symbol c = .ok l) {path text : String}
    (overlaid : l.Overlaid path text) :
    l.resolve path = .ok text := by
  refine resolve_of_lookup ?_ overlaid.nonempty
  rw [lookup_table h, (leafText?_eq_none_iff h).mpr overlaid.noLeaf, Option.none_or, overlaid.told]

/-- The table and the walk agree, and what the table has beyond the walk is the text of the other
path. -/
theorem resolve_walkText (h : of? symbol c = .ok l) (d : (Value.obj c.fields).Dotless)
    {path : String} (ends : Succeeds (l.raw path)) :
    (∀ text, l.Overlaid path text → l.resolve path = .ok text) ∧
    ((∀ text, ¬ l.Overlaid path text) → l.resolve path = l.walkText path) := by
  refine ⟨fun text overlaid => resolve_overlaid h overlaid, ?_⟩
  intro bare
  have data : (Value.obj l.data).Dotless := by
    obtain ⟨table, -, rfl⟩ := of?_eq_ok h
    exact RenderContext.dotless_mapping d
  obtain ⟨v, walked, -⟩ := Outcome.succeeds_bind.mp ends
  by_cases empty : (l.table.lookup path).getD "" = ""
  · exact resolve_of_lookup_empty empty
  · obtain ⟨text, found⟩ : ∃ text, l.table.lookup path = some text := by
      cases found : l.table.lookup path with
      | none => simp [found] at empty
      | some text => exact ⟨text, rfl⟩
    have nonempty : text ≠ "" := by simpa [found] using empty
    rw [resolve_of_lookup found nonempty]
    rw [lookup_table h] at found
    cases own : l.leafText? path with
    | some t =>
      -- the path is a leaf, and the walk ends there
      rw [own] at found
      obtain rfl : t = text := Option.some.inj found
      obtain ⟨w, leaf, told⟩ := leafText?_eq_some_iff.mp own
      have there := walk_of_leaf? data leaf ⟨v, walked⟩
      have given := isNull_eq_false_of_text (pathText_null l.symbol _) told nonempty
      exact (walkText_of_raw (raw_of_walk there given) given told nonempty).symm
    | none =>
      -- the other path is a leaf; the walk turns to it only from null
      rw [own, Option.none_or] at found
      have noLeaf := (leafText?_eq_none_iff h).mp own
      have null : (Value.obj l.data).walk path = .ok .null := by
        by_contra leads
        exact bare text ⟨noLeaf, found, nonempty, leads⟩
      obtain ⟨other, there, told⟩ := Option.bind_eq_some_iff.mp found
      obtain ⟨w, leaf, told⟩ := leafText?_eq_some_iff.mp told
      have raw := raw_of_walk_null null there
      have turned := walk_of_leaf? data leaf (raw ▸ ends)
      have given := isNull_eq_false_of_text (pathText_null l.symbol _) told nonempty
      rw [turned] at raw
      have same : pathText l.symbol path w = .ok text := by
        rw [(intoBucket_of_otherPath? there).pathText, ← told]
        exact ((intoBucket_of_otherPath? (otherPath?_comm.mp there)).pathText l.symbol w).symm
      exact (walkText_of_raw raw given same nonempty).symm

/-- A client whose address has parts, and a customer whose address is one line. -/
def twoAddresses : RenderContext where
  client := [("name", .str "Meera"), ("address", .obj [("city", .str "Pune")])]
  customer := [("address", .str "Street 5")]

theorem dotless_twoAddresses : (Value.obj twoAddresses.fields).Dotless := by
  have empty : (Value.obj []).Dotless := .obj (by decide) nofun nofun
  have city : (Value.obj [("city", .str "Pune")]).Dotless :=
    .obj (by decide) (by decide) (List.forall_mem_singleton.mpr (.leaf rfl))
  have client : (Value.obj twoAddresses.client).Dotless := by
    refine .obj (by decide) (by decide) ?_
    simp only [twoAddresses, List.forall_mem_cons]
    exact ⟨.leaf rfl, city, nofun⟩
  have customer : (Value.obj twoAddresses.customer).Dotless :=
    .obj (by decide) (by decide) (List.forall_mem_singleton.mpr (.leaf rfl))
  refine .obj (by decide) (by decide) ?_
  simp only [RenderContext.fields, List.cons_append, List.forall_mem_cons]
  exact ⟨empty, client, customer, empty, .list nofun, empty, empty, nofun⟩

/-- The lookup of these addresses. -/
def addressLookup : Lookup where
  data := twoAddresses.fields
  symbol := "₹"
  table :=
    [("client.name", "Meera"), ("client.address.city", "Pune"), ("customer.address", "Street 5"),
    ("customer.name", "Meera"), ("customer.address.city", "Pune"), ("client.address", "Street 5")]

theorem of?_twoAddresses : of? "₹" twoAddresses = .ok addressLookup := by rfl

theorem twoAddresses_walked : (Value.obj twoAddresses.fields).Dotless ∧
    of? "₹" twoAddresses = .ok addressLookup ∧
    Succeeds (addressLookup.raw "client.address") ∧ Succeeds (addressLookup.raw "customer.name") ∧
    addressLookup.resolve "client.address" = .ok "Street 5" ∧
    addressLookup.resolve "customer.name" = addressLookup.walkText "customer.name" := by
  have address : Succeeds (addressLookup.raw "client.address") := ⟨_, rfl⟩
  have name : Succeeds (addressLookup.raw "customer.name") := ⟨_, rfl⟩
  -- the address of the client has parts, so that it is no leaf
  have overlaid : addressLookup.Overlaid "client.address" "Street 5" := by
    refine ⟨by rfl, by rfl, by decide, ?_⟩
    have leads : (Value.obj addressLookup.data).walk "client.address" =
        .ok (.obj [("city", .str "Pune")]) := by rfl
    rw [leads]
    exact nofun
  have bare : ∀ text, ¬ addressLookup.Overlaid "customer.name" text := by
    intro text other
    exact other.leads rfl
  exact ⟨dotless_twoAddresses, of?_twoAddresses, address, name,
    (resolve_walkText of?_twoAddresses dotless_twoAddresses address).1 "Street 5" overlaid,
    (resolve_walkText of?_twoAddresses dotless_twoAddresses name).2 bare⟩

/-- The address of the customer is shown in the place of the client's, which has a table entry only
for its parts. -/
theorem twoAddresses_overlaid :
    ¬ ∀ (symbol : String) (c : RenderContext) (l : Lookup) (path : String),
    (Value.obj c.fields).Dotless → of? symbol c = .ok l → Succeeds (l.raw path) →
      l.resolve path = l.walkText path := by
  intro always
  have same := always "₹" twoAddresses addressLookup "client.address" dotless_twoAddresses
    of?_twoAddresses ⟨_, rfl⟩
  have table : addressLookup.resolve "client.address" = .ok "Street 5" := by rfl
  have walk : addressLookup.walkText "client.address" = .ok "" := by rfl
  rw [table, walk] at same
  exact absurd (Except.ok.inj same) (by decide)

/-! ### Client and customer for each other -/

/-- The path is a leaf with a text. -/
def LeafSpeaks (l : Lookup) (path : String) : Prop :=
  ∃ text, l.leafText? path = some text ∧ text ≠ ""

/-- The walk along the path ends at something with a text. -/
def WalkSpeaks (l : Lookup) (path : String) : Prop :=
  ∃ v text, (Value.obj l.data).walk path = .ok v ∧ Format.plain v = .ok text ∧ text ≠ ""

/-- There is a text at the path itself. -/
def Speaks (l : Lookup) (path : String) : Prop := l.LeafSpeaks path ∨ l.WalkSpeaks path

/-- The path leaves the answer to the other one, which has it: the path is no leaf, or it leads to
null. A leaf with an empty text is neither. -/
def Yields (l : Lookup) (path other : String) : Prop :=
  otherPath? path = some other ∧
    (l.leaf? path = none ∧ l.LeafSpeaks other ∨
      (Value.obj l.data).walk path = .ok .null ∧ l.WalkSpeaks other)

theorem Yields.speaks {path other : String} (yields : l.Yields path other) : l.Speaks other := by
  obtain ⟨-, ⟨-, leaf⟩ | ⟨-, walk⟩⟩ := yields
  · exact .inl leaf
  · exact .inr walk

/-- The table has a text for the path if the path is a leaf with a text, or if it yields to one. -/
theorem table_speaks_iff (h : of? symbol c = .ok l) (path : String) :
    (l.table.lookup path).getD "" ≠ "" ↔
      l.LeafSpeaks path ∨ l.leaf? path = none ∧ ∃ other, otherPath? path = some other ∧
      l.LeafSpeaks other := by
  rw [lookup_table h]
  cases own : l.leafText? path with
  | some t =>
    have leaf : l.leaf? path ≠ none := by
      rw [Ne, ← leafText?_eq_none_iff h, own]
      exact nofun
    simp [LeafSpeaks, own, leaf]
  | none =>
    have noLeaf := (leafText?_eq_none_iff h).mp own
    cases there : otherPath? path with
    | none => simp [LeafSpeaks, own]
    | some other =>
      cases told : l.leafText? other with
      | none => simp [LeafSpeaks, own, told]
      | some t => simp [LeafSpeaks, own, told, noLeaf]

/-- In client and customer the walk alone gives the plain text of what it finds. -/
theorem walkText_of_intoBucket {path : String} (into : IntoBucket path) :
    l.walkText path = l.raw path >>= Format.plain := by
  unfold walkText
  refine bind_congr fun v => ?_
  have told : ∀ text : String, (if text ≠ "" then text else missingText path) = text := by
    intro text
    by_cases empty : text = ""
    · rw [if_neg (not_not_intro empty), into.missingText, empty]
    · exact if_pos empty
  by_cases null : v.isNull = true
  · obtain rfl := Value.eq_null_of_isNull null
    simp only [told]
    rfl
  · simp only [told, into.pathText, null]
    exact bind_pure _

/-- The walk has a text for the path if it ends at one, or if it turns from null to one. -/
theorem walkText_speaks_iff {path : String} (into : IntoBucket path) {s : String}
    (told : l.walkText path = .ok s) :
    s ≠ "" ↔ l.WalkSpeaks path ∨
      (Value.obj l.data).walk path = .ok .null ∧ ∃ other, otherPath? path = some other ∧
      l.WalkSpeaks other := by
  rw [walkText_of_intoBucket into] at told
  obtain ⟨v, raw, told⟩ := Outcome.bind_eq_ok.mp told
  constructor
  · intro nonempty
    have given := isNull_eq_false_of_text (rfl : Format.plain .null = .ok "") told nonempty
    obtain ⟨w, walked, -⟩ := Outcome.bind_eq_ok.mp raw
    -- the walk finds a value, or null, from which it turns or not
    by_cases null : w.isNull = true
    · obtain rfl := Value.eq_null_of_isNull null
      refine .inr ⟨walked, ?_⟩
      cases there : otherPath? path with
      | none =>
        rw [raw_of_walk_null_alone walked there] at raw
        rw [← Except.ok.inj raw] at given
        cases given
      | some other =>
        rw [raw_of_walk_null walked there] at raw
        exact ⟨other, rfl, v, s, raw, told, nonempty⟩
    · rw [raw_of_walk walked (by simpa using null)] at raw
      obtain rfl := Except.ok.inj raw
      exact .inl ⟨w, s, walked, told, nonempty⟩
  · rintro (⟨w, text, walked, written, nonempty⟩ | ⟨walked, other, there, w, text, turned,
      written, nonempty⟩)
    · rw [raw_of_walk walked
        (isNull_eq_false_of_text (rfl : Format.plain .null = .ok "") written nonempty)] at raw
      obtain rfl := Except.ok.inj raw
      rwa [← Except.ok.inj (written.symm.trans told)]
    · rw [raw_of_walk_null walked there, turned] at raw
      obtain rfl := Except.ok.inj raw
      rwa [← Except.ok.inj (written.symm.trans told)]

/-- A path into client or customer has an answer if there is a text at it, or if it yields to
one. -/
theorem resolve_speaks_iff (h : of? symbol c = .ok l) {path : String} (into : IntoBucket path)
    {s : String} (told : l.resolve path = .ok s) :
    s ≠ "" ↔ l.Speaks path ∨ ∃ other, l.Yields path other := by
  -- the same condition, sorted by table and walk
  have shape : (l.Speaks path ∨ ∃ other, l.Yields path other) ↔
      (l.LeafSpeaks path ∨ l.leaf? path = none ∧ ∃ other, otherPath? path = some other ∧
        l.LeafSpeaks other) ∨
      (l.WalkSpeaks path ∨ (Value.obj l.data).walk path = .ok .null ∧
        ∃ other, otherPath? path = some other ∧ l.WalkSpeaks other) := by
    unfold Speaks Yields
    constructor
    · rintro ((leaf | walk) | ⟨other, there, ⟨noLeaf, leaf⟩ | ⟨null, walk⟩⟩)
      · exact .inl (.inl leaf)
      · exact .inr (.inl walk)
      · exact .inl (.inr ⟨noLeaf, other, there, leaf⟩)
      · exact .inr (.inr ⟨null, other, there, walk⟩)
    · rintro ((leaf | ⟨noLeaf, other, there, leaf⟩) | walk | ⟨null, other, there, walk⟩)
      · exact .inl (.inl leaf)
      · exact .inr ⟨other, there, .inl ⟨noLeaf, leaf⟩⟩
      · exact .inl (.inr walk)
      · exact .inr ⟨other, there, .inr ⟨null, walk⟩⟩
  rw [shape, ← table_speaks_iff h]
  by_cases empty : (l.table.lookup path).getD "" = ""
  · rw [resolve_of_lookup_empty empty] at told
    rw [walkText_speaks_iff into told]
    exact (or_iff_right (not_not_intro empty)).symm
  · have found : l.resolve path = .ok ((l.table.lookup path).getD "") := by
      unfold resolve
      exact if_pos empty
    obtain rfl := Except.ok.inj (found.symm.trans told)
    exact iff_of_true empty (.inl empty)

/-- A path yields to one other path at most. -/
theorem exists_yields_iff {path other : String} (only : ∀ p, otherPath? path = some p → p = other) :
    (∃ p, l.Yields path p) ↔ l.Yields path other := by
  constructor
  · rintro ⟨p, yields⟩
    rwa [← only p yields.1]
  · intro yields
    exact ⟨other, yields⟩

/-- Of two paths that differ in client and customer only both have an answer or none has, exactly
when each of them yields to a text at the other if there is none at it. -/
theorem resolve_mirrored (h : of? symbol c = .ok l) (rest : String) {s t : String}
    (hs : l.resolve ("client." ++ rest) = .ok s) (ht : l.resolve ("customer." ++ rest) = .ok t) :
    (s ≠ "" ↔ t ≠ "") ↔
      (l.Speaks ("customer." ++ rest) → l.Speaks ("client." ++ rest) ∨
        l.Yields ("client." ++ rest) ("customer." ++ rest)) ∧
      (l.Speaks ("client." ++ rest) → l.Speaks ("customer." ++ rest) ∨
        l.Yields ("customer." ++ rest) ("client." ++ rest)) := by
  -- the only path that either could yield to
  have client : ∀ p, otherPath? ("client." ++ rest) = some p → p = "customer." ++ rest := by
    intro p there
    rw [otherPath?_client] at there
    split_ifs at there
    exact (Option.some.inj there).symm
  have customer : ∀ p, otherPath? ("customer." ++ rest) = some p → p = "client." ++ rest := by
    intro p there
    rw [otherPath?_customer] at there
    split_ifs at there
    exact (Option.some.inj there).symm
  rw [resolve_speaks_iff h ⟨rest, .inl rfl⟩ hs, resolve_speaks_iff h ⟨rest, .inr rfl⟩ ht,
    exists_yields_iff client, exists_yields_iff customer]
  constructor
  · intro both
    exact ⟨fun customer => both.mpr (.inl customer), fun client => both.mp (.inl client)⟩
  · rintro ⟨toClient, toCustomer⟩
    constructor
    · rintro (client | yields)
      · exact toCustomer client
      · exact .inl yields.speaks
    · rintro (customer | yields)
      · exact toClient customer
      · exact .inl yields.speaks

theorem twoAddresses_mirrored : of? "₹" twoAddresses = .ok addressLookup ∧
    addressLookup.resolve "client.name" = .ok "Meera" ∧
      addressLookup.resolve "customer.name" = .ok "Meera" ∧
    addressLookup.Yields "customer.name" "client.name" ∧ ("Meera" ≠ "" ↔ "Meera" ≠ "") := by
  have leaf : addressLookup.LeafSpeaks "client.name" := ⟨"Meera", rfl, by decide⟩
  have yields : addressLookup.Yields "customer.name" "client.name" := ⟨rfl, .inl ⟨rfl, leaf⟩⟩
  have told : addressLookup.resolve "client.name" = .ok "Meera" := by rfl
  have mirrored : addressLookup.resolve "customer.name" = .ok "Meera" := by rfl
  have both := (resolve_mirrored of?_twoAddresses "name" told mirrored).mpr
    ⟨fun _ => .inl (.inl leaf), fun _ => .inr yields⟩
  exact ⟨of?_twoAddresses, told, mirrored, yields, both⟩

/-- A client whose name has been left empty. -/
def emptyName : RenderContext where
  client := [("name", .str "")]
  customer := [("name", .str "Meera")]

/-- The empty name stays, though the customer has one; it takes a null to be answered for. -/
theorem emptyName_unmirrored :
    ¬ ∀ (symbol : String) (c : RenderContext) (l : Lookup) (rest s t : String),
    of? symbol c = .ok l → l.resolve ("client." ++ rest) = .ok s →
      l.resolve ("customer." ++ rest) = .ok t →
      (s ≠ "" ↔ t ≠ "") := by
  intro always
  have table : of? "₹" emptyName = .ok {
      data := emptyName.fields
      symbol := "₹"
      table := [("client.name", ""), ("customer.name", "Meera")] } := by
    rfl
  have both := always "₹" emptyName _ "name" "" "Meera" table rfl rfl
  exact absurd rfl (both.mpr (by decide))

end Lookup

end Merge

end QuotationPress
