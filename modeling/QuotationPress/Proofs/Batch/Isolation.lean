import Mathlib.Tactic.SplitIfs
import QuotationPress.Production.Files

/-!
# How far the items of a batch are kept apart

An item can stop the batch: its preparation fails in a way that does not stay with it, or the name
that it asks for is no text, so that its result cannot be reported (`Desk.StopsBatch`).
`produceBatch_isolates`: where the engine starts, a batch gives a report exactly when no item stops
it, and the report then has one result for each item, made of nothing but the item, its position and
the options of the batch.
-/

namespace QuotationPress

/-! ### Engines and their states -/

/-- An engine that makes the same of a page whatever it has made before. -/
def PdfEngine.Steady {σ : Type} (engine : PdfEngine σ) : Prop :=
  ∀ html o s t, (engine.convert html o s).1 = (engine.convert html o t).1

/-- The engine for trials is steady: only its record changes. -/
theorem TrialEngine.steady (plan : TrialPlan) : (TrialEngine plan).Steady := by
  intro html o s t
  show (TrialEngine.convert plan html o s).1 = (TrialEngine.convert plan html o t).1
  unfold TrialEngine.convert
  split_ifs <;> rfl

namespace Producer

variable {σ : Type} {engine : PdfEngine σ}

/-- With a steady engine a conversion comes to the same in every state. -/
theorem convert_steady (p : Producer) (h : engine.Steady) (html : String) (o : PdfOptions)
    (s t : σ) :
    (p.convert engine html o s).1 = (p.convert engine html o t).1 := by
  have hc := h html o s t
  unfold convert
  dsimp only
  split_ifs
  · rfl
  · cases notSeconds? (p.timeoutOf o) with
    | some reason => rfl
    | none =>
      generalize engine.convert html o s = x at hc
      generalize engine.convert html o t = y at hc
      obtain ⟨x, s'⟩ := x
      obtain ⟨y, t'⟩ := y
      obtain rfl : x = y := hc
      cases x <;> rfl

/-- With a steady engine a job comes to the same in every state. -/
theorem runJob_steady (p : Producer) (h : engine.Steady) (job : Job) (s t : σ) :
    (p.runJob engine job s).1 = (p.runJob engine job t).1 := by
  unfold runJob
  cases job.source with
  | error reason => rfl
  | ok html => exact p.convert_steady h _ _ s t

/-! ### The results of a list of jobs -/

theorem length_runJobs (p : Producer) (engine : PdfEngine σ) (n : Nat) (jobs : List Job) (s : σ) :
    (p.runJobs engine n jobs s).1.length = jobs.length := by
  induction jobs generalizing n s with
  | nil => rfl
  | cons job rest ih => exact congrArg (· + 1) (ih (n + 1) (p.runJob engine job s).2)

/-- The result of a job carries its position and is made in some state of the engine. -/
theorem getElem?_runJobs (p : Producer) (engine : PdfEngine σ) {n : Nat} {jobs : List Job} {s : σ}
    {i : Nat} {job : Job} (h : jobs[i]? = some job) :
    ∃ t, (p.runJobs engine n jobs s).1[i]? =
      some ⟨n + i, job.filename, (p.runJob engine job t).1⟩ := by
  -- along the jobs; the engine is in whatever state the jobs before have left it
  induction jobs generalizing n s i with
  | nil => exact nomatch h
  | cons first rest ih =>
    cases i with
    | zero =>
      obtain rfl : first = job := Option.some.inj h
      exact ⟨s, rfl⟩
    | succ i =>
      obtain ⟨t, ht⟩ := ih (n := n + 1) (s := (p.runJob engine first s).2) h
      refine ⟨t, ht.trans ?_⟩
      rw [Nat.add_right_comm, Nat.add_assoc]

/-- Where the engine starts, the results of a batch are those of its jobs, one after the other. -/
theorem results_batch (p : Producer) {s : σ} (hstart : (engine.start s).1 = .ok ())
    (jobs : List Job) :
    ∃ t, (p.batch engine jobs s).1.results = (p.runJobs engine 0 jobs t).1 := by
  unfold batch
  split_ifs with h
  · rw [List.isEmpty_iff] at h
    exact ⟨s, by rw [h]; rfl⟩
  · refine ⟨(engine.start s).2, ?_⟩
    unfold session
    generalize engine.start s = started at hstart
    obtain ⟨verdict, t⟩ := started
    obtain rfl : verdict = .ok () := hstart
    rfl

end Producer

/-! ### What an item can do to its batch -/

theorem Checked.ap_bad {α β : Type} (f : Checked (α → β)) (issues : List Issue) :
    ∃ js, f.ap (.bad issues) = .bad js := by
  cases f with
  | good _ => exact ⟨_, rfl⟩
  | bad _ => exact ⟨_, rfl⟩

namespace Desk

variable {σ : Type} {d : Desk} {options : Fields} {n : Nat} {item : Value}

/-- The job of an item at a position of a batch. -/
def itemJob (d : Desk) (options : Fields) (n : Nat) (item : Value) : Outcome Job := do
  d.prepare (← FileRequest.read? item) (String.ofList (numeral (n + 1))) options

/-- An item that asks for a file name which is no text. -/
def UnfitName (item : Value) : Prop :=
  ∃ fs, item = .obj fs ∧ Fields.get fs "filename" ≠ .null ∧
    Lenient.textIn? (Fields.get fs "filename") = none

/-- An item that leaves the whole batch without a report. -/
inductive StopsBatch (d : Desk) (options : Fields) (n : Nat) (item : Value) : Prop
  /-- The preparation fails, and not for the item alone. -/
  | preparation (f : Failure) (failed : d.itemJob options n item = .error f)
      (spreads : f.staysWithItem = false)
  | name (unfit : UnfitName item)

/-- An item does not stop its batch if its failure stays with it and its name can be told. -/
theorem not_stopsBatch_iff : ¬ d.StopsBatch options n item ↔
    (∀ f, d.itemJob options n item = .error f → f.staysWithItem = true) ∧ ¬ UnfitName item := by
  constructor
  · refine fun h => ⟨fun f failed => ?_, fun unfit => h (.name unfit)⟩
    cases spreads : f.staysWithItem with
    | true => rfl
    | false => exact absurd (.preparation f failed spreads) h
  · rintro ⟨hstays, hname⟩ (⟨f, failed, spreads⟩ | unfit)
    · exact nomatch spreads.symm.trans (hstays f failed)
    · exact hname unfit

/-- A text that may be missing is refused if there is a value and it is no text. -/
theorem optional_text_eq_bad_iff {v : Value} :
    (∃ issues, Lenient.optional Lenient.text v = .bad issues) ↔
      v ≠ .null ∧ Lenient.textIn? v = none := by
  unfold Lenient.optional
  split
  · exact ⟨fun ⟨_, h⟩ => (nomatch h), fun h => absurd rfl h.1⟩
  · next hv =>
    unfold Lenient.text
    cases h : Lenient.textIn? v with
    | some s => exact ⟨fun ⟨_, h⟩ => (nomatch h), fun h => (nomatch h.2)⟩
    | none => exact ⟨fun _ => ⟨hv, rfl⟩, fun _ => ⟨_, rfl⟩⟩

/-- The name of an item cannot be read back exactly when it is unfit. -/
theorem wishedName_eq_error_iff : (∃ f, wishedName item = .error f) ↔ UnfitName item := by
  constructor
  · rintro ⟨f, hf⟩
    unfold wishedName at hf
    split at hf
    · next fs =>
      refine ⟨fs, rfl, optional_text_eq_bad_iff.mp ?_⟩
      cases h : Lenient.optional Lenient.text (Fields.get fs "filename") with
      | good s =>
        rw [h] at hf
        cases hf
      | bad issues => exact ⟨issues, rfl⟩
    · cases hf
  · rintro ⟨fs, rfl, h⟩
    obtain ⟨issues, hbad⟩ := optional_text_eq_bad_iff.mpr h
    refine ⟨.invalid "BatchItemResult" (issues.map (Issue.under "filename")), ?_⟩
    unfold wishedName
    dsimp only
    rw [hbad]
    rfl

/-- Such an item is no request either. -/
theorem UnfitName.read?_eq_error (h : UnfitName item) :
    ∃ issues, FileRequest.read? item = .error (.invalid "PdfRequest" issues) := by
  obtain ⟨fs, rfl, hnull, htext⟩ := h
  obtain ⟨issues, hbad⟩ := optional_text_eq_bad_iff.mpr ⟨hnull, htext⟩
  have hget : Fields.get? fs "filename" = some (Fields.get fs "filename") := by
    unfold Fields.get at hnull ⊢
    cases h : Fields.get? fs "filename" with
    | some v => rfl
    | none => exact absurd (by rw [h]; rfl) hnull
  have hfield : Checked.optional .plain fs "filename" none (Lenient.optional Lenient.text) =
      .bad (issues.map (Issue.under "filename")) := by
    unfold Checked.optional Checked.field Spelling.find?
    dsimp only
    rw [hget]
    dsimp only
    rw [hbad]
    rfl
  -- the name is the last field that is read
  have hcheck : ∃ issues, FileRequest.check (.obj fs) = .bad issues := by
    show ∃ issues, Checked.andThen (Checked.ap _ (Checked.optional .plain fs "filename" none
      (Lenient.optional Lenient.text))) FileRequest.withSource = .bad issues
    rw [hfield]
    -- the fields in front of it only add their own faults
    obtain ⟨js, hjs⟩ := Checked.ap_bad _ (issues.map (Issue.under "filename"))
    exact ⟨js, by rw [hjs]; rfl⟩
  obtain ⟨issues, hcheck⟩ := hcheck
  exact ⟨issues, by unfold FileRequest.read?; rw [hcheck]; rfl⟩

/-! ### Preparing the items -/

/-- An item ready to be made, or with the reason why it is not, whatever the reason. -/
def readied (d : Desk) (options : Fields) (n : Nat) (item : Value) : PreparedItem :=
  match d.itemJob options n item with
  | .ok job => { job }
  | .error f => failedItem item f

/-- An item is prepared unless its failure spreads, and then as it is readied. -/
theorem prepareItem_eq_ok_iff {x : PreparedItem} :
    d.prepareItem options n item = .ok x ↔
      (∀ f, d.itemJob options n item = .error f → f.staysWithItem = true) ∧
        x = d.readied options n item := by
  have hprepare : d.prepareItem options n item = match d.itemJob options n item with
    | .ok job => .ok { job }
    | .error f => if f.staysWithItem then .ok (failedItem item f) else .error f := rfl
  rw [hprepare]
  unfold readied
  cases d.itemJob options n item with
  | ok job =>
    exact ⟨fun h => ⟨fun f hf => (nomatch hf), (Except.ok.inj h).symm⟩, fun h => by rw [h.2]⟩
  | error f =>
    dsimp only
    split_ifs with hf
    · refine ⟨fun h => ⟨?_, (Except.ok.inj h).symm⟩, fun h => by rw [h.2]⟩
      rintro _ ⟨⟩
      exact hf
    · exact ⟨fun h => (nomatch h), fun h => absurd (h.1 f rfl) hf⟩

/-- An item with an unfit name is never ready; the report would have to show the name it asks
for. -/
theorem nameFits_readied : (d.readied options n item).nameFits = .ok () ↔ ¬ UnfitName item := by
  unfold readied
  cases hjob : d.itemJob options n item with
  | ok job =>
    refine ⟨fun _ h => ?_, fun _ => rfl⟩
    obtain ⟨issues, hread⟩ := h.read?_eq_error
    unfold itemJob at hjob
    rw [hread] at hjob
    cases hjob
  | error f =>
    show ((wishedName item).map fun _ => ()) = .ok () ↔ _
    rw [← wishedName_eq_error_iff]
    cases wishedName item with
    | ok name => exact ⟨fun _ ⟨_, h⟩ => (nomatch h), fun _ => rfl⟩
    | error f => exact ⟨fun h => (nomatch h), fun h => absurd ⟨f, rfl⟩ h⟩

/-- All items are prepared unless the preparation of one fails and that spreads. -/
theorem prepareItems_eq_ok_iff {items : List Value} {xs : List PreparedItem} :
    d.prepareItems options n items = .ok xs ↔
      (∀ i item, items[i]? = some item → ∀ f, d.itemJob options (n + i) item = .error f →
        f.staysWithItem = true) ∧
      xs = items.mapIdx fun i => d.readied options (n + i) := by
  -- along the items; the position of the first one moves on
  induction items generalizing n xs with
  | nil =>
    refine ⟨fun h => ⟨fun i item h => (nomatch h), (Except.ok.inj h).symm⟩, fun h => ?_⟩
    rw [h.2]
    rfl
  | cons item rest ih =>
    have hstep : d.prepareItems options n (item :: rest) = (do
      return (← d.prepareItem options n item) :: (← d.prepareItems options (n + 1) rest)) := rfl
    have hshift : ∀ i, n + (i + 1) = n + 1 + i := fun i => by omega
    have hcons : ((item :: rest).mapIdx fun i => d.readied options (n + i)) =
        d.readied options n item :: rest.mapIdx fun i => d.readied options (n + 1 + i) := by
      simp only [List.mapIdx_cons, Nat.add_zero, Nat.add_assoc, Nat.add_comm 1]
    rw [hstep, hcons]
    constructor
    · intro h
      cases hx : d.prepareItem options n item with
      | error f =>
        rw [hx] at h
        cases h
      | ok x =>
        cases hrest : d.prepareItems options (n + 1) rest with
        | error f =>
          rw [hx, hrest] at h
          cases h
        | ok xs' =>
          rw [hx, hrest] at h
          obtain ⟨hstay, rfl⟩ := prepareItem_eq_ok_iff.mp hx
          obtain ⟨hstays, rfl⟩ := ih.mp hrest
          refine ⟨fun i other hi => ?_, (Except.ok.inj h).symm⟩
          cases i with
          | zero =>
            obtain rfl : item = other := Option.some.inj hi
            exact hstay
          | succ i =>
            rw [hshift]
            exact hstays i other hi
    · rintro ⟨hall, rfl⟩
      have hx : d.prepareItem options n item = .ok (d.readied options n item) :=
        prepareItem_eq_ok_iff.mpr ⟨hall 0 item rfl, rfl⟩
      have hrest := ih.mpr ⟨fun i other hi => hshift i ▸ hall (i + 1) other hi, rfl⟩
      rw [hx, hrest]
      rfl

/-- The names of all items are told just if each of them is. -/
theorem mapM_nameFits_eq_ok_iff {xs : List PreparedItem} :
    (∃ units, xs.mapM PreparedItem.nameFits = .ok units) ↔ ∀ x ∈ xs, x.nameFits = .ok () := by
  induction xs with
  | nil => exact ⟨fun _ x hx => (nomatch hx), fun _ => ⟨[], rfl⟩⟩
  | cons x rest ih =>
    rw [List.mapM_cons, List.forall_mem_cons, ← ih]
    cases hx : x.nameFits with
    | error f => exact ⟨fun ⟨_, h⟩ => (nomatch h), fun h => (nomatch h.1)⟩
    | ok _ =>
      cases rest.mapM PreparedItem.nameFits with
      | error f => exact ⟨fun ⟨_, h⟩ => (nomatch h), fun ⟨_, _, h⟩ => (nomatch h)⟩
      | ok units => exact ⟨fun _ => ⟨rfl, units, rfl⟩, fun _ => ⟨_ :: units, rfl⟩⟩

/-! ### The report -/

/-- The result of an item at a position, its file made in a state of the engine. -/
def itemResult (d : Desk) (p : Producer) (engine : PdfEngine σ) (options : Fields)
    (includeContent : Bool) (n : Nat) (item : Value) (t : σ) : BatchItemResult :=
  let job := (d.readied options n item).job
  resultOf includeContent ⟨n, job.filename, (p.runJob engine job t).1⟩

/-- One result for each item of the batch, made of the item, its position and the options. -/
structure Accounts (d : Desk) (p : Producer) (engine : PdfEngine σ) (r : BatchRequest)
    (report : BatchReport) : Prop where
  total : report.total = r.items.length
  length : report.results.length = r.items.length
  successful : report.successful = report.results.countP BatchItemResult.success
  balance : report.successful + report.failed = report.total
  index : ∀ i (result : BatchItemResult), report.results[i]? = some result → result.index = i
  each : ∀ i item, r.items[i]? = some item → ∃ t,
    report.results[i]? = some (d.itemResult p engine r.options r.includeContent i item t)

variable {p : Producer} {engine : PdfEngine σ} {r : BatchRequest} {s : σ} {report : BatchReport}

/-- A report is made if all items are prepared and their names can be told. -/
theorem produceBatch_eq_ok_iff_prepared : (d.produceBatch p engine r s).1 = .ok report ↔
    ∃ xs, d.prepareItems r.options 0 r.items = .ok xs ∧ (∀ x ∈ xs, x.nameFits = .ok ()) ∧
      report = reportOf r.includeContent (p.batch engine (xs.map PreparedItem.job) s).1 := by
  unfold produceBatch
  cases d.prepareItems r.options 0 r.items with
  | error f => exact ⟨fun h => (nomatch h), fun ⟨_, h, _⟩ => (nomatch h)⟩
  | ok xs =>
    dsimp only
    have hfits : (∃ units, xs.mapM PreparedItem.nameFits = .ok units) ↔
        ∀ x ∈ xs, x.nameFits = .ok () :=
      mapM_nameFits_eq_ok_iff
    cases hnames : xs.mapM PreparedItem.nameFits with
    | error f =>
      refine ⟨fun h => (nomatch h), ?_⟩
      rintro ⟨_, ⟨⟩, h, -⟩
      obtain ⟨_, h⟩ := hfits.mpr h
      exact nomatch hnames.symm.trans h
    | ok units =>
      have hall := hfits.mp ⟨units, hnames⟩
      refine ⟨fun h => ⟨xs, rfl, hall, (Except.ok.inj h).symm⟩, ?_⟩
      rintro ⟨_, ⟨⟩, -, rfl⟩
      rfl

/-- The jobs of a batch, each at the position of its item. -/
theorem getElem?_jobs (d : Desk) (options : Fields) {items : List Value} {i : Nat}
    (h : items[i]? = some item) :
    ((items.mapIdx (d.readied options)).map PreparedItem.job)[i]? =
      some (d.readied options i item).job := by
  rw [List.getElem?_map, List.getElem?_mapIdx, h]
  rfl

/-- The report of an engine that starts accounts for every item. -/
theorem accounts_reportOf (hstart : (engine.start s).1 = .ok ()) :
    d.Accounts p engine r (reportOf r.includeContent (p.batch engine
      ((r.items.mapIdx (d.readied r.options)).map PreparedItem.job) s).1) := by
  generalize hjobs : (r.items.mapIdx (d.readied r.options)).map PreparedItem.job = jobs
  obtain ⟨t, ht⟩ := p.results_batch hstart jobs
  have hlength : (p.batch engine jobs s).1.results.length = r.items.length := by
    rw [ht, Producer.length_runJobs, ← hjobs, List.length_map, List.length_mapIdx]
  have heach : ∀ i item, r.items[i]? = some item → ∃ t,
      ((p.batch engine jobs s).1.results.map (resultOf r.includeContent))[i]? =
        some (d.itemResult p engine r.options r.includeContent i item t) := by
    intro i item hitem
    have hjob := d.getElem?_jobs r.options hitem
    rw [hjobs] at hjob
    obtain ⟨t', ht'⟩ := p.getElem?_runJobs engine (n := 0) (s := t) hjob
    refine ⟨t', ?_⟩
    rw [List.getElem?_map, ht, ht', Nat.zero_add]
    rfl
  refine ⟨hlength, (List.length_map _).trans hlength, ?_, ?_, ?_, heach⟩
  · show (p.batch engine jobs s).1.results.countP JobResult.success = _
    exact (List.countP_map (p := BatchItemResult.success) (f := resultOf r.includeContent)).symm
  · have hle :=
      List.countP_le_length (p := JobResult.success) (l := (p.batch engine jobs s).1.results)
    show _ + (_ - _) = _
    exact Nat.add_sub_cancel' hle
  · intro i result hresult
    have hlt : i < r.items.length := by
      rw [← hlength, ← List.length_map (resultOf r.includeContent)]
      exact (List.getElem?_eq_some_iff.mp hresult).1
    obtain ⟨t', ht'⟩ := heach i _ (List.getElem?_eq_getElem hlt)
    obtain rfl := Option.some.inj (hresult.symm.trans ht')
    rfl

/-- A batch gives a report unless an item stops it. -/
theorem produceBatch_eq_ok_iff : (d.produceBatch p engine r s).1 = .ok report ↔
    (∀ i item, r.items[i]? = some item → ¬ d.StopsBatch r.options i item) ∧
      report = reportOf r.includeContent (p.batch engine
        ((r.items.mapIdx (d.readied r.options)).map PreparedItem.job) s).1 := by
  rw [produceBatch_eq_ok_iff_prepared]
  simp only [prepareItems_eq_ok_iff, Nat.zero_add, not_stopsBatch_iff]
  constructor
  · rintro ⟨_, ⟨hstays, rfl⟩, hfits, hreport⟩
    refine ⟨fun i item hitem => ⟨hstays i item hitem, ?_⟩, hreport⟩
    refine nameFits_readied.mp (hfits (d.readied r.options i item) ?_)
    rw [List.mem_iff_getElem?]
    exact ⟨i, by rw [List.getElem?_mapIdx, hitem]; rfl⟩
  · rintro ⟨hnone, hreport⟩
    refine ⟨_, ⟨fun i item hitem => (hnone i item hitem).1, rfl⟩, fun x hx => ?_, hreport⟩
    obtain ⟨i, hi, rfl⟩ := List.mem_mapIdx.mp hx
    exact nameFits_readied.mpr (hnone i _ (List.getElem?_eq_getElem hi)).2

/-- Where the engine starts, a batch gives a report exactly when no item stops it. Such a report
accounts for every item; and if the engine is steady, the result of an item stays the same whatever
the other items are and whatever the engine has made before. -/
theorem produceBatch_isolates (hstart : (engine.start s).1 = .ok ()) :
    ((∃ report, (d.produceBatch p engine r s).1 = .ok report) ↔
      ∀ i item, r.items[i]? = some item → ¬ d.StopsBatch r.options i item) ∧
    ∀ report, (d.produceBatch p engine r s).1 = .ok report → d.Accounts p engine r report ∧
      (engine.Steady → ∀ (r' : BatchRequest) (s' : σ) (report' : BatchReport),
        (engine.start s').1 = .ok () → (d.produceBatch p engine r' s').1 = .ok report' →
        r'.options = r.options → r'.includeContent = r.includeContent →
        ∀ (i : Nat) (item : Value), r.items[i]? = some item → r'.items[i]? = some item →
          report'.results[i]? = report.results[i]?) := by
  refine ⟨?_, fun report h => ⟨?_, ?_⟩⟩
  · constructor
    · rintro ⟨report, h⟩
      exact (produceBatch_eq_ok_iff.mp h).1
    · exact fun h => ⟨_, produceBatch_eq_ok_iff.mpr ⟨h, rfl⟩⟩
  · rw [(produceBatch_eq_ok_iff.mp h).2]
    exact accounts_reportOf hstart
  · -- both results are made of the item and its position; only the states of the engine differ
    intro hsteady r' s' report' hstart' h' hoptions hcontent i item hitem hitem'
    rw [(produceBatch_eq_ok_iff.mp h).2, (produceBatch_eq_ok_iff.mp h').2]
    obtain ⟨t, ht⟩ := (accounts_reportOf (d := d) (p := p) (r := r) hstart).each i item hitem
    obtain ⟨t', ht'⟩ := (accounts_reportOf (d := d) (p := p) (r := r') hstart').each i item hitem'
    rw [ht, ht', hoptions, hcontent]
    unfold itemResult
    dsimp only
    rw [p.runJob_steady hsteady _ t' t]

/-! ### Two items -/

def trialDesk : Desk where
  today := { year := 2026, month := 1, day := 15 }

/-- A request that names no document, and one more item behind it. -/
def trialBatch (item : Value) : BatchRequest where
  items := [.obj [("filename", .str "offer")], item]

/-- What becomes of the two items. -/
def trial (item : Value) : Outcome BatchReport :=
  (trialDesk.produceBatch {} (TrialEngine {}) (trialBatch item) {}).1

theorem exists_eq_ok {α : Type} {x : Outcome α} (h : x.isOk = true) : ∃ a, x = .ok a := by
  cases x with
  | ok a => exact ⟨a, rfl⟩
  | error f => cases h

/-- A desk whose only template has no elements. -/
def blankDesk : Desk :=
  { trialDesk with
    store.rows :=
      [{ id := "blank", name := "Blank", createdAt := storeEpoch, updatedAt := storeEpoch }] }

/-- A request that can be carried out. -/
def printable : Value := .obj [("data", .obj [("total_cost", .int 1200)])]

/-- The request has its file beside an item that fails, and the same file beside another one that
fails, made by an engine that has been started before. -/
theorem trialBatch_isolated :
    ((TrialEngine {}).start {}).1 = .ok () ∧
      (∀ i item, (trialBatch printable).items[i]? = some item → ¬ blankDesk.StopsBatch [] i item) ∧
      ∃ report, (blankDesk.produceBatch {} (TrialEngine {}) (trialBatch printable) {}).1 =
        .ok report ∧
        blankDesk.Accounts {} (TrialEngine {}) (trialBatch printable) report ∧
        report.results.map BatchItemResult.success = [false, true] ∧
        ∃ again, (blankDesk.produceBatch {} (TrialEngine {}) { items := [.null, printable] }
            { started := 1 }).1 = .ok again ∧ again.results[1]? = report.results[1]? := by
  have hstart (s : TrialRecord) : ((TrialEngine {}).start s).1 = .ok () := rfl
  obtain ⟨report, h⟩ := exists_eq_ok
    (x := (blankDesk.produceBatch {} (TrialEngine {}) (trialBatch printable) {}).1)
    (by decide +kernel)
  obtain ⟨again, h'⟩ := exists_eq_ok (x := (blankDesk.produceBatch {} (TrialEngine {})
    { items := [.null, printable] } { started := 1 }).1) (by decide +kernel)
  have hsuccess :
      ((blankDesk.produceBatch {} (TrialEngine {}) (trialBatch printable) {}).1.toOption.map
        fun report => report.results.map BatchItemResult.success) = some [false, true] := by
    decide +kernel
  rw [h] at hsuccess
  obtain ⟨hiff, hreport⟩ :=
    produceBatch_isolates (d := blankDesk) (p := {}) (r := trialBatch printable) (hstart {})
  obtain ⟨haccounts, hsame⟩ := hreport report h
  exact ⟨hstart {}, hiff.mp ⟨report, h⟩, report, h, haccounts, Option.some.inj hsuccess, again, h',
    hsame (TrialEngine.steady {}) _ _ again (hstart _) h' rfl rfl 1 printable rfl rfl⟩

/-- The first item is reported beside an item that is null. An item with an amount of thirty digits,
or with a number for a file name, leaves both without a report, though the engine starts. -/
theorem trialBatch_stopped :
    ((TrialEngine {}).start {}).1 = .ok () ∧ (trial .null).isOk = true ∧
      (trial (.obj [("data", .obj [("total_cost", .int 100000000000000000000000000000)])])).isOk =
        false ∧
      (trial (.obj [("filename", .int 5)])).isOk = false :=
  ⟨rfl, by decide +kernel, by decide +kernel, by decide +kernel⟩

end Desk

end QuotationPress
