import QuotationPress.Proofs.Batch.Schedule
import QuotationPress.Proofs.Pdf.Session

/-!
# A batch agrees with single documents

`Producer.batch_agrees`: with an engine whose outcomes are fixed, the result of a job is what
`Producer.produce` makes of its page; a job without a page fails for its own reason, and all fail
alike where the engine does not start. The engine is started once and cleaned up once, what becomes
of the cleaning up does not show, and the jobs may overlap in any way.
-/

namespace QuotationPress

/-! ### Engines -/

/-- An engine that starts or not, and makes of a page the same, whatever it has done before. -/
structure PdfEngine.Fixed {σ : Type} (engine : PdfEngine σ) : Prop where
  start : ∀ s t, (engine.start s).1 = (engine.start t).1
  steady : engine.Steady

/-- What an engine is asked for. -/
inductive EngineCall where
  | start
  | convert (html : String) (o : PdfOptions)
  | cleanup

/-- An engine beside a record of what it is asked for. -/
def PdfEngine.recorded {σ : Type} (engine : PdfEngine σ) : PdfEngine (σ × List EngineCall) where
  start s := ((engine.start s.1).1, (engine.start s.1).2, s.2 ++ [.start])
  convert html o s :=
    ((engine.convert html o s.1).1, (engine.convert html o s.1).2, s.2 ++ [.convert html o])
  cleanup s := ((engine.cleanup s.1).1, (engine.cleanup s.1).2, s.2 ++ [.cleanup])

namespace Producer

variable {σ : Type} (p : Producer) (engine : PdfEngine σ)

/-! ### Batches, by whether the engine starts -/

variable {engine} {jobs : List Job} {s : σ}

theorem batch_nil (p : Producer) (engine : PdfEngine σ) (s : σ) :
    p.batch engine [] s = (⟨[]⟩, s) := rfl

/-- An engine that starts makes the jobs of a batch one after the other, and is cleaned up. -/
theorem batch_of_started (nonempty : jobs ≠ []) (h : (engine.start s).1 = .ok ()) :
    p.batch engine jobs s = (⟨(p.runJobs engine 0 jobs (engine.start s).2).1⟩,
      (engine.cleanup (p.runJobs engine 0 jobs (engine.start s).2).2).2) := by
  unfold batch
  rw [if_neg (by simpa using nonempty), session_of_started h]

/-- An engine that does not start is cleaned up, and every job has this as its result. -/
theorem batch_of_not_started (nonempty : jobs ≠ []) {reason : String}
    (h : (engine.start s).1 = .error reason) :
    p.batch engine jobs s =
      (⟨allFailed (notStarted reason) 0 jobs⟩, (engine.cleanup (engine.start s).2).2) := by
  unfold batch
  rw [if_neg (by simpa using nonempty), session_of_not_started h]

theorem allFailed_eq (reason : String) (n : Nat) (jobs : List Job) :
    allFailed reason n jobs = (jobs.zipIdx n).map fun job =>
      ⟨job.2, job.1.filename, .error reason⟩ := by
  induction jobs generalizing n with
  | nil => rfl
  | cons job rest ih => rw [allFailed, ih, List.zipIdx_cons, List.map_cons]

/-! ### The record of a batch -/

/-- What the engine is asked for on account of a job. -/
def askedFor (job : Job) : List EngineCall :=
  match job.source with
  | .error _ => []
  | .ok html =>
    let (page, o) := p.prepare html job
    if p.leavesTime o then [.convert page o] else []

/-- What the engine is asked for by a batch. -/
def batchCalls (engine : PdfEngine σ) (jobs : List Job) (s : σ) : List EngineCall :=
  if jobs.isEmpty then []
  else .start :: (if (engine.start s).1.isOk then jobs.flatMap p.askedFor else []) ++ [.cleanup]

/-- A conversion is in the record if there is time for it. -/
theorem convert_recorded (html : String) (o : PdfOptions) (s : σ) (log : List EngineCall) :
    p.convert engine.recorded html o (s, log) =
      ((p.convert engine html o s).1, (p.convert engine html o s).2,
        log ++ if p.leavesTime o then [.convert html o] else []) := by
  cases h : p.leavesTime o with
  | true =>
    rw [convert_of_leavesTime _ h, convert_of_leavesTime _ h]
    rfl
  | false => simp [convert_of_not_leavesTime _ h]

/-- Keeping a record of a job changes nothing. -/
theorem runJob_recorded (job : Job) (s : σ) (log : List EngineCall) :
    p.runJob engine.recorded job (s, log) =
      ((p.runJob engine job s).1, (p.runJob engine job s).2, log ++ p.askedFor job) := by
  unfold runJob askedFor
  cases job.source with
  | error reason => simp
  | ok html => exact p.convert_recorded _ _ s log

theorem runJobs_recorded (n : Nat) (jobs : List Job) (s : σ) (log : List EngineCall) :
    p.runJobs engine.recorded n jobs (s, log) =
      ((p.runJobs engine n jobs s).1, (p.runJobs engine n jobs s).2,
        log ++ jobs.flatMap p.askedFor) := by
  -- along the jobs, with whatever stands in the record already
  induction jobs generalizing n s log with
  | nil => simp [runJobs]
  | cons job rest ih => simp [runJobs, runJob_recorded, ih]

/-- Keeping a record changes nothing, and the record of a batch is known beforehand. -/
theorem batch_recorded (jobs : List Job) (s : σ) (log : List EngineCall) :
    p.batch engine.recorded jobs (s, log) =
      ((p.batch engine jobs s).1, (p.batch engine jobs s).2,
        log ++ p.batchCalls engine jobs s) := by
  by_cases nonempty : jobs = []
  · subst nonempty
    simp [batch_nil, batchCalls]
  have given : jobs.isEmpty = false := by simpa using nonempty
  rw [batchCalls, given]
  cases h : (engine.start s).1 with
  | ok _ =>
    have started : (engine.recorded.start (s, log)).1 = .ok () := h
    have state : (engine.recorded.start (s, log)).2 = ((engine.start s).2, log ++ [.start]) := rfl
    rw [p.batch_of_started nonempty h, p.batch_of_started nonempty started, state, runJobs_recorded]
    simp [PdfEngine.recorded, Except.isOk, Except.toBool]
  | error reason =>
    have failed : (engine.recorded.start (s, log)).1 = .error reason := h
    rw [p.batch_of_not_started nonempty h, p.batch_of_not_started nonempty failed]
    simp [PdfEngine.recorded, Except.isOk, Except.toBool]

/-! ### Cleaning up -/

/-- Jobs depend on the conversions of an engine only. -/
theorem runJobs_congr (engine other : PdfEngine σ) (h : other.convert = engine.convert) (n : Nat)
    (jobs : List Job) (s : σ) : p.runJobs other n jobs s = p.runJobs engine n jobs s := by
  have same (job : Job) (s : σ) : p.runJob other job s = p.runJob engine job s := by
    unfold runJob convert
    rw [h]
  induction jobs generalizing n s with
  | nil => rfl
  | cons job rest ih => simp only [runJobs, same, ih]

/-- What becomes of the cleaning up does not show in the report. -/
theorem batch_cleanup (engine : PdfEngine σ) (jobs : List Job) (s : σ)
    (cleanup : σ → Except String Unit × σ) :
    (p.batch { engine with cleanup } jobs s).1 = (p.batch engine jobs s).1 := by
  let other : PdfEngine σ := { engine with cleanup }
  by_cases nonempty : jobs = []
  · subst nonempty
    rfl
  cases h : (engine.start s).1 with
  | ok _ =>
    have started : (other.start s).1 = .ok () := h
    rw [p.batch_of_started nonempty h, p.batch_of_started nonempty started]
    exact congrArg (BatchSummary.mk ·.1)
      (p.runJobs_congr engine other rfl 0 jobs (engine.start s).2)
  | error reason =>
    have failed : (other.start s).1 = .error reason := h
    rw [p.batch_of_not_started nonempty h, p.batch_of_not_started nonempty failed]

/-! ### Jobs, one by one -/

/-- The result that a job has in a batch: what a single document with its page comes to, or the
reason why it has none. -/
structure Decides (p : Producer) (engine : PdfEngine σ) (s : σ) (job : Job)
    (file : Except String Bytes) : Prop where
  page : ∀ html, job.source = .ok html → ∀ t, (p.produce engine html job t).1 = file
  notStarted : ∀ reason, (engine.start s).1 = .error reason → file = .error (notStarted reason)
  noPage : ∀ reason, job.source = .error reason → (engine.start s).1 = .ok () → file = .error reason

variable {p}

/-- A job is decided by the conversion of its page, if the engine starts. -/
theorem decides_of_started (fixed : engine.Fixed) (h : (engine.start s).1 = .ok ()) (t : σ)
    (job : Job) :
    p.Decides engine s job (p.runJob engine job t).1 where
  page html source u := by
    have started : (engine.start u).1 = .ok () := (fixed.start u s).trans h
    rw [produce_eq, session_of_started started, runJob_of_page source]
    exact p.convert_steady fixed.steady _ _ _ _
  notStarted reason failed := nomatch h.symm.trans failed
  noPage reason source _ := by rw [runJob, source]

/-- Every job is decided by the engine, if that does not start. -/
theorem decides_of_not_started (fixed : engine.Fixed) {reason : String}
    (h : (engine.start s).1 = .error reason) (job : Job) :
    p.Decides engine s job (.error (notStarted reason)) where
  page html _ u := by
    have failed : (engine.start u).1 = .error reason := (fixed.start u s).trans h
    rw [produce_eq, session_of_not_started failed]
  notStarted other failed := by rw [Except.error.inj (h.symm.trans failed)]
  noPage other _ started := nomatch h.symm.trans started

/-- Every job has its result, at its position and under its name. -/
theorem getElem?_batch (fixed : engine.Fixed) (p : Producer) (s : σ) {jobs : List Job} {i : Nat}
    {job : Job} (hi : jobs[i]? = some job) : ∃ file, p.Decides engine s job file ∧
      (p.batch engine jobs s).1.results[i]? = some ⟨i, job.filename, file⟩ := by
  have nonempty : jobs ≠ [] := by
    rintro rfl
    cases hi
  cases h : (engine.start s).1 with
  | ok _ =>
    obtain ⟨t, ht⟩ := p.getElem?_runJobs engine (n := 0) (s := (engine.start s).2) hi
    refine ⟨_, decides_of_started fixed h t job, ?_⟩
    rw [p.batch_of_started nonempty h, ht, Nat.zero_add]
  | error reason =>
    refine ⟨_, decides_of_not_started fixed h job, ?_⟩
    rw [p.batch_of_not_started nonempty h, allFailed_eq]
    simp [hi]

/-- A batch has one result for each job. -/
theorem length_batch (p : Producer) (engine : PdfEngine σ) (jobs : List Job) (s : σ) :
    (p.batch engine jobs s).1.results.length = jobs.length := by
  by_cases nonempty : jobs = []
  · subst nonempty
    rfl
  cases h : (engine.start s).1 with
  | ok _ => rw [p.batch_of_started nonempty h, length_runJobs]
  | error reason =>
    rw [p.batch_of_not_started nonempty h, allFailed_eq, List.length_map, List.length_zipIdx]

/-- With an engine whose outcomes are fixed, a batch has one result for each job, in their order:
what `produce` makes of its page, the reason why it has no page, or the one reason why the engine
does not start. The record of the engine begins with its start and ends with its cleaning up, and is
empty for an empty batch; what becomes of the cleaning up does not show. And no more than
`concurrency` jobs are ever under way, any number of them that have begun and ended can be brought
to the end, and then the results, put in order, are those of the batch. -/
theorem batch_agrees (fixed : engine.Fixed) (p : Producer) (jobs : List Job) (s : σ) :
    (p.batch engine jobs s).1.total = jobs.length ∧
    (p.batch engine jobs s).1.successful + (p.batch engine jobs s).1.failed =
      (p.batch engine jobs s).1.total ∧
    (∀ (i : Nat) (job : Job), jobs[i]? = some job → ∃ file, p.Decides engine s job file ∧
      (p.batch engine jobs s).1.results[i]? = some ⟨i, job.filename, file⟩) ∧
    p.batch engine.recorded jobs (s, []) =
      ((p.batch engine jobs s).1, (p.batch engine jobs s).2, p.batchCalls engine jobs s) ∧
    (∀ cleanup, (p.batch { engine with cleanup } jobs s).1 = (p.batch engine jobs s).1) ∧
    ((engine.start s).1 = .ok () → ∀ a, p.Run engine (.ofJobs jobs) a →
      a.begun.length ≤ p.concurrency ∧ (0 < p.concurrency → ∃ b, p.Run engine a b ∧ b.Complete) ∧
      (a.Complete → a.report = (p.batch engine jobs s).1.results)) := by
  refine ⟨p.length_batch engine jobs s, ?_, fun i job => getElem?_batch fixed p s, ?_,
    p.batch_cleanup engine jobs s,
    fun started a run => ⟨?_, fun room => exists_complete room s a, fun complete => ?_⟩⟩
  · have within :=
      List.countP_le_length (p := JobResult.success) (l := (p.batch engine jobs s).1.results)
    exact Nat.add_sub_cancel' within
  · exact p.batch_recorded jobs s []
  · exact begun_le_of_run run (Nat.zero_le _)
  · rw [report_of_run fixed.steady run complete (engine.start s).2]
    by_cases nonempty : jobs = []
    · subst nonempty
      rfl
    · rw [p.batch_of_started nonempty started]

/-! ### Four jobs -/

/-- Pages with the marker never get done, and the cleaning up fails. -/
def slowPlan : TrialPlan where
  failsToCleanUp := true
  slowMarker := "slow"

/-- A page, one that never gets done, one that cannot be had, and one without time. -/
def mixedJobs : List Job :=
  [{ source := .ok "<p>Offer</p>", filename := some "offer.pdf" }, { source := .ok "<p>slow</p>" },
    { source := .error "no such page" },
    { source := .ok "<p>late</p>"
      options := some { timeoutSeconds := some (Binary64.ofInt (-1)) } }]

theorem mixedJobs_agree : (TrialEngine slowPlan).Fixed ∧
    (batch {} (TrialEngine slowPlan) mixedJobs {}).1.total = 4 ∧
    (batch {} (TrialEngine slowPlan) mixedJobs {}).1.results[2]? =
      some ⟨2, none, .error "no such page"⟩ ∧
    (∃ file, (batch {} (TrialEngine slowPlan) mixedJobs {}).1.results[0]? =
        some ⟨0, some "offer.pdf", file⟩ ∧
      ∀ t, (produce {} (TrialEngine slowPlan) "<p>Offer</p>" mixedJobs[0] t).1 = file) ∧
    ∃ b, Run {} (TrialEngine slowPlan) (.ofJobs mixedJobs) b ∧ b.Complete ∧
      b.report = (batch {} (TrialEngine slowPlan) mixedJobs {}).1.results := by
  have fixed : (TrialEngine slowPlan).Fixed := ⟨fun _ _ => rfl, TrialEngine.steady slowPlan⟩
  obtain ⟨total, -, each, -, -, overlap⟩ := batch_agrees fixed {} mixedJobs {}
  obtain ⟨file, decided, there⟩ := each 0 mixedJobs[0] rfl
  obtain ⟨missing, unread, third⟩ := each 2 mixedJobs[2] rfl
  obtain rfl := unread.noPage "no such page" rfl rfl
  obtain ⟨b, run, complete⟩ := (overlap rfl _ .refl).2.1 (by decide)
  exact ⟨fixed, total, third, ⟨file, there, decided.page "<p>Offer</p>" rfl⟩, b, run, complete,
    (overlap rfl b run).2.2 complete⟩

end Producer

end QuotationPress
