import Mathlib.Data.List.Sort
import Mathlib.Logic.Relation
import QuotationPress.Proofs.Batch.Isolation

/-!
# Jobs of a batch that overlap

`Producer.Step` is one step of a batch on its way: the next job begins while fewer than
`concurrency` are under way, or a job that is under way ends, with the engine in whatever state the
others have left it. `Producer.report_of_run`: in whatever order the jobs of a batch end, a steady
engine makes of them what it makes of them one after the other; and every batch on its way can come
to its end (`Producer.exists_complete`).
-/

namespace QuotationPress

open Relation (ReflTransGen)

/-- A batch on its way. A job stands beside its position. -/
structure BatchProgress where
  waiting : List (Job × Nat)
  begun : List (Job × Nat) := []
  /-- In the order in which the jobs have ended. -/
  results : List JobResult := []

namespace BatchProgress

/-- No job has begun. -/
def ofJobs (jobs : List Job) : BatchProgress where
  waiting := jobs.zipIdx

/-- All jobs have ended. -/
structure Complete (a : BatchProgress) : Prop where
  waiting : a.waiting = []
  begun : a.begun = []

/-- The results in the order of the jobs. -/
def report (a : BatchProgress) : List JobResult := a.results.mergeSort fun x y => x.index ≤ y.index

/-- How many steps are left. -/
def remaining (a : BatchProgress) : Nat := 2 * a.waiting.length + a.begun.length

/-- The results there are, and those that are to come if `f` is what becomes of a job. -/
def outlook (f : Job × Nat → JobResult) (a : BatchProgress) : List JobResult :=
  (a.waiting ++ a.begun).map f ++ a.results

end BatchProgress

namespace Producer

variable {σ : Type}

/-- The result of a job that is made in a state of the engine. -/
def resultIn (p : Producer) (engine : PdfEngine σ) (t : σ) (job : Job × Nat) : JobResult :=
  ⟨job.2, job.1.filename, (p.runJob engine job.1 t).1⟩

/-- One step of a batch on its way. -/
inductive Step (p : Producer) (engine : PdfEngine σ) : BatchProgress → BatchProgress → Prop
  | begin {job : Job × Nat} {rest begun : List (Job × Nat)} {results : List JobResult}
      (room : begun.length < p.concurrency) :
      Step p engine ⟨job :: rest, begun, results⟩ ⟨rest, begun ++ [job], results⟩
  | finish (t : σ) {waiting before behind : List (Job × Nat)} {job : Job × Nat}
      {results : List JobResult} :
      Step p engine ⟨waiting, before ++ job :: behind, results⟩
        ⟨waiting, before ++ behind, results ++ [p.resultIn engine t job]⟩

/-- Any number of steps. -/
abbrev Run (p : Producer) (engine : PdfEngine σ) : BatchProgress → BatchProgress → Prop :=
  ReflTransGen (p.Step engine)

variable {p : Producer} {engine : PdfEngine σ} {a b : BatchProgress}

/-! ### What a step keeps -/

/-- No step takes a job beyond the number that may be under way. -/
theorem Step.begun_le (h : p.Step engine a b) (within : a.begun.length ≤ p.concurrency) :
    b.begun.length ≤ p.concurrency := by
  cases h with
  | begin room =>
    rw [List.length_append, List.length_singleton]
    exact room
  | finish t =>
    simp only [List.length_append, List.length_cons] at within ⊢
    omega

/-- Every step leaves less to do. -/
theorem Step.remaining_lt (h : p.Step engine a b) : b.remaining < a.remaining := by
  cases h with
  | begin room =>
    simp only [BatchProgress.remaining, List.length_append, List.length_cons, List.length_nil]
    omega
  | finish t =>
    simp only [BatchProgress.remaining, List.length_append, List.length_cons]
    omega

/-- A job that ends has the result that was to come. -/
theorem Step.outlook_perm (steady : engine.Steady) (t : σ) (h : p.Step engine a b) :
    (b.outlook (p.resultIn engine t)).Perm (a.outlook (p.resultIn engine t)) := by
  cases h with
  | @begin job rest begun results room =>
    refine List.Perm.append_right _ (List.Perm.map _ ?_)
    rw [← List.append_assoc, List.cons_append]
    exact List.perm_append_singleton job (rest ++ begun)
  | @finish t' waiting before behind job results =>
    have same : p.resultIn engine t' job = p.resultIn engine t job := by
      rw [resultIn, p.runJob_steady steady job.1 t' t, resultIn]
    have taken :
        (waiting ++ (before ++ job :: behind)).Perm (job :: (waiting ++ (before ++ behind))) := by
      rw [← List.append_assoc, ← List.append_assoc]
      exact List.perm_middle
    rw [BatchProgress.outlook, BatchProgress.outlook, same, ← List.append_assoc]
    exact (List.perm_append_singleton _ _).trans
      ((List.Perm.map (p.resultIn engine t) taken).append_right results).symm

/-- As long as jobs are left, one can begin or one can end. -/
theorem exists_step (room : 0 < p.concurrency) (t : σ) (left : ¬ a.Complete) :
    ∃ b, p.Step engine a b := by
  obtain ⟨waiting, begun, results⟩ := a
  cases begun with
  | cons job behind =>
    have ended : p.Step engine ⟨waiting, [] ++ job :: behind, results⟩ _ := .finish t
    exact ⟨_, ended⟩
  | nil =>
    cases waiting with
    | nil => exact absurd ⟨rfl, rfl⟩ left
    | cons job rest => exact ⟨_, .begin room⟩

/-! ### What a run keeps -/

/-- No more jobs are ever under way than may be. -/
theorem begun_le_of_run (run : p.Run engine a b) (within : a.begun.length ≤ p.concurrency) :
    b.begun.length ≤ p.concurrency := by
  induction run with
  | refl => exact within
  | tail _ step ih => exact step.begun_le ih

/-- A run only exchanges what is to come for what there is. -/
theorem outlook_perm_of_run (steady : engine.Steady) (t : σ) (run : p.Run engine a b) :
    (b.outlook (p.resultIn engine t)).Perm (a.outlook (p.resultIn engine t)) := by
  -- step by step from the end of the run
  induction run with
  | refl => exact .refl _
  | tail _ step ih => exact (step.outlook_perm steady t).trans ih

/-- A batch on its way comes to its end, whatever has begun and ended so far. -/
theorem exists_complete (room : 0 < p.concurrency) (t : σ) (a : BatchProgress) :
    ∃ b, p.Run engine a b ∧ b.Complete := by
  by_cases done : a.Complete
  · exact ⟨a, .refl, done⟩
  · obtain ⟨next, step⟩ : ∃ b, p.Step engine a b := exists_step room t done
    -- a step leaves less to do, so the recursion ends
    have shorter := step.remaining_lt
    obtain ⟨b, run, complete⟩ := exists_complete room t next
    exact ⟨b, .head step run, complete⟩
termination_by a.remaining

/-! ### The report of a run -/

/-- A steady engine makes of each job what it makes of it in any one state. -/
theorem runJobs_steady (p : Producer) (steady : engine.Steady) (t : σ) (n : Nat) (jobs : List Job)
    (s : σ) :
    (p.runJobs engine n jobs s).1 = (jobs.zipIdx n).map (p.resultIn engine t) := by
  induction jobs generalizing n s with
  | nil => rfl
  | cons job rest ih =>
    have first := p.runJob_steady steady job s t
    have others := ih (n + 1) (p.runJob engine job s).2
    rw [List.zipIdx_cons, List.map_cons, ← others, resultIn, ← first]
    rfl

theorem pairwise_index_lt (p : Producer) (engine : PdfEngine σ) (t : σ) (jobs : List Job) :
    (jobs.zipIdx.map (p.resultIn engine t)).Pairwise fun x y => x.index < y.index := by
  rw [List.pairwise_iff_getElem]
  intro i j hi hj less
  simpa [resultIn] using less

/-- Results in some order, put in order by their positions. -/
theorem mergeSort_eq_of_perm {xs ys : List JobResult} (perm : xs.Perm ys)
    (sorted : ys.Pairwise fun x y => x.index < y.index) :
    (xs.mergeSort fun x y => x.index ≤ y.index) = ys := by
  have same := (List.mergeSort_perm xs fun x y => x.index ≤ y.index).trans perm
  have ordered : (xs.mergeSort fun x y => x.index ≤ y.index).Pairwise fun x y =>
      x.index ≤ y.index :=
    (List.pairwise_mergeSort (fun a b c h h' => by simp only [decide_eq_true_eq] at h h' ⊢; omega)
      (fun a b => by simp only [Bool.or_eq_true, decide_eq_true_eq]; omega) xs).imp fun h => by
        simpa using h
  -- positions are distinct, so that the order by `≤` is strict
  have apart : (xs.mergeSort fun x y => x.index ≤ y.index).Pairwise fun x y => x.index ≠ y.index :=
    same.symm.pairwise (sorted.imp fun h => Nat.ne_of_lt h) fun h => h.symm
  refine List.Perm.eq_of_pairwise (fun x y _ _ h h' => absurd h (Nat.lt_asymm h'))
    ((ordered.and apart).imp fun h => Nat.lt_of_le_of_ne h.1 h.2) sorted same

/-- However the jobs of a batch have overlapped, once all have ended their results are those of the
jobs one after the other. -/
theorem report_of_run (steady : engine.Steady) {jobs : List Job}
    (run : p.Run engine (.ofJobs jobs) b) (complete : b.Complete) (n : σ) :
    b.report = (p.runJobs engine 0 jobs n).1 := by
  have perm := outlook_perm_of_run steady n run
  simp only [BatchProgress.outlook, complete.waiting, complete.begun, BatchProgress.ofJobs,
    List.append_nil, List.map_nil, List.nil_append] at perm
  rw [p.runJobs_steady steady n]
  exact mergeSort_eq_of_perm perm (p.pairwise_index_lt engine n jobs)

end Producer

end QuotationPress
