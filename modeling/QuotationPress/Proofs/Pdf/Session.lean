import QuotationPress.Pdf.Producer

/-!
# One page and one session

`Producer.convert` shows a page to the engine when its limit leaves it time
(`convert_of_leavesTime`) and else fails by itself (`convert_of_not_leavesTime`); `Producer.session`
uses an engine that starts (`session_of_started`) and cleans up in any case.
-/

namespace QuotationPress

/-- The file of a page that an engine has been shown, or the message of the failure. -/
def Conversion.file (limit : Value) : Conversion → Except String Bytes
  | .done pdf => .ok pdf
  | .neverEnds => .error (Producer.timedOut limit)
  | .rejected reason => .error reason
  | .crashed reason => .error (Producer.crashed reason)

namespace Producer

variable {σ : Type} (p : Producer) (engine : PdfEngine σ)

/-! ### One page -/

/-- Whether a page with these options is shown to the engine: its limit can be counted, and is not
over at once. -/
def leavesTime (o : PdfOptions) : Bool :=
  !isNoTime (p.timeoutOf o) && (notSeconds? (p.timeoutOf o)).isNone

/-- The message of a page that is not shown. -/
def lateness (o : PdfOptions) : String :=
  if isNoTime (p.timeoutOf o) then timedOut (p.timeoutOf o)
  else crashed ((notSeconds? (p.timeoutOf o)).getD "")

variable {p} in

/-- With time, a page ends as the engine ends it, and the engine is left as it leaves itself. -/
theorem convert_of_leavesTime {o : PdfOptions} (h : p.leavesTime o = true) (html : String) (s : σ) :
    p.convert engine html o s =
      ((engine.convert html o s).1.file (p.timeoutOf o), (engine.convert html o s).2) := by
  obtain ⟨given, counted⟩ : isNoTime (p.timeoutOf o) = false ∧
      notSeconds? (p.timeoutOf o) = none := by
    simpa [leavesTime] using h
  unfold convert
  simp only [given, counted, Bool.false_eq_true, ite_false]
  rcases engine.convert html o s with ⟨_ | _ | _ | _, t⟩ <;> rfl

variable {p} in
/-- The engine does not get to know of a page without time. -/
theorem convert_of_not_leavesTime {o : PdfOptions} (h : p.leavesTime o = false) (html : String)
    (s : σ) :
    p.convert engine html o s = (.error (p.lateness o), s) := by
  unfold convert lateness
  by_cases expired : isNoTime (p.timeoutOf o) = true
  · simp only [expired, ite_true]
  · cases counted : notSeconds? (p.timeoutOf o) with
    | none => simp [leavesTime, expired, counted] at h
    | some reason => simp only [expired, counted, Bool.false_eq_true, ite_false, Option.getD_some]

/-! ### One session -/

/-- The message of a session whose engine does not start. -/
def notStarted (reason : String) : String := "PDF engine failed to start: " ++ reason

variable {engine} {α : Type} {s : σ}

/-- With a running engine, the answer is that of its use, whatever the cleanup says. -/
theorem session_of_started (h : (engine.start s).1 = .ok ()) (use : σ → Except String α × σ) :
    session engine use s =
      ((use (engine.start s).2).1, (engine.cleanup (use (engine.start s).2).2).2) := by
  unfold session
  rcases started : engine.start s with ⟨_ | _, t⟩
  · rw [started] at h
    cases h
  · rfl

/-- An engine that does not start is cleaned up all the same. -/
theorem session_of_not_started {reason : String} (h : (engine.start s).1 = .error reason)
    (use : σ → Except String α × σ) :
    session engine use s = (.error (notStarted reason), (engine.cleanup (engine.start s).2).2) := by
  unfold session
  rcases started : engine.start s with ⟨e | _, t⟩
  · rw [started] at h
    obtain rfl := Except.error.inj h
    rfl
  · rw [started] at h
    cases h

/-! ### One document -/

variable {p}

theorem produce_eq (p : Producer) (engine : PdfEngine σ) (html : String) (job : Job) (s : σ) :
    p.produce engine html job s =
      session engine (p.convert engine (p.prepare html job).1 (p.prepare html job).2) s := rfl

theorem runJob_of_page {job : Job} {html : String} (page : job.source = .ok html) (s : σ) :
    p.runJob engine job s = p.convert engine (p.prepare html job).1 (p.prepare html job).2 s := by
  rw [runJob, page]

end Producer

end QuotationPress
