import QuotationPress.Pdf.Browser
import QuotationPress.Proofs.Pdf.Session

/-!
# What the making of one file opens in a browser, it closes

`Browser.start_eq`, `Browser.convert_eq` and `Browser.cleanup_eq` give the calls of each part of the
work, `produce_course` those of all of it, and `produce_releases` reads off what is released, when,
and with which outcome.
-/

namespace QuotationPress

/-- What was called, in this order. -/
def BrowserState.made (s : BrowserState) : List String := s.calls.map BrowserCall.target

namespace Browser

variable (setup : BrowserSetup)

/-! ### Calls in a row -/

/-- The message of a call that fails. -/
def failure (c : BrowserCall) : String := c.target ++ " failed"

/-- The calls of a row up to the first that fails. -/
def reached : List BrowserCall → List BrowserCall
  | [] => []
  | c :: rest => c :: if setup.fails c.target then [] else reached rest

/-- What a row of calls ends with: the failure that stops it, or a value. -/
def ending {α : Type} (value : α) : List BrowserCall → Except String α
  | [] => .ok value
  | c :: rest => if setup.fails c.target then .error (failure c) else ending value rest

/-- One call after the other while they succeed, and a value at the end. -/
def inTurn {α : Type} (value : α) : List BrowserCall → Steps α
  | [] => fun s => (.ok value, s)
  | c :: rest => andThen (call setup c) (inTurn value rest)

/-- A call that fails ends the row; it stands in the record either way. -/
theorem andThen_call {α : Type} (c : BrowserCall) (next : Steps α) (s : BrowserState) :
    andThen (call setup c) next s =
      if setup.fails c.target then (.error (failure c), { s with calls := s.calls ++ [c] })
      else next { s with calls := s.calls ++ [c] } := by
  unfold andThen call failure
  by_cases failed : setup.fails c.target = true
  · simp only [failed, ite_true]
  · simp only [failed, Bool.false_eq_true, ite_false]

/-- A row of calls makes those up to the first that fails, and ends as they do. -/
theorem inTurn_eq {α : Type} (value : α) (cs : List BrowserCall) (s : BrowserState) :
    inTurn setup value cs s =
      (ending setup value cs, { s with calls := s.calls ++ reached setup cs }) := by
  -- along the row, with whatever has been called before
  induction cs generalizing s with
  | nil => simp only [inTurn, ending, reached, List.append_nil]
  | cons c rest ih =>
    rw [inTurn, andThen_call, ending, reached]
    by_cases failed : setup.fails c.target = true
    · simp only [failed, ite_true]
    · simp only [failed, Bool.false_eq_true, ite_false, ih, List.append_assoc,
        List.singleton_append]

/-- A row ends with its value just if no call of it fails. -/
theorem ending_eq_ok {α : Type} {value : α} {cs : List BrowserCall} :
    ending setup value cs = .ok value ↔ ∀ c ∈ cs, setup.fails c.target = false := by
  induction cs with
  | nil => simp [ending]
  | cons c rest ih => by_cases failed : setup.fails c.target = true <;> simp [ending, failed, ih]

/-- A row that does not fail ends with its value. -/
theorem ending_value {α : Type} {value v : α} {cs : List BrowserCall}
    (h : ending setup value cs = .ok v) :
    v = value := by
  induction cs with
  | nil => exact (Except.ok.inj h).symm
  | cons c rest ih =>
    unfold ending at h
    split at h
    · cases h
    · exact ih h

/-- A row that fails has made the call that failed. -/
theorem reached_of_ending_error {α : Type} {value : α} {cs : List BrowserCall} {reason : String}
    (h : ending setup value cs = .error reason) :
    ∃ c ∈ reached setup cs, setup.fails c.target = true ∧ reason = failure c := by
  induction cs with
  | nil => cases h
  | cons c rest ih =>
    unfold ending at h
    unfold reached
    by_cases failed : setup.fails c.target = true
    · rw [if_pos failed] at h
      exact ⟨c, List.mem_cons_self, failed, (Except.error.inj h).symm⟩
    · rw [if_neg failed] at h ⊢
      obtain ⟨d, inside, bad⟩ := ih h
      exact ⟨d, List.mem_cons_of_mem c inside, bad⟩

/-- The calls that are made are the first ones of the row. -/
theorem prefix_reached (cs : List BrowserCall) : reached setup cs <+: cs := by
  induction cs with
  | nil => exact List.prefix_rfl
  | cons c rest ih =>
    rw [reached, List.cons_prefix_cons]
    refine ⟨rfl, ?_⟩
    split
    · exact List.nil_prefix
    · exact ih

theorem reached_targets (cs : List BrowserCall) :
    ((reached setup cs).map BrowserCall.target).Sublist (cs.map BrowserCall.target) :=
  ((prefix_reached setup cs).map BrowserCall.target).sublist

/-! ### The parts of the work -/

def startCall : BrowserCall where
  target := "factory.start"

def closePage : BrowserCall where
  target := "page.close"

def closeBrowser : BrowserCall where
  target := "browser.close"

def stopDriver : BrowserCall where
  target := "playwright.stop"

/-- What is done with a page once it is open. -/
def pageUse (html : String) (o : PdfOptions) : List BrowserCall :=
  [contentCall html, mediaCall, pdfCall o]

/-- Whether the driver runs in the end. -/
def started : Bool := !setup.fails "factory.start"

/-- Whether there is a browser in the end. -/
def launched : Bool := started setup && !setup.fails "chromium.launch"

theorem launched_iff :
    launched setup = true ↔ ending setup () [startCall, launchCall setup] = .ok () := by
  simp [ending_eq_ok, launched, started, startCall, launchCall]

/-- What starting comes to, what it leaves open and which calls it makes. -/
theorem start_eq (s : BrowserState) :
    start setup s =
      (ending setup () [startCall, launchCall setup],
        { hasDriver := s.hasDriver || started setup
          hasBrowser := s.hasBrowser || launched setup
          calls := s.calls ++ reached setup [startCall, launchCall setup] }) := by
  have targets : (launchCall setup).target = "chromium.launch" := rfl
  unfold start
  -- the driver stays open when only the browser fails
  by_cases driver : setup.fails "factory.start" = true <;>
    by_cases launch : setup.fails "chromium.launch" = true <;>
    simp [andThen, call, update, ending, reached, started, launched, startCall, failure, targets,
      driver, launch]

theorem printPage_eq (html : String) (o : PdfOptions) (s : BrowserState) :
    printPage setup html o s =
      (ending setup file (pageUse html o),
        { s with calls := s.calls ++ reached setup (pageUse html o) }) :=
  inTurn_eq setup file (pageUse html o) s

/-- The calls for one page: it is closed if it was opened. -/
def pageCalls (html : String) (o : PdfOptions) : List BrowserCall :=
  pageCall o :: if setup.fails "browser.new_page" then []
    else reached setup (pageUse html o) ++ [closePage]

/-- What becomes of a page. That it does not close hides all that happened before. -/
def pageEnding (html : String) (o : PdfOptions) : Except String Bytes :=
  if setup.fails "browser.new_page" then .error (failure (pageCall o))
  else if setup.fails "page.close" then .error (failure closePage)
  else ending setup file (pageUse html o)

/-- A page that becomes a file becomes the file of the browser. -/
theorem pageEnding_eq_ok {html : String} {o : PdfOptions} {pdf : Bytes}
    (h : pageEnding setup html o = .ok pdf) : pdf = file := by
  unfold pageEnding at h
  split at h
  · cases h
  split at h
  · cases h
  exact ending_value setup h

/-- A page that fails does so for a call that was made and failed. -/
theorem pageCalls_of_pageEnding_error {html : String} {o : PdfOptions} {reason : String}
    (h : pageEnding setup html o = .error reason) :
    ∃ c ∈ pageCalls setup html o, setup.fails c.target = true ∧ reason = failure c := by
  unfold pageEnding at h
  unfold pageCalls
  by_cases opened : setup.fails "browser.new_page" = true
  · rw [if_pos opened] at h
    exact ⟨pageCall o, List.mem_cons_self, opened, (Except.error.inj h).symm⟩
  rw [if_neg opened] at h ⊢
  by_cases closed : setup.fails "page.close" = true
  · rw [if_pos closed] at h
    exact ⟨closePage, by simp, closed, (Except.error.inj h).symm⟩
  · rw [if_neg closed] at h
    obtain ⟨c, inside, bad⟩ := reached_of_ending_error setup h
    exact ⟨c, List.mem_cons_of_mem _ (List.mem_append_left _ inside), bad⟩

/-- What becomes of a page that is shown to an open browser, and which calls it takes. -/
theorem convert_eq (html : String) (o : PdfOptions) {s : BrowserState} (h : s.hasBrowser = true) :
    convert setup html o s =
      (pageEnding setup html o, { s with calls := s.calls ++ pageCalls setup html o }) := by
  have targets : (pageCall o).target = "browser.new_page" := rfl
  unfold convert
  rw [if_pos h, andThen_call, targets]
  unfold pageEnding pageCalls
  by_cases opened : setup.fails "browser.new_page" = true
  · simp only [opened, ite_true]
  · by_cases closed : setup.fails "page.close" = true <;>
      simp [opened, closed, lastly, printPage_eq, call, closePage, failure]

/-- Cleaning up makes a call for all that is open, and leaves nothing open. -/
theorem cleanup_eq (s : BrowserState) :
    (cleanup setup s).2 =
      { hasDriver := false
        hasBrowser := false
        calls := s.calls ++ (if s.hasBrowser then [closeBrowser] else []) ++
          (if s.hasDriver then [stopDriver] else []) } := by
  unfold cleanup
  -- each of the two is closed if it is open, even if the other does not close
  cases browser : s.hasBrowser <;> cases driver : s.hasDriver <;>
    by_cases closed : setup.fails "browser.close" = true <;>
    by_cases stopped : setup.fails "playwright.stop" = true <;>
    simp [lastly, call, doNothing, closeBrowser, stopDriver, closed, stopped]

/-! ### One file -/

/-- The calls for one file, whose page is shown to the browser or not. -/
def course (shown : Bool) (html : String) (o : PdfOptions) : List BrowserCall :=
  reached setup [startCall, launchCall setup] ++
    ((if launched setup && shown then pageCalls setup html o else []) ++
      ((if launched setup then [closeBrowser] else []) ++
        (if started setup then [stopDriver] else [])))

/-- All calls that one file can take, in their order. -/
def schedule : List String :=
  ["factory.start", "chromium.launch", "browser.new_page", "page.set_content", "page.emulate_media",
    "page.pdf", "page.close", "browser.close", "playwright.stop"]

/-- What is opened, and the call that closes it. -/
def releases : List (String × String) :=
  [("browser.new_page", "page.close"), ("chromium.launch", "browser.close"),
    ("factory.start", "playwright.stop")]

/-- The calls come in their order, each at most once. -/
theorem course_sublist (shown : Bool) (html : String) (o : PdfOptions) :
    ((course setup shown html o).map BrowserCall.target).Sublist schedule := by
  have page : ((pageCalls setup html o).map BrowserCall.target).Sublist
      ["browser.new_page", "page.set_content", "page.emulate_media", "page.pdf", "page.close"] := by
    unfold pageCalls
    refine List.Sublist.cons_cons _ ?_
    split
    · exact List.nil_sublist _
    · rw [List.map_append]
      exact (reached_targets setup (pageUse html o)).append (List.Sublist.refl ["page.close"])
  have optional : ∀ (b : Bool) {cs : List BrowserCall} {names : List String},
      (cs.map BrowserCall.target).Sublist names →
        ((if b then cs else []).map BrowserCall.target).Sublist names := by
    intro b cs names h
    cases b with
    | false => exact List.nil_sublist _
    | true => exact h
  have closing : ([closeBrowser].map BrowserCall.target).Sublist ["browser.close"] :=
    List.Sublist.refl _
  have stopping : ([stopDriver].map BrowserCall.target).Sublist ["playwright.stop"] :=
    List.Sublist.refl _
  unfold course
  rw [List.map_append, List.map_append, List.map_append]
  exact (reached_targets setup [startCall, launchCall setup]).append
    ((optional _ page).append ((optional _ closing).append (optional _ stopping)))

/-- What was opened is closed, and nothing else is. -/
theorem course_releases (shown : Bool) (html : String) (o : PdfOptions) {opening closing : String}
    (h : (opening, closing) ∈ releases) :
    closing ∈ (course setup shown html o).map BrowserCall.target ↔
      opening ∈ (course setup shown html o).map BrowserCall.target ∧
      setup.fails opening = false := by
  have launch : (launchCall setup).target = "chromium.launch" := rfl
  have page : (pageCall o).target = "browser.new_page" := rfl
  simp only [releases, List.mem_cons, List.not_mem_nil, or_false, Prod.mk.injEq] at h
  -- which calls are made to open and to close depends on those three that open, and on the page
  -- being shown
  by_cases driver : setup.fails "factory.start" = true <;>
    by_cases browser : setup.fails "chromium.launch" = true <;>
    by_cases opened : setup.fails "browser.new_page" = true <;>
    cases shown <;>
    obtain ⟨rfl, rfl⟩ | ⟨rfl, rfl⟩ | ⟨rfl, rfl⟩ := h <;>
    simp [course, reached, started, launched, startCall, closeBrowser, stopDriver, closePage,
      pageCalls, launch, page, driver, browser, opened]

/-- The calls whose failure is no failure of the file. -/
def forgiven : List String := ["browser.close", "playwright.stop"]

/-- A row without such calls has no other failure exactly when it has none. -/
theorem reached_forgiven {cs : List BrowserCall} (h : ∀ c ∈ cs, c.target ∉ forgiven) :
    (∀ c ∈ reached setup cs, setup.fails c.target = true → c.target ∈ forgiven) ↔
      ∀ c ∈ cs, setup.fails c.target = false := by
  induction cs with
  | nil => simp [reached]
  | cons c rest ih =>
    obtain ⟨first, others⟩ := List.forall_mem_cons.mp h
    rw [reached, List.forall_mem_cons, List.forall_mem_cons]
    by_cases failed : setup.fails c.target = true
    · simp only [failed, forall_const, first, false_and, Bool.true_eq_false]
    · simp only [failed, ite_false, ih others, Bool.false_eq_true, false_implies, true_and]

/-- Among the calls for a page none is forgiven. -/
theorem pageCalls_forgiven (html : String) (o : PdfOptions) :
    (∀ c ∈ pageCalls setup html o, setup.fails c.target = true → c.target ∈ forgiven) ↔
      pageEnding setup html o = .ok file := by
  have page : (pageCall o).target = "browser.new_page" := rfl
  have used : ∀ c ∈ pageUse html o, c.target ∉ forgiven := by
    simp [pageUse, contentCall, mediaCall, pdfCall, forgiven]
  unfold pageCalls pageEnding
  rw [List.forall_mem_cons, page]
  by_cases opened : setup.fails "browser.new_page" = true
  · simp [opened, forgiven]
  · by_cases closed : setup.fails "page.close" = true
    · simp [opened, closed, closePage, forgiven]
    · rw [if_neg opened, if_neg opened, if_neg closed, List.forall_mem_append,
        reached_forgiven setup used, ending_eq_ok]
      simp [opened, closed, closePage]

/-- No call fails but those forgiven exactly when the browser starts and the page becomes a file. -/
theorem course_forgiven (html : String) (o : PdfOptions) :
    (∀ c ∈ course setup true html o, setup.fails c.target = true → c.target ∈ forgiven) ↔
      launched setup = true ∧ pageEnding setup html o = .ok file := by
  have closing : ∀ c ∈ (if launched setup then [closeBrowser] else []) ++
      (if started setup then [stopDriver] else []), setup.fails c.target = true →
        c.target ∈ forgiven := by
    intro c inside _
    simp only [List.mem_append, List.mem_ite_nil_right, List.mem_singleton] at inside
    obtain ⟨-, rfl⟩ | ⟨-, rfl⟩ := inside
    · exact List.mem_cons_self
    · exact List.mem_cons_of_mem _ List.mem_cons_self
  have begun : ∀ c ∈ [startCall, launchCall setup], c.target ∉ forgiven := by
    simp [startCall, launchCall, forgiven]
  unfold course
  rw [List.forall_mem_append, List.forall_mem_append, reached_forgiven setup begun,
    and_iff_left closing, ← ending_eq_ok setup (α := Unit), ← launched_iff]
  refine and_congr_right fun opened => ?_
  rw [opened, Bool.and_true, if_pos rfl, pageCalls_forgiven]

end Browser

namespace Producer

variable (p : Producer) (setup : BrowserSetup) (html : String) (job : Job)

/-- What becomes of a page that is shown to the browser, or is not. -/
def showing (html : String) (o : PdfOptions) : Except String Bytes :=
  match p.leavesTime o, Browser.pageEnding setup html o with
  | false, _ => .error (p.lateness o)
  | true, .error reason => .error (crashed reason)
  | true, .ok pdf => .ok pdf

/-- A page without time is not shown. -/
theorem showing_of_late {o : PdfOptions} (late : p.leavesTime o = false) (html : String) :
    p.showing setup html o = .error (p.lateness o) := by
  unfold showing
  rw [late]

/-- The calls for a page are made if there is time for them. -/
theorem convert_browser (o : PdfOptions) {s : BrowserState} (h : s.hasBrowser = true) :
    p.convert (BrowserEngine setup) html o s =
      (p.showing setup html o,
        { s with calls :=
        s.calls ++ if p.leavesTime o then Browser.pageCalls setup html o else [] }) := by
  cases shown : p.leavesTime o with
  | false =>
    rw [convert_of_not_leavesTime (BrowserEngine setup) shown, showing_of_late p setup shown]
    simp only [Bool.false_eq_true, ite_false, List.append_nil]
  | true =>
    rw [convert_of_leavesTime (BrowserEngine setup) shown, showing, shown]
    simp only [BrowserEngine, Browser.convert_eq setup html o h]
    cases Browser.pageEnding setup html o <;> rfl

/-- What becomes of one file. -/
def courseEnding (html : String) (o : PdfOptions) : Except String Bytes :=
  match Browser.ending setup () [Browser.startCall, Browser.launchCall setup] with
  | .error reason => .error (notStarted reason)
  | .ok _ => p.showing setup html o

open Browser in
/-- Nothing is held once the file is made, whatever has failed. -/
theorem produce_course :
    p.produce (BrowserEngine setup) html job {} =
      (p.courseEnding setup (p.prepare html job).1 (p.prepare html job).2,
        { calls := course setup (p.leavesTime (p.prepare html job).2) (p.prepare html job).1
            (p.prepare html job).2 }) := by
  rw [produce_eq]
  generalize (p.prepare html job).1 = page
  generalize (p.prepare html job).2 = o
  have opening := start_eq setup {}
  unfold courseEnding
  cases verdict : ending setup () [startCall, launchCall setup] with
  | error reason =>
    have refused : ((BrowserEngine setup).start {}).1 = .error reason := by
      rw [← verdict]
      exact congrArg Prod.fst opening
    have unlaunched : launched setup = false := by
      rw [Bool.eq_false_iff, ne_eq, launched_iff, verdict]
      simp
    rw [session_of_not_started refused]
    refine Prod.ext rfl ?_
    show (cleanup setup (start setup {}).2).2 = _
    rw [opening, cleanup_eq]
    simp [course, unlaunched]
  | ok _ =>
    have ready : ((BrowserEngine setup).start {}).1 = .ok () := by
      rw [← verdict]
      exact congrArg Prod.fst opening
    have opened : launched setup = true := (launched_iff setup).mpr verdict
    rw [session_of_started ready]
    have held : ((BrowserEngine setup).start {}).2 =
        { hasDriver := started setup
          hasBrowser := true
          calls := reached setup [startCall, launchCall setup] } := by
      show (start setup {}).2 = _
      rw [opening, opened]
      simp
    rw [held, convert_browser p setup page o rfl]
    refine Prod.ext rfl ?_
    show (cleanup setup _).2 = _
    rw [cleanup_eq]
    simp [course, opened]

/-! ### What is released -/

/-- A file is made just if there is time and the page becomes one. -/
theorem showing_eq_ok {html : String} {o : PdfOptions} {pdf : Bytes} :
    p.showing setup html o = .ok pdf ↔
      p.leavesTime o = true ∧ Browser.pageEnding setup html o = .ok pdf := by
  unfold showing
  cases p.leavesTime o <;> cases Browser.pageEnding setup html o <;> simp

/-- A file is made just if there is time, the browser starts and the page becomes one. -/
theorem courseEnding_eq_ok {html : String} {o : PdfOptions} {pdf : Bytes} :
    p.courseEnding setup html o = .ok pdf ↔
      p.leavesTime o = true ∧ Browser.launched setup = true ∧
      Browser.pageEnding setup html o = .ok pdf := by
  unfold courseEnding
  rw [Browser.launched_iff]
  cases Browser.ending setup () [Browser.startCall, Browser.launchCall setup] with
  | error reason => simp
  | ok _ => simp [showing_eq_ok]

open Browser in
/-- A file that fails does so for want of time or for a call that was made and failed. -/
theorem courseEnding_eq_error {html : String} {o : PdfOptions} {reason : String}
    (h : p.courseEnding setup html o = .error reason) :
    (p.leavesTime o = false ∧ reason = p.lateness o) ∨
      ∃ c ∈ course setup (p.leavesTime o) html o, setup.fails c.target = true ∧
        (reason = notStarted (failure c) ∨ reason = crashed (failure c)) := by
  unfold courseEnding at h
  cases verdict : ending setup () [startCall, launchCall setup] with
  | error e =>
    rw [verdict] at h
    obtain ⟨c, inside, failed, rfl⟩ := reached_of_ending_error setup verdict
    exact Or.inr ⟨c, List.mem_append_left _ inside, failed, Or.inl (Except.error.inj h).symm⟩
  | ok _ =>
    rw [verdict] at h
    have opened : launched setup = true := (launched_iff setup).mpr verdict
    cases shown : p.leavesTime o with
    | false =>
      exact Or.inl ⟨rfl, Except.error.inj (h.symm.trans (p.showing_of_late setup shown html))⟩
    | true =>
      cases page : pageEnding setup html o with
      | ok pdf => cases h.symm.trans ((p.showing_eq_ok setup).mpr ⟨shown, page⟩)
      | error e =>
        dsimp only [showing] at h
        rw [shown, page] at h
        obtain ⟨c, inside, failed, rfl⟩ := pageCalls_of_pageEnding_error setup page
        refine Or.inr ⟨c, List.mem_append_right _ (List.mem_append_left _ ?_), failed,
          Or.inr (Except.error.inj h).symm⟩
        rw [opened, Bool.and_true, if_pos rfl]
        exact inside

/-- Whatever fails, what was opened for one file is closed, once and after all use, the page before
the browser and the browser before the driver; nothing else is closed. There is a file exactly when
the page was left time and no call has failed but those that close the browser and stop the driver.
Any other end is a failure in the words of the producer. -/
theorem produce_releases :
    match p.produce (BrowserEngine setup) html job {} with
    | (result, after) =>
      (∀ opening closing, (opening, closing) ∈ Browser.releases →
        after.made.count closing = if opening ∈ after.made ∧ setup.fails opening = false
          then 1 else 0) ∧
      after.made.Sublist Browser.schedule ∧
      after.hasDriver = false ∧ after.hasBrowser = false ∧
      (∀ pdf, result = .ok pdf ↔ pdf = Browser.file ∧ p.leavesTime (p.prepare html job).2 = true ∧
        ∀ target ∈ after.made, setup.fails target = true → target ∈ Browser.forgiven) ∧
      ∀ reason, result = .error reason →
        (p.leavesTime (p.prepare html job).2 = false ∧ reason = p.lateness (p.prepare html job).2) ∨
        ∃ c ∈ after.calls, setup.fails c.target = true ∧
          (reason = notStarted (Browser.failure c) ∨ reason = crashed (Browser.failure c)) := by
  rw [produce_course]
  generalize (p.prepare html job).1 = page
  generalize (p.prepare html job).2 = o
  have inOrder := Browser.course_sublist setup (p.leavesTime o) page o
  dsimp only [BrowserState.made]
  refine ⟨fun opening closing related => ?_, inOrder, rfl, rfl, fun pdf => ?_,
    fun reason failed => ?_⟩
  · rw [(List.Nodup.sublist inOrder (by decide)).count]
    exact ite_congr (propext (Browser.course_releases setup _ page o related))
      (fun _ => rfl) fun _ => rfl
  · rw [courseEnding_eq_ok]
    constructor
    · rintro ⟨shown, opened, ending⟩
      obtain rfl := Browser.pageEnding_eq_ok setup ending
      refine ⟨rfl, shown, ?_⟩
      rw [shown, List.forall_mem_map]
      exact (Browser.course_forgiven setup page o).mpr ⟨opened, ending⟩
    · rintro ⟨rfl, shown, harmless⟩
      rw [shown, List.forall_mem_map] at harmless
      exact ⟨shown, (Browser.course_forgiven setup page o).mp harmless⟩
  · exact p.courseEnding_eq_error setup failed

/-- A job whose page is to be ready before it is begun. -/
def overdueJob : Job where
  source := .ok "<p>Quote</p>"
  options := some { timeoutSeconds := some (Binary64.ofInt (-1)) }

/-- With less than no time the page is not shown, and there is no file though no call fails. -/
theorem produce_without_time :
    match ({} : Producer).produce (BrowserEngine {}) "<p>Quote</p>" overdueJob {} with
    | (result, after) =>
      result = .error "PDF generation timed out after -1s" ∧
        ¬ (result = .ok Browser.file ↔
          ∀ target ∈ after.made, BrowserSetup.fails {} target = true →
            target ∈ Browser.forgiven) := by
  rw [produce_course]
  have late : Producer.leavesTime {} (Producer.prepare {} "<p>Quote</p>" overdueJob).2 = false := by
    decide +kernel
  have message : Producer.lateness {} (Producer.prepare {} "<p>Quote</p>" overdueJob).2 =
      "PDF generation timed out after -1s" := by decide +kernel
  have opened : Browser.ending {} () [Browser.startCall, Browser.launchCall {}] = .ok () := rfl
  have ending : Producer.courseEnding {} {} (Producer.prepare {} "<p>Quote</p>" overdueJob).1
      (Producer.prepare {} "<p>Quote</p>" overdueJob).2 =
        .error "PDF generation timed out after -1s" := by
    rw [courseEnding, opened]
    exact (showing_of_late {} {} late _).trans (congrArg Except.error message)
  refine ⟨ending, fun claimed => ?_⟩
  have file := claimed.mpr fun _ _ failed => nomatch failed
  cases ending.symm.trans file

end Producer

end QuotationPress
