import Mathlib.Algebra.BigOperators.Group.List.Basic
import QuotationPress.Page.Markup

/-!
# Totals over a tree of markup

A measure says what a tag counts for, by its attributes, and what a style sheet counts for. `total μ
m` adds this up over the tree `m`, in the order in which its parts stand; texts count for nothing.
The style sheets of a tree are one such total and the classes in it are another, so that how a total
goes through the forms of a tree and through the combinators that a page is built with is said once,
here.
-/

namespace QuotationPress.Markup

/-- What the parts of a tree count for. -/
structure Measure (β : Type) where
  tag : Attributes → β
  sheet : String → β

variable {β : Type} [AddMonoid β]

mutual

/-- What a tree counts for: its tags and its style sheets, added up in order. -/
def total (μ : Measure β) : Markup → β
  | text _ => 0
  | void _ attributes => μ.tag attributes
  | element _ attributes children => μ.tag attributes + totalAll μ children
  | styleSheet css => μ.sheet css

def totalAll (μ : Measure β) : List Markup → β
  | [] => 0
  | m :: rest => total μ m + totalAll μ rest

end

variable (μ : Measure β)

/-! ### The forms of a tree -/

@[simp] theorem total_text (s : String) : total μ (text s) = 0 := rfl

@[simp] theorem total_void (tag : VoidTag) (attributes : Attributes) :
    total μ (void tag attributes) = μ.tag attributes := rfl

@[simp] theorem total_element (tag : Tag) (attributes : Attributes) (children : List Markup) :
    total μ (element tag attributes children) = μ.tag attributes + totalAll μ children := rfl

@[simp] theorem total_styleSheet (css : String) : total μ (styleSheet css) = μ.sheet css := rfl

@[simp] theorem totalAll_nil : totalAll μ [] = 0 := rfl

@[simp] theorem totalAll_cons (m : Markup) (ms : List Markup) :
    totalAll μ (m :: ms) = total μ m + totalAll μ ms := rfl

/-- The total of two runs, one behind the other. -/
@[simp] theorem totalAll_append (ms ns : List Markup) :
    totalAll μ (ms ++ ns) = totalAll μ ms + totalAll μ ns := by
  induction ms with
  | nil => exact (zero_add _).symm
  | cons m rest ih => rw [List.cons_append, totalAll_cons, ih, totalAll_cons, add_assoc]

/-! ### Combinators -/

@[simp] theorem total_newline : total μ newline = 0 := rfl

@[simp] theorem total_classed (tag : Tag) (name : String) (children : List Markup) :
    total μ (classed tag name children) = μ.tag [(.classes, name)] + totalAll μ children := rfl

@[simp] theorem total_holding (tag : Tag) (s : String) : total μ (holding tag s) = μ.tag [] := by
  simp [holding]

@[simp] theorem totalAll_lineIf (condition : Bool) (m : Markup) :
    totalAll μ (lineIf condition m) = if condition then total μ m else 0 := by
  unfold lineIf
  split <;> simp

/-- The total of a run made part by part. -/
theorem totalAll_flatMap {α : Type} (f : α → List Markup) (xs : List α) :
    totalAll μ (xs.flatMap f) = (xs.map fun x => totalAll μ (f x)).sum := by
  induction xs with
  | nil => rfl
  | cons x rest ih => simp [ih]

theorem totalAll_map {α : Type} (f : α → Markup) (xs : List α) :
    totalAll μ (xs.map f) = (xs.map fun x => total μ (f x)).sum := by
  rw [List.map_eq_flatMap, totalAll_flatMap]
  simp

/-! ### Parts that count for nothing -/

variable {μ}

/-- Parts that count for nothing are nothing together. -/
theorem totalAll_flatMap_of_zero {α : Type} {f : α → List Markup} {xs : List α}
    (h : ∀ x ∈ xs, totalAll μ (f x) = 0) : totalAll μ (xs.flatMap f) = 0 := by
  rw [totalAll_flatMap]
  exact List.sum_eq_zero (List.forall_mem_map.mpr h)

theorem totalAll_map_of_zero {α : Type} {f : α → Markup} {xs : List α}
    (h : ∀ x ∈ xs, total μ (f x) = 0) :
    totalAll μ (xs.map f) = 0 := by
  rw [totalAll_map]
  exact List.sum_eq_zero (List.forall_mem_map.mpr h)

end QuotationPress.Markup
