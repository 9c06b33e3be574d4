import QuotationPress.Failure

/-!
# When a computation that may fail succeeds

`Outcome.bind_eq_ok` takes a computation of two steps apart; `Succeeds x` says that `x` has a
result, and every combinator has its lemma that says when a computation built with it does.
-/

namespace QuotationPress

namespace Outcome

variable {α β : Type} {x : Outcome α} {f : α → Outcome β} {a : α} {b : β}

@[simp] theorem ok_bind : ((Except.ok a : Outcome α) >>= f) = f a := rfl

@[simp] theorem error_bind {e : Failure} : ((Except.error e : Outcome α) >>= f) = .error e := rfl

theorem bind_eq_ok : (x >>= f) = .ok b ↔ ∃ a, x = .ok a ∧ f a = .ok b := by
  cases x with
  | error e => simp
  | ok a => simp

/-- A step that is taken in one of two ways. -/
theorem bind_ite_eq_ok {c : Prop} [Decidable c] {y : Outcome α} :
    (if c then x >>= f else y >>= f) = .ok b ↔ ∃ a, (if c then x else y) = .ok a ∧ f a = .ok b := by
  split <;> exact bind_eq_ok

theorem map_eq_ok {g : α → β} : g <$> x = .ok b ↔ ∃ a, x = .ok a ∧ g a = b := by
  cases x with
  | error e => simp [Functor.map, Except.map]
  | ok a => simp [Functor.map, Except.map]

/-- Whatever comes out of a pass over a list comes from one of its members. -/
theorem mem_of_mapM_eq_ok {f : α → Outcome β} {xs : List α} {ys : List β} {y : β}
    (h : xs.mapM f = .ok ys) (hy : y ∈ ys) : ∃ x ∈ xs, f x = .ok y := by
  induction xs generalizing ys with
  | nil =>
    rw [← Except.ok.inj h] at hy
    cases hy
  | cons x rest ih =>
    rw [List.mapM_cons] at h
    obtain ⟨z, hz, h⟩ := bind_eq_ok.mp h
    obtain ⟨zs, hzs, h⟩ := bind_eq_ok.mp h
    rw [← Except.ok.inj h] at hy
    obtain rfl | hy := List.mem_cons.mp hy
    · exact ⟨x, List.mem_cons_self .., hz⟩
    · obtain ⟨w, hw, hfw⟩ := ih hzs hy
      exact ⟨w, List.mem_cons_of_mem _ hw, hfw⟩

/-- It stands where the member stood. -/
theorem getElem?_of_mapM_eq_ok {f : α → Outcome β} {xs : List α} {ys : List β}
    (h : xs.mapM f = .ok ys) {i : Nat} {x : α} (at_i : xs[i]? = some x) :
    ∃ y, f x = .ok y ∧ ys[i]? = some y := by
  induction xs generalizing ys i with
  | nil => simp at at_i
  | cons z rest ih =>
    rw [List.mapM_cons] at h
    obtain ⟨y, hy, h⟩ := bind_eq_ok.mp h
    obtain ⟨more, behind, h⟩ := bind_eq_ok.mp h
    obtain rfl := Except.ok.inj h
    cases i with
    | zero => exact ⟨y, Option.some.inj at_i ▸ hy, rfl⟩
    | succ i => exact ih behind at_i

/-- What is known of each result from its origin, is known of all of them in order. -/
theorem map_eq_map_of_mapM_eq_ok {γ : Type} {f : α → Outcome β} {g : β → γ} {k : α → γ}
    {xs : List α} {ys : List β} (h : xs.mapM f = .ok ys)
    (each : ∀ x ∈ xs, ∀ y, f x = .ok y → g y = k x) : ys.map g = xs.map k := by
  induction xs generalizing ys with
  | nil =>
    rw [← Except.ok.inj h]
    rfl
  | cons x rest ih =>
    obtain ⟨first, others⟩ := List.forall_mem_cons.mp each
    rw [List.mapM_cons] at h
    obtain ⟨y, hy, h⟩ := bind_eq_ok.mp h
    obtain ⟨more, behind, h⟩ := bind_eq_ok.mp h
    rw [← Except.ok.inj h, List.map_cons, List.map_cons, first y hy, ih behind others]

/-- Two passes over a list are one. -/
theorem mapM_bind_eq_ok {γ : Type} {f : α → Outcome β} {g : β → Outcome γ} {xs : List α}
    {ys : List β} {zs : List γ} (first : xs.mapM f = .ok ys) (second : ys.mapM g = .ok zs) :
    xs.mapM (fun x => f x >>= g) = .ok zs := by
  induction xs generalizing ys zs with
  | nil =>
    obtain rfl := Except.ok.inj first
    exact second
  | cons x rest ih =>
    rw [List.mapM_cons] at first
    obtain ⟨y, hy, first⟩ := bind_eq_ok.mp first
    obtain ⟨more, behind, first⟩ := bind_eq_ok.mp first
    obtain rfl := Except.ok.inj first
    rw [List.mapM_cons] at second
    obtain ⟨z, hz, second⟩ := bind_eq_ok.mp second
    obtain ⟨others, later, second⟩ := bind_eq_ok.mp second
    obtain rfl := Except.ok.inj second
    rw [List.mapM_cons, hy, ok_bind, hz, ok_bind, ih behind later]
    rfl

theorem length_of_mapM_eq_ok {f : α → Outcome β} {xs : List α} {ys : List β}
    (h : xs.mapM f = .ok ys) :
    ys.length = xs.length := by
  have same := map_eq_map_of_mapM_eq_ok (g := fun _ => ()) (k := fun _ => ()) h fun _ _ _ _ => rfl
  simpa using congrArg List.length same

theorem mapM_eq_ok_map {f : α → Outcome β} {g : α → β} {xs : List α}
    (h : ∀ x ∈ xs, f x = .ok (g x)) :
    xs.mapM f = .ok (xs.map g) := by
  induction xs with
  | nil => rfl
  | cons x rest ih =>
    obtain ⟨hx, hrest⟩ := List.forall_mem_cons.mp h
    rw [List.mapM_cons, hx, ok_bind, ih hrest]
    rfl

/-- A computation that has a result. -/
def Succeeds (x : Outcome α) : Prop := ∃ a, x = .ok a

theorem isOk_iff_succeeds : x.isOk = true ↔ Succeeds x := by
  cases x <;> simp [Succeeds, Except.isOk, Except.toBool]

instance : Decidable (Succeeds x) := decidable_of_iff _ isOk_iff_succeeds

@[simp] theorem succeeds_ok : Succeeds (.ok a : Outcome α) := ⟨a, rfl⟩

@[simp] theorem succeeds_pure : Succeeds (pure a : Outcome α) := ⟨a, rfl⟩

@[simp] theorem not_succeeds_error {e : Failure} : ¬ Succeeds (.error e : Outcome α) :=
  fun ⟨_, h⟩ => nomatch h

theorem succeeds_bind : Succeeds (x >>= f) ↔ ∃ a, x = .ok a ∧ Succeeds (f a) := by
  cases x with
  | error e => simp
  | ok a => simp

theorem succeeds_bind_iff_forall :
    Succeeds (x >>= f) ↔ Succeeds x ∧ ∀ a, x = .ok a → Succeeds (f a) := by
  cases x with
  | error e => simp
  | ok a => simp

/-- When the second step succeeds whatever the first one gives, only the first one counts. -/
theorem succeeds_bind_iff_left (h : ∀ a, Succeeds (f a)) : Succeeds (x >>= f) ↔ Succeeds x := by
  rw [succeeds_bind]
  exact ⟨fun ⟨a, hx, _⟩ => ⟨a, hx⟩, fun ⟨a, hx⟩ => ⟨a, hx, h a⟩⟩

/-- When the second step succeeds or not whatever the first one gives, both count. -/
theorem succeeds_bind_iff_and {P : Prop} (h : ∀ a, x = .ok a → (Succeeds (f a) ↔ P)) :
    Succeeds (x >>= f) ↔ Succeeds x ∧ P := by
  rw [succeeds_bind]
  exact ⟨fun ⟨a, hx, ha⟩ => ⟨⟨a, hx⟩, (h a hx).mp ha⟩, fun ⟨⟨a, hx⟩, p⟩ => ⟨a, hx, (h a hx).mpr p⟩⟩

/-- When the first step succeeds anyway, only the second one counts. -/
theorem succeeds_bind_iff_right {P : Prop} (hx : Succeeds x)
    (h : ∀ a, x = .ok a → (Succeeds (f a) ↔ P)) : Succeeds (x >>= f) ↔ P := by
  rw [succeeds_bind_iff_and h, and_iff_right hx]

/-- A step that is taken under a condition, in place of one that succeeds, counts under this
condition. -/
theorem succeeds_bind_iff_of_ite {P c : Prop} [Decidable c] {y : Outcome α} (hy : Succeeds y)
    (h : ∀ a, Succeeds (f a) ↔ P) :
    Succeeds (if c then x >>= f else y >>= f) ↔ (c → Succeeds x) ∧ P := by
  split
  · next holds => rw [succeeds_bind_iff_and fun a _ => h a, imp_iff_right holds]
  · next fails =>
    rw [succeeds_bind_iff_right hy fun a _ => h a, and_iff_right fun holds => absurd holds fails]

theorem succeeds_map {g : α → β} : Succeeds (g <$> x) ↔ Succeeds x := by
  cases x <;> simp [Succeeds, Functor.map, Except.map]

/-- A pass over a list succeeds exactly if it does for each member. -/
theorem succeeds_mapM {f : α → Outcome β} {xs : List α} :
    Succeeds (xs.mapM f) ↔ ∀ x ∈ xs, Succeeds (f x) := by
  induction xs with
  | nil => simp
  | cons x rest ih =>
    rw [List.mapM_cons, List.forall_mem_cons, ← ih]
    constructor
    · rintro ⟨ys, h⟩
      obtain ⟨y, hy, h⟩ := bind_eq_ok.mp h
      obtain ⟨zs, hzs, -⟩ := bind_eq_ok.mp h
      exact ⟨⟨y, hy⟩, ⟨zs, hzs⟩⟩
    · rintro ⟨⟨y, hy⟩, ⟨zs, hzs⟩⟩
      exact ⟨y :: zs, by rw [hy, hzs]; rfl⟩

/-- Every result of the computation is like this. -/
def Ensures (P : α → Prop) (x : Outcome α) : Prop := ∀ a, x = .ok a → P a

theorem ensures_pure {P : α → Prop} (h : P a) : Ensures P (pure a : Outcome α) :=
  fun _ same => Except.ok.inj same ▸ h

theorem ensures_bind {P : β → Prop} (h : ∀ a, Ensures P (f a)) : Ensures P (x >>= f) := fun _ hb =>
  have ⟨a, _, hfa⟩ := bind_eq_ok.mp hb
  h a _ hfa

theorem ensures_ite {P : α → Prop} {c : Prop} [Decidable c] {y : Outcome α} (hx : Ensures P x)
    (hy : Ensures P y) : Ensures P (if c then x else y) := by
  split
  · exact hx
  · exact hy

theorem ensures_bind_ite {P : β → Prop} {c : Prop} [Decidable c] {y : Outcome α}
    (h : ∀ a, Ensures P (f a)) : Ensures P (if c then x >>= f else y >>= f) :=
  ensures_ite (ensures_bind h) (ensures_bind h)

end Outcome

end QuotationPress
