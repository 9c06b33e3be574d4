import Mathlib.Algebra.GroupWithZero.Nat
import QuotationPress.Proofs.Page.MarkupText
import QuotationPress.Proofs.Text.Occurrences

/-!
# Classes counted in the text of a page

`classMark name` is what a tag shows whose class begins with the name. `occurrences_chars`: the text
of a tree of markup has this mark as often as the tree has such classes; since no escaped text holds
a quote mark, nothing that is shown on a page can be taken for a class.
-/

namespace QuotationPress

open Text (occurrences)

/-- How the class of a tag begins. -/
def classMark (name : String) : List Char := "class=\"".toList ++ name.toList

/-- A name as classes have them. -/
structure IsClassName (name : String) : Prop where
  inhabited : name.toList ≠ []
  chars : name.toList.all ElementView.isClassChar

instance (name : String) : Decidable (IsClassName name) :=
  decidable_of_iff (name.toList ≠ [] ∧ name.toList.all ElementView.isClassChar)
    ⟨fun ⟨inhabited, chars⟩ => ⟨inhabited, chars⟩, fun ⟨inhabited, chars⟩ => ⟨inhabited, chars⟩⟩

theorem classMark_eq (name : String) : classMark name = "class=".toList ++ '"' :: name.toList := rfl

theorem occurrences_of_unquoted {cs : List Char} (unquoted : '"' ∉ cs) (name : String) :
    occurrences (classMark name) cs = 0 :=
  Text.occurrences_of_not_mem (by rw [classMark_eq]; simp) unquoted

/-! ### Escaped values -/

/-- A character is kept when it is escaped, or it is none that a class has and becomes an entity. -/
theorem Text.escapeChar_cases (c : Char) :
    Text.escapeChar c = [c] ∨ ¬ ElementView.isClassChar c ∧
      ∃ entity, Text.escapeChar c = '&' :: entity := by
  unfold Text.escapeChar
  split_ifs with h1 h2 h3 h4 h5
  · exact .inr ⟨h1 ▸ by decide, _, rfl⟩
  · exact .inr ⟨h2 ▸ by decide, _, rfl⟩
  · exact .inr ⟨h3 ▸ by decide, _, rfl⟩
  · exact .inr ⟨h4 ▸ by decide, _, rfl⟩
  · exact .inr ⟨h5 ▸ by decide, _, rfl⟩
  · exact .inl rfl

/-- Whether a text begins with a name, its escaped form tells. -/
theorem Text.prefix_escapeChars_iff {name cs : List Char}
    (plain : ∀ c ∈ name, ElementView.isClassChar c) :
    name <+: Text.escapeChars cs ↔ name <+: cs := by
  induction cs generalizing name with
  | nil => rfl
  | cons d cs ih =>
    cases name with
    | nil => simp
    | cons c name =>
      obtain ⟨first, later⟩ := List.forall_mem_cons.mp plain
      rw [Text.escapeChars, List.flatMap_cons, ← Text.escapeChars, List.cons_prefix_cons]
      -- an escaped character begins with an ampersand, which no class has
      obtain same | ⟨special, entity, written⟩ := Text.escapeChar_cases d
      · rw [same, List.singleton_append, List.cons_prefix_cons, ih later]
      · rw [written, List.cons_append, List.cons_prefix_cons]
        constructor
        · rintro ⟨rfl, -⟩
          exact absurd first (by decide)
        · rintro ⟨rfl, -⟩
          exact absurd first special

namespace IsClassName

variable {name : String} (h : IsClassName name)
include h

theorem isClassChar_of_mem {c : Char} (inside : c ∈ name.toList) : ElementView.isClassChar c :=
  List.all_eq_true.mp h.chars c inside

theorem not_mem_classMark {c : Char} (other : ¬ ElementView.isClassChar c)
    (outside : c ∉ "class=\"".toList) :
    c ∉ classMark name :=
  List.not_mem_append outside fun inside => other (h.isClassChar_of_mem inside)

theorem classMark_ne_nil : classMark name ≠ [] := List.append_ne_nil_of_right_ne_nil _ h.inhabited

theorem not_mem_quote : '"' ∉ name.toList :=
  fun inside => absurd (h.isClassChar_of_mem inside) (by decide)

end IsClassName

/-! ### Attributes -/

namespace Markup

/-- An attribute that gives a class beginning with the name. -/
def Marks (name : String) (a : Attribute × String) : Prop :=
  a.1 = .classes ∧ name.toList <+: a.2.toList

instance (name : String) (a : Attribute × String) : Decidable (Marks name a) :=
  inferInstanceAs (Decidable (_ ∧ _))

/-- The classes of a tree that begin with the name, and how often a style sheet in it shows such a
class. -/
def Measure.classes (name : String) : Measure ℕ where
  tag attributes := attributes.countP (Marks name ·)
  sheet css := occurrences (classMark name) css.toList

section Tags

variable {name : String} (h : IsClassName name)
include h

/-- An attribute adds one mark to the text before it if it gives such a class, and else none. -/
theorem occurrences_attributeChars (a : Attribute × String) (front : List Char) :
    occurrences (classMark name) (front ++ attributeChars a) =
      occurrences (classMark name) front + if Marks name a then 1 else 0 := by
  have value : '"' ∉ Text.escapeChars a.2.toList :=
    fun inside => (Text.plain_of_mem_escapeChars inside).2 rfl
  have word : ∀ a : Attribute, '"' ∉ a.word.toList ++ ['='] ∧
      ("class=".toList <:+ a.word.toList ++ ['='] ↔ a = .classes) := by
    intro a
    cases a <;> decide
  -- the blank in front parts the attribute from the text before it
  have chars : attributeChars a =
      ' ' :: ((a.1.word.toList ++ ['=']) ++ '"' :: (Text.escapeChars a.2.toList ++ ['"'])) := by
    simp [attributeChars]
  rw [chars,
    Text.occurrences_append_cons (h.not_mem_classMark (by decide) (by decide)) h.classMark_ne_nil,
    classMark_eq,
    Text.occurrences_quoted (by decide) h.not_mem_quote h.inhabited (word a.1).1 value]
  congr 1
  exact if_congr
    (and_congr (word a.1).2 (Text.prefix_escapeChars_iff fun _ => h.isClassChar_of_mem)) rfl rfl

theorem occurrences_flatMap_attributeChars (attributes : Attributes) (front : List Char) :
    occurrences (classMark name) (front ++ attributes.flatMap attributeChars) =
      occurrences (classMark name) front + attributes.countP (Marks name ·) := by
  induction attributes generalizing front with
  | nil => simp
  | cons a rest ih =>
    rw [List.flatMap_cons, ← List.append_assoc, ih, occurrences_attributeChars h, List.countP_cons]
    simp only [decide_eq_true_eq]
    omega

/-- A tag has its own classes, and parts the text around it. -/
theorem occurrences_bracketed (front tag rest : List Char) :
    occurrences (classMark name) (front ++ '<' :: (tag ++ '>' :: rest)) =
      occurrences (classMark name) front +
        (occurrences (classMark name) tag + occurrences (classMark name) rest) := by
  rw [Text.occurrences_append_cons (h.not_mem_classMark (by decide) (by decide)) h.classMark_ne_nil,
    Text.occurrences_append_cons (h.not_mem_classMark (by decide) (by decide)) h.classMark_ne_nil]

/-- A start tag has the classes of its attributes. -/
theorem occurrences_startTag_append {word : String} (plain : '"' ∉ word.toList)
    (attributes : Attributes) (rest : List Char) :
    occurrences (classMark name) (startTag word attributes ++ rest) =
      attributes.countP (Marks name ·) + occurrences (classMark name) rest := by
  have tag : startTag word attributes ++ rest =
      [] ++ '<' :: ((word.toList ++ attributes.flatMap attributeChars) ++ '>' :: rest) := by
        simp [startTag]
  rw [tag, occurrences_bracketed h, occurrences_flatMap_attributeChars h,
    occurrences_of_unquoted plain, Text.occurrences_nil, Nat.zero_add, Nat.zero_add]

/-- An end tag has no class, and parts the text around it. -/
theorem occurrences_append_endTag {word : String} (plain : '"' ∉ word.toList)
    (front rest : List Char) :
    occurrences (classMark name) (front ++ (endTag word ++ rest)) =
      occurrences (classMark name) front + occurrences (classMark name) rest := by
  have tag : endTag word ++ rest = '<' :: (('/' :: word.toList) ++ '>' :: rest) := by simp [endTag]
  have slashed : '"' ∉ '/' :: word.toList := by simp [plain]
  rw [tag, occurrences_bracketed h, occurrences_of_unquoted slashed, Nat.zero_add]

end Tags

/-! ### Trees -/

variable {name : String}

/-- No mark begins in front of the text, where no quote mark is, and goes on in it. -/
def Apart (name : String) (cs : List Char) : Prop :=
  ∀ front, '"' ∉ front →
    occurrences (classMark name) (front ++ cs) = occurrences (classMark name) cs

theorem apart_nil (name : String) : Apart name [] := by
  intro front plain
  rw [List.append_nil, occurrences_of_unquoted plain]
  rfl

theorem Apart.append {front cs : List Char} (apart : Apart name cs) (plain : '"' ∉ front) :
    Apart name (front ++ cs) := by
  intro before unquoted
  rw [← List.append_assoc, apart _ (List.not_mem_append unquoted plain), apart _ plain]

/-- A bracket keeps what follows apart: it is in no mark. -/
theorem apart_bracket (h : IsClassName name) (cs : List Char) : Apart name ('<' :: cs) := by
  have parted (front : List Char) : occurrences (classMark name) (front ++ '<' :: cs) =
      occurrences (classMark name) front + occurrences (classMark name) cs :=
    Text.occurrences_append_cons (h.not_mem_classMark (by decide) (by decide)) h.classMark_ne_nil
  intro front plain
  rw [parted, occurrences_of_unquoted plain, ← Text.occurrences_nil (classMark name), ← parted,
    List.nil_append]

mutual

/-- A tree in front of a text that is apart adds its own classes, and the whole is apart again. -/
theorem occurrences_chars_append (h : IsClassName name) :
    ∀ (m : Markup) {rest : List Char}, Apart name rest →
    occurrences (classMark name) (m.chars ++ rest) = m.total (.classes name) +
      occurrences (classMark name) rest ∧
      Apart name (m.chars ++ rest)
  | text s, rest, apart => by
    have plain : '"' ∉ Text.escapeChars s.toList :=
      fun inside => (Text.plain_of_mem_escapeChars inside).2 rfl
    refine ⟨?_, apart.append plain⟩
    rw [chars, apart _ plain, total_text, Nat.zero_add]
  | void tag attributes, rest, apart => by
    have word : '"' ∉ tag.word.toList := by cases tag <;> decide
    refine ⟨?_, apart_bracket h _⟩
    exact occurrences_startTag_append h word attributes rest
  | element tag attributes children, rest, apart => by
    have word : '"' ∉ tag.word.toList := by cases tag <;> decide
    -- the children by themselves, in front of nothing
    have inside : occurrences (classMark name) (charsAll children) =
        totalAll (.classes name) children := by
      have whole := (occurrences_charsAll_append h children (apart_nil name)).1
      rwa [List.append_nil] at whole
    rw [chars, List.append_assoc, List.append_assoc]
    refine ⟨?_, apart_bracket h _⟩
    rw [occurrences_startTag_append h word, occurrences_append_endTag h word, inside, total_element,
      Nat.add_assoc]
    rfl
  | styleSheet css, rest, apart => by
    have word : '"' ∉ "style".toList := by decide
    rw [chars, List.append_assoc, List.append_assoc]
    refine ⟨?_, apart_bracket h _⟩
    rw [occurrences_startTag_append h word, occurrences_append_endTag h word, List.countP_nil,
      Nat.zero_add]
    rfl

theorem occurrences_charsAll_append (h : IsClassName name) :
    ∀ (ms : List Markup) {rest : List Char},
    Apart name rest →
      occurrences (classMark name) (charsAll ms ++ rest) = totalAll (.classes name) ms +
        occurrences (classMark name) rest ∧
        Apart name (charsAll ms ++ rest)
  | [], rest, apart => by simpa [charsAll] using apart
  | m :: ms, rest, apart => by
    obtain ⟨behind, later⟩ := occurrences_charsAll_append h ms apart
    obtain ⟨whole, first⟩ := occurrences_chars_append h m later
    rw [charsAll, List.append_assoc]
    refine ⟨?_, first⟩
    rw [whole, behind, totalAll_cons, Nat.add_assoc]

end

/-- The text of a tree shows the classes that the tree has. -/
theorem occurrences_chars (h : IsClassName name) (m : Markup) :
    occurrences (classMark name) m.chars = m.total (.classes name) := by
  have whole := (occurrences_chars_append h m (apart_nil name)).1
  rwa [List.append_nil] at whole

/-! ### Tags that show no such class -/

/-- A tag without such an attribute counts for nothing. -/
theorem classes_tag_of_none {attributes : Attributes} (h : ∀ a ∈ attributes, ¬ Marks name a) :
    (Measure.classes name).tag attributes = 0 :=
  List.countP_eq_zero.mpr fun a inside => by simpa using h a inside

theorem classes_tag_classed (w : String) :
    (Measure.classes name).tag [(.classes, w)] = if Marks name (.classes, w) then 1 else 0 := by
  simp [Measure.classes, List.countP_cons]

end Markup

end QuotationPress
