import Mathlib.Data.Bool.AllAny
import QuotationPress.Pdf.Filename
import QuotationPress.Proofs.Text.LowerCase

/-!
# Suggested names of files

`suggestedFilename_settled`: whatever number and wish it is made from, a name is safe to stand in a
header, ends in `.pdf` up to the case of its letters, and is suggested again when it is wished for.
-/

namespace QuotationPress

namespace Filename

open Text (asciiLowerChar)

/-- A letter, a digit or a mark of ASCII that a header can hold as it is. -/
def IsHeaderSafe (c : Char) : Prop :=
  ('A' ≤ c ∧ c ≤ 'Z') ∨ ('a' ≤ c ∧ c ≤ 'z') ∨ ('0' ≤ c ∧ c ≤ '9') ∨ c = '_' ∨ c = '.' ∨ c = '-'

theorem isPlain_iff {c : Char} : isPlain c = true ↔ IsHeaderSafe c := by
  simp only [isPlain, Text.isAsciiLetter, Text.isAsciiDigit, IsHeaderSafe, Bool.or_eq_true,
    Bool.and_eq_true, decide_eq_true_eq, beq_iff_eq]
  tauto

/-- Every character is plain once it has been replaced. -/
theorem isPlain_plainChar (c : Char) : isPlain (plainChar c) = true := by
  unfold plainChar
  split
  · next plain => exact plain
  · rfl

theorem plainChar_of_isPlain {c : Char} (h : isPlain c = true) : plainChar c = c := if_pos h

theorem map_plainChar {cs : List Char} (h : ∀ c ∈ cs, isPlain c = true) : cs.map plainChar = cs :=
  (List.map_congr_left fun c hc => plainChar_of_isPlain (h c hc)).trans (List.map_id _)

/-- A capital is as plain as its small letter. -/
theorem isPlain_of_asciiLowerChar {c : Char} (h : isPlain (asciiLowerChar c) = true) :
    isPlain c = true := by
  unfold asciiLowerChar at h
  split at h
  · next capital => simp [isPlain, Text.isAsciiLetter, capital]
  · exact h

/-! ### The ending -/

/-- The text ends in `.pdf`, in any mix of letter cases. -/
def EndsInPdf (cs : List Char) : Prop := ".pdf".toList <:+ cs.map asciiLowerChar

/-- The test looks at the text in lower case, but no character beyond ASCII can pass it. -/
theorem endsInPdf_iff (cs : List Char) : endsInPdf cs = true ↔ EndsInPdf cs := by
  rw [endsInPdf, List.isSuffixOf_iff_suffix, Text.lower,
    Text.isSuffix_lowerAfter_iff (List.all_iff_forall_prop.mp (by decide)), EndsInPdf]

theorem endsInPdf_append (cs : List Char) : EndsInPdf (cs ++ ".pdf".toList) := by
  rw [EndsInPdf, List.map_append]
  exact List.suffix_append _ _

/-- The suffix is put on where it is missing, so that it is there in any case. -/
theorem endsInPdf_withSuffix (cs : List Char) : EndsInPdf (withSuffix cs) := by
  unfold withSuffix
  split
  · next ends => exact (endsInPdf_iff cs).mp ends
  · exact endsInPdf_append cs

/-- The ending is plain, so that nothing of it is replaced. -/
theorem EndsInPdf.map_plainChar {cs : List Char} (h : EndsInPdf cs) :
    EndsInPdf (cs.map plainChar) := by
  obtain ⟨front, cut⟩ := h
  obtain ⟨a, b, rfl, -, ending⟩ := List.map_eq_append_iff.mp cut.symm
  -- the letters of the ending are plain, and so are their capitals
  have plain : ∀ c ∈ ".pdf".toList, isPlain c = true := List.all_iff_forall_prop.mp (by decide)
  have kept : b.map plainChar = b := Filename.map_plainChar fun c hc =>
    isPlain_of_asciiLowerChar (plain _ (ending ▸ List.mem_map_of_mem hc))
  rw [EndsInPdf, List.map_append, kept, List.map_append, ending]
  exact List.suffix_append _ _

theorem EndsInPdf.ne_nil {cs : List Char} (h : EndsInPdf cs) : cs ≠ [] := by
  rintro rfl
  exact absurd (List.suffix_nil.mp h) (by decide)

/-- The name before what is not plain in it is replaced. -/
def wished (number : String) : Option String → List Char
  | none => ofNumber number
  | some s => if s = "" then ofNumber number else withSuffix s.toList

theorem toList_suggestedFilename (number : String) (wish : Option String) :
    (suggestedFilename number wish).toList = (wished number wish).map plainChar := by
  unfold suggestedFilename
  rw [String.toList_ofList]
  congr 1
  split
  · rfl
  · rfl
  · next s given => exact (if_neg given).symm

/-- The number gets the suffix as the wish does. -/
theorem endsInPdf_wished (number : String) (wish : Option String) :
    EndsInPdf (wished number wish) := by
  unfold wished
  split
  · exact endsInPdf_append _
  · split
    · exact endsInPdf_append _
    · exact endsInPdf_withSuffix _

end Filename

open Filename

/-- A suggested name holds only what a header can hold, ends in `.pdf` up to the case of its
letters, and is suggested again for every other number when it is wished for. -/
theorem suggestedFilename_settled (number : String) (wish : Option String) :
    (∀ c ∈ (suggestedFilename number wish).toList, IsHeaderSafe c) ∧
      EndsInPdf (suggestedFilename number wish).toList ∧
      ∀ other, suggestedFilename other (some (suggestedFilename number wish)) =
        suggestedFilename number wish := by
  have plain : ∀ c ∈ (suggestedFilename number wish).toList, isPlain c = true := by
    rw [toList_suggestedFilename, List.forall_mem_map]
    exact fun c _ => isPlain_plainChar c
  have ends : EndsInPdf (suggestedFilename number wish).toList := by
    rw [toList_suggestedFilename]
    exact (endsInPdf_wished number wish).map_plainChar
  refine ⟨fun c hc => isPlain_iff.mp (plain c hc), ends, fun other => ?_⟩
  -- from here on the name counts by these two facts only
  generalize suggestedFilename number wish = name at plain ends
  have given : name ≠ "" := fun none => ends.ne_nil (by rw [none]; rfl)
  have kept : wished other (some name) = name.toList := by
    rw [wished, if_neg given, withSuffix, if_pos ((endsInPdf_iff _).mpr ends)]
  rw [← String.toList_inj, toList_suggestedFilename, kept, map_plainChar plain]

/-- A dotted capital I and a Kelvin sign are letters, but none of ASCII. -/
example : suggestedFilename "" (some "\u0130/\u212a.PdF") = "___.PdF" := by decide +kernel

end QuotationPress
