import QuotationPress.Proofs.Page.MarkupText
import QuotationPress.Proofs.Text.Occurrences

/-!
# The parts of a page

A page is its `opening`, up to the end of the head, the start tag of its body, and what is `inside`
and behind it. `Page.outsideStyle_text` gives a page without its style element, which is found by
its tags: neither the title in front of the element nor the sheet in it can hold one.
-/

namespace QuotationPress

namespace Page

/-- A page up to the line break behind the end of its head. -/
def opening (p : Page) : List Char :=
  "<!DOCTYPE html>\n".toList ++ Markup.startTag "html" [(.lang, "en")] ++
    '\n' :: p.headMarkup.chars ++ ['\n']

/-- The start tag of the body. -/
def bodyTag (p : Page) : List Char :=
  Markup.startTag "body" [(.classes, if p.preview then "preview" else "document")]

/-- What stands in the body and behind it. -/
def inside (p : Page) : List Char :=
  '\n' :: (Markup.classed .div "quotation-container"
      (Markup.newline :: p.elements.flatMap fun m => [m, Markup.newline])).chars
    ++ '\n' :: Markup.endTag "body" ++ '\n' :: Markup.endTag "html"

/-- A page is its opening, its body and the end tag of the document. -/
theorem toList_text_eq (p : Page) :
    p.text.toList = p.opening ++ (p.bodyMarkup.chars ++ '\n' :: Markup.endTag "html") := by
  have newline : Markup.newline.chars = ['\n'] := rfl
  have whole : p.markup.chars = Markup.startTag "html" [(.lang, "en")] ++ '\n' :: p.headMarkup.chars
      ++ '\n' :: p.bodyMarkup.chars ++ '\n' :: Markup.endTag "html" := by
    rw [markup, Markup.chars]
    simp only [Markup.charsAll, newline, Tag.word, List.append_assoc, List.cons_append,
      List.nil_append]
  have rendered : p.markup.render.toList = p.markup.chars := String.toList_ofList
  rw [text, String.toList_append, rendered, whole]
  unfold opening
  simp only [List.append_assoc, List.cons_append, List.nil_append]

/-- The same with the start tag of the body on its own. -/
theorem toList_text (p : Page) : p.text.toList = p.opening ++ p.bodyTag ++ p.inside := by
  have newline : Markup.newline.chars = ['\n'] := rfl
  have body : p.bodyMarkup.chars ++ '\n' :: Markup.endTag "html" = p.bodyTag ++ p.inside := by
    rw [bodyMarkup, Markup.classed, Markup.chars]
    simp only [Markup.charsAll, newline, Tag.word, bodyTag, inside, List.append_assoc,
      List.cons_append, List.nil_append]
  rw [toList_text_eq, body, List.append_assoc]

/-- The opening up to the end of the start tag of the title. -/
def titleStart : List Char :=
  "<!DOCTYPE html>\n".toList ++ Markup.startTag "html" [(.lang, "en")] ++
    '\n' :: Markup.startTag "head" []
    ++ '\n' :: Markup.startTag "meta" [(.charset, "UTF-8")]
    ++ '\n' :: Markup.startTag "meta" [(.name, "viewport"),
      (.content, "width=device-width, initial-scale=1.0")]
    ++ '\n' :: "<title".toList

/-- The opening holds two texts of its own: the number, which is escaped, and the style sheet. -/
theorem opening_eq (p : Page) : p.opening =
    titleStart ++
      '>' :: (Text.escapeChars ("Quotation " ++ p.number).toList ++ '<' :: "/title>\n<style>".toList
      ++ '\n' :: (p.css.toList ++ '\n' :: "</style>\n</head>\n".toList)) := by
  have newline : Markup.newline.chars = ['\n'] := rfl
  have lineBreak : "\n".toList = ['\n'] := rfl
  have title : Markup.startTag "title" [] = "<title".toList ++ ['>'] := rfl
  have closed : Markup.endTag "title" ++ '\n' :: Markup.startTag "style" [] =
      '<' :: "/title>\n<style>".toList :=
    rfl
  have behind : Markup.endTag "style" ++ '\n' :: Markup.endTag "head" ++ ['\n'] =
      "</style>\n</head>\n".toList :=
    rfl
  unfold opening titleStart
  rw [← behind, ← closed, headMarkup, Markup.chars]
  simp only [Markup.charsAll, Markup.chars, Markup.holding, newline, lineBreak, title, Tag.word,
    VoidTag.word, String.toList_append, List.append_assoc, List.cons_append, List.nil_append,
    List.append_nil]

/-! ### The style element -/

/-- A page up to the start tag of its style element. -/
def beforeStyle (p : Page) : List Char :=
  titleStart ++
    '>' :: (Text.escapeChars ("Quotation " ++ p.number).toList ++ '<' :: "/title>\n".toList)

/-- What stands behind the end tag of the style element. -/
def behindStyle (p : Page) : List Char :=
  '\n' :: ("</head>\n".toList ++ (p.bodyMarkup.chars ++ '\n' :: Markup.endTag "html"))

/-- The same page, cut around the sheet of its style element. -/
theorem toList_text_styled (p : Page) : p.text.toList =
    p.beforeStyle ++ "<style>".toList ++
      (("\n" ++ p.css ++ "\n").toList ++ "</style>".toList ++ p.behindStyle) := by
  have sheet : ("\n" ++ p.css ++ "\n").toList = '\n' :: (p.css.toList ++ ['\n']) := by
    simp [String.toList_append]
  have title : "/title>\n<style>".toList = "/title>\n".toList ++ "<style>".toList := rfl
  have head : "</style>\n</head>\n".toList = "</style>".toList ++ '\n' :: "</head>\n".toList := rfl
  rw [toList_text_eq, opening_eq, title, head, beforeStyle, behindStyle, sheet]
  simp only [List.append_assoc, List.cons_append, List.nil_append]

/-- The title is escaped, so that no start tag of a style element stands in front of the one of the
page. -/
theorem occurrences_beforeStyle (p : Page) :
    Text.occurrences "<style>".toList p.beforeStyle = 0 := by
  have title : Text.escapeChars ("Quotation " ++ p.number).toList =
      "Quotation".toList ++ ' ' :: Text.escapeChars p.number.toList := by
    rw [String.toList_append, Text.escapeChars_append]
    rfl
  have number : '<' ∉ Text.escapeChars p.number.toList :=
    fun inside => (Text.plain_of_mem_escapeChars inside).1.1 rfl
  have parts : p.beforeStyle = (titleStart ++ '>' :: "Quotation".toList) ++
      ' ' :: (Text.escapeChars p.number.toList ++ '<' :: "/title>\n".toList) := by
    rw [beforeStyle, title]
    simp only [List.append_assoc, List.cons_append]
  have opening :
      Text.occurrences "<style>".toList (titleStart ++ '>' :: "Quotation".toList) = 0 := by
    decide +kernel
  have closing : Text.occurrences "<style>".toList ('<' :: "/title>\n".toList) = 0 := by decide
  have shown : Text.occurrences "<style>".toList (Text.escapeChars p.number.toList) = 0 :=
    Text.occurrences_of_not_mem (x := '<') (by decide) number
  -- the bracket of the end tag parts the number from it
  have parted :
    Text.occurrences "<style>".toList
    (Text.escapeChars p.number.toList ++ '<' :: "/title>\n".toList) =
      Text.occurrences "<style>".toList (Text.escapeChars p.number.toList) +
        Text.occurrences "<style>".toList ('<' :: "/title>\n".toList) :=
    Text.occurrences_append_head (by decide)
  rw [parts, Text.occurrences_append_cons (by decide) (by decide), opening, parted, shown, closing]

end Page

/-- A page without its style element: what stands in front of the first start tag of one, and what
stands behind the first end tag after it. -/
def outsideStyle (html : List Char) : List Char :=
  let (front, rest) := Text.cutAt "<style>".toList html
  front ++ (Text.cutAt "</style>".toList rest).2

/-- Without its style element a page is what stands before it and what stands behind it. -/
theorem Page.outsideStyle_text {p : Page} (closed : Markup.Sealed ("\n" ++ p.css ++ "\n")) :
    outsideStyle p.text.toList = p.beforeStyle ++ p.behindStyle := by
  have free : Text.occurrences "</style>".toList ("\n" ++ p.css ++ "\n").toList = 0 :=
    Text.occurrences_eq_zero fun inside => closed (.trans ⟨[], "style>".toList, rfl⟩ inside)
  -- the first start tag is that of the page, and the sheet holds no end tag
  have found : Text.cutAt "<style>".toList p.text.toList =
      (p.beforeStyle, ("\n" ++ p.css ++ "\n").toList ++ "</style>".toList ++ p.behindStyle) := by
    rw [toList_text_styled]
    exact Text.cutAt_append (by decide) p.occurrences_beforeStyle _
  have ended :
    Text.cutAt "</style>".toList (("\n" ++ p.css ++ "\n").toList ++ "</style>".toList ++
    p.behindStyle) =
      (("\n" ++ p.css ++ "\n").toList, p.behindStyle) := Text.cutAt_append (by decide) free _
  simp only [outsideStyle, found, ended]

end QuotationPress
