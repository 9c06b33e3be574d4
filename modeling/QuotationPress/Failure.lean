import QuotationPress.Text.Quoted
import QuotationPress.Validation.Issue

/-!
# Why an operation gives no result

A `Failure` names the cause; `Failure.message` is the sentence that reports show for it.
-/

namespace QuotationPress

/-- What is wrong with the text of a file. -/
inductive TextFlaw where
  /-- A character that no file may hold. -/
  | unprintable
  /-- A character or a mark where none of its kind may stand. -/
  | misplacedMark
  /-- A list or an object that does not come to its end. -/
  | brokenStructure
  | severalDocuments
  /-- A name stands for a part of the text that bears no such name. -/
  | unknownAlias
  /-- Two parts of a text bear one name. -/
  | repeatedAnchor
  /-- An object has a list or an object for a key. -/
  | unusableKey
  /-- A part of the text is marked as something that no value can be. -/
  | unknownTag
  /-- A part of the text is marked as something that parts of its kind cannot be. -/
  | unfitTag
  /-- What is to be merged into an object is no object. -/
  | unusableMerge
  deriving Repr, DecidableEq

def TextFlaw.message : TextFlaw → String
  | unprintable => "special characters are not allowed"
  | misplacedMark => "a mark stands where none may stand"
  | brokenStructure => "a list or an object does not come to its end"
  | severalDocuments => "expected a single document in the stream"
  | unknownAlias => "found undefined alias"
  | repeatedAnchor => "found duplicate anchor"
  | unusableKey => "found unhashable key"
  | unknownTag => "could not determine a constructor for the tag"
  | unfitTag => "the tag does not fit what it marks"
  | unusableMerge => "expected a mapping for merging"

inductive Failure where
  /-- A value does not fit its model; every reason is listed. -/
  | invalid (model : String) (issues : List Issue)
  /-- The content of an element does not fit its kind. -/
  | malformedElement (kind reason : String)
  | unknownTemplate (id : String)
  | unknownQuotation (id : String)
  | unknownElement (id : String)
  | unknownTheme (name : String)
  /-- The document could not be made into pages. -/
  | production (reason : String)
  /-- A document source gave up. -/
  | source (reason : String)
  /-- A text that should be a whole number is none; a list position with a digit that has no place
  value is such a text. -/
  | unreadableWhole (base : Nat) (text : String)
  /-- A text that should be a floating point number is none. -/
  | unreadableReal (text : String)
  /-- A text that should be a number is empty. -/
  | emptyNumeral
  /-- A text that should be a day or a moment is none. -/
  | unreadableMoment
  | numeralTooLong
  | numeralTooLongToRead (digits : Nat)
  | signalingNan
  /-- A whole amount has more digits than the arithmetic carries. -/
  | amountTooLong
  /-- No character has that code. -/
  | noSuchCharacter
  /-- A list or an object is one of its own parts. -/
  | endlessValue
  /-- Lists and objects are nested too deep. -/
  | nestedTooDeep
  /-- A number that is no number was compared. -/
  | unordered
  | numberTooLarge
  | dateOutOfRange
  | notIterable (kind : String)
  | notMapping (kind : String)
  | notStorable (kind : String)
  | recordIsNoMapping (file : String)
  /-- No file can have that name. -/
  | fileNameTooLong (name : String)
  /-- A row with that id is already there. -/
  | duplicateRow
  /-- The template store does not answer. -/
  | storeUnavailable
  /-- The text of a file is not well formed. -/
  | unreadableFile (flaw : TextFlaw)
  /-- A day or a time is written that does not exist. -/
  | noSuchMoment (reason : String)
  /-- An entry that has to be there is missing. -/
  | missingEntry (key : String)
  deriving Repr, DecidableEq

namespace Failure

def message : Failure → String
  | invalid model issues => Fault.counted issues.length "validation error" ++ " for " ++ model
  | malformedElement kind reason => "Malformed " ++ kind ++ " element: " ++ reason
  | unknownTemplate id => "Template " ++ Text.quoted id ++ " not found"
  | unknownQuotation id => "Quotation " ++ Text.quoted id ++ " not found"
  | unknownElement id => "Element " ++ Text.quoted id ++ " not found"
  | unknownTheme name => "Invalid theme: " ++ name
  | production reason => reason
  | source reason => reason
  | unreadableWhole base text =>
    "invalid literal for int() with base " ++ toString base ++ ": " ++ Text.quoted text
  | unreadableReal text => "could not convert string to float: " ++ Text.quoted text
  | emptyNumeral => "string index out of range"
  | unreadableMoment => "'NoneType' object has no attribute 'groupdict'"
  | numeralTooLong =>
    "Exceeds the limit (4300 digits) for integer string conversion; "
      ++ "use sys.set_int_max_str_digits() to increase the limit"
  | numeralTooLongToRead digits =>
    "Exceeds the limit (4300 digits) for integer string conversion: value has " ++ toString digits
      ++ " digits; use sys.set_int_max_str_digits() to increase the limit"
  | signalingNan => "cannot convert signaling NaN to float"
  | amountTooLong => "quantize result has too many digits for current context"
  | noSuchCharacter => "chr() arg not in range(0x110000)"
  | endlessValue => "Circular reference detected"
  | nestedTooDeep => "maximum recursion depth exceeded"
  | unordered => "comparison involving NaN"
  | numberTooLarge => "int too large to convert to float"
  | dateOutOfRange => "date value out of range"
  | notIterable kind => "'" ++ kind ++ "' object is not iterable"
  | notMapping kind => "'" ++ kind ++ "' object is not a mapping"
  | notStorable kind => "Object of type " ++ kind ++ " is not JSON serializable"
  | recordIsNoMapping file => file ++ " does not contain a quotation mapping"
  | fileNameTooLong name => "File name too long: " ++ Text.quoted name
  | duplicateRow => "UNIQUE constraint failed: quotation_templates.id"
  | storeUnavailable => "the template store is not available"
  | unreadableFile flaw => flaw.message
  | noSuchMoment reason => reason
  | missingEntry key => key

end Failure

/-- The results of the library: a value, or the cause why there is none. -/
abbrev Outcome := Except Failure

end QuotationPress
