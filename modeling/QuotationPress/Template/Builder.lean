import QuotationPress.Template.Basic
import QuotationPress.Template.Defaults
import QuotationPress.Value.Members
import QuotationPress.Value.JsonForm

/-!
# Building a template step by step

A `Builder` holds the template and counts the names it has given to elements; `Builder.add`,
`Builder.update`, `Builder.remove`, `Builder.reorder` and `Builder.applyTheme` change it, and
`Builder.exported` with `Builder.imported` pass it on.
-/

namespace QuotationPress

structure Builder where
  template : Template
  /-- How many names for elements have been given out. -/
  issued : Nat := 0

def defaultMargins : Fields :=
  [("top", .int 20), ("right", .int 20), ("bottom", .int 20), ("left", .int 20)]

def defaultSettings : Fields :=
  [("pageSize", .str "A4"), ("orientation", .str "portrait"), ("margins", .obj defaultMargins),
    ("currency", .str "INR")]

namespace Builder

def empty : Builder := { template := { settings := defaultSettings } }

def ofTemplate (t : Template) : Builder := { template := t, issued := t.elements.length }

def readElement (freshId : String) (v : Value) : Outcome TemplateElement :=
  (TemplateElement.check freshId v).outcome "TemplateElement"

def readElements : Nat → List Value → Outcome (List TemplateElement)
  | _, [] => .ok []
  | n, v :: rest => do return (← readElement (freshElementId n) v) :: (← readElements (n + 1) rest)

/-- A new template from its description. The elements are read one by one, the first misfit
counts. -/
def create (description : Fields) : Outcome Builder := do
  let described := (description.putNew "settings" (.obj defaultSettings)).erase "elements"
  let listed := description.get "elements"
  let t ← Template.read? (.obj described)
  let members ← if listed.isTruthy then listed.members else pure []
  let elements ← readElements 0 members
  return { template := { t with elements }, issued := elements.length }

def withElements (b : Builder) (elements : List TemplateElement) : Builder :=
  { b with template := { b.template with elements } }

/-! ### Elements -/

/-- The description of a new element. -/
structure Addition where
  type : Value
  content : Value := .null
  style : Value := .null
  visible : Value := .bool true
  config : Value := .null
  id : Option String := none
  extra : Fields := []

/-- An object is laid over the default content; any other content replaces it. An object with keys
that are no texts counts as other content here: it is not laid over the defaults, as no addition
read from JSON has such keys. -/
def startContent (kind : Option ElementKind) (content : Value) : Value :=
  match content with
  | .null => .obj (defaultContent kind)
  | .obj fs => .obj (Fields.overlay (defaultContent kind) fs)
  | v => v

/-- The entries of a style; what counts as not given has none. A style is taken to have texts for
keys, as those of JSON have. -/
def styleEntriesOf : Value → Outcome Fields
  | .obj fs => .ok fs
  | v => if v.isTruthy then .error (.notMapping v.kindName) else .ok []

def describe (b : Builder) (kind : Option ElementKind) (a : Addition) (style : Fields) : Fields :=
  let described : Fields :=
    [("type", a.type), ("content", startContent kind a.content),
      ("style", .obj (Fields.overlay (defaultStyle kind b.template.theme) style)),
      ("visible", a.visible), ("config", a.config)]
  let described := Fields.overlay described a.extra
  match a.id with
  | some "" => described
  | some id => described.put "id" (.str id)
  | none => described

def add (b : Builder) (a : Addition) : Outcome Builder := do
  let kind ← ElementKind.ofValue? a.type
  let style ← styleEntriesOf a.style
  let e ← readElement (freshElementId b.issued) (.obj (b.describe kind a style))
  return { b.withElements (b.template.elements ++ [e]) with issued := b.issued + 1 }

/-- Lays changes over the first element of that id, whose id stays. -/
def updateIn (freshId id : String) (changes : Fields) :
    List TemplateElement → Outcome (List TemplateElement)
  | [] => .error (.unknownElement id)
  | e :: rest =>
    if e.id = id then do
      let changed := (Fields.overlay e.fields changes).put "id" (.str id)
      return (← readElement freshId (.obj changed)) :: rest
    else do return e :: (← updateIn freshId id changes rest)

def update (b : Builder) (id : String) (changes : Fields) : Outcome Builder := do
  return b.withElements (← updateIn (freshElementId b.issued) id changes b.template.elements)

def remove (b : Builder) (id : String) : Builder :=
  b.withElements (b.template.elements.filter fun e => e.id ≠ id)

/-- The members of a list without repetitions, each at its first place. -/
def distinct : List String → List String
  | [] => []
  | s :: rest => s :: (distinct rest).filter (· ≠ s)

/-- The last element of an id, which stands for all of them. -/
def lastOfId? (elements : List TemplateElement) (id : String) : Option TemplateElement :=
  elements.reverse.find? fun e => e.id = id

/-- The listed elements first, in that order; the others keep their order after them. -/
def reorder (b : Builder) (ids : List String) : Builder :=
  let elements := b.template.elements
  let first := (distinct ids).filterMap (lastOfId? elements)
  b.withElements (first ++ elements.filter fun e => !first.any fun f => f.id = e.id)

/-- The font of the palette for every element, its first colour for headers. -/
def themed (p : Palette) (e : TemplateElement) : TemplateElement :=
  let style := e.style.put "fontFamily" (.str p.fontFamily)
  if e.kind = some .header then { e with style := style.put "color" (.str p.primaryColor) }
  else { e with style }

def applyTheme (b : Builder) (theme : Value) : Outcome Builder := do
  let name ← theme.text
  match Theme.ofName? name with
  | some t =>
    return { b with template := { b.template with
      theme := Text.toUpper name, elements := b.template.elements.map (themed t.palette) } }
  | none => throw (.unknownTheme (← theme.listing))

/-! ### Passing on -/

/-- The entries that belong to one stored template and not to its layout. -/
def bookkeeping : List String :=
  ["id", "version", "is_default", "created_at", "updated_at", "exported_at"]

def exported (b : Builder) : Value := b.template.listing.jsonForm

/-- A builder that starts from exported data, the bookkeeping left out. -/
def imported (issued : Nat) (data : Fields) : Outcome Builder := do
  let kept := data.filter fun e => !bookkeeping.contains e.1
  let t ← (Template.check issued (.obj kept)).outcome "Template"
  return { template := t, issued := issued + t.elements.length }

def reimported (b : Builder) : Outcome Builder := imported b.issued ((b.exported.fields?).getD [])

end Builder

end QuotationPress
