import StyleTree.Page.Basic
import StyleTree.Text.Number

/-!
# Form controls

What holds of form controls, links and the elements around them.
-/

namespace StyleTree

/-- What an input element is for. -/
inductive InputType where
  | button
  | checkbox
  | color
  | date
  | datetimeLocal
  | email
  | file
  | hidden
  | image
  | month
  | number
  | password
  | radio
  | range
  | reset
  | search
  | submit
  | tel
  | text
  | time
  | url
  | week
deriving DecidableEq, Repr, Inhabited

namespace InputType

/-- The types, each with its keyword and as a word. -/
def table : List (InputType × String × String) :=
  [(button, "button", "Button"), (checkbox, "checkbox", "Checkbox"), (color, "color", "Color"),
    (date, "date", "Date"), (datetimeLocal, "datetime-local", "DatetimeLocal"),
    (email, "email", "Email"), (file, "file", "File"), (hidden, "hidden", "Hidden"),
    (image, "image", "Image"), (month, "month", "Month"), (number, "number", "Number"),
    (password, "password", "Password"), (radio, "radio", "Radio"), (range, "range", "Range"),
    (reset, "reset", "Reset"), (search, "search", "Search"), (submit, "submit", "Submit"),
    (tel, "tel", "Tel"), (text, "text", "Text"), (time, "time", "Time"), (url, "url", "Url"),
    (week, "week", "Week")]

/-- The type that the value of a `type` attribute means; text if it means none. -/
def ofAttribute : Option String → InputType
  | none => text
  | some value =>
    let keyword := Ascii.lower (trim value)
    ((table.find? (·.2.1 == keyword)).map (·.1)).getD text

/-- The user types text into the control. -/
def isTextual : InputType → Bool
  | text | search | url | tel | email | password | number | date | datetimeLocal | month | week
  | time => true
  | _ => false

/-- The control can show a placeholder. -/
def hasPlaceholder : InputType → Bool
  | text | search | url | tel | email | password | number => true
  | _ => false

/-- The control can ask to be filled in. -/
def canBeRequired : InputType → Bool
  | hidden | button | reset | submit | image | range | color => false
  | _ => true

/-- The text in the control has a direction that can be told from it. -/
def hasAutoDirection : InputType → Bool
  | text | search | tel | url | email => true
  | _ => false

end InputType

namespace Page

/-- The type that the `type` attribute means. -/
def inputType (p : Page) (n : NodeId) : InputType :=
  .ofAttribute (p.attr? n "type")

/-- The value of a control: the text of a text area, the `value` attribute of any other. -/
def value (p : Page) (n : NodeId) : String :=
  if p.kind n = .textArea then p.tree.childText n else (p.attr? n "value").getD ""

/-! ## Owners -/

/-- The form that the element belongs to: the one that its `form` attribute names if the element
may have one, else the nearest form around it. -/
def formOwner? (p : Page) (n : NodeId) : Option NodeId :=
  match if (p.kind n).isListed then p.attr? n "form" else none with
  | some id => (p.elementById? id).filter (p.kind · = .form)
  | none => (p.ancestorElements n).find? (p.kind · = .form)

/-! ## Disabled controls -/

/-- Some disabled field set around an element disables it, where `child` is the element or the
ancestor of it just below the first of the `ancestors`. What is in the first legend of a field set
is spared. -/
def isInDisabledFieldSet (p : Page) : NodeId → List NodeId → Bool
  | _, [] => false
  | child, a :: rest =>
    (p.kind a = .fieldSet && p.hasAttr a "disabled" &&
        (p.childElements a).find? (p.kind · = .legend) != some child) ||
      p.isInDisabledFieldSet a rest

def isDisabled (p : Page) (n : NodeId) : Bool :=
  p.hasAttr n "disabled" ||
    (p.kind n = .option &&
      (p.parentElement? n).any fun m => p.kind m = .optGroup && p.hasAttr m "disabled") ||
    p.isInDisabledFieldSet n (p.ancestorElements n)

def isEnabled (p : Page) (n : NodeId) : Bool :=
  (p.kind n).isDisableable && !p.isDisabled n

/-! ## Editing -/

/-- Whether a value of `contenteditable` turns editing on or off; `none` if it does neither. -/
def editing? (value : String) : Option Bool :=
  let v := trim value
  if v = "" ∨ Ascii.eqIgnoreCase v "true" ∨ Ascii.eqIgnoreCase v "plaintext-only" then some true
  else if Ascii.eqIgnoreCase v "false" then some false
  else none

/-- The nearest element that turns editing on or off turns it on. -/
def isEditable (p : Page) (n : NodeId) : Bool :=
  ((n :: p.ancestorElements n).findSome? fun m =>
    (p.attr? m "contenteditable").bind editing?).getD false

/-- The user can change the text of the element. -/
def isReadWrite (p : Page) (n : NodeId) : Bool :=
  let isOpen := !p.hasAttr n "readonly" && !p.isDisabled n
  match p.kind n with
  | .input => (p.inputType n).isTextual && isOpen
  | .textArea => isOpen
  | _ => p.isEditable n

/-- The control has a placeholder, and no text that would hide it. -/
def showsPlaceholder (p : Page) (n : NodeId) : Bool :=
  let supported := match p.kind n with
    | .input => (p.inputType n).hasPlaceholder
    | .textArea => true
    | _ => false
  supported && p.hasAttr n "placeholder" && p.value n == ""

/-! ## Checked controls -/

/-- A check box or a radio button. -/
def isCheckable (p : Page) (n : NodeId) : Bool :=
  p.kind n = .input && (p.inputType n = .checkbox || p.inputType n = .radio)

def isChecked (p : Page) (n : NodeId) : Bool :=
  if p.isCheckable n then p.hasAttr n "checked" || p.hasState n .checked
  else p.kind n = .option && (p.hasAttr n "selected" || p.hasState n .checked)

/-- A radio button. -/
def isRadio (p : Page) (n : NodeId) : Bool :=
  p.kind n = .input && p.inputType n = .radio

/-- The radio buttons of the document of which no more than one is to be checked along with `n`;
without a name `n` is alone. -/
def radioGroup (p : Page) (n : NodeId) : List NodeId :=
  match (p.attr? n "name").filter (· != "") with
  | some name =>
    p.elements.filter fun m =>
      p.isRadio m && p.attr? m "name" == some name && p.formOwner? m == p.formOwner? n
  | none => [n]

def isIndeterminate (p : Page) (n : NodeId) : Bool :=
  match p.kind n with
  | .input =>
    match p.inputType n with
    | .checkbox => p.hasState n .indeterminate
    | .radio => !(p.radioGroup n).any p.isChecked
    | _ => false
  | .progress => (p.attr? n "value").all fun v => !NumberText.isNumber (trimBlank v.toList)
  | _ => false

/-! ## Buttons -/

/-- A button that submits its form. -/
def isSubmitButton (p : Page) (n : NodeId) : Bool :=
  match p.kind n with
  | .input => p.inputType n = .submit || p.inputType n = .image
  | .button =>
    (p.attr? n "type").all fun value =>
      !Ascii.eqIgnoreCase (trim value) "reset" && !Ascii.eqIgnoreCase (trim value) "button"
  | _ => false

/-- The element is a submit button of the owner that is not disabled. -/
def canSubmit (p : Page) (owner : Option NodeId) (n : NodeId) : Bool :=
  p.isSubmitButton n && !p.isDisabled n && p.formOwner? n == owner

/-- The element is the first of the submit buttons of its owner that are not disabled. -/
def isDefaultButton (p : Page) (n : NodeId) : Bool :=
  p.isSubmitButton n && !p.isDisabled n &&
    p.elements.find? (p.canSubmit (p.formOwner? n)) == some n

/-- The element is what its form or its list starts out with. -/
def isDefault (p : Page) (n : NodeId) : Bool :=
  match p.kind n with
  | .input => if p.isCheckable n then p.hasAttr n "checked" else p.isDefaultButton n
  | .option => p.hasAttr n "selected"
  | .button => p.isDefaultButton n
  | _ => false

/-! ## Required controls and links -/

def canBeRequired (p : Page) (n : NodeId) : Bool :=
  match p.kind n with
  | .input => (p.inputType n).canBeRequired
  | .select | .textArea => true
  | _ => false

def isRequired (p : Page) (n : NodeId) : Bool :=
  p.canBeRequired n && p.hasAttr n "required"

def isOptional (p : Page) (n : NodeId) : Bool :=
  p.canBeRequired n && !p.hasAttr n "required"

/-- The element leads somewhere; its `href` may be in any namespace that `Element.written?` looks
into. -/
def isLink (p : Page) (n : NodeId) : Bool :=
  match p.kind n with
  | .anchor | .area | .link => (p.element? n).any fun e => (e.written? "href").isSome
  | _ => false

end Page

end StyleTree
