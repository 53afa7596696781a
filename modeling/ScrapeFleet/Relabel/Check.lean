/-
# ScrapeFleet.Relabel.Check — the rules that a collector's scraper accepts

One rule that is refused makes the scraper refuse the whole configuration, so every rule is checked
before it is handed out. The order of the checks decides which of two faults is reported: the
pattern, the modulus of `hashmod`, a missing target, a malformed target, a field the action has no
use for.
-/
import ScrapeFleet.Regex.Size
import ScrapeFleet.Relabel.Rule
import ScrapeFleet.Text.Quoted
import ScrapeFleet.Text.Word

namespace ScrapeFleet.Relabel

/-- A field that some actions have no use for. -/
inductive Field where
  | sourceLabels | targetLabel | modulus | regex
deriving DecidableEq, Repr

/-- The name of a field. -/
def Field.name : Field → String
  | .sourceLabels => "source_labels"
  | .targetLabel => "target_label"
  | .modulus => "modulus"
  | .regex => "regex"

/-- Why a rule is refused. -/
inductive Error where
  | unknownAction (name : String)
  | regex (text : String)
  | missingTarget (action : Action)
  | invalidTarget (action : Action) (target : String)
  | zeroModulus
  | unexpectedField (action : Action) (field : Field)
deriving DecidableEq, Repr

/-- The wording of an error. -/
def Error.message : Error → String
  | .unknownAction name => "unknown relabel action " ++ Text.quoted name
  | .regex text => "invalid regex " ++ Text.quoted text
  | .missingTarget action => "relabel action " ++ action.name ++ " requires target_label"
  | .invalidTarget action target =>
    Text.quoted target ++ " is not a valid target label for action " ++ action.name
  | .zeroModulus => "relabel action hashmod requires a non-zero modulus"
  | .unexpectedField action field =>
    "relabel action " ++ action.name ++ " does not accept " ++ field.name

/-! ## Label names and label templates -/

/-- A character that may start a label name. -/
def isNameStart (c : Char) : Bool := c.isAlpha || c == '_'

/-- A label name: letters, digits and `_` of ASCII, no digit in front. -/
def isLabelName (s : String) : Bool :=
  match s.toList with
  | [] => false
  | c :: cs => isNameStart c && cs.all Text.isAsciiWord

/-- How far a label template has been read. -/
inductive TemplateState where
  /-- Nothing yet. -/
  | start
  /-- After a name character or a reference. -/
  | body
  /-- After the dollar of a reference. -/
  | dollar
  /-- After the brace of a reference. -/
  | brace
  /-- In the name of a reference in braces. -/
  | braceName
deriving DecidableEq, Repr

/-- Reads one character of a label template. -/
def TemplateState.next? : TemplateState → Char → Option TemplateState
  | .start, c => if isNameStart c then some .body else if c == '$' then some .dollar else none
  | .body, c => if Text.isWord c then some .body else if c == '$' then some .dollar else none
  | .dollar, c => if Text.isWord c then some .body else if c == '\x7b' then some .brace else none
  | .brace, c => if Text.isWord c then some .braceName else none
  | .braceName, c =>
    if Text.isWord c then some .braceName else if c == '\x7d' then some .body else none

/-- A label template: word characters and references to groups, by `$name` or in braces. It starts
with a name's start or a reference. -/
def isLabelTemplate (s : String) : Bool :=
  s.toList.foldlM TemplateState.next? .start == some .body

/-! ## The check -/

namespace Rule

/-- The target label, where an empty one counts as none. -/
def target (r : Rule) : String := r.targetLabel.getD ""

/-- The pattern, if there is one, is usable. -/
def checkRegex (r : Rule) : Except Error Unit :=
  match r.regex with
  | some text => if Regex.isUsable text then .ok () else .error (.regex text)
  | none => .ok ()

/-- A modulus is set and is not zero. -/
def hasModulus (r : Rule) : Bool := r.modulus.getD 0 != 0

/-- `hashmod` has a modulus, and an action that writes a label has a target. -/
def checkPresence (r : Rule) : Except Error Unit :=
  if r.action = .hashMod ∧ !r.hasModulus then .error .zeroModulus
  else if r.action.needsTarget ∧ r.target.isEmpty then .error (.missingTarget r.action)
  else .ok ()

/-- The target is a template where the action fills it in, and a name where it does not. -/
def checkTarget (r : Rule) : Except Error Unit :=
  match r.action with
  | .replace | .lowercase | .uppercase =>
    if isLabelTemplate r.target then .ok () else .error (.invalidTarget r.action r.target)
  | .hashMod | .keepEqual | .dropEqual =>
    if isLabelName r.target then .ok () else .error (.invalidTarget r.action r.target)
  | _ => .ok ()

/-- No field is set that the action has no use for. -/
def checkFields (r : Rule) : Except Error Unit :=
  match r.action with
  | .labelDrop | .labelKeep =>
    if !r.sourceLabels.isEmpty then .error (.unexpectedField r.action .sourceLabels)
    else if !r.target.isEmpty then .error (.unexpectedField r.action .targetLabel)
    else if r.hasModulus then .error (.unexpectedField r.action .modulus)
    else .ok ()
  | .keepEqual | .dropEqual =>
    if (r.regex.getD defaultRegex) != defaultRegex then .error (.unexpectedField r.action .regex)
    else if r.hasModulus then .error (.unexpectedField r.action .modulus)
    else .ok ()
  | _ => .ok ()

/-- Checks a rule the way the scraper does when it loads a configuration. -/
def check (r : Rule) : Except Error Unit := do
  r.checkRegex
  r.checkPresence
  r.checkTarget
  r.checkFields

end Rule

end ScrapeFleet.Relabel
