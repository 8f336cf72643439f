import Remap.Value.Identity

/-!
# Issues

What is wrong with a value given as a setting, and where. A refusal holds the issues of all members
of a group of settings, in the order of the members; a home directory that nobody knows stands
alone, whatever else is wrong.
-/

namespace Remap

/-- A step into a value: to a key of a table or to an item of a list. -/
inductive Step where
  | key (name : String)
  | item (index : Nat)
deriving Repr, DecidableEq

def Step.display : Step → String
  | key name => name
  | item index => toString index

inductive IssueCause where
  | notText
  | undecodableText
  | notFlag
  | unreadableFlag
  | notList
  | notTable
  /-- Not a group of settings; `group` is the name of the group. -/
  | notGroup (group : String)
  | notOneOf (choices : List String)
  | relativeDestination (text : String)
  /-- A null character in the name of a user whose home is asked for. -/
  | nullInUser
  | unknownGrammar (grammar extension : String)
  | unexpected
deriving Repr, DecidableEq

namespace IssueCause

/-- The class of an issue, for programs. -/
def label : IssueCause → String
  | notText => "string_type"
  | undecodableText => "string_unicode"
  | notFlag => "bool_type"
  | unreadableFlag => "bool_parsing"
  | notList => "list_type"
  | notTable => "dict_type"
  | notGroup _ => "model_type"
  | notOneOf _ => "literal_error"
  | relativeDestination _ | nullInUser | unknownGrammar _ _ => "value_error"
  | unexpected => "extra_forbidden"

/-- Choices as a sentence lists them: the last one after "or". -/
def alternatives : List String → String
  | [] => ""
  | [last] => s!"'{last}'"
  | [before, last] => s!"'{before}' or '{last}'"
  | choice :: rest => s!"'{choice}', " ++ alternatives rest

def message : IssueCause → String
  | notText => "Input should be a valid string"
  | undecodableText =>
    "Input should be a valid string, unable to parse raw data as a unicode string"
  | notFlag => "Input should be a valid boolean"
  | unreadableFlag => "Input should be a valid boolean, unable to interpret input"
  | notList => "Input should be a valid list"
  | notTable => "Input should be a valid dictionary"
  | notGroup group => s!"Input should be a valid dictionary or instance of {group}"
  | notOneOf choices => "Input should be " ++ alternatives choices
  | relativeDestination text => s!"Value error, File destination must be absolute path: {text}"
  | nullInUser => "Value error, embedded null byte"
  | unknownGrammar grammar extension =>
    s!"Value error, Unknown grammar {Text.quote grammar} for {Text.quote extension}"
  | unexpected => "Extra inputs are not permitted"

end IssueCause

structure Issue where
  place : List Step
  cause : IssueCause
  /-- The value at that place. -/
  input : Value
deriving Repr, DecidableEq

/-- The place of an issue as one word, its steps joined by dots. -/
def Issue.field (issue : Issue) : String := ".".intercalate (issue.place.map Step.display)

/-- Why settings are refused: for their issues, of which there is at least one, or because the home
of a user is not known. -/
inductive Refusal where
  | issues (first : Issue) (more : List Issue)
  | unknownHome (user : String)
deriving Repr, DecidableEq

namespace Refusal

/-- The refusal of a value for the refusal of its part at `step`. -/
def under (step : Step) : Refusal → Refusal
  | issues first more =>
    let lift (issue : Issue) : Issue := { issue with place := step :: issue.place }
    issues (lift first) (more.map lift)
  | unknownHome user => unknownHome user

/-- Two refusals, found in this order. -/
def and : Refusal → Refusal → Refusal
  | issues first more, issues next others => issues first (more ++ next :: others)
  | issues _ _, unknownHome user => unknownHome user
  | unknownHome user, _ => unknownHome user

end Refusal

end Remap
