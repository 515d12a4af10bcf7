import OpcachePreload.Environment
import OpcachePreload.Json.Reader
import OpcachePreload.Settings.Basic
import OpcachePreload.Text.Lowercase

/-!
# Settings from variables

A variable sets the field that its name says, in whatever case: a mark of this program, the name of
a field and, for a field inside a field, its name after two underscores. The value of a field that
holds a list or fields of its own is JSON.
-/

namespace OpcachePreload.Settings

/-- Variables by name in lower case; one of a file may lack a value. -/
abbrev Variables := OrderedMap String (Option String)

namespace Variables

/-- The variables of the environment. -/
def ofEnvironment (env : Environment) : Variables :=
  .ofList (env.bindings.toList.map fun entry => (Text.lowercase entry.1, some entry.2))

/-- The variables of a file. -/
def ofFile (known : OrderedMap String (Option String)) : Variables :=
  .ofList (known.toList.map fun entry => (Text.lowercase entry.1, entry.2))

/-- What the names of variables for settings start with. -/
def mark : String := "preloader_"

/-- The steps of a name between pairs of underscores. -/
def stepsFrom (step : List Char) : List Char → List String
  | '_' :: '_' :: rest => String.ofList step.reverse :: stepsFrom [] rest
  | c :: rest => stepsFrom (c :: step) rest
  | [] => [String.ofList step.reverse]

/-- The steps that lead to the field that a variable sets inside `field`. -/
def steps? (field name : String) : Option (List String) :=
  let start := (mark ++ field ++ "__").toList
  if start.isPrefixOf name.toList then some (stepsFrom [] (name.toList.drop start.length)) else none

/-- The entries after setting what some steps lead to. What is not a mapping is left alone. -/
def setAt (entries : List (Value × Value)) (value : Value) : List String → List (Value × Value)
  | [] => entries
  | [last] => Value.assign (.text last) value entries
  | step :: rest =>
    match Value.field? entries step with
    | none => Value.assign (.text step) (.mapping (setAt [] value rest)) entries
    | some (.mapping inner) =>
      Value.assign (.text step) (.mapping (setAt inner value rest)) entries
    | some _ => entries

/-- The value of JSON text. -/
def decode? (text : String) : Option Value := (Json.read text).toOption

/-- The value that a variable gives to what some steps lead to inside a field. -/
def innerValue? (field : String) (steps : List String) (value : Option String) : Option Value :=
  match value with
  | none => some .null
  | some text =>
    let isList := field = "scan" && steps.length = 1 && steps.all (scanFieldNames.contains ·)
    if isList && !text.isEmpty then decode? text else some (.text text)

/-- The entries that variables set inside a field; none if one of them is not as it should be. -/
def inside? (known : Variables) (field : String) : Option (List (Value × Value)) :=
  known.toList.foldlM (fun entries entry =>
    match steps? field entry.1 with
    | none => some entries
    | some steps =>
      (innerValue? field steps entry.2).map fun value => setAt entries value steps) []

/-- Entries over others: mappings are merged entry by entry. -/
def merge (fuel : Nat) (lower upper : List (Value × Value)) : List (Value × Value) :=
  match fuel with
  | 0 => upper
  | fuel + 1 =>
    upper.foldl (fun merged entry =>
      let old := (merged.find? fun other => Value.sameKey other.1 entry.1).map Prod.snd
      let value := match old, entry.2 with
        | some (.mapping old), .mapping new => .mapping (merge fuel old new)
        | _, value => value
      Value.assign entry.1 value merged) lower

mutual

/-- How deep a value nests. -/
def depth : Value → Nat
  | .mapping entries => depthOfEntries entries + 1
  | _ => 0

/-- How deep the values of entries nest. -/
def depthOfEntries : List (Value × Value) → Nat
  | [] => 0
  | (_, value) :: rest => max (depth value) (depthOfEntries rest)

end

/-- Entries over others, however deep they nest. -/
def mergeEntries (lower upper : List (Value × Value)) : List (Value × Value) :=
  merge (depthOfEntries upper + 1) lower upper

/-- Entries of a field with the names of its fields in their own case. -/
def withFieldCase (field : String) (entries : List (Value × Value)) : List (Value × Value) :=
  entries.foldl (fun renamed entry =>
    let key := match entry.1 with
      | .text name =>
        .text (((innerFieldNames field).find? (· = Text.lowercase name)).getD name)
      | key => key
    Value.assign key entry.2 renamed) []

/-- What variables give to a field that holds a list or fields of its own: nothing, a value, or
text that is not JSON. -/
def structured? (known : Variables) (field : String) : Option (Option Value) :=
  match (known.get? (mark ++ field)).join with
  | none => do
    let entries ← known.inside? field
    if entries.isEmpty then return none
    else return some (.mapping (withFieldCase field entries))
  | some text => do
    match ← decode? text with
    | .mapping entries =>
      let inner ← known.inside? field
      return some (.mapping (withFieldCase field (mergeEntries entries inner)))
    | .null => return none
    | value => return some value

/-- What variables give to a field. -/
def field? (known : Variables) (field : String) : Option (Option Value) :=
  if structuredFieldNames.contains field then known.structured? field
  else some (((known.get? (mark ++ field)).join).map .text)

/-- The entries that variables give, field by field, or the first field that is not as it should
be. -/
def entries (known : Variables) : Except String (List (Value × Value)) :=
  fieldNames.foldlM (fun entries field =>
    match known.field? field with
    | none => .error field
    | some none => .ok entries
    | some (some value) => .ok (entries ++ [(.text field, value)])) []

end Variables

end OpcachePreload.Settings
