import OpcachePreload.OrderedMap
import OpcachePreload.Path

/-!
# Environment variables in paths

A path may be written with a tilde for a home directory at its front and with variables, plain or
in braces. Every variable is replaced once, from left to right, and what replaces it is not looked
at again; one that has no value stays as it is written.
-/

namespace OpcachePreload

/-- The environment variables, and the accounts of the system. -/
structure Environment where
  bindings : OrderedMap String String
  /-- The home directory of the account with a name; without one, of the account that runs the
  program. -/
  accountHome? : Option String → Option String

namespace Environment

/-- Variables in a system without accounts. -/
def ofList (bindings : List (String × String)) : Environment :=
  ⟨.ofList bindings, fun _ => none⟩

/-- No variables and no accounts. -/
def empty : Environment := ofList []

/-- The value of a variable. -/
def get? (env : Environment) (name : String) : Option String := env.bindings.get? name

/-- Assign a value to a variable. -/
def insert (env : Environment) (name value : String) : Environment :=
  { env with bindings := env.bindings.insert name value }

/-- The home directory that a tilde with a name after it stands for. Without a name the variable for
it counts before the account. -/
def home? (env : Environment) (user : List Char) : Option String :=
  if user.isEmpty then (env.get? "HOME").or (env.accountHome? none)
  else env.accountHome? (some (String.ofList user))

/-- A home directory without the slashes at its end. -/
def bareHome (home : String) : List Char := (home.toList.reverse.dropWhile (· = '/')).reverse

/-- Replace a tilde at the front, and the name between it and the first slash, by a home
directory. -/
def expandHome (env : Environment) (text : List Char) : List Char :=
  match text with
  | '~' :: rest =>
    let user := rest.takeWhile (· != '/')
    match env.home? user with
    | none => text
    | some home =>
      let expanded := bareHome home ++ rest.drop user.length
      if expanded.isEmpty then ['/'] else expanded
  | _ => text

/-- A character that a variable's name may have outside braces. -/
def isNameChar (c : Char) : Bool := c.isAlphanum || c = '_'

/-- The variable that follows a dollar sign: its name, and how it is written. -/
def reference? : List Char → Option (List Char × List Char)
  | '\x7b' :: rest =>
    let name := rest.takeWhile (· != '\x7d')
    if name.length < rest.length then some (name, '\x7b' :: name ++ ['\x7d']) else none
  | rest =>
    let name := rest.takeWhile isNameChar
    if name.isEmpty then none else some (name, name)

/-- Replace variables in what follows `skip` characters that have been dealt with. -/
def expandFrom (env : Environment) (skip : Nat) : List Char → List Char
  | [] => []
  | c :: rest =>
    match skip with
    | skip + 1 => expandFrom env skip rest
    | 0 =>
      if c = '$' then
        match reference? rest with
        | none => c :: expandFrom env 0 rest
        | some (name, written) =>
          let value := (env.get? (String.ofList name)).map String.toList
          value.getD (c :: written) ++ expandFrom env written.length rest
      else c :: expandFrom env 0 rest

/-- Replace variables. -/
def expandVariables (env : Environment) (text : List Char) : List Char :=
  expandFrom env 0 text

/-- The path that a text means: home directory first, then variables. -/
def path (env : Environment) (text : String) : Path :=
  .ofString (String.ofList (env.expandVariables (env.expandHome text.toList)))

/-- Text without dollar signs has no variables. -/
theorem expandVariables_of_not_mem {env : Environment} {text : List Char} (plain : '$' ∉ text) :
    env.expandVariables text = text := by
  unfold expandVariables
  induction text with
  | nil => rfl
  | cons c rest ih =>
      simp only [List.mem_cons, not_or] at plain
      simp [expandFrom, Ne.symm plain.1, ih plain.2]

end Environment

end OpcachePreload
