import OpcachePreload.Pattern.Problem

/-!
# The text of a pattern

A pattern is read token by token, a token being a character or a backslash with the character after
it. Moving on looks one token ahead, so a lone backslash at the end is noticed as soon as all tokens
before it have been read.
-/

namespace OpcachePreload.Pattern

/-- A character, or one after a backslash. -/
inductive Token where
  | plain (c : Char)
  | escaped (c : Char)
  deriving DecidableEq, Repr

/-- The characters of a token. -/
def Token.chars : Token → List Char
  | plain c => [c]
  | escaped c => ['\\', c]

/-- What is left of a pattern, and how much was read. -/
structure Source where
  position : Nat
  rest : List Char
  deriving DecidableEq, Repr

namespace Source

/-- The next token. -/
def peek : Source → Option Token
  | ⟨_, '\\' :: c :: _⟩ => some (.escaped c)
  | ⟨_, c :: _⟩ => some (.plain c)
  | ⟨_, []⟩ => none

/-- Reject the pattern for a problem noticed `offset` characters before this place. -/
def reject {α : Type} (source : Source) (problem : Problem) (offset : Nat := 0) :
    Except Rejection α :=
  .error (.malformed problem (some (source.position - offset)))

/-- A place is good unless all that is left is a backslash. -/
def settle (source : Source) : Except Rejection Source :=
  if source.rest = ['\\'] then source.reject .badEscapeAtEnd else .ok source

/-- The place after the next token. -/
def advance : Source → Except Rejection Source
  | ⟨position, '\\' :: _ :: rest⟩ => settle ⟨position + 2, rest⟩
  | ⟨position, _ :: rest⟩ => settle ⟨position + 1, rest⟩
  | source => .ok source

/-- The next token and the place after it. -/
def next (source : Source) : Except Rejection (Option Token × Source) := do
  return (source.peek, ← source.advance)

/-- Move over a character if it is the next token. -/
def accept? (source : Source) (c : Char) : Except Rejection (Option Source) :=
  if source.peek = some (.plain c) then source.advance.map some else .ok none

/-- Read up to `n` characters of a kind. -/
def takeUpTo (kind : Char → Bool) : Nat → Source → Except Rejection (List Char × Source)
  | 0, source => .ok ([], source)
  | n + 1, source =>
    match source.peek with
    | some (.plain c) =>
      if kind c then do
        let (more, source) ← takeUpTo kind n (← source.advance)
        return (c :: more, source)
      else .ok ([], source)
    | _ => .ok ([], source)

/-- Read a name up to its terminator and move over both. -/
def takeName (terminator : Char) (what : String) :
    (fuel : Nat) → (soFar : List Char) → Source → Except Rejection (List Char × Source)
  | 0, soFar, source => .ok (soFar, source)
  | fuel + 1, soFar, source => do
    let (token, source) ← source.next
    match token with
    | none =>
      if soFar.isEmpty then source.reject (.missingName what)
      else source.reject (.unterminatedName terminator) soFar.length
    | some token =>
      if token = .plain terminator then
        if soFar.isEmpty then source.reject (.missingName what) 1 else return (soFar, source)
      else takeName terminator what fuel (soFar ++ token.chars) source

/-- Read a name up to its terminator and move over both. -/
def name (source : Source) (terminator : Char) (what : String) :
    Except Rejection (List Char × Source) :=
  takeName terminator what (source.rest.length + 1) [] source

/-- Move over everything up to a character and over that character; nothing is left otherwise. -/
def skipThrough (c : Char) : (fuel : Nat) → Source → Except Rejection (Bool × Source)
  | 0, source => .ok (false, source)
  | fuel + 1, source => do
    let (token, source) ← source.next
    match token with
    | none => return (false, source)
    | some token =>
      if token = .plain c then return (true, source) else skipThrough c fuel source

end Source

end OpcachePreload.Pattern
