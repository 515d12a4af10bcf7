import OpcachePreload.Pattern.Charset

/-!
# Wildcards

A wildcard describes names: a star stands for any characters, a question mark for one, and brackets
for one of a set, which may hold ranges and may be complemented. A bracket that is not closed stands
for itself.
-/

namespace OpcachePreload.Glob

open Pattern (Charset Member)

/-- A part of a wildcard. -/
inductive Piece where
  | star
  | one (set : Charset)
  deriving DecidableEq, Repr

/-! ## Sets in brackets -/

/-- Cut what stands between brackets at the hyphens that may make ranges: never at the first
character, and at no hyphen that follows another one by less than three. `wait` characters are
passed over before the next cut. -/
def cut (wait : Nat) (chunk : List Char) : List Char → List (List Char)
  | [] => [chunk.reverse]
  | c :: rest =>
    match wait with
    | wait + 1 => cut wait (c :: chunk) rest
    | 0 => if c = '-' then chunk.reverse :: cut 2 [] rest else cut 0 (c :: chunk) rest

/-- The pieces between hyphens, a hyphen at the very end being itself. -/
def chunks (inside : List Char) : List (List Char) :=
  match (cut 1 [] inside).reverse with
  | [] :: last :: earlier => ((last ++ ['-']) :: earlier).reverse
  | pieces => pieces.reverse

/-- Join pieces whose range would be empty, leaving its ends out. -/
def dropEmptyRanges : List (List Char) → List (List Char)
  | [] => []
  | chunk :: rest =>
    match dropEmptyRanges rest with
    | [] => [chunk]
    | next :: later =>
      match chunk.getLast?, next.head? with
      | some first, some last =>
        if last < first then (chunk.dropLast ++ next.tail) :: later else chunk :: next :: later
      | _, _ => chunk :: next :: later

/-- The members of a set: the characters of the pieces, and the ranges between them. -/
def membersOf : List (List Char) → List Member
  | [] => []
  | [chunk] => chunk.map fun c => .range c.toNat c.toNat
  | chunk :: next :: later =>
    let range := match chunk.getLast?, next.head? with
      | some first, some last => [.range first.toNat last.toNat]
      | _, _ => []
    (chunk.map fun c => .range c.toNat c.toNat) ++ range ++ membersOf (next :: later)

/-- The set that stands between brackets. -/
def setOf (inside : List Char) : Charset :=
  match inside with
  | '!' :: rest => { members := membersOf (dropEmptyRanges (chunks rest)), inside := false }
  | _ => { members := membersOf (dropEmptyRanges (chunks inside)) }

/-- What stands between brackets, after the opening one, and what follows them. A closing bracket at
the front is a member of the set. -/
def bracketed? (text : List Char) : Option (List Char × List Char) :=
  let (mark, body) := match text with
    | '!' :: rest => (['!'], rest)
    | _ => ([], text)
  let (first, body) := match body with
    | ']' :: rest => ([']'], rest)
    | _ => ([], body)
  let inside := body.takeWhile (· != ']')
  if inside.length < body.length then
    some (mark ++ first ++ inside, body.drop (inside.length + 1))
  else none

/-- The pieces of a wildcard. -/
def piecesFrom : (fuel : Nat) → List Char → List Piece
  | 0, _ => []
  | _, [] => []
  | fuel + 1, c :: rest =>
    if c = '*' then .star :: piecesFrom fuel rest
    else if c = '?' then .one .all :: piecesFrom fuel rest
    else if c = '[' then
      match bracketed? rest with
      | some (inside, rest) => .one (setOf inside) :: piecesFrom fuel rest
      | none => .one (.single c) :: piecesFrom fuel rest
    else .one (.single c) :: piecesFrom fuel rest

/-- The pieces of a wildcard. -/
def pieces (wildcard : List Char) : List Piece := piecesFrom wildcard.length wildcard

/-- Whether pieces describe the whole of a text. -/
def describes : List Piece → List Char → Bool
  | [], text => text.isEmpty
  | .star :: rest, [] => describes rest []
  | .star :: rest, c :: text => describes rest (c :: text) || describes (.star :: rest) text
  | .one _ :: _, [] => false
  | .one set :: rest, c :: text => set.contains c && describes rest text
termination_by pieces text => pieces.length + text.length

/-- Whether a text has a character that makes it a wildcard. -/
def isWildcard (text : String) : Bool := text.toList.any fun c => c = '*' || c = '?' || c = '['

/-- Whether a name is hidden. -/
def isHidden (name : String) : Bool := name.toList.head? = some '.'

/-- Whether a wildcard describes a name. Hidden names are described only by wildcards that start
with a dot. -/
def admits (wildcard name : String) : Bool :=
  (isHidden wildcard || !isHidden name) && describes (pieces wildcard.toList) name.toList

end OpcachePreload.Glob
