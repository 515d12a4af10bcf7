import OpcachePreload.Pattern.Charset

/-!
# Patterns

A pattern is tried at a place in a text and succeeds in the first of its ways that lets what follows
it succeed: the left alternative before the right one, a greedy repetition as often as possible
first, a lazy one as rarely as possible first. Matching is total: a repetition that has reached its
least count goes on only while its body moves forward.
-/

namespace OpcachePreload

/-! ## Notions of place -/

/-- A place in a text: the characters before it, nearest first, and those after it, together with
what the groups have captured so far, latest first. -/
structure Cursor where
  position : Nat
  before : List Char
  after : List Char
  captures : List (Nat × List Char)
  deriving DecidableEq, Repr

namespace Cursor

/-- The place before the first character. -/
def start (text : List Char) : Cursor := ⟨0, [], text, []⟩

/-- What a group captured last. -/
def capture? (cursor : Cursor) (index : Nat) : Option (List Char) :=
  (cursor.captures.find? (·.1 == index)).map Prod.snd

/-- The text between an earlier place and this one. -/
def since (cursor origin : Cursor) : List Char :=
  (cursor.before.take (cursor.position - origin.position)).reverse

/-- Move over a text, letter for letter up to case. -/
def skip (folding : Pattern.Folding) : List Char → Cursor → Option Cursor
  | [], cursor => some cursor
  | c :: rest, cursor =>
    match cursor.after with
    | [] => none
    | d :: after =>
      if folding.representative c.toNat = folding.representative d.toNat then
        skip folding rest { cursor with
          position := cursor.position + 1, before := d :: cursor.before, after }
      else none

/-- Move back over a number of characters. -/
def back : Nat → Cursor → Option Cursor
  | 0, cursor => some cursor
  | n + 1, cursor =>
    match cursor.before with
    | [] => none
    | c :: before =>
      back n { cursor with position := cursor.position - 1, before, after := c :: cursor.after }

end Cursor

namespace Pattern

/-- Conditions on a place that take no character. -/
inductive Anchor where
  | textStart
  | textEnd
  | lineStart
  | lineEnd
  /-- The end of the text, or before a line feed that ends it. -/
  | lastLineEnd
  | wordEdge (asciiOnly inside : Bool)
  deriving DecidableEq, Repr

/-- Whether a condition holds at a place. No condition on word edges holds in the empty text. -/
def Anchor.holds (anchor : Anchor) (cursor : Cursor) : Bool :=
  match anchor with
  | .textStart => cursor.before.isEmpty
  | .textEnd => cursor.after.isEmpty
  | .lineStart => cursor.before.head?.all (· == '\n')
  | .lineEnd => cursor.after.head?.all (· == '\n')
  | .lastLineEnd => cursor.after.isEmpty || cursor.after == ['\n']
  | .wordEdge asciiOnly inside =>
    let isWord := Category.holds .word asciiOnly
    let edge := cursor.before.head?.any isWord != cursor.after.head?.any isWord
    !(cursor.before.isEmpty && cursor.after.isEmpty) && edge == inside

/-- Which of its ways a repetition tries first. -/
inductive Manner where
  | greedy
  | lazy
  deriving DecidableEq, Repr

/-- How often, and in which order of preference, a repetition repeats. -/
structure Repetition where
  least : Nat
  most : Option Nat
  manner : Manner
  deriving DecidableEq, Repr

/-- Whether one more round is allowed after `count` of them. -/
def Repetition.allows (repetition : Repetition) (count : Nat) : Bool :=
  repetition.most.all (count < ·)

end Pattern

/-- A pattern of text. -/
inductive Pattern where
  | nothing
  | one (set : Pattern.Charset)
  | andThen (first second : Pattern)
  | orElse (first second : Pattern)
  | repeated (body : Pattern) (repetition : Pattern.Repetition)
  | group (index : Nat) (body : Pattern)
  /-- The first way of the body, and no other. -/
  | atomic (body : Pattern)
  | anchored (anchor : Pattern.Anchor)
  /-- Whether the body does or does not match from here. -/
  | ahead (holds : Bool) (body : Pattern)
  /-- Whether the body, `width` characters wide, does or does not match up to here. -/
  | behind (holds : Bool) (width : Nat) (body : Pattern)
  /-- What a group captured, once more. -/
  | again (index : Nat) (folding : Pattern.Folding)
  /-- One of two patterns, by whether a group has captured. -/
  | whether (index : Nat) (yes no : Pattern)
  deriving Repr

namespace Pattern

/-! ## Building patterns -/

/-- The patterns one after the other. -/
def sequence : List Pattern → Pattern
  | [] => nothing
  | [p] => p
  | p :: rest => andThen p (sequence rest)

/-- A text, character for character. -/
def literal (text : String) : Pattern :=
  sequence (text.toList.map fun c => one (.single c))

/-- As often as possible. -/
def many (body : Pattern) : Pattern := repeated body ⟨0, none, .greedy⟩

/-- As often as possible, but once at least. -/
def many1 (body : Pattern) : Pattern := repeated body ⟨1, none, .greedy⟩

/-- As often as possible, and in no other way. -/
def possessively (body : Pattern) (least : Nat) (most : Option Nat) : Pattern :=
  atomic (repeated (atomic body) ⟨least, most, .greedy⟩)

/-- Once if possible. -/
def optional (body : Pattern) : Pattern := repeated body ⟨0, some 1, .greedy⟩

/-! ## Matching -/

/-- A way to match: from a place, given what has to follow. -/
abbrev Matcher := Cursor → (Cursor → Option Cursor) → Option Cursor

/-- Repeat `body` after `count` rounds. `last` is the place where the latest round beyond the least
count began: a round that did not move ends the repetition. -/
def repeatFrom (body : Matcher) (repetition : Repetition) :
    (fuel count : Nat) → (last : Option Nat) → Matcher
  | 0, _, _, _, _ => none
  | fuel + 1, count, last, cursor, follow =>
    if count < repetition.least then
      body cursor fun next => repeatFrom body repetition fuel (count + 1) last next follow
    else
      let again (_ : Unit) : Option Cursor :=
        if repetition.allows count && last != some cursor.position then
          body cursor fun next =>
            repeatFrom body repetition fuel (count + 1) (some cursor.position) next follow
        else none
      match repetition.manner with
      | .greedy => again () <|> follow cursor
      | .lazy => follow cursor <|> again ()

/-- Match a pattern from a place, and `follow` from the place where it ends. -/
def run : Pattern → Matcher
  | nothing, cursor, follow => follow cursor
  | one set, cursor, follow =>
    match cursor.after with
    | [] => none
    | c :: after =>
      if set.contains c then
        follow { cursor with
          position := cursor.position + 1, before := c :: cursor.before, after }
      else none
  | andThen first second, cursor, follow =>
    run first cursor fun next => run second next follow
  | orElse first second, cursor, follow =>
    run first cursor follow <|> run second cursor follow
  | repeated body repetition, cursor, follow =>
    repeatFrom (fun cursor follow => run body cursor follow) repetition
      (repetition.least + cursor.after.length + 2) 0 none cursor follow
  | group index body, cursor, follow =>
    run body cursor fun next =>
      follow { next with captures := (index, next.since cursor) :: next.captures }
  | atomic body, cursor, follow =>
    (run body cursor some).bind follow
  | anchored anchor, cursor, follow =>
    if anchor.holds cursor then follow cursor else none
  | ahead holds body, cursor, follow =>
    match run body cursor some with
    | some found => if holds then follow { cursor with captures := found.captures } else none
    | none => if holds then none else follow cursor
  | behind holds width body, cursor, follow =>
    match (cursor.back width).bind fun origin => run body origin some with
    | some found => if holds then follow { cursor with captures := found.captures } else none
    | none => if holds then none else follow cursor
  | again index folding, cursor, follow =>
    (cursor.capture? index).bind fun text => (cursor.skip folding text).bind follow
  | whether index yes no, cursor, follow =>
    if (cursor.capture? index).isSome then run yes cursor follow else run no cursor follow

/-! ## Searching -/

/-- A match: the places where it starts and ends. -/
structure Match where
  first : Cursor
  last : Cursor
  deriving Repr

namespace Match

/-- What a group captured, nothing if it took no part. -/
def capture? (found : Match) (index : Nat) : Option (List Char) :=
  found.last.capture? index

/-- What a group captured, as a string. -/
def text (found : Match) (index : Nat) : String :=
  String.ofList ((found.capture? index).getD [])

end Match

/-- The match that starts at a place. With `moving` it has to take a character. -/
def matchAt (pattern : Pattern) (moving : Bool) (cursor : Cursor) : Option Match :=
  let finish (last : Cursor) : Option Cursor :=
    if moving && last.position == cursor.position then none else some last
  (run pattern cursor finish).map fun last => ⟨cursor, last⟩

/-- The leftmost match that starts at or after a place, `after` being what follows that place. With
`moving`, a match right there has to take a character. -/
def findFrom (pattern : Pattern) (moving : Bool) (position : Nat) (before : List Char) :
    (after : List Char) → Option Match
  | [] => matchAt pattern moving ⟨position, before, [], []⟩
  | c :: rest =>
    matchAt pattern moving ⟨position, before, c :: rest, []⟩ <|>
      findFrom pattern false (position + 1) (c :: before) rest

/-- The leftmost match in a text. -/
def find? (pattern : Pattern) (text : List Char) : Option Match :=
  findFrom pattern false 0 [] text

/-- Whether a pattern matches somewhere in a text. -/
def occursIn (pattern : Pattern) (text : String) : Bool :=
  (find? pattern text.toList).isSome

/-- The matches from a place on, each starting no earlier than the one before it ends. -/
def findAllFrom (pattern : Pattern) : (fuel : Nat) → (moving : Bool) → Cursor → List Match
  | 0, _, _ => []
  | fuel + 1, moving, cursor =>
    match findFrom pattern moving cursor.position cursor.before cursor.after with
    | none => []
    | some found =>
      found :: findAllFrom pattern fuel (found.first.position == found.last.position) found.last

/-- All matches in a text from left to right, none overlapping the one before. -/
def findAll (pattern : Pattern) (text : List Char) : List Match :=
  findAllFrom pattern (2 * text.length + 2) false (.start text)

end Pattern

end OpcachePreload
