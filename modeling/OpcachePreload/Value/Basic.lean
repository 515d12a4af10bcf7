import OpcachePreload.Calendar
import OpcachePreload.Text.Code

/-!
# Values of data files

What a data file can hold. JSON needs a part of it; YAML adds bytes, dates, sets and pairs, keys of
any kind, and structures that contain themselves.
-/

namespace OpcachePreload

/-- A value read from a data file. -/
inductive Value where
  | null
  | bool (value : Bool)
  | int (value : Int)
  | float (value : Float)
  | text (value : String)
  /-- Code points that are not a text, since some of them are lone surrogates. -/
  | codes (codes : List Nat)
  | bytes (bytes : List UInt8)
  | date (date : Date)
  | moment (moment : Moment)
  | list (items : List Value)
  | mapping (entries : List (Value × Value))
  | set (items : List Value)
  | pair (first second : Value)
  /-- A collection met again inside itself; `keyed` for one that is shown between braces. -/
  | cycle (keyed : Bool)
  deriving Repr, Inhabited

namespace Value

/-- A mapping whose keys are texts. -/
def ofEntries (entries : List (String × Value)) : Value :=
  mapping (entries.map fun entry => (text entry.1, entry.2))

/-- The mapping without entries. -/
def emptyMapping : Value := mapping []

/-- The value as a whole or binary fraction, for comparison with other numbers. -/
def number? : Value → Option (Int ⊕ Float)
  | bool b => some (.inl (if b then 1 else 0))
  | int n => some (.inl n)
  | float x =>
    if x == x.floor && x.abs < 1e18 then some (.inl x.toInt64.toInt) else some (.inr x)
  | _ => none

mutual

/-- Whether two values are the same key. Numbers are compared by value, whatever their kind. -/
def sameKey : Value → Value → Bool
  | null, null => true
  | text s, text t => s == t
  | codes s, codes t => s == t
  | bytes s, bytes t => s == t
  | date d, date e => d == e
  | moment d, moment e => d == e
  | pair a b, pair c d => sameKey a c && sameKey b d
  | list a, list b => sameKeys a b
  | a, b =>
    match number? a, number? b with
    | some (.inl m), some (.inl n) => m == n
    | some (.inr x), some (.inr y) => x == y
    | _, _ => false

/-- Whether two lists of values are the same keys in the same order. -/
def sameKeys : List Value → List Value → Bool
  | [], [] => true
  | a :: as, b :: bs => sameKey a b && sameKeys as bs
  | _, _ => false

end

/-- The entries after assigning a value to a key: an old key keeps its place. -/
def assign (key value : Value) : List (Value × Value) → List (Value × Value)
  | [] => [(key, value)]
  | entry :: rest =>
    if sameKey entry.1 key then (entry.1, value) :: rest else entry :: assign key value rest

/-- The value of a text key in some entries. -/
def field? (entries : List (Value × Value)) (name : String) : Option Value :=
  (entries.find? fun entry => sameKey entry.1 (text name)).map Prod.snd

/-- Whether a value counts as something: nothing, false, zero and whatever is empty do not. -/
def isSomething : Value → Bool
  | null => false
  | bool b => b
  | int n => n != 0
  | float x => x != 0
  | text s => !s.isEmpty
  | codes s => !s.isEmpty
  | bytes b => !b.isEmpty
  | list items => !items.isEmpty
  | mapping entries => !entries.isEmpty
  | set items => !items.isEmpty
  | date _ | moment _ | pair _ _ | cycle _ => true

/-- Whether a value is a text, valid or not. -/
def isText : Value → Bool
  | text _ | codes _ => true
  | _ => false

/-- The code points of a value that is a text, valid or not. -/
def codes? : Value → Option (List Nat)
  | text s => some (Text.codes s)
  | codes s => some s
  | _ => none

/-- The text of a value that is one. Other characters stand in for lone surrogates. -/
def toText? : Value → Option String
  | text s => some s
  | codes s => some (Text.ofCodes s)
  | _ => none

end Value

end OpcachePreload
