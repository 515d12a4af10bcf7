import OpcachePreload.Yaml.Node
import OpcachePreload.Yaml.ScalarValue

/-!
# Values of YAML documents

What a document means. Of several faults in it the one nearest to the root is reported, and of those
at the same depth the first. Merge keys of a mapping put the entries of other mappings before its
own.
-/

namespace OpcachePreload.Yaml

/-- A value, or the fault that is reported and its depth. -/
abbrev Outcome (α : Type) := Except (Nat × Fault) α

namespace Outcome

/-- A fault at a depth. -/
def fail {α : Type} (depth : Nat) (fault : Fault) : Outcome α := .error (depth, fault)

/-- A value that may be at fault at a depth. -/
def lift {α : Type} (depth : Nat) (found : Except Fault α) : Outcome α :=
  found.mapError (depth, ·)

/-- Both of two outcomes, the first of them coming first in the document. -/
def both {α β γ : Type} (combine : α → β → γ) : Outcome α → Outcome β → Outcome γ
  | .ok a, .ok b => .ok (combine a b)
  | .ok _, .error fault => .error fault
  | .error fault, .ok _ => .error fault
  | .error first, .error second => .error (if second.1 < first.1 then second else first)

end Outcome

/-- The kind of a node. -/
def Node.tag : Node → Tag
  | .scalar tag _ | .sequence tag _ | .mapping tag _ => tag
  | .cycle false => .sequence
  | .cycle true => .mapping

/-- The text of a node that has to be a scalar. A mapping counts as the scalar that its key `=`
has. -/
def Node.scalarText : Node → Except Fault String
  | .scalar _ text => .ok text
  | .mapping _ entries => inEntries entries
  | .sequence _ _ | .cycle _ => .error (.malformed .wrongKind)
where
  /-- The text of the first value whose key is `=`. -/
  inEntries : List (Node × Node) → Except Fault String
    | [] => .error (.malformed .wrongKind)
    | (key, value) :: rest => if key.tag = .value then value.scalarText else inEntries rest

/-- An entry of a mapping whose parts have been constructed. -/
structure Piece where
  key : Outcome Value
  value : Outcome Value

/-- The entries of a mapping: those that are merged into it, and its own. -/
structure Pieces where
  merged : List Piece := []
  own : List Piece := []

/-- The entries in the order in which they are assigned. -/
def Pieces.all (pieces : Pieces) : List Piece := pieces.merged ++ pieces.own

/-- Assign entries one after the other. -/
def assignAll : List Piece → Outcome (List (Value × Value)) → Outcome (List (Value × Value))
  | [], soFar => soFar
  | piece :: rest, soFar =>
    let entry := Outcome.both Prod.mk piece.key piece.value
    assignAll rest (.both (fun entries entry => Value.assign entry.1 entry.2 entries) soFar entry)

/-- What a collection of another kind than its tag says amounts to: the tag of a scalar wants its
text at once, that of a collection is looked at with the contents. A date or moment is looked for in
the collection itself, in vain. -/
def mismatch (depth : Nat) (tag : Tag) (text : Except Fault String) : Outcome Value :=
  match tag with
  | .sequence | .mapping | .set | .orderedMapping | .pairs =>
    .fail (depth + 1) (.malformed .wrongKind)
  | .null => .lift depth (text.map fun _ => .null)
  | .merge | .value | .unknown _ => .lift depth (Scalar.value tag "")
  | .timestamp => .lift depth (text.bind fun _ => .error .mappingTimestamp)
  | .bool | .int | .float | .text | .bytes =>
    .lift depth (text.bind (Scalar.value tag))

mutual

/-- The value of a node at a depth. -/
def valueAt (depth : Nat) : Node → Outcome Value
  | .scalar tag text =>
    match tag with
    | .sequence | .mapping | .set | .orderedMapping | .pairs =>
      .fail (depth + 1) (.malformed .wrongKind)
    | tag => .lift depth (Scalar.value tag text)
  | .sequence tag items =>
    match tag with
    | .sequence => .list <$> valuesAt (depth + 1) items
    | .orderedMapping | .pairs => .list <$> pairsAt (depth + 1) items
    | tag => mismatch depth tag (.error (.malformed .wrongKind))
  | .mapping tag entries =>
    match tag with
    | .mapping => .mapping <$> entriesAt (depth + 1) entries
    | .set => (fun found => .set (found.map Prod.fst)) <$> entriesAt (depth + 1) entries
    | tag => mismatch depth tag (Node.scalarText.inEntries entries)
  | .cycle keyed => .ok (.cycle keyed)

/-- The values of the items of a sequence. -/
def valuesAt (depth : Nat) : List Node → Outcome (List Value)
  | [] => .ok []
  | item :: rest => .both List.cons (valueAt depth item) (valuesAt depth rest)

/-- The pairs of a sequence of mappings with one entry each. -/
def pairsAt (depth : Nat) : List Node → Outcome (List Value)
  | [] => .ok []
  | .mapping _ [(key, value)] :: rest =>
    .both List.cons (.both .pair (valueAt depth key) (valueAt depth value)) (pairsAt depth rest)
  | _ :: _ => .fail depth (.malformed .wrongKind)

/-- The entries of a mapping. Merging comes before everything else. -/
def entriesAt (depth : Nat) (entries : List (Node × Node)) : Outcome (List (Value × Value)) := do
  let pieces ← Outcome.lift depth (piecesAt depth entries)
  assignAll pieces.all (.ok [])

/-- The entries of a mapping, each part constructed. The key `=` is an ordinary text here, and a
collection, whatever it holds, cannot be a key. -/
def piecesAt (depth : Nat) : List (Node × Node) → Except Fault Pieces
  | [] => .ok {}
  | (key, value) :: rest =>
    match key.tag with
    | .merge => do
      let merged ← mergedAt depth value
      let pieces ← piecesAt depth rest
      return { pieces with merged := merged ++ pieces.merged }
    | _ => do
      let pieces ← piecesAt depth rest
      let key : Outcome Value :=
        if key.tag = .value then .lift depth (key.scalarText.map .text)
        else if key.tag.isCollection then .fail depth (.malformed .unhashableKey)
        else valueAt depth key
      return { pieces with own := ⟨key, valueAt depth value⟩ :: pieces.own }

/-- The entries that a value of a merge key adds: those of a mapping, or of several, the last of
which comes first. -/
def mergedAt (depth : Nat) : Node → Except Fault (List Piece)
  | .mapping _ entries => return (← piecesAt depth entries).all
  | .sequence _ items => mergedAllAt depth items
  | .cycle true => .ok []
  | .scalar _ _ | .cycle false => .error (.malformed .badMerge)

/-- The entries that several mappings add. -/
def mergedAllAt (depth : Nat) : List Node → Except Fault (List Piece)
  | [] => .ok []
  | .mapping _ entries :: rest => do
    let first := (← piecesAt depth entries).all
    return (← mergedAllAt depth rest) ++ first
  | .cycle true :: rest => mergedAllAt depth rest
  | _ :: _ => .error (.malformed .badMerge)

end

/-- Read a YAML text, which holds at most one document. -/
def read (text : String) : Except Fault Value := do
  match ← Node.ofTokens (tokens text.toList) with
  | none => return .null
  | some node => (valueAt 0 node).mapError Prod.snd

end OpcachePreload.Yaml
