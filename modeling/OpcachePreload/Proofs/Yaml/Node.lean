import OpcachePreload.Proofs.Yaml.TokenList
import OpcachePreload.Yaml.Node

/-!
# The nodes of a text without marks

Where no token is a tag, every collection has the kind of its style, a quoted scalar is a text, and
a plain one has the kind that its text has. This holds of the nodes that anchors name, too.
-/

namespace OpcachePreload.Yaml

/-- A node in which every kind is the one that goes without a tag. -/
inductive Node.Resolved : Node → Prop where
  | quoted (text : String) : Resolved (.scalar .text text)
  | plain {text : String} (complete : text.toList.getLast? ≠ some '\n') :
      Resolved (.scalar (Scalar.resolve text.toList) text)
  | sequence {items : List Node} (items_resolved : ∀ item ∈ items, Resolved item) :
      Resolved (.sequence .sequence items)
  | mapping {entries : List (Node × Node)} (keys_resolved : ∀ entry ∈ entries, Resolved entry.1)
      (values_resolved : ∀ entry ∈ entries, Resolved entry.2) : Resolved (.mapping .mapping entries)
  | cycle (keyed : Bool) : Resolved (.cycle keyed)

theorem Node.resolved_empty : Node.empty.Resolved := by
  have plain : Resolved (.scalar (Scalar.resolve "".toList) "") := .plain (by simp)
  exact plain

namespace Builder

/-- The tokens that are left are harmless, as is a fault that ends them, and the nodes with anchors
are resolved. -/
structure Clean (builder : Builder) : Prop extends builder.toTokenStream.Clean where
  resolved : ∀ entry ∈ builder.anchors, ∀ node, entry.2 = .complete node → node.Resolved

/-- From harmless tokens something of a kind is built. -/
def Builds {α : Type} (kind : α → Prop) (build : Build α) : Prop :=
  ∀ builder : Builder, builder.Clean →
    Fits (fun found => kind found.1 ∧ found.2.Clean) (build.run builder)

section

variable {α β : Type} {kind : α → Prop} {goal : β → Prop}

theorem Builds.bind {build : Build α} {next : α → Build β} (builds : Builds kind build)
    (next_builds : ∀ a, kind a → Builds goal (next a)) : Builds goal (build >>= next) :=
  fun builder clean => (builds builder clean).bind fun found fits =>
    next_builds found.1 fits.1 found.2 fits.2

theorem builds_pure {a : α} (of_kind : kind a) : Builds kind (pure a) :=
  fun _ clean => .found ⟨of_kind, clean⟩

theorem builds_reject (problem : Problem) : Builds kind (reject problem) :=
  fun _ _ => .content rfl

theorem Builds.ite {condition : Prop} [Decidable condition] {build other : Build α}
    (builds : Builds kind build) (other_builds : Builds kind other) :
    Builds kind (if condition then build else other) := by
  split
  · exact builds
  · exact other_builds

end

/-! ## Tokens and anchors -/

theorem builds_get : Builds Clean get := fun _ clean => .found ⟨clean, clean⟩

theorem builds_peek : Builds (fun next => ∀ token ∈ next, token.Harmless) peek := by
  refine builds_get.bind fun builder clean => ?_
  split
  · rename_i fault _ ends
    exact fun _ _ => (clean.fits fault ends).error
  · exact builds_pure fun token next => clean.harmless token (List.mem_of_head? next)

theorem builds_skip : Builds Anything skip :=
  fun _ clean => .found ⟨trivial, ⟨fun token left =>
    clean.harmless token (List.mem_of_mem_tail left), clean.fits⟩, clean.resolved⟩

theorem builds_accept (token : Token) : Builds Anything (accept token) :=
  builds_peek.bind fun _ _ => (builds_skip.bind fun _ _ => builds_pure trivial).ite
    (builds_pure trivial)

theorem builds_isNext (tokens : List Token) : Builds Anything (isNext tokens) :=
  builds_peek.bind fun _ _ => builds_pure trivial

theorem builds_note (name : String) {anchored : Anchored}
    (resolved : ∀ node, anchored = .complete node → node.Resolved) :
    Builds Anything (note name anchored) := by
  refine fun builder clean => .found ⟨trivial, clean.toClean, fun entry listed => ?_⟩
  rcases List.mem_cons.mp listed with rfl | before
  · exact resolved
  · exact clean.resolved entry (List.mem_filter.mp before).1

theorem builds_aliased (name : String) : Builds Node.Resolved (aliased name) := by
  refine builds_get.bind fun builder clean => ?_
  split
  · rename_i node found
    exact builds_pure (clean.resolved _ (List.mem_of_find?_eq_some found) node rfl)
  · exact builds_pure (.cycle _)
  · exact builds_reject _

theorem builds_tag? : Builds (· = none) tag? := by
  refine builds_peek.bind fun next harmless => ?_
  split
  · exact (harmless _ rfl).elim
  · exact builds_pure rfl

theorem builds_anchor? : Builds Anything anchor? := by
  refine builds_peek.bind fun next _ => ?_
  split
  · exact builds_skip.bind fun _ _ => builds_pure trivial
  · exact builds_pure trivial

theorem builds_properties : Builds (fun properties => properties.tag = none) properties := by
  refine builds_anchor?.bind fun first _ => builds_tag?.bind fun tag untagged => ?_
  subst untagged
  exact builds_pure rfl

theorem builds_checkAnchor (properties : Properties) :
    Builds Anything (checkAnchor properties) := by
  unfold checkAnchor
  split
  · exact builds_get.bind fun builder _ => (builds_reject _).ite (builds_pure trivial)
  · exact builds_pure trivial

theorem builds_noteAnchor (properties : Properties) {anchored : Anchored}
    (resolved : ∀ node, anchored = .complete node → node.Resolved) :
    Builds Anything (noteAnchor properties anchored) := by
  unfold noteAnchor
  split
  · exact builds_note _ resolved
  · exact builds_pure trivial

/-! ## Nodes -/

section

variable {properties : Properties} (untagged : properties.tag = none)

/-- A collection is open while it is built. -/
theorem builds_collection (properties : Properties) (keyed : Bool) {content : Build Node}
    (builds : Builds Node.Resolved content) :
    Builds Node.Resolved (do
      noteAnchor properties (.open keyed)
      let found ← content
      noteAnchor properties (.complete found)
      return found) :=
  (builds_noteAnchor properties (by rintro _ ⟨⟩)).bind fun _ _ => builds.bind fun found resolved =>
    (builds_noteAnchor properties (by rintro _ ⟨⟩; exact resolved)).bind fun _ _ =>
      builds_pure resolved

include untagged

theorem builds_sequence {items : Build (List Node)}
    (builds : Builds (∀ item ∈ ·, item.Resolved) items) :
    Builds Node.Resolved (do return .sequence (properties.kind .sequence) (← items)) := by
  have kind : properties.kind .sequence = .sequence := by rw [Properties.kind, untagged]
  rw [kind]
  exact builds.bind fun _ resolved => builds_pure (.sequence resolved)

theorem builds_mapping {entries : Build (List (Node × Node))}
    (builds : Builds (∀ entry ∈ ·, entry.1.Resolved ∧ entry.2.Resolved) entries) :
    Builds Node.Resolved (do return .mapping (properties.kind .mapping) (← entries)) := by
  have kind : properties.kind .mapping = .mapping := by rw [Properties.kind, untagged]
  rw [kind]
  exact builds.bind fun _ resolved => builds_pure <|
    .mapping (fun entry listed => (resolved entry listed).1) fun entry listed =>
      (resolved entry listed).2

theorem resolved_scalar {text : String} {plain : Bool}
    (harmless : Token.Harmless (.scalar text plain)) :
    (Node.scalar (properties.scalarKind plain text) text).Resolved := by
  rw [Properties.scalarKind, untagged]
  cases plain with
  | true => exact .plain harmless
  | false => exact .quoted text

theorem builds_scalar {text : String} {plain : Bool}
    (harmless : Token.Harmless (.scalar text plain)) :
    Builds Node.Resolved (do
      noteAnchor properties (.complete (.scalar (properties.scalarKind plain text) text))
      return .scalar (properties.scalarKind plain text) text) :=
  have resolved := resolved_scalar untagged harmless
  (builds_noteAnchor properties (by rintro _ ⟨⟩; exact resolved)).bind fun _ _ =>
    builds_pure resolved

end

/-- With some fuel everything that is built is resolved. -/
structure AllBuild (fuel : Nat) : Prop where
  node : ∀ setting, Builds Node.Resolved (node fuel setting)
  nodeUnless : ∀ setting ends, Builds Node.Resolved (nodeUnless fuel setting ends)
  blockItems : Builds (∀ item ∈ ·, item.Resolved) (blockItems fuel)
  looseItems : Builds (∀ item ∈ ·, item.Resolved) (looseItems fuel)
  blockEntries : Builds (∀ entry ∈ ·, entry.1.Resolved ∧ entry.2.Resolved) (blockEntries fuel)
  flowItems : ∀ first, Builds (∀ item ∈ ·, item.Resolved) (flowItems fuel first)
  flowEntries : ∀ first,
    Builds (∀ entry ∈ ·, entry.1.Resolved ∧ entry.2.Resolved) (flowEntries fuel first)

variable {fuel : Nat}

theorem allBuild_zero : AllBuild 0 where
  node _ := builds_reject _
  nodeUnless _ _ := builds_reject _
  blockItems := builds_reject _
  looseItems := builds_reject _
  blockEntries := builds_reject _
  flowItems _ := builds_reject _
  flowEntries _ := builds_reject _

/-- One more item. -/
theorem builds_items {item : Build Node} {items : Build (List Node)}
    (builds : Builds Node.Resolved item) (rest_builds : Builds (∀ item ∈ ·, item.Resolved) items) :
    Builds (∀ item ∈ ·, item.Resolved) (do
      let item ← item
      return item :: (← items)) :=
  builds.bind fun _ item_resolved => rest_builds.bind fun _ resolved =>
    builds_pure (List.forall_mem_cons.mpr ⟨item_resolved, resolved⟩)

/-- One more entry, whose key is there. -/
theorem builds_entries {key : Node} {value : Build Node} {entries : Build (List (Node × Node))}
    (key_resolved : key.Resolved) (builds : Builds Node.Resolved value)
    (rest_builds : Builds (∀ entry ∈ ·, entry.1.Resolved ∧ entry.2.Resolved) entries) :
    Builds (∀ entry ∈ ·, entry.1.Resolved ∧ entry.2.Resolved) (do
      let value ← value
      return (key, value) :: (← entries)) :=
  builds.bind fun _ value_resolved => rest_builds.bind fun _ resolved =>
    builds_pure (List.forall_mem_cons.mpr ⟨⟨key_resolved, value_resolved⟩, resolved⟩)

namespace AllBuild

variable (ih : AllBuild fuel)

include ih

theorem succ_nodeUnless (setting : Setting) (ends : List Token) :
    Builds Node.Resolved (Builder.nodeUnless (fuel + 1) setting ends) :=
  (builds_isNext ends).bind fun _ _ => (builds_pure Node.resolved_empty).ite (ih.node setting)

theorem succ_blockItems : Builds (∀ item ∈ ·, item.Resolved) (Builder.blockItems (fuel + 1)) :=
  (builds_accept _).bind fun _ _ => .ite (builds_items (ih.nodeUnless _ _) ih.blockItems) <|
    (builds_accept _).bind fun _ _ => (builds_pure nofun).ite (builds_reject _)

theorem succ_looseItems : Builds (∀ item ∈ ·, item.Resolved) (Builder.looseItems (fuel + 1)) :=
  (builds_accept _).bind fun _ _ => .ite (builds_items (ih.nodeUnless _ _) ih.looseItems)
    (builds_pure nofun)

theorem succ_blockEntries :
    Builds (∀ entry ∈ ·, entry.1.Resolved ∧ entry.2.Resolved)
      (Builder.blockEntries (fuel + 1)) := by
  refine (builds_accept _).bind fun _ _ => .ite ?_ ?_
  · refine (ih.nodeUnless _ _).bind fun key resolved => (builds_accept _).bind fun _ _ => .ite ?_ ?_
    · exact builds_entries resolved (ih.nodeUnless _ _) ih.blockEntries
    · exact builds_entries resolved (builds_pure Node.resolved_empty) ih.blockEntries
  · exact (builds_accept _).bind fun _ _ => (builds_pure nofun).ite (builds_reject _)

/-- A key in brackets is a mapping of its own. -/
theorem builds_pair {key : Node} {value : Build Node} (key_resolved : key.Resolved)
    (builds : Builds Node.Resolved value) :
    Builds (∀ item ∈ ·, item.Resolved) (do
      let value ← value
      return .mapping .mapping [(key, value)] :: (← Builder.flowItems fuel false)) := by
  refine builds.bind fun value value_resolved => (ih.flowItems false).bind fun items resolved =>
    builds_pure (List.forall_mem_cons.mpr ⟨?_, resolved⟩)
  exact .mapping (by simpa using key_resolved) (by simpa using value_resolved)

theorem succ_flowItems (first : Bool) :
    Builds (∀ item ∈ ·, item.Resolved) (Builder.flowItems (fuel + 1) first) := by
  have others : Builds (∀ item ∈ ·, item.Resolved) (do
      if ← accept .key then
        let key ← Builder.nodeUnless fuel .flow [.value, .flowEntry, .flowSequenceEnd]
        let value ←
          if ← accept .value then Builder.nodeUnless fuel .flow [.flowEntry, .flowSequenceEnd]
          else pure .empty
        return .mapping .mapping [(key, value)] :: (← Builder.flowItems fuel false)
      else if ← accept .flowSequenceEnd then return []
      else
        let item ← Builder.node fuel .flow
        return item :: (← Builder.flowItems fuel false)) := by
    refine (builds_accept _).bind fun _ _ => .ite ?_ ?_
    · refine (ih.nodeUnless _ _).bind fun key resolved =>
        (builds_accept _).bind fun _ _ => .ite ?_ ?_
      · exact ih.builds_pair resolved (ih.nodeUnless _ _)
      · exact ih.builds_pair resolved (builds_pure Node.resolved_empty)
    · exact (builds_accept _).bind fun _ _ => (builds_pure nofun).ite
        (builds_items (ih.node .flow) (ih.flowItems false))
  refine (builds_accept _).bind fun _ _ => (builds_pure nofun).ite ?_
  exact .ite ((builds_accept _).bind fun _ _ => .ite (builds_reject _) others) others

theorem succ_flowEntries (first : Bool) :
    Builds (∀ entry ∈ ·, entry.1.Resolved ∧ entry.2.Resolved)
      (Builder.flowEntries (fuel + 1) first) := by
  have others : Builds (∀ entry ∈ ·, entry.1.Resolved ∧ entry.2.Resolved) (do
      if ← accept .key then
        let key ← Builder.nodeUnless fuel .flow [.value, .flowEntry, .flowMappingEnd]
        let value ←
          if ← accept .value then Builder.nodeUnless fuel .flow [.flowEntry, .flowMappingEnd]
          else pure .empty
        return (key, value) :: (← Builder.flowEntries fuel false)
      else if ← accept .flowMappingEnd then return []
      else
        let key ← Builder.node fuel .flow
        return (key, .empty) :: (← Builder.flowEntries fuel false)) := by
    refine (builds_accept _).bind fun _ _ => .ite ?_ ?_
    · refine (ih.nodeUnless _ _).bind fun key resolved =>
        (builds_accept _).bind fun _ _ => .ite ?_ ?_
      · exact builds_entries resolved (ih.nodeUnless _ _) (ih.flowEntries false)
      · exact builds_entries resolved (builds_pure Node.resolved_empty) (ih.flowEntries false)
    · exact (builds_accept _).bind fun _ _ => (builds_pure nofun).ite <|
        (ih.node .flow).bind fun _ resolved =>
          builds_entries resolved (builds_pure Node.resolved_empty) (ih.flowEntries false)
  refine (builds_accept _).bind fun _ _ => (builds_pure nofun).ite ?_
  exact .ite ((builds_accept _).bind fun _ _ => .ite (builds_reject _) others) others

theorem succ_node (setting : Setting) : Builds Node.Resolved (Builder.node (fuel + 1) setting) := by
  refine builds_peek.bind fun next _ => ?_
  split
  · exact builds_skip.bind fun _ _ => builds_aliased _
  refine builds_properties.bind fun properties untagged => builds_peek.bind fun next harmless =>
    (builds_checkAnchor properties).bind fun _ _ => ?_
  have builds_empty : Builds Node.Resolved
      (if (properties.anchor.isSome || properties.tag.isSome) = true then do
        noteAnchor properties (.complete (.scalar (properties.scalarKind true "") ""))
        return .scalar (properties.scalarKind true "") ""
      else reject .expectedNode) :=
    (builds_scalar untagged (by simp [Token.Harmless])).ite (builds_reject _)
  have builds_sequence {items : Build (List Node)}
      (builds : Builds (∀ item ∈ ·, item.Resolved) items) :=
    builds_collection properties false (builds_sequence untagged builds)
  have builds_mapping {entries : Build (List (Node × Node))}
      (builds : Builds (∀ entry ∈ ·, entry.1.Resolved ∧ entry.2.Resolved) entries) :=
    builds_collection properties true (builds_mapping untagged builds)
  split
  · exact (builds_sequence ih.looseItems).ite builds_empty
  · exact builds_skip.bind fun _ _ => builds_scalar untagged (harmless _ rfl)
  · exact builds_skip.bind fun _ _ => builds_sequence (ih.flowItems true)
  · exact builds_skip.bind fun _ _ => builds_mapping (ih.flowEntries true)
  · exact builds_empty.ite (builds_skip.bind fun _ _ => builds_sequence ih.blockItems)
  · exact builds_empty.ite (builds_skip.bind fun _ _ => builds_mapping ih.blockEntries)
  · exact builds_empty

theorem succ : AllBuild (fuel + 1) where
  node := ih.succ_node
  nodeUnless := ih.succ_nodeUnless
  blockItems := ih.succ_blockItems
  looseItems := ih.succ_looseItems
  blockEntries := ih.succ_blockEntries
  flowItems := ih.succ_flowItems
  flowEntries := ih.succ_flowEntries

end AllBuild

theorem allBuild (fuel : Nat) : AllBuild fuel := by
  induction fuel with
  | zero => exact allBuild_zero
  | succ fuel ih => exact ih.succ

/-! ## Documents -/

theorem builds_handles (handles : Builder → List (String × String)) :
    Builds Anything (modify fun builder => { builder with handles := handles builder }) :=
  fun _ clean => .found ⟨trivial, clean.toClean, clean.resolved⟩

theorem builds_directives (fuel versions : Nat) : Builds Anything (directives fuel versions) := by
  induction fuel generalizing versions with
  | zero => exact builds_pure trivial
  | succ fuel ih =>
      refine builds_peek.bind fun next _ => ?_
      split
      · refine builds_skip.bind fun _ _ => ?_
        split
        · exact .ite (builds_reject _) (ih _)
        · exact builds_get.bind fun builder _ => .ite (builds_reject _) <|
            (builds_handles _).bind fun _ _ => ih _
        · exact ih _
      · exact builds_pure trivial

theorem builds_skipEnds (fuel : Nat) : Builds Anything (skipEnds fuel) := by
  induction fuel with
  | zero => exact builds_pure trivial
  | succ fuel ih => exact (builds_accept _).bind fun _ _ => .ite ih (builds_pure trivial)

theorem builds_checkEnd (size : Nat) : Builds Anything (checkEnd size) :=
  (builds_skipEnds size).bind fun _ _ => builds_peek.bind fun _ _ => .ite
    ((builds_handles _).bind fun _ _ => (builds_directives size 0).bind fun _ _ =>
      (builds_accept _).bind fun _ _ => (builds_reject _).ite (builds_reject _))
    (builds_pure trivial)

theorem builds_document : Builds (fun found => ∀ node ∈ found, node.Resolved) document := by
  have finish (size : Nat) {found : Build Node} (builds : Builds Node.Resolved found) :
      Builds (fun found => ∀ node ∈ found, node.Resolved) (do
        let found ← found
        checkEnd size
        return some found) := by
    refine builds.bind fun node resolved => (builds_checkEnd size).bind fun _ _ => builds_pure ?_
    rintro _ ⟨⟩
    exact resolved
  refine builds_get.bind fun start _ => builds_peek.bind fun next _ => ?_
  split
  case h_1 => exact builds_pure nofun
  case h_2 | h_3 =>
    exact (builds_directives _ _).bind fun _ _ => (builds_handles _).bind fun _ _ =>
      (builds_accept _).bind fun _ _ => .ite (builds_reject _) <|
        builds_peek.bind fun _ _ => (finish _ (builds_pure Node.resolved_empty)).ite
          (finish _ ((allBuild _).node .block))
  case h_4 =>
    exact (builds_handles _).bind fun _ _ => finish _ ((allBuild _).node .block)

end Builder

theorem fits_ofTokens {stream : TokenStream} (clean : stream.Clean) :
    Fits (fun found => ∀ node ∈ found, node.Resolved) (Node.ofTokens stream) := by
  have fits := Builder.builds_document { stream with } ⟨clean, nofun⟩
  unfold Node.ofTokens
  cases built : Builder.document.run { stream with } with
  | error fault =>
      rw [built] at fits
      exact fits.error
  | ok found =>
      rw [built] at fits
      exact .found fits.of_ok.1

end OpcachePreload.Yaml
