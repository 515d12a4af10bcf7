import OpcachePreload.DataFile
import OpcachePreload.Proofs.Action.Find
import OpcachePreload.Proofs.Action.Yield
import OpcachePreload.Proofs.Json.Grammar
import OpcachePreload.Proofs.Value.Field
import OpcachePreload.Proofs.Yaml.Document

/-!
# Names in data files

In the mappings of a value that is read from a data file no name comes twice, however deep they
nest. What is loaded from a file depends on its bytes alone.
-/

namespace OpcachePreload

namespace Value

variable {entries : List (Value × Value)} {key value : Value}

/-- A value that is no mapping, or one in which no name comes twice and whose values are of this
kind again. -/
inductive Orderly : Value → Prop where
  | mapping {entries : List (Value × Value)} (distinct : DistinctNames entries)
      (inside : ∀ entry ∈ entries, Orderly entry.2) : Orderly (.mapping entries)
  | other {value : Value} (plain : ∀ entries, value ≠ .mapping entries) : Orderly value

/-- Entries that an orderly mapping may hold. -/
structure OrderlyEntries (entries : List (Value × Value)) : Prop where
  distinct : DistinctNames entries
  inside : ∀ entry ∈ entries, Orderly entry.2

theorem orderlyEntries_nil : OrderlyEntries [] :=
  ⟨distinctNames_nil, by simp⟩

theorem OrderlyEntries.mapping (orderly : OrderlyEntries entries) : Orderly (.mapping entries) :=
  .mapping orderly.distinct orderly.inside

theorem Orderly.ofMapping (orderly : Orderly (.mapping entries)) : OrderlyEntries entries := by
  cases orderly with
  | mapping distinct inside => exact ⟨distinct, inside⟩
  | other plain => exact absurd rfl (plain entries)

theorem OrderlyEntries.assign (orderly : OrderlyEntries entries) (key : Value)
    (value_orderly : Orderly value) : OrderlyEntries (Value.assign key value entries) where
  distinct := orderly.distinct.assign key value
  inside entry present := by
    rcases snd_mem_of_mem_assign present with rfl | old
    · exact value_orderly
    · exact orderly.inside entry old

end Value

open Value (Orderly OrderlyEntries)

/-! ## JSON -/

namespace Json

theorem ne_mapping_of_name? {text rest : List Char} {found : Value}
    (named : name? text = some (found, rest)) (entries : List (Value × Value)) :
    found ≠ .mapping entries := by
  obtain ⟨entry, listed, same⟩ := Option.map_eq_some_iff.mp named
  obtain rfl : entry.2 = found := congrArg Prod.fst same
  have present := List.mem_of_find?_eq_some listed
  simp only [names, List.mem_cons, List.not_mem_nil, or_false] at present
  rcases present with rfl | rfl | rfl | rfl | rfl | rfl <;> simp

theorem ne_mapping_of_number {text rest : List Char} {found : Value}
    (read : number text = .ok (found, rest)) (entries : List (Value × Value)) :
    found ≠ .mapping entries := by
  unfold number at read
  dsimp only at read
  split at read
  all_goals
    split at read
    · cases read
    split at read
    · split at read
      · cases read
      · obtain rfl := congrArg Prod.fst (Except.ok.inj read)
        simp
    · obtain rfl := congrArg Prod.fst (Except.ok.inj read)
      simp

/-- Reading values with some fuel gives orderly ones. -/
def ValuesOrderly (fuel : Nat) : Prop :=
  ∀ text found rest, value fuel text = .ok (found, rest) → Orderly found

/-- Reading members with some fuel keeps the entries before them orderly. -/
def MembersOrderly (fuel : Nat) : Prop :=
  ∀ soFar text entries rest, OrderlyEntries soFar →
    members fuel soFar text = .ok (entries, rest) → OrderlyEntries entries

theorem valuesOrderly_succ {fuel : Nat} (members_orderly : MembersOrderly fuel) :
    ValuesOrderly (fuel + 1) := by
  intro text found rest read
  unfold value at read
  split at read
  · obtain ⟨⟨codes, _⟩, _, given⟩ := bind_eq_ok_iff.mp read
    obtain rfl := congrArg Prod.fst (Except.ok.inj given)
    exact .other (textOfCodes_ne_mapping codes)
  · split at read
    · obtain rfl := congrArg Prod.fst (Except.ok.inj read)
      exact Value.orderlyEntries_nil.mapping
    · obtain ⟨⟨entries, _⟩, inside, given⟩ := bind_eq_ok_iff.mp read
      obtain rfl := congrArg Prod.fst (Except.ok.inj given)
      exact (members_orderly _ _ _ _ Value.orderlyEntries_nil inside).mapping
  · split at read
    · obtain rfl := congrArg Prod.fst (Except.ok.inj read)
      exact .other (by simp)
    · obtain ⟨⟨items, _⟩, _, given⟩ := bind_eq_ok_iff.mp read
      obtain rfl := congrArg Prod.fst (Except.ok.inj given)
      exact .other (by simp)
  · split at read
    · rename_i named
      obtain rfl := Except.ok.inj read
      exact .other (ne_mapping_of_name? named)
    · exact .other (ne_mapping_of_number read)

theorem membersOrderly_succ {fuel : Nat} (values_orderly : ValuesOrderly fuel)
    (members_orderly : MembersOrderly fuel) : MembersOrderly (fuel + 1) := by
  intro soFar text entries rest orderly read
  unfold members at read
  split at read
  · obtain ⟨⟨codes, _⟩, _, read⟩ := bind_eq_ok_iff.mp read
    dsimp only at read
    split at read
    · obtain ⟨⟨item, _⟩, item_read, read⟩ := bind_eq_ok_iff.mp read
      have longer := orderly.assign (textOfCodes codes) (values_orderly _ _ _ item_read)
      dsimp only at read
      split at read
      · obtain rfl := congrArg Prod.fst (Except.ok.inj read)
        exact longer
      · exact members_orderly _ _ _ _ longer read
      · cases read
    · cases read
  · cases read

theorem valuesOrderly_and_membersOrderly (fuel : Nat) :
    ValuesOrderly fuel ∧ MembersOrderly fuel := by
  induction fuel with
  | zero => exact ⟨by simp [ValuesOrderly, value], by simp [MembersOrderly, members]⟩
  | succ fuel ih => exact ⟨valuesOrderly_succ ih.2, membersOrderly_succ ih.1 ih.2⟩

theorem orderly_of_read {text : String} {found : Value} (read : Json.read text = .ok found) :
    Orderly found := by
  have read := mapError_eq_ok_iff.mp read
  unfold document at read
  split at read
  · cases read
  · obtain ⟨⟨inner, rest⟩, value_read, read⟩ := bind_eq_ok_iff.mp read
    dsimp only at read
    split at read
    · obtain rfl := Except.ok.inj read
      exact (valuesOrderly_and_membersOrderly _).1 _ _ _ value_read
    · cases read

end Json

/-! ## YAML -/

namespace Yaml

theorem Outcome.both_eq_ok_iff {α β γ : Type} {combine : α → β → γ} {first : Outcome α}
    {second : Outcome β} {c : γ} :
    Outcome.both combine first second = .ok c ↔
      ∃ a b, first = .ok a ∧ second = .ok b ∧ combine a b = c := by
  rcases first with _ | a <;> rcases second with _ | b <;> simp [Outcome.both]

/-- Entries whose values are orderly where they are constructed. -/
def OrderlyPieces (pieces : List Piece) : Prop :=
  ∀ piece ∈ pieces, ∀ value, piece.value = .ok value → Orderly value

theorem orderlyEntries_of_assignAll {pieces : List Piece} (orderly : OrderlyPieces pieces)
    {soFar : Outcome (List (Value × Value))}
    (soFar_orderly : ∀ entries, soFar = .ok entries → OrderlyEntries entries)
    {entries : List (Value × Value)} (assigned : assignAll pieces soFar = .ok entries) :
    OrderlyEntries entries := by
  induction pieces generalizing soFar with
  | nil => exact soFar_orderly entries assigned
  | cons piece rest ih =>
      refine ih (fun other later => orderly other (List.mem_cons_of_mem _ later)) ?_ assigned
      intro longer both
      obtain ⟨before, entry, before_ok, entry_ok, rfl⟩ := Outcome.both_eq_ok_iff.mp both
      obtain ⟨key, value, _, value_ok, rfl⟩ := Outcome.both_eq_ok_iff.mp entry_ok
      exact (soFar_orderly before before_ok).assign key
        (orderly piece List.mem_cons_self value value_ok)

theorem bind_pure_ne_ok {ε α β : Type} {result : Except ε α} {f : α → β} {b : β}
    (never : ∀ a, f a ≠ b) : (result >>= fun a => pure (f a)) ≠ .ok b := by
  intro made
  obtain ⟨a, _, given⟩ := bind_eq_ok_iff.mp made
  exact never a (Except.ok.inj given)

namespace Scalar

variable (text : String) (entries : List (Value × Value))

theorem bool_ne_mapping : bool text ≠ .ok (.mapping entries) := by
  dsimp only [bool]
  split
  · simp
  · split <;> simp

theorem int_ne_mapping : int text ≠ .ok (.mapping entries) := by
  have never (n : Int) : Value.int n ≠ .mapping entries := nofun
  dsimp only [int]
  split
  · exact nofun
  split
  case h_6 =>
    split <;> exact bind_pure_ne_ok fun size => never _
  all_goals exact bind_pure_ne_ok fun size => never _

theorem float_ne_mapping : float text ≠ .ok (.mapping entries) := by
  have never (x : Float) : Value.float x ≠ .mapping entries := nofun
  dsimp only [float]
  split
  · exact nofun
  split
  · exact nofun
  split
  · exact bind_pure_ne_ok fun size => never _
  split <;> exact bind_pure_ne_ok fun size => never _

theorem bytes_ne_mapping : bytes text ≠ .ok (.mapping entries) := by
  dsimp only [bytes]
  split
  · simp
  · split <;> simp

theorem timestamp_ne_mapping : timestamp text ≠ .ok (.mapping entries) := by
  dsimp only [timestamp]
  split
  · split <;> exact bind_pure_ne_ok (by simp)
  · exact nofun

/-- No scalar is a mapping. -/
theorem value_ne_mapping (tag : Tag) : value tag text ≠ .ok (.mapping entries) := by
  cases tag with
  | bool => exact bool_ne_mapping text entries
  | int => exact int_ne_mapping text entries
  | float => exact float_ne_mapping text entries
  | bytes => exact bytes_ne_mapping text entries
  | timestamp => exact timestamp_ne_mapping text entries
  | _ => simp [value]

end Scalar

theorem mismatch_ne_mapping (depth : Nat) (tag : Tag) (text : Except Fault String)
    (entries : List (Value × Value)) : mismatch depth tag text ≠ .ok (.mapping entries) := by
  intro read
  cases tag with
  | null => cases text <;> cases read
  | merge | value | unknown _ =>
      unfold mismatch at read
      exact Scalar.value_ne_mapping _ _ _ (mapError_eq_ok_iff.mp read)
  | timestamp => cases text <;> cases read
  | bool | int | float | text | bytes =>
      unfold mismatch at read
      obtain ⟨found, _, given⟩ := bind_eq_ok_iff.mp (mapError_eq_ok_iff.mp read)
      exact Scalar.value_ne_mapping _ _ _ given
  | sequence | mapping | set | orderedMapping | pairs => cases read

theorem OrderlyPieces.append {first second : List Piece} (first_orderly : OrderlyPieces first)
    (second_orderly : OrderlyPieces second) : OrderlyPieces (first ++ second) := by
  intro piece present
  rcases List.mem_append.mp present with earlier | later
  · exact first_orderly piece earlier
  · exact second_orderly piece later

-- By the nesting of nodes. Only what mappings hold is followed: any other value is orderly as it
-- is.
mutual

theorem orderly_of_valueAt (depth : Nat) (node : Node) (found : Value)
    (read : valueAt depth node = .ok found) : Orderly found := by
  match node with
  | .scalar tag text =>
      refine .other fun entries mapping => ?_
      subst mapping
      unfold valueAt at read
      cases tag with
      | sequence | mapping | set | orderedMapping | pairs => cases read
      | _ => exact Scalar.value_ne_mapping _ _ _ (mapError_eq_ok_iff.mp read)
  | .sequence tag items =>
      refine .other fun entries mapping => ?_
      subst mapping
      unfold valueAt at read
      split at read
      case h_4 => exact mismatch_ne_mapping _ _ _ _ read
      all_goals
        obtain ⟨_, _, given⟩ := map_eq_ok_iff.mp read
        cases given
  | .mapping tag entries =>
      unfold valueAt at read
      split at read
      · obtain ⟨made, inside, rfl⟩ := map_eq_ok_iff.mp read
        unfold entriesAt at inside
        obtain ⟨pieces, pieces_read, assigned⟩ := bind_eq_ok_iff.mp inside
        have orderly :=
          orderlyPieces_of_piecesAt _ entries pieces (mapError_eq_ok_iff.mp pieces_read)
        refine (orderlyEntries_of_assignAll orderly ?_ assigned).mapping
        rintro _ ⟨⟩
        exact Value.orderlyEntries_nil
      · obtain ⟨_, _, rfl⟩ := map_eq_ok_iff.mp read
        exact .other nofun
      · exact .other fun entries mapping => mismatch_ne_mapping _ _ _ _ (mapping ▸ read)
  | .cycle keyed =>
      unfold valueAt at read
      obtain rfl := Except.ok.inj read
      exact .other nofun

theorem orderlyPieces_of_piecesAt (depth : Nat) (entries : List (Node × Node)) (pieces : Pieces)
    (read : piecesAt depth entries = .ok pieces) : OrderlyPieces pieces.all := by
  match entries with
  | [] =>
      unfold piecesAt at read
      obtain rfl := Except.ok.inj read
      exact fun _ present => nomatch present
  | (key, value) :: rest =>
      unfold piecesAt at read
      split at read
      · obtain ⟨merged, merged_read, read⟩ := bind_eq_ok_iff.mp read
        obtain ⟨others, others_read, read⟩ := bind_eq_ok_iff.mp read
        obtain rfl := Except.ok.inj read
        have merged_orderly := orderlyPieces_of_mergedAt depth value merged merged_read
        have others_orderly := orderlyPieces_of_piecesAt depth rest others others_read
        intro piece present
        rw [Pieces.all, List.append_assoc] at present
        exact merged_orderly.append others_orderly piece present
      · obtain ⟨others, others_read, read⟩ := bind_eq_ok_iff.mp read
        obtain rfl := Except.ok.inj read
        have others_orderly := orderlyPieces_of_piecesAt depth rest others others_read
        intro piece present found constructed
        rcases List.mem_append.mp present with before | own
        · exact others_orderly piece (List.mem_append_left _ before) found constructed
        · rcases List.mem_cons.mp own with rfl | later
          · exact orderly_of_valueAt depth value found constructed
          · exact others_orderly piece (List.mem_append_right _ later) found constructed

theorem orderlyPieces_of_mergedAt (depth : Nat) (node : Node) (pieces : List Piece)
    (read : mergedAt depth node = .ok pieces) : OrderlyPieces pieces := by
  match node with
  | .mapping tag entries =>
      unfold mergedAt at read
      obtain ⟨inside, inside_read, read⟩ := bind_eq_ok_iff.mp read
      obtain rfl := Except.ok.inj read
      exact orderlyPieces_of_piecesAt depth entries inside inside_read
  | .sequence tag items =>
      unfold mergedAt at read
      exact orderlyPieces_of_mergedAllAt depth items pieces read
  | .cycle true =>
      unfold mergedAt at read
      obtain rfl := Except.ok.inj read
      exact fun _ present => nomatch present
  | .scalar tag text | .cycle false =>
      unfold mergedAt at read
      cases read

theorem orderlyPieces_of_mergedAllAt (depth : Nat) (items : List Node) (pieces : List Piece)
    (read : mergedAllAt depth items = .ok pieces) : OrderlyPieces pieces := by
  match items with
  | [] =>
      unfold mergedAllAt at read
      obtain rfl := Except.ok.inj read
      exact fun _ present => nomatch present
  | .mapping tag entries :: rest =>
      unfold mergedAllAt at read
      obtain ⟨first, first_read, read⟩ := bind_eq_ok_iff.mp read
      obtain ⟨others, others_read, read⟩ := bind_eq_ok_iff.mp read
      obtain rfl := Except.ok.inj read
      exact (orderlyPieces_of_mergedAllAt depth rest others others_read).append
        (orderlyPieces_of_piecesAt depth entries first first_read)
  | .cycle true :: rest =>
      unfold mergedAllAt at read
      exact orderlyPieces_of_mergedAllAt depth rest pieces read
  | .scalar tag text :: rest | .sequence tag items :: rest | .cycle false :: rest =>
      unfold mergedAllAt at read
      cases read

end

theorem orderly_of_read {text : String} {found : Value} (read : Yaml.read text = .ok found) :
    Orderly found := by
  unfold Yaml.read at read
  obtain ⟨node?, _, read⟩ := bind_eq_ok_iff.mp read
  cases node? with
  | none =>
      obtain rfl := Except.ok.inj read
      exact .other nofun
  | some node => exact orderly_of_valueAt 0 node found (mapError_eq_ok_iff.mp read)

/-- A word with the tag of truth values is read as none. -/
theorem read_taggedWord : read "!!bool maybe" = .error (.notABoolean "maybe") := by
  have split : tokens "!!bool maybe".toList =
      { tokens := [.tag (some "!!") "bool", .scalar "maybe" true] } := by
    decide +kernel
  have built : Node.ofTokens { tokens := [.tag (some "!!") "bool", .scalar "maybe" true] } =
      .ok (some (.scalar .bool "maybe")) := rfl
  rw [read, split]
  simp only [bind, Except.bind, built]
  rw [valueAt]
  · rfl
  all_goals simp

/-- A mapping whose key is a number. -/
theorem read_numberedEntry : read "1: x" = .ok (.mapping [(.int 1, .text "x")]) := by
  have split : tokens "1: x".toList =
      { tokens := [.blockMappingStart, .key, .scalar "1" true, .value, .scalar "x" true,
        .blockEnd] } := by
    decide +kernel
  have built : Node.ofTokens { tokens := [.blockMappingStart, .key, .scalar "1" true, .value,
      .scalar "x" true, .blockEnd] } =
      .ok (some (.mapping .mapping [(.scalar .int "1", .scalar .text "x")])) := rfl
  rw [read, split]
  simp only [bind, Except.bind, built]
  simp [valueAt, entriesAt, piecesAt, Node.tag, bind, Except.bind, pure, Except.pure]
  rfl

end Yaml

namespace DataFile

/-- In a value that is read from a text of any format no name comes twice. -/
theorem orderly_of_valueOf {format : Format} {text : String} {value : Value}
    (read : valueOf format text = .ok value) : Orderly value := by
  unfold valueOf at read
  split at read
  · obtain rfl := Except.ok.inj read
    exact Value.orderlyEntries_nil.mapping
  · cases format with
    | yaml => exact Yaml.orderly_of_read (mapError_eq_ok_iff.mp read)
    | json => exact Json.orderly_of_read (mapError_eq_ok_iff.mp read)

/-! ## Loading -/

variable {surroundings : Surroundings} {files : FileTree} {path : Path} {value : Value}

open OpcachePreload.Action

/-- What is loaded is what the text of the file means. -/
theorem exists_text_of_load (loads : Yields surroundings files (load path) value) :
    ∃ bytes text format, files.read surroundings.directory path = .ok bytes ∧
      textOfBytes bytes = .ok text ∧ format? path = some format ∧
        valueOf format text = .ok value := by
  obtain ⟨found, _, loads⟩ := loads.parts (observes_find path).keeps_files
  have complains (failure : Path → Failure) :
      ¬ Yields surroundings files (absolute path >>= fun whole =>
        Action.fail (failure whole)) value := by
    intro fails
    obtain ⟨_, _, fails⟩ := fails.parts (observes_absolute path).keeps_files
    exact not_yields_fail fails
  rcases found with _ | _ | _
  · exact absurd loads (complains _)
  · exact absurd loads (complains _)
  · dsimp only at loads
    split at loads
    · exact absurd loads not_yields_fail
    · rename_i format known
      obtain ⟨text, reads, loads⟩ := loads.parts (observes_readText path).keeps_files
      obtain ⟨bytes, reads_bytes, reads⟩ := reads.parts (observes_readBytes path).keeps_files
      exact ⟨bytes, text, format, reads_bytes.of_readBytes, reads.of_ofExcept, known,
        loads.of_ofExcept⟩

theorem orderly_of_load (loads : Yields surroundings files (load path) value) : Orderly value := by
  obtain ⟨_, _, _, _, _, _, read⟩ := exists_text_of_load loads
  exact orderly_of_valueOf read

/-- What is loaded depends on the bytes of the file alone. -/
theorem load_unique {surroundings' : Surroundings} {files' : FileTree} {value' : Value}
    (loads : Yields surroundings files (load path) value)
    (loads' : Yields surroundings' files' (load path) value')
    (same : files'.read surroundings'.directory path = files.read surroundings.directory path) :
    value' = value := by
  obtain ⟨bytes, text, format, bytes_read, text_read, known, read⟩ := exists_text_of_load loads
  obtain ⟨bytes', text', format', bytes_read', text_read', known', read'⟩ :=
    exists_text_of_load loads'
  obtain rfl : bytes' = bytes := Except.ok.inj (bytes_read'.symm.trans (same.trans bytes_read))
  obtain rfl : text' = text := Except.ok.inj (text_read'.symm.trans text_read)
  obtain rfl : format' = format := Option.some.inj (known'.symm.trans known)
  exact Except.ok.inj (read'.symm.trans read)

/-- The value that the bytes of a file are. -/
def ofBytes (format : Format) (bytes : List UInt8) : Except ContentFault Value :=
  (textOfBytes bytes).mapError .undecodable >>= valueOf format

/-- Bytes of a text in YAML with a value that cannot be made, for a cause that does not count as one
of the content. There is such a value in marked texts only, or it is a number whose parts weigh too
much. -/
structure Unconstructed (bytes : List UInt8) (text : String) (fault : Yaml.Fault) : Prop where
  decoded : textOfBytes bytes = .ok text
  faulty : valueOf .yaml text = .error (.yaml fault)
  uncaught : Failure.isYamlContent fault = false
  marked : Yaml.Marked text.toList ∨ fault = .overweight

theorem Unconstructed.ofBytes_eq {bytes : List UInt8} {text : String} {fault : Yaml.Fault}
    (unconstructed : Unconstructed bytes text fault) :
    ofBytes .yaml bytes = .error (.yaml fault) := by
  rw [ofBytes, unconstructed.decoded]
  exact unconstructed.faulty

/-- A word with the tag of truth values. -/
theorem unconstructed_taggedWord :
    Unconstructed (Text.Utf8.encode "!!bool maybe".toList) "!!bool maybe"
      (.notABoolean "maybe") where
  decoded := textOfBytes_encode (by decide)
  faulty := by
    rw [valueOf, if_neg (by decide), parse, Yaml.read_taggedWord, mapError_error]
  uncaught := rfl
  marked := .inl (.inl (by decide))

theorem marked_of_valueOf {text : String} {fault : Yaml.Fault}
    (faulty : valueOf .yaml text = .error (.yaml fault))
    (uncaught : Failure.isYamlContent fault = false) :
    Yaml.Marked text.toList ∨ fault = .overweight := by
  unfold valueOf at faulty
  split at faulty
  · cases faulty
  · obtain ⟨_, failed, same⟩ := mapError_eq_error_iff.mp faulty
    obtain rfl := ContentFault.yaml.inj same
    exact Yaml.marked_of_read failed uncaught

/-- A fault that does not count as one of the content is one of a YAML text. -/
theorem exists_unconstructed {format : Format} {bytes : List UInt8} {fault : ContentFault}
    (failed : ofBytes format bytes = .error fault) (uncaught : ¬Failure.isContent fault = true) :
    ∃ text cause, format = .yaml ∧ fault = .yaml cause ∧ Unconstructed bytes text cause := by
  rcases bind_eq_error_iff.mp failed with no_text | ⟨text, decoded, faulty⟩
  · obtain ⟨malformed, _, rfl⟩ := mapError_eq_error_iff.mp no_text
    exact absurd rfl uncaught
  · cases format with
    | yaml =>
        cases fault with
        | yaml cause =>
            have uncaught := eq_false_of_ne_true uncaught
            exact ⟨text, cause, rfl, rfl, mapError_eq_ok_iff.mp decoded, faulty, uncaught,
              marked_of_valueOf faulty uncaught⟩
        | undecodable malformed => exact absurd rfl uncaught
        | json cause => exact absurd rfl uncaught
    | json =>
        unfold valueOf parse at faulty
        split at faulty
        · cases faulty
        · obtain ⟨cause, _, rfl⟩ := mapError_eq_error_iff.mp faulty
          exact absurd rfl uncaught

/-- The value that the bytes of a file of a format are, if its suffix says one. -/
def ofFormat (path : Path) (bytes : List UInt8) : Option Format → Except Failure Value
  | none => .error (.unknownFormat path.name)
  | some format => (ofBytes format bytes).mapError .content

/-- A file that can be read is loaded as the value of its bytes. -/
theorem perform_load_of_read {session : Session} {bytes : List UInt8}
    (held : session.files.read surroundings.directory path = .ok bytes) :
    (load path).perform surroundings session = (ofFormat path bytes (format? path), session) := by
  simp only [load, perform_bind, perform_find_of_read held]
  cases format? path with
  | none => rfl
  | some format =>
      simp only [perform_bind, perform_readText_of_read held, ofFormat, ofBytes]
      cases textOfBytes bytes with
      | error malformed => rfl
      | ok text => exact perform_ofExcept _ _ _ _

/-- What comes of a data file, whatever is there. -/
def read (files : FileTree) (directory : Location) (path : Path) : Except Failure Value :=
  match files.probe directory path with
  | .error fault => .error (.unusablePath fault (toString path))
  | .ok none => .error (.dataFileMissing (⟨.slash, directory⟩ / path))
  | .ok (some .directory) => .error (.dataFileIsDirectory (⟨.slash, directory⟩ / path))
  | .ok (some (.file bytes)) => ofFormat path bytes (format? path)

theorem perform_load (path : Path) (surroundings : Surroundings) (session : Session) :
    (load path).perform surroundings session =
      (read session.files surroundings.directory path, session) := by
  unfold read
  cases probed : session.files.probe surroundings.directory path with
  | error fault => simp only [load, find, perform_bind, perform_ask, probed, mapError_error]
  | ok found =>
      rcases found with _ | _ | bytes
      · simp only [load, find, perform_bind, perform_ask, probed, mapError_ok, perform_absolute,
          perform_fail]
      · simp only [load, find, perform_bind, perform_ask, probed, mapError_ok, perform_absolute,
          perform_fail]
      · exact perform_load_of_read (FileTree.read_of_probe probed)

end DataFile

end OpcachePreload
