import OpcachePreload.Proofs.Text.Run
import OpcachePreload.Text.Line

/-!
# Texts that agree in ASCII

What is left of a text when nothing is known of its characters beyond ASCII but where they stand: a
mark in the place of each run of them. A reader that takes ASCII characters only, and passes over
the others without telling them apart, finds the same in a text and in what is left of it.
-/

namespace OpcachePreload.Text

/-- An ASCII character. -/
def isAscii (c : Char) : Bool := c.toNat < 0x80

/-- What stands for characters beyond ASCII. -/
def mark : Char := Char.ofNat 0xfffd

/-- A text with a mark in the place of each run of characters beyond ASCII, and with none for a run
at its front that has begun before. -/
def blurFrom (inside : Bool) : List Char → List Char
  | [] => []
  | c :: rest =>
    if isAscii c then c :: blurFrom false rest
    else if inside then blurFrom true rest
    else mark :: blurFrom true rest

/-- A text with a mark in the place of each run of characters beyond ASCII. -/
def blur (text : List Char) : List Char := blurFrom false text

variable {inside : Bool} {c : Char} {rest text front : List Char} {kind : Char → Bool}

theorem isAscii_mark : isAscii mark = false := by
  decide

theorem blurFrom_cons_of_ascii (ascii : isAscii c = true) :
    blurFrom inside (c :: rest) = c :: blur rest := by
  rw [blurFrom, if_pos ascii, blur]

theorem blurFrom_true_cons (foreign : isAscii c = false) :
    blurFrom true (c :: rest) = blurFrom true rest := by
  simp [blurFrom, foreign]

@[simp]
theorem blur_cons_of_ascii (ascii : isAscii c = true) : blur (c :: rest) = c :: blur rest :=
  blurFrom_cons_of_ascii ascii

theorem blur_cons_of_foreign (foreign : isAscii c = false) :
    blur (c :: rest) = mark :: blurFrom true rest := by
  simp [blur, blurFrom, foreign]

/-- Which character beyond ASCII it is makes no difference. -/
theorem blurFrom_cons_congr {d : Char} {rest' : List Char} (foreign : isAscii c = false)
    (foreign' : isAscii d = false) (same : blurFrom true rest = blurFrom true rest') :
    blurFrom inside (c :: rest) = blurFrom inside (d :: rest') := by
  cases inside with
  | true => rw [blurFrom_true_cons foreign, blurFrom_true_cons foreign', same]
  | false =>
      rw [← blur, ← blur, blur_cons_of_foreign foreign, blur_cons_of_foreign foreign', same]

/-- What passes over a character beyond ASCII does so over a run of them. -/
theorem blurFrom_cons_of_passes {α : Type} {read onward : List Char → α}
    (passes : ∀ c rest, isAscii c = false → read (c :: rest) = onward rest)
    (begun : inside = true → read = onward) (foreign : isAscii c = false) :
    read (blurFrom inside (c :: rest)) = onward (blurFrom true rest) := by
  cases inside with
  | true => rw [blurFrom_true_cons foreign, begun rfl]
  | false => rw [← blur, blur_cons_of_foreign foreign, passes mark _ isAscii_mark]

/-! ## Cutting off what is known -/

/-- No ASCII text stands where another character does. -/
theorem dropPrefix?_of_foreign (ascii : front.head?.any isAscii = true)
    (foreign : isAscii c = false) : (c :: rest).dropPrefix? front = none := by
  cases front with
  | nil => cases ascii
  | cons d front =>
      have differs : (c == d) = false := by
        rw [beq_eq_false_iff_ne]
        rintro rfl
        rw [List.head?_cons, Option.any_some, foreign] at ascii
        cases ascii
      rw [List.dropPrefix?, differs]
      rfl

/-- An ASCII text stands at the front of a text if it does so in what is left of that. -/
theorem dropPrefix?_blur (ascii : front.all isAscii = true) :
    (blur text).dropPrefix? front = (text.dropPrefix? front).map blur := by
  induction front generalizing text with
  | nil => rw [List.dropPrefix?_nil, List.dropPrefix?_nil, Option.map_some]
  | cons d front ih =>
      obtain ⟨first_ascii, others_ascii⟩ := Bool.and_eq_true_iff.mp ascii
      cases text with
      | nil => rfl
      | cons c rest =>
          cases known : isAscii c with
          | true =>
              rw [blur_cons_of_ascii known, List.dropPrefix?, List.dropPrefix?]
              split
              · exact ih others_ascii
              · rfl
          | false =>
              have first_ascii : (d :: front).head?.any isAscii = true := first_ascii
              rw [blur_cons_of_foreign known, dropPrefix?_of_foreign first_ascii isAscii_mark,
                dropPrefix?_of_foreign first_ascii known]
              rfl

/-- Characters of a kind are passed over, up to an ASCII character, if all others are of the kind.
-/
theorem dropWhile_blurFrom (passes : ∀ c, isAscii c = false → kind c = true) :
    (blurFrom inside text).dropWhile kind = blur (text.dropWhile kind) := by
  induction text generalizing inside with
  | nil => rfl
  | cons c rest ih =>
      cases known : isAscii c with
      | true =>
          rw [blurFrom_cons_of_ascii known, List.dropWhile_cons, List.dropWhile_cons]
          split
          · exact ih
          · exact (blur_cons_of_ascii known).symm
      | false =>
          rw [List.dropWhile_cons_of_pos (passes c known)]
          cases inside with
          | true =>
              rw [blurFrom_true_cons known]
              exact ih
          | false =>
              rw [← blur, blur_cons_of_foreign known,
                List.dropWhile_cons_of_pos (passes mark isAscii_mark)]
              exact ih

section

variable (only : ∀ c, kind c = true → isAscii c = true)

include only

theorem kind_of_foreign (foreign : isAscii c = false) : kind c = false := by
  rw [← Bool.not_eq_true]
  intro holds
  rw [only c holds] at foreign
  cases foreign

theorem takeWhile_blur : (blur text).takeWhile kind = text.takeWhile kind := by
  induction text with
  | nil => rfl
  | cons c rest ih =>
      cases known : isAscii c with
      | true => rw [blur_cons_of_ascii known, List.takeWhile_cons, List.takeWhile_cons, ih]
      | false =>
          simp [blur_cons_of_foreign known, kind_of_foreign only known,
            kind_of_foreign only isAscii_mark]

theorem dropWhile_blur : (blur text).dropWhile kind = blur (text.dropWhile kind) := by
  induction text with
  | nil => rfl
  | cons c rest ih =>
      cases known : isAscii c with
      | true =>
          rw [blur_cons_of_ascii known, List.dropWhile_cons, List.dropWhile_cons]
          split
          · exact ih
          · exact (blur_cons_of_ascii known).symm
      | false =>
          simp [blur_cons_of_foreign known, kind_of_foreign only known,
            kind_of_foreign only isAscii_mark]

theorem head?_any_blur : (blur text).head?.any kind = text.head?.any kind := by
  cases text with
  | nil => rfl
  | cons c rest =>
      cases known : isAscii c with
      | true => rw [blur_cons_of_ascii known, List.head?_cons, List.head?_cons]
      | false =>
          simp [blur_cons_of_foreign known, kind_of_foreign only known,
            kind_of_foreign only isAscii_mark]

/-- A run of ASCII characters is the same in what is left of a text. -/
theorem cutRun_blur :
    cutRun kind (blur text) = (cutRun kind text).map fun (run, rest) => (run, blur rest) := by
  unfold cutRun
  rw [head?_any_blur only, takeWhile_blur only, dropWhile_blur only]
  split <;> rfl

end

/-! ## Runs without characters beyond ASCII -/

/-- Whether the ASCII characters of a kind at the front of a text end before an ASCII character, or
with the text. -/
def endsPlainly (kind : Char → Bool) (text : List Char) : Bool :=
  (text.dropWhile fun c => isAscii c && kind c).head?.all isAscii

theorem isAscii_of_and (c : Char) (holds : (isAscii c && kind c) = true) : isAscii c = true :=
  (Bool.and_eq_true_iff.mp holds).1

theorem endsPlainly_blur : endsPlainly kind (blur text) = endsPlainly kind text := by
  rw [endsPlainly, endsPlainly, dropWhile_blur isAscii_of_and]
  cases text.dropWhile fun c => isAscii c && kind c with
  | nil => rfl
  | cons c rest =>
      cases known : isAscii c with
      | true => rw [blur_cons_of_ascii known, List.head?_cons, List.head?_cons]
      | false => simp [blur_cons_of_foreign known, known, isAscii_mark]

/-- A run that ends plainly is one of ASCII characters. -/
theorem cutRun_of_endsPlainly (plain : endsPlainly kind text = true) :
    cutRun kind text = cutRun (fun c => isAscii c && kind c) text := by
  cases cut : cutRun (fun c => isAscii c && kind c) text with
  | some found =>
      rcases found with ⟨run, rest⟩
      obtain ⟨rfl, maximal⟩ := cutRun_eq_some_iff.mp cut
      rw [endsPlainly, List.dropWhile_append_of_pos maximal.inside,
        dropWhile_of_ends maximal.ends] at plain
      apply MaximalRun.cutRun_eq
      constructor
      · exact ⟨maximal.nonempty, fun c inside =>
          (Bool.and_eq_true_iff.mp (maximal.inside c inside)).2⟩
      · intro c first
        have outside := maximal.ends c first
        rw [Option.mem_def.mp first, Option.all_some] at plain
        rwa [plain, Bool.true_and] at outside
  | none =>
      cases text with
      | nil => rfl
      | cons c rest =>
          have outside : (isAscii c && kind c) = false := by
            rw [← Bool.not_eq_true]
            intro holds
            rw [cutRun, List.head?_cons, Option.any_some, if_pos holds] at cut
            cases cut
          have known : isAscii c = true := by
            rwa [endsPlainly, List.dropWhile_cons_of_neg (by simp [outside])] at plain
          rw [known, Bool.true_and] at outside
          rw [cutRun, List.head?_cons, Option.any_some, if_neg (by simp [outside])]

/-- Such a run is the same in what is left of a text. -/
theorem cutRun_blur_of_endsPlainly (plain : endsPlainly kind text = true) :
    cutRun kind (blur text) = (cutRun kind text).map fun (run, rest) => (run, blur rest) := by
  rw [cutRun_of_endsPlainly plain, cutRun_of_endsPlainly (endsPlainly_blur.trans plain)]
  exact cutRun_blur isAscii_of_and

/-! ## Line ends -/

theorem unifyNewlines_cons (other : ∀ rest', c = '\r' → rest ≠ '\n' :: rest') :
    unifyNewlines (c :: rest) = (if c = '\r' then '\n' else c) :: unifyNewlines rest := by
  rw [unifyNewlines]
  exact other

/-- Line ends are ASCII, so it makes no difference when they are unified. -/
theorem blurFrom_unifyNewlines :
    blurFrom inside (unifyNewlines text) = unifyNewlines (blurFrom inside text) := by
  fun_induction unifyNewlines text generalizing inside with
  | case1 => rfl
  | case2 rest ih =>
      rw [blurFrom_cons_of_ascii (by decide), blurFrom_cons_of_ascii (by decide),
        blur_cons_of_ascii (by decide), unifyNewlines, blur, ih, blur]
  | case3 c rest other ih =>
      cases known : isAscii c with
      | true =>
          have unified : isAscii (if c = '\r' then '\n' else c) = true := by
            split
            · decide
            · exact known
          rw [blurFrom_cons_of_ascii unified, blurFrom_cons_of_ascii known, blur, ih,
            unifyNewlines_cons]
          · rfl
          · intro rest' return_first feed_first
            rcases rest with _ | ⟨d, rest⟩
            · cases feed_first
            · cases known_next : isAscii d with
              | true =>
                  rw [blur_cons_of_ascii known_next] at feed_first
                  obtain ⟨rfl, _⟩ := List.cons.inj feed_first
                  exact other rest return_first rfl
              | false =>
                  rw [blur_cons_of_foreign known_next] at feed_first
                  have mark_first := (List.cons.inj feed_first).1
                  revert mark_first
                  decide
      | false =>
          have other_end {d : Char} (foreign : isAscii d = false) : d ≠ '\r' := by
            rintro rfl
            revert foreign
            decide
          rw [if_neg (other_end known)]
          cases inside with
          | true => rw [blurFrom_true_cons known, blurFrom_true_cons known, ih]
          | false =>
              rw [← blur, ← blur, blur_cons_of_foreign known, blur_cons_of_foreign known, ih,
                unifyNewlines_cons, if_neg (other_end isAscii_mark)]
              rintro rest' return_first
              exact absurd return_first (other_end isAscii_mark)

end OpcachePreload.Text
