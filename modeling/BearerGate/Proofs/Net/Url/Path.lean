import BearerGate.Net.Url.Path
import BearerGate.Proofs.Net.Percent
import BearerGate.Proofs.Text.Split
import Mathlib.Data.List.Infix
import Mathlib.Data.List.Induction

/-!
# Paths are read as they are written

The segments that are kept of a path are settled (`UrlPath.Settled`): nothing in them is left to
encode, and none of them means a directory. So a path that has been written is read segment by
segment as it was (`UrlPath.ofText_chars`), and so is the path of a file, unless its first segment
begins with a drive and no slash tells that it does not (`UrlPath.ofFileText_dropSlash`).
-/

namespace BearerGate.UrlPath

open BearerGate.Text (lowerAscii)

/-! ## Settled segments -/

/-- A segment in which nothing is to be encoded or to be taken apart. -/
structure Encoded (special : Bool) (name : String) : Prop where
  free : ∀ c ∈ name.toList, Percent.inPath c = false
  whole : ∀ c ∈ name.toList, isSlash special c = false

/-- Whether a segment means a directory. -/
def isDots (name : String) : Bool :=
  isSingleDot name.toList || isDoubleDot name.toList

/-- A segment in which nothing is to be encoded, and that is not to be followed. -/
structure Settled (special : Bool) (name : String) : Prop extends Encoded special name where
  plain : isDots name = false

/-- The forms of the segments that mean a directory, in lower case. -/
def dotForms : List (List Char) :=
  [['.'], ['%', '2', 'e'], ['.', '.'], ['.', '%', '2', 'e'], ['%', '2', 'e', '.'],
    ['%', '2', 'e', '%', '2', 'e']]

theorem mem_dotForms_iff {segment : List Char} :
    segment.map lowerAscii ∈ dotForms ↔
      isSingleDot segment = true ∨ isDoubleDot segment = true := by
  unfold isSingleDot isDoubleDot Text.lowerText
  rw [String.toList_ofList]
  generalize segment.map lowerAscii = lowered
  simp [dotForms, ← String.toList_inj]
  grind

/-- Whether a text begins with an encoded byte that is no point. -/
def beginsOtherwise : List Char → Bool
  | '%' :: high :: low :: _ => high ≠ '2' || low ≠ 'e'
  | _ => false

theorem digits_of_mem_dotForms {front back : List Char} {high low : Char}
    (dots : front ++ '%' :: high :: low :: back ∈ dotForms) : high = '2' ∧ low = 'e' := by
  have points : ∀ form ∈ dotForms, ∀ tail ∈ form.tails, beginsOtherwise tail = false := by decide
  have here := points _ dots _ ((List.mem_tails _ _).mpr (List.suffix_append front _))
  simpa [beginsOtherwise] using here

theorem byte_of_digits : ∀ high < 16, ∀ low < 16,
    lowerAscii (Nat.digitChar high).toUpper = '2' →
      lowerAscii (Nat.digitChar low).toUpper = 'e' → high * 16 + low = 0x2E := by
  decide +kernel

/-- A segment that means no directory does not come to mean one when it is encoded. -/
theorem not_mem_dotForms_encode {segment : List Char}
    (plain : segment.map lowerAscii ∉ dotForms) :
    (Percent.encode Percent.inPath segment).map lowerAscii ∉ dotForms := by
  by_cases same : Percent.encode Percent.inPath segment = segment
  · rwa [same]
  · intro dots
    obtain ⟨c, -, encoded, b, byte, front, back, split⟩ := Percent.exists_of_encode_ne same
    have bound := b.toNat_lt
    rw [split, List.map_append, List.map_append, List.append_assoc] at dots
    obtain ⟨high, low⟩ := digits_of_mem_dotForms dots
    have point := byte_of_digits (b.toNat / 16) (by omega) (b.toNat % 16) (by omega) high low
    have value : b.toNat = 0x2E := by omega
    rw [Percent.eq_of_mem_encodeChar byte (by omega), value] at encoded
    cases encoded

theorem isSlash_byteChars (special : Bool) :
    ∀ c ∈ Percent.byteChars, isSlash special c = false := by
  have signs : ∀ special, (Percent.byteChars.all fun c => isSlash special c = false) = true := by
    decide
  exact List.all_iff_forall_prop.mp (signs special)

theorem encoded_encode {special : Bool} {segment : List Char}
    (whole : ∀ c ∈ segment, isSlash special c = false) :
    Encoded special (String.ofList (Percent.encode Percent.inPath segment)) := by
  constructor
  · rw [String.toList_ofList]
    exact fun c found => Percent.set_of_mem_encode Percent.inPath_spares found
  · rw [String.toList_ofList]
    intro c found
    rcases Percent.mem_encode found with ⟨member, -⟩ | byte
    · exact whole c member
    · exact isSlash_byteChars special c byte

theorem settled_encode {special : Bool} {segment : List Char}
    (whole : ∀ c ∈ segment, isSlash special c = false) (single : isSingleDot segment = false)
    (double : isDoubleDot segment = false) :
    Settled special (String.ofList (Percent.encode Percent.inPath segment)) := by
  have plain : segment.map lowerAscii ∉ dotForms := by
    rw [mem_dotForms_iff, single, double]
    simp
  have dots := not_mem_dotForms_encode plain
  rw [mem_dotForms_iff, not_or, Bool.not_eq_true, Bool.not_eq_true] at dots
  refine ⟨encoded_encode whole, ?_⟩
  rw [isDots, String.toList_ofList, dots.1, dots.2]
  rfl

theorem encoded_empty (special : Bool) : Encoded special "" :=
  ⟨fun _ absent => absurd absent List.not_mem_nil, fun _ absent => absurd absent List.not_mem_nil⟩

theorem settled_empty (special : Bool) : Settled special "" :=
  ⟨encoded_empty special, by decide⟩

/-! ## Following -/

namespace Walk

variable {special : Bool} {walk : Walk} {segment : List Char}

/-- The end of a path that ends in dots is a slash. -/
def arrive (walk : Walk) (isLast : Bool) : Walk :=
  if isLast then walk.down [] else walk

theorem step_eq (walk : Walk) (isLast : Bool) (segment : List Char) :
    walk.step isLast segment =
      if isDoubleDot segment then walk.up.arrive isLast
      else if isSingleDot segment then walk.arrive isLast
      else walk.down segment :=
  rfl

section Names

variable {motive : String → Prop} (names : ∀ name ∈ walk.passed, motive name)

include names

theorem forall_up : ∀ name ∈ walk.up.passed, motive name := by
  unfold Walk.up
  split
  · exact names
  · next last rest passed =>
    split
    · exact names
    · intro name member
      exact names name (passed ▸ List.mem_cons_of_mem last member)

theorem forall_arrive (empty : motive "") (isLast : Bool) :
    ∀ name ∈ (walk.arrive isLast).passed, motive name := by
  unfold Walk.arrive
  split
  · exact List.forall_mem_cons.mpr ⟨empty, names⟩
  · exact names

/-- A step adds a segment that is encoded, if it adds any. -/
theorem forall_step (empty : motive "")
    (down : isSingleDot segment = false → isDoubleDot segment = false →
      motive (String.ofList (Percent.encode Percent.inPath segment))) (isLast : Bool) :
    ∀ name ∈ (walk.step isLast segment).passed, motive name := by
  rw [step_eq]
  split
  · exact forall_arrive (forall_up names) empty isLast
  · next double =>
    split
    · exact forall_arrive names empty isLast
    · next single =>
      exact List.forall_mem_cons.mpr
        ⟨down (Bool.eq_false_iff.mpr single) (Bool.eq_false_iff.mpr double), names⟩

end Names

theorem passed_step_ne_nil (walk : Walk) (segment : List Char) :
    (walk.step true segment).passed ≠ [] := by
  rw [step_eq]
  split
  · exact List.cons_ne_nil _ _
  split
  · exact List.cons_ne_nil _ _
  · exact List.cons_ne_nil _ _

/-- Following a path leads where each of its steps leads. -/
theorem forall_follow {motive : String → Prop} (step : Walk → Bool → List Char → Walk)
    (segments : List (List Char))
    (steps : ∀ segment ∈ segments, ∀ (walk : Walk) (isLast : Bool),
      (∀ name ∈ walk.passed, motive name) →
        ∀ name ∈ (step walk isLast segment).passed, motive name)
    (walk : Walk) (names : ∀ name ∈ walk.passed, motive name) :
    ∀ name ∈ (walk.follow step segments).passed, motive name := by
  induction segments generalizing walk with
  | nil => exact names
  | cons segment segments ih =>
    obtain ⟨first, rest⟩ := List.forall_mem_cons.mp steps
    exact ih rest _ (first walk _ names)

theorem passed_follow_ne_nil {step : Walk → Bool → List Char → Walk}
    (last : ∀ walk segment, (step walk true segment).passed ≠ []) {segments : List (List Char)}
    (some : segments ≠ []) (walk : Walk) : (walk.follow step segments).passed ≠ [] := by
  induction segments generalizing walk with
  | nil => exact absurd rfl some
  | cons segment segments ih =>
    cases segments with
    | nil => exact last walk segment
    | cons next segments => exact ih (List.cons_ne_nil _ _) _

theorem step_settled {name : String} (settled : UrlPath.Settled special name) (isLast : Bool) :
    walk.step isLast name.toList = { walk with passed := name :: walk.passed } := by
  obtain ⟨single, double⟩ := Bool.or_eq_false_iff.mp settled.plain
  rw [step_eq, double, single, Walk.down, Percent.encode_eq_self settled.free,
    String.ofList_toList]
  rfl

/-- Settled segments are passed one by one. -/
theorem follow_settled {names : List String}
    (settled : ∀ name ∈ names, UrlPath.Settled special name) (walk : Walk) :
    walk.follow Walk.step (names.map String.toList) =
      { walk with passed := names.reverse ++ walk.passed } := by
  induction names generalizing walk with
  | nil => rfl
  | cons name names ih =>
    obtain ⟨here, there⟩ := List.forall_mem_cons.mp settled
    rw [List.map_cons, follow, step_settled here, ih there, List.reverse_cons, List.append_assoc]
    rfl

end Walk

/-! ## Reading -/

/-- The characters of a path of segments. -/
def chars (names : List String) : List Char :=
  names.flatMap fun name => '/' :: name.toList

theorem toList_text (names : List String) : (UrlPath.segments names).text.toList = chars names := by
  change (String.join (names.map ("/" ++ ·))).toList = chars names
  rw [String.toList_join, List.flatMap_map]
  refine List.flatMap_congr fun name _ => ?_
  rw [String.toList_append]
  rfl

theorem chars_append (names others : List String) :
    chars (names ++ others) = chars names ++ chars others :=
  List.flatMap_append

theorem not_isSlash_of_mem_splitSegments {special : Bool} {text : List Char} :
    ∀ segment ∈ splitSegments special text, ∀ c ∈ segment, isSlash special c = false := by
  intro segment found c member
  have free := Text.not_mem_of_mem_splitEach found
  obtain ⟨d, -, same⟩ := List.mem_map.mp (Text.mem_of_mem_splitEach found member)
  split at same
  · exact absurd (same ▸ member) free
  · next other => exact same ▸ Bool.eq_false_iff.mpr other

theorem splitSegments_ne_nil (special : Bool) (text : List Char) :
    splitSegments special text ≠ [] :=
  Text.splitEach_ne_nil _ _

/-- Every path that is read is made of settled segments, one at least. -/
theorem ofText_settled (special : Bool) (text : List Char) :
    ∃ names, ofText special text = .segments names ∧ names ≠ [] ∧
      ∀ name ∈ names, Settled special name := by
  have settled := Walk.forall_follow (motive := Settled special) Walk.step
    (splitSegments special (dropSlash special text))
    (fun segment found walk isLast names =>
      Walk.forall_step names (settled_empty special)
        (settled_encode (not_isSlash_of_mem_splitSegments segment found)) isLast)
    Walk.start (fun _ absent => absurd absent List.not_mem_nil)
  refine ⟨_, rfl, ?_, fun name member => settled name (List.mem_reverse.mp member)⟩
  rw [ne_eq, List.reverse_eq_nil_iff]
  exact Walk.passed_follow_ne_nil Walk.passed_step_ne_nil (splitSegments_ne_nil special _) _

theorem Encoded.not_mem {special : Bool} {name : String} (encoded : Encoded special name) :
    '/' ∉ name.toList := by
  intro member
  have slash := encoded.whole '/' member
  cases slash

theorem splitOn_chars {names : List String} (free : ∀ name ∈ names, '/' ∉ name.toList)
    (first : List Char) (whole : '/' ∉ first) :
    (first ++ chars names).splitOn '/' = first :: names.map String.toList := by
  induction names generalizing first with
  | nil =>
    have nothing : chars [] = [] := rfl
    rw [nothing, List.append_nil, List.splitOn_eq_singleton whole]
    rfl
  | cons name names ih =>
    obtain ⟨here, there⟩ := List.forall_mem_cons.mp free
    have split : chars (name :: names) = '/' :: (name.toList ++ chars names) := rfl
    rw [split, List.splitOn_append_cons_self_of_not_mem whole, ih there _ here, List.map_cons]

/-- Segments are taken apart where they have been put together. -/
theorem splitSegments_chars {special : Bool} {names : List String}
    (encoded : ∀ name ∈ names, Encoded special name) (first : List Char)
    (whole : ∀ c ∈ first, isSlash special c = false) :
    splitSegments special (first ++ chars names) = first :: names.map String.toList := by
  have clean : (first ++ chars names).map (fun c => if isSlash special c then '/' else c) =
      first ++ chars names := by
    have same : ∀ c ∈ first ++ chars names, (if isSlash special c then '/' else c) = c := by
      intro c found
      split
      · next slash =>
        rcases List.mem_append.mp found with early | late
        · rw [whole c early] at slash
          cases slash
        · obtain ⟨name, member, inside⟩ := List.mem_flatMap.mp late
          rcases List.mem_cons.mp inside with rfl | inside
          · rfl
          · rw [(encoded name member).whole c inside] at slash
            cases slash
      · rfl
    rw [List.map_congr_left same, List.map_id']
  have slash : '/' ∉ first := by
    intro member
    have here := whole '/' member
    cases here
  unfold splitSegments
  rw [clean, Text.splitEach_eq_splitOn]
  exact splitOn_chars (fun name member => (encoded name member).not_mem) first slash

/-- A path of settled segments is read as it is written. -/
theorem ofText_chars {special : Bool} {names : List String}
    (settled : ∀ name ∈ names, Settled special name) (some : names ≠ []) :
    ofText special (chars names) = .segments names := by
  cases names with
  | nil => exact absurd rfl some
  | cons name names =>
    obtain ⟨here, there⟩ := List.forall_mem_cons.mp settled
    have dropped : dropSlash special (chars (name :: names)) = name.toList ++ chars names := rfl
    have split : name.toList :: names.map String.toList = (name :: names).map String.toList := rfl
    unfold ofText
    rw [dropped,
      splitSegments_chars (fun name member => (there name member).toEncoded) _ here.whole, split]
    dsimp only
    rw [Walk.follow_settled settled, Walk.start, List.append_nil, List.reverse_reverse]

/-- A point in front of a path is passed. -/
theorem ofText_dot {special : Bool} {names : List String}
    (settled : ∀ name ∈ names, Settled special name) (some : names ≠ []) :
    ofText special ('/' :: '.' :: chars names) = .segments names := by
  have split := splitSegments_chars (fun name member => (settled name member).toEncoded) ['.']
    (List.forall_mem_singleton.mpr (show isSlash special '.' = false by cases special <;> rfl))
  have dropped : dropSlash special ('/' :: '.' :: chars names) = ['.'] ++ chars names := rfl
  have passed : Walk.start.step (names.map String.toList).isEmpty ['.'] = Walk.start := by
    cases names with
    | nil => exact absurd rfl some
    | cons name names => rfl
  unfold ofText
  rw [dropped, split]
  dsimp only
  rw [Walk.follow, passed, Walk.follow_settled settled, Walk.start, List.append_nil,
    List.reverse_reverse]

/-! ## Files -/

/-- Whether a segment names a drive, or begins with one. -/
def beginsDrive (segment : List Char) : Bool :=
  isDrive segment || (splitDrive segment).1.isSome

theorem plain_of_isAlpha {c : Char} (letter : c.isAlpha = true) :
    Percent.inPath c = false ∧ isSlash true c = false := by
  have letters : ∀ n < 128, (Char.ofNat n).isAlpha = true →
      Percent.inPath (Char.ofNat n) = false ∧ isSlash true (Char.ofNat n) = false := by
    decide +kernel
  have small : c.toNat < 128 := by
    unfold Char.isAlpha Char.isUpper Char.isLower at letter
    have value : c.val.toNat = c.toNat := rfl
    simp [UInt32.le_iff_toNat_le] at letter
    omega
  have here := letters c.toNat small
  rw [Char.ofNat_toNat] at here
  exact here letter

theorem encoded_drive {letter : Char} (alpha : letter.isAlpha = true) :
    Encoded true (String.ofList [letter, ':']) := by
  obtain ⟨free, whole⟩ := plain_of_isAlpha alpha
  constructor
  · rw [String.toList_ofList]
    exact List.forall_mem_cons.mpr ⟨free, List.forall_mem_singleton.mpr rfl⟩
  · rw [String.toList_ofList]
    exact List.forall_mem_cons.mpr ⟨whole, List.forall_mem_singleton.mpr rfl⟩

/-- The name of a drive and what stands behind it make up the segment. -/
theorem splitDrive_cases (segment : List Char) :
    splitDrive segment = (none, segment) ∨
      ∃ letter rest, letter.isAlpha = true ∧ segment = letter :: ':' :: rest ∧
        splitDrive segment = (some (String.ofList [letter, ':']), rest) := by
  unfold splitDrive
  split
  · next letter c rest =>
    split
    · next alpha => exact .inr ⟨letter, c :: rest, alpha, rfl, rfl⟩
    · exact .inl rfl
  · exact .inl rfl

namespace Walk

theorem encoded_stepInFiles {walk : Walk} {segment : List Char}
    (whole : ∀ c ∈ segment, isSlash true c = false)
    (names : ∀ name ∈ walk.passed, Encoded true name) (isLast : Bool) :
    ∀ name ∈ (walk.stepInFiles isLast segment).passed, Encoded true name := by
  have onward : ∀ name ∈ (walk.step isLast segment).passed, Encoded true name :=
    forall_step names (encoded_empty true) (fun _ _ => encoded_encode whole) isLast
  unfold stepInFiles
  split
  · exact onward
  split
  · next drive =>
    unfold isDrive at drive
    split at drive
    · next letter sign =>
      rw [Bool.and_eq_true] at drive
      exact List.forall_mem_singleton.mpr (encoded_drive drive.1)
    · cases drive
  · rcases splitDrive_cases segment with drive | ⟨letter, rest, alpha, rfl, drive⟩
    · rw [drive]
      exact onward
    · rw [drive]
      refine List.forall_mem_cons.mpr ⟨?_, List.forall_mem_singleton.mpr (encoded_drive alpha)⟩
      exact encoded_encode fun c member =>
        whole c (List.mem_cons_of_mem _ (List.mem_cons_of_mem _ member))

theorem stepInFiles_eq_step {walk : Walk} {segment : List Char}
    (apart : walk.passed ≠ [] ∨ beginsDrive segment = false) (isLast : Bool) :
    walk.stepInFiles isLast segment = walk.step isLast segment := by
  unfold stepInFiles
  split
  · rfl
  · next first =>
    have plain : beginsDrive segment = false := apart.resolve_left first
    obtain ⟨whole, split⟩ := Bool.or_eq_false_iff.mp plain
    rw [if_neg (Bool.eq_false_iff.mp whole)]
    rcases splitDrive_cases segment with drive | ⟨letter, rest, -, -, drive⟩
    · rw [drive]
    · rw [drive] at split
      cases split

/-- Behind a first segment that is no drive, a file is followed like anything else. -/
theorem follow_stepInFiles {walk : Walk} {names : List String}
    (apart : walk.passed ≠ []) (settled : ∀ name ∈ names, UrlPath.Settled true name) :
    walk.follow stepInFiles (names.map String.toList) =
      walk.follow step (names.map String.toList) := by
  induction names generalizing walk with
  | nil => rfl
  | cons name names ih =>
    obtain ⟨here, there⟩ := List.forall_mem_cons.mp settled
    have passed : (walk.step (names.map String.toList).isEmpty name.toList).passed ≠ [] := by
      rw [step_settled here]
      exact List.cons_ne_nil _ _
    rw [List.map_cons, follow, follow, stepInFiles_eq_step (.inl apart), ih passed there]

end Walk

/-- A path of a file is made of encoded segments, the first of which is not empty unless it is the
only one. -/
theorem ofFileText_encoded (text : List Char) :
    ∃ names, (ofFileText text).1 = .segments names ∧ names ≠ [] ∧
      (names.head? = some "" → names = [""]) ∧ ∀ name ∈ names, Encoded true name := by
  have encoded := Walk.forall_follow (motive := Encoded true) Walk.stepInFiles
    (splitSegments true text)
    (fun segment found walk isLast names =>
      Walk.encoded_stepInFiles (not_isSlash_of_mem_splitSegments segment found) names isLast)
    Walk.start (fun _ absent => absurd absent List.not_mem_nil)
  unfold ofFileText
  generalize Walk.start.follow Walk.stepInFiles (splitSegments true text) = walk at *
  refine ⟨_, rfl, ?_⟩
  cases rest : walk.passed.reverse.dropWhile (· = "") with
  | nil =>
    exact ⟨List.cons_ne_nil _ _, fun _ => rfl, List.forall_mem_singleton.mpr (encoded_empty true)⟩
  | cons name names =>
    have first : name ≠ "" := by
      have head := List.head?_dropWhile_not (· = "") walk.passed.reverse
      rw [rest] at head
      simpa using head
    refine ⟨List.cons_ne_nil _ _, fun empty => absurd (Option.some.inj empty) first, ?_⟩
    intro other member
    have among : other ∈ walk.passed.reverse.dropWhile (· = "") := rest ▸ member
    exact encoded other (List.mem_reverse.mp ((List.dropWhile_sublist _).mem among))

theorem dropWhile_head {name : String} (first : name ≠ "") (names : List String) :
    (name :: names).dropWhile (· = "") = name :: names :=
  List.dropWhile_cons_of_neg (by simpa using first)

/-- The path of a file is read as it is written, from its first slash on. -/
theorem ofFileText_chars {name : String} {names : List String}
    (settled : ∀ other ∈ name :: names, Settled true other) (first : name ≠ "") :
    ofFileText (chars (name :: names)) = (.segments (name :: names), false) := by
  have split := splitSegments_chars (fun other member => (settled other member).toEncoded) []
    (fun _ absent => absurd absent List.not_mem_nil)
  have begun : Walk.start.stepInFiles false [] = ⟨[""], false⟩ :=
    Walk.stepInFiles_eq_step (.inr rfl) false
  have walked : Walk.start.follow Walk.stepInFiles ([] :: (name :: names).map String.toList) =
      ⟨(name :: names).reverse ++ [""], false⟩ := by
    rw [Walk.follow, List.map_cons, List.isEmpty_cons, begun, ← List.map_cons,
      Walk.follow_stepInFiles (List.cons_ne_nil _ _) settled, Walk.follow_settled settled]
  rw [List.nil_append] at split
  unfold ofFileText
  rw [split, walked]
  dsimp only
  rw [List.reverse_append, List.reverse_reverse, List.reverse_singleton, List.singleton_append,
    List.dropWhile_cons_of_pos (by decide), dropWhile_head first]
  rfl

/-- The path of a file is read as it is written, from behind its first slash on, unless it begins
with a drive. -/
theorem ofFileText_dropSlash {name : String} {names : List String}
    (settled : ∀ other ∈ name :: names, Settled true other) (first : name ≠ "")
    (apart : beginsDrive name.toList = false) :
    ofFileText (dropSlash true (chars (name :: names))) = (.segments (name :: names), false) := by
  obtain ⟨here, there⟩ := List.forall_mem_cons.mp settled
  have split :=
    splitSegments_chars (fun other member => (there other member).toEncoded) _ here.whole
  have dropped : dropSlash true (chars (name :: names)) = name.toList ++ chars names := rfl
  have walked : Walk.start.follow Walk.stepInFiles (name.toList :: names.map String.toList) =
      ⟨names.reverse ++ [name], false⟩ := by
    rw [Walk.follow, Walk.stepInFiles_eq_step (.inr apart), Walk.step_settled here,
      Walk.follow_stepInFiles (List.cons_ne_nil _ _) there, Walk.follow_settled there]
    rfl
  unfold ofFileText
  rw [dropped, split, walked]
  dsimp only
  rw [List.reverse_append, List.reverse_reverse, List.reverse_singleton, List.singleton_append,
    dropWhile_head first]
  rfl

end BearerGate.UrlPath
