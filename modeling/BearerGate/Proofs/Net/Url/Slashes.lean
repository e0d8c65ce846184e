import BearerGate.Proofs.Net.Url.Path
import BearerGate.Text.Blank
import Mathlib.Data.List.DropRight

/-!
# Slashes at the end of a path

Slashes at the end of a path are its last empty segments: without the slashes it is the path of the
other segments (`UrlPath.dropSlashes_segments`). What stands in front of a path stays as it is,
unless the path is made of nothing but slashes (`UrlPath.dropSlashes_chars`).
-/

namespace BearerGate.UrlPath

/-- The characters without slashes at their end. -/
def dropSlashes (cs : List Char) : List Char :=
  cs.rdropWhile (· = '/')

/-- The segments without empty ones at their end. -/
def trimmed (names : List String) : List String :=
  names.rdropWhile (· = "")

theorem toList_dropTrailingSlashes (text : String) :
    (Text.dropTrailingSlashes text).toList = dropSlashes text.toList :=
  String.toList_ofList

/-! ## Characters -/

theorem dropSlashes_concat_slash (cs : List Char) : dropSlashes (cs ++ ['/']) = dropSlashes cs :=
  List.rdropWhile_concat_pos _ _ _ rfl

/-- A text that ends in another character ends in no slashes. -/
theorem dropSlashes_append_of_getLast? {cs : List Char} (front : List Char) {c : Char}
    (last : cs.getLast? = some c) (other : c ≠ '/') : dropSlashes (front ++ cs) = front ++ cs := by
  obtain ⟨rest, rfl⟩ := List.getLast?_eq_some_iff.mp last
  rw [← List.append_assoc]
  exact List.rdropWhile_concat_neg _ _ _ (by simpa using other)

theorem dropSlashes_append_of_not_mem {cs : List Char} (front : List Char) (filled : cs ≠ [])
    (free : '/' ∉ cs) : dropSlashes (front ++ cs) = front ++ cs :=
  dropSlashes_append_of_getLast? front (List.getLast?_eq_some_getLast filled)
    fun slash => free (slash ▸ List.getLast_mem filled)

/-- The slashes behind a scheme are left out if nothing follows them. -/
theorem dropSlashes_append_slashes (scheme : List Char) :
    dropSlashes (scheme ++ [':', '/', '/']) = scheme ++ [':'] := by
  have slashes : scheme ++ [':', '/', '/'] = (scheme ++ [':']) ++ ['/'] ++ ['/'] := by simp
  rw [slashes, dropSlashes_concat_slash, dropSlashes_concat_slash,
    dropSlashes_append_of_not_mem scheme (List.cons_ne_nil _ _) (by decide)]

/-- Where something is left of a text, what stands in front of it is left. -/
theorem dropSlashes_append_of_ne {cs : List Char} (front : List Char) (some : dropSlashes cs ≠ []) :
    dropSlashes (front ++ cs) = front ++ dropSlashes cs := by
  have left : (cs.reverse.dropWhile (· = '/')).isEmpty = false := by
    cases rest : cs.reverse.dropWhile (· = '/') with
    | nil => exact absurd (congrArg List.reverse rest) some
    | cons c more => rfl
  unfold dropSlashes List.rdropWhile
  rw [List.reverse_append, List.dropWhile_append, left, if_neg (by decide), List.reverse_append,
    List.reverse_reverse]

theorem mem_of_mem_dropSlashes {cs : List Char} {c : Char} (found : c ∈ dropSlashes cs) : c ∈ cs :=
  have kept : dropSlashes cs <+: cs := List.rdropWhile_prefix _ _
  kept.mem found

/-- A text that does not begin with a slash keeps its first character. -/
theorem head?_dropSlashes {cs : List Char} (first : cs.head? ≠ some '/') :
    (dropSlashes cs).head? = cs.head? := by
  cases cs with
  | nil => rfl
  | cons c rest =>
    obtain ⟨more, whole⟩ : dropSlashes (c :: rest) <+: c :: rest := List.rdropWhile_prefix _ _
    cases kept : dropSlashes (c :: rest) with
    | nil =>
      have slash := List.rdropWhile_eq_nil_iff.mp kept c List.mem_cons_self
      exact absurd (congrArg some (of_decide_eq_true slash)) first
    | cons d others =>
      rw [kept] at whole
      rw [List.head?_cons, (List.cons.inj whole).1]
      rfl

/-! ## Segments -/

theorem trimmed_concat_empty (names : List String) : trimmed (names ++ [""]) = trimmed names :=
  List.rdropWhile_concat_pos _ _ _ rfl

theorem trimmed_concat {name : String} (filled : name ≠ "") (names : List String) :
    trimmed (names ++ [name]) = names ++ [name] :=
  List.rdropWhile_concat_neg _ _ _ (by simpa using filled)

theorem trimmed_isPrefixOf (names : List String) : trimmed names <+: names :=
  List.rdropWhile_prefix _ _

theorem mem_of_mem_trimmed {names : List String} {name : String} (found : name ∈ trimmed names) :
    name ∈ names :=
  (trimmed_isPrefixOf names).mem found

theorem head?_of_head?_trimmed {names : List String} {name : String}
    (first : (trimmed names).head? = some name) : names.head? = some name := by
  obtain ⟨others, split⟩ := List.head?_eq_some_iff.mp first
  obtain ⟨more, whole⟩ := trimmed_isPrefixOf names
  rw [← whole, split]
  rfl

/-- Slashes at the end of a path are its last empty segments. If it has no other segments, slashes
in front of it go as well. -/
theorem dropSlashes_chars {names : List String} (free : ∀ name ∈ names, '/' ∉ name.toList)
    (front : List Char) :
    dropSlashes (front ++ chars names) =
      if trimmed names = [] then dropSlashes front else front ++ chars (trimmed names) := by
  induction names using List.reverseRecOn with
  | nil =>
    have nothing : front ++ chars [] = front := List.append_nil front
    rw [nothing]
    exact (if_pos rfl).symm
  | append_singleton names name ih =>
    obtain ⟨there, here⟩ := List.forall_mem_append.mp free
    by_cases empty : name = ""
    · subst empty
      have slash : front ++ chars (names ++ [""]) = (front ++ chars names) ++ ['/'] := by
        rw [chars_append, List.append_assoc]
        rfl
      rw [slash, dropSlashes_concat_slash, trimmed_concat_empty, ih there]
    · have filled : name.toList ≠ [] := fun nothing => empty (String.toList_eq_nil_iff.mp nothing)
      have whole : front ++ chars (names ++ [name]) =
          (front ++ chars names ++ ['/']) ++ name.toList := by
        rw [chars_append, List.append_assoc, List.append_assoc]
        simp [chars]
      rw [trimmed_concat empty, if_neg (by simp), whole,
        dropSlashes_append_of_not_mem _ filled (here name List.mem_cons_self)]

theorem dropSlashes_segments {names : List String} (free : ∀ name ∈ names, '/' ∉ name.toList) :
    dropSlashes (chars names) = chars (trimmed names) := by
  have dropped := dropSlashes_chars free []
  rw [List.nil_append, List.nil_append] at dropped
  rw [dropped]
  split
  · next empty =>
    rw [empty]
    rfl
  · rfl

end BearerGate.UrlPath
