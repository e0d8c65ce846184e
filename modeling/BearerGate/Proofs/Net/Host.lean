import BearerGate.Net.Host
import BearerGate.Net.Url.Path
import BearerGate.Proofs.Net.Domain
import BearerGate.Proofs.Net.Ip
import BearerGate.Proofs.Net.Percent

/-!
# Hosts are read as they are written

The host of an address is an internet address, a domain, or a name that is taken as it is
(`Host.Kept`). No character of it ends what holds user, host and port (`Host.Kept.inHost`), and read
again it is the same host (`Host.parse_text`, `Host.parseOpaque_text`). Of a domain this is so if it
is plain; a domain in another script has to stand for itself in the form that servers exchange.
-/

namespace BearerGate

theorem Text.Utf8.chars?_map_some (cs : List Char) : chars? (cs.map some) = some cs := by
  induction cs with
  | nil => rfl
  | cons c cs ih =>
    rw [List.map_cons, chars?, ih]
    rfl

namespace Host

/-! ## Domains that are not encoded -/

theorem domainInAscii?_eq_self {name : List Char} (allowed : ∀ c ∈ name, Domain.Allowed c)
    (settled : Domain.inAscii? name = some name) :
    domainInAscii? (Percent.decode (name.flatMap Text.Utf8.encodeChar)) = some name := by
  have free : ∀ b ∈ name.flatMap Text.Utf8.encodeChar, b ≠ 0x25 := by
    rintro b found rfl
    obtain ⟨c, member, byte⟩ := List.mem_flatMap.mp found
    obtain rfl : c = '%' := Percent.eq_of_mem_encodeChar byte (by decide)
    exact absurd (allowed _ member).2 (by decide)
  have decoded := Text.Utf8.decode_encode (String.ofList name)
  unfold Text.Utf8.encode at decoded
  rw [String.toList_ofList] at decoded
  unfold domainInAscii?
  rw [Percent.decode_eq_self free, decoded, Text.Utf8.chars?_map_some]
  exact settled

/-! ## Addresses of the fourth version -/

/-- The characters of an internet address with four parts. -/
theorem plain_v4 : ∀ c ∈ '.' :: (List.range 10).map Nat.digitChar,
    Domain.Allowed c ∧ c.isUpper = false ∧ c ≠ 'x' ∧ c ≠ '[' :=
  List.all_iff_forall_prop.mp (by decide)

theorem plain_of_mem_v4 {address : Ipv4} {c : Char} (found : c ∈ address.text.toList) :
    Domain.Allowed c ∧ c.isUpper = false ∧ c ≠ 'x' ∧ c ≠ '[' := by
  refine plain_v4 c ?_
  rcases Ipv4.mem_text found with rfl | ⟨d, bound, rfl⟩
  · exact List.mem_cons_self
  · exact List.mem_cons_of_mem _ (List.mem_map_of_mem (List.mem_range.mpr bound))

theorem isPlain_v4 (address : Ipv4) : Domain.isPlain address.text.toList = true := by
  unfold Domain.isPlain
  rw [Bool.and_eq_true, List.all_eq_true, List.all_eq_true]
  constructor
  · intro c found
    rw [(plain_of_mem_v4 found).2.1]
    rfl
  · intro label part
    cases label with
    | nil => rfl
    | cons c label =>
      have other : 'x' ≠ c := fun same =>
        (plain_of_mem_v4 (Text.mem_of_mem_splitEach part List.mem_cons_self)).2.2.1 same.symm
      rw [Domain.encodedMark, Text.stripLead, if_neg other]
      rfl

theorem numberPart?_toDigits (n : Nat) : numberPart? (Nat.toDigits 10 n) = some n := by
  have decimal : numberTo? 10 (Nat.toDigits 10 n) = some n := by
    unfold numberTo?
    rw [Text.mapM_digit? (by decide) (by decide), Option.map_some,
      Text.ofDigits_values (by decide) (by decide)]
  rcases Nat.eq_zero_or_pos n with rfl | positive
  · rfl
  · have first := Text.head?_toDigits_ne positive
    obtain ⟨c, digits, split⟩ := List.exists_cons_of_ne_nil (Nat.toDigits_ne_nil (n := n) (b := 10))
    rw [split] at first decimal ⊢
    have other : c ≠ '0' := fun same => first (congrArg some same)
    unfold numberPart?
    split <;> simp_all

theorem dot_notMem_toDigits (n : Nat) : '.' ∉ Nat.toDigits 10 n := by
  intro found
  have digit : Text.digit? 10 '.' = some (Text.valueOf '.') :=
    Text.digit?_of_mem_toDigits (by decide) (by decide) found
  cases digit

theorem domainParts_v4 {address : Ipv4} {a b c d : Nat} (parts : address.parts = [a, b, c, d]) :
    domainParts address.text.toList = [a, b, c, d].map (Nat.toDigits 10) := by
  have split : Text.splitEach '.' address.text.toList = [a, b, c, d].map (Nat.toDigits 10) := by
    rw [Ipv4.toList_text parts, Text.splitEach_eq_splitOn,
      List.splitOn_append_cons_self_of_not_mem (dot_notMem_toDigits a),
      List.splitOn_append_cons_self_of_not_mem (dot_notMem_toDigits b),
      List.splitOn_append_cons_self_of_not_mem (dot_notMem_toDigits c),
      List.splitOn_eq_singleton (dot_notMem_toDigits d)]
    rfl
  have last : ([a, b, c, d].map (Nat.toDigits 10)).getLast? ≠ some [] := by
    simp [Nat.toDigits_ne_nil]
  unfold domainParts
  rw [split, if_neg last]

theorem endsInNumber_v4 (address : Ipv4) : endsInNumber address.text.toList = true := by
  obtain ⟨a, b, c, d, parts, -⟩ := address.exists_parts
  unfold endsInNumber
  rw [domainParts_v4 parts]
  have last : ([a, b, c, d].map (Nat.toDigits 10)).getLast? = some (Nat.toDigits 10 d) := rfl
  rw [last]
  dsimp only
  rw [numberPart?_toDigits, Option.isSome_some, Bool.or_true]

theorem ipv4?_text (address : Ipv4) : ipv4? address.text.toList = some address := by
  obtain ⟨a, b, c, d, parts, ha, hb, hc, hd, value⟩ := address.exists_parts
  have numbers : ([a, b, c, d].map (Nat.toDigits 10)).mapM numberPart? = some [a, b, c, d] := by
    simp only [List.map_cons, List.map_nil, List.mapM_cons, List.mapM_nil, numberPart?_toDigits]
    rfl
  have fits : ¬ ([a, b, c, d].length > 4 ∨ d ≥ Nat.pow 256 (4 - [a, b, c].length) ∨
      ([a, b, c].any (· > 255)) = true) := by
    simp
    omega
  have sum : Text.ofDigits 256 ([a, b, c] ++ List.replicate (4 - [a, b, c].length) 0) + d =
      address.value.toNat := by
    simp [Text.ofDigits]
    omega
  unfold ipv4?
  rw [domainParts_v4 parts, numbers, Option.bind_some]
  refine (if_neg fits).trans ?_
  change some (Ipv4.mk (UInt32.ofNat (Text.ofDigits 256
    ([a, b, c] ++ List.replicate (4 - [a, b, c].length) 0) + d))) = some address
  rw [sum, UInt32.ofNat_toNat]

/-! ## Hosts that are kept -/

/-- A host as it is kept, of an address with a well-known scheme or of another. -/
inductive Kept : (special : Bool) → Host → Prop
  | v4 (address : Ipv4) : Kept true (.v4 address)
  | v6 (special : Bool) (address : Ipv6) : Kept special (.v6 address)
  | domain {name : List Char} (filled : name ≠ []) (allowed : ∀ c ∈ name, Domain.Allowed c)
    (unnumbered : endsInNumber name = false) : Kept true (.name (String.ofList name))
  | taken {name : List Char} (plain : ∀ c ∈ name, Percent.isControl c = false)
    (allowed : ∀ c ∈ name, isForbiddenOpaque c = false) : Kept false (.name (String.ofList name))

theorem exists_of_bracketed {text : List Char} {host : Host} (read : bracketed text = .ok host) :
    ∃ address, host = .v6 address := by
  unfold bracketed at read
  split at read
  · split at read
    · next address _ =>
      cases read
      exact ⟨address, rfl⟩
    · cases read
  · cases read

theorem kept_of_parse {text : List Char} {host : Host} (read : parse text = .ok host) :
    Kept true host := by
  unfold parse at read
  split at read
  · obtain ⟨address, rfl⟩ := exists_of_bracketed read
    exact .v6 true address
  split at read
  · cases read
  · cases read
  · next domain filled accepted =>
    obtain ⟨glyphs, -, accepted⟩ := Option.bind_eq_some_iff.mp accepted
    split at read
    · split at read
      · next address _ =>
        cases read
        exact .v4 address
      · cases read
    · next unnumbered =>
      cases read
      exact .domain (fun nothing => filled nothing) (Domain.allowed_of_inAscii? accepted)
        (Bool.eq_false_iff.mpr unnumbered)

theorem isForbiddenOpaque_byteChars : ∀ c ∈ Percent.byteChars, isForbiddenOpaque c = false :=
  List.all_iff_forall_prop.mp (by decide)

theorem kept_of_parseOpaque {text : List Char} {host : Host} (read : parseOpaque text = .ok host) :
    Kept false host ∧ (host = .name "" ↔ text = []) := by
  unfold parseOpaque at read
  split at read
  · next bracket =>
    obtain ⟨address, rfl⟩ := exists_of_bracketed read
    refine ⟨.v6 false address, nofun, ?_⟩
    rintro rfl
    cases bracket
  split at read
  · cases read
  · next accepted =>
    cases read
    rw [Bool.not_eq_true, List.any_eq_false] at accepted
    constructor
    · refine .taken (fun c found => Percent.set_of_mem_encode Percent.isControl_spares found) ?_
      intro c found
      rcases Percent.mem_encode found with ⟨member, -⟩ | byte
      · exact Bool.eq_false_iff.mpr (accepted c member)
      · exact isForbiddenOpaque_byteChars c byte
    · rw [Host.name.injEq, String.ofList_eq_empty_iff, Percent.encode_eq_nil_iff]

/-! ## The characters of a host -/

/-- A character that ends neither the user in front of a host nor the host. -/
def InHost (c : Char) : Prop :=
  Percent.isControl c = false ∧ c ∉ ['/', '\\', '?', '#', '@']

instance (c : Char) : Decidable (InHost c) :=
  inferInstanceAs (Decidable (_ ∧ _))

/-- A character that stands in the name of a host. -/
def InName (c : Char) : Prop :=
  InHost c ∧ c ∉ [':', '[', '|']

instance (c : Char) : Decidable (InName c) :=
  inferInstanceAs (Decidable (_ ∧ _))

theorem inName_of_allowed {c : Char} (allowed : Domain.Allowed c) : InName c := by
  have each : ∀ n < 128, Domain.isForbidden (Char.ofNat n) = false → InName (Char.ofNat n) := by
    decide +kernel
  have here := each c.toNat allowed.1
  rw [Char.ofNat_toNat] at here
  exact here allowed.2

theorem inName_of_taken {c : Char} (plain : Percent.isControl c = false)
    (allowed : isForbiddenOpaque c = false) : InName c := by
  have each : ∀ d ∈ ['/', '\\', '?', '#', '@'] ++ [':', '[', '|'], isForbiddenOpaque d = true :=
    List.all_eq_true.mp (by decide)
  have other : c ∉ ['/', '\\', '?', '#', '@'] ++ [':', '[', '|'] := by
    intro member
    rw [each c member] at allowed
    cases allowed
  rw [List.mem_append, not_or] at other
  exact ⟨⟨plain, other.1⟩, other.2⟩

theorem inHost_v6 : ∀ c ∈ ':' :: (List.range 16).map Nat.digitChar,
    InHost c ∧ c ∉ ['[', ']'] :=
  List.all_iff_forall_prop.mp (by decide)

theorem inHost_of_mem_v6 {address : Ipv6} {c : Char} (found : c ∈ address.text.toList) :
    InHost c ∧ c ∉ ['[', ']'] := by
  refine inHost_v6 c ?_
  rcases Ipv6.mem_text found with rfl | ⟨d, bound, rfl⟩
  · exact List.mem_cons_self
  · exact List.mem_cons_of_mem _ (List.mem_map_of_mem (List.mem_range.mpr bound))

theorem toList_text_v6 (address : Ipv6) :
    (Host.v6 address).text.toList = '[' :: (address.text.toList ++ [']']) := by
  change ("[" ++ address.text ++ "]").toList = _
  rw [String.toList_append, String.toList_append]
  rfl

/-- A host is written in brackets, or as a name. -/
theorem Kept.text_cases {special : Bool} {host : Host} (kept : Kept special host) :
    (∃ address, host = .v6 address) ∨ ∀ c ∈ host.text.toList, InName c := by
  cases kept with
  | v4 address => exact .inr fun c found => inName_of_allowed (plain_of_mem_v4 found).1
  | v6 special address => exact .inl ⟨address, rfl⟩
  | domain _ allowed _ =>
    refine .inr fun c found => inName_of_allowed (allowed c ?_)
    rwa [Host.text, String.toList_ofList] at found
  | taken plain allowed =>
    refine .inr fun c found => ?_
    rw [Host.text, String.toList_ofList] at found
    exact inName_of_taken (plain c found) (allowed c found)

theorem Kept.inHost {special : Bool} {host : Host} (kept : Kept special host) :
    ∀ c ∈ host.text.toList, InHost c := by
  rcases kept.text_cases with ⟨address, rfl⟩ | name
  · intro c found
    rw [toList_text_v6, List.mem_cons, List.mem_append, List.mem_singleton] at found
    rcases found with rfl | inside | rfl
    · decide
    · exact (inHost_of_mem_v6 inside).1
    · decide
  · exact fun c found => (name c found).1

theorem v4_ne_nil (address : Ipv4) : address.text.toList ≠ [] := by
  obtain ⟨a, b, c, d, parts, -⟩ := address.exists_parts
  rw [Ipv4.toList_text parts]
  simp

/-- The host of an address with a well-known scheme has a name. -/
theorem Kept.text_ne_nil {host : Host} (kept : Kept true host) : host.text.toList ≠ [] := by
  cases kept with
  | v4 address => exact v4_ne_nil address
  | v6 _ address =>
    rw [toList_text_v6]
    exact List.cons_ne_nil _ _
  | domain filled _ _ => rwa [Host.text, String.toList_ofList]

theorem Kept.eq_unnamed {special : Bool} {host : Host} (kept : Kept special host)
    (empty : host.text.toList = []) : host = .name "" := by
  cases kept with
  | v4 address => exact absurd empty (v4_ne_nil address)
  | v6 _ address =>
    rw [toList_text_v6] at empty
    cases empty
  | domain _ _ _ => rw [← String.toList_eq_nil_iff.mp empty, Host.text]
  | taken _ _ => rw [← String.toList_eq_nil_iff.mp empty, Host.text]

/-- No host is written like a drive. -/
theorem Kept.isDrive_eq_false {special : Bool} {host : Host} (kept : Kept special host) :
    UrlPath.isDrive host.text.toList = false := by
  unfold UrlPath.isDrive
  split
  · next letter sign text =>
    rcases kept.text_cases with ⟨address, rfl⟩ | name
    · rw [toList_text_v6] at text
      rw [← (List.cons.inj text).1]
      rfl
    · have sign := (name sign (text ▸ by simp)).2
      simp at sign
      simp [sign]
  · rfl

/-! ## Reading -/

theorem bracketed_text (address : Ipv6) :
    bracketed ('[' :: (address.text.toList ++ [']'])) = .ok (.v6 address) := by
  have last : ('[' :: (address.text.toList ++ [']'])).getLast? = some ']' := by
    rw [← List.cons_append, List.getLast?_concat]
  unfold bracketed
  rw [last]
  simp only
  rw [List.drop_succ_cons, List.drop_zero, List.dropLast_concat, Ipv6.parse?_text]

/-- A domain that stands for itself in the form that servers exchange. -/
def StandsForItself : Host → Prop
  | .name domain => Domain.inAscii? domain.toList = some domain.toList
  | .v4 _ | .v6 _ => True

/-- Whether the host is a domain with capital letters or with labels in another script. -/
def isForeign : Host → Bool
  | .name domain => !Domain.isPlain domain.toList
  | .v4 _ | .v6 _ => false

/-- A domain that stands for itself is no other host, unless it ends in a number. -/
theorem parse_of_settled {name : List Char} (filled : name ≠ [])
    (allowed : ∀ c ∈ name, Domain.Allowed c) (settled : Domain.inAscii? name = some name) :
    parse name =
      if endsInNumber name then
        match ipv4? name with
        | some address => .ok (.v4 address)
        | none => .error .ipv4
      else .ok (.name (String.ofList name)) := by
  have first : name.head? ≠ some '[' := by
    intro bracket
    exact (inName_of_allowed (allowed _ (List.mem_of_head? bracket))).2 (by decide)
  unfold parse
  rw [if_neg first, domainInAscii?_eq_self allowed settled]
  cases name with
  | nil => exact absurd rfl filled
  | cons c name => rfl

/-- The host of an address with a well-known scheme is read as it is written. -/
theorem parse_text {host : Host} (kept : Kept true host)
    (foreign : host.isForeign = true → host.StandsForItself) :
    parse host.text.toList = .ok host := by
  cases kept with
  | v6 _ address =>
    rw [toList_text_v6]
    exact bracketed_text address
  | v4 address =>
    have allowed : ∀ c ∈ address.text.toList, Domain.Allowed c :=
      fun c found => (plain_of_mem_v4 found).1
    have settled := Domain.inAscii?_of_isPlain (fun c found => (allowed c found).1)
      (fun c found => (allowed c found).2) (isPlain_v4 address)
    rw [Host.text, parse_of_settled (v4_ne_nil address) allowed settled,
      if_pos (endsInNumber_v4 address), ipv4?_text]
  | @domain name filled allowed unnumbered =>
    have settled : Domain.inAscii? name = some name := by
      cases plain : Domain.isPlain name with
      | true =>
        exact Domain.inAscii?_of_isPlain (fun c found => (allowed c found).1)
          (fun c found => (allowed c found).2) plain
      | false =>
        have stands := foreign (by rw [isForeign, String.toList_ofList, plain]; rfl)
        rwa [StandsForItself, String.toList_ofList] at stands
    rw [Host.text, String.toList_ofList, parse_of_settled filled allowed settled,
      if_neg (Bool.eq_false_iff.mp unnumbered)]

/-- The host of any other address is read as it is written. -/
theorem parseOpaque_text {host : Host} (kept : Kept false host) :
    parseOpaque host.text.toList = .ok host := by
  cases kept with
  | v6 _ address =>
    rw [toList_text_v6]
    exact bracketed_text address
  | @taken name plain allowed =>
    have first : name.head? ≠ some '[' := by
      intro bracket
      have bad := allowed _ (List.mem_of_head? bracket)
      cases bad
    have free : name.any isForbiddenOpaque = false := by
      rw [List.any_eq_false]
      exact fun c found => Bool.eq_false_iff.mp (allowed c found)
    unfold parseOpaque
    rw [Host.text, String.toList_ofList, if_neg first, if_neg (Bool.eq_false_iff.mp free),
      Percent.encode_eq_self plain]

end Host

end BearerGate
